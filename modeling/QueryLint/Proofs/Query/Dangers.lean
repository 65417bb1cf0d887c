import QueryLint.Proofs.Query.Conditions
import QueryLint.Proofs.Query.Marks

/-!
# Dangerous statements

Words tell whether rows are changed or read, and whether there is a limit to that.  A change is
reported at the first word that stands for one, under the name of the keyword in capital letters,
whatever case the word is written in.  The marks of injected text are told from the characters,
wherever they stand: the first mark of each kind is reported, and how far it reaches.

* `IsMutationReport`, `IsReadReport`: what is to be reported because of the words.
* `IsSafetyReport`: what is to be reported about a query, in order.
* `isSafetyReport_iff`, `check_safety`: this is what is reported.
-/

namespace QueryLint.Query

open Text
open Schema (Model)

/-! ## What is to be reported -/

/-- The keywords that change rows, and what the change is called. -/
def mutations : List (String × String) := [("delete", "DELETE"), ("update", "UPDATE")]

/-- A change of rows without WHERE is reported at the first word that stands for a change. -/
inductive IsMutationReport (query : List Char) : List Finding → Prop
  | unfiltered {front word after : List Char} {keyword operation : String}
      (hfirst : IsFirstRun (fun _ word _ => IsOneOf ["delete", "update"] word)
        query front word after)
      (hmutation : (keyword, operation) ∈ mutations) (hword : IsOneOf [keyword] word)
      (hwhere : ¬HasKeyword "where" query) :
      IsMutationReport query [.unfilteredMutation operation (.ofParts front word)]
  | harmless (h : HasNoRun (fun _ word _ => IsOneOf ["delete", "update"] word) query ∨
      HasKeyword "where" query) : IsMutationReport query []

/-- A read without LIMIT is reported. -/
inductive IsReadReport (query : List Char) : List Finding → Prop
  | unbounded (hselect : HasKeyword "select" query) (hlimit : ¬HasKeyword "limit" query) :
      IsReadReport query [.unboundedSelect]
  | harmless (h : ¬HasKeyword "select" query ∨ HasKeyword "limit" query) : IsReadReport query []

/-- What is to be reported about dangers of a query, in this order. -/
inductive IsSafetyReport (query : List Char) : List Finding → Prop
  | mk {mutation read : List Finding} {drop comment tautology : Option Span}
      (hmutation : IsMutationReport query mutation) (hread : IsReadReport query read)
      (hdrop : IsFirstSpan (fun _ => IsDropMark) query drop)
      (hcomment : IsFirstSpan (fun _ => IsCommentMark) query comment)
      (htautology : IsFirstSpan (fun _ part _ => IsTautology part) query tautology) :
      IsSafetyReport query (mutation ++ read ++ (drop.map Finding.injectedDrop).toList ++
        (comment.map Finding.injectedComment).toList ++
        (tautology.map Finding.injectedTautology).toList)

/-! ## Words -/

section Words

variable {query : List Char} {keywords : List String}

theorem firstOf?_eq (keywords : List String) (ws : List Word) :
    firstOf? keywords ws = (firstWord? (fun w _ => w.isOneOf keywords) ws).map Prod.fst := by
  induction ws with
  | nil => rfl
  | cons w ws ih =>
    rw [firstOf?, List.find?_cons, firstWord?]
    by_cases hw : w.isOneOf keywords = true
    · rw [if_pos hw, hw]
      rfl
    · rw [if_neg hw, ← ih, Bool.eq_false_of_not_eq_true hw]
      rfl

/-- The first of the words that are keywords is the first run that is one. -/
theorem firstOf?_spec (keywords : List String) (query : List Char) :
    match firstOf? keywords (wordsOf query) with
    | some w => ∃ front after, IsFirstRun (fun _ word _ => IsOneOf keywords word)
        query front w.text after ∧ w.span = .ofParts front w.text
    | none => HasNoRun (fun _ word _ => IsOneOf keywords word) query := by
  have hfirst := @firstWord?_wordsOf (fun word _ => IsOneOf keywords word)
    (fun w _ => w.isOneOf keywords) (fun _ => isOneOf_iff.symm) query
  rw [firstOf?_eq]
  cases hword : firstWord? (fun w _ => w.isOneOf keywords) (wordsOf query) with
  | none =>
    simp only [hword] at hfirst
    exact hfirst
  | some found =>
    simp only [hword] at hfirst
    obtain ⟨front, gap, hfirst, hfollow⟩ := hfirst
    refine ⟨front ++ gap, _, hfirst, ?_⟩
    rw [Word.span, hfollow.start_eq, Span.ofParts]

/-- What a change is called is the keyword in capital letters. -/
theorem ofList_map_toUpper_eq {word : List Char} {keyword operation : String}
    (hmutation : (keyword, operation) ∈ mutations) (hword : IsOneOf [keyword] word) :
    String.ofList (word.map Char.toUpper) = operation := by
  have hplain : ∀ p ∈ mutations, p.1.toList.all (· ∉ threefold) := by decide
  have hname : ∀ p ∈ mutations, String.ofList (p.1.toList.map Char.toUpper) = p.2 := by decide
  obtain ⟨s, hs, hfold⟩ := hword
  obtain rfl := List.mem_singleton.1 hs
  rw [map_toUpper_eq_of_map_foldChar (hplain _ hmutation) hfold]
  exact hname _ hmutation

theorem exists_mem_mutations {word : List Char} (h : IsOneOf ["delete", "update"] word) :
    ∃ p ∈ mutations, IsOneOf [p.1] word := by
  obtain ⟨s, hs, hfold⟩ := h
  have hall : ∀ s ∈ ["delete", "update"], ∃ p ∈ mutations, p.1 = s := by decide
  obtain ⟨p, hp, rfl⟩ := hall s hs
  exact ⟨p, hp, p.1, List.mem_singleton_self _, hfold⟩

theorem isMutationReport_mutationFinding? (query : List Char) :
    IsMutationReport query (mutationFinding? (wordsOf query)).toList := by
  have hspec := firstOf?_spec ["delete", "update"] query
  rw [mutationFinding?]
  cases hfirst : firstOf? ["delete", "update"] (wordsOf query) with
  | none =>
    simp only [hfirst] at hspec
    exact .harmless (Or.inl hspec)
  | some w =>
    simp only [hfirst] at hspec
    obtain ⟨front, after, hrun, hspan⟩ := hspec
    by_cases hwhere : (wordsOf query).any (·.is "where") = true
    · simp only [if_pos hwhere]
      exact .harmless (Or.inr (any_is_iff.1 hwhere))
    · obtain ⟨⟨keyword, operation⟩, hmutation, hword⟩ := exists_mem_mutations hrun.holds
      simp only [if_neg hwhere, ofList_map_toUpper_eq hmutation hword, hspan]
      exact .unfiltered hrun hmutation hword (mt any_is_iff.2 hwhere)

theorem IsMutationReport.unique {found found' : List Finding} (h : IsMutationReport query found)
    (h' : IsMutationReport query found') : found = found' := by
  cases h with
  | unfiltered hfirst hmutation hword hwhere =>
    cases h' with
    | unfiltered hfirst' hmutation' hword' _ =>
      obtain ⟨rfl, rfl⟩ := hfirst.unique hfirst'
      rw [← ofList_map_toUpper_eq hmutation hword, ← ofList_map_toUpper_eq hmutation' hword']
    | harmless hnot =>
      rcases hnot with hnone | hhas
      · exact absurd hfirst.holds (hnone _ _ _ hfirst.eq_append hfirst.isRun)
      · exact absurd hhas hwhere
  | harmless hnot =>
    cases h' with
    | unfiltered hfirst _ _ hwhere =>
      rcases hnot with hnone | hhas
      · exact absurd hfirst.holds (hnone _ _ _ hfirst.eq_append hfirst.isRun)
      · exact absurd hhas hwhere
    | harmless => rfl

theorem isReadReport_iff {found : List Finding} : IsReadReport query found ↔
    found = if (wordsOf query).any (·.is "select") && !(wordsOf query).any (·.is "limit")
      then [.unboundedSelect] else [] := by
  have hread : ((wordsOf query).any (·.is "select") && !(wordsOf query).any (·.is "limit")) = true ↔
      HasKeyword "select" query ∧ ¬HasKeyword "limit" query := by
    rw [Bool.and_eq_true, Bool.not_eq_true', ← Bool.not_eq_true, any_is_iff, any_is_iff]
  constructor
  · intro h
    cases h with
    | unbounded hselect hlimit => rw [if_pos (hread.2 ⟨hselect, hlimit⟩)]
    | harmless hnot =>
      have hboth : ¬(HasKeyword "select" query ∧ ¬HasKeyword "limit" query) := by
        rwa [not_and_or, not_not]
      rw [if_neg (mt hread.1 hboth)]
  · rintro rfl
    by_cases h : HasKeyword "select" query ∧ ¬HasKeyword "limit" query
    · rw [if_pos (hread.2 h)]
      exact .unbounded h.1 h.2
    · rw [if_neg (mt hread.1 h)]
      exact .harmless ((not_and_or.1 h).imp_right not_not.1)

end Words

/-! ## What is reported -/

/-- The kinds of findings about dangers. -/
def safetyKinds : List DiagnosticKind :=
  [.unfilteredMutation, .unboundedSelect, .injectedDrop, .injectedComment, .injectedTautology]

theorem mem_safetyKinds_iff (k : DiagnosticKind) : k ∈ safetyKinds ↔ k.code ∈ Pass.safety.codes := by
  cases k <;> decide

/-- What is to be reported is what the pass finds. -/
theorem isSafetyReport_iff {query : List Char} {found : List Finding} :
    IsSafetyReport query found ↔ found = safetyFindings query := by
  constructor
  · rintro ⟨hmutation, hread, hdrop, hcomment, htautology⟩
    rw [safetyFindings, hmutation.unique (isMutationReport_mutationFinding? query),
      isReadReport_iff.1 hread, scansFor_dropSpan?.eq_iff.1 hdrop,
      scansFor_commentSpan?.eq_iff.1 hcomment, scansFor_tautologySpan?.eq_iff.1 htautology]
  · rintro rfl
    exact .mk (isMutationReport_mutationFinding? query) (isReadReport_iff.2 rfl)
      (scansFor_dropSpan?.eq_iff.2 rfl) (scansFor_commentSpan?.eq_iff.2 rfl)
      (scansFor_tautologySpan?.eq_iff.2 rfl)

theorem map_kind_toList_sublist (finding : Span → Finding) {k : DiagnosticKind}
    (h : ∀ s, (finding s).kind = k) (o : Option Span) :
    ((o.map finding).toList.map Finding.kind).Sublist [k] := by
  cases o with
  | none => exact List.nil_sublist _
  | some s =>
    rw [Option.map_some, Option.toList_some, List.map_singleton, h s]

/-- Each kind is reported at most once, and the kinds come in this order. -/
theorem IsSafetyReport.kinds_sublist {query : List Char} {found : List Finding}
    (h : IsSafetyReport query found) : (found.map Finding.kind).Sublist safetyKinds := by
  cases h with
  | @mk mutation read drop comment tautology hmutation hread =>
    have hmutation : (mutation.map Finding.kind).Sublist [.unfilteredMutation] := by
      cases hmutation with
      | unfiltered => exact List.Sublist.refl _
      | harmless => exact List.nil_sublist _
    have hread : (read.map Finding.kind).Sublist [.unboundedSelect] := by
      cases hread with
      | unbounded => exact List.Sublist.refl _
      | harmless => exact List.nil_sublist _
    have hdrop : ((drop.map Finding.injectedDrop).toList.map Finding.kind).Sublist
        [.injectedDrop] := map_kind_toList_sublist .injectedDrop (fun _ => rfl) drop
    have hcomment : ((comment.map Finding.injectedComment).toList.map Finding.kind).Sublist
        [.injectedComment] := map_kind_toList_sublist .injectedComment (fun _ => rfl) comment
    have htautology : ((tautology.map Finding.injectedTautology).toList.map Finding.kind).Sublist
        [.injectedTautology] := map_kind_toList_sublist .injectedTautology (fun _ => rfl) tautology
    simp only [List.map_append]
    exact (((hmutation.append hread).append hdrop).append hcomment).append htautology

/-- There is one report about dangers of the trimmed query, and the complaints about dangers are
made of it. -/
theorem check_safety (query : String) :
    ∃ found : List Finding,
      (∀ found', IsSafetyReport (trim query.toList) found' ↔ found' = found) ∧
      (found.map Finding.kind).Sublist safetyKinds ∧
      ∀ schema : Option Model,
        (check schema query).filter (fun d => d.kind ∈ safetyKinds) =
          found.map fun f => f.diagnostic.shifted (byteSize (blankPrefix query.toList)) := by
  refine ⟨safetyFindings (trim query.toList), fun _ => isSafetyReport_iff,
    (isSafetyReport_iff.2 rfl).kinds_sublist, fun schema => ?_⟩
  rw [filter_check_mem_kinds .safety mem_safetyKinds_iff]
  rfl

/-- A word that contains a keyword is none, and marks count wherever they stand. -/
example : safetyFindings "SELECT limit_x;\n drop ' or '1'= '1---".toList =
    [.unboundedSelect, .injectedDrop ⟨14, 7⟩, .injectedComment ⟨35, 2⟩,
      .injectedTautology ⟨22, 12⟩] := by decide +kernel

end QueryLint.Query
