import Mathlib.Data.Nat.Find
import QueryLint.Proofs.Text.Trimming
import QueryLint.Text.Bytes

/-!
# The first part of some kind

A text can be split into three in many ways: something in front, a part, and what is left behind it.
`IsFirstPart` says of such a split that the part is of some kind and that no part of this kind
begins farther in front.

A scan moves through a text by one character at a time until a part of the kind begins where it is.
What is needed of it is said for one place (`ScansFor`); it follows that the scan comes to a stop at
the first part (`ScansFor.eq_iff`).

* `IsFirstPart`, `HasNoPart`: the first part of some kind, or none.
* `IsFirstSpan`: the bytes of the first part, if there is one.
* `ScansFor`: what a scan does at one place.
-/

namespace QueryLint.Text

variable {M : List Char → List Char → List Char → Prop} {cs rest front part after : List Char}

/-- Of the parts of a text for which `M` holds this is the first. -/
structure IsFirstPart (M : List Char → List Char → List Char → Prop)
    (cs front part after : List Char) : Prop where
  eq_append : cs = front ++ (part ++ after)
  holds : M front part after
  length_le : ∀ front' part' after', cs = front' ++ (part' ++ after') → M front' part' after' →
    front.length ≤ front'.length

/-- There is no part of a text for which `M` holds. -/
def HasNoPart (M : List Char → List Char → List Char → Prop) (cs : List Char) : Prop :=
  ∀ front part after, cs = front ++ (part ++ after) → ¬M front part after

/-- If there is a part of some kind, there is a first one. -/
theorem exists_isFirstPart (h : ¬HasNoPart M cs) :
    ∃ front part after, IsFirstPart M cs front part after := by
  classical
  have hlength : ∃ n, ∃ front part after, cs = front ++ (part ++ after) ∧ M front part after ∧
      front.length = n := by
    simp only [HasNoPart, not_forall, not_not] at h
    obtain ⟨front, part, after, heq, hM⟩ := h
    exact ⟨_, front, part, after, heq, hM, rfl⟩
  obtain ⟨front, part, after, heq, hM, hn⟩ := Nat.find_spec hlength
  refine ⟨front, part, after, heq, hM, fun front' part' after' heq' hM' => ?_⟩
  rw [hn]
  exact Nat.find_min' hlength ⟨front', part', after', heq', hM', rfl⟩

/-- The place of the first part is settled, if not how far it reaches. -/
theorem IsFirstPart.front_eq {front' part' after' : List Char}
    (h : IsFirstPart M cs front part after) (h' : IsFirstPart M cs front' part' after') :
    front = front' ∧ part ++ after = part' ++ after' := by
  have hlength : front.length = front'.length :=
    Nat.le_antisymm (h.length_le _ _ _ h'.eq_append h'.holds)
      (h'.length_le _ _ _ h.eq_append h.holds)
  exact List.append_inj (h.eq_append.symm.trans h'.eq_append) hlength

/-- The bytes of the first part for which `M` holds, if there is one. -/
inductive IsFirstSpan (M : List Char → List Char → List Char → Prop) (cs : List Char) :
    Option Span → Prop
  | found {front part after : List Char} (h : IsFirstPart M cs front part after) :
      IsFirstSpan M cs (some (.ofParts front part))
  | missing (h : HasNoPart M cs) : IsFirstSpan M cs none

/-! ## Scans -/

/-- From offset `pos` on, `scan` looks for a part of some kind: it stops where such a part begins,
and moves on by a character where none does. -/
structure ScansFor (scan : Nat → List Char → Option Span) (M : List Char → List Char → Prop) :
    Prop where
  nil : ∀ pos, scan pos [] = none
  stop : ∀ {part after}, M part after → ∀ pos, scan pos (part ++ after) = some ⟨pos, byteSize part⟩
  move : ∀ {c cs}, (∀ part after, c :: cs = part ++ after → ¬M part after) →
    ∀ pos, scan pos (c :: cs) = scan (pos + c.utf8Size) cs

namespace ScansFor

variable {scan : Nat → List Char → Option Span} {M : List Char → List Char → Prop}

/-- A scan passes over everything in front of the first part. -/
theorem pass (h : ScansFor scan M) (pos : Nat)
    (hfront : ∀ front' part after, front ++ rest = front' ++ (part ++ after) → M part after →
      front.length ≤ front'.length) :
    scan pos (front ++ rest) = scan (pos + byteSize front) rest := by
  induction front generalizing pos with
  | nil => rfl
  | cons c cs ih =>
    have hnone : ∀ part after, c :: (cs ++ rest) = part ++ after → ¬M part after := by
      intro part after heq hM
      have hle := hfront [] part after heq hM
      exact absurd hle (Nat.not_succ_le_zero _)
    rw [List.cons_append, h.move hnone, byteSize_cons, ← Nat.add_assoc]
    refine ih _ fun front' part after heq hM => ?_
    exact Nat.le_of_succ_le_succ (hfront (c :: front') part after (congrArg (c :: ·) heq) hM)

/-- A scan stops at the first part. -/
theorem eq_of_isFirstPart (h : ScansFor scan M) (pos : Nat)
    (hfirst : IsFirstPart (fun _ => M) cs front part after) :
    scan pos cs = some ⟨pos + byteSize front, byteSize part⟩ := by
  obtain ⟨rfl, hM, hfront⟩ := hfirst
  rw [h.pass pos hfront, h.stop hM]

/-- Where there is no such part, a scan goes through everything. -/
theorem eq_none (h : ScansFor scan M) (pos : Nat) (hnone : HasNoPart (fun _ => M) cs) :
    scan pos cs = none := by
  have hpass : scan pos (cs ++ []) = scan (pos + byteSize cs) [] := by
    refine h.pass pos fun front part after heq hM => absurd hM (hnone front part after ?_)
    rw [← heq, List.append_nil]
  rwa [List.append_nil, h.nil] at hpass

theorem exists_of_eq_some {s : Span} (h : ScansFor scan M) (hs : scan 0 cs = some s) :
    ∃ front part after, IsFirstPart (fun _ => M) cs front part after ∧
      s = .ofParts front part := by
  by_cases hnone : HasNoPart (fun _ => M) cs
  · rw [h.eq_none 0 hnone] at hs
    cases hs
  · obtain ⟨front, part, after, hfirst⟩ := exists_isFirstPart hnone
    rw [h.eq_of_isFirstPart 0 hfirst, Nat.zero_add] at hs
    exact ⟨front, part, after, hfirst, (Option.some.inj hs).symm⟩

/-- A scan leads to the bytes of the first part. -/
theorem eq_iff {s : Option Span} (h : ScansFor scan M) :
    IsFirstSpan (fun _ => M) cs s ↔ s = scan 0 cs := by
  constructor
  · intro hs
    cases hs with
    | found hfirst => rw [h.eq_of_isFirstPart 0 hfirst, Nat.zero_add, Span.ofParts]
    | missing hnone => rw [h.eq_none 0 hnone]
  · rintro rfl
    cases hs : scan 0 cs with
    | none =>
      refine .missing ?_
      by_contra hpart
      obtain ⟨front, part, after, hfirst⟩ := exists_isFirstPart hpart
      cases hs.symm.trans (h.eq_of_isFirstPart 0 hfirst)
    | some s =>
      obtain ⟨front, part, after, hfirst, rfl⟩ := h.exists_of_eq_some hs
      exact .found hfirst

section Sign

variable {x : Char} (hx : ∀ {part after}, M part after → part.head? = some x)

include hx

/-- Where the sign that the parts begin with is missing, there is no such part. -/
theorem eq_none_of_notMem (h : ScansFor scan M) (hcs : x ∉ cs) (pos : Nat) : scan pos cs = none := by
  refine h.eq_none pos fun front part after heq hM => hcs ?_
  rw [heq]
  exact List.mem_append_right _ (List.mem_append_left _ (List.mem_of_mem_head? (hx hM)))

/-- White space is passed over. -/
theorem blanks_append {bs : List Char} (h : ScansFor scan M) (hblank : isBlank x = false)
    (hb : IsBlankText bs) (pos : Nat) (cs : List Char) :
    scan pos (bs ++ cs) = scan (pos + byteSize bs) cs := by
  refine h.pass pos fun front part after heq hM => ?_
  rcases List.append_eq_append_iff.1 heq with ⟨mid, rfl, -⟩ | ⟨back, rfl, hback⟩
  · rw [List.length_append]
    exact Nat.le_add_right _ _
  · cases back with
    | nil => rw [List.append_nil]
    | cons c back =>
      -- the part would begin within the white space
      obtain ⟨part, rfl⟩ := List.head?_eq_some_iff.1 (hx hM)
      obtain ⟨rfl, -⟩ := List.cons.inj hback
      rw [hb x (by simp)] at hblank
      cases hblank

end Sign

end ScansFor

end QueryLint.Text
