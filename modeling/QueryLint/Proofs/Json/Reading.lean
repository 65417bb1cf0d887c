import QueryLint.Proofs.Json.Mapping
import QueryLint.Proofs.Json.Spelling

/-!
# Reading what is spelled

A reader that is given a text for a value gives the value, however the text is written and whatever
stands around it.  Of an object, each member takes what has been read so far one step further.

* `Reader.Reads`: what a reader gives for a text.
* `reads_readString`, `reads_readBool`, `reads_optional_readString`: values without parts.
* `TakesMembers`, `yields_members`: objects, member by member.
* `reads_readMap`, `Record.reads_read`: objects with any keys, and with fields.
-/

namespace QueryLint.Json

variable {α β σ : Type}

/-! ## White space -/

theorem skip_space {w : List Char} (hw : IsSpace w) (s : List Char) : skip (w ++ s) = skip s :=
  List.dropWhile_append_of_pos hw

/-- White space ends at the first character that is none. -/
theorem skip_space_cons {w : List Char} {c : Char} (hw : IsSpace w) (hc : isJsonBlank c = false)
    (s : List Char) : skip (w ++ c :: s) = c :: s := by
  rw [skip_space hw, skip, List.dropWhile_cons_of_neg (by simp [hc])]

/-- What may stand behind a value. -/
def Delimited (rest : List Char) : Prop :=
  ∀ c ∈ rest.head?, isJsonBlank c = true ∨ c = ',' ∨ c = ']' ∨ c = '\x7d'

namespace Reader

variable {f : Reader α} {s rest : List Char} {a : α}

theorem Yields.map (φ : α → β) (h : f.Yields s a rest) : (φ <$> f).Yields s (φ a) rest := by
  obtain ⟨hbound, hf⟩ := h
  exact ⟨hbound, by rw [map_apply, hf]; rfl⟩

/-- The reader gives `a` for the text `t`, whatever stands around it. -/
def Reads (f : Reader α) (t : List Char) (a : α) : Prop :=
  ∀ w rest, IsSpace w → Delimited rest → f.Yields (w ++ (t ++ rest)) a rest

theorem Reads.bind_pure {t : List Char} (h : f.Reads t a) (φ : α → β) :
    (f >>= fun a => pure (φ a)).Reads t (φ a) :=
  fun w rest hw hrest => (h w rest hw hrest).bind (.pure _ _)

end Reader

theorem yields_wordTail (ws rest : List Char) : (wordTail ws).Yields (ws ++ rest) () rest := by
  induction ws with
  | nil => exact .pure () rest
  | cons w ws ih =>
    obtain ⟨hbound, hword⟩ := ih
    refine ⟨Nat.le_trans hbound (Nat.le_succ _), ?_⟩
    show wordTail (w :: ws) (w :: (ws ++ rest)) = _
    simp only [wordTail, if_true, hword]
    rfl

theorem yields_colon {w : List Char} (hw : IsSpace w) (rest : List Char) :
    colon.Yields (w ++ ':' :: rest) () rest := by
  have hskip := skip_space_cons (c := ':') hw rfl rest
  refine ⟨length_le_of_skip hskip, ?_⟩
  rw [colon]
  split
  next h =>
    rw [hskip] at h
    cases h
    rfl
  next h => rw [hskip] at h; cases h
  next h _ => exact (h _ hskip).elim

/-! ## Strings -/

theorem yields_hexQuad {a b c d : Char} {n : Nat} (h : hexNumber? a b c d = some n)
    (rest : List Char) : (hexQuad).Yields (a :: b :: c :: d :: rest) n rest := by
  refine ⟨by simp; omega, ?_⟩
  rw [hexQuad, h]
  rfl

theorem escapeLetter?_of_mem {l c : Char} (h : (l, c) ∈ escapeLetters) :
    escapeLetter? l = some c ∧ l ≠ 'u' := by
  have hall : ∀ p ∈ escapeLetters, escapeLetter? p.1 = some p.2 ∧ p.1 ≠ 'u' := by decide
  exact hall _ h

theorem yields_escaped_letter {l c : Char} (h : (l, c) ∈ escapeLetters) (rest : List Char) :
    escaped.Yields (l :: rest) c rest := by
  obtain ⟨hletter, hu⟩ := escapeLetter?_of_mem h
  refine ⟨Nat.le_succ _, ?_⟩
  simp only [escaped, if_neg hu, hletter]
  rfl

theorem yields_escaped_unicode {c : Char} {s rest : List Char}
    (h : unicodeEscape.Yields s c rest) : escaped.Yields ('u' :: s) c rest := by
  obtain ⟨hbound, hc⟩ := h
  refine ⟨Nat.le_succ_of_le hbound, ?_⟩
  simp only [escaped, if_true, hc]
  rfl

/-- A character is not one half of another one. -/
theorem not_isHalf_toNat (c : Char) : isLowHalf c.toNat = false ∧ isHighHalf c.toNat = false := by
  have hvalid : c.toNat < 0xD800 ∨ 0xDFFF < c.toNat ∧ c.toNat < 0x110000 := c.valid
  simp only [isLowHalf, isHighHalf, Bool.and_eq_false_iff, decide_eq_false_iff_not]
  omega

theorem yields_unicodeEscape_unit {c a₁ a₂ a₃ a₄ : Char}
    (h : hexNumber? a₁ a₂ a₃ a₄ = some c.toNat) (rest : List Char) :
    unicodeEscape.Yields (a₁ :: a₂ :: a₃ :: a₄ :: rest) c rest := by
  obtain ⟨hlow, hhigh⟩ := not_isHalf_toNat c
  refine (yields_hexQuad h rest).bind ?_
  rw [hlow, hhigh, if_neg Bool.false_ne_true, if_neg Bool.false_ne_true, Char.ofNat_toNat]
  exact .pure c rest

theorem yields_pairMark (mark : Char) (rest : List Char) :
    (pairMark mark).Yields (mark :: rest) () rest :=
  ⟨Nat.le_succ _, by simp only [pairMark, if_true]; rfl⟩

theorem yields_unicodeEscape_pair {c a₁ a₂ a₃ a₄ b₁ b₂ b₃ b₄ : Char} {high low : Nat}
    (ha : hexNumber? a₁ a₂ a₃ a₄ = some (0xD800 + high))
    (hb : hexNumber? b₁ b₂ b₃ b₄ = some (0xDC00 + low)) (hhigh : high < 0x400)
    (hlow : low < 0x400) (hc : c.toNat = 0x10000 + high * 0x400 + low) (rest : List Char) :
    unicodeEscape.Yields
      (a₁ :: a₂ :: a₃ :: a₄ :: '\\' :: 'u' :: b₁ :: b₂ :: b₃ :: b₄ :: rest) c rest := by
  have hfirst : isLowHalf (0xD800 + high) = false ∧ isHighHalf (0xD800 + high) = true := by
    simp only [isLowHalf, isHighHalf, Bool.and_eq_false_iff, Bool.and_eq_true,
      decide_eq_false_iff_not, decide_eq_true_eq]
    omega
  have hsecond : isLowHalf (0xDC00 + low) = true := by
    simp only [isLowHalf, Bool.and_eq_true, decide_eq_true_eq]
    omega
  have hjoin : joinHalves (0xD800 + high) (0xDC00 + low) = c := by
    have hsum : (0xD800 + high - 0xD800) * 0x400 + (0xDC00 + low - 0xDC00) + 0x10000 =
        c.toNat := by
      omega
    rw [joinHalves, hsum, Char.ofNat_toNat]
  refine (yields_hexQuad ha _).bind ?_
  rw [hfirst.1, hfirst.2, if_neg Bool.false_ne_true, if_pos rfl]
  refine (yields_pairMark '\\' _).bind ((yields_pairMark 'u' _).bind ?_)
  refine (yields_hexQuad hb _).bind ?_
  rw [if_pos hsecond, hjoin]
  exact .pure c rest

section StringBody

variable {c : Char} {cs s s' rest : List Char}

theorem yields_stringBody_end (rest : List Char) :
    Reader.Yields stringBody ('"' :: rest) [] rest :=
  ⟨Nat.le_succ _, by rw [stringBody, if_pos rfl]; rfl⟩

theorem yields_stringBody_plain (hquote : c ≠ '"') (hbackslash : c ≠ '\\')
    (hcontrol : 0x20 ≤ c.toNat) (h : Reader.Yields stringBody s cs rest) :
    Reader.Yields stringBody (c :: s) (c :: cs) rest := by
  obtain ⟨hbound, hbody⟩ := h
  refine ⟨Nat.le_succ_of_le hbound, ?_⟩
  rw [stringBody, if_neg hquote, if_neg hbackslash, if_neg (Nat.not_lt.2 hcontrol), hbody]
  rfl

theorem yields_stringBody_escaped (hc : escaped.Yields s c s')
    (h : Reader.Yields stringBody s' cs rest) :
    Reader.Yields stringBody ('\\' :: s) (c :: cs) rest := by
  obtain ⟨hescaped, hc⟩ := hc
  obtain ⟨hbound, hbody⟩ := h
  refine ⟨Nat.le_succ_of_le (Nat.le_trans hbound hescaped), ?_⟩
  rw [stringBody, if_neg (by decide), if_pos rfl, hc]
  simp only [hbody]
  rfl

/-- A character is read back from each of its texts. -/
theorem yields_stringBody_of_spellsChar {u : List Char} (hu : SpellsChar c u)
    (h : Reader.Yields stringBody s cs rest) :
    Reader.Yields stringBody (u ++ s) (c :: cs) rest := by
  cases hu with
  | plain hquote hbackslash hcontrol =>
    exact yields_stringBody_plain hquote hbackslash hcontrol h
  | letter hl => exact yields_stringBody_escaped (yields_escaped_letter hl s) h
  | unit hn =>
    exact yields_stringBody_escaped (yields_escaped_unicode (yields_unicodeEscape_unit hn s)) h
  | pair ha hb hhigh hlow hc =>
    exact yields_stringBody_escaped
      (yields_escaped_unicode (yields_unicodeEscape_pair ha hb hhigh hlow hc s)) h

/-- The characters of a string are read back from their texts. -/
theorem yields_stringBody {parts : List (List Char)} (h : List.Forall₂ SpellsChar cs parts)
    (rest : List Char) :
    Reader.Yields stringBody (parts.flatten ++ '"' :: rest) cs rest := by
  induction h with
  | nil => exact yields_stringBody_end rest
  | cons hc _ ih =>
    rw [List.flatten_cons, List.append_assoc]
    exact yields_stringBody_of_spellsChar hc ih

end StringBody

/-! ## Values by their first character -/

theorem yields_readBy {expected : String} {choose : Char → Option (Reader α)} {f : Reader α}
    {c : Char} {s cs rest : List Char} {a : α} (hs : skip s = c :: cs) (hc : choose c = some f)
    (hf : f.Yields cs a rest) : (readBy expected choose).Yields s a rest := by
  obtain ⟨hbound, hf⟩ := hf
  refine ⟨Nat.le_trans hbound (length_le_of_skip hs), ?_⟩
  rw [readBy]
  split
  next h => rw [hs] at h; cases h
  next h =>
    rw [hs] at h
    cases h
    simp only [hc, hf]
    rfl

theorem reads_readBy {expected : String} {choose : Char → Option (Reader α)} {f : Reader α}
    {c : Char} {body : List Char} {a : α} (hblank : isJsonBlank c = false)
    (hc : choose c = some f) (hf : ∀ rest, Delimited rest → f.Yields (body ++ rest) a rest) :
    (readBy expected choose).Reads (c :: body) a := by
  intro w rest hw hrest
  exact yields_readBy (skip_space_cons hw hblank (body ++ rest)) hc (hf rest hrest)

theorem reads_readString {s : String} {t : List Char} (h : SpellsString s t) :
    readString.Reads t s := by
  obtain ⟨parts, hparts, rfl⟩ := h
  refine reads_readBy rfl rfl fun rest _ => ?_
  have hbody := (yields_stringBody hparts rest).map String.ofList
  rw [String.ofList_toList] at hbody
  rwa [List.append_assoc]

theorem reads_readBool {b : Bool} {t : List Char} (h : Spells (.bool b) t) :
    readBool.Reads t b := by
  cases h with
  | true => exact reads_readBy rfl rfl fun rest _ => (yields_wordTail ['r', 'u', 'e'] rest).map _
  | false =>
    exact reads_readBy rfl rfl fun rest _ => (yields_wordTail ['a', 'l', 's', 'e'] rest).map _

theorem reads_optional_null (f : Reader α) : (optional f).Reads ['n', 'u', 'l', 'l'] none := by
  intro w rest hw hrest
  have hskip := skip_space_cons (c := 'n') hw rfl (['u', 'l', 'l'] ++ rest)
  obtain ⟨hbound, hword⟩ := yields_wordTail ['u', 'l', 'l'] rest
  refine ⟨Nat.le_trans hbound (length_le_of_skip hskip), ?_⟩
  rw [optional]
  split
  next h =>
    rw [List.cons_append, hskip] at h
    cases h
    rw [hword]
    rfl
  next h => exact (h _ hskip).elim

theorem reads_optional_some {f : Reader α} {c : Char} {body : List Char} {a : α}
    (hblank : isJsonBlank c = false) (hc : c ≠ 'n') (h : f.Reads (c :: body) a) :
    (optional f).Reads (c :: body) (some a) := by
  intro w rest hw hrest
  obtain ⟨hbound, hf⟩ := h w rest hw hrest
  refine ⟨hbound, ?_⟩
  rw [optional]
  split
  next h =>
    rw [List.cons_append, skip_space_cons hw hblank] at h
    cases h
    exact absurd rfl hc
  next => rw [hf]; rfl

theorem reads_optional_readString {o : Option String} {t : List Char}
    (h : Spells (optionalString o) t) : (optional readString).Reads t o := by
  cases o with
  | none =>
    cases h with
    | null => exact reads_optional_null readString
  | some s =>
    cases h with
    | string h =>
      have hs := reads_readString h
      obtain ⟨parts, -, rfl⟩ := h
      exact reads_optional_some rfl (by decide) hs

/-! ## Objects -/

theorem yields_nextKey_end (first : Bool) {w : List Char} (hw : IsSpace w) (rest : List Char) :
    (nextKey first).Yields (w ++ [Bracket.object.closing] ++ rest) false rest := by
  rw [List.append_assoc, List.singleton_append]
  have hskip := skip_space_cons (c := Bracket.object.closing) hw rfl rest
  refine ⟨length_le_of_skip hskip, ?_⟩
  rw [nextKey]
  split
  next h => rw [hskip] at h; cases h
  next h =>
    rw [hskip] at h
    cases h
    rfl

theorem yields_nextKey_first {w : List Char} (hw : IsSpace w) (rest : List Char) :
    (nextKey true).Yields (w ++ '"' :: rest) true rest := by
  have hskip := skip_space_cons (c := '"') hw rfl rest
  refine ⟨length_le_of_skip hskip, ?_⟩
  rw [nextKey]
  split
  next h => rw [hskip] at h; cases h
  next h =>
    rw [hskip] at h
    cases h
    rfl

theorem yields_nextKey_behind {w w' : List Char} (hw : IsSpace w) (hw' : IsSpace w')
    (rest : List Char) : (nextKey false).Yields (w ++ ',' :: (w' ++ '"' :: rest)) true rest := by
  have hskip := skip_space_cons (c := ',') hw rfl (w' ++ '"' :: rest)
  have hskip' := skip_space_cons (c := '"') hw' rfl rest
  refine ⟨Nat.le_trans (length_le_of_skip hskip') (length_le_of_skip hskip), ?_⟩
  rw [nextKey]
  split
  next h => rw [hskip] at h; cases h
  next h =>
    rw [hskip] at h
    cases h
    rw [if_neg (by decide), if_neg Bool.false_ne_true, if_pos rfl]
    split
    next h => rw [hskip'] at h; cases h
    next h =>
      rw [hskip'] at h
      cases h
      rfl

section Members

variable {member : σ → String → Reader σ} {V : β → List Char → Prop} {acc acc' : σ}

/-- Behind the key of `m`, a colon and any text of its value take the result so far from `acc` to
`acc'`. -/
def TakesMember (member : σ → String → Reader σ) (V : β → List Char → Prop) (acc : σ)
    (m : String × β) (acc' : σ) : Prop :=
  ∀ w w' v rest, IsSpace w → IsSpace w' → V m.2 v → Delimited rest →
    (member acc m.1).Yields (w ++ ':' :: (w' ++ (v ++ rest))) acc' rest

/-- The members in order take the result so far from one to another. -/
inductive TakesMembers (member : σ → String → Reader σ) (V : β → List Char → Prop) :
    σ → List (String × β) → σ → Prop
  | nil (acc : σ) : TakesMembers member V acc [] acc
  | cons {acc acc' acc'' : σ} {m : String × β} {ms : List (String × β)}
      (hm : TakesMember member V acc m acc') (h : TakesMembers member V acc' ms acc'') :
      TakesMembers member V acc (m :: ms) acc''

/-- Members that each change what has been read by `step` lead to where all these steps lead. -/
theorem takesMembers_foldl {step : σ → String × β → σ} {ms : List (String × β)}
    (h : ∀ m ∈ ms, ∀ acc, TakesMember member V acc m (step acc m)) (acc : σ) :
    TakesMembers member V acc ms (ms.foldl step acc) := by
  induction ms generalizing acc with
  | nil => exact .nil acc
  | cons m ms ih =>
    exact .cons (h m List.mem_cons_self acc)
      (ih (fun m' hm' => h m' (List.mem_cons_of_mem m hm')) (step acc m))

theorem delimited_space_cons {w : List Char} {c : Char} (hw : IsSpace w)
    (hc : c = ',' ∨ c = ']' ∨ c = '\x7d') (rest : List Char) : Delimited (w ++ c :: rest) := by
  intro d hd
  cases w with
  | nil =>
    obtain rfl : c = d := by simpa using hd
    exact Or.inr hc
  | cons e w =>
    obtain rfl : e = d := by simpa using hd
    exact Or.inl (hw e List.mem_cons_self)

theorem ListedRest.delimited {b : Bracket} {E : α → List Char → Prop} {as : List α}
    {t : List Char} (h : ListedRest b E as t) (rest : List Char) : Delimited (t ++ rest) := by
  cases h with
  | close hw =>
    rw [List.append_assoc]
    exact delimited_space_cons hw (by cases b <;> simp [Bracket.closing]) rest
  | more hw =>
    rw [List.append_assoc]
    exact delimited_space_cons hw (Or.inl rfl) _

theorem MemberText.exists_eq_quote {m : String × β} {u : List Char}
    (h : MemberText SpellsString V m u) : ∃ u', u = '"' :: u' := by
  obtain ⟨⟨parts, -, rfl⟩, -, -, -⟩ := h
  exact ⟨_, rfl⟩

/-- Behind the opening quote of its key a member is read, and then the others. -/
theorem readMembers_of_member {T s u rest : List Char} {first : Bool} {m : String × β}
    (hu : MemberText SpellsString V m ('"' :: u)) (hkey : (nextKey first).Yields s true (u ++ rest))
    (hm : TakesMember member V acc m acc') (hrest : Delimited rest) (bound : s.length ≤ T.length) :
    ∃ bound', readMembers member first acc s bound =
      readMembers member false acc' rest bound' := by
  generalize hx : '"' :: u = x at hu
  obtain @⟨_, w, w', v, hk, hw, hw', hv⟩ := hu
  obtain ⟨parts, hparts, rfl⟩ := hk
  have hsplit : u ++ rest = parts.flatten ++ '"' :: (w ++ ':' :: (w' ++ (v ++ rest))) := by
    obtain ⟨-, rfl⟩ := List.cons.inj hx
    simp
  rw [hsplit] at hkey
  obtain ⟨hnext, hkey⟩ := hkey
  obtain ⟨hbody, hname⟩ := yields_stringBody hparts (w ++ ':' :: (w' ++ (v ++ rest)))
  obtain ⟨hmember, hvalue⟩ := hm w w' v rest hw hw' hv hrest
  refine ⟨Nat.le_trans hmember (Nat.le_trans hbody (Nat.le_trans hnext bound)), ?_⟩
  rw [readMembers_of_key hkey, hname]
  simp only [Except.bind, String.ofList_toList, hvalue]

theorem readMembers_of_end {T s rest : List Char} {first : Bool}
    (hkey : (nextKey first).Yields s false rest) (bound : s.length ≤ T.length) :
    ∃ bound', readMembers member first acc s bound = .ok ⟨acc, rest, bound'⟩ := by
  obtain ⟨hnext, hkey⟩ := hkey
  refine ⟨Nat.le_trans hnext bound, ?_⟩
  rw [readMembers]
  split
  next h => rw [hkey] at h; cases h
  next h =>
    rw [hkey] at h
    cases h
    rfl
  next h => rw [hkey] at h; cases h

theorem readMembers_listedRest {ms : List (String × β)} {t : List Char}
    (h : ListedRest .object (MemberText SpellsString V) ms t)
    (hms : TakesMembers member V acc ms acc') {T : List Char} (rest : List Char)
    (bound : (t ++ rest).length ≤ T.length) :
    ∃ bound', readMembers member false acc (t ++ rest) bound = .ok ⟨acc', rest, bound'⟩ := by
  induction h generalizing acc with
  | @close w hw =>
    cases hms
    exact readMembers_of_end (yields_nextKey_end false hw rest) bound
  | @more m ms w w' u t hw hw' hu h ih =>
    cases hms with
    | cons hm hms =>
      obtain ⟨u, rfl⟩ := hu.exists_eq_quote
      have hkey := yields_nextKey_behind hw hw' (u ++ (t ++ rest))
      have hsplit : w ++ ',' :: (w' ++ ('"' :: u ++ t)) ++ rest =
          w ++ ',' :: (w' ++ '"' :: (u ++ (t ++ rest))) := by simp
      rw [← hsplit] at hkey
      obtain ⟨bound', hfirst⟩ := readMembers_of_member hu hkey hm (h.delimited rest) bound
      rw [hfirst]
      exact ih hms bound'

/-- The members of an object are taken in order. -/
theorem yields_members {ms : List (String × β)} {body : List Char}
    (h : Listed .object (MemberText SpellsString V) ms ('\x7b' :: body))
    (hms : TakesMembers member V acc ms acc') (rest : List Char) :
    (members member acc).Yields (body ++ rest) acc' rest := by
  generalize hx : '\x7b' :: body = x at h
  show ∃ bound, readMembers member true acc (body ++ rest) _ = .ok ⟨acc', rest, bound⟩
  cases h with
  | @nil w hw =>
    obtain ⟨-, rfl⟩ := List.cons.inj hx
    cases hms
    exact readMembers_of_end (yields_nextKey_end true hw rest) _
  | @cons m ms w u t hw hu h =>
    obtain ⟨-, rfl⟩ := List.cons.inj hx
    cases hms with
    | cons hm hms =>
      obtain ⟨u, rfl⟩ := hu.exists_eq_quote
      have hkey := yields_nextKey_first hw (u ++ (t ++ rest))
      have hsplit : w ++ ('"' :: u ++ t) ++ rest = w ++ '"' :: (u ++ (t ++ rest)) := by simp
      rw [← hsplit] at hkey
      obtain ⟨bound', hfirst⟩ := readMembers_of_member hu hkey hm (h.delimited rest)
        (Text.length_le_self _)
      rw [hfirst]
      exact readMembers_listedRest h hms rest bound'

end Members

theorem Listed.exists_eq_opening {b : Bracket} {E : α → List Char → Prop} {as : List α}
    {t : List Char} (h : Listed b E as t) : ∃ body, t = b.opening :: body := by
  cases h with
  | nil => exact ⟨_, rfl⟩
  | cons => exact ⟨_, rfl⟩

section Maps

variable {V : β → List Char → Prop} {item : Reader α} {value : β → α}

theorem takesMember_mapMember {m : String × β} (hm : ∀ v, V m.2 v → item.Reads v (value m.2))
    (acc : OrderedMap α) :
    TakesMember (mapMember item) V acc m (acc.insert m.1 (value m.2)) := by
  intro w w' v rest hw hw' hv hrest
  exact (yields_colon hw _).bind ((hm v hv w' rest hw' hrest).bind (.pure _ _))

theorem takesMembers_mapMember {ms : List (String × β)}
    (hms : ∀ m ∈ ms, ∀ v, V m.2 v → item.Reads v (value m.2)) (acc : OrderedMap α) :
    TakesMembers (mapMember item) V acc ms
      ((ms.map fun m => (m.1, value m.2)).foldl (fun acc e => acc.insert e.1 e.2) acc) := by
  rw [List.foldl_map]
  exact takesMembers_foldl (fun m hm acc => takesMember_mapMember (hms m hm) acc) acc

/-- A map is read from the texts of its pairs. -/
theorem reads_readMap {ms : List (String × β)} {t : List Char}
    (h : Listed .object (MemberText SpellsString V) ms t)
    (hms : ∀ m ∈ ms, ∀ v, V m.2 v → item.Reads v (value m.2)) :
    (readMap item).Reads t (.ofList (ms.map fun m => (m.1, value m.2))) := by
  obtain ⟨body, rfl⟩ := h.exists_eq_opening
  exact reads_readBy rfl rfl fun rest _ => yields_members h (takesMembers_mapMember hms .empty) rest

end Maps

namespace Record

variable {δ : Type} {r : Record δ α} {V : β → List Char → Prop} {draft draft' : δ}
  {m : String × β} {f : RecordField δ}

/-- A known field goes into a draft that has no value for it yet. -/
theorem takesMember_of_find? (hf : r.fields.find? (fun f => f.key == m.1) = some f)
    (hset : f.isSet draft = false) (hm : ∀ v, V m.2 v → (f.read draft).Reads v draft') :
    TakesMember r.member V draft m draft' := by
  intro w w' v rest hw hw' hv hrest
  rw [member, hf]
  simp only [hset, if_neg Bool.false_ne_true]
  exact (yields_colon hw _).bind (hm v hv w' rest hw' hrest)

/-- A member that the record does not know is passed over. -/
theorem takesMember_of_find?_eq_none (hf : r.fields.find? (fun f => f.key == m.1) = none)
    (hm : ∀ v, V m.2 v → ignored.Reads v ()) : TakesMember r.member V draft m draft := by
  intro w w' v rest hw hw' hv hrest
  rw [member, hf]
  exact (yields_colon hw _).bind ((hm v hv w' rest hw' hrest).bind (.pure _ _))

/-- A record is read from an object whose members fill the draft. -/
theorem reads_read {ms : List (String × β)} {t : List Char} {a : α}
    (h : Listed .object (MemberText SpellsString V) ms t)
    (hms : TakesMembers r.member V r.blank ms draft) (ha : r.complete draft = .ok a) :
    r.read.Reads t a := by
  obtain ⟨body, rfl⟩ := h.exists_eq_opening
  refine reads_readBy rfl rfl fun rest _ => (yields_members h hms rest).bind ?_
  rw [completed, ha]
  exact .pure a rest

end Record

/-- A document is a value with white space around it. -/
theorem finish_of_reads {f : Reader α} {t w w' : List Char} {a : α} (h : f.Reads t a)
    (hw : IsSpace w) (hw' : IsSpace w') : finish f (w ++ (t ++ w')) = .ok a := by
  have hrest : Delimited w' := fun c hc => Or.inl (hw' c (List.mem_of_mem_head? hc))
  obtain ⟨hbound, hf⟩ := h w w' hw hrest
  have hskip : skip w' = [] := by
    have hskip := skip_space hw' []
    rwa [List.append_nil] at hskip
  rw [finish, hf]
  simp only [hskip, List.isEmpty_nil, if_true]

end QueryLint.Json
