import QueryLint.Proofs.Text.Likeness
import QueryLint.Proofs.Text.Readings

/-!
# Words of texts that look alike

Texts that look alike have as many words, and the words in the same position look alike
(`Alike.wordsOf`): their characters may stand for each other, what follows them looks alike, and
with only letter case as leeway they start at the same place.

Everything that is asked of words one at a time has the same answer for words that look alike
(`Word.Alike.is_eq`, `Word.Alike.after_blank_eq`, `Word.Alike.after_dot_iff`).

* `Word.Alike`, `Reading.Alike`: the relation for words and for texts that are cut into words.
* `Alike.ofChars`: cutting into words.
-/

namespace QueryLint.Text

variable {l : Leeway}

/-- The words differ only within the leeway. -/
structure Word.Alike (l : Leeway) (w v : Word) : Prop where
  start : l.SamePlace w.start v.start
  text : List.Forall₂ l.Chars w.text v.text
  after : Text.Alike l w.after v.after

/-- The readings differ only within the leeway. -/
structure Reading.Alike (l : Leeway) (r s : Reading) : Prop where
  lead : Text.Alike l r.lead s.lead
  words : List.Forall₂ (Word.Alike l) r.words s.words

/-! ## Cutting into words -/

theorem IsBlankRun.isGap {b : List Char} (h : IsBlankRun b) : IsGap b :=
  fun c hc => isWordChar_of_isBlank (h.isBlankText c hc)

theorem Reading.Alike.push {r s : Reading} (h : r.Alike l s) {m n : Nat} (hpos : l.SamePlace m n)
    {c d : Char} (char : l.Chars c d) : (r.push m c).Alike l (s.push n d) := by
  obtain ⟨lead, words⟩ := r
  obtain ⟨lead', words'⟩ := s
  obtain ⟨hlead, hwords⟩ := h
  have hnil : lead = [] ↔ lead' = [] := hlead.eq_nil_iff
  have hsingle : List.Forall₂ l.Chars [c] [d] := .cons char .nil
  by_cases hc : lead = []
  · obtain rfl := hc
    obtain rfl := hnil.1 rfl
    cases hwords with
    | nil => exact ⟨.nil, .cons ⟨hpos, hsingle, .nil⟩ .nil⟩
    | cons hw hws => exact ⟨.nil, .cons ⟨hpos, .cons char hw.text, hw.after⟩ hws⟩
  · have hd : lead' ≠ [] := mt hnil.2 hc
    obtain ⟨a, as, rfl⟩ := List.exists_cons_of_ne_nil hc
    obtain ⟨b, bs, rfl⟩ := List.exists_cons_of_ne_nil hd
    exact ⟨.nil, .cons ⟨hpos, hsingle, hlead⟩ hwords⟩

/-- Texts that look alike are cut into words in the same way. -/
theorem Alike.ofChars {cs ds : List Char} (h : Alike l cs ds) {m n : Nat}
    (hpos : l.SamePlace m n) : (Reading.ofChars m cs).Alike l (Reading.ofChars n ds) := by
  induction h generalizing m n with
  | nil => exact ⟨.nil, .nil⟩
  | @cons c d cs ds char _ ih =>
    have hnext : l.SamePlace (m + c.utf8Size) (n + d.utf8Size) :=
      hpos.add fun _ => char.utf8Size_eq
    rw [Reading.ofChars, Reading.ofChars]
    by_cases hc : isWordChar c = true
    · have hd : isWordChar d = true := by rwa [← char.isWordChar_eq]
      rw [if_pos hc, if_pos hd]
      exact (ih hnext).push hpos char
    · have hd : ¬ isWordChar d = true := by rwa [← char.isWordChar_eq]
      rw [if_neg hc, if_neg hd]
      exact ⟨.cons char (ih hnext).lead, (ih hnext).words⟩
  | @gap b b' cs ds loose left right _ ih =>
    rw [Reading.ofChars_gap left.isGap, Reading.ofChars_gap right.isGap]
    have hrest := ih (Leeway.samePlace_of_spacing loose
      (m + Text.byteSize b) (n + Text.byteSize b'))
    exact ⟨.gap loose left right hrest.lead, hrest.words⟩

theorem Alike.wordsOf {cs ds : List Char} (h : Alike l cs ds) :
    List.Forall₂ (Word.Alike l) (wordsOf cs) (wordsOf ds) :=
  (h.ofChars fun _ => rfl).words

/-! ## Single words -/

theorem map_foldChar_eq {cs ds : List Char} (h : List.Forall₂ l.Chars cs ds) :
    cs.map foldChar = ds.map foldChar := by
  induction h with
  | nil => rfl
  | cons char _ ih => rw [List.map_cons, List.map_cons, char.foldChar_eq, ih]

theorem spells_eq {cs ds : List Char} (h : List.Forall₂ l.Chars cs ds) (keyword : String) :
    spells keyword cs = spells keyword ds := by
  rw [spells, spells, map_foldChar_eq h]

namespace Word.Alike

variable {w v : Word}

theorem is_eq (h : w.Alike l v) (keyword : String) : w.is keyword = v.is keyword :=
  spells_eq h.text keyword

theorem isOneOf_eq (h : w.Alike l v) (keywords : List String) :
    w.isOneOf keywords = v.isOneOf keywords := by
  rw [isOneOf, isOneOf]
  exact congrArg _ (funext h.is_eq)

theorem after_blank_eq (h : w.Alike l v) : w.after.all isBlank = v.after.all isBlank :=
  h.after.all_isBlank_eq

theorem beforeBlank_eq (h : w.Alike l v) : w.beforeBlank = v.beforeBlank := by
  have hhead (u : Word) : u.beforeBlank = u.after.head?.any isBlank := by
    rw [beforeBlank]
    cases u.after <;> rfl
  rw [hhead, hhead, h.after.head_isBlank_eq]

theorem after_dot_iff (h : w.Alike l v) : w.after = ['.'] ↔ v.after = ['.'] :=
  h.after.eq_signs_iff (by decide)

theorem span (h : w.Alike l v) : l.SamePlace w.span v.span := by
  intro hl
  rw [Word.span, Word.span, h.start hl, (Text.Alike.of_forall₂ h.text).byteSize hl]

end Word.Alike

end QueryLint.Text
