import QueryLint.Proofs.Text.Marking
import QueryLint.Text.Words

/-!
# Words and where they stand

The words of a text are its maximal runs of word characters.  `Word.Laid` says so for a list of
words by itself: every word has characters, all of them word characters, what follows it has
none, two words do not touch, and the offset of each word is the byte length of all that stands
in front of it.

* `Reading.laid_ofChars`: what is read off a text is laid out in this way.
* `Reading.ofChars_textOf`, `wordsOf_append_textOf`: conversely, words that are laid out in this
  way are the words of the text that they make up.  So the words of a text can be given instead
  of computed.

A check that moves from word to word has at every moment read a part of the text, and some words
remain.  `Remain` is this situation; it holds at the start (`remain_wordsOf`) and is kept when words
are passed over (`Remain.skip`).  It fixes which part of the text is marked by the span of the
next word (`Remain.marks_span`) or of a stretch of words (`Remain.marks_upTo`).
-/

namespace QueryLint.Text

/-- The characters of a word. -/
structure IsWordText (cs : List Char) : Prop where
  ne_nil : cs ≠ []
  isWordChar : ∀ c ∈ cs, isWordChar c = true

/-- Characters that are in no word. -/
def IsGap (cs : List Char) : Prop := ∀ c ∈ cs, isWordChar c = false

theorem isGap_nil : IsGap [] := List.forall_mem_nil _

/-- Words one behind the other, the first of them at offset `pos`. -/
inductive Word.Laid : Nat → List Word → Prop
  | nil (pos : Nat) : Laid pos []
  | cons {pos : Nat} {w : Word} {ws : List Word} (start : w.start = pos)
      (text : IsWordText w.text) (after : IsGap w.after) (apart : ws ≠ [] → w.after ≠ [])
      (rest : Laid (pos + byteSize (w.text ++ w.after)) ws) : Laid pos (w :: ws)

/-- A reading of a text that starts at offset `pos`. -/
structure Reading.Laid (pos : Nat) (r : Reading) : Prop where
  lead : IsGap r.lead
  words : Word.Laid (pos + byteSize r.lead) r.words

namespace Word

@[simp] theorem textOf_nil : textOf [] = [] := rfl

@[simp] theorem textOf_cons (w : Word) (ws : List Word) :
    textOf (w :: ws) = w.text ++ w.after ++ textOf ws := rfl

@[simp] theorem textOf_append (us ws : List Word) :
    textOf (us ++ ws) = textOf us ++ textOf ws := by
  induction us with
  | nil => rfl
  | cons u us ih => simp only [List.cons_append, textOf_cons, ih, List.append_assoc]

theorem Laid.isWordText_of_mem {pos : Nat} {ws : List Word} (h : Laid pos ws) {w : Word}
    (hw : w ∈ ws) : IsWordText w.text := by
  induction h with
  | nil => exact absurd hw List.not_mem_nil
  | cons _ text _ _ _ ih =>
    rcases List.mem_cons.1 hw with rfl | hw
    · exact text
    · exact ih hw

/-- What is left of laid out words when some are passed over. -/
theorem Laid.of_append {us ws : List Word} {pos : Nat} (h : Laid pos (us ++ ws)) :
    Laid (pos + byteSize (textOf us)) ws := by
  induction us generalizing pos with
  | nil => simpa using h
  | cons u us ih =>
    rw [List.cons_append] at h
    cases h with
    | cons _ _ _ _ rest =>
      have h := ih rest
      rwa [Nat.add_assoc, ← byteSize_append, ← textOf_cons] at h

end Word

/-! ## What is read is laid out -/

theorem Reading.Laid.push {pos : Nat} {c : Char} {r : Reading} (h : r.Laid (pos + c.utf8Size))
    (hc : Text.isWordChar c = true) : (r.push pos c).Laid pos := by
  obtain ⟨lead, words⟩ := r
  obtain ⟨hlead, hwords⟩ := h
  cases lead with
  | nil =>
    cases words with
    | nil =>
      exact ⟨isGap_nil, .cons (Nat.add_zero pos).symm ⟨by simp, by simpa using hc⟩ isGap_nil
        (by simp) (.nil _)⟩
    | cons w ws =>
      -- no gap was left behind `c`, so it joins the word that follows
      cases hwords with
      | cons start text after apart rest =>
        have hword : IsWordText (c :: w.text) :=
          ⟨by simp, List.forall_mem_cons.2 ⟨hc, text.isWordChar⟩⟩
        refine ⟨isGap_nil, .cons (Nat.add_zero pos).symm hword after apart ?_⟩
        simpa [Reading.push, Nat.add_assoc] using rest
  | cons d ds =>
    refine ⟨isGap_nil, .cons (Nat.add_zero pos).symm ⟨by simp, by simpa using hc⟩ hlead
      (by simp) ?_⟩
    simpa [Reading.push, Nat.add_assoc] using hwords

/-- What is read off a text is laid out as words and gaps. -/
theorem Reading.laid_ofChars (pos : Nat) (cs : List Char) : (ofChars pos cs).Laid pos := by
  induction cs generalizing pos with
  | nil => exact ⟨isGap_nil, .nil _⟩
  | cons c cs ih =>
    have hrest := ih (pos + c.utf8Size)
    rw [ofChars]
    by_cases hc : Text.isWordChar c = true
    · rw [if_pos hc]
      exact hrest.push hc
    · rw [if_neg hc]
      refine ⟨List.forall_mem_cons.2 ⟨by simpa using hc, hrest.lead⟩, ?_⟩
      rw [byteSize_cons, ← Nat.add_assoc]
      exact hrest.words

/-! ## What is laid out is read -/

/-- A gap in front of a text becomes the start of the gap that the text is read with. -/
theorem Reading.ofChars_gap {gap : List Char} (h : IsGap gap) (pos : Nat) (cs : List Char) :
    ofChars pos (gap ++ cs) =
      ⟨gap ++ (ofChars (pos + byteSize gap) cs).lead, (ofChars (pos + byteSize gap) cs).words⟩ := by
  induction gap generalizing pos with
  | nil => rfl
  | cons c gap ih =>
    obtain ⟨hc, hgap⟩ := List.forall_mem_cons.1 h
    rw [List.cons_append, ofChars, if_neg (by simp [hc]), ih hgap, byteSize_cons, Nat.add_assoc]
    rfl

/-- A word in front of a text that does not start with a word. -/
theorem Reading.ofChars_word {text : List Char} (h : IsWordText text) (pos : Nat)
    {cs : List Char} {r : Reading} (hr : ofChars (pos + byteSize text) cs = r)
    (hlead : r.words ≠ [] → r.lead ≠ []) :
    ofChars pos (text ++ cs) = ⟨[], ⟨pos, text, r.lead⟩ :: r.words⟩ := by
  obtain ⟨hne, hchars⟩ := h
  induction text generalizing pos with
  | nil => exact absurd rfl hne
  | cons c text ih =>
    obtain ⟨hc, htext⟩ := List.forall_mem_cons.1 hchars
    rw [byteSize_cons, ← Nat.add_assoc] at hr
    rw [List.cons_append, ofChars, if_pos hc]
    by_cases hnil : text = []
    · subst hnil
      rw [byteSize_nil, Nat.add_zero] at hr
      rw [List.nil_append, hr]
      obtain ⟨lead, words⟩ := r
      cases lead <;> cases words <;> simp_all [push]
    · rw [ih _ hr hnil htext]
      rfl

/-- Words that are laid out are read off the text that they make up. -/
theorem Reading.ofChars_textOf {pos : Nat} {ws : List Word} (h : Word.Laid pos ws) :
    ofChars pos (Word.textOf ws) = ⟨[], ws⟩ := by
  induction h with
  | nil pos => rfl
  | @cons pos w ws start text after apart rest ih =>
    have hgap : ofChars (pos + byteSize w.text) (w.after ++ Word.textOf ws) = ⟨w.after, ws⟩ := by
      rw [ofChars_gap after, Nat.add_assoc, ← byteSize_append, ih, List.append_nil]
    rw [Word.textOf_cons, List.append_assoc, ofChars_word text pos hgap apart, ← start]

/-- The words of a text that is given by its words and what stands in front of them. -/
theorem wordsOf_append_textOf {lead : List Char} {ws : List Word} (hlead : IsGap lead)
    (h : Word.Laid (byteSize lead) ws) : wordsOf (lead ++ Word.textOf ws) = ws := by
  rw [wordsOf, Reading.ofChars_gap hlead, Nat.zero_add, Reading.ofChars_textOf h]

/-! ## Words that remain -/

/-- Of the text `cs` the part `before` has been read, and the words `ws` remain. -/
structure Remain (cs before : List Char) (ws : List Word) : Prop where
  text : cs = before ++ Word.textOf ws
  laid : Word.Laid (byteSize before) ws

/-- At the start all words remain. -/
theorem remain_wordsOf (cs : List Char) :
    Remain cs (Reading.ofChars 0 cs).lead (wordsOf cs) where
  text := (Reading.toList_ofChars 0 cs).symm
  laid := by
    have h := (Reading.laid_ofChars 0 cs).words
    rwa [Nat.zero_add] at h

namespace Remain

variable {cs before : List Char} {us ws : List Word} {w v : Word}

/-- Words are passed over. -/
theorem skip (h : Remain cs before (us ++ ws)) : Remain cs (before ++ Word.textOf us) ws where
  text := by rw [h.text, Word.textOf_append, List.append_assoc]
  laid := by
    rw [byteSize_append]
    exact h.laid.of_append

/-- The span of the next word marks it. -/
theorem marks_span (h : Remain cs before (w :: ws)) : w.span.Marks cs w.text := by
  refine ⟨before, w.after ++ Word.textOf ws, ?_, ?_⟩
  · rw [h.text, Word.textOf_cons, List.append_assoc, List.append_assoc]
  · cases h.laid with
    | cons start => rw [Word.span, start, Span.ofParts]

/-- The span from one word up to another marks what stands from the one through the other. -/
theorem marks_upTo (h : Remain cs before (w :: us ++ v :: ws)) :
    (w.span.upTo v.span).Marks cs (Word.textOf (w :: us) ++ v.text) := by
  have hstart : w.start = byteSize before := by
    cases h.laid with
    | cons start => exact start
  have hend : v.start = byteSize before + byteSize (Word.textOf (w :: us)) := by
    cases h.skip.laid with
    | cons start => rw [start, byteSize_append]
  refine ⟨before, v.after ++ Word.textOf ws, ?_, ?_⟩
  · rw [h.text, Word.textOf_append, Word.textOf_cons v]
    simp only [List.append_assoc]
  · simp only [Span.upTo, Span.ofParts, Word.span, byteSize_append, hstart, hend]
    congr 1
    omega

end Remain

/-- At any later moment, too, the words that are left remain of the text. -/
theorem exists_remain_of_suffix {cs : List Char} {ws : List Word} (h : ws <:+ wordsOf cs) :
    ∃ before, Remain cs before ws := by
  obtain ⟨us, hus⟩ := h
  have hall := remain_wordsOf cs
  rw [← hus] at hall
  exact ⟨_, hall.skip⟩

theorem isWordText_of_mem_wordsOf {cs : List Char} {w : Word} (h : w ∈ wordsOf cs) :
    IsWordText w.text :=
  (remain_wordsOf cs).laid.isWordText_of_mem h

end QueryLint.Text
