import QueryLint.Proofs.Json.Reading

/-!
# Passing over what is built like a value

A reader that wants nothing of a value passes over any text that is built like one, however deep
it is nested and whatever its numbers and strings mean (`reads_ignored`).  The reader keeps the
open brackets in a list, so what is shown of each part of a text is that behind it the reader
stands where it stood in front of it, with the same brackets open.
-/

namespace QueryLint.Json

variable {α : Type}

/-! ## Numbers -/

theorem ne_of_isDigit {c d : Char} (hc : c.isDigit = true) (hd : d.isDigit = false) : c ≠ d := by
  rintro rfl
  rw [hc] at hd
  exact absurd hd (by decide)

theorem isJsonBlank_of_isDigit {c : Char} (hc : c.isDigit = true) : isJsonBlank c = false := by
  simp [isJsonBlank, ne_of_isDigit hc (d := ' ') rfl, ne_of_isDigit hc (d := '\t') rfl,
    ne_of_isDigit hc (d := '\n') rfl, ne_of_isDigit hc (d := '\r') rfl]

/-- The text does not go on with a digit. -/
def NoDigit (rest : List Char) : Prop := ∀ c ∈ rest.head?, c.isDigit = false

/-- The text does not go on with an exponent, or with a digit. -/
def NoExponent (rest : List Char) : Prop := NoDigit rest ∧ ∀ c ∈ rest.head?, c ≠ 'e' ∧ c ≠ 'E'

/-- The text does not go on with any part of a number. -/
def NoNumber (rest : List Char) : Prop := NoExponent rest ∧ ∀ c ∈ rest.head?, c ≠ '.'

theorem Delimited.noNumber {rest : List Char} (h : Delimited rest) : NoNumber rest := by
  have hsign : ∀ c ∈ rest.head?, c.isDigit = false ∧ c ≠ 'e' ∧ c ≠ 'E' ∧ c ≠ '.' := by
    intro c hc
    rcases h c hc with hblank | rfl | rfl | rfl
    · simp only [isJsonBlank, Bool.or_eq_true, beq_iff_eq] at hblank
      rcases hblank with ((rfl | rfl) | rfl) | rfl <;> decide
    all_goals decide
  exact ⟨⟨fun c hc => (hsign c hc).1, fun c hc => ⟨(hsign c hc).2.1, (hsign c hc).2.2.1⟩⟩,
    fun c hc => (hsign c hc).2.2.2⟩

theorem yields_digits {ds rest : List Char} (hds : ∀ d ∈ ds, d.isDigit = true)
    (hrest : NoDigit rest) :
    digits.Yields (ds ++ rest) ds rest := by
  have htake : (ds ++ rest).takeWhile Char.isDigit = ds := by
    rw [List.takeWhile_append_of_pos hds]
    cases rest with
    | nil => simp
    | cons c cs => rw [List.takeWhile_cons_of_neg (by simp [hrest c rfl]), List.append_nil]
  have hdrop : (ds ++ rest).dropWhile Char.isDigit = rest := by
    rw [List.dropWhile_append_of_pos hds]
    cases rest with
    | nil => rfl
    | cons c cs => rw [List.dropWhile_cons_of_neg (by simp [hrest c rfl])]
  refine ⟨by simp, ?_⟩
  rw [digits]
  simp only [htake, hdrop]

theorem yields_someDigits {ds rest : List Char} (ended : Fault) (hds : IsDigits ds)
    (hrest : NoDigit rest) : (someDigits ended).Yields (ds ++ rest) ds rest := by
  obtain ⟨hne, hds⟩ := hds
  obtain ⟨d, ds, rfl⟩ := List.exists_cons_of_ne_nil hne
  obtain ⟨hbound, hread⟩ := yields_digits hds hrest
  refine ⟨hbound, ?_⟩
  show someDigits ended (d :: (ds ++ rest)) = _
  rw [someDigits, if_pos (hds d List.mem_cons_self)]
  exact hread

theorem yields_fractionPart_none {rest : List Char} (ended : Fault)
    (hpoint : ∀ c ∈ rest.head?, c ≠ '.') : (fractionPart ended).Yields rest none rest := by
  refine ⟨Nat.le_refl _, ?_⟩
  unfold fractionPart
  split
  · exact absurd rfl (hpoint '.' rfl)
  · rfl

theorem yields_fractionPart {t rest : List Char} (ended : Fault) (ht : IsFraction t)
    (hdigit : NoDigit rest) (hpoint : ∀ c ∈ rest.head?, c ≠ '.') :
    ∃ x, (fractionPart ended).Yields (t ++ rest) x rest := by
  rcases ht with rfl | ⟨ds, hds, rfl⟩
  · exact ⟨none, yields_fractionPart_none ended hpoint⟩
  · obtain ⟨hbound, hread⟩ := yields_someDigits ended hds hdigit
    refine ⟨some ds, Nat.le_succ_of_le hbound, ?_⟩
    show fractionPart ended ('.' :: (ds ++ rest)) = _
    rw [fractionPart, hread]
    rfl

theorem yields_exponentSign {sign rest : List Char}
    (hsign : sign = [] ∨ sign = ['+'] ∨ sign = ['-'])
    (hrest : ∀ c ∈ rest.head?, c.isDigit = true) :
    ∃ b, exponentSign.Yields (sign ++ rest) b rest := by
  rcases hsign with rfl | rfl | rfl
  · refine ⟨false, Nat.le_refl _, ?_⟩
    show exponentSign rest = _
    unfold exponentSign
    split
    · exact absurd (hrest '-' rfl) (by decide)
    · exact absurd (hrest '+' rfl) (by decide)
    · rfl
  · exact ⟨false, Nat.le_succ _, rfl⟩
  · exact ⟨true, Nat.le_succ _, rfl⟩

theorem yields_exponentBody {sign ds rest : List Char} (ended : Fault)
    (hsign : sign = [] ∨ sign = ['+'] ∨ sign = ['-']) (hds : IsDigits ds)
    (hrest : NoDigit rest) :
    ∃ x, (exponentBody ended).Yields (sign ++ (ds ++ rest)) x rest := by
  have hfirst : ∀ c ∈ (ds ++ rest).head?, c.isDigit = true := by
    intro c hc
    obtain ⟨d, ds, rfl⟩ := List.exists_cons_of_ne_nil hds.1
    obtain rfl : d = c := Option.some.inj hc
    exact hds.2 d List.mem_cons_self
  obtain ⟨down, hdown⟩ := yields_exponentSign hsign hfirst
  exact ⟨_, hdown.bind ((yields_someDigits ended hds hrest).bind (.pure _ _))⟩

theorem yields_exponentPart_none {rest : List Char} (ended : Fault) (hrest : NoExponent rest) :
    (exponentPart ended).Yields rest none rest := by
  refine ⟨Nat.le_refl _, ?_⟩
  unfold exponentPart
  split
  · exact absurd rfl (hrest.2 'e' rfl).1
  · exact absurd rfl (hrest.2 'E' rfl).2
  · rfl

theorem yields_exponentPart {t rest : List Char} (ended : Fault) (ht : IsExponent t)
    (hrest : NoExponent rest) : ∃ x, (exponentPart ended).Yields (t ++ rest) x rest := by
  rcases ht with rfl | ⟨e, sign, ds, he, hsign, hds, rfl⟩
  · exact ⟨none, yields_exponentPart_none ended hrest⟩
  · obtain ⟨x, hbound, hread⟩ := yields_exponentBody ended hsign hds hrest.1
    have hsplit : e :: (sign ++ ds) ++ rest = e :: (sign ++ (ds ++ rest)) := by simp
    rw [hsplit]
    refine ⟨x, Nat.le_succ_of_le hbound, ?_⟩
    rcases he with rfl | rfl <;> rw [exponentPart, hread] <;> rfl

theorem yields_wholeFrom {c : Char} {ds rest : List Char} (h : IsWhole (c :: ds))
    (hrest : NoDigit rest) : (wholeFrom c).Yields (ds ++ rest) (c :: ds) rest := by
  obtain ⟨⟨-, hdigits⟩, hzero⟩ := h
  by_cases hc : c = '0'
  · obtain ⟨rfl, rfl⟩ := List.cons.inj (hzero (by rw [hc]; rfl))
    refine ⟨Nat.le_refl _, ?_⟩
    show wholeFrom '0' rest = _
    have hany : (rest.head?.any Char.isDigit) = false := by
      rw [Option.any_eq_false]
      exact fun d hd => by simp [hrest d hd]
    simp only [wholeFrom, if_true, hany, if_neg Bool.false_ne_true]
    rfl
  · obtain ⟨hbound, hread⟩ := yields_digits (List.forall_mem_cons.1 hdigits).2 hrest
    refine ⟨hbound, ?_⟩
    simp only [wholeFrom, if_neg hc, hread]
    rfl

/-- Behind its first character the rest of a number without a sign is read. -/
theorem yields_numeralFrom {c : Char} {ds fraction exponent rest : List Char} (ended : Fault)
    (hwhole : IsWhole (c :: ds)) (hfraction : IsFraction fraction)
    (hexponent : IsExponent exponent) (hrest : NoNumber rest) :
    ∃ n, (numeralFrom ended c).Yields (ds ++ (fraction ++ (exponent ++ rest))) n rest := by
  have hexponentRest : NoDigit (exponent ++ rest) ∧ ∀ d ∈ (exponent ++ rest).head?, d ≠ '.' := by
    rcases hexponent with rfl | ⟨e, sign, es, he, -, -, rfl⟩
    · exact ⟨hrest.1.1, hrest.2⟩
    · rcases he with rfl | rfl <;> exact ⟨fun d hd => by obtain rfl := Option.some.inj hd; rfl,
        fun d hd => by obtain rfl := Option.some.inj hd; decide⟩
  have hfractionRest : NoDigit (fraction ++ (exponent ++ rest)) := by
    rcases hfraction with rfl | ⟨fs, -, rfl⟩
    · exact hexponentRest.1
    · exact fun d hd => by obtain rfl := Option.some.inj hd; rfl
  obtain ⟨x, hx⟩ := yields_fractionPart ended hfraction hexponentRest.1 hexponentRest.2
  obtain ⟨y, hy⟩ := yields_exponentPart ended hexponent hrest.1
  exact ⟨_, (yields_wholeFrom hwhole hfractionRest).bind (hx.bind (hy.bind (.pure _ _)))⟩

theorem exists_cons_of_isWhole {ds : List Char} (h : IsWhole ds) :
    ∃ c cs, ds = c :: cs ∧ c.isDigit = true := by
  obtain ⟨c, cs, rfl⟩ := List.exists_cons_of_ne_nil h.1.1
  exact ⟨c, cs, rfl, h.1.2 c List.mem_cons_self⟩

theorem skipScalar_of_isDigit {c : Char} (hc : c.isDigit = true) :
    skipScalar c = (fun _ => ()) <$> numeralFrom .invalidNumber c := by
  unfold skipScalar
  rw [if_neg (ne_of_isDigit hc rfl), if_neg (ne_of_isDigit hc rfl), if_neg (ne_of_isDigit hc rfl)]
  refine (if_neg (ne_of_isDigit hc rfl)).trans ?_
  rw [if_neg (ne_of_isDigit hc rfl), if_pos hc]

/-- Behind its first character a number is passed over. -/
theorem exists_skipScalar_of_isNumberText {t : List Char} (h : IsNumberText t) :
    ∃ c cs, t = c :: cs ∧ (c = '-' ∨ c.isDigit = true) ∧
      ∀ rest, Delimited rest → (skipScalar c).Yields (cs ++ rest) () rest := by
  obtain @⟨_, _, fraction, exponent, hsign, hwhole, hfraction, hexponent⟩ := h
  obtain ⟨c, ds, rfl, hc⟩ := exists_cons_of_isWhole hwhole
  have hdigits (rest : List Char) (hrest : Delimited rest) : ∃ n,
      (numeralFrom .invalidNumber c).Yields (ds ++ (fraction ++ exponent) ++ rest) n rest := by
    rw [List.append_assoc, List.append_assoc]
    exact yields_numeralFrom _ hwhole hfraction hexponent hrest.noNumber
  rcases hsign with rfl | rfl
  · refine ⟨c, ds ++ (fraction ++ exponent), rfl, Or.inr hc, fun rest hrest => ?_⟩
    obtain ⟨n, hn⟩ := hdigits rest hrest
    rw [skipScalar_of_isDigit hc]
    exact hn.map _
  · refine ⟨'-', c :: (ds ++ (fraction ++ exponent)), rfl, Or.inl rfl, fun rest hrest => ?_⟩
    obtain ⟨n, hbound, hn⟩ := hdigits rest hrest
    have hnumeral : (numeral .invalidNumber).Yields
        (c :: (ds ++ (fraction ++ exponent) ++ rest)) n rest := by
      refine ⟨Nat.le_succ_of_le hbound, ?_⟩
      rw [numeral, if_pos hc, hn]
      rfl
    exact hnumeral.map _

/-! ## Strings -/

theorem yields_skipString_end (rest : List Char) :
    Reader.Yields skipString ('"' :: rest) () rest := by
  refine ⟨Nat.le_succ _, ?_⟩
  rw [skipString.eq_def]
  simp only [if_true]
  rfl

theorem yields_skipString_of_isCharText {u s rest : List Char} (hu : IsCharText u)
    (h : Reader.Yields skipString s () rest) : Reader.Yields skipString (u ++ s) () rest := by
  obtain ⟨hbound, hskip⟩ := h
  cases hu with
  | @plain c hquote hbackslash hcontrol =>
    refine ⟨Nat.le_succ_of_le hbound, ?_⟩
    show skipString (c :: s) = _
    rw [skipString.eq_def]
    simp only [if_neg hquote, if_neg hbackslash, if_neg (Nat.not_lt.2 hcontrol), hskip]
    rfl
  | @letter c l hl =>
    obtain ⟨hletter, hu⟩ := escapeLetter?_of_mem hl
    refine ⟨Nat.le_succ_of_le (Nat.le_succ_of_le hbound), ?_⟩
    show skipString ('\\' :: l :: s) = _
    rw [skipString, if_neg (by decide), if_pos rfl]
    simp only [if_neg hu, hletter, Option.isSome_some, if_true, hskip]
    rfl
  | @unit n a₁ a₂ a₃ a₄ hn =>
    obtain ⟨hquad, hread⟩ := yields_hexQuad hn s
    refine ⟨Nat.le_trans hbound (by simp; omega), ?_⟩
    show skipString ('\\' :: 'u' :: a₁ :: a₂ :: a₃ :: a₄ :: s) = _
    rw [skipString, if_neg (by decide), if_pos rfl]
    simp only [if_true, hread, hskip]
    rfl

/-- Behind its opening quote a string is passed over. -/
theorem yields_skipString {parts : List (List Char)} (h : ∀ u ∈ parts, IsCharText u)
    (rest : List Char) : Reader.Yields skipString (parts.flatten ++ '"' :: rest) () rest := by
  induction parts with
  | nil => exact yields_skipString_end rest
  | cons u parts ih =>
    obtain ⟨hu, hparts⟩ := List.forall_mem_cons.1 h
    rw [List.flatten_cons, List.append_assoc]
    exact yields_skipString_of_isCharText hu (ih hparts)

/-! ## Values -/

/-- From white space in front of the text, the reader comes to its end with the same brackets
open. -/
def Passes (t : List Char) : Prop :=
  ∀ {T : List Char} (inside : List Bracket) (w rest : List Char)
    (bound : (w ++ (t ++ rest)).length ≤ T.length) (bound' : rest.length ≤ T.length),
    IsSpace w → Delimited rest →
      skipValue inside (w ++ (t ++ rest)) bound = skipRest inside rest bound'

/-- From white space in front of an element, the reader comes to its end inside the bracket. -/
def PassesElement (b : Bracket) (t : List Char) : Prop :=
  ∀ {T : List Char} (inside : List Bracket) (w rest : List Char)
    (bound : (w ++ (t ++ rest)).length ≤ T.length) (bound' : rest.length ≤ T.length),
    IsSpace w → Delimited rest →
      skipElement b inside (w ++ (t ++ rest)) bound = skipRest (b :: inside) rest bound'

theorem skipValue_of_skip {T s rest : List Char} {c : Char} (inside : List Bracket)
    (h : skip s = c :: rest) (bound : s.length ≤ T.length) (bound' : rest.length ≤ T.length) :
    skipValue inside s bound =
      if c = '[' then skipFirst .array inside rest bound'
      else if c = '\x7b' then skipFirst .object inside rest bound'
      else
        match skipScalar c rest with
        | .error e => .error e
        | .ok r => skipRest inside r.rest (Nat.le_trans r.bound bound') := by
  rw [skipValue]
  split
  next hs => rw [h] at hs; cases hs
  next hs =>
    rw [h] at hs
    cases hs
    rfl

theorem passes_of_skipScalar {c : Char} {cs : List Char} (hblank : isJsonBlank c = false)
    (harray : c ≠ '[') (hobject : c ≠ '\x7b')
    (h : ∀ rest, Delimited rest → (skipScalar c).Yields (cs ++ rest) () rest) :
    Passes (c :: cs) := by
  intro T inside w rest bound bound' hw hrest
  have hskip : skip (w ++ (c :: cs ++ rest)) = c :: (cs ++ rest) := skip_space_cons hw hblank _
  have hbehind : (cs ++ rest).length ≤ T.length := by
    simp only [List.length_append, List.length_cons] at bound ⊢
    omega
  obtain ⟨hbound, hscalar⟩ := h rest hrest
  rw [skipValue_of_skip inside hskip bound hbehind, if_neg harray, if_neg hobject, hscalar]

theorem passes_of_skipFirst {b : Bracket} {body : List Char}
    (h : ∀ {T : List Char} (inside : List Bracket) (rest : List Char)
      (bound : (body ++ rest).length ≤ T.length) (bound' : rest.length ≤ T.length),
      skipFirst b inside (body ++ rest) bound = skipRest inside rest bound') :
    Passes (b.opening :: body) := by
  intro T inside w rest bound bound' hw hrest
  have hblank : isJsonBlank b.opening = false := by cases b <;> rfl
  have hskip := skip_space_cons hw hblank (body ++ rest)
  have hbehind : (body ++ rest).length ≤ T.length := by
    simp only [List.length_append, List.length_cons] at bound ⊢
    omega
  have hvalue := skipValue_of_skip inside hskip bound hbehind
  cases b with
  | array => exact hvalue.trans (h inside rest hbehind bound')
  | object => exact hvalue.trans (h inside rest hbehind bound')

section Brackets

variable {b : Bracket} {T w s rest : List Char}

theorem isJsonBlank_closing (b : Bracket) : isJsonBlank b.closing = false := by
  cases b <;> rfl

/-- What is done behind an opening bracket depends on the first character that is not white
space. -/
theorem skipFirst_of_skip {c : Char} (inside : List Bracket) (h : skip s = c :: rest)
    (bound : s.length ≤ T.length) (bound' : rest.length ≤ T.length) :
    skipFirst b inside s bound =
      if c = b.closing then skipRest inside rest bound' else skipElement b inside s bound := by
  rw [skipFirst]
  split
  next hs => rw [h] at hs; cases hs
  next hs =>
    rw [h] at hs
    cases hs
    rfl

/-- So does what is done behind an element. -/
theorem skipRest_of_skip {c : Char} (inside : List Bracket) (h : skip s = c :: rest)
    (bound : s.length ≤ T.length) (bound' : rest.length ≤ T.length) :
    skipRest (b :: inside) s bound =
      if c = ',' then skipElement b inside rest bound'
      else if c = b.closing then skipRest inside rest bound'
      else .error b.unseparated := by
  rw [skipRest]
  split
  next hs => rw [h] at hs; cases hs
  next hs =>
    rw [h] at hs
    cases hs
    rfl

theorem skipFirst_of_closing (inside : List Bracket) (hw : IsSpace w)
    (bound : (w ++ b.closing :: rest).length ≤ T.length) (bound' : rest.length ≤ T.length) :
    skipFirst b inside (w ++ b.closing :: rest) bound = skipRest inside rest bound' := by
  have hskip := skip_space_cons hw (isJsonBlank_closing b) rest
  rw [skipFirst_of_skip inside hskip bound bound', if_pos rfl]

theorem skipFirst_of_ne_closing {c : Char} (inside : List Bracket) (hw : IsSpace w)
    (hblank : isJsonBlank c = false) (hc : c ≠ b.closing)
    (bound : (w ++ c :: s).length ≤ T.length) :
    skipFirst b inside (w ++ c :: s) bound = skipElement b inside (w ++ c :: s) bound := by
  have hskip := skip_space_cons hw hblank s
  have hshort : s.length ≤ T.length := by
    simp only [List.length_append, List.length_cons] at bound
    omega
  rw [skipFirst_of_skip inside hskip bound hshort, if_neg hc]

theorem skipRest_of_closing (inside : List Bracket) (hw : IsSpace w)
    (bound : (w ++ b.closing :: rest).length ≤ T.length) (bound' : rest.length ≤ T.length) :
    skipRest (b :: inside) (w ++ b.closing :: rest) bound = skipRest inside rest bound' := by
  have hskip := skip_space_cons hw (isJsonBlank_closing b) rest
  have hcomma : b.closing ≠ ',' := by cases b <;> decide
  rw [skipRest_of_skip inside hskip bound bound', if_neg hcomma, if_pos rfl]

theorem skipRest_of_comma (inside : List Bracket) (hw : IsSpace w)
    (bound : (w ++ ',' :: s).length ≤ T.length) (bound' : s.length ≤ T.length) :
    skipRest (b :: inside) (w ++ ',' :: s) bound = skipElement b inside s bound' := by
  have hskip := skip_space_cons (c := ',') hw rfl s
  rw [skipRest_of_skip inside hskip bound bound', if_pos rfl]

variable {E : α → List Char → Prop} {as : List α} {t : List Char}

/-- Behind an element the reader comes to the end of the list, if it passes each of the
elements. -/
theorem skipRest_of_listedRest (h : ListedRest b E as t)
    (hE : ∀ a ∈ as, ∀ u, E a u → PassesElement b u) (inside : List Bracket) (rest : List Char)
    (bound : (t ++ rest).length ≤ T.length) (bound' : rest.length ≤ T.length) :
    skipRest (b :: inside) (t ++ rest) bound = skipRest inside rest bound' := by
  induction h with
  | @close w hw =>
    simp only [List.append_assoc, List.singleton_append]
    exact skipRest_of_closing inside hw _ bound'
  | @more a as w w' u t hw hw' ha h ih =>
    have helement : PassesElement b u := hE a List.mem_cons_self u ha
    have hlater : ∀ a ∈ as, ∀ u, E a u → PassesElement b u := fun a ha =>
      hE a (List.mem_cons_of_mem _ ha)
    have hlong : (w' ++ (u ++ (t ++ rest))).length ≤ T.length := by
      simp only [List.length_append, List.length_cons] at bound ⊢
      omega
    have hbehind : (t ++ rest).length ≤ T.length := by
      simp only [List.length_append] at hlong ⊢
      omega
    simp only [List.append_assoc, List.cons_append]
    rw [skipRest_of_comma inside hw _ hlong,
      helement inside w' (t ++ rest) hlong hbehind hw' (h.delimited rest)]
    exact ih hlater hbehind

/-- A list in brackets is passed over, if each of its elements is. -/
theorem passes_of_listed (h : Listed b E as t)
    (hE : ∀ a ∈ as, ∀ u, E a u → PassesElement b u ∧
      ∃ c cs, u = c :: cs ∧ isJsonBlank c = false ∧ c ≠ b.closing) : Passes t := by
  cases h with
  | @nil w hw =>
    refine passes_of_skipFirst fun inside rest bound bound' => ?_
    simp only [List.append_assoc, List.singleton_append]
    exact skipFirst_of_closing inside hw _ bound'
  | @cons a as w u t hw ha h =>
    obtain ⟨helement, c, cs, rfl, hblank, hc⟩ := hE a List.mem_cons_self u ha
    refine passes_of_skipFirst fun {T} inside rest bound bound' => ?_
    have hlong : (w ++ (c :: cs ++ (t ++ rest))).length ≤ T.length := by
      simpa using bound
    have hbehind : (t ++ rest).length ≤ T.length := by
      simp only [List.length_append] at hlong ⊢
      omega
    simp only [List.append_assoc]
    calc skipFirst b inside (w ++ (c :: cs ++ (t ++ rest))) hlong
        = skipElement b inside (w ++ (c :: cs ++ (t ++ rest))) hlong :=
          skipFirst_of_ne_closing inside hw hblank hc hlong
      _ = skipRest (b :: inside) (t ++ rest) hbehind :=
          helement inside w (t ++ rest) hlong hbehind hw (h.delimited rest)
      _ = skipRest inside rest bound' :=
          skipRest_of_listedRest h
            (fun a ha u hu => (hE a (List.mem_cons_of_mem _ ha) u hu).1) inside rest _ bound'

end Brackets

theorem passesElement_array {t : List Char} (h : Passes t) : PassesElement .array t := by
  intro T inside w rest bound bound' hw hrest
  rw [skipElement]
  exact h (.array :: inside) w rest bound bound' hw hrest

theorem yields_skipKey {k w : List Char} {parts : List (List Char)}
    (hparts : ∀ u ∈ parts, IsCharText u) (hk : k = parts.flatten ++ ['"']) (hw : IsSpace w)
    (rest : List Char) : skipKey.Yields (k ++ (w ++ ':' :: rest)) () rest := by
  subst hk
  rw [List.append_assoc, List.singleton_append]
  exact (yields_skipString hparts _).bind (yields_colon hw rest)

/-- A member is passed over, if its value is. -/
theorem passesElement_object {m : List Char × List Char} {u : List Char}
    (hu : MemberText (fun k u => u = k ∧ IsStringText u) (fun u v => v = u) m u)
    (h : Passes m.2) : PassesElement .object u := by
  obtain @⟨_, w', w'', v, ⟨-, parts, hparts, rfl⟩, hw', hw'', rfl⟩ := hu
  intro T inside w rest bound bound' hw hrest
  have hkey := yields_skipKey hparts rfl hw' (w'' ++ (m.2 ++ rest))
  have hskip := skip_space_cons (c := '"') hw rfl
    (parts.flatten ++ ['"'] ++ (w' ++ ':' :: (w'' ++ (m.2 ++ rest))))
  have hsplit : w ++ ('"' :: (parts.flatten ++ ['"']) ++ (w' ++ ':' :: (w'' ++ m.2)) ++ rest) =
      w ++ '"' :: (parts.flatten ++ ['"'] ++ (w' ++ ':' :: (w'' ++ (m.2 ++ rest)))) := by simp
  rw [← hsplit] at hskip
  obtain ⟨hbound, hkey⟩ := hkey
  rw [skipElement]
  split
  next hs => rw [hskip] at hs; cases hs
  next hs =>
    rw [hskip] at hs
    cases hs
    rw [if_pos rfl, hkey]
    exact h (.object :: inside) w'' rest _ bound' hw'' hrest

theorem exists_cons_of_isValueText {t : List Char} (h : IsValueText t) :
    ∃ c cs, t = c :: cs ∧ isJsonBlank c = false ∧ c ≠ ']' := by
  cases h with
  | null => exact ⟨'n', _, rfl, rfl, by decide⟩
  | true => exact ⟨'t', _, rfl, rfl, by decide⟩
  | false => exact ⟨'f', _, rfl, rfl, by decide⟩
  | number h =>
    obtain ⟨c, cs, rfl, rfl | hc, -⟩ := exists_skipScalar_of_isNumberText h
    · exact ⟨'-', cs, rfl, rfl, by decide⟩
    · exact ⟨c, cs, rfl, isJsonBlank_of_isDigit hc, ne_of_isDigit hc rfl⟩
  | string h =>
    obtain ⟨parts, -, rfl⟩ := h
    exact ⟨'"', _, rfl, rfl, by decide⟩
  | array h =>
    obtain ⟨body, rfl⟩ := h.exists_eq_opening
    exact ⟨'[', body, rfl, rfl, by decide⟩
  | object h =>
    obtain ⟨body, rfl⟩ := h.exists_eq_opening
    exact ⟨'\x7b', body, rfl, rfl, by decide⟩

/-- By induction on how the text is built: scalars have a reader of their own, and the elements of
a list are passed over by hypothesis. -/
theorem passes_of_isValueText {t : List Char} (h : IsValueText t) : Passes t := by
  induction h with
  | null =>
    refine passes_of_skipScalar rfl (by decide) (by decide) fun rest _ => ?_
    exact yields_wordTail ['u', 'l', 'l'] rest
  | true =>
    refine passes_of_skipScalar rfl (by decide) (by decide) fun rest _ => ?_
    exact yields_wordTail ['r', 'u', 'e'] rest
  | false =>
    refine passes_of_skipScalar rfl (by decide) (by decide) fun rest _ => ?_
    exact yields_wordTail ['a', 'l', 's', 'e'] rest
  | number h =>
    obtain ⟨c, cs, rfl, rfl | hc, hskip⟩ := exists_skipScalar_of_isNumberText h
    · exact passes_of_skipScalar rfl (by decide) (by decide) hskip
    · exact passes_of_skipScalar (isJsonBlank_of_isDigit hc) (ne_of_isDigit hc rfl)
        (ne_of_isDigit hc rfl) hskip
  | string h =>
    obtain ⟨parts, hparts, rfl⟩ := h
    refine passes_of_skipScalar rfl (by decide) (by decide) fun rest _ => ?_
    rw [List.append_assoc]
    exact yields_skipString hparts rest
  | array h hus ih =>
    refine passes_of_listed h fun u hu v hv => ?_
    subst hv
    exact ⟨passesElement_array (ih v hu), exists_cons_of_isValueText (hus v hu)⟩
  | object h hms ih =>
    refine passes_of_listed h fun m hm u hu => ⟨passesElement_object hu (ih m hm), ?_⟩
    obtain ⟨⟨-, parts, -, rfl⟩, -, -, -⟩ := hu
    exact ⟨'"', _, rfl, rfl, by decide⟩

/-- A text that is built like a value is passed over. -/
theorem reads_ignored {t : List Char} (h : IsValueText t) : ignored.Reads t () := by
  intro w rest hw hrest
  have hbound : rest.length ≤ (w ++ (t ++ rest)).length := by simp; omega
  refine ⟨hbound, ?_⟩
  rw [ignored, passes_of_isValueText h [] w rest (Text.length_le_self _) hbound hw hrest, skipRest]

end QueryLint.Json
