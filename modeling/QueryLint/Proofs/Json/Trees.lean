import QueryLint.Proofs.Json.Fields
import QueryLint.Proofs.Json.Ignoring
import QueryLint.Proofs.Json.Printing

/-!
# Values that can be read back

A value that is read into memory comes out as it went in, if it is not nested too deep and its
numbers are counts that fit in 64 bits.  Other numbers need not: a greater one comes out as a
double.

* `yields_numberFrom_count`: counts, digit by digit.
* `yields_readItems`: arrays, element by element.
* `IsReadable`, `reads_readTree`: values.
* `parse_pretty_append`: what is printed can be read.
-/

namespace QueryLint.Json

variable {α β : Type}

/-! ## Counts -/

theorem head?_toDigits_of_le {n : Nat} (h : 10 ≤ n) :
    (Nat.toDigits 10 n).head? = (Nat.toDigits 10 (n / 10)).head? := by
  rw [Nat.toDigits_of_base_le (by decide) h, List.head?_append_of_ne_nil _ Nat.toDigits_ne_nil]

/-- A count has no superfluous zero in front. -/
theorem head?_toDigits_ne_zero {n : Nat} (h : 0 < n) : (Nat.toDigits 10 n).head? ≠ some '0' := by
  induction n using Nat.strongRecOn with
  | ind n ih =>
    by_cases hn : n < 10
    · rw [Nat.toDigits_of_lt_base hn, List.head?_cons]
      have hdigit : ∀ d < 10, 0 < d → some (Nat.digitChar d) ≠ some '0' := by decide
      exact hdigit n hn h
    · rw [head?_toDigits_of_le (by omega)]
      exact ih (n / 10) (by omega) (by omega)

theorem isWhole_toDigits (n : Nat) : IsWhole (Nat.toDigits 10 n) := by
  refine ⟨⟨Nat.toDigits_ne_nil, fun d hd => ?_⟩, fun hzero => ?_⟩
  · exact Nat.isDigit_of_mem_toDigits (by decide) (by decide) hd
  · rcases Nat.eq_zero_or_pos n with rfl | hn
    · rfl
    · exact absurd hzero (head?_toDigits_ne_zero hn)

theorem le_ofDigitChars (ds : List Char) (total : Nat) :
    total ≤ Nat.ofDigitChars 10 ds total := by
  induction ds generalizing total with
  | nil => exact Nat.le_refl total
  | cons d ds ih =>
    rw [Nat.ofDigitChars_cons]
    have hrest := ih (10 * total + (d.toNat - '0'.toNat))
    omega

/-- Digits are all added up if what they stand for fits. -/
theorem absorb_eq {ds : List Char} {total : Nat}
    (h : Nat.ofDigitChars 10 ds total < Nat.pow 2 64) :
    absorb total ds = ⟨Nat.ofDigitChars 10 ds total, ds.length, 0⟩ := by
  induction ds generalizing total with
  | nil => rfl
  | cons d ds ih =>
    have hcons : Nat.ofDigitChars 10 (d :: ds) total =
        Nat.ofDigitChars 10 ds (10 * total + digitValue d) := Nat.ofDigitChars_cons
    rw [hcons] at h ⊢
    have hnext := Nat.lt_of_le_of_lt (le_ofDigitChars ds (10 * total + digitValue d)) h
    rw [absorb]
    simp only [if_pos hnext, ih h]
    rfl

theorem value_toDigits {n : Nat} (h : n < Nat.pow 2 64) :
    Numeral.value ⟨Nat.toDigits 10 n, none, none⟩ false = .ok (.natural n) := by
  have hvalue : Nat.ofDigitChars 10 (Nat.toDigits 10 n) 0 = n := Nat.ofDigitChars_ten_toDigits
  have habsorb : absorb 0 (Nat.toDigits 10 n) = ⟨n, (Nat.toDigits 10 n).length, 0⟩ := by
    rw [absorb_eq (by rw [hvalue]; exact h), hvalue]
  rw [Numeral.value, habsorb]
  rfl

/-- Behind its first digit a count is read to its end. -/
theorem yields_numberFrom_count {n : Nat} {c : Char} {ds rest : List Char} (h : n < Nat.pow 2 64)
    (hn : Nat.toDigits 10 n = c :: ds) (hrest : Delimited rest) :
    (numberFrom c).Yields (ds ++ rest) (.natural n) rest := by
  have hwhole := isWhole_toDigits n
  rw [hn] at hwhole
  have hnumber := hrest.noNumber
  have hsign : c ≠ '-' := ne_of_isDigit (hwhole.1.2 c List.mem_cons_self) rfl
  have hnumeral : (numeralFrom .endInValue c).Yields (ds ++ rest) ⟨c :: ds, none, none⟩ rest :=
    (yields_wholeFrom hwhole hnumber.1.1).bind
      ((yields_fractionPart_none _ hnumber.2).bind
        ((yields_exponentPart_none _ hnumber.1).bind (.pure _ _)))
  have hvalue := value_toDigits h
  rw [hn] at hvalue
  rw [numberFrom, if_neg hsign]
  refine hnumeral.bind ?_
  rw [valued, hvalue]
  exact .pure _ _

/-! ## Arrays -/

/-- A text that can be an element of an array, by its first character. -/
def StartsElement (t : List Char) : Prop :=
  ∃ c cs, t = c :: cs ∧ isJsonBlank c = false ∧ c ≠ ']'

/-- Behind white space the first character of an element is found. -/
theorem StartsElement.exists_skip {t w : List Char} (h : StartsElement t) (hw : IsSpace w)
    (rest : List Char) : ∃ c cs, skip (w ++ (t ++ rest)) = c :: cs ∧ c ≠ ']' := by
  obtain ⟨c, cs, rfl, hblank, hclosing⟩ := h
  exact ⟨c, cs ++ rest, skip_space_cons hw hblank (cs ++ rest), hclosing⟩

section Arrays

variable {item : Reader α} {E : β → List Char → Prop} {value : β → α} {as : List β}

theorem readElements_of_close {T s rest : List Char} (acc : List α) (h : skip s = ']' :: rest)
    (bound : s.length ≤ T.length) :
    ∃ bound', readElements item acc s bound = .ok ⟨acc, rest, bound'⟩ := by
  refine ⟨length_le_after h bound, ?_⟩
  rw [readElements]
  split
  next hs => rw [h] at hs; cases hs
  next hs =>
    rw [h] at hs
    cases hs
    rfl

theorem readElements_of_comma {T s cs ds rest : List Char} {d : Char} {a : α} (acc : List α)
    (h : skip s = ',' :: cs) (hd : skip cs = d :: ds) (hclosing : d ≠ ']')
    (ha : item.Yields cs a rest) (bound : s.length ≤ T.length) :
    ∃ bound', readElements item acc s bound = readElements item (a :: acc) rest bound' := by
  obtain ⟨hbound, hitem⟩ := ha
  refine ⟨Text.length_le_trans hbound (length_le_after h bound), ?_⟩
  rw [readElements]
  split
  next hs => rw [h] at hs; cases hs
  next hs =>
    rw [h] at hs
    cases hs
    simp only [if_neg (by decide : ',' ≠ ']'), if_true, hd, if_neg hclosing, hitem]

theorem readElements_listedRest {t : List Char} (h : ListedRest .array E as t)
    (has : ∀ a ∈ as, ∀ u, E a u → StartsElement u ∧ item.Reads u (value a)) {T : List Char}
    (acc : List α) (rest : List Char) (bound : (t ++ rest).length ≤ T.length) :
    ∃ bound', readElements item acc (t ++ rest) bound =
      .ok ⟨(as.map value).reverse ++ acc, rest, bound'⟩ := by
  induction h generalizing acc with
  | @close w hw =>
    have hskip : skip (w ++ [Bracket.array.closing] ++ rest) = ']' :: rest := by
      rw [List.append_assoc]
      exact skip_space_cons hw rfl rest
    exact readElements_of_close acc hskip bound
  | @more a as w w' u t hw hw' ha h ih =>
    obtain ⟨⟨hstart, hread⟩, has⟩ := (List.forall_mem_cons.1 has).imp (fun h => h u ha) id
    obtain ⟨d, ds, hd, hclosing⟩ := hstart.exists_skip hw' (t ++ rest)
    have hskip : skip (w ++ ',' :: (w' ++ (u ++ t)) ++ rest) =
        ',' :: (w' ++ (u ++ (t ++ rest))) := by
      have hsplit : w ++ ',' :: (w' ++ (u ++ t)) ++ rest =
          w ++ ',' :: (w' ++ (u ++ (t ++ rest))) := by simp
      rw [hsplit, skip_space_cons hw rfl]
    have hitem := hread w' (t ++ rest) hw' (h.delimited rest)
    obtain ⟨bound', hfirst⟩ := readElements_of_comma acc hskip hd hclosing hitem bound
    obtain ⟨bound'', hrest⟩ := ih has (value a :: acc) bound'
    refine ⟨bound'', ?_⟩
    rw [hfirst, hrest, List.map_cons, List.reverse_cons, List.append_assoc, List.singleton_append]

/-- The elements of an array are read in order. -/
theorem yields_readItems {body : List Char} (h : Listed .array E as ('[' :: body))
    (has : ∀ a ∈ as, ∀ u, E a u → StartsElement u ∧ item.Reads u (value a))
    (rest : List Char) : (readItems item).Yields (body ++ rest) (as.map value) rest := by
  generalize hx : '[' :: body = x at h
  cases h with
  | @nil w hw =>
    obtain ⟨-, rfl⟩ := List.cons.inj hx
    have hskip : skip (w ++ [Bracket.array.closing] ++ rest) = ']' :: rest := by
      rw [List.append_assoc]
      exact skip_space_cons hw rfl rest
    refine ⟨length_le_of_skip hskip, ?_⟩
    rw [readItems]
    split
    next hs => rw [hskip] at hs; cases hs
    next hs =>
      rw [hskip] at hs
      cases hs
      rfl
  | @cons a as w u t hw ha h =>
    obtain ⟨-, rfl⟩ := List.cons.inj hx
    obtain ⟨⟨hstart, hread⟩, has⟩ := (List.forall_mem_cons.1 has).imp (fun h => h u ha) id
    have hsplit : w ++ (u ++ t) ++ rest = w ++ (u ++ (t ++ rest)) := by simp
    obtain ⟨d, ds, hd, hclosing⟩ := hstart.exists_skip hw (t ++ rest)
    obtain ⟨hbound, hitem⟩ := hread w (t ++ rest) hw (h.delimited rest)
    obtain ⟨bound', hrest⟩ := readElements_listedRest h has [value a] rest hbound
    rw [hsplit]
    refine ⟨bound', ?_⟩
    rw [readItems]
    split
    next hs => rw [hd] at hs; cases hs
    next hs =>
      rw [hd] at hs
      cases hs
      simp only [if_neg hclosing, hitem, hrest]
      simp [Except.map, Text.Read.map]

end Arrays

/-! ## Values -/

/-- A value with at most so many levels of arrays and objects, and with no numbers but counts. -/
inductive IsReadable : Nat → Json → Prop
  | flat {levels : Nat} {v : Json} (h : IsFlat v) : IsReadable levels v
  | count {levels n : Nat} (h : n < Nat.pow 2 64) : IsReadable levels (nat n)
  | array {levels : Nat} {vs : List Json} (h : ∀ v ∈ vs, IsReadable levels v) :
      IsReadable (levels + 1) (.array vs)
  | object {levels : Nat} {ms : List (String × Json)} (h : ∀ m ∈ ms, IsReadable levels m.2) :
      IsReadable (levels + 1) (.object ms)

theorem eq_toDigits_of_spells {n : Nat} {t : List Char} (h : Spells (nat n) t) :
    t = Nat.toDigits 10 n := by
  cases h with
  | number => exact Nat.toList_repr

theorem startsElement_of_isFlat {v : Json} {t : List Char} (hv : IsFlat v) (h : Spells v t) :
    StartsElement t := by
  cases hv with
  | null => cases h; exact ⟨_, _, rfl, rfl, by decide⟩
  | bool b => cases h <;> exact ⟨_, _, rfl, rfl, by decide⟩
  | string s =>
    obtain ⟨parts, -, rfl⟩ := h.spellsString
    exact ⟨_, _, rfl, rfl, by decide⟩

theorem IsReadable.startsElement {levels : Nat} {v : Json} {t : List Char}
    (hv : IsReadable levels v) (h : Spells v t) : StartsElement t := by
  cases hv with
  | flat hv => exact startsElement_of_isFlat hv h
  | @count _ n hn =>
    obtain ⟨c, ds, hcons, hc⟩ := exists_cons_of_isWhole (isWhole_toDigits n)
    exact ⟨c, ds, (eq_toDigits_of_spells h).trans hcons, isJsonBlank_of_isDigit hc,
      ne_of_isDigit hc rfl⟩
  | array =>
    obtain ⟨body, rfl⟩ := h.listed_of_array.exists_eq_opening
    exact ⟨_, body, rfl, rfl, by decide⟩
  | object =>
    obtain ⟨body, rfl⟩ := h.listed_of_object.exists_eq_opening
    exact ⟨_, body, rfl, rfl, by decide⟩

theorem scalarFrom_of_isDigit {c : Char} (hc : c.isDigit = true) :
    scalarFrom c = .number <$> numberFrom c := by
  unfold scalarFrom
  rw [if_neg (ne_of_isDigit hc rfl), if_neg (ne_of_isDigit hc rfl), if_neg (ne_of_isDigit hc rfl)]
  refine (if_neg (ne_of_isDigit hc rfl)).trans ?_
  rw [if_pos (by simp [hc])]

theorem reads_readTree_count (levels : Nat) {n : Nat} (h : n < Nat.pow 2 64) :
    (readTree levels).Reads (Nat.toDigits 10 n) (nat n) := by
  obtain ⟨choose, hread, hchoose⟩ := exists_readTree_eq_readBy levels
  obtain ⟨c, ds, hn, hc⟩ := exists_cons_of_isWhole (isWhole_toDigits n)
  rw [hread, hn]
  refine reads_readBy (isJsonBlank_of_isDigit hc)
    (hchoose c (ne_of_isDigit hc rfl) (ne_of_isDigit hc rfl)) fun rest hrest => ?_
  rw [scalarFrom_of_isDigit hc]
  exact (yields_numberFrom_count h hn hrest).map _

/-- A value that is readable is read back from all its texts. -/
theorem reads_readTree {levels : Nat} {v : Json} {t : List Char} (hv : IsReadable levels v)
    (h : Spells v t) : (readTree levels).Reads t v := by
  induction hv generalizing t with
  | @flat levels v hv => exact reads_readTree_flat levels hv h
  | @count levels n hn =>
    rw [eq_toDigits_of_spells h]
    exact reads_readTree_count levels hn
  | @array levels vs hvs ih =>
    have hlisted := h.listed_of_array
    have hitems : ∀ v ∈ vs, ∀ u, Spells v u → StartsElement u ∧ (readTree levels).Reads u v :=
      fun v hv u hu => ⟨(hvs v hv).startsElement hu, ih v hv hu⟩
    obtain ⟨body, rfl⟩ := hlisted.exists_eq_opening
    rw [readTree]
    refine reads_readBy rfl rfl fun rest _ => ?_
    have hread := (yields_readItems hlisted hitems rest).map Json.array
    rw [List.map_id'] at hread
    exact hread
  | @object levels ms hms ih =>
    have hread := reads_readTree_members h.listed_of_object fun m hm v hv => ih m hm hv
    rwa [List.map_id'] at hread

/-- What is printed can be read, with any white space behind it. -/
theorem parse_pretty_append {v : Json} {s : String} (hv : IsReadable greatestDepth v)
    (hs : IsSpace s.toList) : parse (v.pretty ++ s) = .ok v := by
  rw [parse, String.toList_append, pretty, String.toList_ofList]
  exact finish_of_reads (reads_readTree hv (spells_prettyChars 0 v)) isSpace_nil hs

end QueryLint.Json
