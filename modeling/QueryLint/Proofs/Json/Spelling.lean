import Mathlib.Data.List.Forall2
import QueryLint.Json.Ignored

/-!
# Ways to write a value

A value has many texts.  White space may stand between any two parts of it, and a character of a
string stands for itself or is escaped in one of several ways.  What these texts have in common
is said here by relations, which know nothing of the readers.

There are two of them, because a reader that passes over a value looks at its grammar only.
`Spells` relates a value to the texts that mean it.  `IsValueText` holds of every text that is
built like a value; its numbers may be of any size and its strings may hold one half of a
character without the other, so some of these texts mean nothing.

* `SpellsChar`, `SpellsString`: strings and what they mean.
* `Listed`, `MemberText`: what stands between brackets, for any relation between the elements and
  their texts.
* `Spells`, `IsValueText`: values.
-/

namespace QueryLint.Json

variable {α β κ : Type}

/-- White space between the parts of a text. -/
def IsSpace (w : List Char) : Prop := ∀ c ∈ w, isJsonBlank c = true

/-! ## Strings -/

/-- The letters that stand for a character behind a backslash. -/
def escapeLetters : List (Char × Char) :=
  [('"', '"'), ('\\', '\\'), ('/', '/'), ('b', '\x08'), ('f', '\x0c'), ('n', '\n'), ('r', '\r'),
    ('t', '\t')]

/-- A character and a way to write it inside quotes. -/
inductive SpellsChar : Char → List Char → Prop
  | plain {c : Char} (hquote : c ≠ '"') (hbackslash : c ≠ '\\') (hcontrol : 0x20 ≤ c.toNat) :
      SpellsChar c [c]
  | letter {c l : Char} (h : (l, c) ∈ escapeLetters) : SpellsChar c ['\\', l]
  | unit {c a₁ a₂ a₃ a₄ : Char} (h : hexNumber? a₁ a₂ a₃ a₄ = some c.toNat) :
      SpellsChar c ['\\', 'u', a₁, a₂, a₃, a₄]
  | pair {c a₁ a₂ a₃ a₄ b₁ b₂ b₃ b₄ : Char} {high low : Nat}
      (ha : hexNumber? a₁ a₂ a₃ a₄ = some (0xD800 + high))
      (hb : hexNumber? b₁ b₂ b₃ b₄ = some (0xDC00 + low)) (hhigh : high < 0x400)
      (hlow : low < 0x400) (hc : c.toNat = 0x10000 + high * 0x400 + low) :
      SpellsChar c ['\\', 'u', a₁, a₂, a₃, a₄, '\\', 'u', b₁, b₂, b₃, b₄]

/-- A string and a text for it: one text for each character, between quotes. -/
def SpellsString (s : String) (t : List Char) : Prop :=
  ∃ parts, List.Forall₂ SpellsChar s.toList parts ∧ t = '"' :: (parts.flatten ++ ['"'])

/-- A part of a string that is built like one character. -/
inductive IsCharText : List Char → Prop
  | plain {c : Char} (hquote : c ≠ '"') (hbackslash : c ≠ '\\') (hcontrol : 0x20 ≤ c.toNat) :
      IsCharText [c]
  | letter {c l : Char} (h : (l, c) ∈ escapeLetters) : IsCharText ['\\', l]
  | unit {n : Nat} {a₁ a₂ a₃ a₄ : Char} (h : hexNumber? a₁ a₂ a₃ a₄ = some n) :
      IsCharText ['\\', 'u', a₁, a₂, a₃, a₄]

/-- A text that is built like a string. -/
def IsStringText (t : List Char) : Prop :=
  ∃ parts : List (List Char), (∀ u ∈ parts, IsCharText u) ∧ t = '"' :: (parts.flatten ++ ['"'])

/-! ## Numbers -/

/-- One or more digits. -/
def IsDigits (ds : List Char) : Prop := ds ≠ [] ∧ ∀ d ∈ ds, d.isDigit = true

/-- The digits in front of the point, without a superfluous zero. -/
def IsWhole (ds : List Char) : Prop := IsDigits ds ∧ (ds.head? = some '0' → ds = ['0'])

/-- Nothing, or a point with digits behind it. -/
def IsFraction (t : List Char) : Prop := t = [] ∨ ∃ ds, IsDigits ds ∧ t = '.' :: ds

/-- Nothing, or the mark of an exponent with digits behind it and maybe a sign between them. -/
def IsExponent (t : List Char) : Prop :=
  t = [] ∨ ∃ e sign ds, (e = 'e' ∨ e = 'E') ∧ (sign = [] ∨ sign = ['+'] ∨ sign = ['-']) ∧
    IsDigits ds ∧ t = e :: (sign ++ ds)

/-- A text that is built like a number. -/
inductive IsNumberText : List Char → Prop
  | mk {sign whole fraction exponent : List Char} (hsign : sign = [] ∨ sign = ['-'])
      (hwhole : IsWhole whole) (hfraction : IsFraction fraction) (hexponent : IsExponent exponent) :
      IsNumberText (sign ++ (whole ++ (fraction ++ exponent)))

/-! ## Lists in brackets -/

/-- The character that opens a list. -/
def Bracket.opening : Bracket → Char
  | array => '['
  | object => '\x7b'

/-- What follows an element of a list: the other elements, each behind a comma, and the end. -/
inductive ListedRest (b : Bracket) (E : α → List Char → Prop) : List α → List Char → Prop
  | close {w : List Char} (hw : IsSpace w) : ListedRest b E [] (w ++ [b.closing])
  | more {a : α} {as : List α} {w w' u t : List Char} (hw : IsSpace w) (hw' : IsSpace w')
      (ha : E a u) (h : ListedRest b E as t) :
      ListedRest b E (a :: as) (w ++ ',' :: (w' ++ (u ++ t)))

/-- Elements in brackets, each written in a way that `E` allows. -/
inductive Listed (b : Bracket) (E : α → List Char → Prop) : List α → List Char → Prop
  | nil {w : List Char} (hw : IsSpace w) : Listed b E [] (b.opening :: (w ++ [b.closing]))
  | cons {a : α} {as : List α} {w u t : List Char} (hw : IsSpace w) (ha : E a u)
      (h : ListedRest b E as t) : Listed b E (a :: as) (b.opening :: (w ++ (u ++ t)))

/-- A key and a value with a colon between them, written in ways that `K` and `V` allow. -/
inductive MemberText (K : κ → List Char → Prop) (V : β → List Char → Prop) :
    κ × β → List Char → Prop
  | mk {m : κ × β} {k w w' v : List Char} (hk : K m.1 k) (hw : IsSpace w) (hw' : IsSpace w')
      (hv : V m.2 v) : MemberText K V m (k ++ (w ++ ':' :: (w' ++ v)))

section Listed

variable {b : Bracket} {E : α → List Char → Prop} {F : β → List Char → Prop} {as : List α}
  {t : List Char}

theorem ListedRest.map {f : α → β} (h : ListedRest b E as t)
    (hf : ∀ a ∈ as, ∀ u, E a u → F (f a) u) : ListedRest b F (as.map f) t := by
  induction h with
  | close hw => exact .close hw
  | more hw hw' ha _ ih =>
    exact .more hw hw' (hf _ List.mem_cons_self _ ha)
      (ih fun a ha' => hf a (List.mem_cons_of_mem _ ha'))

/-- Elements that are changed keep their texts, if the texts suit them. -/
theorem Listed.map {f : α → β} (h : Listed b E as t) (hf : ∀ a ∈ as, ∀ u, E a u → F (f a) u) :
    Listed b F (as.map f) t := by
  cases h with
  | nil hw => exact .nil hw
  | cons hw ha h =>
    exact .cons hw (hf _ List.mem_cons_self _ ha)
      (h.map fun a ha' => hf a (List.mem_cons_of_mem _ ha'))

theorem ListedRest.of_map {f : α → β} (h : ListedRest b F (as.map f) t) :
    ListedRest b (fun a => F (f a)) as t := by
  generalize hbs : as.map f = bs at h
  induction h generalizing as with
  | close hw =>
    obtain rfl := List.map_eq_nil_iff.1 hbs
    exact .close hw
  | more hw hw' hb _ ih =>
    obtain ⟨a, as, rfl, rfl, hrest⟩ := List.map_eq_cons_iff.1 hbs
    exact .more hw hw' hb (ih hrest)

theorem Listed.of_map {f : α → β} (h : Listed b F (as.map f) t) :
    Listed b (fun a => F (f a)) as t := by
  generalize hbs : as.map f = bs at h
  cases h with
  | nil hw =>
    obtain rfl := List.map_eq_nil_iff.1 hbs
    exact .nil hw
  | cons hw hb h =>
    obtain ⟨a, as, rfl, rfl, rfl⟩ := List.map_eq_cons_iff.1 hbs
    exact .cons hw hb h.of_map

variable {g : β → α} {P : β → Prop}

theorem ListedRest.exists_map (h : ListedRest b E as t)
    (hE : ∀ a u, E a u → ∃ c, g c = a ∧ F c u ∧ P c) :
    ∃ cs, cs.map g = as ∧ ListedRest b F cs t ∧ ∀ c ∈ cs, P c := by
  induction h with
  | close hw => exact ⟨[], rfl, .close hw, List.forall_mem_nil P⟩
  | more hw hw' ha _ ih =>
    obtain ⟨c, rfl, hc, hP⟩ := hE _ _ ha
    obtain ⟨cs, rfl, hcs, hPs⟩ := ih
    exact ⟨c :: cs, rfl, .more hw hw' hc hcs, List.forall_mem_cons.2 ⟨hP, hPs⟩⟩

/-- If each element comes with its text from something that is known about both, so do all. -/
theorem Listed.exists_map (h : Listed b E as t)
    (hE : ∀ a u, E a u → ∃ c, g c = a ∧ F c u ∧ P c) :
    ∃ cs, cs.map g = as ∧ Listed b F cs t ∧ ∀ c ∈ cs, P c := by
  cases h with
  | nil hw => exact ⟨[], rfl, .nil hw, List.forall_mem_nil P⟩
  | cons hw ha h =>
    obtain ⟨c, rfl, hc, hP⟩ := hE _ _ ha
    obtain ⟨cs, rfl, hcs, hPs⟩ := h.exists_map hE
    exact ⟨c :: cs, rfl, .cons hw hc hcs, List.forall_mem_cons.2 ⟨hP, hPs⟩⟩

end Listed

/-! ## Values -/

/-- A value and a text for it. -/
inductive Spells : Json → List Char → Prop
  | null : Spells .null ['n', 'u', 'l', 'l']
  | true : Spells (.bool true) ['t', 'r', 'u', 'e']
  | false : Spells (.bool false) ['f', 'a', 'l', 's', 'e']
  | number (n : Number) : Spells (.number n) n.toString.toList
  | string {s : String} {t : List Char} (h : SpellsString s t) : Spells (.string s) t
  | array {ps : List (Json × List Char)} {t : List Char}
      (h : Listed .array (fun p u => u = p.2) ps t) (hps : ∀ p ∈ ps, Spells p.1 p.2) :
      Spells (.array (ps.map Prod.fst)) t
  | object {ps : List (String × Json × List Char)} {t : List Char}
      (h : Listed .object (MemberText SpellsString fun p v => v = p.2) ps t)
      (hps : ∀ p ∈ ps, Spells p.2.1 p.2.2) : Spells (.object (ps.map fun p => (p.1, p.2.1))) t

/-- A text that is built like a value. -/
inductive IsValueText : List Char → Prop
  | null : IsValueText ['n', 'u', 'l', 'l']
  | true : IsValueText ['t', 'r', 'u', 'e']
  | false : IsValueText ['f', 'a', 'l', 's', 'e']
  | number {t : List Char} (h : IsNumberText t) : IsValueText t
  | string {t : List Char} (h : IsStringText t) : IsValueText t
  | array {us : List (List Char)} {t : List Char} (h : Listed .array (fun u v => v = u) us t)
      (hus : ∀ u ∈ us, IsValueText u) : IsValueText t
  | object {ms : List (List Char × List Char)} {t : List Char}
      (h : Listed .object (MemberText (fun k u => u = k ∧ IsStringText u) fun u v => v = u) ms t)
      (hms : ∀ m ∈ ms, IsValueText m.2) : IsValueText t

namespace Spells

theorem spellsString {s : String} {t : List Char} (h : Spells (.string s) t) :
    SpellsString s t := by
  cases h with
  | string h => exact h

theorem array_of_listed {vs : List Json} {t : List Char} (h : Listed .array Spells vs t) :
    Spells (.array vs) t := by
  obtain ⟨ps, rfl, hps, hspells⟩ := h.exists_map (g := Prod.fst) (F := fun p u => u = p.2)
    (P := fun p => Spells p.1 p.2) fun v u hv => ⟨(v, u), rfl, rfl, hv⟩
  exact .array hps hspells

theorem object_of_listed {ms : List (String × Json)} {t : List Char}
    (h : Listed .object (MemberText SpellsString Spells) ms t) : Spells (.object ms) t := by
  obtain ⟨ps, rfl, hps, hspells⟩ := h.exists_map
    (g := fun p : String × Json × List Char => (p.1, p.2.1))
    (F := MemberText SpellsString fun p v => v = p.2) (P := fun p => Spells p.2.1 p.2.2) (by
      rintro ⟨key, value⟩ _ ⟨hk, hw, hw', hv⟩
      exact ⟨(key, value, _), rfl, .mk hk hw hw' rfl, hv⟩)
  exact .object hps hspells

theorem listed_of_array {vs : List Json} {t : List Char} (h : Spells (.array vs) t) :
    Listed .array Spells vs t := by
  cases h with
  | array h hps =>
    refine h.map fun p hp u hu => ?_
    rw [hu]
    exact hps p hp

theorem listed_of_object {ms : List (String × Json)} {t : List Char}
    (h : Spells (.object ms) t) : Listed .object (MemberText SpellsString Spells) ms t := by
  cases h with
  | object h hps =>
    refine h.map fun p hp u hu => ?_
    obtain ⟨hk, hw, hw', rfl⟩ := hu
    exact .mk hk hw hw' (hps p hp)

end Spells

end QueryLint.Json
