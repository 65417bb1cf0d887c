import QueryLint.Json.Printer
import QueryLint.Proofs.Json.Spelling

/-!
# What is printed is spelled

A printed value is one of its own texts, on one line or on many (`spells_compactChars`,
`spells_prettyChars`).  The two printers differ in the white space that they leave between
elements and nowhere else, so both go through `tailText`.
-/

namespace QueryLint.Json

variable {α : Type}

/-! ## Strings -/

theorem hexNumber?_of_lt {n : Nat} (h : n < 0x20) :
    hexNumber? '0' '0' (Nat.digitChar (n / 16)) (Nat.digitChar (n % 16)) = some n := by
  revert n
  decide

theorem spellsChar_escape (c : Char) : SpellsChar c (escape c) := by
  have letter {l d : Char} (hc : c = d) (hl : (l, d) ∈ escapeLetters) :
      SpellsChar c ['\\', l] := .letter (hc ▸ hl)
  rw [escape]
  split
  next h => exact letter h (by decide)
  split
  next h => exact letter h (by decide)
  split
  next h => exact letter h (by decide)
  split
  next h => exact letter h (by decide)
  split
  next h => exact letter h (by decide)
  split
  next h => exact letter h (by decide)
  split
  next h => exact letter h (by decide)
  split
  next h => exact .unit (hexNumber?_of_lt h)
  next hquote hbackslash _ _ _ _ _ h => exact .plain hquote hbackslash (Nat.not_lt.1 h)

theorem spellsString_printString (s : String) : SpellsString s (printString s) := by
  refine ⟨s.toList.map escape, ?_, ?_⟩
  · rw [List.forall₂_map_right_iff, List.forall₂_same]
    exact fun c _ => spellsChar_escape c
  · rw [printString, List.flatMap_def]

/-! ## Lists -/

/-- The texts of the elements behind the first one, each with `comma` in front, and `close`. -/
def tailText (comma close : List Char) : List (List Char) → List Char
  | [] => close
  | u :: us => comma ++ (u ++ tailText comma close us)

theorem isSpace_nil : IsSpace [] := List.forall_mem_nil _

theorem isSpace_blank : IsSpace [' '] := List.forall_mem_singleton.2 rfl

theorem listedRest_tailText {b : Bracket} {E : α → List Char → Prop} {as : List α}
    {print : α → List Char} {w w' : List Char} (hw : IsSpace w) (hw' : IsSpace w')
    (h : ∀ a ∈ as, E a (print a)) :
    ListedRest b E as (tailText (',' :: w) (w' ++ [b.closing]) (as.map print)) := by
  induction as with
  | nil => exact .close hw'
  | cons a as ih =>
    obtain ⟨ha, has⟩ := List.forall_mem_cons.1 h
    exact .more isSpace_nil hw ha (ih has)

/-- Elements are a list if each of them is printed in a way that is allowed. -/
theorem listed_tailText {b : Bracket} {E : α → List Char → Prop} {a : α} {as : List α}
    {print : α → List Char} {v w w' : List Char} (hv : IsSpace v) (hw : IsSpace w)
    (hw' : IsSpace w') (h : ∀ a' ∈ a :: as, E a' (print a')) :
    Listed b E (a :: as) (b.opening ::
      (v ++ (print a ++ tailText (',' :: w) (w' ++ [b.closing]) (as.map print)))) := by
  obtain ⟨ha, has⟩ := List.forall_mem_cons.1 h
  exact .cons hv ha (listedRest_tailText hw hw' has)

/-! ## Parts of a value -/

theorem sizeOf_item_lt {v : Json} {vs : List Json} (h : v ∈ vs) :
    sizeOf v < sizeOf (Json.array vs) := by
  have hv := List.sizeOf_lt_of_mem h
  rw [array.sizeOf_spec]
  omega

theorem sizeOf_member_lt {m : String × Json} {ms : List (String × Json)} (h : m ∈ ms) :
    sizeOf m.2 < sizeOf (Json.object ms) := by
  have hm := List.sizeOf_lt_of_mem h
  rw [object.sizeOf_spec]
  cases m
  rw [Prod.mk.sizeOf_spec] at hm
  simp only
  omega

/-! ## On one line -/

/-- A member of an object on one line. -/
def compactMember (m : String × Json) : List Char := printString m.1 ++ ':' :: compactChars m.2

theorem compactItems_cons (v : Json) (vs : List Json) :
    compactItems (v :: vs) = compactChars v ++ tailText [','] [']'] (vs.map compactChars) := by
  induction vs generalizing v with
  | nil => simp [compactItems, tailText]
  | cons w vs ih => simp [compactItems, tailText, ih]

theorem compactMembers_cons (m : String × Json) (ms : List (String × Json)) :
    compactMembers (m :: ms) =
      compactMember m ++ tailText [','] ['\x7d'] (ms.map compactMember) := by
  induction ms generalizing m with
  | nil => simp [compactMembers, compactMember, tailText]
  | cons n ms ih => simp [compactMembers, compactMember, tailText, ih]

/-- A value on one line is one of its texts. -/
theorem spells_compactChars : (v : Json) → Spells v (compactChars v)
  | .null => .null
  | .bool true => .true
  | .bool false => .false
  | .number n => .number n
  | .string s => .string (spellsString_printString s)
  | .array [] => .array_of_listed (.nil isSpace_nil)
  | .object [] => .object_of_listed (.nil isSpace_nil)
  | .array (v :: vs) => by
    have hall : ∀ u ∈ v :: vs, Spells u (compactChars u) := fun u hu => spells_compactChars u
    rw [compactChars, compactItems_cons]
    exact .array_of_listed (listed_tailText isSpace_nil isSpace_nil isSpace_nil hall)
  | .object (m :: ms) => by
    have hall : ∀ n ∈ m :: ms, MemberText SpellsString Spells n (compactMember n) := fun n hn =>
      .mk (spellsString_printString n.1) isSpace_nil isSpace_nil (spells_compactChars n.2)
    rw [compactChars, compactMembers_cons]
    exact .object_of_listed (listed_tailText isSpace_nil isSpace_nil isSpace_nil hall)
termination_by v => sizeOf v
decreasing_by
  · exact sizeOf_item_lt hu
  · exact sizeOf_member_lt hn

/-! ## On many lines -/

/-- A member of an object at `depth` levels. -/
def prettyMember (depth : Nat) (m : String × Json) : List Char :=
  printString m.1 ++ ':' :: ' ' :: prettyChars depth m.2

theorem isSpace_newLine (depth : Nat) : IsSpace (newLine depth) := by
  intro c hc
  rcases List.mem_cons.1 hc with rfl | hc
  · rfl
  · obtain ⟨-, rfl⟩ := List.mem_replicate.1 hc
    rfl

theorem prettyItems_cons (depth : Nat) (v : Json) (vs : List Json) :
    prettyItems depth (v :: vs) =
      prettyChars depth v ++ tailText (',' :: newLine depth) (newLine (depth - 1) ++ [']'])
        (vs.map (prettyChars depth)) := by
  induction vs generalizing v with
  | nil => simp [prettyItems, tailText]
  | cons w vs ih => simp [prettyItems, tailText, ih]

theorem prettyMembers_cons (depth : Nat) (m : String × Json) (ms : List (String × Json)) :
    prettyMembers depth (m :: ms) =
      prettyMember depth m ++ tailText (',' :: newLine depth) (newLine (depth - 1) ++ ['\x7d'])
        (ms.map (prettyMember depth)) := by
  induction ms generalizing m with
  | nil => simp [prettyMembers, prettyMember, tailText]
  | cons n ms ih => simp [prettyMembers, prettyMember, tailText, ih]

/-- A value on many lines is one of its texts, at any depth. -/
theorem spells_prettyChars (depth : Nat) : (v : Json) → Spells v (prettyChars depth v)
  | .null => .null
  | .bool true => .true
  | .bool false => .false
  | .number n => .number n
  | .string s => .string (spellsString_printString s)
  | .array [] => .array_of_listed (.nil isSpace_nil)
  | .object [] => .object_of_listed (.nil isSpace_nil)
  | .array (v :: vs) => by
    have hall : ∀ u ∈ v :: vs, Spells u (prettyChars (depth + 1) u) := fun u hu =>
      spells_prettyChars (depth + 1) u
    rw [prettyChars, prettyItems_cons]
    exact .array_of_listed (listed_tailText (isSpace_newLine _) (isSpace_newLine _)
      (isSpace_newLine _) hall)
  | .object (m :: ms) => by
    have hall : ∀ n ∈ m :: ms,
        MemberText SpellsString Spells n (prettyMember (depth + 1) n) := fun n hn =>
      .mk (spellsString_printString n.1) isSpace_nil isSpace_blank
        (spells_prettyChars (depth + 1) n.2)
    rw [prettyChars, prettyMembers_cons]
    exact .object_of_listed (listed_tailText (isSpace_newLine _) (isSpace_newLine _)
      (isSpace_newLine _) hall)
termination_by v => sizeOf v
decreasing_by
  · exact sizeOf_item_lt hu
  · exact sizeOf_member_lt hn

end QueryLint.Json
