import QueryLint.Json.Tree
import QueryLint.Proofs.Json.Reading

/-!
# Objects with fields in any order

The fields of an object stand in any order, with unknown members between them.  What the object
says is therefore told field by field: a field is left out, or given once.  What a reader has taken
in depends on the members it has come past only through their keys.

* `IsObjectText`, `HasField`: an object and one field of it.
* `takesMembers_of_step`, `HasField.takesMember`: a reader whose state is known in front of each
  member.
* `reads_readTree_object`: objects that hold no arrays and no objects, read into memory.
-/

namespace QueryLint.Json

variable {α β σ : Type}

/-! ## Fields -/

/-- The text is an object with the members `ms`, each a key and the text of its value. -/
def IsObjectText (ms : List (String × List Char)) (t : List Char) : Prop :=
  Listed .object (MemberText SpellsString fun u v => v = u) ms t

/-- The texts of the values under a key. -/
def textsUnder (key : String) (ms : List (String × List Char)) : List (List Char) :=
  (ms.filter fun m => m.1 == key).map Prod.snd

/-- The field is left out, which needs `omissible`, or it is given once by a text that `W`
allows. -/
inductive HasField (key : String) (omissible : Prop) (W : List Char → Prop)
    (ms : List (String × List Char)) : Prop
  | omitted (h : omissible) (hms : textsUnder key ms = [])
  | given {v : List Char} (h : W v) (hms : textsUnder key ms = [v])

theorem textsUnder_eq_nil_iff {key : String} {ms : List (String × List Char)} :
    textsUnder key ms = [] ↔ key ∉ ms.map Prod.fst := by
  rw [textsUnder, List.map_eq_nil_iff, List.filter_eq_nil_iff]
  constructor
  · intro h hkey
    obtain ⟨m, hm, rfl⟩ := List.mem_map.1 hkey
    exact h m hm (beq_self_eq_true m.1)
  · intro h m hm hkey
    exact h (List.mem_map.2 ⟨m, hm, beq_iff_eq.1 hkey⟩)

theorem textsUnder_append_cons (key : String) (v : List Char)
    (front behind : List (String × List Char)) :
    textsUnder key (front ++ (key, v) :: behind) =
      textsUnder key front ++ v :: textsUnder key behind := by
  have hcons := List.filter_cons_of_pos (p := fun m : String × List Char => m.1 == key)
    (a := (key, v)) (l := behind) (beq_self_eq_true key)
  rw [textsUnder, List.filter_append, hcons, List.map_append, List.map_cons]
  rfl

namespace HasField

variable {key : String} {omissible : Prop} {W : List Char → Prop} {v : List Char}
  {ms front behind : List (String × List Char)}

/-- A field that is given is given for the first time. -/
theorem notMem_and_allowed (h : HasField key omissible W (front ++ (key, v) :: behind)) :
    key ∉ front.map Prod.fst ∧ W v := by
  cases h with
  | omitted _ hms =>
    rw [textsUnder_append_cons] at hms
    exact absurd hms (by simp)
  | given hv hms =>
    rw [textsUnder_append_cons, List.append_eq_singleton_iff] at hms
    rcases hms with ⟨hfront, hcons⟩ | ⟨-, hcons⟩
    · obtain ⟨rfl, -⟩ := List.cons.inj hcons
      exact ⟨textsUnder_eq_nil_iff.1 hfront, hv⟩
    · exact absurd hcons (List.cons_ne_nil _ _)

theorem allowed_of_mem (h : HasField key omissible W ms) (hv : (key, v) ∈ ms) : W v := by
  obtain ⟨front, behind, rfl⟩ := List.append_of_mem hv
  exact h.notMem_and_allowed.2

theorem length_textsUnder_le (h : HasField key omissible W ms) :
    (textsUnder key ms).length ≤ 1 := by
  cases h with
  | omitted _ hms => rw [hms]; exact Nat.zero_le 1
  | given _ hms => rw [hms]; exact Nat.le_refl 1

theorem omissible_of_notMem (h : HasField key omissible W ms) (hkey : key ∉ ms.map Prod.fst) :
    omissible := by
  cases h with
  | omitted h => exact h
  | given _ hms =>
    rw [textsUnder_eq_nil_iff.2 hkey] at hms
    exact absurd hms (List.cons_ne_nil _ _).symm

end HasField

/-! ## States in front of each member -/

/-- What has been read of a field behind members with the given keys, if its value is `a`. -/
def readAfter (given : List String) (key : String) (a : α) : Option α :=
  if key ∈ given then some a else none

section ReadAfter

variable {given : List String} {key k : String} {a b : α}

theorem readAfter_concat_self (given : List String) (key : String) (a : α) :
    readAfter (given ++ [key]) key a = some a :=
  if_pos (List.mem_append_right given (List.mem_singleton_self key))

theorem readAfter_concat_of_ne (h : key ≠ k) (given : List String) (a : α) :
    readAfter (given ++ [k]) key a = readAfter given key a := by
  have hmem : key ∈ given ++ [k] ↔ key ∈ given := by simp [h]
  rw [readAfter, readAfter]
  exact if_congr hmem rfl rfl

theorem readAfter_of_notMem (h : key ∉ given) (a : α) : readAfter given key a = none := if_neg h

/-- Behind all members the value is `a`, if a field that is left out stands for `b`. -/
theorem HasField.getD_readAfter {omissible : Prop} {W : List Char → Prop}
    {ms : List (String × List Char)} (h : HasField key omissible W ms) (hb : omissible → a = b) :
    (readAfter (ms.map Prod.fst) key a).getD b = a := by
  by_cases hkey : key ∈ ms.map Prod.fst
  · rw [readAfter, if_pos hkey, Option.getD_some]
  · rw [readAfter_of_notMem hkey, Option.getD_none, hb (h.omissible_of_notMem hkey)]

end ReadAfter

/-- If the members that are read settle the state, and each member takes one state to the next,
then all members together lead to the last state. -/
theorem takesMembers_of_step {member : σ → String → Reader σ} {V : β → List Char → Prop}
    {state : List String → σ} {ms : List (String × β)}
    (hstep : ∀ front m behind, ms = front ++ m :: behind →
      TakesMember member V (state (front.map Prod.fst)) m (state (front.map Prod.fst ++ [m.1]))) :
    TakesMembers member V (state []) ms (state (ms.map Prod.fst)) := by
  have hrest (behind front : List (String × β)) (hms : ms = front ++ behind) :
      TakesMembers member V (state (front.map Prod.fst)) behind (state (ms.map Prod.fst)) := by
    induction behind generalizing front with
    | nil =>
      rw [hms, List.append_nil]
      exact .nil _
    | cons m behind ih =>
      have hlater := ih (front ++ [m]) (by rw [hms, List.append_assoc, List.singleton_append])
      rw [List.map_append, List.map_singleton] at hlater
      exact .cons (hstep front m behind hms) hlater
  exact hrest ms [] rfl

/-- A field that a record knows takes the state over its key, if it is not set before and its text
is read. -/
theorem HasField.takesMember {δ : Type} {r : Record δ α} {f : RecordField δ}
    {S : List String → δ} {key : String} {omissible : Prop} {W : List Char → Prop} {v : List Char}
    {front behind : List (String × List Char)}
    (h : HasField key omissible W (front ++ (key, v) :: behind))
    (hf : r.fields.find? (fun f => f.key == key) = some f)
    (hset : ∀ given, key ∉ given → f.isSet (S given) = false)
    (hread : ∀ given, W v → (f.read (S given)).Reads v (S (given ++ [key]))) :
    TakesMember r.member (fun u v => v = u) (S (front.map Prod.fst)) (key, v)
      (S (front.map Prod.fst ++ [key])) := by
  obtain ⟨hnew, hv⟩ := h.notMem_and_allowed
  refine Record.takesMember_of_find? hf (hset _ hnew) ?_
  rintro _ rfl
  exact hread _ hv

/-! ## Values in memory -/

/-- Null, a truth value or a string. -/
inductive IsFlat : Json → Prop
  | null : IsFlat .null
  | bool (b : Bool) : IsFlat (.bool b)
  | string (s : String) : IsFlat (.string s)

theorem reads_scalar {v : Json} {t : List Char} (hv : IsFlat v) (h : Spells v t)
    {expected : String} {choose : Char → Option (Reader Json)}
    (hchoose : ∀ c, c ≠ '[' → c ≠ '\x7b' → choose c = some (scalarFrom c)) :
    (readBy expected choose).Reads t v := by
  cases hv with
  | null =>
    cases h
    refine reads_readBy rfl (hchoose 'n' (by decide) (by decide)) fun rest _ => ?_
    exact (yields_wordTail ['u', 'l', 'l'] rest).map _
  | bool b =>
    cases h with
    | true =>
      refine reads_readBy rfl (hchoose 't' (by decide) (by decide)) fun rest _ => ?_
      exact (yields_wordTail ['r', 'u', 'e'] rest).map _
    | false =>
      refine reads_readBy rfl (hchoose 'f' (by decide) (by decide)) fun rest _ => ?_
      exact (yields_wordTail ['a', 'l', 's', 'e'] rest).map _
  | string s =>
    obtain ⟨parts, hparts, rfl⟩ := h.spellsString
    refine reads_readBy rfl (hchoose '"' (by decide) (by decide)) fun rest _ => ?_
    have hbody := (yields_stringBody hparts rest).map fun text => Json.string (String.ofList text)
    rw [String.ofList_toList] at hbody
    rwa [List.append_assoc]

/-- Whatever the number of levels, a value that is no array and no object is read as a scalar. -/
theorem exists_readTree_eq_readBy (levels : Nat) :
    ∃ choose, readTree levels = readBy "" choose ∧
      ∀ c, c ≠ '[' → c ≠ '\x7b' → choose c = some (scalarFrom c) := by
  cases levels with
  | zero => exact ⟨_, readTree.eq_1, fun c harray hobject => by simp [harray, hobject]⟩
  | succ levels =>
    exact ⟨_, readTree.eq_2 levels, fun c harray hobject => by simp [harray, hobject]⟩

theorem reads_readTree_flat (levels : Nat) {v : Json} {t : List Char} (hv : IsFlat v)
    (h : Spells v t) : (readTree levels).Reads t v := by
  obtain ⟨choose, hread, hchoose⟩ := exists_readTree_eq_readBy levels
  rw [hread]
  exact reads_scalar hv h hchoose

theorem takesMembers_treeMember {V : β → List Char → Prop} {item : Reader Json}
    {value : String × β → Json} {ms : List (String × β)}
    (hms : ∀ m ∈ ms, ∀ v, V m.2 v → item.Reads v (value m)) (acc : List (String × Json)) :
    TakesMembers (treeMember item) V acc ms
      ((ms.map fun m => (m.1, value m)).reverse ++ acc) := by
  rw [← List.foldl_flip_cons_eq_append]
  refine takesMembers_foldl (fun m hm acc => ?_) acc
  intro w w' v rest hw hw' hv hrest
  exact (yields_colon hw _).bind ((hms m hm v hv w' rest hw' hrest).bind (.pure _ _))

/-- An object is read into memory with its members in order. -/
theorem reads_readTree_members {levels : Nat} {V : β → List Char → Prop}
    {ms : List (String × β)} {t : List Char} {value : String × β → Json}
    (h : Listed .object (MemberText SpellsString V) ms t)
    (hms : ∀ m ∈ ms, ∀ v, V m.2 v → (readTree levels).Reads v (value m)) :
    (readTree (levels + 1)).Reads t (.object (ms.map fun m => (m.1, value m))) := by
  have hmembers := takesMembers_treeMember hms []
  obtain ⟨body, rfl⟩ := h.exists_eq_opening
  rw [readTree]
  refine reads_readBy rfl rfl fun rest _ => ?_
  have hread := (yields_members h hmembers rest).map fun ms => Json.object ms.reverse
  rw [List.append_nil, List.reverse_reverse] at hread
  exact hread

/-- The members may be flat. -/
theorem reads_readTree_object (levels : Nat) {ms : List (String × List Char)} {t : List Char}
    {value : String × List Char → Json} (h : IsObjectText ms t)
    (hms : ∀ m ∈ ms, IsFlat (value m) ∧ Spells (value m) m.2) :
    (readTree (levels + 1)).Reads t (.object (ms.map fun m => (m.1, value m))) := by
  refine reads_readTree_members h fun m hm v hv => ?_
  obtain rfl : v = m.2 := hv
  exact reads_readTree_flat levels (hms m hm).1 (hms m hm).2

end QueryLint.Json
