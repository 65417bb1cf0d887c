/-!
# Maps that keep the order of declaration

Tables, columns and foreign keys are listed in the order in which they were declared, so they
are kept in an association list without repeated keys.  A key that is declared again keeps its
place and takes the new value.

* `OrderedMap`: the type, with the absence of repeated keys as a field.
* `OrderedMap.get?`, `OrderedMap.insert`, `OrderedMap.ofList`: look-up and construction.
* `OrderedMap.keys_insert`, `OrderedMap.get?_insert`: what an insertion does to the keys and to
  each look-up.
-/

namespace QueryLint

/-- Pairs of keys and values in order of declaration, no key twice. -/
structure OrderedMap (α : Type) where
  entries : List (String × α)
  distinct : (entries.map Prod.fst).Nodup
  deriving DecidableEq

namespace OrderedMap

variable {α β : Type}

@[ext] theorem ext {m n : OrderedMap α} (h : m.entries = n.entries) : m = n := by
  cases m; cases n; cases h; rfl

/-- The map without entries. -/
def empty : OrderedMap α := ⟨[], List.nodup_nil⟩

instance : Inhabited (OrderedMap α) := ⟨empty⟩

instance [Repr α] : Repr (OrderedMap α) := ⟨fun m n => reprPrec m.entries n⟩

@[simp] theorem entries_empty : (empty : OrderedMap α).entries = [] := rfl

/-- The keys in order. -/
def keys (m : OrderedMap α) : List String := m.entries.map Prod.fst

/-- The values in order. -/
def values (m : OrderedMap α) : List α := m.entries.map Prod.snd

/-- The number of entries. -/
def size (m : OrderedMap α) : Nat := m.entries.length

theorem nodup_keys (m : OrderedMap α) : m.keys.Nodup := m.distinct

/-- The value under exactly this key. -/
def get? (m : OrderedMap α) (key : String) : Option α := m.entries.lookup key

/-- Whether there is an entry under exactly this key. -/
def contains (m : OrderedMap α) (key : String) : Bool := (m.get? key).isSome

/-- The value of the first key that passes a test. -/
def find? (m : OrderedMap α) (test : String → Bool) : Option α :=
  (m.entries.find? fun e => test e.1).map Prod.snd

/-- Sets the value under a key that is present, or adds the pair at the end. -/
def insertPairs (key : String) (value : α) : List (String × α) → List (String × α)
  | [] => [(key, value)]
  | e :: es => if e.1 = key then (key, value) :: es else e :: insertPairs key value es

theorem map_fst_insertPairs (key : String) (value : α) (es : List (String × α)) :
    (insertPairs key value es).map Prod.fst =
      if key ∈ es.map Prod.fst then es.map Prod.fst else es.map Prod.fst ++ [key] := by
  induction es with
  | nil => simp [insertPairs]
  | cons e es ih =>
    rw [insertPairs]
    by_cases h : e.1 = key
    · simp [h]
    · have h' : ¬ key = e.1 := fun hk => h hk.symm
      simp only [h, if_false, List.map_cons, ih, List.mem_cons, h', false_or]
      split <;> simp

/-- Declares a key: a known key keeps its place and takes the new value, and a new one comes
last. -/
def insert (m : OrderedMap α) (key : String) (value : α) : OrderedMap α where
  entries := insertPairs key value m.entries
  distinct := by
    rw [map_fst_insertPairs]
    split
    · exact m.distinct
    · next h =>
      refine List.nodup_append.2 ⟨m.distinct, by simp, ?_⟩
      intro a ha b hb hab
      rw [List.mem_singleton] at hb
      subst hb hab
      exact h ha

/-- The keys after an insertion. -/
theorem keys_insert (m : OrderedMap α) (key : String) (value : α) :
    (m.insert key value).keys = if key ∈ m.keys then m.keys else m.keys ++ [key] :=
  map_fst_insertPairs key value m.entries

theorem lookup_insertPairs (key k : String) (value : α) (es : List (String × α)) :
    (insertPairs key value es).lookup k = if k = key then some value else es.lookup k := by
  induction es with
  | nil =>
    by_cases hk : k = key
    · simp [insertPairs, hk]
    · simp [insertPairs, hk, List.lookup_cons, beq_false_of_ne hk]
  | cons e es ih =>
    obtain ⟨a, b⟩ := e
    rw [insertPairs]
    by_cases h : a = key
    · by_cases hk : k = key
      · simp [h, hk]
      · simp [h, List.lookup_cons, hk, beq_false_of_ne hk]
    · by_cases hk : k = a
      · subst hk; simp [h]
      · simp [h, List.lookup_cons, beq_false_of_ne hk, ih]

/-- Look-ups after an insertion. -/
theorem get?_insert (m : OrderedMap α) (key k : String) (value : α) :
    (m.insert key value).get? k = if k = key then some value else m.get? k :=
  lookup_insertPairs key k value m.entries

/-- Declares all pairs in order. -/
def ofList (es : List (String × α)) : OrderedMap α :=
  es.foldl (fun m e => m.insert e.1 e.2) empty

/-- The map with every value changed. -/
def map (f : α → β) (m : OrderedMap α) : OrderedMap β where
  entries := m.entries.map fun e => (e.1, f e.2)
  distinct := by simpa [List.map_map, Function.comp_def] using m.distinct

/-- The map with every value changed, or left out. -/
def filterMap (f : α → Option β) (m : OrderedMap α) : OrderedMap β where
  entries := m.entries.filterMap fun e => (f e.2).map fun b => (e.1, b)
  distinct := by
    refine List.Nodup.sublist ?_ m.distinct
    induction m.entries with
    | nil => simp
    | cons e es ih =>
      rw [List.filterMap_cons]
      cases f e.2 with
      | none => simpa using ih.cons e.1
      | some b => simpa using ih

end OrderedMap

end QueryLint
