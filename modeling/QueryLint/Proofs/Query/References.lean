import QueryLint.Query.References

/-!
# Tables without repetition

A table that a query refers to several times is looked up once.  What the check remembers are the
names that it has met; seen from outside, it goes through the references without repetitions,
each name with the place of its first occurrence (`unknownTables_eq`).
-/

namespace QueryLint.Query

open Text
open Schema (Model)

/-- What has been met is left out, and of the rest all repetitions. -/
theorem firstOccurrences_eq_eraseDupsBy (seen : List (List Char)) (ws : List Word) :
    firstOccurrences seen ws =
      (ws.filter fun w => decide (w.text ∉ seen)).eraseDupsBy fun v w => v.text == w.text := by
  induction ws generalizing seen with
  | nil => rfl
  | cons w ws ih =>
    rw [firstOccurrences]
    by_cases hw : w.text ∈ seen
    · rw [if_pos hw, ih, List.filter_cons_of_neg (by simpa using hw)]
    · rw [if_neg hw, ih, List.filter_cons_of_pos (by simpa using hw), List.eraseDupsBy_cons,
        List.filter_filter]
      congr 3
      funext v
      simp [List.mem_cons, not_or]

/-- Leaving out repetitions before and after a change of the values. -/
theorem map_eraseDupsBy {α β : Type} (f : α → β) (r : β → β → Bool) : ∀ xs : List α,
    (xs.eraseDupsBy fun a b => r (f a) (f b)).map f = (xs.map f).eraseDupsBy r
  | [] => rfl
  | x :: xs => by
    rw [List.map_cons, List.eraseDupsBy_cons, List.eraseDupsBy_cons, List.map_cons,
      map_eraseDupsBy f r (xs.filter fun b => r (f b) (f x) = false), List.filter_map]
    rfl
termination_by xs => xs.length
decreasing_by exact Nat.lt_succ_of_le (List.length_filter_le _ _)

theorem mem_of_mem_eraseDupsBy {α : Type} {r : α → α → Bool} {x : α} :
    ∀ {xs : List α}, x ∈ xs.eraseDupsBy r → x ∈ xs
  | [], h => h
  | y :: ys, h => by
    rw [List.eraseDupsBy_cons] at h
    rcases List.mem_cons.1 h with rfl | h
    · exact List.mem_cons_self
    · exact List.mem_cons_of_mem y (List.mem_filter.1 (mem_of_mem_eraseDupsBy h)).1
termination_by xs => xs.length
decreasing_by exact Nat.lt_succ_of_le (List.length_filter_le _ _)

/-- The tables that a query refers to, each with its place. -/
def tablesOf (query : List Char) : List (String × Span) :=
  (tableReferences (wordsOf query)).map fun w => (w.name, w.span)

/-- The unknown tables are found where they first occur. -/
theorem unknownTables_eq (m : Model) (query : List Char) :
    unknownTables m query =
      (((tablesOf query).eraseDupsBy fun s t => s.1 == t.1).filter fun t => !m.hasTable t.1).map
        fun t => .tableNotFound t.1 t.2 := by
  have hname (v w : Word) : (v.text == w.text) = (v.name == w.name) := by
    rw [Bool.eq_iff_iff, beq_iff_eq, beq_iff_eq, Word.name, Word.name, String.ofList_inj]
  have hnew (ws : List Word) : ws.filter (fun w => decide (w.text ∉ [])) = ws :=
    List.filter_eq_self.2 (by simp)
  simp only [unknownTables, firstOccurrences_eq_eraseDupsBy, hnew, hname]
  rw [tablesOf, ← map_eraseDupsBy, List.filter_map, List.map_map]
  rfl

theorem unknownTables_eq_nil {m : Model} {query : List Char}
    (h : ∀ t ∈ tablesOf query, m.hasTable t.1 = true) : unknownTables m query = [] := by
  rw [unknownTables_eq, List.map_eq_nil_iff, List.filter_eq_nil_iff]
  intro t ht
  simp [h t (mem_of_mem_eraseDupsBy ht)]

theorem lacksColumn_eq_any (m : Model) (table column : String) :
    lacksColumn m table column = (m.table? table).any fun t => !t.hasColumn column := by
  rw [lacksColumn]
  cases m.table? table <;> rfl

end QueryLint.Query
