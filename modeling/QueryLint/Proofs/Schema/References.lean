import Mathlib.Logic.Equiv.Basic
import QueryLint.Proofs.Schema.Reports

/-!
# References as they are written

A reference is written with a dot between table and column, and a column may have dots of its own.
So it is the first dot of a text that counts: a text that is cut there and has something on both
sides is a reference, and the reference is written as that text and no other.  These references,
whose tables are without dots, are just those that a schema can have in its foreign keys.

* `splitAtDot_append`, `splitAtDot_eq_none_iff`: where a text is cut.
* `Reference.IsDeclarable`: some documents declare a foreign key that leads there.
* `Reference.writtenEquiv`: reading and writing are inverse to each other.
* `Reference.ofString?_spec`: which texts are references, and of what.
-/

namespace QueryLint.Schema

/-! ## The first dot -/

section FirstDot

variable {cs front behind : List Char}

/-- A text is cut at the first dot, whatever comes behind. -/
theorem splitAtDot_append (h : '.' ∉ front) :
    splitAtDot (front ++ '.' :: behind) = some (front, behind) := by
  induction front with
  | nil => rfl
  | cons c front ih =>
    rw [List.mem_cons, not_or] at h
    rw [List.cons_append, splitAtDot, if_neg (Ne.symm h.1), ih h.2, Option.map_some]

theorem splitAtDot_eq_none_iff : splitAtDot cs = none ↔ '.' ∉ cs := by
  constructor
  · intro hnone hdot
    obtain ⟨front, behind, rfl, hfront⟩ := List.eq_append_cons_of_mem hdot
    rw [splitAtDot_append hfront] at hnone
    cases hnone
  · intro hdot
    rw [Option.eq_none_iff_forall_ne_some]
    rintro ⟨front, behind⟩ hsplit
    obtain ⟨rfl, -⟩ := eq_of_splitAtDot hsplit
    exact hdot (by simp)

theorem idxOf_dot (h : '.' ∉ front) : (front ++ '.' :: behind).idxOf '.' = front.length := by
  rw [List.idxOf_append_of_notMem h, List.idxOf_cons_self, Nat.add_zero]

end FirstDot

namespace Reference

/-! ## Reading and writing -/

theorem toList_toString (r : Reference) :
    r.toString.toList = r.table.toList ++ '.' :: r.column.toList := by
  simp [toString]

/-- A reference is written as it was read. -/
theorem toString_of_ofString? {s : String} {r : Reference} (h : ofString? s = some r) :
    r.toString = s := by
  rw [ofString?] at h
  split at h
  next t ts c cs hsplit =>
    obtain rfl := Option.some.inj h
    rw [← String.toList_inj, toList_toString, String.toList_ofList, String.toList_ofList]
    exact (eq_of_splitAtDot hsplit).1.symm
  next => exact absurd h (by simp)

/-- A reference can be read as it is written, if it is well formed. -/
theorem ofString?_toString {r : Reference} (h : r.WellFormed) :
    ofString? r.toString = some r := by
  obtain ⟨t, ts, htable⟩ := List.exists_cons_of_ne_nil (mt String.toList_eq_nil_iff.1 h.table_ne)
  obtain ⟨c, cs, hcolumn⟩ := List.exists_cons_of_ne_nil (mt String.toList_eq_nil_iff.1 h.column_ne)
  rw [ofString?, toList_toString, splitAtDot_append h.dot_notMem, htable, hcolumn]
  show some (Reference.mk (String.ofList (t :: ts)) (String.ofList (c :: cs))) = some r
  rw [← htable, ← hcolumn, String.ofList_toList, String.ofList_toList]

theorem ofString?_eq_some_iff {s : String} {r : Reference} :
    ofString? s = some r ↔ r.WellFormed ∧ r.toString = s := by
  refine ⟨fun h => ⟨wellFormed_of_ofString? h, toString_of_ofString? h⟩, ?_⟩
  rintro ⟨hr, rfl⟩
  exact ofString?_toString hr

/-- The texts that are references, and the references that are well formed. -/
def writtenEquiv : {s : String // (ofString? s).isSome} ≃ {r : Reference // r.WellFormed} where
  toFun s := ⟨(ofString? s).get s.2, wellFormed_of_ofString? (Option.some_get s.2).symm⟩
  invFun r := ⟨r.1.toString, Option.isSome_of_eq_some (ofString?_toString r.2)⟩
  left_inv s := Subtype.ext (toString_of_ofString? (Option.some_get s.2).symm)
  right_inv r := Subtype.ext (Option.get_of_eq_some _ (ofString?_toString r.2))

/-- A text that is no reference has no dot, or it has nothing on one of the sides of its first
dot. -/
theorem ofString?_eq_none_iff {s : String} :
    ofString? s = none ↔
      '.' ∉ s.toList ∨ s.toList.idxOf '.' = 0 ∨ s.toList.idxOf '.' + 1 = s.toList.length := by
  rw [ofString?]
  cases hsplit : splitAtDot s.toList with
  | none => exact iff_of_true rfl (Or.inl (splitAtDot_eq_none_iff.1 hsplit))
  | some sides =>
    obtain ⟨front, behind⟩ := sides
    obtain ⟨htext, hfront⟩ := eq_of_splitAtDot hsplit
    have hdot : '.' ∈ front ++ '.' :: behind := by simp
    have hlength : (front ++ '.' :: behind).length = front.length + 1 + behind.length := by
      rw [List.length_append, List.length_cons]
      omega
    rw [htext, idxOf_dot hfront, hlength, or_iff_right (not_not.2 hdot)]
    cases front with
    | nil => exact iff_of_true rfl (Or.inl rfl)
    | cons t ts =>
      cases behind with
      | nil => exact iff_of_true rfl (Or.inr rfl)
      | cons c cs =>
        refine iff_of_false (Option.some_ne_none _) ?_
        rw [List.length_cons, List.length_cons]
        omega

/-! ## Foreign keys -/

/-- Some documents declare a schema with a foreign key that leads there. -/
def IsDeclarable (r : Reference) : Prop :=
  ∃ docs, ∃ t ∈ (modelOf docs).tables.values, r ∈ t.foreignKeys.values

/-- A table with nothing but a foreign key. -/
def tableWithKey (reference : String) : TableDocument where
  description := none
  primaryKey := none
  columns := .empty
  foreignKeys := .ofList [("key", reference)]

/-- The foreign keys of a schema can lead to every well-formed reference, and nowhere else. -/
theorem isDeclarable_iff {r : Reference} : r.IsDeclarable ↔ r.WellFormed := by
  constructor
  · rintro ⟨docs, t, ht, hr⟩
    obtain ⟨e, he, rfl⟩ := List.mem_map.1 ht
    obtain ⟨k, hk, rfl⟩ := List.mem_map.1 hr
    exact (Builder.isDeclaredBy_modelOf docs).wellFormed e he k hk
  · intro hr
    have hkey : ("key", r.toString) ∈ (tableWithKey r.toString).foreignKeys.entries :=
      List.mem_singleton_self _
    have hget : ((tableWithKey r.toString).build "t").table.foreignKeys.get? "key" = some r :=
      (OrderedMap.get?_filterMap_of_mem hkey).trans (ofString?_toString hr)
    refine ⟨[⟨.ofList [("t", tableWithKey r.toString)]⟩], _, List.mem_singleton_self _, ?_⟩
    exact OrderedMap.mem_values_of_get? hget

/-! ## Both ways -/

/-- A text is read as a reference just if the reference is well formed and written as that text.
This fails for a text without a dot, and for one that has its first dot at one of its ends.  So
reading and writing are inverse to each other, between the texts that can be read and the references
that a schema can have in its foreign keys. -/
theorem ofString?_spec :
    (∀ s r, ofString? s = some r ↔ r.WellFormed ∧ r.toString = s) ∧
    (∀ s, ofString? s = none ↔
      '.' ∉ s.toList ∨ s.toList.idxOf '.' = 0 ∨ s.toList.idxOf '.' + 1 = s.toList.length) ∧
    ∃ e : {s : String // (ofString? s).isSome} ≃ {r : Reference // r.IsDeclarable},
      (∀ s, some (e s).1 = ofString? s.1) ∧ ∀ r, (e.symm r).1 = r.1.toString := by
  refine ⟨fun s r => ofString?_eq_some_iff, fun s => ofString?_eq_none_iff, ?_⟩
  refine ⟨writtenEquiv.trans (Equiv.subtypeEquivRight fun r => isDeclarable_iff.symm), ?_, ?_⟩
  · exact fun s => Option.some_get s.2
  · exact fun r => rfl

/-- The dots behind the first one belong to the column, also at its ends. -/
example :
    ofString? "events..payload.id." = some ⟨"events", ".payload.id."⟩ ∧
      ofString? ".users.id" = none ∧ ofString? "users." = none ∧ ofString? "" = none := by
  decide +kernel

end Reference

end QueryLint.Schema
