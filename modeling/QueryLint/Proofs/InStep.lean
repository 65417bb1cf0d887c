import Mathlib.Data.List.Forall2

/-!
# Lists in step

Two runs of one program are compared by a relation of what they go through.  If lists are related
element by element, whatever looks at the elements one by one gets as far in one list as in the
other, and what it finds is related again.  `List.Forall₂` has maps, filters and appends;
here are searches and tests.

A list can also be made of one part for each element of another list; that is `Blocks`.
-/

namespace QueryLint

variable {α β γ δ : Type} {R : α → β → Prop} {S : γ → δ → Prop}

theorem any_eq_of_forall₂ {xs : List α} {ys : List β} {p : α → Bool} {q : β → Bool}
    (h : List.Forall₂ R xs ys) (hpq : ∀ x y, R x y → p x = q y) : xs.any p = ys.any q := by
  induction h with
  | nil => rfl
  | cons hxy _ ih => rw [List.any_cons, List.any_cons, hpq _ _ hxy, ih]

theorem exists_mem_of_forall₂ {xs : List α} {ys : List β} {x : α} (h : List.Forall₂ R xs ys)
    (hx : x ∈ xs) : ∃ y ∈ ys, R x y := by
  induction h with
  | nil => exact absurd hx List.not_mem_nil
  | cons hxy _ ih =>
    rcases List.mem_cons.1 hx with rfl | hx
    · exact ⟨_, List.mem_cons_self, hxy⟩
    · obtain ⟨y, hy, hxy⟩ := ih hx
      exact ⟨y, List.mem_cons_of_mem _ hy, hxy⟩

theorem isEmpty_eq_of_forall₂ {xs : List α} {ys : List β} (h : List.Forall₂ R xs ys) :
    xs.isEmpty = ys.isEmpty := by
  cases h <;> rfl

theorem find?_rel {xs : List α} {ys : List β} {p : α → Bool} {q : β → Bool}
    (h : List.Forall₂ R xs ys) (hpq : ∀ x y, R x y → p x = q y) :
    Option.Rel R (xs.find? p) (ys.find? q) := by
  induction h with
  | nil => exact .none
  | @cons x y xs ys hxy _ ih =>
    rw [List.find?_cons, List.find?_cons, hpq x y hxy]
    cases q y
    · exact ih
    · exact .some hxy

theorem map_rel {o : Option α} {p : Option β} {f : α → γ} {g : β → δ} (h : Option.Rel R o p)
    (hfg : ∀ x y, R x y → S (f x) (g y)) : Option.Rel S (o.map f) (p.map g) := by
  cases h with
  | none => exact .none
  | some hxy => exact .some (hfg _ _ hxy)

/-! ## Parts -/

/-- The list `bs` is one part for each element of `as`, in order, and each part is as `R` says. -/
inductive Blocks {α β : Type} (R : α → List β → Prop) : List α → List β → Prop
  | nil : Blocks R [] []
  | cons {a : α} {as : List α} {part bs : List β} (h : R a part) (hrest : Blocks R as bs) :
      Blocks R (a :: as) (part ++ bs)

theorem Blocks.flatMap {α β : Type} {R : α → List β → Prop} {f : α → List β} {as : List α}
    (h : ∀ a ∈ as, R a (f a)) : Blocks R as (as.flatMap f) := by
  induction as with
  | nil => exact .nil
  | cons a as ih =>
    obtain ⟨ha, has⟩ := List.forall_mem_cons.1 h
    exact .cons ha (ih has)

/-- Each element has its part. -/
theorem Blocks.exists_part {α β : Type} {R : α → List β → Prop} {as : List α} {bs : List β} {a : α}
    (h : Blocks R as bs) (ha : a ∈ as) : ∃ part, R a part ∧ ∀ b ∈ part, b ∈ bs := by
  induction h with
  | nil => exact absurd ha List.not_mem_nil
  | cons hfirst _ ih =>
    rcases List.mem_cons.1 ha with rfl | ha
    · exact ⟨_, hfirst, fun b hb => List.mem_append_left _ hb⟩
    · obtain ⟨part, hpart, hmem⟩ := ih ha
      exact ⟨part, hpart, fun b hb => List.mem_append_right _ (hmem b hb)⟩

end QueryLint
