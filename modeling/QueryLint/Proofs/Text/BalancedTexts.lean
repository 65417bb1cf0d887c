import Mathlib.Computability.ContextFreeGrammar

/-!
# Balanced parentheses

The grammar `S → ε | ( S ) S` generates the balanced texts of parentheses, and `Balanced` says the
same without derivations: a balanced text is empty or begins with a parenthesis that is closed
behind a balanced text, with a balanced text behind that.

Someone who reads parentheses from the left has some open ones in hand and asks whether what is left
closes them.  `Closes` answers this, and one parenthesis at a time is all that has to be looked at
(`closes_open_iff`, `closes_close_iff`, `closes_nil_iff`).

* `parenthesisGrammar`: the grammar.
* `mem_language_iff_balanced`: what it generates.
* `Closes`: what is left closes all that is open.
-/

namespace QueryLint.Text

open ContextFreeGrammar

/-! ## The grammar -/

/-- `S → ε | ( S ) S` -/
def parenthesisGrammar : ContextFreeGrammar Char where
  NT := Unit
  initial := ()
  rules := {⟨(), []⟩, ⟨(), [.terminal '(', .nonterminal (), .terminal ')', .nonterminal ()]⟩}

/-- Each parenthesis has its partner. -/
inductive Balanced : List Char → Prop
  | nil : Balanced []
  | wrap {xs ys : List Char} (hxs : Balanced xs) (hys : Balanced ys) :
      Balanced ('(' :: (xs ++ ')' :: ys))

/-- A text of a form of the grammar in which each nonterminal stands for a balanced text. -/
inductive Expands : List (Symbol Char Unit) → List Char → Prop
  | nil : Expands [] []
  | terminal {form : List (Symbol Char Unit)} {cs : List Char} (c : Char) (h : Expands form cs) :
      Expands (.terminal c :: form) (c :: cs)
  | nonterminal {form : List (Symbol Char Unit)} {xs cs : List Char} (hxs : Balanced xs)
      (h : Expands form cs) : Expands (.nonterminal () :: form) (xs ++ cs)

theorem expands_map_terminal (cs : List Char) : Expands (cs.map Symbol.terminal) cs := by
  induction cs with
  | nil => exact .nil
  | cons c cs ih => exact .terminal c ih

theorem mem_rules_iff {r : ContextFreeRule Char Unit} :
    r ∈ parenthesisGrammar.rules ↔ r = ⟨(), []⟩ ∨
      r = ⟨(), [.terminal '(', .nonterminal (), .terminal ')', .nonterminal ()]⟩ := by
  show r ∈ ({⟨(), []⟩, ⟨(), _⟩} : Finset (ContextFreeRule Char Unit)) ↔ _
  rw [Finset.mem_insert, Finset.mem_singleton]

/-- What a rule makes of a form is not more than the form stands for. -/
theorem Expands.of_rewrites {r : ContextFreeRule Char Unit} {u v : List (Symbol Char Unit)}
    {cs : List Char} (hr : r ∈ parenthesisGrammar.rules) (h : r.Rewrites u v)
    (hv : Expands v cs) : Expands u cs := by
  induction h generalizing cs with
  | head form =>
    rcases mem_rules_iff.1 hr with rfl | rfl
    · exact .nonterminal .nil hv
    · -- the two nonterminals of the rule stand for the two parts of a balanced text
      cases hv with
      | terminal _ hv =>
      cases hv with
      | @nonterminal _ xs _ hxs hv =>
      cases hv with
      | terminal _ hv =>
      cases hv with
      | @nonterminal _ ys cs hys hv =>
        have hsplit : '(' :: (xs ++ ')' :: (ys ++ cs)) = '(' :: (xs ++ ')' :: ys) ++ cs := by
          rw [List.cons_append, List.append_assoc, List.cons_append]
        rw [hsplit]
        exact .nonterminal (.wrap hxs hys) hv
  | cons x _ ih =>
    cases hv with
    | terminal c hv => exact .terminal c (ih hv)
    | nonterminal hxs hv => exact .nonterminal hxs (ih hv)

theorem Expands.of_derives {form : List (Symbol Char Unit)} {cs : List Char}
    (h : parenthesisGrammar.Derives form (cs.map Symbol.terminal)) : Expands form cs := by
  induction h using Relation.ReflTransGen.head_induction_on with
  | refl => exact expands_map_terminal cs
  | head hproduces _ ih =>
    obtain ⟨r, hr, hrewrites⟩ := hproduces
    exact ih.of_rewrites hr hrewrites

theorem balanced_of_derives {cs : List Char}
    (h : parenthesisGrammar.Derives [.nonterminal ()] (cs.map Symbol.terminal)) : Balanced cs := by
  cases Expands.of_derives h with
  | nonterminal hcs hnil =>
    cases hnil with
    | nil => rwa [List.append_nil]

theorem produces_rule {output : List (Symbol Char Unit)}
    (h : (⟨(), output⟩ : ContextFreeRule Char Unit) ∈ parenthesisGrammar.rules) :
    parenthesisGrammar.Produces [.nonterminal ()] output :=
  ⟨_, h, ContextFreeRule.Rewrites.input_output⟩

theorem derives_of_balanced {cs : List Char} (h : Balanced cs) :
    parenthesisGrammar.Derives [.nonterminal ()] (cs.map Symbol.terminal) := by
  induction h with
  | nil => exact (produces_rule (mem_rules_iff.2 (Or.inl rfl))).single
  | @wrap xs ys _ _ hxs hys =>
    refine (produces_rule (mem_rules_iff.2 (Or.inr rfl))).trans_derives ?_
    have hfirst := (hxs.append_right [.terminal ')', .nonterminal ()]).append_left [.terminal '(']
    have hsecond := hys.append_left (.terminal '(' :: (xs.map .terminal ++ [.terminal ')']))
    refine hfirst.trans ?_
    simpa using hsecond

/-- The grammar generates the balanced texts. -/
theorem mem_language_iff_balanced {cs : List Char} :
    cs ∈ parenthesisGrammar.language ↔ Balanced cs :=
  ⟨balanced_of_derives, derives_of_balanced⟩

/-! ## Texts that close what is open -/

/-- The text closes `depth` open parentheses and is balanced otherwise. -/
def Closes : Nat → List Char → Prop
  | 0, cs => Balanced cs
  | depth + 1, cs => ∃ xs ys, cs = xs ++ ')' :: ys ∧ Balanced xs ∧ Closes depth ys

variable {depth : Nat} {cs : List Char}

theorem closes_nil_iff : Closes depth [] ↔ depth = 0 := by
  cases depth with
  | zero => exact iff_of_true .nil rfl
  | succ depth =>
    refine iff_of_false ?_ (Nat.succ_ne_zero _)
    rintro ⟨xs, ys, h, -⟩
    exact absurd h.symm (List.append_ne_nil_of_right_ne_nil _ (List.cons_ne_nil _ _))

theorem closes_open_iff : Closes depth ('(' :: cs) ↔ Closes (depth + 1) cs := by
  cases depth with
  | zero =>
    constructor
    · intro h
      cases (show Balanced ('(' :: cs) from h) with
      | wrap hxs hys => exact ⟨_, _, rfl, hxs, hys⟩
    · rintro ⟨xs, ys, rfl, hxs, hys⟩
      exact Balanced.wrap hxs hys
  | succ depth =>
    constructor
    · rintro ⟨xs, ys, heq, hxs, hys⟩
      cases hxs with
      | nil => cases heq
      | @wrap xs xs' hxs hxs' =>
        obtain ⟨-, rfl⟩ := List.cons.inj heq
        refine ⟨xs, xs' ++ ')' :: ys, by simp, hxs, xs', ys, rfl, hxs', hys⟩
    · rintro ⟨xs, ys, rfl, hxs, xs', ys', rfl, hxs', hys'⟩
      exact ⟨'(' :: (xs ++ ')' :: xs'), ys', by simp, .wrap hxs hxs', hys'⟩

theorem closes_close_iff :
    Closes depth (')' :: cs) ↔ ∃ depth', depth = depth' + 1 ∧ Closes depth' cs := by
  cases depth with
  | zero =>
    refine iff_of_false ?_ ?_
    · intro h
      cases (show Balanced (')' :: cs) from h)
    · rintro ⟨depth', h, -⟩
      cases h
  | succ depth =>
    constructor
    · rintro ⟨xs, ys, heq, hxs, hys⟩
      cases hxs with
      | nil =>
        obtain ⟨-, rfl⟩ := List.cons.inj heq
        exact ⟨depth, rfl, hys⟩
      | wrap => cases heq
    · rintro ⟨depth', h, hcs⟩
      obtain rfl := Nat.succ.inj h
      exact ⟨[], cs, rfl, .nil, hcs⟩

end QueryLint.Text
