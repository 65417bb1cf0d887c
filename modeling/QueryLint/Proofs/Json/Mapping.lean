import QueryLint.Json.Record
import QueryLint.Proofs.InStep

/-!
# Readers that keep more

What a reader makes of a text does not change the way it goes through the text.  So one can keep
more than is needed, for instance all members of an object in order where only the last one under
each key counts, and make of it what is needed afterwards: the second reader is the first one with
a function applied to its value.  Both take the same text, and both fail with the same fault.

* `Reader` is lawful, so a function moves through a sequence of readers.
* `readBy_map`, `members_map`: values by their first character, and objects.
* `Record.Maps`, `Record.Maps.read_eq`: records with drafts that correspond.
-/

namespace QueryLint.Json

variable {α β γ δ ε σ τ : Type}

/-! ## Laws -/

namespace Reader

theorem pure_bind_eq (a : α) (f : α → Reader β) : (pure a >>= f) = f a := by
  funext s
  show (f a s).map _ = f a s
  cases f a s <;> rfl

theorem bind_bind_eq (f : Reader α) (g : α → Reader β) (h : β → Reader γ) :
    (f >>= g >>= h) = f >>= fun a => g a >>= h := by
  funext s
  show Reader.bind (Reader.bind f g) h s = Reader.bind f (fun a => Reader.bind (g a) h) s
  simp only [Reader.bind]
  cases f s with
  | error e => rfl
  | ok a =>
    simp only
    cases g a.value a.rest with
    | error e => rfl
    | ok b =>
      show (h b.value b.rest).map _ = ((h b.value b.rest).map _).map _
      cases h b.value b.rest <;> rfl

/-- The value is changed, and nothing else. -/
theorem map_apply (φ : α → β) (f : Reader α) (s : List Char) :
    (φ <$> f) s = (f s).map fun r => r.map φ := by
  show Reader.bind f (fun a => Reader.pure (φ a)) s = _
  rw [Reader.bind]
  cases f s <;> rfl

instance : LawfulMonad Reader := by
  refine .mk' Reader (fun f => ?_) pure_bind_eq bind_bind_eq
  funext s
  rw [map_apply]
  cases f s <;> rfl

@[simp] theorem map_fail (φ : α → β) (e : Fault) : φ <$> (fail e : Reader α) = fail e := by
  funext s
  rw [map_apply]
  rfl

end Reader

/-! ## Values -/

theorem readBy_map (φ : α → β) (expected : String) (choose : Char → Option (Reader α)) :
    readBy expected (fun c => (choose c).map fun f => φ <$> f) = φ <$> readBy expected choose := by
  funext s
  rw [Reader.map_apply, readBy, readBy]
  split
  next => rfl
  next c cs h =>
    cases choose c with
    | none => rfl
    | some f =>
      simp only [Option.map_some, Reader.map_apply]
      cases f cs <;> rfl

section Members

variable {φ : σ → τ} {member : σ → String → Reader σ} {member' : τ → String → Reader τ}

/-- Behind a key its member is read, and then the other members. -/
theorem readMembers_of_key {t : List Char} {first : Bool} {acc : σ} {s rest : List Char}
    {bound : s.length ≤ t.length} {within : rest.length ≤ s.length}
    (hnext : nextKey first s = .ok ⟨true, rest, within⟩) :
    readMembers member first acc s bound =
      (stringBody rest).bind fun key =>
        (member acc (String.ofList key.value) key.rest).bind fun r =>
          readMembers member false r.value r.rest
            (Nat.le_trans r.bound (Nat.le_trans key.bound (Nat.le_trans within bound))) := by
  rw [readMembers]
  split
  next h =>
    rw [hnext] at h
    cases h
  next h =>
    rw [hnext] at h
    cases h
  next h =>
    rw [hnext] at h
    cases h
    cases stringBody rest with
    | error e => rfl
    | ok key =>
      simp only [Except.bind]
      cases member acc (String.ofList key.value) key.rest <;> rfl

/-- Whether there is another key does not depend on what was read, so both readers stop at the same
place. -/
theorem readMembers_map (hmember : ∀ acc key, member' (φ acc) key = φ <$> member acc key)
    {t : List Char} (first : Bool) (acc : σ) (s : List Char) (bound : s.length ≤ t.length) :
    readMembers member' first (φ acc) s bound =
      (readMembers member first acc s bound).map fun r => r.map φ := by
  fun_induction readMembers member first acc s bound with
  | case1 first acc s bound e hnext =>
    rw [readMembers]
    split <;> simp_all [Except.map]
  | case2 first acc s bound rest within hnext =>
    rw [readMembers]
    split <;> simp_all [Except.map, Text.Read.map]
  | case3 first acc s bound rest within hnext hs e hkey =>
    rw [readMembers_of_key hnext, hkey]
    rfl
  | case4 first acc s bound rest within hnext hs key hkey e hread =>
    rw [readMembers_of_key hnext, hkey]
    simp only [Except.bind, hmember, Reader.map_apply, hread]
    rfl
  | case5 first acc s bound rest within hnext hs key hkey r hread _ _ ih =>
    rw [readMembers_of_key hnext, hkey]
    simp only [Except.bind, hmember, Reader.map_apply, hread]
    exact ih

/-- The members of an object, taken into results that correspond. -/
theorem members_map (hmember : ∀ acc key, member' (φ acc) key = φ <$> member acc key) (start : σ) :
    members member' (φ start) = φ <$> members member start := by
  funext s
  rw [Reader.map_apply]
  exact readMembers_map hmember true start s (Text.length_le_self s)

end Members

/-! ## Records -/

/-- The second field reads the value of the first one into drafts that correspond. -/
structure RecordField.Maps (φ : δ → ε) (f : RecordField δ) (g : RecordField ε) : Prop where
  key : f.key = g.key
  isSet : ∀ draft, g.isSet (φ draft) = f.isSet draft
  read : ∀ draft, g.read (φ draft) = φ <$> f.read draft

/-- The second record has the fields of the first one, and drafts that correspond stand for
records that correspond. -/
structure Record.Maps (φ : δ → ε) (ψ : α → β) (r : Record δ α) (r' : Record ε β) : Prop where
  name : r.name = r'.name
  fields : List.Forall₂ (RecordField.Maps φ) r.fields r'.fields
  blank : r'.blank = φ r.blank
  mayBeShort : r.mayBeShort = r'.mayBeShort
  complete : ∀ draft, r'.complete (φ draft) = (r.complete draft).map ψ

namespace Record

variable {φ : δ → ε} {ψ : α → β} {r : Record δ α} {r' : Record ε β}

theorem elements_map {fs : List (RecordField δ)} {gs : List (RecordField ε)}
    (h : List.Forall₂ (RecordField.Maps φ) fs gs) (first : Bool) (draft : δ) (n : Nat) :
    elements gs first (φ draft) n = (fun p => (φ p.1, p.2)) <$> elements fs first draft n := by
  induction h generalizing first draft n with
  | nil => rw [elements, elements, map_pure]
  | cons hfield _ ih =>
    rw [elements, elements, map_bind]
    refine congrArg _ (funext fun more => ?_)
    cases more with
    | false => simp
    | true => simp [hfield.read, ih]

namespace Maps

theorem member_eq (h : r.Maps φ ψ r') (draft : δ) (key : String) :
    r'.member (φ draft) key = φ <$> r.member draft key := by
  have hfield : Option.Rel (RecordField.Maps φ) (r.fields.find? fun f => f.key == key)
      (r'.fields.find? fun g => g.key == key) :=
    find?_rel h.fields fun f g hfg => by rw [hfg.key]
  rw [member, member]
  generalize (r.fields.find? fun f => f.key == key) = o,
    (r'.fields.find? fun g => g.key == key) = p at hfield ⊢
  cases hfield with
  | none => simp
  | some hfield =>
    simp only [hfield.isSet, hfield.read]
    split <;> simp

theorem completed_eq (h : r.Maps φ ψ r') (draft : δ) :
    r'.completed (φ draft) = ψ <$> r.completed draft := by
  rw [completed, completed, h.complete]
  cases r.complete draft <;> simp [Except.map]

theorem readObject_eq (h : r.Maps φ ψ r') : r'.readObject = ψ <$> r.readObject := by
  rw [readObject, readObject, h.blank, members_map h.member_eq]
  simp [h.completed_eq]

theorem readArray_eq (h : r.Maps φ ψ r') : r'.readArray = ψ <$> r.readArray := by
  have hlength := h.fields.length_eq
  rw [readArray, readArray, h.blank, elements_map h.fields]
  simp only [bind_map_left, map_bind, sizeInWords, ← h.name, ← h.mayBeShort, ← hlength]
  refine congrArg _ (funext fun p => ?_)
  split <;> simp [h.completed_eq]

/-- Records that correspond are read from the same texts. -/
theorem read_eq (h : r.Maps φ ψ r') : r'.read = ψ <$> r.read := by
  rw [read, read, ← readBy_map, ← h.name, h.readObject_eq, h.readArray_eq]
  congr 1
  funext c
  split
  · rfl
  · split <;> rfl

end Maps

end Record

end QueryLint.Json
