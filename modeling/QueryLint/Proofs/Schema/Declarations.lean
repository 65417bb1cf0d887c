import Mathlib.Data.List.Induction
import QueryLint.Proofs.Json.Mapping
import QueryLint.Schema.DocumentReader

/-!
# The last declaration at the place of the first

A key that is declared again keeps its place and takes the new value.  So the keys of a map stand
in the order of their first declarations (`OrderedMap.keys_ofList`), and under each key is the
value of its last declaration (`OrderedMap.get?_ofList`).  These two facts say all about a map
(`OrderedMap.ext_keys_get?`), and it does not matter if repetitions inside of a part of the
declarations are settled first (`OrderedMap.ofList_flatMap_entries`).

A document as it is written can declare a table twice, too.  `Document.declarations?` reads the
same texts as `Document.ofText?` and keeps every declaration in the order of the text
(`Document.ofText?_eq`).
-/

namespace QueryLint

/-! ## First occurrences -/

section EraseDups

variable {α : Type} [BEq α] [LawfulBEq α]

theorem eraseDups_concat_of_mem {as : List α} {a : α} (h : a ∈ as) :
    (as ++ [a]).eraseDups = as.eraseDups := by
  have hnone : [a].removeAll as = [] := by simp [List.removeAll, h]
  rw [List.eraseDups_append, hnone, List.eraseDups_nil, List.append_nil]

theorem eraseDups_concat_of_notMem {as : List α} {a : α} (h : a ∉ as) :
    (as ++ [a]).eraseDups = as.eraseDups ++ [a] := by
  have hone : [a].removeAll as = [a] := by simp [List.removeAll, h]
  rw [List.eraseDups_append, hone]
  rfl

/-- Repetitions inside of a part can be left out first. -/
theorem eraseDups_append_eraseDups (as bs : List α) :
    (as ++ bs.eraseDups).eraseDups = (as ++ bs).eraseDups := by
  induction bs using List.reverseRecOn with
  | nil => rw [List.eraseDups_nil]
  | append_singleton bs b ih =>
    by_cases hb : b ∈ bs
    · rw [eraseDups_concat_of_mem hb, ih, ← List.append_assoc,
        eraseDups_concat_of_mem (List.mem_append_right as hb)]
    · rw [eraseDups_concat_of_notMem hb, ← List.append_assoc, ← List.append_assoc]
      by_cases ha : b ∈ as
      · rw [eraseDups_concat_of_mem (List.mem_append_left _ ha), ih,
          eraseDups_concat_of_mem (List.mem_append_left _ ha)]
      · have hleft : b ∉ as ++ bs.eraseDups := by simp [ha, hb]
        have hright : b ∉ as ++ bs := by simp [ha, hb]
        rw [eraseDups_concat_of_notMem hleft, ih, eraseDups_concat_of_notMem hright]

end EraseDups

/-! ## Maps -/

namespace OrderedMap

variable {α β : Type}

theorem ofList_concat (es : List (String × α)) (e : String × α) :
    ofList (es ++ [e]) = (ofList es).insert e.1 e.2 := by
  rw [ofList, List.foldl_append]
  rfl

/-- The keys stand where they were declared first. -/
theorem keys_ofList (es : List (String × α)) :
    (ofList es).keys = (es.map Prod.fst).eraseDups := by
  induction es using List.reverseRecOn with
  | nil => rfl
  | append_singleton es e ih =>
    rw [ofList_concat, keys_insert, ih, List.map_append, List.map_singleton]
    by_cases he : e.1 ∈ es.map Prod.fst
    · rw [if_pos (List.mem_eraseDups.2 he), eraseDups_concat_of_mem he]
    · rw [if_neg (mt List.mem_eraseDups.1 he), eraseDups_concat_of_notMem he]

/-- Under a key is what was declared last. -/
theorem get?_ofList (es : List (String × α)) (key : String) :
    (ofList es).get? key = es.reverse.lookup key := by
  induction es using List.reverseRecOn with
  | nil => rfl
  | append_singleton es e ih =>
    rw [ofList_concat, get?_insert, ih, List.reverse_append, List.reverse_singleton,
      List.singleton_append, List.lookup_cons]
    by_cases he : key = e.1
    · rw [if_pos he, beq_iff_eq.2 he]
    · rw [if_neg he, beq_false_of_ne he]

theorem eq_of_map_fst_eq {es fs : List (String × α)} (hnodup : (es.map Prod.fst).Nodup)
    (hkeys : es.map Prod.fst = fs.map Prod.fst) (h : ∀ key, es.lookup key = fs.lookup key) :
    es = fs := by
  induction es generalizing fs with
  | nil => exact (List.map_eq_nil_iff.1 hkeys.symm).symm
  | cons e es ih =>
    obtain ⟨f, gs, rfl, hfst, hrest⟩ := List.map_eq_cons_iff.1 hkeys.symm
    obtain ⟨hnew, hnodup⟩ := List.nodup_cons.1 hnodup
    have hvalue := h e.1
    rw [List.lookup_cons, List.lookup_cons, hfst, beq_self_eq_true] at hvalue
    have he : e = f := Prod.ext hfst.symm (Option.some.inj hvalue)
    subst he
    refine congrArg _ (ih hnodup hrest.symm fun key => ?_)
    by_cases hkey : key = e.1
    · -- the first key does not occur again in either list
      have hnone {ds : List (String × α)} (hds : e.1 ∉ ds.map Prod.fst) :
          ds.lookup key = none := by
        rw [List.lookup_eq_none_iff]
        intro d hd
        rw [hkey, bne_iff_ne]
        exact fun heq => hds (List.mem_map.2 ⟨d, hd, heq.symm⟩)
      rw [hnone hnew, hnone (by rwa [hrest])]
    · have htail := h key
      rwa [List.lookup_cons, List.lookup_cons, beq_false_of_ne hkey] at htail

/-- Maps with the same keys in order and the same values are equal. -/
theorem ext_keys_get? {m n : OrderedMap α} (hkeys : m.keys = n.keys)
    (hget : ∀ key, m.get? key = n.get? key) : m = n :=
  ext (eq_of_map_fst_eq m.distinct hkeys hget)

theorem insertPairs_of_notMem {key : String} {value : α} {es : List (String × α)}
    (h : key ∉ es.map Prod.fst) : insertPairs key value es = es ++ [(key, value)] := by
  induction es with
  | nil => rfl
  | cons e es ih =>
    rw [List.map_cons, List.mem_cons, not_or] at h
    rw [insertPairs, if_neg (Ne.symm h.1), ih h.2, List.cons_append]

theorem entries_ofList_of_nodup {es : List (String × α)} (h : (es.map Prod.fst).Nodup) :
    (ofList es).entries = es := by
  induction es using List.reverseRecOn with
  | nil => rfl
  | append_singleton es e ih =>
    rw [List.map_append, List.map_singleton, List.nodup_append] at h
    obtain ⟨hes, -, hdisjoint⟩ := h
    have hnew : e.1 ∉ es.map Prod.fst :=
      fun hmem => hdisjoint _ hmem _ (List.mem_singleton_self _) rfl
    rw [ofList_concat]
    show insertPairs e.1 e.2 (ofList es).entries = es ++ [e]
    rw [ih hes, insertPairs_of_notMem hnew]

@[simp] theorem ofList_entries (m : OrderedMap α) : ofList m.entries = m :=
  ext (entries_ofList_of_nodup m.distinct)

/-- Declarations that make the same map can stand for each other behind others. -/
theorem ofList_append_congr (es : List (String × α)) {fs gs : List (String × α)}
    (h : ofList fs = ofList gs) : ofList (es ++ fs) = ofList (es ++ gs) := by
  refine ext_keys_get? ?_ fun key => ?_
  · have hkeys : (fs.map Prod.fst).eraseDups = (gs.map Prod.fst).eraseDups := by
      rw [← keys_ofList, h, keys_ofList]
    rw [keys_ofList, keys_ofList, List.map_append, List.map_append, ← eraseDups_append_eraseDups,
      hkeys, eraseDups_append_eraseDups]
  · have hget : fs.reverse.lookup key = gs.reverse.lookup key := by
      rw [← get?_ofList, h, get?_ofList]
    rw [get?_ofList, get?_ofList, List.reverse_append, List.reverse_append, List.lookup_append,
      List.lookup_append, hget]

/-- Repetitions inside of parts can be settled before the parts are put together. -/
theorem ofList_flatMap_entries {ι : Type} (part : ι → List (String × α)) (is : List ι) :
    ofList (is.flatMap fun i => (ofList (part i)).entries) = ofList (is.flatMap part) := by
  have hfront {es fs : List (String × α)} (h : ofList es = ofList fs) (gs : List (String × α)) :
      ofList (es ++ gs) = ofList (fs ++ gs) := by
    rw [ofList, ofList, List.foldl_append, List.foldl_append, ← ofList, ← ofList, h]
  induction is with
  | nil => rfl
  | cons i is ih =>
    rw [List.flatMap_cons, List.flatMap_cons, hfront (ofList_entries _)]
    exact ofList_append_congr _ ih

/-- A change of values can be made before or after a look-up. -/
theorem lookup_map_value (f : String → α → β) (es : List (String × α)) (key : String) :
    (es.map fun e => (e.1, f e.1 e.2)).lookup key = (es.lookup key).map (f key) := by
  induction es with
  | nil => rfl
  | cons e es ih =>
    rw [List.map_cons, List.lookup_cons, List.lookup_cons, ih]
    by_cases hkey : key = e.1
    · subst hkey
      simp
    · simp [beq_false_of_ne hkey]

/-- Values can be changed before or after their repetitions are settled. -/
theorem map_ofList (f : α → β) (es : List (String × α)) :
    (ofList es).map f = ofList (es.map fun e => (e.1, f e.2)) := by
  refine ext_keys_get? ?_ fun key => ?_
  · have hkeys : ((ofList es).map f).keys = (ofList es).keys := List.map_map
    rw [hkeys, keys_ofList, keys_ofList, List.map_map]
    rfl
  · have hget : ((ofList es).map f).get? key = ((ofList es).get? key).map f :=
      lookup_map_value (fun _ => f) (ofList es).entries key
    rw [hget, get?_ofList, get?_ofList, ← List.map_reverse, lookup_map_value fun _ => f]

end OrderedMap

/-! ## Documents as they are written -/

namespace Json

variable {α : Type}

/-- A member, behind those in front of it. -/
def pairMember (item : Reader α) (es : List (String × α)) (key : String) :
    Reader (List (String × α)) := do
  colon
  let value ← item
  return es ++ [(key, value)]

/-- The members of an object with free keys, in order and with repetitions. -/
def readPairs (item : Reader α) : Reader (List (String × α)) :=
  readBy "a map" fun c => if c = '\x7b' then some (members (pairMember item) []) else none

theorem mapMember_ofList (item : Reader α) (es : List (String × α)) (key : String) :
    mapMember item (.ofList es) key = OrderedMap.ofList <$> pairMember item es key := by
  simp only [mapMember, pairMember, map_bind, map_pure, OrderedMap.ofList_concat]

/-- A map is made of the members in order. -/
theorem readMap_eq (item : Reader α) : readMap item = OrderedMap.ofList <$> readPairs item := by
  rw [readMap, readPairs, ← readBy_map]
  congr 1
  funext c
  by_cases hc : c = '\x7b'
  · rw [if_pos hc, if_pos hc]
    exact congrArg some (members_map (mapMember_ofList item) [])
  · rw [if_neg hc, if_neg hc]
    rfl

end Json

namespace Schema

open Json (Fault Record)

/-- A document as a list of declarations, in order and with repetitions. -/
def declarationsRecord :
    Record (Option (List (String × TableDocument))) (List (String × TableDocument)) where
  name := "SchemaDocument"
  fields := [⟨"tables", Option.isSome, fun _ => do
    return some (← Json.readPairs tableRecord.read)⟩]
  blank := none
  mayBeShort := true
  complete d := .ok (d.getD [])

/-- The declarations that a text makes. -/
def Document.declarations? (text : String) : Except Fault (List (String × TableDocument)) :=
  Json.finish declarationsRecord.read text.toList

/-- What a list of declarations makes a document. -/
def Document.ofDeclarations (ds : List (String × TableDocument)) : Document := ⟨.ofList ds⟩

theorem maps_documentRecord :
    declarationsRecord.Maps (Option.map OrderedMap.ofList) Document.ofDeclarations
      documentRecord where
  name := rfl
  fields := by
    refine .cons ⟨rfl, fun draft => ?_, fun draft => ?_⟩ .nil
    · exact Option.isSome_map
    · simp [Json.readMap_eq]
  blank := rfl
  mayBeShort := rfl
  complete draft := by
    cases draft <;> rfl

/-- A document is made of the declarations in its text, and a text without declarations is no
document. -/
theorem Document.ofText?_eq (text : String) :
    Document.ofText? text = (Document.declarations? text).map Document.ofDeclarations := by
  rw [Document.ofText?, Document.declarations?, maps_documentRecord.read_eq, Json.finish,
    Json.finish, Json.Reader.map_apply]
  cases declarationsRecord.read text.toList with
  | error e => rfl
  | ok r =>
    simp only [Except.map, Text.Read.map]
    split <;> rfl

end Schema

end QueryLint
