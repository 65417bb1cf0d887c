import QueryLint.Files.Tree

/-!
# Paths from the root

A path is a text, and it is read part by part, with parts that lead nowhere, parts that lead back
and names that are too long.  None of this happens to a path that was written for a list of names,
if each of them is the name of an entry: it is cut into these names again
(`filter_parts_pathOf`), and what is at the path is the entry to which the names lead
(`toOption_at?_pathOf`), unless the path as a whole is too long (`toOption_at?_of_isTooLong`).
Where the path is read from makes no difference.

* `IsEntryName`: what the name of an entry looks like.
* `FileTree.reach?`: the entry to which names lead.
-/

namespace QueryLint

open Text (byteSize)

/-- The name of an entry: it is a part of a path that names something, and not too long. -/
structure IsEntryName (name : String) : Prop where
  ne_empty : name ≠ ""
  ne_dot : name ≠ "."
  ne_dots : name ≠ ".."
  slash_notMem : '/' ∉ name.toList
  nul_notMem : '\x00' ∉ name.toList
  byteSize_le : byteSize name.toList ≤ FileTree.greatestName

namespace FileTree

/-- The entry to which names lead, each of them from a directory into one of its entries. -/
def reach? : FileTree → List String → Option FileTree
  | t, [] => some t
  | t, name :: names => (t.children.lookup name).bind fun entry => entry.reach? names

/-- What an entry holds, if it is a file that can be read. -/
def text : FileTree → Except ReadFailure String
  | directory _ => .error .isDirectory
  | file none => .error .notText
  | file (some text) => .ok text
  | closed _ failure => .error failure

/-- What is written for names: each of them behind a slash. -/
def pathChars (names : List String) : List Char := names.flatMap fun n => '/' :: n.toList

variable {root t : FileTree} {name : String} {names : List String}

/-! ## Paths of names -/

theorem toList_pathOf (hne : names ≠ []) : (pathOf names).toList = pathChars names := by
  have hpath : pathOf names = String.join (names.map ("/" ++ ·)) := by
    cases names with
    | nil => exact absurd rfl hne
    | cons n ns => rfl
  rw [hpath, String.toList_join, List.flatMap_map]
  simp [pathChars]

theorem parts_of_notMem {cs : List Char} (h : '/' ∉ cs) : parts cs = [cs] := by
  induction cs with
  | nil => rfl
  | cons c cs ih =>
    rw [List.mem_cons, not_or] at h
    rw [parts, if_neg (Ne.symm h.1), ih h.2]

theorem parts_append_slash {cs : List Char} (h : '/' ∉ cs) (rest : List Char) :
    parts (cs ++ '/' :: rest) = cs :: parts rest := by
  induction cs with
  | nil => rw [List.nil_append, parts, if_pos rfl]
  | cons c cs ih =>
    rw [List.mem_cons, not_or] at h
    rw [List.cons_append, parts, if_neg (Ne.symm h.1), ih h.2]

/-- What was written for names is cut into them. -/
theorem parts_append_pathChars {cs : List Char} (hcs : '/' ∉ cs)
    (hnames : ∀ n ∈ names, IsEntryName n) :
    parts (cs ++ pathChars names) = cs :: names.map String.toList := by
  induction names generalizing cs with
  | nil => rw [pathChars, List.flatMap_nil, List.append_nil, parts_of_notMem hcs, List.map_nil]
  | cons n ns ih =>
    obtain ⟨hn, hns⟩ := List.forall_mem_cons.1 hnames
    have hcons : pathChars (n :: ns) = '/' :: (n.toList ++ pathChars ns) := rfl
    rw [hcons, parts_append_slash hcs, ih hn.slash_notMem hns, List.map_cons]

/-- The parts of the path of a directory that are not empty are the names that lead to it. -/
theorem filter_parts_pathOf (hnames : ∀ n ∈ names, IsEntryName n) :
    ((parts (pathOf names).toList).filter fun p => !p.isEmpty).map String.ofList = names := by
  by_cases hne : names = []
  · subst hne
    rfl
  · have hfull : (names.map String.toList).filter (fun p => !p.isEmpty) =
        names.map String.toList := by
      rw [List.filter_eq_self]
      intro p hp
      obtain ⟨n, hn, rfl⟩ := List.mem_map.1 hp
      rw [Bool.not_eq_true', List.isEmpty_eq_false_iff]
      exact mt String.toList_eq_nil_iff.1 (hnames n hn).ne_empty
    have hparts : parts ([] ++ pathChars names) = [] :: names.map String.toList :=
      parts_append_pathChars List.not_mem_nil hnames
    rw [List.nil_append] at hparts
    rw [toList_pathOf hne, hparts, List.filter_cons_of_neg (by simp), hfull, List.map_map]
    simp [Function.comp_def]

/-! ## Entries at paths -/

/-- From any entry, names lead to where they should. -/
theorem toOption_walk (t : FileTree) (outer : List FileTree) (hnames : ∀ n ∈ names, IsEntryName n) :
    (walk (t :: outer) names).toOption.bind List.head? = t.reach? names := by
  induction names generalizing t outer with
  | nil => rfl
  | cons n ns ih =>
    obtain ⟨hn, hns⟩ := List.forall_mem_cons.1 hnames
    cases t with
    | file text => rfl
    | closed kind failure => rfl
    | directory entries =>
      have hstay : (n = "" || n = ".") = false := by simp [hn.ne_empty, hn.ne_dot]
      have hentry : reach? (directory entries) (n :: ns) =
          (entries.lookup n).bind fun entry => entry.reach? ns := rfl
      rw [walk, hstay, if_neg Bool.false_ne_true, if_neg hn.ne_dots,
        if_neg (Nat.not_lt.2 hn.byteSize_le), hentry]
      cases entries.lookup n with
      | none => rfl
      | some entry => exact ih entry (directory entries :: outer) hns

/-- What a path that begins with a slash leads to does not depend on the working directory. -/
theorem at?_eq_walk {path : String} {rest : List Char} (hpath : path.toList = '/' :: rest)
    (hnul : '\x00' ∉ path.toList) (hsize : byteSize path.toList ≤ greatestPath)
    (workingDirectory : List String) :
    (root.at? workingDirectory path).toOption =
      (walk [root] ((parts path.toList).map String.ofList)).toOption.bind List.head? := by
  have hcontains : path.toList.contains '\x00' = false := by
    rw [← Bool.not_eq_true, List.contains_iff_mem]
    exact hnul
  rw [at?, hcontains]
  simp only [hpath, List.isEmpty_cons, Bool.false_eq_true, if_false, List.head?_cons,
    beq_self_eq_true, if_true]
  rw [← hpath, if_neg (Nat.not_lt.2 hsize)]
  show Except.toOption (walk [root] ((parts path.toList).map String.ofList) >>= _) = _
  cases walk [root] ((parts path.toList).map String.ofList) with
  | error e => rfl
  | ok trail => cases trail <;> rfl

/-- The path of an entry is too long for the system. -/
def IsTooLong (names : List String) : Prop := greatestPath < byteSize (pathOf names).toList

instance (names : List String) : Decidable (IsTooLong names) :=
  inferInstanceAs (Decidable (greatestPath < byteSize (pathOf names).toList))

section

variable (workingDirectory : List String)

/-- At the path of names is the entry to which they lead. -/
theorem toOption_at?_pathOf (hne : names ≠ []) (hnames : ∀ n ∈ names, IsEntryName n)
    (hsize : ¬IsTooLong names) :
    (root.at? workingDirectory (pathOf names)).toOption = root.reach? names := by
  obtain ⟨n, ns, rfl⟩ := List.exists_cons_of_ne_nil hne
  have hpath := toList_pathOf hne
  have hnul : '\x00' ∉ (pathOf (n :: ns)).toList := by
    rw [hpath, pathChars, List.mem_flatMap]
    rintro ⟨m, hm, hmem⟩
    exact (hnames m hm).nul_notMem ((List.mem_cons.1 hmem).resolve_left (by decide))
  have hparts : (parts (pathOf (n :: ns)).toList).map String.ofList = "" :: n :: ns := by
    have hsplit : parts ([] ++ pathChars (n :: ns)) = [] :: (n :: ns).map String.toList :=
      parts_append_pathChars List.not_mem_nil hnames
    rw [List.nil_append] at hsplit
    rw [hpath, hsplit]
    simp [Function.comp_def]
  rw [at?_eq_walk hpath hnul (Nat.not_lt.1 hsize), hparts]
  cases root with
  | file text => rfl
  | closed kind failure => rfl
  | directory entries => exact toOption_walk (directory entries) [] hnames

theorem toOption_at?_of_isTooLong (h : IsTooLong names) :
    (root.at? workingDirectory (pathOf names)).toOption = none := by
  rw [at?]
  split
  · rfl
  · split
    · rfl
    · have hlong : greatestPath < byteSize (pathOf names).toList := h
      rw [if_pos hlong]
      rfl

/-- What is read at a path is what its entry holds. -/
theorem read_eq_text {path : String} {entry : FileTree}
    (h : (root.at? workingDirectory path).toOption = some entry) :
    root.read workingDirectory path = entry.text := by
  rw [read]
  cases hat : root.at? workingDirectory path with
  | error e => rw [hat] at h; cases h
  | ok found =>
    rw [hat] at h
    obtain rfl := Option.some.inj h
    cases found with
    | directory entries => rfl
    | closed kind failure => rfl
    | file text => cases text <;> rfl

end

end FileTree

end QueryLint
