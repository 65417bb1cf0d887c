import QueryLint.Files.Script
import QueryLint.Text.Bytes

/-!
# Files in memory

A file system as a tree of directories.  A path is read part by part from the root or from the
working directory: an empty part or a dot stays where it is, two dots go up, and any other part
names an entry.  Only a directory has parts below it.  An entry can also be closed: it is in its
directory, but of what is behind it only the kind is known.

* `FileTree`: the type; `FileTree.insert` puts an entry at a place.
* `FileTree.walk`: the entry at a path.
* `FileTree.answer`: the answers to a script's questions.
-/

namespace QueryLint

/-- An entry of a file system. -/
inductive FileTree where
  /-- A file; without a text its bytes are no UTF-8. -/
  | file (text : Option String)
  | directory (entries : List (String × FileTree))
  /-- An entry that the system does not read or go through, and what it says instead: a link that
  leads nowhere, or what may not be looked into. -/
  | closed (kind : EntryKind) (failure : ReadFailure)
  deriving Repr

namespace FileTree

/-- The directory without entries. -/
def empty : FileTree := directory []

/-- What an entry is. -/
def kind : FileTree → EntryKind
  | file _ => .file
  | directory _ => .directory
  | closed kind _ => kind

/-- The entries of a directory that is open; nothing else has any. -/
def children : FileTree → List (String × FileTree)
  | directory entries => entries
  | _ => []

/-- Why no path leads through an entry that has none. -/
def obstacle : FileTree → ReadFailure
  | closed .directory failure => failure
  | closed .broken failure => failure
  | _ => .notDirectory

/-- Replaces the entry of a name, or adds it. -/
def setEntry (name : String) (t : FileTree) : List (String × FileTree) → List (String × FileTree)
  | [] => [(name, t)]
  | e :: es => if e.1 = name then (name, t) :: es else e :: setEntry name t es

/-- Puts an entry at a place.  Directories on the way are made, and a directory that is there
already keeps its entries if a directory is put in its place. -/
def insert (t entry : FileTree) : List String → FileTree
  | [] =>
    match t, entry with
    | directory old, directory _ => directory old
    | _, new => new
  | name :: names =>
    let child := (t.children.lookup name).getD empty
    directory (setEntry name (child.insert entry names) t.children)

/-- Cuts a path at its slashes. -/
def parts : List Char → List (List Char)
  | [] => [[]]
  | c :: cs =>
    if c = '/' then [] :: parts cs
    else
      match parts cs with
      | [] => [[c]]
      | p :: ps => (c :: p) :: ps

/-- The longest name of an entry, in bytes. -/
def greatestName : Nat := 255

/-- The longest path, in bytes. -/
def greatestPath : Nat := 4095

/-- Goes from the innermost entry of a trail, whose end is the root, along the parts of a
path. -/
def walk : List FileTree → List String → Except ReadFailure (List FileTree)
  | trail, [] => .ok trail
  | trail, part :: rest =>
    match trail with
    | directory entries :: outer =>
      if part = "" || part = "." then walk trail rest
      else if part = ".." then walk (if outer.isEmpty then trail else outer) rest
      else if greatestName < Text.byteSize part.toList then .error .nameTooLong
      else
        match entries.lookup part with
        | some entry => walk (entry :: trail) rest
        | none => .error .notFound
    | t :: _ => .error t.obstacle
    | [] => .error .notDirectory

/-- The entry at a path, seen from the working directory. -/
def at? (root : FileTree) (workingDirectory : List String) (path : String) :
    Except ReadFailure FileTree :=
  let cs := path.toList
  let steps := (parts cs).map String.ofList
  if cs.isEmpty then .error .notFound
  else if cs.contains '\x00' then .error .nulInName
  else if greatestPath < Text.byteSize cs then .error .nameTooLong
  else do
    let start ← if cs.head? == some '/' then .ok [root] else walk [root] workingDirectory
    match ← walk start steps with
    | entry :: _ => .ok entry
    | [] => .error .notFound

/-- What a file holds. -/
def read (root : FileTree) (workingDirectory : List String) (path : String) :
    Except ReadFailure String :=
  match root.at? workingDirectory path with
  | .error e => .error e
  | .ok (directory _) => .error .isDirectory
  | .ok (file none) => .error .notText
  | .ok (file (some text)) => .ok text
  | .ok (closed _ failure) => .error failure

/-- The path of a directory, given by the names that lead to it. -/
def pathOf : List String → String
  | [] => "/"
  | names => String.join (names.map ("/" ++ ·))

/-- Answers the questions of a script. -/
def answer (root : FileTree) (workingDirectory : List String) : (q : Question) → Answer q
  | .kind path => (root.at? workingDirectory path).toOption.map kind
  | .text path => root.read workingDirectory path
  | .names path =>
    match root.at? workingDirectory path with
    | .ok (directory entries) => some (entries.map Prod.fst)
    | _ => none
  | .workingDirectory => pathOf workingDirectory

end FileTree

end QueryLint
