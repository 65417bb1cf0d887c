import QueryLint.Files.Tree
import QueryLint.Glob.Pattern

/-!
# Files that fit a pattern

A pattern is expanded part by part.  A part without wildcards names one entry, which only has to
be there.  A part with wildcards goes through the entries of a directory by name, and `**` goes
through everything below a directory, a directory before what is in it.  A path is shown as it
was reached, without a leading `./`.

* `Glob.expand`: the paths that fit a pattern, in order.
-/

namespace QueryLint.Glob

/-- A path that a pattern has led to so far. -/
structure Place where
  path : String
  isDirectory : Bool
  deriving DecidableEq, Repr

/-- Whether a path is the working directory, whatever dots and slashes it is written with. -/
def isHere (path : String) : Bool :=
  match FileTree.parts path.toList with
  | ['.'] :: rest => rest.all fun p => p = [] || p = ['.']
  | _ => false

/-- The path of an entry. -/
def joinPath (directory name : String) : String :=
  if directory.toList.getLast? == some '/' then directory ++ name
  else directory ++ "/" ++ name

/-- The path of an entry; the working directory is not mentioned. -/
def entryPath (directory name : String) : String :=
  if isHere directory then name else joinPath directory name

/-- The place of a path. -/
def placeAt (path : String) : Script Place := do
  return ⟨path, (← Script.kindOf path) == some .directory⟩

/-- The entries of a directory by name. -/
def entries (directory : String) : Script (List (String × Place)) := do
  match ← Script.namesIn directory with
  | none => return []
  | some names =>
    (names.mergeSort fun a b => decide (a ≤ b)).mapM fun name => do
      return (name, ← placeAt (entryPath directory name))

/-- The longest chain of directories, which a path of limited length bounds. -/
def greatestDepth : Nat := FileTree.greatestPath / 2 + 1

/-- Everything below a directory with its name, a directory before its entries. -/
def below : Nat → String → Script (List (String × Place))
  | 0, _ => return []
  | depth + 1, directory => do
    let found ← (← entries directory).mapM fun e => do
      if e.2.isDirectory then return e :: (← below depth e.2.path) else return [e]
    return found.flatten

/-- The special entries that a pattern fits, last one first. -/
def specials (pattern : List Token) : List String :=
  if pattern.head? = some (.char '.') then
    [["..", "."].filter fun name => matchesName pattern name.toList].flatten
  else []

/-- Goes on with every place in turn. -/
def onEach (places : List Place) (next : Place → Script (List Place)) : Script (List Place) := do
  return (← places.mapM next).flatten

/-- The places that the parts of a pattern lead to from a place. -/
def expandFrom : List (List Token) → Place → Script (List Place)
  | [], place => return [place]
  | pattern :: rest, place =>
    match literal? pattern with
    | some name => do
      let name := String.ofList name
      let path := if isHere place.path then name else joinPath place.path name
      let next ← placeAt path
      if name = "." || name = ".." then
        if place.isDirectory then expandFrom rest next else return []
      else if (← Script.kindOf path).isSome then expandFrom rest next
      else return []
    | none => do
      if !place.isDirectory then return []
      else if pattern = [.anyDepth] then
        let found ← below greatestDepth place.path
        match rest with
        | [] => return (found.map Prod.snd).filter Place.isDirectory
        | second :: others =>
          if second = [.anyDepth] then expandFrom (second :: others) place
          else
            onEach ((found.filter fun e => matchesName second e.1.toList).map Prod.snd)
              (expandFrom others)
      else
        let dots ← (specials pattern).mapM fun name => placeAt (joinPath place.path name)
        let found ← entries place.path
        let fitting := (found.filter fun e => matchesName pattern e.1.toList).map Prod.snd
        onEach (dots ++ fitting) (expandFrom rest)

/-- The parts of a pattern; a slash at its end starts no part. -/
def patternParts (cs : List Char) : List (List Char) :=
  match (FileTree.parts cs).reverse with
  | [] :: ps => ps.reverse
  | ps => ps.reverse

/-- The paths that fit a pattern, in order.  A pattern that ends in a slash fits directories
only. -/
def expand (pattern : String) : Script (Except Fault (List String)) :=
  let cs := pattern.toList
  let relative := cs.dropWhile (· = '/')
  let start := if relative.length = cs.length then "." else "/"
  let parsed := do
    let _ ← tokens? cs
    (patternParts relative).mapM tokens?
  match parsed with
  | .error e => return .error e
  | .ok patterns => do
    let places ← expandFrom patterns ⟨start, true⟩
    let kept := if cs.getLast? == some '/' then places.filter Place.isDirectory else places
    return .ok (kept.map Place.path)

end QueryLint.Glob
