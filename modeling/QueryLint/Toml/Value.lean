/-!
# TOML values

A TOML document is a table.  Every way of writing a table makes it, or makes the tables around
it, and which way it was decides what may still be added later.  A floating point number and a
date or time are kept as they are written.

## Definitions

A table written between braces is complete.  A table that a header names is complete up to the
next header; other headers can still add tables inside it.  A table that came into being only
because a header names a table inside it can get a header of its own later.  A table that a
dotted key made takes further dotted keys, but no header.

* `Value`, `Entries`, `Origin`.
* `assign`: adds a value under a dotted key.
* `defineTable`, `defineElement`: what the two kinds of headers do.
* `Statement`, `Statement.apply`: a document is a list of statements.
-/

namespace QueryLint.Toml

/-- What has made a table. -/
inductive Origin where
  /-- A pair of braces. -/
  | braces
  /-- A header of its own. -/
  | header
  /-- The header of a table inside it. -/
  | implied
  /-- A dotted key. -/
  | dotted
  deriving DecidableEq, Repr

/-- A value. -/
inductive Value where
  | string (s : String)
  | integer (n : Int)
  /-- A number with a fraction or an exponent, an infinity, or no number. -/
  | float (numeral : String)
  | boolean (b : Bool)
  /-- A date, a time, or both. -/
  | moment (text : String)
  | array (items : List Value)
  | table (origin : Origin) (entries : List (String × Value))
  /-- The tables that headers in double brackets have made. -/
  | tables (elements : List (List (String × Value)))
  deriving Repr

/-- The entries of a table. -/
abbrev Entries := List (String × Value)

/-- Changes the value under a key, or adds one. -/
def alter (key : String) (f : Option Value → Option Value) : Entries → Option Entries
  | [] => (f none).map fun v => [(key, v)]
  | e :: es =>
    if e.1 = key then (f (some e.2)).map fun v => (key, v) :: es
    else (alter key f es).map (e :: ·)

/-- Changes the last element of a list that has one. -/
def alterLast {α : Type} (f : α → Option α) : List α → Option (List α)
  | [] => none
  | [a] => (f a).map ([·])
  | a :: b :: as => (alterLast f (b :: as)).map (a :: ·)

/-- A rule on how keys lead into tables. -/
structure Way where
  /-- What a table is said to be made by if there is none yet. -/
  makes : Origin
  /-- The tables that can be entered. -/
  enters : List Origin
  /-- Whether a list of tables can be entered at its last element. -/
  entersElements : Bool
  deriving DecidableEq, Repr

namespace Way

/-- The way to the table of a header. -/
def header : Way := ⟨.implied, [.header, .implied, .dotted], true⟩

/-- The way along a dotted key. -/
def key : Way := ⟨.dotted, [.implied, .dotted], true⟩

/-- The last step to where the value of a dotted key belongs. -/
def lastKey : Way := ⟨.dotted, [.dotted], false⟩

/-- Changes a table that the rule allows to enter. -/
def enter (w : Way) (f : Entries → Option Entries) : Option Value → Option Value
  | none => (f []).map (.table w.makes)
  | some (.table origin es) =>
    if origin ∈ w.enters then (f es).map (.table origin) else none
  | some (.tables elements) =>
    if w.entersElements then (alterLast f elements).map .tables else none
  | some _ => none

end Way

/-- Adds a value under a dotted key that has none. -/
def assign (v : Value) : List String → Entries → Option Entries
  | [], _ => none
  | [key], es => alter key (fun old => if old.isNone then some v else none) es
  | key :: next :: keys, es =>
    alter key ((if keys.isEmpty then Way.lastKey else Way.key).enter (assign v (next :: keys))) es

/-- The table that entries between braces make. -/
def ofBraces? (pairs : List (List String × Value)) : Option Value :=
  (pairs.foldlM (fun es p => assign p.2 p.1 es) []).map (.table .braces)

/-- Changes the table of a header that has been defined. -/
def within (f : Entries → Option Entries) : List String → Entries → Option Entries
  | [], es => f es
  | key :: keys, es => alter key (Way.header.enter (within f keys)) es

/-- Changes what is under the last key of a header. -/
def alterUnder (f : Option Value → Option Value) : List String → Entries → Option Entries
  | [], _ => none
  | [key], es => alter key f es
  | key :: next :: keys, es => alter key (Way.header.enter (alterUnder f (next :: keys))) es

/-- The table under the last key of a header. -/
def defineTable : Option Value → Option Value
  | none => some (.table .header [])
  | some (.table .implied es) => some (.table .header es)
  | some _ => none

/-- The tables under the last key of a header in double brackets. -/
def defineElement : Option Value → Option Value
  | none => some (.tables [[]])
  | some (.tables elements) => some (.tables (elements ++ [[]]))
  | some _ => none

/-- A line of a document. -/
inductive Statement where
  /-- A header. -/
  | table (path : List String)
  /-- A header in double brackets. -/
  | element (path : List String)
  | assignment (path : List String) (v : Value)
  deriving Repr

/-- A document up to some line. -/
structure Draft where
  /-- The header above the line, if any. -/
  header : List String
  entries : Entries
  deriving Repr

/-- Adds a line to a document. -/
def Statement.apply (d : Draft) : Statement → Option Draft
  | table path => (alterUnder defineTable path d.entries).map (⟨path, ·⟩)
  | element path => (alterUnder defineElement path d.entries).map (⟨path, ·⟩)
  | assignment path v => (within (assign v path) d.header d.entries).map (⟨d.header, ·⟩)

/-- The table that the lines of a document make. -/
def ofStatements? (ss : List Statement) : Option Entries :=
  (ss.foldlM Statement.apply ⟨[], []⟩).map Draft.entries

end QueryLint.Toml
