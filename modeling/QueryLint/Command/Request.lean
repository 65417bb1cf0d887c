/-!
# What can be asked for on the command line

A request names a command and its arguments.  `check` looks at queries; it can do without any
argument, because a configuration file may say what is left out.  The other commands look at a
schema and need to be told which one.

* `Format`: how results are written.
* `CheckOptions`: the arguments of `check`, as far as they are given.
* `Request`, `Invocation`.
-/

namespace QueryLint.Command

/-- How results are written. -/
inductive Format where
  /-- For people to read. -/
  | human
  | json
  /-- The JSON dialect of code scanners. -/
  | sarif
  deriving DecidableEq, Repr

namespace Format

/-- The word for a format. -/
def name : Format → String
  | human => "human"
  | json => "json"
  | sarif => "sarif"

/-- All formats. -/
def all : List Format := [human, json, sarif]

/-- The format with a given word. -/
def ofName? (s : String) : Option Format := all.find? fun f => f.name == s

@[simp] theorem ofName?_name (f : Format) : ofName? f.name = some f := by cases f <;> decide

/-- Whether results are written for people. -/
def isHuman (f : Format) : Bool := f == human

end Format

/-- The arguments of `check`, as far as they are given. -/
structure CheckOptions where
  /-- The files with queries, or patterns of such files. -/
  files : List String
  /-- A query to look at besides. -/
  query : Option String
  schema : Option String
  config : Option String
  /-- The codes of complaints to leave out. -/
  disable : List String
  format : Option Format
  deriving DecidableEq, Repr

/-- A command with its arguments. -/
inductive Request where
  | check (options : CheckOptions)
  /-- How two tables are joined. -/
  | join (a b schema : String) (format : Format)
  /-- The tables that have to do with some keywords. -/
  | tables (keywords : List String) (schema : String) (format : Format)
  /-- The columns of a table that some keywords call for. -/
  | columns (table : String) (keywords : List String) (schema : String) (format : Format)
  /-- All about one table. -/
  | info (table schema : String) (format : Format)
  /-- All tables in short. -/
  | summary (schema : String) (format : Format)
  /-- A schema with everything that is wrong with it. -/
  | schema (file : String)
  deriving DecidableEq, Repr

/-- A request, and how much to say about it. -/
structure Invocation where
  /-- How often more has been asked for in the log. -/
  verbosity : Nat
  /-- Whether to leave out everything but results. -/
  quiet : Bool
  request : Request
  deriving DecidableEq, Repr

end QueryLint.Command
