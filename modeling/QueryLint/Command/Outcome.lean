import QueryLint.Command.Config
import QueryLint.Glob.Pattern
import QueryLint.Json.Printer
import QueryLint.Log
import QueryLint.Schema.Load

/-!
# What a command does

A command writes lines, leaves records in the log, and comes to an end: it has found nothing
wrong, or something, or it could not go on.  All of that is one value, `Run`, in which the order
of the events is the order in which they happened.

* `Event`, `Fatal`, `Run`.
* `Run.exitCode`.
-/

namespace QueryLint.Command

/-- Something that happens while a command runs. -/
inductive Event where
  /-- A line of output. -/
  | output (line : String)
  /-- A line for the person at the terminal. -/
  | notice (line : String)
  | record (r : Log.Record)
  /-- A check goes on without its schema. -/
  | withoutSchema (failure : Schema.LoadFailure)

/-- Why a command cannot go on. -/
inductive Fatal where
  | schema (failure : Schema.LoadFailure)
  | config (failure : ConfigFailure)
  | pattern (fault : Glob.Fault)
  | unreadable (failure : ReadFailure)
  /-- There is no query to check. -/
  | noQueries
  | unknownTable (name : String)

/-- The text of a fatal error. -/
def Fatal.message : Fatal → String
  | schema failure => failure.message
  | config failure => failure.message
  | pattern fault => fault.message
  | unreadable failure => failure.message
  | noQueries =>
    "No queries specified. Use positional file arguments, --query, or configure files in " ++
      configName
  | unknownTable name => "Table '" ++ name ++ "' not found in schema"

/-- What a command has done, and whether it has found something wrong. -/
structure Run where
  events : List Event
  outcome : Except Fatal Bool

namespace Run

/-- A run that has found nothing wrong. -/
def ofEvents (events : List Event) : Run := ⟨events, .ok false⟩

/-- A run that ends in an error. -/
def failed (events : List Event) (f : Fatal) : Run := ⟨events, .error f⟩

/-- The same run after other events. -/
def after (r : Run) (events : List Event) : Run := { r with events := events ++ r.events }

@[simp] theorem events_after (r : Run) (events : List Event) :
    (r.after events).events = events ++ r.events := rfl

@[simp] theorem outcome_after (r : Run) (events : List Event) :
    (r.after events).outcome = r.outcome := rfl

/-- The exit code of the program. -/
def exitCode (r : Run) : Nat :=
  match r.outcome with
  | .ok false => 0
  | .ok true => 1
  | .error _ => 2

end Run

@[simp] theorem Run.exitCode_after (r : Run) (events : List Event) :
    (r.after events).exitCode = r.exitCode := rfl

/-- Lines of output. -/
def outputLines (lines : List String) : List Event := lines.map .output

/-- A value as output. -/
def outputJson (v : Json) : List Event := [.output v.pretty]

/-- Lines for the person at the terminal. -/
def noticeLines (lines : List String) : List Event := lines.map .notice

/-- Records. -/
def recordEvents (rs : List Log.Record) : List Event := rs.map .record

end QueryLint.Command
