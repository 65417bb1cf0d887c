import QueryLint.Command.Outcome

/-!
# What a run shows

Output goes to one stream, and everything else to another: lines for the person at the terminal,
the records that the log keeps, and errors.  An error is told in lines, one for each thing that
is known about it.

* `defaultLevel`: how much is logged.
* `Event.outputText`, `Event.errorText`: what an event adds to either stream.
* `Run.outputText`, `Run.errorText`: the streams of a run.
-/

namespace QueryLint.Command

/-- How much is logged unless something else is asked for. -/
def defaultLevel : Nat → Log.Level
  | 0 => .warn
  | 1 => .info
  | _ => .debug

/-- An error, told in lines. -/
def narrate (message : String) (cause help code : Option String) : List String :=
  [message, "    Diagnostic severity: error"] ++
    (cause.map ("    Caused by: " ++ ·)).toList ++
    (help.map ("diagnostic help: " ++ ·)).toList ++
    (code.map ("diagnostic code: " ++ ·)).toList ++ [""]

/-- A schema that cannot be loaded, told in lines. -/
def narrateLoadFailure (f : Schema.LoadFailure) : List String :=
  narrate f.message f.cause f.help (some f.code)

/-- A fatal error, told in lines. -/
def narrateFatal : Fatal → List String
  | .schema f => narrateLoadFailure f
  | f => narrate f.message none none none

/-- Lines as they are written. -/
def joinLines (lines : List String) : String := String.join (lines.map (· ++ "\n"))

/-- What an event adds to the output. -/
def Event.outputText : Event → String
  | .output line => line ++ "\n"
  | _ => ""

/-- What an event adds to the other stream. -/
def Event.errorText (filter : Log.Filter) : Event → String
  | .output _ => ""
  | .notice line => line ++ "\n"
  | .record r => if filter.admits r then r.line ++ "\n" else ""
  | .withoutSchema f => joinLines (narrateLoadFailure f)

/-- What the end of a run adds to the other stream. -/
def Run.endText (r : Run) : String :=
  match r.outcome with
  | .ok _ => ""
  | .error f => "Error: " ++ joinLines (narrateFatal f)

/-- The output of a run. -/
def Run.outputText (r : Run) : String := String.join (r.events.map Event.outputText)

/-- The other stream of a run. -/
def Run.errorText (filter : Log.Filter) (r : Run) : String :=
  String.join (r.events.map (Event.errorText filter)) ++ r.endText

end QueryLint.Command
