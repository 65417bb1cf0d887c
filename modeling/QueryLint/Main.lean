import QueryLint.Command.Run
import QueryLint.Command.Transcript

/-!
# The program

Reads the command line and the environment, lets the system answer what the command asks about
files, and writes what it has to say.
-/

namespace QueryLint

/-- What the system says when a file cannot be read. -/
def readFailureOf : IO.Error → ReadFailure
  | .noFileOrDirectory .. => .notFound
  | .inappropriateType .. => .notDirectory
  | .permissionDenied .. => .other "Permission denied (os error 13)"
  | .invalidArgument _ _ "name too long" => .nameTooLong
  | e => .other e.toString

/-- Whether there is a link at a path, wherever it leads. -/
def isLinkAt (path : String) : IO Bool := do
  try return (← ((← IO.currentDir) / path).symlinkMetadata).type == .symlink
  catch _ => return false

/-- What is at a path. -/
def kindAt (path : String) : IO (Option EntryKind) := do
  try
    let place ← IO.FS.realPath path
    return some (if ← place.isDir then .directory else .file)
  catch _ => return if ← isLinkAt path then some .broken else none

/-- What a file holds. -/
def textAt (path : String) : IO (Except ReadFailure String) := do
  if path.contains '\x00' then return .error .nulInName
  else if (← kindAt path) = some .directory then return .error .isDirectory
  else
    try
      match String.fromUTF8? (← IO.FS.readBinFile path) with
      | some text => return .ok text
      | none => return .error .notText
    catch e => return .error (readFailureOf e)

/-- The names in a directory. -/
def namesAt (path : String) : IO (Option (List String)) := do
  try
    let entries ← (← IO.FS.realPath path).readDir
    return some (entries.toList.map (·.fileName))
  catch _ => return none

/-- The system's answer to a question. -/
def systemAnswer : (q : Question) → IO (Answer q)
  | .kind path => kindAt path
  | .text path => textAt path
  | .names path => namesAt path
  | .workingDirectory => return (← IO.currentDir).toString

/-- Runs a program, with its questions answered by the system. -/
def Script.answerBySystem {α : Type} : Script α → IO α
  | .done a => return a
  | .ask q next => do (next (← systemAnswer q)).answerBySystem

end QueryLint

open QueryLint Command

/-- The program. -/
def main (arguments : List String) : IO UInt32 := do
  match Invocation.ofArguments (← IO.getEnv "SQLSCOUT_SCHEMA") arguments with
  | .error (.usage fault) =>
    IO.eprint (joinLines (("error: " ++ fault.message) :: usageLines))
    return 2
  | .error (.version command) =>
    IO.println (versionLine command)
    return 0
  | .error .help =>
    IO.print (joinLines usageLines)
    return 0
  | .ok i =>
    let run ← i.run.answerBySystem
    let filter := Log.Filter.ofText (defaultLevel i.verbosity) ((← IO.getEnv "RUST_LOG").getD "")
    for e in run.events do
      IO.print e.outputText
      IO.eprint (e.errorText filter)
    IO.eprint run.endText
    return run.exitCode.toUInt32
