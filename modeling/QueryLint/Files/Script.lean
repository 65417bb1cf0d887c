/-!
# Programs that ask for files

The command line works on files, but what it does with them is a pure function of what they
hold.  A `Script` is a program that stops to ask a question about the file system and goes on
with the answer.  The same script can be answered by files kept in memory or by the system.

* `Question`, `Answer`: what can be asked.
* `Script`: programs, with their `Monad` instance.
* `Script.answerBy`: runs a program on a file system given as a function; it commutes with
  sequencing, `Script.answerBy_bind`.
-/

namespace QueryLint

/-- What an entry of the file system is. -/
inductive EntryKind where
  | file
  | directory
  /-- Nothing is found behind the entry, as with a link that leads nowhere. -/
  | broken
  deriving DecidableEq, Repr

/-- Why a file cannot be read. -/
inductive ReadFailure where
  | notFound
  | isDirectory
  /-- A part of the path that should be a directory is a file. -/
  | notDirectory
  | nameTooLong
  | nulInName
  /-- The bytes are no UTF-8. -/
  | notText
  /-- Anything else, in the system's words. -/
  | other (message : String)
  deriving DecidableEq, Repr

/-- The text of a failure. -/
def ReadFailure.message : ReadFailure → String
  | notFound => "No such file or directory (os error 2)"
  | isDirectory => "Is a directory (os error 21)"
  | notDirectory => "Not a directory (os error 20)"
  | nameTooLong => "File name too long (os error 36)"
  | nulInName => "file name contained an unexpected NUL byte"
  | notText => "stream did not contain valid UTF-8"
  | other message => message

/-- A question about the file system. -/
inductive Question where
  /-- What is at a path, if anything. -/
  | kind (path : String)
  /-- What a file holds. -/
  | text (path : String)
  /-- The names in a directory. -/
  | names (path : String)
  /-- The path of the working directory, from the root. -/
  | workingDirectory
  deriving DecidableEq, Repr

/-- The answers to a question. -/
abbrev Answer : Question → Type
  | .kind _ => Option EntryKind
  | .text _ => Except ReadFailure String
  | .names _ => Option (List String)
  | .workingDirectory => String

/-- A program that asks for files. -/
inductive Script (α : Type) : Type where
  | done (a : α)
  | ask (q : Question) (next : Answer q → Script α)

namespace Script

variable {α β : Type}

/-- Runs the second program on the result of the first. -/
protected def bind (p : Script α) (f : α → Script β) : Script β :=
  match p with
  | done a => f a
  | ask q next => ask q fun r => (next r).bind f

instance : Monad Script where
  pure := done
  bind := Script.bind

/-- What is at a path. -/
def kindOf (path : String) : Script (Option EntryKind) := ask (.kind path) done

/-- Whether anything is found at a path. -/
def isPresent (path : String) : Script Bool := do
  return (← kindOf path).any (· != .broken)

/-- What a file holds. -/
def textOf (path : String) : Script (Except ReadFailure String) := ask (.text path) done

/-- The names in a directory. -/
def namesIn (path : String) : Script (Option (List String)) := ask (.names path) done

/-- The path of the working directory. -/
def workingDirectory : Script String := ask .workingDirectory done

/-- Runs a program, with all questions answered by one function. -/
def answerBy (answer : (q : Question) → Answer q) : Script α → α
  | done a => a
  | ask q next => answerBy answer (next (answer q))

variable (answer : (q : Question) → Answer q)

@[simp] theorem answerBy_pure (a : α) : answerBy answer (pure a : Script α) = a := rfl

@[simp] theorem answerBy_bind (p : Script α) (f : α → Script β) :
    answerBy answer (p >>= f) = answerBy answer (f (answerBy answer p)) := by
  show answerBy answer (p.bind f) = _
  induction p with
  | done a => rfl
  | ask q next ih => exact ih (answer q)

@[simp] theorem answerBy_kindOf (path : String) :
    answerBy answer (kindOf path) = answer (.kind path) := rfl

@[simp] theorem answerBy_isPresent (path : String) :
    answerBy answer (isPresent path) = (answer (.kind path)).any (· != .broken) := rfl

@[simp] theorem answerBy_textOf (path : String) :
    answerBy answer (textOf path) = answer (.text path) := rfl

@[simp] theorem answerBy_namesIn (path : String) :
    answerBy answer (namesIn path) = answer (.names path) := rfl

@[simp] theorem answerBy_workingDirectory :
    answerBy answer workingDirectory = answer .workingDirectory := rfl

end Script

end QueryLint
