import QueryLint.Command.Request

/-!
# Reading the command line

An argument that begins with a hyphen is a flag or an option, unless it is the hyphen alone; two
hyphens alone turn all later arguments into operands.  A long option takes its value behind an
equals sign or from the next argument, a short one also directly behind its letter, and short
flags can be joined.  Flags stand before or after the name of the command; all else stands
behind it.

## Two faults at once

Arguments are taken from left to right, but a value that stands in an argument of its own is
looked at only when the next flag, option or operand is: until then it is pending.  So an
argument that nobody knows is reported before a bad value in front of it, while a bad value that
is attached to its option comes first.  What is missing is found out at the end.

* `CommandName`, `OptionName`, `Flag`: what there is.
* `UsageFault`: why a command line is refused.
* `Draft.take`: takes an argument; `Draft.settle` looks at what is pending.
* `Invocation.ofArguments`: reads a command line.
-/

namespace QueryLint.Command

/-! ## What there is -/

/-- The commands. -/
inductive CommandName where
  | check
  | join
  | tables
  | columns
  | info
  | summary
  | schema
  deriving DecidableEq, Repr

/-- The switches that every command has. -/
inductive Flag where
  | verbose
  | quiet
  | version
  | help
  deriving DecidableEq, Repr

/-- The options that have values. -/
inductive OptionName where
  | query
  | schema
  | config
  | disable
  | format
  deriving DecidableEq, Repr

namespace Flag

/-- All flags. -/
def all : List Flag := [verbose, quiet, version, help]

/-- The long name of a flag. -/
def long : Flag → String
  | verbose => "verbose"
  | quiet => "quiet"
  | version => "version"
  | help => "help"

/-- The letter of a flag. -/
def letter : Flag → Char
  | verbose => 'v'
  | quiet => 'q'
  | version => 'V'
  | help => 'h'

end Flag

namespace OptionName

/-- The long name of an option. -/
def long : OptionName → String
  | query => "query"
  | schema => "schema"
  | config => "config"
  | disable => "disable"
  | format => "format"

/-- The letter of an option that has one. -/
def letter? : OptionName → Option Char
  | query => some 'e'
  | schema => some 's'
  | config => some 'c'
  | disable => none
  | format => some 'f'

/-- Whether an option can be given more than once. -/
def isRepeatable (o : OptionName) : Bool := o == disable

/-- Whether a value is one that an option can have. -/
def accepts (value : String) : OptionName → Bool
  | query | disable => true
  | schema | config => value != ""
  | format => (Format.ofName? value).isSome

end OptionName

namespace CommandName

/-- All commands. -/
def all : List CommandName := [check, join, tables, columns, info, summary, schema]

/-- The word for a command. -/
def name : CommandName → String
  | check => "check"
  | join => "join"
  | tables => "tables"
  | columns => "columns"
  | info => "info"
  | summary => "summary"
  | schema => "schema"

/-- The command with a given word. -/
def ofName? (s : String) : Option CommandName := all.find? fun c => c.name == s

/-- The word that asks for help in the place of a command. -/
def helpWord : String := "help"

/-- Whether a word can stand in the place of a command. -/
def isWord (s : String) : Bool := (ofName? s).isSome || s == helpWord

/-- The options of a command. -/
def options : CommandName → List OptionName
  | check => [.query, .schema, .config, .disable, .format]
  | schema => []
  | _ => [.schema, .format]

/-- The number of operands that a command needs. -/
def neededOperands : CommandName → Nat
  | join => 2
  | columns | info | schema => 1
  | _ => 0

/-- Whether a command takes further operands. -/
def takesMore : CommandName → Bool
  | check | tables | columns => true
  | _ => false

/-- Whether the operands are paths, which are never empty. -/
def operandsArePaths : CommandName → Bool
  | check | schema => true
  | _ => false

/-- Whether a command cannot do without a schema that is named by an option. -/
def needsSchema (c : CommandName) : Bool := c != check && c != schema

end CommandName

/-- Why a command line is refused. -/
inductive UsageFault where
  /-- There is no argument at all. -/
  | nothingAsked
  /-- There is no command. -/
  | missingCommand
  /-- There is a word in the place of a command that is none. -/
  | unknownCommand
  | unknownArgument
  /-- Something that the command needs is not there. -/
  | missingArgument
  /-- An option has no value, or one that it cannot have. -/
  | invalidValue
  /-- A flag has a value. -/
  | superfluousValue
  /-- Something is given twice that can be given once. -/
  | repeatedArgument
  deriving DecidableEq, Repr

/-- The text of a fault. -/
def UsageFault.message : UsageFault → String
  | nothingAsked => "no arguments are given"
  | missingCommand => "a command is missing"
  | unknownCommand => "there is no such command"
  | unknownArgument => "there is no such argument"
  | missingArgument => "a required argument is missing"
  | invalidValue => "a value is missing or cannot be used"
  | superfluousValue => "a flag takes no value"
  | repeatedArgument => "an argument cannot be given twice"

/-- Why there is nothing to run. -/
inductive Stop where
  | usage (fault : UsageFault)
  /-- The version is asked for, of the program or of one command. -/
  | version (command : Option CommandName)
  | help
  deriving DecidableEq, Repr

/-! ## Arguments -/

/-- What an argument looks like. -/
inductive Argument where
  /-- Two hyphens. -/
  | escape
  | long (name : String) (value : Option String)
  /-- A hyphen and at least one letter. -/
  | short (letters : List Char)
  | word (s : String)
  deriving DecidableEq, Repr

/-- What an argument looks like. -/
def Argument.ofString (s : String) : Argument :=
  match s.toList with
  | ['-', '-'] => escape
  | '-' :: '-' :: cs =>
    let name := String.ofList (cs.takeWhile (· != '='))
    match cs.dropWhile (· != '=') with
    | _ :: value => long name (some (String.ofList value))
    | [] => long name none
  | '-' :: c :: cs => short (c :: cs)
  | _ => word s

/-- What has been taken but not looked at. -/
inductive Pending where
  | nothing
  | option (o : OptionName) (value : Option String)
  | operands (values : List String)
  deriving DecidableEq, Repr

/-- The arguments of the program or of a command that have been taken. -/
structure Draft where
  verbosity : Nat
  quiet : Bool
  options : List (OptionName × String)
  operands : List String
  pending : Pending
  /-- Whether all further arguments are operands. -/
  escaped : Bool
  deriving DecidableEq, Repr

namespace Draft

/-- Nothing has been taken. -/
def empty : Draft := ⟨0, false, [], [], .nothing, false⟩

/-- Whether no flag has been taken. -/
def isEmpty (d : Draft) : Bool := d.verbosity == 0 && !d.quiet

/-- The first value of an option. -/
def value? (d : Draft) (o : OptionName) : Option String := d.options.lookup o

/-- All values of an option. -/
def values (d : Draft) (o : OptionName) : List String :=
  (d.options.filter fun p => p.1 == o).map Prod.snd

/-- Adds the value of an option. -/
def addValue (d : Draft) (o : OptionName) (value : String) : Except Stop Draft :=
  if !o.isRepeatable && (d.value? o).isSome then .error (.usage .repeatedArgument)
  else if o.accepts value then .ok { d with options := d.options ++ [(o, value)] }
  else .error (.usage .invalidValue)

/-- Looks at what is pending. -/
def settle (scope : Option CommandName) (d : Draft) : Except Stop Draft :=
  match d.pending with
  | .nothing => .ok d
  | .option _ none => .error (.usage .invalidValue)
  | .option o (some value) => { d with pending := .nothing }.addValue o value
  | .operands values =>
    if scope.any CommandName.operandsArePaths && values.contains "" then
      .error (.usage .invalidValue)
    else .ok { d with operands := d.operands ++ values, pending := .nothing }

/-- Sets a flag. -/
def setFlag (scope : Option CommandName) (d : Draft) : Flag → Except Stop Draft
  | .verbose => .ok { d with verbosity := d.verbosity + 1 }
  | .quiet =>
    if d.quiet then .error (.usage .repeatedArgument) else .ok { d with quiet := true }
  | .version => .error (.version scope)
  | .help => .error .help

/-- Takes a flag. -/
def takeFlag (scope : Option CommandName) (d : Draft) (f : Flag) : Except Stop Draft := do
  (← d.settle scope).setFlag scope f

/-- Takes an option, with a value that is attached to it or without. -/
def takeOption (scope : Option CommandName) (d : Draft) (o : OptionName) :
    Option String → Except Stop Draft
  | some value => do (← d.settle scope).addValue o value
  | none => do return { (← d.settle scope) with pending := .option o none }

/-- The options of a command; the program itself has none. -/
def optionsOf (scope : Option CommandName) : List OptionName :=
  (scope.map CommandName.options).getD []

/-- Takes a long flag or option. -/
def takeLong (scope : Option CommandName) (d : Draft) (name : String) (value : Option String) :
    Except Stop Draft :=
  match Flag.all.find? (·.long == name), (optionsOf scope).find? (·.long == name) with
  | some f, _ =>
    if value.isSome then .error (.usage .superfluousValue) else d.takeFlag scope f
  | none, some o => d.takeOption scope o value
  | none, none => .error (.usage .unknownArgument)

/-- The value that is attached to a letter; an equals sign in front is no part of it. -/
def attached : List Char → Option String
  | [] => none
  | '=' :: cs => some (String.ofList cs)
  | cs => some (String.ofList cs)

/-- Takes joined short flags, the last of which may be an option with its value. -/
def takeLetters (scope : Option CommandName) (d : Draft) : List Char → Except Stop Draft
  | [] => .ok d
  | c :: cs =>
    match Flag.all.find? (·.letter == c), (optionsOf scope).find? (·.letter? == some c) with
    | some f, _ => do (← d.takeFlag scope f).takeLetters scope cs
    | none, some o => d.takeOption scope o (attached cs)
    | none, none => .error (.usage .unknownArgument)

/-- The number of operands that have been taken. -/
def operandCount (d : Draft) : Nat :=
  d.operands.length +
    match d.pending with
    | .operands values => values.length
    | _ => 0

/-- Takes an operand of a command. -/
def takeOperand (command : CommandName) (d : Draft) (s : String) : Except Stop Draft :=
  if !command.takesMore && command.neededOperands ≤ d.operandCount then
    .error (.usage .unknownArgument)
  else
    match d.pending with
    | .operands values => .ok { d with pending := .operands (values ++ [s]) }
    | _ => do return { (← d.settle (some command)) with pending := .operands [s] }

/-- Takes a word: the value of the option in front of it, or an operand.  The program itself
has no operands. -/
def takeWord (scope : Option CommandName) (d : Draft) (s : String) : Except Stop Draft :=
  match d.pending, scope with
  | .option o none, some command =>
    if d.escaped then d.takeOperand command s
    else .ok { d with pending := .option o (some s) }
  | _, some command => d.takeOperand command s
  | _, none =>
    if d.escaped && CommandName.isWord s then .error (.usage .unknownArgument)
    else .error (.usage .unknownCommand)

/-- Takes an argument. -/
def take (scope : Option CommandName) (d : Draft) (s : String) : Except Stop Draft :=
  if d.escaped then d.takeWord scope s
  else
    match Argument.ofString s with
    | .escape => .ok { d with escaped := true }
    | .long name value => d.takeLong scope name value
    | .short letters => d.takeLetters scope letters
    | .word s => d.takeWord scope s

end Draft

/-! ## Command lines -/

/-- The arguments of a command, once all are taken.  The variable of the environment stands in
for a schema that no option names. -/
def Draft.complete (command : CommandName) (environmentSchema : Option String) (d : Draft) :
    Except Stop Draft := do
  let d ← d.settle (some command)
  let takesSchema := command.options.contains .schema
  let d ←
    match environmentSchema with
    | some path =>
      if takesSchema && (d.value? .schema).isNone then d.addValue .schema path else .ok d
    | none => .ok d
  if d.operands.length < command.neededOperands ||
      (command.needsSchema && (d.value? .schema).isNone) then
    .error (.usage .missingArgument)
  else return d

/-- The request that complete arguments make. -/
def Draft.request (command : CommandName) (d : Draft) : Request :=
  let operand := fun i => (d.operands[i]?).getD ""
  let schema := (d.value? .schema).getD ""
  let format? := (d.value? .format).bind Format.ofName?
  let format := format?.getD .human
  match command with
  | .check =>
    .check
      { files := d.operands
        query := d.value? .query
        schema := d.value? .schema
        config := d.value? .config
        disable := d.values .disable
        format := format? }
  | .join => .join (operand 0) (operand 1) schema format
  | .tables => .tables d.operands schema format
  | .columns => .columns (operand 0) (d.operands.drop 1) schema format
  | .info => .info (operand 0) schema format
  | .summary => .summary schema format
  | .schema => .schema (operand 0)

/-- Reads the arguments behind the name of a command. -/
def readCommand (command : CommandName) (environmentSchema : Option String)
    (arguments : List String) : Except Stop Draft := do
  let d ← arguments.foldlM (Draft.take (some command)) .empty
  d.complete command environmentSchema

/-- Reads a command line from some argument on; `d` holds the flags in front of it.  The flags
behind the name of the command come first, and those in front of it stand in for them. -/
def readProgram (environmentSchema : Option String) (d : Draft) :
    List String → Except Stop Invocation
  | [] => .error (.usage (if d.isEmpty then .nothingAsked else .missingCommand))
  | s :: rest =>
    match if d.escaped then none else CommandName.ofName? s with
    | some command => do
      let inner ← readCommand command environmentSchema rest
      return {
        verbosity := if inner.verbosity = 0 then d.verbosity else inner.verbosity
        quiet := inner.quiet || d.quiet
        request := inner.request command }
    | none =>
      if !d.escaped && s == CommandName.helpWord then .error .help
      else do readProgram environmentSchema (← d.take none s) rest

/-- Reads a command line, without the name of the program. -/
def Invocation.ofArguments (environmentSchema : Option String) (arguments : List String) :
    Except Stop Invocation :=
  readProgram environmentSchema .empty arguments

/-! ## The version and the usage -/

/-- The name of the program. -/
def programName : String := "sqlscout"

/-- The version of the program. -/
def programVersion : String := "0.1.0"

/-- The line that says the version of the program or of a command. -/
def versionLine (command : Option CommandName) : String :=
  programName ++ (match command with
    | some c => "-" ++ c.name
    | none => "") ++ " " ++ programVersion

/-- How a command is written. -/
def usageLine (c : CommandName) : String :=
  "  " ++ programName ++ " " ++ c.name ++
    String.join (List.replicate c.neededOperands " <operand>") ++
    (if c.takesMore then " [operand...]" else "") ++
    String.join (c.options.map fun o => " [--" ++ o.long ++ " <value>]")

/-- What can be written on the command line. -/
def usageLines : List String :=
  ("Flags:" ++ String.join (Flag.all.map fun f => " --" ++ f.long)) ::
    "Commands:" :: CommandName.all.map usageLine

end QueryLint.Command
