import QueryLint.Text.LetterCase
import QueryLint.Text.Quoted

/-!
# The log

A record says what has happened, how much it matters, and which part of the program it comes
from.  A filter keeps the records that matter enough: each of its rules sets a level for the
parts of the program whose names begin in some way, and of the rules that apply to a part the
one with the longest beginning decides.  Where no rule applies, the general level does.

* `Log.Level`, `Log.Field`, `Log.Record`; `Log.Record.line` is the text of a record.
* `Log.Filter.ofText`: reads rules; one that cannot be read is left out.
* `Log.Filter.admits`: whether a record is kept.
-/

namespace QueryLint.Log

/-- How much a record matters, the most important first. -/
inductive Level where
  | error
  | warn
  | info
  | debug
  | trace
  deriving DecidableEq, Repr

namespace Level

/-- All levels, the most important first. -/
def all : List Level := [error, warn, info, debug, trace]

/-- The word for a level. -/
def name : Level → String
  | error => "ERROR"
  | warn => "WARN"
  | info => "INFO"
  | debug => "DEBUG"
  | trace => "TRACE"

/-- The place of a level, from one on. -/
def rank : Level → Nat
  | error => 1
  | warn => 2
  | info => 3
  | debug => 4
  | trace => 5

/-- The word for a level, filled up with blanks in front. -/
def label (l : Level) : String :=
  "".pushn ' ' (5 - l.name.length) ++ l.name

end Level

/-- A value that is logged. -/
inductive FieldValue where
  /-- A text, which is quoted. -/
  | text (s : String)
  /-- A text that is shown as it is. -/
  | bare (s : String)
  | number (n : Nat)
  | truth (b : Bool)
  deriving DecidableEq, Repr

/-- How a value is written. -/
def FieldValue.toString : FieldValue → String
  | text s => Text.quoted s
  | bare s => s
  | number n => n.repr
  | truth true => "true"
  | truth false => "false"

/-- A named value. -/
structure Field where
  name : String
  value : FieldValue
  deriving DecidableEq, Repr

/-- A record. -/
structure Record where
  level : Level
  /-- The part of the program that the record comes from. -/
  target : String
  message : String
  fields : List Field
  deriving DecidableEq, Repr

/-- How a character of a message is written: what could control a terminal gets a visible
form. -/
def messageChar (c : Char) : List Char :=
  let n := c.toNat
  if n = 0x07 || n = 0x08 || n = 0x0C || n = 0x1B || n = 0x7F then
    ['\\', 'x', Nat.digitChar (n / 16), Nat.digitChar (n % 16)]
  else if 0x80 ≤ n && n ≤ 0x9F then
    ['\\', 'u', '\x7b', Nat.digitChar (n / 16), Nat.digitChar (n % 16), '\x7d']
  else [c]

/-- The line for a record. -/
def Record.line (r : Record) : String :=
  r.level.label ++ " " ++ r.target ++ ": " ++
    String.ofList (r.message.toList.flatMap messageChar) ++
    String.join (r.fields.map fun f => " " ++ f.name ++ "=" ++ f.value.toString)

/-! ## Filters -/

/-- The least important level that is kept; none keeps nothing. -/
abbrev Threshold := Option Level

/-- Whether records of a level are kept. -/
def keeps (t : Threshold) (l : Level) : Bool := t.any fun least => l.rank ≤ least.rank

/-- The level for the parts of the program whose names begin in some way. -/
structure Rule where
  start : String
  threshold : Threshold
  deriving DecidableEq, Repr

/-- Rules, and what holds where none of them applies. -/
structure Filter where
  general : Threshold
  rules : List Rule
  deriving DecidableEq, Repr

/-- The threshold that a word or a number stands for, in letters of either case. -/
def threshold? (s : String) : Option Threshold :=
  if Text.sameIgnoringCase s "off" then some none
  else
    match Level.all.find? fun l => Text.sameIgnoringCase s l.name with
    | some l => some (some l)
    | none =>
      match s.toNat? with
      | some 0 => some none
      | some n => (Level.all.find? fun l => l.rank == n).map some
      | none => none

/-- Whether the name of a part of the program can begin with a character. -/
def startsTarget (c : Char) : Bool :=
  c.isAlphanum || c == '_' || c == ':' || c == '-' || 0x80 ≤ c.toNat

/-- Reads a rule: the beginning of a name, an equals sign and a level.  Without a level all
records are kept, and a level alone is no rule. -/
def Rule.ofText? (s : String) : Option Rule :=
  let cs := s.toList
  if !cs.head?.any startsTarget then none
  else
    let start := String.ofList (cs.takeWhile (· != '='))
    match cs.dropWhile (· != '=') with
    | [] => if (threshold? s).isSome then none else some ⟨start, some .trace⟩
    | ['='] => some ⟨start, some .trace⟩
    | _ :: level => (threshold? (String.ofList level)).map (⟨start, ·⟩)

/-- Adds a rule, in the place of one for the same beginning. -/
def addRule (rules : List Rule) (r : Rule) : List Rule :=
  rules.filter (fun old => old.start != r.start) ++ [r]

/-- Reads rules that are separated by commas. -/
def Filter.ofText (general : Level) (text : String) : Filter where
  general := some general
  rules := ((text.splitOn ",").filterMap Rule.ofText?).foldl addRule []

/-- The more specific of two rules. -/
def longerRule (best : Option Rule) (r : Rule) : Option Rule :=
  match best with
  | some b => if b.start.length < r.start.length then some r else some b
  | none => some r

/-- What holds for a part of the program. -/
def Filter.thresholdFor (f : Filter) (target : String) : Threshold :=
  let applying := f.rules.filter fun r => r.start.toList.isPrefixOf target.toList
  match applying.foldl longerRule none with
  | some r => r.threshold
  | none => f.general

/-- Whether a record is kept. -/
def Filter.admits (f : Filter) (r : Record) : Bool := keeps (f.thresholdFor r.target) r.level

end QueryLint.Log
