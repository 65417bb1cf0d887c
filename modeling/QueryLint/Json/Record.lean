import QueryLint.Json.Ignored
import QueryLint.OrderedMap

/-!
# Values of a wanted shape

The parts of a document are strings, truth values, maps with free keys, and records with fixed
fields.  A value of another shape is reported with what it is and what was expected.

## Records

A record is written as an object, in any order and with unknown members passed over, or as an
array of its fields in order.  Reading fills a draft: each `RecordField` says how its value gets into
the draft.  A field that is given twice is a fault as soon as its key is read again.

* `readString`, `readBool`, `optional`, `readMap`: the readers.
* `Record`, `Record.read`: records.
-/

namespace QueryLint.Json

/-- What the value at the front of a text is. -/
def found : Reader Found := fun s =>
  match s with
  | [] => .error .expectedValue
  | c :: cs =>
    let reader : Reader Found :=
      if c = 'n' then (fun _ => .null) <$> wordTail ['u', 'l', 'l']
      else if c = 't' then (fun _ => .bool true) <$> wordTail ['r', 'u', 'e']
      else if c = 'f' then (fun _ => .bool false) <$> wordTail ['a', 'l', 's', 'e']
      else if c = '"' then (fun text => .string (String.ofList text)) <$> (stringBody : Reader _)
      else if c = '[' then pure .sequence
      else if c = '\x7b' then pure .map
      else if c = '-' || c.isDigit then .number <$> numberFrom c
      else Reader.fail .expectedValue
    (reader cs).map (·.widenOne)

/-- The fault of a text whose front is not the expected value. -/
def mismatch (expected : String) (s : List Char) : Fault :=
  match found s with
  | .ok r => .wrongType r.value expected
  | .error e => e

/-- Reads a value by its first character; any other first character is a mismatch. -/
def readBy {α : Type} (expected : String) (choose : Char → Option (Reader α)) : Reader α := fun s =>
  match h : skip s with
  | [] => .error .endInValue
  | c :: cs =>
    match choose c with
    | some f => (f cs).map (·.widen (length_le_of_skip h))
    | none => .error (mismatch expected (c :: cs))

/-- A string. -/
def readString : Reader String :=
  readBy "a string" fun c =>
    if c = '"' then some (String.ofList <$> (stringBody : Reader _)) else none

/-- A truth value. -/
def readBool : Reader Bool :=
  readBy "a boolean" fun c =>
    if c = 't' then some ((fun _ => true) <$> wordTail ['r', 'u', 'e'])
    else if c = 'f' then some ((fun _ => false) <$> wordTail ['a', 'l', 's', 'e'])
    else none

/-- A value that may be null. -/
def optional {α : Type} (f : Reader α) : Reader (Option α) := fun s =>
  match h : skip s with
  | 'n' :: cs =>
    (wordTail ['u', 'l', 'l'] cs).map fun r =>
      (r.map fun _ => none).widen (length_le_of_skip h)
  | _ => (f s).map fun r => r.map some

/-- Moves to the next key of an object, behind its opening quote, or behind the closing brace;
the result is whether there is a key.  A comma has to stand in front of every key but the
first. -/
def nextKey (first : Bool) : Reader Bool := fun s =>
  match h : skip s with
  | [] => .error .endInObject
  | c :: cs =>
    have hs := length_lt_of_skip h
    if c = '\x7d' then .ok ⟨false, cs, Nat.le_of_lt hs⟩
    else if first then
      if c = '"' then .ok ⟨true, cs, Nat.le_of_lt hs⟩ else .error .keyNotString
    else if c = ',' then
      match h' : skip cs with
      | [] => .error .endInValue
      | d :: ds =>
        have hd := length_lt_of_skip h'
        if d = '"' then .ok ⟨true, ds, by omega⟩
        else .error (if d = '\x7d' then .trailingComma else .keyNotString)
    else .error .expectedCommaOrBrace

theorem length_lt_of_nextKey {first b : Bool} {s rest : List Char} {h : rest.length ≤ s.length}
    (hr : nextKey first s = .ok ⟨b, rest, h⟩) : rest.length < s.length := by
  rw [nextKey] at hr
  split at hr
  · cases hr
  · next c cs hc =>
    have hs := length_lt_of_skip hc
    split at hr
    · cases hr; exact hs
    split at hr
    · split at hr
      · cases hr; exact hs
      · cases hr
    split at hr
    · split at hr
      · cases hr
      · next d ds hd =>
        have := length_lt_of_skip hd
        split at hr
        · cases hr; omega
        · cases hr
    · cases hr

/-- Reads the members of an object behind its opening brace.  `member` reads what follows a key
and takes it into the result so far; `s` is what is left of the text `t`. -/
def readMembers {σ : Type} (member : σ → String → Reader σ) {t : List Char} (first : Bool)
    (acc : σ) (s : List Char) (bound : s.length ≤ t.length) : Except Fault (Read t σ) :=
  match h : nextKey first s with
  | .error e => .error e
  | .ok ⟨false, rest, h'⟩ => .ok ⟨acc, rest, Nat.le_trans h' bound⟩
  | .ok ⟨true, rest, _⟩ =>
    have hs := length_lt_of_nextKey h
    match stringBody rest with
    | .error e => .error e
    | .ok key =>
      match member acc (String.ofList key.value) key.rest with
      | .error e => .error e
      | .ok r =>
        have := key.bound
        have := r.bound
        readMembers member false r.value r.rest (by omega)
termination_by s.length

/-- The members of an object behind its opening brace. -/
def members {σ : Type} (member : σ → String → Reader σ) (start : σ) : Reader σ := fun s =>
  readMembers member true start s (Text.length_le_self s)

/-- A member of a map. -/
def mapMember {α : Type} (item : Reader α) (m : OrderedMap α) (key : String) :
    Reader (OrderedMap α) := do
  colon
  let value ← item
  return m.insert key value

/-- An object with free keys. -/
def readMap {α : Type} (item : Reader α) : Reader (OrderedMap α) :=
  readBy "a map" fun c => if c = '\x7b' then some (members (mapMember item) .empty) else none

/-- A field of a record. -/
structure RecordField (δ : Type) where
  key : String
  /-- Whether the draft has a value for the field. -/
  isSet : δ → Bool
  /-- Reads a value into the draft. -/
  read : δ → Reader δ

/-- A kind of record. -/
structure Record (δ α : Type) where
  name : String
  fields : List (RecordField δ)
  /-- The draft without values. -/
  blank : δ
  /-- Whether an array may leave out fields at its end. -/
  mayBeShort : Bool
  /-- The record that a draft stands for. -/
  complete : δ → Except Fault α

namespace Record

variable {δ α : Type}

/-- A member of a record: a known field, or anything else, which is passed over. -/
def member (r : Record δ α) (draft : δ) (key : String) : Reader δ :=
  match r.fields.find? fun f => f.key == key with
  | some f =>
    if f.isSet draft then Reader.fail (.duplicateField key)
    else do
      colon
      f.read draft
  | none => do
    colon
    ignored
    return draft

/-- The number of fields in words. -/
def sizeInWords (r : Record δ α) : String :=
  let n := r.fields.length
  "struct " ++ r.name ++ " with " ++ n.repr ++ (if n = 1 then " element" else " elements")

/-- Completes a draft. -/
def completed (r : Record δ α) (draft : δ) : Reader α :=
  match r.complete draft with
  | .ok a => pure a
  | .error e => Reader.fail e

end Record

/-- Moves to the next element of an array, if there is one. -/
def nextElement (first : Bool) : Reader Bool := fun s =>
  match h : skip s with
  | [] => .error .endInArray
  | c :: cs =>
    have hs := length_lt_of_skip h
    if c = ']' then .ok (.here s false)
    else if first then .ok (.here s true)
    else if c = ',' then
      match skip cs with
      | [] => .error .endInValue
      | d :: _ => if d = ']' then .error .trailingComma else .ok ⟨true, cs, Nat.le_of_lt hs⟩
    else .error .expectedCommaOrBracket

/-- The end of an array whose wanted elements have been read. -/
def closeArray : Reader Unit := fun s =>
  match h : skip s with
  | [] => .error .endInArray
  | c :: cs =>
    if c = ']' then .ok ⟨(), cs, length_le_of_skip h⟩
    else if c = ',' && (skip cs).head? == some ']' then .error .trailingComma
    else .error .trailingCharacters

namespace Record

variable {δ α : Type}

/-- Reads the elements of an array into the fields in order; the result is the draft and the
number of elements. -/
def elements : List (RecordField δ) → Bool → δ → Nat → Reader (δ × Nat)
  | [], _, draft, n => pure (draft, n)
  | f :: fs, first, draft, n => do
    if ← nextElement first then
      let draft ← f.read draft
      elements fs false draft (n + 1)
    else return (draft, n)

/-- A record written as an array, behind its opening bracket. -/
def readArray (r : Record δ α) : Reader α := do
  let (draft, n) ← elements r.fields true r.blank 0
  if n < r.fields.length && !r.mayBeShort then
    Reader.fail (.wrongLength n r.sizeInWords)
  else
    let a ← r.completed draft
    closeArray
    return a

/-- A record written as an object, behind its opening brace. -/
def readObject (r : Record δ α) : Reader α := do
  let draft ← members r.member r.blank
  r.completed draft

/-- A record. -/
def read (r : Record δ α) : Reader α :=
  readBy ("struct " ++ r.name) fun c =>
    if c = '\x7b' then some r.readObject
    else if c = '[' then some r.readArray
    else none

end Record

/-- A field that has to be given. -/
def required {α : Type} (name : String) : Option α → Except Fault α
  | some a => .ok a
  | none => .error (.missingField name)

end QueryLint.Json
