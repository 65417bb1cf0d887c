/-!
# Patterns for file names

A pattern stands for names: `?` for one character, `*` for any characters, a class in brackets
for one of its characters or, behind `!`, for any other one.  A part of a path that is `**`
stands for any number of directories; two stars may not be joined to anything else, and three
stars are never allowed.

* `Glob.Token`, `Glob.tokens?`: patterns and how they are read.
* `Glob.Fault`: why a pattern is refused, with the position of the character at fault.
* `Glob.matchesName`: a name fits a pattern.
-/

namespace QueryLint.Glob

/-- A member of a class: one character or a range. -/
inductive Member where
  | single (c : Char)
  | range (first last : Char)
  deriving DecidableEq, Repr

/-- An element of a pattern. -/
inductive Token where
  | char (c : Char)
  | anyChar
  | anyChars
  /-- Any number of directories. -/
  | anyDepth
  | oneOf (ms : List Member)
  | noneOf (ms : List Member)
  deriving DecidableEq, Repr

/-- Why a pattern is refused. -/
inductive Cause where
  | tooManyStars
  | starsInsideName
  | openClass
  deriving DecidableEq, Repr

/-- Why a pattern is refused, and at which character. -/
structure Fault where
  position : Nat
  cause : Cause
  deriving DecidableEq, Repr

/-- The text of a cause. -/
def Cause.message : Cause → String
  | tooManyStars => "wildcards are either regular `*` or recursive `**`"
  | starsInsideName => "recursive wildcards must form a single path component"
  | openClass => "invalid range pattern"

/-- The text of a fault. -/
def Fault.message (f : Fault) : String :=
  "Pattern syntax error near position " ++ f.position.repr ++ ": " ++ f.cause.message

/-- The members of a class. -/
def members : List Char → List Member
  | a :: '-' :: b :: cs => .range a b :: members cs
  | c :: cs => .single c :: members cs
  | [] => []

/-- The content of a class and what follows its closing bracket.  The first character belongs to
the class whatever it is. -/
def classBody? : List Char → Option (List Char × List Char)
  | [] => none
  | c :: cs =>
    match cs.dropWhile (· ≠ ']') with
    | [] => none
    | _ :: rest => some (c :: cs.takeWhile (· ≠ ']'), rest)

theorem length_of_classBody? {cs body rest : List Char} (h : classBody? cs = some (body, rest)) :
    rest.length < cs.length := by
  cases cs with
  | nil => cases h
  | cons c cs =>
    rw [classBody?] at h
    split at h
    · cases h
    · next x r hr =>
      cases h
      have := (List.dropWhile_suffix (fun c => decide (c ≠ ']')) (l := cs)).length_le
      rw [hr] at this
      simp only [List.length_cons] at this ⊢
      omega

/-- Reads a pattern from position `pos` on, behind the character `before`. -/
def tokensFrom (pos : Nat) (before : Option Char) (cs : List Char) : Except Fault (List Token) :=
  match cs with
  | [] => .ok []
  | '?' :: rest => (tokensFrom (pos + 1) (some '?') rest).map (.anyChar :: ·)
  | '*' :: '*' :: '*' :: _ => .error ⟨pos + 2, .tooManyStars⟩
  | '*' :: '*' :: rest =>
    if before = none ∨ before = some '/' then
      match rest with
      | [] => .ok [.anyDepth]
      | '/' :: rest => (tokensFrom (pos + 3) (some '/') rest).map (.anyDepth :: ·)
      | _ => .error ⟨pos + 2, .starsInsideName⟩
    else .error ⟨pos - 1, .starsInsideName⟩
  | '*' :: rest => (tokensFrom (pos + 1) (some '*') rest).map (.anyChars :: ·)
  | '[' :: '!' :: rest =>
    match h : classBody? rest with
    | none => .error ⟨pos, .openClass⟩
    | some (body, after) =>
      have := length_of_classBody? h
      (tokensFrom (pos + (rest.length + 2 - after.length)) (some ']') after).map
        (.noneOf (members body) :: ·)
  | '[' :: rest =>
    match h : classBody? rest with
    | none => .error ⟨pos, .openClass⟩
    | some (body, after) =>
      have := length_of_classBody? h
      (tokensFrom (pos + (rest.length + 1 - after.length)) (some ']') after).map
        (.oneOf (members body) :: ·)
  | c :: rest => (tokensFrom (pos + 1) (some c) rest).map (.char c :: ·)
termination_by cs.length
decreasing_by all_goals simp only [List.length_cons]; omega

/-- Reads a pattern. -/
def tokens? (cs : List Char) : Except Fault (List Token) := tokensFrom 0 none cs

/-- Whether a character belongs to a member of a class. -/
def Member.accepts (c : Char) : Member → Bool
  | single d => c == d
  | range a b => a ≤ c && c ≤ b

/-- Whether an element stands for this one character. -/
def Token.accepts (c : Char) : Token → Bool
  | char d => c == d
  | oneOf ms => ms.any (·.accepts c)
  | noneOf ms => !ms.any (·.accepts c)
  | anyChar | anyChars | anyDepth => true

/-- The ends of a text, from all of it to nothing. -/
def ends : List Char → List (List Char)
  | [] => [[]]
  | c :: cs => (c :: cs) :: ends cs

/-- Whether a name fits a pattern. -/
def matchesName : List Token → List Char → Bool
  | [], cs => cs.isEmpty
  | t :: ts, cs =>
    if t = .anyChars ∨ t = .anyDepth then (ends cs).any (matchesName ts)
    else
      match cs with
      | [] => false
      | c :: cs => t.accepts c && matchesName ts cs

/-- The name that a pattern without wildcards is. -/
def literal? : List Token → Option (List Char)
  | [] => some []
  | .char c :: ts => (literal? ts).map (c :: ·)
  | _ => none

end QueryLint.Glob
