import Mathlib.Data.List.Basic
import QueryLint.Proofs.Command.Agreement
import QueryLint.Proofs.Text.Lines

/-!
# What reports say of a complaint

The three forms of a report have little in common, but each of them says of a complaint how bad it
is, which code it has, and what it is about.  This is its `Headline`.  It can be read from a report
in any form without knowing what was reported.

* `Headline.ofLine?`: the headline that a line for people is, if it is one.
* `Headline.Tells`: lines for people that tell of one complaint, and of nothing else.
* `Headline.listOfJson?`: the headlines in a value for programs.
* `tells_humanLines`, `listOfJson?_jsonReport`, `listOfJson?_sarifReport`: what reports say.
-/

namespace QueryLint

open Json (Fault)

/-! ## Complaints in values -/

/-- Members in the order of their keys stay where they are. -/
theorem Json.sortedMembers_eq_self {ms : List (String × Json)}
    (h : (ms.map Prod.fst).Pairwise (· < ·)) : Json.sortedMembers ms = ms := by
  induction ms with
  | nil => rfl
  | cons m ms ih =>
    obtain ⟨hm, hms⟩ := List.pairwise_cons.1 h
    have hcons : Json.sortedMembers (m :: ms) =
        Json.insertMember m.1 m.2 (Json.sortedMembers ms) := rfl
    rw [hcons, ih hms]
    cases ms with
    | nil => rfl
    | cons m' ms => rw [Json.insertMember, if_pos (hm m'.1 List.mem_cons_self)]

theorem Json.chooseWord_of_eq_some {α : Type} {choices : List String} {choose : String → Option α}
    {s : String} {a : α} (h : choose s = some a) : Json.chooseWord choices choose s = .ok a := by
  rw [Json.chooseWord, h]

theorem DiagnosticKind.ofJson?_tag (k : DiagnosticKind) :
    DiagnosticKind.ofJson? (.string k.tag) = .ok k :=
  Json.chooseWord_of_eq_some (DiagnosticKind.ofTag?_tag k)

theorem Severity.ofName?_name (s : Severity) : Severity.ofName? s.name = some s := by
  cases s <;> decide

theorem Severity.ofJson?_name (s : Severity) : Severity.ofJson? (.string s.name) = .ok s :=
  Json.chooseWord_of_eq_some s.ofName?_name

theorem Json.asOptional_optionalString (s : Option String) :
    Json.asOptional Json.asString (Json.optionalString s) = .ok s := by
  cases s <;> rfl

/-- Spans that have been written can be read. -/
theorem Text.Span.ofJson?_toJson (s : Text.Span) : Text.Span.ofJson? s.toJson = .ok s := by
  have hkeys : ["length", "offset"].Pairwise (· < ·) := by decide
  rw [ofJson?, toJson, Json.asRecord, Json.sortedMembers_eq_self (by exact hkeys)]
  rfl

/-- A span, or null. -/
def Json.optionalSpan : Option Text.Span → Json
  | some s => s.toJson
  | none => .null

theorem Json.asOptional_optionalSpan (s : Option Text.Span) :
    Json.asOptional Text.Span.ofJson? (Json.optionalSpan s) = .ok s := by
  cases s with
  | none => rfl
  | some s =>
    have hsome : Json.asOptional Text.Span.ofJson? (Json.optionalSpan (some s)) =
        (Text.Span.ofJson? s.toJson).map some := rfl
    rw [hsome, Text.Span.ofJson?_toJson]
    rfl

namespace Diagnostic

theorem toJson_eq (d : Diagnostic) :
    d.toJson = .object
      [("help", Json.optionalString d.help), ("kind", .string d.kind.tag),
       ("message", .string d.message), ("severity", .string d.severity.name),
       ("span", Json.optionalSpan d.span)] := by
  rw [toJson]
  cases d.span <;> rfl

/-- Complaints that have been written can be read. -/
theorem ofJson?_toJson (d : Diagnostic) : ofJson? d.toJson = .ok d := by
  have hkeys : ["help", "kind", "message", "severity", "span"].Pairwise (· < ·) := by decide
  have hhelp (draft : Draft) : Json.readInto fields draft ("help", Json.optionalString d.help) =
      .ok { draft with help := d.help } := by
    show (do return { draft with help := ← Json.asOptional Json.asString _ }) = _
    rw [Json.asOptional_optionalString]
    rfl
  have hkind (draft : Draft) : Json.readInto fields draft ("kind", .string d.kind.tag) =
      .ok { draft with kind := some d.kind } := by
    show (do return { draft with kind := some (← DiagnosticKind.ofJson? _) }) = _
    rw [DiagnosticKind.ofJson?_tag]
    rfl
  have hmessage (draft : Draft) : Json.readInto fields draft ("message", .string d.message) =
      .ok { draft with message := some d.message } := rfl
  have hseverity (draft : Draft) :
      Json.readInto fields draft ("severity", .string d.severity.name) =
        .ok { draft with severity := some d.severity } := by
    show (do return { draft with severity := some (← Severity.ofJson? _) }) = _
    rw [Severity.ofJson?_name]
    rfl
  have hspan (draft : Draft) : Json.readInto fields draft ("span", Json.optionalSpan d.span) =
      .ok { draft with span := d.span } := by
    show (do return { draft with span := ← Json.asOptional Text.Span.ofJson? _ }) = _
    rw [Json.asOptional_optionalSpan]
    rfl
  rw [ofJson?, toJson_eq, Json.asRecord, Json.sortedMembers_eq_self (by exact hkeys)]
  simp only [List.foldlM_cons, List.foldlM_nil, hhelp, hkind, hmessage, hseverity, hspan]
  rfl

theorem listOfJson?_map_toJson (ds : List Diagnostic) :
    listOfJson? (.array (ds.map toJson)) = .ok ds := by
  rw [listOfJson?]
  induction ds with
  | nil => rfl
  | cons d ds ih =>
    rw [List.map_cons, List.mapM_cons, ofJson?_toJson, ih]
    rfl

end Diagnostic

namespace Command

/-! ## Headlines -/

/-- The member of an object under a key. -/
def field? (key : String) : Json → Option Json
  | .object ms => Json.member? key ms
  | _ => none

/-- The text that a value is. -/
def text? : Json → Option String
  | .string s => some s
  | _ => none

/-- What every report says of a complaint. -/
structure Headline where
  severity : Severity
  code : String
  message : String
  deriving DecidableEq, Repr

namespace Headline

/-- The headline of a complaint. -/
def of (d : Diagnostic) : Headline := ⟨d.severity, d.code, d.message⟩

/-- The headline that a line is, if it begins with this severity in its colour and with a code. -/
def ofColored? (severity : Severity) (line : List Char) : Option Headline := do
  let rest ← line.dropPrefix? (colored severity ++ "[").toList
  let message ← (rest.dropWhile (· != ']')).dropPrefix? [']', ':', ' ']
  return ⟨severity, String.ofList (rest.takeWhile (· != ']')), String.ofList message⟩

/-- The headline that a line is, if it is one. -/
def ofLine? (line : String) : Option Headline :=
  Severity.all.findSome? fun severity => ofColored? severity line.toList

theorem bracket_notMem_code (k : DiagnosticKind) : ']' ∉ k.code.toList := by
  cases k <;> decide

theorem toList_headLine (d : Diagnostic) : (headLine d).toList =
    (colored d.severity ++ "[").toList ++
      (d.code.toList ++ ([']', ':', ' '] ++ d.message.toList)) := by
  simp [headLine]

theorem ofColored?_headLine (d : Diagnostic) :
    ofColored? d.severity (headLine d).toList = some (of d) := by
  have hcode : ∀ c ∈ d.code.toList, (c != ']') = true := by
    intro c hc
    rw [bne_iff_ne]
    rintro rfl
    exact bracket_notMem_code d.kind hc
  have hbehind : ([']', ':', ' '] ++ d.message.toList).dropWhile (· != ']') =
      [']', ':', ' '] ++ d.message.toList := rfl
  have hfront : ([']', ':', ' '] ++ d.message.toList).takeWhile (· != ']') = [] := rfl
  rw [ofColored?, toList_headLine, List.dropPrefix?_append_of_beq _ (beq_self_eq_true _)]
  simp only [Option.bind_eq_bind, Option.bind_some, List.dropWhile_append_of_pos hcode, hbehind,
    List.dropPrefix?_append_of_beq _ (beq_self_eq_true [']', ':', ' ']),
    List.takeWhile_append_of_pos hcode, hfront, List.append_nil, String.ofList_toList]
  rfl

theorem ofLine?_headLine (d : Diagnostic) : ofLine? (headLine d) = some (of d) := by
  have hself := ofColored?_headLine d
  rw [ofLine?, Severity.all]
  cases hseverity : d.severity with
  | error =>
    rw [hseverity] at hself
    rw [List.findSome?_cons, hself]
  | warning =>
    rw [hseverity] at hself
    have hother : ofColored? .error (headLine d).toList = none := by
      rw [toList_headLine, hseverity]
      rfl
    rw [List.findSome?_cons, hother, List.findSome?_cons, hself]

/-- A line that begins with anything but a colour is no headline. -/
theorem ofLine?_eq_none {line : String} (h : line.toList.head? ≠ some '\x1b') :
    ofLine? line = none := by
  have hnone (severity : Severity) : ofColored? severity line.toList = none := by
    obtain ⟨rest, hcolor⟩ : ∃ rest, (colored severity ++ "[").toList = '\x1b' :: rest := by
      cases severity <;> exact ⟨_, rfl⟩
    rw [ofColored?, hcolor]
    cases hline : line.toList with
    | nil => rfl
    | cons c cs =>
      rw [hline] at h
      have hc : (c == '\x1b') = false := beq_eq_false_iff_ne.2 fun hc => h (congrArg some hc)
      rw [List.dropPrefix?, hc]
      rfl
  simp [ofLine?, hnone]

theorem ofLine?_append_eq_none {front : String} (behind : String) (hne : front.toList ≠ [])
    (h : '\x1b' ∉ front.toList) : ofLine? (front ++ behind) = none := by
  refine ofLine?_eq_none ?_
  rw [String.toList_append, List.head?_append_of_ne_nil _ hne]
  exact fun hhead => h (List.mem_of_head? hhead)

theorem ofLine?_padLeft (width n : Nat) (line : String) :
    ofLine? (padLeft width n.repr ++ " | " ++ line) = none := by
  have hdigits := notMem_toDigits (c := '\x1b') rfl n
  refine ofLine?_append_eq_none line ?_ ?_
  · simp
  · simp [padLeft, hdigits]

/-- No line of the log is a headline. -/
theorem ofLine?_recordLine (r : Log.Record) : ofLine? r.line = none := by
  have hlabel : r.level.label.toList ≠ [] ∧ '\x1b' ∉ r.level.label.toList := by
    cases r.level <;> decide
  simp only [Log.Record.line, String.append_assoc]
  exact ofLine?_append_eq_none _ hlabel.1 hlabel.2

/-! ## Lines about a complaint -/

/-- A line under the headline of a complaint about the query called `name`.  It is no headline, and
a line feed in it can only come from the name or from the hint. -/
inductive IsDetail (name : String) (d : Diagnostic) : String → Prop
  | place {rest : String} (hrest : '\n' ∉ rest.toList) :
      IsDetail name d ("  --> " ++ name ++ rest)
  | hint {help : String} (hhelp : d.help = some help) : IsDetail name d ("   = help: " ++ help)
  | plain {line : String} (hline : ofLine? line = none) (hfeed : '\n' ∉ line.toList) :
      IsDetail name d line

/-- The lines tell of a complaint: the first is its headline, and the others are details. -/
inductive Tells (name : String) (d : Diagnostic) : List String → Prop
  | mk {details : List String} (hdetails : ∀ line ∈ details, IsDetail name d line) :
      Tells name d ((colored d.severity ++ "[" ++ d.code ++ "]: " ++ d.message) :: details)

variable {name : String} {d : Diagnostic} {line : String} {lines : List String}

theorem IsDetail.ofLine?_eq_none (h : IsDetail name d line) : ofLine? line = none := by
  cases h with
  | place hrest =>
    rw [String.append_assoc]
    exact ofLine?_append_eq_none _ (by decide) (by decide)
  | hint hhelp => exact ofLine?_append_eq_none _ (by decide) (by decide)
  | plain hline hfeed => exact hline

/-- Lines that tell of a complaint have one headline, and it is the complaint's. -/
theorem Tells.filterMap_ofLine? (h : Tells name d lines) : lines.filterMap ofLine? = [of d] := by
  cases h with
  | mk hdetails =>
    have hhead : ofLine? (colored d.severity ++ "[" ++ d.code ++ "]: " ++ d.message) =
        some (of d) := ofLine?_headLine d
    rw [List.filterMap_cons_some hhead, List.filterMap_eq_nil_iff.2 fun line hline =>
      (hdetails line hline).ofLine?_eq_none]

theorem isDetail_of_mem_excerpt {span : Text.Span} {p : Text.Position} {cs : List Char}
    (hcs : '\n' ∉ cs) (h : line ∈ excerpt span p cs) : IsDetail name d line := by
  have hdigits := notMem_toDigits (c := '\n') rfl p.line
  simp only [excerpt, List.mem_cons, List.not_mem_nil, or_false] at h
  rcases h with rfl | rfl | rfl
  · exact .plain rfl (by decide)
  · exact .plain (ofLine?_padLeft 3 p.line _) (by simp [padLeft, hdigits, hcs])
  · refine .plain ?_ (by simp [repeatChar])
    rw [String.append_assoc]
    exact ofLine?_append_eq_none _ (by decide) (by decide)

theorem isDetail_of_mem_locationLines {source : String} {span : Text.Span}
    (h : line ∈ locationLines name source span) : IsDetail name d line := by
  rw [locationLines] at h
  rcases List.mem_cons.1 h with rfl | h
  · have hdigits := notMem_toDigits (c := '\n') rfl
    have hplace (line column : String) : "  --> " ++ name ++ ":" ++ line ++ ":" ++ column =
        "  --> " ++ name ++ (":" ++ line ++ ":" ++ column) := by
      simp only [String.append_assoc]
    rw [hplace]
    exact .place (by simp [hdigits])
  · split at h
    next row hrow =>
      have hmem := List.mem_of_getElem? hrow
      exact isDetail_of_mem_excerpt (Text.newline_notMem_of_mem_linesOf hmem) h
    next => exact absurd h List.not_mem_nil

/-- What is written for people about a complaint tells of it. -/
theorem tells_humanLines (name source : String) (d : Diagnostic) :
    Tells name d (humanLines name source d) := by
  rw [humanLines, List.cons_append, List.cons_append]
  -- what stands under the first line is a place, a hint and an empty line
  refine .mk fun line hline => ?_
  rcases List.mem_append.1 hline with hline | hline
  · rcases List.mem_append.1 hline with hline | hline
    · split at hline
      · exact isDetail_of_mem_locationLines hline
      · exact absurd hline List.not_mem_nil
    · split at hline
      next help hhelp =>
        obtain rfl := List.mem_singleton.1 hline
        exact .hint hhelp
      next => exact absurd hline List.not_mem_nil
  · obtain rfl := List.mem_singleton.1 hline
    exact .plain rfl (by decide)

theorem filterMap_humanReport (name source : String) (ds : List Diagnostic) :
    (humanReport name source ds).filterMap ofLine? = ds.map of := by
  rw [humanReport]
  induction ds with
  | nil => rfl
  | cons d ds ih =>
    rw [List.flatMap_cons, List.filterMap_append, (tells_humanLines name source d).filterMap_ofLine?,
      ih]
    rfl

/-! ## Headlines in values -/

/-- The headlines in a report that is an object. -/
def listOfObject? (v : Json) : Option (List Headline) := do
  let ds ← (Diagnostic.listOfJson? (← field? "diagnostics" v)).toOption
  return ds.map of

/-- The headline of a complaint for code scanners. -/
def ofResult? (v : Json) : Option Headline := do
  let severity ← Severity.ofName? (← text? (← field? "level" v))
  return ⟨severity, ← text? (← field? "ruleId" v), ← text? (← field? "text" (← field? "message" v))⟩

/-- The headlines in a log for code scanners, which has one run. -/
def listOfLog? (v : Json) : Option (List Headline) := do
  match ← field? "runs" v with
  | .array [run] =>
    match ← field? "results" run with
    | .array results => results.mapM ofResult?
    | _ => none
  | _ => none

/-- The headlines in a report for programs. -/
def listOfJson? : Format → Json → Option (List Headline)
  | .human, _ => none
  | .json, v => listOfObject? v
  | .sarif, v => listOfLog? v

theorem listOfJson?_jsonReport (name : String) (ds : List Diagnostic) :
    listOfJson? .json (jsonReport name ds) = some (ds.map of) := by
  have hfield : field? "diagnostics" (jsonReport name ds) =
      some (.array (ds.map Diagnostic.toJson)) := rfl
  rw [listOfJson?, listOfObject?, hfield]
  simp only [Option.bind_eq_bind, Option.bind_some, Diagnostic.listOfJson?_map_toJson]
  rfl

theorem ofResult?_sarifResult (name : String) (d : Diagnostic) :
    ofResult? (sarifResult name d) = some (of d) := by
  have hlevel : field? "level" (sarifResult name d) = some (.string d.severity.name) := rfl
  rw [ofResult?, hlevel]
  simp only [Option.bind_eq_bind, Option.bind_some, text?, Severity.ofName?_name]
  rfl

theorem listOfJson?_sarifReport (name : String) (ds : List Diagnostic) :
    listOfJson? .sarif (sarifReport name ds) = some (ds.map of) := by
  have hresults : (ds.map (sarifResult name)).mapM ofResult? = some (ds.map of) := by
    induction ds with
    | nil => rfl
    | cons d ds ih =>
      rw [List.map_cons, List.mapM_cons, ofResult?_sarifResult, ih]
      rfl
  exact hresults

end Headline

end Command

end QueryLint
