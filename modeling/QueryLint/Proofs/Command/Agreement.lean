import QueryLint.Proofs.Command.Sources

/-!
# What a check says, in three places

A check says how it went in the report on each query, in the last line for the person at the
terminal, and in its exit code.  The three are counted in different ways, and they agree: each is a
view of the complaints that are kept (`CheckSetup.kept`).  Nothing of one query gets into the report
on another, so queries can be checked together or apart.

* `Agrees`: exit code, last line and reports.
* `IsLastLine`: the last line of a text.
* `check_agrees`: any run that is not fatal.
-/

namespace QueryLint.Command

variable {answer : (q : Question) → Answer q} {u : CheckSetup} {filter : Log.Filter}

/-! ## What is to be said -/

namespace CheckSetup

/-- The complaints about a query that are not disabled, in order. -/
def kept (u : CheckSetup) (s : Source) : List Diagnostic :=
  (Query.check u.schema s.text).filter fun d => !u.disable.contains d.code

/-- The number of complaints of a severity that are kept, over all queries. -/
def total (u : CheckSetup) (severity : Severity) : Nat :=
  (u.sources.flatMap u.kept).countP fun d => d.severity == severity

end CheckSetup

/-- The line that says how many errors and warnings there are in `n` queries. -/
def totalsLine (errors warnings n : Nat) : String :=
  if 0 < errors + warnings then
    "Found " ++ errors.repr ++ " error(s), " ++ warnings.repr ++ " warning(s) in " ++ n.repr ++
      " quer(ies)"
  else "All " ++ n.repr ++ " quer(ies) passed validation"

/-- The text is made of lines, of which this is the last. -/
def IsLastLine (text line : String) : Prop :=
  '\n' ∉ line.toList ∧ ∃ lines, text = joinLines (lines ++ [line])

/-- An object that says of a query what is wrong with it. -/
inductive IsBlock (name : String) (ds : List Diagnostic) : Json → Prop
  | mk {ms : List (String × Json)} (hfile : Json.member? "file" ms = some (.string name))
      (hvalid : Json.member? "valid" ms = some (.bool (Verdict.ofDiagnostics ds).valid))
      (herrors : Json.member? "errors" ms =
        some (.array ((Verdict.ofDiagnostics ds).errors.map .string)))
      (hwarnings : Json.member? "warnings" ms =
        some (.array ((Verdict.ofDiagnostics ds).warnings.map .string))) :
      IsBlock name ds (.object ms)

/-- A block that says of its query that it is not valid. -/
inductive SaysInvalid : Json → Prop
  | mk {ms : List (String × Json)} (h : Json.member? "valid" ms = some (.bool false)) :
      SaysInvalid (.object ms)

/-- Exit code, last line and reports of a run on a setup are about the complaints that are kept. -/
structure Agrees (u : CheckSetup) (quiet : Bool) (filter : Log.Filter) (run : Run) : Prop where
  exitCode_eq : (run.exitCode = 0 ∨ run.exitCode = 1) ∧
    (run.exitCode = 1 ↔ ∃ s ∈ u.sources, ∃ d ∈ u.kept s, d.severity = .error)
  exitCode_iff_total : run.exitCode = 1 ↔ 0 < u.total .error
  lastLine : quiet = false → IsLastLine (run.errorText filter)
    (totalsLine (u.total .error) (u.total .warning) u.sources.length)
  blocks : u.format = .json → ∃ blocks,
    List.Forall₂ (fun s v => IsBlock s.name (u.kept s) v) u.sources blocks ∧
      run.outputText = joinLines (blocks.map Json.pretty) ∧
      (run.exitCode = 1 ↔ ∃ v ∈ blocks, SaysInvalid v)

/-! ## Reports -/

theorem checkSource_eq (u : CheckSetup) (s : Source) :
    checkSource u.schema u.disable s = ⟨s, u.kept s⟩ :=
  rfl

theorem events_report (u : CheckSetup) (quiet : Bool) :
    (u.report quiet).events =
      (u.sources.map (checkSource u.schema u.disable)).flatMap (Checked.events u.schema u.format) ++
        (if quiet then []
          else [.notice (summaryLine (u.sources.map (checkSource u.schema u.disable)))]) :=
  rfl

/-! ## Exit codes -/

theorem valid_eq_false_iff {ds : List Diagnostic} :
    (Verdict.ofDiagnostics ds).valid = false ↔ ∃ d ∈ ds, d.severity = .error := by
  simp [Verdict.ofDiagnostics, Diagnostic.isError]

/-- A run that is not fatal ends with 1 if there is something wrong, and with 0 otherwise. -/
theorem exitCode_of_outcome {run : Run} {b : Bool} (h : run.outcome = .ok b) :
    run.exitCode = if b then 1 else 0 := by
  rw [Run.exitCode, h]
  cases b <;> rfl

theorem outcome_of_exitCode {run : Run} (h : run.exitCode = 1) : run.outcome = .ok true := by
  rw [Run.exitCode] at h
  split at h
  next => exact absurd h (by decide)
  next houtcome => exact houtcome
  next => exact absurd h (by decide)

theorem exitCode_report (u : CheckSetup) (quiet : Bool) :
    (u.report quiet).exitCode =
      if u.sources.any (fun s => !(Verdict.ofDiagnostics (u.kept s)).valid) then 1 else 0 := by
  have houtcome : (u.report quiet).outcome =
      .ok ((u.sources.map (checkSource u.schema u.disable)).any fun c => !c.valid) := rfl
  have hvalid (s : Source) : (checkSource u.schema u.disable s).valid =
      (Verdict.ofDiagnostics (u.kept s)).valid := by
    rw [checkSource_eq, Checked.valid]
  rw [exitCode_of_outcome houtcome, List.any_map]
  simp only [Function.comp_def, hvalid]

theorem exitCode_report_eq_one_iff (u : CheckSetup) (quiet : Bool) :
    (u.report quiet).exitCode = 1 ↔ ∃ s ∈ u.sources, ∃ d ∈ u.kept s, d.severity = .error := by
  rw [exitCode_report]
  simp only [ite_eq_left_iff, List.any_eq_true, Bool.not_eq_true', valid_eq_false_iff]
  constructor
  · intro h
    by_contra hnone
    exact absurd (h hnone) (by decide)
  · exact fun h hnone => absurd h hnone

theorem exitCode_report_eq_zero_or_one (u : CheckSetup) (quiet : Bool) :
    (u.report quiet).exitCode = 0 ∨ (u.report quiet).exitCode = 1 := by
  rw [exitCode_report]
  split
  · exact Or.inr rfl
  · exact Or.inl rfl

/-! ## Totals -/

theorem countSeverity_eq_total (u : CheckSetup) (severity : Severity) :
    countSeverity severity (u.sources.map (checkSource u.schema u.disable)) =
      u.total severity := by
  simp only [countSeverity, List.flatMap_map, checkSource_eq, CheckSetup.total]

theorem total_pos_iff {severity : Severity} :
    0 < u.total severity ↔ ∃ s ∈ u.sources, ∃ d ∈ u.kept s, d.severity = severity := by
  rw [CheckSetup.total, List.countP_pos_iff]
  constructor
  · rintro ⟨d, hd, hseverity⟩
    obtain ⟨s, hs, hd⟩ := List.mem_flatMap.1 hd
    exact ⟨s, hs, d, hd, beq_iff_eq.1 hseverity⟩
  · rintro ⟨s, hs, d, hd, hseverity⟩
    exact ⟨d, List.mem_flatMap.2 ⟨s, hs, hd⟩, beq_iff_eq.2 hseverity⟩

theorem summaryLine_eq_totalsLine (u : CheckSetup) :
    summaryLine (u.sources.map (checkSource u.schema u.disable)) =
      totalsLine (u.total .error) (u.total .warning) u.sources.length := by
  simp only [summaryLine, totalsLine, countSeverity_eq_total, List.length_map]
  by_cases htotal : 0 < u.total .error + u.total .warning
  · rw [if_pos htotal, if_neg (by omega)]
    simp only [String.append_assoc]
  · have hline : " quer(ies)" ++ " passed validation" = " quer(ies) passed validation" := rfl
    rw [if_neg htotal, if_pos (by omega)]
    simp only [String.append_assoc, hline]

/-! ## The last line -/

/-- The lines that an event adds to the stream that is not output. -/
def Event.errorLines (filter : Log.Filter) : Event → List String
  | .output _ => []
  | .notice line => [line]
  | .record r => if filter.admits r then [r.line] else []
  | .withoutSchema f => narrateLoadFailure f

theorem joinLines_append (as bs : List String) :
    joinLines (as ++ bs) = joinLines as ++ joinLines bs := by
  rw [joinLines, List.map_append, String.join_append]
  rfl

theorem joinLines_singleton (line : String) : joinLines [line] = line ++ "\n" := by
  simp [joinLines, String.join_cons]

theorem errorText_eq_joinLines (e : Event) :
    e.errorText filter = joinLines (e.errorLines filter) := by
  cases e with
  | output line => rfl
  | notice line => exact (joinLines_singleton line).symm
  | record r =>
    rw [Event.errorText, Event.errorLines]
    split
    · exact (joinLines_singleton r.line).symm
    · rfl
  | withoutSchema f => rfl

/-- The stream of a run is made of the lines of its events, and of how it ended. -/
theorem errorText_eq (run : Run) :
    run.errorText filter =
      joinLines (run.events.flatMap (Event.errorLines filter)) ++ run.endText := by
  rw [Run.errorText]
  congr 1
  induction run.events with
  | nil => rfl
  | cons e es ih =>
    rw [List.map_cons, String.join_cons, ih, List.flatMap_cons, joinLines_append,
      errorText_eq_joinLines]

theorem errorText_of_outcome {run : Run} {b : Bool} (h : run.outcome = .ok b) :
    run.errorText filter = joinLines (run.events.flatMap (Event.errorLines filter)) := by
  have hend : run.endText = "" := by rw [Run.endText, h]
  rw [errorText_eq, hend, String.append_empty]

theorem notMem_toDigits {c : Char} (hc : c.isDigit = false) (n : Nat) :
    c ∉ Nat.toDigits 10 n := by
  intro h
  have hdigit := Nat.isDigit_of_mem_toDigits (by decide) (by decide) h
  exact absurd (hdigit.symm.trans hc) (by decide)

theorem newline_notMem_totalsLine (errors warnings n : Nat) :
    '\n' ∉ (totalsLine errors warnings n).toList := by
  have hdigits := notMem_toDigits (c := '\n') rfl
  rw [totalsLine]
  split
  · simp [hdigits]
  · simp [hdigits]

theorem isLastLine_report {events : List Event} :
    IsLastLine (((u.report false).after events).errorText filter)
      (totalsLine (u.total .error) (u.total .warning) u.sources.length) := by
  refine ⟨newline_notMem_totalsLine _ _ _, ?_⟩
  have houtcome : ((u.report false).after events).outcome = .ok _ := rfl
  rw [errorText_of_outcome houtcome, Run.events_after, events_report, summaryLine_eq_totalsLine,
    if_neg Bool.false_ne_true, ← List.append_assoc, List.flatMap_append, List.flatMap_singleton]
  exact ⟨_, rfl⟩

/-! ## Output -/

theorem join_map_eq_empty {es : List Event} (h : ∀ e ∈ es, IsSilent e) :
    String.join (es.map Event.outputText) = "" := by
  induction es with
  | nil => rfl
  | cons e es ih =>
    obtain ⟨he, hes⟩ := List.forall_mem_cons.1 h
    rw [List.map_cons, String.join_cons, ih hes, String.append_empty]
    exact he

/-- Events that are not output leave the output as it is. -/
theorem outputText_after {run : Run} {events : List Event} (h : ∀ e ∈ events, IsSilent e) :
    (run.after events).outputText = run.outputText := by
  rw [Run.outputText, Run.events_after, List.map_append, String.join_append, join_map_eq_empty h,
    String.empty_append]
  rfl

/-- The output about one query. -/
def CheckSetup.outputOf (u : CheckSetup) (s : Source) : String :=
  String.join (((checkSource u.schema u.disable s).report u.format).map Event.outputText)

/-- The output of a run is the output about its queries, in order. -/
theorem outputText_report (u : CheckSetup) (quiet : Bool) :
    (u.report quiet).outputText = String.join (u.sources.map u.outputOf) := by
  have hend : ∀ e ∈ (if quiet then [] else
      [Event.notice (summaryLine (u.sources.map (checkSource u.schema u.disable)))]),
      IsSilent e := by
    cases quiet with
    | true => exact List.forall_mem_nil _
    | false => exact List.forall_mem_singleton.2 rfl
  -- the last line is no output, and of what happens with a query only its report is
  rw [Run.outputText, events_report, List.flatMap_map, List.map_append, String.join_append,
    join_map_eq_empty hend, String.append_empty]
  induction u.sources with
  | nil => rfl
  | cons s ss ih =>
    have hs : String.join ((Checked.events u.schema u.format
        (checkSource u.schema u.disable s)).map Event.outputText) = u.outputOf s := by
      rw [Checked.events, List.map_append, String.join_append,
        join_map_eq_empty fun e => isSilent_of_mem_recordEvents, String.empty_append,
        CheckSetup.outputOf]
    rw [List.flatMap_cons, List.map_append, String.join_append, ih, hs, List.map_cons,
      String.join_cons]

/-- For programs the output about a query is a block and the end of its line. -/
theorem outputOf_of_json (hformat : u.format = .json) (s : Source) :
    u.outputOf s = (jsonReport s.name (u.kept s)).pretty ++ "\n" := by
  rw [CheckSetup.outputOf, checkSource_eq, hformat]
  simp only [Checked.report, outputJson, List.map_cons, List.map_nil, Event.outputText,
    String.join_cons, String.join_nil, String.append_empty]

/-- If the output about each query is a value, the output of a run is these values, in order. -/
theorem outputText_report_of_values {value : Source → Json}
    (h : ∀ s, u.outputOf s = (value s).pretty ++ "\n") (quiet : Bool) :
    (u.report quiet).outputText = joinLines ((u.sources.map value).map Json.pretty) := by
  rw [outputText_report, joinLines, List.map_map, List.map_map]
  exact congrArg _ (List.map_congr_left fun s _ => h s)

theorem isBlock_jsonReport (name : String) (ds : List Diagnostic) :
    IsBlock name ds (jsonReport name ds) :=
  .mk rfl rfl rfl rfl

theorem saysInvalid_jsonReport_iff {name : String} {ds : List Diagnostic} :
    SaysInvalid (jsonReport name ds) ↔ ∃ d ∈ ds, d.severity = .error := by
  rw [← valid_eq_false_iff]
  constructor
  · intro h
    rw [jsonReport] at h
    cases h with
    | mk h =>
      have hvalid : some (Json.bool (Verdict.ofDiagnostics ds).valid) = some (.bool false) := h
      exact Json.bool.inj (Option.some.inj hvalid)
  · intro h
    exact .mk (congrArg (fun b => some (Json.bool b)) h)

/-- For programs the output of a run is a block for each query, in order. -/
theorem exists_blocks (hformat : u.format = .json) (quiet : Bool) :
    ∃ blocks, List.Forall₂ (fun s v => IsBlock s.name (u.kept s) v) u.sources blocks ∧
      (u.report quiet).outputText = joinLines (blocks.map Json.pretty) ∧
      ((u.report quiet).exitCode = 1 ↔ ∃ v ∈ blocks, SaysInvalid v) := by
  refine ⟨u.sources.map fun s => jsonReport s.name (u.kept s), ?_, ?_, ?_⟩
  · rw [List.forall₂_map_right_iff, List.forall₂_same]
    exact fun s _ => isBlock_jsonReport s.name (u.kept s)
  · exact outputText_report_of_values (outputOf_of_json hformat) quiet
  · rw [exitCode_report_eq_one_iff]
    simp only [List.mem_map, exists_exists_and_eq_and, saysInvalid_jsonReport_iff]

/-! ## Runs -/

/-- A report after events that are not output agrees with the setup. -/
theorem agrees_after_report {events : List Event} (quiet : Bool) (h : ∀ e ∈ events, IsSilent e) :
    Agrees u quiet filter ((u.report quiet).after events) where
  exitCode_eq := ⟨exitCode_report_eq_zero_or_one u quiet, exitCode_report_eq_one_iff u quiet⟩
  exitCode_iff_total := by
    rw [total_pos_iff]
    exact exitCode_report_eq_one_iff u quiet
  lastLine hquiet := by
    subst hquiet
    exact isLastLine_report
  blocks hformat := by
    rw [outputText_after h]
    exact exists_blocks hformat quiet

/-- Queries that are reported on together are reported on as if they were reported on apart. -/
theorem outputText_report_append (u : CheckSetup) (quiet : Bool) {front behind : List Source}
    (h : u.sources = front ++ behind) :
    (u.report quiet).outputText =
      (CheckSetup.report { u with sources := front } quiet).outputText ++
        (CheckSetup.report { u with sources := behind } quiet).outputText := by
  rw [outputText_report, outputText_report, outputText_report, h, List.map_append,
    String.join_append]
  rfl

theorem exitCode_report_append (u : CheckSetup) (quiet : Bool) {front behind : List Source}
    (h : u.sources = front ++ behind) :
    (u.report quiet).exitCode =
      max (CheckSetup.report { u with sources := front } quiet).exitCode
        (CheckSetup.report { u with sources := behind } quiet).exitCode := by
  have hkept (sources : List Source) (s : Source) :
      CheckSetup.kept { u with sources := sources } s = u.kept s := rfl
  rw [exitCode_report, exitCode_report, exitCode_report, h, List.any_append]
  simp only [hkept]
  cases front.any fun s => !(Verdict.ofDiagnostics (u.kept s)).valid <;>
    cases behind.any fun s => !(Verdict.ofDiagnostics (u.kept s)).valid <;> rfl

/-- A run of `check` with the given options. -/
def checkRun (answer : (q : Question) → Answer q) (verbosity : Nat) (quiet : Bool)
    (o : CheckOptions) : Run :=
  (Invocation.run ⟨verbosity, quiet, .check o⟩).answerBy answer

theorem exists_checkRun_eq {o : CheckOptions} (verbosity : Nat) (quiet : Bool)
    (h : u.IsFor answer o) : ∃ events, (∀ e ∈ events, IsSilent e) ∧
      checkRun answer verbosity quiet o = (u.report quiet).after events :=
  exists_after_report_of_isFor quiet h

/-- A run that is not fatal says the same thing in its exit code, in its last line and in its
reports, and if its queries are checked in two runs instead, these say together what it says. -/
theorem check_agrees {o : CheckOptions} {verbosity : Nat} {quiet b : Bool} (filter : Log.Filter)
    (h : (checkRun answer verbosity quiet o).outcome = .ok b) :
    ∃ u, CheckSetup.IsFor answer o u ∧ Agrees u quiet filter (checkRun answer verbosity quiet o) ∧
      ∀ {o₁ o₂ : CheckOptions} {u₁ u₂ : CheckSetup},
        o₁ = { o with query := o₁.query, files := o₁.files } →
        o₂ = { o with query := o₂.query, files := o₂.files } →
        u₁.IsFor answer o₁ → u₂.IsFor answer o₂ → u.sources = u₁.sources ++ u₂.sources →
          (checkRun answer verbosity quiet o).outputText =
              (checkRun answer verbosity quiet o₁).outputText ++
                (checkRun answer verbosity quiet o₂).outputText ∧
            (checkRun answer verbosity quiet o).exitCode =
              max (checkRun answer verbosity quiet o₁).exitCode
                (checkRun answer verbosity quiet o₂).exitCode := by
  obtain ⟨u, hu⟩ := exists_isFor_of_outcome h
  obtain ⟨events, hevents, hrun⟩ := exists_checkRun_eq verbosity quiet hu
  refine ⟨u, hu, ?_, ?_⟩
  · rw [hrun]
    exact agrees_after_report quiet hevents
  · intro o₁ o₂ u₁ u₂ ho₁ ho₂ hu₁ hu₂ hsources
    obtain ⟨events₁, hevents₁, hrun₁⟩ := exists_checkRun_eq verbosity quiet hu₁
    obtain ⟨events₂, hevents₂, hrun₂⟩ := exists_checkRun_eq verbosity quiet hu₂
    -- the configuration and the schema are found again, so only the queries are others
    have hsame₁ := hu.eq_of_same hu₁ ho₁
    have hsame₂ := hu.eq_of_same hu₂ ho₂
    rw [hrun, hrun₁, hrun₂, outputText_after hevents, outputText_after hevents₁,
      outputText_after hevents₂, hsame₁, hsame₂]
    exact ⟨outputText_report_append u quiet hsources, exitCode_report_append u quiet hsources⟩

/-- A file system that holds one file. -/
def oneFile : (q : Question) → Answer q
  | .kind _ => none
  | .text path => if path = "b.sql" then .ok "SELECT b FROM t" else .error .notFound
  | .names _ => none
  | .workingDirectory => "/"

/-- A query on the command line and a file, with one kind of complaint left out. -/
def queryAndFile : CheckOptions :=
  ⟨["b.sql"], some "SELECT FROM t", none, none, ["W0006"], some .json⟩

theorem blocks_oneFile :
    Blocks (fun pattern part => pathsOf oneFile pattern = .ok part) ["b.sql"] ["b.sql"] := by
  have hpath : pathsOf oneFile "b.sql" = .ok ["b.sql"] := if_neg (by simp)
  exact Blocks.flatMap (f := fun path => [path]) (List.forall_mem_singleton.2 hpath)

theorem isFor_queryAndFile :
    CheckSetup.IsFor oneFile queryAndFile
      ⟨[⟨inlineName, "SELECT FROM t"⟩, ⟨"b.sql", "SELECT b FROM t"⟩], none, ["W0006"], .json⟩ :=
  .mk (c := .empty) rfl (.mk blocks_oneFile (List.forall_mem_singleton.2 rfl))
    (List.cons_ne_nil _ _)

theorem isFor_query :
    CheckSetup.IsFor oneFile { queryAndFile with files := [] }
      ⟨[⟨inlineName, "SELECT FROM t"⟩], none, ["W0006"], .json⟩ :=
  .mk (c := .empty) rfl (.mk .nil (List.forall_mem_nil _)) (List.cons_ne_nil _ _)

theorem isFor_file :
    CheckSetup.IsFor oneFile { queryAndFile with query := none }
      ⟨[⟨"b.sql", "SELECT b FROM t"⟩], none, ["W0006"], .json⟩ :=
  .mk (c := .empty) rfl (.mk blocks_oneFile (List.forall_mem_singleton.2 rfl))
    (List.cons_ne_nil _ _)

theorem outcome_queryAndFile : (checkRun oneFile 0 false queryAndFile).outcome = .ok true := by
  obtain ⟨events, -, hrun⟩ := exists_checkRun_eq 0 false isFor_queryAndFile
  rw [hrun, Run.outcome_after]
  exact outcome_of_exitCode (by decide +kernel)

/-- A query without columns and a file without faults, together and apart. -/
theorem check_queryAndFile :
    (checkRun oneFile 0 false queryAndFile).outcome = .ok true ∧
      (∃ u, CheckSetup.IsFor oneFile queryAndFile u ∧
        Agrees u false ⟨none, []⟩ (checkRun oneFile 0 false queryAndFile)) ∧
      (checkRun oneFile 0 false queryAndFile).outputText =
        (checkRun oneFile 0 false { queryAndFile with files := [] }).outputText ++
          (checkRun oneFile 0 false { queryAndFile with query := none }).outputText ∧
      (checkRun oneFile 0 false queryAndFile).exitCode =
        max (checkRun oneFile 0 false { queryAndFile with files := [] }).exitCode
          (checkRun oneFile 0 false { queryAndFile with query := none }).exitCode := by
  obtain ⟨u, hu, hagrees, hapart⟩ := check_agrees ⟨none, []⟩ outcome_queryAndFile
  have hsetup := hu.unique isFor_queryAndFile
  subst hsetup
  exact ⟨outcome_queryAndFile, ⟨_, hu, hagrees⟩, hapart rfl rfl isFor_query isFor_file rfl⟩

end QueryLint.Command
