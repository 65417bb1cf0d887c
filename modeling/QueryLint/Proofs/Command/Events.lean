import QueryLint.Proofs.Command.Agreement

/-!
# The events of a check, in order

A check first looks for its configuration and loads its schema, and only then reports.  What the
first two leave behind is the same however the report is written, and all that asking for silence
takes away from it is one line about the schema.

* `configRecords`: what finding the configuration leaves in the log.
* `schemaEvents`, `schemaWarnings`: what loading the schema leaves behind, without and with the line
  that can be turned off.
* `checkRun_of_config_error`, `configuredRun_of_error`, `configuredRun_of_ok`: the three ways that a
  run can take.
* `AddsLines`: two runs of which one has some lines more.
-/

namespace QueryLint.Command

variable {answer : (q : Question) → Answer q} {o : CheckOptions}

/-! ## Configuration -/

/-- What finding the configuration leaves in the log. -/
def configRecords (answer : (q : Question) → Answer q) (o : CheckOptions) : List Log.Record :=
  match o.config with
  | some _ => []
  | none => (nearestConfig?.answerBy answer).toList.map configRecord

theorem events_loadConfig (answer : (q : Question) → Answer q) (o : CheckOptions) :
    ((loadConfig o).answerBy answer).1 = recordEvents (configRecords answer o) := by
  rw [loadConfig, configRecords]
  cases o.config with
  | some path => simp only [Script.answerBy_bind, Script.answerBy_pure]; rfl
  | none =>
    simp only [Script.answerBy_bind]
    cases nearestConfig?.answerBy answer with
    | some path => simp only [Script.answerBy_bind, Script.answerBy_pure]; rfl
    | none => rfl

/-! ## Schema -/

/-- The line that says that a schema has faults. -/
def schemaWarning (n : Nat) : String := "Warning: Schema loading produced " ++ n.repr ++ " warnings"

/-- What loading a schema leaves behind, the line about its faults apart. -/
def schemaEvents (answer : (q : Question) → Answer q) : Option String → List Event
  | none => []
  | some path =>
    match (Schema.load path).answerBy answer with
    | .error failure => [.withoutSchema failure]
    | .ok b => recordEvents b.records

/-- The line about the faults of a schema, if it is loaded and has any. -/
def schemaWarnings (answer : (q : Question) → Answer q) : Option String → List String
  | none => []
  | some path =>
    match (Schema.load path).answerBy answer with
    | .error _ => []
    | .ok b => if b.findings.length = 0 then [] else [schemaWarning b.findings.length]

/-- Asking for silence takes away the line about the faults, and nothing else. -/
theorem events_loadOptional (answer : (q : Question) → Answer q) (quiet : Bool)
    (path : Option String) :
    ((loadOptional quiet path).answerBy answer).1 =
      schemaEvents answer path ++
        if quiet then [] else noticeLines (schemaWarnings answer path) := by
  cases path with
  | none => cases quiet <;> rfl
  | some path =>
    simp only [loadOptional, Script.answerBy_bind, schemaEvents, schemaWarnings]
    cases (Schema.load path).answerBy answer with
    | error failure => cases quiet <;> rfl
    | ok b =>
      simp only [Script.answerBy_pure]
      cases quiet with
      | true => simp
      | false =>
        by_cases hcount : b.findings.length = 0
        · simp only [hcount, decide_true, Bool.or_false, if_true]
          rfl
        · simp only [hcount, decide_false, Bool.or_false, if_neg Bool.false_ne_true, if_false]
          rfl

/-! ## Runs -/

theorem Run.after_after (r : Run) (events events' : List Event) :
    (r.after events').after events = r.after (events ++ events') := by
  rw [Run.after, Run.after, Run.after, List.append_assoc]

theorem Run.failed_eq_after (events : List Event) (f : Fatal) :
    Run.failed events f = (Run.failed [] f).after events := by
  simp [Run.after, Run.failed]

theorem outputText_after_eq (r : Run) (events : List Event) :
    (r.after events).outputText = String.join (events.map Event.outputText) ++ r.outputText := by
  rw [Run.outputText, Run.outputText, Run.events_after, List.map_append, String.join_append]

theorem errorText_after (r : Run) (events : List Event) (filter : Log.Filter) :
    (r.after events).errorText filter =
      joinLines (events.flatMap (Event.errorLines filter)) ++ r.errorText filter := by
  rw [errorText_eq, errorText_eq, Run.events_after, List.flatMap_append, joinLines_append,
    String.append_assoc]
  rfl

/-- Everything that a check with the configuration `c` leaves behind before it looks for queries. -/
def setupEvents (answer : (q : Question) → Answer q) (quiet : Bool) (o : CheckOptions)
    (c : Config) : List Event :=
  recordEvents (configRecords answer o) ++ (schemaEvents answer (c.complete o).schema ++
    if quiet then [] else noticeLines (schemaWarnings answer (c.complete o).schema))

/-- What a check with the configuration `c` works on once it has its queries. -/
def CheckSetup.of (answer : (q : Question) → Answer q) (o : CheckOptions) (c : Config)
    (sources : List Source) : CheckSetup :=
  ⟨sources, loadedSchema answer (c.complete o).schema, (c.complete o).disable,
    o.format.getD c.outputFormat⟩

/-- A run whose configuration is `c`. -/
def configuredRun (answer : (q : Question) → Answer q) (quiet : Bool) (o : CheckOptions)
    (c : Config) : Run :=
  ((runCheck quiet (c.complete o)).answerBy answer).after (recordEvents (configRecords answer o))

section Runs

variable {c : Config} (verbosity : Nat) (quiet : Bool)

/-- A run ends when its configuration cannot be used. -/
theorem checkRun_of_config_error {failure : ConfigFailure}
    (h : ((loadConfig o).answerBy answer).2 = .error failure) :
    checkRun answer verbosity quiet o =
      .failed (recordEvents (configRecords answer o)) (.config failure) := by
  rw [← events_loadConfig]
  show (runConfiguredCheck quiet o).answerBy answer = _
  rw [answerBy_runConfiguredCheck, h]

theorem checkRun_of_config (h : ((loadConfig o).answerBy answer).2 = .ok c) :
    checkRun answer verbosity quiet o = configuredRun answer quiet o c := by
  rw [configuredRun, ← events_loadConfig]
  show (runConfiguredCheck quiet o).answerBy answer = _
  rw [answerBy_runConfiguredCheck, h]

/-- A run that has its configuration ends when its queries cannot be put together. -/
theorem configuredRun_of_error {f : Fatal}
    (h : (gatherSources (c.complete o)).answerBy answer = .error f) :
    configuredRun answer quiet o c = .failed (setupEvents answer quiet o c) f := by
  rw [configuredRun, answerBy_runCheck, h, events_loadOptional]
  rfl

/-- A run that has its queries reports on them. -/
theorem configuredRun_of_ok {sources : List Source}
    (h : (gatherSources (c.complete o)).answerBy answer = .ok sources) :
    configuredRun answer quiet o c =
      ((CheckSetup.of answer o c sources).report quiet).after (setupEvents answer quiet o c) := by
  rw [configuredRun, answerBy_runCheck, h, events_loadOptional]
  exact Run.after_after _ _ _

/-- The queries that a run has put together make its setup. -/
theorem isFor_of_ok {sources : List Source} (hconfig : ((loadConfig o).answerBy answer).2 = .ok c)
    (h : (gatherSources (c.complete o)).answerBy answer = .ok sources) :
    (CheckSetup.of answer o c sources).IsFor answer o := by
  obtain ⟨hgathered, hne⟩ := answerBy_gatherSources_eq_ok_iff.1 h
  exact .mk hconfig hgathered hne

end Runs

/-! ## Two runs -/

/-- The runs end in the same way and put out the same, and the first one has the lines `said` and
`last` besides, the latter behind all lines that they share. -/
structure AddsLines (run run' : Run) (said last : List String) : Prop where
  outcome_eq : run.outcome = run'.outcome
  exitCode_eq : run.exitCode = run'.exitCode
  outputText_eq : run.outputText = run'.outputText
  errorText_eq : ∀ filter, ∃ front behind ending,
    run.errorText filter = joinLines (front ++ said ++ behind ++ last) ++ ending ∧
      run'.errorText filter = joinLines (front ++ behind) ++ ending

theorem addsLines_refl (run : Run) : AddsLines run run [] [] where
  outcome_eq := rfl
  exitCode_eq := rfl
  outputText_eq := rfl
  errorText_eq filter := by
    refine ⟨run.events.flatMap (Event.errorLines filter), [], run.endText, ?_, ?_⟩
    all_goals simp [errorText_eq]

/-- Something that is said in front of a run is said once more than in front of the other. -/
theorem AddsLines.after {run run' : Run} {said last : List String} (h : AddsLines run run' [] last)
    (front : List Event) {events : List Event} (hsilent : ∀ e ∈ events, IsSilent e)
    (hsaid : ∀ filter, events.flatMap (Event.errorLines filter) = said) :
    AddsLines (run.after (front ++ events)) (run'.after front) said last where
  outcome_eq := h.outcome_eq
  exitCode_eq := h.exitCode_eq
  outputText_eq := by
    rw [outputText_after_eq, outputText_after_eq, List.map_append, String.join_append,
      join_map_eq_empty hsilent, String.append_empty, h.outputText_eq]
  errorText_eq filter := by
    obtain ⟨lines, behind, ending, hrun, hrun'⟩ := h.errorText_eq filter
    refine ⟨front.flatMap (Event.errorLines filter), lines ++ behind, ending, ?_, ?_⟩
    · rw [errorText_after, hrun, List.flatMap_append, hsaid]
      simp only [joinLines_append, List.append_nil, String.append_assoc]
    · rw [errorText_after, hrun']
      simp only [joinLines_append, String.append_assoc]

end QueryLint.Command
