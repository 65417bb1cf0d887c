import QueryLint.Proofs.Command.Events

/-!
# Runs that cannot go on

A command either comes to its end or reports nothing.  Whatever can fail is done before the first
line of a report: a check reads all of its queries before it looks at any of them, and the other
commands load their schema and find their table before they write.  A check may have said something
about its schema by then, and the log may have records of what was done so far.

* `IsSchemaNotice`, `IsPreparatory`: what can have been said by then.
* `ReportsNothing`: both streams of a run that ended in an error.
* `HasBadSource`: queries that keep a check from going on.
* `fatal_reportsNothing`: all commands.
-/

namespace QueryLint.Command

open Schema (Model)

variable {answer : (q : Question) → Answer q} {o : CheckOptions} {filter : Log.Filter} {f : Fatal}

/-! ## What can have been said -/

/-- The lines of a check about its schema: none, the line about its faults, or why it could not be
loaded. -/
inductive IsSchemaNotice : List String → Prop
  | nothing : IsSchemaNotice []
  | warning (n : Nat) : IsSchemaNotice [schemaWarning n]
  | failure (failure : Schema.LoadFailure) : IsSchemaNotice (narrateLoadFailure failure)

/-- Records of what is done before a query is looked at: a configuration has been found, or a schema
has been loaded. -/
inductive IsPreparatory : Log.Record → Prop
  | configuration (path : String) : IsPreparatory (configRecord path)
  | schema {b : Schema.Builder} {r : Log.Record} (h : r ∈ b.records) : IsPreparatory r
  | fault {b : Schema.Builder} {d : Diagnostic} (h : d ∈ b.diagnostics) :
      IsPreparatory (warningRecord commandTarget d)

/-- The lines of the records that the log keeps. -/
def logLines (filter : Log.Filter) (rs : List Log.Record) : List String :=
  (rs.filter filter.admits).map Log.Record.line

theorem flatMap_errorLines_recordEvents (rs : List Log.Record) :
    (recordEvents rs).flatMap (Event.errorLines filter) = logLines filter rs := by
  induction rs with
  | nil => rfl
  | cons r rs ih =>
    have hcons : recordEvents (r :: rs) = .record r :: recordEvents rs := rfl
    rw [hcons, List.flatMap_cons, ih, logLines, logLines, Event.errorLines]
    by_cases hr : filter.admits r = true
    · rw [if_pos hr, List.filter_cons_of_pos hr]
      rfl
    · rw [if_neg hr, List.filter_cons_of_neg hr]
      rfl

/-- A run that ended in the error `f` has put nothing out.  The other stream has lines of the log
about what comes before a report, the lines `notice`, and the error. -/
structure ReportsNothing (run : Run) (f : Fatal) (notice : List String) : Prop where
  exitCode_eq : run.exitCode = 2
  outputText_eq : run.outputText = ""
  errorText_eq : ∃ rs : List Log.Record, (∀ r ∈ rs, IsPreparatory r) ∧ ∀ filter,
    run.errorText filter =
      joinLines (logLines filter rs ++ notice) ++ ("Error: " ++ joinLines (narrateFatal f))

/-- Events of this kind are records, and what is said about a schema. -/
inductive Preparation : List Event → List String → Prop
  | mk {rs : List Log.Record} {said : List Event} {notice : List String}
      (hrs : ∀ r ∈ rs, IsPreparatory r) (hsilent : ∀ e ∈ said, IsSilent e)
      (hlines : ∀ filter, said.flatMap (Event.errorLines filter) = notice) :
      Preparation (recordEvents rs ++ said) notice

theorem preparation_recordEvents {rs : List Log.Record} (h : ∀ r ∈ rs, IsPreparatory r) :
    Preparation (recordEvents rs) [] := by
  have hmk := Preparation.mk h (List.forall_mem_nil IsSilent) fun _ => List.flatMap_nil
  rwa [List.append_nil] at hmk

theorem Preparation.reportsNothing {events : List Event} {notice : List String}
    (h : Preparation events notice) (f : Fatal) : ReportsNothing (.failed events f) f notice := by
  obtain @⟨rs, said, notice, hrs, hsilent, hlines⟩ := h
  refine ⟨rfl, ?_, rs, hrs, fun filter => ?_⟩
  · refine join_map_eq_empty fun e he => ?_
    rcases List.mem_append.1 he with he | he
    · exact isSilent_of_mem_recordEvents he
    · exact hsilent e he
  · rw [errorText_eq, Run.failed, List.flatMap_append, flatMap_errorLines_recordEvents, hlines]
    rfl

/-! ## Checks -/

theorem isPreparatory_of_mem_configRecords {r : Log.Record} (h : r ∈ configRecords answer o) :
    IsPreparatory r := by
  rw [configRecords] at h
  split at h
  · exact absurd h List.not_mem_nil
  · obtain ⟨path, -, rfl⟩ := List.mem_map.1 h
    exact .configuration path

/-- Before it looks for queries a check has said something about its schema at most. -/
theorem exists_preparation_setupEvents (answer : (q : Question) → Answer q) (quiet : Bool)
    (o : CheckOptions) (c : Config) :
    ∃ notice, Preparation (setupEvents answer quiet o c) notice ∧ IsSchemaNotice notice := by
  have hconfig (r : Log.Record) : r ∈ configRecords answer o → IsPreparatory r :=
    isPreparatory_of_mem_configRecords
  rw [setupEvents]
  cases (c.complete o).schema with
  | none =>
    refine ⟨[], .mk hconfig ?_ ?_, .nothing⟩
    all_goals cases quiet <;> simp [schemaEvents, schemaWarnings, noticeLines]
  | some path =>
    simp only [schemaEvents, schemaWarnings]
    cases (Schema.load path).answerBy answer with
    | error failure =>
      refine ⟨narrateLoadFailure failure, .mk hconfig ?_ ?_, .failure failure⟩
      all_goals cases quiet <;>
        simp [noticeLines, IsSilent, Event.outputText, Event.errorLines]
    | ok b =>
      have hrecords : ∀ r ∈ configRecords answer o ++ b.records, IsPreparatory r := by
        intro r hr
        rcases List.mem_append.1 hr with hr | hr
        · exact hconfig r hr
        · exact .schema hr
      have happend : recordEvents (configRecords answer o) ++ recordEvents b.records =
          recordEvents (configRecords answer o ++ b.records) := List.map_append.symm
      simp only [← List.append_assoc, happend]
      by_cases hfaults : quiet = true ∨ b.findings.length = 0
      · refine ⟨[], .mk hrecords ?_ ?_, .nothing⟩
        all_goals rcases hfaults with hfaults | hfaults <;> simp [hfaults, noticeLines]
      · rw [not_or] at hfaults
        refine ⟨[schemaWarning b.findings.length], .mk hrecords ?_ ?_, .warning _⟩
        all_goals
          simp [hfaults.1, hfaults.2, noticeLines, IsSilent, Event.outputText, Event.errorLines]

/-- The queries of a check cannot be put together: a pattern is invalid, or one of the files cannot
be read. -/
inductive HasBadSource (answer : (q : Question) → Answer q) (o : CheckOptions) : Prop
  | pattern {pattern : String} {fault : Glob.Fault} (hpattern : pattern ∈ o.files)
      (hfault : pathsOf answer pattern = .error fault)
  | file {pattern path : String} {part : List String} {failure : ReadFailure}
      (hpattern : pattern ∈ o.files) (hpart : pathsOf answer pattern = .ok part)
      (hpath : path ∈ part) (hfailure : answer (.text path) = .error failure)

/-- Queries that can be put together are all there. -/
theorem HasBadSource.not_isGathered {sources : List Source} (h : HasBadSource answer o) :
    ¬IsGathered answer o sources := by
  rintro ⟨hpaths, htexts⟩
  cases h with
  | pattern hpattern hfault =>
    obtain ⟨part, hpart, -⟩ := hpaths.exists_part hpattern
    rw [hfault] at hpart
    cases hpart
  | file hpattern hpart hpath hfailure =>
    obtain ⟨part', hpart', hmem⟩ := hpaths.exists_part hpattern
    rw [hpart] at hpart'
    obtain rfl := Except.ok.inj hpart'
    obtain ⟨s, hs, rfl⟩ := List.mem_map.1 (hmem _ hpath)
    rw [htexts s hs] at hfailure
    cases hfailure

theorem exists_reportsNothing_checkRun {verbosity : Nat} {quiet : Bool}
    (h : (checkRun answer verbosity quiet o).outcome = .error f) :
    ∃ notice, ReportsNothing (checkRun answer verbosity quiet o) f notice ∧
      IsSchemaNotice notice := by
  cases hconfig : ((loadConfig o).answerBy answer).2 with
  | error failure =>
    rw [checkRun_of_config_error verbosity quiet hconfig] at h ⊢
    obtain rfl := Except.error.inj h
    exact ⟨[], (preparation_recordEvents fun r => isPreparatory_of_mem_configRecords).reportsNothing
      _, .nothing⟩
  | ok c =>
    rw [checkRun_of_config verbosity quiet hconfig] at h ⊢
    cases hsources : (gatherSources (c.complete o)).answerBy answer with
    | error f' =>
      rw [configuredRun_of_error quiet hsources] at h ⊢
      obtain rfl := Except.error.inj h
      obtain ⟨notice, hprepared, hnotice⟩ := exists_preparation_setupEvents answer quiet o c
      exact ⟨notice, hprepared.reportsNothing f', hnotice⟩
    | ok sources =>
      rw [configuredRun_of_ok quiet hsources] at h
      cases h

/-- A check whose queries cannot be put together ends in an error. -/
theorem exists_outcome_eq_error_of_hasBadSource {c : Config} (verbosity : Nat) (quiet : Bool)
    (hconfig : ((loadConfig o).answerBy answer).2 = .ok c)
    (h : HasBadSource answer (c.complete o)) :
    ∃ f, (checkRun answer verbosity quiet o).outcome = .error f := by
  rw [checkRun_of_config verbosity quiet hconfig]
  cases hsources : (gatherSources (c.complete o)).answerBy answer with
  | error f =>
    rw [configuredRun_of_error quiet hsources]
    exact ⟨f, rfl⟩
  | ok sources =>
    obtain ⟨hgathered, -⟩ := answerBy_gatherSources_eq_ok_iff.1 hsources
    exact absurd hgathered h.not_isGathered

/-! ## Commands on a schema -/

/-- What is done with a schema that has been loaded either comes to its end, or is nothing. -/
def EndsOrDoesNothing (g : Model → Run) : Prop :=
  ∀ m f, (g m).outcome = .error f → (g m).events = []

theorem reportsNothing_withSchema {path : String} {g : Model → Run} (hg : EndsOrDoesNothing g)
    (h : ((withSchema path g).answerBy answer).outcome = .error f) :
    ReportsNothing ((withSchema path g).answerBy answer) f [] := by
  rw [withSchema, Script.answerBy_bind] at h ⊢
  cases hload : (Schema.load path).answerBy answer with
  | error failure =>
    simp only [hload, Script.answerBy_pure] at h ⊢
    obtain rfl := Except.error.inj h
    exact (preparation_recordEvents (List.forall_mem_nil _)).reportsNothing _
  | ok b =>
    simp only [hload, Script.answerBy_pure, Run.outcome_after] at h ⊢
    have hrecords : ∀ r ∈ b.records ++ b.diagnostics.map (warningRecord commandTarget),
        IsPreparatory r := by
      intro r hr
      rcases List.mem_append.1 hr with hr | hr
      · exact .schema hr
      · obtain ⟨d, hd, rfl⟩ := List.mem_map.1 hr
        exact .fault hd
    have hrun : (g b.model).after (recordEvents
        (b.records ++ b.diagnostics.map (warningRecord commandTarget))) =
        .failed (recordEvents
          (b.records ++ b.diagnostics.map (warningRecord commandTarget))) f := by
      rw [Run.after, hg b.model f h, List.append_nil, h]
      rfl
    rw [hrun]
    exact (preparation_recordEvents hrecords).reportsNothing f

theorem endsOrDoesNothing_withTable {name : String} {g : Model → Schema.Table → List Event} :
    EndsOrDoesNothing fun m => withTable name m fun t => .ofEvents (g m t) := by
  intro m f h
  simp only [withTable] at h ⊢
  cases ht : m.table? name with
  | none => rfl
  | some t =>
    rw [ht] at h
    cases h

theorem endsOrDoesNothing_runJoin (a b : String) (format : Format) :
    EndsOrDoesNothing (runJoin a b format) := by
  intro m f h
  rw [runJoin] at h
  cases hjoin : m.joinPath? a b <;> rw [hjoin] at h <;> cases h

theorem endsOrDoesNothing_runTables (keywords : List String) (format : Format) :
    EndsOrDoesNothing (runTables keywords format) := by
  intro m f h
  rw [runTables] at h
  split at h <;> cases h

theorem reportsNothing_runSchema {file : String}
    (h : ((runSchema file).answerBy answer).outcome = .error f) :
    ReportsNothing ((runSchema file).answerBy answer) f [] := by
  rw [runSchema, Script.answerBy_bind] at h ⊢
  cases hload : (Schema.load file).answerBy answer with
  | error failure =>
    simp only [hload, Script.answerBy_pure] at h ⊢
    obtain rfl := Except.error.inj h
    exact (preparation_recordEvents (List.forall_mem_nil _)).reportsNothing _
  | ok b =>
    simp only [hload, Script.answerBy_pure] at h
    cases h

/-! ## All commands -/

/-- A command that ends in an error has reported nothing, and only a check can have said anything
but the error itself.  One query of a check that cannot be read, or one pattern that is invalid, is
enough for that. -/
theorem fatal_reportsNothing (answer : (q : Question) → Answer q) (i : Invocation) :
    (∀ f, (i.run.answerBy answer).outcome = .error f →
      ∃ notice, ReportsNothing (i.run.answerBy answer) f notice ∧ IsSchemaNotice notice ∧
        (notice ≠ [] → ∃ o, i.request = .check o)) ∧
      ∀ o c, i.request = .check o → ((loadConfig o).answerBy answer).2 = .ok c →
        HasBadSource answer (c.complete o) →
          ∃ f, (i.run.answerBy answer).outcome = .error f := by
  obtain ⟨verbosity, quiet, request⟩ := i
  constructor
  · intro f h
    have hnothing (hreports : ReportsNothing
        ((Invocation.run ⟨verbosity, quiet, request⟩).answerBy answer) f []) :
        ∃ notice, ReportsNothing ((Invocation.run ⟨verbosity, quiet, request⟩).answerBy answer)
            f notice ∧ IsSchemaNotice notice ∧ (notice ≠ [] → ∃ o, request = .check o) :=
      ⟨[], hreports, .nothing, fun hne => absurd rfl hne⟩
    cases request with
    | check o =>
      obtain ⟨notice, hreports, hnotice⟩ := exists_reportsNothing_checkRun h
      exact ⟨notice, hreports, hnotice, fun _ => ⟨o, rfl⟩⟩
    | join a b schema format =>
      exact hnothing (reportsNothing_withSchema (endsOrDoesNothing_runJoin a b format) h)
    | tables keywords schema format =>
      exact hnothing (reportsNothing_withSchema (endsOrDoesNothing_runTables keywords format) h)
    | columns table keywords schema format =>
      exact hnothing (reportsNothing_withSchema endsOrDoesNothing_withTable h)
    | info table schema format =>
      exact hnothing (reportsNothing_withSchema endsOrDoesNothing_withTable h)
    | summary schema format =>
      exact hnothing (reportsNothing_withSchema (fun m f h => by cases h) h)
    | schema file => exact hnothing (reportsNothing_runSchema h)
  · rintro o c rfl hconfig hbad
    exact exists_outcome_eq_error_of_hasBadSource verbosity quiet hconfig hbad

/-- A query on the command line, a file, and a file that is missing, with a schema that is missing
too. -/
def missingFile : CheckOptions :=
  ⟨["b.sql", "c.sql"], some "SELECT FROM t", some "s.json", none, [], none⟩

/-- Of the two queries that can be read nothing is reported. -/
theorem reportsNothing_missingFile :
    HasBadSource oneFile (Config.empty.complete missingFile) ∧
      ∃ f notice, ReportsNothing
          ((Invocation.run ⟨0, false, .check missingFile⟩).answerBy oneFile) f notice ∧
        IsSchemaNotice notice := by
  have hpaths : pathsOf oneFile "c.sql" = .ok ["c.sql"] := if_neg (by simp)
  have hpattern : "c.sql" ∈ (Config.empty.complete missingFile).files := List.mem_of_getLast? rfl
  have hbad : HasBadSource oneFile (Config.empty.complete missingFile) :=
    .file hpattern hpaths (List.mem_singleton_self _) rfl
  obtain ⟨hfatal, hends⟩ := fatal_reportsNothing oneFile ⟨0, false, .check missingFile⟩
  obtain ⟨f, hf⟩ := hends missingFile .empty rfl rfl hbad
  obtain ⟨notice, hreports, hnotice, -⟩ := hfatal f hf
  exact ⟨hbad, f, notice, hreports, hnotice⟩

end QueryLint.Command
