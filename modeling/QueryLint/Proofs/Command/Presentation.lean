import QueryLint.Proofs.Command.FatalRuns
import QueryLint.Proofs.Command.Headlines

/-!
# Forms of a report

How a check presents what it has found is its own matter.  The form of the report and the wish for
silence change neither what is looked at nor what is found: the form decides on which stream and in
which words each complaint is told, and silence takes away two lines.

* `Presents`: where the headlines are in a run, for each form; for people, which events tell them.
* `IsSilenced`: the lines that silence takes away.
* `check_presentation`: runs in all forms, and with and without silence.
-/

namespace QueryLint.Command

variable {answer : (q : Question) → Answer q} {o : CheckOptions} {c : Config} {u : CheckSetup}
  {filter : Log.Filter}

/-! ## What is presented -/

namespace CheckSetup

/-- The headlines of the complaints about a query that are kept. -/
def headlines (u : CheckSetup) (s : Source) : List Headline := (u.kept s).map .of

/-- The records that checking a query leaves. -/
def records (u : CheckSetup) (s : Source) : List Log.Record :=
  passRecords u.schema s.text ++ [checkedRecord s.name (Verdict.ofDiagnostics (u.kept s)).valid]

/-- The lines that the log keeps of a query. -/
def logged (u : CheckSetup) (filter : Log.Filter) (s : Source) : List String :=
  logLines filter (u.records s)

/-- The last line about a setup. -/
def totals (u : CheckSetup) : String :=
  totalsLine (u.total .error) (u.total .warning) u.sources.length

theorem kept_format (u : CheckSetup) (format : Format) (s : Source) :
    kept { u with format := format } s = u.kept s :=
  rfl

theorem records_format (u : CheckSetup) (format : Format) (s : Source) :
    records { u with format := format } s = u.records s :=
  rfl

theorem logged_format (u : CheckSetup) (format : Format) (filter : Log.Filter) (s : Source) :
    logged { u with format := format } filter s = u.logged filter s :=
  rfl

end CheckSetup

/-- A run presents the headlines of a setup query by query.  For people the run says of each query,
behind its records, lines that tell of the complaints one by one.  Apart from the lines `front` and
`behind` it says nothing else, so that the headlines among all of its lines are those of the
complaints; and nothing is put out.  For programs there is a value for each query, and what is left
of the lines is the log. -/
inductive Presents (u : CheckSetup) (filter : Log.Filter) (front behind : List String) :
    Format → Run → Prop
  | lines {run : Run} {before after : List Event} (told : Source → List (List String))
      (hevents : run.events = before ++ u.sources.flatMap (fun s =>
        recordEvents (u.records s) ++ noticeLines (told s).flatten) ++ after)
      (hbefore : before.flatMap (Event.errorLines filter) = front)
      (hafter : after.flatMap (Event.errorLines filter) = behind)
      (htold : ∀ s ∈ u.sources, List.Forall₂ (Headline.Tells s.name) (u.kept s) (told s))
      (hheadlines : (run.events.flatMap (Event.errorLines filter)).filterMap Headline.ofLine? =
        u.sources.flatMap u.headlines)
      (houtput : run.outputText = "")
      (herror : run.errorText filter = joinLines
        (front ++ u.sources.flatMap (fun s => u.logged filter s ++ (told s).flatten) ++ behind)) :
      Presents u filter front behind .human run
  | values {format : Format} {run : Run} (values : List Json) (hformat : format ≠ .human)
      (hvalues : List.Forall₂ (fun s v => Headline.listOfJson? format v = some (u.headlines s))
        u.sources values)
      (houtput : run.outputText = joinLines (values.map Json.pretty))
      (herror : run.errorText filter =
        joinLines (front ++ u.sources.flatMap (u.logged filter) ++ behind)) :
      Presents u filter front behind format run

/-- The lines that silence takes away: the one about the faults of the schema, if a check gets to
its schema, and the last one, if it gets to the end. -/
inductive IsSilenced (answer : (q : Question) → Answer q) (o : CheckOptions) :
    List String → List String → Prop
  | withoutConfig {failure : ConfigFailure}
      (hconfig : ((loadConfig o).answerBy answer).2 = .error failure) : IsSilenced answer o [] []
  | withoutQueries {c : Config} {f : Fatal} (hconfig : ((loadConfig o).answerBy answer).2 = .ok c)
      (hsources : (gatherSources (c.complete o)).answerBy answer = .error f) :
      IsSilenced answer o (schemaWarnings answer (c.complete o).schema) []
  | report {c : Config} {u : CheckSetup} (hconfig : ((loadConfig o).answerBy answer).2 = .ok c)
      (hu : u.IsFor answer o) :
      IsSilenced answer o (schemaWarnings answer (c.complete o).schema) [u.totals]

/-! ## Lines about a query -/

theorem flatMap_errorLines_noticeLines (lines : List String) :
    (noticeLines lines).flatMap (Event.errorLines filter) = lines := by
  rw [noticeLines, List.flatMap_map]
  exact List.flatMap_singleton' lines

section Checked

variable (s : Source) (ds : List Diagnostic)

theorem report_human :
    Checked.report .human ⟨s, ds⟩ = noticeLines (humanReport s.name s.text ds) :=
  rfl

theorem report_json : Checked.report .json ⟨s, ds⟩ = outputJson (jsonReport s.name ds) :=
  rfl

theorem report_sarif : Checked.report .sarif ⟨s, ds⟩ = outputJson (sarifReport s.name ds) :=
  rfl

end Checked

/-! ## Lines that are no headlines -/

/-- No line that an event adds is a headline. -/
def IsPlain (e : Event) : Prop :=
  ∀ filter, ∀ line ∈ e.errorLines filter, Headline.ofLine? line = none

theorem filterMap_of_isPlain {events : List Event} (h : ∀ e ∈ events, IsPlain e) :
    (events.flatMap (Event.errorLines filter)).filterMap Headline.ofLine? = [] := by
  refine List.filterMap_eq_nil_iff.2 fun line hline => ?_
  obtain ⟨e, he, hline⟩ := List.mem_flatMap.1 hline
  exact h e he filter line hline

theorem isPlain_notice {line : String} (h : Headline.ofLine? line = none) :
    IsPlain (.notice line) := by
  intro filter line' hline
  rwa [List.mem_singleton.1 hline]

theorem isPlain_of_mem_recordEvents {rs : List Log.Record} {e : Event}
    (h : e ∈ recordEvents rs) : IsPlain e := by
  obtain ⟨r, -, rfl⟩ := List.mem_map.1 h
  intro filter line hline
  rw [Event.errorLines] at hline
  split at hline
  · rw [List.mem_singleton.1 hline]
    exact Headline.ofLine?_recordLine r
  · exact absurd hline List.not_mem_nil

/-- No line about a schema that cannot be loaded is a headline. -/
theorem isPlain_withoutSchema (f : Schema.LoadFailure) : IsPlain (.withoutSchema f) := by
  have hmessage : Headline.ofLine? f.message = none := by
    cases f <;> exact Headline.ofLine?_append_eq_none _ (by simp) (by simp)
  have hoptional {label : String} (hne : label.toList ≠ []) (hlabel : '\x1b' ∉ label.toList)
      (text : Option String) :
      ∀ line ∈ (text.map (label ++ ·)).toList, Headline.ofLine? line = none := by
    intro line hline
    obtain ⟨said, -, rfl⟩ := Option.map_eq_some_iff.1 (Option.mem_toList.1 hline)
    exact Headline.ofLine?_append_eq_none _ hne hlabel
  intro filter
  show ∀ line ∈ narrate _ _ _ _, _
  simp only [narrate, List.forall_mem_append, List.forall_mem_cons]
  exact ⟨⟨⟨⟨⟨hmessage, rfl, List.forall_mem_nil _⟩, hoptional (by simp) (by simp) _⟩,
    hoptional (by simp) (by simp) _⟩, hoptional (by simp) (by simp) _⟩, rfl,
    List.forall_mem_nil _⟩

theorem filterMap_logLines (rs : List Log.Record) :
    (logLines filter rs).filterMap Headline.ofLine? = [] := by
  rw [← flatMap_errorLines_recordEvents]
  exact filterMap_of_isPlain fun e => isPlain_of_mem_recordEvents

theorem ofLine?_totals (u : CheckSetup) : Headline.ofLine? u.totals = none := by
  rw [CheckSetup.totals, totalsLine]
  split
  all_goals
    simp only [String.append_assoc]
    exact Headline.ofLine?_append_eq_none _ (by simp) (by simp)

/-! ## Reports -/

/-- What happens in a report on a setup, after some events. -/
theorem events_after_report (u : CheckSetup) (quiet : Bool) (events : List Event) :
    ((u.report quiet).after events).events = events ++ u.sources.flatMap (fun s =>
        recordEvents (u.records s) ++ Checked.report u.format ⟨s, u.kept s⟩) ++
      if quiet then [] else [.notice u.totals] := by
  rw [Run.events_after, events_report, List.flatMap_map, summaryLine_eq_totalsLine,
    List.append_assoc]
  rfl

/-- The lines of such a report. -/
theorem errorLines_after_report (u : CheckSetup) (quiet : Bool) (events : List Event) :
    ((u.report quiet).after events).events.flatMap (Event.errorLines filter) =
      events.flatMap (Event.errorLines filter) ++
        u.sources.flatMap (fun s => u.logged filter s ++
          (Checked.report u.format ⟨s, u.kept s⟩).flatMap (Event.errorLines filter)) ++
        if quiet then [] else [u.totals] := by
  have hlast : (if quiet then [] else [Event.notice u.totals]).flatMap (Event.errorLines filter) =
      if quiet then [] else [u.totals] := by
    cases quiet <;> rfl
  rw [events_after_report, List.flatMap_append, List.flatMap_append, hlast, List.flatMap_assoc]
  simp only [List.flatMap_append, flatMap_errorLines_recordEvents, CheckSetup.logged]

theorem errorText_after_report (u : CheckSetup) (quiet : Bool) (events : List Event) :
    ((u.report quiet).after events).errorText filter = joinLines
      (events.flatMap (Event.errorLines filter) ++
        u.sources.flatMap (fun s => u.logged filter s ++
          (Checked.report u.format ⟨s, u.kept s⟩).flatMap (Event.errorLines filter)) ++
        if quiet then [] else [u.totals]) := by
  have houtcome : ((u.report quiet).after events).outcome = .ok _ := rfl
  rw [errorText_of_outcome houtcome, errorLines_after_report]

/-- A report for people puts nothing out. -/
theorem outputText_report_human (u : CheckSetup) (quiet : Bool) :
    (CheckSetup.report { u with format := .human } quiet).outputText = "" := by
  have houtputOf (s : Source) : CheckSetup.outputOf { u with format := .human } s = "" := by
    rw [CheckSetup.outputOf, checkSource_eq, CheckSetup.kept_format, report_human]
    refine join_map_eq_empty fun e he => ?_
    obtain ⟨line, -, rfl⟩ := List.mem_map.1 he
    rfl
  rw [outputText_report, ← String.toList_inj, String.toList_join, List.flatMap_map]
  simp [houtputOf]

/-- The headlines among the lines of a report for people are those of the complaints, if there are
none before the first query. -/
theorem filterMap_errorLines_report {events : List Event} (quiet : Bool)
    (hplain : ∀ e ∈ events, IsPlain e) :
    (((CheckSetup.report { u with format := .human } quiet).after events).events.flatMap
      (Event.errorLines filter)).filterMap Headline.ofLine? = u.sources.flatMap u.headlines := by
  have hlast : (if quiet then [] else [CheckSetup.totals { u with format := .human }]).filterMap
      Headline.ofLine? = [] := by
    cases quiet with
    | true => rfl
    | false => exact List.filterMap_cons_none (ofLine?_totals _)
  rw [errorLines_after_report, List.filterMap_append, List.filterMap_append,
    filterMap_of_isPlain hplain, hlast, List.filterMap_flatMap, List.nil_append, List.append_nil]
  simp only [CheckSetup.kept_format, report_human, flatMap_errorLines_noticeLines,
    List.filterMap_append, CheckSetup.logged, filterMap_logLines, Headline.filterMap_humanReport,
    List.nil_append]
  rfl

section Presented

variable {format : Format} {events : List Event} (quiet : Bool)
  (hsilent : ∀ e ∈ events, IsSilent e) (hplain : ∀ e ∈ events, IsPlain e)

section Values

include hsilent

/-- A report of values is written down value by value. -/
theorem presents_values (value : Source → Json) (hformat : format ≠ .human)
    (hreport : ∀ s, Checked.report format ⟨s, u.kept s⟩ = outputJson (value s))
    (hvalue : ∀ s, Headline.listOfJson? format (value s) = some (u.headlines s)) :
    Presents u filter (events.flatMap (Event.errorLines filter)) (if quiet then [] else [u.totals])
      format ((CheckSetup.report { u with format := format } quiet).after events) := by
  have houtputOf (s : Source) :
      CheckSetup.outputOf { u with format := format } s = (value s).pretty ++ "\n" := by
    rw [CheckSetup.outputOf, checkSource_eq, CheckSetup.kept_format, hreport]
    simp [outputJson, Event.outputText]
  have hlines (s : Source) : (outputJson (value s)).flatMap (Event.errorLines filter) = [] := rfl
  refine .values (u.sources.map value) hformat ?_ ?_ ?_
  · rw [List.forall₂_map_right_iff, List.forall₂_same]
    exact fun s _ => hvalue s
  · rw [outputText_after hsilent]
    exact outputText_report_of_values houtputOf quiet
  · rw [errorText_after_report]
    simp only [CheckSetup.kept_format, CheckSetup.logged_format, hreport, hlines, List.append_nil]
    rfl

end Values

include hsilent hplain

/-- A report for people is made of lines. -/
theorem presents_lines :
    Presents u filter (events.flatMap (Event.errorLines filter)) (if quiet then [] else [u.totals])
      .human ((CheckSetup.report { u with format := .human } quiet).after events) := by
  have htold (s : Source) :
      ((u.kept s).map (humanLines s.name s.text)).flatten = humanReport s.name s.text (u.kept s) :=
    List.flatMap_def.symm
  refine @Presents.lines u filter _ _ _ events (if quiet then [] else [.notice u.totals])
    (fun s => (u.kept s).map (humanLines s.name s.text)) ?_ rfl ?_ (fun s _ => ?_) ?_ ?_ ?_
  · rw [events_after_report]
    simp only [CheckSetup.kept_format, CheckSetup.records_format, report_human, htold]
    rfl
  · cases quiet <;> rfl
  · rw [List.forall₂_map_right_iff, List.forall₂_same]
    exact fun d _ => Headline.tells_humanLines s.name s.text d
  · exact filterMap_errorLines_report quiet hplain
  · rw [outputText_after hsilent]
    exact outputText_report_human u quiet
  · rw [errorText_after_report]
    simp only [CheckSetup.kept_format, CheckSetup.logged_format, report_human, htold,
      flatMap_errorLines_noticeLines]
    rfl

/-- A report in any form presents the headlines of its setup. -/
theorem presents_after_report (u : CheckSetup) (format : Format) :
    Presents u filter (events.flatMap (Event.errorLines filter)) (if quiet then [] else [u.totals])
      format ((CheckSetup.report { u with format := format } quiet).after events) := by
  cases format with
  | human => exact presents_lines quiet hsilent hplain
  | json =>
    exact presents_values quiet hsilent (fun s => jsonReport s.name (u.kept s)) (by decide)
      (fun s => report_json s (u.kept s)) fun s =>
        Headline.listOfJson?_jsonReport s.name (u.kept s)
  | sarif =>
    exact presents_values quiet hsilent (fun s => sarifReport s.name (u.kept s)) (by decide)
      (fun s => report_sarif s (u.kept s)) fun s =>
        Headline.listOfJson?_sarifReport s.name (u.kept s)

end Presented

/-! ## Runs in all forms -/

theorem isSilent_of_mem_setupEvents {quiet : Bool} {e : Event}
    (h : e ∈ setupEvents answer quiet o c) : IsSilent e := by
  rw [setupEvents, ← events_loadOptional] at h
  rcases List.mem_append.1 h with h | h
  · exact isSilent_of_mem_recordEvents h
  · exact (answerBy_loadOptional answer quiet _).2 e h

theorem ofLine?_of_mem_schemaWarnings {path : Option String} {line : String}
    (h : line ∈ schemaWarnings answer path) : Headline.ofLine? line = none := by
  have hwarning (n : Nat) : Headline.ofLine? (schemaWarning n) = none := by
    have hsplit : schemaWarning n =
        "Warning: Schema loading produced " ++ (n.repr ++ " warnings") := String.append_assoc ..
    rw [hsplit]
    exact Headline.ofLine?_append_eq_none _ (by simp) (by simp)
  cases path with
  | none => exact absurd h List.not_mem_nil
  | some path =>
    cases hload : (Schema.load path).answerBy answer with
    | error failure =>
      simp only [schemaWarnings, hload, List.not_mem_nil] at h
    | ok b =>
      simp only [schemaWarnings, hload] at h
      split at h
      · exact absurd h List.not_mem_nil
      · rw [List.mem_singleton.1 h]
        exact hwarning _

/-- What a check says before it looks for queries has no headlines. -/
theorem isPlain_of_mem_setupEvents {quiet : Bool} {e : Event}
    (h : e ∈ setupEvents answer quiet o c) : IsPlain e := by
  have hschema (path : Option String) : ∀ e ∈ schemaEvents answer path, IsPlain e := by
    cases path with
    | none => exact List.forall_mem_nil _
    | some path =>
      rw [schemaEvents]
      split
      next failure _ => exact List.forall_mem_singleton.2 (isPlain_withoutSchema failure)
      next => exact fun e => isPlain_of_mem_recordEvents
  rcases List.mem_append.1 h with h | h
  · exact isPlain_of_mem_recordEvents h
  · rcases List.mem_append.1 h with h | h
    · exact hschema _ e h
    · split at h
      · exact absurd h List.not_mem_nil
      · obtain ⟨line, hline, rfl⟩ := List.mem_map.1 h
        exact isPlain_notice (ofLine?_of_mem_schemaWarnings hline)

/-- The form of a report plays no part in the setup. -/
theorem CheckSetup.of_format (answer : (q : Question) → Answer q) (o : CheckOptions) (c : Config)
    (sources : List Source) (format : Option Format) :
    CheckSetup.of answer { o with format := format } c sources =
      { CheckSetup.of answer o c sources with format := format.getD c.outputFormat } :=
  rfl

/-- A run ends in an error in all forms, or presents one setup in all of them. -/
theorem exists_run_or_presents (answer : (q : Question) → Answer q) (verbosity : Nat)
    (quiet : Bool) (o : CheckOptions) (filter : Log.Filter) :
    (∃ run f, run.outcome = .error f ∧ ∀ format : Option Format,
        checkRun answer verbosity quiet { o with format := format } = run) ∨
      ∃ u front code, ∀ format : Option Format,
        CheckSetup.IsFor answer { o with format := format }
            { u with format := format.getD u.format } ∧
          (checkRun answer verbosity quiet { o with format := format }).exitCode = code ∧
          Presents u filter front (if quiet then [] else [u.totals]) (format.getD u.format)
            (checkRun answer verbosity quiet { o with format := format }) := by
  have hload (format : Option Format) :
      loadConfig { o with format := format } = loadConfig o := rfl
  have hrecords (format : Option Format) :
      configRecords answer { o with format := format } = configRecords answer o := rfl
  cases hconfig : ((loadConfig o).answerBy answer).2 with
  | error failure =>
    refine .inl ⟨.failed (recordEvents (configRecords answer o)) (.config failure), _, rfl,
      fun format => ?_⟩
    rw [checkRun_of_config_error verbosity quiet (hload format ▸ hconfig), hrecords]
  | ok c =>
    have hgather (format : Option Format) : gatherSources (c.complete { o with format := format }) =
        gatherSources (c.complete o) := rfl
    have hsetup (format : Option Format) : setupEvents answer quiet { o with format := format } c =
        setupEvents answer quiet o c := rfl
    cases hsources : (gatherSources (c.complete o)).answerBy answer with
    | error f =>
      refine .inl ⟨.failed (setupEvents answer quiet o c) f, f, rfl, fun format => ?_⟩
      rw [checkRun_of_config verbosity quiet (hload format ▸ hconfig),
        configuredRun_of_error quiet (hgather format ▸ hsources), hsetup]
    | ok sources =>
      let u := CheckSetup.of answer { o with format := none } c sources
      have hrun (format : Option Format) :
          checkRun answer verbosity quiet { o with format := format } =
            (CheckSetup.report { u with format := format.getD u.format } quiet).after
              (setupEvents answer quiet o c) := by
        rw [checkRun_of_config verbosity quiet (hload format ▸ hconfig),
          configuredRun_of_ok quiet (hgather format ▸ hsources), hsetup, CheckSetup.of_format]
        rfl
      refine .inr ⟨u, (setupEvents answer quiet o c).flatMap (Event.errorLines filter),
        (u.report quiet).exitCode, fun format => ⟨?_, ?_, ?_⟩⟩
      · exact isFor_of_ok (hload format ▸ hconfig) (hgather format ▸ hsources)
      · rw [hrun, Run.exitCode_after, exitCode_report, exitCode_report]
        rfl
      · rw [hrun]
        exact presents_after_report quiet (fun e => isSilent_of_mem_setupEvents)
          (fun e => isPlain_of_mem_setupEvents) u _

/-! ## Runs with and without silence -/

/-- Of a report silence takes away the last line. -/
theorem addsLines_report (u : CheckSetup) :
    AddsLines (u.report false) (u.report true) [] [u.totals] where
  outcome_eq := rfl
  exitCode_eq := by rw [exitCode_report, exitCode_report]
  outputText_eq := by rw [outputText_report, outputText_report]
  errorText_eq filter := by
    have herror (quiet : Bool) := @errorText_after_report filter u quiet []
    refine ⟨[], u.sources.flatMap fun s => u.logged filter s ++
      (Checked.report u.format ⟨s, u.kept s⟩).flatMap (Event.errorLines filter), "", ?_, ?_⟩
    · rw [String.append_empty]
      exact herror false
    · rw [String.append_empty]
      refine (herror true).trans ?_
      rw [if_pos rfl, List.append_nil]
      rfl

/-- Of what a check says before it looks for queries, silence takes away the line about the
schema. -/
theorem AddsLines.after_setupEvents {run run' : Run} {last : List String}
    (h : AddsLines run run' [] last) (answer : (q : Question) → Answer q) (o : CheckOptions)
    (c : Config) :
    AddsLines (run.after (setupEvents answer false o c)) (run'.after (setupEvents answer true o c))
      (schemaWarnings answer (c.complete o).schema) last := by
  let front := recordEvents (configRecords answer o) ++ schemaEvents answer (c.complete o).schema
  have hloud : setupEvents answer false o c =
      front ++ noticeLines (schemaWarnings answer (c.complete o).schema) :=
    (List.append_assoc _ _ _).symm
  have hsilent : setupEvents answer true o c = front :=
    congrArg (recordEvents (configRecords answer o) ++ ·) (List.append_nil _)
  rw [hloud, hsilent]
  refine h.after front (fun e he => ?_) fun filter => flatMap_errorLines_noticeLines _
  obtain ⟨line, -, rfl⟩ := List.mem_map.1 he
  rfl

/-- Silence takes away the line about the schema and the last line, and nothing else. -/
theorem exists_isSilenced (answer : (q : Question) → Answer q) (verbosity : Nat)
    (o : CheckOptions) :
    ∃ warning last, IsSilenced answer o warning last ∧
      AddsLines (checkRun answer verbosity false o) (checkRun answer verbosity true o) warning
        last := by
  cases hconfig : ((loadConfig o).answerBy answer).2 with
  | error failure =>
    refine ⟨[], [], .withoutConfig hconfig, ?_⟩
    rw [checkRun_of_config_error verbosity false hconfig,
      checkRun_of_config_error verbosity true hconfig]
    exact addsLines_refl _
  | ok c =>
    rw [checkRun_of_config verbosity false hconfig, checkRun_of_config verbosity true hconfig]
    cases hsources : (gatherSources (c.complete o)).answerBy answer with
    | error f =>
      refine ⟨schemaWarnings answer (c.complete o).schema, [], .withoutQueries hconfig hsources, ?_⟩
      rw [configuredRun_of_error false hsources, configuredRun_of_error true hsources,
        Run.failed_eq_after, Run.failed_eq_after (setupEvents answer true o c)]
      exact (addsLines_refl _).after_setupEvents answer o c
    | ok sources =>
      refine ⟨schemaWarnings answer (c.complete o).schema,
        [(CheckSetup.of answer o c sources).totals],
        .report hconfig (isFor_of_ok hconfig hsources), ?_⟩
      rw [configuredRun_of_ok false hsources, configuredRun_of_ok true hsources]
      exact (addsLines_report _).after_setupEvents answer o c

/-- A check is the same in all forms and with and without silence.  In all forms it ends in the same
error, or ends in the same way and presents the same headlines, with the same lines before and
behind.  Silence leaves how it ends and what it puts out as they are, and takes two lines away. -/
theorem check_presentation (answer : (q : Question) → Answer q) (verbosity : Nat)
    (o : CheckOptions) (filter : Log.Filter) :
    (∀ quiet,
      (∃ run f, run.outcome = .error f ∧ ∀ format : Option Format,
        checkRun answer verbosity quiet { o with format := format } = run) ∨
      ∃ u front code, ∀ format : Option Format,
        CheckSetup.IsFor answer { o with format := format }
            { u with format := format.getD u.format } ∧
          (checkRun answer verbosity quiet { o with format := format }).exitCode = code ∧
          Presents u filter front (if quiet then [] else [u.totals]) (format.getD u.format)
            (checkRun answer verbosity quiet { o with format := format })) ∧
    ∃ warning last, IsSilenced answer o warning last ∧
      AddsLines (checkRun answer verbosity false o) (checkRun answer verbosity true o) warning
        last :=
  ⟨fun quiet => exists_run_or_presents answer verbosity quiet o filter,
    exists_isSilenced answer verbosity o⟩

end QueryLint.Command
