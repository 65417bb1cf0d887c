import QueryLint.Command.Arguments
import QueryLint.Proofs.Command.FatalRuns

/-!
# Configurations as arguments

A configuration stands for arguments.  Whatever is written in it could be written on the command
line instead, where the arguments leave it out, and the check would say the same: nothing that a
configuration says is put together with what an argument says about the same thing.  All that can
tell the two runs apart is the record of the file that the configuration was found in.  A variable
of the environment that names a schema counts as an argument.

* `Script.asked`: the questions of a program.
* `Config.fillIn`: the arguments that a configuration stands for.
* `SameButLog`: two runs that differ in the log.
* `checkRun_fillIn`: running with a configuration, and with the arguments that it stands for.
-/

namespace QueryLint

namespace Script

variable {α : Type}

/-- The questions that a program asks, in order, when it is answered like this. -/
def asked (answer : (q : Question) → Answer q) : Script α → List Question
  | done _ => []
  | ask q next => q :: (next (answer q)).asked answer

/-- The result of a program depends on the answers to its own questions only. -/
theorem answerBy_congr {answer answer' : (q : Question) → Answer q} {p : Script α}
    (h : ∀ q ∈ p.asked answer', answer q = answer' q) :
    p.answerBy answer = p.answerBy answer' := by
  induction p with
  | done a => rfl
  | ask q next ih =>
    rw [asked, List.forall_mem_cons] at h
    obtain ⟨hq, hnext⟩ := h
    rw [answerBy, answerBy, hq]
    exact ih _ hnext

end Script

namespace Command

variable {answer answer' : (q : Question) → Answer q} {o o' : CheckOptions} {c : Config}

/-! ## What a configuration stands for -/

/-- The format that a word in a configuration stands for.  Every other word stands for reports
that people read. -/
def formatNamed (word : String) : Format :=
  if word = "json" then .json else if word = "sarif" then .sarif else .human

/-- The arguments, with what they leave out written as the configuration has it.  Lists are never
put together: a list that is given stays as it is. -/
def Config.fillIn (c : Config) (o : CheckOptions) : CheckOptions where
  files := if o.files = [] then c.files else o.files
  query := o.query
  schema := if o.schema = none then c.schema else o.schema
  config := o.config
  disable := if o.disable = [] then c.disable else o.disable
  format := if o.format = none then c.format.map formatNamed else o.format

theorem ofName?_getD (word : String) : (Format.ofName? word).getD .human = formatNamed word := by
  simp only [Format.ofName?, Format.all, List.find?_cons, List.find?_nil, formatNamed]
  by_cases hjson : word = "json"
  · subst hjson
    rfl
  · by_cases hsarif : word = "sarif"
    · subst hsarif
      rfl
    · have hnames : (Format.json.name == word) = false ∧ (Format.sarif.name == word) = false :=
        ⟨beq_false_of_ne (Ne.symm hjson), beq_false_of_ne (Ne.symm hsarif)⟩
      rw [hnames.1, hnames.2, if_neg hjson, if_neg hsarif]
      cases Format.human.name == word <;> rfl

/-- What a check does is told by these five parts of its options. -/
theorem runCheck_congr (quiet : Bool) (hfiles : o.files = o'.files) (hquery : o.query = o'.query)
    (hschema : o.schema = o'.schema) (hdisable : o.disable = o'.disable)
    (hformat : o.format.getD .human = o'.format.getD .human) :
    runCheck quiet o = runCheck quiet o' := by
  simp only [runCheck, gatherSources, hfiles, hquery, hschema, hdisable, hformat]

/-- A check with a configuration is a check with the arguments that it stands for. -/
theorem runCheck_complete (quiet : Bool) (c : Config) (o : CheckOptions) :
    runCheck quiet (c.complete o) = runCheck quiet (c.fillIn o) := by
  refine runCheck_congr quiet ?_ rfl ?_ ?_ ?_ <;> simp only [Config.complete, Config.fillIn]
  · simp only [List.isEmpty_iff]
  · cases o.schema with
    | none => rfl
    | some path => rfl
  · simp only [List.isEmpty_iff]
  · cases o.format with
    | some f => rfl
    | none =>
      rw [Config.outputFormat]
      cases c.format with
      | none => rfl
      | some word => exact ofName?_getD word

/-- A configuration that says nothing stands for nothing. -/
theorem fillIn_empty (o : CheckOptions) : Config.empty.fillIn o = o := by
  obtain ⟨files, query, schema, config, disable, format⟩ := o
  simp only [Config.fillIn, Config.empty, CheckOptions.mk.injEq, true_and]
  refine ⟨?_, ?_, ?_, ?_⟩
  · split <;> simp_all
  · split <;> simp_all
  · split <;> simp_all
  · split <;> simp_all

/-! ## Two runs -/

/-- The options `o'` are what `o` and the configuration `c` amount to, and in the second file system
they meet a configuration that says nothing.  The file systems need not be the same, but what the
check asks about later has the same answers in both. -/
structure IsFilledIn (answer answer' : (q : Question) → Answer q) (quiet : Bool) (c : Config)
    (o o' : CheckOptions) : Prop where
  config_eq : ((loadConfig o).answerBy answer).2 = .ok c
  config_eq' : ((loadConfig o').answerBy answer').2 = .ok .empty
  options_eq : o' = { c.fillIn o with config := o'.config }
  answer_eq : ∀ q ∈ (runCheck quiet o').asked answer', answer q = answer' q

/-- The runs end in the same way and say the same, apart from records of the log that come first:
`rs` in the one run and `rs'` in the other. -/
structure SameButLog (rs rs' : List Log.Record) (run run' : Run) : Prop where
  outcome_eq : run.outcome = run'.outcome
  exitCode_eq : run.exitCode = run'.exitCode
  outputText_eq : run.outputText = run'.outputText
  errorText_eq : ∀ filter, ∃ rest,
    run.errorText filter = joinLines (logLines filter rs) ++ rest ∧
      run'.errorText filter = joinLines (logLines filter rs') ++ rest

theorem outputText_after_recordEvents (run : Run) (rs : List Log.Record) :
    (run.after (recordEvents rs)).outputText = run.outputText :=
  outputText_after fun _ => isSilent_of_mem_recordEvents

/-- Records in front of a run are all that they add to it. -/
theorem sameButLog_after (run : Run) (rs rs' : List Log.Record) :
    SameButLog rs rs' (run.after (recordEvents rs)) (run.after (recordEvents rs')) where
  outcome_eq := rfl
  exitCode_eq := rfl
  outputText_eq := by rw [outputText_after_recordEvents, outputText_after_recordEvents]
  errorText_eq filter := by
    refine ⟨run.errorText filter, ?_, ?_⟩
    all_goals rw [errorText_after, flatMap_errorLines_recordEvents]

theorem sameButLog_of_isFilledIn {quiet : Bool} (verbosity : Nat)
    (h : IsFilledIn answer answer' quiet c o o') :
    SameButLog (configRecords answer o) (configRecords answer' o')
      (checkRun answer verbosity quiet o) (checkRun answer' verbosity quiet o') := by
  have hrun : runCheck quiet (c.complete o) = runCheck quiet o' := by
    rw [runCheck_complete, h.options_eq]
    exact runCheck_congr quiet rfl rfl rfl rfl rfl
  have hrun' : runCheck quiet (Config.empty.complete o') = runCheck quiet o' := by
    rw [runCheck_complete, fillIn_empty]
  rw [checkRun_of_config verbosity quiet h.config_eq,
    checkRun_of_config verbosity quiet h.config_eq', configuredRun, configuredRun, hrun, hrun',
    Script.answerBy_congr h.answer_eq]
  exact sameButLog_after _ _ _

/-! ## The environment -/

/-- The options of a check when the variable of the environment names this schema, if any. -/
def CheckOptions.inEnvironment (environment : Option String) (o : CheckOptions) : CheckOptions :=
  { o with schema := if o.schema = none then environment else o.schema }

/-- Complete arguments when the variable of the environment names this schema, if any. -/
def Draft.inEnvironment (environment : Option String) (d : Draft) : Draft :=
  { d with
    options :=
      match environment with
      | some path =>
        if d.value? .schema = none then d.options ++ [(.schema, path)] else d.options
      | none => d.options }

theorem ok_bind {α β : Type} (a : α) (f : α → Except Stop β) : (Except.ok a >>= f) = f a := rfl

theorem lookup_append_of_ne {name key : OptionName} (options : List (OptionName × String))
    (path : String) (h : (name == key) = false) :
    (options ++ [(key, path)]).lookup name = options.lookup name := by
  rw [List.lookup_append, List.lookup_cons, h, List.lookup_nil, Option.or_none]

/-- The variable adds a schema to the options and nothing else. -/
theorem request_inEnvironment (environment : Option String) {d : Draft} {o : CheckOptions}
    (h : d.request .check = .check o) :
    (d.inEnvironment environment).request .check = .check (o.inEnvironment environment) := by
  obtain rfl := Request.check.inj h
  cases environment with
  | none =>
    simp only [Draft.inEnvironment, CheckOptions.inEnvironment, Draft.request]
    cases d.value? .schema <;> rfl
  | some path =>
    simp only [Draft.inEnvironment, CheckOptions.inEnvironment]
    cases hschema : d.value? .schema with
    | some given => simp [Draft.request, hschema]
    | none =>
      have hfound : (d.options ++ [(OptionName.schema, path)]).lookup .schema = some path := by
        rw [List.lookup_append, ← Draft.value?, hschema]
        rfl
      have hdisable : ((d.options ++ [(OptionName.schema, path)]).filter (·.1 == .disable)) =
          d.options.filter (·.1 == .disable) := by
        rw [List.filter_append]
        exact List.append_nil _
      simp only [Draft.request, Draft.values, Draft.value?, if_true, hfound, hdisable,
        lookup_append_of_ne d.options path (rfl : (OptionName.query == .schema) = false),
        lookup_append_of_ne d.options path (rfl : (OptionName.config == .schema) = false),
        lookup_append_of_ne d.options path (rfl : (OptionName.format == .schema) = false)]

/-- The arguments of a check that are complete without the environment are complete with it. -/
theorem complete_check_eq {environment : Option String} {d e : Draft} (hne : environment ≠ some "")
    (h : d.complete .check none = .ok e) :
    d.complete .check environment = .ok (e.inEnvironment environment) := by
  rw [Draft.complete] at h ⊢
  cases hsettle : d.settle (some .check) with
  | error stop => rw [hsettle] at h; cases h
  | ok d' =>
    rw [hsettle] at h
    obtain rfl : d' = e := Except.ok.inj h
    cases environment with
    | none => rfl
    | some path =>
      -- a check needs no operands, so nothing can be missing
      have hneeded : ¬d'.operands.length < CommandName.check.neededOperands := Nat.not_lt_zero _
      have hschemas : CommandName.check.needsSchema = false := rfl
      have htakes : CommandName.check.options.contains .schema = true := rfl
      have haccepts : OptionName.schema.accepts path = true :=
        bne_iff_ne.2 fun hempty => hne (congrArg some hempty)
      simp only [ok_bind, htakes, hschemas, Bool.true_and, Bool.false_and, Bool.or_false,
        decide_eq_true_iff, Draft.inEnvironment, Draft.addValue]
      cases hschema : d'.value? .schema with
      | some given =>
        simp only [Option.isNone_some, if_neg hneeded, reduceCtorEq, if_false]
        rfl
      | none =>
        simp only [Option.isNone_none, Option.isSome_none, Bool.and_false, if_true,
          if_neg Bool.false_ne_true, haccepts, ok_bind, if_neg hneeded]
        rfl

/-- So are whole command lines. -/
theorem readProgram_check {environment : Option String} {verbosity : Nat} {quiet : Bool}
    (hne : environment ≠ some "") {d : Draft} {arguments : List String}
    (h : readProgram none d arguments = .ok ⟨verbosity, quiet, .check o⟩) :
    readProgram environment d arguments =
      .ok ⟨verbosity, quiet, .check (o.inEnvironment environment)⟩ := by
  induction arguments generalizing d with
  | nil => cases h
  | cons s rest ih =>
    rw [readProgram] at h ⊢
    cases hname : (if d.escaped then none else CommandName.ofName? s) with
    | none =>
      simp only [hname] at h ⊢
      split at h
      next => cases h
      next hword =>
        rw [if_neg hword]
        cases htake : d.take none s with
        | error stop => rw [htake] at h; cases h
        | ok d' =>
          rw [htake] at h
          exact ih h
    | some command =>
      simp only [hname] at h ⊢
      cases hread : readCommand command none rest with
      | error stop => rw [hread] at h; cases h
      | ok inner =>
        rw [hread, ok_bind] at h
        obtain ⟨hverbosity, hquiet, hrequest⟩ := Invocation.mk.inj (Except.ok.inj h)
        obtain rfl : command = .check := by
          cases command with
          | check => rfl
          | _ => cases hrequest
        rw [readCommand] at hread
        cases htake : rest.foldlM (Draft.take (some .check)) .empty with
        | error stop => rw [htake] at hread; cases hread
        | ok d' =>
          rw [htake, ok_bind] at hread
          rw [readCommand, htake, ok_bind, complete_check_eq hne hread, ok_bind,
            request_inEnvironment environment hrequest, ← hverbosity, ← hquiet]
          rfl

/-! ## Configurations and environment -/

/-- A check with a configuration ends in the same way, puts out the same and says the same as one
whose arguments spell out what the configuration says and they leave out; records of how the
configuration was found are the only difference.  A schema that the environment names is an argument
like one that is given. -/
theorem checkRun_fillIn {quiet : Bool} (verbosity : Nat)
    (h : IsFilledIn answer answer' quiet c o o') :
    SameButLog (configRecords answer o) (configRecords answer' o')
        (checkRun answer verbosity quiet o) (checkRun answer' verbosity quiet o') ∧
      ∀ (environment : Option String) (arguments : List String) (given : CheckOptions),
        environment ≠ some "" →
          Invocation.ofArguments none arguments = .ok ⟨verbosity, quiet, .check given⟩ →
            Invocation.ofArguments environment arguments =
              .ok ⟨verbosity, quiet, .check (given.inEnvironment environment)⟩ :=
  ⟨sameButLog_of_isFilledIn verbosity h,
    fun _ _ _ hne harguments => readProgram_check hne harguments⟩

/-- A file system with a query, a configuration, and one that says nothing. -/
def configuredFiles : (q : Question) → Answer q
  | .kind path => if path = "/sqlscout.toml" then some .file else none
  | .text path =>
    if path = "/sqlscout.toml" then
      .ok "files = ['b.sql']\nformat = 'json'\ndisable = ['W0006']"
    else if path = "empty.toml" then .ok ""
    else if path = "b.sql" then .ok "SELECT b FROM t"
    else .error .notFound
  | .names _ => none
  | .workingDirectory => "/"

/-- Options that leave the query and the format to the configuration, but not what is disabled. -/
def sparseOptions : CheckOptions := ⟨[], none, none, none, ["E0001"], none⟩

/-- The same options with everything spelled out. -/
def spelledOutOptions : CheckOptions :=
  ⟨["b.sql"], none, none, some "empty.toml", ["E0001"], some .json⟩

/-- The two runs say the same, and the first is what a command line asks for.  With a schema in the
environment the command line asks for that schema besides. -/
theorem checkRun_sparseOptions :
    SameButLog [configRecord "/sqlscout.toml"] []
        (checkRun configuredFiles 0 false sparseOptions)
        (checkRun configuredFiles 0 false spelledOutOptions) ∧
      Invocation.ofArguments none ["check", "--disable", "E0001"] =
        .ok ⟨0, false, .check sparseOptions⟩ ∧
      Invocation.ofArguments (some "s.json") ["check", "--disable", "E0001"] =
        .ok ⟨0, false, .check { sparseOptions with schema := some "s.json" }⟩ := by
  have hfilled : IsFilledIn configuredFiles configuredFiles false
      ⟨none, ["b.sql"], some "json", ["W0006"]⟩ sparseOptions spelledOutOptions :=
    ⟨by decide +kernel, by decide +kernel, rfl, fun _ _ => rfl⟩
  have harguments : Invocation.ofArguments none ["check", "--disable", "E0001"] =
      .ok ⟨0, false, .check sparseOptions⟩ := by decide +kernel
  obtain ⟨hruns, henvironment⟩ := checkRun_fillIn 0 hfilled
  have hfound : configRecords configuredFiles sparseOptions = [configRecord "/sqlscout.toml"] :=
    rfl
  rw [hfound] at hruns
  exact ⟨hruns, harguments, henvironment (some "s.json") _ _ (by decide) harguments⟩

end Command

end QueryLint
