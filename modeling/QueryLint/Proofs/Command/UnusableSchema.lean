import QueryLint.Proofs.Command.Events
import QueryLint.Proofs.Query.Independence

/-!
# Schemas that cannot be loaded

A check whose schema cannot be loaded is the check without a schema, and says once why it is.  It
does not matter what is wrong with the schema: nothing is kept of one that fails, so nothing of it
can get into the report, and the queries are looked for after it in either case, so what is fatal
stays fatal.

* `bareRun`: the run without a schema, whether the options or the configuration name one.
* `IsWithoutSchema`: options that come to the same, but name no schema.
* `check_of_load_error`: the run and the run without a schema; what becomes of the complaints.
-/

namespace QueryLint.Command

open Query (referenceKinds)
open Schema (Model)

variable {answer : (q : Question) → Answer q} {o : CheckOptions} {c : Config}
  {failure : Schema.LoadFailure}

/-! ## Runs without a schema -/

/-- The run that has the configuration `c`, but no schema. -/
def bareRun (answer : (q : Question) → Answer q) (quiet : Bool) (o : CheckOptions) (c : Config) :
    Run :=
  configuredRun answer quiet { o with schema := none } { c with schema := none }

/-- The file system `answer'` and the options `o'` come to what `answer` and `o` come to, but name
no schema. -/
structure IsWithoutSchema (answer : (q : Question) → Answer q) (o : CheckOptions) (c : Config)
    (answer' : (q : Question) → Answer q) (o' : CheckOptions) : Prop where
  options_eq : o' = { o with schema := none }
  config_eq : ((loadConfig o').answerBy answer').2 = .ok { c with schema := none }
  records_eq : configRecords answer' o' = configRecords answer o
  queries_eq : (gatherSources (c.complete o)).answerBy answer' =
    (gatherSources (c.complete o)).answerBy answer

/-- A run that names no schema is the run without one. -/
theorem IsWithoutSchema.checkRun_eq {answer' : (q : Question) → Answer q} {o' : CheckOptions}
    (h : IsWithoutSchema answer o c answer' o') (verbosity : Nat) (quiet : Bool) :
    checkRun answer' verbosity quiet o' = bareRun answer quiet o c := by
  obtain ⟨rfl, hconfig, hrecords, hqueries⟩ := h
  have hrecords' : configRecords answer' { o with schema := none } =
      configRecords answer { o with schema := none } := hrecords
  have hgather (answer : (q : Question) → Answer q) :
      (gatherSources (Config.complete { c with schema := none }
        { o with schema := none })).answerBy answer =
          (gatherSources (c.complete o)).answerBy answer := rfl
  rw [checkRun_of_config verbosity quiet hconfig, bareRun]
  cases hsources : (gatherSources (c.complete o)).answerBy answer with
  | error f =>
    rw [configuredRun_of_error quiet ((hgather answer').trans (hqueries.trans hsources)),
      configuredRun_of_error quiet ((hgather answer).trans hsources), setupEvents, setupEvents,
      hrecords']
    rfl
  | ok sources =>
    rw [configuredRun_of_ok quiet ((hgather answer').trans (hqueries.trans hsources)),
      configuredRun_of_ok quiet ((hgather answer).trans hsources), setupEvents, setupEvents,
      hrecords']
    rfl

/-! ## Runs that say why -/

/-- A schema that fails leaves its failure behind, and no schema. -/
theorem setupEvents_of_load_error {path : String} (quiet : Bool)
    (hschema : (c.complete o).schema = some path)
    (hload : (Schema.load path).answerBy answer = .error failure) :
    setupEvents answer quiet o c = setupEvents answer quiet { o with schema := none }
        { c with schema := none } ++ [.withoutSchema failure] ∧
      loadedSchema answer (c.complete o).schema = none := by
  have hrecords : configRecords answer { o with schema := none } = configRecords answer o := rfl
  have hnone : (Config.complete { c with schema := none } { o with schema := none }).schema =
      none := rfl
  constructor
  · rw [setupEvents, setupEvents, hnone, hrecords, hschema]
    simp only [schemaEvents, schemaWarnings, hload]
    cases quiet <;> simp [noticeLines]
  · rw [hschema]
    simp only [loadedSchema, Option.bind_some, hload]
    rfl

theorem addsLines_configuredRun {path : String} (quiet : Bool)
    (hschema : (c.complete o).schema = some path)
    (hload : (Schema.load path).answerBy answer = .error failure) :
    AddsLines (configuredRun answer quiet o c) (bareRun answer quiet o c)
      (narrateLoadFailure failure) [] := by
  obtain ⟨hevents, hloaded⟩ := setupEvents_of_load_error quiet hschema hload
  have hgather : (gatherSources (Config.complete { c with schema := none }
      { o with schema := none })).answerBy answer =
        (gatherSources (c.complete o)).answerBy answer := rfl
  have hadds (run : Run) (front : List Event) :
      AddsLines (run.after (front ++ [.withoutSchema failure])) (run.after front)
        (narrateLoadFailure failure) [] :=
    (addsLines_refl run).after front (List.forall_mem_singleton.2 rfl) fun _ =>
      List.flatMap_singleton _ _
  rw [bareRun]
  cases hsources : (gatherSources (c.complete o)).answerBy answer with
  | error f =>
    rw [configuredRun_of_error quiet hsources,
      configuredRun_of_error quiet (hgather.trans hsources), hevents, Run.failed_eq_after,
      Run.failed_eq_after (setupEvents ..)]
    exact hadds _ _
  | ok sources =>
    have hsetup : CheckSetup.of answer { o with schema := none } { c with schema := none } sources =
        CheckSetup.of answer o c sources := by
      rw [CheckSetup.of, CheckSetup.of, hloaded]
      rfl
    rw [configuredRun_of_ok quiet hsources, configuredRun_of_ok quiet (hgather.trans hsources),
      hevents, hsetup]
    exact hadds _ _

/-! ## Complaints -/

/-- Among the complaints about references that are kept without a schema is the one that there is no
schema, unless it is disabled, and no other one. -/
theorem filter_kept_mem_referenceKinds {u : CheckSetup} (h : u.schema = none) (s : Source) :
    (u.kept s).filter (fun d => d.kind ∈ referenceKinds) =
      if u.disable.contains "W0001" then [] else [Query.Finding.noSchema.diagnostic] := by
  have hcode : Query.Finding.noSchema.diagnostic.code = "W0001" := rfl
  rw [CheckSetup.kept, h, List.filter_comm, Query.filter_check_none]
  cases hdisabled : u.disable.contains "W0001" with
  | true =>
    rw [if_pos rfl, List.filter_cons_of_neg (by rw [hcode, hdisabled]; decide), List.filter_nil]
  | false =>
    rw [if_neg Bool.false_ne_true, List.filter_cons_of_pos (by rw [hcode, hdisabled]; decide),
      List.filter_nil]

/-- The other complaints that are kept are the same for all schemas. -/
theorem filter_kept_notMem_referenceKinds (u : CheckSetup) (schema : Option Model) (s : Source) :
    (u.kept s).filter (fun d => d.kind ∉ referenceKinds) =
      (CheckSetup.kept { u with schema := schema } s).filter
        (fun d => d.kind ∉ referenceKinds) := by
  have hcomm (schema : Option Model) :
      (CheckSetup.kept { u with schema := schema } s).filter (fun d => d.kind ∉ referenceKinds) =
        ((Query.check schema s.text).filter (fun d => d.kind ∉ referenceKinds)).filter
          (fun d => !u.disable.contains d.code) := List.filter_comm ..
  rw [hcomm schema, ← Query.filter_check_notMem_referenceKinds u.schema schema]
  exact hcomm u.schema

theorem CheckSetup.IsFor.schema_eq_none {u : CheckSetup} {path : String} (h : u.IsFor answer o)
    (hconfig : ((loadConfig o).answerBy answer).2 = .ok c)
    (hschema : (c.complete o).schema = some path)
    (hload : (Schema.load path).answerBy answer = .error failure) : u.schema = none := by
  obtain @⟨c', sources, hconfig', -, -⟩ := h
  rw [hconfig] at hconfig'
  obtain rfl := Except.ok.inj hconfig'
  exact (setupEvents_of_load_error false hschema hload).2

/-- A check whose schema cannot be loaded goes on as if it had none.  It ends in the same way, fatal
or not, and puts out the same; all that it says besides is why.  Of each query it says once that
there was no schema, unless that is disabled, and all that can be said without one. -/
theorem check_of_load_error {path : String} (verbosity : Nat) (quiet : Bool)
    (hconfig : ((loadConfig o).answerBy answer).2 = .ok c)
    (hschema : (c.complete o).schema = some path)
    (hload : (Schema.load path).answerBy answer = .error failure) :
    AddsLines (checkRun answer verbosity quiet o) (bareRun answer quiet o c)
        (narrateLoadFailure failure) [] ∧
      (∀ answer' o', IsWithoutSchema answer o c answer' o' →
        checkRun answer' verbosity quiet o' = bareRun answer quiet o c) ∧
      ∀ u : CheckSetup, u.IsFor answer o → ∀ s ∈ u.sources,
        (u.kept s).filter (fun d => d.kind ∈ referenceKinds) =
            (if u.disable.contains "W0001" then [] else [Query.Finding.noSchema.diagnostic]) ∧
          ∀ schema : Option Model,
            (u.kept s).filter (fun d => d.kind ∉ referenceKinds) =
              (CheckSetup.kept { u with schema := schema } s).filter
                (fun d => d.kind ∉ referenceKinds) := by
  refine ⟨?_, fun answer' o' h => h.checkRun_eq verbosity quiet, fun u hu s _ => ⟨?_, ?_⟩⟩
  · rw [checkRun_of_config verbosity quiet hconfig]
    exact addsLines_configuredRun quiet hschema hload
  · exact filter_kept_mem_referenceKinds (hu.schema_eq_none hconfig hschema hload) s
  · exact fun schema => filter_kept_notMem_referenceKinds u schema s

/-- A query on the command line, and a schema that is missing. -/
def missingSchema : CheckOptions := ⟨[], some "SELECT b FROM t", some "s.json", none, [], none⟩

/-- The run without the schema is the run of the program that does not name it. -/
theorem check_missingSchema :
    ((loadConfig missingSchema).answerBy oneFile).2 = .ok .empty ∧
      (Schema.load "s.json").answerBy oneFile = .error (.notFound "s.json") ∧
      AddsLines (checkRun oneFile 0 false missingSchema)
        (checkRun oneFile 0 false { missingSchema with schema := none })
        (narrateLoadFailure (.notFound "s.json")) [] := by
  have hload : (Schema.load "s.json").answerBy oneFile = .error (.notFound "s.json") := rfl
  have hconfig : ((loadConfig missingSchema).answerBy oneFile).2 = .ok .empty := rfl
  have hschema : (Config.empty.complete missingSchema).schema = some "s.json" := rfl
  obtain ⟨hadds, hbare, -⟩ := check_of_load_error 0 false hconfig hschema hload
  have hwithout : IsWithoutSchema oneFile missingSchema .empty oneFile
      { missingSchema with schema := none } := ⟨rfl, rfl, rfl, rfl⟩
  rw [hbare oneFile _ hwithout]
  exact ⟨hconfig, hload, hadds⟩

end QueryLint.Command
