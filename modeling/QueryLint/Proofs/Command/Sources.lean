import QueryLint.Command.Run
import QueryLint.Command.Transcript
import QueryLint.Proofs.InStep

/-!
# What a check works on

Before anything is reported a check has put together its configuration, its schema and its queries,
and any of these steps can be the last.  A run that gets past them works on a `CheckSetup`, and from
there on nothing can fail.

* `IsGathered`: the queries, the one on the command line first and then the files in the order of
  the patterns that lead to them.
* `CheckSetup.IsFor`: what options come to on a file system.
* `exists_isFor_of_outcome`, `exists_after_report_of_isFor`: runs that are not fatal.
-/

namespace QueryLint.Command

open Schema (Model)

variable {answer : (q : Question) → Answer q} {o : CheckOptions}

/-! ## Queries -/

/-- The paths that a pattern leads to; what has no asterisk is the path of a file. -/
def pathsOf (answer : (q : Question) → Answer q) (pattern : String) :
    Except Glob.Fault (List String) :=
  if pattern.contains '*' then (Glob.expand pattern).answerBy answer else .ok [pattern]

/-- The query on the command line, if there is one. -/
def inlineSource (o : CheckOptions) : List Source :=
  (o.query.map fun text => ⟨inlineName, text⟩).toList

/-- The queries that options come to on a file system. -/
inductive IsGathered (answer : (q : Question) → Answer q) (o : CheckOptions) : List Source → Prop
  | mk {files : List Source}
      (hpaths : Blocks (fun pattern part => pathsOf answer pattern = .ok part) o.files
        (files.map Source.name))
      (htexts : ∀ s ∈ files, answer (.text s.name) = .ok s.text) :
      IsGathered answer o (inlineSource o ++ files)

theorem answerBy_expandPatterns_cons (answer : (q : Question) → Answer q) (pattern : String)
    (patterns : List String) :
    (expandPatterns (pattern :: patterns)).answerBy answer =
      match pathsOf answer pattern with
      | .error fault => .error (.pattern fault)
      | .ok part => ((expandPatterns patterns).answerBy answer).map (part ++ ·) := by
  rw [expandPatterns, pathsOf]
  by_cases hpattern : pattern.contains '*' = true
  · simp only [if_pos hpattern, Script.answerBy_bind]
    cases (Glob.expand pattern).answerBy answer with
    | error fault => rfl
    | ok part => simp
  · simp only [if_neg hpattern, Script.answerBy_bind, Script.answerBy_pure]

theorem answerBy_expandPatterns_eq_ok_iff {patterns paths : List String} :
    (expandPatterns patterns).answerBy answer = .ok paths ↔
      Blocks (fun pattern part => pathsOf answer pattern = .ok part) patterns paths := by
  induction patterns generalizing paths with
  | nil =>
    constructor
    · intro h
      obtain rfl := Except.ok.inj h
      exact .nil
    · rintro ⟨⟩
      rfl
  | cons pattern patterns ih =>
    rw [answerBy_expandPatterns_cons]
    constructor
    · intro h
      cases hpart : pathsOf answer pattern with
      | error fault => rw [hpart] at h; cases h
      | ok part =>
        rw [hpart] at h
        cases hrest : (expandPatterns patterns).answerBy answer with
        | error f => simp only [hrest] at h; cases h
        | ok rest =>
          simp only [hrest] at h
          obtain rfl := Except.ok.inj h
          exact .cons hpart (ih.1 hrest)
    · rintro ⟨⟩
      rename_i part rest hpart hrest
      simp only [hpart, ih.2 hrest]
      rfl

theorem answerBy_readSources_cons (answer : (q : Question) → Answer q) (path : String)
    (paths : List String) :
    (readSources (path :: paths)).answerBy answer =
      match answer (.text path) with
      | .error failure => .error (.unreadable failure)
      | .ok text => ((readSources paths).answerBy answer).map (⟨path, text⟩ :: ·) := by
  rw [readSources, Script.answerBy_bind, Script.answerBy_textOf]
  cases answer (.text path) with
  | error failure => rfl
  | ok text => simp

theorem answerBy_readSources_eq_ok_iff {paths : List String} {sources : List Source} :
    (readSources paths).answerBy answer = .ok sources ↔
      sources.map Source.name = paths ∧ ∀ s ∈ sources, answer (.text s.name) = .ok s.text := by
  induction paths generalizing sources with
  | nil =>
    constructor
    · intro h
      obtain rfl := Except.ok.inj h
      exact ⟨rfl, List.forall_mem_nil _⟩
    · rintro ⟨h, -⟩
      obtain rfl := List.map_eq_nil_iff.1 h
      rfl
  | cons path paths ih =>
    rw [answerBy_readSources_cons]
    constructor
    · intro h
      cases htext : answer (.text path) with
      | error failure => rw [htext] at h; cases h
      | ok text =>
        rw [htext] at h
        cases hrest : (readSources paths).answerBy answer with
        | error f => simp only [hrest] at h; cases h
        | ok rest =>
          simp only [hrest] at h
          obtain rfl := Except.ok.inj h
          obtain ⟨hnames, htexts⟩ := ih.1 hrest
          exact ⟨congrArg (path :: ·) hnames, List.forall_mem_cons.2 ⟨htext, htexts⟩⟩
    · rintro ⟨hnames, htexts⟩
      obtain ⟨s, rest, rfl, rfl, hrest⟩ := List.map_eq_cons_iff.1 hnames
      obtain ⟨htext, htexts⟩ := List.forall_mem_cons.1 htexts
      simp only [htext, ih.2 ⟨hrest, htexts⟩]
      rfl

/-- A run gets past its queries if there are any, and all of them can be found and read. -/
theorem answerBy_gatherSources_eq_ok_iff {sources : List Source} :
    (gatherSources o).answerBy answer = .ok sources ↔
      IsGathered answer o sources ∧ sources ≠ [] := by
  have hgather : (gatherSources o).answerBy answer =
      (((expandPatterns o.files).answerBy answer).bind fun paths =>
        ((readSources paths).answerBy answer).bind fun files =>
          if (inlineSource o ++ files).isEmpty then .error .noQueries
          else .ok (inlineSource o ++ files)) := by
    rw [gatherSources, Script.answerBy_bind]
    cases (expandPatterns o.files).answerBy answer with
    | error f => rfl
    | ok paths =>
      simp only [Script.answerBy_bind, Except.bind]
      cases (readSources paths).answerBy answer with
      | error f => rfl
      | ok files => rfl
  rw [hgather]
  constructor
  · intro h
    cases hpaths : (expandPatterns o.files).answerBy answer with
    | error f => rw [hpaths] at h; cases h
    | ok paths =>
      rw [hpaths] at h
      cases hfiles : (readSources paths).answerBy answer with
      | error f => simp only [Except.bind, hfiles] at h; cases h
      | ok files =>
        simp only [Except.bind, hfiles] at h
        obtain ⟨rfl, htexts⟩ := answerBy_readSources_eq_ok_iff.1 hfiles
        by_cases hempty : (inlineSource o ++ files).isEmpty = true
        · rw [if_pos hempty] at h; cases h
        · rw [if_neg hempty] at h
          obtain rfl := Except.ok.inj h
          refine ⟨.mk (answerBy_expandPatterns_eq_ok_iff.1 hpaths) htexts, ?_⟩
          rwa [List.isEmpty_iff] at hempty
  · rintro ⟨⟨hpaths, htexts⟩, hne⟩
    rename_i files
    have hfiles := answerBy_readSources_eq_ok_iff.2 ⟨rfl, htexts⟩
    simp only [answerBy_expandPatterns_eq_ok_iff.2 hpaths, Except.bind, hfiles]
    rw [if_neg (mt List.isEmpty_iff.1 hne)]

/-! ## Setups -/

/-- The schema at a path, if there is one that loads. -/
def loadedSchema (answer : (q : Question) → Answer q) (path : Option String) : Option Model :=
  path.bind fun path => ((Schema.load path).answerBy answer).toOption.map Schema.Builder.model

/-- What a check works on. -/
structure CheckSetup where
  sources : List Source
  schema : Option Model
  /-- The codes of complaints that are left out. -/
  disable : List String
  format : Format

/-- The setup that options come to on a file system.  The configuration says what they leave out. -/
inductive CheckSetup.IsFor (answer : (q : Question) → Answer q) (o : CheckOptions) :
    CheckSetup → Prop
  | mk {c : Config} {sources : List Source} (hconfig : ((loadConfig o).answerBy answer).2 = .ok c)
      (hsources : IsGathered answer (c.complete o) sources) (hne : sources ≠ []) :
      IsFor answer o
        ⟨sources, loadedSchema answer (c.complete o).schema, (c.complete o).disable,
          o.format.getD c.outputFormat⟩

/-- Options come to one setup only. -/
theorem CheckSetup.IsFor.unique {u u' : CheckSetup} (h : IsFor answer o u)
    (h' : IsFor answer o u') : u = u' := by
  obtain @⟨c, sources, hconfig, hgathered, hne⟩ := h
  obtain @⟨c', sources', hconfig', hgathered', hne'⟩ := h'
  rw [hconfig] at hconfig'
  obtain rfl := Except.ok.inj hconfig'
  have hsources := answerBy_gatherSources_eq_ok_iff.2 ⟨hgathered, hne⟩
  rw [answerBy_gatherSources_eq_ok_iff.2 ⟨hgathered', hne'⟩] at hsources
  obtain rfl := Except.ok.inj hsources
  rfl

/-- An event that is not output. -/
def IsSilent (e : Event) : Prop := e.outputText = ""

theorem isSilent_of_mem_recordEvents {rs : List Log.Record} {e : Event}
    (h : e ∈ recordEvents rs) : IsSilent e := by
  obtain ⟨r, -, rfl⟩ := List.mem_map.1 h
  rfl

theorem answerBy_loadOptional (answer : (q : Question) → Answer q) (quiet : Bool)
    (path : Option String) :
    ((loadOptional quiet path).answerBy answer).2 = loadedSchema answer path ∧
      ∀ e ∈ ((loadOptional quiet path).answerBy answer).1, IsSilent e := by
  cases path with
  | none => exact ⟨rfl, List.forall_mem_nil _⟩
  | some path =>
    have hloaded : loadedSchema answer (some path) =
        ((Schema.load path).answerBy answer).toOption.map Schema.Builder.model := rfl
    rw [hloaded, loadOptional, Script.answerBy_bind]
    cases (Schema.load path).answerBy answer with
    | error failure => exact ⟨rfl, List.forall_mem_singleton.2 rfl⟩
    | ok b =>
      refine ⟨rfl, fun e he => ?_⟩
      rcases List.mem_append.1 he with he | he
      · exact isSilent_of_mem_recordEvents he
      · split at he
        · exact absurd he List.not_mem_nil
        · obtain rfl := List.mem_singleton.1 he
          rfl

theorem isSilent_of_mem_loadConfig {e : Event} (h : e ∈ ((loadConfig o).answerBy answer).1) :
    IsSilent e := by
  rw [loadConfig] at h
  cases hconfig : o.config with
  | some path =>
    simp only [hconfig, Script.answerBy_bind, Script.answerBy_pure] at h
    exact absurd h List.not_mem_nil
  | none =>
    simp only [hconfig, Script.answerBy_bind] at h
    cases hnearest : nearestConfig?.answerBy answer with
    | some path =>
      simp only [hnearest, Script.answerBy_bind, Script.answerBy_pure] at h
      obtain rfl := List.mem_singleton.1 h
      rfl
    | none =>
      simp only [hnearest, Script.answerBy_pure] at h
      exact absurd h List.not_mem_nil

/-! ## Runs that are not fatal -/

/-- The report on a setup. -/
def CheckSetup.report (u : CheckSetup) (quiet : Bool) : Run :=
  Command.report quiet u.schema u.format (u.sources.map (checkSource u.schema u.disable))

theorem answerBy_runCheck (answer : (q : Question) → Answer q) (quiet : Bool) (o : CheckOptions) :
    (runCheck quiet o).answerBy answer =
      match (gatherSources o).answerBy answer with
      | .error f => .failed ((loadOptional quiet o.schema).answerBy answer).1 f
      | .ok sources =>
        (CheckSetup.report ⟨sources, loadedSchema answer o.schema, o.disable,
          o.format.getD .human⟩ quiet).after ((loadOptional quiet o.schema).answerBy answer).1 := by
  obtain ⟨hschema, -⟩ := answerBy_loadOptional answer quiet o.schema
  rw [← hschema, runCheck]
  simp only [Script.answerBy_bind]
  cases (gatherSources o).answerBy answer <;> rfl

theorem answerBy_runConfiguredCheck (answer : (q : Question) → Answer q) (quiet : Bool)
    (o : CheckOptions) :
    (runConfiguredCheck quiet o).answerBy answer =
      match ((loadConfig o).answerBy answer).2 with
      | .error failure => .failed ((loadConfig o).answerBy answer).1 (.config failure)
      | .ok c =>
        ((runCheck quiet (c.complete o)).answerBy answer).after
          ((loadConfig o).answerBy answer).1 := by
  rw [runConfiguredCheck]
  simp only [Script.answerBy_bind]
  cases ((loadConfig o).answerBy answer).2 <;> simp

/-- A run that is not fatal works on some setup. -/
theorem exists_isFor_of_outcome {quiet b : Bool}
    (h : ((runConfiguredCheck quiet o).answerBy answer).outcome = .ok b) :
    ∃ u, CheckSetup.IsFor answer o u := by
  rw [answerBy_runConfiguredCheck] at h
  cases hconfig : ((loadConfig o).answerBy answer).2 with
  | error failure => rw [hconfig] at h; cases h
  | ok c =>
    simp only [hconfig, Run.outcome_after, answerBy_runCheck] at h
    cases hsources : (gatherSources (c.complete o)).answerBy answer with
    | error f => rw [hsources] at h; cases h
    | ok sources =>
      obtain ⟨hgathered, hne⟩ := answerBy_gatherSources_eq_ok_iff.1 hsources
      exact ⟨_, .mk hconfig hgathered hne⟩

/-- A run on a setup reports on it, and has put nothing out before. -/
theorem exists_after_report_of_isFor {u : CheckSetup} (quiet : Bool)
    (h : CheckSetup.IsFor answer o u) :
    ∃ events, (∀ e ∈ events, IsSilent e) ∧
      (runConfiguredCheck quiet o).answerBy answer = (u.report quiet).after events := by
  obtain @⟨c, sources, hconfig, hgathered, hne⟩ := h
  have hsources := answerBy_gatherSources_eq_ok_iff.2 ⟨hgathered, hne⟩
  refine ⟨((loadConfig o).answerBy answer).1 ++
    ((loadOptional quiet (c.complete o).schema).answerBy answer).1, ?_, ?_⟩
  · intro e he
    rcases List.mem_append.1 he with he | he
    · exact isSilent_of_mem_loadConfig he
    · exact (answerBy_loadOptional answer quiet _).2 e he
  · rw [answerBy_runConfiguredCheck, hconfig]
    simp only [answerBy_runCheck, hsources]
    simp only [Run.after, List.append_assoc]
    rfl

/-- Options that differ in nothing but their queries come to setups that differ in nothing else. -/
theorem CheckSetup.IsFor.eq_of_same {u u' : CheckSetup} {o' : CheckOptions}
    (h : IsFor answer o u) (h' : IsFor answer o' u')
    (hsame : o' = { o with query := o'.query, files := o'.files }) :
    u' = { u with sources := u'.sources } := by
  obtain @⟨c, sources, hconfig, -, -⟩ := h
  obtain @⟨c', sources', hconfig', -, -⟩ := h'
  have hload : loadConfig o' = loadConfig o := by
    rw [hsame]
    rfl
  rw [hload, hconfig] at hconfig'
  obtain rfl := Except.ok.inj hconfig'
  rw [hsame]
  rfl

end QueryLint.Command
