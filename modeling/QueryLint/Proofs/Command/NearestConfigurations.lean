import Mathlib.Data.List.Infix
import QueryLint.Proofs.Command.Configurations
import QueryLint.Proofs.Files.Paths

/-!
# The nearest configuration

Without an argument that names one, a configuration is looked for in the working directory, then in
the directory around it, and so on up to the root.  The search ends at the first directory in which
an entry of the right name is found, whatever this entry is.  If it is a directory, or a file that
is no configuration, the run ends; nothing farther out is looked at, so that no other configuration
is used in its place.

To be found is more than to be there.  The search asks for paths from the root, so it finds nothing
at a path that is too long for the system, even where the file could be read from the working
directory; and it finds nothing at an entry that has nothing behind it, such as a link that leads
nowhere.  It passes over both of them.

The working directory is given by its names, and the search is about its prefixes.

* `configAt?`, `foundConfigAt?`: the entry of a directory that has the name of a configuration, and
  this entry if it is found.
* `IsInnermost`: the innermost of such entries, if there is one.
* `searchQuestions`: what is asked on the way to it.
* `checkRun_nearestConfig`: what a run asks, which configuration it uses, and how it ends.
* `loadConfig_passesOver`: entries that are there and not found.
-/

namespace QueryLint

namespace Script

variable {α β : Type} (answer : (q : Question) → Answer q)

@[simp] theorem asked_pure (a : α) : (pure a : Script α).asked answer = [] := rfl

@[simp] theorem asked_bind (p : Script α) (f : α → Script β) :
    (p >>= f).asked answer = p.asked answer ++ (f (p.answerBy answer)).asked answer := by
  show (p.bind f).asked answer = _
  induction p with
  | done a => rfl
  | ask q next ih => exact congrArg (q :: ·) (ih (answer q))

@[simp] theorem asked_isPresent (path : String) :
    (isPresent path).asked answer = [.kind path] := rfl

@[simp] theorem asked_textOf (path : String) : (textOf path).asked answer = [.text path] := rfl

@[simp] theorem asked_workingDirectory :
    workingDirectory.asked answer = [.workingDirectory] := rfl

end Script

namespace Command

/-! ## What is to be found -/

/-- The path at which a directory has its configuration. -/
def configPath (directory : List String) : String := FileTree.pathOf (directory ++ [configName])

/-- The entry of a directory that has the name of a configuration. -/
def configAt? (root : FileTree) (directory : List String) : Option FileTree :=
  root.reach? (directory ++ [configName])

/-- This entry, if it is found at its path from the root.  The path can be too long for the system,
and the entry can have nothing behind it. -/
def foundConfigAt? (root : FileTree) (directory : List String) : Option FileTree :=
  if FileTree.IsTooLong (directory ++ [configName]) then none
  else (configAt? root directory).filter fun entry => entry.kind != .broken

/-- Of the working directory and those around it, this is the innermost with an entry; or none of
them has one. -/
inductive IsInnermost (entryAt? : List String → Option FileTree) (workingDirectory : List String) :
    Option (List String × FileTree) → Prop
  | found {directory : List String} {entry : FileTree} (hdirectory : directory <+: workingDirectory)
      (hentry : entryAt? directory = some entry)
      (hinner : ∀ inner, inner <+: workingDirectory → directory.length < inner.length →
        entryAt? inner = none) :
      IsInnermost entryAt? workingDirectory (some (directory, entry))
  | missing (hnone : ∀ directory, directory <+: workingDirectory → entryAt? directory = none) :
      IsInnermost entryAt? workingDirectory none

/-- What is asked for: each place from the working directory up to the one where an entry is found,
and then what this entry holds; or all places. -/
def searchQuestions (workingDirectory : List String) :
    Option (List String × FileTree) → List Question
  | some (directory, _) =>
    .workingDirectory ::
      ((fronts workingDirectory).filter fun d => directory.length ≤ d.length).map
        (fun d => .kind (configPath d)) ++ [.text (configPath directory)]
  | none => .workingDirectory :: (fronts workingDirectory).map fun d => .kind (configPath d)

/-- The configuration that is read, given what a file holds. -/
def Config.ofRead : Except ReadFailure String → Except ConfigFailure Config
  | .error failure => .error (.unreadable failure)
  | .ok text =>
    match Config.ofText? text with
    | some c => .ok c
    | none => .error .malformed

/-- The configuration of an entry; without one, that which says nothing. -/
def Config.ofNearest : Option (List String × FileTree) → Except ConfigFailure Config
  | some (_, entry) => Config.ofRead entry.text
  | none => .ok .empty

/-- What a check asks once it has looked for its configuration. -/
def laterQuestions (answer : (q : Question) → Answer q) (quiet : Bool) (o : CheckOptions) :
    Except ConfigFailure Config → List Question
  | .error _ => []
  | .ok c => (runCheck quiet (c.complete o)).asked answer

/-! ## Fronts -/

theorem mem_fronts {α : Type} {front as : List α} : front ∈ fronts as ↔ front <+: as := by
  have hinits : fronts as = as.inits.reverse := by
    induction as with
    | nil => rfl
    | cons a as ih => rw [fronts, ih, List.inits_cons, List.reverse_cons, List.map_reverse]
  rw [hinits, List.mem_reverse, List.mem_inits]

/-- The fronts become shorter. -/
theorem pairwise_fronts {α : Type} (as : List α) :
    (fronts as).Pairwise fun front front' => front'.length < front.length := by
  induction as with
  | nil => exact List.pairwise_singleton _ _
  | cons a as ih =>
    rw [fronts, List.pairwise_append, List.pairwise_map]
    refine ⟨ih.imp fun h => Nat.succ_lt_succ h, List.pairwise_singleton _ _, ?_⟩
    intro front hfront front' hfront'
    obtain ⟨rest, -, rfl⟩ := List.mem_map.1 hfront
    rw [List.mem_singleton.1 hfront']
    exact Nat.succ_pos _

/-! ## The search -/

/-- Something is found at a path. -/
def IsPresent (answer : (q : Question) → Answer q) (path : String) : Prop :=
  (Script.isPresent path).answerBy answer = true

/-- Some paths are asked about one behind the other until something is found at one of them. -/
inductive IsSearch (answer : (q : Question) → Answer q) (paths : List String) :
    Option String → List Question → Prop
  | found {front behind : List String} {path : String} (hpaths : paths = front ++ path :: behind)
      (hfront : ∀ p ∈ front, ¬IsPresent answer p) (hpath : IsPresent answer path) :
      IsSearch answer paths (some path) ((front ++ [path]).map Question.kind)
  | missing (hnone : ∀ p ∈ paths, ¬IsPresent answer p) :
      IsSearch answer paths none (paths.map Question.kind)

/-- At the first path nothing is found. -/
theorem IsSearch.cons {answer : (q : Question) → Answer q} {paths : List String} {path : String}
    {found : Option String} {asked : List Question} (h : IsSearch answer paths found asked)
    (hpath : ¬IsPresent answer path) :
    IsSearch answer (path :: paths) found (.kind path :: asked) := by
  cases h with
  | @found front behind p hpaths hfront hp =>
    have hcons : path :: paths = (path :: front) ++ p :: behind := by
      rw [hpaths, List.cons_append]
    exact .found hcons (List.forall_mem_cons.2 ⟨hpath, hfront⟩) hp
  | missing hnone => exact .missing (List.forall_mem_cons.2 ⟨hpath, hnone⟩)

theorem isSearch_firstPresent (answer : (q : Question) → Answer q) (paths : List String) :
    IsSearch answer paths ((firstPresent paths).answerBy answer)
      ((firstPresent paths).asked answer) := by
  induction paths with
  | nil => exact .missing (List.forall_mem_nil _)
  | cons path paths ih =>
    rw [firstPresent, Script.answerBy_bind, Script.asked_bind, Script.asked_isPresent]
    cases hpath : (Script.isPresent path).answerBy answer with
    | true =>
      have hpaths : path :: paths = [] ++ path :: paths := rfl
      exact .found hpaths (List.forall_mem_nil _) hpath
    | false => exact ih.cons (Bool.eq_false_iff.1 hpath)

/-! ## Directories -/

theorem isEntryName_configName : IsEntryName configName := by
  constructor <;> decide

section Directories

variable {root : FileTree} {workingDirectory directory : List String} {o : CheckOptions}

/-- If the path of the configuration in the working directory is not too long for the system, no
path on the way is. -/
theorem not_isTooLong_of_front (hdirectory : directory <+: workingDirectory)
    (hsize : ¬FileTree.IsTooLong (workingDirectory ++ [configName])) :
    ¬FileTree.IsTooLong (directory ++ [configName]) := by
  refine fun hlong => hsize ?_
  obtain ⟨rest, rfl⟩ := hdirectory
  rw [FileTree.IsTooLong, FileTree.toList_pathOf (by simp)] at hlong ⊢
  simp only [FileTree.pathChars, List.flatMap_append, Text.byteSize_append] at hlong ⊢
  omega

/-- An entry at a path that is not too long is found if there is anything behind it. -/
theorem foundConfigAt?_eq (hsize : ¬FileTree.IsTooLong (directory ++ [configName]))
    (hkind : ∀ entry, configAt? root directory = some entry → entry.kind ≠ .broken) :
    foundConfigAt? root directory = configAt? root directory := by
  rw [foundConfigAt?, if_neg hsize]
  cases hentry : configAt? root directory with
  | none => rfl
  | some entry => rw [Option.filter_some, if_pos (bne_iff_ne.2 (hkind entry hentry))]

theorem IsInnermost.unique {entryAt? : List String → Option FileTree}
    {innermost innermost' : Option (List String × FileTree)}
    (h : IsInnermost entryAt? workingDirectory innermost)
    (h' : IsInnermost entryAt? workingDirectory innermost') : innermost = innermost' := by
  cases h with
  | @found d entry hdirectory hentry hinner =>
    cases h' with
    | @found d' entry' hdirectory' hentry' hinner' =>
      obtain rfl : d = d' := by
        rcases Nat.lt_trichotomy d.length d'.length with hlt | hsame | hlt
        · rw [hinner d' hdirectory' hlt] at hentry'
          cases hentry'
        · have hle : d <+: d' :=
            List.prefix_of_prefix_length_le hdirectory hdirectory' (Nat.le_of_eq hsame)
          exact hle.eq_of_length hsame
        · rw [hinner' d hdirectory hlt] at hentry
          cases hentry
      rw [hentry] at hentry'
      rw [Option.some.inj hentry']
    | missing hnone =>
      rw [hnone d hdirectory] at hentry
      cases hentry
  | missing hnone =>
    cases h' with
    | @found d entry hdirectory hentry _ =>
      rw [hnone d hdirectory] at hentry
      cases hentry
    | missing => rfl

/-- No entry is farther in than that of the working directory. -/
theorem isInnermost_self {entryAt? : List String → Option FileTree} {entry : FileTree}
    (hentry : entryAt? workingDirectory = some entry) :
    IsInnermost entryAt? workingDirectory (some (workingDirectory, entry)) :=
  .found List.prefix_rfl hentry fun _ hinner hlength =>
    absurd hlength (Nat.not_lt.2 hinner.length_le)

/-- Only the entries of the working directory and of those around it count. -/
theorem IsInnermost.congr {entryAt? entryAt?' : List String → Option FileTree}
    {innermost : Option (List String × FileTree)}
    (h : IsInnermost entryAt? workingDirectory innermost)
    (heq : ∀ directory, directory <+: workingDirectory →
      entryAt? directory = entryAt?' directory) :
    IsInnermost entryAt?' workingDirectory innermost := by
  cases h with
  | found hdirectory hentry hinner =>
    exact .found hdirectory (heq _ hdirectory ▸ hentry) fun inner hfront hlength =>
      heq inner hfront ▸ hinner inner hfront hlength
  | missing hnone =>
    exact .missing fun directory hfront => heq directory hfront ▸ hnone directory hfront

variable (hnames : ∀ n ∈ workingDirectory, IsEntryName n)

include hnames

/-- The places of configurations, from the working directory outwards. -/
theorem configPaths_pathOf :
    configPaths (FileTree.pathOf workingDirectory) = (fronts workingDirectory).map configPath := by
  rw [configPaths, FileTree.filter_parts_pathOf hnames]
  rfl

/-- At such a place there is the entry of the directory, unless the path is too long. -/
theorem filter_toOption_at?_configPath (hdirectory : directory <+: workingDirectory) :
    (root.at? workingDirectory (configPath directory)).toOption.filter
        (fun entry => entry.kind != .broken) = foundConfigAt? root directory := by
  have hall : ∀ n ∈ directory ++ [configName], IsEntryName n :=
    List.forall_mem_append.2 ⟨fun n hn => hnames n (hdirectory.subset hn),
      List.forall_mem_singleton.2 isEntryName_configName⟩
  rw [foundConfigAt?]
  by_cases hlong : FileTree.IsTooLong (directory ++ [configName])
  · rw [if_pos hlong, configPath, FileTree.toOption_at?_of_isTooLong workingDirectory hlong]
    rfl
  · rw [if_neg hlong, configPath,
      FileTree.toOption_at?_pathOf workingDirectory (by simp) hall hlong, configAt?]

theorem isPresent_iff (hdirectory : directory <+: workingDirectory) :
    IsPresent (root.answer workingDirectory) (configPath directory) ↔
      (foundConfigAt? root directory).isSome = true := by
  rw [← filter_toOption_at?_configPath hnames hdirectory, Option.isSome_filter, IsPresent,
    Script.answerBy_isPresent, FileTree.answer, Option.any_map]

theorem not_isPresent_iff (hdirectory : directory <+: workingDirectory) :
    ¬IsPresent (root.answer workingDirectory) (configPath directory) ↔
      foundConfigAt? root directory = none := by
  rw [isPresent_iff hnames hdirectory, Bool.not_eq_true, Option.isSome_eq_false_iff,
    Option.isNone_iff_eq_none]

theorem answer_text_eq {entry : FileTree} (hdirectory : directory <+: workingDirectory)
    (hentry : foundConfigAt? root directory = some entry) :
    root.answer workingDirectory (.text (configPath directory)) = entry.text := by
  rw [← filter_toOption_at?_configPath hnames hdirectory, Option.filter_eq_some_iff] at hentry
  exact FileTree.read_eq_text workingDirectory hentry.1

end Directories

/-! ## Loading -/

/-- A configuration file is read as a whole. -/
theorem read_eq_bind (path : String) :
    Config.read path = Script.textOf path >>= fun held => pure (Config.ofRead held) := by
  refine congrArg (Script.textOf path >>= ·) (funext fun held => ?_)
  cases held with
  | error failure => rfl
  | ok text => cases h : Config.ofText? text <;> simp only [Config.ofRead, h]

theorem answerBy_read (answer : (q : Question) → Answer q) (path : String) :
    (Config.read path).answerBy answer = Config.ofRead (answer (.text path)) := by
  rw [read_eq_bind, Script.answerBy_bind]
  rfl

theorem asked_read (answer : (q : Question) → Answer q) (path : String) :
    (Config.read path).asked answer = [.text path] := by
  rw [read_eq_bind, Script.asked_bind]
  rfl

/-- What a check asks: first for its configuration, and if it has one, for all the rest. -/
theorem asked_runConfiguredCheck (answer : (q : Question) → Answer q) (quiet : Bool)
    (o : CheckOptions) :
    (runConfiguredCheck quiet o).asked answer = (loadConfig o).asked answer ++
      laterQuestions answer quiet o ((loadConfig o).answerBy answer).2 := by
  rw [runConfiguredCheck, Script.asked_bind]
  cases hload : (loadConfig o).answerBy answer with
  | mk events config =>
    cases config with
    | error failure => rfl
    | ok c =>
      simp only [laterQuestions, Script.asked_bind, Script.asked_pure, List.append_nil]

section Loading

variable {answer : (q : Question) → Answer q} {o : CheckOptions} {path : String}

/-- A configuration that an argument names is read, and nothing is looked for. -/
theorem loadConfig_of_some (hconfig : o.config = some path) :
    (loadConfig o).asked answer = [.text path] ∧
      ((loadConfig o).answerBy answer).2 = Config.ofRead (answer (.text path)) := by
  simp only [loadConfig, hconfig, Script.asked_bind, Script.answerBy_bind, Script.asked_pure,
    Script.answerBy_pure, asked_read, answerBy_read, List.append_nil, and_self]

theorem loadConfig_of_found (hconfig : o.config = none)
    (hfound : nearestConfig?.answerBy answer = some path) :
    (loadConfig o).asked answer = nearestConfig?.asked answer ++ [.text path] ∧
      ((loadConfig o).answerBy answer).2 = Config.ofRead (answer (.text path)) := by
  simp only [loadConfig, hconfig, Script.asked_bind, Script.answerBy_bind, hfound,
    Script.asked_pure, Script.answerBy_pure, asked_read, answerBy_read, List.append_nil, and_self]

theorem loadConfig_of_missing (hconfig : o.config = none)
    (hfound : nearestConfig?.answerBy answer = none) :
    (loadConfig o).asked answer = nearestConfig?.asked answer ∧
      ((loadConfig o).answerBy answer).2 = .ok .empty := by
  simp only [loadConfig, hconfig, Script.asked_bind, Script.answerBy_bind, hfound,
    Script.asked_pure, Script.answerBy_pure, List.append_nil, and_self]

end Loading

/-- Of the fronts in front of one that is found, and this one itself, none is shorter. -/
theorem filter_fronts {α : Type} {as front : List α} {longer shorter : List (List α)}
    (h : fronts as = longer ++ front :: shorter) :
    (fronts as).filter (fun d => front.length ≤ d.length) = longer ++ [front] := by
  have hpairwise := pairwise_fronts as
  rw [h, List.pairwise_append, List.pairwise_cons] at hpairwise
  obtain ⟨-, ⟨hshorter, -⟩, hlonger⟩ := hpairwise
  have hleft : longer.filter (fun d => front.length ≤ d.length) = longer := by
    rw [List.filter_eq_self]
    exact fun d hd => decide_eq_true (Nat.le_of_lt (hlonger d hd front List.mem_cons_self))
  have hright : shorter.filter (fun d => front.length ≤ d.length) = [] := by
    rw [List.filter_eq_nil_iff]
    exact fun d hd hle => Nat.not_le.2 (hshorter d hd) (of_decide_eq_true hle)
  rw [h, List.filter_append, List.filter_cons_of_pos (by simp), hleft, hright]

/-- How a run goes on is settled by the configuration that it has loaded. -/
theorem endsByConfig {answer : (q : Question) → Answer q} {o : CheckOptions}
    {loaded : Except ConfigFailure Config} (verbosity : Nat) (quiet : Bool)
    (hloaded : ((loadConfig o).answerBy answer).2 = loaded) :
    (∀ failure, loaded = .error failure →
      (checkRun answer verbosity quiet o).outcome = .error (.config failure) ∧
        (checkRun answer verbosity quiet o).exitCode = 2) ∧
      ∀ c, loaded = .ok c → checkRun answer verbosity quiet o = configuredRun answer quiet o c := by
  refine ⟨fun failure hfailure => ?_, fun c hc => ?_⟩
  · rw [checkRun_of_config_error verbosity quiet (hloaded.trans hfailure)]
    exact ⟨rfl, rfl⟩
  · exact checkRun_of_config verbosity quiet (hloaded.trans hc)

section Nearest

variable {root : FileTree} {workingDirectory : List String} {o : CheckOptions}
  (hnames : ∀ n ∈ workingDirectory, IsEntryName n)

include hnames

/-- The search leads to the nearest configuration. -/
theorem exists_isInnermost (hconfig : o.config = none) :
    ∃ nearest, IsInnermost (foundConfigAt? root) workingDirectory nearest ∧
      (loadConfig o).asked (root.answer workingDirectory) =
        searchQuestions workingDirectory nearest ∧
      ((loadConfig o).answerBy (root.answer workingDirectory)).2 = Config.ofNearest nearest := by
  have hsearch := isSearch_firstPresent (root.answer workingDirectory)
    (configPaths (FileTree.pathOf workingDirectory))
  rw [configPaths_pathOf hnames] at hsearch
  have hasked : nearestConfig?.asked (root.answer workingDirectory) = .workingDirectory ::
      (firstPresent ((fronts workingDirectory).map configPath)).asked
        (root.answer workingDirectory) := by
    rw [← configPaths_pathOf hnames]
    rfl
  have hanswer : nearestConfig?.answerBy (root.answer workingDirectory) =
      (firstPresent ((fronts workingDirectory).map configPath)).answerBy
        (root.answer workingDirectory) := by
    rw [← configPaths_pathOf hnames]
    rfl
  generalize (firstPresent ((fronts workingDirectory).map configPath)).answerBy
    (root.answer workingDirectory) = found at hsearch hanswer
  generalize (firstPresent ((fronts workingDirectory).map configPath)).asked
    (root.answer workingDirectory) = asked at hsearch hasked
  cases hsearch with
  | @found front behind path hpaths hfront hpath =>
    obtain ⟨longer, rest, hsplit, rfl, hrest⟩ := List.map_eq_append_iff.1 hpaths
    obtain ⟨directory, shorter, rfl, rfl, rfl⟩ := List.map_eq_cons_iff.1 hrest
    obtain ⟨hquestions, hloaded⟩ := loadConfig_of_found hconfig hanswer
    have hdirectory : directory <+: workingDirectory :=
      mem_fronts.1 (by rw [hsplit]; exact List.mem_append_right _ List.mem_cons_self)
    obtain ⟨entry, hentry⟩ :=
      Option.isSome_iff_exists.1 ((isPresent_iff hnames hdirectory).1 hpath)
    refine ⟨some (directory, entry), .found hdirectory hentry fun inner hinner hlength => ?_,
      ?_, ?_⟩
    · -- a longer front has been asked about
      have hmem : inner ∈ (fronts workingDirectory).filter
          fun d => directory.length ≤ d.length :=
        List.mem_filter.2 ⟨mem_fronts.2 hinner, decide_eq_true (Nat.le_of_lt hlength)⟩
      rw [filter_fronts hsplit] at hmem
      rcases List.mem_append.1 hmem with hlonger | hsame
      · exact (not_isPresent_iff hnames hinner).1 (hfront _ (List.mem_map_of_mem hlonger))
      · rw [List.mem_singleton.1 hsame] at hlength
        exact absurd hlength (Nat.lt_irrefl _)
    · rw [hquestions, hasked, searchQuestions, filter_fronts hsplit]
      simp
    · rw [hloaded, answer_text_eq hnames hdirectory hentry]
      rfl
  | missing hnone =>
    obtain ⟨hquestions, hloaded⟩ := loadConfig_of_missing hconfig hanswer
    refine ⟨none, .missing fun directory hdirectory => ?_, ?_, hloaded⟩
    · have hmem := List.mem_map_of_mem (f := configPath) (mem_fronts.2 hdirectory)
      exact (not_isPresent_iff hnames hdirectory).1 (hnone _ hmem)
    · rw [hquestions, hasked, List.map_map]
      rfl

end Nearest

/-- A check without an argument for its configuration looks at the working directory and the
directories around it, from the inside out, until an entry with the right name is found, and reads
this one.  What it reads is the configuration; if it cannot be used, the run ends there.  If no such
entry is found, the configuration says nothing.  An entry that is there is found, unless its path is
too long or there is nothing behind it.  A check with an argument for its configuration reads that
and looks for no other. -/
theorem checkRun_nearestConfig {root : FileTree} {workingDirectory : List String}
    (hnames : ∀ n ∈ workingDirectory, IsEntryName n) (verbosity : Nat) (quiet : Bool)
    (o : CheckOptions) :
    let answer := root.answer workingDirectory
    (¬FileTree.IsTooLong (workingDirectory ++ [configName]) →
      (∀ directory entry, directory <+: workingDirectory →
        configAt? root directory = some entry → entry.kind ≠ .broken) →
      ∀ nearest, IsInnermost (foundConfigAt? root) workingDirectory nearest ↔
        IsInnermost (configAt? root) workingDirectory nearest) ∧
    (o.config = none → ∃ nearest,
      (∀ nearest', IsInnermost (foundConfigAt? root) workingDirectory nearest' ↔
        nearest' = nearest) ∧
        (runConfiguredCheck quiet o).asked answer = searchQuestions workingDirectory nearest ++
          laterQuestions answer quiet o (Config.ofNearest nearest) ∧
        (∀ failure, Config.ofNearest nearest = .error failure →
          (checkRun answer verbosity quiet o).outcome = .error (.config failure) ∧
            (checkRun answer verbosity quiet o).exitCode = 2) ∧
        ∀ c, Config.ofNearest nearest = .ok c →
          checkRun answer verbosity quiet o = configuredRun answer quiet o c) ∧
    ∀ path, o.config = some path →
      (runConfiguredCheck quiet o).asked answer = .text path ::
          laterQuestions answer quiet o (Config.ofRead (answer (.text path))) ∧
        (∀ failure, Config.ofRead (answer (.text path)) = .error failure →
          (checkRun answer verbosity quiet o).outcome = .error (.config failure) ∧
            (checkRun answer verbosity quiet o).exitCode = 2) ∧
        ∀ c, Config.ofRead (answer (.text path)) = .ok c →
          checkRun answer verbosity quiet o = configuredRun answer quiet o c := by
  intro answer
  refine ⟨fun hsize hkind nearest => ?_, fun hconfig => ?_, fun path hconfig => ?_⟩
  · have heq (directory : List String) (hdirectory : directory <+: workingDirectory) :
        foundConfigAt? root directory = configAt? root directory :=
      foundConfigAt?_eq (not_isTooLong_of_front hdirectory hsize) fun entry =>
        hkind directory entry hdirectory
    exact ⟨fun h => h.congr heq,
      fun h => h.congr fun directory hdirectory => (heq directory hdirectory).symm⟩
  · obtain ⟨nearest, hnearest, hasked, hloaded⟩ := exists_isInnermost hnames hconfig
    refine ⟨nearest, fun nearest' => ⟨fun h => h.unique hnearest, fun h => h ▸ hnearest⟩, ?_, ?_⟩
    · rw [asked_runConfiguredCheck, hasked, hloaded]
    · exact endsByConfig verbosity quiet hloaded
  · obtain ⟨hasked, hloaded⟩ := loadConfig_of_some hconfig
    refine ⟨?_, endsByConfig verbosity quiet hloaded⟩
    rw [asked_runConfiguredCheck, hasked, hloaded]
    rfl

/-- A configuration at the root, and a directory with the name of one farther in. -/
def coveredConfiguration : FileTree :=
  .directory
    [(configName, .file (some "format = 'json'")),
      ("q", .directory [(configName, .empty), ("r", .empty)])]

/-- In the innermost directory the run ends at the directory with the name of a configuration.  The
configuration at the root is not asked about, unless an argument names it. -/
theorem checkRun_coveredConfiguration :
    let answer := coveredConfiguration.answer ["q", "r"]
    let options : CheckOptions := ⟨[], some "SELECT 1", none, none, [], none⟩
    let named : CheckOptions := { options with config := some "../../sqlscout.toml" }
    (∀ n ∈ ["q", "r"], IsEntryName n) ∧
      IsInnermost (configAt? coveredConfiguration) ["q", "r"] (some (["q"], .empty)) ∧
      (checkRun answer 0 false options).outcome =
          .error (.config (.unreadable .isDirectory)) ∧
        (runConfiguredCheck false options).asked answer =
          [.workingDirectory, .kind "/q/r/sqlscout.toml", .kind "/q/sqlscout.toml",
            .text "/q/sqlscout.toml"] ∧
      checkRun answer 0 false named =
          configuredRun answer false named ⟨none, [], some "json", []⟩ ∧
        (runConfiguredCheck false named).asked answer = [.text "../../sqlscout.toml"] := by
  intro answer options named
  have hnames : ∀ n ∈ ["q", "r"], IsEntryName n := by
    refine List.forall_mem_cons.2 ⟨?_, List.forall_mem_singleton.2 ?_⟩
    all_goals constructor <;> decide
  have hfronts {directory : List String} (h : directory <+: ["q", "r"]) :
      directory = ["q", "r"] ∨ directory = ["q"] ∨ directory = [] := by
    simpa only [fronts, List.map_cons, List.map_nil, List.cons_append, List.nil_append,
      List.mem_cons, List.not_mem_nil, or_false] using mem_fronts.2 h
  have hnearest : IsInnermost (configAt? coveredConfiguration) ["q", "r"]
      (some (["q"], .empty)) := by
    refine .found ⟨["r"], rfl⟩ rfl fun inner hinner hlength => ?_
    rcases hfronts hinner with rfl | rfl | rfl
    · rfl
    · exact absurd hlength (by decide)
    · exact absurd hlength (by decide)
  have hkind : ∀ directory entry, directory <+: ["q", "r"] →
      configAt? coveredConfiguration directory = some entry → entry.kind ≠ .broken := by
    intro directory entry hdirectory hentry
    rcases hfronts hdirectory with rfl | rfl | rfl
    all_goals cases hentry
    all_goals decide
  obtain ⟨hsame, hsearch, -⟩ :=
    @checkRun_nearestConfig coveredConfiguration ["q", "r"] hnames 0 false options
  obtain ⟨nearest, hunique, hasked, hfailed, -⟩ := hsearch rfl
  obtain rfl := (hunique _).1 ((hsame (by decide) hkind _).2 hnearest)
  obtain ⟨-, -, hnamed⟩ :=
    @checkRun_nearestConfig coveredConfiguration ["q", "r"] hnames 0 false named
  obtain ⟨haskedNamed, -, hused⟩ := hnamed _ rfl
  exact ⟨hnames, hnearest, (hfailed (.unreadable .isDirectory) rfl).1,
    by rw [hasked]; decide, hused _ (by decide +kernel), by rw [haskedNamed]; decide +kernel⟩

/-! ## Entries that are passed over -/

/-- A configuration at the root, and farther in a link of that name that leads nowhere. -/
def linkedConfiguration : FileTree :=
  .directory
    [(configName, .file (some "disable = ['W0001']")),
      ("q", .directory [(configName, .closed .broken .notFound)])]

/-- A tree inside of directories that all have one name. -/
def nested (t : FileTree) : Nat → FileTree
  | 0 => t
  | depth + 1 => .directory [("d", nested t depth)]

theorem reach?_nested (t : FileTree) (depth : Nat) (names : List String) :
    (nested t depth).reach? (List.replicate depth "d" ++ names) = t.reach? names := by
  induction depth with
  | zero => rfl
  | succ depth ih =>
    rw [List.replicate_succ, List.cons_append, ← ih]
    rfl

/-- Farther out there is nothing but the next directory. -/
theorem configAt?_nested_of_lt (t : FileTree) {depth n : Nat} (h : n < depth) :
    configAt? (nested t depth) (List.replicate n "d") = none := by
  obtain ⟨k, rfl⟩ := Nat.exists_eq_add_of_lt h
  have hsplit : nested t (n + k + 1) = nested (nested t (k + 1)) n := by
    induction n with
    | zero => rw [Nat.zero_add]; rfl
    | succ n ih =>
      have hdepth : n + 1 + k + 1 = (n + k + 1) + 1 := by omega
      rw [hdepth, nested, ih (by omega)]
      rfl
  rw [configAt?, hsplit, reach?_nested]
  rfl

theorem walk_nested (t : FileTree) (depth : Nat) (outer : List FileTree) :
    ∃ trail, FileTree.walk (nested t depth :: outer) (List.replicate depth "d") =
      .ok (t :: trail) := by
  induction depth generalizing outer with
  | zero => exact ⟨outer, rfl⟩
  | succ depth ih => exact ih (nested t (depth + 1) :: outer)

theorem byteSize_configPath_replicate (n : Nat) :
    Text.byteSize (configPath (List.replicate n "d")).toList = 2 * n + 14 := by
  rw [configPath, FileTree.toList_pathOf (by simp), FileTree.pathChars, List.flatMap_append,
    Text.byteSize_append]
  induction n with
  | zero => rfl
  | succ n ih =>
    rw [List.replicate_succ, List.flatMap_cons, Text.byteSize_append]
    have hname : Text.byteSize ('/' :: "d".toList) = 2 := rfl
    omega

/-- A directory so far in that the path of its configuration is too long. -/
def farDirectory : List String := List.replicate 2043 "d"

/-- The only configuration of this tree is in that directory. -/
def farConfiguration : FileTree :=
  nested (.directory [(configName, .file (some "format = 'json'"))]) 2043

theorem foundConfigAt?_farConfiguration {directory : List String}
    (h : directory <+: farDirectory) : foundConfigAt? farConfiguration directory = none := by
  obtain ⟨hlength, hdirectory⟩ := List.prefix_replicate_iff.1 h
  generalize directory.length = n at hlength hdirectory
  subst hdirectory
  rw [foundConfigAt?]
  rcases Nat.lt_or_eq_of_le hlength with hlt | rfl
  · rw [farConfiguration, configAt?_nested_of_lt _ hlt]
    exact ite_self none
  · have hlong : FileTree.IsTooLong (List.replicate 2043 "d" ++ [configName]) := by
      rw [FileTree.IsTooLong, ← configPath, byteSize_configPath_replicate]
      decide
    exact if_pos hlong

/-- The innermost entry with the name of a configuration is not always the one that is used.  A link
that leads nowhere cannot be read, but the run goes on, and uses the configuration farther out.  A
file at a path that is too long can be read from its own directory, but the run uses none.  And when
an argument names the file that would have been found, this file is read all the same. -/
theorem loadConfig_passesOver :
    let options : CheckOptions := ⟨[], some "SELECT 1", none, none, [], none⟩
    let named : CheckOptions := { options with config := some configName }
    let link : List String × FileTree := (["q"], .closed .broken .notFound)
    (IsInnermost (configAt? linkedConfiguration) ["q"] (some link) ∧
      Config.ofNearest (some link) = .error (.unreadable .notFound) ∧
      ((loadConfig options).answerBy (linkedConfiguration.answer ["q"])).2 =
        .ok ⟨none, [], none, ["W0001"]⟩ ∧
      (checkRun (linkedConfiguration.answer ["q"]) 0 false options).exitCode = 0) ∧
    (IsInnermost (configAt? farConfiguration) farDirectory
        (some (farDirectory, .file (some "format = 'json'"))) ∧
      farConfiguration.answer farDirectory (.text configName) = .ok "format = 'json'" ∧
      ((loadConfig options).answerBy (farConfiguration.answer farDirectory)).2 = .ok .empty) ∧
    (runConfiguredCheck false named).asked (linkedConfiguration.answer []) = [.text configName] ∧
      ((loadConfig named).answerBy (linkedConfiguration.answer [])).2 =
        .ok ⟨none, [], none, ["W0001"]⟩ := by
  intro options named link
  refine ⟨⟨isInnermost_self rfl, rfl, by decide +kernel, by decide +kernel⟩,
    ⟨isInnermost_self ?_, ?_, ?_⟩, by decide +kernel, by decide +kernel⟩
  · rw [configAt?, farConfiguration, farDirectory, reach?_nested]
    rfl
  · obtain ⟨trail, hwalk⟩ :=
      walk_nested (.directory [(configName, .file (some "format = 'json'"))]) 2043 []
    have hat : farConfiguration.at? farDirectory configName =
        .ok (.file (some "format = 'json'")) := by
      have hstart : FileTree.walk [farConfiguration] farDirectory = .ok (_ :: trail) := hwalk
      rw [FileTree.at?, hstart]
      rfl
    rw [FileTree.answer, FileTree.read, hat]
  · have hnames : ∀ n ∈ farDirectory, IsEntryName n := fun n hn => by
      rw [List.eq_of_mem_replicate hn]
      constructor <;> decide
    obtain ⟨nearest, hnearest, -, hloaded⟩ :=
      @exists_isInnermost farConfiguration farDirectory options hnames rfl
    have hnone : IsInnermost (foundConfigAt? farConfiguration) farDirectory none :=
      .missing fun directory => foundConfigAt?_farConfiguration
    rw [hloaded, hnearest.unique hnone]
    rfl

end Command

end QueryLint
