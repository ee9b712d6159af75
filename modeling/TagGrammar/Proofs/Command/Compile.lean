import TagGrammar.Command
import TagGrammar.Proofs.Path
import TagGrammar.Proofs.ReadBack

/-!
# Compiling is all or nothing

The compile command writes its output file, or leaves the file tree as it is (`run_compile`). Nothing
is written before the whole grammar has been compiled, and the clean-up after a file that could not be
written finds nothing to remove.
-/

namespace TagGrammar

/-! ## Failures before anything is written -/

/-- Whether an error arises before the output file is opened. -/
def InputError.isEarly : InputError → Bool
  | notWritten .. => false
  | _ => true

def InputError.BeforeWriting (error : InputError) : Prop :=
  error.isEarly = true

namespace SearchPath

theorem beforeWriting_readFile {tree : FileTree} {path : Path} {error : InputError}
    (h : readFile tree path = .error error) : error.BeforeWriting := by
  unfold readFile at h
  split at h
  · cases h
    rfl
  · split at h
    · cases h
      rfl
    · cases h

theorem beforeWriting_addTypes {path : Path} {types : Table ComponentType} {added : List ComponentType}
    {error : InputError} (h : addTypes path types added = .error error) : error.BeforeWriting := by
  induction added generalizing types with
  | nil => cases h
  | cons type rest ih =>
    rw [addTypes] at h
    split at h
    · cases h
      rfl
    · exact ih h

theorem beforeWriting_addDomains {path : Path} {domains : Table Domain} {added : List Domain}
    {error : InputError} (h : addDomains path domains added = .error error) : error.BeforeWriting := by
  induction added generalizing domains with
  | nil => cases h
  | cons domain rest ih =>
    rw [addDomains] at h
    split at h
    · cases h
      rfl
    · exact ih h

theorem beforeWriting_addFile {layer : Layer} {path : Path} {file : DefinitionFile} {error : InputError}
    (h : addFile layer path file = .error error) : error.BeforeWriting := by
  unfold addFile at h
  cases htypes : addTypes path layer.types file.types with
  | error other =>
    rw [htypes] at h
    cases h
    exact beforeWriting_addTypes htypes
  | ok types =>
    rw [htypes] at h
    cases hdomains : addDomains path layer.domains file.domains with
    | error other =>
      simp only [hdomains] at h
      cases h
      exact beforeWriting_addDomains hdomains
    | ok domains =>
      simp only [hdomains] at h
      cases h

theorem beforeWriting_loadFiles (tree : FileTree) (layer : Layer) (paths : List Path) :
    FailsOnly InputError.BeforeWriting (loadFiles tree layer paths) := by
  induction paths generalizing layer with
  | nil => exact .pure layer
  | cons path rest ih =>
    apply (FailsOnly.ofExcept fun error => beforeWriting_readFile).bind
    intro file
    apply (FailsOnly.ofExcept fun error => beforeWriting_addFile).bind
    intro layer
    exact (FailsOnly.modify _).bind fun _ => ih layer

theorem beforeWriting_load (tree : FileTree) (path : Path) :
    FailsOnly InputError.BeforeWriting (load tree path) := by
  unfold load
  split
  · exact .throw rfl
  · exact beforeWriting_loadFiles tree .empty _
  · exact .throw rfl

end SearchPath

theorem beforeWriting_readBindings (path : Path) (text : String) :
    FailsOnly InputError.BeforeWriting (readBindings path text) := by
  unfold readBindings
  apply FailsOnly.bind
  · apply FailsOnly.forM
    exact fun line => .modify _
  · intro _
    split
    · exact .throw rfl
    · exact .pure _

theorem beforeWriting_loadBindings (tree : FileTree) (path : Path) :
    FailsOnly InputError.BeforeWriting (loadBindings tree path) := by
  unfold loadBindings
  split
  · exact .throw rfl
  · split
    · exact .throw rfl
    · exact beforeWriting_readBindings path _
  · exact .throw rfl

theorem beforeWriting_runCompile {α : Type} (registry : Registry) (steps : CompileM α) :
    FailsOnly InputError.BeforeWriting (runCompile registry steps) := by
  intro log error h
  unfold answer runCompile at h
  simp only [EStateM.run] at h
  cases hrun : steps ⟨registry, log⟩ with
  | ok value bench =>
    rw [hrun] at h
    cases h
  | error cause bench =>
    rw [hrun] at h
    cases h
    rfl

theorem beforeWriting_buildRegistry (tree : FileTree) (bindingsFile searchPath : Option Path) :
    FailsOnly InputError.BeforeWriting (buildRegistry tree bindingsFile searchPath) := by
  have hfallback : FailsOnly InputError.BeforeWriting (searchPath.mapM fun path => do
      return Registry.withFallback (← SearchPath.load tree path) none) := by
    cases searchPath with
    | none => exact .pure none
    | some path =>
      rw [Option.mapM_some, map_eq_pure_bind]
      exact ((SearchPath.beforeWriting_load tree path).bind fun _ => .pure _).bind fun _ => .pure _
  apply hfallback.bind
  intro fallback
  cases bindingsFile with
  | none => exact .pure _
  | some path =>
    apply (beforeWriting_loadBindings tree path).bind
    intro bindings
    apply (beforeWriting_runCompile _ _).bind
    intro bound
    exact (FailsOnly.modify _).bind fun _ => .pure _

/-! ## Compiling from inputs -/

/-- The grammar that the inputs are compiled to. -/
def Grammar.CompiledFrom (grammar : Grammar) (tree : FileTree) (bindingsFile searchPath : Option Path) : Prop :=
  ∃ registry log bench, (buildRegistry tree bindingsFile searchPath).run [] = .ok registry log ∧
    Compile.grammar.run ⟨registry, log⟩ = .ok grammar bench

theorem Grammar.CompiledFrom.unique {grammar other : Grammar} {tree : FileTree}
    {bindingsFile searchPath : Option Path}
    (h : grammar.CompiledFrom tree bindingsFile searchPath) (h' : other.CompiledFrom tree bindingsFile searchPath) :
    grammar = other := by
  obtain ⟨registry, log, bench, hbuild, hrun⟩ := h
  obtain ⟨registry', log', bench', hbuild', hrun'⟩ := h'
  rw [hbuild] at hbuild'
  cases hbuild'
  rw [hrun] at hrun'
  cases hrun'
  rfl

theorem compileFile_cases {env : Environment} {tree : FileTree} {output : Option Path} {path : Path}
    (hpath : env.grammarPath tree.currentPath? output = some path) (bindingsFile searchPath : Option Path) :
    (∃ grammar, grammar.CompiledFrom tree bindingsFile searchPath ∧
      ((∃ after log, tree.writeText path grammar.text = .ok after ∧
        (compileFile env tree bindingsFile searchPath output).run [] = .ok (grammar, path, after) log) ∨
      ∃ error log, tree.writeText path grammar.text = .error error ∧
        (compileFile env tree bindingsFile searchPath output).run [] = .error (writeError path error) log)) ∨
    (∀ grammar : Grammar, ¬grammar.CompiledFrom tree bindingsFile searchPath) ∧
      ∃ error log, error.BeforeWriting ∧
        (compileFile env tree bindingsFile searchPath output).run [] = .error error log := by
  unfold compileFile
  cases hbuild : (buildRegistry tree bindingsFile searchPath).run [] with
  | error error log =>
    have hearly : error.BeforeWriting := by
      apply beforeWriting_buildRegistry tree bindingsFile searchPath []
      simp [answer, hbuild]
    refine .inr ⟨?_, error, log, hearly, by simp [hbuild]⟩
    rintro grammar ⟨registry, _, _, hbuild', -⟩
    simp [hbuild] at hbuild'
  | ok registry log =>
    cases hrun : Compile.grammar.run ⟨registry, log⟩ with
    | error error bench =>
      have hcompile : (runCompile registry Compile.grammar).run log = .error (.registry error) bench.log := by
        simp only [runCompile, EStateM.run] at hrun ⊢
        rw [hrun]
      refine .inr ⟨?_, .registry error, bench.log, rfl, by simp [hbuild, hcompile]⟩
      rintro grammar ⟨registry', log', bench', hbuild', hrun'⟩
      rw [hbuild] at hbuild'
      cases hbuild'
      rw [hrun] at hrun'
      cases hrun'
    | ok grammar bench =>
      have hcompile : (runCompile registry Compile.grammar).run log = .ok (grammar, bench.registry) bench.log :=
        run_runCompile_eq_ok_iff.2 hrun
      have houtput : (outputPath env tree output).run bench.log = .ok path bench.log :=
        run_outputPath_eq_ok_iff.2 ⟨hpath, rfl⟩
      refine .inl ⟨grammar, ⟨registry, log, bench, hbuild, hrun⟩, ?_⟩
      simp only [EStateM.run_bind, hbuild, hcompile, houtput]
      cases hwrite : tree.writeText path grammar.text with
      | error error => exact .inr ⟨error, bench.log, rfl, rfl⟩
      | ok after => exact .inl ⟨after, _, rfl, rfl⟩

/-- A path that has been resolved in a file tree is resolved to itself wherever it is used again. -/
theorem FileTree.grammarPath_again {tree : FileTree} {env : Environment} {choice : Option Path} {path : Path}
    (h : env.grammarPath tree.currentPath? choice = some path) (other : Environment) (working : Option Path) :
    path.isAbsolute = true ∧ other.grammarPath working (some path) = some path := by
  have habsolute : path.isAbsolute = true :=
    Environment.isAbsolute_grammarPath (fun _ => FileTree.isAbsolute_of_currentPath?) h
  exact ⟨habsolute, other.grammarPath_of_isAbsolute working habsolute⟩

/-! ## The command -/

/-- How a run ends whose command answers like this. -/
def Outcome.ofAnswer : Except Escape Int → Outcome
  | .ok code => .exit code
  | .error escape => .escaped escape

theorem Outcome.ofAnswer_eq_exit_iff {result : Except Escape Int} {code : Int} :
    ofAnswer result = .exit code ↔ result = .ok code := by
  cases result <;> simp [ofAnswer]

theorem Outcome.ofAnswer_eq_escaped_iff {result : Except Escape Int} {escape : Escape} :
    ofAnswer result = .escaped escape ↔ result = .error escape := by
  cases result <;> simp [ofAnswer]

namespace Command

/-- What has been done before a command starts. -/
def start (tree : FileTree) : Progress :=
  ⟨[], [], tree, none⟩

section
variable (env : Environment) (tree : FileTree) (steps : CommandM Int) (complaint : Option String)

theorem outcome_finished : (finished steps tree complaint).outcome = .ofAnswer (answer steps (start tree)) := by
  unfold finished answer start
  cases steps.run ⟨[], [], tree, none⟩ <;> rfl

theorem tree_finished : (finished steps tree complaint).progress.tree = (leaves steps (start tree)).tree := by
  unfold finished leaves start
  cases steps.run ⟨[], [], tree, none⟩ <;> rfl

theorem outcome_runSteps : (runSteps env tree steps).outcome = .ofAnswer (answer steps (start tree)) :=
  outcome_finished tree steps none

theorem tree_runSteps : (runSteps env tree steps).progress.tree = (leaves steps (start tree)).tree :=
  tree_finished tree steps none

end

/-- The command ends like this, and leaves this file tree. -/
structure Ends (steps : CommandM Int) (tree : FileTree) (result : Except Escape Int) (after : FileTree) : Prop where
  answer : TagGrammar.answer steps (start tree) = result
  tree : (leaves steps (start tree)).tree = after

theorem run_givenPath (choice : Option Path) (progress : Progress) :
    (givenPath (choice.map .given)).run progress = .ok choice progress := by
  cases choice <;> rfl

section
variable {env : Environment} {choice : Option Path} {tree : FileTree}

theorem run_chosenGrammar {path : Path} (h : env.grammarPath tree.currentPath? choice = some path)
    (printed : List String) (log : List LogRecord) (arguments : Option (List String)) :
    (chosenGrammar env (choice.map .given)).run ⟨printed, log, tree, arguments⟩ =
      .ok path ⟨printed, log, tree, arguments⟩ := by
  simp only [chosenGrammar, EStateM.run_bind, run_givenPath, EStateM.run_get, h, EStateM.run_pure]

theorem run_chosenGrammar_of_none (h : env.grammarPath tree.currentPath? choice = none)
    (printed : List String) (log : List LogRecord) (arguments : Option (List String)) :
    (chosenGrammar env (choice.map .given)).run ⟨printed, log, tree, arguments⟩ =
      .error .noDirectory ⟨printed, log, tree, arguments⟩ := by
  simp only [chosenGrammar, EStateM.run_bind, run_givenPath, EStateM.run_get, h]
  rfl

end

section
variable {env : Environment} {bindings searchPath output : Option Path} {tree : FileTree} {path : Path}

theorem compile_of_noDirectory (h : env.grammarPath tree.currentPath? output = none) :
    Ends (compile env bindings searchPath (output.map .given)) tree (.error .noDirectory) tree := by
  constructor
  all_goals
    simp only [answer, leaves, compile, EStateM.run_bind, start, run_chosenGrammar_of_none h]

variable (hpath : env.grammarPath tree.currentPath? output = some path)
include hpath

theorem compile_of_ok {grammar : Grammar} {written : Path} {after : FileTree} {log : List LogRecord}
    (h : (compileFile env tree (env.bindingsFile bindings) (env.typePath searchPath)
      (some path)).run [] = .ok (grammar, written, after) log) :
    Ends (compile env bindings searchPath (output.map .given)) tree (.ok 0) after := by
  constructor
  all_goals
    simp only [answer, leaves, compile, runInputs, EStateM.run_bind, EStateM.run_get, start,
      run_chosenGrammar hpath, h]
    rfl

theorem compile_of_notWritten {error : FileError} {log : List LogRecord}
    (h : (compileFile env tree (env.bindingsFile bindings) (env.typePath searchPath)
      (some path)).run [] = .error (.notWritten path error) log)
    (hremove : tree.remove path = if error.fault = .notFound then .ok tree else .error error) :
    Ends (compile env bindings searchPath (output.map .given)) tree
      (if error.fault = .notFound then .ok 1 else .error (.file error)) tree := by
  by_cases hfault : error.fault = .notFound
  · rw [if_pos hfault] at hremove ⊢
    constructor
    all_goals
      simp only [answer, leaves, compile, runInputs, record, recordAll, EStateM.run_bind, EStateM.run_get,
        EStateM.run_modify, EStateM.run_pure, start, run_chosenGrammar hpath, h, hremove]
  · rw [if_neg hfault] at hremove ⊢
    constructor
    all_goals
      simp only [answer, leaves, compile, runInputs, record, recordAll, EStateM.run_bind, EStateM.run_get,
        EStateM.run_modify, EStateM.run_pure, start, run_chosenGrammar hpath, h, hremove]
      rfl

theorem compile_of_error {error : InputError} {log : List LogRecord} (hearly : error.BeforeWriting)
    (h : (compileFile env tree (env.bindingsFile bindings) (env.typePath searchPath)
      (some path)).run [] = .error error log) :
    Ends (compile env bindings searchPath (output.map .given)) tree (.ok 1) tree := by
  cases error with
  | notWritten path fault => cases hearly
  | _ =>
    constructor
    all_goals
      simp only [answer, leaves, compile, runInputs, EStateM.run_bind, EStateM.run_get, start,
        run_chosenGrammar hpath, h]
      rfl

end

/-- The command writes the grammar, or an error of the output file escapes from the clean-up, or it
ends with exit code 1. Only in the first case does the file tree change. -/
theorem compile_cases {env : Environment} {tree : FileTree} {output : Option Path} {path : Path}
    (hpath : env.grammarPath tree.currentPath? output = some path) (bindings searchPath : Option Path) :
    (∃ (grammar : Grammar) (after : FileTree),
      grammar.CompiledFrom tree (env.bindingsFile bindings) (env.typePath searchPath) ∧
      tree.writeText path grammar.text = .ok after ∧
      Ends (compile env bindings searchPath (output.map .given)) tree (.ok 0) after) ∨
    (∃ (grammar : Grammar) (error : FileError),
      grammar.CompiledFrom tree (env.bindingsFile bindings) (env.typePath searchPath) ∧
      tree.writeText path grammar.text = .error error ∧ error.fault ≠ .notFound ∧ error.fault ≠ .nullCharacter ∧
      Ends (compile env bindings searchPath (output.map .given)) tree (.error (.file error)) tree) ∨
    (∀ grammar : Grammar, grammar.CompiledFrom tree (env.bindingsFile bindings) (env.typePath searchPath) →
      ∃ error, tree.writeText path grammar.text = .error error ∧
        (error.fault = .notFound ∨ error.fault = .nullCharacter)) ∧
      Ends (compile env bindings searchPath (output.map .given)) tree (.ok 1) tree := by
  obtain ⟨-, hagain⟩ := FileTree.grammarPath_again hpath env tree.currentPath?
  rcases compileFile_cases hagain (env.bindingsFile bindings) (env.typePath searchPath) with
    ⟨grammar, hgrammar, ⟨after, log, hwrite, hrun⟩ | ⟨error, log, hwrite, hrun⟩⟩ | ⟨hnone, error, log, hearly, hrun⟩
  · exact .inl ⟨grammar, after, hgrammar, hwrite, compile_of_ok hpath hrun⟩
  · have hreported : error.fault = .notFound ∨ error.fault = .nullCharacter → ∀ other : Grammar,
        other.CompiledFrom tree (env.bindingsFile bindings) (env.typePath searchPath) →
        ∃ error, tree.writeText path other.text = .error error ∧
          (error.fault = .notFound ∨ error.fault = .nullCharacter) := by
      intro hfault other hother
      obtain rfl := hgrammar.unique hother
      exact ⟨error, hwrite, hfault⟩
    unfold writeError at hrun
    by_cases hnull : error.fault = .nullCharacter
    · rw [if_pos hnull] at hrun
      have hearly : (InputError.pathRefused error).BeforeWriting := rfl
      exact .inr (.inr ⟨hreported (.inr hnull), compile_of_error hpath hearly hrun⟩)
    · rw [if_neg hnull] at hrun
      -- the clean-up meets the fault that kept the file from being written
      have hends := compile_of_notWritten hpath hrun (FileTree.remove_of_write_error hwrite)
      by_cases hmissing : error.fault = .notFound
      · rw [if_pos hmissing] at hends
        exact .inr (.inr ⟨hreported (.inl hmissing), hends⟩)
      · rw [if_neg hmissing] at hends
        exact .inr (.inl ⟨grammar, error, hgrammar, hwrite, hmissing, hnull, hends⟩)
  · exact .inr (.inr ⟨fun grammar hgrammar => absurd hgrammar (hnone grammar), compile_of_error hpath hearly hrun⟩)

/-! ## Runs -/

/-- The arguments, the settings and the file tree lead to a grammar, and a file can be written at the
place that they name for it. -/
def Writes (host : Host) (tree : FileTree) (arguments : List String) (grammar : Grammar) (place : Place) : Prop :=
  ∃ env bindings searchPath output path, host.settings = .ok env ∧
    Invocation.read? host.edition "compile" arguments =
      some (.ok (.compile bindings searchPath (output.map .given))) ∧
    grammar.CompiledFrom tree (env.bindingsFile bindings) (env.typePath searchPath) ∧
    env.grammarPath tree.currentPath? output = some path ∧ tree.locate path = .ok place ∧
    tree.node? place ≠ some .directory

section
variable {host : Host} {tree : FileTree} {name : String} {arguments : List String}

/-- No command is named like a request for help. -/
theorem ne_help_of_read? {reading : Except Arguments.Stop Invocation}
    (h : Invocation.read? host.edition name arguments = some reading) :
    ¬(name = "-h" || name = "--help") = true := by
  intro hhelp
  rw [Bool.or_eq_true, decide_eq_true_eq, decide_eq_true_eq] at hhelp
  rcases hhelp with rfl | rfl
  · cases h
  · cases h

theorem run_of_settings_error {reading : Except Arguments.Stop Invocation} {message : String}
    (h : Invocation.read? host.edition name arguments = some reading) (hsettings : host.settings = .error message) :
    run host tree (name :: arguments) = idle tree (.escaped (.settings message)) := by
  rw [run, if_neg (ne_help_of_read? h), h]
  simp only [hsettings]

theorem run_of_stop {stop : Arguments.Stop} {env : Environment}
    (h : Invocation.read? host.edition name arguments = some (.error stop)) (hsettings : host.settings = .ok env) :
    run host tree (name :: arguments) = idle tree (.usage stop) := by
  rw [run, if_neg (ne_help_of_read? h), h]
  simp only [hsettings]

theorem run_of_invocation {invocation : Invocation} {env : Environment}
    (h : Invocation.read? host.edition name arguments = some (.ok invocation))
    (hsettings : host.settings = .ok env) :
    run host tree (name :: arguments) = runSteps env tree (invocation.steps host env) := by
  rw [run, if_neg (ne_help_of_read? h), h]
  simp only [hsettings]

end

theorem eq_void_or_given {α : Type} (value : Option (Arguments.Value α)) :
    value = some .void ∨ ∃ choice : Option α, value = choice.map .given := by
  rcases value with _ | ⟨a | _⟩
  · exact .inr ⟨none, rfl⟩
  · exact .inr ⟨some a, rfl⟩
  · exact .inl rfl

theorem map_given_injective {α : Type} {choice other : Option α}
    (h : choice.map Arguments.Value.given = other.map .given) : choice = other :=
  Option.map_injective (fun _ _ => Arguments.Value.given.inj) h

theorem read?_compile (edition : Arguments.Edition) (arguments : List String) :
    Invocation.read? edition "compile" arguments =
      some ((Arguments.read edition compileRules arguments).map fun values =>
        .compile (positionalPath values 0) (positionalPath values 1) (optionPath values "--output")) := by
  unfold Invocation.read?
  cases Arguments.read edition compileRules arguments <;> rfl

theorem Writes.written {host : Host} {tree : FileTree} {arguments : List String} {grammar : Grammar} {place : Place}
    {env : Environment} {bindings searchPath output : Option Path} (h : Writes host tree arguments grammar place)
    (hsettings : host.settings = .ok env)
    (hread : Invocation.read? host.edition "compile" arguments =
      some (.ok (.compile bindings searchPath (output.map .given)))) :
    grammar.CompiledFrom tree (env.bindingsFile bindings) (env.typePath searchPath) ∧
      ∃ path after, env.grammarPath tree.currentPath? output = some path ∧
        tree.writeText path grammar.text = .ok after := by
  obtain ⟨env', _, _, other, path, hsettings', hother, hgrammar, hpath, hlocate, hnode⟩ := h
  rw [hsettings, Except.ok.injEq] at hsettings'
  subst hsettings'
  rw [hread, Option.some.injEq, Except.ok.injEq, Invocation.compile.injEq] at hother
  obtain ⟨rfl, rfl, hother⟩ := hother
  obtain rfl := map_given_injective hother
  obtain ⟨habsolute, -⟩ := FileTree.grammarPath_again hpath env none
  rw [← FileTree.reached?_of_isAbsolute tree habsolute place] at hnode
  exact ⟨hgrammar, path, _, hpath, FileTree.write_eq_ok_iff.2 ⟨place, hlocate, hnode, rfl⟩⟩

/-- **Compiling writes the grammar and changes nothing else, or changes nothing.** -/
theorem run_compile (host : Host) (tree : FileTree) (arguments : List String) :
    (∃ grammar place, Writes host tree arguments grammar place ∧
      (run host tree ("compile" :: arguments)).outcome = .exit 0 ∧
      (run host tree ("compile" :: arguments)).progress.tree.working = tree.working ∧
      ∀ other, (run host tree ("compile" :: arguments)).progress.tree.node? other =
        if other = place then some (.file grammar.text.toUTF8) else tree.node? other) ∨
    (∀ grammar place, ¬Writes host tree arguments grammar place) ∧
      ((run host tree ("compile" :: arguments)).outcome = .exit 1 ∨
        (∃ error, (run host tree ("compile" :: arguments)).outcome = .escaped error) ∨
        ∃ stop, Invocation.read? host.edition "compile" arguments = some (.error stop) ∧
          (run host tree ("compile" :: arguments)).outcome = .usage stop) ∧
      (run host tree ("compile" :: arguments)).progress.tree = tree := by
  cases hsettings : host.settings with
  | error message =>
    rw [run_of_settings_error (read?_compile host.edition arguments) hsettings]
    refine .inr ⟨?_, .inr (.inl ⟨.settings message, rfl⟩), rfl⟩
    rintro grammar place ⟨_, _, _, _, _, hother, -⟩
    rw [hsettings] at hother
    cases hother
  | ok env =>
    cases hread : Arguments.read host.edition compileRules arguments with
    | error stop =>
      have hstop : Invocation.read? host.edition "compile" arguments = some (.error stop) := by
        rw [read?_compile, hread]
        rfl
      rw [run_of_stop hstop hsettings]
      refine .inr ⟨?_, .inr (.inr ⟨stop, hstop, rfl⟩), rfl⟩
      rintro grammar place ⟨_, _, _, _, _, -, hother, -⟩
      rw [hstop] at hother
      cases hother
    | ok values =>
      have hcompile : Invocation.read? host.edition "compile" arguments = some (.ok (.compile
          (positionalPath values 0) (positionalPath values 1) (optionPath values "--output"))) := by
        rw [read?_compile, hread]
        rfl
      rw [run_of_invocation hcompile hsettings]
      simp only [Invocation.steps, outcome_runSteps, tree_runSteps]
      generalize positionalPath values 0 = bindings at hcompile ⊢
      generalize positionalPath values 1 = searchPath at hcompile ⊢
      rcases eq_void_or_given (optionPath values "--output") with houtput | ⟨output, houtput⟩
      · rw [houtput] at hcompile ⊢
        refine .inr ⟨?_, .inr (.inl ⟨.voidPath, rfl⟩), rfl⟩
        rintro grammar place ⟨_, _, _, output, _, -, hother, -⟩
        rw [hcompile] at hother
        cases output <;> cases hother
      · rw [houtput] at hcompile ⊢
        cases hpath : env.grammarPath tree.currentPath? output with
        | none =>
          have hends := @compile_of_noDirectory env bindings searchPath output tree hpath
          rw [hends.answer, hends.tree]
          refine .inr ⟨?_, .inr (.inl ⟨.noDirectory, rfl⟩), rfl⟩
          intro grammar place hother
          obtain ⟨-, path, -, hpath', -⟩ := hother.written hsettings hcompile
          rw [hpath] at hpath'
          cases hpath'
        | some path =>
          rcases compile_cases hpath bindings searchPath with
            ⟨grammar, after, hgrammar, hwrite, hends⟩ |
              ⟨grammar, error, hgrammar, hwrite, -, -, hends⟩ | ⟨hnone, hends⟩
          · obtain ⟨place, hlocate, hreached, rfl⟩ := FileTree.write_eq_ok_iff.1 hwrite
            have hnode := (FileTree.reached?_of_ne_directory hreached).2
            rw [hends.answer, hends.tree, FileTree.working_set]
            refine .inl ⟨grammar, place, ⟨env, _, _, _, path, hsettings, hcompile, hgrammar, hpath, hlocate, hnode⟩,
              rfl, rfl, ?_⟩
            simp [FileTree.ne_nil_of_node? hnode]
          · rw [hends.answer, hends.tree]
            refine .inr ⟨?_, .inr (.inl ⟨.file error, rfl⟩), rfl⟩
            intro other place hother
            obtain ⟨hcompiled, path', after, hpath', hwritten⟩ := hother.written hsettings hcompile
            obtain rfl := hgrammar.unique hcompiled
            obtain rfl := Option.some.inj (hpath.symm.trans hpath')
            rw [hwrite] at hwritten
            cases hwritten
          · rw [hends.answer, hends.tree]
            refine .inr ⟨?_, .inl rfl, rfl⟩
            intro grammar place hother
            obtain ⟨hcompiled, path', after, hpath', hwritten⟩ := hother.written hsettings hcompile
            obtain rfl := Option.some.inj (hpath.symm.trans hpath')
            obtain ⟨error, herror, -⟩ := hnone grammar hcompiled
            rw [herror] at hwritten
            cases hwritten

end Command

end TagGrammar
