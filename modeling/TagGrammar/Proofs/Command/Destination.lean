import TagGrammar.Proofs.Command.Compile
import TagGrammar.Proofs.Path

/-!
# One path for the grammar file

The path of the grammar file is resolved by every command on its own, and twice if the grammar is
compiled. Since a path that has been resolved is resolved to itself, all of them work with the same one
(`grammarPath_settles`): a command runs like one that is given the resolved path and has neither an
environment nor a directory to resolve it in (`compileTo`, `completeFrom`, `describeFrom`).
-/

namespace TagGrammar

open InputM (record)

/-! ## Compiling to a resolved path -/

/-- Compiles the grammar of the given inputs and writes it to the path, whatever the environment. -/
def compileFileTo (tree : FileTree) (bindingsFile searchPath : Option Path) (path : Path) :
    InputM (Grammar × FileTree) := do
  let registry ← buildRegistry tree bindingsFile searchPath
  let (grammar, _) ← runCompile registry Compile.grammar
  match tree.writeText path grammar.text with
  | .error error => throw (writeError path error)
  | .ok after =>
    record "compiler" .info s!"Wrote grammar to {path}"
    return (grammar, after)

theorem compileFile_eq {env : Environment} {tree : FileTree} {output : Option Path} {path : Path}
    (hpath : env.grammarPath tree.currentPath? output = some path) (bindingsFile searchPath : Option Path) :
    compileFile env tree bindingsFile searchPath output = do
      let (grammar, after) ← compileFileTo tree bindingsFile searchPath path
      return (grammar, path, after) := by
  unfold compileFile compileFileTo outputPath
  simp only [hpath, bind_assoc, pure_bind]
  congr 1
  funext registry
  congr 1
  funext found
  cases tree.writeText path found.1.text <;> rfl

/-- If the error says that a file could not be written, it is this one. -/
def InputError.Names (path : Path) (error : InputError) : Prop :=
  ∀ named fault, error = .notWritten named fault → named = path ∧ fault.path = path

theorem InputError.BeforeWriting.names {error : InputError} (h : error.BeforeWriting) (path : Path) :
    error.Names path := by
  rintro named fault rfl
  cases h

theorem InputError.names_writeError {tree : FileTree} {path : Path} {text : String} {error : FileError}
    (h : tree.writeText path text = .error error) : (writeError path error).Names path := by
  intro named fault hnamed
  unfold writeError at hnamed
  split at hnamed
  · cases hnamed
  · cases hnamed
    exact ⟨rfl, FileTree.path_of_write_error h⟩

theorem names_compileFileTo (tree : FileTree) (bindingsFile searchPath : Option Path) (path : Path) :
    FailsOnly (InputError.Names path) (compileFileTo tree bindingsFile searchPath path) := by
  apply ((beforeWriting_buildRegistry tree bindingsFile searchPath).mono fun error h => h.names path).bind
  intro registry
  apply ((beforeWriting_runCompile registry Compile.grammar).mono fun error h => h.names path).bind
  intro compiled
  dsimp only
  split
  · rename_i hwrite
    exact .throw (InputError.names_writeError hwrite)
  · exact (FailsOnly.modify _).bind fun _ => .pure _

/-- What has been compiled has been written to the path. -/
theorem writeText_of_compileFileTo {tree after : FileTree} {bindingsFile searchPath : Option Path} {path : Path}
    {grammar : Grammar} {log log' : List LogRecord}
    (h : (compileFileTo tree bindingsFile searchPath path).run log = .ok (grammar, after) log') :
    tree.writeText path grammar.text = .ok after := by
  unfold compileFileTo at h
  obtain ⟨registry, compiling, -, h⟩ := run_bind_eq_ok_iff.1 h
  obtain ⟨compiled, writing, -, h⟩ := run_bind_eq_ok_iff.1 h
  dsimp only at h
  split at h
  · cases h
  · rename_i hwrite
    cases h
    exact hwrite

namespace Command

/-! ## Commands with a resolved path -/

/-- Compiles the grammar and writes it to the path. A file that could not be written is removed. -/
def compileTo (path : Path) (bindingsFile searchPath : Option Path) : CommandM Int := do
  let tree := (← get).tree
  match ← runInputs (compileFileTo tree bindingsFile searchPath path) with
  | .ok (grammar, after) =>
    modify fun progress => { progress with tree := after }
    record .info s!"Grammar: {path} ({grammar.types.length} types, {grammar.elements.length} tags)"
    return 0
  | .error (.notWritten _ error) =>
    record .error (InputError.notWritten path error).message
    match tree.remove path with
    | .ok after =>
      modify fun progress => { progress with tree := after }
      return 1
    | .error error => throw (.file error)
  | .error error => fail s!"Compilation failed: {error.message}"

/-- Suggests completions in a file from the grammar at the path. -/
def completeFrom (host : Host) (path file : Path) (offset : Arguments.Value Int) : CommandM Int := do
  let tree := (← get).tree
  match ← load path with
  | .error (.malformed error) => fail s!"Invalid grammar {path}: {error.message}"
  | .error (.unreadable error) =>
    record .error s!"Could not read grammar {path}: {error.message}"
    record .info "Run 'python -m markup_assist compile' first"
    return 1
  | .ok schema =>
    match tree.readText file with
    | .error error =>
      match Escape.ofReadError? error with
      | some escape => throw escape
      | none => fail s!"Could not read {file}: {error.message}"
    | .ok text => suggest host schema text offset

/-- Lists what the grammar at the path says of a tag. -/
def describeFrom (host : Host) (path : Path) (tag : String) : CommandM Int := do
  match ← load path with
  | .error error => fail s!"Could not load grammar {path}: {error.message}"
  | .ok schema =>
    match schema.content.get? tag, schema.describe? tag with
    | some content, some described =>
      sayAll host (tagLines tag content described)
      return 0
    | _, _ => fail s!"Unknown tag: {tag}"

section
variable {env : Environment} {choice : Option Path} {progress : Progress} {path : Path}
variable (h : env.grammarPath progress.tree.currentPath? choice = some path)
include h

theorem run_complete_eq (host : Host) (file : Path) (offset : Arguments.Value Int) :
    (complete host env file offset (choice.map .given)).run progress =
      (completeFrom host path file offset).run progress := by
  obtain ⟨printed, log, tree, arguments⟩ := progress
  simp only [complete, EStateM.run_bind, run_chosenGrammar h]
  rfl

theorem run_describe_eq (host : Host) (tag : String) : (describe host env tag (choice.map .given)).run progress =
    (describeFrom host path tag).run progress := by
  obtain ⟨printed, log, tree, arguments⟩ := progress
  simp only [describe, EStateM.run_bind, run_chosenGrammar h]
  rfl

theorem run_compile_eq (bindings searchPath : Option Path) :
    (compile env bindings searchPath (choice.map .given)).run progress =
      (compileTo path (env.bindingsFile bindings) (env.typePath searchPath)).run progress := by
  obtain ⟨printed, log, tree, arguments⟩ := progress
  have hnames := names_compileFileTo tree (env.bindingsFile bindings) (env.typePath searchPath) path log
  obtain ⟨-, hagain⟩ := FileTree.grammarPath_again h env tree.currentPath?
  simp only [compile, compileTo, EStateM.run_bind, EStateM.run_get, run_chosenGrammar h, compileFile_eq hagain,
    runInputs]
  cases hrun : (compileFileTo tree (env.bindingsFile bindings) (env.typePath searchPath) path).run log with
  | ok found log => rfl
  | error error log =>
    cases error with
    | notWritten named fault =>
      obtain ⟨rfl, -⟩ := hnames (.notWritten named fault) (by simp [answer, hrun]) named fault rfl
      rfl
    | _ => rfl

end

/-! ## Settings that lead to one path -/

/-- Whatever uses the choice in the file tree uses the path: a compilation writes it and returns it, or
names it if it could not be written, and commands run as with the path resolved in advance. -/
structure UsesOnly (env : Environment) (choice : Option Path) (tree : FileTree) (path : Path) : Prop where
  resolves : env.grammarPath tree.currentPath? choice = some path
  writes : ∀ bindingsFile searchPath log grammar written after log',
    (compileFile env tree bindingsFile searchPath (some path)).run log = .ok (grammar, written, after) log' →
      written = path ∧ tree.writeText path grammar.text = .ok after
  names : ∀ bindingsFile searchPath,
    FailsOnly (InputError.Names path) (compileFile env tree bindingsFile searchPath (some path))
  compile : ∀ bindings searchPath progress, progress.tree = tree →
    (compile env bindings searchPath (choice.map .given)).run progress =
      (compileTo path (env.bindingsFile bindings) (env.typePath searchPath)).run progress
  complete : ∀ host file offset progress, progress.tree = tree →
    (complete host env file offset (choice.map .given)).run progress =
      (completeFrom host path file offset).run progress
  describe : ∀ host tag progress, progress.tree = tree →
    (describe host env tag (choice.map .given)).run progress = (describeFrom host path tag).run progress

theorem usesOnly_of_grammarPath {env : Environment} {choice : Option Path} {tree : FileTree} {path : Path}
    (h : env.grammarPath tree.currentPath? choice = some path) : UsesOnly env choice tree path := by
  obtain ⟨-, hagain⟩ := FileTree.grammarPath_again h env tree.currentPath?
  constructor
  · exact h
  · intro bindingsFile searchPath log grammar written after log' hrun
    rw [compileFile_eq hagain] at hrun
    obtain ⟨found, done, hfound, hreturn⟩ := run_bind_eq_ok_iff.1 hrun
    cases hreturn
    exact ⟨rfl, writeText_of_compileFileTo hfound⟩
  · intro bindingsFile searchPath
    rw [compileFile_eq hagain]
    exact (names_compileFileTo tree bindingsFile searchPath path).bind fun _ => .pure _
  · rintro bindings searchPath progress rfl
    exact run_compile_eq h bindings searchPath
  · rintro host file offset progress rfl
    exact run_complete_eq h host file offset
  · rintro host tag progress rfl
    exact run_describe_eq h host tag

/-- A compilation leaves the file tree as it is, or with the path written or removed. -/
theorem tree_leaves_compileTo (path : Path) (bindingsFile searchPath : Option Path) (progress : Progress) :
    (leaves (compileTo path bindingsFile searchPath) progress).tree = progress.tree ∨
      (∃ text, progress.tree.writeText path text =
        .ok (leaves (compileTo path bindingsFile searchPath) progress).tree) ∨
      progress.tree.remove path = .ok (leaves (compileTo path bindingsFile searchPath) progress).tree := by
  simp only [leaves, compileTo, runInputs, EStateM.run_bind, EStateM.run_get]
  cases hrun : (compileFileTo progress.tree bindingsFile searchPath path).run progress.log with
  | ok found log => exact .inr (.inl ⟨found.1.text, writeText_of_compileFileTo hrun⟩)
  | error error log =>
    cases error with
    | notWritten named fault =>
      simp only [record, recordAll, EStateM.run_bind, EStateM.run_modify, EStateM.run_pure]
      cases hremove : progress.tree.remove path with
      | ok after => exact .inr (.inr rfl)
      | error fault => exact .inl rfl
    | _ => exact .inl rfl

/-- A compilation leaves commands in the directory they were in. -/
theorem currentPath?_leaves_compileTo (path : Path) (bindingsFile searchPath : Option Path) (progress : Progress) :
    (leaves (compileTo path bindingsFile searchPath) progress).tree.currentPath? = progress.tree.currentPath? := by
  rcases tree_leaves_compileTo path bindingsFile searchPath progress with hsame | ⟨text, hwrite⟩ | hremove
  · rw [hsame]
  · exact FileTree.currentPath?_of_write hwrite
  · exact FileTree.currentPath?_of_remove hremove

/-- **The path of the grammar file is settled when it is resolved.** In every absolute directory a choice
is resolved to a path that is absolute and in normal form, is read back as it is written, and is resolved
to itself in every environment and every directory, or without one. So in the directory it was resolved in
every command with the setting uses that path alone, also after a compilation and with other settings
changed. -/
theorem grammarPath_settles {directory : String} (hdirectory : (Path.ofString directory).isAbsolute = true)
    (env : Environment) (choice : Option String) : ∃ path,
    env.grammarPath (some (Path.ofString directory)) (choice.map Path.ofString) = some path ∧
      path.isAbsolute = true ∧ path.IsNormal ∧ Path.ofString path.toString = path ∧
      (∀ (other : Environment) (working : Option Path), other.grammarPath working (some path) = some path) ∧
      ∀ tree : FileTree, tree.currentPath? = some (Path.ofString directory) →
        UsesOnly env (choice.map Path.ofString) tree path ∧
        ∀ bindings searchPath progress, progress.tree = tree →
          ∀ later : Environment, later.value .grammarFile = env.value .grammarFile →
            UsesOnly later (choice.map Path.ofString) (leaves (compile env bindings searchPath
              ((choice.map Path.ofString).map .given)) progress).tree path := by
  obtain ⟨path, hpath⟩ : ∃ path,
      env.grammarPath (some (Path.ofString directory)) (choice.map Path.ofString) = some path :=
    ⟨_, env.grammarPath_of_directory _ _⟩
  have habsolute : path.isAbsolute = true := by
    apply Environment.isAbsolute_grammarPath ?_ hpath
    rintro _ ⟨⟩
    exact hdirectory
  have hnormal : path.IsNormal := by
    apply Environment.isNormal_grammarPath (Path.isNormal_ofString directory) ?_ hpath
    intro chosen hchosen
    obtain ⟨s, -, rfl⟩ := Option.map_eq_some_iff.1 hchosen
    exact Path.isNormal_ofString s
  refine ⟨path, hpath, habsolute, hnormal, Path.ofString_toString hnormal,
    fun other working => other.grammarPath_of_isAbsolute working habsolute, fun tree htree => ?_⟩
  have huses : UsesOnly env (choice.map Path.ofString) tree path := usesOnly_of_grammarPath (htree ▸ hpath)
  refine ⟨huses, ?_⟩
  rintro bindings searchPath progress rfl later hlater
  apply usesOnly_of_grammarPath
  have hleaves : (leaves (compile env bindings searchPath ((choice.map Path.ofString).map .given))
      progress).tree.currentPath? = some (Path.ofString directory) := by
    rw [leaves, huses.compile bindings searchPath progress rfl]
    exact (currentPath?_leaves_compileTo _ _ _ progress).trans htree
  rw [hleaves, Environment.grammarPath_congr hlater, hpath]

/-- A setting with steps to the same place, empty steps and a step upwards. -/
def winding : Environment :=
  ⟨⟨[("MARKUP_GRAMMAR_FILE", "./out//../forms.dtd/")], by decide⟩⟩

theorem winding_settles : (Path.ofString "/home/user").isAbsolute = true ∧
    winding.grammarPath (some (Path.ofString "/home/user")) (Option.map Path.ofString none) =
      some ⟨.root, ["home", "user", "out", "..", "forms.dtd"]⟩ ∧
    UsesOnly winding none (.bare ["home", "user"]) ⟨.root, ["home", "user", "out", "..", "forms.dtd"]⟩ ∧
    ∀ working, winding.grammarPath working (some ⟨.root, ["home", "user", "out", "..", "forms.dtd"]⟩) =
      some ⟨.root, ["home", "user", "out", "..", "forms.dtd"]⟩ := by
  have hdirectory : (Path.ofString "/home/user").isAbsolute = true := by
    decide
  have hpath : winding.grammarPath (some (Path.ofString "/home/user")) (Option.map Path.ofString none) =
      some ⟨.root, ["home", "user", "out", "..", "forms.dtd"]⟩ := by
    decide
  obtain ⟨path, hpath', -, -, -, hagain, huses⟩ := grammarPath_settles hdirectory winding none
  obtain rfl := Option.some.inj (hpath'.symm.trans hpath)
  exact ⟨hdirectory, hpath, (huses (.bare ["home", "user"]) (by decide)).1, hagain winding⟩

end Command

end TagGrammar
