import TagGrammar.Proofs.Command.Compile

/-!
# How runs end

A run ends with an exit code, with a note on usage, or with an error that it does not handle. `Escapes`
has all of the latter: settings that cannot be loaded, lines that the output does not take, and what a
command leaves unhandled (`Unhandled`). That is options without a value, a relative path without a working
directory, files that cannot be decoded, paths that no file can have, output files that can be neither
written nor removed, and test runs that are refused. Every other failure of a command on files ends with
exit code 1 (`run_outcome`).
-/

namespace TagGrammar

/-! ## Reading files -/

namespace FileTree

theorem walk_ne_nullCharacter (tree : FileTree) (place : Place) (steps : List String) :
    tree.walk place steps ≠ .error .nullCharacter := by
  induction steps generalizing place with
  | nil => simp [walk]
  | cons step rest ih =>
    rw [walk]
    split
    · simp
    · simp
    · by_cases hlong : maxNameLength < step.utf8ByteSize
      · simp [hlong]
      · rw [if_neg hlong]
        exact ih _

theorem walkUp_ne_nullCharacter (tree : FileTree) (place : Place) (steps : List String) :
    tree.walkUp place steps ≠ .error .nullCharacter := by
  induction steps generalizing place with
  | nil => simp [walkUp]
  | cons step rest ih =>
    rw [walkUp]
    split
    · exact ih _
    · exact walk_ne_nullCharacter tree place _

theorem locate_eq_nullCharacter_iff {tree : FileTree} {path : Path} :
    tree.locate path = .error .nullCharacter ↔ path.hasNull = true := by
  unfold locate
  by_cases hnull : path.hasNull = true
  · simp [hnull]
  · by_cases hlong : maxPathLength < path.toString.utf8ByteSize
    · simp [hnull, hlong]
    · by_cases habsolute : path.isAbsolute = true
      · simp [hnull, hlong, habsolute, walk_ne_nullCharacter]
      · simp [hnull, hlong, habsolute, walkUp_ne_nullCharacter]

theorem read_eq_nullCharacter_iff {tree : FileTree} {path : Path} {error : FileError} :
    tree.read path = .error error ∧ error.fault = .nullCharacter ↔
      path.hasNull = true ∧ error = ⟨.nullCharacter, path⟩ := by
  rw [← @locate_eq_nullCharacter_iff tree]
  unfold read
  cases hlocate : tree.locate path with
  | error fault =>
    simp only [Except.error.injEq]
    constructor
    · rintro ⟨rfl, rfl⟩
      exact ⟨rfl, rfl⟩
    · rintro ⟨rfl, rfl⟩
      exact ⟨rfl, rfl⟩
  | ok place =>
    simp only [reduceCtorEq, false_and, iff_false, not_and]
    intro h
    split at h
    · cases h
      simp
    · cases h
      simp
    · cases h

end FileTree

namespace Command

/-- The errors that escape if a file is read: it cannot be decoded, or no file can have its path. -/
inductive ReadEscapes (tree : FileTree) (path : Path) : Escape → Prop where
  | undecodable {bytes : ByteArray} {fault : Text.Utf8.Fault} (hread : tree.read path = .ok bytes)
      (hdecode : FileTree.decodeText bytes = .error fault) : ReadEscapes tree path (.encoding fault)
  | nullCharacter (hnull : path.hasNull = true) : ReadEscapes tree path (.file ⟨.nullCharacter, path⟩)

theorem readEscapes_iff {tree : FileTree} {path : Path} {escape : Escape} : ReadEscapes tree path escape ↔
    ∃ error, tree.readText path = .error error ∧ Escape.ofReadError? error = some escape := by
  constructor
  · intro h
    cases h with
    | undecodable hread hdecode =>
      refine ⟨.encoding _, ?_, rfl⟩
      rw [FileTree.readText, hread]
      simp only [hdecode]
      rfl
    | nullCharacter hnull =>
      refine ⟨.file ⟨.nullCharacter, path⟩, ?_, rfl⟩
      rw [FileTree.readText, (FileTree.read_eq_nullCharacter_iff.2 ⟨hnull, rfl⟩).1]
  · rintro ⟨error, herror, hescape⟩
    unfold FileTree.readText at herror
    cases hread : tree.read path with
    | error fault =>
      simp only [hread, Except.error.injEq] at herror
      subst herror
      simp only [Escape.ofReadError?, Option.ite_none_right_eq_some, Option.some.injEq] at hescape
      obtain ⟨hfault, rfl⟩ := hescape
      obtain ⟨hnull, rfl⟩ := FileTree.read_eq_nullCharacter_iff.1 ⟨hread, hfault⟩
      exact .nullCharacter hnull
    | ok bytes =>
      simp only [hread] at herror
      cases hdecode : FileTree.decodeText bytes with
      | error fault =>
        rw [hdecode] at herror
        cases herror
        cases hescape
        exact .undecodable hread hdecode
      | ok text =>
        rw [hdecode] at herror
        cases herror

/-! ## Printing -/

/-- The output takes all of these lines, one after the other. -/
def Takes (host : Host) (lines : List String) : Prop :=
  ∀ before line, before ++ [line] <+: lines → host.refusal? before line = none

/-- The output takes some of these lines and refuses the next one. -/
def Refuses (host : Host) (lines : List String) (message : String) : Prop :=
  ∃ before line, before ++ [line] <+: lines ∧ Takes host before ∧ host.refusal? before line = some message

section
variable {host : Host} {lines : List String}

theorem takes_or_refuses (host : Host) (lines : List String) :
    Takes host lines ∨ ∃ message, Refuses host lines message := by
  induction lines using List.reverseRecOn with
  | nil =>
    refine .inl fun before line hshown => ?_
    have hlength := hshown.length_le
    simp at hlength
  | append_singleton front last ih =>
    rcases ih with htakes | ⟨message, before, line, hshown, hrefuses⟩
    · cases hlast : host.refusal? front last with
      | some message => exact .inr ⟨message, front, last, List.prefix_rfl, htakes, hlast⟩
      | none =>
        refine .inl fun before line hshown => ?_
        rcases List.prefix_concat_iff.1 hshown with heq | hshown
        · obtain ⟨rfl, rfl⟩ := List.append_inj' heq rfl |>.imp id List.singleton_inj.1
          exact hlast
        · exact htakes before line hshown
    · exact .inr ⟨message, before, line, hshown.trans (List.prefix_append _ _), hrefuses⟩

section
variable (log : List LogRecord) (tree : FileTree) (arguments : Option (List String))

theorem run_say {before : List String} {line : String} (h : host.refusal? before line = none) :
    (say host line).run ⟨before, log, tree, arguments⟩ = .ok () ⟨before ++ [line], log, tree, arguments⟩ := by
  simp only [say, EStateM.run_bind, EStateM.run_get, h]
  rfl

theorem run_sayAll_after {before : List String} (h : Takes host (before ++ lines)) :
    (sayAll host lines).run ⟨before, log, tree, arguments⟩ = .ok () ⟨before ++ lines, log, tree, arguments⟩ := by
  induction lines generalizing before with
  | nil => simp [sayAll]
  | cons line rest ih =>
    have hline : host.refusal? before line = none := by
      apply h before line
      simp
    have hrest : Takes host ((before ++ [line]) ++ rest) := by simpa using h
    have hcons : sayAll host (line :: rest) = (do say host line; sayAll host rest) := rfl
    simp only [hcons, EStateM.run_bind, run_say log tree arguments hline, ih hrest, List.append_assoc,
      List.singleton_append]

theorem run_sayAll_of_takes (h : Takes host lines) :
    (sayAll host lines).run ⟨[], log, tree, arguments⟩ = .ok () ⟨lines, log, tree, arguments⟩ :=
  run_sayAll_after log tree arguments h

/-- The lines before the refused one have been printed. -/
theorem answer_sayAll_of_refuses {message : String} (h : Refuses host lines message) :
    answer (sayAll host lines) ⟨[], log, tree, arguments⟩ = .error (.output message) := by
  obtain ⟨before, line, ⟨after, rfl⟩, htakes, hline⟩ := h
  have happend : sayAll host (before ++ [line] ++ after) =
      (do sayAll host before; say host line; sayAll host after) := by
    simp [sayAll]
  simp only [answer, happend, EStateM.run_bind, run_sayAll_of_takes log tree arguments htakes, say, EStateM.run_get,
    hline]
  rfl

theorem answer_print_of_takes (h : Takes host lines) (code : Int) :
    answer (do sayAll host lines; return code) ⟨[], log, tree, arguments⟩ = .ok code := by
  simp only [answer, EStateM.run_bind, run_sayAll_of_takes log tree arguments h]
  rfl

theorem answer_print_of_refuses {message : String} (h : Refuses host lines message) (code : Int) :
    answer (do sayAll host lines; return code) ⟨[], log, tree, arguments⟩ = .error (.output message) := by
  rw [answer_bind, answer_sayAll_of_refuses log tree arguments h]
  rfl

end

end

/-! ## Loading a grammar -/

/-- The errors that escape if the grammar file is loaded that an option gives. -/
inductive LoadEscapes (env : Environment) (tree : FileTree) : Option (Arguments.Value Path) → Escape → Prop where
  | void : LoadEscapes env tree (some .void) .voidPath
  | noDirectory {choice : Option Path} (hpath : env.grammarPath tree.currentPath? choice = none) :
      LoadEscapes env tree (choice.map .given) .noDirectory
  | file {choice : Option Path} {path : Path} {escape : Escape}
      (hpath : env.grammarPath tree.currentPath? choice = some path) (h : ReadEscapes tree path escape) :
      LoadEscapes env tree (choice.map .given) escape

def Loads (env : Environment) (tree : FileTree) (grammar : Option (Arguments.Value Path))
    (schema : Schema) : Prop :=
  ∃ choice path records, grammar = choice.map .given ∧
    env.grammarPath tree.currentPath? choice = some path ∧ loadSchema tree path = .ok (schema, records)

theorem run_load_of_ok {tree : FileTree} {path : Path} {schema : Schema} {records : List LogRecord}
    (h : loadSchema tree path = .ok (schema, records)) :
    (load path).run (start tree) = .ok (.ok schema) ⟨[], records, tree, none⟩ := by
  simp only [load, EStateM.run_bind, EStateM.run_get, start, h]
  rfl

theorem run_load_of_readEscapes {tree : FileTree} {path : Path} {escape : Escape}
    (h : ReadEscapes tree path escape) :
    (load path).run (start tree) = .error escape (start tree) := by
  obtain ⟨error, hread, hescape⟩ := readEscapes_iff.1 h
  simp only [load, EStateM.run_bind, EStateM.run_get, start, loadSchema, hread, hescape]
  rfl

/-- A grammar that cannot be loaded is reported, unless an error escapes. -/
theorem load_cases (env : Environment) (tree : FileTree) (grammar : Option (Arguments.Value Path)) :
    (∃ escape, LoadEscapes env tree grammar escape) ∨ ∃ choice path, grammar = choice.map .given ∧
      env.grammarPath tree.currentPath? choice = some path ∧
      ((∃ schema records, loadSchema tree path = .ok (schema, records)) ∨
        ∃ error, (load path).run (start tree) = .ok (.error error) (start tree)) := by
  rcases eq_void_or_given grammar with rfl | ⟨choice, rfl⟩
  · exact .inl ⟨_, .void⟩
  · cases hpath : env.grammarPath tree.currentPath? choice with
    | none => exact .inl ⟨_, .noDirectory hpath⟩
    | some path =>
      cases hload : loadSchema tree path with
      | ok found => exact .inr ⟨choice, path, rfl, hpath, .inl ⟨found.1, found.2, hload⟩⟩
      | error error =>
        cases error with
        | malformed error =>
          refine .inr ⟨choice, path, rfl, hpath, .inr ⟨.malformed error, ?_⟩⟩
          simp only [load, EStateM.run_bind, EStateM.run_get, start, hload]
          rfl
        | unreadable error =>
          have hread : tree.readText path = .error error := by
            unfold loadSchema at hload
            split at hload
            · cases hload
              assumption
            · split at hload <;> cases hload
          cases hescape : Escape.ofReadError? error with
          | some escape => exact .inl ⟨escape, .file hpath (readEscapes_iff.2 ⟨error, hread, hescape⟩)⟩
          | none =>
            refine .inr ⟨choice, path, rfl, hpath, .inr ⟨.unreadable error, ?_⟩⟩
            simp only [load, EStateM.run_bind, EStateM.run_get, start, hload, hescape]
            rfl

section
variable {env : Environment} {tree : FileTree} {choice : Option Path} {path : Path} {schema : Schema}
variable {records : List LogRecord} (hpath : env.grammarPath tree.currentPath? choice = some path)
variable (hload : loadSchema tree path = .ok (schema, records))
include hpath hload

/-- What is left to do once the grammar has been loaded. -/
theorem answer_complete (host : Host) (file : Path) (offset : Arguments.Value Int) :
    answer (complete host env file offset (choice.map .given)) (start tree) =
      match tree.readText file with
      | .error error =>
        match Escape.ofReadError? error with
        | some escape => .error escape
        | none => .ok 1
      | .ok text => answer (suggest host schema text offset) ⟨[], records, tree, none⟩ := by
  simp only [answer, complete, EStateM.run_bind, EStateM.run_get, start, run_chosenGrammar hpath]
  rw [← start, run_load_of_ok hload]
  cases tree.readText file with
  | ok text => rfl
  | error error =>
    dsimp only
    cases Escape.ofReadError? error <;> rfl

theorem answer_describe (host : Host) (tag : String) :
    answer (describe host env tag (choice.map .given)) (start tree) =
      match schema.content.get? tag, schema.describe? tag with
      | some content, some described =>
        answer (do sayAll host (tagLines tag content described); return 0) ⟨[], records, tree, none⟩
      | _, _ => .ok 1 := by
  simp only [answer, describe, EStateM.run_bind, start, run_chosenGrammar hpath]
  rw [← start, run_load_of_ok hload]
  dsimp only
  cases schema.content.get? tag with
  | none => rfl
  | some content => cases schema.describe? tag <;> rfl

end

/-! ## Failures and successes -/

/-- The errors that a command does not handle. -/
inductive Unhandled (host : Host) (env : Environment) (tree : FileTree) : Invocation → Escape → Prop where
  | voidOutput {bindings searchPath : Option Path} :
      Unhandled host env tree (.compile bindings searchPath (some .void)) .voidPath
  | noDirectory {bindings searchPath output : Option Path}
      (hpath : env.grammarPath tree.currentPath? output = none) :
      Unhandled host env tree (.compile bindings searchPath (output.map .given)) .noDirectory
  | output {bindings searchPath output : Option Path} {path : Path} {grammar : Grammar} {error : FileError}
      (hpath : env.grammarPath tree.currentPath? output = some path)
      (hgrammar : grammar.CompiledFrom tree (env.bindingsFile bindings) (env.typePath searchPath))
      (hwrite : tree.writeText path grammar.text = .error error)
      (hmissing : error.fault ≠ .notFound) (hnull : error.fault ≠ .nullCharacter) :
      Unhandled host env tree (.compile bindings searchPath (output.map .given)) (.file error)
  | completeGrammar {file : Path} {offset : Arguments.Value Int} {grammar : Option (Arguments.Value Path)}
      {escape : Escape} (h : LoadEscapes env tree grammar escape) :
      Unhandled host env tree (.complete file offset grammar) escape
  | completeFile {file : Path} {offset : Arguments.Value Int} {grammar : Option (Arguments.Value Path)}
      {schema : Schema} {escape : Escape} (hload : Loads env tree grammar schema)
      (h : ReadEscapes tree file escape) : Unhandled host env tree (.complete file offset grammar) escape
  | voidOffset {file : Path} {grammar : Option (Arguments.Value Path)} {schema : Schema} {text : String}
      (hload : Loads env tree grammar schema) (hread : tree.readText file = .ok text) :
      Unhandled host env tree (.complete file .void grammar) .voidOffset
  | completions {file : Path} {offset : Int} {grammar : Option (Arguments.Value Path)} {schema : Schema}
      {text message : String} (hload : Loads env tree grammar schema) (hread : tree.readText file = .ok text)
      (hrefuses : Refuses host (schema.complete text offset) message) :
      Unhandled host env tree (.complete file (.given offset) grammar) (.output message)
  | describeGrammar {tag : String} {grammar : Option (Arguments.Value Path)} {escape : Escape}
      (h : LoadEscapes env tree grammar escape) : Unhandled host env tree (.describe tag grammar) escape
  | description {tag message : String} {grammar : Option (Arguments.Value Path)} {schema : Schema}
      {content : ContentModel} {described : List (String × String)} (hload : Loads env tree grammar schema)
      (hcontent : schema.content.get? tag = some content) (hdescribed : schema.describe? tag = some described)
      (hrefuses : Refuses host (tagLines tag content described) message) :
      Unhandled host env tree (.describe tag grammar) (.output message)
  | settings {category : Option (Arguments.Value String)} {message : String}
      (hrefuses : Refuses host (settingLines env category) message) :
      Unhandled host env tree (.settings category) (.output message)
  | testRun {arguments : List String} {message : String}
      (hrefused : host.runTests (testArguments arguments) = .refused message) :
      Unhandled host env tree (.test arguments) (.testRun message)

/-- What it takes for a command on files to succeed. -/
inductive Succeeds (host : Host) (env : Environment) (tree : FileTree) : Invocation → Prop where
  | compile {bindings searchPath output : Option Path} {path : Path} {grammar : Grammar} {after : FileTree}
      (hpath : env.grammarPath tree.currentPath? output = some path)
      (hgrammar : grammar.CompiledFrom tree (env.bindingsFile bindings) (env.typePath searchPath))
      (hwrite : tree.writeText path grammar.text = .ok after) :
      Succeeds host env tree (.compile bindings searchPath (output.map .given))
  | complete {file : Path} {offset : Int} {grammar : Option (Arguments.Value Path)} {schema : Schema}
      {text : String} (hload : Loads env tree grammar schema) (hread : tree.readText file = .ok text)
      (htakes : Takes host (schema.complete text offset)) :
      Succeeds host env tree (.complete file (.given offset) grammar)
  | describe {tag : String} {grammar : Option (Arguments.Value Path)} {schema : Schema}
      (hload : Loads env tree grammar schema) (htag : tag ∈ schema.tags)
      (htakes : ∀ content ∈ schema.content.get? tag, ∀ described ∈ schema.describe? tag,
        Takes host (tagLines tag content described)) : Succeeds host env tree (.describe tag grammar)

end Command

def Invocation.usesFiles : Invocation → Bool
  | compile .. | complete .. | describe .. => true
  | settings _ | test _ => false

namespace Command

/-! ## Commands on files -/

theorem parse_of_loadSchema {tree : FileTree} {path : Path} {schema : Schema} {records : List LogRecord}
    (h : loadSchema tree path = .ok (schema, records)) : ∃ text, Schema.parse text = .ok schema := by
  unfold loadSchema at h
  split at h
  · cases h
  · rename_i text _
    split at h
    · cases h
    · rename_i found parsed hread
      cases h
      refine ⟨text, ?_⟩
      rw [← readSchema_eq, hread]
      rfl

/-- A schema that has been loaded describes the tags it has. -/
theorem describes_iff {tree : FileTree} {path : Path} {schema : Schema} {records : List LogRecord}
    (h : loadSchema tree path = .ok (schema, records)) (tag : String) :
    (∃ content described, schema.content.get? tag = some content ∧ schema.describe? tag = some described) ↔
      tag ∈ schema.tags := by
  obtain ⟨text, hparse⟩ := parse_of_loadSchema h
  obtain ⟨ds, -, -, hdescribes⟩ := Schema.parse_sound hparse
  constructor
  · rintro ⟨content, -, hcontent, -⟩
    rw [hdescribes.tags, ← hdescribes.content]
    exact List.mem_map.2 ⟨_, Table.get?_eq_some_iff.1 hcontent, rfl⟩
  · intro htag
    have hcontent : tag ∈ schema.content.keys := by
      rw [Table.keys, hdescribes.content, ← hdescribes.tags]
      exact htag
    obtain ⟨content, hcontent⟩ := Table.mem_keys_iff.1 hcontent
    obtain ⟨names, hnames⟩ := Table.mem_keys_iff.1 (hdescribes.keys_attributes ▸ htag)
    have hdescribed : ∃ described, schema.describe? tag = some described := by
      simp only [Schema.describe?, List.contains_iff_mem.2 htag, Table.get?_eq_some_iff.2 hnames]
      exact ⟨_, rfl⟩
    obtain ⟨described, hdescribed⟩ := hdescribed
    exact ⟨content, described, Table.get?_eq_some_iff.2 hcontent, hdescribed⟩

theorem answer_of_succeeds {host : Host} {env : Environment} {tree : FileTree} {invocation : Invocation}
    (h : Succeeds host env tree invocation) : answer (invocation.steps host env) (start tree) = .ok 0 := by
  cases h with
  | @compile bindings searchPath output path grammar after hpath hgrammar hwrite =>
    rcases compile_cases hpath bindings searchPath with
      ⟨_, _, -, -, hends⟩ | ⟨other, error, hother, herror, -⟩ | ⟨hnone, -⟩
    · exact hends.answer
    · obtain rfl := hgrammar.unique hother
      rw [hwrite] at herror
      cases herror
    · obtain ⟨error, herror, -⟩ := hnone grammar hgrammar
      rw [hwrite] at herror
      cases herror
  | @complete file offset grammar schema text hload hread htakes =>
    obtain ⟨choice, path, records, rfl, hpath, hload⟩ := hload
    rw [Invocation.steps, answer_complete hpath hload, hread]
    exact answer_print_of_takes _ tree none htakes 0
  | @describe tag grammar schema hload htag htakes =>
    obtain ⟨choice, path, records, rfl, hpath, hload⟩ := hload
    obtain ⟨content, described, hcontent, hdescribed⟩ := (describes_iff hload tag).2 htag
    rw [Invocation.steps, answer_describe hpath hload, hcontent, hdescribed]
    exact answer_print_of_takes records tree none (htakes content hcontent described hdescribed) 0

theorem answer_of_unhandled {host : Host} {env : Environment} {tree : FileTree} {invocation : Invocation}
    {escape : Escape} (h : Unhandled host env tree invocation escape) :
    answer (invocation.steps host env) (start tree) = .error escape := by
  cases h with
  | voidOutput => rfl
  | noDirectory hpath => exact (compile_of_noDirectory hpath).answer
  | @output bindings searchPath output path grammar error hpath hgrammar hwrite hmissing hnull =>
    rcases compile_cases hpath bindings searchPath with
      ⟨other, after, hother, hwritten, -⟩ | ⟨other, error', hother, herror, -, -, hends⟩ | ⟨hnone, -⟩
    · obtain rfl := hgrammar.unique hother
      rw [hwrite] at hwritten
      cases hwritten
    · obtain rfl := hgrammar.unique hother
      rw [hwrite] at herror
      cases herror
      exact hends.answer
    · obtain ⟨error', herror, hfault⟩ := hnone grammar hgrammar
      rw [hwrite] at herror
      cases herror
      exact absurd hfault (not_or.2 ⟨hmissing, hnull⟩)
  | completeGrammar h =>
    cases h with
    | void => rfl
    | noDirectory hpath =>
      simp only [Invocation.steps, answer, complete, EStateM.run_bind, start, run_chosenGrammar_of_none hpath]
    | file hpath h =>
      simp only [Invocation.steps, answer, complete, EStateM.run_bind, EStateM.run_get, start,
        run_chosenGrammar hpath]
      rw [← start, run_load_of_readEscapes h]
  | completeFile hload h =>
    obtain ⟨choice, path, records, rfl, hpath, hload⟩ := hload
    obtain ⟨error, hread, hescape⟩ := readEscapes_iff.1 h
    rw [Invocation.steps, answer_complete hpath hload, hread]
    simp only [hescape]
  | voidOffset hload hread =>
    obtain ⟨choice, path, records, rfl, hpath, hload⟩ := hload
    rw [Invocation.steps, answer_complete hpath hload, hread]
    rfl
  | completions hload hread hrefuses =>
    obtain ⟨choice, path, records, rfl, hpath, hload⟩ := hload
    rw [Invocation.steps, answer_complete hpath hload, hread]
    exact answer_print_of_refuses _ tree none hrefuses 0
  | describeGrammar h =>
    cases h with
    | void => rfl
    | noDirectory hpath =>
      simp only [Invocation.steps, answer, describe, EStateM.run_bind, start, run_chosenGrammar_of_none hpath]
    | file hpath h =>
      simp only [Invocation.steps, answer, describe, EStateM.run_bind, start, run_chosenGrammar hpath]
      rw [← start, run_load_of_readEscapes h]
  | description hload hcontent hdescribed hrefuses =>
    obtain ⟨choice, path, records, rfl, hpath, hload⟩ := hload
    rw [Invocation.steps, answer_describe hpath hload, hcontent, hdescribed]
    exact answer_print_of_refuses records tree none hrefuses 0
  | settings hrefuses => exact answer_print_of_refuses [] tree none hrefuses 0
  | testRun hrefused =>
    simp only [Invocation.steps, test, hrefused]
    rfl

theorem answer_of_failure {host : Host} {env : Environment} {tree : FileTree} {invocation : Invocation}
    (huses : invocation.usesFiles = true) (hfails : ¬Succeeds host env tree invocation)
    (hhandled : ∀ escape, ¬Unhandled host env tree invocation escape) :
    answer (invocation.steps host env) (start tree) = .ok 1 := by
  cases invocation with
  | settings category => cases huses
  | test arguments => cases huses
  | compile bindings searchPath output =>
    rcases eq_void_or_given output with rfl | ⟨output, rfl⟩
    · exact absurd .voidOutput (hhandled _)
    · cases hpath : env.grammarPath tree.currentPath? output with
      | none => exact absurd (.noDirectory hpath) (hhandled _)
      | some path =>
        rcases compile_cases hpath bindings searchPath with
          ⟨grammar, after, hgrammar, hwrite, -⟩ | ⟨grammar, error, hgrammar, hwrite, hmissing, hnull, -⟩ |
          ⟨-, hends⟩
        · exact absurd (.compile hpath hgrammar hwrite) hfails
        · exact absurd (.output hpath hgrammar hwrite hmissing hnull) (hhandled _)
        · exact hends.answer
  | complete file offset grammar =>
    rcases load_cases env tree grammar with ⟨escape, hescape⟩ | ⟨choice, path, rfl, hpath, hload⟩
    · exact absurd (.completeGrammar hescape) (hhandled escape)
    · rcases hload with ⟨schema, records, hload⟩ | ⟨error, hrun⟩
      · have hloads : Loads env tree (choice.map .given) schema := ⟨choice, path, records, rfl, hpath, hload⟩
        rw [Invocation.steps, answer_complete hpath hload]
        cases hread : tree.readText file with
        | ok text =>
          cases offset with
          | void => exact absurd (.voidOffset hloads hread) (hhandled _)
          | given offset =>
            rcases takes_or_refuses host (schema.complete text offset) with htakes | ⟨message, hrefuses⟩
            · exact absurd (.complete hloads hread htakes) hfails
            · exact absurd (.completions hloads hread hrefuses) (hhandled _)
        | error error =>
          cases hescape : Escape.ofReadError? error with
          | none => simp only [hescape]
          | some escape =>
            exact absurd (.completeFile hloads (readEscapes_iff.2 ⟨error, hread, hescape⟩)) (hhandled escape)
      · simp only [Invocation.steps, answer, complete, EStateM.run_bind, EStateM.run_get, start,
          run_chosenGrammar hpath]
        rw [← start, hrun]
        cases error <;> rfl
  | describe tag grammar =>
    rcases load_cases env tree grammar with ⟨escape, hescape⟩ | ⟨choice, path, rfl, hpath, hload⟩
    · exact absurd (.describeGrammar hescape) (hhandled escape)
    · rcases hload with ⟨schema, records, hload⟩ | ⟨error, hrun⟩
      · have hloads : Loads env tree (choice.map .given) schema := ⟨choice, path, records, rfl, hpath, hload⟩
        rw [Invocation.steps, answer_describe hpath hload]
        cases hcontent : schema.content.get? tag with
        | none => rfl
        | some content =>
          cases hdescribed : schema.describe? tag with
          | none => rfl
          | some described =>
            rcases takes_or_refuses host (tagLines tag content described) with htakes | ⟨message, hrefuses⟩
            · refine absurd (.describe hloads ((describes_iff hload tag).1 ⟨_, _, hcontent, hdescribed⟩) ?_) hfails
              rw [hcontent, hdescribed]
              rintro _ ⟨⟩ _ ⟨⟩
              exact htakes
            · exact absurd (.description hloads hcontent hdescribed hrefuses) (hhandled _)
      · simp only [Invocation.steps, answer, describe, EStateM.run_bind, start, run_chosenGrammar hpath]
        rw [← start, hrun]
        rfl

theorem answer_of_not_usesFiles {host : Host} {env : Environment} {tree : FileTree} {invocation : Invocation}
    (h : invocation.usesFiles = false) (hhandled : ∀ escape, ¬Unhandled host env tree invocation escape) :
    ∃ code, answer (invocation.steps host env) (start tree) = .ok code := by
  cases invocation with
  | compile bindings searchPath output => cases h
  | complete file offset grammar => cases h
  | describe tag grammar => cases h
  | settings category =>
    rcases takes_or_refuses host (settingLines env category) with htakes | ⟨message, hrefuses⟩
    · exact ⟨0, answer_print_of_takes [] tree none htakes 0⟩
    · exact absurd (.settings hrefuses) (hhandled _)
  | test arguments =>
    simp only [Invocation.steps, test]
    cases hrun : host.runTests (testArguments arguments) with
    | finished code => exact ⟨code, rfl⟩
    | interrupted => exact ⟨130, rfl⟩
    | refused message => exact absurd (.testRun hrun) (hhandled _)

section
variable {host : Host} {env : Environment} {tree : FileTree} {invocation : Invocation}

theorem answer_eq_error_iff {escape : Escape} : answer (invocation.steps host env) (start tree) = .error escape ↔
    Unhandled host env tree invocation escape := by
  refine ⟨fun hanswer => ?_, answer_of_unhandled⟩
  by_contra hhandled
  have hall : ∀ other, ¬Unhandled host env tree invocation other := by
    intro other hother
    rw [answer_of_unhandled hother] at hanswer
    cases hanswer
    exact hhandled hother
  by_cases huses : invocation.usesFiles = true
  · by_cases hsucceeds : Succeeds host env tree invocation
    · rw [answer_of_succeeds hsucceeds] at hanswer
      cases hanswer
    · rw [answer_of_failure huses hsucceeds hall] at hanswer
      cases hanswer
  · obtain ⟨code, hcode⟩ := answer_of_not_usesFiles (Bool.not_eq_true _ ▸ huses) hall
    rw [hcode] at hanswer
    cases hanswer

theorem answer_eq_zero_iff (huses : invocation.usesFiles = true) :
    answer (invocation.steps host env) (start tree) = .ok 0 ↔ Succeeds host env tree invocation := by
  refine ⟨fun hanswer => ?_, answer_of_succeeds⟩
  by_contra hfails
  have hfailure : answer (invocation.steps host env) (start tree) = .ok 1 := by
    apply answer_of_failure huses hfails
    intro escape hescape
    rw [answer_of_unhandled hescape] at hanswer
    cases hanswer
  rw [hfailure] at hanswer
  cases hanswer

theorem answer_eq_one_iff (huses : invocation.usesFiles = true) :
    answer (invocation.steps host env) (start tree) = .ok 1 ↔ ¬Succeeds host env tree invocation ∧
      ∀ escape, ¬Unhandled host env tree invocation escape := by
  refine ⟨fun hanswer => ⟨?_, ?_⟩, fun h => answer_of_failure huses h.1 h.2⟩
  · intro hsucceeds
    rw [answer_of_succeeds hsucceeds] at hanswer
    cases hanswer
  · intro escape hescape
    rw [answer_of_unhandled hescape] at hanswer
    cases hanswer

end

/-! ## Runs -/

/-- The arguments name a command, and its own arguments are read like this. -/
def Invokes (edition : Arguments.Edition) (arguments : List String)
    (reading : Except Arguments.Stop Invocation) : Prop :=
  ∃ name rest, arguments = name :: rest ∧ Invocation.read? edition name rest = some reading

/-- The errors that a run does not handle. -/
inductive Escapes (host : Host) (tree : FileTree) (arguments : List String) : Escape → Prop where
  | help {message : String} (hnone : ∀ reading, ¬Invokes host.edition arguments reading)
      (hrefuses : Refuses host help message) : Escapes host tree arguments (.output message)
  | settings {reading : Except Arguments.Stop Invocation} {message : String}
      (hinvokes : Invokes host.edition arguments reading) (hsettings : host.settings = .error message) :
      Escapes host tree arguments (.settings message)
  | command {env : Environment} {invocation : Invocation} {escape : Escape} (hsettings : host.settings = .ok env)
      (hinvokes : Invokes host.edition arguments (.ok invocation)) (h : Unhandled host env tree invocation escape) :
      Escapes host tree arguments escape

section
variable {host : Host} {env : Environment} {tree : FileTree} {arguments : List String}

theorem outcome_of_settings_error {reading : Except Arguments.Stop Invocation} {message : String}
    (h : Invokes host.edition arguments reading) (hsettings : host.settings = .error message) :
    (run host tree arguments).outcome = .escaped (.settings message) := by
  obtain ⟨name, rest, rfl, hread⟩ := h
  rw [run_of_settings_error hread hsettings]
  rfl

theorem outcome_of_stop {stop : Arguments.Stop} (h : Invokes host.edition arguments (.error stop))
    (hsettings : host.settings = .ok env) : (run host tree arguments).outcome = .usage stop := by
  obtain ⟨name, rest, rfl, hread⟩ := h
  rw [run_of_stop hread hsettings]
  rfl

theorem outcome_of_invocation {invocation : Invocation} (h : Invokes host.edition arguments (.ok invocation))
    (hsettings : host.settings = .ok env) :
    (run host tree arguments).outcome = .ofAnswer (answer (invocation.steps host env) (start tree)) := by
  obtain ⟨name, rest, rfl, hread⟩ := h
  rw [run_of_invocation hread hsettings, outcome_runSteps]

/-- Without a command, the help is shown. -/
theorem outcome_of_not_invokes (h : ∀ reading, ¬Invokes host.edition arguments reading) :
    ∃ code : Int, (run host tree arguments).outcome =
      .ofAnswer (answer (do sayAll host help; return code) (start tree)) := by
  cases arguments with
  | nil => exact ⟨1, outcome_finished tree _ none⟩
  | cons name rest =>
    cases hread : Invocation.read? host.edition name rest with
    | some reading => exact absurd ⟨name, rest, rfl, hread⟩ (h reading)
    | none =>
      rw [run, hread]
      split
      · exact ⟨0, outcome_finished tree _ _⟩
      · exact ⟨1, outcome_finished tree _ _⟩

theorem usage_iff {stop : Arguments.Stop} : (run host tree arguments).outcome = .usage stop ↔
    Invokes host.edition arguments (.error stop) ∧ ∃ env, host.settings = .ok env := by
  have hanswered : ∀ result : Except Escape Int, Outcome.ofAnswer result ≠ .usage stop := by
    rintro (escape | code) <;> simp [Outcome.ofAnswer]
  constructor
  · intro houtcome
    by_cases hinvokes : ∃ reading, Invokes host.edition arguments reading
    · obtain ⟨reading, hinvokes⟩ := hinvokes
      cases hsettings : host.settings with
      | error message =>
        rw [outcome_of_settings_error hinvokes hsettings] at houtcome
        cases houtcome
      | ok env =>
        cases reading with
        | error other =>
          rw [outcome_of_stop hinvokes hsettings] at houtcome
          cases houtcome
          exact ⟨hinvokes, env, rfl⟩
        | ok invocation =>
          rw [outcome_of_invocation hinvokes hsettings] at houtcome
          exact absurd houtcome (hanswered _)
    · obtain ⟨code, hcode⟩ := @outcome_of_not_invokes host tree arguments (not_exists.1 hinvokes)
      rw [hcode] at houtcome
      exact absurd houtcome (hanswered _)
  · rintro ⟨hinvokes, env, hsettings⟩
    exact outcome_of_stop hinvokes hsettings

theorem escaped_iff {escape : Escape} :
    (run host tree arguments).outcome = .escaped escape ↔ Escapes host tree arguments escape := by
  constructor
  · intro houtcome
    by_cases hinvokes : ∃ reading, Invokes host.edition arguments reading
    · obtain ⟨reading, hinvokes⟩ := hinvokes
      cases hsettings : host.settings with
      | error message =>
        rw [outcome_of_settings_error hinvokes hsettings] at houtcome
        cases houtcome
        exact .settings hinvokes hsettings
      | ok env =>
        cases reading with
        | error stop =>
          rw [outcome_of_stop hinvokes hsettings] at houtcome
          cases houtcome
        | ok invocation =>
          rw [outcome_of_invocation hinvokes hsettings, Outcome.ofAnswer_eq_escaped_iff, answer_eq_error_iff]
            at houtcome
          exact .command hsettings hinvokes houtcome
    · have hnone := not_exists.1 hinvokes
      obtain ⟨code, hcode⟩ := @outcome_of_not_invokes host tree arguments hnone
      rw [hcode, Outcome.ofAnswer_eq_escaped_iff, start] at houtcome
      rcases takes_or_refuses host help with htakes | ⟨message, hrefuses⟩
      · rw [answer_print_of_takes [] tree none htakes] at houtcome
        cases houtcome
      · rw [answer_print_of_refuses [] tree none hrefuses] at houtcome
        cases houtcome
        exact .help hnone hrefuses
  · intro h
    cases h with
    | help hnone hrefuses =>
      obtain ⟨code, hcode⟩ := @outcome_of_not_invokes host tree arguments hnone
      rw [hcode, start, answer_print_of_refuses [] tree none hrefuses]
      rfl
    | settings hinvokes hsettings => exact outcome_of_settings_error hinvokes hsettings
    | command hsettings hinvokes h =>
      rw [outcome_of_invocation hinvokes hsettings, answer_of_unhandled h]
      rfl

end

/-- **Runs end with an exit code**, unless the arguments are misused or an error is not handled. If a
command on files fails in any other way, the exit code is 1. -/
theorem run_outcome (host : Host) (tree : FileTree) (arguments : List String) :
    (∀ stop, (run host tree arguments).outcome = .usage stop ↔
      Invokes host.edition arguments (.error stop) ∧ ∃ env, host.settings = .ok env) ∧
    (∀ escape, (run host tree arguments).outcome = .escaped escape ↔ Escapes host tree arguments escape) ∧
    ∀ env invocation, host.settings = .ok env → Invokes host.edition arguments (.ok invocation) →
      invocation.usesFiles = true →
      ((run host tree arguments).outcome = .exit 0 ↔ Succeeds host env tree invocation) ∧
      ((run host tree arguments).outcome = .exit 1 ↔ ¬Succeeds host env tree invocation ∧
        ∀ escape, ¬Unhandled host env tree invocation escape) := by
  refine ⟨fun stop => usage_iff, fun escape => escaped_iff, fun env invocation hsettings hinvokes huses => ?_⟩
  rw [outcome_of_invocation hinvokes hsettings, Outcome.ofAnswer_eq_exit_iff, Outcome.ofAnswer_eq_exit_iff]
  exact ⟨answer_eq_zero_iff huses, answer_eq_one_iff huses⟩

/-! ### Files that make errors escape -/

/-- A host that fails in nothing. -/
def steady : Host :=
  ⟨.ok ⟨.empty⟩, "python", fun _ => .finished 0, fun _ _ => none, .later⟩

/-- A grammar file with a byte that starts no character. -/
def undecodable : FileTree :=
  ⟨[], [(["sierra.dtd"], .file ⟨#[0xff]⟩)]⟩

/-- A directory where the grammar is to be written. -/
def occupied : FileTree :=
  ⟨[], [(["out"], .directory)]⟩

theorem read?_describe_button : Invocation.read? .later "describe" ["button"] =
    some (.ok (.describe "button" (Option.map .given none))) := by
  have hvalues : Arguments.read .later describeRules ["button"] = .ok ⟨.empty, [some (.given "button")]⟩ := by
    show Arguments.readWords .later describeRules ⟨⟨.empty, []⟩, describeRules.positionals, false⟩
      [.plain "button"] = _
    unfold Arguments.readWords
    rfl
  show some (Arguments.read .later describeRules ["button"] >>= _) = _
  rw [hvalues]
  rfl

theorem read?_compile_out : Invocation.read? .later "compile" ["-o", "out"] =
    some (.ok (.compile none none (Option.map .given (some ⟨.here, ["out"]⟩)))) := by
  have hvalues : Arguments.read .later compileRules ["-o", "out"] =
      .ok ⟨Table.empty.insert "--output" (.given "out"), [none, none]⟩ := by
    show Arguments.readWords .later compileRules ⟨⟨.empty, []⟩, compileRules.positionals, false⟩
      [.flag (.value ⟨'o', "--output", anyValue⟩) none, .plain "out"] = _
    unfold Arguments.readWords
    show Arguments.readWords .later compileRules
      ⟨⟨Table.empty.insert "--output" (.given "out"), []⟩, compileRules.positionals, false⟩ [] = _
    unfold Arguments.readWords
    rfl
  rw [read?_compile, hvalues]
  rfl

/-- Neither an undecodable grammar file nor a directory in the place of the output is handled. -/
theorem run_escapes_on_files :
    (run steady undecodable ["describe", "button"]).outcome = .escaped (.encoding ⟨0, 1, 0xff, .badStart⟩) ∧
    (run steady occupied ["compile", "-o", "out"]).outcome =
      .escaped (.file ⟨.isDirectory, ⟨.root, ["out"]⟩⟩) := by
  constructor
  · have hread : undecodable.read ⟨.root, ["sierra.dtd"]⟩ = .ok ⟨#[0xff]⟩ := rfl
    have hdecode : FileTree.decodeText ⟨#[0xff]⟩ = .error ⟨0, 1, 0xff, .badStart⟩ := rfl
    have hload : LoadEscapes ⟨.empty⟩ undecodable (Option.map .given none)
        (.encoding ⟨0, 1, 0xff, .badStart⟩) := .file rfl (.undecodable hread hdecode)
    exact escaped_iff.2 (.command rfl ⟨_, _, rfl, read?_describe_button⟩ (.describeGrammar hload))
  · have hgrammar : ∃ grammar, answer Compile.grammar ⟨Registry.standard none, []⟩ = .ok grammar :=
      Registry.grammar_standard (by simp) []
    obtain ⟨grammar, hgrammar⟩ := hgrammar
    obtain ⟨bench, hrun⟩ := answer_eq_ok_iff.1 hgrammar
    have hcompiled : grammar.CompiledFrom occupied none none := ⟨_, _, bench, rfl, hrun⟩
    have hwrite : occupied.writeText ⟨.root, ["out"]⟩ grammar.text =
        .error ⟨.isDirectory, ⟨.root, ["out"]⟩⟩ := rfl
    exact escaped_iff.2 (.command rfl ⟨_, _, rfl, read?_compile_out⟩
      (.output rfl hcompiled hwrite (by simp) (by simp)))

end Command

end TagGrammar
