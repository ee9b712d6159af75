import TagGrammar.Arguments
import TagGrammar.GrammarFile
import TagGrammar.Inputs

/-!
# Commands

The commands of the program, as functions of the arguments, the host and the file tree. A run ends
with an exit code, with a note on how the command is used, or with an error that the command does
not handle; it prints lines, writes records and may change the file tree.

The host stands for what the program finds around it. Three of its services may fail, and no command
handles that: loading the settings, starting a test run, and printing.
-/

namespace TagGrammar

/-! ## Runs -/

/-- How a test run ends. One that is refused has not been started. -/
inductive TestOutcome where
  | finished (code : Int)
  | interrupted
  | refused (message : String)

/-- What a run finds around it. -/
structure Host where
  /-- The environment variables together with those of the settings file, or why that file cannot be
  loaded. -/
  settings : Except String Environment
  interpreter : String
  /-- What running tests with some arguments leads to. -/
  runTests : List String → TestOutcome
  /-- Why the output does not take a line after those that it has taken. -/
  refusal? : List String → String → Option String
  edition : Arguments.Edition

/-- An error that a run does not handle. -/
inductive Escape where
  | settings (message : String)
  | noDirectory
  | file (error : FileError)
  | encoding (fault : Text.Utf8.Fault)
  | voidPath
  | voidOffset
  | testRun (message : String)
  | output (message : String)

def Escape.message : Escape → String
  | settings message | testRun message | output message => message
  | noDirectory => FileFault.notFound.message
  | file error => error.message
  | encoding fault => fault.message
  | voidPath => "expected str, bytes or os.PathLike object, not list"
  | voidOffset => "'<=' not supported between instances of 'int' and 'list'"

/-- The error that escapes if a file cannot be read. Commands handle files that are missing or
misplaced, but not undecodable ones and not paths that no file can have. -/
def Escape.ofReadError? : ReadError → Option Escape
  | .file error => if error.fault = .nullCharacter then some (.file error) else none
  | .encoding fault => some (.encoding fault)

inductive Outcome where
  | exit (code : Int)
  | usage (stop : Arguments.Stop)
  | escaped (error : Escape)

/-- What a run has done so far: the printed lines, the records, the file tree and the arguments
that a test run was given. -/
structure Progress where
  printed : List String
  log : List LogRecord
  tree : FileTree
  testArguments : Option (List String)

/-- A finished run. A complaint is reported as it is, whatever the log level. -/
structure Run where
  outcome : Outcome
  progress : Progress
  complaint : Option String

/-- A step of a command. What it has done counts also if an error escapes. -/
abbrev CommandM := EStateM Escape Progress

namespace Command

def say (host : Host) (line : String) : CommandM Unit := do
  match host.refusal? (← get).printed line with
  | none => modify fun progress => { progress with printed := progress.printed ++ [line] }
  | some message => throw (.output message)

def sayAll (host : Host) (lines : List String) : CommandM Unit :=
  lines.forM (say host)

def recordAll (records : List LogRecord) : CommandM Unit :=
  modify fun progress => { progress with log := progress.log ++ records }

def record (level : Level) (message : String) : CommandM Unit :=
  recordAll [⟨"cli", level, message⟩]

/-- Reports an error and ends with exit code 1. -/
def fail (message : String) : CommandM Int := do
  record .error message
  return 1

/-- The path that an option gives, if it is used. -/
def givenPath : Option (Arguments.Value Path) → CommandM (Option Path)
  | none => return none
  | some (.given path) => return some path
  | some .void => throw .voidPath

/-- The path of the grammar file that an option gives, or that of the settings. -/
def chosenGrammar (env : Environment) (choice : Option (Arguments.Value Path)) : CommandM Path := do
  let choice ← givenPath choice
  match env.grammarPath (← get).tree.currentPath? choice with
  | some path => return path
  | none => throw .noDirectory

def padded (width : Nat) (text : String) : String :=
  text ++ String.ofList (List.replicate (width - text.length) ' ')

/-! ## Compiling -/

def runInputs {α : Type} (steps : InputM α) : CommandM (Except InputError α) := do
  match steps.run (← get).log with
  | .ok value log =>
    modify fun progress => { progress with log }
    return .ok value
  | .error error log =>
    modify fun progress => { progress with log }
    return .error error

/-- Compiles the grammar and writes it. A file that could not be written is removed. -/
def compile (env : Environment) (bindings searchPath : Option Path)
    (output : Option (Arguments.Value Path)) : CommandM Int := do
  let output ← chosenGrammar env output
  let tree := (← get).tree
  let steps := compileFile env tree (env.bindingsFile bindings) (env.typePath searchPath)
    (some output)
  match ← runInputs steps with
  | .ok (grammar, path, tree) =>
    modify fun progress => { progress with tree }
    record .info
      s!"Grammar: {path} ({grammar.types.length} types, {grammar.elements.length} tags)"
    return 0
  | .error (.notWritten path error) =>
    record .error (InputError.notWritten path error).message
    match tree.remove path with
    | .ok tree =>
      modify fun progress => { progress with tree }
      return 1
    | .error error => throw (.file error)
  | .error error => fail s!"Compilation failed: {error.message}"

/-! ## Using a compiled grammar -/

def load (path : Path) : CommandM (Except GrammarFileError Schema) := do
  match loadSchema (← get).tree path with
  | .ok (schema, records) =>
    recordAll records
    return .ok schema
  | .error (.malformed error) => return .error (.malformed error)
  | .error (.unreadable error) =>
    match Escape.ofReadError? error with
    | some escape => throw escape
    | none => return .error (.unreadable error)

def suggest (host : Host) (schema : Schema) (text : String) : Arguments.Value Int → CommandM Int
  | .void => throw .voidOffset
  | .given offset => do
    recordAll [schema.completionRecord text offset]
    sayAll host (schema.complete text offset)
    return 0

def complete (host : Host) (env : Environment) (file : Path) (offset : Arguments.Value Int)
    (grammar : Option (Arguments.Value Path)) : CommandM Int := do
  let path ← chosenGrammar env grammar
  let tree := (← get).tree
  match ← load path with
  | .error (.malformed error) => fail s!"Invalid grammar {path}: {error.message}"
  | .error (.unreadable error) =>
    record .error s!"Could not read grammar {path}: {error.message}"
    record .info "Run 'python -m markup_assist compile' first"
    return 1
  | .ok schema =>
    match tree.readText file with
    | .error error =>
      match Escape.ofReadError? error with
      | some escape => throw escape
      | none => fail s!"Could not read {file}: {error.message}"
    | .ok text => suggest host schema text offset

/-- What is printed of a tag. -/
def tagLines (tag : String) (content : ContentModel) (described : List (String × String)) :
    List String :=
  s!"<{tag}> ({content.word})" ::
    described.map fun entry => "  " ++ padded 32 entry.1 ++ " " ++ entry.2

def describe (host : Host) (env : Environment) (tag : String)
    (grammar : Option (Arguments.Value Path)) : CommandM Int := do
  let path ← chosenGrammar env grammar
  match ← load path with
  | .error error => fail s!"Could not load grammar {path}: {error.message}"
  | .ok schema =>
    match schema.content.get? tag, schema.describe? tag with
    | some content, some described =>
      sayAll host (tagLines tag content described)
      return 0
    | _, _ => fail s!"Unknown tag: {tag}"

/-! ## Settings and tests -/

/-- The variables of a group, or all of them. No variable is in a void group. -/
def listedVariables : Option (Arguments.Value String) → List Variable
  | none => Variable.list none
  | some (.given group) => Variable.list (some group)
  | some .void => []

/-- What is printed of the settings of a group, or of all of them. -/
def settingLines (env : Environment) (category : Option (Arguments.Value String)) : List String :=
  (listedVariables category).map fun v =>
    padded 22 v.name ++ " " ++ padded 28 (env.value v).toString ++ " " ++ v.description

def showSettings (host : Host) (env : Environment) (category : Option (Arguments.Value String)) :
    CommandM Int := do
  sayAll host (settingLines env category)
  return 0

def tierArguments? : String → Option (List String)
  | "--unit" => some ["-m", "unit"]
  | "--all" => some []
  | _ => none

/-- The arguments of a test run: those that tiers stand for, then the others. -/
def testArguments (arguments : List String) : List String :=
  ["-m", "pytest"] ++ (arguments.filterMap tierArguments?).flatten ++
    arguments.filter fun argument => (tierArguments? argument).isNone

def test (host : Host) (arguments : List String) : CommandM Int := do
  let arguments := testArguments arguments
  let shown := " ".intercalate (host.interpreter :: arguments)
  record .info s!"Running: {shown}"
  modify fun progress => { progress with testArguments := some arguments }
  match host.runTests arguments with
  | .finished code => return code
  | .interrupted => return 130
  | .refused message => throw (.testRun message)

/-! ## Arguments -/

def anyValue : String → Bool :=
  fun _ => true

def anyPositional (required : Bool) : Arguments.PositionalRule :=
  ⟨required, anyValue⟩

def grammarOption : Arguments.OptionRule :=
  ⟨'g', "--grammar", anyValue⟩

def compileRules : Arguments.Rules :=
  ⟨[anyPositional false, anyPositional false], [⟨'o', "--output", anyValue⟩]⟩

def completeRules : Arguments.Rules :=
  ⟨[anyPositional true, ⟨true, fun text => (Text.readInt? text.toList).isSome⟩], [grammarOption]⟩

def describeRules : Arguments.Rules :=
  ⟨[anyPositional true], [grammarOption]⟩

def settingsRules : Arguments.Rules :=
  ⟨[], [⟨'c', "--category", ["grammar", "compiler", "logging"].contains⟩]⟩

def optionPath (values : Arguments.Values) (name : String) : Option (Arguments.Value Path) :=
  (values.options.get? name).map (·.map Path.ofString)

/-- The path that a positional value names, if it is there. -/
def positionalPath (values : Arguments.Values) (n : Nat) : Option Path :=
  match values.positionals[n]? with
  | some (some (.given text)) => some (Path.ofString text)
  | _ => none

def readOffset : Arguments.Value String → Except Arguments.Stop (Arguments.Value Int)
  | .void => .ok .void
  | .given text =>
    match Text.readInt? text.toList with
    | some offset => .ok (.given offset)
    | none => .error .misuse

end Command

/-! ## Invocations -/

inductive Invocation where
  | compile (bindings searchPath : Option Path) (output : Option (Arguments.Value Path))
  | complete (file : Path) (offset : Arguments.Value Int) (grammar : Option (Arguments.Value Path))
  | describe (tag : String) (grammar : Option (Arguments.Value Path))
  | settings (category : Option (Arguments.Value String))
  | test (arguments : List String)

namespace Invocation

open Command

/-- Reads the arguments of the command with a name, if there is such a command. -/
def read? (edition : Arguments.Edition) (name : String) (arguments : List String) :
    Option (Except Arguments.Stop Invocation) :=
  match name with
  | "compile" => some do
    let values ← Arguments.read edition compileRules arguments
    return compile (positionalPath values 0) (positionalPath values 1)
      (optionPath values "--output")
  | "complete" => some do
    let values ← Arguments.read edition completeRules arguments
    match values.positionals with
    | [some (.given file), some offset] =>
      return complete (Path.ofString file) (← readOffset offset) (optionPath values "--grammar")
    | _ => throw .misuse
  | "describe" => some do
    let values ← Arguments.read edition describeRules arguments
    match values.positionals with
    | [some (.given tag)] => return describe tag (optionPath values "--grammar")
    | _ => throw .misuse
  | "env" => some do
    let values ← Arguments.read edition settingsRules arguments
    return settings (values.options.get? "--category")
  | "test" => some (.ok (test arguments))
  | _ => none

def steps (host : Host) (env : Environment) : Invocation → CommandM Int
  | compile bindings searchPath output => Command.compile env bindings searchPath output
  | complete file offset grammar => Command.complete host env file offset grammar
  | describe tag grammar => Command.describe host env tag grammar
  | settings category => Command.showSettings host env category
  | test arguments => Command.test host arguments

/-- The path of the grammar file that an option gives. A void option gives none. -/
def grammarPaths (env : Environment) (working : Option Path) :
    Option (Arguments.Value Path) → List Path
  | none => (env.grammarPath working none).toList
  | some (.given path) => (env.grammarPath working (some path)).toList
  | some .void => []

def paths (env : Environment) (working : Option Path) : Invocation → List Path
  | compile bindings searchPath output =>
    (env.bindingsFile bindings).toList ++ (env.typePath searchPath).toList ++
      grammarPaths env working output
  | complete file _ grammar => grammarPaths env working grammar ++ [file]
  | describe _ grammar => grammarPaths env working grammar
  | settings _ => []
  | test _ => []

end Invocation

namespace Command

/-! ## The program -/

def help : List String :=
  ["Usage: python -m markup_assist \x7bcommand\x7d [args]",
    "\n=== Grammar ===",
    "  compile    Compile the markup grammar file",
    "  describe   List a tag's attributes and values",
    "\n=== Editing ===",
    "  complete   Suggest names at a caret offset",
    "\n=== Development ===",
    "  env        Show configuration variables",
    "  test       Run the test suite",
    "\nExamples:",
    "  python -m markup_assist compile                      # Write ./sierra.dtd",
    "  python -m markup_assist compile bindings.properties lib",
    "  python -m markup_assist complete form.xml 118",
    "  python -m markup_assist describe text-field",
    "  python -m markup_assist test --unit"]

/-- A run that ends like these steps, with what they have done. -/
def finished (steps : CommandM Int) (tree : FileTree) (complaint : Option String) : Run :=
  match steps.run ⟨[], [], tree, none⟩ with
  | .ok code progress => ⟨.exit code, progress, complaint⟩
  | .error error progress => ⟨.escaped error, progress, complaint⟩

def showHelp (host : Host) (tree : FileTree) (code : Int) (complaint : Option String) : Run :=
  finished (do sayAll host help; return code) tree complaint

/-- A run that keeps only the records at or above the chosen log level. -/
def runSteps (env : Environment) (tree : FileTree) (steps : CommandM Int) : Run :=
  let run := finished steps tree none
  let shown := shownRecords (thresholdOfName (env.logLevel none)) run.progress.log
  { run with progress := { run.progress with log := shown } }

/-- A run that has done nothing. -/
def idle (tree : FileTree) (outcome : Outcome) : Run :=
  ⟨outcome, ⟨[], [], tree, none⟩, none⟩

/-- Runs a command. The settings are loaded before its arguments are read. -/
def run (host : Host) (tree : FileTree) : List String → Run
  | [] => showHelp host tree 1 none
  | name :: arguments =>
    if name = "-h" || name = "--help" then showHelp host tree 0 none
    else
      match Invocation.read? host.edition name arguments with
      | none => showHelp host tree 1 (some s!"Unknown command: {name}")
      | some reading =>
        match host.settings, reading with
        | .error message, _ => idle tree (.escaped (.settings message))
        | .ok _, .error stop => idle tree (.usage stop)
        | .ok env, .ok invocation => runSteps env tree (invocation.steps host env)

end Command

end TagGrammar
