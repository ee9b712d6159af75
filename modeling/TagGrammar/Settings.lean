import TagGrammar.Path
import TagGrammar.Table
import TagGrammar.Text.Blank
import TagGrammar.Text.Case
import TagGrammar.Text.Integer

/-!
# Settings

Settings are read from environment variables. An explicit choice wins over the environment, and
the environment over the default; a variable that is set to the empty text counts as not set.
-/

namespace TagGrammar

/-! ## Values -/

inductive SettingValue where
  | absent
  | text (s : String)
  | integer (n : Int)
  | truth (b : Bool)
  | path (p : Path)
  deriving DecidableEq

inductive SettingKind where
  | text
  | integer
  | truth
  | path
  deriving DecidableEq

def readTruth? (s : String) : Option Bool :=
  let word := Text.trimString (Text.lower s)
  if ["true", "1", "yes"].contains word then some true
  else if ["false", "0", "no"].contains word then some false
  else none

/-- The value that a variable's text stands for. An empty or unreadable text stands for the
default. -/
def SettingValue.ofText (raw : Option String) (kind : SettingKind) (default : SettingValue) :
    SettingValue :=
  match raw with
  | none | some "" => default
  | some s =>
    match kind with
    | .text => .text s
    | .integer => ((Text.readInt? s.toList).map SettingValue.integer).getD default
    | .truth => ((readTruth? s).map SettingValue.truth).getD default
    | .path => .path (Path.ofString s)

def SettingValue.toString : SettingValue → String
  | absent => "None"
  | text s => s
  | integer n => ToString.toString n
  | truth b => if b then "True" else "False"
  | path p => p.toString

/-! ## Variables -/

inductive Variable where
  | grammarFile
  | bindingsFile
  | typePath
  | logLevel
  deriving DecidableEq

namespace Variable

def all : List Variable :=
  [grammarFile, bindingsFile, typePath, logLevel]

def name : Variable → String
  | grammarFile => "MARKUP_GRAMMAR_FILE"
  | bindingsFile => "MARKUP_BINDINGS_FILE"
  | typePath => "MARKUP_TYPE_PATH"
  | logLevel => "MARKUP_LOG_LEVEL"

def ofName? (name : String) : Option Variable :=
  all.find? fun v => v.name = name

/-- The path of the grammar file, unless another is chosen. -/
def defaultGrammar : Path :=
  Path.ofString "sierra.dtd"

/-- The value of a variable that is not set. -/
def default : Variable → SettingValue
  | grammarFile => .path defaultGrammar
  | bindingsFile => .absent
  | typePath => .absent
  | logLevel => .text "INFO"

def kind : Variable → SettingKind
  | logLevel => .text
  | _ => .path

def description : Variable → String
  | grammarFile => "Compiled grammar file, relative to the working directory"
  | bindingsFile => "Extra tag=type bindings applied before compiling"
  | typePath => "Directory searched for *.json type definitions"
  | logLevel => "Log level for the command line tools"

def category : Variable → String
  | grammarFile => "grammar"
  | bindingsFile => "compiler"
  | typePath => "compiler"
  | logLevel => "logging"

def list (category : Option String) : List Variable :=
  match category with
  | none => all
  | some group => all.filter fun v => v.category = group

end Variable

/-! ## Environments -/

structure Environment where
  texts : Table String

namespace Environment

def value (env : Environment) (v : Variable) : SettingValue :=
  .ofText (env.texts.get? v.name) v.kind v.default

/-- An explicit choice, or the value of a variable. -/
def valueOr (env : Environment) (choice : Option String) (v : Variable) : SettingValue :=
  match choice with
  | some s => .text s
  | none => env.value v

def path? (env : Environment) (v : Variable) : Option Path :=
  match env.value v with
  | .path p => some p
  | _ => none

/-- The path of the grammar file, made absolute in the working directory. There is none if the path
is relative and the working directory has no path. -/
def grammarPath (env : Environment) (working choice : Option Path) : Option Path :=
  let path := (choice <|> env.path? .grammarFile).getD Variable.defaultGrammar
  if path.isAbsolute then some path else working.map fun directory => directory.within path

/-- The path of the bindings file, if there is one. -/
def bindingsFile (env : Environment) (choice : Option Path) : Option Path :=
  choice <|> env.path? .bindingsFile

/-- The path of the type definitions, if there is one. -/
def typePath (env : Environment) (choice : Option Path) : Option Path :=
  choice <|> env.path? .typePath

def logLevel (env : Environment) (choice : Option String) : String :=
  Text.upper (env.valueOr choice .logLevel).toString

end Environment

end TagGrammar
