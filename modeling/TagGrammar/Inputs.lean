import TagGrammar.BindingsFile
import TagGrammar.DefinitionFile
import TagGrammar.FileTree
import TagGrammar.Grammar.Statement
import TagGrammar.Settings

/-!
# Inputs of a compilation

Two inputs extend the built-in vocabulary: a directory of type definition files, whose types and
domains are there to be fallen back to, and a bindings file, whose bindings are applied in order.
The compiled grammar is written to a file as a whole, after everything else has succeeded.
-/

namespace TagGrammar

/-! ## Errors -/

inductive InputError where
  | bindingsNotFound (path : Path)
  | bindingsUndecodable (fault : Text.Utf8.Fault)
  | bindingWithoutType (path : Path) (tag : String)
  | searchPathNotFound (path : Path)
  | definitionsUnreadable (path : Path) (error : ReadError)
  | definitionsInvalid (path : Path) (problems : List Problem)
  | typeRedefined (path : Path) (identity : String)
  | domainRedefined (path : Path) (key : String)
  | registry (error : RegistryError)
  | noDirectory
  | pathRefused (error : FileError)
  | notWritten (path : Path) (error : FileError)

/-- The wording of an error. The problems of a definition file are reported apart. -/
def InputError.message : InputError → String
  | bindingsNotFound path => s!"Bindings file not found: {path}"
  | bindingsUndecodable fault => fault.message
  | bindingWithoutType path tag => s!"{path}: binding for '{tag}' has no type"
  | searchPathNotFound path => s!"{path}: search path does not exist"
  | definitionsUnreadable path error => s!"{path}: cannot read file: {error.message}"
  | definitionsInvalid path _ => s!"{path}: <validation>"
  | typeRedefined path identity => s!"{path}: type '{identity}' is already defined"
  | domainRedefined path key => s!"{path}: domain '{key}' is already defined"
  | registry error => error.message
  | noDirectory => FileFault.notFound.message
  | pathRefused error => error.message
  | notWritten path error => s!"Could not write {path}: {error.message}"

/-- A step of a compilation from inputs. The records it writes count also if it fails. -/
abbrev InputM := EStateM InputError (List LogRecord)

def InputM.record (source : String) (level : Level) (message : String) : InputM Unit :=
  modify (· ++ [⟨source, level, message⟩])

open InputM (record)

/-! ## Type definitions -/

namespace SearchPath

/-- Whether the last of some steps has the ending of type definition files. -/
def isDefinitionFile (steps : List String) : Bool :=
  ".json".toList.isSuffixOf (steps.getLast?.getD "").toList

/-- The paths of the type definition files below a directory, ordered step by step. -/
def files (tree : FileTree) (path : Path) : List Path :=
  match tree.locate path with
  | .error _ => []
  | .ok place =>
    (((tree.below place).filter isDefinitionFile).mergeSort fun a b => !b.lex a).map
      path.append

/-- Adds types that have not been defined before. -/
def addTypes (path : Path) (types : Table ComponentType) :
    List ComponentType → Except InputError (Table ComponentType)
  | [] => .ok types
  | type :: rest =>
    if types.contains type.identity then .error (.typeRedefined path type.identity)
    else addTypes path (types.insert type.identity type) rest

def addDomains (path : Path) (domains : Table Domain) :
    List Domain → Except InputError (Table Domain)
  | [] => .ok domains
  | domain :: rest =>
    if domains.contains domain.key then .error (.domainRedefined path domain.key)
    else addDomains path (domains.insert domain.key domain) rest

def readFile (tree : FileTree) (path : Path) : Except InputError DefinitionFile :=
  match tree.readText path with
  | .error error => .error (.definitionsUnreadable path error)
  | .ok text =>
    match DefinitionFile.parse text with
    | .error problems => .error (.definitionsInvalid path problems)
    | .ok file => .ok file

def addFile (layer : Layer) (path : Path) (file : DefinitionFile) : Except InputError Layer := do
  let types ← addTypes path layer.types file.types
  let domains ← addDomains path layer.domains file.domains
  return { layer with types, domains }

def loadFiles (tree : FileTree) (layer : Layer) : List Path → InputM Layer
  | [] => return layer
  | path :: rest => do
    let file ← MonadExcept.ofExcept (readFile tree path)
    let layer ← MonadExcept.ofExcept (addFile layer path file)
    record "bindings" .debug
      s!"Loaded {file.types.length} types, {file.domains.length} domains from {path}"
    loadFiles tree layer rest

def load (tree : FileTree) (path : Path) : InputM Layer :=
  match tree.find? path with
  | .error error => throw (.pathRefused error)
  | .ok (some .directory) => loadFiles tree .empty (files tree path)
  | .ok _ => throw (.searchPathNotFound path)

/-- The identities that are defined, in ascending order. -/
def identities (layer : Layer) : List String :=
  sortNames layer.types.keys

end SearchPath

/-! ## Bindings -/

/-- The bindings that a text holds. The path is that of the file it comes from. -/
def readBindings (path : Path) (text : String) : InputM (Table String) := do
  let contents := BindingsFile.parse text
  contents.unreadable.forM fun line =>
    record "dotenv.main" .warning
      s!"python-dotenv could not parse statement starting at line {line}"
  match contents.bindings with
  | .error tag => throw (.bindingWithoutType path tag)
  | .ok bindings => return bindings

def loadBindings (tree : FileTree) (path : Path) : InputM (Table String) :=
  match tree.find? path with
  | .error error => throw (.pathRefused error)
  | .ok (some (.file bytes)) =>
    match FileTree.decodeText bytes with
    | .error fault => throw (.bindingsUndecodable fault)
    | .ok text => readBindings path text
  | .ok _ => throw (.bindingsNotFound path)

/-! ## Compilation -/

def runCompile {α : Type} (registry : Registry) (steps : CompileM α) : InputM (α × Registry) :=
  fun log =>
    match steps.run ⟨registry, log⟩ with
    | .ok value bench => .ok (value, bench.registry) bench.log
    | .error error bench => .error (.registry error) bench.log

/-- The registry of the built-in vocabulary and the given inputs. -/
def buildRegistry (tree : FileTree) (bindingsFile searchPath : Option Path) : InputM Registry := do
  let fallback ← searchPath.mapM fun path => do
    return Registry.withFallback (← SearchPath.load tree path) none
  let registry := Registry.standard fallback
  match bindingsFile with
  | none => return registry
  | some path =>
    let bindings ← loadBindings tree path
    let (_, registry) ← runCompile registry (Compile.applyBindings bindings)
    record "bindings" .info s!"Applied {bindings.size} bindings from {path}"
    return registry

/-- Why the output file cannot be written. A path with a null character is refused before there is
anything to write. -/
def writeError (path : Path) (error : FileError) : InputError :=
  if error.fault = .nullCharacter then .pathRefused error else .notWritten path error

/-- The path of the output file. A relative one needs a working directory. -/
def outputPath (env : Environment) (tree : FileTree) (output : Option Path) : InputM Path :=
  match env.grammarPath tree.currentPath? output with
  | some path => return path
  | none => throw .noDirectory

/-- Compiles the grammar of the given inputs and writes it to a file. -/
def compileFile (env : Environment) (tree : FileTree) (bindingsFile searchPath : Option Path)
    (output : Option Path) : InputM (Grammar × Path × FileTree) := do
  let registry ← buildRegistry tree bindingsFile searchPath
  let (grammar, _) ← runCompile registry Compile.grammar
  let path ← outputPath env tree output
  match tree.writeText path grammar.text with
  | .error error => throw (writeError path error)
  | .ok tree =>
    record "compiler" .info s!"Wrote grammar to {path}"
    return (grammar, path, tree)

end TagGrammar
