import TagGrammar.Completion
import TagGrammar.FileTree

/-!
# Grammar files

Reading a compiled grammar back from a file.
-/

namespace TagGrammar

inductive GrammarFileError where
  | unreadable (error : ReadError)
  | malformed (error : GrammarError)

def GrammarFileError.message : GrammarFileError → String
  | unreadable error => error.message
  | malformed error => error.message

/-- The schema of a grammar text, and a record of what was declared. -/
def readSchema (text : String) : Except GrammarError (Schema × LogRecord) := do
  let declared ← Declarations.read text
  let schema ← declared.schema
  return (schema, ⟨"grammar", .debug,
    s!"Parsed {declared.fragments.size} fragments and {declared.elements.size} elements"⟩)

/-- The schema of a grammar file, and the records of reading it. -/
def loadSchema (tree : FileTree) (path : Path) :
    Except GrammarFileError (Schema × List LogRecord) :=
  match tree.readText path with
  | .error error => .error (.unreadable error)
  | .ok text =>
    match readSchema text with
    | .error error => .error (.malformed error)
    | .ok (schema, parsed) =>
      .ok (schema,
        [parsed, ⟨"grammar", .info, s!"Loaded {schema.tags.length} tags from {path}"⟩])

end TagGrammar
