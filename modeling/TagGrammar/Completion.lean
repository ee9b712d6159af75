import TagGrammar.Completion.Context
import TagGrammar.Log
import TagGrammar.Schema
import TagGrammar.Text.Case

/-!
# Completions

At a caret, the names of a schema are suggested that start like what has been typed there. Letter
case does not matter, and suggestions stand in ascending order of code points.
-/

namespace TagGrammar

/-- Whether a name starts with what has been typed, letter case apart. -/
def startsLike (typed name : String) : Bool :=
  (Text.fold typed.toList).isPrefixOf (Text.fold name.toList)

namespace Schema

/-- The names that belong in a context, whatever has been typed. -/
def candidates (schema : Schema) : Context → List String
  | .tagName _ => schema.tags
  | .attributeName (some tag) _ => schema.attributesFor tag
  | .attributeName none _ => []
  | .nowhere => []

def suggestions (schema : Schema) (context : Context) : List String :=
  sortNames ((schema.candidates context).filter (startsLike context.typed))

def complete (schema : Schema) (text : String) (caret : Int) : List String :=
  schema.suggestions (Context.find text.toList caret)

def completionRecord (schema : Schema) (text : String) (caret : Int) : LogRecord :=
  let context := Context.find text.toList caret
  let count := (schema.suggestions context).length
  let tag := context.tag?.getD "-"
  ⟨"completion", .debug,
    s!"{context.word} completion for {tag} prefix '{context.typed}': {count} candidates"⟩

end Schema

end TagGrammar
