import TagGrammar.Grammar.Declarations

/-!
# Schemas

A schema says which tags there are and which attributes each of them has. It is read off a
grammar text: the attributes of a tag are those of its fragment and of all the fragments that one
continues, and where several define the same attribute, the nearest definition counts.
-/

namespace TagGrammar

/-- The tags of a grammar, with the attributes of each, their definitions and the content of its
elements. -/
structure Schema where
  tags : List String
  attributes : Table (List String)
  definitions : Table (Table String)
  content : Table ContentModel

/-- Names in ascending order of code points. -/
def sortNames (names : List String) : List String :=
  names.mergeSort fun a b => decide (a ≤ b)

namespace Schema

/-- The attributes of a tag. A tag that is not declared has none. -/
def attributesFor (schema : Schema) (tag : String) : List String :=
  (schema.attributes.get? tag).getD []

/-! ## Descriptions -/

/-- The tokens of a group, which stand between its first and last character. -/
def groupTokens (definition : String) : List String :=
  ((definition.toList.drop 1).dropLast.splitOn '|').map String.ofList

def describeDefinition (definition : String) : String :=
  if definition = textDefinition then "Type: String"
  else "Values: " ++ ", ".intercalate (groupTokens definition)

/-- The attributes of a declared tag in ascending order, with their descriptions. -/
def describe? (schema : Schema) (tag : String) : Option (List (String × String)) := do
  if !schema.tags.contains tag then none
  else
    let names ← schema.attributes.get? tag
    let definitions := (schema.definitions.get? tag).getD .empty
    return (sortNames names).map fun name =>
      (name, describeDefinition ((definitions.get? name).getD textDefinition))

end Schema

/-! ## Flattening -/

namespace Declarations

/-- The definitions of fragments, as far as they have been worked out. -/
abbrev Flattened := Table (Table String)

/-- Works out all definitions of a fragment: those of the fragment it continues and, over them,
its own. A fragment is taken out of those that are unvisited when its chain reaches it, so one
that is not among them closes a cycle. -/
def flatten (fragments : Table (Located FragmentBody)) (unvisited : List String)
    (done : Flattened) (name : String) (fragment : Located FragmentBody) :
    Except GrammarError (Table String × Flattened) :=
  match done.get? name with
  | some definitions => .ok (definitions, done)
  | none =>
    if _h : name ∈ unvisited then
      match fragment.value.base with
      | none =>
        .ok (fragment.value.definitions, done.insert name fragment.value.definitions)
      | some base =>
        match fragments.get? base with
        | none => .error (fragment.error (.undeclaredFragment base))
        | some parent =>
          match flatten fragments (without name unvisited) done base parent with
          | .error error => .error error
          | .ok (inherited, done) =>
            let definitions := inherited.update fragment.value.definitions
            .ok (definitions, done.insert name definitions)
    else .error (fragment.error (.chainCycle name))
termination_by unvisited.length
decreasing_by exact length_without_lt _h

/-- Works out the definitions of fragments one after the other. -/
def flattenEach (fragments : Table (Located FragmentBody)) :
    Flattened → List (String × Located FragmentBody) → Except GrammarError Flattened
  | done, [] => .ok done
  | done, (name, fragment) :: rest =>
    match flatten fragments fragments.keys done name fragment with
    | .error error => .error error
    | .ok (_, done) => flattenEach fragments done rest

/-! ## The schema of a grammar text -/

/-- Checks that attribute lists belong to declared elements and name declared fragments. -/
def checkAttributeLists (declared : Declarations) :
    List (String × Located String) → Except GrammarError Unit
  | [] => .ok ()
  | (tag, list) :: rest =>
    if !declared.elements.contains tag then .error (list.error (.undeclaredElement tag))
    else if !declared.fragments.contains list.value then
      .error (list.error (.undeclaredFragment list.value))
    else checkAttributeLists declared rest

/-- Gives each element the definitions of the fragment its attribute list names. -/
def addElements (declared : Declarations) (done : Flattened) (schema : Schema) :
    List (String × Located ContentModel) → Except GrammarError Schema
  | [] => .ok schema
  | (tag, element) :: rest =>
    match declared.attributeLists.get? tag with
    | none => .error (element.error (.missingAttributeList tag))
    | some list =>
      let definitions := (done.get? list.value).getD .empty
      addElements declared done
        { tags := schema.tags ++ [tag]
          attributes := schema.attributes.insert tag definitions.keys
          definitions := schema.definitions.insert tag definitions
          content := schema.content.insert tag element.value } rest

def schema (declared : Declarations) : Except GrammarError Schema := do
  let done ← flattenEach declared.fragments .empty declared.fragments.entries
  checkAttributeLists declared declared.attributeLists.entries
  addElements declared done ⟨[], .empty, .empty, .empty⟩ declared.elements.entries

end Declarations

def Schema.parse (text : String) : Except GrammarError Schema := do
  (← Declarations.read text).schema

end TagGrammar
