import TagGrammar.JsonValue
import TagGrammar.Name
import TagGrammar.Schema
import TagGrammar.Vocabulary

/-!
# Type definition files

A type definition file is a JSON object that lists component types and enumerated domains. Checking
one finds all its problems, in the order of the fields they are in; a rule about a whole definition
is checked only if its parts have no problem.

The checker is a package of its own (pydantic). What is assumed of it:

* Nothing is converted: a number is no string, and `null` counts only where a field may be null.
* Fields that are not declared are ignored.
* Patterns take the characters with the `White_Space` property for blanks, and so take information
  separators for parts of names (`isDefinedName`), which names elsewhere cannot hold (`isName`).
-/

namespace TagGrammar

/-! ## Problems -/

/-- A step from a value to a part of it. -/
inductive ValueStep where
  | field (name : String)
  | index (n : Nat)
  deriving DecidableEq

inductive DefinitionFault where
  | domainMissing (property : String)
  | duplicateProperties (names : List String)
  | rootRedefined
  deriving DecidableEq

inductive ProblemKind where
  | invalidJson
  | missing
  | notObject
  | notList
  | notString
  | notName
  | emptyString
  | emptyList
  | notPropertyType
  | fault (fault : DefinitionFault)
  deriving DecidableEq

structure Problem where
  location : List ValueStep
  kind : ProblemKind
  deriving DecidableEq

def DefinitionFault.message : DefinitionFault → String
  | domainMissing property => s!"enum property '{property}' must name a domain"
  | duplicateProperties names =>
    let listed := ", ".intercalate names
    s!"duplicate properties: {listed}"
  | rootRedefined => s!"'{rootType}' cannot be redefined"

/-! ## Checking -/

/-- A checked value, or everything that is wrong with it. -/
abbrev Checked (α : Type) := Except (List Problem) α

namespace Checked

variable {α β : Type}

def problem (kind : ProblemKind) : Checked α :=
  .error [⟨[], kind⟩]

/-- Problems of a part, located from the whole. -/
def inside (step : ValueStep) : Checked α → Checked α
  | .ok value => .ok value
  | .error problems =>
    .error (problems.map fun problem => ⟨step :: problem.location, problem.kind⟩)

/-- Two values, or the problems of both. -/
def both (first : Checked α) (second : Checked β) : Checked (α × β) :=
  match first, second with
  | .ok a, .ok b => .ok (a, b)
  | .ok _, .error problems => .error problems
  | .error problems, .ok _ => .error problems
  | .error problems, .error others => .error (problems ++ others)

/-- The values of a list, or the problems of all of them. Items count from a given index. -/
def each (check : JsonValue → Checked α) (index : Nat) : List JsonValue → Checked (List α)
  | [] => .ok []
  | item :: rest =>
    (both (inside (.index index) (check item)) (each check (index + 1) rest)).map fun found =>
      found.1 :: found.2

end Checked

/-! ## Parts of a definition -/

namespace DefinitionFile

open Checked

abbrev Members := List (String × JsonValue)

def checkObject {α : Type} (check : Members → Checked α) : JsonValue → Checked α
  | .object members => check members
  | _ => problem .notObject

def checkList {α : Type} (check : JsonValue → Checked α) : JsonValue → Checked (List α)
  | .array items => each check 0 items
  | _ => problem .notList

def required {α : Type} (members : Members) (name : String) (check : JsonValue → Checked α) :
    Checked α :=
  inside (.field name) <|
    match JsonValue.member? members name with
    | some value => check value
    | none => problem .missing

def withDefault {α : Type} (members : Members) (name : String) (default : α)
    (check : JsonValue → Checked α) : Checked α :=
  inside (.field name) <|
    match JsonValue.member? members name with
    | some value => check value
    | none => .ok default

def checkString : JsonValue → Checked String
  | .string text => .ok text
  | _ => problem .notString

def checkName (value : JsonValue) : Checked String := do
  let text ← checkString value
  if isDefinedName text.toList then return text else problem .notName

def orNull {α : Type} (check : JsonValue → Checked α) : JsonValue → Checked (Option α)
  | .null => .ok none
  | value => (check value).map some

def checkPropertyType : JsonValue → Checked PropertyType
  | .string word =>
    match PropertyType.ofWord? word with
    | some type => .ok type
    | none => problem .notPropertyType
  | _ => problem .notPropertyType

/-! ## Properties and types -/

/-- An enumerated property has to name its domain. -/
def checkDomain (property : Property) : Checked Property :=
  if property.type = .enum && (property.domain.getD "").isEmpty then
    problem (.fault (.domainMissing property.name))
  else .ok property

def checkProperty (members : Members) : Checked Property := do
  let (name, type, domain) ← both (required members "name" checkName) <|
    both (required members "type" checkPropertyType)
      (withDefault members "domain" none (orNull checkString))
  checkDomain ⟨name, type, domain⟩

/-- The names that occur more than once, in ascending order. -/
def repeatedNames (names : List String) : List String :=
  sortNames (names.filter fun name => names.count name > 1).eraseDups

/-- A type has no two properties of one name and is not the root type. -/
def checkDeclared (type : ComponentType) : Checked ComponentType :=
  match repeatedNames (type.properties.map Property.name) with
  | [] => if type.identity = rootType then problem (.fault .rootRedefined) else .ok type
  | names => problem (.fault (.duplicateProperties names))

/-- Checks a type. One that names no base type is right below the root type. -/
def checkType (members : Members) : Checked ComponentType := do
  let (identity, base, properties) ← both (required members "identity" checkName) <|
    both (withDefault members "base" rootType checkName)
      (withDefault members "properties" [] (checkList (checkObject checkProperty)))
  checkDeclared ⟨identity, base, properties⟩

/-! ## Domains -/

/-- Checks a constant. One that names no key has its token for a key. -/
def checkConstant (members : Members) : Checked Constant := do
  let (name, key) ← both (required members "name" checkName)
    (withDefault members "key" none (orNull checkName))
  return ⟨name, key.getD (tokenOfName name)⟩

def checkKey (value : JsonValue) : Checked String := do
  let text ← checkString value
  if text.isEmpty then problem .emptyString else return text

def checkConstants (value : JsonValue) : Checked (List Constant) := do
  let constants ← checkList (checkObject checkConstant) value
  if constants.isEmpty then problem .emptyList else return constants

def checkDomainDefinition (members : Members) : Checked Domain := do
  let (key, constants) ← both (required members "key" checkKey)
    (required members "constants" checkConstants)
  return ⟨key, constants⟩

end DefinitionFile

/-! ## Files -/

/-- What a type definition file defines. -/
structure DefinitionFile where
  types : List ComponentType
  domains : List Domain

namespace DefinitionFile

open Checked

def check (members : Members) : Checked DefinitionFile := do
  let (types, domains) ← both
    (withDefault members "types" [] (checkList (checkObject checkType)))
    (withDefault members "domains" [] (checkList (checkObject checkDomainDefinition)))
  return ⟨types, domains⟩

def parse (text : String) : Checked DefinitionFile :=
  match JsonValue.parse? text with
  | some value => checkObject check value
  | none => problem .invalidJson

end DefinitionFile

end TagGrammar
