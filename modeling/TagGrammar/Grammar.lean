import TagGrammar.Log
import TagGrammar.Registry.Lineage

/-!
# Compiling a grammar

A grammar gives every type a fragment, which refers to the fragment of its base type and adds the
attributes of the properties the type declares itself, and gives every tag an element that refers
to the fragment of its type. `Compile.grammar` reads a grammar off a registry.
-/

namespace TagGrammar

/-- A named list of attributes, which may continue another. -/
structure Fragment where
  name : String
  base : Option String
  attributes : List Attribute
  deriving DecidableEq

/-- A compiled grammar: the fragments of the types, ancestors first, and the elements in binding
order. -/
structure Grammar where
  types : List Fragment
  elements : List Element

/-! ## Compilation -/

/-- A registry under compilation and the records written so far. -/
structure Workbench where
  registry : Registry
  log : List LogRecord

/-- A step of a compilation. Records and registry count also if it fails. -/
abbrev CompileM := EStateM RegistryError Workbench

namespace Compile

def onRegistry {α : Type} (operation : RegistryM α) : CompileM α := fun bench =>
  match operation.run bench.registry with
  | .ok value registry => .ok value { bench with registry }
  | .error error registry => .error error { bench with registry }

def record (source : String) (level : Level) (message : String) : CompileM Unit :=
  modify fun bench => { bench with log := bench.log ++ [⟨source, level, message⟩] }

/-- Binds tags in order. Those before one that fails stay bound. -/
def applyBindings (bindings : Table String) : CompileM Unit :=
  bindings.entries.forM fun binding => do
    onRegistry (Registry.bindTag binding.1 binding.2)
    record "bindings" .debug s!"Bound <{binding.1}> to {binding.2}"

/-! ## Attributes of a type -/

/-- The attribute of a property, or nothing if markup cannot express its values. -/
def deriveAttribute (property : Property) : RegistryM (Option Attribute) := do
  match if property.type.isSelector then Builtin.selectorDomains.lookup property.name else none with
  | some key =>
    let domain ← Registry.resolveDomain key
    return some ⟨property.name, .tokens, domain.keys⟩
  | none =>
    match property.type with
    | .boolean => return some ⟨property.name, .boolean, booleanTokens⟩
    | .enum =>
      match property.domain with
      | none => return none
      | some key =>
        let domain ← Registry.resolveDomain key
        return some ⟨property.name, .tokens, domain.tokens⟩
    | type => return if type.isText then some ⟨property.name, .text, []⟩ else none

/-- The attributes of a type's properties, in order. Those markup cannot express are left out. -/
def propertyAttributes (type : ComponentType) : List Property → CompileM (List Attribute)
  | [] => return []
  | property :: rest => do
    match ← onRegistry (deriveAttribute property) with
    | some attr =>
      return attr :: (← propertyAttributes type rest)
    | none =>
      record "compiler" .debug
        s!"Skipping {type.simpleName}.{property.name} ({property.type.word})"
      propertyAttributes type rest

/-- The attributes that a type's fragment adds. -/
def fragmentAttributes (type : ComponentType) : CompileM (List Attribute) := do
  let attributes ← propertyAttributes type type.properties
  return if type.identity = textInputType then attributes ++ textInputAttributes else attributes

/-- The fragment of a type. The types right below the root type continue the base fragment. -/
def fragment (type : ComponentType) : CompileM Fragment := do
  let attributes ← fragmentAttributes type
  return ⟨type.identity, some (if type.base = rootType then baseFragment else type.base),
    attributes⟩

/-! ## Collecting types -/

/-- Adds the types of a lineage up to the first that has been added before. -/
def addLineage (collected : Table ComponentType) : List ComponentType → Table ComponentType
  | [] => collected
  | type :: above =>
    if collected.contains type.identity then collected
    else addLineage (collected.insert type.identity type) above

/-- Orders types by depth, those of one depth by identity. -/
def comesBefore (a b : Nat × ComponentType) : Bool :=
  a.1 < b.1 || (a.1 == b.1 && decide (a.2.identity ≤ b.2.identity))

/-- The bound types and their ancestors, each once, ancestors first. -/
def collectTypes : RegistryM (List ComponentType) := do
  let bindings := (← get).bindings
  let collected ← bindings.foldlM (fun (collected : Table ComponentType) binding => do
    return addLineage collected (← Registry.lineage binding.2)) .empty
  let ranked ← collected.values.mapM fun type => do
    return (← Registry.depth type.identity, type)
  return (ranked.mergeSort comesBefore).map Prod.snd

/-! ## The grammar -/

/-- The elements of the bound tags, in binding order. -/
def elements : RegistryM (List Element) := do
  (← get).bindings.mapM fun binding => do
    return ⟨binding.1, binding.2, ← Registry.contentModel binding.2⟩

def grammar : CompileM Grammar := do
  let types ← onRegistry collectTypes
  let tagCount := (← get).registry.tags.length
  record "collector" .debug s!"Collected {types.length} types for {tagCount} bound tags"
  let fragments ← types.mapM fragment
  let elements ← onRegistry elements
  record "compiler" .info
    s!"Compiled {fragments.length} type fragments and {elements.length} elements"
  return ⟨fragments, elements⟩

end Compile

end TagGrammar
