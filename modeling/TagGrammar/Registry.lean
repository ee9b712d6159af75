import TagGrammar.Name
import TagGrammar.Table
import TagGrammar.Text.Quoted
import TagGrammar.Vocabulary.Components

/-!
# Registries

A registry holds component types, enumerated domains and the types that tags are bound to. What
it does not hold itself it looks up in the registry it falls back to, and then keeps. A failing
operation may have kept some of what it looked up, so operations run in `RegistryM`, where an
error does not undo the state.
-/

namespace TagGrammar

/-! ## Errors -/

inductive RegistryError where
  | rootRegistered
  | baseMissing (identity : String)
  | unresolvedType (identity : String)
  | unresolvedDomain (key : String)
  | invalidTag (tag : String)
  | unknownTag (tag : String)
  | inheritanceCycle (identity : String)
  deriving DecidableEq

def RegistryError.message : RegistryError → String
  | rootRegistered => s!"'{rootType}' is implicit and cannot be registered"
  | baseMissing identity => s!"Type '{identity}' must declare a base type"
  | unresolvedType identity => s!"Unable to resolve type '{identity}'"
  | unresolvedDomain key => s!"Unable to resolve enum domain '{key}'"
  | invalidTag tag => s!"Invalid tag: {Text.quote tag}"
  | unknownTag tag => s!"Unknown tag: {tag}"
  | inheritanceCycle identity => s!"Inheritance cycle detected at '{identity}'"

/-! ## Tables of one registry -/

/-- What a registry holds itself. -/
structure Layer where
  types : Table ComponentType
  domains : Table Domain
  bindings : Table String

namespace Layer

def empty : Layer :=
  ⟨.empty, .empty, .empty⟩

def keepType (layer : Layer) (identity : String) (type : ComponentType) : Layer :=
  { layer with types := layer.types.insert identity type }

def keepDomain (layer : Layer) (key : String) (domain : Domain) : Layer :=
  { layer with domains := layer.domains.insert key domain }

def keepBinding (layer : Layer) (tag identity : String) : Layer :=
  { layer with bindings := layer.bindings.insert tag identity }

/-- Looks a type up in a chain of layers. Every layer before the one that holds the type keeps
it. -/
def findType? (identity : String) : List Layer → Option (ComponentType × List Layer)
  | [] => none
  | layer :: rest =>
    match layer.types.get? identity with
    | some type => some (type, layer :: rest)
    | none =>
      (findType? identity rest).map fun found =>
        (found.1, layer.keepType identity found.1 :: found.2)

/-- Looks a domain up in a chain of layers. Every layer before the one that holds the domain
keeps it. -/
def findDomain? (key : String) : List Layer → Option (Domain × List Layer)
  | [] => none
  | layer :: rest =>
    match layer.domains.get? key with
    | some domain => some (domain, layer :: rest)
    | none =>
      (findDomain? key rest).map fun found =>
        (found.1, layer.keepDomain key found.1 :: found.2)

end Layer

/-! ## Registries -/

/-- A registry, followed by the registries it falls back to. -/
structure Registry where
  front : Layer
  fallbacks : List Layer

namespace Registry

/-- The tables of a registry and of those it falls back to. -/
def layers (registry : Registry) : List Layer :=
  registry.front :: registry.fallbacks

/-- A registry with the given tables of its own over a registry it falls back to. -/
def withFallback (front : Layer) (fallback : Option Registry) : Registry :=
  ⟨front, (fallback.map layers).getD []⟩

def fallback? (registry : Registry) : Option Registry :=
  match registry.fallbacks with
  | [] => none
  | front :: fallbacks => some ⟨front, fallbacks⟩

def types (registry : Registry) : List ComponentType :=
  registry.front.types.values

/-- The bound tags, in binding order. -/
def tags (registry : Registry) : List String :=
  registry.front.bindings.keys

/-- The tags and the types they are bound to, in binding order. -/
def bindings (registry : Registry) : List (String × String) :=
  registry.front.bindings.entries

/-- The identities that some table of the chain holds. -/
def knownIdentities (registry : Registry) : List String :=
  registry.layers.flatMap fun layer => layer.types.keys

end Registry

/-! ## Operations -/

/-- A registry operation. The registry it leaves behind counts also if it fails. -/
abbrev RegistryM := EStateM RegistryError Registry

namespace Registry

def modifyFront (f : Layer → Layer) : RegistryM Unit :=
  modify fun registry => { registry with front := f registry.front }

/-- Enters a type, in the place of one with the same identity if there is one. -/
def registerType (offer : TypeOffer) : RegistryM Unit :=
  if offer.identity = rootType then throw .rootRegistered
  else
    match offer.base with
    | none => throw (.baseMissing offer.identity)
    | some base =>
      modifyFront (·.keepType offer.identity ⟨offer.identity, base, offer.properties⟩)

/-- Enters a domain, in the place of one with the same key if there is one. -/
def registerDomain (domain : Domain) : RegistryM Unit :=
  modifyFront (·.keepDomain domain.key domain)

def resolve (identity : String) : RegistryM ComponentType := do
  let registry ← get
  match registry.front.types.get? identity with
  | some type => return type
  | none =>
    match Layer.findType? identity registry.fallbacks with
    | some (type, fallbacks) =>
      set (Registry.mk (registry.front.keepType identity type) fallbacks)
      return type
    | none => throw (.unresolvedType identity)

def resolveDomain (key : String) : RegistryM Domain := do
  let registry ← get
  match registry.front.domains.get? key with
  | some domain => return domain
  | none =>
    match Layer.findDomain? key registry.fallbacks with
    | some (domain, fallbacks) =>
      set (Registry.mk (registry.front.keepDomain key domain) fallbacks)
      return domain
    | none => throw (.unresolvedDomain key)

/-- Binds a tag to a type. A tag that is bound already keeps its place. -/
def bindTag (tag identity : String) : RegistryM Unit := do
  if isName tag.toList then
    discard (resolve identity)
    modifyFront (·.keepBinding tag identity)
  else throw (.invalidTag tag)

def typeFor (tag : String) : RegistryM ComponentType := do
  match (← get).front.bindings.get? tag with
  | some identity => resolve identity
  | none => throw (.unknownTag tag)

/-! ## Building a registry -/

def registerAll (offers : List TypeOffer) (domains : List Domain) : RegistryM Unit := do
  offers.forM registerType
  domains.forM registerDomain

/-- A registry with the given types and domains over a registry it falls back to. -/
def create (offers : List TypeOffer) (domains : List Domain) (fallback : Option Registry) :
    Except RegistryError Registry :=
  match (registerAll offers domains).run (withFallback .empty fallback) with
  | .ok _ registry => .ok registry
  | .error error _ => .error error

/-- A registry with the built-in types, domains and tags over a registry it falls back to. -/
def standard (fallback : Option Registry) : Registry :=
  let types := Table.ofList (Builtin.types.map fun type => (type.identity, type))
  let domains := Table.ofList (Builtin.domains.map fun domain => (domain.key, domain))
  withFallback ⟨types, domains, Table.ofList Builtin.bindings⟩ fallback

end Registry

end TagGrammar
