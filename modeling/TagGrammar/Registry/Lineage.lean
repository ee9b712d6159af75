import TagGrammar.Registry

/-!
# Lineages

The lineage of a type is the type followed by its chain of base types, without the root type. A
chain that comes back to one of its types has no lineage.
-/

namespace TagGrammar.Registry

/-- Follows base types from an identity up to the root type. Each identity on the way is taken out
of those that are unvisited; an identity that resolves and is not among them closes a cycle. -/
def climb (unvisited : List String) (identity : String) : RegistryM (List ComponentType) := do
  if identity = rootType then return []
  else
    let type ← resolve identity
    if _h : identity ∈ unvisited then
      let above ← climb (without identity unvisited) type.base
      return type :: above
    else throw (.inheritanceCycle identity)
termination_by unvisited.length
decreasing_by exact length_without_lt _h

/-- A type followed by its base types, the root type apart. -/
def lineage (identity : String) : RegistryM (List ComponentType) := do
  climb (← get).knownIdentities identity

/-- The number of steps from a type to the root type. -/
def depth (identity : String) : RegistryM Nat := do
  return (← lineage identity).length

/-- Whether a type is the given one or descends from it. -/
def isSubtype (identity ancestor : String) : RegistryM Bool := do
  return (← lineage identity).any fun type => type.identity = ancestor

/-- Elements of containers and of their descendants have content, all others have none. -/
def contentModel (identity : String) : RegistryM ContentModel := do
  let types ← lineage identity
  return if types.any fun type => containerTypes.contains type.identity then .any else .empty

end TagGrammar.Registry
