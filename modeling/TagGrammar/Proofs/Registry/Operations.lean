import TagGrammar.Proofs.Compilation

/-!
# Operations on a registry

All that can be asked of a registry or of one it falls back to. The queries among the operations
only look names up, so they keep whatever looking a name up keeps (`KeptByLookups.perform`).
-/

namespace TagGrammar.Registry

inductive Operation where
  | registerType (offer : TypeOffer)
  | registerDomain (domain : Domain)
  | bindTag (tag identity : String)
  | applyBindings (table : Table String)
  | resolve (identity : String)
  | resolveDomain (key : String)
  | typeFor (tag : String)
  | tags
  | bindings
  | lineage (identity : String)
  | depth (identity : String)
  | isSubtype (identity ancestor : String)
  | collectTypes
  | deriveAttribute (property : Property)
  | contentModel (identity : String)
  | compile
  | inFallback (operation : Operation)

inductive Reply where
  | done
  | type (type : ComponentType)
  | domain (domain : Domain)
  | names (names : List String)
  | bindings (bindings : List (String × String))
  | types (types : List ComponentType)
  | number (n : Nat)
  | truth (b : Bool)
  | attr (attr : Option Attribute)
  | content (content : ContentModel)
  | grammar (grammar : Grammar)

/-- A compilation by itself, without its records. -/
def unrecorded {α : Type} (steps : CompileM α) : RegistryM α := fun registry =>
  match steps.run ⟨registry, []⟩ with
  | .ok value bench => .ok value bench.registry
  | .error error bench => .error error bench.registry

/-- Asks the registry that is fallen back to, if there is one. -/
def askFallback (operation : RegistryM Reply) : RegistryM Reply := fun registry =>
  match registry.fallback? with
  | none => .ok .done registry
  | some fallback =>
    match operation.run fallback with
    | .ok reply after => .ok reply (withFallback registry.front (some after))
    | .error error after => .error error (withFallback registry.front (some after))

namespace Operation

def perform : Operation → RegistryM Reply
  | registerType offer => do
    Registry.registerType offer
    return .done
  | registerDomain domain => do
    Registry.registerDomain domain
    return .done
  | bindTag tag identity => do
    Registry.bindTag tag identity
    return .done
  | applyBindings table => do
    unrecorded (Compile.applyBindings table)
    return .done
  | resolve identity => return .type (← Registry.resolve identity)
  | resolveDomain key => return .domain (← Registry.resolveDomain key)
  | typeFor tag => return .type (← Registry.typeFor tag)
  | tags => return .names (← get).tags
  | bindings => return .bindings (← get).bindings
  | lineage identity => return .types (← Registry.lineage identity)
  | depth identity => return .number (← Registry.depth identity)
  | isSubtype identity ancestor => return .truth (← Registry.isSubtype identity ancestor)
  | collectTypes => return .types (← Compile.collectTypes)
  | deriveAttribute property => return .attr (← Compile.deriveAttribute property)
  | contentModel identity => return .content (← Registry.contentModel identity)
  | compile => return .grammar (← unrecorded Compile.grammar)
  | inFallback operation => askFallback operation.perform

/-- Whether an operation registers and binds nothing. -/
def isQuery : Operation → Bool
  | registerType _ | registerDomain _ | bindTag .. | applyBindings _ | inFallback _ => false
  | _ => true

/-- Whether an operation registers something, with whichever registry. -/
def registers : Operation → Bool
  | registerType _ | registerDomain _ => true
  | inFallback operation => operation.registers
  | _ => false

/-- Whether an operation registers nothing with a registry that is fallen back to. -/
def sparesFallbacks : Operation → Bool
  | inFallback operation => !operation.registers
  | _ => true

theorem sparesFallbacks_of_registers {operation : Operation} (h : operation.registers = false) :
    operation.sparesFallbacks = true := by
  cases operation with
  | inFallback operation => simpa [sparesFallbacks, registers] using h
  | _ => rfl

end Operation

/-! ## Answers and what is left -/

theorem answer_unrecorded {α : Type} (steps : CompileM α) (registry : Registry) :
    answer (unrecorded steps) registry = answer steps ⟨registry, []⟩ := by
  unfold answer unrecorded
  simp only [EStateM.run]
  cases steps ⟨registry, []⟩ <;> rfl

theorem leaves_unrecorded {α : Type} (steps : CompileM α) (registry : Registry) :
    leaves (unrecorded steps) registry = (leaves steps ⟨registry, []⟩).registry := by
  unfold leaves unrecorded
  simp only [EStateM.run]
  cases steps ⟨registry, []⟩ <;> rfl

/-- Without the records, applying bindings is binding one tag after the other. -/
theorem unrecorded_applyBindings (table : Table String) :
    unrecorded (Compile.applyBindings table) = table.entries.forM fun binding => bindTag binding.1 binding.2 := by
  apply operation_ext
  · intro registry
    rw [answer_unrecorded]
    exact (Compile.applyBindings_simulates table ⟨registry, []⟩ registry rfl).1
  · intro registry
    rw [leaves_unrecorded]
    exact (Compile.applyBindings_simulates table ⟨registry, []⟩ registry rfl).2

theorem answer_askFallback (operation : RegistryM Reply) (front layer : Layer) (rest : List Layer) :
    answer (askFallback operation) ⟨front, layer :: rest⟩ = answer operation ⟨layer, rest⟩ := by
  unfold answer askFallback
  simp only [EStateM.run, fallback?]
  cases operation ⟨layer, rest⟩ <;> rfl

theorem leaves_askFallback (operation : RegistryM Reply) (front layer : Layer) (rest : List Layer) :
    leaves (askFallback operation) ⟨front, layer :: rest⟩ =
      ⟨front, (leaves operation ⟨layer, rest⟩).layers⟩ := by
  unfold leaves askFallback
  simp only [EStateM.run, fallback?]
  cases operation ⟨layer, rest⟩ <;> rfl

/-! ## What looking a name up keeps -/

structure KeptByLookups (holds : Registry → Prop) : Prop where
  resolve : ∀ identity, Preserves holds (resolve identity)
  resolveDomain : ∀ key, Preserves holds (resolveDomain key)

theorem preserves_unrecorded {α : Type} {holds : Registry → Prop} {steps : CompileM α}
    (h : Preserves (fun bench : Workbench => holds bench.registry) steps) : Preserves holds (unrecorded steps) := by
  intro registry hregistry
  rw [leaves_unrecorded]
  exact h ⟨registry, []⟩ hregistry

theorem preserves_applyBindings {holds : Registry → Prop}
    (h : ∀ tag identity, Preserves holds (bindTag tag identity))
    (table : Table String) : Preserves holds (Operation.applyBindings table).perform :=
  (preserves_unrecorded (Compile.preserves_applyBindings h table)).bind fun _ => .pure _

namespace KeptByLookups

variable {holds : Registry → Prop} (h : KeptByLookups holds)
include h

theorem typeFor (tag : String) : Preserves holds (typeFor tag) := by
  apply Preserves.get_bind
  intro registry
  split
  · exact h.resolve _
  · exact .throw _

theorem climb (unvisited : List String) (identity : String) : Preserves holds (climb unvisited identity) := by
  induction unvisited, identity using climb.induct with
  | case1 unvisited =>
    rw [climb_root]
    exact .pure []
  | case2 unvisited identity hne ih =>
    rw [climb_eq unvisited hne]
    apply (h.resolve identity).bind
    intro type
    by_cases hmem : identity ∈ unvisited
    · rw [if_pos hmem]
      exact (ih type hmem).bind fun above => .pure (type :: above)
    · rw [if_neg hmem]
      exact .throw _

theorem lineage (identity : String) : Preserves holds (lineage identity) :=
  .get_bind fun registry => h.climb registry.knownIdentities identity

theorem depth (identity : String) : Preserves holds (depth identity) :=
  (h.lineage identity).bind fun types => .pure types.length

theorem isSubtype (identity ancestor : String) : Preserves holds (isSubtype identity ancestor) :=
  (h.lineage identity).bind fun _ => .pure _

theorem contentModel (identity : String) : Preserves holds (contentModel identity) :=
  (h.lineage identity).bind fun _ => .pure _

theorem collectTypes : Preserves holds Compile.collectTypes := by
  apply Preserves.get_bind
  intro registry
  refine (Preserves.foldlM (fun collected binding => ?_) _ _).bind fun collected => ?_
  · exact (h.lineage binding.2).bind fun _ => .pure _
  · refine (Preserves.mapM (fun type => ?_) _).bind fun _ => .pure _
    exact (h.depth type.identity).bind fun _ => .pure _

theorem deriveAttribute (property : Property) : Preserves holds (Compile.deriveAttribute property) := by
  unfold Compile.deriveAttribute
  split
  · exact (h.resolveDomain _).bind fun _ => .pure _
  · split
    · exact .pure _
    · split
      · exact .pure _
      · exact (h.resolveDomain _).bind fun _ => .pure _
    · exact .pure _

theorem fragment (type : ComponentType) :
    Preserves (fun bench : Workbench => holds bench.registry) (Compile.fragment type) := by
  have hproperties : ∀ properties, Preserves (fun bench : Workbench => holds bench.registry)
      (Compile.propertyAttributes type properties) := by
    intro properties
    induction properties with
    | nil => exact .pure []
    | cons property rest ih =>
      unfold Compile.propertyAttributes
      apply (Compile.preserves_onRegistry (h.deriveAttribute property)).bind
      intro found
      cases found with
      | some attr => exact ih.bind fun attributes => .pure (attr :: attributes)
      | none => exact (Compile.preserves_record _ _ _).bind fun _ => ih
  exact ((hproperties type.properties).bind fun _ => .pure _).bind fun _ => .pure _

theorem elements : Preserves holds Compile.elements := by
  apply Preserves.get_bind
  intro registry
  apply Preserves.mapM
  intro binding
  exact (h.contentModel binding.2).bind fun _ => .pure _

theorem grammar : Preserves (fun bench : Workbench => holds bench.registry) Compile.grammar := by
  apply (Compile.preserves_onRegistry h.collectTypes).bind
  intro types
  apply Preserves.get_bind
  intro bench
  apply (Compile.preserves_record _ _ _).bind
  intro _
  apply (Preserves.mapM h.fragment types).bind
  intro fragments
  apply (Compile.preserves_onRegistry h.elements).bind
  intro elements
  exact (Compile.preserves_record _ _ _).bind fun _ => .pure _

/-- **Queries keep whatever looking a name up keeps**, whether they succeed or fail. -/
theorem perform {operation : Operation} (hquery : operation.isQuery = true) :
    Preserves holds operation.perform := by
  cases operation with
  | registerType offer => cases hquery
  | registerDomain domain => cases hquery
  | bindTag tag identity => cases hquery
  | applyBindings table => cases hquery
  | inFallback operation => cases hquery
  | resolve identity => exact (h.resolve identity).bind fun _ => .pure _
  | resolveDomain key => exact (h.resolveDomain key).bind fun _ => .pure _
  | typeFor tag => exact (h.typeFor tag).bind fun _ => .pure _
  | tags => exact .get_bind fun _ => .pure _
  | bindings => exact .get_bind fun _ => .pure _
  | lineage identity => exact (h.lineage identity).bind fun _ => .pure _
  | depth identity => exact (h.depth identity).bind fun _ => .pure _
  | isSubtype identity ancestor => exact (h.isSubtype identity ancestor).bind fun _ => .pure _
  | collectTypes => exact h.collectTypes.bind fun _ => .pure _
  | deriveAttribute property => exact (h.deriveAttribute property).bind fun _ => .pure _
  | contentModel identity => exact (h.contentModel identity).bind fun _ => .pure _
  | compile => exact (preserves_unrecorded h.grammar).bind fun _ => .pure _

end KeptByLookups

end TagGrammar.Registry
