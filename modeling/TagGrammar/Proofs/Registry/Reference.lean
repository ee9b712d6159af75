import TagGrammar.Proofs.Registry.Operations

/-!
# A registry that keeps nothing

The reference looks every name up anew, in the tables of the registry and then in those it falls
back to, and keeps nothing of what it finds. A registry that does keep it answers every sequence
of operations as the reference does (`answers_eq_reference`): its layers may hold more, but they
stay `Alike`, as long as nothing is registered with a registry that is fallen back to.
-/

namespace TagGrammar

/-! ## The reference -/

namespace Registry.Reference

def resolve (registry : Registry) (identity : String) : Except RegistryError ComponentType :=
  match registry.type? identity with
  | some type => .ok type
  | none => .error (.unresolvedType identity)

def resolveDomain (registry : Registry) (key : String) : Except RegistryError Domain :=
  match registry.domain? key with
  | some domain => .ok domain
  | none => .error (.unresolvedDomain key)

def typeFor (registry : Registry) (tag : String) : Except RegistryError ComponentType :=
  match registry.front.bindings.get? tag with
  | some identity => resolve registry identity
  | none => .error (.unknownTag tag)

def climb (registry : Registry) (unvisited : List String) (identity : String) :
    Except RegistryError (List ComponentType) := do
  if identity = rootType then return []
  else
    let type ← resolve registry identity
    if _h : identity ∈ unvisited then
      let above ← climb registry (without identity unvisited) type.base
      return type :: above
    else throw (.inheritanceCycle identity)
termination_by unvisited.length
decreasing_by exact length_without_lt _h

def lineage (registry : Registry) (identity : String) : Except RegistryError (List ComponentType) :=
  climb registry registry.knownIdentities identity

def depth (registry : Registry) (identity : String) : Except RegistryError Nat := do
  return (← lineage registry identity).length

def isSubtype (registry : Registry) (identity ancestor : String) : Except RegistryError Bool := do
  return (← lineage registry identity).any fun type => type.identity = ancestor

def contentModel (registry : Registry) (identity : String) : Except RegistryError ContentModel := do
  let types ← lineage registry identity
  return if types.any fun type => containerTypes.contains type.identity then .any else .empty

def collectTypes (registry : Registry) : Except RegistryError (List ComponentType) := do
  let collected ← registry.bindings.foldlM (fun (collected : Table ComponentType) binding => do
    return Compile.addLineage collected (← lineage registry binding.2)) .empty
  let ranked ← collected.values.mapM fun type => do
    return (← depth registry type.identity, type)
  return (ranked.mergeSort Compile.comesBefore).map Prod.snd

def deriveAttribute (registry : Registry) (property : Property) : Except RegistryError (Option Attribute) := do
  match if property.type.isSelector then Builtin.selectorDomains.lookup property.name else none with
  | some key => return some ⟨property.name, .tokens, (← resolveDomain registry key).keys⟩
  | none =>
    match property.type with
    | .boolean => return some ⟨property.name, .boolean, booleanTokens⟩
    | .enum =>
      match property.domain with
      | none => return none
      | some key => return some ⟨property.name, .tokens, (← resolveDomain registry key).tokens⟩
    | type => return if type.isText then some ⟨property.name, .text, []⟩ else none

def fragment (registry : Registry) (type : ComponentType) : Except RegistryError Fragment := do
  let attributes := (← type.properties.mapM (deriveAttribute registry)).reduceOption
  return ⟨type.identity, some (if type.base = rootType then baseFragment else type.base),
    if type.identity = textInputType then attributes ++ textInputAttributes else attributes⟩

def grammar (registry : Registry) : Except RegistryError Grammar := do
  let fragments ← (← collectTypes registry).mapM (fragment registry)
  let elements ← registry.bindings.mapM fun binding => do
    return ⟨binding.1, binding.2, ← contentModel registry binding.2⟩
  return ⟨fragments, elements⟩

/-- A question that leaves the registry as it is. -/
def query {α : Type} (f : Registry → Except RegistryError α) : RegistryM α := fun registry =>
  match f registry with
  | .ok value => .ok value registry
  | .error error => .error error registry

def bindTag (tag identity : String) : RegistryM Unit := do
  if isName tag.toList then
    discard (query fun registry => resolve registry identity)
    modifyFront (·.keepBinding tag identity)
  else throw (.invalidTag tag)

def applyBindings (table : Table String) : RegistryM Unit :=
  table.entries.forM fun binding => bindTag binding.1 binding.2

def perform : Operation → RegistryM Reply
  | .registerType offer => do
    Registry.registerType offer
    return .done
  | .registerDomain domain => do
    Registry.registerDomain domain
    return .done
  | .bindTag tag identity => do
    bindTag tag identity
    return .done
  | .applyBindings table => do
    applyBindings table
    return .done
  | .resolve identity => return .type (← query (resolve · identity))
  | .resolveDomain key => return .domain (← query (resolveDomain · key))
  | .typeFor tag => return .type (← query (typeFor · tag))
  | .tags => return .names (← get).tags
  | .bindings => return .bindings (← get).bindings
  | .lineage identity => return .types (← query (lineage · identity))
  | .depth identity => return .number (← query (depth · identity))
  | .isSubtype identity ancestor => return .truth (← query (isSubtype · identity ancestor))
  | .collectTypes => return .types (← query collectTypes)
  | .deriveAttribute property => return .attr (← query (deriveAttribute · property))
  | .contentModel identity => return .content (← query (contentModel · identity))
  | .compile => return .grammar (← query grammar)
  | .inFallback operation => askFallback (perform operation)

end Registry.Reference

/-! ## Answers of queries -/

namespace Registry

theorem answer_typeFor (tag : String) (registry : Registry) :
    answer (typeFor tag) registry = Reference.typeFor registry tag := by
  unfold typeFor Reference.typeFor
  rw [answer_get_bind]
  cases registry.front.bindings.get? tag with
  | none => rfl
  | some identity => exact answer_resolve identity registry

theorem answer_lineage (identity : String) (registry : Registry) :
    answer (lineage identity) registry = Reference.lineage registry identity := by
  show answer (climb registry.knownIdentities identity) registry = _
  unfold Reference.lineage
  generalize registry.knownIdentities = unvisited
  induction unvisited, identity using climb.induct with
  | case1 unvisited =>
    rw [climb_root, Reference.climb, if_pos rfl]
    rfl
  | case2 unvisited identity hne ih =>
    rw [answer_climb _ hne, Reference.climb, if_neg hne]
    unfold Reference.resolve
    cases registry.type? identity with
    | none => rfl
    | some type =>
      show (if identity ∈ unvisited then _ else _) = (if _h : identity ∈ unvisited then _ else _)
      by_cases hmem : identity ∈ unvisited
      · rw [if_pos hmem, dif_pos hmem, ih type hmem]
        cases Reference.climb registry (without identity unvisited) type.base <;> rfl
      · rw [if_neg hmem, dif_neg hmem]
        rfl

theorem answer_depth (identity : String) (registry : Registry) :
    answer (depth identity) registry = Reference.depth registry identity := by
  unfold depth Reference.depth
  rw [answer_bind_pure, answer_lineage]

theorem answer_isSubtype (identity ancestor : String) (registry : Registry) :
    answer (isSubtype identity ancestor) registry = Reference.isSubtype registry identity ancestor := by
  unfold isSubtype Reference.isSubtype
  rw [answer_bind_pure, answer_lineage]

theorem answer_contentModel (identity : String) (registry : Registry) :
    answer (contentModel identity) registry = Reference.contentModel registry identity := by
  unfold contentModel Reference.contentModel
  rw [answer_bind_pure, answer_lineage]

theorem answer_collectTypes (registry : Registry) :
    answer Compile.collectTypes registry = Reference.collectTypes registry := by
  rw [Compile.answer_collectTypes]
  simp only [answer_lineage, answer_depth]
  rfl

theorem answer_deriveAttribute (property : Property) (registry : Registry) :
    answer (Compile.deriveAttribute property) registry = Reference.deriveAttribute registry property := by
  unfold Compile.deriveAttribute Reference.deriveAttribute
  generalize (if property.type.isSelector then Builtin.selectorDomains.lookup property.name else none) = selector
  cases selector with
  | some key =>
    simp only [answer_bind_pure, answer_resolveDomain]
    rfl
  | none =>
    obtain ⟨name, type, domain⟩ := property
    cases type with
    | enum =>
      cases domain with
      | none => rfl
      | some key =>
        simp only [answer_bind_pure, answer_resolveDomain]
        rfl
    | _ => rfl

theorem answer_propertyAttributes (type : ComponentType) (properties : List Property) (bench : Workbench) :
    answer (Compile.propertyAttributes type properties) bench =
      (do return (← properties.mapM (Reference.deriveAttribute bench.registry)).reduceOption) := by
  induction properties with
  | nil => rfl
  | cons property rest ih =>
    rw [Compile.answer_propertyAttributes_cons, answer_deriveAttribute, ih, List.mapM_cons]
    cases Reference.deriveAttribute bench.registry property with
    | error error => rfl
    | ok found =>
      cases rest.mapM (Reference.deriveAttribute bench.registry) with
      | error error => rfl
      | ok others => cases found <;> rfl

theorem answer_fragment (type : ComponentType) (bench : Workbench) :
    answer (Compile.fragment type) bench = Reference.fragment bench.registry type := by
  unfold Compile.fragment Compile.fragmentAttributes Reference.fragment
  rw [answer_bind_pure, answer_bind_pure, answer_propertyAttributes]
  cases type.properties.mapM (Reference.deriveAttribute bench.registry) <;> rfl

theorem answer_grammar (bench : Workbench) :
    answer Compile.grammar bench = Reference.grammar bench.registry := by
  rw [Compile.answer_grammar, Compile.answer_elements]
  simp only [answer_collectTypes, answer_fragment, answer_contentModel]
  rfl

end Registry

/-! ## Layers that hold more -/

namespace Layer

/-- Chains of layers that know and bind the same, and so do the chains below their first layers. -/
inductive Alike : List Layer → List Layer → Prop where
  | nil : Alike [] []
  | cons {layer other : Layer} {rest others : List Layer} (bindings : layer.bindings = other.bindings)
      (holds : HoldsSame (layer :: rest) (other :: others)) (below : Alike rest others) :
      Alike (layer :: rest) (other :: others)

theorem Alike.refl (layers : List Layer) : Alike layers layers := by
  induction layers with
  | nil => exact .nil
  | cons layer rest ih => exact .cons rfl (.refl _) ih

theorem Alike.holdsSame {layers others : List Layer} (h : Alike layers others) : HoldsSame layers others := by
  cases h with
  | nil => exact .refl _
  | cons _ holds _ => exact holds

theorem Alike.swap {layers others kept : List Layer} (h : Alike layers others) (h' : Alike layers kept) :
    Alike kept others := by
  induction h generalizing kept with
  | nil =>
    cases h'
    exact .nil
  | cons bindings holds _ ih =>
    cases h' with
    | cons bindings' holds' below' =>
      exact .cons (bindings'.symm.trans bindings) (holds'.symm.trans holds) (ih below')

theorem alike_findType? {identity : String} {layers kept : List Layer} {type : ComponentType}
    (h : findType? identity layers = some (type, kept)) : Alike layers kept := by
  induction layers generalizing kept with
  | nil => cases h
  | cons layer rest ih =>
    have hsame := (findType?_sound h).2
    rcases findType?_cons_cases h with ⟨-, rfl⟩ | ⟨-, below, hfound, rfl⟩
    · exact .refl _
    · exact .cons rfl hsame (ih hfound)

theorem alike_findDomain? {key : String} {layers kept : List Layer} {domain : Domain}
    (h : findDomain? key layers = some (domain, kept)) : Alike layers kept := by
  induction layers generalizing kept with
  | nil => cases h
  | cons layer rest ih =>
    have hsame := (findDomain?_sound h).2
    rcases findDomain?_cons_cases h with ⟨-, rfl⟩ | ⟨-, below, hfound, rfl⟩
    · exact .refl _
    · exact .cons rfl hsame (ih hfound)

/-- Below a layer, chains that hold the same can be exchanged. -/
theorem HoldsSame.below (layer : Layer) {rest others : List Layer} (h : HoldsSame rest others) :
    HoldsSame (layer :: rest) (layer :: others) := by
  constructor
  · intro identity
    rw [type?_cons, type?_cons, h.types]
  · intro key
    rw [domain?_cons, domain?_cons, h.domains]

end Layer

namespace Registry

open Layer (Alike HoldsSame)

def Alike (registry other : Registry) : Prop :=
  Layer.Alike registry.layers other.layers

theorem Alike.agrees {registry other : Registry} (h : registry.Alike other) : registry.Agrees other := by
  refine ⟨h.holdsSame, ?_⟩
  cases h with
  | cons bindings _ _ => exact congrArg Table.entries bindings

theorem keptByLookups_alike (other : Registry) : KeptByLookups fun registry => registry.Alike other := by
  constructor
  · intro identity registry h
    unfold leaves
    rcases resolve_run identity registry with ⟨type, after, hrun, hfind, -⟩ | ⟨hrun, -⟩
    · rw [hrun]
      exact Layer.Alike.swap h (Layer.alike_findType? hfind)
    · rw [hrun]
      exact h
  · intro key registry h
    unfold leaves
    rcases resolveDomain_run key registry with ⟨domain, after, hrun, hfind, -⟩ | ⟨hrun, -⟩
    · rw [hrun]
      exact Layer.Alike.swap h (Layer.alike_findDomain? hfind)
    · rw [hrun]
      exact h

theorem simulates_query {α : Type} {operation : RegistryM α} {f : Registry → Except RegistryError α}
    (hanswer : ∀ registry, answer operation registry = f registry) (h : Transparent Agrees operation)
    (hkeeps : ∀ {holds}, KeptByLookups holds → Preserves holds operation) :
    Simulates Alike operation (Reference.query f) := by
  intro registry other halike
  have hquery : answer (Reference.query f) other = f other ∧ leaves (Reference.query f) other = other := by
    unfold answer leaves Reference.query
    simp only [EStateM.run]
    cases f other <;> exact ⟨rfl, rfl⟩
  rw [hquery.1, hquery.2, h.answers registry other halike.agrees, hanswer]
  exact ⟨rfl, hkeeps (keptByLookups_alike other) registry halike⟩

/-! ## Registering and binding -/

theorem simulates_modifyFront {f : Layer → Layer} (hf : ∀ {layer other : Layer} {rest others : List Layer},
      layer.bindings = other.bindings → HoldsSame (layer :: rest) (other :: others) →
      (f layer).bindings = (f other).bindings ∧ HoldsSame (f layer :: rest) (f other :: others)) :
    Simulates Alike (modifyFront f) (modifyFront f) := by
  intro registry other h
  refine ⟨rfl, ?_⟩
  cases h with
  | cons bindings holds below =>
    obtain ⟨hbindings, hholds⟩ := hf bindings holds
    exact .cons hbindings hholds below

theorem simulates_registerType (offer : TypeOffer) :
    Simulates Alike (registerType offer) (registerType offer) := by
  unfold registerType
  by_cases hroot : offer.identity = rootType
  · rw [if_pos hroot]
    exact .throw _
  · rw [if_neg hroot]
    cases offer.base with
    | none => exact .throw _
    | some base =>
      apply simulates_modifyFront
      intro layer other rest others hbindings hholds
      refine ⟨hbindings, fun identity => ?_, fun key => ?_⟩
      · have hknown := hholds.types identity
        simp only [Layer.type?_cons, Layer.keepType, Table.get?_insert] at hknown ⊢
        by_cases hid : identity = offer.identity
        · simp [hid]
        · simpa [hid] using hknown
      · exact hholds.domains key

theorem simulates_registerDomain (domain : Domain) :
    Simulates Alike (registerDomain domain) (registerDomain domain) := by
  apply simulates_modifyFront
  intro layer other rest others hbindings hholds
  refine ⟨hbindings, fun identity => hholds.types identity, fun key => ?_⟩
  have hknown := hholds.domains key
  simp only [Layer.domain?_cons, Layer.keepDomain, Table.get?_insert] at hknown ⊢
  by_cases hkey : key = domain.key
  · simp [hkey]
  · simpa [hkey] using hknown

theorem simulates_resolve (identity : String) :
    Simulates Alike (resolve identity) (Reference.query (Reference.resolve · identity)) :=
  simulates_query (answer_resolve identity) (resolve_transparent identity) fun h => h.resolve identity

theorem simulates_bindTag (tag identity : String) :
    Simulates Alike (bindTag tag identity) (Reference.bindTag tag identity) := by
  unfold bindTag Reference.bindTag
  by_cases htag : isName tag.toList = true
  · rw [if_pos htag, if_pos htag]
    apply (simulates_resolve identity).discard.bind
    intro _
    apply simulates_modifyFront
    intro layer other rest others hbindings hholds
    refine ⟨?_, fun identity => hholds.types identity, fun key => hholds.domains key⟩
    simp only [Layer.keepBinding, hbindings]
  · rw [if_neg htag, if_neg htag]
    exact .throw _

theorem simulates_applyBindings (table : Table String) :
    Simulates Alike (unrecorded (Compile.applyBindings table)) (Reference.applyBindings table) := by
  rw [unrecorded_applyBindings]
  unfold Reference.applyBindings
  apply Simulates.forM
  intro binding
  exact simulates_bindTag binding.1 binding.2

/-! ## All operations -/

theorem typeFor_transparent (tag : String) : Transparent Agrees (typeFor tag) := by
  refine Transparent.get_bind (fun registry => ?_) ?_
  · split
    · exact resolve_transparent _
    · exact .throw agrees_equivalence _
  · intro registry other hagrees third
    have hbound : registry.front.bindings.get? tag = other.front.bindings.get? tag :=
      congrArg (List.lookup tag) hagrees.bindings
    rw [hbound]

theorem isSubtype_transparent (identity ancestor : String) : Transparent Agrees (isSubtype identity ancestor) :=
  (lineage_transparent identity).bind agrees_equivalence fun _ => .pure agrees_equivalence _

theorem compile_transparent : Transparent Agrees (unrecorded Compile.grammar) := by
  constructor
  · intro registry
    rw [leaves_unrecorded]
    exact Compile.grammar_transparent.keeps ⟨registry, []⟩
  · intro registry other hagrees
    rw [answer_unrecorded, answer_unrecorded]
    exact Compile.grammar_transparent.answers _ _ hagrees

/-- What is known changes only if something is registered. -/
theorem holdsSame_perform {operation : Operation} (h : operation.registers = false) (registry : Registry) :
    HoldsSame registry.layers (leaves operation.perform registry).layers := by
  induction operation generalizing registry with
  | registerType offer => cases h
  | registerDomain domain => cases h
  | bindTag tag identity =>
    rw [Operation.perform, leaves_bind_pure]
    exact holdsSame_bindTag tag identity registry
  | applyBindings table =>
    have hbind : ∀ tag identity, Preserves
        (fun after : Registry => HoldsSame registry.layers after.layers) (bindTag tag identity) :=
      fun tag identity between hbetween => hbetween.trans (holdsSame_bindTag tag identity between)
    exact preserves_applyBindings hbind table registry (HoldsSame.refl _)
  | inFallback operation ih =>
    obtain ⟨front, fallbacks⟩ := registry
    cases fallbacks with
    | nil => exact .refl _
    | cons layer rest =>
      rw [Operation.perform, leaves_askFallback]
      exact .below front (ih h ⟨layer, rest⟩)
  | _ => exact ((keptByLookups_alike registry).perform rfl registry (Layer.Alike.refl _)).holdsSame.symm

theorem simulates_inFallback {operation : Operation} (h : operation.registers = false)
    (hsimulates : Simulates Alike operation.perform (Reference.perform operation)) :
    Simulates Alike (Operation.inFallback operation).perform (Reference.perform (.inFallback operation)) := by
  rintro ⟨front, fallbacks⟩ ⟨other, others⟩ halike
  cases halike with
  | cons bindings holds below =>
    cases below with
    | nil => exact ⟨rfl, .cons bindings holds .nil⟩
    | @cons layer otherLayer rest otherRest bindings' holds' below' =>
      obtain ⟨hanswer, hleaves⟩ := hsimulates ⟨layer, rest⟩ ⟨otherLayer, otherRest⟩ (.cons bindings' holds' below')
      rw [Operation.perform, Reference.perform, answer_askFallback, answer_askFallback, leaves_askFallback,
        leaves_askFallback]
      -- the fallbacks know what they knew before, so the layer above them may go on holding a part of it
      have hsame := holdsSame_perform h ⟨layer, rest⟩
      have hother := holds'.symm.trans (hsame.trans hleaves.holdsSame)
      refine ⟨hanswer, .cons bindings ?_ hleaves⟩
      exact (HoldsSame.below front hsame).symm.trans (holds.trans (.below other hother))

theorem simulates_perform {operation : Operation} (h : operation.sparesFallbacks = true) :
    Simulates Alike operation.perform (Reference.perform operation) := by
  induction operation with
  | registerType offer => exact (simulates_registerType offer).bind fun _ => .pure _
  | registerDomain domain => exact (simulates_registerDomain domain).bind fun _ => .pure _
  | bindTag tag identity => exact (simulates_bindTag tag identity).bind fun _ => .pure _
  | applyBindings table => exact (simulates_applyBindings table).bind fun _ => .pure _
  | resolve identity => exact (simulates_resolve identity).bind fun _ => .pure _
  | resolveDomain key =>
    exact (simulates_query (answer_resolveDomain key) (resolveDomain_transparent key)
      fun h => h.resolveDomain key).bind fun _ => .pure _
  | typeFor tag =>
    exact (simulates_query (answer_typeFor tag) (typeFor_transparent tag) fun h => h.typeFor tag).bind fun _ =>
      .pure _
  | tags =>
    intro registry other halike
    refine ⟨?_, halike⟩
    show Except.ok (Reply.names (registry.bindings.map Prod.fst)) = _
    rw [halike.agrees.bindings]
    rfl
  | bindings =>
    intro registry other halike
    refine ⟨?_, halike⟩
    show Except.ok (Reply.bindings registry.bindings) = _
    rw [halike.agrees.bindings]
    rfl
  | lineage identity =>
    exact (simulates_query (answer_lineage identity) (lineage_transparent identity)
      fun h => h.lineage identity).bind fun _ => .pure _
  | depth identity =>
    exact (simulates_query (answer_depth identity) (depth_transparent identity)
      fun h => h.depth identity).bind fun _ => .pure _
  | isSubtype identity ancestor =>
    exact (simulates_query (answer_isSubtype identity ancestor) (isSubtype_transparent identity ancestor)
      fun h => h.isSubtype identity ancestor).bind fun _ => .pure _
  | collectTypes =>
    exact (simulates_query answer_collectTypes Compile.collectTypes_transparent
      fun h => h.collectTypes).bind fun _ => .pure _
  | deriveAttribute property =>
    exact (simulates_query (answer_deriveAttribute property) (Compile.deriveAttribute_transparent property)
      fun h => h.deriveAttribute property).bind fun _ => .pure _
  | contentModel identity =>
    exact (simulates_query (answer_contentModel identity) (contentModel_transparent identity)
      fun h => h.contentModel identity).bind fun _ => .pure _
  | compile =>
    refine (simulates_query (fun registry => ?_) compile_transparent fun h => preserves_unrecorded h.grammar).bind
      fun _ => .pure _
    rw [answer_unrecorded, answer_grammar]
  | inFallback operation ih =>
    have hregisters : operation.registers = false := by simpa [Operation.sparesFallbacks] using h
    exact simulates_inFallback hregisters (ih (Operation.sparesFallbacks_of_registers hregisters))

/-! ## Sequences of operations -/

/-- The answers to operations that are performed one after the other, whether they succeed or fail. -/
def answers (perform : Operation → RegistryM Reply) : List Operation → Registry → List (Except RegistryError Reply)
  | [], _ => []
  | operation :: rest, registry =>
    answer (perform operation) registry :: answers perform rest (leaves (perform operation) registry)

theorem answers_eq_of_alike {operations : List Operation}
    (h : ∀ operation ∈ operations, operation.sparesFallbacks = true) {registry other : Registry}
    (halike : registry.Alike other) :
    answers Operation.perform operations registry = answers Reference.perform operations other := by
  induction operations generalizing registry other with
  | nil => rfl
  | cons operation rest ih =>
    rw [List.forall_mem_cons] at h
    obtain ⟨hanswer, hleaves⟩ := simulates_perform h.1 registry other halike
    rw [answers, answers, hanswer, ih h.2 hleaves]

/-- **Keeping what is looked up changes no answer**, and what is not found changes nothing at all. -/
theorem answers_eq_reference (registry : Registry) (operations : List Operation)
    (h : ∀ operation ∈ operations, operation.sparesFallbacks = true) :
    answers Operation.perform operations registry = answers Reference.perform operations registry ∧
      (∀ identity error after, (resolve identity).run registry = .error error after → after = registry) ∧
      (∀ key error after, (resolveDomain key).run registry = .error error after → after = registry) := by
  refine ⟨answers_eq_of_alike h (Layer.Alike.refl _), ?_, ?_⟩
  · intro identity error after hrun
    rcases resolve_run identity registry with ⟨_, _, hok, -⟩ | ⟨hfailed, -⟩
    · rw [hok] at hrun
      cases hrun
    · rw [hfailed] at hrun
      cases hrun
      rfl
  · intro key error after hrun
    rcases resolveDomain_run key registry with ⟨_, _, hok, -⟩ | ⟨hfailed, -⟩
    · rw [hok] at hrun
      cases hrun
    · rw [hfailed] at hrun
      cases hrun
      rfl

/-! ### A registry over another -/

def lender : Registry :=
  ⟨⟨Table.ofList [("Panel", ⟨"Panel", rootType, []⟩), ("Button", ⟨"Button", "Panel", []⟩)], .empty, .empty⟩, []⟩

def borrower : Registry :=
  withFallback .empty (some lender)

/-- The borrower registers a type anew that it has come to hold, which makes a later look-up fail
halfway. -/
def requests : List Operation :=
  [.resolve "Panel", .inFallback (.bindTag "panel" "Panel"), .registerType ⟨"Panel", some "Lost", []⟩,
    .lineage "Button", .bindTag "button" "Button", .compile, .resolve "Lost"]

theorem answers_requests : (∀ operation ∈ requests, operation.sparesFallbacks = true) ∧
    (leaves (resolve "Panel") borrower).front.types.keys = ["Panel"] ∧
    answers Operation.perform requests borrower = answers Reference.perform requests borrower ∧
      (∀ identity error after, (resolve identity).run borrower = .error error after → after = borrower) ∧
      (∀ key error after, (resolveDomain key).run borrower = .error error after → after = borrower) :=
  ⟨by decide, by decide, answers_eq_reference borrower requests (by decide)⟩

end Registry

end TagGrammar
