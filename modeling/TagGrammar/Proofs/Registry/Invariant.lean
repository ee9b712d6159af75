import TagGrammar.Proofs.Builtin
import TagGrammar.Proofs.Registry.Lookup

/-!
# Registries that operations build

Registries are created over others and then changed step by step, by operations that succeed or
fail, on the registry itself or on one it falls back to. All of them hold types under their own
identities, never the root type, and bind names to types they hold themselves.
-/

namespace TagGrammar

/-! ## Layers -/

structure Layer.WellFormed (layer : Layer) : Prop where
  types : ∀ identity type, layer.types.get? identity = some type →
    type.identity = identity ∧ identity ≠ rootType
  bindings : ∀ tag identity, layer.bindings.get? tag = some identity →
    isName tag.toList = true ∧ identity ∈ layer.types.keys

namespace Layer

theorem wellFormed_empty : empty.WellFormed := by
  constructor
  · intro identity type h
    cases h
  · intro tag identity h
    cases h

theorem wellFormed_ofList {types : List ComponentType} {domains : Table Domain}
    {bindings : List (String × String)} (htypes : ∀ type ∈ types, type.identity ≠ rootType)
    (hbindings : ∀ binding ∈ bindings, isName binding.1.toList = true ∧
      binding.2 ∈ types.map ComponentType.identity) :
    WellFormed ⟨Table.ofList (types.map fun type => (type.identity, type)), domains,
      Table.ofList bindings⟩ := by
  constructor
  · intro identity type hget
    obtain ⟨held, hheld, heq⟩ := List.mem_map.1 (Table.mem_of_get?_ofList hget)
    simp only [Prod.mk.injEq] at heq
    obtain ⟨rfl, rfl⟩ := heq
    exact ⟨rfl, htypes held hheld⟩
  · intro tag identity hget
    obtain ⟨hname, hheld⟩ := hbindings _ (Table.mem_of_get?_ofList hget)
    refine ⟨hname, ?_⟩
    simpa using hheld

section
variable {layer : Layer} (h : layer.WellFormed)
include h

theorem WellFormed.keepType {type : ComponentType} (hroot : type.identity ≠ rootType) :
    (layer.keepType type.identity type).WellFormed := by
  constructor
  · exact Table.forall_get?_insert h.types ⟨rfl, hroot⟩
  · intro tag identity hget
    obtain ⟨hname, hmem⟩ := h.bindings tag identity hget
    refine ⟨hname, ?_⟩
    rw [Layer.keepType, Table.keys_insert]
    by_cases hid : type.identity ∈ layer.types.keys
    · rwa [if_pos hid]
    · rw [if_neg hid]
      exact List.mem_append_left _ hmem

theorem WellFormed.keepDomain (key : String) (domain : Domain) : (layer.keepDomain key domain).WellFormed :=
  ⟨h.types, h.bindings⟩

theorem WellFormed.keepBinding {tag identity : String} (htag : isName tag.toList = true)
    (hid : identity ∈ layer.types.keys) : (layer.keepBinding tag identity).WellFormed :=
  ⟨h.types, Table.forall_get?_insert h.bindings ⟨htag, hid⟩⟩

end

theorem wellFormed_findType? {identity : String} {layers kept : List Layer} {type : ComponentType}
    (h : ∀ layer ∈ layers, layer.WellFormed) (hfind : findType? identity layers = some (type, kept)) :
    (type.identity = identity ∧ identity ≠ rootType) ∧ ∀ layer ∈ kept, layer.WellFormed := by
  induction layers generalizing kept with
  | nil => cases hfind
  | cons layer rest ih =>
    have hlayer := h layer List.mem_cons_self
    rcases findType?_cons_cases hfind with ⟨hget, rfl⟩ | ⟨-, below, hfound, rfl⟩
    · exact ⟨hlayer.types identity type hget, h⟩
    · obtain ⟨⟨rfl, hroot⟩, hbelow⟩ := ih (fun l hl => h l (List.mem_cons_of_mem _ hl)) hfound
      exact ⟨⟨rfl, hroot⟩, List.forall_mem_cons.2 ⟨hlayer.keepType hroot, hbelow⟩⟩

theorem wellFormed_findDomain? {key : String} {layers kept : List Layer} {domain : Domain}
    (h : ∀ layer ∈ layers, layer.WellFormed) (hfind : findDomain? key layers = some (domain, kept)) :
    ∀ layer ∈ kept, layer.WellFormed := by
  induction layers generalizing kept with
  | nil => cases hfind
  | cons layer rest ih =>
    rcases findDomain?_cons_cases hfind with ⟨-, rfl⟩ | ⟨-, below, hfound, rfl⟩
    · exact h
    · have hbelow := ih (fun l hl => h l (List.mem_cons_of_mem _ hl)) hfound
      exact List.forall_mem_cons.2 ⟨(h layer List.mem_cons_self).keepDomain key domain, hbelow⟩

end Layer

/-! ## Registries -/

namespace Registry

def WellFormed (registry : Registry) : Prop :=
  ∀ layer ∈ registry.layers, layer.WellFormed

theorem wellFormed_mk {front : Layer} {fallbacks : List Layer} (hfront : front.WellFormed)
    (hrest : ∀ layer ∈ fallbacks, layer.WellFormed) : WellFormed ⟨front, fallbacks⟩ := by
  intro layer hl
  rcases List.mem_cons.1 hl with rfl | hl
  · exact hfront
  · exact hrest layer hl

theorem wellFormed_withFallback {front : Layer} {fallback : Option Registry} (hfront : front.WellFormed)
    (h : ∀ registry ∈ fallback, registry.WellFormed) : (withFallback front fallback).WellFormed := by
  apply wellFormed_mk hfront
  cases fallback with
  | none => simp
  | some registry => exact h registry rfl

section
variable {registry : Registry} (h : registry.WellFormed)
include h

theorem WellFormed.front : registry.front.WellFormed :=
  h _ List.mem_cons_self

theorem WellFormed.fallbacks : ∀ layer ∈ registry.fallbacks, layer.WellFormed :=
  fun layer hl => h layer (List.mem_cons_of_mem _ hl)

theorem WellFormed.type? {identity : String} {type : ComponentType}
    (htype : registry.type? identity = some type) : type.identity = identity ∧ identity ≠ rootType := by
  obtain ⟨layer, hl, hget⟩ := List.exists_of_findSome?_eq_some htype
  exact (h layer hl).types identity type hget

theorem WellFormed.binding {tag identity : String} (hmem : (tag, identity) ∈ registry.bindings) :
    isName tag.toList = true ∧ identity ≠ rootType := by
  obtain ⟨hname, hid⟩ := h.front.bindings tag identity (Table.get?_eq_some_iff.2 hmem)
  obtain ⟨type, htype⟩ := Table.mem_keys_iff.1 hid
  exact ⟨hname, (h.front.types identity type (Table.get?_eq_some_iff.2 htype)).2⟩

end

/-! ## Operations -/

theorem preserves_registerType (offer : TypeOffer) : Preserves WellFormed (registerType offer) := by
  intro registry h
  unfold registerType
  by_cases hroot : offer.identity = rootType
  · rw [if_pos hroot]
    exact h
  · rw [if_neg hroot]
    cases offer.base with
    | none => exact h
    | some base =>
      have htype : (ComponentType.mk offer.identity base offer.properties).identity ≠ rootType := hroot
      exact wellFormed_mk (h.front.keepType htype) h.fallbacks

theorem preserves_registerDomain (domain : Domain) : Preserves WellFormed (registerDomain domain) :=
  fun _ h => wellFormed_mk (h.front.keepDomain domain.key domain) h.fallbacks

theorem preserves_registerAll (offers : List TypeOffer) (domains : List Domain) :
    Preserves WellFormed (registerAll offers domains) :=
  (Preserves.forM preserves_registerType offers).bind fun _ => .forM preserves_registerDomain domains

theorem preserves_resolve (identity : String) : Preserves WellFormed (resolve identity) := by
  intro registry h
  unfold leaves
  rcases resolve_run identity registry with ⟨type, after, hrun, hfind, -⟩ | ⟨hrun, -⟩
  · rw [hrun]
    exact (Layer.wellFormed_findType? h hfind).2
  · rw [hrun]
    exact h

theorem preserves_resolveDomain (key : String) : Preserves WellFormed (resolveDomain key) := by
  intro registry h
  unfold leaves
  rcases resolveDomain_run key registry with ⟨domain, after, hrun, hfind, -⟩ | ⟨hrun, -⟩
  · rw [hrun]
    exact Layer.wellFormed_findDomain? h hfind
  · rw [hrun]
    exact h

theorem bindTag_run {tag : String} (htag : isName tag.toList = true) (identity : String)
    (registry : Registry) : (bindTag tag identity).run registry =
      match (resolve identity).run registry with
      | .ok _ after => .ok () { after with front := after.front.keepBinding tag identity }
      | .error error after => .error error after := by
  unfold bindTag
  rw [if_pos htag]
  show EStateM.bind (EStateM.map (fun _ => ()) (resolve identity)) _ registry = _
  unfold EStateM.bind EStateM.map EStateM.run
  cases resolve identity registry <;> rfl

/-- A tag is bound after its type has been looked up, or nothing changes. -/
theorem bindTag_cases (tag identity : String) (registry : Registry) :
    (isName tag.toList = true ∧ ∃ type after, (resolve identity).run registry = .ok type after ∧
      (bindTag tag identity).run registry =
        .ok () { after with front := after.front.keepBinding tag identity }) ∨
    ∃ error, (bindTag tag identity).run registry = .error error registry := by
  by_cases htag : isName tag.toList = true
  · rw [bindTag_run htag]
    rcases resolve_run identity registry with ⟨type, after, hrun, -⟩ | ⟨hrun, -⟩
    · exact .inl ⟨htag, type, after, hrun, by rw [hrun]⟩
    · exact .inr ⟨_, by rw [hrun]⟩
  · unfold bindTag
    rw [if_neg htag]
    exact .inr ⟨_, rfl⟩

theorem holdsSame_bindTag (tag identity : String) (registry : Registry) :
    Layer.HoldsSame registry.layers (leaves (bindTag tag identity) registry).layers := by
  unfold leaves
  rcases bindTag_cases tag identity registry with ⟨-, type, after, hrun, hbind⟩ | ⟨error, hbind⟩
  · rw [hbind]
    have hafter := (resolve_transparent identity).keeps registry
    unfold leaves at hafter
    rw [hrun] at hafter
    exact ⟨hafter.holds.types, hafter.holds.domains⟩
  · rw [hbind]
    exact .refl _

theorem front_of_resolve {identity : String} {registry after : Registry} {type : ComponentType}
    (h : (resolve identity).run registry = .ok type after) : after.front.types.get? identity = some type := by
  rcases resolve_run identity registry with ⟨found, kept, hrun, hfind, -⟩ | ⟨hrun, -⟩
  · rw [h] at hrun
    cases hrun
    exact Layer.findType?_first hfind
  · rw [h] at hrun
    cases hrun

/-- A tag is bound only to a type that the registry has come to hold itself. -/
theorem preserves_bindTag (tag identity : String) : Preserves WellFormed (bindTag tag identity) := by
  intro registry h
  unfold leaves
  rcases bindTag_cases tag identity registry with ⟨htag, type, after, hrun, hbind⟩ | ⟨error, hbind⟩
  · have hafter := preserves_resolve identity registry h
    unfold leaves at hafter
    rw [hrun] at hafter
    rw [hbind]
    have hheld : identity ∈ after.front.types.keys := by
      rw [← Table.get?_isSome_iff, front_of_resolve hrun]
      rfl
    exact wellFormed_mk (hafter.front.keepBinding htag hheld) hafter.fallbacks
  · rw [hbind]
    exact h

/-- What one operation does to a registry or, where it falls back to others, to one of those. All
other operations are sequences of these. -/
inductive Step : Registry → Registry → Prop where
  | registerType (registry : Registry) (offer : TypeOffer) :
      Step registry (leaves (registerType offer) registry)
  | registerDomain (registry : Registry) (domain : Domain) :
      Step registry (leaves (registerDomain domain) registry)
  | bindTag (registry : Registry) (tag identity : String) :
      Step registry (leaves (bindTag tag identity) registry)
  | resolve (registry : Registry) (identity : String) : Step registry (leaves (resolve identity) registry)
  | resolveDomain (registry : Registry) (key : String) : Step registry (leaves (resolveDomain key) registry)
  | inFallback {front before after : Layer} {rest others : List Layer}
      (h : Step ⟨before, rest⟩ ⟨after, others⟩) : Step ⟨front, before :: rest⟩ ⟨front, after :: others⟩

theorem Step.wellFormed {registry after : Registry} (hstep : Step registry after)
    (h : registry.WellFormed) : after.WellFormed := by
  induction hstep with
  | registerType registry offer => exact preserves_registerType offer registry h
  | registerDomain registry domain => exact preserves_registerDomain domain registry h
  | bindTag registry tag identity => exact preserves_bindTag tag identity registry h
  | resolve registry identity => exact preserves_resolve identity registry h
  | resolveDomain registry key => exact preserves_resolveDomain key registry h
  | inFallback hstep ih => exact wellFormed_mk h.front (ih h.fallbacks)

/-! ## Whole runs -/

/-- The registries that come about: created over others, and changed step by step. -/
inductive Reachable : Registry → Prop where
  | create {offers : List TypeOffer} {domains : List Domain} {fallback : Option Registry}
      {registry : Registry} (hfallback : ∀ other ∈ fallback, Reachable other)
      (h : Registry.create offers domains fallback = .ok registry) : Reachable registry
  | standard {fallback : Option Registry} (hfallback : ∀ other ∈ fallback, Reachable other) :
      Reachable (Registry.standard fallback)
  | step {registry after : Registry} (h : Reachable registry) (hstep : Step registry after) : Reachable after

theorem create_leaves {offers : List TypeOffer} {domains : List Domain} {fallback : Option Registry}
    {registry : Registry} (h : Registry.create offers domains fallback = .ok registry) :
    leaves (registerAll offers domains) (withFallback .empty fallback) = registry := by
  unfold Registry.create at h
  unfold leaves
  cases hrun : (registerAll offers domains).run (withFallback .empty fallback) with
  | ok value after => simpa [hrun] using h
  | error error after => simp [hrun] at h

theorem wellFormed_create {offers : List TypeOffer} {domains : List Domain} {fallback : Option Registry}
    {registry : Registry} (hfallback : ∀ other ∈ fallback, WellFormed other)
    (h : Registry.create offers domains fallback = .ok registry) : registry.WellFormed := by
  rw [← create_leaves h]
  exact preserves_registerAll offers domains _ (wellFormed_withFallback Layer.wellFormed_empty hfallback)

theorem wellFormed_standard {fallback : Option Registry} (hfallback : ∀ other ∈ fallback, WellFormed other) :
    (Registry.standard fallback).WellFormed := by
  apply wellFormed_withFallback (Layer.wellFormed_ofList ?_ ?_) hfallback
  · intro type hmem
    exact (Builtin.types_vetted type hmem).ne_rootType
  · intro binding hb
    exact ⟨Builtin.isName_tag hb, Builtin.bindings_bound binding hb⟩

/-- **Every registry that comes about is well formed.** -/
theorem Reachable.wellFormed {registry : Registry} (h : Reachable registry) : registry.WellFormed := by
  induction h with
  | create _ h ih => exact wellFormed_create ih h
  | standard _ ih => exact wellFormed_standard ih
  | step _ hstep ih => exact hstep.wellFormed ih

end Registry

end TagGrammar
