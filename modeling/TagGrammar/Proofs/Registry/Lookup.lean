import TagGrammar.Proofs.Registry.Answers

/-!
# What a registry knows

A registry knows the types and domains that some layer of its chain holds; where several hold one,
the nearest counts. Looking something up answers what is known and changes none of it
(`resolve_transparent`, `resolveDomain_transparent`), although it copies entries from one layer to
another.
-/

namespace TagGrammar

/-! ## Chains of layers -/

namespace Layer

def type? (layers : List Layer) (identity : String) : Option ComponentType :=
  layers.findSome? fun layer => layer.types.get? identity

def domain? (layers : List Layer) (key : String) : Option Domain :=
  layers.findSome? fun layer => layer.domains.get? key

theorem type?_cons (layer : Layer) (rest : List Layer) (identity : String) :
    type? (layer :: rest) identity = (layer.types.get? identity).or (type? rest identity) := by
  rw [type?, List.findSome?_cons]
  cases layer.types.get? identity <;> rfl

theorem domain?_cons (layer : Layer) (rest : List Layer) (key : String) :
    domain? (layer :: rest) key = (layer.domains.get? key).or (domain? rest key) := by
  rw [domain?, List.findSome?_cons]
  cases layer.domains.get? key <;> rfl

structure HoldsSame (layers others : List Layer) : Prop where
  types : ∀ identity, type? layers identity = type? others identity
  domains : ∀ key, domain? layers key = domain? others key

theorem HoldsSame.refl (layers : List Layer) : HoldsSame layers layers :=
  ⟨fun _ => rfl, fun _ => rfl⟩

theorem HoldsSame.symm {layers others : List Layer} (h : HoldsSame layers others) : HoldsSame others layers :=
  ⟨fun identity => (h.types identity).symm, fun key => (h.domains key).symm⟩

theorem HoldsSame.trans {layers others kept : List Layer} (h : HoldsSame layers others)
    (h' : HoldsSame others kept) :
    HoldsSame layers kept :=
  ⟨fun identity => (h.types identity).trans (h'.types identity),
    fun key => (h.domains key).trans (h'.domains key)⟩

theorem HoldsSame.keepType {layer : Layer} {rest kept : List Layer} {identity : String}
    {type : ComponentType} (h : HoldsSame rest kept) (hnone : layer.types.get? identity = none)
    (hsome : type? rest identity = some type) :
    HoldsSame (layer :: rest) (layer.keepType identity type :: kept) := by
  constructor
  · intro key
    simp only [type?_cons, Layer.keepType, Table.get?_insert, ← h.types]
    split
    · rename_i heq
      simp [heq, hnone, hsome]
    · rfl
  · intro key
    rw [domain?_cons, domain?_cons, h.domains]
    rfl

theorem HoldsSame.keepDomain {layer : Layer} {rest kept : List Layer} {key : String} {domain : Domain}
    (h : HoldsSame rest kept) (hnone : layer.domains.get? key = none)
    (hsome : domain? rest key = some domain) :
    HoldsSame (layer :: rest) (layer.keepDomain key domain :: kept) := by
  constructor
  · intro identity
    rw [type?_cons, type?_cons, h.types]
    rfl
  · intro other
    simp only [domain?_cons, Layer.keepDomain, Table.get?_insert, ← h.domains]
    split
    · rename_i heq
      simp [heq, hnone, hsome]
    · rfl

theorem findType?_eq_none_iff {identity : String} {layers : List Layer} :
    findType? identity layers = none ↔ type? layers identity = none := by
  induction layers with
  | nil => simp [findType?, type?]
  | cons layer rest ih =>
    rw [findType?, type?_cons]
    cases layer.types.get? identity <;> simp [ih]

/-- A type that is found stands in the first layer, or the first layer comes to keep it. -/
theorem findType?_cons_cases {identity : String} {layer : Layer} {rest kept : List Layer} {type : ComponentType}
    (h : findType? identity (layer :: rest) = some (type, kept)) :
    (layer.types.get? identity = some type ∧ kept = layer :: rest) ∨
      (layer.types.get? identity = none ∧ ∃ below, findType? identity rest = some (type, below) ∧
        kept = layer.keepType identity type :: below) := by
  rw [findType?] at h
  cases hget : layer.types.get? identity with
  | some found =>
    simp only [hget, Option.some.injEq, Prod.mk.injEq] at h
    exact .inl ⟨congrArg some h.1, h.2.symm⟩
  | none =>
    simp only [hget, Option.map_eq_some_iff, Prod.mk.injEq] at h
    obtain ⟨⟨found, below⟩, hfound, rfl, rfl⟩ := h
    exact .inr ⟨rfl, below, hfound, rfl⟩

theorem findType?_sound {identity : String} {layers kept : List Layer} {type : ComponentType}
    (h : findType? identity layers = some (type, kept)) :
    type? layers identity = some type ∧ HoldsSame layers kept := by
  induction layers generalizing kept with
  | nil => cases h
  | cons layer rest ih =>
    rcases findType?_cons_cases h with ⟨hget, rfl⟩ | ⟨hget, below, hfound, rfl⟩
    · exact ⟨by simp [type?_cons, hget], .refl _⟩
    · obtain ⟨htype, hsame⟩ := ih hfound
      exact ⟨by simp [type?_cons, hget, htype], hsame.keepType hget htype⟩

/-- The first layer has a type that is found, or keeps it. -/
theorem findType?_first {identity : String} {layer kept : Layer} {rest others : List Layer}
    {type : ComponentType} (h : findType? identity (layer :: rest) = some (type, kept :: others)) :
    kept.types.get? identity = some type := by
  rcases findType?_cons_cases h with ⟨hget, heq⟩ | ⟨-, below, -, heq⟩
  · obtain ⟨rfl, -⟩ := List.cons.inj heq
    exact hget
  · obtain ⟨rfl, -⟩ := List.cons.inj heq
    simp [Layer.keepType]

theorem findDomain?_eq_none_iff {key : String} {layers : List Layer} :
    findDomain? key layers = none ↔ domain? layers key = none := by
  induction layers with
  | nil => simp [findDomain?, domain?]
  | cons layer rest ih =>
    rw [findDomain?, domain?_cons]
    cases layer.domains.get? key <;> simp [ih]

/-- A domain that is found stands in the first layer, or the first layer comes to keep it. -/
theorem findDomain?_cons_cases {key : String} {layer : Layer} {rest kept : List Layer} {domain : Domain}
    (h : findDomain? key (layer :: rest) = some (domain, kept)) :
    (layer.domains.get? key = some domain ∧ kept = layer :: rest) ∨
      (layer.domains.get? key = none ∧ ∃ below, findDomain? key rest = some (domain, below) ∧
        kept = layer.keepDomain key domain :: below) := by
  rw [findDomain?] at h
  cases hget : layer.domains.get? key with
  | some found =>
    simp only [hget, Option.some.injEq, Prod.mk.injEq] at h
    exact .inl ⟨congrArg some h.1, h.2.symm⟩
  | none =>
    simp only [hget, Option.map_eq_some_iff, Prod.mk.injEq] at h
    obtain ⟨⟨found, below⟩, hfound, rfl, rfl⟩ := h
    exact .inr ⟨rfl, below, hfound, rfl⟩

theorem findDomain?_sound {key : String} {layers kept : List Layer} {domain : Domain}
    (h : findDomain? key layers = some (domain, kept)) :
    domain? layers key = some domain ∧ HoldsSame layers kept := by
  induction layers generalizing kept with
  | nil => cases h
  | cons layer rest ih =>
    rcases findDomain?_cons_cases h with ⟨hget, rfl⟩ | ⟨hget, below, hfound, rfl⟩
    · exact ⟨by simp [domain?_cons, hget], .refl _⟩
    · obtain ⟨hdomain, hsame⟩ := ih hfound
      exact ⟨by simp [domain?_cons, hget, hdomain], hsame.keepDomain hget hdomain⟩

end Layer

/-! ## Registries -/

namespace Registry

def type? (registry : Registry) (identity : String) : Option ComponentType :=
  Layer.type? registry.layers identity

def domain? (registry : Registry) (key : String) : Option Domain :=
  Layer.domain? registry.layers key

/-- Two registries that know the same and bind the same tags. -/
structure Agrees (registry other : Registry) : Prop where
  holds : Layer.HoldsSame registry.layers other.layers
  bindings : registry.bindings = other.bindings

theorem Agrees.type? {registry other : Registry} (h : registry.Agrees other) (identity : String) :
    registry.type? identity = other.type? identity :=
  h.holds.types identity

theorem Agrees.domain? {registry other : Registry} (h : registry.Agrees other) (key : String) :
    registry.domain? key = other.domain? key :=
  h.holds.domains key

theorem agrees_equivalence : Equivalence Agrees where
  refl _ := ⟨.refl _, rfl⟩
  symm h := ⟨h.holds.symm, h.bindings.symm⟩
  trans h h' := ⟨h.holds.trans h'.holds, h.bindings.trans h'.bindings⟩

@[simp] theorem mem_knownIdentities {registry : Registry} {identity : String} :
    identity ∈ registry.knownIdentities ↔ (registry.type? identity).isSome := by
  rw [type?, Layer.type?, List.findSome?_isSome_iff, knownIdentities, List.mem_flatMap]
  simp

/-! ## Resolving names -/

/-- Resolving an identity looks it up in all layers, the registry's own first. -/
theorem resolve_run (identity : String) (registry : Registry) :
    (∃ type after, (resolve identity).run registry = .ok type after ∧
      Layer.findType? identity registry.layers = some (type, after.layers) ∧
      registry.bindings = after.bindings) ∨
    ((resolve identity).run registry = .error (.unresolvedType identity) registry ∧
      Layer.findType? identity registry.layers = none) := by
  simp only [resolve, EStateM.run_bind, EStateM.run_get, layers, Layer.findType?]
  cases registry.front.types.get? identity with
  | some type => exact .inl ⟨type, registry, rfl, rfl, rfl⟩
  | none =>
    cases Layer.findType? identity registry.fallbacks with
    | none => exact .inr ⟨rfl, rfl⟩
    | some found =>
      obtain ⟨type, fallbacks⟩ := found
      exact .inl ⟨type, ⟨registry.front.keepType identity type, fallbacks⟩, rfl, rfl, rfl⟩

theorem resolveDomain_run (key : String) (registry : Registry) :
    (∃ domain after, (resolveDomain key).run registry = .ok domain after ∧
      Layer.findDomain? key registry.layers = some (domain, after.layers) ∧
      registry.bindings = after.bindings) ∨
    ((resolveDomain key).run registry = .error (.unresolvedDomain key) registry ∧
      Layer.findDomain? key registry.layers = none) := by
  simp only [resolveDomain, EStateM.run_bind, EStateM.run_get, layers, Layer.findDomain?]
  cases registry.front.domains.get? key with
  | some domain => exact .inl ⟨domain, registry, rfl, rfl, rfl⟩
  | none =>
    cases Layer.findDomain? key registry.fallbacks with
    | none => exact .inr ⟨rfl, rfl⟩
    | some found =>
      obtain ⟨domain, fallbacks⟩ := found
      exact .inl ⟨domain, ⟨registry.front.keepDomain key domain, fallbacks⟩, rfl, rfl, rfl⟩

theorem answer_resolve (identity : String) (registry : Registry) : answer (resolve identity) registry =
    match registry.type? identity with
    | some type => .ok type
    | none => .error (.unresolvedType identity) := by
  rcases resolve_run identity registry with ⟨type, after, hrun, hfind, -⟩ | ⟨hrun, hfind⟩
  · have htype : registry.type? identity = some type := (Layer.findType?_sound hfind).1
    simp [answer, hrun, htype]
  · have htype : registry.type? identity = none := Layer.findType?_eq_none_iff.1 hfind
    simp [answer, hrun, htype]

theorem answer_resolveDomain (key : String) (registry : Registry) :
    answer (resolveDomain key) registry =
      match registry.domain? key with
      | some domain => .ok domain
      | none => .error (.unresolvedDomain key) := by
  rcases resolveDomain_run key registry with ⟨domain, after, hrun, hfind, -⟩ | ⟨hrun, hfind⟩
  · have hdomain : registry.domain? key = some domain := (Layer.findDomain?_sound hfind).1
    simp [answer, hrun, hdomain]
  · have hdomain : registry.domain? key = none := Layer.findDomain?_eq_none_iff.1 hfind
    simp [answer, hrun, hdomain]

theorem resolve_transparent (identity : String) : Transparent Agrees (resolve identity) := by
  constructor
  · intro registry
    rcases resolve_run identity registry with ⟨type, after, hrun, hfind, hbound⟩ | ⟨hrun, -⟩
    · have hagrees : registry.Agrees after := ⟨(Layer.findType?_sound hfind).2, hbound⟩
      simpa [leaves, hrun] using hagrees
    · simpa [leaves, hrun] using agrees_equivalence.refl registry
  · intro registry other h
    rw [answer_resolve, answer_resolve, h.type?]

theorem resolveDomain_transparent (key : String) : Transparent Agrees (resolveDomain key) := by
  constructor
  · intro registry
    rcases resolveDomain_run key registry with ⟨domain, after, hrun, hfind, hbound⟩ | ⟨hrun, -⟩
    · have hagrees : registry.Agrees after := ⟨(Layer.findDomain?_sound hfind).2, hbound⟩
      simpa [leaves, hrun] using hagrees
    · simpa [leaves, hrun] using agrees_equivalence.refl registry
  · intro registry other h
    rw [answer_resolveDomain, answer_resolveDomain, h.domain?]

end Registry

end TagGrammar
