import TagGrammar.Proofs.Collection

/-!
# What compiling answers

Compiling looks names up and writes records, and neither changes what is known or bound. So the
grammar it answers is put together from answers of the registry it starts with (`answer_grammar`).
-/

namespace TagGrammar

open Registry

/-- Two workbenches whose registries agree, whatever has been recorded. -/
def Workbench.Agrees (bench other : Workbench) : Prop :=
  bench.registry.Agrees other.registry

theorem Workbench.equivalence : Equivalence Workbench.Agrees where
  refl bench := agrees_equivalence.refl bench.registry
  symm h := agrees_equivalence.symm h
  trans h h' := agrees_equivalence.trans h h'

/-- The attributes that the fragment of a type adds, as a registry has them. -/
def Registry.attributesOf (registry : Registry) (type : ComponentType) : Except RegistryError (List Attribute) :=
  answer (Compile.fragmentAttributes type) ⟨registry, []⟩

namespace Compile

/-! ## Steps -/

theorem answer_onRegistry {α : Type} (operation : RegistryM α) (bench : Workbench) :
    answer (onRegistry operation) bench = answer operation bench.registry := by
  unfold answer onRegistry
  simp only [EStateM.run]
  cases operation bench.registry <;> rfl

theorem leaves_onRegistry {α : Type} (operation : RegistryM α) (bench : Workbench) :
    (leaves (onRegistry operation) bench).registry = leaves operation bench.registry := by
  unfold leaves onRegistry
  simp only [EStateM.run]
  cases operation bench.registry <;> rfl

theorem preserves_onRegistry {α : Type} {holds : Registry → Prop} {operation : RegistryM α}
    (h : Preserves holds operation) :
    Preserves (fun bench : Workbench => holds bench.registry) (onRegistry operation) := by
  intro bench hbench
  rw [leaves_onRegistry]
  exact h bench.registry hbench

theorem preserves_record {holds : Registry → Prop} (source : String) (level : Level) (message : String) :
    Preserves (fun bench : Workbench => holds bench.registry) (record source level message) :=
  fun _ h => h

theorem preserves_applyBindings_of_mem {holds : Registry → Prop} {bindings : Table String}
    (h : ∀ tag ∈ bindings.keys, ∀ identity, Preserves holds (bindTag tag identity)) :
    Preserves (fun bench : Workbench => holds bench.registry) (applyBindings bindings) := by
  apply Preserves.forM_of_mem
  intro binding hb
  have hbind := h binding.1 (List.mem_map.2 ⟨binding, hb, rfl⟩) binding.2
  exact (preserves_onRegistry hbind).bind fun _ => preserves_record _ _ _

theorem preserves_applyBindings {holds : Registry → Prop}
    (h : ∀ tag identity, Preserves holds (bindTag tag identity)) (bindings : Table String) :
    Preserves (fun bench : Workbench => holds bench.registry) (applyBindings bindings) :=
  preserves_applyBindings_of_mem fun tag _ => h tag

/-- Whatever is recorded, applying bindings is binding one tag after the other. -/
theorem applyBindings_simulates (bindings : Table String) :
    Simulates (fun (bench : Workbench) registry => bench.registry = registry) (applyBindings bindings)
      (bindings.entries.forM fun binding => bindTag binding.1 binding.2) := by
  apply Simulates.forM
  rintro binding bench _ rfl
  rw [answer_bind, leaves_bind, answer_onRegistry, ← leaves_onRegistry]
  cases answer (bindTag binding.1 binding.2) bench.registry <;> exact ⟨rfl, rfl⟩

theorem onRegistry_transparent {α : Type} {operation : RegistryM α}
    (h : Transparent Registry.Agrees operation) : Transparent Workbench.Agrees (onRegistry operation) := by
  constructor
  · intro bench
    unfold Workbench.Agrees
    rw [leaves_onRegistry]
    exact h.keeps bench.registry
  · intro bench other hagrees
    rw [answer_onRegistry, answer_onRegistry]
    exact h.answers _ _ hagrees

theorem record_transparent (source : String) (level : Level) (message : String) :
    Transparent Workbench.Agrees (record source level message) :=
  ⟨fun bench => Workbench.equivalence.refl bench, fun _ _ _ => rfl⟩

theorem deriveAttribute_transparent (property : Property) :
    Transparent Registry.Agrees (deriveAttribute property) := by
  have hpure : ∀ result : Option Attribute, Transparent Registry.Agrees (pure result : RegistryM _) :=
    fun result => .pure agrees_equivalence result
  unfold deriveAttribute
  split
  · exact (resolveDomain_transparent _).bind agrees_equivalence fun _ => hpure _
  · split
    · exact hpure _
    · split
      · exact hpure _
      · exact (resolveDomain_transparent _).bind agrees_equivalence fun _ => hpure _
    · exact hpure _

theorem propertyAttributes_transparent (type : ComponentType) (properties : List Property) :
    Transparent Workbench.Agrees (propertyAttributes type properties) := by
  induction properties with
  | nil => exact .pure Workbench.equivalence []
  | cons property rest ih =>
    unfold propertyAttributes
    refine (onRegistry_transparent (deriveAttribute_transparent property)).bind Workbench.equivalence
      fun found => ?_
    cases found with
    | some attr =>
      exact ih.bind Workbench.equivalence fun attributes => .pure Workbench.equivalence (attr :: attributes)
    | none => exact (record_transparent _ _ _).bind Workbench.equivalence fun _ => ih

theorem answer_propertyAttributes_cons (type : ComponentType) (property : Property)
    (rest : List Property) (bench : Workbench) : answer (propertyAttributes type (property :: rest)) bench =
      (do return (← answer (deriveAttribute property) bench.registry).toList ++
        (← answer (propertyAttributes type rest) bench)) := by
  have hrest := propertyAttributes_transparent type rest
  rw [propertyAttributes, (onRegistry_transparent (deriveAttribute_transparent property)).answer_bind ?_,
    answer_onRegistry]
  · congr
    funext found
    cases found with
    | some attr => exact answer_bind_pure _ _ _
    | none =>
      rw [(record_transparent _ _ _).answer_bind fun _ => hrest]
      show answer (propertyAttributes type rest) bench = _
      cases answer (propertyAttributes type rest) bench <;> rfl
  · intro found
    cases found with
    | some attr =>
      exact hrest.bind Workbench.equivalence fun attributes =>
        .pure Workbench.equivalence (attr :: attributes)
    | none => exact (record_transparent _ _ _).bind Workbench.equivalence fun _ => hrest

theorem fragmentAttributes_transparent (type : ComponentType) :
    Transparent Workbench.Agrees (fragmentAttributes type) :=
  (propertyAttributes_transparent type type.properties).bind Workbench.equivalence
    fun _ => .pure Workbench.equivalence _

theorem fragment_transparent (type : ComponentType) : Transparent Workbench.Agrees (fragment type) :=
  (fragmentAttributes_transparent type).bind Workbench.equivalence fun _ => .pure Workbench.equivalence _

theorem element_transparent (binding : String × String) : Transparent Registry.Agrees
    (do return (⟨binding.1, binding.2, ← contentModel binding.2⟩ : Element)) :=
  (contentModel_transparent binding.2).bind agrees_equivalence
    fun _ => .pure agrees_equivalence _

theorem elements_transparent : Transparent Registry.Agrees elements := by
  refine Transparent.get_bind (fun registry => ?_) ?_
  · exact Transparent.mapM agrees_equivalence element_transparent _
  · intro registry other h third
    rw [h.bindings]

/-! ## Answers -/

theorem answer_fragment (type : ComponentType) (bench : Workbench) :
    answer (fragment type) bench = do
      return ⟨type.identity, some (if type.base = rootType then baseFragment else type.base),
        ← bench.registry.attributesOf type⟩ := by
  unfold fragment attributesOf
  rw [answer_bind_pure, (fragmentAttributes_transparent type).answers bench ⟨bench.registry, []⟩
    (agrees_equivalence.refl _)]

theorem answer_elements (registry : Registry) : answer elements registry =
    registry.bindings.mapM fun binding => do
      return ⟨binding.1, binding.2, ← answer (contentModel binding.2) registry⟩ := by
  unfold elements
  rw [answer_get_bind, Transparent.answer_mapM agrees_equivalence element_transparent]
  simp only [answer_bind_pure]

/-- What follows a record might as well stand alone. -/
theorem answer_record_bind {α : Type} {next : CompileM α} (h : Transparent Workbench.Agrees next)
    (source : String) (level : Level) (message : String) (bench : Workbench) :
    answer (record source level message >>= fun _ => next) bench = answer next bench :=
  (record_transparent source level message).answer_bind (fun _ => h) bench

theorem finish_transparent (fragments : List Fragment) : Transparent Workbench.Agrees (do
    let elements ← onRegistry elements
    record "compiler" .info
      s!"Compiled {fragments.length} type fragments and {elements.length} elements"
    return (⟨fragments, elements⟩ : Grammar)) :=
  (onRegistry_transparent elements_transparent).bind Workbench.equivalence fun _ =>
    (record_transparent _ _ _).bind Workbench.equivalence fun _ => .pure Workbench.equivalence _

theorem compileTypes_transparent (types : List ComponentType) : Transparent Workbench.Agrees (do
    let fragments ← types.mapM fragment
    let elements ← onRegistry elements
    record "compiler" .info
      s!"Compiled {fragments.length} type fragments and {elements.length} elements"
    return (⟨fragments, elements⟩ : Grammar)) :=
  (Transparent.mapM Workbench.equivalence fragment_transparent types).bind Workbench.equivalence
    finish_transparent

theorem compileCollected_transparent (types : List ComponentType) : Transparent Workbench.Agrees (do
    let tagCount := (← get).registry.tags.length
    record "collector" .debug s!"Collected {types.length} types for {tagCount} bound tags"
    let fragments ← types.mapM fragment
    let elements ← onRegistry elements
    record "compiler" .info
      s!"Compiled {fragments.length} type fragments and {elements.length} elements"
    return (⟨fragments, elements⟩ : Grammar)) := by
  -- the number of tags goes into a record only
  refine Transparent.get_bind (fun _ => ?_) ?_
  · exact (record_transparent _ _ _).bind Workbench.equivalence fun _ => compileTypes_transparent types
  · intro first second _ third
    rw [answer_record_bind (compileTypes_transparent types), answer_record_bind (compileTypes_transparent types)]

theorem grammar_transparent : Transparent Workbench.Agrees grammar :=
  (onRegistry_transparent collectTypes_transparent).bind Workbench.equivalence compileCollected_transparent

theorem answer_grammar (bench : Workbench) : answer grammar bench = do
    let types ← answer collectTypes bench.registry
    let fragments ← types.mapM fun type => answer (fragment type) bench
    let elements ← answer elements bench.registry
    return ⟨fragments, elements⟩ := by
  unfold grammar
  rw [(onRegistry_transparent collectTypes_transparent).answer_bind compileCollected_transparent, answer_onRegistry]
  congr
  funext types
  rw [answer_get_bind, answer_record_bind (compileTypes_transparent types),
    (Transparent.mapM Workbench.equivalence fragment_transparent types).answer_bind finish_transparent,
    Transparent.answer_mapM Workbench.equivalence fragment_transparent]
  congr
  funext fragments
  rw [(onRegistry_transparent elements_transparent).answer_bind fun _ =>
    (record_transparent _ _ _).bind Workbench.equivalence fun _ => .pure Workbench.equivalence _,
    answer_onRegistry]
  rfl

end Compile

/-! ## Attributes -/

/-- The attributes that a property may have in markup. -/
inductive Registry.Derives (registry : Registry) (property : Property) : Attribute → Prop where
  | text : Derives registry property ⟨property.name, .text, []⟩
  | boolean : Derives registry property ⟨property.name, .boolean, booleanTokens⟩
  | keys {key : String} {domain : Domain} (h : registry.domain? key = some domain) :
      Derives registry property ⟨property.name, .tokens, domain.keys⟩
  | tokens {key : String} {domain : Domain} (h : registry.domain? key = some domain) :
      Derives registry property ⟨property.name, .tokens, domain.tokens⟩

theorem Registry.Derives.name_eq {registry : Registry} {property : Property} {attr : Attribute}
    (h : registry.Derives property attr) : attr.name = property.name := by
  cases h <;> rfl

namespace Compile

theorem answer_domain_bind {key : String} {registry : Registry} {f : Domain → Option Attribute}
    {found : Option Attribute}
    (h : answer (resolveDomain key >>= fun domain => pure (f domain)) registry = .ok found) :
    ∃ domain, registry.domain? key = some domain ∧ found = f domain := by
  rw [answer_bind_pure, answer_resolveDomain, bind_eq_ok_iff] at h
  obtain ⟨domain, hdomain, heq⟩ := h
  refine ⟨domain, ?_, (Except.ok.inj heq).symm⟩
  cases hknown : registry.domain? key with
  | none => simp [hknown] at hdomain
  | some known =>
    rw [hknown] at hdomain
    rw [Except.ok.inj hdomain]

theorem deriveAttribute_sound {registry : Registry} {property : Property} {attr : Attribute}
    (h : answer (deriveAttribute property) registry = .ok (some attr)) : registry.Derives property attr := by
  unfold deriveAttribute at h
  split at h
  · obtain ⟨domain, hknown, heq⟩ := answer_domain_bind h
    exact Option.some.inj heq ▸ .keys hknown
  · split at h
    · exact Option.some.inj (Except.ok.inj h) ▸ .boolean
    · split at h
      · cases Except.ok.inj h
      · obtain ⟨domain, hknown, heq⟩ := answer_domain_bind h
        exact Option.some.inj heq ▸ .tokens hknown
    · by_cases htext : property.type.isText = true
      · rw [if_pos htext] at h
        exact Option.some.inj (Except.ok.inj h) ▸ .text
      · rw [if_neg htext] at h
        cases Except.ok.inj h

theorem propertyAttributes_sound {bench : Workbench} {type : ComponentType} {properties : List Property}
    {attributes : List Attribute} (h : answer (propertyAttributes type properties) bench = .ok attributes) :
    (attributes.map Attribute.name).Sublist (properties.map Property.name) ∧
      ∀ attr ∈ attributes, ∃ property ∈ properties, bench.registry.Derives property attr := by
  induction properties generalizing attributes with
  | nil =>
    obtain rfl := Except.ok.inj h
    exact ⟨.slnil, by simp⟩
  | cons property rest ih =>
    simp only [answer_propertyAttributes_cons, bind_eq_ok_iff] at h
    obtain ⟨found, hfound, others, hothers, heq⟩ := h
    obtain rfl := Except.ok.inj heq
    obtain ⟨hnames, hall⟩ := ih hothers
    have hrest : ∀ attr ∈ others, ∃ property' ∈ property :: rest, bench.registry.Derives property' attr := by
      intro attr hattr
      obtain ⟨other, hother, hderives⟩ := hall attr hattr
      exact ⟨other, List.mem_cons_of_mem _ hother, hderives⟩
    cases found with
    | none => exact ⟨hnames.cons _, hrest⟩
    | some attr =>
      have hderives := deriveAttribute_sound hfound
      simp only [Option.toList_some, List.singleton_append, List.map_cons, hderives.name_eq]
      exact ⟨hnames.cons_cons _, List.forall_mem_cons.2 ⟨⟨property, List.mem_cons_self, hderives⟩, hrest⟩⟩

theorem attributesOf_sound {registry : Registry} {type : ComponentType} {attributes : List Attribute}
    (h : registry.attributesOf type = .ok attributes) : ∃ own : List Attribute,
      (own.map Attribute.name).Sublist (type.properties.map Property.name) ∧
      (∀ attr ∈ own, ∃ property ∈ type.properties, registry.Derives property attr) ∧
      attributes = if type.identity = textInputType then own ++ textInputAttributes else own := by
  unfold attributesOf fragmentAttributes at h
  rw [answer_bind_pure, bind_eq_ok_iff] at h
  obtain ⟨own, hown, heq⟩ := h
  obtain ⟨hnames, hall⟩ := propertyAttributes_sound hown
  exact ⟨own, hnames, hall, (Except.ok.inj heq).symm⟩

theorem mem_attributesOf {registry : Registry} {type : ComponentType} {attributes : List Attribute}
    (h : registry.attributesOf type = .ok attributes) {attr : Attribute} (hattr : attr ∈ attributes) :
    attr ∈ textInputAttributes ∨ ∃ property ∈ type.properties, registry.Derives property attr := by
  obtain ⟨own, -, hall, rfl⟩ := attributesOf_sound h
  by_cases htype : type.identity = textInputType
  · rw [if_pos htype] at hattr
    exact (List.mem_append.1 hattr).symm.imp_right (hall attr)
  · rw [if_neg htype] at hattr
    exact .inr (hall attr hattr)

theorem exists_deriveAttribute {registry : Registry} {property : Property}
    (hselector : ∀ entry ∈ Builtin.selectorDomains, (registry.domain? entry.2).isSome)
    (hdomain : ∀ key ∈ property.domain, (registry.domain? key).isSome) :
    ∃ found, answer (deriveAttribute property) registry = .ok found := by
  have hresolve : ∀ {key : String} (f : Domain → Option Attribute), (registry.domain? key).isSome →
      ∃ found, answer (resolveDomain key >>= fun domain => pure (f domain)) registry = .ok found := by
    intro key f hknown
    obtain ⟨domain, hsome⟩ := Option.isSome_iff_exists.1 hknown
    rw [answer_bind_pure, answer_resolveDomain, hsome]
    exact ⟨_, rfl⟩
  unfold deriveAttribute
  split
  · rename_i key hkey
    apply hresolve
    split at hkey
    · obtain ⟨before, after, heq, -⟩ := List.lookup_eq_some_iff.1 hkey
      exact hselector (property.name, key) (by simp [heq])
    · cases hkey
  · split
    · exact ⟨_, rfl⟩
    · split
      · exact ⟨_, rfl⟩
      · rename_i key hkey
        exact hresolve _ (hdomain key hkey)
    · exact ⟨_, rfl⟩

theorem exists_attributesOf {registry : Registry} {type : ComponentType}
    (hselector : ∀ entry ∈ Builtin.selectorDomains, (registry.domain? entry.2).isSome)
    (hdomain : ∀ property ∈ type.properties, ∀ key ∈ property.domain, (registry.domain? key).isSome) :
    ∃ attributes, registry.attributesOf type = .ok attributes := by
  have hown : ∀ properties : List Property,
      (∀ property ∈ properties, ∀ key ∈ property.domain, (registry.domain? key).isSome) →
      ∃ attributes, answer (propertyAttributes type properties) ⟨registry, []⟩ = .ok attributes := by
    intro properties hknown
    induction properties with
    | nil => exact ⟨[], rfl⟩
    | cons property rest ih =>
      obtain ⟨hfirst, hrest⟩ := List.forall_mem_cons.1 hknown
      obtain ⟨found, hfound⟩ := exists_deriveAttribute hselector hfirst
      obtain ⟨others, hothers⟩ := ih hrest
      rw [answer_propertyAttributes_cons, hfound, hothers]
      exact ⟨_, rfl⟩
  obtain ⟨own, hanswer⟩ := hown type.properties hdomain
  unfold attributesOf fragmentAttributes
  rw [answer_bind_pure, hanswer]
  exact ⟨_, rfl⟩

theorem attributesOf_boolean {registry : Registry} {type : ComponentType} {attributes : List Attribute}
    (h : registry.attributesOf type = .ok attributes) :
    ∀ attr ∈ attributes, attr.kind = .boolean → attr.tokens = booleanTokens := by
  intro attr hattr hkind
  have hextra : ∀ attr ∈ textInputAttributes, attr.kind = .boolean → attr.tokens = booleanTokens := by
    decide
  rcases mem_attributesOf h hattr with hattr | ⟨property, -, hderives⟩
  · exact hextra attr hattr hkind
  · cases hderives with
    | boolean => rfl
    | _ => cases hkind

end Compile

/-! ## What a compiled grammar holds -/

/-- The fragment that an identity refers to. The root type stands for the base fragment. -/
def fragmentName (identity : String) : String :=
  if identity = rootType then baseFragment else identity

/-- The fragment of a type with the given attributes. -/
def fragmentOf (type : ComponentType) (attributes : List Attribute) : Fragment :=
  ⟨type.identity, some (fragmentName type.base), attributes⟩

/-- The fragment of a type, as a registry has it. -/
def Registry.fragmentFor (registry : Registry) (type : ComponentType) : Fragment :=
  fragmentOf type ((registry.attributesOf type).toOption.getD [])

/-- The content model of the elements of a type, as a registry has it. -/
def Registry.contentFor (registry : Registry) (identity : String) : ContentModel :=
  (answer (contentModel identity) registry).toOption.getD .empty

/-- A grammar that gives fragments to the given types and elements to the bound tags. -/
structure Grammar.Compiles (grammar : Grammar) (registry : Registry) (types : List ComponentType) : Prop where
  collects : Compile.Collects registry types
  fragments : List.Forall₂ (fun type fragment => ∃ attributes, registry.attributesOf type = .ok attributes ∧
    fragment = fragmentOf type attributes) types grammar.types
  elements : List.Forall₂ (fun binding element => ∃ content,
    answer (contentModel binding.2) registry = .ok content ∧
      element = ⟨binding.1, binding.2, content⟩) registry.bindings grammar.elements

/-- All types in the lineages of bound types have a property. -/
def Registry.BindsOnly (registry : Registry) (p : ComponentType → Prop) : Prop :=
  ∀ binding ∈ registry.bindings, ∀ types, answer (lineage binding.2) registry = .ok types →
    ∀ type ∈ types, p type

theorem Compile.exists_collectTypes {bench : Workbench} (hR : bench.registry.WellFormed) {grammar : Grammar}
    (h : answer Compile.grammar bench = .ok grammar) :
    ∃ types, answer collectTypes bench.registry = .ok types ∧ grammar.Compiles bench.registry types := by
  simp only [answer_grammar, bind_eq_ok_iff] at h
  obtain ⟨types, htypes, fragments, hfragments, elements, helements, heq⟩ := h
  obtain rfl := Except.ok.inj heq
  refine ⟨types, htypes, collectTypes_sound hR htypes, ?_, ?_⟩
  · apply (mapM_eq_ok_iff.1 hfragments).imp
    intro type fragment hfragment
    rw [answer_fragment, bind_eq_ok_iff] at hfragment
    obtain ⟨attributes, hattributes, heq⟩ := hfragment
    exact ⟨attributes, hattributes, (Except.ok.inj heq).symm⟩
  · rw [answer_elements] at helements
    apply (mapM_eq_ok_iff.1 helements).imp
    intro binding element helement
    obtain ⟨content, hcontent, heq⟩ := bind_eq_ok_iff.1 helement
    exact ⟨content, hcontent, (Except.ok.inj heq).symm⟩

/-- **Compiling succeeds only with a grammar of the bound tags and the types of their lineages.** -/
theorem Compile.grammar_sound {bench : Workbench} (hR : bench.registry.WellFormed) {grammar : Grammar}
    (h : answer Compile.grammar bench = .ok grammar) : ∃ types, grammar.Compiles bench.registry types := by
  obtain ⟨types, -, hcompiles⟩ := exists_collectTypes hR h
  exact ⟨types, hcompiles⟩

theorem Compile.grammar_complete {bench : Workbench} (hR : bench.registry.WellFormed)
    (h : ∀ binding ∈ bench.registry.bindings, ∃ types, Chain bench.registry binding.2 types ∧
      ∀ type ∈ types, ∃ attributes, bench.registry.attributesOf type = .ok attributes) :
    ∃ grammar, answer Compile.grammar bench = .ok grammar := by
  have hchains : ∀ binding ∈ bench.registry.bindings, ∃ types, Chain bench.registry binding.2 types := by
    intro binding hb
    obtain ⟨types, hchain, -⟩ := h binding hb
    exact ⟨types, hchain⟩
  obtain ⟨types, htypes⟩ := collectTypes_complete hR hchains
  have hfragment : ∀ type ∈ types, ∃ result, answer (fragment type) bench = .ok result := by
    intro type hmem
    obtain ⟨binding, hb, lineage, hline, htype⟩ := (collectTypes_sound hR htypes).origin type hmem
    obtain ⟨others, hchain, hattributes⟩ := h binding hb
    obtain rfl := (chain_of_lineage hline).unique hchain
    obtain ⟨attributes, hanswer⟩ := hattributes type htype
    refine ⟨fragmentOf type attributes, ?_⟩
    rw [answer_fragment, hanswer]
    rfl
  have helement : ∀ binding ∈ bench.registry.bindings, ∃ result : Element,
      (do return ⟨binding.1, binding.2, ← answer (contentModel binding.2) bench.registry⟩ :
        Except RegistryError Element) = .ok result := by
    intro binding hb
    obtain ⟨lineage, hchain⟩ := hchains binding hb
    unfold contentModel
    rw [answer_bind_pure, lineage_of_chain hR hchain]
    exact ⟨_, rfl⟩
  obtain ⟨fragments, hfragments⟩ := exists_mapM_ok hfragment
  obtain ⟨elements, helements⟩ := exists_mapM_ok helement
  refine ⟨⟨fragments, elements⟩, ?_⟩
  rw [answer_grammar, htypes, answer_elements, helements]
  simp only [bind_eq_ok_iff]
  exact ⟨types, rfl, fragments, hfragments, elements, rfl, rfl⟩

namespace Grammar.Compiles

variable {registry : Registry} {grammar : Grammar} {types : List ComponentType}

theorem bindings_eq (h : grammar.Compiles registry types) :
    grammar.elements.map (fun element => (element.tag, element.identity)) = registry.bindings := by
  have hall : List.Forall₂ Eq registry.bindings
      (grammar.elements.map fun element => (element.tag, element.identity)) := by
    rw [List.forall₂_map_right_iff]
    apply h.elements.imp
    rintro binding element ⟨content, -, rfl⟩
    rfl
  rw [List.forall₂_eq_eq_eq] at hall
  exact hall.symm

theorem types_eq (h : grammar.Compiles registry types) : grammar.types = types.map registry.fragmentFor := by
  have hall : List.Forall₂ Eq (types.map registry.fragmentFor) grammar.types := by
    rw [List.forall₂_map_left_iff]
    apply h.fragments.imp
    rintro type fragment ⟨attributes, hattributes, rfl⟩
    rw [fragmentFor, hattributes]
    rfl
  rw [List.forall₂_eq_eq_eq] at hall
  exact hall.symm

theorem contentModel_eq (h : grammar.Compiles registry types) {binding : String × String}
    (hb : binding ∈ registry.bindings) :
    answer (contentModel binding.2) registry = .ok (registry.contentFor binding.2) := by
  obtain ⟨_, -, content, hcontent, -⟩ := exists_of_forall₂ h.elements hb
  rw [contentFor, hcontent]
  rfl

theorem elements_eq (h : grammar.Compiles registry types) : grammar.elements =
    registry.bindings.map fun binding => ⟨binding.1, binding.2, registry.contentFor binding.2⟩ := by
  have hall : List.Forall₂ Eq
      (registry.bindings.map fun binding => (⟨binding.1, binding.2, registry.contentFor binding.2⟩ : Element))
      grammar.elements := by
    rw [List.forall₂_map_left_iff]
    apply h.elements.imp
    rintro binding element ⟨content, hcontent, rfl⟩
    rw [contentFor, hcontent]
    rfl
  rw [List.forall₂_eq_eq_eq] at hall
  exact hall.symm

theorem tags_eq (h : grammar.Compiles registry types) :
    grammar.elements.map Element.tag = registry.tags := by
  have htags : registry.tags = registry.bindings.map Prod.fst := rfl
  rw [htags, ← h.bindings_eq, List.map_map]
  rfl

theorem bound (h : grammar.Compiles registry types) (hR : registry.WellFormed) {tag identity : String}
    (hmem : (tag, identity) ∈ registry.bindings) : identity ∈ types.map ComponentType.identity := by
  obtain ⟨lineage, hline, hsub⟩ := h.collects.complete _ hmem
  cases chain_of_lineage hline with
  | root => exact absurd rfl (hR.binding hmem).2
  | @step _ type above _ htype _ =>
    exact List.mem_map.2 ⟨type, hsub type List.mem_cons_self, (hR.type? htype).1⟩

theorem mem_bindings (h : grammar.Compiles registry types) {element : Element} (he : element ∈ grammar.elements) :
    (element.tag, element.identity) ∈ registry.bindings :=
  h.bindings_eq ▸ List.mem_map.2 ⟨element, he, rfl⟩

theorem fragmentOf_mem (h : grammar.Compiles registry types) {type : ComponentType} (hmem : type ∈ types) :
    ∃ attributes, registry.attributesOf type = .ok attributes ∧ fragmentOf type attributes ∈ grammar.types := by
  obtain ⟨fragment, hf, attributes, hattributes, rfl⟩ := exists_of_forall₂ h.fragments hmem
  exact ⟨attributes, hattributes, hf⟩

/-- What holds of the base fragment and of all collected types holds of the fragments they continue. -/
theorem fragmentName_base (h : grammar.Compiles registry types) {p : String → Prop} (hbase : p baseFragment)
    (hall : ∀ type ∈ types, p type.identity) {type : ComponentType} (hmem : type ∈ types) :
    p (fragmentName type.base) := by
  unfold fragmentName
  by_cases hroot : type.base = rootType
  · rw [if_pos hroot]
    exact hbase
  · rw [if_neg hroot]
    obtain ⟨base, hother, heq⟩ := List.mem_map.1 ((h.collects.closed type hmem).resolve_left hroot)
    exact heq ▸ hall base hother

theorem lineage_of_mem (h : grammar.Compiles registry types) {type : ComponentType} (hmem : type ∈ types) :
    ∃ binding ∈ registry.bindings, ∃ lineage, answer (Registry.lineage binding.2) registry = .ok lineage ∧
      type ∈ lineage ∧ ∀ other ∈ lineage, other ∈ types := by
  obtain ⟨binding, hb, lineage, hline, htype⟩ := h.collects.origin type hmem
  obtain ⟨others, hothers, hsub⟩ := h.collects.complete binding hb
  obtain rfl := Except.ok.inj (hline.symm.trans hothers)
  exact ⟨binding, hb, lineage, hline, htype, hsub⟩

theorem bindsOnly_iff (h : grammar.Compiles registry types) {p : ComponentType → Prop} :
    registry.BindsOnly p ↔ ∀ type ∈ types, p type := by
  constructor
  · intro hall type hmem
    obtain ⟨binding, hb, lineage, hline, htype⟩ := h.collects.origin type hmem
    exact hall binding hb lineage hline type htype
  · intro hall binding hb lineage hline type htype
    obtain ⟨others, hothers, hsub⟩ := h.collects.complete binding hb
    obtain rfl := Except.ok.inj (hline.symm.trans hothers)
    exact hall type (hsub type htype)

end Grammar.Compiles

end TagGrammar
