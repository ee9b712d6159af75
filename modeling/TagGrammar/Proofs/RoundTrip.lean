import TagGrammar.Proofs.Compilation
import TagGrammar.Proofs.Rendering

/-!
# Compiling, writing and reading back

The text of a compiled grammar has a schema, and the schema says of every tag what the registry
says of the type it is bound to: the content model, and for each attribute the definition of the
nearest type of the lineage that has one.
-/

namespace TagGrammar

open Registry

/-! ## Chains of fragments -/

/-- The fragments of a lineage chain up to the base fragment, and the nearest definition counts. -/
theorem flattens_of_chain {fs : List (String × FragmentBody)} {registry : Registry} {identity : String}
    {types : List ComponentType} {valueOf : ComponentType → FragmentBody}
    (huniversal : (baseFragment, Grammar.universal.value) ∈ fs) (hR : registry.WellFormed)
    (hchain : Chain registry identity types)
    (hall : ∀ type ∈ types, (type.identity, valueOf type) ∈ fs ∧
      (valueOf type).base = some (fragmentName type.base)) :
    ∃ definitions, Flattens fs (fragmentName identity) definitions ∧ ∀ name, definitions.get? name =
      (types.findSome? fun type => (valueOf type).definitions.get? name).or
        (Grammar.universal.value.definitions.get? name) := by
  induction hchain with
  | root => exact ⟨_, .first huniversal rfl, fun name => rfl⟩
  | @step identity type above hne htype _ ih =>
    obtain ⟨inherited, hflat, hget⟩ := ih fun other hother => hall other (List.mem_cons_of_mem _ hother)
    obtain ⟨hmem, hbase⟩ := hall type List.mem_cons_self
    rw [(hR.type? htype).1] at hmem
    have hname : fragmentName identity = identity := if_neg hne
    rw [hname]
    refine ⟨_, .next hmem hbase hflat, fun name => ?_⟩
    rw [Table.get?_update, hget, List.findSome?_cons]
    cases (valueOf type).definitions.get? name <;> rfl

section
variable {registry : Registry} {grammar : Grammar} {types : List ComponentType}
variable {valueOf : ComponentType → FragmentBody}

def bodiesOf (valueOf : ComponentType → FragmentBody) (types : List ComponentType) :
    List (String × FragmentBody) :=
  types.map fun type => (type.identity, valueOf type)

/-- Collected types whose fragments are lines that declare the given bodies, none of them the base
fragment. -/
structure Declarable (registry : Registry) (valueOf : ComponentType → FragmentBody)
    (types : List ComponentType) : Prop where
  spelled : ∀ type ∈ types, ∀ attributes, registry.attributesOf type = .ok attributes →
    (fragmentOf type attributes).Spelled (valueOf type)
  ne_base : ∀ type ∈ types, type.identity ≠ baseFragment

variable (hR : registry.WellFormed) (h : grammar.Compiles registry types)
variable (hdecl : Declarable registry valueOf types)
include h hdecl

theorem Grammar.Compiles.spelled : List.Forall₂
    (fun fragment entry => fragment.name = entry.1 ∧ fragment.Spelled entry.2)
    grammar.types (bodiesOf valueOf types) := by
  have hall := (List.forall₂_and_left types grammar.types).2 ⟨hdecl.spelled, h.fragments⟩
  rw [bodiesOf, List.forall₂_map_right_iff]
  apply List.Forall₂.flip
  apply hall.imp
  rintro type fragment ⟨hspelled, attributes, hattributes, rfl⟩
  exact ⟨rfl, hspelled attributes hattributes⟩

theorem Declarable.isFragmentName {type : ComponentType} (hmem : type ∈ types) :
    IsFragmentName type.identity := by
  obtain ⟨attributes, hattributes, -⟩ := h.fragmentOf_mem hmem
  exact (hdecl.spelled type hmem attributes hattributes).name

theorem Declarable.base {type : ComponentType} (hmem : type ∈ types) :
    (valueOf type).base = some (fragmentName type.base) := by
  obtain ⟨attributes, hattributes, -⟩ := h.fragmentOf_mem hmem
  apply (hdecl.spelled type hmem attributes hattributes).base_eq rfl
  exact h.fragmentName_base Grammar.universal_legible.name (fun _ hother => hdecl.isFragmentName h hother) hmem

include hR

/-- Along the lineage of a collected type, all fragments are declared. -/
theorem Declarable.flattens {identity : String} {lineage : List ComponentType}
    (hchain : Chain registry identity lineage) (hsub : ∀ type ∈ lineage, type ∈ types) :
    ∃ definitions, Flattens ((baseFragment, Grammar.universal.value) :: bodiesOf valueOf types)
      (fragmentName identity) definitions ∧ ∀ name, definitions.get? name =
        (lineage.findSome? fun type => (valueOf type).definitions.get? name).or
          (Grammar.universal.value.definitions.get? name) := by
  apply flattens_of_chain List.mem_cons_self hR hchain
  intro type htype
  have hmem := hsub type htype
  exact ⟨List.mem_cons_of_mem _ (List.mem_map.2 ⟨type, hmem, rfl⟩), hdecl.base h hmem⟩

omit hR in
theorem Declarable.nodup :
    (((baseFragment, Grammar.universal.value) :: bodiesOf valueOf types).map Prod.fst).Nodup := by
  have hnames : (bodiesOf valueOf types).map Prod.fst = types.map ComponentType.identity := by
    simp [bodiesOf]
  rw [List.map_cons, hnames, List.nodup_cons]
  refine ⟨fun hmem => ?_, h.collects.nodup⟩
  obtain ⟨type, htype, heq⟩ := List.mem_map.1 hmem
  exact hdecl.ne_base type htype heq

theorem Declarable.wellChained :
    WellChained ((baseFragment, Grammar.universal.value) :: bodiesOf valueOf types) := by
  apply wellChained_of_flattens (hdecl.nodup h)
  intro name hname
  rw [List.map_cons] at hname
  rcases List.mem_cons.1 hname with rfl | hname
  · obtain ⟨definitions, hflat, -⟩ := hdecl.flattens hR h .root (by simp)
    exact ⟨definitions, hflat⟩
  · obtain ⟨entry, hentry, rfl⟩ := List.mem_map.1 hname
    obtain ⟨type, htype, rfl⟩ := List.mem_map.1 hentry
    obtain ⟨_, -, lineage, hline, hmem, hsub⟩ := h.lineage_of_mem htype
    obtain ⟨name, above, hknown, hchain, hrest⟩ := (chain_of_lineage hline).of_mem hmem
    obtain ⟨hid, hroot⟩ := hR.type? hknown
    obtain ⟨definitions, hflat, -⟩ :=
      hdecl.flattens hR h hchain fun other hother => hsub other (hrest.subset hother)
    rw [fragmentName, if_neg hroot, ← hid] at hflat
    exact ⟨definitions, hflat⟩

theorem Declarable.coherent : Coherent (grammar.declarations (bodiesOf valueOf types)) := by
  have htags : (grammar.elements.map fun element => (element.tag, element.content)).map Prod.fst =
      registry.tags := by
    rw [List.map_map]
    exact h.tags_eq
  have hlists : grammar.elements.map (fun element => (element.tag, element.identity)) = registry.bindings :=
    h.bindings_eq
  refine ⟨⟨?_, ?_, ?_⟩, ?_, ?_, ?_⟩
  · rw [Grammar.fragments_declarations]
    exact hdecl.nodup h
  · rw [Grammar.elements_declarations, htags]
    exact registry.front.bindings.nodup
  · rw [Grammar.attributeLists_declarations, hlists]
    exact registry.front.bindings.nodup
  · rw [Grammar.fragments_declarations]
    exact hdecl.wellChained hR h
  · intro tag
    rw [Grammar.elements_declarations, Grammar.attributeLists_declarations, htags, hlists]
    rfl
  · rw [Grammar.attributeLists_declarations, hlists, Grammar.fragments_declarations]
    intro list hlist
    obtain ⟨type, htype, heq⟩ := List.mem_map.1 (h.bound hR hlist)
    rw [List.map_cons, ← heq]
    exact List.mem_cons_of_mem _ (List.mem_map.2 ⟨_, List.mem_map.2 ⟨type, htype, rfl⟩, rfl⟩)

theorem Declarable.declares : Declares grammar.text (grammar.declarations (bodiesOf valueOf types)) := by
  apply Grammar.declares_text (h.spelled hdecl)
  intro element helement
  have hbinding := h.mem_bindings helement
  obtain ⟨type, htype, heq⟩ := List.mem_map.1 (h.bound hR hbinding)
  exact ⟨isTag_of_isName (hR.binding hbinding).1, heq ▸ hdecl.isFragmentName h htype⟩

/-- **The text of declarable types has a schema**, with the bound tags, their content models and the
definitions that the lineages give. -/
theorem Declarable.parse : ∃ schema, Schema.parse grammar.text = .ok schema ∧
    schema.tags = registry.tags ∧ schema.content.keys = schema.tags ∧
    schema.definitions.keys = schema.tags ∧ schema.attributes.keys = schema.tags ∧
    ∀ tag identity, (tag, identity) ∈ registry.bindings → ∃ lineage content definitions,
      answer (Registry.lineage identity) registry = .ok lineage ∧ (∀ type ∈ lineage, type ∈ types) ∧
      answer (contentModel identity) registry = .ok content ∧ schema.content.get? tag = some content ∧
      schema.definitions.get? tag = some definitions ∧ schema.attributes.get? tag = some definitions.keys ∧
      ∀ name, definitions.get? name =
        (lineage.findSome? fun type => (valueOf type).definitions.get? name).or
          (Grammar.universal.value.definitions.get? name) := by
  obtain ⟨schema, hparse, hdesc⟩ := Schema.parse_complete (hdecl.declares hR h) (hdecl.coherent hR h)
  have htags : schema.tags = registry.tags := by
    rw [hdesc.tags, Grammar.elements_declarations, List.map_map]
    exact h.tags_eq
  have hcontent : schema.content.keys = schema.tags := by
    rw [hdesc.tags, Table.keys, hdesc.content]
  refine ⟨schema, hparse, htags, hcontent, hdesc.keys_definitions, hdesc.keys_attributes, ?_⟩
  intro tag identity hmem
  obtain ⟨lineage, hline, hsub⟩ := h.collects.complete _ hmem
  obtain ⟨element, helement, content, hanswer, rfl⟩ := exists_of_forall₂ h.elements hmem
  have hlist : (tag, identity) ∈ Declaration.attributeLists (grammar.declarations (bodiesOf valueOf types)) := by
    rw [Grammar.attributeLists_declarations, h.bindings_eq]
    exact hmem
  obtain ⟨definitions, hflat, hdefs, hattrs⟩ := hdesc.definitions tag identity hlist
  obtain ⟨others, hflat', hget⟩ := hdecl.flattens hR h (chain_of_lineage hline) hsub
  -- both are the definitions of the same fragment
  rw [fragmentName, if_neg (hR.binding hmem).2] at hflat'
  rw [Grammar.fragments_declarations] at hflat
  obtain rfl := hflat.unique (hdecl.nodup h) hflat'
  refine ⟨lineage, content, definitions, hline, hsub, hanswer, ?_, hdefs, hattrs, hget⟩
  rw [Table.get?_eq_some_iff, hdesc.content, Grammar.elements_declarations]
  exact List.mem_map.2 ⟨_, helement, rfl⟩

end

/-! ## Attributes by their lists -/

/-- The definition of an attribute by the first list that has it. What no list has is free text if
every element has it. -/
def nearestDefinition? (lists : List (List Attribute)) (name : String) : Option String :=
  match lists.findSome? fun attributes => attributes.find? fun attr => attr.name = name with
  | some attr => some attr.definition
  | none => if name ∈ baseAttributeNames then some textDefinition else none

theorem lookup_definitions (attributes : List Attribute) (name : String) :
    (attributes.map fun attr => (attr.name, attr.definition)).lookup name =
      (attributes.find? fun attr => attr.name = name).map Attribute.definition := by
  induction attributes with
  | nil => rfl
  | cons attr attributes ih =>
    rw [List.map_cons, List.lookup_cons, List.find?_cons]
    by_cases hname : attr.name = name
    · simp [hname]
    · have hne : (name == attr.name) = false := beq_eq_false_iff_ne.2 (Ne.symm hname)
      simp [hname, hne, ih]

theorem Fragment.Legible.get?_value {fragment : Fragment} (h : fragment.Legible) (name : String) :
    fragment.value.definitions.get? name =
      (fragment.attributes.find? fun attr => attr.name = name).map Attribute.definition := by
  rw [Table.get?, h.composed.entries_value, lookup_definitions]

theorem get?_universal (name : String) : Grammar.universal.value.definitions.get? name =
    if name ∈ baseAttributeNames then some textDefinition else none := by
  rw [Grammar.universal_legible.get?_value]
  show (Option.map _ ((baseAttributeNames.map fun name => (⟨name, .text, []⟩ : Attribute)).find? _)) = _
  induction baseAttributeNames with
  | nil => rfl
  | cons first rest ih =>
    rw [List.map_cons, List.find?_cons]
    by_cases hname : first = name
    · simp [hname, Attribute.definition]
    · simp only [hname, decide_false, List.mem_cons, Ne.symm hname, false_or]
      exact ih

/-! ## Names that can be written -/

/-- A type whose identity, attributes and tokens are names, its attributes distinct. -/
structure Registry.Writable (registry : Registry) (type : ComponentType) : Prop where
  identity : isName type.identity.toList = true
  ne_base : type.identity ≠ baseFragment
  names : ∀ attributes, registry.attributesOf type = .ok attributes →
    ∀ attr ∈ attributes, isName attr.name.toList = true
  nodup : ∀ attributes, registry.attributesOf type = .ok attributes → (attributes.map Attribute.name).Nodup
  tokens : ∀ attributes, registry.attributesOf type = .ok attributes → ∀ attr ∈ attributes,
    attr.kind = .tokens → attr.tokens ≠ [] ∧ ∀ token ∈ attr.tokens, isName token.toList = true

theorem Registry.writable_of_attributesOf {registry : Registry} {type : ComponentType} {attributes : List Attribute}
    (h : registry.attributesOf type = .ok attributes) (hname : isName type.identity.toList = true)
    (hbase : type.identity ≠ baseFragment) (hnames : ∀ attr ∈ attributes, isName attr.name.toList = true)
    (hnodup : (attributes.map Attribute.name).Nodup) (htokens : ∀ attr ∈ attributes, attr.kind = .tokens →
      attr.tokens ≠ [] ∧ ∀ token ∈ attr.tokens, isName token.toList = true) : registry.Writable type := by
  refine ⟨hname, hbase, ?_, ?_, ?_⟩
  all_goals
    intro others hothers
    obtain rfl := Except.ok.inj (h.symm.trans hothers)
    assumption

theorem Registry.Writable.legible {registry : Registry} {type : ComponentType} (h : registry.Writable type)
    {attributes : List Attribute} (hattributes : registry.attributesOf type = .ok attributes)
    (hbase : IsFragmentName (fragmentName type.base)) : (fragmentOf type attributes).Legible := by
  refine ⟨isFragmentName_of_isName h.identity, ?_, h.names attributes hattributes, ?_,
    h.nodup attributes hattributes⟩
  · intro base hmem
    obtain rfl := Option.some.inj hmem
    exact hbase
  · intro attr hattr
    apply Attribute.isDefinition_definition
    cases hkind : attr.kind with
    | text => exact .inl rfl
    | boolean =>
      right
      rw [Compile.attributesOf_boolean hattributes attr hattr hkind]
      decide
    | tokens => exact .inr (h.tokens attributes hattributes attr hattr hkind)

section
variable {registry : Registry} {grammar : Grammar} {types : List ComponentType}

def Registry.bodyOf (registry : Registry) (type : ComponentType) : FragmentBody :=
  (fragmentOf type ((registry.attributesOf type).toOption.getD [])).value

variable (h : grammar.Compiles registry types) (hwritable : registry.BindsOnly registry.Writable)
include h hwritable

theorem Grammar.Compiles.writable {type : ComponentType} (hmem : type ∈ types) : registry.Writable type :=
  h.bindsOnly_iff.1 hwritable type hmem

theorem Grammar.Compiles.legible {type : ComponentType} (hmem : type ∈ types)
    {attributes : List Attribute} (hattributes : registry.attributesOf type = .ok attributes) :
    (fragmentOf type attributes).Legible := by
  apply (h.writable hwritable hmem).legible hattributes
  apply h.fragmentName_base Grammar.universal_legible.name ?_ hmem
  exact fun other hother => isFragmentName_of_isName (h.writable hwritable hother).identity

theorem Grammar.Compiles.declarable : Declarable registry registry.bodyOf types := by
  constructor
  · intro type hmem attributes hattributes
    have hlegible := h.legible hwritable hmem hattributes
    rw [Registry.bodyOf, hattributes]
    exact hlegible.spelled
  · exact fun type hmem => (h.writable hwritable hmem).ne_base

/-- The nearest definition along a lineage, by the attributes of its types. -/
theorem Grammar.Compiles.nearest {lineage : List ComponentType} (hsub : ∀ type ∈ lineage, type ∈ types) :
    ∃ lists, lineage.mapM registry.attributesOf = .ok lists ∧ ∀ name,
      (lineage.findSome? fun type => (registry.bodyOf type).definitions.get? name).or
        (Grammar.universal.value.definitions.get? name) = nearestDefinition? lists name := by
  have hlists : ∃ lists, lineage.mapM registry.attributesOf = .ok lists ∧ ∀ name,
      (lineage.findSome? fun type => (registry.bodyOf type).definitions.get? name) =
        (lists.findSome? fun attributes => attributes.find? fun attr => attr.name = name).map
          Attribute.definition := by
    simp only [mapM_eq_ok_iff]
    induction lineage with
    | nil => exact ⟨[], .nil, fun name => rfl⟩
    | cons type above ih =>
      obtain ⟨lists, hforall, hget⟩ := ih fun other hother => hsub other (List.mem_cons_of_mem _ hother)
      have hmem := hsub type List.mem_cons_self
      obtain ⟨attributes, hattributes, -⟩ := h.fragmentOf_mem hmem
      refine ⟨attributes :: lists, .cons hattributes hforall, fun name => ?_⟩
      have hvalue : (registry.bodyOf type).definitions.get? name =
          (attributes.find? fun attr => attr.name = name).map Attribute.definition := by
        rw [Registry.bodyOf, hattributes]
        exact (h.legible hwritable hmem hattributes).get?_value name
      rw [List.findSome?_cons, List.findSome?_cons, hvalue, hget]
      cases attributes.find? fun attr => attr.name = name <;> rfl
  obtain ⟨lists, hmap, hget⟩ := hlists
  refine ⟨lists, hmap, fun name => ?_⟩
  rw [hget, get?_universal, nearestDefinition?]
  cases lists.findSome? fun attributes => attributes.find? fun attr => attr.name = name <;> rfl

end

/-! ## Schemas of registries -/

/-- A schema that says of every bound tag what the registry says of its type. -/
structure Schema.Reflects (schema : Schema) (registry : Registry) : Prop where
  tags : schema.tags = registry.tags
  keys_content : schema.content.keys = registry.tags
  keys_definitions : schema.definitions.keys = registry.tags
  keys_attributes : schema.attributes.keys = registry.tags
  content : ∀ tag identity, (tag, identity) ∈ registry.bindings → ∃ content,
    answer (contentModel identity) registry = .ok content ∧ schema.content.get? tag = some content
  definitions : ∀ tag identity, (tag, identity) ∈ registry.bindings → ∃ types lists definitions,
    answer (lineage identity) registry = .ok types ∧ types.mapM registry.attributesOf = .ok lists ∧
      schema.definitions.get? tag = some definitions ∧ schema.attributes.get? tag = some definitions.keys ∧
      ∀ name, definitions.get? name = nearestDefinition? lists name

/-- **Compiling, writing and reading back keeps what a registry says of its tags.** -/
theorem Grammar.parse_text_reflects {registry : Registry} (hreachable : registry.Reachable)
    {log : List LogRecord} {grammar : Grammar} {after : Workbench}
    (hrun : Compile.grammar.run ⟨registry, log⟩ = .ok grammar after)
    (hwritable : registry.BindsOnly registry.Writable) :
    ∃ schema, Schema.parse grammar.text = .ok schema ∧ schema.Reflects registry := by
  have hR := hreachable.wellFormed
  obtain ⟨types, h⟩ := Compile.grammar_sound hR (answer_eq_ok_iff.2 ⟨after, hrun⟩)
  obtain ⟨schema, hparse, htags, hcontent, hdefinitions, hattributes, hall⟩ :=
    (h.declarable hwritable).parse hR h
  rw [htags] at hcontent hdefinitions hattributes
  refine ⟨schema, hparse, htags, hcontent, hdefinitions, hattributes, ?_, ?_⟩
  · intro tag identity hmem
    obtain ⟨_, content, _, -, -, hanswer, hget, -⟩ := hall tag identity hmem
    exact ⟨content, hanswer, hget⟩
  · intro tag identity hmem
    obtain ⟨lineage, _, definitions, hline, hsub, -, -, hdefs, hattrs, hget⟩ := hall tag identity hmem
    obtain ⟨lists, hlists, hnearest⟩ := h.nearest hwritable hsub
    exact ⟨lineage, lists, definitions, hline, hlists, hdefs, hattrs, fun name => (hget name).trans (hnearest name)⟩

/-! ### A registry with one tag -/

namespace Sample

def field : ComponentType :=
  ⟨"Field", rootType, [⟨"text", .string, none⟩, ⟨"locked", .boolean, none⟩]⟩

/-- A type that overrides an attribute of its base type and one of the base fragment. -/
def picker : ComponentType :=
  ⟨"Picker", "Field", [⟨"text", .enum, some "Sides"⟩, ⟨"style", .boolean, none⟩]⟩

def fallback : Registry :=
  leaves (registerAll [⟨"Field", some rootType, field.properties⟩]
    [⟨"Sides", [⟨"LEFT", "left"⟩, ⟨"RIGHT", "right"⟩]⟩]) (withFallback .empty none)

def created : Registry :=
  leaves (registerAll [⟨"Picker", some "Field", picker.properties⟩] []) (withFallback .empty (some fallback))

def registry : Registry :=
  leaves (bindTag "pick" "Picker") created

theorem reachable : registry.Reachable := by
  have hfallback : Registry.create [⟨"Field", some rootType, field.properties⟩]
      [⟨"Sides", [⟨"LEFT", "left"⟩, ⟨"RIGHT", "right"⟩]⟩] none = .ok fallback := rfl
  have hcreated : Registry.create [⟨"Picker", some "Field", picker.properties⟩] [] (some fallback) =
      .ok created := rfl
  have hbelow : ∀ other ∈ some fallback, Reachable other := by
    intro other hother
    obtain rfl := Option.some.inj hother
    exact .create (by simp) hfallback
  exact .step (.create hbelow hcreated) (.bindTag created "pick" "Picker")

theorem chain : Chain registry "Picker" [picker, field] :=
  .step (by decide) rfl (.step (by decide) rfl .root)

theorem attributesOf_field : registry.attributesOf field =
    .ok [⟨"text", .text, []⟩, ⟨"locked", .boolean, booleanTokens⟩] := rfl

theorem attributesOf_picker : registry.attributesOf picker =
    .ok [⟨"text", .tokens, ["left", "right"]⟩, ⟨"style", .boolean, booleanTokens⟩] := rfl

theorem bindsWritable : registry.BindsOnly registry.Writable := by
  intro binding hb types hline type hmem
  obtain rfl : binding = ("pick", "Picker") := List.mem_singleton.1 hb
  obtain rfl := (chain_of_lineage hline).unique chain
  rcases List.mem_cons.1 hmem with rfl | hmem
  · exact writable_of_attributesOf attributesOf_picker (by decide) (by decide) (by decide) (by decide) (by decide)
  · obtain rfl := List.mem_singleton.1 hmem
    exact writable_of_attributesOf attributesOf_field (by decide) (by decide) (by decide) (by decide) (by decide)

theorem compiles : ∃ grammar after, Compile.grammar.run ⟨registry, []⟩ = .ok grammar after := by
  have hchains : ∀ binding ∈ registry.bindings, ∃ types, Chain registry binding.2 types ∧
      ∀ type ∈ types, ∃ attributes, registry.attributesOf type = .ok attributes := by
    intro binding hb
    obtain rfl : binding = ("pick", "Picker") := List.mem_singleton.1 hb
    refine ⟨[picker, field], chain, fun type hmem => ?_⟩
    rcases List.mem_cons.1 hmem with rfl | hmem
    · exact ⟨_, attributesOf_picker⟩
    · obtain rfl := List.mem_singleton.1 hmem
      exact ⟨_, attributesOf_field⟩
  have hR : (Workbench.mk registry []).registry.WellFormed := reachable.wellFormed
  obtain ⟨grammar, hgrammar⟩ := Compile.grammar_complete hR hchains
  obtain ⟨after, hrun⟩ := answer_eq_ok_iff.1 hgrammar
  exact ⟨grammar, after, hrun⟩

end Sample

theorem Sample.parse_text : registry.Reachable ∧ registry.BindsOnly registry.Writable ∧
    ∃ grammar after, Compile.grammar.run ⟨registry, []⟩ = .ok grammar after ∧
      ∃ schema, Schema.parse grammar.text = .ok schema ∧ schema.Reflects registry := by
  obtain ⟨grammar, after, hrun⟩ := Sample.compiles
  exact ⟨Sample.reachable, Sample.bindsWritable, grammar, after, hrun,
    Grammar.parse_text_reflects Sample.reachable hrun Sample.bindsWritable⟩

end TagGrammar
