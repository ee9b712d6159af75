import TagGrammar.Proofs.Dependence
import TagGrammar.Proofs.ReadBack

/-!
# Tags that two registries share

Two registries may differ in much and still bind some tags alike, in the same order and to types on
which they agree. Then the statements about these tags are the same in the grammars of both, in the
same order, and the schemas of both grammars say the same of these tags (`SharesTags.conservative`).
-/

namespace TagGrammar

open Registry

/-! ## Statements about tags -/

/-- The identities in the lineage of the type that a tag is bound to. -/
def Registry.ancestry (registry : Registry) (tag : String) : List String :=
  match registry.front.bindings.get? tag with
  | none => []
  | some identity => ((answer (lineage identity) registry).toOption.getD []).map ComponentType.identity

/-- The identities in the lineages of some tags. -/
def Registry.ancestries (registry : Registry) (tags : List String) : List String :=
  tags.flatMap registry.ancestry

/-- Whether a statement is about one of the given tags: it declares its element, its attribute list or
the fragment of a type in its lineage. -/
def Registry.concerns (registry : Registry) (tags : List String) : Statement → Bool
  | .fragment name _ => (registry.ancestries tags).contains name
  | .element tag _ => tags.contains tag
  | .attributeList tag _ => tags.contains tag

theorem Registry.mem_ancestry {registry : Registry} {tag name : String} : name ∈ registry.ancestry tag ↔
    ∃ identity types, (tag, identity) ∈ registry.bindings ∧ answer (lineage identity) registry = .ok types ∧
      ∃ type ∈ types, type.identity = name := by
  have hmem : ∀ identity, registry.front.bindings.get? tag = some identity ↔ (tag, identity) ∈ registry.bindings :=
    fun identity => Table.get?_eq_some_iff
  unfold ancestry
  cases hget : registry.front.bindings.get? tag with
  | none =>
    simp only [List.not_mem_nil, false_iff]
    rintro ⟨identity, _, hbound, -⟩
    rw [← hmem, hget] at hbound
    cases hbound
  | some identity =>
    simp only [List.mem_map]
    constructor
    · intro h
      cases hline : answer (lineage identity) registry with
      | error error => simp [hline, Except.toOption] at h
      | ok types =>
        rw [hline] at h
        exact ⟨identity, types, (hmem identity).1 hget, hline, h⟩
    · rintro ⟨other, types, hbound, hline, htype⟩
      rw [← hmem, hget] at hbound
      rw [Option.some.inj hbound, hline]
      exact htype

theorem Grammar.filter_statements (grammar : Grammar) (registry : Registry) (tags : List String) :
    grammar.statements.filter (registry.concerns tags) =
      [baseStatement].filter (registry.concerns tags) ++
        (grammar.types.filter fun fragment => (registry.ancestries tags).contains fragment.name).map
          Fragment.statement ++
        (grammar.elements.filter fun element => tags.contains element.tag).flatMap fun element =>
          [element.statement, element.attributeStatement] := by
  have helements : (grammar.elements.flatMap fun element =>
      [element.statement, element.attributeStatement]).filter (registry.concerns tags) =
      (grammar.elements.filter fun element => tags.contains element.tag).flatMap fun element =>
        [element.statement, element.attributeStatement] := by
    induction grammar.elements with
    | nil => rfl
    | cons element rest ih =>
      rw [List.flatMap_cons, List.filter_append, ih]
      by_cases htag : element.tag ∈ tags
      · simp [Element.statement, Element.attributeStatement, concerns, htag]
      · simp [Element.statement, Element.attributeStatement, concerns, htag]
  rw [Grammar.statements, ← List.singleton_append, List.append_assoc, List.filter_append, List.filter_append,
    List.filter_map, helements, List.append_assoc]
  rfl

/-! ## Two registries that agree on tags -/

/-- Two registries that bind the given tags alike, in the same order and to types on which they agree. -/
structure Registry.SharesTags (p : String → Prop) (tags : List String) (registry other : Registry) : Prop
    extends AgreesOn p registry other where
  bindings : registry.bindings.filter (fun binding => tags.contains binding.1) =
    other.bindings.filter fun binding => tags.contains binding.1
  bound : ∀ binding ∈ registry.bindings, binding.1 ∈ tags → p binding.2

namespace Registry.SharesTags

variable {p : String → Prop} {tags : List String} {registry other : Registry}
variable (h : SharesTags p tags registry other)
include h

theorem mem_bindings {tag identity : String} (htag : tag ∈ tags) :
    (tag, identity) ∈ registry.bindings ↔ (tag, identity) ∈ other.bindings := by
  have hfilter : (tag, identity) ∈ registry.bindings.filter (fun binding => tags.contains binding.1) ↔
      (tag, identity) ∈ other.bindings.filter fun binding => tags.contains binding.1 := by
    rw [h.bindings]
  simpa [htag] using hfilter

theorem ancestry {tag : String} (htag : tag ∈ tags) : registry.ancestry tag = other.ancestry tag := by
  have hget : registry.front.bindings.get? tag = other.front.bindings.get? tag := by
    ext identity
    rw [Table.get?_eq_some_iff, Table.get?_eq_some_iff]
    exact h.mem_bindings htag
  unfold Registry.ancestry
  rw [hget]
  cases hbound : other.front.bindings.get? tag with
  | none => rfl
  | some identity =>
    rw [← hget, Table.get?_eq_some_iff] at hbound
    simp only [h.lineage (h.bound _ hbound htag)]

theorem ancestries : registry.ancestries tags = other.ancestries tags := by
  unfold Registry.ancestries
  rw [List.flatMap_def, List.flatMap_def, List.map_congr_left fun tag htag => h.ancestry htag]

theorem concerns : registry.concerns tags = other.concerns tags := by
  funext statement
  cases statement with
  | fragment name body => simp only [Registry.concerns, h.ancestries]
  | element tag content => rfl
  | attributeList tag name => rfl

variable (hR : registry.WellFormed) {grammar grammar' : Grammar} {types others : List ComponentType}
variable (hgrammar : grammar.Compiles registry types) (hgrammar' : grammar'.Compiles other others)
include hR hgrammar hgrammar'

theorem exists_type {name : String} (hname : (registry.ancestries tags).contains name = true) :
    ∃ type, type.identity = name ∧ type ∈ types ∧ type ∈ others ∧ p name := by
  rw [List.contains_iff_mem] at hname
  obtain ⟨tag, htag, hname⟩ := List.mem_flatMap.1 hname
  obtain ⟨identity, lineage, hb, hline, type, htype, rfl⟩ := mem_ancestry.1 hname
  have hid : p identity := h.bound _ hb htag
  have hb' : (tag, identity) ∈ other.bindings := (h.mem_bindings htag).1 hb
  obtain ⟨hp, -⟩ := h.of_chain hR (chain_of_lineage hline) hid type htype
  refine ⟨type, rfl, hgrammar.collects.mem_iff.2 ⟨_, hb, lineage, hline, htype⟩, ?_, hp⟩
  rw [h.lineage hid] at hline
  exact hgrammar'.collects.mem_iff.2 ⟨_, hb', lineage, hline, htype⟩

theorem filter_types (hsorted : types.Pairwise (Compile.Precedes registry))
    (hsorted' : others.Pairwise (Compile.Precedes other)) :
    types.filter (fun type => (registry.ancestries tags).contains type.identity) =
      others.filter fun type => (registry.ancestries tags).contains type.identity := by
  have hmem : ∀ type, type ∈ types.filter (fun type => (registry.ancestries tags).contains type.identity) ↔
      type ∈ others.filter fun type => (registry.ancestries tags).contains type.identity := by
    intro type
    rw [List.mem_filter, List.mem_filter, and_congr_left_iff]
    intro hname
    -- either list has one type of this name, and the lineages put the same one into both
    obtain ⟨found, hid, htypes, hothers, -⟩ := h.exists_type hR hgrammar hgrammar' hname
    constructor
    · intro htype
      rwa [← List.inj_on_of_nodup_map hgrammar.collects.nodup htypes htype hid]
    · intro htype
      rwa [← List.inj_on_of_nodup_map hgrammar'.collects.nodup hothers htype hid]
  apply Compile.eq_of_pairwise_precedes hmem
  · exact (List.filter_sublist.map _).nodup hgrammar.collects.nodup
  · exact (List.filter_sublist.map _).nodup hgrammar'.collects.nodup
  · exact hsorted.filter _
  · apply h.pairwise_precedes _ (hsorted'.filter _)
    intro type htype
    obtain ⟨-, -, -, -, hp⟩ := h.exists_type hR hgrammar hgrammar' (List.mem_filter.1 htype).2
    exact hp

theorem filter_fragments (hsorted : types.Pairwise (Compile.Precedes registry))
    (hsorted' : others.Pairwise (Compile.Precedes other)) :
    grammar.types.filter (fun fragment => (registry.ancestries tags).contains fragment.name) =
      grammar'.types.filter fun fragment => (registry.ancestries tags).contains fragment.name := by
  have htypes := h.filter_types hR hgrammar hgrammar' hsorted hsorted'
  rw [hgrammar.types_eq, hgrammar'.types_eq, List.filter_map, List.filter_map]
  show (types.filter fun type => (registry.ancestries tags).contains type.identity).map registry.fragmentFor =
    (others.filter fun type => (registry.ancestries tags).contains type.identity).map other.fragmentFor
  rw [← htypes]
  apply List.map_congr_left
  intro type htype
  obtain ⟨htype, hname⟩ := List.mem_filter.1 htype
  obtain ⟨-, -, -, -, hp⟩ := h.exists_type hR hgrammar hgrammar' hname
  rw [fragmentFor, fragmentFor, h.attributesOf hp (hgrammar.collects.known type htype)]

omit hR in
theorem filter_elements : grammar.elements.filter (fun element => tags.contains element.tag) =
    grammar'.elements.filter fun element => tags.contains element.tag := by
  have hbindings := h.bindings
  rw [hgrammar.elements_eq, hgrammar'.elements_eq, List.filter_map, List.filter_map]
  show (registry.bindings.filter fun binding => tags.contains binding.1).map _ =
    (other.bindings.filter fun binding => tags.contains binding.1).map _
  rw [← hbindings]
  apply List.map_congr_left
  intro binding hb
  obtain ⟨hb, htag⟩ := List.mem_filter.1 hb
  rw [contentFor, contentFor, h.contentModel (h.bound binding hb (by simpa using htag))]

theorem filter_statements (hsorted : types.Pairwise (Compile.Precedes registry))
    (hsorted' : others.Pairwise (Compile.Precedes other)) :
    grammar.statements.filter (registry.concerns tags) = grammar'.statements.filter (other.concerns tags) := by
  rw [← h.concerns, Grammar.filter_statements, Grammar.filter_statements, h.filter_elements hgrammar hgrammar',
    h.filter_fragments hR hgrammar hgrammar' hsorted hsorted']

end Registry.SharesTags

/-! ## Schemas of two registries -/

/-- Two schemas that both have a tag, with the same attributes, definitions and content model. -/
def Schema.SameFor (schema other : Schema) (tag : String) : Prop :=
  ∃ definitions content,
    schema.definitions.get? tag = some definitions ∧ other.definitions.get? tag = some definitions ∧
    schema.attributes.get? tag = some definitions.keys ∧ other.attributes.get? tag = some definitions.keys ∧
    schema.content.get? tag = some content ∧ other.content.get? tag = some content

theorem Fragment.Spelled.unique {fragment : Fragment} {value other : FragmentBody} (h : fragment.Spelled value)
    (h' : fragment.Spelled other) : value = other :=
  Except.ok.inj ((FragmentBody.read_eq_ok_iff.2 h.body).symm.trans (FragmentBody.read_eq_ok_iff.2 h'.body))

theorem Registry.Chain.base_mem {registry : Registry} (hR : registry.WellFormed) {identity : String}
    {types : List ComponentType} (h : Chain registry identity types) {type : ComponentType} (hmem : type ∈ types) :
    type.base = rootType ∨ ∃ base ∈ types, base.identity = type.base := by
  obtain ⟨name, above, -, hchain, hsuffix⟩ := h.of_mem hmem
  cases hchain with
  | step _ _ hrest =>
    generalize type.base = base at hrest ⊢
    cases hrest with
    | root => exact .inl rfl
    | step _ htype _ => exact .inr ⟨_, hsuffix.subset (by simp), (hR.type? htype).1⟩

section
variable {registry : Registry} {grammar : Grammar} {types : List ComponentType}
variable {valueOf : ComponentType → FragmentBody} {schema : Schema}

theorem Grammar.Compiles.entries (h : grammar.Compiles registry types)
    (hdesc : schema.Describes (grammar.declarations (bodiesOf valueOf types))) {tag identity : String}
    (hmem : (tag, identity) ∈ registry.bindings) :
    schema.content.get? tag = some (registry.contentFor identity) ∧ ∃ definitions,
      Flattens ((baseFragment, Grammar.universal.value) :: bodiesOf valueOf types) identity definitions ∧
      schema.definitions.get? tag = some definitions ∧ schema.attributes.get? tag = some definitions.keys := by
  constructor
  · rw [Table.get?_eq_some_iff, hdesc.content, Grammar.elements_declarations, h.elements_eq, List.map_map]
    exact List.mem_map.2 ⟨_, hmem, rfl⟩
  · have hdefinitions := hdesc.definitions tag identity
    rw [Grammar.attributeLists_declarations, h.bindings_eq, Grammar.fragments_declarations] at hdefinitions
    exact hdefinitions hmem

variable {p : String → Prop} {other : Registry} {others : List ComponentType}
variable {valueOf' : ComponentType → FragmentBody} (h : AgreesOn p registry other)
variable (hgrammar : grammar.Compiles registry types) (hdecl : Declarable registry valueOf types)
variable (hdecl' : Declarable other valueOf' others)
include h hgrammar hdecl hdecl'

theorem Registry.AgreesOn.valueOf_eq {type : ComponentType} (hid : p type.identity) (hmem : type ∈ types)
    (hmem' : type ∈ others) : valueOf type = valueOf' type := by
  obtain ⟨attributes, hattributes, -⟩ := hgrammar.fragmentOf_mem hmem
  have hspelled := hdecl.spelled type hmem attributes hattributes
  rw [h.attributesOf hid (hgrammar.collects.known type hmem)] at hattributes
  exact hspelled.unique (hdecl'.spelled type hmem' attributes hattributes)

/-- Along the lineage of a type that two registries agree on, the fragments have the same definitions
in both. -/
theorem Registry.AgreesOn.flattens (hR : registry.WellFormed) {identity : String} (hid : p identity)
    {lineage : List ComponentType} (hchain : Chain registry identity lineage)
    (hsub : ∀ type ∈ lineage, type ∈ types) (hsub' : ∀ type ∈ lineage, type ∈ others) {name : String}
    (hname : name = baseFragment ∨ ∃ type ∈ lineage, type.identity = name) {definitions : Table String}
    (hflat : Flattens ((baseFragment, Grammar.universal.value) :: bodiesOf valueOf types) name definitions) :
    Flattens ((baseFragment, Grammar.universal.value) :: bodiesOf valueOf' others) name definitions := by
  -- the chain stays in the lineage until it comes to the base fragment
  refine hflat.transfer (p := fun name => name = baseFragment ∨ ∃ type ∈ lineage, type.identity = name) ?_ hname
  rintro name body (rfl | ⟨type, htype, rfl⟩) hmem
  · obtain rfl := body_unique (hdecl.nodup hgrammar) hmem List.mem_cons_self
    exact ⟨List.mem_cons_self, by simp [Grammar.universal, Fragment.value]⟩
  · have hbody : (type.identity, valueOf type) ∈ bodiesOf valueOf types :=
      List.mem_map.2 ⟨type, hsub type htype, rfl⟩
    obtain rfl := body_unique (hdecl.nodup hgrammar) hmem (List.mem_cons_of_mem _ hbody)
    obtain ⟨hp, -⟩ := h.of_chain hR hchain hid type htype
    constructor
    · rw [h.valueOf_eq hgrammar hdecl hdecl' hp (hsub type htype) (hsub' type htype)]
      exact List.mem_cons_of_mem _ (List.mem_map.2 ⟨type, hsub' type htype, rfl⟩)
    · intro base hbase
      rw [hdecl.base hgrammar (hsub type htype)] at hbase
      obtain rfl := Option.some.inj hbase
      unfold fragmentName
      by_cases hroot : type.base = rootType
      · rw [if_pos hroot]
        exact .inl rfl
      · rw [if_neg hroot]
        exact .inr ((hchain.base_mem hR htype).resolve_left hroot)

end

theorem Registry.SharesTags.schemas {p : String → Prop} {tags : List String} {registry other : Registry}
    (h : SharesTags p tags registry other) (hR : registry.WellFormed) (hO : other.WellFormed)
    {grammar grammar' : Grammar} {types others : List ComponentType} (hgrammar : grammar.Compiles registry types)
    (hgrammar' : grammar'.Compiles other others) {valueOf valueOf' : ComponentType → FragmentBody}
    (hdecl : Declarable registry valueOf types) (hdecl' : Declarable other valueOf' others) :
    ∃ schema schema', Schema.parse grammar.text = .ok schema ∧ Schema.parse grammar'.text = .ok schema' ∧
      ∀ tag ∈ tags, tag ∈ other.tags → schema.SameFor schema' tag := by
  obtain ⟨schema, hparse, hdesc⟩ := Schema.parse_complete (hdecl.declares hR hgrammar) (hdecl.coherent hR hgrammar)
  obtain ⟨schema', hparse', hdesc'⟩ :=
    Schema.parse_complete (hdecl'.declares hO hgrammar') (hdecl'.coherent hO hgrammar')
  refine ⟨schema, schema', hparse, hparse', fun tag htag hbound => ?_⟩
  obtain ⟨identity, hb'⟩ := Table.mem_keys_iff.1 hbound
  have hb := (h.mem_bindings htag).2 hb'
  have hid : p identity := h.bound _ hb htag
  obtain ⟨hcontent, definitions, hflat, hdefinitions, hattributes⟩ := hgrammar.entries hdesc hb
  obtain ⟨hcontent', definitions', hflat', hdefinitions', hattributes'⟩ := hgrammar'.entries hdesc' hb'
  obtain ⟨lineage, hline, hsub⟩ := hgrammar.collects.complete _ hb
  have hsub' : ∀ type ∈ lineage, type ∈ others := by
    intro type htype
    rw [h.lineage hid] at hline
    exact hgrammar'.collects.mem_iff.2 ⟨_, hb', lineage, hline, htype⟩
  have hname : identity = baseFragment ∨ ∃ type ∈ lineage, type.identity = identity := by
    cases chain_of_lineage hline with
    | root => exact absurd rfl (hR.binding hb).2
    | step _ htype _ => exact .inr ⟨_, List.mem_cons_self, (hR.type? htype).1⟩
  obtain rfl : definitions = definitions' := (h.flattens hgrammar hdecl hdecl' hR hid
    (chain_of_lineage hline) hsub hsub' hname hflat).unique (hdecl'.nodup hgrammar') hflat'
  have hsame : registry.contentFor identity = other.contentFor identity := by
    rw [contentFor, contentFor, h.contentModel hid]
  rw [← hsame] at hcontent'
  exact ⟨definitions, _, hdefinitions, hdefinitions', hattributes, hattributes', hcontent, hcontent'⟩

theorem Registry.SharesTags.conservative {p : String → Prop} {tags : List String} {registry other : Registry}
    (h : SharesTags p tags registry other) (hR : registry.WellFormed) (hD : registry.Defined)
    (hO : other.WellFormed) (hD' : other.Defined) (hsolid : other.BindsOnly other.Solid)
    (htags : ∀ tag ∈ tags, tag ∈ other.tags) {log log' : List LogRecord} {grammar grammar' : Grammar}
    (hgrammar : answer Compile.grammar ⟨registry, log⟩ = .ok grammar)
    (hgrammar' : answer Compile.grammar ⟨other, log'⟩ = .ok grammar') :
    grammar.statements.filter (registry.concerns tags) = grammar'.statements.filter (other.concerns tags) ∧
      ∀ schema, Schema.parse grammar.text = .ok schema → ∃ schema', Schema.parse grammar'.text = .ok schema' ∧
        ∀ tag ∈ tags, schema.SameFor schema' tag := by
  obtain ⟨types, htypes, hcompiles⟩ := Compile.exists_collectTypes hR hgrammar
  obtain ⟨others, hothers, hcompiles'⟩ := Compile.exists_collectTypes hO hgrammar'
  refine ⟨h.filter_statements hR hcompiles hcompiles' (Compile.collectTypes_pairwise htypes)
    (Compile.collectTypes_pairwise hothers), fun schema hparse => ?_⟩
  have hreadable' := hcompiles'.bindsOnly_iff.1 (hcompiles'.readable_of_bindsOnly_solid hD' hsolid)
  obtain ⟨valueOf, hdecl⟩ := hcompiles.declarable_of_readable hD (hcompiles.readable_of_parse hR hD hparse)
  obtain ⟨valueOf', hdecl'⟩ := hcompiles'.declarable_of_readable hD' hreadable'
  obtain ⟨found, schema', hfound, hparse', hsame⟩ := h.schemas hR hO hcompiles hcompiles' hdecl hdecl'
  obtain rfl := Except.ok.inj (hfound.symm.trans hparse)
  exact ⟨schema', hparse', fun tag htag => hsame tag htag (htags tag htag)⟩

end TagGrammar
