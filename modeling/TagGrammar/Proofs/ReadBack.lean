import TagGrammar.Proofs.Files
import TagGrammar.Proofs.Inputs
import TagGrammar.Proofs.Legibility
import TagGrammar.Proofs.RoundTrip

/-!
# Reading compiled files back

A grammar that has been compiled from inputs and written to a file can be loaded again if and only
if the types it was compiled from are readable: their identities are solid and none is that of the
base fragment, no token is divided, and the words of the names and definitions of their attributes fall
into pairs (`compileFile_loads_iff`). Types with solid names are readable. Definition files admit others,
since they take information separators for parts of names.
-/

namespace TagGrammar

open Text Registry

/-- A type whose fragment is read as what was written: no blank divides its identity, its base or a
token, no name breaks a line, and the words of the names and definitions of its attributes fall into
pairs. -/
structure Registry.Readable (registry : Registry) (type : ComponentType) : Prop where
  identity : IsSolid type.identity.toList
  ne_base : type.identity ≠ baseFragment
  base : IsSolid (fragmentName type.base).toList
  attributes : ∀ attributes, registry.attributesOf type = .ok attributes → ∀ attr ∈ attributes,
    IsLine attr.name.toList ∧ (attr.kind = .text ∨ ∀ token ∈ attr.tokens, IsSolid token.toList)
  pairs : ∀ attributes, registry.attributesOf type = .ok attributes →
    FragmentBody.ArePairs (attributes.flatMap fun attr => words attr.name.toList ++ [attr.definition.toList])

/-- A type without blanks in its identity and in the names and tokens of its attributes. -/
structure Registry.Solid (registry : Registry) (type : ComponentType) : Prop where
  identity : IsSolid type.identity.toList
  ne_base : type.identity ≠ baseFragment
  attributes : ∀ attributes, registry.attributesOf type = .ok attributes → ∀ attr ∈ attributes,
    IsSolid attr.name.toList ∧ ∀ token ∈ attr.tokens, IsSolid token.toList

section
variable {registry : Registry} {grammar : Grammar} {types : List ComponentType}
variable (hR : registry.WellFormed) (hD : registry.Defined) (h : grammar.Compiles registry types)
include hR hD h

/-! ## Names of a compiled grammar -/

omit hR in
theorem Grammar.Compiles.isDefinedName_identity {type : ComponentType} (hmem : type ∈ types) :
    isDefinedName type.identity.toList = true :=
  (hD.types _ _ (h.collects.known type hmem)).identity

omit hR in
theorem Grammar.Compiles.isDefinedName_base {type : ComponentType} (hmem : type ∈ types) :
    isDefinedName (fragmentName type.base).toList = true := by
  apply h.fragmentName_base (p := fun name => isDefinedName name.toList = true) Grammar.universal_defined.name ?_
    hmem
  exact fun other hother => h.isDefinedName_identity hD hother

omit hR in
theorem Grammar.Compiles.defined_fragmentOf {type : ComponentType} (hmem : type ∈ types)
    {attributes : List Attribute} (hattributes : registry.attributesOf type = .ok attributes) :
    (fragmentOf type attributes).Defined := by
  have hknown := h.collects.known type hmem
  refine ⟨h.isDefinedName_identity hD hmem, fun base hbase => ?_, fun attr hattr => ?_, fun attr hattr => ?_⟩
  · obtain rfl := Option.some.inj hbase
    exact h.isDefinedName_base hD hmem
  · exact (hD.attribute hknown hattributes hattr).1
  · exact (hD.attribute hknown hattributes hattr).2

omit hR in
theorem Grammar.Compiles.defined_fragments : ∀ fragment ∈ grammar.types, fragment.Defined := by
  intro fragment hf
  obtain ⟨type, hmem, attributes, hattributes, rfl⟩ := exists_of_forall₂ h.fragments.flip hf
  exact h.defined_fragmentOf hD hmem hattributes

theorem Grammar.Compiles.defined_elements : ∀ element ∈ grammar.elements,
    isName element.tag.toList = true ∧ isDefinedName element.identity.toList = true := by
  intro element he
  have hbinding := h.mem_bindings he
  obtain ⟨type, hmem, heq⟩ := List.mem_map.1 (h.bound hR hbinding)
  exact ⟨(hR.binding hbinding).1, heq ▸ h.isDefinedName_identity hD hmem⟩

/-! ## Readable types -/

omit hR in
/-- A type is readable exactly if its fragment is a line of its own whose body spells something. -/
theorem Grammar.Compiles.readable_iff {type : ComponentType} (hmem : type ∈ types) : registry.Readable type ↔
    IsSolid type.identity.toList ∧ type.identity ≠ baseFragment ∧
      ∀ attributes, registry.attributesOf type = .ok attributes → IsLine (fragmentOf type attributes).body.toList ∧
        ∃ value, FragmentBody.Spells (fragmentOf type attributes).body.toList value := by
  have hspells : ∀ attributes, registry.attributesOf type = .ok attributes →
      ((IsLine (fragmentOf type attributes).body.toList ∧
        ∃ value, FragmentBody.Spells (fragmentOf type attributes).body.toList value) ↔ _) :=
    fun attributes hattributes => (h.defined_fragmentOf hD hmem hattributes).spells_body_iff rfl
  constructor
  · intro hreadable
    refine ⟨hreadable.identity, hreadable.ne_base, fun attributes hattributes =>
      (hspells attributes hattributes).2 ?_⟩
    exact ⟨hreadable.base, hreadable.attributes attributes hattributes, hreadable.pairs attributes hattributes⟩
  · rintro ⟨hidentity, hne, hbodies⟩
    obtain ⟨attributes, hattributes, -⟩ := h.fragmentOf_mem hmem
    have hall := fun others hothers => (hspells others hothers).1 (hbodies others hothers)
    exact ⟨hidentity, hne, (hall attributes hattributes).1, fun others hothers => (hall others hothers).2.1,
      fun others hothers => (hall others hothers).2.2⟩

omit hD h in
/-- Solidity spreads up a chain of types, from each to the base it refers to. -/
theorem isSolid_of_chain {identity : String} {lineage : List ComponentType}
    (hchain : Chain registry identity lineage) (hid : identity ≠ rootType → IsSolid identity.toList)
    (hbase : ∀ type ∈ lineage, type.base ≠ rootType → IsSolid type.base.toList) :
    ∀ type ∈ lineage, IsSolid type.identity.toList := by
  induction hchain with
  | root => simp
  | @step identity type above hne htype _ ih =>
    rw [List.forall_mem_cons] at hbase ⊢
    refine ⟨?_, ih hbase.1 hbase.2⟩
    rw [(hR.type? htype).1]
    exact hid hne

theorem Grammar.Compiles.readable_of_parse {schema : Schema} (hparse : Schema.parse grammar.text = .ok schema) :
    ∀ type ∈ types, registry.Readable type := by
  obtain ⟨ds, hdeclares, hcoherent, -⟩ := Schema.parse_sound hparse
  have hfragments := h.defined_fragments hD
  have helements := h.defined_elements hR hD
  obtain ⟨_, _, -, hbodies⟩ := Grammar.fragment_of_declares hfragments helements hdeclares
  have hbody : ∀ type ∈ types, ∀ attributes, registry.attributesOf type = .ok attributes →
      fragmentOf type attributes ∈ grammar.types := by
    intro type hmem attributes hattributes
    obtain ⟨others, hothers, hf⟩ := h.fragmentOf_mem hmem
    obtain rfl := Except.ok.inj (hattributes.symm.trans hothers)
    exact hf
  have hbase : ∀ type ∈ types, type.base ≠ rootType → IsSolid type.base.toList := by
    intro type hmem hne
    obtain ⟨attributes, -, hf⟩ := h.fragmentOf_mem hmem
    obtain ⟨-, _, value, -, -, hspells⟩ := hbodies _ hf
    have hname : fragmentName type.base = type.base := if_neg hne
    have hdefined := h.isDefinedName_base hD hmem
    rw [hname] at hdefined
    have hrefers : (fragmentOf type attributes).base = some type.base := congrArg some hname
    exact hspells.isSolid_base hrefers (not_mem_of_isDefinedName hdefined (by decide))
  have hsolid : ∀ type ∈ types, IsSolid type.identity.toList := by
    intro type hmem
    obtain ⟨binding, hb, lineage, hline, htype, hsub⟩ := h.lineage_of_mem hmem
    have hbound : IsSolid binding.2.toList := by
      rw [← h.bindings_eq] at hb
      obtain ⟨element, he, rfl⟩ := List.mem_map.1 hb
      exact (Grammar.isFragmentName_of_declares hfragments helements hdeclares he).isSolid
    exact isSolid_of_chain hR (chain_of_lineage hline) (fun _ => hbound)
      (fun other hother => hbase other (hsub other hother)) type htype
  intro type hmem
  obtain ⟨attributes, -, hf⟩ := h.fragmentOf_mem hmem
  refine (h.readable_iff hD hmem).2 ⟨hsolid type hmem, ?_, fun others hothers => ?_⟩
  · exact Grammar.ne_baseFragment_of_declares hfragments helements hdeclares hcoherent.distinct hf
      (hsolid type hmem)
  · obtain ⟨hline, _, value, -, -, hspells⟩ := hbodies _ (hbody type hmem others hothers)
    exact ⟨hline, value, hspells⟩

omit hR in
theorem Grammar.Compiles.declarable_of_readable (hreadable : ∀ type ∈ types, registry.Readable type) :
    ∃ valueOf, Declarable registry valueOf types := by
  have hvalue : ∀ type ∈ types, ∃ value, ∀ attributes, registry.attributesOf type = .ok attributes →
      (fragmentOf type attributes).Spelled value := by
    intro type hmem
    obtain ⟨attributes, hattributes, -⟩ := h.fragmentOf_mem hmem
    obtain ⟨-, -, hbodies⟩ := (h.readable_iff hD hmem).1 (hreadable type hmem)
    obtain ⟨hline, value, hspells⟩ := hbodies attributes hattributes
    have hname := isName_of_isSolid (h.isDefinedName_identity hD hmem) (hreadable type hmem).identity
    refine ⟨value, fun others hothers => ?_⟩
    obtain rfl := Except.ok.inj (hattributes.symm.trans hothers)
    exact ⟨isFragmentName_of_isName hname, hline,
      (h.defined_fragmentOf hD hmem hattributes).not_mem_body (by decide), hspells⟩
  have : Nonempty FragmentBody := ⟨⟨none, .empty⟩⟩
  choose! valueOf hspelled using hvalue
  exact ⟨valueOf, hspelled, fun type hmem => (hreadable type hmem).ne_base⟩

theorem Grammar.Compiles.parse_of_readable (hreadable : ∀ type ∈ types, registry.Readable type) :
    ∃ schema, Schema.parse grammar.text = .ok schema ∧ schema.tags = registry.tags := by
  obtain ⟨valueOf, hdeclarable⟩ := h.declarable_of_readable hD hreadable
  obtain ⟨schema, hparse, htags, -⟩ := hdeclarable.parse hR h
  exact ⟨schema, hparse, htags⟩

omit hR in
theorem Grammar.Compiles.readable_of_solid {type : ComponentType} (hmem : type ∈ types)
    (hbase : IsSolid (fragmentName type.base).toList) (hsolid : registry.Solid type) : registry.Readable type := by
  refine (h.readable_iff hD hmem).2 ⟨hsolid.identity, hsolid.ne_base, fun attributes hattributes => ?_⟩
  have hdefined := h.defined_fragmentOf hD hmem hattributes
  have hlegible : (fragmentOf type attributes).Legible := by
    refine ⟨isFragmentName_of_isName (isName_of_isSolid hdefined.name hsolid.identity), ?_, ?_, ?_, ?_⟩
    · intro base hmem
      have hname := hdefined.base base hmem
      obtain rfl := Option.some.inj hmem
      exact isFragmentName_of_isName (isName_of_isSolid hname hbase)
    · intro attr hattr
      exact isName_of_isSolid (hdefined.names attr hattr) (hsolid.attributes attributes hattributes attr hattr).1
    · intro attr hattr
      apply Attribute.isDefinition_definition
      rcases hdefined.tokens attr hattr with ⟨htext, -⟩ | ⟨hne, htokens⟩
      · exact .inl htext
      · refine .inr ⟨hne, fun token ht => isName_of_isSolid (htokens token ht) ?_⟩
        exact (hsolid.attributes attributes hattributes attr hattr).2 token ht
    · exact hD.nodup_attributes (h.collects.known type hmem) hattributes
  exact ⟨hlegible.composed.isLine_body.1, _, hlegible.spells_body⟩

omit hR in
theorem Grammar.Compiles.readable_of_bindsOnly_solid (hsolid : registry.BindsOnly registry.Solid) :
    registry.BindsOnly registry.Readable := by
  rw [h.bindsOnly_iff] at hsolid ⊢
  intro type hmem
  apply h.readable_of_solid hD hmem ?_ (hsolid type hmem)
  apply h.fragmentName_base (p := fun name => IsSolid name.toList) Grammar.universal_legible.name.isSolid ?_ hmem
  exact fun other hother => (hsolid other hother).identity

end

/-! ## Files -/

theorem run_outputPath_eq_ok_iff {env : Environment} {tree : FileTree} {output : Option Path} {path : Path}
    {log log' : List LogRecord} : (outputPath env tree output).run log = .ok path log' ↔
      env.grammarPath tree.currentPath? output = some path ∧ log = log' := by
  unfold outputPath
  cases env.grammarPath tree.currentPath? output with
  | none => exact iff_of_false (fun h => by cases h) (by simp)
  | some found => simp

/-- A compilation from inputs builds a registry, compiles its grammar and writes the text. -/
theorem compileFile_eq_ok_iff {env : Environment} {tree after : FileTree}
    {bindingsFile searchPath output : Option Path} {log : List LogRecord} {grammar : Grammar} {path : Path} :
    (∃ log', (compileFile env tree bindingsFile searchPath output).run log = .ok (grammar, path, after) log') ↔
      ∃ registry between, (buildRegistry tree bindingsFile searchPath).run log = .ok registry between ∧
        (∃ bench, Compile.grammar.run ⟨registry, between⟩ = .ok grammar bench) ∧
        env.grammarPath tree.currentPath? output = some path ∧ tree.writeText path grammar.text = .ok after := by
  simp only [compileFile, run_bind_eq_ok_iff, run_outputPath_eq_ok_iff]
  constructor
  · rintro ⟨_, registry, between, hbuild, ⟨compiled, left⟩, _, hcompile, found, _, ⟨hpath, rfl⟩, hwrite⟩
    cases hresult : tree.writeText found compiled.text with
    | error error =>
      rw [hresult] at hwrite
      cases hwrite
    | ok written =>
      rw [hresult] at hwrite
      cases hwrite
      exact ⟨registry, between, hbuild, ⟨_, run_runCompile_eq_ok_iff.1 hcompile⟩, hpath, hresult⟩
  · rintro ⟨registry, between, hbuild, ⟨⟨left, log⟩, hcompile⟩, hpath, hwrite⟩
    refine ⟨log ++ [⟨"compiler", .info, s!"Wrote grammar to {path}"⟩],
      registry, between, hbuild, (grammar, left), log,
      run_runCompile_eq_ok_iff.2 hcompile, path, log, ⟨hpath, rfl⟩, ?_⟩
    rw [hwrite]
    rfl

/-- What a compiled file is loaded from has been compiled from readable types. -/
theorem readable_of_loads {env : Environment} {tree after : FileTree} {bindingsFile searchPath output : Option Path}
    {log between log' : List LogRecord} {registry : Registry} {grammar : Grammar} {path : Path} {schema : Schema}
    {records : List LogRecord}
    (hbuild : (buildRegistry tree bindingsFile searchPath).run log = .ok registry between)
    (hrun : (compileFile env tree bindingsFile searchPath output).run log = .ok (grammar, path, after) log')
    (hloaded : loadSchema after path = .ok (schema, records)) : registry.BindsOnly registry.Readable := by
  obtain ⟨other, between', hbuild', ⟨bench, hcompile⟩, -, hwrite⟩ := compileFile_eq_ok_iff.1 ⟨log', hrun⟩
  obtain ⟨rfl, rfl⟩ := EStateM.Result.ok.inj (hbuild.symm.trans hbuild')
  obtain ⟨hR, hD⟩ := buildRegistry_sound hbuild
  obtain ⟨types, hcompiles⟩ := Compile.grammar_sound hR (answer_eq_ok_iff.2 ⟨bench, hcompile⟩)
  rw [hcompiles.bindsOnly_iff]
  exact hcompiles.readable_of_parse hR hD ((loadSchema_writeText hwrite schema).1 ⟨records, hloaded⟩)

/-- **A compiled file can be loaded exactly if it was compiled from readable types**, and then it has
the tags that were bound. Types of solid names are readable. -/
theorem compileFile_loads_iff {env : Environment} {tree after : FileTree}
    {bindingsFile searchPath output : Option Path} {log log' : List LogRecord} {grammar : Grammar} {path : Path}
    (h : (compileFile env tree bindingsFile searchPath output).run log = .ok (grammar, path, after) log') :
    ∃ registry between, (buildRegistry tree bindingsFile searchPath).run log = .ok registry between ∧
      ((∃ schema records, loadSchema after path = .ok (schema, records)) ↔
        registry.BindsOnly registry.Readable) ∧
      (∀ schema records, loadSchema after path = .ok (schema, records) → schema.tags = registry.tags) ∧
      (registry.BindsOnly registry.Solid → registry.BindsOnly registry.Readable) := by
  obtain ⟨registry, between, hbuild, ⟨bench, hrun⟩, -, hwrite⟩ := compileFile_eq_ok_iff.1 ⟨log', h⟩
  obtain ⟨hR, hD⟩ := buildRegistry_sound hbuild
  obtain ⟨types, hcompiles⟩ := Compile.grammar_sound hR (answer_eq_ok_iff.2 ⟨bench, hrun⟩)
  have hload := loadSchema_writeText hwrite
  have hparses : registry.BindsOnly registry.Readable →
      ∃ schema, Schema.parse grammar.text = .ok schema ∧ schema.tags = registry.tags :=
    fun hreadable => hcompiles.parse_of_readable hR hD (hcompiles.bindsOnly_iff.1 hreadable)
  refine ⟨registry, between, hbuild, ⟨?_, fun hreadable => ?_⟩, ?_, hcompiles.readable_of_bindsOnly_solid hD⟩
  · rintro ⟨schema, records, hloaded⟩
    exact readable_of_loads hbuild h hloaded
  · obtain ⟨schema, hparse, -⟩ := hparses hreadable
    exact ⟨schema, (hload schema).2 hparse⟩
  · intro schema records hloaded
    obtain ⟨other, hparse, htags⟩ := hparses (readable_of_loads hbuild h hloaded)
    obtain rfl := Except.ok.inj (hparse.symm.trans ((hload schema).1 ⟨records, hloaded⟩))
    exact htags

/-! ### The built-in vocabulary -/

theorem Registry.isName_of_domain {key token : String} {domain : Domain}
    (hdomain : (standard none).domain? key = some domain) (h : token ∈ domain.keys ∨ token ∈ domain.tokens) :
    isName token.toList = true := by
  have hbuiltin : domain ∈ Builtin.domains := by
    rcases domain?_standard hdomain with hbuiltin | ⟨_, hnone, -⟩
    · exact hbuiltin
    · cases hnone
  obtain ⟨-, hconstants⟩ := Builtin.domains_vetted domain hbuiltin
  rcases h with h | h
  · obtain ⟨constant, hc, rfl⟩ := List.mem_map.1 h
    exact isName_of_isPlainString (hconstants constant hc).2.1
  · obtain ⟨constant, hc, rfl⟩ := List.mem_map.1 h
    rw [(hconstants constant hc).2.2]
    exact isName_of_isPlainString (hconstants constant hc).2.1

theorem Registry.solid_of_mem_builtin {type : ComponentType} (hbuiltin : type ∈ Builtin.types) :
    (standard none).Solid type := by
  have hvetted := Builtin.types_vetted type hbuiltin
  refine ⟨isSolid_of_isName (isName_of_isPlainString hvetted.plain), hvetted.ne_baseFragment, ?_⟩
  intro attributes hattributes attr hattr
  have hextra : ∀ attr ∈ textInputAttributes, isName attr.name.toList = true ∧
      ∀ token ∈ attr.tokens, isName token.toList = true := by
    decide
  have hboolean : ∀ token ∈ booleanTokens, isName token.toList = true := by
    decide
  rcases Compile.mem_attributesOf hattributes hattr with hattr | ⟨property, hp, hderives⟩
  · obtain ⟨hname, htokens⟩ := hextra attr hattr
    exact ⟨isSolid_of_isName hname, fun token ht => isSolid_of_isName (htokens token ht)⟩
  · have hname := isName_of_isPlainString (hvetted.plain_properties property hp)
    refine ⟨hderives.name_eq ▸ isSolid_of_isName hname, fun token ht => isSolid_of_isName ?_⟩
    cases hderives with
    | text => cases ht
    | boolean => exact hboolean token ht
    | keys hdomain => exact isName_of_domain hdomain (.inl ht)
    | tokens hdomain => exact isName_of_domain hdomain (.inr ht)

/-- Built-in types are solid wherever they are known as they are. -/
theorem Registry.AgreesOn.solid_of_builtin {registry : Registry}
    (h : AgreesOn Builtin.Knows registry (standard none))
    (hR : registry.WellFormed) {identity : String} (hid : identity ∈ Builtin.types.map ComponentType.identity)
    {types : List ComponentType} (hline : answer (Registry.lineage identity) registry = .ok types) :
    ∀ type ∈ types, registry.Solid type := by
  intro type hmem
  obtain ⟨hp, hknown⟩ := h.of_chain hR (chain_of_lineage hline) (.inr hid) type hmem
  have hbuiltin : type ∈ Builtin.types := by
    rcases type?_standard (h.types type.identity hp ▸ hknown) with hbuiltin | ⟨-, _, hnone, -⟩
    · exact hbuiltin
    · cases hnone
  have hsolid := solid_of_mem_builtin hbuiltin
  refine ⟨hsolid.identity, hsolid.ne_base, fun attributes hattributes => hsolid.attributes attributes ?_⟩
  rw [← h.attributesOf hp hknown, hattributes]

theorem Registry.solid_standard : (standard none).BindsOnly (standard none).Solid := by
  intro binding hb types hline
  have hR : (standard none).WellFormed := wellFormed_standard (by simp)
  have hagrees : AgreesOn Builtin.Knows (standard none) (standard none) := agreesOn_builtin hR (.refl _)
  exact hagrees.solid_of_builtin hR (Builtin.bindings_bound binding (mem_bindings_standard hb)) hline

/-! ### A type from a definition file -/

/-- A registry that binds a tag to a type over a built-in one, and all other tags to built-in types. -/
structure Registry.Plugs (registry : Registry) (tag : String) (type : ComponentType) (attributes : List Attribute) :
    Prop where
  known : registry.type? type.identity = some type
  base : type.base ∈ Builtin.types.map ComponentType.identity
  attributesOf : registry.attributesOf type = .ok attributes
  bindings : registry.bindings = Builtin.bindings ++ [(tag, type.identity)]

namespace Registry.Plugs

variable {registry : Registry} {tag : String} {type : ComponentType} {attributes : List Attribute}
variable (h : registry.Plugs tag type attributes) (hR : registry.WellFormed)
variable (hagrees : AgreesOn Builtin.Knows registry (standard none))
include h hR hagrees

theorem exists_chain : ∃ types, Chain registry type.identity (type :: types) ∧ Chain registry type.base types ∧
    ∀ other ∈ types, ∃ attributes, registry.attributesOf other = .ok attributes := by
  obtain ⟨types, hchain, hattributes⟩ := hagrees.exists_attributes_builtin hR h.base
  exact ⟨types, .step (hR.type? h.known).2 h.known hchain, hchain, hattributes⟩

theorem exists_grammar (log : List LogRecord) :
    ∃ grammar, answer Compile.grammar ⟨registry, log⟩ = .ok grammar := by
  have hbench : (Workbench.mk registry log).registry.WellFormed := hR
  apply Compile.grammar_complete hbench
  intro binding hb
  rw [show (Workbench.mk registry log).registry.bindings = _ from h.bindings, List.mem_append,
    List.mem_singleton] at hb
  rcases hb with hb | rfl
  · exact hagrees.exists_attributes_builtin hR (Builtin.bindings_bound binding hb)
  · obtain ⟨types, hchain, -, hattributes⟩ := h.exists_chain hR hagrees
    exact ⟨_, hchain, List.forall_mem_cons.2 ⟨⟨attributes, h.attributesOf⟩, hattributes⟩⟩

/-- The registry binds solid types only if this one is solid. -/
theorem bindsOnly_solid (hsolid : registry.Solid type) : registry.BindsOnly registry.Solid := by
  intro binding hb types hline
  rw [h.bindings, List.mem_append, List.mem_singleton] at hb
  rcases hb with hb | rfl
  · exact hagrees.solid_of_builtin hR (Builtin.bindings_bound binding hb) hline
  · obtain ⟨above, hchain, hbase, -⟩ := h.exists_chain hR hagrees
    rw [lineage_of_chain hR hchain] at hline
    obtain rfl := Except.ok.inj hline
    refine List.forall_mem_cons.2 ⟨hsolid, hagrees.solid_of_builtin hR h.base (lineage_of_chain hR hbase)⟩

theorem readable_of_bindsOnly (hreadable : registry.BindsOnly registry.Readable) : registry.Readable type := by
  obtain ⟨types, hchain, -, -⟩ := h.exists_chain hR hagrees
  have hb : (tag, type.identity) ∈ registry.bindings := by simp [h.bindings]
  exact hreadable _ hb _ (lineage_of_chain hR hchain) type List.mem_cons_self

end Registry.Plugs

namespace Plugged

def tags : Path :=
  ⟨.here, ["tags"]⟩

def lib : Path :=
  ⟨.here, ["lib"]⟩

/-- A bindings file, and a directory of one definition file. -/
def tree (bindings definitions : String) : FileTree :=
  ⟨[], [(["tags"], .file bindings.toUTF8), (["lib"], .directory),
    (["lib", "plug.json"], .file definitions.toUTF8)]⟩

/-- A panel whose modes are an enumeration of its own. -/
def gauge : FileTree :=
  tree "gauge=acme.Gauge" <|
    "\x7b\"types\":[\x7b\"identity\":\"acme.Gauge\",\"base\":\"javax.swing.JPanel\",\"properties\":" ++
      "[\x7b\"name\":\"mode\",\"type\":\"enum\",\"domain\":\"M\"\x7d]\x7d]," ++
      "\"domains\":[\x7b\"key\":\"M\",\"constants\":[\x7b\"name\":\"TO_DO\"\x7d]\x7d]\x7d"

/-- A panel that is named like the base fragment. -/
def loader : FileTree :=
  tree "loader=org.httprpc.sierra.UILoader"
    "\x7b\"types\":[\x7b\"identity\":\"org.httprpc.sierra.UILoader\",\"base\":\"javax.swing.JPanel\"\x7d]\x7d"

/-- A panel with a name that falls into two words. -/
def separated : FileTree :=
  tree "gauge=acme.Gauge" <|
    "\x7b\"types\":[\x7b\"identity\":\"acme.Gauge\",\"base\":\"javax.swing.JPanel\",\"properties\":" ++
      "[\x7b\"name\":\"max\\u001fvalue\",\"type\":\"int\"\x7d]\x7d]\x7d"

/-- What is checked of the registry that the files lead to. -/
def plugs (registry : Registry) (tag : String) (type : ComponentType) (attributes : List Attribute) : Bool :=
  decide (registry.type? type.identity = some type) &&
    (Builtin.types.map ComponentType.identity).contains type.base &&
    decide ((registry.attributesOf type).toOption = some attributes) &&
    decide (registry.bindings = Builtin.bindings ++ [(tag, type.identity)])

theorem compiled {tree : FileTree} {tag : String} {type : ComponentType} {attributes : List Attribute}
    (h : ((answer (buildRegistry tree (some tags) (some lib)) []).toOption.any
      fun registry => plugs registry tag type attributes) = true)
    (hwritable : ∀ text, ∃ after, tree.writeText ⟨.root, ["grammar.dtd"]⟩ text = .ok after) :
    ∃ registry between grammar after log,
      (buildRegistry tree (some tags) (some lib)).run [] = .ok registry between ∧
      registry.Plugs tag type attributes ∧
      (compileFile ⟨.empty⟩ tree (some tags) (some lib) (some ⟨.root, ["grammar.dtd"]⟩)).run [] =
        .ok (grammar, ⟨.root, ["grammar.dtd"]⟩, after) log := by
  simp only [Option.any_eq_true, toOption_eq_some_iff, plugs, Bool.and_eq_true, decide_eq_true_eq,
    List.contains_iff_mem] at h
  obtain ⟨registry, hbuild, ⟨⟨hknown, hbase⟩, hattributes⟩, hbindings⟩ := h
  have hplugs : registry.Plugs tag type attributes := ⟨hknown, hbase, hattributes, hbindings⟩
  obtain ⟨between, hrun⟩ := answer_eq_ok_iff.1 hbuild
  have hpath : Environment.grammarPath ⟨.empty⟩ tree.currentPath? (some ⟨.root, ["grammar.dtd"]⟩) =
      some ⟨.root, ["grammar.dtd"]⟩ := rfl
  obtain ⟨hR, -⟩ := buildRegistry_sound hrun
  obtain ⟨grammar, hgrammar⟩ := hplugs.exists_grammar hR (buildRegistry_agreesOn hrun) between
  obtain ⟨after, hwrite⟩ := hwritable grammar.text
  obtain ⟨log, hcompile⟩ :=
    compileFile_eq_ok_iff.2 ⟨registry, between, hrun, answer_eq_ok_iff.1 hgrammar, hpath, hwrite⟩
  exact ⟨registry, between, grammar, after, log, hrun, hplugs, hcompile⟩

theorem writable {tree : FileTree} (hlocate : tree.locate ⟨.root, ["grammar.dtd"]⟩ = .ok ["grammar.dtd"])
    (hnode : tree.node? ["grammar.dtd"] = none) (text : String) :
    ∃ after, tree.writeText ⟨.root, ["grammar.dtd"]⟩ text = .ok after := by
  refine ⟨_, FileTree.write_eq_ok_iff.2 ⟨_, hlocate, ?_, rfl⟩⟩
  rw [FileTree.reached?_of_isAbsolute tree rfl, hnode]
  simp

/-- The files are compiled, but what is written cannot be loaded. -/
def Lost (tree : FileTree) : Prop :=
  ∃ grammar path after log,
    (compileFile ⟨.empty⟩ tree (some tags) (some lib) (some ⟨.root, ["grammar.dtd"]⟩)).run [] =
      .ok (grammar, path, after) log ∧
    ∀ schema records, loadSchema after path ≠ .ok (schema, records)

theorem lost_of_not_readable {tree : FileTree} {tag : String} {type : ComponentType} {attributes : List Attribute}
    (h : ((answer (buildRegistry tree (some tags) (some lib)) []).toOption.any
      fun registry => plugs registry tag type attributes) = true)
    (hwritable : ∀ text, ∃ after, tree.writeText ⟨.root, ["grammar.dtd"]⟩ text = .ok after)
    (hunreadable : ∀ registry : Registry, registry.attributesOf type = .ok attributes → ¬registry.Readable type) :
    Lost tree := by
  obtain ⟨registry, between, grammar, after, log, hbuild, hplugs, hrun⟩ := compiled h hwritable
  refine ⟨grammar, _, after, log, hrun, fun schema records hloaded => ?_⟩
  obtain ⟨hR, -⟩ := buildRegistry_sound hbuild
  apply hunreadable registry hplugs.attributesOf
  exact hplugs.readable_of_bindsOnly hR (buildRegistry_agreesOn hbuild) (readable_of_loads hbuild hrun hloaded)

end Plugged

open Plugged in
theorem compileFile_loads_plugged : ∃ grammar path after log schema records,
    (compileFile ⟨.empty⟩ gauge (some tags) (some lib) (some ⟨.root, ["grammar.dtd"]⟩)).run [] =
      .ok (grammar, path, after) log ∧
    loadSchema after path = .ok (schema, records) ∧ schema.tags = Builtin.bindings.map Prod.fst ++ ["gauge"] := by
  have hbuilt : ((answer (buildRegistry gauge (some tags) (some lib)) []).toOption.any fun registry =>
      plugs registry "gauge" ⟨"acme.Gauge", "javax.swing.JPanel", [⟨"mode", .enum, some "M"⟩]⟩
        [⟨"mode", .tokens, ["to-do"]⟩]) = true := by
    decide +kernel
  obtain ⟨registry, between, grammar, after, log, hbuild, hplugs, hrun⟩ :=
    compiled hbuilt (writable (by decide) (by decide))
  obtain ⟨hR, -⟩ := buildRegistry_sound hbuild
  have hsolid : registry.Solid ⟨"acme.Gauge", "javax.swing.JPanel", [⟨"mode", .enum, some "M"⟩]⟩ := by
    refine ⟨by decide, by decide, fun attributes hattributes => ?_⟩
    obtain rfl := Except.ok.inj (hplugs.attributesOf.symm.trans hattributes)
    decide
  obtain ⟨other, between', hbuild', hloads, htags, hreadable⟩ := compileFile_loads_iff hrun
  obtain ⟨rfl, rfl⟩ := EStateM.Result.ok.inj (hbuild.symm.trans hbuild')
  obtain ⟨schema, records, hloaded⟩ :=
    hloads.2 (hreadable (hplugs.bindsOnly_solid hR (buildRegistry_agreesOn hbuild) hsolid))
  refine ⟨grammar, _, after, log, schema, records, hrun, hloaded, (htags schema records hloaded).trans ?_⟩
  rw [show registry.tags = registry.bindings.map Prod.fst from rfl, hplugs.bindings, List.map_append]
  rfl

open Plugged in
/-- A type that is named like the base fragment is declared twice, and a name that falls into two words
leaves a definition without a name. -/
theorem compileFile_loses : Lost loader ∧ Lost separated := by
  have hloader : ((answer (buildRegistry loader (some tags) (some lib)) []).toOption.any fun registry =>
      plugs registry "loader" ⟨baseFragment, "javax.swing.JPanel", []⟩ []) = true := by
    decide +kernel
  have hseparated : ((answer (buildRegistry separated (some tags) (some lib)) []).toOption.any fun registry =>
      plugs registry "gauge" ⟨"acme.Gauge", "javax.swing.JPanel", [⟨"max\x1fvalue", .int, none⟩]⟩
        [⟨"max\x1fvalue", .text, []⟩]) = true := by
    decide +kernel
  constructor
  · exact lost_of_not_readable hloader (writable (by decide) (by decide)) fun _ _ hreadable =>
      hreadable.ne_base rfl
  · apply lost_of_not_readable hseparated (writable (by decide) (by decide))
    intro registry hattributes hreadable
    obtain ⟨definitions, hpairs, -⟩ := hreadable.pairs _ hattributes
    have hthree : ([⟨"max\x1fvalue", .text, []⟩].flatMap fun attr : Attribute =>
        words attr.name.toList ++ [attr.definition.toList]).length = 3 := by
      decide
    have heven := congrArg List.length hpairs
    rw [hthree, FragmentBody.length_pairWords] at heven
    omega

end TagGrammar
