import TagGrammar.Inputs
import TagGrammar.Proofs.Dependence
import TagGrammar.Proofs.Registry.Standard

/-!
# What inputs put into a registry

Registries built from a file tree know defined types and domains only, because the built-in ones are
defined and definition files are checked (`buildRegistry_sound`). So the attributes of their types
have defined names and tokens.
-/

namespace TagGrammar

/-! ## Registries of defined names -/

/-- A registry that knows defined types and domains only. What text inputs have besides their
properties adds no name twice. -/
structure Registry.Defined (registry : Registry) : Prop where
  types : ∀ identity type, registry.type? identity = some type → type.Defined
  domains : ∀ key domain, registry.domain? key = some domain → domain.Defined
  textInput : ∀ type, registry.type? textInputType = some type →
    ∀ property ∈ type.properties, property.name ∉ textInputAttributes.map Attribute.name

namespace Registry

theorem Defined.of_holdsSame {registry other : Registry} (h : registry.Defined)
    (hsame : Layer.HoldsSame registry.layers other.layers) : other.Defined := by
  have htype : ∀ identity, other.type? identity = registry.type? identity :=
    fun identity => (hsame.types identity).symm
  have hdomain : ∀ key, other.domain? key = registry.domain? key := fun key => (hsame.domains key).symm
  refine ⟨fun identity type hknown => ?_, fun key domain hknown => ?_, fun type hknown => ?_⟩
  · exact h.types identity type (htype identity ▸ hknown)
  · exact h.domains key domain (hdomain key ▸ hknown)
  · exact h.textInput type (htype textInputType ▸ hknown)

section
variable {registry : Registry} (h : registry.Defined) {type : ComponentType} {attributes : List Attribute}
variable (hknown : registry.type? type.identity = some type)
variable (hattributes : registry.attributesOf type = .ok attributes)
include h hknown hattributes

theorem Defined.attribute {attr : Attribute} (hattr : attr ∈ attributes) :
    isDefinedName attr.name.toList = true ∧ (attr.kind = .text ∧ attr.tokens = [] ∨ AreTokens attr.tokens) := by
  have hboolean : AreTokens booleanTokens := by
    unfold AreTokens
    decide
  have hextra : ∀ attr ∈ textInputAttributes, isDefinedName attr.name.toList = true ∧
      (attr.kind = .text ∧ attr.tokens = [] ∨ attr.tokens = booleanTokens) := by
    decide
  rcases Compile.mem_attributesOf hattributes hattr with hattr | ⟨property, hp, hderives⟩
  · obtain ⟨hname, htext | htokens⟩ := hextra attr hattr
    · exact ⟨hname, .inl htext⟩
    · exact ⟨hname, .inr (htokens ▸ hboolean)⟩
  · refine ⟨hderives.name_eq ▸ (h.types _ _ hknown).names property hp, ?_⟩
    cases hderives with
    | text => exact .inl ⟨rfl, rfl⟩
    | boolean => exact .inr hboolean
    | keys hdomain => exact .inr (h.domains _ _ hdomain).areTokens.1
    | tokens hdomain => exact .inr (h.domains _ _ hdomain).areTokens.2

theorem Defined.nodup_attributes : (attributes.map Attribute.name).Nodup := by
  obtain ⟨own, hnames, hall, rfl⟩ := Compile.attributesOf_sound hattributes
  have hown : (own.map Attribute.name).Nodup := hnames.nodup (h.types _ _ hknown).nodup
  by_cases htype : type.identity = textInputType
  · rw [if_pos htype, List.map_append, List.nodup_append]
    refine ⟨hown, by decide, fun name hname other hother heq => ?_⟩
    obtain ⟨property, hp, rfl⟩ := List.mem_map.1 (hnames.subset hname)
    rw [htype] at hknown
    exact h.textInput type hknown property hp (heq ▸ hother)
  · rw [if_neg htype]
    exact hown

end

@[simp] theorem type?_withFallback_none (layer : Layer) (identity : String) :
    (withFallback layer none).type? identity = layer.types.get? identity := by
  rw [type?, layers, withFallback, Layer.type?_cons]
  exact Option.or_none

@[simp] theorem domain?_withFallback_none (layer : Layer) (key : String) :
    (withFallback layer none).domain? key = layer.domains.get? key := by
  rw [domain?, layers, withFallback, Layer.domain?_cons]
  exact Option.or_none

/-! ## Bindings -/

theorem preserves_defined_bindTag (tag identity : String) : Preserves Defined (bindTag tag identity) :=
  fun registry h => h.of_holdsSame (holdsSame_bindTag tag identity registry)

theorem defined_standard {fallback : Option Registry}
    (htypes : ∀ registry ∈ fallback, ∀ identity type, registry.type? identity = some type → type.Defined)
    (hdomains : ∀ registry ∈ fallback, ∀ key domain, registry.domain? key = some domain → domain.Defined) :
    (standard fallback).Defined := by
  refine ⟨fun identity type hknown => ?_, fun key domain hknown => ?_, fun type hknown => ?_⟩
  · rcases type?_standard hknown with hmem | ⟨-, registry, hregistry, hknown⟩
    · exact Builtin.types_defined hmem
    · exact htypes registry hregistry identity type hknown
  · rcases domain?_standard hknown with hmem | ⟨registry, hregistry, hknown⟩
    · exact Builtin.domains_defined hmem
    · exact hdomains registry hregistry key domain hknown
  · -- the built-in text input hides any other
    obtain ⟨builtin, hmem, hid⟩ := List.mem_map.1 Builtin.textInputType_mem
    have hbuiltin : (standard fallback).type? builtin.identity = some builtin := type?_standard_of_mem hmem
    rw [hid, hknown] at hbuiltin
    obtain rfl := Option.some.inj hbuiltin
    exact (Builtin.types_vetted type hmem).textInput hid

end Registry

/-! ## Definition files -/

/-- A layer of defined types and domains that binds no tag. -/
structure Layer.Loaded (layer : Layer) : Prop where
  types : ∀ identity type, layer.types.get? identity = some type →
    type.identity = identity ∧ type.Defined ∧ identity ≠ rootType
  domains : ∀ key domain, layer.domains.get? key = some domain → domain.Defined
  unbound : layer.bindings = .empty

theorem Layer.Loaded.wellFormed {layer : Layer} (h : layer.Loaded) : layer.WellFormed := by
  constructor
  · intro identity type hget
    obtain ⟨hid, -, hroot⟩ := h.types identity type hget
    exact ⟨hid, hroot⟩
  · intro tag identity hget
    rw [h.unbound] at hget
    cases hget

namespace SearchPath

theorem addTypes_eq_ok_iff {path : Path} {added : List ComponentType} {types result : Table ComponentType} :
    addTypes path types added = .ok result ↔ types.Adds ComponentType.identity added result := by
  induction added generalizing types with
  | nil => simp [addTypes]
  | cons type rest ih =>
    rw [addTypes, Table.adds_cons_iff]
    by_cases hdefined : types.contains type.identity = true
    · simp [hdefined]
    · simp [hdefined, ih]

theorem addDomains_eq_ok_iff {path : Path} {added : List Domain} {domains result : Table Domain} :
    addDomains path domains added = .ok result ↔ domains.Adds Domain.key added result := by
  induction added generalizing domains with
  | nil => simp [addDomains]
  | cons domain rest ih =>
    rw [addDomains, Table.adds_cons_iff]
    by_cases hdefined : domains.contains domain.key = true
    · simp [hdefined]
    · simp [hdefined, ih]

/-- A layer that defines what the given files define, besides what another defines. -/
structure Extends (layer : Layer) (files : List DefinitionFile) (result : Layer) : Prop where
  types : layer.types.Adds ComponentType.identity (files.flatMap DefinitionFile.types) result.types
  domains : layer.domains.Adds Domain.key (files.flatMap DefinitionFile.domains) result.domains
  bindings : result.bindings = layer.bindings

theorem extends_of_addFile {layer result : Layer} {path : Path} {file : DefinitionFile}
    (h : addFile layer path file = .ok result) : Extends layer [file] result := by
  simp only [addFile, bind_eq_ok_iff, addTypes_eq_ok_iff, addDomains_eq_ok_iff] at h
  obtain ⟨types, htypes, domains, hdomains, heq⟩ := h
  obtain rfl := Except.ok.inj heq
  refine ⟨?_, ?_, rfl⟩
  · simpa using htypes
  · simpa using hdomains

theorem Extends.append {layer between result : Layer} {files others : List DefinitionFile}
    (h : Extends layer files between) (h' : Extends between others result) :
    Extends layer (files ++ others) result := by
  refine ⟨?_, ?_, h'.bindings.trans h.bindings⟩
  · rw [List.flatMap_append]
    exact h.types.append h'.types
  · rw [List.flatMap_append]
    exact h.domains.append h'.domains

theorem readFile_eq_ok_iff {tree : FileTree} {path : Path} {file : DefinitionFile} : readFile tree path = .ok file ↔
    ∃ text, tree.readText path = .ok text ∧ DefinitionFile.parse text = .ok file := by
  rw [readFile]
  cases tree.readText path with
  | error error => simp
  | ok text => cases hparse : DefinitionFile.parse text <;> simp [hparse]

theorem readFile_sound {tree : FileTree} {path : Path} {file : DefinitionFile}
    (h : readFile tree path = .ok file) : file.Lawful := by
  obtain ⟨text, -, hparse⟩ := readFile_eq_ok_iff.1 h
  obtain ⟨members, -, -, hlawful⟩ := DefinitionFile.parse_eq_ok_iff.1 hparse
  exact hlawful

theorem run_ofExcept_eq_ok_iff {ε σ α : Type} {result : Except ε α} {s t : σ} {value : α} :
    (MonadExcept.ofExcept result : EStateM ε σ α).run s = .ok value t ↔ result = .ok value ∧ s = t := by
  cases result with
  | error error =>
    constructor
    · intro h
      cases h
    · rintro ⟨h, -⟩
      cases h
  | ok found =>
    constructor
    · intro h
      cases h
      exact ⟨rfl, rfl⟩
    · rintro ⟨h, rfl⟩
      obtain rfl := Except.ok.inj h
      rfl

theorem extends_of_loadFiles {tree : FileTree} {paths : List Path} {layer result : Layer}
    {log after : List LogRecord}
    (h : (loadFiles tree layer paths).run log = .ok result after) :
    ∃ files, List.Forall₂ (fun path file => readFile tree path = .ok file) paths files ∧
      Extends layer files result := by
  induction paths generalizing layer log with
  | nil =>
    cases h
    exact ⟨[], .nil, Table.adds_nil_iff.2 rfl, Table.adds_nil_iff.2 rfl, rfl⟩
  | cons path rest ih =>
    simp only [loadFiles, run_bind_eq_ok_iff, run_ofExcept_eq_ok_iff] at h
    obtain ⟨file, _, ⟨hread, -⟩, next, _, ⟨hadd, -⟩, _, _, -, hrest⟩ := h
    obtain ⟨files, hfiles, hextends⟩ := ih hrest
    exact ⟨file :: files, .cons hread hfiles, (extends_of_addFile hadd).append hextends⟩

/-- What is loaded is what the files below the directory define. -/
theorem extends_of_load {tree : FileTree} {path : Path} {result : Layer} {log after : List LogRecord}
    (h : (load tree path).run log = .ok result after) :
    ∃ defined, List.Forall₂ (fun path file => readFile tree path = .ok file) (files tree path) defined ∧
      Extends .empty defined result := by
  unfold load at h
  split at h
  · cases h
  · exact extends_of_loadFiles h
  · cases h

theorem load_sound {tree : FileTree} {path : Path} {result : Layer} {log after : List LogRecord}
    (h : (load tree path).run log = .ok result after) : result.Loaded := by
  obtain ⟨defined, hread, hextends⟩ := extends_of_load h
  have hlawful : ∀ file ∈ defined, file.Lawful := by
    intro file hfile
    obtain ⟨path, -, hpath⟩ := exists_of_forall₂ hread.flip hfile
    exact readFile_sound hpath
  refine ⟨fun identity type hget => ?_, fun key domain hget => ?_, hextends.bindings⟩
  · rcases hextends.types.get?_iff.1 hget with hempty | ⟨hmem, rfl⟩
    · cases hempty
    · obtain ⟨file, hfile, htype⟩ := List.mem_flatMap.1 hmem
      have htype := (hlawful file hfile).types type htype
      exact ⟨rfl, htype.toDefined, htype.ne_root⟩
  · rcases hextends.domains.get?_iff.1 hget with hempty | ⟨hmem, -⟩
    · cases hempty
    · obtain ⟨file, hfile, hdomain⟩ := List.mem_flatMap.1 hmem
      exact ((hlawful file hfile).domains domain hdomain).toDefined

end SearchPath

/-! ## Bindings files -/

theorem answer_forM_record {α : Type} (source : String) (level : Level) (message : α → String) (items : List α)
    (log : List LogRecord) :
    answer (items.forM fun item => InputM.record source level (message item)) log = .ok () := by
  induction items generalizing log with
  | nil => rfl
  | cons item rest ih => exact ih _

/-- What a bindings file holds does not depend on what has been recorded before. -/
theorem answer_loadBindings (tree : FileTree) (path : Path) (log : List LogRecord) :
    answer (loadBindings tree path) log = answer (loadBindings tree path) [] := by
  unfold loadBindings
  split
  · rfl
  · split
    · rfl
    · unfold readBindings
      rw [answer_bind, answer_bind, answer_forM_record, answer_forM_record]
      apply bind_congr_of_ok
      intro _ _
      split <;> rfl
  · rfl

/-! ## Building a registry -/

theorem Layer.Loaded.standard {layer : Layer} (h : layer.Loaded) :
    (Registry.standard (some (Registry.withFallback layer none))).WellFormed ∧
      (Registry.standard (some (Registry.withFallback layer none))).Defined := by
  have hlayers : (Registry.withFallback layer none).layers = [layer] := rfl
  constructor
  · apply Registry.wellFormed_standard
    intro registry hregistry
    obtain rfl := Option.some.inj hregistry
    intro other hother
    rw [hlayers, List.mem_singleton] at hother
    exact hother ▸ h.wellFormed
  · apply Registry.defined_standard
    · intro registry hregistry identity type hknown
      obtain rfl := Option.some.inj hregistry
      exact (h.types identity type (by simpa using hknown)).2.1
    · intro registry hregistry key domain hknown
      obtain rfl := Option.some.inj hregistry
      exact h.domains key domain (by simpa using hknown)

theorem run_runCompile_eq_ok_iff {α : Type} {registry result : Registry} {steps : CompileM α} {value : α}
    {log after : List LogRecord} :
    (runCompile registry steps).run log = .ok (value, result) after ↔
      steps.run ⟨registry, log⟩ = .ok value ⟨result, after⟩ := by
  unfold runCompile
  simp only [EStateM.run]
  cases steps ⟨registry, log⟩ with
  | error error bench => simp
  | ok found bench =>
    obtain ⟨registry, log⟩ := bench
    simp [and_assoc]

/-- A registry that is built starts from the built-in vocabulary over what the search path defines, and
takes the bindings of the bindings file. -/
theorem buildRegistry_cases {tree : FileTree} {bindingsFile searchPath : Option Path}
    {log after : List LogRecord} {registry : Registry}
    (h : (buildRegistry tree bindingsFile searchPath).run log = .ok registry after) : ∃ fallback bindings between,
      (∀ other ∈ fallback, ∃ layer : Layer, layer.Loaded ∧ other = Registry.withFallback layer none) ∧
      (bindingsFile = none → bindings = .empty) ∧
      (∀ path ∈ bindingsFile, answer (loadBindings tree path) [] = .ok bindings) ∧
      (leaves (Compile.applyBindings bindings) ⟨Registry.standard fallback, between⟩).registry = registry := by
  simp only [buildRegistry, run_bind_eq_ok_iff] at h
  obtain ⟨fallback, between, hfallback, h⟩ := h
  have hloaded : ∀ other ∈ fallback, ∃ layer : Layer, layer.Loaded ∧ other = Registry.withFallback layer none := by
    cases searchPath with
    | none =>
      cases hfallback
      simp
    | some path =>
      simp only [Option.mapM_some, map_eq_pure_bind, run_bind_eq_ok_iff] at hfallback
      obtain ⟨loaded, _, ⟨layer, _, hload, hlayer⟩, hsome⟩ := hfallback
      cases hlayer
      cases hsome
      intro other hother
      exact ⟨layer, SearchPath.load_sound hload, (Option.some.inj hother).symm⟩
  refine ⟨fallback, ?_⟩
  generalize Registry.standard fallback = start at h ⊢
  cases bindingsFile with
  | none =>
    cases h
    exact ⟨.empty, [], hloaded, fun _ => rfl, by simp, rfl⟩
  | some path =>
    simp only [run_bind_eq_ok_iff] at h
    obtain ⟨bindings, log, hload, ⟨_, bound⟩, _, hrun, _, _, -, h⟩ := h
    cases h
    refine ⟨bindings, log, hloaded, by simp, ?_, ?_⟩
    · intro other hother
      obtain rfl := Option.some.inj hother
      rw [← answer_loadBindings tree path between]
      exact answer_eq_ok_iff.2 ⟨log, hload⟩
    · unfold leaves
      rw [run_runCompile_eq_ok_iff.1 hrun]

/-- **A registry built from inputs is well formed and knows defined types and domains only.** -/
theorem buildRegistry_sound {tree : FileTree} {bindingsFile searchPath : Option Path}
    {log after : List LogRecord} {registry : Registry}
    (h : (buildRegistry tree bindingsFile searchPath).run log = .ok registry after) :
    registry.WellFormed ∧ registry.Defined := by
  obtain ⟨fallback, bindings, between, hloaded, -, -, rfl⟩ := buildRegistry_cases h
  have hstandard : (Registry.standard fallback).WellFormed ∧ (Registry.standard fallback).Defined := by
    cases fallback with
    | none => exact ⟨Registry.wellFormed_standard (by simp), Registry.defined_standard (by simp) (by simp)⟩
    | some other =>
      obtain ⟨layer, hlayer, rfl⟩ := hloaded other rfl
      exact hlayer.standard
  have hbind : ∀ tag identity, Preserves (fun registry : Registry => registry.WellFormed ∧ registry.Defined)
      (Registry.bindTag tag identity) := fun tag identity registry h =>
    ⟨Registry.preserves_bindTag tag identity registry h.1,
      Registry.preserves_defined_bindTag tag identity registry h.2⟩
  exact Compile.preserves_applyBindings hbind bindings _ hstandard

/-! ## The built-in vocabulary among inputs -/

open Registry

/-- The root type and the built-in types. -/
def Builtin.Knows (identity : String) : Prop :=
  identity = rootType ∨ identity ∈ types.map ComponentType.identity

theorem Builtin.knows_base {type : ComponentType} (h : type ∈ types) : Knows type.base := by
  obtain ⟨i, hi, rfl⟩ := List.getElem_of_mem h
  rcases bases_first ⟨i, hi⟩ with hroot | ⟨j, -, hj⟩
  · exact .inl hroot
  · exact .inr (List.mem_map.2 ⟨_, List.getElem_mem j.isLt, hj⟩)

theorem Builtin.mem_domains_of_uses {type : ComponentType} (h : type ∈ types) {property : Property}
    (hp : property ∈ type.properties) {key : String} (huses : property.Uses key) :
    key ∈ domains.map Domain.key := by
  cases huses with
  | selector _ hkey =>
    obtain ⟨before, after, heq, -⟩ := List.lookup_eq_some_iff.1 hkey
    exact selector_domains (property.name, key) (by simp [heq])
  | enum _ hkey => exact (types_vetted type h).domain_mem property hp key hkey

/-- Nothing that is fallen back to shows in what is built in. -/
theorem Registry.agreesOn_builtin {fallback : Option Registry} {registry : Registry} (hR : registry.WellFormed)
    (hsame : Layer.HoldsSame (standard fallback).layers registry.layers) :
    AgreesOn Builtin.Knows registry (standard none) := by
  have htypes : ∀ type ∈ Builtin.types, registry.type? type.identity = some type := fun type hmem =>
    (hsame.types type.identity).symm.trans (type?_standard_of_mem hmem)
  have hbuiltin : ∀ identity type, Builtin.Knows identity → registry.type? identity = some type →
      type ∈ Builtin.types := by
    rintro identity type (rfl | hmem) htype
    · exact absurd rfl (hR.type? htype).2
    · obtain ⟨found, hfound, rfl⟩ := List.mem_map.1 hmem
      rw [← Option.some.inj ((htypes found hfound).symm.trans htype)]
      exact hfound
  refine ⟨?_, fun identity type hid htype => ?_, fun identity type hid htype property hp key huses => ?_⟩
  · rintro identity (rfl | hmem)
    · have hroot : ∀ other : Registry, other.WellFormed → other.type? rootType = none := by
        intro other hO
        cases htype : other.type? rootType with
        | none => rfl
        | some type => exact absurd rfl (hO.type? htype).2
      rw [hroot registry hR, hroot (standard none) (wellFormed_standard (by simp))]
    · obtain ⟨type, htype, rfl⟩ := List.mem_map.1 hmem
      rw [htypes type htype, type?_standard_of_mem htype]
  · exact Builtin.knows_base (hbuiltin identity type hid htype)
  · obtain ⟨domain, hdomain, rfl⟩ :=
      List.mem_map.1 (Builtin.mem_domains_of_uses (hbuiltin identity type hid htype) hp huses)
    rw [domain?_standard_of_mem hdomain]
    exact (hsame.domains domain.key).symm.trans (domain?_standard_of_mem hdomain)

theorem Registry.AgreesOn.exists_attributes_builtin {registry : Registry}
    (h : AgreesOn Builtin.Knows registry (standard none)) (hR : registry.WellFormed) {identity : String}
    (hid : identity ∈ Builtin.types.map ComponentType.identity) : ∃ types, Chain registry identity types ∧
      ∀ type ∈ types, ∃ attributes, registry.attributesOf type = .ok attributes := by
  obtain ⟨types, hchain, hattributes⟩ : ∃ types, Chain (standard none) identity types ∧
      ∀ type ∈ types, ∃ attributes, (standard none).attributesOf type = .ok attributes :=
    exists_attributes_standard hid
  have hline := lineage_of_chain (wellFormed_standard (by simp)) hchain
  rw [← h.lineage (.inr hid)] at hline
  refine ⟨types, chain_of_lineage hline, fun type htype => ?_⟩
  obtain ⟨hp, hknown⟩ := h.of_chain hR (chain_of_lineage hline) (.inr hid) type htype
  rw [h.attributesOf hp hknown]
  exact hattributes type htype

/-- Inputs add to the built-in vocabulary and change nothing of it. -/
theorem buildRegistry_agreesOn {tree : FileTree} {bindingsFile searchPath : Option Path}
    {log after : List LogRecord} {registry : Registry}
    (h : (buildRegistry tree bindingsFile searchPath).run log = .ok registry after) :
    AgreesOn Builtin.Knows registry (standard none) := by
  obtain ⟨hR, -⟩ := buildRegistry_sound h
  obtain ⟨fallback, bindings, between, -, -, -, rfl⟩ := buildRegistry_cases h
  have hsame : ∀ tag identity, Preserves (fun after : Registry =>
      Layer.HoldsSame (standard fallback).layers after.layers) (bindTag tag identity) :=
    fun tag identity registry h => h.trans (holdsSame_bindTag tag identity registry)
  exact agreesOn_builtin hR (Compile.preserves_applyBindings hsame bindings _ (.refl _))

end TagGrammar
