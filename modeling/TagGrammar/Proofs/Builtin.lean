import Mathlib.Tactic.MkIffOfInductiveProp
import TagGrammar.Proofs.Definitions
import TagGrammar.Vocabulary.Components

/-!
# The built-in vocabulary

What is true of the built-in types, domains and tags by looking at them: they are defined, every
type comes after its base type, and every domain that a property names is there.
-/

namespace TagGrammar.Builtin

/-! ## By evaluation -/

/-- What is looked up about one built-in type. -/
@[mk_iff]
structure Vetted (type : ComponentType) : Prop where
  plain : isPlainString type.identity = true
  ne_rootType : type.identity ≠ rootType
  ne_baseFragment : type.identity ≠ baseFragment
  plain_properties : ∀ property ∈ type.properties, isPlainString property.name = true
  nodup_properties : (type.properties.map Property.name).Nodup
  domain_mem : ∀ property ∈ type.properties, ∀ key ∈ property.domain, key ∈ domains.map Domain.key
  textInput : type.identity = textInputType →
    ∀ property ∈ type.properties, property.name ∉ textInputAttributes.map Attribute.name

instance (type : ComponentType) : Decidable (Vetted type) :=
  decidable_of_iff' _ (vetted_iff type)

theorem types_vetted : ∀ type ∈ types, Vetted type := by
  decide +kernel

theorem domains_vetted : ∀ domain ∈ domains, domain.constants ≠ [] ∧ ∀ constant ∈ domain.constants,
    isPlainString constant.name = true ∧ isPlainString constant.key = true ∧ constant.token = constant.key := by
  decide +kernel

theorem nodup_identities : (types.map ComponentType.identity).Nodup := by
  simp [types]

theorem nodup_keys : (domains.map Domain.key).Nodup := by
  decide

theorem nodup_tags : (bindings.map Prod.fst).Nodup := by
  decide

/-- Every type comes after its base type. -/
theorem bases_first : ∀ i : Fin types.length, types[i].base = rootType ∨
    ∃ j < i, types[j].identity = types[i].base := by
  decide +kernel

theorem selector_domains : ∀ entry ∈ selectorDomains, entry.2 ∈ domains.map Domain.key := by
  decide

theorem plain_tags : ∀ binding ∈ bindings, isPlainString binding.1 = true := by
  decide +kernel

theorem bindings_bound : ∀ binding ∈ bindings, binding.2 ∈ types.map ComponentType.identity := by
  simp [bindings, types]

theorem textInputType_mem : textInputType ∈ types.map ComponentType.identity := by
  simp [textInputType, types]

/-! ## Names -/

theorem isName_tag {binding : String × String} (h : binding ∈ bindings) : isName binding.1.toList = true :=
  isName_of_isPlainString (plain_tags binding h)

theorem isDefinedName_of_isPlainString {s : String} (h : isPlainString s = true) :
    isDefinedName s.toList = true :=
  isDefinedName_of_isName (isName_of_isPlainString h)

theorem types_defined {type : ComponentType} (h : type ∈ types) : type.Defined := by
  have hvetted := types_vetted type h
  refine ⟨isDefinedName_of_isPlainString hvetted.plain, fun property hp => ?_, hvetted.nodup_properties⟩
  exact isDefinedName_of_isPlainString (hvetted.plain_properties property hp)

theorem domains_defined {domain : Domain} (h : domain ∈ domains) : domain.Defined := by
  obtain ⟨hne, hconstants⟩ := domains_vetted domain h
  refine ⟨hne, fun constant hc => ?_, fun constant hc => ?_⟩
  · exact isDefinedName_of_isPlainString (hconstants constant hc).1
  · exact isDefinedName_of_isPlainString (hconstants constant hc).2.1

end TagGrammar.Builtin
