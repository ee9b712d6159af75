import TagGrammar.Proofs.Compilation

/-!
# Registries of the built-in vocabulary

What a registry knows that starts from the built-in vocabulary, and that it has a grammar
(`grammar_standard`), whatever it falls back to.
-/

namespace TagGrammar.Registry

/-! ## What is known -/

section
variable {fallback : Option Registry}

theorem get?_types_standard {identity : String} {type : ComponentType} :
    (standard fallback).front.types.get? identity = some type ↔
      type ∈ Builtin.types ∧ type.identity = identity := by
  simp only [standard, withFallback, Table.get?_ofList_map Builtin.nodup_identities]

theorem get?_domains_standard {key : String} {domain : Domain} :
    (standard fallback).front.domains.get? key = some domain ↔ domain ∈ Builtin.domains ∧ domain.key = key := by
  simp only [standard, withFallback, Table.get?_ofList_map Builtin.nodup_keys]

theorem bindings_standard_eq : (standard fallback).bindings = Builtin.bindings :=
  Table.entries_ofList Builtin.nodup_tags

theorem mem_bindings_standard {binding : String × String} (h : binding ∈ (standard fallback).bindings) :
    binding ∈ Builtin.bindings := by
  rwa [bindings_standard_eq] at h

theorem mem_tags_standard {tag : String} (h : tag ∈ Builtin.bindings.map Prod.fst) :
    tag ∈ (standard fallback).tags := by
  simp only [standard, withFallback, tags]
  exact Table.mem_keys_ofList.2 h

theorem bindings_standard : (standard fallback).bindings = (standard none).bindings := rfl

theorem type?_standard_of_mem {type : ComponentType} (h : type ∈ Builtin.types) :
    (standard fallback).type? type.identity = some type := by
  rw [type?, layers, Layer.type?_cons, get?_types_standard.2 ⟨h, rfl⟩]
  rfl

theorem domain?_standard_of_mem {domain : Domain} (h : domain ∈ Builtin.domains) :
    (standard fallback).domain? domain.key = some domain := by
  rw [domain?, layers, Layer.domain?_cons, get?_domains_standard.2 ⟨h, rfl⟩]
  rfl

/-- A type is known from the built-in ones or, if it is none of them, from the fallback. -/
theorem type?_standard {identity : String} {type : ComponentType}
    (h : (standard fallback).type? identity = some type) :
    type ∈ Builtin.types ∨ (∀ other ∈ Builtin.types, other.identity ≠ identity) ∧
      ∃ registry ∈ fallback, registry.type? identity = some type := by
  rw [type?, layers, Layer.type?_cons] at h
  cases hget : (standard fallback).front.types.get? identity with
  | some found =>
    rw [hget] at h
    obtain rfl := Option.some.inj h
    exact .inl (get?_types_standard.1 hget).1
  | none =>
    rw [hget, Option.none_or] at h
    refine .inr ⟨fun other hother heq => ?_, ?_⟩
    · rw [get?_types_standard.2 ⟨hother, heq⟩] at hget
      cases hget
    · cases fallback with
      | none => cases h
      | some registry => exact ⟨registry, rfl, h⟩

theorem domain?_standard {key : String} {domain : Domain} (h : (standard fallback).domain? key = some domain) :
    domain ∈ Builtin.domains ∨ ∃ registry ∈ fallback, registry.domain? key = some domain := by
  rw [domain?, layers, Layer.domain?_cons] at h
  cases hget : (standard fallback).front.domains.get? key with
  | some found =>
    rw [hget] at h
    obtain rfl := Option.some.inj h
    exact .inl (get?_domains_standard.1 hget).1
  | none =>
    rw [hget, Option.none_or] at h
    cases fallback with
    | none => cases h
    | some registry => exact .inr ⟨registry, rfl, h⟩

/-! ## What is compiled -/

theorem exists_chain_standard {n : Nat} (hn : n < Builtin.types.length) : ∃ types,
    Chain (standard fallback) Builtin.types[n].identity types ∧ ∀ type ∈ types, type ∈ Builtin.types := by
  -- every base type stands at a smaller position
  induction n using Nat.strongRecOn with
  | ind n ih =>
    have hmem : Builtin.types[n] ∈ Builtin.types := List.getElem_mem hn
    obtain ⟨above, hchain, habove⟩ : ∃ above, Chain (standard fallback) Builtin.types[n].base above ∧
        ∀ type ∈ above, type ∈ Builtin.types := by
      rcases Builtin.bases_first ⟨n, hn⟩ with hroot | ⟨j, hj, heq⟩
      · exact ⟨[], hroot ▸ .root, by simp⟩
      · obtain ⟨above, hchain, habove⟩ := ih j hj j.isLt
        exact ⟨above, heq ▸ hchain, habove⟩
    refine ⟨_, .step (Builtin.types_vetted _ hmem).ne_rootType (type?_standard_of_mem hmem) hchain, ?_⟩
    exact List.forall_mem_cons.2 ⟨hmem, habove⟩

theorem domain?_standard_isSome {key : String} (h : key ∈ Builtin.domains.map Domain.key) :
    ((standard fallback).domain? key).isSome := by
  obtain ⟨domain, hmem, rfl⟩ := List.mem_map.1 h
  rw [domain?_standard_of_mem hmem]
  rfl

theorem exists_attributes_standard {identity : String} (h : identity ∈ Builtin.types.map ComponentType.identity) :
    ∃ types, Chain (standard fallback) identity types ∧
      ∀ type ∈ types, ∃ attributes, (standard fallback).attributesOf type = .ok attributes := by
  obtain ⟨type, hmem, heq⟩ := List.mem_map.1 h
  obtain ⟨i, hi, rfl⟩ := List.getElem_of_mem hmem
  obtain ⟨types, hchain, htypes⟩ : ∃ types, Chain (standard fallback) Builtin.types[i].identity types ∧
      ∀ type ∈ types, type ∈ Builtin.types := exists_chain_standard hi
  refine ⟨types, heq ▸ hchain, fun type hmem => ?_⟩
  apply Compile.exists_attributesOf
  · intro entry he
    exact domain?_standard_isSome (Builtin.selector_domains entry he)
  · intro property hp key hkey
    exact domain?_standard_isSome ((Builtin.types_vetted type (htypes type hmem)).domain_mem property hp key hkey)

/-- **The built-in vocabulary has a grammar.** -/
theorem grammar_standard (hfallback : ∀ other ∈ fallback, WellFormed other) (log : List LogRecord) :
    ∃ grammar, answer Compile.grammar ⟨standard fallback, log⟩ = .ok grammar := by
  have hR : (Workbench.mk (standard fallback) log).registry.WellFormed := wellFormed_standard hfallback
  apply Compile.grammar_complete hR
  intro binding hb
  exact exists_attributes_standard (Builtin.bindings_bound binding (mem_bindings_standard hb))

end

end TagGrammar.Registry
