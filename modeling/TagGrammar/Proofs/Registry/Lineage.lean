import TagGrammar.Proofs.Registry.Invariant
import TagGrammar.Registry.Lineage

/-!
# Lineages by their chains

The lineage of an identity is the chain of known types from it up to the root type. Climbing the
chain looks every type up, so it is transparent, and its answer depends on the unvisited identities
only as a set.
-/

namespace TagGrammar.Registry

/-- The known types that base types lead through from an identity to the root type. -/
inductive Chain (registry : Registry) : String → List ComponentType → Prop where
  | root : Chain registry rootType []
  | step {identity : String} {type : ComponentType} {above : List ComponentType}
      (hne : identity ≠ rootType) (htype : registry.type? identity = some type)
      (hrest : Chain registry type.base above) : Chain registry identity (type :: above)

/-! ## Climbing -/

@[simp] theorem climb_root (unvisited : List String) : climb unvisited rootType = pure [] := by
  rw [climb, if_pos rfl]

theorem climb_eq (unvisited : List String) {identity : String} (hne : identity ≠ rootType) :
    climb unvisited identity = resolve identity >>= fun type =>
      if identity ∈ unvisited then
        climb (without identity unvisited) type.base >>= fun above => pure (type :: above)
      else throw (.inheritanceCycle identity) := by
  rw [climb, if_neg hne]
  rfl

theorem climb_transparent (unvisited : List String) (identity : String) :
    Transparent Agrees (climb unvisited identity) := by
  induction unvisited, identity using climb.induct with
  | case1 unvisited =>
    rw [climb_root]
    exact .pure agrees_equivalence []
  | case2 unvisited identity hne ih =>
    rw [climb_eq unvisited hne]
    refine (resolve_transparent identity).bind agrees_equivalence fun type => ?_
    split
    · rename_i hmem
      exact (ih type hmem).bind agrees_equivalence fun above => .pure agrees_equivalence (type :: above)
    · exact .throw agrees_equivalence _

/-- One step up: the answer of climbing from an identity, by the answer from its base type. -/
theorem answer_climb (unvisited : List String) {identity : String} (hne : identity ≠ rootType)
    (registry : Registry) : answer (climb unvisited identity) registry =
      match registry.type? identity with
      | none => .error (.unresolvedType identity)
      | some type =>
        if identity ∈ unvisited then
          (answer (climb (without identity unvisited) type.base) registry).map (type :: ·)
        else .error (.inheritanceCycle identity) := by
  have hnext : ∀ type : ComponentType, Transparent Agrees (if identity ∈ unvisited then
      climb (without identity unvisited) type.base >>= fun above => pure (type :: above)
      else throw (.inheritanceCycle identity)) := by
    intro type
    split
    · exact (climb_transparent _ _).bind agrees_equivalence fun above => .pure agrees_equivalence (type :: above)
    · exact .throw agrees_equivalence _
  rw [climb_eq unvisited hne, (resolve_transparent identity).answer_bind hnext, answer_resolve]
  cases registry.type? identity with
  | none => rfl
  | some type =>
    show answer (if identity ∈ unvisited then _ else _) registry = _
    by_cases hmem : identity ∈ unvisited
    · rw [if_pos hmem, (climb_transparent _ _).answer_bind fun above => .pure agrees_equivalence (type :: above)]
      simp only [hmem, if_true]
      cases answer (climb (without identity unvisited) type.base) registry <;> rfl
    · simp only [hmem, if_false]
      rfl

/-- Only which identities are unvisited matters. -/
theorem answer_climb_congr {unvisited others : List String} (h : ∀ name, name ∈ unvisited ↔ name ∈ others)
    (identity : String) (registry : Registry) :
    answer (climb unvisited identity) registry = answer (climb others identity) registry := by
  induction unvisited, identity using climb.induct generalizing others with
  | case1 unvisited => simp
  | case2 unvisited identity hne ih =>
    rw [answer_climb _ hne, answer_climb _ hne]
    cases registry.type? identity with
    | none => rfl
    | some type =>
      by_cases hmem : identity ∈ unvisited
      · have hwithout : ∀ name, name ∈ without identity unvisited ↔ name ∈ without identity others :=
          fun name => by rw [mem_without, mem_without, h]
        simp only [hmem, (h identity).1 hmem, if_true, ih type hmem hwithout]
      · simp only [hmem, mt (h identity).2 hmem, if_false]

/-! ## Lineages -/

theorem lineage_transparent (identity : String) : Transparent Agrees (lineage identity) := by
  refine Transparent.get_bind (fun registry => climb_transparent _ _) ?_
  intro registry other hagrees third
  refine answer_climb_congr (fun name => ?_) identity third
  simp [hagrees.type?]

theorem depth_transparent (identity : String) : Transparent Agrees (depth identity) :=
  (lineage_transparent identity).bind agrees_equivalence fun types => .pure agrees_equivalence types.length

theorem contentModel_transparent (identity : String) : Transparent Agrees (contentModel identity) :=
  (lineage_transparent identity).bind agrees_equivalence fun _ => .pure agrees_equivalence _

theorem chain_of_climb {registry : Registry} {unvisited : List String} {identity : String}
    {types : List ComponentType} (h : answer (climb unvisited identity) registry = .ok types) :
    Chain registry identity types := by
  induction unvisited, identity using climb.induct generalizing types with
  | case1 unvisited =>
    rw [climb_root] at h
    obtain rfl := Except.ok.inj h
    exact .root
  | case2 unvisited identity hne ih =>
    rw [answer_climb _ hne] at h
    cases htype : registry.type? identity with
    | none => simp [htype] at h
    | some type =>
      simp only [htype] at h
      split at h
      · rename_i hmem
        cases hrest : answer (climb (without identity unvisited) type.base) registry with
        | error error => simp [hrest, Except.map] at h
        | ok above =>
          simp only [hrest, Except.map, Except.ok.injEq] at h
          rw [← h]
          exact .step hne htype (ih type hmem hrest)
      · cases h

theorem chain_of_lineage {registry : Registry} {identity : String} {types : List ComponentType}
    (h : answer (lineage identity) registry = .ok types) : Chain registry identity types :=
  chain_of_climb h

/-- From every type of a chain, the rest of the chain leads up to the root type. -/
theorem Chain.of_mem {registry : Registry} {identity : String} {types : List ComponentType}
    (h : Chain registry identity types) {type : ComponentType} (hmem : type ∈ types) :
    ∃ name above, registry.type? name = some type ∧ Chain registry name (type :: above) ∧
      type :: above <:+ types := by
  induction h with
  | root => cases hmem
  | @step identity first above hne htype hrest ih =>
    rcases List.mem_cons.1 hmem with rfl | hmem
    · exact ⟨identity, above, htype, .step hne htype hrest, List.suffix_rfl⟩
    · obtain ⟨name, rest, hname, hchain, hsuffix⟩ := ih hmem
      exact ⟨name, rest, hname, hchain, hsuffix.trans (List.suffix_cons first above)⟩

theorem Chain.unique {registry : Registry} {identity : String} {types others : List ComponentType}
    (h : Chain registry identity types) (h' : Chain registry identity others) : types = others := by
  induction h generalizing others with
  | root =>
    cases h' with
    | root => rfl
    | step hne _ _ => exact absurd rfl hne
  | step hne htype _ ih =>
    cases h' with
    | root => exact absurd rfl hne
    | step _ htype' hrest' =>
      obtain rfl := Option.some.inj (htype.symm.trans htype')
      rw [ih hrest']

section
variable {registry : Registry} (hR : registry.WellFormed)
include hR

/-- A chain with an end does not come back to one of its types. -/
theorem Chain.nodup {identity : String} {types : List ComponentType} (h : Chain registry identity types) :
    (types.map ComponentType.identity).Nodup := by
  induction h with
  | root => exact List.nodup_nil
  | @step identity type above hne htype hrest ih =>
    rw [List.map_cons, List.nodup_cons]
    refine ⟨fun hmem => ?_, ih⟩
    obtain ⟨again, hagain, heq⟩ := List.mem_map.1 hmem
    obtain ⟨name, rest, hname, hchain, hsuffix⟩ := hrest.of_mem hagain
    have hsame : name = identity := by
      rw [← (hR.type? hname).1, heq, (hR.type? htype).1]
    -- the chain from the second occurrence would be the whole chain, but it is shorter
    have hlist := (hsame ▸ hchain).unique (.step hne htype hrest)
    have hlength := hsuffix.length_le
    rw [hlist, List.length_cons] at hlength
    omega

theorem climb_of_chain {unvisited : List String} {identity : String} {types : List ComponentType}
    (h : Chain registry identity types) (hnodup : (types.map ComponentType.identity).Nodup)
    (hin : ∀ type ∈ types, type.identity ∈ unvisited) :
    answer (climb unvisited identity) registry = .ok types := by
  induction h generalizing unvisited with
  | root =>
    rw [climb_root]
    rfl
  | @step identity type above hne htype _ ih =>
    rw [List.map_cons, List.nodup_cons] at hnodup
    have hid := (hR.type? htype).1
    have hmem : identity ∈ unvisited := hid ▸ hin type List.mem_cons_self
    have habove : ∀ other ∈ above, other.identity ∈ without identity unvisited := by
      intro other hother
      rw [mem_without]
      refine ⟨hin other (List.mem_cons_of_mem _ hother), fun heq => hnodup.1 ?_⟩
      rw [hid, ← heq]
      exact List.mem_map.2 ⟨other, hother, rfl⟩
    rw [answer_climb _ hne, htype]
    simp only [hmem, if_true, ih hnodup.2 habove]
    rfl

theorem lineage_of_chain {identity : String} {types : List ComponentType}
    (h : Chain registry identity types) : answer (lineage identity) registry = .ok types := by
  apply climb_of_chain hR h (h.nodup hR)
  intro type hmem
  obtain ⟨name, above, hname, -, -⟩ := h.of_mem hmem
  simp [(hR.type? hname).1, hname]

end

end TagGrammar.Registry
