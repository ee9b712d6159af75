import TagGrammar.Grammar
import TagGrammar.Proofs.Registry.Invariant
import TagGrammar.Proofs.Registry.Lineage

/-!
# Collecting types

The types collected for a grammar are those of the lineages of the bound types. A lineage is added
only up to the first type that has been added before; this loses nothing, because what has been
added is closed under base types.
-/

namespace TagGrammar.Compile

open Registry

/-! ## Adding a lineage -/

theorem get?_addLineage {collected : Table ComponentType} {types : List ComponentType} {identity : String}
    {type : ComponentType} (h : collected.get? identity = some type) :
    (addLineage collected types).get? identity = some type := by
  induction types generalizing collected with
  | nil => exact h
  | cons first above ih =>
    rw [addLineage]
    by_cases hmem : collected.contains first.identity = true
    · rw [if_pos hmem]
      exact h
    · rw [if_neg hmem]
      apply ih
      have hne : identity ≠ first.identity := by
        rintro rfl
        exact hmem (Table.contains_iff.2 ((Table.get?_isSome_iff _ _).1 (by rw [h]; rfl)))
      simpa [hne] using h

theorem mem_of_get?_addLineage {collected : Table ComponentType} {types : List ComponentType}
    {identity : String} {type : ComponentType} (h : (addLineage collected types).get? identity = some type) :
    collected.get? identity = some type ∨ type ∈ types := by
  induction types generalizing collected with
  | nil => exact .inl h
  | cons first above ih =>
    rw [addLineage] at h
    by_cases hmem : collected.contains first.identity = true
    · rw [if_pos hmem] at h
      exact .inl h
    · rw [if_neg hmem] at h
      rcases ih h with hget | habove
      · by_cases hid : identity = first.identity <;> grind
      · exact .inr (List.mem_cons_of_mem _ habove)

/-- What has been collected is known, and closed under base types but for one that is pending. -/
structure ClosedBut (registry : Registry) (pending : String) (collected : Table ComponentType) : Prop where
  known : ∀ identity type, collected.get? identity = some type → registry.type? identity = some type
  closed : ∀ identity type, collected.get? identity = some type →
    type.base = rootType ∨ type.base ∈ collected.keys ∨ type.base = pending

section
variable {registry : Registry}

theorem ClosedBut.of_collected {pending : String} {collected : Table ComponentType}
    (h : ClosedBut registry pending collected) (hmem : pending ∈ collected.keys) :
    ClosedBut registry rootType collected := by
  refine ⟨h.known, fun identity type hget => ?_⟩
  rcases h.closed identity type hget with hroot | hbase | hbase
  · exact .inl hroot
  · exact .inr (.inl hbase)
  · exact .inr (.inl (hbase ▸ hmem))

/-- With a type, all of its chain has been collected. -/
theorem ClosedBut.get?_of_chain {collected : Table ComponentType} {identity : String}
    {types : List ComponentType} (h : ClosedBut registry rootType collected)
    (hR : registry.WellFormed) (hchain : Chain registry identity types)
    (hmem : identity = rootType ∨ identity ∈ collected.keys) :
    ∀ type ∈ types, collected.get? type.identity = some type := by
  induction hchain with
  | root => simp
  | @step identity type above hne htype _ ih =>
    obtain ⟨found, hfound⟩ := Table.mem_keys_iff.1 (hmem.resolve_left hne)
    have hget := Table.get?_eq_some_iff.2 hfound
    have heq : found = type := Option.some.inj ((h.known identity found hget).symm.trans htype)
    subst heq
    have hbase : found.base = rootType ∨ found.base ∈ collected.keys := by
      rcases h.closed identity found hget with hroot | hmem | hroot
      · exact .inl hroot
      · exact .inr hmem
      · exact .inl hroot
    intro other hother
    rcases List.mem_cons.1 hother with rfl | hother
    · rw [(hR.type? htype).1]
      exact hget
    · exact ih hbase other hother

theorem ClosedBut.addLineage {collected : Table ComponentType} {identity : String}
    {types : List ComponentType} (h : ClosedBut registry identity collected)
    (hR : registry.WellFormed) (hchain : Chain registry identity types) :
    ClosedBut registry rootType (addLineage collected types) ∧
      (identity = rootType ∨ identity ∈ (Compile.addLineage collected types).keys) := by
  induction hchain generalizing collected with
  | root => exact ⟨h, .inl rfl⟩
  | @step identity type above hne htype _ ih =>
    obtain ⟨rfl, -⟩ := hR.type? htype
    rw [Compile.addLineage]
    by_cases hmem : collected.contains type.identity = true
    · rw [if_pos hmem]
      have hkey := Table.contains_iff.1 hmem
      exact ⟨h.of_collected hkey, .inr hkey⟩
    · rw [if_neg hmem]
      have hkeys : ∀ key, key ∈ (collected.insert type.identity type).keys ↔
          key ∈ collected.keys ∨ key = type.identity := by
        intro key
        rw [Table.keys_insert, if_neg (mt Table.contains_iff.2 hmem)]
        simp
      have hnext : ClosedBut registry type.base (collected.insert type.identity type) := by
        constructor
        · exact Table.forall_get?_insert h.known htype
        · intro key found hget
          rw [Table.get?_insert] at hget
          by_cases hkey : key = type.identity
          · rw [if_pos hkey] at hget
            exact .inr (.inr (Option.some.inj hget ▸ rfl))
          · rw [if_neg hkey] at hget
            rw [hkeys]
            rcases h.closed key found hget with hroot | hbase | hbase
            · exact .inl hroot
            · exact .inr (.inl (.inl hbase))
            · exact .inr (.inl (.inr hbase))
      refine ⟨(ih hnext).1, .inr ?_⟩
      have hget : (collected.insert type.identity type).get? type.identity = some type := by
        simp
      exact (Table.get?_isSome_iff _ _).1 (by rw [get?_addLineage hget]; rfl)

/-! ## Adding the lineages of all bound types -/

structure CollectedFor (registry : Registry) (bindings : List (String × String))
    (collected : Table ComponentType) : Prop where
  closed : ClosedBut registry rootType collected
  origin : ∀ identity type, collected.get? identity = some type →
    ∃ binding ∈ bindings, ∃ types, answer (lineage binding.2) registry = .ok types ∧ type ∈ types
  complete : ∀ binding ∈ bindings, ∃ types, answer (lineage binding.2) registry = .ok types ∧
    ∀ type ∈ types, collected.get? type.identity = some type

theorem collectedFor_nil : CollectedFor registry [] .empty := by
  refine ⟨⟨fun _ _ h => ?_, fun _ _ h => ?_⟩, fun _ _ h => ?_, by simp⟩
  all_goals cases h

theorem CollectedFor.addLineage {bindings : List (String × String)} {collected : Table ComponentType}
    (h : CollectedFor registry bindings collected) (hR : registry.WellFormed)
    {binding : String × String} {types : List ComponentType}
    (hline : answer (lineage binding.2) registry = .ok types) :
    CollectedFor registry (bindings ++ [binding]) (addLineage collected types) := by
  have hchain := chain_of_lineage hline
  have hstart : ClosedBut registry binding.2 collected := by
    refine ⟨h.closed.known, fun identity type hget => ?_⟩
    rcases h.closed.closed identity type hget with hroot | hbase | hroot
    · exact .inl hroot
    · exact .inr (.inl hbase)
    · exact .inl hroot
  obtain ⟨hclosed, hmem⟩ := hstart.addLineage hR hchain
  refine ⟨hclosed, ?_, ?_⟩
  · intro identity type hget
    rcases mem_of_get?_addLineage hget with hold | hnew
    · obtain ⟨other, hother, horigin⟩ := h.origin identity type hold
      exact ⟨other, List.mem_append_left _ hother, horigin⟩
    · exact ⟨binding, by simp, types, hline, hnew⟩
  · intro other hother
    rcases List.mem_append.1 hother with hother | hother
    · obtain ⟨others, hothers, hall⟩ := h.complete other hother
      exact ⟨others, hothers, fun type ht => get?_addLineage (hall type ht)⟩
    · obtain rfl := List.mem_singleton.1 hother
      exact ⟨types, hline, hclosed.get?_of_chain hR hchain hmem⟩

theorem collectedFor_foldlM (hR : registry.WellFormed) {done rest : List (String × String)}
    {collected result : Table ComponentType} (h : CollectedFor registry done collected)
    (hfold : rest.foldlM (fun collected binding => do
      return addLineage collected (← answer (lineage binding.2) registry)) collected = .ok result) :
    CollectedFor registry (done ++ rest) result := by
  induction rest generalizing done collected with
  | nil =>
    obtain rfl := Except.ok.inj hfold
    rw [List.append_nil]
    exact h
  | cons binding rest ih =>
    simp only [List.foldlM_cons, bind_eq_ok_iff] at hfold
    obtain ⟨next, ⟨types, hline, hnext⟩, hrest⟩ := hfold
    obtain rfl := Except.ok.inj hnext
    have hadded := h.addLineage hR hline
    rw [List.append_cons]
    exact ih hadded hrest

end

/-! ## All types -/

theorem addBinding_transparent (collected : Table ComponentType) (binding : String × String) :
    Transparent Agrees (do return addLineage collected (← lineage binding.2)) :=
  (lineage_transparent binding.2).bind agrees_equivalence fun _ => .pure agrees_equivalence _

theorem rank_transparent (type : ComponentType) :
    Transparent Agrees (do return (← depth type.identity, type)) :=
  (depth_transparent type.identity).bind agrees_equivalence fun _ => .pure agrees_equivalence _

theorem rankAll_transparent (collected : Table ComponentType) : Transparent Agrees (do
    let ranked ← collected.values.mapM fun type => do return (← depth type.identity, type)
    return (ranked.mergeSort comesBefore).map Prod.snd) :=
  (Transparent.mapM agrees_equivalence rank_transparent _).bind agrees_equivalence
    fun _ => .pure agrees_equivalence _

theorem collectTypes_transparent : Transparent Agrees collectTypes := by
  refine Transparent.get_bind (fun registry => ?_) ?_
  · exact (Transparent.foldlM agrees_equivalence addBinding_transparent _ _).bind agrees_equivalence
      rankAll_transparent
  · intro registry other h third
    rw [h.bindings]

theorem answer_collectTypes (registry : Registry) : answer collectTypes registry = do
    let collected ← registry.bindings.foldlM (fun collected binding => do
      return addLineage collected (← answer (lineage binding.2) registry)) .empty
    let ranked ← collected.values.mapM fun type => do return (← answer (depth type.identity) registry, type)
    return (ranked.mergeSort comesBefore).map Prod.snd := by
  unfold collectTypes
  rw [answer_get_bind, (Transparent.foldlM agrees_equivalence addBinding_transparent _ _).answer_bind
    rankAll_transparent,
    Transparent.answer_foldlM agrees_equivalence addBinding_transparent]
  simp only [answer_bind_pure, Transparent.answer_mapM agrees_equivalence rank_transparent]

/-- What the types collected for a grammar are. -/
structure Collects (registry : Registry) (types : List ComponentType) : Prop where
  nodup : (types.map ComponentType.identity).Nodup
  known : ∀ type ∈ types, registry.type? type.identity = some type
  closed : ∀ type ∈ types, type.base = rootType ∨ type.base ∈ types.map ComponentType.identity
  origin : ∀ type ∈ types, ∃ binding ∈ registry.bindings, ∃ lineage,
    answer (Registry.lineage binding.2) registry = .ok lineage ∧ type ∈ lineage
  complete : ∀ binding ∈ registry.bindings, ∃ lineage,
    answer (Registry.lineage binding.2) registry = .ok lineage ∧ ∀ type ∈ lineage, type ∈ types

theorem Collects.mem_iff {registry : Registry} {types : List ComponentType} (h : Collects registry types)
    {type : ComponentType} : type ∈ types ↔ ∃ binding ∈ registry.bindings, ∃ lineage,
      answer (Registry.lineage binding.2) registry = .ok lineage ∧ type ∈ lineage := by
  constructor
  · exact h.origin type
  · rintro ⟨binding, hb, lineage, hline, htype⟩
    obtain ⟨others, hothers, hsub⟩ := h.complete binding hb
    obtain rfl := Except.ok.inj (hline.symm.trans hothers)
    exact hsub type htype

theorem collects_of_perm {registry : Registry} (hR : registry.WellFormed) {collected : Table ComponentType}
    (h : CollectedFor registry registry.bindings collected) {types : List ComponentType}
    (hperm : types.Perm collected.values) : Collects registry types := by
  have hget : ∀ type, type ∈ types ↔ collected.get? type.identity = some type := by
    intro type
    rw [hperm.mem_iff, Table.values, List.mem_map]
    constructor
    · rintro ⟨⟨identity, found⟩, hmem, rfl⟩
      have hfound := Table.get?_eq_some_iff.2 hmem
      rw [(hR.type? (h.closed.known identity found hfound)).1]
      exact hfound
    · intro hget
      exact ⟨_, Table.get?_eq_some_iff.1 hget, rfl⟩
  have hkeys : collected.values.map ComponentType.identity = collected.keys := by
    rw [Table.values, Table.keys, List.map_map]
    apply List.map_congr_left
    intro entry hmem
    exact (hR.type? (h.closed.known _ _ (Table.get?_eq_some_iff.2 hmem))).1
  have hidentities := hperm.map ComponentType.identity
  rw [hkeys] at hidentities
  refine ⟨hidentities.nodup_iff.2 collected.nodup, ?_, ?_, ?_, ?_⟩
  · intro type htype
    exact h.closed.known _ _ ((hget type).1 htype)
  · intro type htype
    rw [hidentities.mem_iff]
    rcases h.closed.closed _ _ ((hget type).1 htype) with hroot | hmem | hroot
    · exact .inl hroot
    · exact .inr hmem
    · exact .inl hroot
  · intro type htype
    exact h.origin _ _ ((hget type).1 htype)
  · intro binding hb
    obtain ⟨lineage, hline, hall⟩ := h.complete binding hb
    exact ⟨lineage, hline, fun type ht => (hget type).2 (hall type ht)⟩

theorem map_snd_ranked {registry : Registry} {types : List ComponentType} {ranked : List (Nat × ComponentType)}
    (h : types.mapM (fun type => do return (← answer (depth type.identity) registry, type)) = .ok ranked) :
    ranked.map Prod.snd = types := by
  induction mapM_eq_ok_iff.1 h with
  | nil => rfl
  | cons hpair hrest ih =>
    obtain ⟨depth, -, heq⟩ := bind_eq_ok_iff.1 hpair
    obtain rfl := Except.ok.inj heq
    rw [List.map_cons, ih (mapM_eq_ok_iff.2 hrest)]

/-- **Collecting gives the types of all lineages of bound types, each once.** -/
theorem collectTypes_sound {registry : Registry} (hR : registry.WellFormed) {types : List ComponentType}
    (h : answer collectTypes registry = .ok types) : Collects registry types := by
  simp only [answer_collectTypes, bind_eq_ok_iff] at h
  obtain ⟨collected, hfold, ranked, hranked, hsorted⟩ := h
  obtain rfl := Except.ok.inj hsorted
  have hcollected := collectedFor_foldlM hR collectedFor_nil hfold
  rw [List.nil_append] at hcollected
  apply collects_of_perm hR hcollected
  rw [← map_snd_ranked hranked]
  exact (List.mergeSort_perm ranked comesBefore).map Prod.snd

theorem exists_foldlM_addLineage {registry : Registry} (hR : registry.WellFormed)
    {bindings : List (String × String)} (h : ∀ binding ∈ bindings, ∃ types, Chain registry binding.2 types)
    (collected : Table ComponentType) : ∃ result, bindings.foldlM (fun collected binding => do
      return addLineage collected (← answer (lineage binding.2) registry)) collected = .ok result := by
  induction bindings generalizing collected with
  | nil => exact ⟨collected, rfl⟩
  | cons binding rest ih =>
    obtain ⟨types, hchain⟩ := h binding List.mem_cons_self
    rw [List.foldlM_cons, lineage_of_chain hR hchain]
    exact ih (fun b hb => h b (List.mem_cons_of_mem _ hb)) (addLineage collected types)

theorem collectTypes_complete {registry : Registry} (hR : registry.WellFormed)
    (h : ∀ binding ∈ registry.bindings, ∃ types, Chain registry binding.2 types) :
    ∃ types, answer collectTypes registry = .ok types := by
  obtain ⟨collected, hcollected⟩ := exists_foldlM_addLineage hR h .empty
  have hinv := collectedFor_foldlM hR collectedFor_nil hcollected
  have hdepth : ∀ type ∈ collected.values, ∃ ranked,
      (do return (← answer (depth type.identity) registry, type) : Except RegistryError _) = .ok ranked := by
    intro type hmem
    obtain ⟨entry, hentry, rfl⟩ := List.mem_map.1 hmem
    obtain ⟨binding, -, types, hline, htype⟩ := hinv.origin _ _ (Table.get?_eq_some_iff.2 hentry)
    obtain ⟨name, above, hname, hchain, -⟩ := (chain_of_lineage hline).of_mem htype
    rw [← (hR.type? hname).1] at hchain
    refine ⟨((entry.2 :: above).length, entry.2), ?_⟩
    simp [depth, lineage_of_chain hR hchain]
  obtain ⟨ranked, hranked⟩ := exists_mapM_ok hdepth
  refine ⟨(ranked.mergeSort comesBefore).map Prod.snd, ?_⟩
  rw [answer_collectTypes, hcollected]
  simp only [bind_eq_ok_iff]
  exact ⟨collected, rfl, ranked, hranked, rfl⟩

/-! ## The order of the types -/

/-- A type comes before another if it is less deep, or as deep with an identity that is not greater. -/
def Precedes (registry : Registry) (type other : ComponentType) : Prop :=
  ∃ m n, answer (depth type.identity) registry = .ok m ∧ answer (depth other.identity) registry = .ok n ∧
    (m < n ∨ m = n ∧ type.identity ≤ other.identity)

theorem comesBefore_iff {a b : Nat × ComponentType} :
    comesBefore a b = true ↔ a.1 < b.1 ∨ a.1 = b.1 ∧ a.2.identity ≤ b.2.identity := by
  simp [comesBefore]

theorem pairwise_mergeSort_comesBefore (ranked : List (Nat × ComponentType)) :
    (ranked.mergeSort comesBefore).Pairwise fun a b => comesBefore a b = true := by
  apply List.pairwise_mergeSort
  · intro a b c hab hbc
    rw [comesBefore_iff] at hab hbc ⊢
    rcases hab with hab | ⟨hab, hab'⟩ <;> rcases hbc with hbc | ⟨hbc, hbc'⟩
    · exact .inl (hab.trans hbc)
    · exact .inl (hbc ▸ hab)
    · exact .inl (hab ▸ hbc)
    · exact .inr ⟨hab.trans hbc, String.le_trans hab' hbc'⟩
  · intro a b
    rw [Bool.or_eq_true, comesBefore_iff, comesBefore_iff]
    rcases Nat.lt_trichotomy a.1 b.1 with hlt | heq | hgt
    · exact .inl (.inl hlt)
    · rcases String.le_total a.2.identity b.2.identity with hle | hle
      · exact .inl (.inr ⟨heq, hle⟩)
      · exact .inr (.inr ⟨heq.symm, hle⟩)
    · exact .inr (.inl hgt)

theorem collectTypes_pairwise {registry : Registry} {types : List ComponentType}
    (h : answer collectTypes registry = .ok types) : types.Pairwise (Precedes registry) := by
  simp only [answer_collectTypes, bind_eq_ok_iff] at h
  obtain ⟨collected, -, ranked, hranked, hsorted⟩ := h
  obtain rfl := Except.ok.inj hsorted
  have hrank : ∀ entry ∈ ranked, answer (depth entry.2.identity) registry = .ok entry.1 := by
    intro entry hentry
    obtain ⟨type, -, hpair⟩ := exists_of_forall₂ (mapM_eq_ok_iff.1 hranked).flip hentry
    obtain ⟨rank, hrank, heq⟩ := bind_eq_ok_iff.1 hpair
    obtain rfl := Except.ok.inj heq
    exact hrank
  rw [List.pairwise_map]
  refine (pairwise_mergeSort_comesBefore ranked).imp_of_mem fun {a b} ha hb hab => ?_
  rw [List.mem_mergeSort] at ha hb
  exact ⟨a.1, b.1, hrank a ha, hrank b hb, comesBefore_iff.1 hab⟩

/-- Types under distinct identities come in one order only. -/
theorem eq_of_pairwise_precedes {registry : Registry} {types others : List ComponentType}
    (hmem : ∀ type, type ∈ types ↔ type ∈ others) (hnodup : (types.map ComponentType.identity).Nodup)
    (hnodup' : (others.map ComponentType.identity).Nodup) (h : types.Pairwise (Precedes registry))
    (h' : others.Pairwise (Precedes registry)) : types = others := by
  have hperm : types.Perm others :=
    (List.perm_ext_iff_of_nodup hnodup.of_map hnodup'.of_map).2 hmem
  refine hperm.eq_of_pairwise (fun a b ha hb hab hba => ?_) h h'
  obtain ⟨m, n, hm, hn, hab⟩ := hab
  obtain ⟨n', m', hn', hm', hba⟩ := hba
  obtain rfl := Except.ok.inj (hm.symm.trans hm')
  obtain rfl := Except.ok.inj (hn.symm.trans hn')
  have hid : a.identity = b.identity := by
    rcases hab with hab | ⟨heq, hle⟩
    · omega
    · exact String.le_antisymm hle (hba.resolve_left (by omega)).2
  exact List.inj_on_of_nodup_map hnodup ha ((hmem b).2 hb) hid

end TagGrammar.Compile
