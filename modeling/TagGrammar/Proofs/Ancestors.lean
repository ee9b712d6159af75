import TagGrammar.Proofs.Dependence
import TagGrammar.Proofs.Registry.Trail

/-!
# Bound types and their ancestors, bases first

`collectTypes` fails as the first bound type does that has no lineage. Otherwise it gives the types of
all lineages, each once, in strictly ascending order of depth and identity. A base type is less deep
than a type built on it, so it comes before it.
-/

namespace TagGrammar

/-! ## The first failure -/

section
variable {ε α β γ : Type}

/-- The first item of a list that fails, and how. -/
def FailsFirst (f : α → Except ε γ) (l : List α) (error : ε) : Prop :=
  ∃ before a after, l = before ++ a :: after ∧ (∀ b ∈ before, ∃ c, f b = .ok c) ∧ f a = .error error

theorem failsFirst_cons_iff {f : α → Except ε γ} {a : α} {l : List α} {error : ε} :
    FailsFirst f (a :: l) error ↔ f a = .error error ∨ (∃ c, f a = .ok c) ∧ FailsFirst f l error := by
  constructor
  · rintro ⟨before, b, after, heq, hbefore, hb⟩
    cases before with
    | nil =>
      obtain ⟨rfl, -⟩ := List.cons.inj heq
      exact .inl hb
    | cons first before =>
      obtain ⟨rfl, rfl⟩ := List.cons.inj heq
      rw [List.forall_mem_cons] at hbefore
      exact .inr ⟨hbefore.1, before, b, after, rfl, hbefore.2, hb⟩
  · rintro (ha | ⟨ha, before, b, after, rfl, hbefore, hb⟩)
    · exact ⟨[], a, l, rfl, by simp, ha⟩
    · exact ⟨a :: before, b, after, rfl, List.forall_mem_cons.2 ⟨ha, hbefore⟩, hb⟩

theorem not_failsFirst_nil {f : α → Except ε γ} {error : ε} : ¬ FailsFirst f [] error := by
  rintro ⟨before, a, after, heq, -⟩
  cases before <;> cases heq

theorem exists_failsFirst_iff {f : α → Except ε γ} {l : List α} :
    (∃ error, FailsFirst f l error) ↔ ∃ a ∈ l, ∃ error, f a = .error error := by
  induction l with
  | nil => simp [not_failsFirst_nil]
  | cons a l ih =>
    simp only [failsFirst_cons_iff, List.exists_mem_cons_iff, ← ih]
    cases f a <;> simp

theorem foldlM_eq_error_iff {f : α → Except ε γ} {add : β → γ → β} {l : List α} {b : β} {error : ε} :
    l.foldlM (fun b a => do return add b (← f a)) b = .error error ↔ FailsFirst f l error := by
  induction l generalizing b with
  | nil => simp [not_failsFirst_nil, pure, Except.pure]
  | cons a l ih =>
    rw [List.foldlM_cons, failsFirst_cons_iff]
    cases f a with
    | error other =>
      show Except.error other = _ ↔ _
      simp
    | ok c =>
      show l.foldlM _ (add b c) = _ ↔ _
      rw [ih]
      simp

end

namespace Compile

open Registry

section
variable {registry : Registry}

theorem collectTypes_eq_error_iff (hR : registry.WellFormed) {error : RegistryError} :
    answer collectTypes registry = .error error ↔
      FailsFirst (fun binding => answer (lineage binding.2) registry) registry.bindings error := by
  have hfirst := @foldlM_eq_error_iff _ _ _ _ (fun binding : String × String => answer (lineage binding.2) registry)
    addLineage registry.bindings .empty error
  cases hfold : registry.bindings.foldlM (fun collected binding => do
      return addLineage collected (← answer (lineage binding.2) registry)) .empty with
  | error other =>
    rw [← hfirst, hfold, answer_collectTypes, hfold]
    simp [bind, Except.bind]
  | ok collected =>
    -- every type collected is on a lineage, so looking up its depth does not fail
    have hcollected := collectedFor_foldlM hR collectedFor_nil hfold
    obtain ⟨types, htypes⟩ : ∃ types, answer collectTypes registry = .ok types := by
      apply collectTypes_complete hR
      intro binding hb
      obtain ⟨types, hline, -⟩ := hcollected.complete binding hb
      exact ⟨types, chain_of_lineage hline⟩
    rw [← hfirst, hfold, htypes]
    simp

/-! ## Order -/

def StrictlyPrecedes (registry : Registry) (type other : ComponentType) : Prop :=
  ∃ m n, answer (depth type.identity) registry = .ok m ∧ answer (depth other.identity) registry = .ok n ∧
    (m < n ∨ m = n ∧ type.identity < other.identity)

theorem Precedes.strictly {type other : ComponentType} (h : Precedes registry type other)
    (hne : type.identity ≠ other.identity) : StrictlyPrecedes registry type other := by
  obtain ⟨m, n, hm, hn, hlt | ⟨heq, hle⟩⟩ := h
  · exact ⟨m, n, hm, hn, .inl hlt⟩
  · have hlt : type.identity < other.identity := by
      by_contra hlt
      exact hne (String.le_antisymm hle (String.not_lt.1 hlt))
    exact ⟨m, n, hm, hn, .inr ⟨heq, hlt⟩⟩

theorem collectTypes_ascending (hR : registry.WellFormed) {types : List ComponentType}
    (h : answer collectTypes registry = .ok types) : types.Pairwise (StrictlyPrecedes registry) := by
  have hdistinct := List.pairwise_map.1 (collectTypes_sound hR h).nodup
  exact ((collectTypes_pairwise h).and hdistinct).imp fun hboth => hboth.1.strictly hboth.2

theorem depth_of_chain (hR : registry.WellFormed) {identity : String} {type : ComponentType}
    {above : List ComponentType} (h : Chain registry identity (type :: above)) :
    answer (depth type.identity) registry = .ok (above.length + 1) ∧
      answer (depth type.base) registry = .ok above.length := by
  cases h with
  | step hne htype hrest =>
    obtain ⟨rfl, -⟩ := hR.type? htype
    exact ⟨answer_depth_of_trail hR (trail_root_iff.2 (.step hne htype hrest)),
      answer_depth_of_trail hR (trail_root_iff.2 hrest)⟩

theorem Collects.base_before (hR : registry.WellFormed) {types before after : List ComponentType}
    {type : ComponentType} (h : Collects registry types) (hordered : types.Pairwise (StrictlyPrecedes registry))
    (hsplit : types = before ++ type :: after) (hroot : type.base ≠ rootType) :
    ∃ base ∈ before, base.identity = type.base := by
  have hmem : type ∈ types := by simp [hsplit]
  obtain ⟨base, hbasemem, hbase⟩ := List.mem_map.1 ((h.closed type hmem).resolve_left hroot)
  obtain ⟨_, _, lineage, hline, htype⟩ := h.origin type hmem
  obtain ⟨_, above, _, hchain, -⟩ := (chain_of_lineage hline).of_mem htype
  obtain ⟨hdepth, hdepthbase⟩ := depth_of_chain hR hchain
  rw [← hbase] at hdepthbase
  rw [hsplit, List.pairwise_append, List.pairwise_cons] at hordered
  rw [hsplit, List.mem_append, List.mem_cons] at hbasemem
  rcases hbasemem with hbefore | rfl | hafter
  · exact ⟨base, hbefore, hbase⟩
  · -- a type is not its own base type, because it would be less deep than itself
    have := Except.ok.inj (hdepth.symm.trans hdepthbase)
    omega
  · obtain ⟨m, n, hm, hn, hlt⟩ := hordered.2.1.1 base hafter
    have hm' := Except.ok.inj (hdepth.symm.trans hm)
    have hn' := Except.ok.inj (hdepthbase.symm.trans hn)
    omega

/-- **Collecting gives the ancestors of the bound types, bases first.** It fails exactly if a bound type
has no lineage, as the first of these does. -/
theorem collectTypes_ancestors (hR : registry.WellFormed) :
    (∀ error, answer collectTypes registry = .error error ↔
      FailsFirst (fun binding => answer (lineage binding.2) registry) registry.bindings error) ∧
    ((∃ error, answer collectTypes registry = .error error) ↔
      ∃ binding ∈ registry.bindings, ∃ error, answer (lineage binding.2) registry = .error error) ∧
    ∀ types, answer collectTypes registry = .ok types →
      (∀ type, type ∈ types ↔ ∃ binding ∈ registry.bindings, ∃ lineage,
        answer (Registry.lineage binding.2) registry = .ok lineage ∧ type ∈ lineage) ∧
      (types.map ComponentType.identity).Nodup ∧ rootType ∉ types.map ComponentType.identity ∧
      types.Pairwise (StrictlyPrecedes registry) ∧
      ∀ before type after, types = before ++ type :: after → type.base ≠ rootType →
        ∃ base ∈ before, base.identity = type.base := by
  refine ⟨fun error => collectTypes_eq_error_iff hR, ?_, fun types h => ?_⟩
  · simp only [collectTypes_eq_error_iff hR]
    exact exists_failsFirst_iff
  · have hcollects := collectTypes_sound hR h
    have hordered := collectTypes_ascending hR h
    refine ⟨fun type => hcollects.mem_iff, hcollects.nodup, ?_, hordered,
      fun before type after => hcollects.base_before hR hordered⟩
    intro hroot
    obtain ⟨type, hmem, hid⟩ := List.mem_map.1 hroot
    exact (hR.type? (hcollects.known type hmem)).2 hid

end

end Compile

section
open Registry

theorem Scattered.collectTypes_ancestors_gathered :
    gathered.WellFormed ∧ Tangled.registry.WellFormed ∧
    (∃ types, answer Compile.collectTypes gathered = .ok types ∧ widget ∈ types ∧
      (types.map ComponentType.identity).Nodup ∧ types.Pairwise (Compile.StrictlyPrecedes gathered) ∧
      ∀ before after, types = before ++ knob :: after → ∃ base ∈ before, base.identity = "Control") ∧
    answer Compile.collectTypes Tangled.registry = .error (.inheritanceCycle "Left") := by
  obtain ⟨types, htypes⟩ : ∃ types, answer Compile.collectTypes gathered = .ok types := by
    apply Compile.collectTypes_complete wellFormed.1
    exact List.forall_mem_cons.2 ⟨⟨_, chain_knob⟩, List.forall_mem_singleton.2 ⟨_, chain_control⟩⟩
  obtain ⟨hmem, hnodup, -, hordered, hbase⟩ := (Compile.collectTypes_ancestors wellFormed.1).2.2 types htypes
  have hwidget : widget ∈ types :=
    (hmem widget).2 ⟨("knob", "Knob"), by decide, _, lineage_of_chain wellFormed.1 chain_knob, by decide⟩
  have hfirst : FailsFirst (fun binding => answer (lineage binding.2) Tangled.registry) Tangled.registry.bindings
      (.inheritanceCycle "Left") := by
    refine ⟨[("button", "Button")], ("spin", "Spin"), [("drift", "Drift")], rfl, ?_, ?_⟩
    · exact List.forall_mem_singleton.2 ⟨_, lineage_of_trail Tangled.wellFormed Tangled.trail_button⟩
    · exact lineage_of_entersLoop Tangled.wellFormed Tangled.entersLoop_spin
  exact ⟨wellFormed.1, Tangled.wellFormed,
    ⟨types, htypes, hwidget, hnodup, hordered, fun before after hsplit =>
      hbase before knob after hsplit (by decide)⟩,
    ((Compile.collectTypes_ancestors Tangled.wellFormed).1 _).2 hfirst⟩

end

end TagGrammar
