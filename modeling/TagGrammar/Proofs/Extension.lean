import TagGrammar.Proofs.SharedTags

/-!
# Extensions of the built-in vocabulary

Definition files and a bindings file add to the built-in vocabulary and take nothing away from it.
What a definition file gives under a built-in identity or key is hidden by the built-in type or
domain, and binding a tag leaves all others in their places. So every tag that the bindings file
does not mention is shared with the built-in vocabulary (`buildRegistry_sharesTags`).
-/

namespace TagGrammar

open Registry

/-! ## Tags that are not mentioned -/

theorem Registry.preserves_filter_bindTag {keep : String → Bool} {tag : String} (h : keep tag = false)
    (identity : String) (bound : List (String × String)) :
    Preserves (fun registry => registry.bindings.filter (fun binding => keep binding.1) = bound)
      (bindTag tag identity) := by
  intro registry hbound
  unfold leaves
  rcases bindTag_cases tag identity registry with ⟨-, type, after, hrun, hbind⟩ | ⟨error, hbind⟩
  · have hafter := (resolve_transparent identity).keeps registry
    unfold leaves at hafter
    rw [hrun] at hafter
    rw [hbind]
    show (after.front.bindings.insert tag identity).entries.filter (fun binding => keep binding.1) = bound
    rw [Table.filter_entries_insert h, ← hbound, hafter.bindings]
    rfl
  · rw [hbind]
    exact hbound

/-- A tag that is not mentioned in the bindings file, if there is one. -/
def Unmentioned (tree : FileTree) (bindingsFile : Option Path) (tag : String) : Prop :=
  ∀ path ∈ bindingsFile, ∀ bindings, answer (loadBindings tree path) [] = .ok bindings → tag ∉ bindings.keys

theorem buildRegistry_sharesTags {tree : FileTree} {bindingsFile searchPath : Option Path} {log : List LogRecord}
    {registry : Registry} (hbuild : answer (buildRegistry tree bindingsFile searchPath) log = .ok registry)
    {tags : List String} (htags : ∀ tag ∈ tags, Unmentioned tree bindingsFile tag) :
    SharesTags Builtin.Knows tags registry (standard none) := by
  obtain ⟨after, hrun⟩ := answer_eq_ok_iff.1 hbuild
  have hagrees := buildRegistry_agreesOn hrun
  obtain ⟨fallback, bindings, between, -, hnone, hload, rfl⟩ := buildRegistry_cases hrun
  have hfree : ∀ tag ∈ bindings.keys, tags.contains tag = false := by
    intro tag hmem
    cases bindingsFile with
    | none =>
      rw [hnone rfl] at hmem
      cases hmem
    | some path =>
      have hnot : tag ∉ tags := fun htag => htags tag htag path rfl bindings (hload path rfl) hmem
      simpa using hnot
  have hkept : ∀ bound, Preserves (fun bench : Workbench =>
      bench.registry.bindings.filter (fun binding => tags.contains binding.1) = bound)
        (Compile.applyBindings bindings) :=
    fun bound => Compile.preserves_applyBindings_of_mem fun tag hmem identity =>
      preserves_filter_bindTag (hfree tag hmem) identity bound
  have hbindings := hkept _ ⟨standard fallback, between⟩ rfl
  rw [bindings_standard] at hbindings
  refine ⟨hagrees, hbindings, ?_⟩
  -- a binding of one of these tags has come through unchanged, so it is a built-in one
  intro binding hb htag
  have hmem : binding ∈ List.filter (fun binding => tags.contains binding.1) _ :=
    List.mem_filter.2 ⟨hb, by simpa using htag⟩
  rw [hbindings] at hmem
  exact .inr (Builtin.bindings_bound binding (mem_bindings_standard (List.mem_filter.1 hmem).1))

/-- **Extensions leave the built-in vocabulary as it is.** Tags that the bindings file does not mention
have the statements that they have without the extension, in the same order, and if the text of the
extended grammar has a schema, it says of these tags what the schema without the extension says. -/
theorem buildRegistry_conservative {tree : FileTree} {bindingsFile searchPath : Option Path}
    {log log' : List LogRecord} {registry : Registry} {grammar : Grammar}
    (hbuild : answer (buildRegistry tree bindingsFile searchPath) log = .ok registry)
    (hgrammar : answer Compile.grammar ⟨registry, log'⟩ = .ok grammar) {tags : List String}
    (htags : ∀ tag ∈ tags, tag ∈ Builtin.bindings.map Prod.fst ∧ Unmentioned tree bindingsFile tag) :
    ∃ builtin, answer Compile.grammar ⟨standard none, []⟩ = .ok builtin ∧
      grammar.statements.filter (registry.concerns tags) =
        builtin.statements.filter ((standard none).concerns tags) ∧
      ∀ schema, Schema.parse grammar.text = .ok schema → ∃ other, Schema.parse builtin.text = .ok other ∧
        ∀ tag ∈ tags, schema.SameFor other tag := by
  obtain ⟨after, hrun⟩ := answer_eq_ok_iff.1 hbuild
  obtain ⟨hR, hD⟩ := buildRegistry_sound hrun
  obtain ⟨builtin, hbuiltin⟩ : ∃ builtin, answer Compile.grammar ⟨standard none, []⟩ = .ok builtin :=
    grammar_standard (by simp) []
  have hshares := buildRegistry_sharesTags hbuild fun tag htag => (htags tag htag).2
  have hbound : ∀ tag ∈ tags, tag ∈ (standard none).tags := fun tag htag => mem_tags_standard (htags tag htag).1
  exact ⟨builtin, hbuiltin, hshares.conservative hR hD (wellFormed_standard (by simp))
    (defined_standard (by simp) (by simp)) solid_standard hbound hgrammar hbuiltin⟩

/-! ### An extension that repeats a built-in name -/

namespace Extended

/-- A new type, and one in the place of a built-in type that would be built on it. -/
def definitions : String :=
  "\x7b\"types\":[\x7b\"identity\":\"Gauge\"\x7d," ++
    "\x7b\"identity\":\"javax.swing.JLabel\",\"base\":\"Gauge\"\x7d]\x7d"

def tree : FileTree :=
  ⟨[], [(["tags"], .file "gauge=Gauge\nbutton=Gauge".toUTF8), (["lib"], .directory),
    (["lib", "gauge.json"], .file definitions.toUTF8)]⟩

theorem built : ∃ registry,
    answer (buildRegistry tree (some ⟨.here, ["tags"]⟩) (some ⟨.here, ["lib"]⟩)) [] = .ok registry ∧
      registry.type? "Gauge" = some ⟨"Gauge", rootType, []⟩ ∧
      ∀ binding ∈ registry.bindings, binding.2 = "Gauge" ∨ binding ∈ Builtin.bindings := by
  have h : ((answer (buildRegistry tree (some ⟨.here, ["tags"]⟩) (some ⟨.here, ["lib"]⟩)) []).toOption.any
      fun registry => decide (registry.type? "Gauge" = some ⟨"Gauge", rootType, []⟩) && registry.bindings.all
        fun binding => decide (binding.2 = "Gauge") || Builtin.bindings.contains binding) = true := by
    decide +kernel
  obtain ⟨registry, hbuild, htests⟩ := (Option.any_eq_true _ _).1 h
  exact ⟨registry, toOption_eq_some_iff.1 hbuild, by simpa using htests⟩

theorem unmentioned : ∀ tag ∈ ["label", "slider"], tag ∈ Builtin.bindings.map Prod.fst ∧
    Unmentioned tree (some ⟨.here, ["tags"]⟩) tag := by
  have hkeys : ((answer (loadBindings tree ⟨.here, ["tags"]⟩) []).toOption.all fun bindings =>
      decide (bindings.keys = ["gauge", "button"])) = true := by
    decide +kernel
  have htags : ∀ tag ∈ ["label", "slider"], tag ∈ Builtin.bindings.map Prod.fst ∧ tag ∉ ["gauge", "button"] := by
    decide
  intro tag htag
  refine ⟨(htags tag htag).1, fun path hpath bindings hload => ?_⟩
  obtain rfl := Option.some.inj hpath
  rw [hload] at hkeys
  rw [of_decide_eq_true hkeys]
  exact (htags tag htag).2

theorem compiles {registry : Registry}
    (hbuild : answer (buildRegistry tree (some ⟨.here, ["tags"]⟩) (some ⟨.here, ["lib"]⟩)) [] = .ok registry)
    (hgauge : registry.type? "Gauge" = some ⟨"Gauge", rootType, []⟩)
    (hbindings : ∀ binding ∈ registry.bindings, binding.2 = "Gauge" ∨ binding ∈ Builtin.bindings) :
    ∃ grammar, answer Compile.grammar ⟨registry, []⟩ = .ok grammar := by
  obtain ⟨after, hrun⟩ := answer_eq_ok_iff.1 hbuild
  have hR : (Workbench.mk registry []).registry.WellFormed := (buildRegistry_sound hrun).1
  have hshares := buildRegistry_sharesTags hbuild fun tag htag => (unmentioned tag htag).2
  apply Compile.grammar_complete hR
  intro binding hb
  rcases hbindings binding hb with hid | hbuiltin
  · rw [hid]
    exact ⟨_, .step (by decide) hgauge .root, List.forall_mem_singleton.2 ⟨_, rfl⟩⟩
  · exact hshares.exists_attributes_builtin hR (Builtin.bindings_bound binding hbuiltin)

end Extended

theorem Extended.conservative_label : ∃ registry grammar builtin,
    answer (buildRegistry tree (some ⟨.here, ["tags"]⟩) (some ⟨.here, ["lib"]⟩)) [] = .ok registry ∧
    answer Compile.grammar ⟨registry, []⟩ = .ok grammar ∧
    answer Compile.grammar ⟨standard none, []⟩ = .ok builtin ∧
    grammar.statements.filter (registry.concerns ["label", "slider"]) =
      builtin.statements.filter ((standard none).concerns ["label", "slider"]) ∧
    ∀ schema, Schema.parse grammar.text = .ok schema → ∃ other, Schema.parse builtin.text = .ok other ∧
      ∀ tag ∈ ["label", "slider"], schema.SameFor other tag := by
  obtain ⟨registry, hbuild, hgauge, hbindings⟩ := built
  obtain ⟨grammar, hgrammar⟩ := compiles hbuild hgauge hbindings
  obtain ⟨builtin, hbuiltin, hsame⟩ := buildRegistry_conservative hbuild hgrammar unmentioned
  exact ⟨registry, grammar, builtin, hbuild, hgrammar, hbuiltin, hsame⟩

end TagGrammar
