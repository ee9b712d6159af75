import TagGrammar.Proofs.BindingsFile
import TagGrammar.Proofs.Inputs

/-!
# Bindings of a built registry

A registry built with a bindings file binds the built-in tags, in their places, and after them the
new tags of the file in the order of its lines. It is not built if the file names a type that
neither the built-in vocabulary nor the search path knows (`buildRegistry_rebinds`).
-/

namespace TagGrammar

/-! ## Binding one tag after the other -/

namespace Registry

section
variable {tag identity : String} (htag : isName tag.toList = true) {registry : Registry}
include htag

theorem bindTag_of_known (h : (registry.type? identity).isSome) : ∃ after,
    (bindTag tag identity).run registry = .ok () after ∧ Layer.HoldsSame registry.layers after.layers ∧
      after.front.bindings = registry.front.bindings.insert tag identity := by
  have hsame := holdsSame_bindTag tag identity registry
  unfold leaves at hsame
  rw [bindTag_run htag] at hsame ⊢
  rcases resolve_run identity registry with ⟨type, after, hrun, -, hbound⟩ | ⟨-, hfind⟩
  · rw [hrun] at hsame ⊢
    have hbindings : after.front.bindings = registry.front.bindings := Table.ext hbound.symm
    exact ⟨_, rfl, hsame, by rw [← hbindings]; rfl⟩
  · have hnone : registry.type? identity = none := Layer.findType?_eq_none_iff.1 hfind
    rw [hnone] at h
    cases h

theorem answer_bindTag_of_unknown (h : registry.type? identity = none) :
    answer (bindTag tag identity) registry = .error (.unresolvedType identity) := by
  rcases resolve_run identity registry with ⟨type, after, -, hfind, -⟩ | ⟨hrun, -⟩
  · have hsome : registry.type? identity = some type := (Layer.findType?_sound hfind).1
    rw [h] at hsome
    cases hsome
  · rw [answer, bindTag_run htag, hrun]

end

def bindTags (bindings : List (String × String)) : RegistryM Unit :=
  bindings.forM fun binding => bindTag binding.1 binding.2

theorem bindTags_of_known {bindings : List (String × String)}
    (htags : ∀ binding ∈ bindings, isName binding.1.toList = true) {registry : Registry}
    (h : ∀ binding ∈ bindings, (registry.type? binding.2).isSome) : ∃ after,
      (bindTags bindings).run registry = .ok () after ∧ Layer.HoldsSame registry.layers after.layers ∧
        after.front.bindings =
          bindings.foldl (fun table binding => table.insert binding.1 binding.2) registry.front.bindings := by
  induction bindings generalizing registry with
  | nil => exact ⟨registry, rfl, .refl _, rfl⟩
  | cons binding rest ih =>
    rw [List.forall_mem_cons] at htags h
    obtain ⟨between, hrun, hsame, hbound⟩ := bindTag_of_known htags.1 h.1
    have hknown : ∀ binding ∈ rest, (between.type? binding.2).isSome := by
      intro other hother
      rw [type?, ← hsame.types]
      exact h.2 other hother
    obtain ⟨after, hrest, hkept, hentries⟩ := ih htags.2 hknown
    refine ⟨after, ?_, hsame.trans hkept, ?_⟩
    · exact run_bind_eq_ok_iff.2 ⟨(), between, hrun, hrest⟩
    · rw [hentries, hbound, List.foldl_cons]

theorem answer_bindTags_of_unknown {front back : List (String × String)} {binding : String × String}
    (htags : ∀ other ∈ front ++ binding :: back, isName other.1.toList = true) {registry : Registry}
    (hfront : ∀ other ∈ front, (registry.type? other.2).isSome) (h : registry.type? binding.2 = none) :
    answer (bindTags (front ++ binding :: back)) registry = .error (.unresolvedType binding.2) := by
  induction front generalizing registry with
  | nil =>
    show answer (bindTag binding.1 binding.2 >>= fun _ => bindTags back) registry = _
    rw [answer_bind, answer_bindTag_of_unknown (htags binding (by simp)) h]
    rfl
  | cons first front ih =>
    rw [List.cons_append, List.forall_mem_cons] at htags
    rw [List.forall_mem_cons] at hfront
    obtain ⟨between, hrun, hsame, -⟩ := bindTag_of_known htags.1 hfront.1
    have hknown : ∀ other ∈ front, (between.type? other.2).isSome := by
      intro other hother
      rw [type?, ← hsame.types]
      exact hfront.2 other hother
    have hunknown : between.type? binding.2 = none := (hsame.types binding.2).symm.trans h
    show answer (bindTag first.1 first.2 >>= fun _ => bindTags (front ++ binding :: back)) registry = _
    rw [answer_bind, answer_eq_ok_iff.2 ⟨between, hrun⟩, leaves, hrun]
    exact ih htags.2 hknown hunknown

end Registry

/-! ## The search path and the built-in vocabulary -/

/-- What is known of types before bindings are applied: the built-in ones, and those of the search path. -/
def KnowsType (loaded : Option Layer) (identity : String) : Prop :=
  identity ∈ Builtin.types.map ComponentType.identity ∨ ∃ layer ∈ loaded, identity ∈ layer.types.keys

def startingRegistry (loaded : Option Layer) : Registry :=
  Registry.standard (loaded.map fun layer => Registry.withFallback layer none)

theorem type?_startingRegistry_isSome_iff {loaded : Option Layer} {identity : String} :
    ((startingRegistry loaded).type? identity).isSome ↔ KnowsType loaded identity := by
  have hfront : identity ∈ (startingRegistry loaded).front.types.keys ↔
      identity ∈ Builtin.types.map ComponentType.identity := by
    simp only [startingRegistry, Registry.standard, Registry.withFallback, Table.mem_keys_ofList, List.map_map]
    rfl
  rw [← Registry.mem_knownIdentities, Registry.knownIdentities, Registry.layers, List.flatMap_cons, List.mem_append,
    hfront, KnowsType]
  apply or_congr_right
  cases loaded with
  | none => simp [startingRegistry, Registry.standard, Registry.withFallback]
  | some layer => simp [startingRegistry, Registry.standard, Registry.withFallback, Registry.layers]

theorem answer_runCompile {α : Type} (registry : Registry) (steps : CompileM α) (log : List LogRecord) :
    answer (runCompile registry steps) log =
      ((answer steps ⟨registry, log⟩).map fun value => (value, (leaves steps ⟨registry, log⟩).registry)).mapError
        InputError.registry := by
  unfold answer leaves runCompile
  simp only [EStateM.run]
  cases steps ⟨registry, log⟩ <;> rfl

theorem run_mapM_load {tree : FileTree} {searchPath : Option Path} {loaded : Option Layer} {log : List LogRecord}
    (h : answer (searchPath.mapM (SearchPath.load tree)) log = .ok loaded) : ∃ after,
      (searchPath.mapM fun path => do
        return Registry.withFallback (← SearchPath.load tree path) none : InputM (Option Registry)).run log =
          .ok (loaded.map fun layer => Registry.withFallback layer none) after := by
  obtain ⟨after, hrun⟩ := answer_eq_ok_iff.1 h
  refine ⟨after, ?_⟩
  cases searchPath with
  | none =>
    cases hrun
    rfl
  | some path =>
    simp only [Option.mapM_some, map_eq_pure_bind, run_bind_eq_ok_iff] at hrun ⊢
    obtain ⟨layer, _, hload, hlayer⟩ := hrun
    cases hlayer
    exact ⟨_, _, ⟨layer, _, hload, rfl⟩, rfl⟩

theorem answer_buildRegistry {tree : FileTree} {path : Path} {searchPath : Option Path} {loaded : Option Layer}
    {table : Table String} {log : List LogRecord}
    (hpath : answer (searchPath.mapM (SearchPath.load tree)) log = .ok loaded)
    (hload : ∀ log, (loadBindings tree path).run log = .ok table log) :
    answer (buildRegistry tree (some path) searchPath) log =
      ((answer (Registry.bindTags table.entries) (startingRegistry loaded)).map fun _ =>
        leaves (Registry.bindTags table.entries) (startingRegistry loaded)).mapError InputError.registry := by
  obtain ⟨after, hrun⟩ := run_mapM_load hpath
  obtain ⟨hanswer, hleaves⟩ := Compile.applyBindings_simulates table ⟨startingRegistry loaded, after⟩ _ rfl
  unfold buildRegistry
  rw [answer_bind_of_run hrun]
  dsimp only
  rw [answer_bind_of_run (hload after), answer_bind, answer_runCompile, ← startingRegistry, hanswer, hleaves,
    ← Registry.bindTags]
  cases answer (Registry.bindTags table.entries) (startingRegistry loaded) <;> rfl

/-! ## Building a registry -/

/-- **A bindings file extends the registry as it is written.** The file is loaded as the list of its
lines. The first of its types that is not known is reported; if all are known, the built-in tags keep
their places, those of the file are bound as it says, and the new ones follow in the order of the file. -/
theorem buildRegistry_rebinds {tree : FileTree} {path : Path} {bindings : List (String × String)} {text : String}
    (hfile : tree.find? path = .ok (some (.file text.toUTF8))) (htext : BindingsFile.States bindings text.toList)
    (hplain : ∀ binding ∈ bindings, BindingsFile.Plain binding) (hnodup : (bindings.map Prod.fst).Nodup)
    (log : List LogRecord) :
    (∃ table, (loadBindings tree path).run log = .ok table log ∧ table.entries = bindings) ∧
    ∀ searchPath loaded, answer (searchPath.mapM (SearchPath.load tree)) log = .ok loaded →
      (∀ front binding back, bindings = front ++ binding :: back → (∀ other ∈ front, KnowsType loaded other.2) →
        ¬ KnowsType loaded binding.2 →
        answer (buildRegistry tree (some path) searchPath) log = .error (.registry (.unresolvedType binding.2))) ∧
      ((∀ binding ∈ bindings, KnowsType loaded binding.2) → ∃ registry,
        answer (buildRegistry tree (some path) searchPath) log = .ok registry ∧
        registry.bindings =
          Builtin.bindings.map (fun bound => (bound.1, (bindings.lookup bound.1).getD bound.2)) ++
            bindings.filter fun binding => binding.1 ∉ Builtin.bindings.map Prod.fst) := by
  obtain ⟨table, hentries, hload⟩ := run_loadBindings hfile htext hplain hnodup
  refine ⟨⟨table, hload log, hentries⟩, fun searchPath loaded hpath => ?_⟩
  have htags : ∀ binding ∈ bindings, isName binding.1.toList = true := fun binding hb => (hplain binding hb).tag
  have hanswer := answer_buildRegistry hpath hload
  rw [hentries] at hanswer
  constructor
  · intro front binding back heq hfront hunknown
    rw [heq] at htags hanswer
    have hnone : (startingRegistry loaded).type? binding.2 = none := by
      rw [← Option.not_isSome_iff_eq_none, type?_startingRegistry_isSome_iff]
      exact hunknown
    rw [hanswer, Registry.answer_bindTags_of_unknown htags
      (fun other hother => type?_startingRegistry_isSome_iff.2 (hfront other hother)) hnone]
    rfl
  · intro hknown
    obtain ⟨after, hrun, -, hbound⟩ := Registry.bindTags_of_known htags
      fun binding hb => type?_startingRegistry_isSome_iff.2 (hknown binding hb)
    refine ⟨after, ?_, ?_⟩
    · rw [hanswer, answer_eq_ok_iff.2 ⟨after, hrun⟩, leaves, hrun]
      rfl
    · have hstart : (startingRegistry loaded).front.bindings.entries = Builtin.bindings :=
        Registry.bindings_standard_eq
      rw [Registry.bindings, hbound, Table.entries_foldl_insert_of_nodup hnodup, Table.keys, hstart]

/-! ### A type whose identity looks like a reference -/

namespace Priced

def price : String :=
  "$\x7bprice\x7d"

def label : String :=
  "javax.swing.JLabel"

def text : String :=
  "label=" ++ price ++ "\nprice=" ++ label

def bindings : List (String × String) :=
  [("label", price), ("price", label)]

def tags : Path :=
  ⟨.here, ["tags"]⟩

def lib : Path :=
  ⟨.here, ["lib"]⟩

def tree : FileTree :=
  ⟨[], [(["tags"], .file text.toUTF8), (["lib"], .directory),
    (["lib", "price.json"], .file ("\x7b\"types\":[\x7b\"identity\":\"" ++ price ++ "\"\x7d]\x7d").toUTF8)]⟩

theorem find?_tags : tree.find? tags = .ok (some (.file text.toUTF8)) := by
  have hlocate : tree.locate tags = .ok ["tags"] := by
    decide
  unfold FileTree.find?
  rw [hlocate]
  rfl

theorem states_text : BindingsFile.States bindings text.toList := by
  have htext : text.toList = BindingsFile.line ("label", price) ++ '\n' :: BindingsFile.line ("price", label) := by
    decide
  rw [htext]
  exact .line _ (.last _)

theorem loaded : ∃ layer, answer ((some lib).mapM (SearchPath.load tree)) [] = .ok (some layer) ∧
    layer.types.keys = [price] := by
  have h : ((answer ((some lib).mapM (SearchPath.load tree)) []).toOption.any
      fun loaded => loaded.any fun layer => layer.types.keys == [price]) = true := by
    decide +kernel
  generalize answer ((some lib).mapM (SearchPath.load tree)) [] = result at h ⊢
  rcases result with error | _ | layer
  · cases h
  · cases h
  · exact ⟨layer, rfl, by simpa [Except.toOption] using h⟩

theorem knowsType_label (loaded : Option Layer) : KnowsType loaded label := by
  left
  decide +kernel

theorem not_knowsType_price : ¬ KnowsType none price := by
  rintro (hbuiltin | ⟨layer, hlayer, -⟩)
  · revert hbuiltin
    decide +kernel
  · cases hlayer

end Priced

theorem Priced.buildRegistry_rebinds_label :
    answer (buildRegistry tree (some tags) none) [] = .error (.registry (.unresolvedType price)) ∧
    ∃ registry, answer (buildRegistry tree (some tags) (some lib)) [] = .ok registry ∧
      registry.bindings =
        Builtin.bindings.map (fun bound => if bound.1 = "label" then ("label", price) else bound) ++
          [("price", label)] := by
  have hrebinds := (buildRegistry_rebinds find?_tags states_text (by decide) (by decide) []).2
  constructor
  · exact (hrebinds none none rfl).1 [] ("label", price) _ rfl (by simp) not_knowsType_price
  · obtain ⟨layer, hload, hkeys⟩ := loaded
    have hknown : ∀ binding ∈ bindings, KnowsType (some layer) binding.2 := by
      refine List.forall_mem_cons.2 ⟨.inr ⟨layer, rfl, ?_⟩, List.forall_mem_singleton.2 (knowsType_label _)⟩
      simp [hkeys]
    obtain ⟨registry, hbuild, hbound⟩ := (hrebinds _ _ hload).2 hknown
    refine ⟨registry, hbuild, hbound.trans ?_⟩
    decide +kernel

end TagGrammar
