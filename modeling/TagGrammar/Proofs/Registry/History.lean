import TagGrammar.Proofs.Registry.Reference

/-!
# Registries over whole runs

A registry is created over others and then asked to do things, as are those it falls back to. Some
of what is asked of it fails. `Recorded` follows such a run together with the bindings that are
made on the way, layer by layer, and `Recorded.invariant` says what holds after it: every registry
of the chain is `Consistent`, and what has been resolved once stays as it is until it is registered
anew with the same registry.
-/

namespace TagGrammar.Registry

/-! ## Bindings on record -/

/-- The bindings of a list that are made, one after the other, up to the first that fails. -/
def bindingsMade : List (String × String) → Registry → List (String × String)
  | [], _ => []
  | binding :: rest, registry =>
    match answer (bindTag binding.1 binding.2) registry with
    | .ok _ => binding :: bindingsMade rest (leaves (bindTag binding.1 binding.2) registry)
    | .error _ => []

namespace Operation

/-- The bindings that an operation makes in the registry that it is asked of. -/
def binds : Operation → Registry → List (String × String)
  | bindTag tag identity, registry => bindingsMade [(tag, identity)] registry
  | applyBindings table, registry => bindingsMade table.entries registry
  | _, _ => []

/-- The bindings made in each layer of a chain, after one more operation. -/
def extend : Operation → Registry → List (List (String × String)) → List (List (String × String))
  | _, _, [] => []
  | inFallback operation, registry, own :: below =>
    match registry.fallback? with
    | none => own :: below
    | some fallback => own :: operation.extend fallback below
  | operation, registry, own :: below => (own ++ operation.binds registry) :: below

/-- An operation that is asked of a registry further down the chain. -/
def down : Nat → Operation → Operation
  | 0, operation => operation
  | n + 1, operation => inFallback (operation.down n)

end Operation

/-- The registries that come about, with the bindings that were made in each layer of their chain:
created over others, and changed by operations that succeed or fail. -/
inductive Recorded : Registry → List (List (String × String)) → Prop where
  | create {offers : List TypeOffer} {domains : List Domain} {fallback : Option Registry} {registry : Registry}
      {below : List (List (String × String))} (hfallback : ∀ other ∈ fallback, Recorded other below)
      (hnone : fallback = none → below = []) (h : Registry.create offers domains fallback = .ok registry) :
      Recorded registry ([] :: below)
  | standard {fallback : Option Registry} {below : List (List (String × String))}
      (hfallback : ∀ other ∈ fallback, Recorded other below) (hnone : fallback = none → below = []) :
      Recorded (Registry.standard fallback) (Builtin.bindings :: below)
  | perform {registry : Registry} {made : List (List (String × String))} (h : Recorded registry made)
      (operation : Operation) : Recorded (leaves operation.perform registry) (operation.extend registry made)

/-! ## Tables of bindings -/

def bindingTables (registry : Registry) : List (Table String) :=
  registry.layers.map Layer.bindings

theorem keptByLookups_bindingTables (tables : List (Table String)) :
    KeptByLookups fun registry => registry.bindingTables = tables := by
  have hmap : ∀ {layers others : List Layer}, Layer.Alike layers others →
      layers.map Layer.bindings = others.map Layer.bindings := by
    intro layers others h
    induction h with
    | nil => rfl
    | cons bindings _ _ ih => rw [List.map_cons, List.map_cons, bindings, ih]
  constructor
  · intro identity registry h
    exact (hmap ((keptByLookups_alike registry).resolve identity registry (Layer.Alike.refl _))).trans h
  · intro key registry h
    exact (hmap ((keptByLookups_alike registry).resolveDomain key registry (Layer.Alike.refl _))).trans h

theorem bindingTables_bindTag (tag identity : String) (registry : Registry) :
    (leaves (bindTag tag identity) registry).bindingTables =
      match answer (bindTag tag identity) registry with
      | .ok _ => registry.front.bindings.insert tag identity :: registry.fallbacks.map Layer.bindings
      | .error _ => registry.bindingTables := by
  unfold leaves answer
  rcases bindTag_cases tag identity registry with ⟨-, type, after, hrun, hbind⟩ | ⟨error, hbind⟩
  · have hafter := (keptByLookups_bindingTables registry.bindingTables).resolve identity registry rfl
    unfold leaves at hafter
    rw [hrun] at hafter
    obtain ⟨hfront, hrest⟩ := List.cons.inj hafter
    rw [hbind]
    show after.front.bindings.insert tag identity :: after.fallbacks.map Layer.bindings = _
    rw [hfront, hrest]
  · rw [hbind]

theorem bindingTables_forM {entries : List (String × String)} {registry : Registry} {own : List (String × String)}
    {below : List (Table String)} (h : registry.bindingTables = Table.ofList own :: below) :
    (leaves (entries.forM fun binding => bindTag binding.1 binding.2) registry).bindingTables =
      Table.ofList (own ++ bindingsMade entries registry) :: below := by
  induction entries generalizing registry own with
  | nil =>
    rw [bindingsMade, List.append_nil]
    exact h
  | cons binding rest ih =>
    obtain ⟨hfront, hrest⟩ := List.cons.inj h
    have hbind := bindingTables_bindTag binding.1 binding.2 registry
    rw [bindingsMade, List.forM, leaves_bind]
    cases hanswer : answer (bindTag binding.1 binding.2) registry with
    | error error =>
      rw [hanswer] at hbind
      simp only [List.append_nil]
      exact hbind.trans h
    | ok value =>
      rw [hanswer, hfront, hrest] at hbind
      show _ = Table.ofList (own ++ binding :: bindingsMade rest _) :: below
      rw [List.append_cons]
      apply ih
      rw [hbind, ← Table.ofList_concat]

theorem bindingTables_registerType (offer : TypeOffer) (registry : Registry) :
    (leaves (registerType offer) registry).bindingTables = registry.bindingTables := by
  unfold registerType
  by_cases hroot : offer.identity = rootType
  · rw [if_pos hroot]
    rfl
  · rw [if_neg hroot]
    cases offer.base <;> rfl

theorem bindingTables_perform {operation : Operation} {registry : Registry} {made : List (List (String × String))}
    (h : registry.bindingTables = made.map Table.ofList) :
    (leaves operation.perform registry).bindingTables = (operation.extend registry made).map Table.ofList := by
  induction operation generalizing registry made with
  | inFallback operation ih =>
    obtain ⟨front, fallbacks⟩ := registry
    cases made with
    | nil => cases h
    | cons own below =>
      cases fallbacks with
      | nil => exact h
      | cons layer rest =>
        obtain ⟨hfront, hrest⟩ := List.cons.inj h
        have hbelow : bindingTables ⟨layer, rest⟩ = below.map Table.ofList := hrest
        rw [Operation.perform, leaves_askFallback]
        exact congrArg₂ List.cons hfront (ih hbelow)
  | bindTag tag identity =>
    cases made with
    | nil => cases h
    | cons own below =>
      have hone : leaves ([(tag, identity)].forM fun binding => bindTag binding.1 binding.2) registry =
          leaves (bindTag tag identity) registry := by
        rw [List.forM, leaves_bind]
        cases answer (bindTag tag identity) registry <;> rfl
      rw [Operation.perform, leaves_bind_pure, ← hone]
      exact bindingTables_forM h
  | applyBindings table =>
    cases made with
    | nil => cases h
    | cons own below =>
      rw [Operation.perform, leaves_bind_pure, unrecorded_applyBindings]
      exact bindingTables_forM h
  | registerType offer =>
    rw [Operation.perform, leaves_bind_pure, bindingTables_registerType, h]
    cases made <;> simp [Operation.extend, Operation.binds]
  | registerDomain domain =>
    refine h.trans ?_
    cases made <;> simp [Operation.extend, Operation.binds]
  | _ =>
    refine ((keptByLookups_bindingTables _).perform rfl registry h).trans ?_
    cases made <;> simp [Operation.extend, Operation.binds]

theorem bindingTables_withFallback (front : Layer) (fallback : Option Registry) :
    (withFallback front fallback).bindingTables = front.bindings :: (fallback.map bindingTables).getD [] := by
  cases fallback <;> rfl

theorem bindingTables_create {offers : List TypeOffer} {domains : List Domain} {fallback : Option Registry}
    {registry : Registry} (h : create offers domains fallback = .ok registry) :
    registry.bindingTables = .empty :: (fallback.map bindingTables).getD [] := by
  have hkept : ∀ tables, Preserves (fun after : Registry => after.bindingTables = tables)
      (registerAll offers domains) := by
    intro tables
    have htypes : Preserves (fun after : Registry => after.bindingTables = tables) (offers.forM registerType) := by
      apply Preserves.forM
      intro offer between hbetween
      rw [bindingTables_registerType]
      exact hbetween
    apply htypes.bind
    intro _
    apply Preserves.forM
    exact fun domain between hbetween => hbetween
  rw [← create_leaves h]
  exact hkept _ _ (bindingTables_withFallback .empty fallback)

theorem getD_bindingTables {fallback : Option Registry} {below : List (List (String × String))}
    (h : ∀ other ∈ fallback, other.bindingTables = below.map Table.ofList) (hnone : fallback = none → below = []) :
    (fallback.map bindingTables).getD [] = below.map Table.ofList := by
  cases fallback with
  | none =>
    rw [hnone rfl]
    rfl
  | some other => exact h other rfl

theorem Recorded.bindingTables {registry : Registry} {made : List (List (String × String))}
    (h : Recorded registry made) : registry.bindingTables = made.map Table.ofList := by
  induction h with
  | create _ hnone h ih =>
    rw [bindingTables_create h, getD_bindingTables ih hnone]
    rfl
  | standard _ hnone ih =>
    rw [Registry.standard, bindingTables_withFallback, getD_bindingTables ih hnone, List.map_cons]
  | perform _ operation ih => exact bindingTables_perform ih

/-! ## Well-formedness -/

theorem preserves_perform (operation : Operation) : Preserves WellFormed operation.perform := by
  induction operation with
  | registerType offer => exact (preserves_registerType offer).bind fun _ => .pure _
  | registerDomain domain => exact (preserves_registerDomain domain).bind fun _ => .pure _
  | bindTag tag identity => exact (preserves_bindTag tag identity).bind fun _ => .pure _
  | applyBindings table => exact preserves_applyBindings preserves_bindTag table
  | inFallback operation ih =>
    rintro ⟨front, fallbacks⟩ h
    cases fallbacks with
    | nil => exact h
    | cons layer rest =>
      rw [Operation.perform, leaves_askFallback]
      exact wellFormed_mk h.front (ih ⟨layer, rest⟩ h.fallbacks)
  | _ => exact KeptByLookups.perform ⟨preserves_resolve, preserves_resolveDomain⟩ rfl

theorem Recorded.wellFormed {registry : Registry} {made : List (List (String × String))}
    (h : Recorded registry made) :
    registry.WellFormed := by
  induction h with
  | create _ _ h ih => exact wellFormed_create ih h
  | standard _ _ ih => exact wellFormed_standard ih
  | perform _ operation ih => exact preserves_perform operation _ ih

/-! ## Consistency -/

/-- What holds of a registry in which the given bindings were made, one after the other. -/
structure Consistent (registry : Registry) (made : List (String × String)) : Prop where
  types : ∀ identity type, registry.front.types.get? identity = some type →
    type.identity = identity ∧ identity ≠ rootType
  refuses : ∀ offer : TypeOffer, offer.identity = rootType ∨ offer.base = none →
    ∃ error, (registerType offer).run registry = .error error registry
  names : ∀ tag ∈ registry.tags, isName tag.toList = true
  held : ∀ tag identity, registry.front.bindings.get? tag = some identity → identity ∈ registry.front.types.keys
  typeFor : ∀ tag ∈ registry.tags, ∃ type, (typeFor tag).run registry = .ok type registry
  tags : registry.tags = (made.map Prod.fst).eraseDups
  bindings : ∀ tag, registry.front.bindings.get? tag = made.reverse.lookup tag

theorem registerType_refuses {offer : TypeOffer} (h : offer.identity = rootType ∨ offer.base = none)
    (registry : Registry) : ∃ error, (registerType offer).run registry = .error error registry := by
  unfold registerType
  by_cases hroot : offer.identity = rootType
  · rw [if_pos hroot]
    exact ⟨_, rfl⟩
  · rw [if_neg hroot, h.resolve_left hroot]
    exact ⟨_, rfl⟩

theorem resolve_of_front {registry : Registry} {identity : String} {type : ComponentType}
    (h : registry.front.types.get? identity = some type) : (resolve identity).run registry = .ok type registry := by
  simp only [resolve, EStateM.run_bind, EStateM.run_get, h]
  rfl

theorem WellFormed.consistent {registry : Registry} (h : registry.WellFormed) {made : List (String × String)}
    (hmade : registry.front.bindings = Table.ofList made) : registry.Consistent made := by
  have hbound : ∀ tag ∈ registry.tags, ∃ identity, registry.front.bindings.get? tag = some identity :=
    fun tag htag => Option.isSome_iff_exists.1 ((Table.get?_isSome_iff _ _).2 htag)
  refine ⟨h.front.types, fun offer hoffer => registerType_refuses hoffer registry, ?_, ?_, ?_, ?_, ?_⟩
  · intro tag htag
    obtain ⟨identity, hget⟩ := hbound tag htag
    exact (h.front.bindings tag identity hget).1
  · exact fun tag identity hget => (h.front.bindings tag identity hget).2
  · intro tag htag
    obtain ⟨identity, hget⟩ := hbound tag htag
    obtain ⟨type, htype⟩ := Table.mem_keys_iff.1 (h.front.bindings tag identity hget).2
    refine ⟨type, ?_⟩
    have hresolve := resolve_of_front (Table.get?_eq_some_iff.2 htype)
    simpa only [Registry.typeFor, EStateM.run_bind, EStateM.run_get, hget] using hresolve
  · rw [Registry.tags, hmade, Table.keys_ofList]
  · intro tag
    rw [hmade, Table.get?_ofList]

/-- A registry and those it falls back to. -/
def chain (registry : Registry) : List Registry :=
  go registry.layers
where
  go : List Layer → List Registry
    | [] => []
    | front :: fallbacks => ⟨front, fallbacks⟩ :: go fallbacks

theorem consistent_chain {layers : List Layer} {made : List (List (String × String))}
    (h : ∀ layer ∈ layers, layer.WellFormed) (hmade : layers.map Layer.bindings = made.map Table.ofList) :
    List.Forall₂ Consistent (chain.go layers) made := by
  induction layers generalizing made with
  | nil =>
    cases made with
    | nil => exact .nil
    | cons own below => cases hmade
  | cons layer rest ih =>
    cases made with
    | nil => cases hmade
    | cons own below =>
      obtain ⟨hfront, hrest⟩ := List.cons.inj hmade
      have hlayer : WellFormed ⟨layer, rest⟩ := h
      exact .cons (hlayer.consistent hfront) (ih hlayer.fallbacks hrest)

/-! ## What stays as it is -/

/-- Whether the layer with the given number holds the type under the identity. -/
def HoldsType (identity : String) (type : ComponentType) : Nat → List Layer → Prop
  | _, [] => False
  | 0, layer :: _ => layer.types.get? identity = some type
  | level + 1, _ :: rest => HoldsType identity type level rest

section
variable {identity : String} {type : ComponentType} {level : Nat}

theorem HoldsType.front {front changed : Layer} {fallbacks : List Layer}
    (h : HoldsType identity type level (front :: fallbacks))
    (hfront : level = 0 → front.types.get? identity = some type → changed.types.get? identity = some type) :
    HoldsType identity type level (changed :: fallbacks) := by
  cases level with
  | zero => exact hfront rfl h
  | succ level => exact h

theorem HoldsType.findType? {key : String} {found : ComponentType} {layers kept : List Layer}
    (h : HoldsType identity type level layers) (hfind : Layer.findType? key layers = some (found, kept)) :
    HoldsType identity type level kept := by
  induction layers generalizing level kept with
  | nil => cases hfind
  | cons layer rest ih =>
    rcases Layer.findType?_cons_cases hfind with ⟨-, rfl⟩ | ⟨hnone, below, hfound, rfl⟩
    · exact h
    · cases level with
      | succ level =>
        show HoldsType identity type level below
        exact ih h hfound
      | zero =>
        -- only a type that the layer lacks is looked up further down
        have hne : identity ≠ key := by
          rintro rfl
          rw [HoldsType, hnone] at h
          cases h
        simpa [HoldsType, Layer.keepType, hne] using h

theorem HoldsType.findDomain? {key : String} {found : Domain} {layers kept : List Layer}
    (h : HoldsType identity type level layers) (hfind : Layer.findDomain? key layers = some (found, kept)) :
    HoldsType identity type level kept := by
  induction layers generalizing level kept with
  | nil => cases hfind
  | cons layer rest ih =>
    rcases Layer.findDomain?_cons_cases hfind with ⟨-, rfl⟩ | ⟨-, below, hfound, rfl⟩
    · exact h
    · cases level with
      | succ level =>
        show HoldsType identity type level below
        exact ih h hfound
      | zero => exact h

theorem keptByLookups_holdsType : KeptByLookups fun registry => HoldsType identity type level registry.layers := by
  constructor
  · intro key registry h
    unfold leaves
    rcases resolve_run key registry with ⟨found, after, hrun, hfind, -⟩ | ⟨hrun, -⟩
    · rw [hrun]
      exact h.findType? hfind
    · rw [hrun]
      exact h
  · intro key registry h
    unfold leaves
    rcases resolveDomain_run key registry with ⟨found, after, hrun, hfind, -⟩ | ⟨hrun, -⟩
    · rw [hrun]
      exact h.findDomain? hfind
    · rw [hrun]
      exact h

theorem preserves_holdsType_bindTag (tag bound : String) :
    Preserves (fun registry => HoldsType identity type level registry.layers) (bindTag tag bound) := by
  intro registry h
  have hresolved := keptByLookups_holdsType.resolve bound registry h
  unfold leaves at hresolved ⊢
  rcases bindTag_cases tag bound registry with ⟨-, found, after, hrun, hbind⟩ | ⟨error, hbind⟩
  · rw [hrun] at hresolved
    rw [hbind]
    exact HoldsType.front hresolved fun _ hheld => hheld
  · rw [hbind]
    exact h

/-- A layer goes on holding a type until another is registered under its identity, with that layer. -/
theorem preserves_holdsType_perform {operation : Operation}
    (hother : ∀ offer : TypeOffer, offer.identity = identity →
      operation ≠ (Operation.registerType offer).down level) :
    Preserves (fun registry => HoldsType identity type level registry.layers) operation.perform := by
  induction operation generalizing level with
  | registerType offer =>
    intro registry h
    rw [Operation.perform, leaves_bind_pure]
    unfold registerType
    by_cases hroot : offer.identity = rootType
    · rw [if_pos hroot]
      exact h
    · rw [if_neg hroot]
      cases offer.base with
      | none => exact h
      | some base =>
        apply HoldsType.front h
        rintro rfl hheld
        have hne : identity ≠ offer.identity := fun hid => hother offer hid.symm rfl
        show (registry.front.types.insert offer.identity _).get? identity = some type
        simpa [hne] using hheld
  | registerDomain domain => exact fun registry h => HoldsType.front h fun _ hheld => hheld
  | bindTag tag bound => exact (preserves_holdsType_bindTag tag bound).bind fun _ => .pure _
  | applyBindings table => exact preserves_applyBindings preserves_holdsType_bindTag table
  | inFallback operation ih =>
    rintro ⟨front, fallbacks⟩ h
    cases fallbacks with
    | nil => exact h
    | cons layer rest =>
      rw [Operation.perform, leaves_askFallback]
      cases level with
      | zero => exact h
      | succ level =>
        refine ih (fun offer hid heq => hother offer hid ?_) ⟨layer, rest⟩ h
        rw [Operation.down, heq]
  | _ => exact keptByLookups_holdsType.perform rfl

theorem holdsType_of_resolve {registry : Registry}
    (h : answer ((Operation.resolve identity).down level).perform registry = .ok (.type type)) :
    HoldsType identity type level (leaves ((Operation.resolve identity).down level).perform registry).layers := by
  induction level generalizing registry with
  | zero =>
    obtain ⟨after, hrun⟩ := answer_eq_ok_iff.1 h
    obtain ⟨found, between, hresolve, hreply⟩ := run_bind_eq_ok_iff.1 hrun
    cases hreply
    simp only [Operation.down, Operation.perform, leaves_bind_pure]
    unfold leaves
    rw [hresolve]
    exact front_of_resolve hresolve
  | succ level ih =>
    obtain ⟨front, fallbacks⟩ := registry
    cases fallbacks with
    | nil => cases h
    | cons layer rest =>
      rw [Operation.down, Operation.perform, answer_askFallback] at h
      rw [Operation.down, Operation.perform, leaves_askFallback]
      exact ih h

theorem HoldsType.answer_resolve {registry : Registry} (h : HoldsType identity type level registry.layers) :
    answer ((Operation.resolve identity).down level).perform registry = .ok (.type type) := by
  induction level generalizing registry with
  | zero =>
    rw [Operation.down, Operation.perform, answer_bind_pure, answer_eq_ok_iff.2 ⟨registry, resolve_of_front h⟩]
    rfl
  | succ level ih =>
    obtain ⟨front, fallbacks⟩ := registry
    cases fallbacks with
    | nil => simp [HoldsType, layers] at h
    | cons layer rest =>
      rw [Operation.down, Operation.perform, answer_askFallback]
      exact ih h

/-- What is left after operations that are performed one after the other, whether they succeed or fail. -/
def leavesAll (operations : List Operation) (registry : Registry) : Registry :=
  operations.foldl (fun between operation => leaves operation.perform between) registry

theorem HoldsType.leavesAll {operations : List Operation}
    (hother : ∀ offer : TypeOffer, offer.identity = identity →
      (Operation.registerType offer).down level ∉ operations)
    {registry : Registry} (h : HoldsType identity type level registry.layers) :
    HoldsType identity type level (leavesAll operations registry).layers := by
  induction operations generalizing registry with
  | nil => exact h
  | cons operation rest ih =>
    apply ih
    · exact fun offer hid hmem => hother offer hid (List.mem_cons_of_mem _ hmem)
    · refine preserves_holdsType_perform (fun offer hid heq => hother offer hid ?_) registry h
      exact heq ▸ List.mem_cons_self

end

/-- **Registries stay consistent over whole runs**, also over those in which operations fail, and
go on answering what they have resolved. -/
theorem Recorded.invariant {registry : Registry} {made : List (List (String × String))}
    (h : Recorded registry made) :
    List.Forall₂ Consistent registry.chain made ∧
      ∀ level identity type, answer ((Operation.resolve identity).down level).perform registry = .ok (.type type) →
        ∀ operations, (∀ offer : TypeOffer, offer.identity = identity →
            (Operation.registerType offer).down level ∉ operations) →
          answer ((Operation.resolve identity).down level).perform
            (leavesAll operations (leaves ((Operation.resolve identity).down level).perform registry)) =
              .ok (.type type) := by
  refine ⟨consistent_chain h.wellFormed h.bindingTables, ?_⟩
  intro level identity type hresolve operations hother
  exact ((holdsType_of_resolve hresolve).leavesAll hother).answer_resolve

theorem recorded_borrower : Recorded borrower [[], []] := by
  have hlender : create [⟨"Panel", some rootType, []⟩, ⟨"Button", some "Panel", []⟩] [] none = .ok lender := rfl
  have hborrower : create [] [] (some lender) = .ok borrower := rfl
  apply Recorded.create (fun other hother => ?_) (by simp) hborrower
  obtain rfl := Option.some.inj hother
  exact .create (by simp) (by simp) hlender

/-- One of the bindings fails, and a tag is bound twice. -/
def bindingRequests : List Operation :=
  [.bindTag "panel" "Panel", .bindTag "a panel" "Panel", .bindTag "button" "Button", .bindTag "panel" "Button"]

theorem recorded_bindingRequests : Recorded (leavesAll bindingRequests borrower)
    [[("panel", "Panel"), ("button", "Button"), ("panel", "Button")], []] :=
  (((recorded_borrower.perform (.bindTag "panel" "Panel")).perform (.bindTag "a panel" "Panel")).perform
    (.bindTag "button" "Button")).perform (.bindTag "panel" "Button")

/-- The borrower goes on answering the type that it has looked up, although its lender comes to hold
another under the same identity. -/
theorem invariant_bindingRequests : Recorded (leavesAll bindingRequests borrower)
      [[("panel", "Panel"), ("button", "Button"), ("panel", "Button")], []] ∧
    List.Forall₂ Consistent (leavesAll bindingRequests borrower).chain
      [[("panel", "Panel"), ("button", "Button"), ("panel", "Button")], []] ∧
    answer (Operation.resolve "Panel").perform (leavesAll bindingRequests borrower) =
      .ok (.type ⟨"Panel", rootType, []⟩) ∧
    answer (Operation.resolve "Panel").perform
        (leavesAll [.inFallback (.registerType ⟨"Panel", some "Button", []⟩), .lineage "Panel"]
          (leaves (Operation.resolve "Panel").perform (leavesAll bindingRequests borrower))) =
      .ok (.type ⟨"Panel", rootType, []⟩) := by
  obtain ⟨hconsistent, hstays⟩ := Recorded.invariant recorded_bindingRequests
  have hresolve : answer (Operation.resolve "Panel").perform (leavesAll bindingRequests borrower) =
      .ok (.type ⟨"Panel", rootType, []⟩) := rfl
  exact ⟨recorded_bindingRequests, hconsistent, hresolve,
    hstays 0 "Panel" _ hresolve _ (by simp [Operation.down])⟩

end TagGrammar.Registry
