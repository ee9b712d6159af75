import TagGrammar.Proofs.Registry.History

/-!
# Where base types lead

Base types lead from an identity along a trail of known types. A trail cannot go on for ever: it
comes to the root type, to an identity that is not known, or back to a type it has passed. Which of
the three it is decides the answer of `lineage`.

`Ascent` is the same search without a bound: it marks the identities it has passed and goes on until
it has an answer. It has one after at most as many rounds as there are known identities, and one more.
-/

namespace TagGrammar.Registry

/-! ## Ascents -/

/-- An ascent under way: the identity it stands at, those it has marked, and the types it has passed. -/
structure Ascent where
  current : String
  marked : List String
  passed : List ComponentType

namespace Ascent

def start (identity : String) : Ascent :=
  ⟨identity, [], []⟩

/-- One round: the types passed, if the root type has been reached, or else the ascent from the base
type. -/
def round (ascent : Ascent) : RegistryM (Ascent ⊕ List ComponentType) :=
  if ascent.current = rootType then return .inr ascent.passed
  else if ascent.current ∈ ascent.marked then throw (.inheritanceCycle ascent.current)
  else do
    let type ← resolve ascent.current
    return .inl ⟨type.base, ascent.current :: ascent.marked, ascent.passed ++ [type]⟩

def rounds : Nat → Ascent → RegistryM (Option (List ComponentType))
  | 0, _ => return none
  | n + 1, ascent => do
    match ← ascent.round with
    | .inl next => next.rounds n
    | .inr types => return some types

end Ascent

theorem front_isSome_of_resolve {registry after : Registry} {identity name : String} {type : ComponentType}
    (h : (resolve identity).run registry = .ok type after) (hname : (registry.front.types.get? name).isSome) :
    (after.front.types.get? name).isSome := by
  obtain ⟨held, hheld⟩ := Option.isSome_iff_exists.1 hname
  have hkept : HoldsType name held 0 (leaves (resolve identity) registry).layers :=
    keptByLookups_holdsType.resolve identity registry hheld
  unfold leaves at hkept
  rw [h] at hkept
  exact Option.isSome_iff_exists.2 ⟨held, hkept⟩

/-- An ascent does what climbing does, whose unvisited identities are those known and not marked. The
marked ones are held by the registry itself, so looking them up again changes nothing. -/
theorem Ascent.rounds_eq_climb {n : Nat} {ascent : Ascent} {unvisited : List String} {registry : Registry}
    (hmarked : ∀ name ∈ ascent.marked, (registry.front.types.get? name).isSome)
    (hunvisited : ∀ name, name ∈ unvisited ↔ (registry.type? name).isSome ∧ name ∉ ascent.marked)
    (hn : unvisited.length < n) : (ascent.rounds n).run registry =
      (climb unvisited ascent.current >>= fun above => pure (some (ascent.passed ++ above))).run registry := by
  induction n generalizing ascent unvisited registry with
  | zero => omega
  | succ n ih =>
    by_cases hroot : ascent.current = rootType
    · simp [rounds, round, hroot]
    · simp only [climb_eq unvisited hroot, bind_assoc, EStateM.run_bind, rounds, round, if_neg hroot]
      by_cases hmem : ascent.current ∈ ascent.marked
      · obtain ⟨type, htype⟩ := Option.isSome_iff_exists.1 (hmarked _ hmem)
        have hvisited : ascent.current ∉ unvisited := fun h => ((hunvisited _).1 h).2 hmem
        simp only [if_pos hmem, if_neg hvisited, resolve_of_front htype]
        rfl
      · simp only [if_neg hmem, EStateM.run_bind]
        rcases resolve_run ascent.current registry with ⟨type, after, hrun, hfind, -⟩ | ⟨hrun, -⟩
        · obtain ⟨hknown, hsame⟩ := Layer.findType?_sound hfind
          have hvisit : ascent.current ∈ unvisited :=
            (hunvisited _).2 ⟨Option.isSome_iff_exists.2 ⟨type, hknown⟩, hmem⟩
          have hlength := length_without_lt hvisit
          have hmarked' : ∀ name ∈ ascent.current :: ascent.marked, (after.front.types.get? name).isSome := by
            intro name hname
            rcases List.mem_cons.1 hname with rfl | hname
            · simp [front_of_resolve hrun]
            · exact front_isSome_of_resolve hrun (hmarked name hname)
          have hunvisited' : ∀ name, name ∈ without ascent.current unvisited ↔
              (after.type? name).isSome ∧ name ∉ ascent.current :: ascent.marked := by
            intro name
            have htype : after.type? name = registry.type? name := (hsame.types name).symm
            simp [mem_without, hunvisited, htype, and_assoc, and_comm]
          have hrest := @ih ⟨type.base, ascent.current :: ascent.marked, ascent.passed ++ [type]⟩ _ _
            hmarked' hunvisited' (by omega)
          simp only [hrun, if_pos hvisit, EStateM.run_pure, EStateM.run_bind, hrest]
          cases (climb (without ascent.current unvisited) type.base).run after <;> simp
        · simp [hrun]

theorem Ascent.rounds_eq_lineage (registry : Registry) (identity : String) {n : Nat}
    (hn : registry.knownIdentities.length < n) :
    ((Ascent.start identity).rounds n).run registry = (some <$> lineage identity).run registry := by
  have hunvisited : ∀ name, name ∈ registry.knownIdentities ↔
      (registry.type? name).isSome ∧ name ∉ (Ascent.start identity).marked := by
    simp [Ascent.start]
  rw [Ascent.rounds_eq_climb (by simp [Ascent.start]) hunvisited hn, map_eq_pure_bind]
  rfl

/-! ## Trails -/

/-- The known types that base types lead through from one identity to another. -/
inductive Trail (registry : Registry) : String → List ComponentType → String → Prop where
  | here (identity : String) : Trail registry identity [] identity
  | up {identity last : String} {type : ComponentType} {above : List ComponentType}
      (hne : identity ≠ rootType) (htype : registry.type? identity = some type)
      (hrest : Trail registry type.base above last) : Trail registry identity (type :: above) last

section
variable {registry : Registry}

theorem trail_root_iff {identity : String} {types : List ComponentType} :
    Trail registry identity types rootType ↔ Chain registry identity types := by
  constructor
  · intro h
    generalize hlast : rootType = last at h
    induction h with
    | here => exact hlast ▸ .root
    | up hne htype _ ih => exact .step hne htype (ih hlast)
  · intro h
    induction h with
    | root => exact .here rootType
    | step hne htype _ ih => exact .up hne htype ih

theorem trail_append_iff {identity last : String} {before after : List ComponentType} :
    Trail registry identity (before ++ after) last ↔
      ∃ between, Trail registry identity before between ∧ Trail registry between after last := by
  induction before generalizing identity with
  | nil =>
    constructor
    · exact fun h => ⟨identity, .here identity, h⟩
    · rintro ⟨between, hbefore, hafter⟩
      cases hbefore
      exact hafter
  | cons type before ih =>
    constructor
    · intro h
      cases h with
      | up hne htype hrest =>
        obtain ⟨between, hbefore, hafter⟩ := ih.1 hrest
        exact ⟨between, .up hne htype hbefore, hafter⟩
    · rintro ⟨between, hbefore, hafter⟩
      cases hbefore with
      | up hne htype hrest => exact .up hne htype (ih.2 ⟨between, hrest, hafter⟩)

theorem Trail.unique {identity last last' : String} {types types' : List ComponentType}
    (h : Trail registry identity types last) (h' : Trail registry identity types' last')
    (hlast : registry.type? last = none) (hlast' : registry.type? last' = none) :
    types = types' ∧ last = last' := by
  induction h generalizing types' with
  | here identity =>
    cases h' with
    | here => exact ⟨rfl, rfl⟩
    | up _ htype' _ => simp [hlast] at htype'
  | up hne htype _ ih =>
    cases h' with
    | here => simp [hlast'] at htype
    | up _ htype' hrest' =>
      obtain rfl := Option.some.inj (htype.symm.trans htype')
      obtain ⟨rfl, rfl⟩ := ih hrest' hlast
      exact ⟨rfl, rfl⟩

/-- From every identity a trail leads to an end, without passing a type twice: to an identity that is
the root type, that is out of a given range, or that the trail has passed. -/
theorem exists_trail (hR : registry.WellFormed) (range : List String) (identity : String) : ∃ types last,
    Trail registry identity types last ∧ (types.map ComponentType.identity).Nodup ∧
      (∀ type ∈ types, type.identity ∈ range) ∧ (last = rootType ∨ registry.type? last = none ∨
        last ∉ range ∨ last ∈ types.map ComponentType.identity) := by
  induction range, identity using climb.induct with
  | case1 range => exact ⟨[], rootType, .here rootType, by simp, by simp, .inl rfl⟩
  | case2 range identity hne ih =>
    cases htype : registry.type? identity with
    | none => exact ⟨[], identity, .here identity, by simp, by simp, .inr (.inl htype)⟩
    | some type =>
      by_cases hmem : identity ∈ range
      · obtain ⟨types, last, htrail, hnodup, hrange, hend⟩ := ih type hmem
        have hid := (hR.type? htype).1
        refine ⟨type :: types, last, .up hne htype htrail, ?_, ?_, ?_⟩
        · rw [List.map_cons, List.nodup_cons, hid]
          refine ⟨fun hagain => ?_, hnodup⟩
          obtain ⟨other, hother, heq⟩ := List.mem_map.1 hagain
          exact (mem_without.1 (hrange other hother)).2 heq
        · exact List.forall_mem_cons.2 ⟨hid ▸ hmem, fun other hother => (mem_without.1 (hrange other hother)).1⟩
        · simp only [mem_without, List.map_cons, List.mem_cons, hid] at hend ⊢
          tauto
      · exact ⟨[], identity, .here identity, by simp, by simp, .inr (.inr (.inl hmem))⟩

def MissesType (registry : Registry) (identity missing : String) : Prop :=
  missing ≠ rootType ∧ registry.type? missing = none ∧ ∃ types, Trail registry identity types missing

/-- Base types lead to an identity and from there around a loop back to it, without passing a type
twice. -/
def EntersLoop (registry : Registry) (identity again : String) : Prop :=
  ∃ before loop, loop ≠ [] ∧ Trail registry identity before again ∧ Trail registry again loop again ∧
    ((before ++ loop).map ComponentType.identity).Nodup

theorem entersLoop_of_mem (hR : registry.WellFormed) {identity again : String} {types : List ComponentType}
    (h : Trail registry identity types again) (hnodup : (types.map ComponentType.identity).Nodup)
    (hmem : again ∈ types.map ComponentType.identity) : registry.EntersLoop identity again := by
  obtain ⟨type, htype, rfl⟩ := List.mem_map.1 hmem
  obtain ⟨before, after, rfl⟩ := List.append_of_mem htype
  obtain ⟨between, hbefore, hloop⟩ := trail_append_iff.1 h
  cases hloop with
  | up hne hknown hrest =>
    obtain ⟨rfl, -⟩ := hR.type? hknown
    exact ⟨before, type :: after, by simp, hbefore, .up hne hknown hrest, hnodup⟩

theorem trail_cases (hR : registry.WellFormed) (identity : String) :
    (∃ types, Trail registry identity types rootType) ∨ (∃ missing, registry.MissesType identity missing) ∨
      ∃ again, registry.EntersLoop identity again := by
  obtain ⟨types, last, htrail, hnodup, -, hend⟩ := exists_trail hR registry.knownIdentities identity
  by_cases hroot : last = rootType
  · exact .inl ⟨types, hroot ▸ htrail⟩
  · rw [mem_knownIdentities, Option.not_isSome_iff_eq_none] at hend
    by_cases hnone : registry.type? last = none
    · exact .inr (.inl ⟨last, hroot, hnone, types, htrail⟩)
    · exact .inr (.inr ⟨last, entersLoop_of_mem hR htrail hnodup (by tauto)⟩)

/-! ## Answers along a trail -/

theorem Trail.nodup (hR : registry.WellFormed) {identity last : String} {types : List ComponentType}
    (h : Trail registry identity types last) (hlast : registry.type? last = none) :
    (types.map ComponentType.identity).Nodup := by
  induction h with
  | here => exact List.nodup_nil
  | @up identity last type above hne htype hrest ih =>
    rw [List.map_cons, List.nodup_cons]
    refine ⟨fun hmem => ?_, ih hlast⟩
    obtain ⟨again, hagain, heq⟩ := List.mem_map.1 hmem
    obtain ⟨front, rest, rfl⟩ := List.append_of_mem hagain
    obtain ⟨between, -, hloop⟩ := trail_append_iff.1 hrest
    have hbetween : between = identity := by
      cases hloop with
      | up _ hknown _ => rw [← (hR.type? hknown).1, heq, (hR.type? htype).1]
    -- the way up from the second occurrence is the whole way, but it is shorter
    have hsame := ((hbetween ▸ hloop).unique (.up hne htype hrest) hlast hlast).1
    have hlength := congrArg List.length hsame
    simp at hlength
    omega

theorem Trail.answer_climb {identity last : String} {types : List ComponentType}
    (h : Trail registry identity types last) (hR : registry.WellFormed) {unvisited : List String}
    (hnodup : (types.map ComponentType.identity).Nodup) (hin : ∀ type ∈ types, type.identity ∈ unvisited) :
    answer (climb unvisited identity) registry =
      (answer (climb (unvisited.filter (· ∉ types.map ComponentType.identity)) last) registry).map
        (types ++ ·) := by
  induction h generalizing unvisited with
  | here identity =>
    simp only [List.map_nil, List.not_mem_nil, not_false_eq_true, decide_true, List.filter_true, List.nil_append]
    cases answer (climb unvisited identity) registry <;> rfl
  | @up identity last type above hne htype _ ih =>
    obtain ⟨rfl, -⟩ := hR.type? htype
    rw [List.map_cons, List.nodup_cons] at hnodup
    rw [List.forall_mem_cons] at hin
    have habove : ∀ other ∈ above, other.identity ∈ without type.identity unvisited := by
      intro other hother
      refine mem_without.2 ⟨hin.2 other hother, fun heq => hnodup.1 ?_⟩
      exact heq ▸ List.mem_map_of_mem hother
    rw [Registry.answer_climb _ hne, htype]
    simp only [hin.1, if_true, ih hnodup.2 habove]
    -- taking the identities out one by one or all at once leaves the same ones to visit
    rw [answer_climb_congr (fun name => ?_) last registry]
    · cases answer (climb _ last) registry <;> rfl
    · simp only [List.mem_filter, mem_without, List.map_cons, List.mem_cons, decide_eq_true_eq]
      tauto

theorem Trail.identity_mem {identity last : String} {types : List ComponentType}
    (h : Trail registry identity types last) (hR : registry.WellFormed) :
    ∀ type ∈ types, type.identity ∈ registry.knownIdentities := by
  induction h with
  | here => simp
  | up _ htype _ ih =>
    refine List.forall_mem_cons.2 ⟨?_, ih⟩
    simp [(hR.type? htype).1, htype]

theorem lineage_of_missesType (hR : registry.WellFormed) {identity missing : String}
    (h : registry.MissesType identity missing) :
    answer (lineage identity) registry = .error (.unresolvedType missing) := by
  obtain ⟨hne, hnone, types, htrail⟩ := h
  show answer (climb registry.knownIdentities identity) registry = _
  rw [htrail.answer_climb hR (htrail.nodup hR hnone) (htrail.identity_mem hR), answer_climb _ hne, hnone]
  rfl

theorem lineage_of_entersLoop (hR : registry.WellFormed) {identity again : String}
    (h : registry.EntersLoop identity again) :
    answer (lineage identity) registry = .error (.inheritanceCycle again) := by
  obtain ⟨before, loop, hloop, hbefore, haround, hnodup⟩ := h
  have htrail : Trail registry identity (before ++ loop) again := trail_append_iff.2 ⟨again, hbefore, haround⟩
  show answer (climb registry.knownIdentities identity) registry = _
  rw [htrail.answer_climb hR hnodup (htrail.identity_mem hR)]
  cases haround with
  | here => exact absurd rfl hloop
  | up hne htype _ =>
    obtain ⟨rfl, -⟩ := hR.type? htype
    rw [answer_climb _ hne, htype]
    simp [Except.map]

theorem lineage_of_trail (hR : registry.WellFormed) {identity : String} {types : List ComponentType}
    (h : Trail registry identity types rootType) : answer (lineage identity) registry = .ok types :=
  lineage_of_chain hR (trail_root_iff.1 h)

theorem answer_depth_of_trail (hR : registry.WellFormed) {identity : String} {types : List ComponentType}
    (h : Trail registry identity types rootType) : answer (depth identity) registry = .ok types.length := by
  unfold depth
  simp [lineage_of_trail hR h]

/-- **Where base types lead decides the lineage.** The ascent from an identity ends, and with the answer
and the registry that `lineage` has. The lineage is the trail to the root type, if there is one; if not,
the error names the identity that is not known or the one at which a loop is entered. Each type of a
lineage has the rest of it for its own. -/
theorem lineage_decides (hR : registry.WellFormed) (identity : String) :
    (∀ n, registry.knownIdentities.length < n →
      ((Ascent.start identity).rounds n).run registry = (some <$> lineage identity).run registry) ∧
    (∀ types, answer (lineage identity) registry = .ok types ↔ Trail registry identity types rootType) ∧
    (∀ error, answer (lineage identity) registry = .error error ↔
      (∃ missing, error = .unresolvedType missing ∧ registry.MissesType identity missing) ∨
        ∃ again, error = .inheritanceCycle again ∧ registry.EntersLoop identity again) ∧
    ∀ types, answer (lineage identity) registry = .ok types → (types.map ComponentType.identity).Nodup ∧
      ∀ before type above, types = before ++ type :: above →
        answer (lineage type.identity) registry = .ok (type :: above) ∧
          ∃ n, answer (depth type.base) registry = .ok n ∧ answer (depth type.identity) registry = .ok (n + 1) := by
  refine ⟨fun n hn => Ascent.rounds_eq_lineage registry identity hn, fun types => ?_, fun error => ?_, ?_⟩
  · exact ⟨fun h => trail_root_iff.2 (chain_of_lineage h), lineage_of_trail hR⟩
  · constructor
    · intro h
      rcases trail_cases hR identity with ⟨types, htrail⟩ | ⟨missing, hmisses⟩ | ⟨again, henters⟩
      · simp [lineage_of_trail hR htrail] at h
      · rw [lineage_of_missesType hR hmisses] at h
        exact .inl ⟨missing, (Except.error.inj h).symm, hmisses⟩
      · rw [lineage_of_entersLoop hR henters] at h
        exact .inr ⟨again, (Except.error.inj h).symm, henters⟩
    · rintro (⟨missing, rfl, hmisses⟩ | ⟨again, rfl, henters⟩)
      · exact lineage_of_missesType hR hmisses
      · exact lineage_of_entersLoop hR henters
  · intro types h
    have hchain := chain_of_lineage h
    refine ⟨hchain.nodup hR, ?_⟩
    rintro before type above rfl
    obtain ⟨between, -, hrest⟩ := trail_append_iff.1 (trail_root_iff.2 hchain)
    cases hrest with
    | up hne htype habove =>
      obtain ⟨rfl, -⟩ := hR.type? htype
      have hself : Trail registry type.identity (type :: above) rootType := .up hne htype habove
      exact ⟨lineage_of_trail hR hself, above.length, answer_depth_of_trail hR habove,
        answer_depth_of_trail hR hself⟩

end

/-! ### Three ways up -/

namespace Tangled

def button : ComponentType := ⟨"Button", "Panel", []⟩

def panel : ComponentType := ⟨"Panel", rootType, []⟩

def drift : ComponentType := ⟨"Drift", "Lost", []⟩

def spin : ComponentType := ⟨"Spin", "Left", []⟩

def left : ComponentType := ⟨"Left", "Right", []⟩

def right : ComponentType := ⟨"Right", "Left", []⟩

def layer (types : List ComponentType) (bindings : List (String × String)) : Layer :=
  ⟨Table.ofList (types.map fun type => (type.identity, type)), .empty, Table.ofList bindings⟩

/-- The way up from a button and the way into the loop leave the registry itself halfway. -/
def registry : Registry :=
  ⟨layer [button, drift, spin] [("button", "Button"), ("spin", "Spin"), ("drift", "Drift")],
    [layer [panel, left, right] []]⟩

theorem wellFormed : registry.WellFormed := by
  apply wellFormed_mk
  · exact Layer.wellFormed_ofList (by decide) (by decide)
  · exact List.forall_mem_singleton.2 (Layer.wellFormed_ofList (by decide) (by decide))

theorem trail_button : Trail registry "Button" [button, panel] rootType :=
  .up (by decide) rfl (.up (by decide) rfl (.here _))

theorem missesType_drift : registry.MissesType "Drift" "Lost" :=
  ⟨by decide, rfl, [drift], .up (by decide) rfl (.here _)⟩

theorem entersLoop_spin : registry.EntersLoop "Spin" "Left" :=
  ⟨[spin], [left, right], by decide, .up (by decide) rfl (.here _),
    .up (by decide) rfl (.up (by decide) rfl (.here _)), by decide⟩

end Tangled

theorem Tangled.lineage_decides_ways : registry.WellFormed ∧
    answer (lineage "Button") registry = .ok [button, panel] ∧
    answer (lineage "Panel") registry = .ok [panel] ∧
    answer (lineage "Drift") registry = .error (.unresolvedType "Lost") ∧
    answer (lineage "Spin") registry = .error (.inheritanceCycle "Left") ∧
    ((Ascent.start "Spin").rounds 7).run registry = (some <$> lineage "Spin").run registry := by
  have hbutton := ((lineage_decides wellFormed "Button").2.1 _).2 trail_button
  have hpanel := (((lineage_decides wellFormed "Button").2.2.2 _ hbutton).2 [button] panel [] rfl).1
  exact ⟨wellFormed, hbutton, hpanel,
    ((lineage_decides wellFormed "Drift").2.2.1 _).2 (.inl ⟨"Lost", rfl, missesType_drift⟩),
    ((lineage_decides wellFormed "Spin").2.2.1 _).2 (.inr ⟨"Left", rfl, entersLoop_spin⟩),
    (lineage_decides wellFormed "Spin").1 7 (by decide)⟩

end TagGrammar.Registry
