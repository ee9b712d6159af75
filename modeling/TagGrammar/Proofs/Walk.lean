import TagGrammar.Proofs.Flatten

/-!
# Flattening in any order

Calls that flatten fragments share a memo, and each gives what a walk along the chain of its fragment
finds without one: every attribute as the nearest fragment defines it. So it does not matter which
fragments are asked for first, or how often (`flattenCalls_walk`). A call ends because a chain that has
no end comes back to a fragment that is being visited (`flattenWithin_eq`).
-/

namespace TagGrammar

/-! ## Walking along a chain -/

/-- The bodies of a fragment and of those it continues, the nearest first. -/
inductive BaseChain (fs : List (String × FragmentBody)) : String → List FragmentBody → Prop where
  | last {name : String} {body : FragmentBody} (h : (name, body) ∈ fs) (hbase : body.base = none) :
      BaseChain fs name [body]
  | step {name base : String} {body : FragmentBody} {above : List FragmentBody} (h : (name, body) ∈ fs)
      (hbase : body.base = some base) (habove : BaseChain fs base above) : BaseChain fs name (body :: above)

/-- The definition of an attribute by the first body that has one. -/
def firstDefinition? (bodies : List FragmentBody) (key : String) : Option String :=
  bodies.findSome? fun body => body.definitions.get? key

/-- A table has the attributes that are defined along the chain of a fragment, each as the nearest
body defines it, and no others. -/
def Walks (fs : List (String × FragmentBody)) (name : String) (definitions : Table String) : Prop :=
  ∃ bodies, BaseChain fs name bodies ∧ ∀ key, definitions.get? key = firstDefinition? bodies key

theorem Flattens.walks {fs : List (String × FragmentBody)} {name : String} {definitions : Table String}
    (h : Flattens fs name definitions) : Walks fs name definitions := by
  induction h with
  | @first name body h hbase =>
    refine ⟨[body], .last h hbase, fun key => ?_⟩
    rw [firstDefinition?, List.findSome?_cons, List.findSome?_nil]
    cases body.definitions.get? key <;> rfl
  | @next name base body inherited h hbase hrest ih =>
    obtain ⟨above, habove, hget⟩ := ih
    refine ⟨body :: above, .step h hbase habove, fun key => ?_⟩
    rw [Table.get?_update, hget, firstDefinition?, firstDefinition?, List.findSome?_cons]
    cases body.definitions.get? key <;> rfl

namespace Declarations

variable {fragments : Table (Located FragmentBody)}

/-! ## How deep a call nests -/

/-- A call that is cut off where calls nest to a given depth. It is told which fragments are being
visited, and nothing but the depth keeps it from going on. -/
def flattenWithin (fragments : Table (Located FragmentBody)) :
    Nat → List String → Flattened → String → Located FragmentBody →
      Option (Except GrammarError (Table String × Flattened))
  | 0, _, _, _, _ => none
  | depth + 1, visiting, done, name, fragment =>
    match done.get? name with
    | some definitions => some (.ok (definitions, done))
    | none =>
      if name ∈ visiting then some (.error (fragment.error (.chainCycle name)))
      else
        match fragment.value.base with
        | none => some (.ok (fragment.value.definitions, done.insert name fragment.value.definitions))
        | some base =>
          match fragments.get? base with
          | none => some (.error (fragment.error (.undeclaredFragment base)))
          | some parent =>
            match flattenWithin fragments depth (name :: visiting) done base parent with
            | none => none
            | some (.error error) => some (.error error)
            | some (.ok (inherited, done)) =>
              let definitions := inherited.update fragment.value.definitions
              some (.ok (definitions, done.insert name definitions))

/-- Visiting a fragment takes it out of those left to visit. -/
theorem mem_without_iff {keys unvisited visiting : List String} (h : ∀ key ∈ keys, key ∈ unvisited ↔ key ∉ visiting)
    (name : String) : ∀ key ∈ keys, key ∈ without name unvisited ↔ key ∉ name :: visiting := by
  intro key hkey
  rw [mem_without, h key hkey, List.mem_cons, not_or, and_comm]

/-- There is depth left for the fragment that a fragment left to visit continues. -/
theorem exists_length_without_le {name : String} {unvisited : List String} {depth : Nat} (hin : name ∈ unvisited)
    (h : unvisited.length ≤ depth) : ∃ rest, depth = rest + 1 ∧ (without name unvisited).length ≤ rest := by
  have hless := Nat.lt_of_lt_of_le (length_without_lt hin) h
  exact ⟨depth - 1, by omega, by omega⟩

/-- Calls nest no deeper than there are fragments left to visit. -/
theorem flattenWithin_eq {unvisited visiting : List String} {done : Flattened} {name : String}
    {fragment : Located FragmentBody} {depth : Nat} (hfrag : fragments.get? name = some fragment)
    (hunvisited : ∀ key ∈ fragments.keys, key ∈ unvisited ↔ key ∉ visiting) (hdepth : unvisited.length ≤ depth) :
    flattenWithin fragments (depth + 1) visiting done name fragment =
      some (flatten fragments unvisited done name fragment) := by
  have hkeys : ∀ {key : String} {entry : Located FragmentBody}, fragments.get? key = some entry →
      key ∈ fragments.keys := fun hget => (Table.get?_isSome_iff _ _).1 (by simp [hget])
  fun_induction flatten fragments unvisited done name fragment generalizing visiting depth with
  | case1 unvisited name fragment found hfound => simp [flattenWithin, hfound]
  | case2 unvisited name fragment hmissing hin hbase =>
    have hnot := (hunvisited name (hkeys hfrag)).1 hin
    simp [flattenWithin, hmissing, hnot, hbase]
  | case3 unvisited name fragment hmissing hin base hbase hnone =>
    have hnot := (hunvisited name (hkeys hfrag)).1 hin
    simp [flattenWithin, hmissing, hnot, hbase, hnone]
  | case4 unvisited name fragment hmissing hin base hbase parent hparent error hrec ih =>
    have hnot := (hunvisited name (hkeys hfrag)).1 hin
    obtain ⟨rest, rfl, hrest⟩ := exists_length_without_le hin hdepth
    have hnext := ih hparent (mem_without_iff hunvisited name) hrest
    rw [flattenWithin, hmissing]
    simp only [if_neg hnot, hbase, hparent, hnext, hrec]
  | case5 unvisited name fragment hmissing hin base hbase parent hparent inherited between hrec =>
    rename_i ih
    have hnot := (hunvisited name (hkeys hfrag)).1 hin
    obtain ⟨rest, rfl, hrest⟩ := exists_length_without_le hin hdepth
    have hnext := ih hparent (mem_without_iff hunvisited name) hrest
    rw [flattenWithin, hmissing]
    simp only [if_neg hnot, hbase, hparent, hnext, hrec]
    rfl
  | case6 unvisited name fragment hmissing hout =>
    have hvisiting : name ∈ visiting := not_not.1 fun hnot => hout ((hunvisited name (hkeys hfrag)).2 hnot)
    simp [flattenWithin, hmissing, hvisiting]

/-- A call that starts with nothing visited nests at most once for every fragment, and then once more
for a fragment that it comes back to. -/
theorem flattenWithin_keys {done : Flattened} {name : String} {fragment : Located FragmentBody}
    (hfrag : fragments.get? name = some fragment) :
    flattenWithin fragments (fragments.size + 1) [] done name fragment =
      some (flatten fragments fragments.keys done name fragment) := by
  have hsize : fragments.keys.length ≤ fragments.size := by simp [Table.keys, Table.size]
  exact flattenWithin_eq hfrag (by simp) hsize

/-! ## Calls that share a memo -/

/-- Flattens fragments one after the other, and keeps what each call gives. -/
def flattenCalls (fragments : Table (Located FragmentBody)) :
    Flattened → List (String × Located FragmentBody) → Except GrammarError (List (Table String) × Flattened)
  | done, [] => .ok ([], done)
  | done, (name, fragment) :: rest =>
    match flatten fragments fragments.keys done name fragment with
    | .error error => .error error
    | .ok (definitions, done) =>
      match flattenCalls fragments done rest with
      | .error error => .error error
      | .ok (others, done) => .ok (definitions :: others, done)

theorem flattenCalls_cons_eq_ok_iff {done later : Flattened} {name : String} {fragment : Located FragmentBody}
    {order : List (String × Located FragmentBody)} {results : List (Table String)} :
    flattenCalls fragments done ((name, fragment) :: order) = .ok (results, later) ↔
      ∃ definitions between others,
        flatten fragments fragments.keys done name fragment = .ok (definitions, between) ∧
        flattenCalls fragments between order = .ok (others, later) ∧ results = definitions :: others := by
  rw [flattenCalls]
  constructor
  · intro h
    split at h
    · cases h
    · rename_i definitions between hcall
      split at h
      · cases h
      · rename_i others after hrest
        cases h
        exact ⟨definitions, between, others, hcall, hrest, rfl⟩
  · rintro ⟨definitions, between, others, hcall, hrest, rfl⟩
    simp only [hcall, hrest]

/-- The calls leave the memo that flattening without their results leaves. -/
theorem map_flattenCalls (done : Flattened) (order : List (String × Located FragmentBody)) :
    (flattenCalls fragments done order).map Prod.snd = flattenEach fragments done order := by
  induction order generalizing done with
  | nil => rfl
  | cons entry order ih =>
    obtain ⟨name, fragment⟩ := entry
    rw [flattenCalls, flattenEach]
    cases flatten fragments fragments.keys done name fragment with
    | error error => rfl
    | ok found =>
      dsimp only
      rw [← ih found.2]
      cases flattenCalls fragments found.2 order <;> rfl

theorem exists_flattenCalls_iff {done : Flattened} {order : List (String × Located FragmentBody)}
    {later : Flattened} :
    (∃ results, flattenCalls fragments done order = .ok (results, later)) ↔
      flattenEach fragments done order = .ok later := by
  rw [← map_flattenCalls]
  cases flattenCalls fragments done order <;> simp [Except.map, Prod.ext_iff]

/-- What has been worked out is not worked out otherwise later. -/
theorem Flattened.Extends.get? {done later : Flattened} (h : done.Extends later) (hdone : done.Sound fragments)
    (hlater : later.Sound fragments) {name : String} {definitions : Table String}
    (hget : done.get? name = some definitions) : later.get? name = some definitions := by
  have hnodup : (fragments.located.map Prod.fst).Nodup := Table.map_fst_located fragments ▸ fragments.nodup
  obtain ⟨others, hothers⟩ := Option.isSome_iff_exists.1 (h name (by simp [hget]))
  rw [hothers, (hdone _ _ hget).unique hnodup (hlater _ _ hothers)]

/-- Every call gives what the memo holds in the end. -/
theorem get?_of_flattenCalls {done later : Flattened} {order : List (String × Located FragmentBody)}
    {results : List (Table String)} (horder : ∀ entry ∈ order, fragments.get? entry.1 = some entry.2)
    (hdone : done.Sound fragments) (h : flattenCalls fragments done order = .ok (results, later)) :
    List.Forall₂ (fun entry definitions => later.get? entry.1 = some definitions) order results := by
  induction order generalizing done results with
  | nil =>
    cases h
    exact .nil
  | cons entry order ih =>
    obtain ⟨name, fragment⟩ := entry
    obtain ⟨definitions, between, others, hcall, hrest, rfl⟩ := flattenCalls_cons_eq_ok_iff.1 h
    obtain ⟨hfrag, horder⟩ := List.forall_mem_cons.1 horder
    obtain ⟨hbetween, -, hget⟩ := flatten_sound hdone hfrag hcall
    obtain ⟨hlater, hkept, -⟩ := flattenEach_sound horder hbetween (exists_flattenCalls_iff.1 ⟨others, hrest⟩)
    exact .cons (hkept.get? hbetween hlater hget) (ih horder hbetween hrest)

section
variable {order : List (String × Located FragmentBody)}
variable (horder : ∀ entry, entry ∈ order ↔ entry ∈ fragments.entries)
include horder

/-- After calls for all fragments, the memo holds the definitions of each. -/
theorem get?_flattenEach_iff {done : Flattened} (h : flattenEach fragments .empty order = .ok done) {name : String}
    {definitions : Table String} :
    done.get? name = some definitions ↔ Flattens fragments.located name definitions := by
  obtain ⟨hsound, -, hall⟩ := flattenEach_sound
    (fun entry he => Table.get?_eq_some_iff.2 ((horder entry).1 he)) Flattened.sound_empty h
  refine ⟨hsound name definitions, fun hflat => ?_⟩
  have hnodup : (fragments.located.map Prod.fst).Nodup := Table.map_fst_located fragments ▸ fragments.nodup
  obtain ⟨fragment, hmem⟩ := Table.mem_keys_iff.1 (Table.map_fst_located fragments ▸ hflat.mem)
  obtain ⟨others, hothers⟩ := Option.isSome_iff_exists.1 (hall _ ((horder _).2 hmem))
  rw [hothers, hflat.unique hnodup (hsound _ _ hothers)]

/-- **Flattening with a shared memo is walking along the chains**, in whatever order and however often
the fragments are asked for. Every call ends; all of them succeed exactly if the chains are well
formed; and then each gives what the walk along the chain of its fragment finds, and the memo holds the
same after calls in any other order. -/
theorem flattenCalls_walk :
    (∀ done, ∀ entry ∈ order, flattenWithin fragments (fragments.size + 1) [] done entry.1 entry.2 =
      some (flatten fragments fragments.keys done entry.1 entry.2)) ∧
    ((∃ results done, flattenCalls fragments .empty order = .ok (results, done)) ↔
      WellChained fragments.located) ∧
    ∀ results done, flattenCalls fragments .empty order = .ok (results, done) →
      flattenEach fragments .empty order = .ok done ∧
      List.Forall₂ (fun entry definitions => done.get? entry.1 = some definitions ∧
        Walks fragments.located entry.1 definitions) order results ∧
      ∀ others, (∀ entry, entry ∈ others ↔ entry ∈ fragments.entries) → ∃ results' later,
        flattenCalls fragments .empty others = .ok (results', later) ∧
          ∀ name, later.get? name = done.get? name := by
  have hentries : ∀ entry ∈ order, fragments.get? entry.1 = some entry.2 :=
    fun entry hmem => Table.get?_eq_some_iff.2 ((horder entry).1 hmem)
  have hsucceeds : ∀ {others : List (String × Located FragmentBody)},
      (∀ entry, entry ∈ others ↔ entry ∈ fragments.entries) →
      ((∃ results done, flattenCalls fragments .empty others = .ok (results, done)) ↔
        WellChained fragments.located) := by
    intro others hothers
    rw [exists_comm, ← flattenEach_eq_ok_iff hothers]
    exact exists_congr fun done => exists_flattenCalls_iff
  refine ⟨fun done entry hmem => flattenWithin_keys (hentries entry hmem), hsucceeds horder, ?_⟩
  intro results done hcalls
  have heach := exists_flattenCalls_iff.1 ⟨results, hcalls⟩
  refine ⟨heach, ?_, fun others hothers => ?_⟩
  · apply (get?_of_flattenCalls hentries Flattened.sound_empty hcalls).imp
    intro entry definitions hget
    exact ⟨hget, ((get?_flattenEach_iff horder heach).1 hget).walks⟩
  · obtain ⟨results', later, hlater⟩ := (hsucceeds hothers).2 ((hsucceeds horder).1 ⟨results, done, hcalls⟩)
    refine ⟨results', later, hlater, fun name => Option.ext fun definitions => ?_⟩
    rw [get?_flattenEach_iff hothers (exists_flattenCalls_iff.1 ⟨results', hlater⟩),
      get?_flattenEach_iff horder heach]

end

end Declarations

/-! ### Fragments asked for again -/

namespace Dials

open Declarations

/-- The first fragment continues the second, which is declared after it, and hides a definition of
it. -/
def fragments : Table (Located FragmentBody) :=
  ⟨[("Dial", ⟨1, "", ⟨some "Knob", ⟨[("mode", "CDATA")], by decide⟩⟩⟩),
    ("Knob", ⟨2, "", ⟨none, ⟨[("mode", "(on|off)"), ("max", "CDATA")], by decide⟩⟩⟩)], by decide⟩

/-- The fragments from the last to the first, and then once more. -/
def order : List (String × Located FragmentBody) :=
  fragments.entries.reverse ++ fragments.entries

theorem mem_order (entry : String × Located FragmentBody) : entry ∈ order ↔ entry ∈ fragments.entries := by
  simp [order]

theorem flattens_knob : Flattens fragments.located "Knob" ⟨[("mode", "(on|off)"), ("max", "CDATA")], by decide⟩ :=
  .first (List.mem_cons_of_mem _ List.mem_cons_self) rfl

theorem wellChained : WellChained fragments.located := by
  apply wellChained_of_flattens (Table.map_fst_located fragments ▸ fragments.nodup)
  intro name hname
  rw [Table.map_fst_located] at hname
  rcases List.mem_cons.1 hname with rfl | hname
  · exact ⟨_, .next List.mem_cons_self rfl flattens_knob⟩
  · obtain rfl := List.mem_singleton.1 hname
    exact ⟨_, flattens_knob⟩

/-- Every fragment is asked for twice, and gives the same both times. -/
theorem flattenCalls_order : (∀ entry, entry ∈ order ↔ entry ∈ fragments.entries) ∧
    WellChained fragments.located ∧ ∃ results done,
      flattenCalls fragments .empty order = .ok (results, done) ∧
      List.Forall₂ (fun entry definitions => done.get? entry.1 = some definitions ∧
        Walks fragments.located entry.1 definitions) order results ∧
      results.map (fun definitions => (definitions.get? "mode", definitions.get? "max")) =
        [(some "(on|off)", some "CDATA"), (some "CDATA", some "CDATA"),
          (some "CDATA", some "CDATA"), (some "(on|off)", some "CDATA")] := by
  obtain ⟨-, hsucceeds, hall⟩ := flattenCalls_walk mem_order
  obtain ⟨results, done, hcalls⟩ := hsucceeds.2 wellChained
  obtain ⟨-, hresults, -⟩ := hall results done hcalls
  refine ⟨mem_order, wellChained, results, done, hcalls, hresults, ?_⟩
  have hvalues : (flattenCalls fragments .empty order).toOption.map
      (fun found => found.1.map fun definitions => (definitions.get? "mode", definitions.get? "max")) =
      some [(some "(on|off)", some "CDATA"), (some "CDATA", some "CDATA"),
        (some "CDATA", some "CDATA"), (some "(on|off)", some "CDATA")] := by
    decide +kernel
  rw [hcalls] at hvalues
  exact Option.some.inj hvalues

end Dials

end TagGrammar
