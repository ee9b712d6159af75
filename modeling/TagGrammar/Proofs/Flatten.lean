import Mathlib.Logic.Relation
import TagGrammar.Proofs.Declarations
import TagGrammar.Schema

/-!
# Flattening fragments

A fragment stands for its own definitions over those of the fragment it continues. `Flattens` says
so without a memo and without a visiting order; `flattenEach` works out exactly these definitions
(`flattenEach_sound`), and it fails only at a fragment that continues an undeclared one or that
lies on a cycle (`flattenEach_error`).
-/

namespace TagGrammar

/-! ## Chains of fragments -/

/-- A declared fragment continues another. -/
def Continues (fs : List (String × FragmentBody)) (name base : String) : Prop :=
  ∃ body, (name, body) ∈ fs ∧ body.base = some base

/-- All the definitions of a declared fragment. -/
inductive Flattens (fs : List (String × FragmentBody)) : String → Table String → Prop where
  | first {name : String} {body : FragmentBody} (h : (name, body) ∈ fs) (hbase : body.base = none) :
      Flattens fs name body.definitions
  | next {name base : String} {body : FragmentBody} {inherited : Table String} (h : (name, body) ∈ fs)
      (hbase : body.base = some base) (hrest : Flattens fs base inherited) :
      Flattens fs name (inherited.update body.definitions)

/-- Every fragment that is continued is declared, and none continues itself by way of others. -/
structure WellChained (fs : List (String × FragmentBody)) : Prop where
  declared : ∀ entry ∈ fs, ∀ base ∈ entry.2.base, base ∈ fs.map Prod.fst
  acyclic : ∀ name, ¬ Relation.TransGen (Continues fs) name name

section
variable {fs : List (String × FragmentBody)}

theorem Flattens.mem {name : String} {definitions : Table String}
    (h : Flattens fs name definitions) : name ∈ fs.map Prod.fst := by
  cases h with
  | first h _ => exact List.mem_map.2 ⟨_, h, rfl⟩
  | next h _ _ => exact List.mem_map.2 ⟨_, h, rfl⟩

/-- Fragments that are declared alike along a chain have the same definitions. -/
theorem Flattens.transfer {gs : List (String × FragmentBody)} {p : String → Prop}
    (hsame : ∀ name body, p name → (name, body) ∈ fs → (name, body) ∈ gs ∧ ∀ base ∈ body.base, p base)
    {name : String} {definitions : Table String} (h : Flattens fs name definitions) (hp : p name) :
    Flattens gs name definitions := by
  induction h with
  | first h hbase => exact .first (hsame _ _ hp h).1 hbase
  | next h hbase _ ih =>
    obtain ⟨hmem, hnext⟩ := hsame _ _ hp h
    exact .next hmem hbase (ih (hnext _ hbase))

/-- What holds of the attributes that fragments define holds of those they continue as well. -/
theorem Flattens.forall_keys {p : String → Prop}
    (hp : ∀ fragment ∈ fs, ∀ entry ∈ fragment.2.definitions.entries, p entry.1) {name : String}
    {definitions : Table String} (h : Flattens fs name definitions) : ∀ key ∈ definitions.keys, p key := by
  induction h with
  | first h hbase =>
    intro key hkey
    obtain ⟨value, hentry⟩ := Table.mem_keys_iff.1 hkey
    exact hp _ h _ hentry
  | @next name base body inherited h hbase hrest ih =>
    intro key hkey
    rw [← Table.get?_isSome_iff, Table.get?_update] at hkey
    cases hget : body.definitions.get? key with
    | some value => exact hp _ h _ (Table.get?_eq_some_iff.1 hget)
    | none =>
      rw [hget, Option.none_or] at hkey
      exact ih key ((Table.get?_isSome_iff _ _).1 hkey)

variable (hn : (fs.map Prod.fst).Nodup)
include hn

theorem body_unique {name : String} {body other : FragmentBody} (h : (name, body) ∈ fs)
    (h' : (name, other) ∈ fs) : body = other :=
  Option.some.inj (((Table.lookup_eq_some_iff hn).2 h).symm.trans ((Table.lookup_eq_some_iff hn).2 h'))

theorem Continues.unique {name base other : String} (h : Continues fs name base)
    (h' : Continues fs name other) : base = other := by
  obtain ⟨body, hmem, hbase⟩ := h
  obtain ⟨body', hmem', hbase'⟩ := h'
  rw [body_unique hn hmem hmem', hbase'] at hbase
  exact (Option.some.inj hbase).symm

theorem Flattens.unique {name : String} {definitions other : Table String}
    (h : Flattens fs name definitions) (h' : Flattens fs name other) : definitions = other := by
  induction h generalizing other with
  | first h hbase =>
    cases h' with
    | first h' _ => rw [body_unique hn h h']
    | next h' hbase' _ =>
      rw [body_unique hn h h', hbase'] at hbase
      cases hbase
  | next h hbase _ ih =>
    cases h' with
    | first h' hbase' =>
      rw [body_unique hn h h', hbase'] at hbase
      cases hbase
    | next h' hbase' hrest' =>
      obtain rfl := body_unique hn h h'
      rw [hbase'] at hbase
      obtain rfl := Option.some.inj hbase
      rw [ih hrest']

/-- A chain with an end does not come back to its start. -/
theorem Flattens.not_cycle {name : String} {definitions : Table String}
    (h : Flattens fs name definitions) : ¬ Relation.TransGen (Continues fs) name name := by
  induction h with
  | first h hbase =>
    intro hcycle
    obtain ⟨next, ⟨body, hmem, hnext⟩, -⟩ := Relation.TransGen.head'_iff.1 hcycle
    rw [body_unique hn hmem h, hbase] at hnext
    cases hnext
  | next h hbase _ ih =>
    intro hcycle
    obtain ⟨next, hstep, hback⟩ := Relation.TransGen.head'_iff.1 hcycle
    have hfirst : Continues fs _ _ := ⟨_, h, hbase⟩
    rw [hstep.unique hn hfirst] at hback
    exact ih (Relation.TransGen.tail' hback hfirst)

theorem wellChained_of_flattens (h : ∀ name ∈ fs.map Prod.fst, ∃ definitions, Flattens fs name definitions) :
    WellChained fs := by
  constructor
  · rintro ⟨name, body⟩ hmem base hbase
    obtain ⟨definitions, hflat⟩ := h name (List.mem_map.2 ⟨_, hmem, rfl⟩)
    cases hflat with
    | first h' hbase' =>
      rw [body_unique hn h' hmem, Option.mem_def.1 hbase] at hbase'
      cases hbase'
    | next h' hbase' hrest =>
      rw [body_unique hn h' hmem, Option.mem_def.1 hbase] at hbase'
      rw [Option.some.inj hbase']
      exact hrest.mem
  · intro name hcycle
    obtain ⟨next, ⟨body, hmem, -⟩, -⟩ := Relation.TransGen.head'_iff.1 hcycle
    obtain ⟨definitions, hflat⟩ := h name (List.mem_map.2 ⟨_, hmem, rfl⟩)
    exact hflat.not_cycle hn hcycle

end

/-! ## Flattening with a memo -/

theorem Table.mem_located_iff {α : Type} {t : Table (Located α)} {key : String} {value : α} :
    (key, value) ∈ t.located ↔ ∃ entry, t.get? key = some entry ∧ entry.value = value := by
  simp only [Table.located, List.mem_map, Prod.mk.injEq, Table.get?_eq_some_iff, Prod.exists]
  constructor
  · rintro ⟨_, entry, hmem, rfl, rfl⟩
    exact ⟨entry, hmem, rfl⟩
  · rintro ⟨entry, hmem, rfl⟩
    exact ⟨key, entry, hmem, rfl, rfl⟩

namespace Declarations

variable {fragments : Table (Located FragmentBody)}

/-- What has been worked out is right. -/
def Flattened.Sound (fragments : Table (Located FragmentBody)) (done : Flattened) : Prop :=
  ∀ name definitions, done.get? name = some definitions → Flattens fragments.located name definitions

/-- What has been worked out is kept. -/
def Flattened.Extends (done later : Flattened) : Prop :=
  ∀ name, (done.get? name).isSome → (later.get? name).isSome

theorem Flattened.sound_empty : Flattened.Sound fragments .empty := by
  intro name definitions h
  simp at h

theorem Flattened.Sound.insert {done : Flattened} (h : done.Sound fragments) {name : String}
    {definitions : Table String} (hflat : Flattens fragments.located name definitions) :
    Flattened.Sound fragments (done.insert name definitions) :=
  Table.forall_get?_insert h hflat

theorem Flattened.extends_insert (done : Flattened) (name : String) (definitions : Table String) :
    done.Extends (done.insert name definitions) := by
  intro key hkey
  grind

/-- One call leaves a memo that is right, has all that was in it and the fragment asked for. -/
theorem flatten_sound {unvisited : List String} {done later : Flattened} {name : String}
    {fragment : Located FragmentBody} {definitions : Table String}
    (hdone : done.Sound fragments) (hfrag : fragments.get? name = some fragment)
    (h : flatten fragments unvisited done name fragment = .ok (definitions, later)) :
    later.Sound fragments ∧ done.Extends later ∧ later.get? name = some definitions := by
  have hmem : ∀ {key : String} {entry : Located FragmentBody}, fragments.get? key = some entry →
      (key, entry.value) ∈ fragments.located := fun hget => Table.mem_located_iff.2 ⟨_, hget, rfl⟩
  fun_induction flatten fragments unvisited done name fragment generalizing definitions later with
  | case1 unvisited name fragment found hfound =>
    simp only [Except.ok.injEq, Prod.mk.injEq] at h
    obtain ⟨rfl, rfl⟩ := h
    exact ⟨hdone, fun _ => id, hfound⟩
  | case2 unvisited name fragment _ _ hbase =>
    simp only [Except.ok.injEq, Prod.mk.injEq] at h
    obtain ⟨rfl, rfl⟩ := h
    exact ⟨hdone.insert (.first (hmem hfrag) hbase), done.extends_insert _ _, by simp⟩
  | case3 => cases h
  | case4 => cases h
  | case5 unvisited name fragment _ _ base hbase parent hparent inherited between hrec =>
    rename_i ih
    simp only [Except.ok.injEq, Prod.mk.injEq] at h
    obtain ⟨rfl, rfl⟩ := h
    obtain ⟨hsound, hkept, hget⟩ := ih hparent hrec
    refine ⟨hsound.insert (.next (hmem hfrag) hbase (hsound base inherited hget)), ?_, by simp⟩
    exact fun key hkey => between.extends_insert _ _ key (hkept key hkey)
  | case6 => cases h

/-- A fragment that no definitions can be worked out for. -/
inductive Culprit (fragments : Table (Located FragmentBody)) : GrammarError → Prop where
  | undeclared {name base : String} {fragment : Located FragmentBody}
      (h : fragments.get? name = some fragment) (hbase : fragment.value.base = some base)
      (hnone : fragments.get? base = none) : Culprit fragments (fragment.error (.undeclaredFragment base))
  | cycle {name : String} {fragment : Located FragmentBody} (h : fragments.get? name = some fragment)
      (hcycle : Relation.TransGen (Continues fragments.located) name name) :
      Culprit fragments (fragment.error (.chainCycle name))

/-- A failing call names a culprit, provided that all visited fragments lead to the current one. -/
theorem flatten_error {unvisited : List String} {done : Flattened} {name : String}
    {fragment : Located FragmentBody} {error : GrammarError}
    (hfrag : fragments.get? name = some fragment)
    (hvisited : ∀ key ∈ fragments.keys, key ∉ unvisited →
      Relation.TransGen (Continues fragments.located) key name)
    (h : flatten fragments unvisited done name fragment = .error error) : Culprit fragments error := by
  fun_induction flatten fragments unvisited done name fragment with
  | case1 => cases h
  | case2 => cases h
  | case3 unvisited name fragment _ _ base hbase hnone =>
    obtain rfl := Except.error.inj h
    exact .undeclared hfrag hbase hnone
  | case4 unvisited name fragment _ _ base hbase parent hparent error' hrec ih =>
    have hstep : Continues fragments.located name base :=
      ⟨_, Table.mem_located_iff.2 ⟨_, hfrag, rfl⟩, hbase⟩
    refine ih hparent ?_ (h ▸ hrec)
    intro key hkey hout
    -- a visited fragment is the one just left or was visited before
    by_cases heq : key = name
    · exact heq ▸ .single hstep
    · exact (hvisited key hkey fun hin => hout (mem_without.2 ⟨hin, heq⟩)).tail hstep
  | case5 => cases h
  | case6 unvisited name fragment _ hout =>
    obtain rfl := Except.error.inj h
    have hkey : name ∈ fragments.keys := (Table.get?_isSome_iff _ _).1 (by simp [hfrag])
    exact .cycle hfrag (hvisited name hkey hout)

/-! ## Flattening all fragments -/

theorem flattenEach_sound {entries : List (String × Located FragmentBody)} {done later : Flattened}
    (hentries : ∀ entry ∈ entries, fragments.get? entry.1 = some entry.2)
    (hdone : done.Sound fragments) (h : flattenEach fragments done entries = .ok later) :
    later.Sound fragments ∧ done.Extends later ∧ ∀ entry ∈ entries, (later.get? entry.1).isSome := by
  induction entries generalizing done with
  | nil =>
    obtain rfl := Except.ok.inj h
    exact ⟨hdone, fun _ => id, by simp⟩
  | cons entry entries ih =>
    obtain ⟨name, fragment⟩ := entry
    simp only [flattenEach] at h
    split at h
    · cases h
    · rename_i definitions between hcall
      have hfrag := hentries (name, fragment) (by simp)
      obtain ⟨hsound, hkept, hget⟩ := flatten_sound hdone hfrag hcall
      obtain ⟨hlater, hkept', hrest⟩ := ih (fun e he => hentries e (List.mem_cons_of_mem _ he)) hsound h
      refine ⟨hlater, fun key hkey => hkept' key (hkept key hkey), ?_⟩
      intro e he
      rcases List.mem_cons.1 he with rfl | he
      · exact hkept' name (by simp [hget])
      · exact hrest e he

theorem flattenEach_error {entries : List (String × Located FragmentBody)} {done : Flattened}
    {error : GrammarError} (hentries : ∀ entry ∈ entries, fragments.get? entry.1 = some entry.2)
    (h : flattenEach fragments done entries = .error error) : Culprit fragments error := by
  induction entries generalizing done with
  | nil => cases h
  | cons entry entries ih =>
    obtain ⟨name, fragment⟩ := entry
    simp only [flattenEach] at h
    split at h
    · rename_i error' hcall
      obtain rfl := Except.error.inj h
      have hfrag := hentries (name, fragment) (by simp)
      exact flatten_error hfrag (fun key hkey hout => absurd hkey hout) hcall
    · exact ih (fun e he => hentries e (List.mem_cons_of_mem _ he)) h

theorem Culprit.not_wellChained {error : GrammarError} (h : Culprit fragments error) :
    ¬ WellChained fragments.located := by
  intro hchain
  cases h with
  | undeclared h hbase hnone =>
    have := hchain.declared _ (Table.mem_located_iff.2 ⟨_, h, rfl⟩) _ hbase
    rw [Table.map_fst_located] at this
    exact Table.get?_eq_none_iff.1 hnone this
  | cycle h hcycle => exact hchain.acyclic _ hcycle

/-- **All fragments can be flattened exactly if their chains are well formed**, in whatever order and
however often they are asked for. -/
theorem flattenEach_eq_ok_iff {order : List (String × Located FragmentBody)}
    (horder : ∀ entry, entry ∈ order ↔ entry ∈ fragments.entries) :
    (∃ done, flattenEach fragments .empty order = .ok done) ↔ WellChained fragments.located := by
  have hentries : ∀ entry ∈ order, fragments.get? entry.1 = some entry.2 :=
    fun entry he => Table.get?_eq_some_iff.2 ((horder entry).1 he)
  constructor
  · rintro ⟨done, h⟩
    obtain ⟨hsound, -, hall⟩ := flattenEach_sound hentries Flattened.sound_empty h
    refine wellChained_of_flattens (Table.map_fst_located fragments ▸ fragments.nodup) ?_
    intro name hname
    obtain ⟨⟨_, body⟩, hmem, rfl⟩ := List.mem_map.1 hname
    obtain ⟨entry, hget, -⟩ := Table.mem_located_iff.1 hmem
    obtain ⟨definitions, hdefs⟩ :=
      Option.isSome_iff_exists.1 (hall _ ((horder _).2 (Table.get?_eq_some_iff.1 hget)))
    exact ⟨definitions, hsound _ _ hdefs⟩
  · intro hchain
    cases h : flattenEach fragments .empty order with
    | ok done => exact ⟨done, rfl⟩
    | error error => exact absurd hchain (flattenEach_error hentries h).not_wellChained

end Declarations

end TagGrammar
