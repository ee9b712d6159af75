import TagGrammar.Proofs.Flatten

/-!
# The texts that are grammars

A text is a grammar if its lines that are not blank spell declarations that fit together: nothing
is declared twice, the fragments are well chained, and elements and attribute lists belong to each
other. `Schema.parse` accepts exactly these texts, and the schema it gives describes what they
declare (`parse_sound`, `parse_complete`).
-/

namespace TagGrammar

open Text

/-- Declarations that fit together. -/
structure Coherent (ds : List Declaration) : Prop where
  distinct : Declaration.Distinct ds
  chained : WellChained (Declaration.fragments ds)
  tags : ∀ tag, tag ∈ (Declaration.elements ds).map Prod.fst ↔
    tag ∈ (Declaration.attributeLists ds).map Prod.fst
  lists : ∀ list ∈ Declaration.attributeLists ds, list.2 ∈ (Declaration.fragments ds).map Prod.fst

/-- A schema has the declared elements for tags, in order, and gives each the definitions of the
fragment that its attribute list names. -/
structure Schema.Describes (schema : Schema) (ds : List Declaration) : Prop where
  tags : schema.tags = (Declaration.elements ds).map Prod.fst
  content : schema.content.entries = Declaration.elements ds
  keys_definitions : schema.definitions.keys = schema.tags
  keys_attributes : schema.attributes.keys = schema.tags
  definitions : ∀ tag name, (tag, name) ∈ Declaration.attributeLists ds → ∃ definitions,
    Flattens (Declaration.fragments ds) name definitions ∧
      schema.definitions.get? tag = some definitions ∧
      schema.attributes.get? tag = some definitions.keys

/-! ## From declarations to a schema -/

namespace Declarations

section
variable {declared : Declarations}

theorem checkAttributeLists_eq_ok_iff {lists : List (String × Located String)} :
    checkAttributeLists declared lists = .ok () ↔
      ∀ list ∈ lists, list.1 ∈ declared.elements.keys ∧ list.2.value ∈ declared.fragments.keys := by
  induction lists with
  | nil => simp [checkAttributeLists]
  | cons list lists ih =>
    obtain ⟨tag, list⟩ := list
    rw [checkAttributeLists]
    by_cases htag : tag ∈ declared.elements.keys
    · by_cases hname : list.value ∈ declared.fragments.keys
      · simp [htag, hname, ih]
      · simp [htag, hname]
    · simp [htag]

def tagDefinitions (declared : Declarations) (done : Flattened) (tag : String) : Table String :=
  ((declared.attributeLists.get? tag).bind fun list => done.get? list.value).getD .empty

/-- One schema has the given elements after those of another. -/
structure Adds (declared : Declarations) (done : Flattened)
    (entries : List (String × Located ContentModel)) (schema result : Schema) : Prop where
  tags : result.tags = schema.tags ++ entries.map Prod.fst
  attributes : result.attributes.entries =
    schema.attributes.entries ++ entries.map fun e => (e.1, (tagDefinitions declared done e.1).keys)
  definitions : result.definitions.entries =
    schema.definitions.entries ++ entries.map fun e => (e.1, tagDefinitions declared done e.1)
  content : result.content.entries =
    schema.content.entries ++ entries.map fun e => (e.1, e.2.value)

theorem addElements_eq_ok_iff {done : Flattened} {entries : List (String × Located ContentModel)}
    {schema : Schema} :
    (∃ result, addElements declared done schema entries = .ok result) ↔
      ∀ entry ∈ entries, entry.1 ∈ declared.attributeLists.keys := by
  induction entries generalizing schema with
  | nil => simp [addElements]
  | cons entry entries ih =>
    obtain ⟨tag, element⟩ := entry
    simp only [addElements]
    cases hget : declared.attributeLists.get? tag with
    | none => simp [Table.get?_eq_none_iff.1 hget]
    | some list =>
      have hmem : tag ∈ declared.attributeLists.keys := (Table.get?_isSome_iff _ _).1 (by simp [hget])
      simp [ih, hmem]

theorem addElements_sound {done : Flattened} {entries : List (String × Located ContentModel)}
    {schema result : Schema} (hattr : schema.attributes.keys = schema.tags)
    (hdef : schema.definitions.keys = schema.tags) (hcont : schema.content.keys = schema.tags)
    (hnew : (schema.tags ++ entries.map Prod.fst).Nodup)
    (h : addElements declared done schema entries = .ok result) :
    Adds declared done entries schema result := by
  induction entries generalizing schema with
  | nil =>
    obtain rfl := Except.ok.inj h
    exact ⟨by simp, by simp, by simp, by simp⟩
  | cons entry entries ih =>
    obtain ⟨tag, element⟩ := entry
    have htag : tag ∉ schema.tags := by
      rw [List.nodup_append] at hnew
      exact fun hmem => hnew.2.2 tag hmem tag (by simp) rfl
    simp only [addElements] at h
    cases hget : declared.attributeLists.get? tag with
    | none => simp [hget] at h
    | some list =>
      simp only [hget] at h
      have htable : (done.get? list.value).getD .empty = tagDefinitions declared done tag := by
        simp [tagDefinitions, hget]
      rw [htable] at h
      obtain ⟨h₁, h₂, h₃, h₄⟩ := ih (by simp [Table.keys_insert, hattr, htag])
        (by simp [Table.keys_insert, hdef, htag]) (by simp [Table.keys_insert, hcont, htag])
        (by simpa using hnew) h
      refine ⟨by simp [h₁], ?_, ?_, ?_⟩
      · simp [h₂, Table.entries_insert_of_not_mem (hattr ▸ htag)]
      · simp [h₃, Table.entries_insert_of_not_mem (hdef ▸ htag)]
      · simp [h₄, Table.entries_insert_of_not_mem (hcont ▸ htag)]

variable {ds : List Declaration} (hds : Holds declared ds)
include hds

theorem schema_eq_ok_iff : (∃ schema, declared.schema = .ok schema) ↔ Coherent ds := by
  have hchained : (∃ done, flattenEach declared.fragments .empty declared.fragments.entries = .ok done) ↔
      WellChained (Declaration.fragments ds) := hds.fragments ▸ flattenEach_eq_ok_iff fun _ => Iff.rfl
  have hlists : (∀ list ∈ declared.attributeLists.entries,
      list.1 ∈ declared.elements.keys ∧ list.2.value ∈ declared.fragments.keys) ↔
      ∀ list ∈ Declaration.attributeLists ds, list.1 ∈ (Declaration.elements ds).map Prod.fst ∧
        list.2 ∈ (Declaration.fragments ds).map Prod.fst := by
    rw [← hds.keys_elements, ← hds.keys_fragments, ← hds.attributeLists]
    simp only [Table.located, List.forall_mem_map]
  have helements : (∀ entry ∈ declared.elements.entries, entry.1 ∈ declared.attributeLists.keys) ↔
      ∀ tag ∈ (Declaration.elements ds).map Prod.fst, tag ∈ (Declaration.attributeLists ds).map Prod.fst := by
    rw [← hds.keys_attributeLists, ← hds.keys_elements]
    simp [Table.keys]
  constructor
  · rintro ⟨schema, h⟩
    simp only [Declarations.schema, bind, Except.bind] at h
    split at h
    · cases h
    · rename_i done hdone
      split at h
      · cases h
      · rename_i hcheck
        have hfits := hlists.1 (checkAttributeLists_eq_ok_iff.1 hcheck)
        have hall := helements.1 (addElements_eq_ok_iff.1 ⟨schema, h⟩)
        refine ⟨hds.distinct, hchained.1 ⟨done, hdone⟩, fun tag => ⟨hall tag, ?_⟩, fun list hl => (hfits list hl).2⟩
        intro htag
        obtain ⟨list, hl, rfl⟩ := List.mem_map.1 htag
        exact (hfits list hl).1
  · intro h
    obtain ⟨done, hdone⟩ := hchained.2 h.chained
    have hcheck : checkAttributeLists declared declared.attributeLists.entries = .ok () :=
      checkAttributeLists_eq_ok_iff.2 <| hlists.2 fun list hl =>
        ⟨(h.tags _).2 (List.mem_map.2 ⟨list, hl, rfl⟩), h.lists list hl⟩
    have hall := helements.2 fun tag htag => (h.tags tag).1 htag
    obtain ⟨schema, hschema⟩ : ∃ schema, addElements declared done ⟨[], .empty, .empty, .empty⟩
        declared.elements.entries = .ok schema := addElements_eq_ok_iff.2 hall
    refine ⟨schema, ?_⟩
    simp only [Declarations.schema, bind, Except.bind, hdone, hcheck]
    exact hschema

theorem schema_sound {schema : Schema} (h : declared.schema = .ok schema) : schema.Describes ds := by
  simp only [Declarations.schema, bind, Except.bind] at h
  split at h
  · cases h
  · rename_i done hdone
    split at h
    · cases h
    · rename_i hcheck
      obtain ⟨htags, hattr, hdefs, hcont⟩ := addElements_sound rfl rfl rfl
        (by simpa using declared.elements.nodup) h
      obtain ⟨hsound, -, hall⟩ := flattenEach_sound
        (fun entry he => Table.get?_eq_some_iff.2 he) Flattened.sound_empty hdone
      have hkeys : schema.tags = (Declaration.elements ds).map Prod.fst := by
        rw [htags, ← hds.keys_elements]
        simp [Table.keys]
      have hlists := checkAttributeLists_eq_ok_iff.1 hcheck
      refine ⟨hkeys, ?_, ?_, ?_, ?_⟩
      · rw [hcont, ← hds.elements]
        simp [Table.located, Table.empty]
      · simp [Table.keys, hdefs, htags, Table.empty]
      · simp [Table.keys, hattr, htags, Table.empty]
      · intro tag name hlist
        rw [← hds.attributeLists] at hlist
        obtain ⟨list, hget, rfl⟩ := Table.mem_located_iff.1 hlist
        obtain ⟨htag, hname⟩ := hlists _ (Table.get?_eq_some_iff.1 hget)
        obtain ⟨element, helement⟩ := Table.mem_keys_iff.1 htag
        obtain ⟨fragment, hfragment⟩ := Table.mem_keys_iff.1 hname
        obtain ⟨definitions, hdefinitions⟩ := Option.isSome_iff_exists.1 (hall _ hfragment)
        have htag : tagDefinitions declared done tag = definitions := by
          simp [tagDefinitions, hget, hdefinitions]
        refine ⟨definitions, hds.fragments ▸ hsound _ _ hdefinitions, ?_, ?_⟩
        · rw [Table.get?_eq_some_iff, hdefs, ← htag]
          exact List.mem_append_right _ (List.mem_map.2 ⟨_, helement, rfl⟩)
        · rw [Table.get?_eq_some_iff, hattr, ← htag]
          exact List.mem_append_right _ (List.mem_map.2 ⟨_, helement, rfl⟩)

end

end Declarations

/-! ## From a text to a schema -/

instance (text : String) (error : GrammarError) : Decidable (Schema.parse text = .error error) :=
  match Schema.parse text with
  | .ok _ => isFalse (by simp)
  | .error found => decidable_of_iff (found = error) (by simp)

/-- The lines of a text spell the given declarations. -/
def Declares (text : String) (ds : List Declaration) : Prop :=
  List.Forall₂ Declaration.Spells (statementLines (lines text.toList)) ds

theorem Declares.exists_spells {text : String} {ds : List Declaration} (h : Declares text ds) {d : Declaration}
    (hd : d ∈ ds) : ∃ line, d.Spells line := by
  obtain ⟨line, -, hspells⟩ := exists_of_forall₂ h.flip hd
  exact ⟨line, hspells⟩

/-- A text is a grammar. -/
def IsGrammar (text : String) : Prop :=
  ∃ ds, Declares text ds ∧ Coherent ds

namespace Schema

theorem parse_sound {text : String} {schema : Schema} (h : Schema.parse text = .ok schema) :
    ∃ ds, Declares text ds ∧ Coherent ds ∧ schema.Describes ds := by
  simp only [Schema.parse, bind, Except.bind] at h
  split at h
  · cases h
  · rename_i declared hread
    obtain ⟨ds, hdeclares, hholds⟩ := Declarations.readLines_sound Declarations.holds_empty hread
    rw [List.nil_append] at hholds
    exact ⟨ds, hdeclares, (Declarations.schema_eq_ok_iff hholds).1 ⟨schema, h⟩,
      Declarations.schema_sound hholds h⟩

theorem parse_complete {text : String} {ds : List Declaration} (hdeclares : Declares text ds)
    (hds : Coherent ds) : ∃ schema, Schema.parse text = .ok schema ∧ schema.Describes ds := by
  obtain ⟨declared, hread, hholds⟩ :=
    Declarations.readLines_complete 1 Declarations.holds_empty hdeclares (by simpa using hds.distinct)
  rw [List.nil_append] at hholds
  obtain ⟨schema, hschema⟩ := (Declarations.schema_eq_ok_iff hholds).2 hds
  refine ⟨schema, ?_, Declarations.schema_sound hholds hschema⟩
  simp only [Schema.parse, Declarations.read, hread, bind, Except.bind]
  exact hschema

/-- **A text has a schema exactly if it is a grammar**, and every other text has an error. -/
theorem parse_accepts_iff (text : String) :
    ((∃ schema, Schema.parse text = .ok schema) ↔ IsGrammar text) ∧
      ((∃ error, Schema.parse text = .error error) ↔ ¬ IsGrammar text) := by
  have haccept : (∃ schema, Schema.parse text = .ok schema) ↔ IsGrammar text := by
    constructor
    · rintro ⟨schema, h⟩
      obtain ⟨ds, hdeclares, hds, -⟩ := parse_sound h
      exact ⟨ds, hdeclares, hds⟩
    · rintro ⟨ds, hdeclares, hds⟩
      obtain ⟨schema, h, -⟩ := parse_complete hdeclares hds
      exact ⟨schema, h⟩
  refine ⟨haccept, ?_⟩
  rw [← haccept]
  cases Schema.parse text with
  | ok schema => simp
  | error error => simp

end Schema

end TagGrammar
