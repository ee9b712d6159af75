import TagGrammar.Proofs.Completions

/-!
# Descriptions of tags

The tables of a schema that has been read have the same tags, and every attribute in them has a
definition that can be taken apart. So a declared tag can be described: its attributes are listed in
ascending order, each with what the nearest fragment says of it that defines it.
-/

namespace TagGrammar

open Text

/-! ## Nearest definitions -/

/-- How an attribute is defined by the first fragment that defines it, from a fragment on. -/
inductive NearestDefinition (fs : List (String × FragmentBody)) (key : String) : String → String → Prop where
  | own {name definition : String} {body : FragmentBody} (h : (name, body) ∈ fs)
      (hkey : body.definitions.get? key = some definition) : NearestDefinition fs key name definition
  | inherited {name base definition : String} {body : FragmentBody} (h : (name, body) ∈ fs)
      (hkey : body.definitions.get? key = none) (hbase : body.base = some base)
      (hrest : NearestDefinition fs key base definition) : NearestDefinition fs key name definition

section
variable {fs : List (String × FragmentBody)} {key : String}

theorem NearestDefinition.exists_entry {name definition : String} (h : NearestDefinition fs key name definition) :
    ∃ fragment ∈ fs, (key, definition) ∈ fragment.2.definitions.entries := by
  induction h with
  | own h hkey => exact ⟨_, h, Table.get?_eq_some_iff.1 hkey⟩
  | inherited _ _ _ _ ih => exact ih

/-- Working out the definitions of a fragment keeps the nearest ones. -/
theorem Flattens.get?_eq_some_iff (hn : (fs.map Prod.fst).Nodup) {name : String} {definitions : Table String}
    (h : Flattens fs name definitions) {definition : String} :
    definitions.get? key = some definition ↔ NearestDefinition fs key name definition := by
  induction h with
  | @first name body h hbase =>
    constructor
    · exact fun hkey => .own h hkey
    · intro hnearest
      cases hnearest with
      | own h' hkey => rwa [body_unique hn h h']
      | inherited h' _ hbase' _ =>
        rw [body_unique hn h h', hbase'] at hbase
        cases hbase
  | @next name base body inherited h hbase hrest ih =>
    rw [Table.get?_update]
    cases hkey : body.definitions.get? key with
    | some own =>
      rw [Option.some_or]
      constructor
      · intro heq
        exact .own h (hkey.trans heq)
      · intro hnearest
        cases hnearest with
        | own h' hkey' =>
          rw [← body_unique hn h h', hkey] at hkey'
          exact hkey'
        | inherited h' hkey' _ _ =>
          rw [← body_unique hn h h', hkey] at hkey'
          cases hkey'
    | none =>
      rw [Option.none_or, ih]
      constructor
      · exact fun hnearest => .inherited h hkey hbase hnearest
      · intro hnearest
        cases hnearest with
        | own h' hkey' =>
          rw [← body_unique hn h h', hkey] at hkey'
          cases hkey'
        | inherited h' _ hbase' hrest' =>
          rw [← body_unique hn h h', hbase] at hbase'
          rwa [Option.some.inj hbase']

end

/-! ## Descriptions of definitions -/

/-- What is said of a definition. -/
inductive DescribedAs : String → String → Prop where
  | text : DescribedAs textDefinition "Type: String"
  | group {tokens : List String} (hne : tokens ≠ []) (h : ∀ token ∈ tokens, isName token.toList = true) :
      DescribedAs ("(" ++ "|".intercalate tokens ++ ")") ("Values: " ++ ", ".intercalate tokens)

namespace Schema

theorem groupTokens_group {tokens : List String} (hne : tokens ≠ [])
    (h : ∀ token ∈ tokens, isName token.toList = true) :
    groupTokens ("(" ++ "|".intercalate tokens ++ ")") = tokens := by
  have hbar : ∀ token ∈ tokens.map String.toList, '|' ∉ token := by
    intro token htoken
    obtain ⟨name, hname, rfl⟩ := List.mem_map.1 htoken
    exact not_mem_of_isName (h name hname) (by decide)
  have hsplit := List.splitOn_intercalate '|' hbar (by simpa using hne)
  have hgroup : (("(" ++ "|".intercalate tokens ++ ")").toList.drop 1).dropLast =
      ['|'].intercalate (tokens.map String.toList) := by
    simp [String.toList_intercalate]
  rw [groupTokens, hgroup, hsplit]
  simp

theorem describeDefinition_eq {definition description : String} (h : DescribedAs definition description) :
    describeDefinition definition = description := by
  unfold describeDefinition
  cases h with
  | text => rfl
  | @group tokens hne hnames =>
    -- free text does not start with a bracket
    have hfirst : "(" ++ "|".intercalate tokens ++ ")" ≠ textDefinition := by
      intro heq
      have hlist := congrArg String.toList heq
      simp [textDefinition] at hlist
    rw [if_neg hfirst, groupTokens_group hne hnames]

theorem exists_describedAs {definition : String} (h : IsDefinition definition.toList) :
    ∃ description, DescribedAs definition description := by
  generalize hword : definition.toList = word at h
  cases h with
  | text =>
    obtain rfl : definition = textDefinition := String.toList_inj.1 hword
    exact ⟨_, .text⟩
  | @group tokens hne hnames =>
    have hdefinition : definition = "(" ++ "|".intercalate (tokens.map String.ofList) ++ ")" := by
      apply String.toList_inj.1
      simp [hword, String.toList_intercalate, Function.comp_def]
    rw [hdefinition]
    exact ⟨_, .group (by simpa using hne) (by simpa using hnames)⟩

theorem describeDefinition_eq_iff {definition description : String} (h : IsDefinition definition.toList) :
    describeDefinition definition = description ↔ DescribedAs definition description := by
  refine ⟨fun heq => ?_, describeDefinition_eq⟩
  obtain ⟨found, hfound⟩ := exists_describedAs h
  rwa [← heq, describeDefinition_eq hfound]

/-! ## Descriptions of tags -/

/-- A schema whose tables agree on the tags and on the attributes of each. -/
structure Consistent (schema : Schema) : Prop where
  nodup : schema.tags.Nodup
  attributes : schema.attributes.keys = schema.tags
  definitions : schema.definitions.keys = schema.tags
  content : schema.content.keys = schema.tags
  names : ∀ tag definitions, schema.definitions.get? tag = some definitions →
    schema.attributes.get? tag = some definitions.keys
  defined : ∀ tag definitions, schema.definitions.get? tag = some definitions →
    ∀ entry ∈ definitions.entries, IsDefinition entry.2.toList

/-- The attributes of a tag in ascending order, each with the description of its definition. -/
structure Lists (definitions : Table String) (rows : List (String × String)) : Prop where
  ascending : (rows.map Prod.fst).Pairwise (· < ·)
  names : ∀ name, name ∈ rows.map Prod.fst ↔ name ∈ definitions.keys
  described : ∀ name description, (name, description) ∈ rows ↔
    ∃ definition, definitions.get? name = some definition ∧ DescribedAs definition description

theorem lists_describe {definitions : Table String}
    (h : ∀ entry ∈ definitions.entries, IsDefinition entry.2.toList) :
    Lists definitions ((sortNames definitions.keys).map fun name =>
      (name, describeDefinition ((definitions.get? name).getD textDefinition))) := by
  have hnames : ((sortNames definitions.keys).map fun name =>
      (name, describeDefinition ((definitions.get? name).getD textDefinition))).map Prod.fst =
      sortNames definitions.keys := by
    simp [Function.comp_def]
  refine ⟨by rw [hnames]; exact sortNames_pairwise definitions.nodup, fun name => by simp [hnames], ?_⟩
  intro name description
  simp only [List.mem_map, Prod.mk.injEq, mem_sortNames]
  constructor
  · rintro ⟨_, hmem, rfl, hdescription⟩
    obtain ⟨definition, hentry⟩ := Table.mem_keys_iff.1 hmem
    have hget := Table.get?_eq_some_iff.2 hentry
    rw [hget, Option.getD_some, describeDefinition_eq_iff (h _ hentry)] at hdescription
    exact ⟨definition, hget, hdescription⟩
  · rintro ⟨definition, hget, hdescribed⟩
    refine ⟨name, (Table.get?_isSome_iff _ _).1 (by simp [hget]), rfl, ?_⟩
    rw [hget, Option.getD_some, describeDefinition_eq hdescribed]

theorem Consistent.describe? {schema : Schema} (h : schema.Consistent) {tag : String} {definitions : Table String}
    (hget : schema.definitions.get? tag = some definitions) :
    ∃ rows, schema.describe? tag = some rows ∧ Lists definitions rows := by
  have htag : tag ∈ schema.tags := by
    rw [← h.definitions, ← Table.get?_isSome_iff, hget]
    rfl
  refine ⟨_, ?_, lists_describe (h.defined tag definitions hget)⟩
  simp only [Schema.describe?, List.contains_iff_mem.2 htag, h.names tag definitions hget, hget]
  rfl

theorem describe?_eq_none {schema : Schema} {tag : String} (h : tag ∉ schema.tags) :
    schema.describe? tag = none := by
  simp [Schema.describe?, h]

end Schema

/-! ## Schemas of grammar texts -/

section
variable {text : String} {schema : Schema} {ds : List Declaration} (hdeclares : Declares text ds)
include hdeclares

theorem Declares.isDefinition {fragment : String × FragmentBody} (h : fragment ∈ Declaration.fragments ds) :
    ∀ entry ∈ fragment.2.definitions.entries, IsDefinition entry.2.toList := by
  obtain ⟨name, body⟩ := fragment
  obtain ⟨line, spelled, -, hspells⟩ := hdeclares.exists_spells (Declaration.mem_fragments.1 h)
  exact hspells.definitions

theorem Schema.Describes.consistent (hds : Coherent ds) (h : schema.Describes ds) : schema.Consistent := by
  have hcontent : schema.content.keys = schema.tags := by
    rw [Table.keys, h.content, h.tags]
  have hlist : ∀ tag definitions, schema.definitions.get? tag = some definitions → ∃ name,
      Flattens (Declaration.fragments ds) name definitions ∧
        schema.attributes.get? tag = some definitions.keys := by
    intro tag definitions hget
    have htag : tag ∈ (Declaration.elements ds).map Prod.fst := by
      rw [← h.tags, ← h.keys_definitions, ← Table.get?_isSome_iff, hget]
      rfl
    obtain ⟨⟨_, name⟩, hmem, rfl⟩ := List.mem_map.1 ((hds.tags tag).1 htag)
    obtain ⟨found, hflat, hfound, hattributes⟩ := h.definitions _ name hmem
    obtain rfl := Option.some.inj (hget.symm.trans hfound)
    exact ⟨name, hflat, hattributes⟩
  refine ⟨?_, h.keys_attributes, h.keys_definitions, hcontent, fun tag definitions hget => ?_, ?_⟩
  · rw [← hcontent]
    exact schema.content.nodup
  · obtain ⟨name, -, hattributes⟩ := hlist tag definitions hget
    exact hattributes
  · intro tag definitions hget entry hentry
    obtain ⟨name, hflat, -⟩ := hlist tag definitions hget
    obtain ⟨fragment, hfragment, hmem⟩ :=
      ((hflat.get?_eq_some_iff hds.distinct.fragments).1 (Table.get?_eq_some_iff.2 hentry)).exists_entry
    exact hdeclares.isDefinition hfragment _ hmem

end

/-- **A schema is consistent, and it describes exactly the declared tags**: each attribute of a tag once, in
ascending order, by the definition of the nearest fragment that has one. -/
theorem Schema.describe_nearest {text : String} {schema : Schema} (h : Schema.parse text = .ok schema) :
    schema.Consistent ∧
    (∃ ds, Declares text ds ∧ Coherent ds ∧ schema.tags = (Declaration.elements ds).map Prod.fst ∧
      ∀ tag ∈ schema.tags, ∃ fragment rows, (tag, fragment) ∈ Declaration.attributeLists ds ∧
        schema.describe? tag = some rows ∧ (rows.map Prod.fst).Pairwise (· < ·) ∧
        (∀ name, name ∈ rows.map Prod.fst ↔ name ∈ schema.attributesFor tag) ∧
        ∀ name description, (name, description) ∈ rows ↔ ∃ definition,
          NearestDefinition (Declaration.fragments ds) name fragment definition ∧
            DescribedAs definition description) ∧
    ∀ tag, tag ∉ schema.tags → schema.describe? tag = none := by
  obtain ⟨ds, hdeclares, hds, hdescribes⟩ := parse_sound h
  have hconsistent := hdescribes.consistent hdeclares hds
  refine ⟨hconsistent, ⟨ds, hdeclares, hds, hdescribes.tags, fun tag htag => ?_⟩, fun tag => describe?_eq_none⟩
  rw [hdescribes.tags, hds.tags] at htag
  obtain ⟨⟨_, fragment⟩, hmem, rfl⟩ := List.mem_map.1 htag
  obtain ⟨definitions, hflat, hget, hattributes⟩ := hdescribes.definitions _ fragment hmem
  obtain ⟨rows, hrows, hlists⟩ := hconsistent.describe? hget
  refine ⟨fragment, rows, hmem, hrows, hlists.ascending, fun name => ?_, fun name description => ?_⟩
  · rw [hlists.names, attributesFor, hattributes]
    rfl
  · simp only [hlists.described, hflat.get?_eq_some_iff hds.distinct.fragments]

/-! ### A definition that hides another -/

namespace Sample

/-- The fragment of the tag says of one attribute what the one it continues says otherwise. -/
def layered : String :=
  "<!ATTLIST dial %Dial;>\n<!ENTITY % Dial \"%Knob; mode CDATA\">\n<!ELEMENT dial EMPTY>\n" ++
    "<!ENTITY % Knob \"mode (on|off) max (low|high)\">"

theorem parses_layered : ∃ schema definitions, Schema.parse layered = .ok schema ∧ schema.tags = ["dial"] ∧
    schema.definitions.get? "dial" = some definitions ∧ definitions.get? "mode" = some textDefinition ∧
    definitions.get? "max" = some "(low|high)" := by
  have h : ((Schema.parse layered).toOption.any fun schema => decide (schema.tags = ["dial"]) &&
      (schema.definitions.get? "dial").any fun definitions =>
        decide (definitions.get? "mode" = some textDefinition) &&
        decide (definitions.get? "max" = some "(low|high)")) = true := by
    decide +kernel
  simp only [Option.any_eq_true, toOption_eq_some_iff, Bool.and_eq_true, decide_eq_true_eq] at h
  obtain ⟨schema, hparse, htags, definitions, hget, hmode, hmax⟩ := h
  exact ⟨schema, definitions, hparse, htags, hget, hmode, hmax⟩

end Sample

theorem Sample.describe_nearest_dial : ∃ schema ds fragment rows,
    Schema.parse layered = .ok schema ∧ schema.Consistent ∧ Declares layered ds ∧
    ("dial", fragment) ∈ Declaration.attributeLists ds ∧ schema.describe? "dial" = some rows ∧
    (rows.map Prod.fst).Pairwise (· < ·) ∧ ("mode", "Type: String") ∈ rows ∧ ("max", "Values: low, high") ∈ rows ∧
    (∃ definition, NearestDefinition (Declaration.fragments ds) "mode" fragment definition ∧
      DescribedAs definition "Type: String") ∧ schema.describe? "Dial" = none := by
  obtain ⟨schema, definitions, hparse, htags, hget, hmode, hmax⟩ := parses_layered
  obtain ⟨hconsistent, ⟨ds, hdeclares, -, -, hall⟩, hnone⟩ := Schema.describe_nearest hparse
  obtain ⟨fragment, rows, hlist, hrows, hascending, -, hnearest⟩ := hall "dial" (by simp [htags])
  obtain ⟨others, hothers, hlists⟩ := hconsistent.describe? hget
  obtain rfl := Option.some.inj (hrows.symm.trans hothers)
  have hvalues : DescribedAs "(low|high)" "Values: low, high" :=
    .group (List.cons_ne_nil "low" ["high"]) (by decide)
  have hmodeRow := (hlists.described "mode" "Type: String").2 ⟨textDefinition, hmode, .text⟩
  have hmaxRow := (hlists.described "max" "Values: low, high").2 ⟨"(low|high)", hmax, hvalues⟩
  exact ⟨schema, ds, fragment, rows, hparse, hconsistent, hdeclares, hlist, hrows, hascending, hmodeRow, hmaxRow,
    (hnearest _ _).1 hmodeRow, hnone "Dial" (by simp [htags])⟩

end TagGrammar
