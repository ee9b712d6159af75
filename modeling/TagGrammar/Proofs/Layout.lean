import Mathlib.Data.List.Perm.Basic
import TagGrammar.Proofs.Rendering

/-!
# Order and layout of lines

Statements may stand in any order, with blanks around them and blank lines between them. What is
declared then stays the same up to its order, and neither the checks nor the definitions that a chain
of fragments leads to depend on that: a grammar text means what its statements mean as a collection
(`parse_of_perm`).
-/

namespace TagGrammar

open Text

/-! ## Declarations in another order -/

section
variable {ds es : List Declaration} (h : ds.Perm es)
include h

theorem Declaration.fragments_perm : (fragments ds).Perm (fragments es) :=
  h.filterMap _

theorem Declaration.elements_perm : (elements ds).Perm (elements es) :=
  h.filterMap _

theorem Declaration.attributeLists_perm : (attributeLists ds).Perm (attributeLists es) :=
  h.filterMap _

theorem Declaration.Distinct.perm (hds : Distinct ds) : Distinct es :=
  ⟨((fragments_perm h).map _).nodup_iff.1 hds.fragments, ((elements_perm h).map _).nodup_iff.1 hds.elements,
    ((attributeLists_perm h).map _).nodup_iff.1 hds.attributeLists⟩

end

theorem WellChained.perm {fs gs : List (String × FragmentBody)} (h : fs.Perm gs) (hfs : WellChained fs) :
    WellChained gs := by
  constructor
  · intro entry hentry base hbase
    rw [← (h.map Prod.fst).mem_iff]
    exact hfs.declared entry (h.mem_iff.2 hentry) base hbase
  · intro name hcycle
    have hback : ∀ next base, Continues gs next base → Continues fs next base := by
      intro next base hnext
      obtain ⟨body, hmem, hbase⟩ := hnext
      exact ⟨body, h.mem_iff.2 hmem, hbase⟩
    exact hfs.acyclic name (Relation.TransGen.mono hback name name hcycle)

theorem Coherent.perm {ds es : List Declaration} (h : ds.Perm es) (hds : Coherent ds) : Coherent es := by
  refine ⟨hds.distinct.perm h, hds.chained.perm (Declaration.fragments_perm h), fun tag => ?_, fun list hlist => ?_⟩
  · rw [← ((Declaration.elements_perm h).map _).mem_iff, ← ((Declaration.attributeLists_perm h).map _).mem_iff]
    exact hds.tags tag
  · rw [← ((Declaration.fragments_perm h).map _).mem_iff]
    exact hds.lists list ((Declaration.attributeLists_perm h).mem_iff.2 hlist)

/-! ## Schemas with the same contents -/

/-- Two schemas with the same tags that say the same of each. -/
structure Schema.Same (schema other : Schema) : Prop where
  tags : ∀ tag, tag ∈ schema.tags ↔ tag ∈ other.tags
  attributes : ∀ tag, schema.attributes.get? tag = other.attributes.get? tag
  definitions : ∀ tag, schema.definitions.get? tag = other.definitions.get? tag
  content : ∀ tag, schema.content.get? tag = other.content.get? tag

theorem Schema.Describes.get?_eq_none {schema : Schema} {ds : List Declaration} (h : schema.Describes ds)
    {tag : String} (htag : tag ∉ schema.tags) :
    schema.definitions.get? tag = none ∧ schema.attributes.get? tag = none := by
  rw [Table.get?_eq_none_iff, Table.get?_eq_none_iff, h.keys_definitions, h.keys_attributes]
  exact ⟨htag, htag⟩

theorem Schema.Describes.same {schema other : Schema} {ds es : List Declaration} (hds : Coherent ds)
    (hperm : ds.Perm es) (h : schema.Describes ds) (h' : other.Describes es) : schema.Same other := by
  have htags : ∀ tag, tag ∈ schema.tags ↔ tag ∈ other.tags := by
    intro tag
    rw [h.tags, h'.tags, ((Declaration.elements_perm hperm).map _).mem_iff]
  have hentry : ∀ tag, schema.definitions.get? tag = other.definitions.get? tag ∧
      schema.attributes.get? tag = other.attributes.get? tag := by
    intro tag
    by_cases htag : tag ∈ schema.tags
    · obtain ⟨⟨_, name⟩, hlist, rfl⟩ := List.mem_map.1 ((hds.tags tag).1 (h.tags ▸ htag))
      have hlist' := (Declaration.attributeLists_perm hperm).mem_iff.1 hlist
      obtain ⟨definitions, hflat, hdefs, hattrs⟩ := h.definitions _ name hlist
      obtain ⟨others, hflat', hdefs', hattrs'⟩ := h'.definitions _ name hlist'
      -- the chain of the fragment is the same wherever its fragments are declared
      have hmoved : Flattens (Declaration.fragments es) name definitions :=
        hflat.transfer (p := fun _ => True)
          (fun _ _ _ hmem => ⟨(Declaration.fragments_perm hperm).mem_iff.1 hmem, fun _ _ => trivial⟩) trivial
      obtain rfl := hmoved.unique (hds.perm hperm).distinct.fragments hflat'
      rw [hdefs, hdefs', hattrs, hattrs']
      exact ⟨rfl, rfl⟩
    · have hnone := h.get?_eq_none htag
      have hnone' := h'.get?_eq_none (mt (htags tag).2 htag)
      rw [hnone.1, hnone.2, hnone'.1, hnone'.2]
      exact ⟨rfl, rfl⟩
  refine ⟨htags, fun tag => (hentry tag).2, fun tag => (hentry tag).1, fun tag => ?_⟩
  apply Table.get?_eq_of_perm
  rw [h.content, h'.content]
  exact Declaration.elements_perm hperm

/-- Texts with the same statements, in whatever order, have the same schema or none. -/
theorem Schema.parse_of_perm {text other : String} {schema : Schema}
    (hperm : (statementLines (lines text.toList)).Perm (statementLines (lines other.toList)))
    (h : Schema.parse text = .ok schema) : ∃ found, Schema.parse other = .ok found ∧ schema.Same found := by
  obtain ⟨ds, hdeclares, hds, hdescribes⟩ := parse_sound h
  obtain ⟨es, hes, hmoved⟩ := List.perm_comp_forall₂ hperm.symm hdeclares
  obtain ⟨found, hparse, hfound⟩ := parse_complete hes (hds.perm hmoved.symm)
  exact ⟨found, hparse, hdescribes.same hds hmoved.symm hfound⟩

/-! ## Lines of a text -/

theorem Text.lines_of_isLine {line : List Char} (h : IsLine line) (hne : line ≠ []) : lines line = [line] := by
  induction line with
  | nil => exact absurd rfl hne
  | cons c rest ih =>
    obtain ⟨hc, hrest⟩ := List.forall_mem_cons.1 h
    have hreturn : c ≠ '\r' := by
      rintro rfl
      exact absurd hc (by decide)
    rw [lines_cons fun heq => absurd heq hreturn, hc]
    cases rest with
    | nil => rfl
    | cons d rest =>
      rw [ih hrest (by simp)]
      rfl

theorem statementLines_cons_congr (line : List Char) {ls ms : List (List Char)}
    (h : statementLines ls = statementLines ms) : statementLines (line :: ls) = statementLines (line :: ms) := by
  by_cases hblank : trim line = []
  · rw [Declarations.statementLines_cons_blank hblank, Declarations.statementLines_cons_blank hblank, h]
  · rw [Declarations.statementLines_cons hblank, Declarations.statementLines_cons hblank, h]

/-- A text has the statements of the lines it is joined from. A last line that is empty is lost. -/
theorem statementLines_intercalate {ls : List (List Char)} (h : ∀ line ∈ ls, IsLine line) :
    statementLines (lines (['\n'].intercalate ls)) = statementLines ls := by
  induction ls with
  | nil => rfl
  | cons line ls ih =>
    obtain ⟨hline, hrest⟩ := List.forall_mem_cons.1 h
    cases ls with
    | nil =>
      rw [List.intercalate_singleton]
      by_cases hne : line = []
      · subst hne
        rfl
      · rw [lines_of_isLine hline hne]
    | cons next ls =>
      rw [List.intercalate_cons_cons, List.append_assoc, List.singleton_append, lines_append_newline hline]
      exact statementLines_cons_congr line (ih hrest)

theorem statementLines_joined {ls : List String} (h : ∀ line ∈ ls, IsLine line.toList) :
    statementLines (lines ("\n".intercalate ls).toList) = statementLines (ls.map String.toList) := by
  rw [String.toList_intercalate]
  exact statementLines_intercalate (by simpa using h)

/-! ## Layout -/

/-- Blanks that end no line. -/
def IsPadding (text : List Char) : Prop :=
  ∀ c ∈ text, isBlank c = true ∧ isLineBreak c = false

/-- A line with padding before and after it. -/
def Pads (line padded : String) : Prop :=
  ∃ before after, IsPadding before ∧ IsPadding after ∧ padded.toList = before ++ line.toList ++ after

/-- The same lines with padding around them, blank lines between them and in any order. -/
inductive Relaid : List String → List String → Prop where
  | nil : Relaid [] []
  | line {line padded : String} {ls others : List String} (h : Pads line padded) (hrest : Relaid ls others) :
      Relaid (line :: ls) (padded :: others)
  | blank {blank : String} {ls others : List String} (h : IsPadding blank.toList) (hrest : Relaid ls others) :
      Relaid ls (blank :: others)
  | perm {ls others moved : List String} (h : Relaid ls others) (hmoved : others.Perm moved) : Relaid ls moved

theorem IsPadding.isLine {text : List Char} (h : IsPadding text) : IsLine text :=
  fun c hc => (h c hc).2

theorem trim_of_isBlanks {text : List Char} (h : IsBlanks text) : trim text = [] := by
  rw [trim, trimWhile, List.dropWhile_eq_nil_iff.2 h]
  rfl

theorem trim_append_blanks {before text after : List Char} (hbefore : IsBlanks before) (hafter : IsBlanks after) :
    trim (before ++ text ++ after) = trim text := by
  have hend : ∀ c ∈ after.reverse, isBlank c = true := fun c hc => hafter c (List.mem_reverse.1 hc)
  rw [trim, trim, trimWhile, trimWhile, List.append_assoc, List.dropWhile_append_of_pos hbefore,
    List.dropWhile_append]
  by_cases hblank : text.dropWhile isBlank = []
  · rw [hblank, List.dropWhile_eq_nil_iff.2 hafter]
    rfl
  · have hsome : ¬ (text.dropWhile isBlank).isEmpty = true := by simpa using hblank
    rw [if_neg hsome, dropEndWhile, dropEndWhile, List.reverse_append, List.dropWhile_append_of_pos hend]

theorem Pads.trim_eq {line padded : String} (h : Pads line padded) : trim padded.toList = trim line.toList := by
  obtain ⟨before, after, hbefore, hafter, heq⟩ := h
  rw [heq]
  exact trim_append_blanks (fun c hc => (hbefore c hc).1) fun c hc => (hafter c hc).1

theorem Pads.isLine {line padded : String} (h : Pads line padded) (hline : IsLine line.toList) :
    IsLine padded.toList := by
  obtain ⟨before, after, hbefore, hafter, heq⟩ := h
  rw [heq]
  exact (hbefore.isLine.append hline).append hafter.isLine

theorem Relaid.isLine {ls others : List String} (h : Relaid ls others) (hls : ∀ line ∈ ls, IsLine line.toList) :
    ∀ line ∈ others, IsLine line.toList := by
  induction h with
  | nil => exact hls
  | line h _ ih =>
    rw [List.forall_mem_cons] at hls ⊢
    exact ⟨h.isLine hls.1, ih hls.2⟩
  | blank h _ ih => exact List.forall_mem_cons.2 ⟨h.isLine, ih hls⟩
  | perm _ hmoved ih => exact fun line hline => ih hls line (hmoved.mem_iff.2 hline)

theorem Relaid.statementLines_perm {ls others : List String} (h : Relaid ls others) :
    (statementLines (ls.map String.toList)).Perm (statementLines (others.map String.toList)) := by
  induction h with
  | nil => exact .nil
  | @line line padded ls others h _ ih =>
    have htrim := h.trim_eq
    rw [List.map_cons, List.map_cons]
    by_cases hblank : trim line.toList = []
    · rw [Declarations.statementLines_cons_blank hblank, Declarations.statementLines_cons_blank (htrim ▸ hblank)]
      exact ih
    · rw [Declarations.statementLines_cons hblank, Declarations.statementLines_cons (htrim ▸ hblank), htrim]
      exact ih.cons _
  | blank h _ ih =>
    rw [List.map_cons, Declarations.statementLines_cons_blank (trim_of_isBlanks fun c hc => (h c hc).1)]
    exact ih
  | perm _ hmoved ih => exact ih.trans (((hmoved.map _).map _).filter _)

/-- **Order and layout of its lines do not change what a grammar means.** -/
theorem Schema.parse_relaid {ls others : List String} (hls : ∀ line ∈ ls, IsLine line.toList)
    (h : Relaid ls others) :
    ((∃ schema, Schema.parse ("\n".intercalate ls) = .ok schema) ↔
      ∃ schema, Schema.parse ("\n".intercalate others) = .ok schema) ∧
    ∀ schema other, Schema.parse ("\n".intercalate ls) = .ok schema →
      Schema.parse ("\n".intercalate others) = .ok other → schema.Same other := by
  have hperm : (statementLines (lines ("\n".intercalate ls).toList)).Perm
      (statementLines (lines ("\n".intercalate others).toList)) := by
    rw [statementLines_joined hls, statementLines_joined (h.isLine hls)]
    exact h.statementLines_perm
  refine ⟨⟨?_, ?_⟩, ?_⟩
  · rintro ⟨schema, hparse⟩
    obtain ⟨found, hfound, -⟩ := parse_of_perm hperm hparse
    exact ⟨found, hfound⟩
  · rintro ⟨schema, hparse⟩
    obtain ⟨found, hfound, -⟩ := parse_of_perm hperm.symm hparse
    exact ⟨found, hfound⟩
  · intro schema other hparse hother
    obtain ⟨found, hfound, hsame⟩ := parse_of_perm hperm hparse
    obtain rfl := Except.ok.inj (hfound.symm.trans hother)
    exact hsame

/-! ### Two layouts of one grammar -/

namespace Sample

def tidyLines : List String :=
  ["<!ENTITY % Field \"text CDATA locked (true|false)\">", "<!ENTITY % Picker \"%Field; text (left|right)\">",
    "<!ELEMENT pick EMPTY>", "<!ATTLIST pick %Picker;>"]

/-- Users before what they use, with tabs and other blanks around them, and two blank lines. -/
def untidyLines : List String :=
  ["\t<!ATTLIST pick %Picker;>", " \u001f\u00a0", "<!ENTITY % Picker \"%Field; text (left|right)\"> ",
    "<!ELEMENT pick EMPTY>", "", "\u2003<!ENTITY % Field \"text CDATA locked (true|false)\">\t "]

theorem relaid_untidyLines : Relaid tidyLines untidyLines := by
  have hpadding : ∀ {text : List Char}, (text.all fun c => isBlank c && !isLineBreak c) = true →
    IsPadding text := by
    intro text h c hc
    simpa using List.all_eq_true.1 h c hc
  have hpads : ∀ {line padded : String} (before after : List Char),
      (before.all fun c => isBlank c && !isLineBreak c) = true →
        (after.all fun c => isBlank c && !isLineBreak c) = true →
      padded.toList = before ++ line.toList ++ after → Pads line padded :=
    fun before after hbefore hafter heq => ⟨before, after, hpadding hbefore, hpadding hafter, heq⟩
  have hlines : Relaid tidyLines
      [" \u001f\u00a0", "", "\u2003<!ENTITY % Field \"text CDATA locked (true|false)\">\t ",
        "<!ENTITY % Picker \"%Field; text (left|right)\"> ", "<!ELEMENT pick EMPTY>",
          "\t<!ATTLIST pick %Picker;>"] :=
    .blank (hpadding (by decide)) (.blank (hpadding (by decide))
      (.line (hpads ['\u2003'] ['\t', ' '] (by decide) (by decide) (by decide))
        (.line (hpads [] [' '] (by decide) (by decide) (by decide))
          (.line (hpads [] [] (by decide) (by decide) (by decide))
            (.line (hpads ['\t'] [] (by decide) (by decide) (by decide)) .nil)))))
  exact .perm hlines (by decide)

end Sample

theorem Sample.parse_untidyLines : (∀ line ∈ tidyLines, IsLine line.toList) ∧ Relaid tidyLines untidyLines ∧
    ∃ schema other, Schema.parse ("\n".intercalate tidyLines) = .ok schema ∧
      Schema.parse ("\n".intercalate untidyLines) = .ok other ∧ schema.tags = ["pick"] ∧ schema.Same other := by
  have hlines : ∀ line ∈ tidyLines, IsLine line.toList := by
    unfold IsLine
    decide
  obtain ⟨haccepts, hsame⟩ := Schema.parse_relaid hlines relaid_untidyLines
  have hpick : (Schema.parse ("\n".intercalate tidyLines)).toOption.map Schema.tags = some ["pick"] := by
    decide +kernel
  obtain ⟨schema, hparse, htags⟩ := Option.map_eq_some_iff.1 hpick
  rw [toOption_eq_some_iff] at hparse
  obtain ⟨other, hother⟩ := haccepts.1 ⟨schema, hparse⟩
  exact ⟨hlines, relaid_untidyLines, schema, other, hparse, hother, htags, hsame schema other hparse hother⟩

end TagGrammar
