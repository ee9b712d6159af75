import TagGrammar.Proofs.Acceptance

/-!
# Written statements read back

A statement made of names is written in a line that spells it, and the lines of a written grammar
are the written statements. A fragment's body spells the fragment's base and attributes.
-/

namespace TagGrammar

open Text

/-- A text that is one line. -/
def IsLine (text : List Char) : Prop :=
  ∀ c ∈ text, isLineBreak c = false

theorem IsLine.append {s t : List Char} (hs : IsLine s) (ht : IsLine t) : IsLine (s ++ t) := by
  intro c hc
  rcases List.mem_append.1 hc with hc | hc
  · exact hs c hc
  · exact ht c hc

theorem IsLine.of_isSolid {text : List Char} (h : IsSolid text) : IsLine text := by
  intro c hc
  by_contra hbreak
  rw [Bool.not_eq_false] at hbreak
  have hblank := isBlank_of_isLineBreak hbreak
  rw [h c hc] at hblank
  cases hblank

theorem mem_intercalate {sep c : Char} {parts : List (List Char)} (h : c ∈ [sep].intercalate parts) :
    c = sep ∨ ∃ part ∈ parts, c ∈ part := by
  induction parts with
  | nil => cases h
  | cons part parts ih =>
    cases parts with
    | nil => exact .inr ⟨part, by simp, by simpa using h⟩
    | cons next parts =>
      rw [List.intercalate_cons_cons, List.mem_append, List.mem_append, List.mem_singleton] at h
      rcases h with (h | h) | h
      · exact .inr ⟨part, by simp, h⟩
      · exact .inl h
      · rcases ih h with h | ⟨other, hother, h⟩
        · exact .inl h
        · exact .inr ⟨other, List.mem_cons_of_mem _ hother, h⟩

theorem mem_intercalate_of_mem {sep c : Char} {parts : List (List Char)} {part : List Char} (hpart : part ∈ parts)
    (hc : c ∈ part) : c ∈ [sep].intercalate parts := by
  induction parts with
  | nil => cases hpart
  | cons first rest ih =>
    cases rest with
    | nil =>
      obtain rfl := List.mem_singleton.1 hpart
      simpa using hc
    | cons next rest =>
      rw [List.intercalate_cons_cons, List.mem_append]
      rcases List.mem_cons.1 hpart with rfl | hpart
      · exact .inl (List.mem_append_left _ hc)
      · exact .inr (ih hpart)

theorem IsLine.intercalate {parts : List (List Char)} (h : ∀ part ∈ parts, IsLine part) :
    IsLine ([' '].intercalate parts) := by
  intro c hc
  rcases mem_intercalate hc with rfl | ⟨part, hpart, hc⟩
  · decide
  · exact h part hpart c hc

/-! ## Names -/

theorem isFragmentName_of_isName {name : String} (h : isName name.toList = true) :
    IsFragmentName name := by
  obtain ⟨hne, hchars⟩ := isName_iff.1 h
  refine ⟨hne, fun c hc => ?_⟩
  have := hchars c hc
  simp only [isNameChar, reservedChars, Bool.and_eq_true, Bool.not_eq_true', List.contains_eq_mem,
    decide_eq_false_iff_not, List.mem_cons, not_or] at this
  simp [isFragmentNameChar, this]

theorem isTag_of_isName {tag : String} (h : isName tag.toList = true) : IsTag tag := by
  obtain ⟨hne, hchars⟩ := isName_iff.1 h
  refine ⟨hne, fun c hc => ?_⟩
  have := hchars c hc
  simp only [isNameChar, reservedChars, Bool.and_eq_true, Bool.not_eq_true', List.contains_eq_mem,
    decide_eq_false_iff_not, List.mem_cons, not_or] at this
  simp [isTagChar, this]

theorem isSolid_of_isFragmentNameChar {text : List Char} (h : ∀ c ∈ text, isFragmentNameChar c = true) :
    IsSolid text :=
  fun c hc => isBlank_of_isFragmentNameChar (h c hc)

theorem not_mem_quote_of_isFragmentNameChar {text : List Char} (h : ∀ c ∈ text, isFragmentNameChar c = true) :
    '"' ∉ text := by
  intro hc
  have := h _ hc
  simp [isFragmentNameChar] at this

theorem IsFragmentName.isSolid {name : String} (h : IsFragmentName name) : IsSolid name.toList :=
  isSolid_of_isFragmentNameChar h.2

theorem IsTag.isSolid {tag : String} (h : IsTag tag) : IsSolid tag.toList :=
  fun c hc => isBlank_of_isTagChar (h.2 c hc)

/-! ## Statements -/

namespace Statement

theorem spells_render_fragment {name body : String} (hname : IsFragmentName name)
    (hbody : '"' ∉ body.toList) : Spells (render (.fragment name body)).toList (.fragment name body) := by
  have h : Spells _ (.fragment name body) :=
    .fragment isGap_space isGap_space isGap_space (List.forall_mem_nil _) hname hbody
  simpa [render] using h

theorem spells_render_element {tag : String} (content : ContentModel) (htag : IsTag tag) :
    Spells (render (.element tag content)).toList (.element tag content) := by
  have h : Spells _ (.element tag content) :=
    .element isGap_space isGap_space (List.forall_mem_nil _) htag
  simpa [render] using h

theorem spells_render_attributeList {tag name : String} (htag : IsTag tag)
    (hname : IsFragmentName name) :
    Spells (render (.attributeList tag name)).toList (.attributeList tag name) := by
  have h : Spells _ (.attributeList tag name) :=
    .attributeList isGap_space isGap_space (List.forall_mem_nil _) htag hname
  simpa [render] using h

/-- The texts that a statement is made of. -/
def texts : Statement → List String
  | fragment name body => [name, body]
  | element tag _ => [tag]
  | attributeList tag name => [tag, name]

/-- A written statement starts with `<` and ends with `>`, and nothing else closes it if none of its
texts does. -/
theorem render_closes (statement : Statement) : ∃ inner, statement.render.toList = '<' :: inner ++ ['>'] ∧
    ((∀ text ∈ statement.texts, '>' ∉ text.toList) → '>' ∉ '<' :: inner) := by
  cases statement with
  | fragment name body =>
    refine ⟨"!ENTITY % ".toList ++ (name ++ " \"" ++ body ++ "\"").toList, by simp [render], fun h => ?_⟩
    simp only [texts, List.forall_mem_cons] at h
    simp [h.1, h.2.1]
  | element tag content =>
    refine ⟨"!ELEMENT ".toList ++ (tag ++ " " ++ content.word).toList, by simp [render], fun h => ?_⟩
    have hword : '>' ∉ content.word.toList := by
      cases content <;> decide
    simp only [texts, List.forall_mem_cons] at h
    simp [h.1, hword]
  | attributeList tag name =>
    refine ⟨"!ATTLIST ".toList ++ (tag ++ " %" ++ name ++ ";").toList, by simp [render], fun h => ?_⟩
    simp only [texts, List.forall_mem_cons] at h
    simp [h.1, h.2.1]

theorem trim_render (statement : Statement) :
    trim statement.render.toList = statement.render.toList ∧ statement.render.toList ≠ [] := by
  obtain ⟨inner, hinner, -⟩ := statement.render_closes
  rw [hinner]
  refine ⟨trim_eq_self (stopsAt_cons (by decide)) ?_, by simp⟩
  rw [List.reverse_append]
  exact stopsAt_cons (by decide)

end Statement

/-! ## Bodies of fragments -/

theorem IsDefinition.ne_nil {word : List Char} (h : IsDefinition word) : word ≠ [] := by
  cases h with
  | text => decide
  | group => simp

theorem IsDefinition.isSolid {word : List Char} (h : IsDefinition word) :
    IsSolid word ∧ '"' ∉ word := by
  have hmark : ∀ c ∈ ['(', ')', '|'], isBlank c = false ∧ c ≠ '"' := by decide
  cases h with
  | text => exact ⟨by decide, by decide⟩
  | @group tokens _ h =>
    have hchar : ∀ c ∈ '(' :: ['|'].intercalate tokens ++ [')'], isBlank c = false ∧ c ≠ '"' := by
      intro c hc
      rw [List.cons_append, List.mem_cons, List.mem_append, List.mem_singleton] at hc
      rcases hc with rfl | hc | rfl
      · exact hmark _ (by simp)
      · rcases mem_intercalate hc with rfl | ⟨token, htoken, hc⟩
        · exact hmark _ (by simp)
        · refine ⟨isSolid_of_isName (h token htoken) c hc, ?_⟩
          rintro rfl
          exact not_mem_of_isName (h token htoken) (by decide) hc
      · exact hmark _ (by simp)
    exact ⟨fun c hc => (hchar c hc).1, fun hc => (hchar _ hc).2 rfl⟩

/-- An attribute of free text or with names for tokens has a definition that can be read. -/
theorem Attribute.isDefinition_definition {attr : Attribute}
    (h : attr.kind = .text ∨ attr.tokens ≠ [] ∧ ∀ token ∈ attr.tokens, isName token.toList = true) :
    IsDefinition attr.definition.toList := by
  obtain ⟨name, kind, tokens⟩ := attr
  have hgroup : tokens ≠ [] ∧ (∀ token ∈ tokens, isName token.toList = true) →
      IsDefinition ("(" ++ "|".intercalate tokens ++ ")").toList := by
    rintro ⟨hne, htokens⟩
    have hwords : IsDefinition ('(' :: ['|'].intercalate (tokens.map String.toList) ++ [')']) :=
      .group (by simpa using hne) (by simpa using htokens)
    simpa [String.toList_intercalate] using hwords
  cases kind with
  | text => exact .text
  | boolean => exact hgroup (by simpa using h)
  | tokens => exact hgroup (by simpa using h)

namespace Fragment

/-- The base of a fragment and the definitions it adds. -/
def value (fragment : Fragment) : FragmentBody :=
  ⟨fragment.base, .ofList (fragment.attributes.map fun attr => (attr.name, attr.definition))⟩

/-- A fragment with names of any length, attributes with names and definitions that can be read, and no
attribute twice. -/
structure Composed (fragment : Fragment) : Prop where
  name : ∀ c ∈ fragment.name.toList, isFragmentNameChar c = true
  base : ∀ base ∈ fragment.base, ∀ c ∈ base.toList, isFragmentNameChar c = true
  names : ∀ attr ∈ fragment.attributes, isName attr.name.toList = true
  definitions : ∀ attr ∈ fragment.attributes, IsDefinition attr.definition.toList
  nodup : (fragment.attributes.map Attribute.name).Nodup

/-- A fragment that can be read back once it is written. -/
structure Legible (fragment : Fragment) : Prop where
  name : IsFragmentName fragment.name
  base : ∀ base ∈ fragment.base, IsFragmentName base
  names : ∀ attr ∈ fragment.attributes, isName attr.name.toList = true
  definitions : ∀ attr ∈ fragment.attributes, IsDefinition attr.definition.toList
  nodup : (fragment.attributes.map Attribute.name).Nodup

variable {fragment : Fragment}

theorem Legible.composed (h : fragment.Legible) : fragment.Composed :=
  ⟨h.name.2, fun base hbase => (h.base base hbase).2, h.names, h.definitions, h.nodup⟩

theorem toList_body (fragment : Fragment) : fragment.body.toList = [' '].intercalate
    (fragment.base.toList.map FragmentBody.reference ++
      fragment.attributes.map fun attr => attr.name.toList ++ ' ' :: attr.definition.toList) := by
  have href : FragmentBody.reference = fun base => '%' :: base.toList ++ [';'] := rfl
  simp [body, String.toList_intercalate, href, Function.comp_def]

theorem isLine_body {fragment : Fragment} (hbase : ∀ base ∈ fragment.base, IsSolid base.toList)
    (hattributes : ∀ attr ∈ fragment.attributes, IsLine attr.name.toList ∧ IsSolid attr.definition.toList) :
    IsLine fragment.body.toList := by
  have hends : IsLine ['%'] ∧ IsLine [';'] ∧ IsLine [' '] := by
    unfold IsLine
    decide
  rw [toList_body]
  refine .intercalate fun part hpart => ?_
  rcases List.mem_append.1 hpart with hpart | hpart
  · obtain ⟨base, hmem, rfl⟩ := List.mem_map.1 hpart
    exact (hends.1.append (.of_isSolid (hbase base (by simpa using hmem)))).append hends.2.1
  · obtain ⟨attr, hattr, rfl⟩ := List.mem_map.1 hpart
    obtain ⟨hname, hdefinition⟩ := hattributes attr hattr
    exact hname.append (hends.2.2.append (.of_isSolid hdefinition))

theorem words_body (fragment : Fragment) : words fragment.body.toList =
    (fragment.base.toList.flatMap fun base => words (FragmentBody.reference base)) ++
      fragment.attributes.flatMap fun attr => words attr.name.toList ++ words attr.definition.toList := by
  rw [toList_body, words_intercalate, List.flatMap_append, List.flatMap_map, List.flatMap_map]
  simp only [words_append_blank (by decide : isBlank ' ' = true)]

theorem Composed.entries_value (h : fragment.Composed) :
    fragment.value.definitions.entries = fragment.attributes.map fun attr => (attr.name, attr.definition) :=
  Table.entries_ofList (by simpa [Function.comp_def] using h.nodup)

theorem Composed.isLine_body (h : fragment.Composed) :
    IsLine fragment.body.toList ∧ '"' ∉ fragment.body.toList := by
  have hdefinition : ∀ attr ∈ fragment.attributes, IsSolid attr.definition.toList ∧ '"' ∉ attr.definition.toList :=
    fun attr hattr => (h.definitions attr hattr).isSolid
  constructor
  · apply Fragment.isLine_body
    · exact fun base hbase => isSolid_of_isFragmentNameChar (h.base base hbase)
    · exact fun attr hattr =>
        ⟨.of_isSolid (isSolid_of_isName (h.names attr hattr)), (hdefinition attr hattr).1⟩
  · rw [toList_body]
    intro hc
    rcases mem_intercalate hc with hc | ⟨part, hpart, hc⟩
    · cases hc
    · rcases List.mem_append.1 hpart with hpart | hpart
      · obtain ⟨base, hbase, rfl⟩ := List.mem_map.1 hpart
        have hquote := not_mem_quote_of_isFragmentNameChar (h.base base (by simpa using hbase))
        simp [FragmentBody.reference, hquote] at hc
      · obtain ⟨attr, hattr, rfl⟩ := List.mem_map.1 hpart
        have hquote := not_mem_of_isName (h.names attr hattr) (c := '"') (by decide)
        simp [hquote, (hdefinition attr hattr).2] at hc

theorem words_reference {base : String} (h : IsSolid base.toList) :
    words (FragmentBody.reference base) = [FragmentBody.reference base] := by
  apply words_of_isSolid (by simp [FragmentBody.reference])
  intro c hc
  simp only [FragmentBody.reference, List.cons_append, List.mem_cons, List.mem_append,
    List.not_mem_nil, or_false] at hc
  rcases hc with rfl | hc | rfl
  · decide
  · exact h c hc
  · decide

theorem Composed.words_body (h : fragment.Composed) : words fragment.body.toList =
    fragment.base.toList.map FragmentBody.reference ++
      FragmentBody.pairWords (fragment.attributes.map fun attr => (attr.name, attr.definition)) := by
  have hbase : ∀ base ∈ fragment.base.toList, words (FragmentBody.reference base) = [FragmentBody.reference base] :=
    fun base hbase => words_reference (isSolid_of_isFragmentNameChar (h.base base (by simpa using hbase)))
  have hattr : ∀ attr ∈ fragment.attributes, words attr.name.toList ++ words attr.definition.toList =
      [attr.name.toList, attr.definition.toList] := by
    intro attr hattr
    have hdef := h.definitions attr hattr
    have hname := h.names attr hattr
    rw [words_of_isSolid (isName_iff.1 hname).1 (isSolid_of_isName hname),
      words_of_isSolid hdef.ne_nil hdef.isSolid.1]
    rfl
  rw [Fragment.words_body, List.flatMap_congr hbase, List.flatMap_congr hattr, FragmentBody.pairWords,
    List.flatMap_map, List.map_eq_flatMap]

theorem Composed.spells_body (h : fragment.Composed) (hbase : ∀ base ∈ fragment.base, IsFragmentName base) :
    FragmentBody.Spells fragment.body.toList fragment.value := by
  refine ⟨?_, hbase, ?_, ?_⟩
  · rw [h.words_body, h.entries_value]
    rfl
  · rw [h.entries_value]
    intro entry hentry
    obtain ⟨attr, hattr, rfl⟩ := List.mem_map.1 hentry
    exact h.names attr hattr
  · rw [h.entries_value]
    intro entry hentry
    obtain ⟨attr, hattr, rfl⟩ := List.mem_map.1 hentry
    exact h.definitions attr hattr

theorem Legible.spells_body (h : fragment.Legible) : FragmentBody.Spells fragment.body.toList fragment.value :=
  h.composed.spells_body h.base

/-- A fragment whose statement is a line that declares the given body. -/
structure Spelled (fragment : Fragment) (value : FragmentBody) : Prop where
  name : IsFragmentName fragment.name
  line : IsLine fragment.body.toList
  noQuote : '"' ∉ fragment.body.toList
  body : FragmentBody.Spells fragment.body.toList value

theorem Legible.spelled (h : fragment.Legible) : fragment.Spelled fragment.value :=
  ⟨h.name, h.composed.isLine_body.1, h.composed.isLine_body.2, h.spells_body⟩

theorem Spelled.base_eq {value : FragmentBody} (h : fragment.Spelled value) {base : String}
    (hbase : fragment.base = some base) (hname : IsFragmentName base) : value.base = some base := by
  have hwords := h.body.words_eq
  rw [toList_body, hbase, Option.toList_some, List.map_singleton, words_intercalate, List.flatMap_append,
    List.flatMap_singleton, words_reference hname.isSolid] at hwords
  cases hvalue : value.base with
  | none =>
    rw [hvalue] at hwords
    exact absurd hwords.symm (FragmentBody.pairWords_ne_reference h.body.names)
  | some other =>
    rw [hvalue] at hwords
    rw [FragmentBody.reference_injective (List.cons.inj hwords).1]

theorem Spelled.spells {value : FragmentBody} (h : fragment.Spelled value) :
    Declaration.Spells fragment.statement.render.toList (.fragment fragment.name value) :=
  ⟨fragment.body, Statement.spells_render_fragment h.name h.noQuote, h.body⟩

end Fragment

/-! ## Lines of a written grammar -/

namespace Statement

theorem isLine_render_fragment {name body : String} (hname : IsSolid name.toList)
    (hbody : IsLine body.toList) : IsLine (render (.fragment name body)).toList := by
  have hfixed : IsLine "<!ENTITY % ".toList ∧ IsLine " \"".toList ∧ IsLine "\">".toList := by
    unfold IsLine
    decide
  simp only [render, String.toList_append]
  exact (((hfixed.1.append (.of_isSolid hname)).append hfixed.2.1).append hbody).append hfixed.2.2

theorem isLine_render_element {tag : String} (content : ContentModel) (htag : IsTag tag) :
    IsLine (render (.element tag content)).toList := by
  have hfixed : IsLine "<!ELEMENT ".toList ∧ IsLine " ".toList ∧ IsLine ">".toList := by
    unfold IsLine
    decide
  have hword : IsLine content.word.toList := by
    unfold IsLine
    cases content <;> decide
  simp only [render, String.toList_append]
  exact (((hfixed.1.append (.of_isSolid htag.isSolid)).append hfixed.2.1).append hword).append hfixed.2.2

theorem isLine_render_attributeList {tag name : String} (htag : IsTag tag)
    (hname : IsFragmentName name) : IsLine (render (.attributeList tag name)).toList := by
  have hfixed : IsLine "<!ATTLIST ".toList ∧ IsLine " %".toList ∧ IsLine ";>".toList := by
    unfold IsLine
    decide
  simp only [render, String.toList_append]
  exact (((hfixed.1.append (.of_isSolid htag.isSolid)).append hfixed.2.1).append
    (.of_isSolid hname.isSolid)).append hfixed.2.2

end Statement

theorem toList_joined_lines {ls : List String} (h : ls ≠ []) :
    ("\n".intercalate ls ++ "\n").toList = (ls.map String.toList).flatMap (· ++ ['\n']) := by
  induction ls with
  | nil => exact absurd rfl h
  | cons line ls ih =>
    cases ls with
    | nil => simp
    | cons next ls =>
      have ih := ih (by simp)
      simp only [String.intercalate_cons_cons, String.toList_append, List.map_cons,
        List.flatMap_cons] at ih ⊢
      rw [List.append_assoc, ih]
      simp

/-- Trimmed lines come out of a text as they went in. -/
theorem statementLines_flatMap {ls : List (List Char)}
    (h : ∀ line ∈ ls, IsLine line ∧ trim line = line ∧ line ≠ []) :
    statementLines (lines (ls.flatMap (· ++ ['\n']))) = ls := by
  rw [lines_flatMap_newline fun line hl => (h line hl).1, statementLines,
    List.map_congr_left fun line hl => (h line hl).2.1, List.map_id']
  exact List.filter_eq_self.2 fun line hl => by simpa using (h line hl).2.2

namespace Grammar

/-- The fragment with the attributes that every element has. -/
def universal : Fragment :=
  ⟨baseFragment, none, baseAttributes⟩

theorem universal_legible : universal.Legible := by
  refine ⟨isFragmentName_of_isName (by decide), by simp [universal], ?_, ?_, by decide⟩
  · decide
  · intro attr hattr
    obtain ⟨name, -, rfl⟩ := List.mem_map.1 hattr
    exact .text

/-- What the statements of a grammar declare, if its fragments have the given names and bodies. -/
def declarations (grammar : Grammar) (bodies : List (String × FragmentBody)) : List Declaration :=
  ((baseFragment, universal.value) :: bodies).map (fun entry => .fragment entry.1 entry.2) ++
    grammar.elements.flatMap fun element =>
      [.element element.tag element.content, .attributeList element.tag element.identity]

theorem toList_text (grammar : Grammar) : grammar.text.toList =
    (grammar.statements.map fun statement => statement.render.toList).flatMap (· ++ ['\n']) := by
  rw [text, toList_joined_lines (by simp [statements]), List.map_map]
  rfl

section
variable {grammar : Grammar} {bodies : List (String × FragmentBody)}

theorem fragments_declarations : Declaration.fragments (grammar.declarations bodies) =
    (baseFragment, universal.value) :: bodies := by
  rw [declarations, Declaration.fragments_append]
  simp [Declaration.fragments, List.filterMap_map, List.filterMap_flatMap]

theorem elements_declarations : Declaration.elements (grammar.declarations bodies) =
    grammar.elements.map fun element => (element.tag, element.content) := by
  rw [declarations, Declaration.elements_append]
  simp [Declaration.elements, List.filterMap_flatMap, List.map_eq_flatMap]

theorem attributeLists_declarations : Declaration.attributeLists (grammar.declarations bodies) =
    grammar.elements.map fun element => (element.tag, element.identity) := by
  rw [declarations, Declaration.attributeLists_append]
  simp [Declaration.attributeLists, List.filterMap_flatMap, List.map_eq_flatMap]

variable (hfragments : List.Forall₂ (fun fragment entry => fragment.name = entry.1 ∧ fragment.Spelled entry.2)
  grammar.types bodies)
variable (helements : ∀ element ∈ grammar.elements, IsTag element.tag ∧ IsFragmentName element.identity)
include hfragments helements

theorem isLine_statement {statement : Statement} (hs : statement ∈ grammar.statements) :
    IsLine statement.render.toList := by
  have huniversal := universal_legible.spelled
  rcases List.mem_append.1 hs with hs | hs
  · rcases List.mem_cons.1 hs with rfl | hs
    · exact Statement.isLine_render_fragment huniversal.name.isSolid huniversal.line
    · obtain ⟨fragment, hf, rfl⟩ := List.mem_map.1 hs
      obtain ⟨entry, -, -, hspelled⟩ := exists_of_forall₂ hfragments hf
      exact Statement.isLine_render_fragment hspelled.name.isSolid hspelled.line
  · obtain ⟨element, he, hs⟩ := List.mem_flatMap.1 hs
    obtain ⟨htag, hname⟩ := helements element he
    simp only [List.mem_cons, List.not_mem_nil, or_false] at hs
    rcases hs with rfl | rfl
    · exact Statement.isLine_render_element _ htag
    · exact Statement.isLine_render_attributeList htag hname

theorem spells_statements : List.Forall₂ Declaration.Spells
    (grammar.statements.map fun statement => statement.render.toList) (grammar.declarations bodies) := by
  have hpairs : ∀ es : List Element, (∀ e ∈ es, IsTag e.tag ∧ IsFragmentName e.identity) →
      List.Forall₂ Declaration.Spells
        ((es.flatMap fun e => [e.statement, e.attributeStatement]).map fun s => s.render.toList)
        (es.flatMap fun e => [.element e.tag e.content, .attributeList e.tag e.identity]) := by
    intro es hes
    induction es with
    | nil => exact .nil
    | cons e es ih =>
      obtain ⟨htag, hname⟩ := hes e (by simp)
      refine .cons (Statement.spells_render_element _ htag) (.cons ?_ ?_)
      · exact Statement.spells_render_attributeList htag hname
      · exact ih fun e he => hes e (List.mem_cons_of_mem _ he)
  rw [statements, List.map_append, List.map_cons, List.map_map, declarations, List.map_cons]
  refine List.rel_append (.cons universal_legible.spelled.spells ?_) (hpairs _ helements)
  rw [List.forall₂_map_left_iff, List.forall₂_map_right_iff]
  apply hfragments.imp
  rintro fragment entry ⟨hname, hspelled⟩
  exact hname ▸ hspelled.spells

/-- **The text of a grammar declares what its fragments and elements say**, if they are lines that
can be read. -/
theorem declares_text : Declares grammar.text (grammar.declarations bodies) := by
  have htrim : ∀ line ∈ grammar.statements.map fun statement => statement.render.toList,
      IsLine line ∧ trim line = line ∧ line ≠ [] := by
    intro line hline
    obtain ⟨statement, hs, rfl⟩ := List.mem_map.1 hline
    exact ⟨isLine_statement hfragments helements hs, statement.trim_render⟩
  rw [Declares, toList_text, statementLines_flatMap htrim]
  exact spells_statements hfragments helements

end

end Grammar

end TagGrammar
