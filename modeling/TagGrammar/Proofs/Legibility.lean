import TagGrammar.Proofs.Definitions
import TagGrammar.Proofs.Rendering

/-!
# What reading back tells of names

Names without reserved characters can be written in any statement, but a statement that holds a
blank in the wrong place falls into several lines or several words. So if the text of a grammar
declares anything at all, every statement is a line of its own, the names of its fragments are solid
where others refer to them, and its bodies spell what they are read as (`fragment_of_declares`).
-/

namespace TagGrammar

open Text

/-! ## Lines -/

namespace Statement

theorem Spells.closes {line : List Char} {statement : Statement} (h : Spells line statement) : '>' ∈ line := by
  cases h <;> simp

end Statement

theorem Declaration.Spells.closes {line : List Char} {d : Declaration} (h : Declaration.Spells line d) :
    '>' ∈ line := by
  cases d with
  | fragment name value =>
    obtain ⟨body, hs, -⟩ := h
    exact hs.closes
  | element tag content => exact Statement.Spells.closes h
  | attributeList tag name => exact Statement.Spells.closes h

/-- Statements that were written one after the other are read back only if each is a line: the first
part of a broken one is not closed. -/
theorem isLine_of_spelled {statements : List Statement} {ds : List Declaration}
    (hclosed : ∀ statement ∈ statements, ∀ text ∈ statement.texts, '>' ∉ text.toList)
    (h : List.Forall₂ Declaration.Spells (statementLines (lines
      ((statements.map fun statement => statement.render.toList).flatMap (· ++ ['\n'])))) ds) :
    ∀ statement ∈ statements, IsLine statement.render.toList := by
  intro statement hs
  by_contra hbreak
  obtain ⟨line, c, rest, heq, hline, hc⟩ := exists_first hbreak
  obtain ⟨inner, hrender, hinner⟩ := statement.render_closes
  replace hinner := hinner (hclosed statement hs)
  have hinit : line ++ (c :: rest).dropLast = '<' :: inner := by
    rw [← List.dropLast_append_of_ne_nil (by simp), ← heq, hrender, List.dropLast_concat]
  have hopen : '>' ∉ line := fun hmem => hinner (hinit ▸ List.mem_append_left _ hmem)
  have hstart : '<' ∈ line := by
    cases line with
    | nil =>
      rw [hrender] at heq
      obtain rfl : '<' = c := (List.cons.inj heq).1
      exact absurd hc (by decide)
    | cons d line =>
      obtain rfl : d = '<' := (List.cons.inj hinit).1
      exact List.mem_cons_self
  have hmem : line ∈ lines ((statements.map fun statement => statement.render.toList).flatMap (· ++ ['\n'])) := by
    rw [lines_flatMap_lineFeed, List.mem_flatMap]
    refine ⟨_, List.mem_map.2 ⟨statement, hs, rfl⟩, ?_⟩
    obtain ⟨others, hothers⟩ := lines_append_break hline hc (rest ++ ['\n'])
    rw [heq, List.append_assoc, List.cons_append, hothers]
    exact List.mem_cons_self
  have htrim : '<' ∈ trim line := mem_trim hstart (by decide)
  obtain ⟨d, -, hspells⟩ := exists_of_forall₂ h (List.mem_filter.2
    ⟨List.mem_map.2 ⟨line, hmem, rfl⟩, by simpa using List.ne_nil_of_mem htrim⟩)
  exact hopen (mem_of_mem_trim hspells.closes)

/-! ## Statements -/

namespace Statement

theorem words_fragment {g₁ g₂ g₃ : List Char} (h₁ : IsGap g₁) (h₂ : IsGap g₂) (h₃ : IsGap g₃) (name : List Char) :
    words ("<!ENTITY".toList ++ g₁ ++ ['%'] ++ g₂ ++ name ++ g₃) = ["<!ENTITY".toList, ['%']] ++ words name := by
  have hfixed : words "<!ENTITY".toList = ["<!ENTITY".toList] ∧ words ['%'] = [['%']] := by
    decide
  rw [words_append_blanks h₃.2, words_append_gap h₂, words_append_gap h₁, hfixed.1, hfixed.2]
  rfl

/-- The body of a fragment is read as it was written, and the name as the word it consists of. -/
theorem Spells.of_render_fragment {name body : String} {statement : Statement}
    (h : Spells (render (.fragment name body)).toList statement) (hname : '"' ∉ name.toList)
    (hbody : '"' ∉ body.toList) :
    ∃ word : String, statement = .fragment word body ∧ words name.toList = [word.toList] := by
  have hrender : (render (.fragment name body)).toList =
      ("<!ENTITY".toList ++ [' '] ++ ['%'] ++ [' '] ++ name.toList ++ [' ']) ++
        '"' :: (body.toList ++ '"' :: ['>']) := by
    simp [render]
  rw [hrender] at h
  generalize hline : _ ++ '"' :: (body.toList ++ '"' :: ['>']) = line at h
  cases h with
  | @fragment b₁ b₂ b₃ b₄ word other h₁ h₂ h₃ h₄ hword hother =>
    have hquote : isBlank '"' = false := by decide
    have hparts : ("<!ENTITY".toList ++ [' '] ++ ['%'] ++ [' '] ++ name.toList ++ [' ']) ++
        '"' :: (body.toList ++ '"' :: ['>']) =
        ("<!ENTITY".toList ++ b₁ ++ ['%'] ++ b₂ ++ word.toList ++ b₃) ++
          '"' :: (other.toList ++ '"' :: (b₄ ++ ['>'])) := by
      simpa using hline
    have hstart : '"' ∉ "<!ENTITY".toList ++ b₁ ++ ['%'] ++ b₂ ++ word.toList ++ b₃ := by
      simp [h₁.2.not_mem hquote, h₂.2.not_mem hquote, h₃.2.not_mem hquote,
        not_mem_quote_of_isFragmentNameChar hword.2]
    obtain ⟨hfront, hback⟩ := mark_unique (by simp [hname]) hstart hparts
    obtain ⟨heq, -⟩ := mark_unique hbody hother hback
    have hwords := congrArg words hfront
    rw [words_fragment isGap_space isGap_space isGap_space, words_fragment h₁ h₂ h₃,
      words_of_isSolid hword.1 hword.isSolid] at hwords
    exact ⟨word, by rw [String.toList_inj.1 heq], List.append_cancel_left hwords⟩
  | element => simp at hline
  | attributeList => simp at hline

theorem Spells.of_render_attributeList {tag name : String} {statement : Statement}
    (h : Spells (render (.attributeList tag name)).toList statement) (htag : isName tag.toList = true)
    (hname : ';' ∉ name.toList) : IsFragmentName name := by
  have hrender : (render (.attributeList tag name)).toList =
      "<!ATTLIST".toList ++ ([' '] ++ (tag.toList ++ ([' '] ++ '%' :: (name.toList ++ ';' :: ['>'])))) := by
    simp [render]
  rw [hrender] at h
  generalize hline : _ ++ ([' '] ++ (tag.toList ++ _)) = line at h
  cases h with
  | fragment => simp at hline
  | element => simp at hline
  | @attributeList b₁ b₂ b₃ other word h₁ h₂ h₃ hother hword =>
    have hblank : ∀ c ∈ [' '], isBlank c = true := by decide
    have hsolid : ∀ {text : List Char}, IsSolid text → ∀ c ∈ text, (!isBlank c) = true := by
      intro text hs c hc
      simp [hs c hc]
    have hparts : [' '] ++ (tag.toList ++ ([' '] ++ '%' :: (name.toList ++ ';' :: ['>']))) =
        b₁ ++ (other.toList ++ (b₂ ++ '%' :: (word.toList ++ ';' :: (b₃ ++ ['>'])))) := by
      simpa using hline
    -- each part ends where a blank follows or the blanks end
    obtain ⟨-, hrest⟩ := run_unique hblank (isTag_of_isName htag).stopsAt h₁.2 hother.stopsAt hparts
    obtain ⟨-, hrest⟩ := run_unique (hsolid (isSolid_of_isName htag)) (isGap_space.stopsAt (by simp))
      (hsolid hother.isSolid) (h₂.stopsAt (by simp)) hrest
    obtain ⟨-, hrest⟩ := run_unique hblank (stopsAt_cons (by decide)) h₂.2 (stopsAt_cons (by decide)) hrest
    have hword' : ';' ∉ word.toList := by
      intro hc
      have := hword.2 _ hc
      simp [isFragmentNameChar] at this
    obtain ⟨heq, -⟩ := mark_unique hname hword' (List.cons.inj hrest).2
    exact String.toList_inj.1 heq ▸ hword

end Statement

/-! ## Bodies -/

theorem FragmentBody.Spells.isSolid_base {fragment : Fragment} {value : FragmentBody} {base : String}
    (h : FragmentBody.Spells fragment.body.toList value) (hbase : fragment.base = some base)
    (hname : ';' ∉ base.toList) : IsSolid base.toList := by
  by_contra hblank
  obtain ⟨before, c, after, heq, hbefore, hc⟩ := exists_first hblank
  have hmark : ';' ∉ '%' :: before := by
    intro hmem
    rcases List.mem_cons.1 hmem with hmem | hmem
    · cases hmem
    · exact hname (heq ▸ List.mem_append_left _ hmem)
  have hfirst : words ('%' :: before) = ['%' :: before] := by
    apply words_of_isSolid (by simp)
    exact List.forall_mem_cons.2 ⟨by decide, hbefore⟩
  have hreference : FragmentBody.reference base = ('%' :: before) ++ c :: (after ++ [';']) := by
    simp [FragmentBody.reference, heq]
  have hwords := h.words_eq
  rw [Fragment.toList_body, hbase, Option.toList_some, List.map_singleton, words_intercalate, List.flatMap_append,
    List.flatMap_singleton, hreference, words_append_blank hc, hfirst, List.append_assoc, List.singleton_append]
      at hwords
  cases hvalue : value.base with
  | none =>
    rw [hvalue] at hwords
    exact FragmentBody.pairWords_ne_reference h.names hwords.symm
  | some other =>
    rw [hvalue] at hwords
    have hword : '%' :: before = FragmentBody.reference other := (List.cons.inj hwords).1
    exact hmark (hword ▸ by simp [FragmentBody.reference])

namespace Fragment

/-- A fragment of names without reserved characters. -/
structure Defined (fragment : Fragment) : Prop where
  name : isDefinedName fragment.name.toList = true
  base : ∀ base ∈ fragment.base, isDefinedName base.toList = true
  names : ∀ attr ∈ fragment.attributes, isDefinedName attr.name.toList = true
  tokens : ∀ attr ∈ fragment.attributes, attr.kind = .text ∧ attr.tokens = [] ∨ AreTokens attr.tokens

theorem Defined.not_mem_definition {fragment : Fragment} (h : fragment.Defined) {attr : Attribute}
    (hattr : attr ∈ fragment.attributes) {c : Char} (hc : c ∈ ['"', '<', '>']) : c ∉ attr.definition.toList := by
  have hreserved : ∀ c ∈ ['"', '<', '>'], c ∈ reservedChars ∧ c ∉ textDefinition.toList ∧ c ∉ ['(', ')', '|'] := by
    decide
  obtain ⟨hname, htext, hmark⟩ := hreserved c hc
  simp only [List.mem_cons, List.not_mem_nil, or_false, not_or] at hmark
  have htokens : ∀ token ∈ attr.tokens, c ∉ token.toList := by
    intro token htoken
    rcases h.tokens attr hattr with ⟨-, hnil⟩ | hall
    · rw [hnil] at htoken
      cases htoken
    · exact not_mem_of_isDefinedName (hall.2 token htoken) hname
  have hgroup : c ∉ ("(" ++ "|".intercalate attr.tokens ++ ")").toList := by
    intro hmem
    simp only [String.toList_append, String.toList_intercalate, List.mem_append] at hmem
    rcases hmem with (hmem | hmem) | hmem
    · exact hmark.1 (by simpa using hmem)
    · rcases mem_intercalate hmem with hmem | ⟨part, hpart, hmem⟩
      · exact hmark.2.2 hmem
      · obtain ⟨token, htoken, rfl⟩ := List.mem_map.1 hpart
        exact htokens token htoken hmem
    · exact hmark.2.1 (by simpa using hmem)
  unfold Attribute.definition
  cases attr.kind with
  | text => exact htext
  | boolean => exact hgroup
  | tokens => exact hgroup

theorem Defined.not_mem_body {fragment : Fragment} (h : fragment.Defined) {c : Char} (hc : c ∈ ['"', '<', '>']) :
    c ∉ fragment.body.toList := by
  have hreserved : ∀ c ∈ ['"', '<', '>'], c ∈ reservedChars ∧ c ≠ ' ' ∧ c ≠ '%' ∧ c ≠ ';' := by
    decide
  obtain ⟨hname, hspace, hstart, hend⟩ := hreserved c hc
  rw [toList_body]
  intro hmem
  rcases mem_intercalate hmem with hmem | ⟨part, hpart, hmem⟩
  · exact hspace hmem
  · rcases List.mem_append.1 hpart with hpart | hpart
    · obtain ⟨base, hbase, rfl⟩ := List.mem_map.1 hpart
      have hfree := not_mem_of_isDefinedName (h.base base (by simpa using hbase)) hname
      simp [FragmentBody.reference, hstart, hend, hfree] at hmem
    · obtain ⟨attr, hattr, rfl⟩ := List.mem_map.1 hpart
      rcases List.mem_append.1 hmem with hmem | hmem
      · exact not_mem_of_isDefinedName (h.names attr hattr) hname hmem
      · rcases List.mem_cons.1 hmem with hmem | hmem
        · exact hspace hmem
        · exact h.not_mem_definition hattr hc hmem

/-! ### Bodies that are read back -/

theorem isSolid_definition_iff {attr : Attribute} : IsSolid attr.definition.toList ↔
    attr.kind = .text ∨ ∀ token ∈ attr.tokens, IsSolid token.toList := by
  have hgroup : IsSolid ("(" ++ "|".intercalate attr.tokens ++ ")").toList ↔
      ∀ token ∈ attr.tokens, IsSolid token.toList := by
    have hmarks : isBlank '(' = false ∧ isBlank ')' = false ∧ isBlank '|' = false := by
      decide
    simp only [String.toList_append, String.toList_intercalate]
    constructor
    · intro h token htoken c hc
      apply h
      rw [List.mem_append, List.mem_append]
      exact .inl (.inr (mem_intercalate_of_mem (List.mem_map_of_mem htoken) hc))
    · intro h c hc
      rw [List.mem_append, List.mem_append] at hc
      rcases hc with (hc | hc) | hc
      · obtain rfl : c = '(' := by simpa using hc
        exact hmarks.1
      · rcases mem_intercalate hc with rfl | ⟨part, hpart, hc⟩
        · exact hmarks.2.2
        · obtain ⟨token, htoken, rfl⟩ := List.mem_map.1 hpart
          exact h token htoken c hc
      · obtain rfl : c = ')' := by simpa using hc
        exact hmarks.2.1
  have htext : IsSolid textDefinition.toList := by
    decide
  unfold Attribute.definition
  cases attr.kind with
  | text => simpa using htext
  | boolean => simpa using hgroup
  | tokens => simpa using hgroup

theorem Defined.definition_eq_group {fragment : Fragment} (h : fragment.Defined) {attr : Attribute}
    (hattr : attr ∈ fragment.attributes) (hkind : attr.kind ≠ .text) :
    ∃ inner, attr.definition.toList = '(' :: (inner ++ [')']) ∧ ')' ∉ inner := by
  have htokens : ∀ token ∈ attr.tokens, ')' ∉ token.toList := by
    intro token htoken
    rcases h.tokens attr hattr with ⟨htext, -⟩ | hall
    · exact absurd htext hkind
    · exact not_mem_of_isDefinedName (hall.2 token htoken) (by decide)
  refine ⟨['|'].intercalate (attr.tokens.map String.toList), ?_, fun hmem => ?_⟩
  · unfold Attribute.definition
    cases hcase : attr.kind with
    | text => exact absurd hcase hkind
    | boolean => simp [String.toList_intercalate]
    | tokens => simp [String.toList_intercalate]
  · rcases mem_intercalate hmem with hmem | ⟨part, hpart, hmem⟩
    · cases hmem
    · obtain ⟨token, htoken, rfl⟩ := List.mem_map.1 hpart
      exact htokens token htoken hmem

/-- Definitions are not divided in a body that is read back: the first word of a divided one would be a
group that is not closed. -/
theorem Defined.isSolid_definition {fragment : Fragment} (h : fragment.Defined) {value : FragmentBody}
    (hspells : FragmentBody.Spells fragment.body.toList value) {attr : Attribute}
    (hattr : attr ∈ fragment.attributes) :
    IsSolid attr.definition.toList := by
  by_contra hdivided
  have hkind : attr.kind ≠ .text := fun htext => hdivided (isSolid_definition_iff.2 (.inl htext))
  obtain ⟨inner, hgroup, hinner⟩ := h.definition_eq_group hattr hkind
  obtain ⟨word, c, after, heq, hword, hc⟩ := exists_first hdivided
  have hopen : ∃ rest, word = '(' :: rest := by
    cases word with
    | nil =>
      rw [hgroup] at heq
      obtain rfl : '(' = c := (List.cons.inj heq).1
      exact absurd hc (by decide)
    | cons d rest =>
      rw [hgroup] at heq
      exact ⟨rest, by rw [(List.cons.inj heq).1]⟩
  have hunclosed : ')' ∉ word := by
    have hinit : word ++ (c :: after).dropLast = '(' :: inner := by
      rw [← List.dropLast_append_of_ne_nil (by simp), ← heq, hgroup, ← List.cons_append, List.dropLast_concat]
    intro hmem
    rcases List.mem_cons.1 (hinit ▸ List.mem_append_left _ hmem) with hmem | hmem
    · cases hmem
    · exact hinner hmem
  obtain ⟨rest, rfl⟩ := hopen
  have hmem : '(' :: rest ∈ words fragment.body.toList := by
    rw [words_body, List.mem_append, List.mem_flatMap, List.mem_flatMap]
    refine .inr ⟨attr, hattr, List.mem_append_right _ ?_⟩
    rw [heq, words_append_blank hc, words_of_isSolid (by simp) hword]
    exact List.mem_cons_self
  rw [hspells.words_eq, List.mem_append] at hmem
  rcases hmem with hmem | hmem
  · obtain ⟨base, -, hreference⟩ := List.mem_map.1 hmem
    cases hreference
  · obtain ⟨entry, hentry, hmem⟩ := List.mem_flatMap.1 hmem
    simp only [List.mem_cons, List.not_mem_nil, or_false] at hmem
    rcases hmem with hname | hdefinition
    · exact not_mem_of_isName (hspells.names entry hentry) (by decide : '(' ∈ reservedChars) (by simp [← hname])
    · have hfound := hspells.definitions entry hentry
      rw [← hdefinition] at hfound
      generalize hwhole : '(' :: rest = whole at hfound
      cases hfound with
      | text => cases hwhole
      | group hne htokens => exact hunclosed (by simp [hwhole])

end Fragment

namespace FragmentBody

/-- Words that name attributes, each once, and each followed by its definition. -/
def ArePairs (ws : List (List Char)) : Prop :=
  ∃ definitions : Table String, ws = pairWords definitions.entries ∧
    ∀ entry ∈ definitions.entries, isName entry.1.toList = true ∧ IsDefinition entry.2.toList

end FragmentBody

namespace Fragment

/-- A body is read back exactly if no blank divides the base or a token and the words of the names and
definitions fall into pairs again. -/
theorem Defined.spells_body_iff {fragment : Fragment} (h : fragment.Defined) {base : String}
    (hbase : fragment.base = some base) :
    (IsLine fragment.body.toList ∧ ∃ value, FragmentBody.Spells fragment.body.toList value) ↔
      IsSolid base.toList ∧
      (∀ attr ∈ fragment.attributes, IsLine attr.name.toList ∧
        (attr.kind = .text ∨ ∀ token ∈ attr.tokens, IsSolid token.toList)) ∧
      FragmentBody.ArePairs (fragment.attributes.flatMap fun attr =>
        words attr.name.toList ++ [attr.definition.toList]) := by
  have hdefined := h.base base hbase
  have hnonempty : ∀ attr ∈ fragment.attributes, attr.definition.toList ≠ [] := by
    intro attr hattr
    by_cases hkind : attr.kind = .text
    · have htext : textDefinition.toList ≠ [] := by decide
      unfold Attribute.definition
      rw [hkind]
      exact htext
    · obtain ⟨inner, hgroup, -⟩ := h.definition_eq_group hattr hkind
      simp [hgroup]
  have hwords : IsSolid base.toList → (∀ attr ∈ fragment.attributes, IsSolid attr.definition.toList) →
      words fragment.body.toList = FragmentBody.reference base ::
        fragment.attributes.flatMap fun attr => words attr.name.toList ++ [attr.definition.toList] := by
    intro hsolid hdefinitions
    rw [words_body, hbase, Option.toList_some, List.flatMap_singleton, words_reference hsolid,
      List.singleton_append]
    congr 1
    apply List.flatMap_congr
    intro attr hattr
    rw [words_of_isSolid (hnonempty attr hattr) (hdefinitions attr hattr)]
  constructor
  · rintro ⟨hline, value, hspells⟩
    have hsolid := hspells.isSolid_base hbase (not_mem_of_isDefinedName hdefined (by decide))
    have hdefinitions : ∀ attr ∈ fragment.attributes, IsSolid attr.definition.toList :=
      fun attr hattr => h.isSolid_definition hspells hattr
    refine ⟨hsolid, fun attr hattr =>
      ⟨fun c hc => hline c ?_, isSolid_definition_iff.1 (hdefinitions attr hattr)⟩, ?_⟩
    · rw [toList_body]
      exact mem_intercalate_of_mem (List.mem_append_right _ (List.mem_map_of_mem hattr)) (List.mem_append_left _ hc)
    · have heq := (hwords hsolid hdefinitions).symm.trans hspells.words_eq
      cases hvalue : value.base with
      | none =>
        rw [hvalue] at heq
        exact absurd heq.symm (FragmentBody.pairWords_ne_reference hspells.names)
      | some other =>
        rw [hvalue] at heq
        exact ⟨value.definitions, (List.cons.inj heq).2, fun entry he =>
          ⟨hspells.names entry he, hspells.definitions entry he⟩⟩
  · rintro ⟨hsolid, hattributes, definitions, hpairs, hentries⟩
    have hdefinitions : ∀ attr ∈ fragment.attributes, IsSolid attr.definition.toList :=
      fun attr hattr => isSolid_definition_iff.2 (hattributes attr hattr).2
    constructor
    · apply isLine_body
      · intro other hother
        obtain rfl := Option.some.inj (hbase.symm.trans hother)
        exact hsolid
      · exact fun attr hattr => ⟨(hattributes attr hattr).1, hdefinitions attr hattr⟩
    · refine ⟨⟨some base, definitions⟩, ?_, ?_, fun entry he => (hentries entry he).1, fun entry he =>
        (hentries entry he).2⟩
      · rw [hwords hsolid hdefinitions, hpairs]
        rfl
      · rintro _ ⟨⟩
        exact isFragmentName_of_isName (isName_of_isSolid hdefined hsolid)

/-- The statement of a fragment declares a fragment with the body that was written. -/
theorem Defined.declares {fragment : Fragment} (h : fragment.Defined) {d : Declaration}
    (hd : Declaration.Spells fragment.statement.render.toList d) : ∃ word value, d = .fragment word value ∧
      words fragment.name.toList = [word.toList] ∧ FragmentBody.Spells fragment.body.toList value := by
  have hname : '"' ∉ fragment.name.toList := not_mem_of_isDefinedName h.name (by decide)
  have hbody : '"' ∉ fragment.body.toList := h.not_mem_body (by decide)
  cases d with
  | fragment word value =>
    obtain ⟨body, hs, hvalue⟩ := hd
    obtain ⟨_, heq, hwords⟩ := hs.of_render_fragment hname hbody
    obtain ⟨rfl, rfl⟩ := Statement.fragment.inj heq
    exact ⟨word, value, rfl, hwords, hvalue⟩
  | element tag content =>
    obtain ⟨_, heq, -⟩ := Statement.Spells.of_render_fragment hd hname hbody
    cases heq
  | attributeList tag name =>
    obtain ⟨_, heq, -⟩ := Statement.Spells.of_render_fragment hd hname hbody
    cases heq

end Fragment

/-! ## Grammars -/

namespace Grammar

theorem universal_defined : universal.Defined := by
  refine ⟨isDefinedName_of_isName (by decide), by simp [universal], fun attr hattr => ?_, fun attr hattr => ?_⟩
  · exact isDefinedName_of_isName (universal_legible.names attr hattr)
  · obtain ⟨name, -, rfl⟩ := List.mem_map.1 hattr
    exact .inl ⟨rfl, rfl⟩

theorem statements_eq (grammar : Grammar) : grammar.statements =
    (universal :: grammar.types).map Fragment.statement ++
      grammar.elements.flatMap fun element => [element.statement, element.attributeStatement] :=
  rfl

section
variable {grammar : Grammar} {ds : List Declaration}
variable (hfragments : ∀ fragment ∈ grammar.types, fragment.Defined)
variable (helements : ∀ element ∈ grammar.elements,
  isName element.tag.toList = true ∧ isDefinedName element.identity.toList = true)
variable (h : Declares grammar.text ds)
include hfragments helements h

/-- Every statement of a grammar that is read back is a line and spells what the line declares. -/
theorem spelled_of_declares : (∀ statement ∈ grammar.statements, IsLine statement.render.toList) ∧
    List.Forall₂ Declaration.Spells (grammar.statements.map fun statement => statement.render.toList) ds := by
  have hdefined : ∀ fragment ∈ universal :: grammar.types, fragment.Defined :=
    List.forall_mem_cons.2 ⟨universal_defined, hfragments⟩
  have hclosed : ∀ statement ∈ grammar.statements, ∀ text ∈ statement.texts, '>' ∉ text.toList := by
    intro statement hs
    rw [statements_eq, List.mem_append] at hs
    rcases hs with hs | hs
    · obtain ⟨fragment, hf, rfl⟩ := List.mem_map.1 hs
      have hname : '>' ∉ fragment.name.toList := not_mem_of_isDefinedName (hdefined fragment hf).name (by decide)
      have hbody : '>' ∉ fragment.body.toList := (hdefined fragment hf).not_mem_body (by decide)
      simpa [Fragment.statement, Statement.texts] using ⟨hname, hbody⟩
    · obtain ⟨element, he, hs⟩ := List.mem_flatMap.1 hs
      obtain ⟨htag, hid⟩ := helements element he
      have htagFree : '>' ∉ element.tag.toList := not_mem_of_isName htag (by decide)
      have hidFree : '>' ∉ element.identity.toList := not_mem_of_isDefinedName hid (by decide)
      simp only [List.mem_cons, List.not_mem_nil, or_false] at hs
      rcases hs with rfl | rfl
      · simpa [Element.statement, Statement.texts] using htagFree
      · simpa [Element.attributeStatement, Statement.texts] using ⟨htagFree, hidFree⟩
  rw [Declares, toList_text] at h
  have hlines := isLine_of_spelled hclosed h
  refine ⟨hlines, ?_⟩
  rwa [statementLines_flatMap] at h
  intro line hline
  obtain ⟨statement, hs, rfl⟩ := List.mem_map.1 hline
  exact ⟨hlines statement hs, statement.trim_render⟩

/-- The fragments of a grammar that is read back are declared with the bodies they were written with. -/
theorem fragment_of_declares : ∃ value rest, ds = .fragment baseFragment value :: rest ∧
    ∀ fragment ∈ grammar.types, IsLine fragment.body.toList ∧ ∃ word value, .fragment word value ∈ rest ∧
      words fragment.name.toList = [word.toList] ∧ FragmentBody.Spells fragment.body.toList value := by
  obtain ⟨hlines, hspelled⟩ := spelled_of_declares hfragments helements h
  rw [statements_eq, List.map_append, List.map_cons, List.map_cons, List.cons_append] at hspelled
  obtain ⟨first, rest, hfirst, hrest, rfl⟩ := List.forall₂_cons_left_iff.1 hspelled
  obtain ⟨word, value, rfl, hwords, -⟩ := universal_defined.declares hfirst
  obtain rfl : word = baseFragment := by
    have hname := universal_legible.name
    rw [words_of_isSolid hname.1 hname.isSolid] at hwords
    exact (String.toList_inj.1 (List.cons.inj hwords).1).symm
  refine ⟨value, rest, rfl, fun fragment hf => ?_⟩
  have hstatement : fragment.statement ∈ grammar.statements :=
    List.mem_append_left _ (List.mem_cons_of_mem _ (List.mem_map.2 ⟨fragment, hf, rfl⟩))
  constructor
  · intro c hc
    exact hlines _ hstatement c (by simp [Fragment.statement, Statement.render, hc])
  · obtain ⟨d, hd, hspells⟩ := exists_of_forall₂ hrest (List.mem_append_left _
      (List.mem_map.2 ⟨fragment.statement, List.mem_map.2 ⟨fragment, hf, rfl⟩, rfl⟩))
    obtain ⟨word, value, rfl, hwords, hvalue⟩ := (hfragments fragment hf).declares hspells
    exact ⟨word, value, hd, hwords, hvalue⟩

theorem ne_baseFragment_of_declares (hdistinct : Declaration.Distinct ds) {fragment : Fragment}
    (hf : fragment ∈ grammar.types) (hsolid : IsSolid fragment.name.toList) : fragment.name ≠ baseFragment := by
  obtain ⟨value, rest, rfl, hall⟩ := fragment_of_declares hfragments helements h
  obtain ⟨-, word, other, hmem, hwords, -⟩ := hall fragment hf
  rw [words_of_isSolid (isDefinedName_iff.1 (hfragments fragment hf).name).1 hsolid] at hwords
  obtain rfl : fragment.name = word := String.toList_inj.1 (List.cons.inj hwords).1
  have hnodup : (baseFragment :: (Declaration.fragments rest).map Prod.fst).Nodup := hdistinct.fragments
  rw [List.nodup_cons] at hnodup
  intro heq
  apply hnodup.1
  exact List.mem_map.2 ⟨(fragment.name, other), Declaration.mem_fragments.2 hmem, heq⟩

theorem isFragmentName_of_declares {element : Element} (he : element ∈ grammar.elements) :
    IsFragmentName element.identity := by
  obtain ⟨-, hspelled⟩ := spelled_of_declares hfragments helements h
  obtain ⟨htag, hid⟩ := helements element he
  have hstatement : element.attributeStatement ∈ grammar.statements :=
    List.mem_append_right _ (List.mem_flatMap.2 ⟨element, he, by simp⟩)
  obtain ⟨d, -, hspells⟩ := exists_of_forall₂ hspelled (List.mem_map.2 ⟨_, hstatement, rfl⟩)
  have hname : ';' ∉ element.identity.toList := not_mem_of_isDefinedName hid (by decide)
  cases d with
  | fragment word value =>
    obtain ⟨body, hs, -⟩ := hspells
    exact hs.of_render_attributeList htag hname
  | element tag content => exact Statement.Spells.of_render_attributeList hspells htag hname
  | attributeList tag name => exact Statement.Spells.of_render_attributeList hspells htag hname

end

end Grammar

end TagGrammar
