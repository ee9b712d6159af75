import Mathlib.Data.List.Basic
import TagGrammar.Grammar.Statement
import TagGrammar.Proofs.Table
import TagGrammar.Proofs.Text

/-!
# Spellings of statements

A line spells a statement if it is made of the statement's parts with blanks where they may stand.
`Statement.read?` finds exactly the statement that a line spells, `FragmentBody.read` exactly the
body that the words of a text spell.
-/

namespace TagGrammar

open Text

/-- A text that can name a fragment. -/
def IsFragmentName (name : String) : Prop :=
  name.toList ≠ [] ∧ ∀ c ∈ name.toList, isFragmentNameChar c = true

/-- A text that can be the tag of an element. -/
def IsTag (tag : String) : Prop :=
  tag.toList ≠ [] ∧ ∀ c ∈ tag.toList, isTagChar c = true

/-- The lines that spell a statement. -/
inductive Statement.Spells : List Char → Statement → Prop where
  | fragment {b₁ b₂ b₃ b₄ : List Char} {name body : String} (h₁ : IsGap b₁) (h₂ : IsGap b₂)
      (h₃ : IsGap b₃) (h₄ : IsBlanks b₄) (hname : IsFragmentName name) (hbody : '"' ∉ body.toList) :
      Spells ("<!ENTITY".toList ++ b₁ ++ '%' :: b₂ ++ name.toList ++ b₃ ++ '"' :: body.toList ++
        '"' :: b₄ ++ ['>']) (.fragment name body)
  | element {b₁ b₂ b₃ : List Char} {tag : String} {content : ContentModel} (h₁ : IsGap b₁)
      (h₂ : IsGap b₂) (h₃ : IsBlanks b₃) (htag : IsTag tag) :
      Spells ("<!ELEMENT".toList ++ b₁ ++ tag.toList ++ b₂ ++ content.word.toList ++ b₃ ++ ['>'])
        (.element tag content)
  | attributeList {b₁ b₂ b₃ : List Char} {tag name : String} (h₁ : IsGap b₁) (h₂ : IsGap b₂)
      (h₃ : IsBlanks b₃) (htag : IsTag tag) (hname : IsFragmentName name) :
      Spells ("<!ATTLIST".toList ++ b₁ ++ tag.toList ++ b₂ ++ '%' :: name.toList ++ ';' :: b₃ ++ ['>'])
        (.attributeList tag name)

/-! ## Character classes -/

theorem isBlank_of_isFragmentNameChar {c : Char} (h : isFragmentNameChar c = true) :
    isBlank c = false := by
  simp only [isFragmentNameChar, Bool.and_eq_true, Bool.not_eq_true'] at h
  exact h.1.1.1.1.1

theorem isFragmentNameChar_of_isBlank {c : Char} (h : isBlank c = true) :
    isFragmentNameChar c = false := by
  simp [isFragmentNameChar, h]

theorem isTagChar_iff {c : Char} : isTagChar c = true ↔ isBlank c = false ∧ c ≠ '<' ∧ c ≠ '>' := by
  simp [isTagChar, and_assoc]

theorem isBlank_of_isTagChar {c : Char} (h : isTagChar c = true) : isBlank c = false :=
  (isTagChar_iff.1 h).1

theorem isTagChar_of_isBlank {c : Char} (h : isBlank c = true) : isTagChar c = false := by
  simp [isTagChar, h]

theorem IsFragmentName.stopsAt {name : String} {rest : List Char} (h : IsFragmentName name) :
    StopsAt isBlank (name.toList ++ rest) :=
  stopsAt_append h.1 fun c hc => isBlank_of_isFragmentNameChar (h.2 c hc)

theorem IsTag.stopsAt {tag : String} {rest : List Char} (h : IsTag tag) :
    StopsAt isBlank (tag.toList ++ rest) :=
  stopsAt_append h.1 fun c hc => isBlank_of_isTagChar (h.2 c hc)

theorem ContentModel.stopsAt_word (content : ContentModel) (rest : List Char) :
    StopsAt isBlank (content.word.toList ++ rest) := by
  cases content <;> exact stopsAt_cons (by decide)

theorem isClosing_iff {text : List Char} :
    isClosing text = true ↔ ∃ b, IsBlanks b ∧ text = b ++ ['>'] := by
  simp only [isClosing, beq_iff_eq]
  constructor
  · intro h
    refine ⟨text.takeWhile isBlank, fun c hc => List.mem_takeWhile_imp hc, ?_⟩
    rw [← h, List.takeWhile_append_dropWhile]
  · rintro ⟨b, hb, rfl⟩
    exact dropWhile_run hb (stopsAt_cons (by decide))

/-! ## Reading a statement -/

theorem ne_quote_of_not_mem {body : List Char} (h : '"' ∉ body) :
    ∀ c ∈ body, (c != '"') = true := by
  intro c hc
  simp only [bne_iff_ne]
  rintro rfl
  exact h hc

namespace Statement

theorem readFragment?_sound {line : List Char} {s : Statement} (h : readFragment? line = some s) :
    Spells line s := by
  simp only [readFragment?, Option.bind_eq_bind, Option.bind_eq_some_iff, afterStart?_eq_some_iff,
    afterBlanks?_eq_some_iff, Prod.exists, takeSome?_eq_some_iff] at h
  obtain ⟨_, rfl, _, ⟨b₁, h₁, rfl, -⟩, _, rfl, _, ⟨b₂, h₂, rfl, -⟩, name, _, ⟨hne, hname, rfl, -⟩,
    _, ⟨b₃, h₃, rfl, -⟩, text, rfl, rest, hrest, h⟩ := h
  split at h
  · rename_i hclose
    obtain ⟨b₄, h₄, rfl⟩ := isClosing_iff.1 hclose
    obtain rfl := Option.some.inj h
    have hbody : '"' ∉ text.takeWhile (· != '"') := fun hmem => by
      simpa using List.mem_takeWhile_imp hmem
    have htext : text = text.takeWhile (· != '"') ++ '"' :: (b₄ ++ ['>']) := by
      have := List.takeWhile_append_dropWhile (p := (· != '"')) (l := text)
      rw [hrest] at this
      exact this.symm
    have hs : Spells _ (.fragment (String.ofList name) (String.ofList (text.takeWhile (· != '"')))) :=
      .fragment h₁ h₂ h₃ h₄ ⟨by simpa using hne, by simpa using hname⟩ (by simpa using hbody)
    simp only [String.toList_ofList, List.append_assoc, List.cons_append] at hs
    rw [← htext] at hs
    simpa using hs
  · cases h

theorem readFragment?_complete {line : List Char} {name body : String}
    (h : Spells line (.fragment name body)) : readFragment? line = some (.fragment name body) := by
  cases h with
  | @fragment b₁ b₂ b₃ b₄ _ _ h₁ h₂ h₃ h₄ hname hbody =>
    have hquote := ne_quote_of_not_mem hbody
    have hstop : StopsAt (· != '"') ('"' :: (b₄ ++ ['>'])) := stopsAt_cons (by decide)
    simp only [List.append_assoc, List.cons_append]
    simp only [readFragment?, Option.bind_eq_bind, Option.bind_eq_some_iff, afterStart?_eq_some_iff,
      afterBlanks?_eq_some_iff, Prod.exists, takeSome?_eq_some_iff]
    refine ⟨_, rfl, _, ⟨b₁, h₁, rfl, stopsAt_cons (by decide)⟩, _, rfl, _, ⟨b₂, h₂, rfl, hname.stopsAt⟩,
      name.toList, _, ⟨hname.1, hname.2, rfl, h₃.stopsAt fun _ => isFragmentNameChar_of_isBlank⟩,
      _, ⟨b₃, h₃, rfl, stopsAt_cons (by decide)⟩, body.toList ++ '"' :: (b₄ ++ ['>']), rfl,
      b₄ ++ ['>'], dropWhile_run hquote hstop, ?_⟩
    rw [if_pos (isClosing_iff.2 ⟨b₄, h₄, rfl⟩), takeWhile_run hquote hstop]
    simp

theorem closesAfter_iff {word text : List Char} :
    ((afterStart? word text).map isClosing).getD false = true ↔
      ∃ b, IsBlanks b ∧ text = word ++ b ++ ['>'] := by
  constructor
  · intro h
    cases hrest : afterStart? word text with
    | none => simp [hrest] at h
    | some rest =>
      rw [hrest] at h
      obtain ⟨b, hb, rfl⟩ := isClosing_iff.1 h
      exact ⟨b, hb, by rw [afterStart?_eq_some_iff.1 hrest, List.append_assoc]⟩
  · rintro ⟨b, hb, rfl⟩
    rw [List.append_assoc, afterStart?_eq_some_iff.2 rfl]
    exact isClosing_iff.2 ⟨b, hb, rfl⟩

theorem readContent?_eq_some_iff {text : List Char} {content : ContentModel} :
    readContent? text = some content ↔ ∃ b, IsBlanks b ∧ text = content.word.toList ++ b ++ ['>'] := by
  rw [← closesAfter_iff]
  constructor
  · intro h
    unfold readContent? at h
    simpa using List.find?_some h
  · intro h
    cases content with
    | empty => simp [readContent?, h]
    | any =>
      -- no text starts with both words
      have hempty : ((afterStart? ContentModel.empty.word.toList text).map isClosing).getD false = false := by
        obtain ⟨b, -, rfl⟩ := closesAfter_iff.1 h
        simp [afterStart?, ContentModel.word]
      simp [readContent?, hempty, h]

theorem readElement?_sound {line : List Char} {s : Statement} (h : readElement? line = some s) :
    Spells line s := by
  simp only [readElement?, Option.bind_eq_bind, Option.bind_eq_some_iff, afterStart?_eq_some_iff,
    afterBlanks?_eq_some_iff, Prod.exists, takeSome?_eq_some_iff, readContent?_eq_some_iff] at h
  obtain ⟨_, rfl, _, ⟨b₁, h₁, rfl, -⟩, tag, _, ⟨hne, htag, rfl, -⟩, _, ⟨b₂, h₂, rfl, -⟩, content,
    ⟨b₃, h₃, rfl⟩, h⟩ := h
  obtain rfl := Option.some.inj h
  have hs : Spells _ (.element (String.ofList tag) content) :=
    .element h₁ h₂ h₃ ⟨by simpa using hne, by simpa using htag⟩
  simpa using hs

theorem readElement?_complete {line : List Char} {tag : String} {content : ContentModel}
    (h : Spells line (.element tag content)) : readElement? line = some (.element tag content) := by
  cases h with
  | @element b₁ b₂ b₃ _ _ h₁ h₂ h₃ htag =>
    simp only [List.append_assoc]
    simp only [readElement?, Option.bind_eq_bind, Option.bind_eq_some_iff, afterStart?_eq_some_iff,
      afterBlanks?_eq_some_iff, Prod.exists, takeSome?_eq_some_iff, readContent?_eq_some_iff]
    refine ⟨_, rfl, _, ⟨b₁, h₁, rfl, htag.stopsAt⟩, tag.toList, _,
      ⟨htag.1, htag.2, rfl, h₂.stopsAt fun _ => isTagChar_of_isBlank⟩, _,
      ⟨b₂, h₂, rfl, content.stopsAt_word _⟩, content, ⟨b₃, h₃, by simp⟩, by simp⟩

theorem readAttributeList?_sound {line : List Char} {s : Statement}
    (h : readAttributeList? line = some s) : Spells line s := by
  simp only [readAttributeList?, Option.bind_eq_bind, Option.bind_eq_some_iff,
    afterStart?_eq_some_iff, afterBlanks?_eq_some_iff, Prod.exists, takeSome?_eq_some_iff] at h
  obtain ⟨_, rfl, _, ⟨b₁, h₁, rfl, -⟩, tag, _, ⟨hne, htag, rfl, -⟩, _, ⟨b₂, h₂, rfl, -⟩, _, rfl, name, _,
    ⟨hne', hname, rfl, -⟩, rest, rfl, h⟩ := h
  split at h
  · rename_i hclose
    obtain ⟨b₃, h₃, rfl⟩ := isClosing_iff.1 hclose
    obtain rfl := Option.some.inj h
    have hs : Spells _ (.attributeList (String.ofList tag) (String.ofList name)) :=
      .attributeList h₁ h₂ h₃ ⟨by simpa using hne, by simpa using htag⟩
        ⟨by simpa using hne', by simpa using hname⟩
    simpa using hs
  · cases h

theorem readAttributeList?_complete {line : List Char} {tag name : String}
    (h : Spells line (.attributeList tag name)) :
    readAttributeList? line = some (.attributeList tag name) := by
  cases h with
  | @attributeList b₁ b₂ b₃ _ _ h₁ h₂ h₃ htag hname =>
    simp only [List.append_assoc, List.cons_append]
    simp only [readAttributeList?, Option.bind_eq_bind, Option.bind_eq_some_iff,
      afterStart?_eq_some_iff, afterBlanks?_eq_some_iff, Prod.exists, takeSome?_eq_some_iff]
    refine ⟨_, rfl, _, ⟨b₁, h₁, rfl, htag.stopsAt⟩, tag.toList, _,
      ⟨htag.1, htag.2, rfl, h₂.stopsAt fun _ => isTagChar_of_isBlank⟩, _,
      ⟨b₂, h₂, rfl, stopsAt_cons (by decide)⟩, _, rfl, name.toList, _,
      ⟨hname.1, hname.2, rfl, stopsAt_cons (by decide)⟩, b₃ ++ ['>'], rfl, ?_⟩
    rw [if_pos (isClosing_iff.2 ⟨b₃, h₃, rfl⟩)]
    simp

/-! ### Statements of any shape -/

theorem readFragment?_element {line : List Char} {tag : String} {content : ContentModel}
    (h : Spells line (.element tag content)) : readFragment? line = none := by
  cases h
  simp [readFragment?, afterStart?]

theorem readFragment?_attributeList {line : List Char} {tag name : String}
    (h : Spells line (.attributeList tag name)) : readFragment? line = none := by
  cases h
  simp [readFragment?, afterStart?]

theorem readElement?_attributeList {line : List Char} {tag name : String}
    (h : Spells line (.attributeList tag name)) : readElement? line = none := by
  cases h
  simp [readElement?, afterStart?]

/-- **A statement is read exactly from the lines that spell it.** -/
theorem read?_eq_some_iff {line : List Char} {s : Statement} :
    read? line = some s ↔ Spells line s := by
  constructor
  · intro h
    simp only [read?, Option.orElse_eq_orElse, Option.orElse_eq_or, Option.or_eq_some_iff] at h
    rcases h with h | ⟨-, h | ⟨-, h⟩⟩
    · exact readFragment?_sound h
    · exact readElement?_sound h
    · exact readAttributeList?_sound h
  · intro h
    cases s with
    | fragment name body => simp [read?, readFragment?_complete h]
    | element tag content => simp [read?, readFragment?_element h, readElement?_complete h]
    | attributeList tag name =>
      simp [read?, readFragment?_attributeList h, readElement?_attributeList h,
        readAttributeList?_complete h]

end Statement

/-! ## Reading the body of a fragment -/

/-- The words that define the values of an attribute: the word for free text and the groups of one
or more names. -/
inductive IsDefinition : List Char → Prop where
  | text : IsDefinition textDefinition.toList
  | group {tokens : List (List Char)} (hne : tokens ≠ [])
      (h : ∀ token ∈ tokens, isName token = true) :
      IsDefinition ('(' :: ['|'].intercalate tokens ++ [')'])

namespace FragmentBody

/-- The word that refers to a fragment. -/
def reference (base : String) : List Char :=
  '%' :: base.toList ++ [';']

/-- The words of attribute names, each followed by its definition. -/
def pairWords (entries : List (String × String)) : List (List Char) :=
  entries.flatMap fun entry => [entry.1.toList, entry.2.toList]

/-- A text whose words are a reference to the base, if there is one, and then the names of the
attributes, each followed by its definition. -/
structure Spells (body : List Char) (value : FragmentBody) : Prop where
  words_eq : words body = value.base.toList.map reference ++ pairWords value.definitions.entries
  base : ∀ base ∈ value.base, IsFragmentName base
  names : ∀ entry ∈ value.definitions.entries, isName entry.1.toList = true
  definitions : ∀ entry ∈ value.definitions.entries, IsDefinition entry.2.toList

theorem isTokenGroup_iff {word : List Char} :
    isTokenGroup word = true ↔ ∃ tokens : List (List Char), tokens ≠ [] ∧
      (∀ token ∈ tokens, isName token = true) ∧ word = '(' :: ['|'].intercalate tokens ++ [')'] := by
  constructor
  · intro h
    unfold isTokenGroup at h
    split at h
    · rename_i rest
      simp only [Bool.and_eq_true, beq_iff_eq, List.all_eq_true] at h
      have hrest := List.dropLast_append_getLast? ')' h.1
      refine ⟨rest.dropLast.splitOn '|', List.splitOn_ne_nil _ _, h.2, ?_⟩
      rw [List.intercalate_splitOn, List.cons_append, hrest]
    · cases h
  · rintro ⟨tokens, hne, hnames, rfl⟩
    have hsplit : (['|'].intercalate tokens).splitOn '|' = tokens :=
      List.splitOn_intercalate '|' (fun token ht => not_mem_of_isName (hnames token ht) (by decide)) hne
    simp only [isTokenGroup, List.cons_append, List.getLast?_concat, List.dropLast_concat, hsplit,
      beq_self_eq_true, Bool.true_and, List.all_eq_true]
    exact hnames

theorem isDefinition_iff {word : List Char} : isDefinition word = true ↔ IsDefinition word := by
  simp only [isDefinition, Bool.or_eq_true, beq_iff_eq, isTokenGroup_iff]
  constructor
  · rintro (rfl | ⟨tokens, hne, hnames, rfl⟩)
    · exact .text
    · exact .group hne hnames
  · rintro (_ | ⟨hne, hnames⟩)
    · exact .inl rfl
    · exact .inr ⟨_, hne, hnames, rfl⟩

theorem reference_injective : Function.Injective reference := by
  intro base other h
  simpa [reference, String.toList_inj] using h

theorem readReference?_eq_some_iff {word : List Char} {base : String} :
    readReference? word = some base ↔ IsFragmentName base ∧ word = reference base := by
  constructor
  · intro h
    simp only [readReference?, Option.bind_eq_bind, Option.bind_eq_some_iff, afterStart?_eq_some_iff,
      Prod.exists, takeSome?_eq_some_iff] at h
    obtain ⟨_, rfl, name, rest, ⟨hne, hname, rfl, -⟩, h⟩ := h
    split at h
    · rename_i heq
      simp only [Prod.mk.injEq] at heq
      obtain ⟨rfl, rfl⟩ := heq
      obtain rfl := Option.some.inj h
      exact ⟨⟨by simpa using hne, by simpa using hname⟩, by simp [reference]⟩
    · cases h
  · rintro ⟨hbase, rfl⟩
    simp only [readReference?, Option.bind_eq_bind, Option.bind_eq_some_iff, afterStart?_eq_some_iff,
      Prod.exists, takeSome?_eq_some_iff]
    exact ⟨_, rfl, base.toList, [';'], ⟨hbase.1, hbase.2, rfl, stopsAt_cons (by decide)⟩, by simp⟩

/-! ### Names and definitions -/

theorem readPairs_pairWords {entries : List (String × String)} {read result : Table String} :
    readPairs read (pairWords entries) = .ok result ↔
      (∀ entry ∈ entries, isName entry.1.toList = true ∧ isDefinition entry.2.toList = true) ∧
        result.entries = read.entries ++ entries := by
  induction entries generalizing read with
  | nil =>
    simp only [pairWords, List.flatMap_nil, readPairs, Except.ok.injEq, List.append_nil]
    exact ⟨fun h => ⟨by simp, h ▸ rfl⟩, fun h => (Table.ext h.2).symm⟩
  | cons entry entries ih =>
    obtain ⟨name, definition⟩ := entry
    have hwords : pairWords ((name, definition) :: entries) =
        name.toList :: definition.toList :: pairWords entries := rfl
    rw [hwords, readPairs]
    by_cases hname : isName name.toList = true
    · by_cases hdef : isDefinition definition.toList = true
      · by_cases hmem : name ∈ read.keys
        · have hdup : ¬ result.entries = read.entries ++ (name, definition) :: entries := by
            intro h
            have hn := result.nodup
            rw [h, List.map_append, List.nodup_append] at hn
            exact hn.2.2 name hmem name (by simp) rfl
          simp [hname, hdef, hmem, hdup]
        · simp [hname, hdef, hmem, ih, Table.entries_insert_of_not_mem hmem]
      · simp [hname, hdef]
    · simp [hname]

theorem exists_pairWords : ∀ ws : List (List Char), ws.length % 2 = 0 →
    ∃ entries : List (String × String), ws = pairWords entries
  | [], _ => ⟨[], rfl⟩
  | [_], h => by simp at h
  | name :: definition :: ws, h => by
    simp only [List.length_cons] at h
    obtain ⟨entries, rfl⟩ := exists_pairWords ws (by omega)
    exact ⟨(String.ofList name, String.ofList definition) :: entries, by simp [pairWords]⟩

theorem length_pairWords (entries : List (String × String)) :
    (pairWords entries).length = 2 * entries.length := by
  induction entries with
  | nil => rfl
  | cons entry entries ih =>
    simp only [pairWords, List.flatMap_cons, List.length_append, List.length_cons] at ih ⊢
    simp only [List.length_nil, ih]
    omega

theorem readDefinitions_eq_ok_iff {base : Option String} {ws : List (List Char)}
    {value : FragmentBody} :
    readDefinitions base ws = .ok value ↔ value.base = base ∧
      ws = pairWords value.definitions.entries ∧
      ∀ entry ∈ value.definitions.entries,
        isName entry.1.toList = true ∧ IsDefinition entry.2.toList := by
  unfold readDefinitions
  constructor
  · intro h
    split at h
    · cases h
    · rename_i hodd
      obtain ⟨entries, rfl⟩ := exists_pairWords ws (by omega)
      cases hread : readPairs .empty (pairWords entries) with
      | error fault => simp [hread, Except.map] at h
      | ok definitions =>
        obtain ⟨hentries, heq⟩ := readPairs_pairWords.1 hread
        simp only [hread, Except.map, Except.ok.injEq] at h
        subst h
        simp only [Table.empty, List.nil_append] at heq
        subst heq
        exact ⟨rfl, rfl, fun entry he => ⟨(hentries entry he).1, isDefinition_iff.1 (hentries entry he).2⟩⟩
  · rintro ⟨rfl, rfl, hentries⟩
    have hread : readPairs .empty (pairWords value.definitions.entries) = .ok value.definitions :=
      readPairs_pairWords.2
        ⟨fun entry he => ⟨(hentries entry he).1, isDefinition_iff.2 (hentries entry he).2⟩, rfl⟩
    have heven : ¬ (pairWords value.definitions.entries).length % 2 = 1 := by
      rw [length_pairWords]
      omega
    rw [if_neg heven, hread]
    rfl

theorem pairWords_ne_reference {entries : List (String × String)} {rest : List Char}
    {others : List (List Char)} (h : ∀ entry ∈ entries, isName entry.1.toList = true) :
    pairWords entries ≠ ('%' :: rest) :: others := by
  intro heq
  cases entries with
  | nil => cases heq
  | cons entry entries =>
    have hfirst : entry.1.toList = '%' :: rest := (List.cons.inj heq).1
    exact not_mem_of_isName (h entry (by simp)) (by decide : '%' ∈ reservedChars) (by simp [hfirst])

/-- **A body is read exactly from the texts that spell it.** -/
theorem read_eq_ok_iff {body : List Char} {value : FragmentBody} :
    read body = .ok value ↔ Spells body value := by
  constructor
  · intro h
    unfold read at h
    split at h
    · rename_i rest others hwords
      split at h
      · rename_i base hbase
        obtain ⟨hname, href⟩ := readReference?_eq_some_iff.1 hbase
        obtain ⟨hvalue, hothers, hentries⟩ := readDefinitions_eq_ok_iff.1 h
        refine ⟨?_, ?_, fun e he => (hentries e he).1, fun e he => (hentries e he).2⟩
        · rw [hwords, hvalue, href, hothers]
          rfl
        · simpa [hvalue] using hname
      · cases h
    · obtain ⟨hvalue, hwords, hentries⟩ := readDefinitions_eq_ok_iff.1 h
      refine ⟨?_, ?_, fun e he => (hentries e he).1, fun e he => (hentries e he).2⟩
      · rw [hwords, hvalue]
        rfl
      · simp [hvalue]
  · intro h
    have hdefs : ∀ base, readDefinitions base (pairWords value.definitions.entries) =
        .ok ⟨base, value.definitions⟩ := fun base =>
      readDefinitions_eq_ok_iff.2 ⟨rfl, rfl, fun e he => ⟨h.names e he, h.definitions e he⟩⟩
    obtain ⟨base, definitions⟩ := value
    have hwords := h.words_eq
    cases base with
    | none =>
      simp only [Option.toList_none, List.map_nil, List.nil_append] at hwords
      unfold read
      split
      · rename_i rest others heq
        exact absurd (hwords.symm.trans heq) (pairWords_ne_reference h.names)
      · rw [hwords]
        exact hdefs none
    | some base =>
      simp only [Option.toList_some, List.map_cons, List.map_nil, List.cons_append,
        List.nil_append] at hwords
      have href := readReference?_eq_some_iff.2 ⟨h.base base rfl, rfl⟩
      simp only [read, hwords, reference, List.cons_append] at href ⊢
      rw [href]
      exact hdefs (some base)

end FragmentBody

end TagGrammar
