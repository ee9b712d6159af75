import TagGrammar.Grammar.Declarations
import TagGrammar.Proofs.Statement

/-!
# What the lines of a grammar declare

A line declares a fragment, an element or an attribute list. `Declarations.readLines` succeeds
exactly if the lines that are not blank spell declarations, no two of which declare the same thing,
and then it holds them in order (`readLines_sound`, `readLines_complete`).
-/

namespace TagGrammar

open Text

/-- What a line declares. -/
inductive Declaration where
  | fragment (name : String) (body : FragmentBody)
  | element (tag : String) (content : ContentModel)
  | attributeList (tag : String) (fragment : String)

namespace Declaration

def Spells (line : List Char) : Declaration → Prop
  | fragment name value =>
    ∃ body, Statement.Spells line (.fragment name body) ∧ FragmentBody.Spells body.toList value
  | element tag content => Statement.Spells line (.element tag content)
  | attributeList tag name => Statement.Spells line (.attributeList tag name)

def fragments (ds : List Declaration) : List (String × FragmentBody) :=
  ds.filterMap fun
    | fragment name body => some (name, body)
    | _ => none

def elements (ds : List Declaration) : List (String × ContentModel) :=
  ds.filterMap fun
    | element tag content => some (tag, content)
    | _ => none

def attributeLists (ds : List Declaration) : List (String × String) :=
  ds.filterMap fun
    | attributeList tag name => some (tag, name)
    | _ => none

/-- No fragment, no element and no attribute list is declared twice. -/
structure Distinct (ds : List Declaration) : Prop where
  fragments : ((fragments ds).map Prod.fst).Nodup
  elements : ((elements ds).map Prod.fst).Nodup
  attributeLists : ((attributeLists ds).map Prod.fst).Nodup

theorem mem_fragments {ds : List Declaration} {name : String} {body : FragmentBody} :
    (name, body) ∈ fragments ds ↔ .fragment name body ∈ ds := by
  simp only [fragments, List.mem_filterMap]
  constructor
  · rintro ⟨d, hd, heq⟩
    cases d <;> simp_all
  · exact fun h => ⟨_, h, rfl⟩

theorem mem_elements {ds : List Declaration} {tag : String} {content : ContentModel} :
    (tag, content) ∈ elements ds ↔ .element tag content ∈ ds := by
  simp only [elements, List.mem_filterMap]
  constructor
  · rintro ⟨d, hd, heq⟩
    cases d <;> simp_all
  · exact fun h => ⟨_, h, rfl⟩

theorem fragments_append (ds es : List Declaration) :
    fragments (ds ++ es) = fragments ds ++ fragments es :=
  List.filterMap_append

theorem elements_append (ds es : List Declaration) :
    elements (ds ++ es) = elements ds ++ elements es :=
  List.filterMap_append

theorem attributeLists_append (ds es : List Declaration) :
    attributeLists (ds ++ es) = attributeLists ds ++ attributeLists es :=
  List.filterMap_append

theorem Distinct.of_append {ds es : List Declaration} (h : Distinct (ds ++ es)) : Distinct ds := by
  obtain ⟨hf, he, ha⟩ := h
  rw [fragments_append, List.map_append] at hf
  rw [elements_append, List.map_append] at he
  rw [attributeLists_append, List.map_append] at ha
  exact ⟨(List.nodup_append.1 hf).1, (List.nodup_append.1 he).1, (List.nodup_append.1 ha).1⟩

theorem Spells.unique {line : List Char} {d e : Declaration} (hd : Spells line d)
    (he : Spells line e) : d = e := by
  have hread : ∀ {s t : Statement}, Statement.Spells line s → Statement.Spells line t → s = t :=
    fun hs ht => Option.some.inj
      ((Statement.read?_eq_some_iff.2 hs).symm.trans (Statement.read?_eq_some_iff.2 ht))
  cases d with
  | fragment name value =>
    obtain ⟨body, hs, hb⟩ := hd
    cases e with
    | fragment name' value' =>
      obtain ⟨body', hs', hb'⟩ := he
      obtain ⟨rfl, rfl⟩ := Statement.fragment.inj (hread hs hs')
      have := (FragmentBody.read_eq_ok_iff.2 hb).symm.trans (FragmentBody.read_eq_ok_iff.2 hb')
      rw [Except.ok.inj this]
    | element => cases hread hs he
    | attributeList => cases hread hs he
  | element tag content =>
    cases e with
    | fragment name' value' =>
      obtain ⟨body', hs', -⟩ := he
      cases hread hd hs'
    | element => cases hread hd he; rfl
    | attributeList => cases hread hd he
  | attributeList tag name =>
    cases e with
    | fragment name' value' =>
      obtain ⟨body', hs', -⟩ := he
      cases hread hd hs'
    | element => cases hread hd he
    | attributeList => cases hread hd he; rfl

end Declaration

/-! ## Reading lines -/

/-- The lines of a text that are not blank, without blanks around them. -/
def statementLines (raws : List (List Char)) : List (List Char) :=
  (raws.map trim).filter fun line => !line.isEmpty

/-- The names of a table of located values, with the values. -/
def Table.located {α : Type} (t : Table (Located α)) : List (String × α) :=
  t.entries.map fun entry => (entry.1, entry.2.value)

@[simp] theorem Table.map_fst_located {α : Type} (t : Table (Located α)) :
    t.located.map Prod.fst = t.keys := by
  simp [Table.located, Table.keys]

theorem Table.located_insert {α : Type} {t : Table (Located α)} {key : String} (h : key ∉ t.keys)
    (value : Located α) : (t.insert key value).located = t.located ++ [(key, value.value)] := by
  simp [Table.located, Table.entries_insert_of_not_mem h]

namespace Declarations

open Declaration (Spells Distinct)

/-- The tables hold the given declarations, in order. -/
structure Holds (declared : Declarations) (ds : List Declaration) : Prop where
  fragments : declared.fragments.located = Declaration.fragments ds
  elements : declared.elements.located = Declaration.elements ds
  attributeLists : declared.attributeLists.located = Declaration.attributeLists ds

theorem holds_empty : Holds empty [] :=
  ⟨rfl, rfl, rfl⟩

theorem Holds.keys_fragments {declared : Declarations} {ds : List Declaration}
    (h : Holds declared ds) : declared.fragments.keys = (Declaration.fragments ds).map Prod.fst := by
  simp [← h.fragments]

theorem Holds.keys_elements {declared : Declarations} {ds : List Declaration}
    (h : Holds declared ds) : declared.elements.keys = (Declaration.elements ds).map Prod.fst := by
  simp [← h.elements]

theorem Holds.keys_attributeLists {declared : Declarations} {ds : List Declaration}
    (h : Holds declared ds) :
    declared.attributeLists.keys = (Declaration.attributeLists ds).map Prod.fst := by
  simp [← h.attributeLists]

theorem Holds.distinct {declared : Declarations} {ds : List Declaration} (h : Holds declared ds) :
    Distinct ds :=
  ⟨h.keys_fragments ▸ declared.fragments.nodup, h.keys_elements ▸ declared.elements.nodup,
    h.keys_attributeLists ▸ declared.attributeLists.nodup⟩

/-- A line that is read declares one thing, which has not been declared before. -/
theorem readLine_cases {declared result : Declarations} {number : Nat} {line : List Char}
    (h : readLine declared number line = .ok result) :
    (∃ name body, Spells line (.fragment name body) ∧ name ∉ declared.fragments.keys ∧
      result = { declared with
        fragments := declared.fragments.insert name ⟨number, String.ofList line, body⟩ }) ∨
    (∃ tag content, Spells line (.element tag content) ∧ tag ∉ declared.elements.keys ∧
      result = { declared with
        elements := declared.elements.insert tag ⟨number, String.ofList line, content⟩ }) ∨
    (∃ tag name, Spells line (.attributeList tag name) ∧ tag ∉ declared.attributeLists.keys ∧
      result = { declared with
        attributeLists := declared.attributeLists.insert tag ⟨number, String.ofList line, name⟩ }) := by
  unfold readLine at h
  split at h
  · rename_i name body hread
    split at h
    · cases h
    · rename_i hnew
      rw [Table.contains_iff] at hnew
      split at h
      · cases h
      · rename_i value hbody
        exact .inl ⟨name, value, ⟨body, Statement.read?_eq_some_iff.1 hread, FragmentBody.read_eq_ok_iff.1 hbody⟩,
          hnew, (Except.ok.inj h).symm⟩
  · rename_i tag content hread
    split at h
    · cases h
    · rename_i hnew
      rw [Table.contains_iff] at hnew
      exact .inr (.inl ⟨tag, content, Statement.read?_eq_some_iff.1 hread, hnew, (Except.ok.inj h).symm⟩)
  · rename_i tag name hread
    split at h
    · cases h
    · rename_i hnew
      rw [Table.contains_iff] at hnew
      exact .inr (.inr ⟨tag, name, Statement.read?_eq_some_iff.1 hread, hnew, (Except.ok.inj h).symm⟩)
  · cases h

section
variable {declared : Declarations} {ds : List Declaration} {name : String} (hds : Holds declared ds)
include hds

theorem Holds.addFragment (hnew : name ∉ declared.fragments.keys) (body : Located FragmentBody) :
    Holds { declared with fragments := declared.fragments.insert name body }
      (ds ++ [.fragment name body.value]) := by
  constructor
  · simp [Table.located_insert hnew, hds.fragments, Declaration.fragments]
  · simp [hds.elements, Declaration.elements]
  · simp [hds.attributeLists, Declaration.attributeLists]

theorem Holds.addElement (hnew : name ∉ declared.elements.keys) (content : Located ContentModel) :
    Holds { declared with elements := declared.elements.insert name content }
      (ds ++ [.element name content.value]) := by
  constructor
  · simp [hds.fragments, Declaration.fragments]
  · simp [Table.located_insert hnew, hds.elements, Declaration.elements]
  · simp [hds.attributeLists, Declaration.attributeLists]

theorem Holds.addAttributeList (hnew : name ∉ declared.attributeLists.keys) (fragment : Located String) :
    Holds { declared with attributeLists := declared.attributeLists.insert name fragment }
      (ds ++ [.attributeList name fragment.value]) := by
  constructor
  · simp [hds.fragments, Declaration.fragments]
  · simp [hds.elements, Declaration.elements]
  · simp [Table.located_insert hnew, hds.attributeLists, Declaration.attributeLists]

theorem readLine_sound {result : Declarations} {number : Nat} {line : List Char}
    (h : readLine declared number line = .ok result) : ∃ d, Spells line d ∧ Holds result (ds ++ [d]) := by
  rcases readLine_cases h with
    ⟨name, body, hd, hnew, rfl⟩ | ⟨tag, content, hd, hnew, rfl⟩ | ⟨tag, name, hd, hnew, rfl⟩
  · exact ⟨.fragment name body, hd, hds.addFragment hnew _⟩
  · exact ⟨.element tag content, hd, hds.addElement hnew _⟩
  · exact ⟨.attributeList tag name, hd, hds.addAttributeList hnew _⟩

end

theorem not_mem_keys_of_nodup {α : Type} {entries : List (String × α)} {key : String} {value : α}
    (h : ((entries ++ [(key, value)]).map Prod.fst).Nodup) : key ∉ entries.map Prod.fst := by
  intro hmem
  rw [List.map_append, List.nodup_append] at h
  exact h.2.2 key hmem key (by simp) rfl

theorem readLine_complete {declared : Declarations} (number : Nat) {line : List Char}
    {ds : List Declaration} {d : Declaration} (hds : Holds declared ds) (hd : Spells line d)
    (hnew : Distinct (ds ++ [d])) : ∃ result, readLine declared number line = .ok result := by
  cases d with
  | fragment name value =>
    obtain ⟨body, hs, hb⟩ := hd
    have hn := hnew.fragments
    rw [Declaration.fragments_append] at hn
    have hnot : declared.fragments.contains name = false := by
      rw [Table.contains_eq_false_iff, hds.keys_fragments]
      exact not_mem_keys_of_nodup hn
    simp [readLine, Statement.read?_eq_some_iff.2 hs, FragmentBody.read_eq_ok_iff.2 hb, hnot]
  | element tag content =>
    have hn := hnew.elements
    rw [Declaration.elements_append] at hn
    have hnot : declared.elements.contains tag = false := by
      rw [Table.contains_eq_false_iff, hds.keys_elements]
      exact not_mem_keys_of_nodup hn
    simp [readLine, Statement.read?_eq_some_iff.2 hd, hnot]
  | attributeList tag name =>
    have hn := hnew.attributeLists
    rw [Declaration.attributeLists_append] at hn
    have hnot : declared.attributeLists.contains tag = false := by
      rw [Table.contains_eq_false_iff, hds.keys_attributeLists]
      exact not_mem_keys_of_nodup hn
    simp [readLine, Statement.read?_eq_some_iff.2 hd, hnot]

theorem statementLines_cons_blank {raw : List Char} (h : trim raw = []) (raws : List (List Char)) :
    statementLines (raw :: raws) = statementLines raws := by
  simp [statementLines, h]

theorem statementLines_cons {raw : List Char} (h : trim raw ≠ []) (raws : List (List Char)) :
    statementLines (raw :: raws) = trim raw :: statementLines raws := by
  simp [statementLines, h]

theorem readLines_cons {raw : List Char} (h : trim raw ≠ []) (declared : Declarations) (number : Nat)
    (raws : List (List Char)) :
    readLines declared number (raw :: raws) =
      match readLine declared number (trim raw) with
      | .error error => .error error
      | .ok next => readLines next (number + 1) raws := by
  rw [readLines]
  split
  · rename_i heq
    exact absurd heq h
  · rfl

theorem readLines_cons_blank {raw : List Char} (h : trim raw = []) (declared : Declarations)
    (number : Nat) (raws : List (List Char)) :
    readLines declared number (raw :: raws) = readLines declared (number + 1) raws := by
  simp [readLines, h]

theorem readLines_sound {raws : List (List Char)} {declared result : Declarations} {number : Nat}
    {ds : List Declaration} (hds : Holds declared ds)
    (h : readLines declared number raws = .ok result) :
    ∃ es, List.Forall₂ Spells (statementLines raws) es ∧ Holds result (ds ++ es) := by
  induction raws generalizing declared number ds with
  | nil =>
    obtain rfl := Except.ok.inj h
    exact ⟨[], .nil, by simpa using hds⟩
  | cons raw raws ih =>
    by_cases hblank : trim raw = []
    · rw [readLines_cons_blank hblank] at h
      rw [statementLines_cons_blank hblank]
      exact ih hds h
    · rw [readLines_cons hblank] at h
      split at h
      · cases h
      · rename_i next hnext
        obtain ⟨d, hd, hholds⟩ := readLine_sound hds hnext
        obtain ⟨es, hes, hresult⟩ := ih hholds h
        refine ⟨d :: es, ?_, by simpa using hresult⟩
        rw [statementLines_cons hblank]
        exact .cons hd hes

theorem readLines_complete {raws : List (List Char)} {declared : Declarations} (number : Nat)
    {ds es : List Declaration} (hds : Holds declared ds)
    (hes : List.Forall₂ Spells (statementLines raws) es) (hnew : Distinct (ds ++ es)) :
    ∃ result, readLines declared number raws = .ok result ∧ Holds result (ds ++ es) := by
  induction raws generalizing declared number ds es with
  | nil =>
    cases hes
    exact ⟨declared, rfl, by simpa using hds⟩
  | cons raw raws ih =>
    by_cases hblank : trim raw = []
    · rw [readLines_cons_blank hblank]
      rw [statementLines_cons_blank hblank] at hes
      exact ih _ hds hes hnew
    · rw [statementLines_cons hblank] at hes
      cases hes with
      | @cons _ d _ es hd hes =>
        have hsplit : ds ++ d :: es = (ds ++ [d]) ++ es := by simp
        rw [hsplit] at hnew ⊢
        obtain ⟨next, hnext⟩ := readLine_complete number hds hd hnew.of_append
        obtain ⟨d', hd', hholds⟩ := readLine_sound hds hnext
        rw [hd'.unique hd] at hholds
        rw [readLines_cons hblank, hnext]
        exact ih _ hholds hes hnew

end Declarations

end TagGrammar
