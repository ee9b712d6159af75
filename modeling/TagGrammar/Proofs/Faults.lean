import Mathlib.Order.Bounds.Defs
import TagGrammar.Proofs.Rendering

/-!
# The lines that errors name

An error of a grammar text names a line of it that is not blank. A fault in a single line is the first
one, and nothing that follows it matters. A fault in a chain of fragments is laid on a fragment that
lies on a cycle or continues one that is not declared, not on those whose chains lead there
(`parse_error_culprit`).
-/

namespace TagGrammar

open Text

/-! ## Lines by their numbers -/

/-- The number of a line that is not blank, counted from one, and the line without the blanks around it. -/
structure NamesLine (ls : List (List Char)) (number : Nat) (construct : String) : Prop where
  first : 1 ≤ number
  last : number ≤ ls.length
  trimmed : ls[number - 1]?.map trim = some construct.toList
  nonempty : construct ≠ ""

theorem namesLine_append {front : List (List Char)} {raw : List Char} (hraw : trim raw ≠ [])
    (back : List (List Char)) :
    NamesLine (front ++ raw :: back) (front.length + 1) (String.ofList (trim raw)) := by
  refine ⟨by omega, by simp, by simp, fun hempty => hraw ?_⟩
  rw [← String.toList_ofList (l := trim raw), hempty]
  rfl

theorem isLine_of_mem_consFirst {c : Char} {ls : List (List Char)} (hc : isLineBreak c = false)
    (hls : ∀ line ∈ ls, IsLine line) : ∀ line ∈ consFirst c ls, IsLine line := by
  cases ls with
  | nil =>
    intro line hline
    obtain rfl := List.mem_singleton.1 hline
    simpa [IsLine] using hc
  | cons first rest =>
    rw [List.forall_mem_cons] at hls
    exact List.forall_mem_cons.2 ⟨List.forall_mem_cons.2 ⟨hc, hls.1⟩, hls.2⟩

theorem isLine_of_mem_lines (text : List Char) : ∀ line ∈ lines text, IsLine line := by
  fun_induction lines text with
  | case1 => simp
  | case2 rest ih => exact List.forall_mem_cons.2 ⟨by simp [IsLine], ih⟩
  | case3 c rest _ hbreak ih => exact List.forall_mem_cons.2 ⟨by simp [IsLine], ih⟩
  | case4 c rest _ hbreak ih => exact isLine_of_mem_consFirst (by simpa using hbreak) ih

/-- The first lines of a text, each with a break after it. -/
def firstLines (n : Nat) (text : String) : String :=
  String.ofList (((lines text.toList).take n).flatMap (· ++ ['\n']))

theorem lines_firstLines (n : Nat) (text : String) :
    lines (firstLines n text).toList = (lines text.toList).take n := by
  rw [firstLines, String.toList_ofList]
  exact lines_flatMap_newline fun line hline =>
    isLine_of_mem_lines text.toList line (List.mem_of_mem_take hline)

/-! ## Faults in a line -/

/-- The faults that are found as lines are read, one after the other. -/
def GrammarFault.IsOfLine : GrammarFault → Prop
  | unrecognized | body _ | duplicateFragment _ | duplicateElement _ | duplicateAttributeList _ => True
  | chainCycle _ | undeclaredFragment _ | undeclaredElement _ | missingAttributeList _ => False

namespace Declarations

theorem readLine_error {declared : Declarations} {number : Nat} {line : List Char} {error : GrammarError}
    (h : readLine declared number line = .error error) :
    error.line = number ∧ error.construct = String.ofList line ∧ error.fault.IsOfLine := by
  unfold readLine at h
  split at h
  · split at h
    · obtain rfl := Except.error.inj h
      exact ⟨rfl, rfl, trivial⟩
    · split at h
      · obtain rfl := Except.error.inj h
        exact ⟨rfl, rfl, trivial⟩
      · cases h
  · split at h
    · obtain rfl := Except.error.inj h
      exact ⟨rfl, rfl, trivial⟩
    · cases h
  · split at h
    · obtain rfl := Except.error.inj h
      exact ⟨rfl, rfl, trivial⟩
    · cases h
  · obtain rfl := Except.error.inj h
    exact ⟨rfl, rfl, trivial⟩

theorem readLines_append (declared : Declarations) (number : Nat) (xs ys : List (List Char)) :
    readLines declared number (xs ++ ys) =
      match readLines declared number xs with
      | .error error => .error error
      | .ok next => readLines next (number + xs.length) ys := by
  induction xs generalizing declared number with
  | nil => rfl
  | cons raw xs ih =>
    have hnumber : number + (raw :: xs).length = number + 1 + xs.length := by
      rw [List.length_cons]
      omega
    rw [List.cons_append, hnumber]
    by_cases hblank : trim raw = []
    · rw [readLines_cons_blank hblank, readLines_cons_blank hblank, ih]
    · rw [readLines_cons hblank, readLines_cons hblank]
      cases readLine declared number (trim raw) with
      | error error => rfl
      | ok next => exact ih next (number + 1)

/-- Reading stops at the first line that has a fault, after lines without one. -/
theorem readLines_error {declared : Declarations} {number : Nat} {raws : List (List Char)}
    {error : GrammarError} (h : readLines declared number raws = .error error) :
    ∃ front raw back next, raws = front ++ raw :: back ∧ trim raw ≠ [] ∧
      readLines declared number front = .ok next ∧
      readLine next (number + front.length) (trim raw) = .error error := by
  induction raws generalizing declared number with
  | nil => cases h
  | cons raw raws ih =>
    by_cases hblank : trim raw = []
    · rw [readLines_cons_blank hblank] at h
      obtain ⟨front, found, back, next, rfl, hfound, hfront, herror⟩ := ih h
      refine ⟨raw :: front, found, back, next, rfl, hfound, ?_, ?_⟩
      · rw [readLines_cons_blank hblank, hfront]
      · rwa [List.length_cons, Nat.add_comm front.length, ← Nat.add_assoc]
    · rw [readLines_cons hblank] at h
      cases hread : readLine declared number (trim raw) with
      | error found =>
        rw [hread] at h
        exact ⟨[], raw, raws, declared, rfl, hblank, rfl, hread.trans h⟩
      | ok read =>
        rw [hread] at h
        obtain ⟨front, found, back, next, rfl, hfound, hfront, herror⟩ := ih h
        refine ⟨raw :: front, found, back, next, rfl, hfound, ?_, ?_⟩
        · rw [readLines_cons hblank, hread]
          exact hfront
        · rwa [List.length_cons, Nat.add_comm front.length, ← Nat.add_assoc]

/-- The lines up to the named one decide: fewer have no fault, and more have no other. -/
theorem readLines_error_take {declared : Declarations} {raws : List (List Char)} {error : GrammarError}
    (h : readLines declared 1 raws = .error error) :
    NamesLine raws error.line error.construct ∧ error.fault.IsOfLine ∧
      (∀ n < error.line, ∃ next, readLines declared 1 (raws.take n) = .ok next) ∧
      ∀ others : List (List Char), others.take error.line = raws.take error.line →
        readLines declared 1 others = .error error := by
  obtain ⟨front, raw, back, next, rfl, hraw, hfront, herror⟩ := readLines_error h
  obtain ⟨hline, hconstruct, hfault⟩ := readLine_error herror
  rw [hline, hconstruct, Nat.add_comm 1]
  refine ⟨namesLine_append hraw back, hfault, fun n hn => ?_, fun others hothers => ?_⟩
  · -- fewer lines are the start of lines that were read
    rw [List.take_append_of_le_length (by omega)]
    have hsplit := readLines_append declared 1 (front.take n) (front.drop n)
    rw [List.take_append_drop, hfront] at hsplit
    cases hread : readLines declared 1 (front.take n) with
    | error found =>
      rw [hread] at hsplit
      cases hsplit
    | ok found => exact ⟨found, rfl⟩
  · have hstart : (front ++ raw :: back).take (front.length + 1) = front ++ [raw] := by
      simp [List.take_append, List.take_of_length_le]
    rw [hstart] at hothers
    rw [← List.take_append_drop (front.length + 1) others, hothers, List.append_assoc, readLines_append, hfront]
    dsimp only
    rw [List.singleton_append, readLines_cons hraw, herror]

end Declarations

/-! ## Declarations in their lines -/

/-- What a line declares, and that it stands in the line of its number. -/
structure Located.ReadFrom {α : Type} (ls : List (List Char)) (located : Located α) (d : Declaration) : Prop where
  names : NamesLine ls located.line located.construct
  spells : d.Spells located.construct.toList

namespace Declarations

/-- All that is held stands in the lines it was read from. -/
structure ReadFrom (ls : List (List Char)) (declared : Declarations) : Prop where
  fragments : ∀ name fragment, declared.fragments.get? name = some fragment →
    fragment.ReadFrom ls (.fragment name fragment.value)
  elements : ∀ tag element, declared.elements.get? tag = some element →
    element.ReadFrom ls (.element tag element.value)
  attributeLists : ∀ tag list, declared.attributeLists.get? tag = some list →
    list.ReadFrom ls (.attributeList tag list.value)

theorem readFrom_empty (ls : List (List Char)) : empty.ReadFrom ls := by
  constructor <;>
  · intro name located h
    cases h

theorem ReadFrom.readLine {ls : List (List Char)} {declared result : Declarations} {number : Nat}
    {line : List Char} (h : declared.ReadFrom ls) (hnames : NamesLine ls number (String.ofList line))
    (hread : declared.readLine number line = .ok result) : result.ReadFrom ls := by
  have hspells : ∀ {d : Declaration}, d.Spells line → d.Spells (String.ofList line).toList := by
    intro d hd
    rwa [String.toList_ofList]
  rcases readLine_cases hread with ⟨name, body, hd, -, rfl⟩ | ⟨tag, content, hd, -, rfl⟩ | ⟨tag, name, hd, -, rfl⟩
  · exact ⟨Table.forall_get?_insert h.fragments ⟨hnames, hspells hd⟩, h.elements, h.attributeLists⟩
  · exact ⟨h.fragments, Table.forall_get?_insert h.elements ⟨hnames, hspells hd⟩, h.attributeLists⟩
  · exact ⟨h.fragments, h.elements, Table.forall_get?_insert h.attributeLists ⟨hnames, hspells hd⟩⟩

theorem ReadFrom.readLines {front raws : List (List Char)} {declared result : Declarations}
    (h : declared.ReadFrom (front ++ raws))
    (hread : declared.readLines (front.length + 1) raws = .ok result) : result.ReadFrom (front ++ raws) := by
  induction raws generalizing front declared with
  | nil =>
    obtain rfl := Except.ok.inj hread
    exact h
  | cons raw raws ih =>
    have hnext : ∀ {next : Declarations}, next.ReadFrom (front ++ raw :: raws) →
        next.readLines (front.length + 1 + 1) raws = .ok result → result.ReadFrom (front ++ raw :: raws) := by
      intro next hfrom hrest
      rw [List.append_cons] at hfrom ⊢
      exact ih hfrom (by simpa using hrest)
    by_cases hblank : trim raw = []
    · rw [readLines_cons_blank hblank] at hread
      exact hnext h hread
    · rw [readLines_cons hblank] at hread
      split at hread
      · cases hread
      · rename_i next hline
        exact hnext (h.readLine (namesLine_append hblank raws) hline) hread

end Declarations

/-! ## Faults among declarations -/

/-- What an error that is found after all lines have been read says of a line among declarations.
Attribute lists and elements are not looked at before all chains of fragments are in order, so a fault
of a chain is laid on a fragment that is on a cycle itself or lacks its own base. -/
inductive Blames (ds : List Declaration) (line : List Char) : GrammarFault → Prop where
  | onCycle {name : String} {body : FragmentBody} (h : (name, body) ∈ Declaration.fragments ds)
      (hline : Declaration.Spells line (.fragment name body))
      (hcycle : Relation.TransGen (Continues (Declaration.fragments ds)) name name) :
      Blames ds line (.chainCycle name)
  | lacksBase {name base : String} {body : FragmentBody} (h : (name, body) ∈ Declaration.fragments ds)
      (hline : Declaration.Spells line (.fragment name body)) (hbase : body.base = some base)
      (hnone : base ∉ (Declaration.fragments ds).map Prod.fst) : Blames ds line (.undeclaredFragment base)
  | listLacksElement {tag name : String} (hchained : WellChained (Declaration.fragments ds))
      (h : (tag, name) ∈ Declaration.attributeLists ds)
      (hline : Declaration.Spells line (.attributeList tag name))
      (hnone : tag ∉ (Declaration.elements ds).map Prod.fst) : Blames ds line (.undeclaredElement tag)
  | listLacksFragment {tag name : String} (hchained : WellChained (Declaration.fragments ds))
      (h : (tag, name) ∈ Declaration.attributeLists ds)
      (hline : Declaration.Spells line (.attributeList tag name))
      (hnone : name ∉ (Declaration.fragments ds).map Prod.fst) : Blames ds line (.undeclaredFragment name)
  | lacksList {tag : String} {content : ContentModel} (hchained : WellChained (Declaration.fragments ds))
      (h : (tag, content) ∈ Declaration.elements ds)
      (hline : Declaration.Spells line (.element tag content))
      (hnone : tag ∉ (Declaration.attributeLists ds).map Prod.fst) : Blames ds line (.missingAttributeList tag)

theorem Blames.not_isOfLine {ds : List Declaration} {line : List Char} {fault : GrammarFault}
    (h : Blames ds line fault) : ¬ fault.IsOfLine := by
  cases h <;> exact id

namespace Declarations

theorem checkAttributeLists_error {declared : Declarations} {lists : List (String × Located String)}
    {error : GrammarError} (h : checkAttributeLists declared lists = .error error) :
    ∃ tag list, (tag, list) ∈ lists ∧
      (tag ∉ declared.elements.keys ∧ error = list.error (.undeclaredElement tag) ∨
        list.value ∉ declared.fragments.keys ∧ error = list.error (.undeclaredFragment list.value)) := by
  induction lists with
  | nil => cases h
  | cons entry lists ih =>
    obtain ⟨tag, list⟩ := entry
    rw [checkAttributeLists] at h
    by_cases htag : tag ∈ declared.elements.keys
    · by_cases hname : list.value ∈ declared.fragments.keys
      · obtain ⟨other, found, hmem, hcases⟩ := ih (by
          simpa [htag, hname] using h)
        exact ⟨other, found, List.mem_cons_of_mem _ hmem, hcases⟩
      · simp only [Table.contains_iff.2 htag, Table.contains_eq_false_iff.2 hname] at h
        exact ⟨tag, list, List.mem_cons_self, .inr ⟨hname, (Except.error.inj h).symm⟩⟩
    · simp only [Table.contains_eq_false_iff.2 htag] at h
      exact ⟨tag, list, List.mem_cons_self, .inl ⟨htag, (Except.error.inj h).symm⟩⟩

theorem addElements_error {declared : Declarations} {done : Flattened} {schema : Schema}
    {entries : List (String × Located ContentModel)} {error : GrammarError}
    (h : addElements declared done schema entries = .error error) :
    ∃ tag element, (tag, element) ∈ entries ∧ tag ∉ declared.attributeLists.keys ∧
      error = element.error (.missingAttributeList tag) := by
  induction entries generalizing schema with
  | nil => cases h
  | cons entry entries ih =>
    obtain ⟨tag, element⟩ := entry
    simp only [addElements] at h
    cases hget : declared.attributeLists.get? tag with
    | none =>
      simp only [hget] at h
      exact ⟨tag, element, List.mem_cons_self, Table.get?_eq_none_iff.1 hget, (Except.error.inj h).symm⟩
    | some list =>
      simp only [hget] at h
      obtain ⟨other, found, hmem, hfound⟩ := ih h
      exact ⟨other, found, List.mem_cons_of_mem _ hmem, hfound⟩

section
variable {ls : List (List Char)} {declared : Declarations} {ds : List Declaration} {error : GrammarError}
  (hds : Holds declared ds) (hread : declared.ReadFrom ls)
include hds hread

theorem Culprit.blames (h : Culprit declared.fragments error) :
    NamesLine ls error.line error.construct ∧ Blames ds error.construct.toList error.fault := by
  cases h with
  | @undeclared name base fragment hget hbase hnone =>
    obtain ⟨hnames, hspells⟩ := hread.fragments name fragment hget
    have hmem : (name, fragment.value) ∈ Declaration.fragments ds :=
      hds.fragments ▸ Table.mem_located_iff.2 ⟨fragment, hget, rfl⟩
    have hout : base ∉ (Declaration.fragments ds).map Prod.fst :=
      hds.keys_fragments ▸ Table.get?_eq_none_iff.1 hnone
    exact ⟨hnames, .lacksBase hmem hspells hbase hout⟩
  | @cycle name fragment hget hcycle =>
    obtain ⟨hnames, hspells⟩ := hread.fragments name fragment hget
    have hmem : (name, fragment.value) ∈ Declaration.fragments ds :=
      hds.fragments ▸ Table.mem_located_iff.2 ⟨fragment, hget, rfl⟩
    exact ⟨hnames, .onCycle hmem hspells (hds.fragments ▸ hcycle)⟩

theorem blames_of_checkAttributeLists (hchained : WellChained (Declaration.fragments ds))
    (h : checkAttributeLists declared declared.attributeLists.entries = .error error) :
    NamesLine ls error.line error.construct ∧ Blames ds error.construct.toList error.fault := by
  obtain ⟨tag, list, hentry, hcases⟩ := checkAttributeLists_error h
  have hget := Table.get?_eq_some_iff.2 hentry
  obtain ⟨hnames, hspells⟩ := hread.attributeLists tag list hget
  have hmem : (tag, list.value) ∈ Declaration.attributeLists ds :=
    hds.attributeLists ▸ Table.mem_located_iff.2 ⟨list, hget, rfl⟩
  rcases hcases with ⟨hnone, rfl⟩ | ⟨hnone, rfl⟩
  · exact ⟨hnames, .listLacksElement hchained hmem hspells (hds.keys_elements ▸ hnone)⟩
  · exact ⟨hnames, .listLacksFragment hchained hmem hspells (hds.keys_fragments ▸ hnone)⟩

theorem blames_of_addElements {done : Flattened} {schema : Schema}
    (hchained : WellChained (Declaration.fragments ds))
    (h : addElements declared done schema declared.elements.entries = .error error) :
    NamesLine ls error.line error.construct ∧ Blames ds error.construct.toList error.fault := by
  obtain ⟨tag, element, hentry, hnone, rfl⟩ := addElements_error h
  have hget := Table.get?_eq_some_iff.2 hentry
  obtain ⟨hnames, hspells⟩ := hread.elements tag element hget
  have hmem : (tag, element.value) ∈ Declaration.elements ds :=
    hds.elements ▸ Table.mem_located_iff.2 ⟨element, hget, rfl⟩
  exact ⟨hnames, .lacksList hchained hmem hspells (hds.keys_attributeLists ▸ hnone)⟩

theorem schema_error (h : declared.schema = .error error) :
    NamesLine ls error.line error.construct ∧ Blames ds error.construct.toList error.fault := by
  simp only [Declarations.schema, bind, Except.bind] at h
  split at h
  · rename_i found hflatten
    obtain rfl := Except.error.inj h
    exact Culprit.blames hds hread
      (flattenEach_error (fun entry hentry => Table.get?_eq_some_iff.2 hentry) hflatten)
  · rename_i done hflatten
    have hchained : WellChained (Declaration.fragments ds) :=
      hds.fragments ▸ (flattenEach_eq_ok_iff fun _ => Iff.rfl).1 ⟨done, hflatten⟩
    split at h
    · rename_i found hcheck
      obtain rfl := Except.error.inj h
      exact blames_of_checkAttributeLists hds hread hchained hcheck
    · exact blames_of_addElements hds hread hchained h

end

end Declarations

/-! ## Faults of a text -/

namespace Schema

theorem parse_eq_error_iff {text : String} {error : GrammarError} : Schema.parse text = .error error ↔
    Declarations.read text = .error error ∨
      ∃ declared, Declarations.read text = .ok declared ∧ declared.schema = .error error := by
  simp only [Schema.parse, bind, Except.bind]
  cases Declarations.read text <;> simp

/-- An error of the schema is laid on a line among declarations that can all be read. -/
theorem blames_of_read {text : String} {declared : Declarations} {error : GrammarError}
    (hread : Declarations.read text = .ok declared) (h : declared.schema = .error error) :
    NamesLine (lines text.toList) error.line error.construct ∧ ∃ ds, Declares text ds ∧
      Declaration.Distinct ds ∧ Blames ds error.construct.toList error.fault := by
  obtain ⟨ds, hdeclares, hds⟩ := Declarations.readLines_sound Declarations.holds_empty hread
  rw [List.nil_append] at hds
  have hfrom : declared.ReadFrom ([] ++ lines text.toList) := (Declarations.readFrom_empty _).readLines hread
  obtain ⟨hnames, hblames⟩ := Declarations.schema_error hds hfrom h
  exact ⟨hnames, ds, hdeclares, hds.distinct, hblames⟩

theorem fault_isOfLine_iff {text : String} {error : GrammarError} (h : Schema.parse text = .error error) :
    error.fault.IsOfLine ↔ Declarations.read text = .error error := by
  rcases parse_eq_error_iff.1 h with hread | ⟨declared, hread, hschema⟩
  · exact iff_of_true (Declarations.readLines_error_take hread).2.1 hread
  · obtain ⟨-, ds, -, -, hblames⟩ := blames_of_read hread hschema
    exact iff_of_false hblames.not_isOfLine (by simp [hread])

/-- **An error names a line that is at fault.** -/
theorem parse_error_culprit {text : String} {error : GrammarError} (h : Schema.parse text = .error error) :
    NamesLine (lines text.toList) error.line error.construct ∧
    (error.fault.IsOfLine →
      IsLeast {n | ∃ found, Schema.parse (firstLines n text) = .error found ∧ found.fault.IsOfLine} error.line ∧
      ∀ other : String, (lines other.toList).take error.line = (lines text.toList).take error.line →
        Schema.parse other = .error error) ∧
    (¬ error.fault.IsOfLine → ∃ ds, Declares text ds ∧ Declaration.Distinct ds ∧
      Blames ds error.construct.toList error.fault) := by
  rcases parse_eq_error_iff.1 h with hread | ⟨declared, hread, hschema⟩
  · obtain ⟨hnames, hfault, hbefore, hagree⟩ := Declarations.readLines_error_take hread
    have hsame : ∀ other : String, (lines other.toList).take error.line = (lines text.toList).take error.line →
        Schema.parse other = .error error :=
      fun other hother => parse_eq_error_iff.2 (.inl (hagree _ hother))
    refine ⟨hnames, fun _ => ⟨⟨?_, ?_⟩, hsame⟩, fun hnot => absurd hfault hnot⟩
    · refine ⟨error, hsame _ ?_, hfault⟩
      rw [lines_firstLines, List.take_take, Nat.min_self]
    · rintro n ⟨found, hfound, hofLine⟩
      by_contra hlt
      obtain ⟨next, hnext⟩ := hbefore n (Nat.lt_of_not_le hlt)
      have herror := (fault_isOfLine_iff hfound).1 hofLine
      rw [Declarations.read, lines_firstLines, hnext] at herror
      cases herror
  · obtain ⟨hnames, ds, hdeclares, hdistinct, hblames⟩ := blames_of_read hread hschema
    exact ⟨hnames, fun hofLine => absurd hofLine hblames.not_isOfLine,
      fun _ => ⟨ds, hdeclares, hdistinct, hblames⟩⟩

end Schema

/-! ### A fault in a chain and a fault in a line -/

namespace Sample

/-- The first fragment leads to a cycle that it is not on. -/
def looped : String :=
  "<!ENTITY % Dial \"%Knob;\">\n\n\t<!ENTITY % Knob \"%Gauge; min CDATA\">\n<!ENTITY % Gauge \"%Knob;\">"

/-- Three faults, the first of which is in the third line. -/
def repeated : String :=
  "<!ELEMENT dial EMPTY>\r\n\u001e <!ELEMENT dial ANY> \u2028<!DOCTYPE ui>\n<!ATTLIST knob %Knob;>"

end Sample

theorem Sample.parse_looped_repeated :
    (Schema.parse looped = .error ⟨.chainCycle "Knob", 3, "<!ENTITY % Knob \"%Gauge; min CDATA\">"⟩ ∧
      ∃ ds, Declares looped ds ∧ Declaration.Distinct ds ∧
        Blames ds "<!ENTITY % Knob \"%Gauge; min CDATA\">".toList (.chainCycle "Knob")) ∧
    (Schema.parse repeated = .error ⟨.duplicateElement "dial", 3, "<!ELEMENT dial ANY>"⟩ ∧
      NamesLine (lines repeated.toList) 3 "<!ELEMENT dial ANY>" ∧
      IsLeast {n | ∃ found, Schema.parse (firstLines n repeated) = .error found ∧ found.fault.IsOfLine} 3) := by
  have hlooped : Schema.parse looped =
      .error ⟨.chainCycle "Knob", 3, "<!ENTITY % Knob \"%Gauge; min CDATA\">"⟩ := by
    decide +kernel
  have hrepeated : Schema.parse repeated = .error ⟨.duplicateElement "dial", 3, "<!ELEMENT dial ANY>"⟩ := by
    decide +kernel
  obtain ⟨-, -, hblames⟩ := Schema.parse_error_culprit hlooped
  obtain ⟨hnames, hofLine, -⟩ := Schema.parse_error_culprit hrepeated
  exact ⟨⟨hlooped, hblames id⟩, hrepeated, hnames, (hofLine trivial).1⟩

end TagGrammar
