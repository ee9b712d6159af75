import TagGrammar.Proofs.Layout
import TagGrammar.Proofs.Legibility

/-!
# Fragments decoded from their statements

A fragment is written by joining its texts with blanks and quotes and without escaping any of them, and
is read by taking words apart. Nothing is lost on the way if the texts hold no reserved character: the
statement determines the name, the base and the definitions (`Encodable.eq_of_render`), and it is read
back as they are unless the name or the base is empty (`Encodable.decodes`). A name or a base without a
character leaves a gap that no statement has.
-/

namespace TagGrammar

open Text

namespace FragmentBody

/-! ## Words of bodies -/

theorem pairWords_injective : Function.Injective pairWords := by
  intro entries
  induction entries with
  | nil =>
    intro others h
    cases others with
    | nil => rfl
    | cons => cases h
  | cons entry entries ih =>
    intro others h
    cases others with
    | nil => cases h
    | cons other others =>
      simp only [pairWords, List.flatMap_cons, List.cons_append, List.nil_append, List.cons.injEq,
        String.toList_inj] at h
      rw [Prod.ext h.1 h.2.1, ih h.2.2]

/-- A reference is no name, so the words of a body tell its base from its definitions. -/
theorem words_unique {base other : Option String} {entries others : List (String × String)}
    (hentries : ∀ entry ∈ entries, isName entry.1.toList = true)
    (hothers : ∀ entry ∈ others, isName entry.1.toList = true)
    (h : base.toList.map reference ++ pairWords entries = other.toList.map reference ++ pairWords others) :
    base = other ∧ entries = others := by
  cases base with
  | none =>
    cases other with
    | none => exact ⟨rfl, pairWords_injective h⟩
    | some other => exact absurd h (pairWords_ne_reference hentries)
  | some base =>
    cases other with
    | none => exact absurd h.symm (pairWords_ne_reference hothers)
    | some other =>
      obtain ⟨href, hwords⟩ := List.cons.inj h
      exact ⟨congrArg some (reference_injective href), pairWords_injective hwords⟩

theorem read_emptyReference {body : List Char} {others : List (List Char)}
    (h : words body = reference "" :: others) : read body = .error .malformedReference := by
  have href : readReference? (reference "") = none := by
    decide
  rw [read, h]
  simp only [reference, List.cons_append] at href ⊢
  rw [href]

end FragmentBody

/-! ## Statements of fragments -/

namespace Statement

theorem readElement?_render_fragment (name body : String) :
    readElement? (render (.fragment name body)).toList = none := by
  simp [readElement?, afterStart?, render]

theorem readAttributeList?_render_fragment (name body : String) :
    readAttributeList? (render (.fragment name body)).toList = none := by
  simp [readAttributeList?, afterStart?, render]

/-- The first quote ends the name, so that a statement tells its name from its body. -/
theorem render_fragment_inj {name body name' body' : String} (hname : '"' ∉ name.toList)
    (hname' : '"' ∉ name'.toList) (h : render (.fragment name body) = render (.fragment name' body')) :
    name = name' ∧ body = body' := by
  have hparts : ∀ name body : String, (render (.fragment name body)).toList =
      ("<!ENTITY % ".toList ++ name.toList ++ [' ']) ++ '"' :: (body.toList ++ "\">".toList) := by
    simp [render]
  have hstart : ∀ name : String, '"' ∉ name.toList → '"' ∉ "<!ENTITY % ".toList ++ name.toList ++ [' '] := by
    simp
  have hlists := congrArg String.toList h
  rw [hparts, hparts] at hlists
  obtain ⟨hfront, hback⟩ := mark_unique (hstart name hname) (hstart name' hname') hlists
  exact ⟨String.toList_inj.1 (List.append_cancel_left (List.append_cancel_right hfront)),
    String.toList_inj.1 (List.append_cancel_right hback)⟩

/-- The statement of a fragment without a name cannot be read. -/
theorem readFragment?_render_unnamed {body : String} (hbody : '"' ∉ body.toList) :
    readFragment? (render (.fragment "" body)).toList = none := by
  rw [Option.eq_none_iff_forall_ne_some]
  intro statement hread
  obtain ⟨word, -, hword⟩ := (readFragment?_sound hread).of_render_fragment (by simp) hbody
  simp at hword

end Statement

namespace Fragment

variable {fragment other : Fragment}

/-- The attributes that a fragment adds and how each is written. -/
def definitions (fragment : Fragment) : List (String × String) :=
  fragment.attributes.map fun attr => (attr.name, attr.definition)

/-- A fragment without reserved characters in its name and its base, either of which may be empty, and
with attributes of different names, of free text or with names for tokens. -/
structure Encodable (fragment : Fragment) : Prop where
  name : ∀ c ∈ fragment.name.toList, isFragmentNameChar c = true
  base : ∀ base ∈ fragment.base, ∀ c ∈ base.toList, isFragmentNameChar c = true
  names : ∀ attr ∈ fragment.attributes, isName attr.name.toList = true
  nodup : (fragment.attributes.map Attribute.name).Nodup
  tokens : ∀ attr ∈ fragment.attributes,
    attr.kind = .text ∨ attr.tokens ≠ [] ∧ ∀ token ∈ attr.tokens, isName token.toList = true

theorem Encodable.composed (h : fragment.Encodable) : fragment.Composed :=
  ⟨h.name, h.base, h.names, fun attr hattr => Attribute.isDefinition_definition (h.tokens attr hattr), h.nodup⟩

theorem Composed.names_definitions (h : fragment.Composed) :
    ∀ entry ∈ fragment.definitions, isName entry.1.toList = true := by
  intro entry hentry
  obtain ⟨attr, hattr, rfl⟩ := List.mem_map.1 hentry
  exact h.names attr hattr

theorem Composed.readFragment?_render (h : fragment.Composed) :
    Statement.readFragment? fragment.statement.render.toList =
      if fragment.name = "" then none else some (.fragment fragment.name fragment.body) := by
  have hquote := h.isLine_body.2
  split
  · rename_i hname
    rw [statement, hname, Statement.readFragment?_render_unnamed hquote]
  · rename_i hname
    have hname : IsFragmentName fragment.name := ⟨by simpa using hname, h.name⟩
    exact Statement.readFragment?_complete (Statement.spells_render_fragment hname hquote)

theorem Composed.read_body (h : fragment.Composed) : FragmentBody.read fragment.body.toList =
    if fragment.base = some "" then .error .malformedReference else .ok fragment.value := by
  split
  · rename_i hbase
    apply FragmentBody.read_emptyReference
    rw [h.words_body, hbase]
    rfl
  · rename_i hbase
    refine FragmentBody.read_eq_ok_iff.2 (h.spells_body fun base hmem => ⟨fun hempty => ?_, h.base base hmem⟩)
    rw [String.toList_eq_nil_iff.1 hempty] at hmem
    exact hbase hmem

/-- Fragments with the same statement have the same name, base and definitions. -/
theorem Composed.eq_of_render (h : fragment.Composed) (h' : other.Composed)
    (hrender : other.statement.render = fragment.statement.render) :
    other.name = fragment.name ∧ other.base = fragment.base ∧ other.definitions = fragment.definitions := by
  obtain ⟨hname, hbody⟩ := Statement.render_fragment_inj (not_mem_quote_of_isFragmentNameChar h'.name)
    (not_mem_quote_of_isFragmentNameChar h.name) hrender
  have hwords := congrArg (fun body : String => words body.toList) hbody
  simp only [h.words_body, h'.words_body] at hwords
  exact ⟨hname, FragmentBody.words_unique h'.names_definitions h.names_definitions hwords⟩

/-- **A written fragment is decoded to what was encoded.** Its statement is a single line that can only
be a fragment's, is read back as the name and the body exactly if there is a name, and its body as the
base and the definitions in order exactly if the base is not an empty text. No other name, base and
definitions are written like this. -/
theorem Encodable.decodes (h : fragment.Encodable) :
    lines fragment.statement.render.toList = [fragment.statement.render.toList] ∧
      Statement.readFragment? fragment.statement.render.toList =
        (if fragment.name = "" then none else some (.fragment fragment.name fragment.body)) ∧
      Statement.readElement? fragment.statement.render.toList = none ∧
      Statement.readAttributeList? fragment.statement.render.toList = none ∧
      FragmentBody.read fragment.body.toList =
        (if fragment.base = some "" then .error .malformedReference else .ok fragment.value) ∧
      fragment.value.base = fragment.base ∧
      fragment.value.definitions.entries = fragment.definitions ∧
      ∀ other : Fragment, other.Encodable → other.statement.render = fragment.statement.render →
        other.name = fragment.name ∧ other.base = fragment.base ∧ other.definitions = fragment.definitions := by
  have hcomposed := h.composed
  have hline : IsLine fragment.statement.render.toList :=
    Statement.isLine_render_fragment (isSolid_of_isFragmentNameChar h.name) hcomposed.isLine_body.1
  refine ⟨lines_of_isLine hline fragment.statement.trim_render.2, hcomposed.readFragment?_render,
    Statement.readElement?_render_fragment _ _, Statement.readAttributeList?_render_fragment _ _,
    hcomposed.read_body, rfl, hcomposed.entries_value, fun other hother hrender => ?_⟩
  exact hcomposed.eq_of_render hother.composed hrender

/-- A fragment with marks in its name and with an attribute that is named like a definition. -/
def marked : Fragment :=
  ⟨"acme.Dial(1)|x", some "acme.Knob", [⟨"CDATA", .tokens, ["on", "off"]⟩, ⟨"text", .text, []⟩]⟩

theorem marked_encodable : marked.Encodable := by
  constructor <;> decide

theorem marked_decodes : marked.Encodable ∧
    Statement.readFragment? "<!ENTITY % acme.Dial(1)|x \"%acme.Knob; CDATA (on|off) text CDATA\">".toList =
      some (.fragment "acme.Dial(1)|x" "%acme.Knob; CDATA (on|off) text CDATA") ∧
    ∃ value, FragmentBody.read "%acme.Knob; CDATA (on|off) text CDATA".toList = .ok value ∧
      value.base = some "acme.Knob" ∧
      value.definitions.entries = [("CDATA", "(on|off)"), ("text", "CDATA")] := by
  obtain ⟨-, hread, -, -, hbody, -, hentries, -⟩ := marked_encodable.decodes
  exact ⟨marked_encodable, hread, marked.value, hbody, rfl, hentries⟩

/-- A fragment without a name is not read back, nor is the body of one that continues a fragment
without a name. -/
theorem unnamed_unreadable : (Fragment.mk "" none [⟨"text", .text, []⟩]).Encodable ∧
    Statement.readFragment? (Fragment.mk "" none [⟨"text", .text, []⟩]).statement.render.toList = none ∧
    (Fragment.mk "Dial" (some "") []).Encodable ∧
    FragmentBody.read (Fragment.mk "Dial" (some "") []).body.toList = .error .malformedReference := by
  refine ⟨by constructor <;> decide, by decide, by constructor <;> decide, rfl⟩

end Fragment

end TagGrammar
