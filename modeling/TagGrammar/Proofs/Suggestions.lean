import TagGrammar.Proofs.Acceptance
import TagGrammar.Proofs.Names
import TagGrammar.Proofs.Typing

/-!
# Accepting a suggestion

A suggestion that takes the place of what has been typed is suggested again there, unless the quotes
in it open a value (`complete_accepted`). Names of a grammar hold no blank and no angle bracket, but
they may hold a single quote.
-/

namespace TagGrammar

open Text Registry

/-! ## Quotes and letter case -/

/-- A character that opens a value. -/
def IsMark (c : Char) : Prop :=
  c = '"' ∨ c = '\''

theorem not_isMark_ofNat {n : Nat} (h : 0x28 ≤ n) : ¬ IsMark (Char.ofNat n) := by
  by_cases hvalid : n.isValidChar
  · intro hmark
    have hcode : (Char.ofNat n).toNat = 0x22 ∨ (Char.ofNat n).toNat = 0x27 := by
      rcases hmark with hmark | hmark <;> simp [hmark]
    rw [toNat_ofNat hvalid] at hcode
    omega
  · rw [Char.ofNat, dif_neg hvalid]
    exact not_or.2 ⟨by decide, by decide⟩

theorem not_isMark_of_mapCase? {sequences : List (Nat × List Nat)} {runs : List CaseRun}
    (hsequences : ∀ entry ∈ sequences, ∀ code ∈ entry.2, 0x28 ≤ code)
    (hruns : ∀ run ∈ runs, (0x28 : Int) ≤ run.first + run.shift) {c : Char} {image : List Char}
    (h : mapCase? sequences runs c = some image) : ∀ d ∈ image, ¬ IsMark d := by
  intro d hd
  unfold mapCase? at h
  cases hseq : sequences.lookup c.toNat with
  | some codes =>
    simp only [hseq, Option.some.injEq] at h
    subst h
    obtain ⟨code, hcode, rfl⟩ := List.mem_map.1 hd
    obtain ⟨before, after, heq, -⟩ := List.lookup_eq_some_iff.1 hseq
    exact not_isMark_ofNat (hsequences (c.toNat, codes) (by simp [heq]) code hcode)
  | none =>
    simp only [hseq, Option.map_eq_some_iff] at h
    obtain ⟨run, hrun, rfl⟩ := h
    obtain rfl := List.mem_singleton.1 hd
    have hcovers := List.find?_some hrun
    have hfirst := hruns run (List.mem_of_find?_eq_some hrun)
    simp only [CaseRun.covers, Bool.and_eq_true, decide_eq_true_eq] at hcovers
    exact not_isMark_ofNat (by omega)

theorem not_isMark_of_mem_foldChar {c d : Char} (h : ¬ IsMark c) (hd : d ∈ foldChar c) : ¬ IsMark d := by
  have hfold : ∀ entry ∈ foldSequences, ∀ code ∈ entry.2, 0x28 ≤ code := by decide
  have hfoldRuns : ∀ run ∈ foldRuns, (0x28 : Int) ≤ run.first + run.shift := by decide
  have hlower : ∀ entry ∈ lowerSequences, ∀ code ∈ entry.2, 0x28 ≤ code := by decide
  have hlowerRuns : ∀ run ∈ lowerRuns, (0x28 : Int) ≤ run.first + run.shift := by decide +kernel
  unfold foldChar lowerChar at hd
  cases hmap : mapCase? foldSequences foldRuns c with
  | some image => exact not_isMark_of_mapCase? hfold hfoldRuns hmap d (by simpa [hmap] using hd)
  | none =>
    cases hmap' : mapCase? lowerSequences lowerRuns c with
    | some image => exact not_isMark_of_mapCase? hlower hlowerRuns hmap' d (by simpa [hmap, hmap'] using hd)
    | none =>
      obtain rfl : d = c := by simpa [hmap, hmap'] using hd
      exact h

theorem foldChar_of_isMark {c : Char} (h : IsMark c) : foldChar c = [c] := by
  rcases h with rfl | rfl <;> decide +kernel

namespace Context

theorem stepQuote_of_not_isMark {mark : Option Char} (hmark : ∀ m ∈ mark, IsMark m) {c : Char} (h : ¬ IsMark c) :
    stepQuote mark c = mark := by
  cases mark with
  | none => simpa [stepQuote, IsMark] using h
  | some m =>
    have hne : c ≠ m := by
      rintro rfl
      exact h (hmark c rfl)
    simp [stepQuote, hne]

theorem foldl_stepQuote_of_not_isMark {mark : Option Char} (hmark : ∀ m ∈ mark, IsMark m) {text : List Char}
    (h : ∀ c ∈ text, ¬ IsMark c) : text.foldl stepQuote mark = mark := by
  induction text with
  | nil => rfl
  | cons c text ih =>
    rw [List.forall_mem_cons] at h
    rw [List.foldl_cons, stepQuote_of_not_isMark hmark h.1, ih h.2]

theorem isMark_of_stepQuote {mark : Option Char} (hmark : ∀ m ∈ mark, IsMark m) (c : Char) :
    ∀ m ∈ stepQuote mark c, IsMark m := by
  intro m hm
  by_cases hc : IsMark c
  · cases mark with
    | none =>
      have hopen : stepQuote none c = some c := by
        rcases hc with rfl | rfl <;> rfl
      rw [hopen, Option.mem_some_iff] at hm
      exact hm ▸ hc
    | some n =>
      by_cases hclose : c = n
      · simp [stepQuote, hclose] at hm
      · simp only [stepQuote, if_neg hclose] at hm
        exact hmark m hm
  · rw [stepQuote_of_not_isMark hmark hc] at hm
    exact hmark m hm

theorem isMark_of_foldl_stepQuote {mark : Option Char} (hmark : ∀ m ∈ mark, IsMark m) (text : List Char) :
    ∀ m ∈ text.foldl stepQuote mark, IsMark m := by
  induction text generalizing mark with
  | nil => exact hmark
  | cons c text ih => exact ih (isMark_of_stepQuote hmark c)

/-- Folding letter case does not touch the quotes of a text. -/
theorem foldl_stepQuote_fold {mark : Option Char} (hmark : ∀ m ∈ mark, IsMark m) (text : List Char) :
    (fold text).foldl stepQuote mark = text.foldl stepQuote mark := by
  induction text generalizing mark with
  | nil => rfl
  | cons c text ih =>
    have hstep : (foldChar c).foldl stepQuote mark = stepQuote mark c := by
      by_cases hc : IsMark c
      · rw [foldChar_of_isMark hc]
        rfl
      · rw [foldl_stepQuote_of_not_isMark hmark fun d hd => not_isMark_of_mem_foldChar hc hd,
          stepQuote_of_not_isMark hmark hc]
    have hfold : fold (c :: text) = foldChar c ++ fold text := rfl
    rw [hfold, List.foldl_append, hstep, List.foldl_cons]
    exact ih (isMark_of_stepQuote hmark c)

end Context

/-- What a name has after the letters that have been typed of it, letter case folded. -/
def addedTo (typed name : List Char) : List Char :=
  (fold name).drop (fold typed).length

/-- A name in the place of what has been typed of it leaves a value open exactly if what it adds does. -/
theorem Context.foldl_stepQuote_accepted {stem typed name : List Char} (hlike : fold typed <+: fold name)
    (hcloses : (stem ++ typed).foldl stepQuote none = none) :
    (stem ++ name).foldl stepQuote none = (addedTo typed name).foldl stepQuote none := by
  have hmark := @isMark_of_foldl_stepQuote none (by simp) stem
  rw [List.foldl_append] at hcloses
  calc (stem ++ name).foldl stepQuote none
      = name.foldl stepQuote (stem.foldl stepQuote none) := List.foldl_append
    _ = (fold name).foldl stepQuote (stem.foldl stepQuote none) := (foldl_stepQuote_fold hmark name).symm
    _ = (fold typed ++ addedTo typed name).foldl stepQuote (stem.foldl stepQuote none) := by
      rw [addedTo, List.prefix_iff_eq_append.1 hlike]
    _ = (addedTo typed name).foldl stepQuote ((fold typed).foldl stepQuote (stem.foldl stepQuote none)) :=
      List.foldl_append
    _ = (addedTo typed name).foldl stepQuote none := by rw [foldl_stepQuote_fold hmark, hcloses]

/-! ## Names of a schema -/

/-- A name that can stand in a tag without a blank before it or an end of the tag in it. -/
structure FitsTag (name : String) : Prop where
  solid : IsSolid name.toList
  noOpen : '<' ∉ name.toList
  noClose : '>' ∉ name.toList

theorem IsTag.fitsTag {tag : String} (h : IsTag tag) : FitsTag tag := by
  have hchars := fun c hc => isTagChar_iff.1 (h.2 c hc)
  exact ⟨fun c hc => (hchars c hc).1, fun hc => (hchars _ hc).2.1 rfl, fun hc => (hchars _ hc).2.2 rfl⟩

theorem fitsTag_of_isName {name : String} (h : isName name.toList = true) : FitsTag name :=
  ⟨isSolid_of_isName h, not_mem_of_isName h (by decide), not_mem_of_isName h (by decide)⟩

theorem Schema.fitsTag_of_mem_candidates {text : String} {schema : Schema} (h : Schema.parse text = .ok schema)
    {context : Context} {name : String} (hname : name ∈ schema.candidates context) : FitsTag name := by
  obtain ⟨ds, hdeclares, hds, hschema⟩ := parse_sound h
  cases context with
  | tagName typed =>
    have hmem : name ∈ (Declaration.elements ds).map Prod.fst := hschema.tags ▸ hname
    obtain ⟨⟨tag, content⟩, hentry, rfl⟩ := List.mem_map.1 hmem
    obtain ⟨line, hspells⟩ := hdeclares.exists_spells (Declaration.mem_elements.1 hentry)
    cases hspells with
    | element _ _ _ htag => exact htag.fitsTag
  | attributeName tag? typed =>
    cases tag? with
    | none => cases hname
    | some tag =>
      have hfits : ∀ fragment ∈ Declaration.fragments ds, ∀ entry ∈ fragment.2.definitions.entries,
          FitsTag entry.1 := by
        intro fragment hfragment entry hentry
        obtain ⟨line, body, -, hbody⟩ := hdeclares.exists_spells (Declaration.mem_fragments.1 hfragment)
        exact fitsTag_of_isName (hbody.names entry hentry)
      have htag : tag ∈ schema.attributes.keys := by
        rw [← Table.get?_isSome_iff]
        by_contra hnone
        simp [candidates, attributesFor, Option.not_isSome_iff_eq_none.1 hnone] at hname
      rw [hschema.keys_attributes, hschema.tags, hds.tags] at htag
      obtain ⟨⟨tag, list⟩, hlist, rfl⟩ := List.mem_map.1 htag
      obtain ⟨definitions, hflattens, -, hget⟩ := hschema.definitions tag list hlist
      simp only [candidates, attributesFor, hget, Option.getD_some] at hname
      exact hflattens.forall_keys hfits name hname
  | nowhere => cases hname

/-! ## Accepting -/

namespace Context

theorem endsQuoted_accepted {stem typed name : List Char} (hlike : fold typed <+: fold name)
    (hends : endsQuoted (stem ++ typed) = false) :
    endsQuoted (stem ++ name) = false ↔ ClosesQuotes (addedTo typed name) := by
  rw [endsQuoted_eq_false_iff] at hends ⊢
  rw [foldl_stepQuote_accepted hlike hends, closesQuotes_iff]

theorem closesQuotes_addedTo {typed name : List Char} (h : ∀ c ∈ name, ¬ IsMark c) :
    ClosesQuotes (addedTo typed name) := by
  rw [closesQuotes_iff]
  apply foldl_stepQuote_of_not_isMark
  · simp
  · intro d hd
    obtain ⟨c, hc, hfolded⟩ := List.mem_flatMap.1 (List.mem_of_mem_drop hd)
    exact not_isMark_of_mem_foldChar (h c hc) hfolded

/-- A name that fits in a tag takes the place of what has been typed, unless its quotes open a value. -/
theorem find_accepted {text : String} {caret : Int} (hin : find text.toList caret ≠ nowhere) {name : String}
    (hfits : FitsTag name) (hlike : fold (find text.toList caret).typed.toList <+: fold name.toList) :
    let context := find text.toList caret
    let found := find (replaceBefore text caret context.typed.length name).toList
      (caret - context.typed.length + name.length)
    context.typed.toList <:+ text.toList.take caret.toNat ∧
    (ClosesQuotes (addedTo context.typed.toList name.toList) → found = context.retype name) ∧
    (¬ ClosesQuotes (addedTo context.typed.toList name.toList) → found = nowhere) := by
  intro context found
  obtain ⟨outer, stem, word, after, haround, hends, hfind⟩ := exists_around hin
  have htyped : context.typed.toList = word := by
    simp only [context, hfind, typed_atWord, String.toList_ofList]
  have hcount : context.typed.length = word.length := by
    rw [← String.length_toList, htyped]
  have hretype : context.retype name = atWord stem name.toList := by
    rw [← retype_atWord stem word, ← hfind, String.ofList_toList]
  have hfound : found = if endsQuoted (stem ++ name.toList) then nowhere else context.retype name := by
    have hdropped : Around text.toList caret outer stem ([] ++ word) after := haround
    have hnext := (hdropped.replace hfits.solid hfits.noOpen).find_eq
    simpa [found, hcount, hretype, hfits.noClose] using hnext
  have hiff := endsQuoted_accepted (htyped ▸ hlike) hends
  rw [htyped]
  refine ⟨?_, fun hcloses => ?_, fun hopen => ?_⟩
  · rw [haround.take_eq]
    exact ⟨outer ++ '<' :: stem, by simp⟩
  · simp [hfound, hiff.2 hcloses]
  · rw [hfound, if_pos (by simpa using mt hiff.1 hopen)]

end Context

/-- **A suggestion that is accepted is suggested again**, exactly if what it adds closes its quotes. -/
theorem Schema.complete_accepted {grammar : String} {schema : Schema} (hparse : Schema.parse grammar = .ok schema)
    {text : String} {caret : Int} {name : String} (h : name ∈ schema.complete text caret) :
    let context := Context.find text.toList caret
    let accepted := replaceBefore text caret context.typed.length name
    let next := caret - context.typed.length + name.length
    let found := Context.find accepted.toList next
    context.typed.toList <:+ text.toList.take caret.toNat ∧
    (ClosesQuotes (addedTo context.typed.toList name.toList) →
      found.word = context.word ∧ found.tag? = context.tag? ∧ found.typed = name ∧
        name ∈ schema.complete accepted next) ∧
    (¬ ClosesQuotes (addedTo context.typed.toList name.toList) →
      found = .nowhere ∧ schema.complete accepted next = []) ∧
    ('"' ∉ name.toList → '\'' ∉ name.toList → ClosesQuotes (addedTo context.typed.toList name.toList)) := by
  intro context accepted next found
  have hin : context ≠ .nowhere := by
    intro hnowhere
    rw [schema.complete_nowhere hnowhere] at h
    cases h
  obtain ⟨hname, hlike⟩ := mem_suggestions.1 h
  obtain ⟨hbefore, hsame, hlost⟩ := Context.find_accepted hin (fitsTag_of_mem_candidates hparse hname) hlike
  refine ⟨hbefore, fun hcloses => ?_, fun hopen => ?_, fun hdouble hsingle => ?_⟩
  · have hfound : found = context.retype name := hsame hcloses
    have hagain : name ∈ schema.suggestions found := by
      rw [mem_suggestions, hfound, candidates_retype, Context.typed_retype hin]
      exact ⟨hname, List.prefix_rfl⟩
    rw [hfound]
    exact ⟨context.word_retype name, context.tag?_retype name, Context.typed_retype hin name, hagain⟩
  · exact ⟨hlost hopen, schema.complete_nowhere (hlost hopen)⟩
  · apply Context.closesQuotes_addedTo
    rintro c hc (rfl | rfl)
    · exact hdouble hc
    · exact hsingle hc

namespace Sample

/-- A grammar with an attribute that holds two single quotes. -/
def quoting : String :=
  "<!ENTITY % Dial \"rock'n'roll CDATA\">\n<!ELEMENT dial EMPTY>\n<!ATTLIST dial %Dial;>"

end Sample

theorem Sample.complete_accepted_quoting : ∃ schema, Schema.parse quoting = .ok schema ∧
    schema.complete "<dial ROCK/>" 10 = ["rock'n'roll"] ∧
    replaceBefore "<dial ROCK/>" 10 4 "rock'n'roll" = "<dial rock'n'roll/>" ∧
    ClosesQuotes (addedTo "ROCK".toList "rock'n'roll".toList) ∧
    "rock'n'roll" ∈ schema.complete "<dial rock'n'roll/>" 17 := by
  have hsuggests : (Schema.parse quoting).toOption.map (fun schema => schema.complete "<dial ROCK/>" 10) =
      some ["rock'n'roll"] := by
    decide +kernel
  obtain ⟨schema, hparse, hcomplete⟩ : ∃ schema, Schema.parse quoting = .ok schema ∧
      schema.complete "<dial ROCK/>" 10 = ["rock'n'roll"] := by
    simpa only [Option.map_eq_some_iff, toOption_eq_some_iff] using hsuggests
  have hfind : Context.find "<dial ROCK/>".toList 10 = .attributeName (some "dial") "ROCK" := by decide
  have haccepted : replaceBefore "<dial ROCK/>" 10 4 "rock'n'roll" = "<dial rock'n'roll/>" := by decide
  have hcloses : ClosesQuotes (addedTo "ROCK".toList "rock'n'roll".toList) := closesQuotes_iff.2 (by decide +kernel)
  have hmem : "rock'n'roll" ∈ schema.complete "<dial ROCK/>" 10 := hcomplete ▸ List.mem_singleton.2 rfl
  have h := Schema.complete_accepted hparse hmem
  rw [hfind] at h
  obtain ⟨-, hagain, -, -⟩ := h
  exact ⟨schema, hparse, hcomplete, haccepted, hcloses, haccepted ▸ (hagain hcloses).2.2.2⟩

/-! ### A tag with one quote -/

namespace Sample

def knob : ComponentType :=
  ⟨"Knob", rootType, []⟩

def quoted : Registry :=
  leaves (bindTag "it's" "Knob") (leaves (registerAll [⟨"Knob", some rootType, []⟩] []) (withFallback .empty none))

theorem reachable_quoted : quoted.Reachable := by
  have hcreated : Registry.create [⟨"Knob", some rootType, []⟩] [] none =
      .ok (leaves (registerAll [⟨"Knob", some rootType, []⟩] []) (withFallback .empty none)) := rfl
  exact .step (.create (by simp) hcreated) (.bindTag _ "it's" "Knob")

theorem chain_knob : Chain quoted "Knob" [knob] :=
  .step (by decide) rfl .root

theorem attributesOf_knob : quoted.attributesOf knob = .ok [] := rfl

theorem bindsWritable_quoted : quoted.BindsOnly quoted.Writable := by
  intro binding hb types hline type hmem
  obtain rfl : binding = ("it's", "Knob") := List.mem_singleton.1 hb
  obtain rfl := (chain_of_lineage hline).unique chain_knob
  obtain rfl := List.mem_singleton.1 hmem
  exact writable_of_attributesOf attributesOf_knob (by decide) (by decide) (by simp) (by simp) (by simp)

theorem parses_quoted : ∃ grammar after schema, Compile.grammar.run ⟨quoted, []⟩ = .ok grammar after ∧
    Schema.parse grammar.text = .ok schema ∧ schema.tags = ["it's"] := by
  have hR : (Workbench.mk quoted []).registry.WellFormed := reachable_quoted.wellFormed
  have hchains : ∀ binding ∈ quoted.bindings, ∃ types, Chain quoted binding.2 types ∧
      ∀ type ∈ types, ∃ attributes, quoted.attributesOf type = .ok attributes := by
    intro binding hb
    obtain rfl : binding = ("it's", "Knob") := List.mem_singleton.1 hb
    refine ⟨[knob], chain_knob, fun type hmem => ?_⟩
    obtain rfl := List.mem_singleton.1 hmem
    exact ⟨[], attributesOf_knob⟩
  obtain ⟨grammar, hgrammar⟩ := Compile.grammar_complete hR hchains
  obtain ⟨after, hrun⟩ := answer_eq_ok_iff.1 hgrammar
  obtain ⟨types, h⟩ := Compile.grammar_sound hR hgrammar
  obtain ⟨schema, hparse, htags, -⟩ := (h.declarable bindsWritable_quoted).parse hR h
  exact ⟨grammar, after, schema, hrun, hparse, htags⟩

end Sample

/-- After a tag with one quote in it, nothing is suggested any more. -/
theorem Schema.complete_accepted_quoted : Sample.quoted.Reachable ∧ ∃ grammar after schema,
    Compile.grammar.run ⟨Sample.quoted, []⟩ = .ok grammar after ∧ Schema.parse grammar.text = .ok schema ∧
    schema.complete "<it" 3 = ["it's"] ∧ Context.find "<it".toList 3 = .tagName "it" ∧
    replaceBefore "<it" 3 2 "it's" = "<it's" ∧ Context.find "<it's".toList 5 = .nowhere ∧
    schema.complete "<it's" 5 = [] := by
  obtain ⟨grammar, after, schema, hrun, hparse, htags⟩ := Sample.parses_quoted
  have hfind : Context.find "<it".toList 3 = .tagName "it" := by decide
  have hnowhere : Context.find "<it's".toList 5 = .nowhere := by decide
  have hcomplete : schema.complete "<it" 3 = ["it's"] := by
    rw [complete, hfind, suggestions, candidates, htags]
    decide +kernel
  exact ⟨Sample.reachable_quoted, grammar, after, schema, hrun, hparse, hcomplete, hfind, by decide, hnowhere,
    schema.complete_nowhere hnowhere⟩

end TagGrammar
