import TagGrammar.Completion
import TagGrammar.Proofs.RoundTrip

/-!
# Completing attributes

After a tag and attribute text whose quoted values are closed, the suggestions at the caret are the
attributes of the tag's type, and those that every element has, that start like the last word.
-/

namespace TagGrammar

open Text

/-! ## The context of a caret -/

/-- A text whose quoted values are all closed: a quote opens a value that the same quote closes. -/
inductive ClosesQuotes : List Char → Prop where
  | nil : ClosesQuotes []
  | plain {c : Char} {rest : List Char} (hdouble : c ≠ '"') (hsingle : c ≠ '\'')
      (h : ClosesQuotes rest) : ClosesQuotes (c :: rest)
  | quoted {mark : Char} {value rest : List Char} (hmark : mark = '"' ∨ mark = '\'')
      (hvalue : mark ∉ value) (h : ClosesQuotes rest) : ClosesQuotes (mark :: value ++ mark :: rest)

/-- A word is the longest end of a text that holds no blank. -/
structure EndsWithWord (word text : List Char) : Prop where
  suffix : word <:+ text
  solid : IsSolid word
  longest : ∀ other, other <:+ text → IsSolid other → other.length ≤ word.length

theorem ClosesQuotes.after_plain {text rest : List Char} (h : ∀ c ∈ text, c ≠ '"' ∧ c ≠ '\'')
    (hrest : ClosesQuotes rest) : ClosesQuotes (text ++ rest) := by
  induction text with
  | nil => exact hrest
  | cons c text ih =>
    obtain ⟨hdouble, hsingle⟩ := h c List.mem_cons_self
    exact .plain hdouble hsingle (ih fun d hd => h d (List.mem_cons_of_mem _ hd))

theorem EndsWithWord.split {word text : List Char} (h : EndsWithWord word text) :
    ∃ front, text = front ++ word ∧ StopsAt (fun c => !isBlank c) front.reverse := by
  obtain ⟨front, hfront⟩ := h.suffix
  refine ⟨front, hfront.symm, ?_⟩
  rcases List.eq_nil_or_concat front with rfl | ⟨init, c, rfl⟩
  · intro c hc
    cases hc
  · rw [List.concat_eq_append, List.reverse_append]
    apply stopsAt_cons
    by_contra hc
    -- otherwise the word could be longer by this character
    have hsolid : IsSolid (c :: word) := by
      intro d hd
      rcases List.mem_cons.1 hd with rfl | hd
      · simpa using hc
      · exact h.solid d hd
    have hsuffix : c :: word <:+ text := ⟨init, by simpa using hfront⟩
    have hlength := h.longest _ hsuffix hsolid
    rw [List.length_cons] at hlength
    omega

theorem endsWithWord_append_blank {front word : List Char} {c : Char} (hc : isBlank c = true)
    (hword : IsSolid word) : EndsWithWord word (front ++ c :: word) := by
  refine ⟨⟨front ++ [c], by simp⟩, hword, fun other hother hsolid => ?_⟩
  by_contra hlonger
  have hsuffix : c :: word <:+ other := by
    apply List.suffix_of_suffix_length_le (List.suffix_append front _) hother
    rw [List.length_cons]
    omega
  rw [hsolid c (hsuffix.subset List.mem_cons_self)] at hc
  cases hc

namespace Context

theorem foldl_stepQuote_value {mark : Char} {value : List Char} (h : mark ∉ value) :
    value.foldl stepQuote (some mark) = some mark := by
  induction value with
  | nil => rfl
  | cons c value ih =>
    have hc : c ≠ mark := fun heq => h (heq ▸ List.mem_cons_self)
    rw [List.foldl_cons, stepQuote, if_neg hc]
    exact ih fun hmem => h (List.mem_cons_of_mem _ hmem)

theorem foldl_stepQuote_closes {text : List Char} (h : ClosesQuotes text) :
    text.foldl stepQuote none = none := by
  induction h with
  | nil => rfl
  | @plain c rest hdouble hsingle _ ih =>
    have hstep : stepQuote none c = none := by simp [stepQuote, hdouble, hsingle]
    rw [List.foldl_cons, hstep]
    exact ih
  | @quoted mark value rest hmark hvalue _ ih =>
    have hopen : stepQuote none mark = some mark := by rcases hmark with rfl | rfl <;> rfl
    have hclose : stepQuote (some mark) mark = none := if_pos rfl
    rw [List.cons_append, List.foldl_cons, hopen, List.foldl_append, foldl_stepQuote_value hvalue,
      List.foldl_cons, hclose]
    exact ih

theorem openTag?_append_eq {before tagText : List Char} (hopen : '<' ∉ tagText) :
    openTag? (before ++ '<' :: tagText) = if '>' ∈ tagText then none else some tagText := by
  have hlast : (before ++ '<' :: tagText).reverse.takeWhile (· != '<') = tagText.reverse := by
    rw [List.reverse_append, List.reverse_cons, List.append_assoc]
    apply takeWhile_run
    · intro c hc
      rw [bne_iff_ne]
      rintro rfl
      exact hopen (List.mem_reverse.1 hc)
    · exact stopsAt_cons (by decide)
  unfold openTag?
  simp only [hlast, List.reverse_reverse]
  by_cases hclose : '>' ∈ tagText <;> simp [hclose]

theorem openTag?_append {before tagText : List Char} (hopen : '<' ∉ tagText) (hclose : '>' ∉ tagText) :
    openTag? (before ++ '<' :: tagText) = some tagText := by
  rw [openTag?_append_eq hopen, if_neg hclose]

/-- After a tag comes an attribute, of which the last word has been typed. -/
theorem ofTagText_attribute {tag rest word : List Char} (htag : isName tag = true)
    (hquote : ∀ c ∈ tag, c ≠ '"' ∧ c ≠ '\'') (hrest : ∃ c ∈ rest.head?, isBlank c = true)
    (hcloses : ClosesQuotes rest) (hword : EndsWithWord word rest) :
    ofTagText (tag ++ rest) = attributeName (some (String.ofList tag)) (String.ofList word) := by
  obtain ⟨blank, hhead, hblank⟩ := hrest
  obtain ⟨hne, -⟩ := isName_iff.1 htag
  have hsolid := isSolid_of_isName htag
  have hends : endsQuoted (tag ++ rest) = false := by
    rw [endsQuoted, foldl_stepQuote_closes (hcloses.after_plain hquote)]
    rfl
  have hstops : StopsAt (fun c => !isBlank c) rest := by
    intro c hc
    rw [Option.mem_unique hc hhead]
    simp [hblank]
  have hleading : leadingWord (tag ++ rest) = tag :=
    takeWhile_run (fun c hc => by simp [hsolid c hc]) hstops
  have htrailing : trailingWord (tag ++ rest) = word := by
    obtain ⟨front, rfl, hfront⟩ := hword.split
    have hfrontne : front ≠ [] := by
      rintro rfl
      rw [hword.solid blank (List.mem_of_mem_head? hhead)] at hblank
      cases hblank
    rw [trailingWord, List.reverse_append, List.reverse_append, List.append_assoc,
      takeWhile_run (fun c hc => by simp [hword.solid c (List.mem_reverse.1 hc)]), List.reverse_reverse]
    intro c hc
    apply hfront c
    rw [List.head?_append] at hc
    cases hlast : front.reverse.head? with
    | none => exact absurd (by simpa using hlast) hfrontne
    | some d => simpa [hlast] using hc
  have hneq : tag ≠ tag ++ rest := by
    intro heq
    rw [List.self_eq_append_right] at heq
    rw [heq] at hhead
    cases hhead
  unfold ofTagText
  simp only [hends, hleading, htrailing]
  simp [hneq, hne]

theorem find_attribute {before tag rest after word : List Char} (htag : isName tag = true)
    (hquote : ∀ c ∈ tag, c ≠ '"' ∧ c ≠ '\'') (hrest : ∃ c ∈ rest.head?, isBlank c = true)
    (hopen : '<' ∉ rest) (hclose : '>' ∉ rest) (hcloses : ClosesQuotes rest)
    (hword : EndsWithWord word rest) :
    find (before ++ '<' :: tag ++ rest ++ after) (before.length + 1 + tag.length + rest.length) =
      attributeName (some (String.ofList tag)) (String.ofList word) := by
  have hmarks : '<' ∉ tag ∧ '>' ∉ tag :=
    ⟨not_mem_of_isName htag (by decide), not_mem_of_isName htag (by decide)⟩
  have htake : (before ++ '<' :: tag ++ rest ++ after).take (before.length + 1 + tag.length + rest.length) =
      before ++ '<' :: (tag ++ rest) := by
    have hlength : before.length + 1 + tag.length + rest.length = (before ++ '<' :: tag ++ rest).length := by
      simp only [List.length_append, List.length_cons]
      omega
    rw [hlength, List.take_left]
    simp
  have hrange : (0 : Int) ≤ before.length + 1 + tag.length + rest.length ∧
      (before.length + 1 + tag.length + rest.length : Int) ≤ (before ++ '<' :: tag ++ rest ++ after).length := by
    simp only [List.length_append, List.length_cons]
    omega
  unfold find
  rw [if_pos hrange]
  have hcaret : ((before.length : Int) + 1 + tag.length + rest.length).toNat =
      before.length + 1 + tag.length + rest.length := by omega
  rw [hcaret, htake, openTag?_append (by simp [hmarks.1, hopen]) (by simp [hmarks.2, hclose])]
  exact ofTagText_attribute htag hquote hrest hcloses hword

end Context

/-! ## Suggestions -/

@[simp] theorem mem_sortNames {names : List String} {name : String} : name ∈ sortNames names ↔ name ∈ names :=
  (List.mergeSort_perm names _).mem_iff

theorem sortNames_pairwise {names : List String} (h : names.Nodup) : (sortNames names).Pairwise (· < ·) := by
  have hsorted : (sortNames names).Pairwise (fun a b => decide (a ≤ b) = true) := by
    apply List.pairwise_mergeSort
    · intro a b c hab hbc
      rw [decide_eq_true_eq] at hab hbc ⊢
      exact String.le_trans hab hbc
    · intro a b
      simpa using String.le_total a b
  have hnodup : (sortNames names).Nodup := (List.mergeSort_perm names _).nodup_iff.2 h
  apply (hsorted.and hnodup).imp
  rintro a b ⟨hle, hne⟩
  by_contra hlt
  exact hne (String.le_antisymm (of_decide_eq_true hle) (String.not_lt.1 hlt))

theorem sortNames_eq_of_perm {names others : List String} (h : names.Perm others) (hnodup : names.Nodup) :
    sortNames names = sortNames others := by
  have hperm : (sortNames names).Perm (sortNames others) :=
    ((List.mergeSort_perm names _).trans h).trans (List.mergeSort_perm others _).symm
  refine hperm.eq_of_pairwise (fun a b _ _ hab hba => ?_) (sortNames_pairwise hnodup)
    (sortNames_pairwise (h.nodup_iff.1 hnodup))
  exact absurd (String.lt_trans hab hba) (String.lt_irrefl a)

theorem nearestDefinition?_isSome_iff {lists : List (List Attribute)} {name : String} :
    (nearestDefinition? lists name).isSome ↔
      (∃ attributes ∈ lists, ∃ attr ∈ attributes, attr.name = name) ∨ name ∈ baseAttributeNames := by
  have hfound : (lists.findSome? fun attributes => attributes.find? fun attr => attr.name = name).isSome ↔
      ∃ attributes ∈ lists, ∃ attr ∈ attributes, attr.name = name := by
    simp only [List.findSome?_isSome_iff, List.find?_isSome, decide_eq_true_eq]
  rw [← hfound, nearestDefinition?]
  cases lists.findSome? fun attributes => attributes.find? fun attr => attr.name = name with
  | some attr => simp
  | none => simp

/-- Some type of a list has an attribute of the given name. -/
def Registry.Offers (registry : Registry) (types : List ComponentType) (name : String) : Prop :=
  ∃ type ∈ types, ∃ attributes, registry.attributesOf type = .ok attributes ∧
    ∃ attr ∈ attributes, attr.name = name

theorem Registry.offers_iff {registry : Registry} {types : List ComponentType} {lists : List (List Attribute)}
    (h : types.mapM registry.attributesOf = .ok lists) {name : String} : registry.Offers types name ↔
      ∃ attributes ∈ lists, ∃ attr ∈ attributes, attr.name = name := by
  have hall := mapM_eq_ok_iff.1 h
  constructor
  · rintro ⟨type, htype, attributes, hattributes, hname⟩
    obtain ⟨others, hmem, hothers⟩ := exists_of_forall₂ hall htype
    obtain rfl := Except.ok.inj (hattributes.symm.trans hothers)
    exact ⟨attributes, hmem, hname⟩
  · rintro ⟨attributes, hmem, hname⟩
    obtain ⟨type, htype, hattributes⟩ := exists_of_forall₂ hall.flip hmem
    exact ⟨type, htype, attributes, hattributes, hname⟩

theorem Schema.suggestions_attribute {schema : Schema} {tag : String} {definitions : Table String}
    (h : schema.attributes.get? tag = some definitions.keys) (typed : String) :
    (schema.suggestions (.attributeName (some tag) typed)).Pairwise (· < ·) ∧
      ∀ name, name ∈ schema.suggestions (.attributeName (some tag) typed) ↔
        (definitions.get? name).isSome ∧ fold typed.toList <+: fold name.toList := by
  have hcandidates : schema.candidates (.attributeName (some tag) typed) = definitions.keys := by
    simp [Schema.candidates, Schema.attributesFor, h]
  unfold Schema.suggestions
  rw [hcandidates]
  constructor
  · exact sortNames_pairwise (definitions.nodup.filter _)
  · intro name
    simp [startsLike, Context.typed]

/-- **After a tag, exactly the attributes of its type are suggested**, and those that every element
has, if they start like the last word before the caret. -/
theorem Schema.complete_attribute {registry : Registry} (hreachable : registry.Reachable)
    {log : List LogRecord} {grammar : Grammar} {after : Workbench}
    (hrun : Compile.grammar.run ⟨registry, log⟩ = .ok grammar after)
    (hwritable : registry.BindsOnly registry.Writable)
    {tag identity : String} (hbound : (tag, identity) ∈ registry.bindings)
    (hquote : ∀ c ∈ tag.toList, c ≠ '"' ∧ c ≠ '\'') (pre post : String) {rest word : String}
    (hrest : ∃ c ∈ rest.toList.head?, isBlank c = true) (hopen : '<' ∉ rest.toList)
    (hclose : '>' ∉ rest.toList) (hcloses : ClosesQuotes rest.toList)
    (hword : EndsWithWord word.toList rest.toList) :
    ∃ schema types found, Schema.parse grammar.text = .ok schema ∧
      answer (Registry.lineage identity) registry = .ok types ∧
      schema.complete (pre ++ "<" ++ tag ++ rest ++ post)
        (pre.length + 1 + tag.length + rest.length) = found ∧
      found.Pairwise (· < ·) ∧ ∀ name, name ∈ found ↔
        (name ∈ baseAttributeNames ∨ registry.Offers types name) ∧ fold word.toList <+: fold name.toList := by
  have hR := hreachable.wellFormed
  obtain ⟨types, h⟩ := Compile.grammar_sound hR (answer_eq_ok_iff.2 ⟨after, hrun⟩)
  obtain ⟨schema, hparse, -, -, -, -, hall⟩ := (h.declarable hwritable).parse hR h
  obtain ⟨lineage, _, definitions, hline, hsub, -, -, -, hattributes, hget⟩ := hall tag identity hbound
  obtain ⟨lists, hlists, hnearest⟩ := h.nearest hwritable hsub
  have hfind : Context.find (pre ++ "<" ++ tag ++ rest ++ post).toList
      (pre.length + 1 + tag.length + rest.length) = .attributeName (some tag) word := by
    have hcontext : Context.find (pre.toList ++ '<' :: tag.toList ++ rest.toList ++ post.toList) _ = _ :=
      Context.find_attribute (hR.binding hbound).1 hquote hrest hopen hclose hcloses hword
    simpa [String.length_toList] using hcontext
  obtain ⟨hsorted, hmem⟩ := Schema.suggestions_attribute hattributes word
  refine ⟨schema, lineage, _, hparse, hline, rfl, ?_, ?_⟩
  · rw [Schema.complete, hfind]
    exact hsorted
  · intro name
    rw [Schema.complete, hfind, hmem, hget, hnearest, nearestDefinition?_isSome_iff,
      ← Registry.offers_iff hlists, or_comm]

theorem Sample.complete_pick : ∃ grammar after,
    Compile.grammar.run ⟨registry, []⟩ = .ok grammar after ∧ ("pick", "Picker") ∈ registry.bindings ∧
    ClosesQuotes " style=\"it's\" T".toList ∧ EndsWithWord "T".toList " style=\"it's\" T".toList ∧
    ∃ schema types found, Schema.parse grammar.text = .ok schema ∧
      answer (Registry.lineage "Picker") registry = .ok types ∧
      schema.complete ("a < b" ++ "<" ++ "pick" ++ " style=\"it's\" T" ++ "/>")
        (("a < b".length : Int) + 1 + "pick".length + " style=\"it's\" T".length) = found ∧
      found.Pairwise (· < ·) ∧ ∀ name, name ∈ found ↔
        (name ∈ baseAttributeNames ∨ registry.Offers types name) ∧ fold "T".toList <+: fold name.toList := by
  obtain ⟨grammar, after, hrun⟩ := Sample.compiles
  have hbound : ("pick", "Picker") ∈ Sample.registry.bindings := List.mem_singleton.2 rfl
  have hcloses : ClosesQuotes " style=\"it's\" T".toList := by
    have hend : ClosesQuotes (" T".toList ++ []) := .after_plain (by decide) .nil
    have hvalue : ClosesQuotes ('"' :: "it's".toList ++ '"' :: (" T".toList ++ [])) :=
      .quoted (.inl rfl) (by decide) hend
    have hstart : ClosesQuotes (" style=".toList ++ ('"' :: "it's".toList ++ '"' :: (" T".toList ++ []))) :=
      .after_plain (by decide) hvalue
    exact hstart
  have hword : EndsWithWord "T".toList " style=\"it's\" T".toList := by
    have hsplit : " style=\"it's\" T".toList = " style=\"it's\"".toList ++ ' ' :: "T".toList := by decide
    rw [hsplit]
    exact endsWithWord_append_blank (by decide) (by decide)
  exact ⟨grammar, after, hrun, hbound, hcloses, hword,
    Schema.complete_attribute Sample.reachable hrun Sample.bindsWritable hbound (by decide) "a < b" "/>"
      ⟨' ', rfl, by decide⟩ (by decide) (by decide) hcloses hword⟩

end TagGrammar
