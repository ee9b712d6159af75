import TagGrammar.Proofs.Caret

/-!
# Typing at a caret

A caret in a tag stands at the end of a word, and what takes the place of this word stays in the
same tag as long as it is solid and holds no `<`. So typing on makes suggestions fewer
(`complete_typed_subset`).
-/

namespace TagGrammar

open Text

/-! ## Words at a caret -/

theorem leadingWord_append {stem word : List Char} (h : ¬ IsSolid stem) :
    leadingWord (stem ++ word) = leadingWord stem := by
  have hshort : (stem.takeWhile fun c => !isBlank c).length ≠ stem.length := by
    intro hlength
    exact h (leadingWord_eq_self_iff.1 ((List.takeWhile_prefix _).eq_of_length hlength))
  rw [leadingWord, List.takeWhile_append, if_neg hshort, leadingWord]

theorem trailingWord_append {stem word : List Char} (hstem : StopsAt (fun c => !isBlank c) stem.reverse)
    (hword : IsSolid word) : trailingWord (stem ++ word) = word := by
  have hrun : ∀ c ∈ word.reverse, (!isBlank c) = true := fun c hc => by simp [hword c (List.mem_reverse.1 hc)]
  rw [trailingWord, List.reverse_append, takeWhile_run hrun hstem, List.reverse_reverse]

/-- A text that does not end in a word is empty or not solid. -/
theorem eq_nil_of_stopsAt {stem : List Char} (hstem : StopsAt (fun c => !isBlank c) stem.reverse)
    (hsolid : IsSolid stem) : stem = [] := by
  rcases List.eq_nil_or_concat stem with rfl | ⟨front, c, rfl⟩
  · rfl
  · have hblank : (!isBlank c) = false := hstem c (by simp)
    simp [hsolid c (by simp)] at hblank

/-! ## Carets in a tag -/

namespace Context

/-- The context with another word in the place of the one that has been typed. -/
def retype (word : String) : Context → Context
  | tagName _ => tagName word
  | attributeName tag _ => attributeName tag word
  | nowhere => nowhere

theorem word_retype (context : Context) (word : String) : (context.retype word).word = context.word := by
  cases context <;> rfl

theorem tag?_retype (context : Context) (word : String) : (context.retype word).tag? = context.tag? := by
  cases context <;> rfl

theorem typed_retype {context : Context} (h : context ≠ nowhere) (word : String) :
    (context.retype word).typed = word := by
  cases context with
  | tagName typed => rfl
  | attributeName tag typed => rfl
  | nowhere => exact absurd rfl h

/-- The context at the end of the text of a tag, by its last word and what stands before that. -/
def atWord (stem word : List Char) : Context :=
  if stem = [] then tagName (String.ofList word)
  else
    attributeName (if (leadingWord stem).isEmpty then none else some (String.ofList (leadingWord stem)))
      (String.ofList word)

theorem retype_atWord (stem typed word : List Char) :
    (atWord stem typed).retype (String.ofList word) = atWord stem word := by
  unfold atWord
  split <;> rfl

theorem typed_atWord (stem word : List Char) : (atWord stem word).typed = String.ofList word := by
  unfold atWord
  split <;> rfl

theorem ofTagText_append {stem word : List Char} (hstem : StopsAt (fun c => !isBlank c) stem.reverse)
    (hword : IsSolid word) : ofTagText (stem ++ word) =
      if endsQuoted (stem ++ word) then nowhere else atWord stem word := by
  unfold ofTagText atWord
  by_cases hnil : stem = []
  · subst hnil
    simp [leadingWord_eq_self_iff.2 hword]
  · have hsolid : ¬ IsSolid stem := fun hsolid => hnil (eq_nil_of_stopsAt hstem hsolid)
    have hleading : leadingWord stem ≠ stem ++ word := by
      rw [← leadingWord_append hsolid]
      intro hself
      have hall := leadingWord_eq_self_iff.1 hself
      exact hsolid fun c hc => hall c (List.mem_append_left _ hc)
    simp [leadingWord_append hsolid, trailingWord_append hstem hword, hnil, hleading]

theorem exists_of_openTag? {before inner : List Char} (h : openTag? before = some inner) :
    ∃ outer, before = outer ++ '<' :: inner ∧ '<' ∉ inner ∧ '>' ∉ inner := by
  have hmem : '<' ∈ before := by
    by_contra hmem
    simp [openTag?, hmem] at h
  obtain ⟨rest, front, hsplit, hopen⟩ := List.eq_append_cons_of_mem (List.mem_reverse.2 hmem)
  have hbefore : before = front.reverse ++ '<' :: rest.reverse := by
    rw [← List.reverse_reverse before, hsplit]
    simp
  rw [hbefore, openTag?_append_eq (by simpa using hopen)] at h
  by_cases hclose : '>' ∈ rest.reverse
  · simp [hclose] at h
  · rw [if_neg hclose, Option.some.injEq] at h
    exact ⟨front.reverse, h ▸ hbefore, h ▸ by simpa using hopen, h ▸ hclose⟩

/-- The text around a caret in a tag: what stands before the tag, the text of the tag before the word
at the caret, that word, and what follows the caret. -/
structure Around (text : List Char) (caret : Int) (outer stem word after : List Char) : Prop where
  text_eq : text = outer ++ '<' :: stem ++ word ++ after
  caret_eq : caret = outer.length + 1 + stem.length + word.length
  stem_open : '<' ∉ stem
  stem_close : '>' ∉ stem
  stem_blank : StopsAt (fun c => !isBlank c) stem.reverse
  solid : IsSolid word
  word_open : '<' ∉ word

section
variable {text : List Char} {caret : Int} {outer stem word after : List Char}
variable (h : Around text caret outer stem word after)
include h

theorem Around.range : 0 ≤ caret ∧ caret ≤ text.length := by
  rw [h.text_eq, h.caret_eq]
  simp only [List.length_append, List.length_cons]
  omega

theorem Around.toNat_caret : caret.toNat = (outer ++ '<' :: stem ++ word).length := by
  rw [h.caret_eq]
  simp only [List.length_append, List.length_cons]
  omega

theorem Around.take_eq : text.take caret.toNat = outer ++ '<' :: (stem ++ word) := by
  rw [h.toNat_caret, h.text_eq, List.take_left]
  simp

theorem Around.drop_eq : text.drop caret.toNat = after := by
  rw [h.toNat_caret, h.text_eq, List.drop_left]

theorem Around.find_eq : find text caret =
    if '>' ∈ word ∨ endsQuoted (stem ++ word) = true then nowhere else atWord stem word := by
  have hopen : '<' ∉ stem ++ word := by simp [h.stem_open, h.word_open]
  rw [find, if_pos h.range, h.take_eq, openTag?_append_eq hopen]
  by_cases hclose : '>' ∈ word
  · simp [hclose]
  · simp [hclose, h.stem_close, ofTagText_append h.stem_blank h.solid]

end

theorem exists_around {text : List Char} {caret : Int} (h : find text caret ≠ nowhere) :
    ∃ outer stem word after, Around text caret outer stem word after ∧ endsQuoted (stem ++ word) = false ∧
      find text caret = atWord stem word := by
  have hrange : 0 ≤ caret ∧ caret ≤ text.length := by
    by_contra hrange
    exact h (if_neg hrange)
  rw [find, if_pos hrange] at h
  cases hopen : openTag? (text.take caret.toNat) with
  | none => simp [hopen] at h
  | some inner =>
    rw [hopen] at h
    obtain ⟨outer, hbefore, hlt, hgt⟩ := exists_of_openTag? hopen
    have hword := endsWithWord_trailingWord inner
    obtain ⟨stem, hinner, hblank⟩ := hword.split
    have hends : endsQuoted inner = false := by
      by_contra hends
      simp [ofTagText, hends] at h
    rw [hinner] at hbefore hlt hgt hends
    simp only [List.mem_append, not_or] at hlt hgt
    have htext : text = outer ++ '<' :: stem ++ trailingWord inner ++ text.drop caret.toNat := by
      have hsplit := List.take_append_drop caret.toNat text
      rw [hbefore] at hsplit
      simpa using hsplit.symm
    have hcaret : caret = outer.length + 1 + stem.length + (trailingWord inner).length := by
      have hlength := congrArg List.length hbefore
      simp only [List.length_take, List.length_append, List.length_cons] at hlength
      omega
    have haround : Around text caret outer stem (trailingWord inner) (text.drop caret.toNat) :=
      ⟨htext, hcaret, hlt.1, hgt.1, hblank, hword.solid, hlt.2⟩
    refine ⟨outer, stem, trailingWord inner, text.drop caret.toNat, haround, hends, ?_⟩
    rw [haround.find_eq]
    simp [hgt.2, hends]

end Context

/-! ## Replacing a word -/

/-- A text with a word in the place of some characters before the caret. -/
def replaceBefore (text : String) (caret : Int) (count : Nat) (word : String) : String :=
  String.ofList (text.toList.take (caret.toNat - count) ++ word.toList ++ text.toList.drop caret.toNat)

/-- The caret after a word that replaces the end of another one is after a word in the same place. -/
theorem Context.Around.replace {text : String} {caret : Int} {outer stem kept dropped after : List Char}
    (h : Around text.toList caret outer stem (kept ++ dropped) after) {word : String}
    (hsolid : IsSolid (kept ++ word.toList)) (hopen : '<' ∉ kept ++ word.toList) :
    Around (replaceBefore text caret dropped.length word).toList (caret - dropped.length + word.length)
      outer stem (kept ++ word.toList) after := by
  have hlength : caret.toNat - dropped.length = (outer ++ '<' :: stem ++ kept).length := by
    rw [h.caret_eq]
    simp only [List.length_append, List.length_cons]
    omega
  have hsplit : text.toList = (outer ++ '<' :: stem ++ kept) ++ (dropped ++ after) := by
    rw [h.text_eq]
    simp
  have htake : text.toList.take (caret.toNat - dropped.length) = outer ++ '<' :: stem ++ kept := by
    rw [hlength, hsplit, List.take_left]
  refine ⟨?_, ?_, h.stem_open, h.stem_close, h.stem_blank, hsolid, hopen⟩
  · rw [replaceBefore, String.toList_ofList, htake, h.drop_eq]
    simp
  · rw [h.caret_eq, ← String.length_toList]
    simp only [List.length_append]
    omega

/-! ## Typing on -/

namespace Schema

theorem candidates_retype (schema : Schema) (context : Context) (word : String) :
    schema.candidates (context.retype word) = schema.candidates context := by
  cases context with
  | tagName typed => rfl
  | attributeName tag typed => cases tag <;> rfl
  | nowhere => rfl

theorem mem_suggestions {schema : Schema} {context : Context} {name : String} :
    name ∈ schema.suggestions context ↔
      name ∈ schema.candidates context ∧ fold context.typed.toList <+: fold name.toList := by
  simp [suggestions, startsLike]

theorem suggestions_atWord_append (schema : Schema) (stem word more : List Char) :
    schema.suggestions (Context.atWord stem (word ++ more)) ⊆ schema.suggestions (Context.atWord stem word) := by
  intro name hname
  rw [← Context.retype_atWord stem word, mem_suggestions, candidates_retype, Context.retype_atWord,
    Context.typed_atWord, String.toList_ofList, fold_append] at hname
  rw [mem_suggestions, Context.typed_atWord, String.toList_ofList]
  exact ⟨hname.1, (List.prefix_append _ _).trans hname.2⟩

/-- **Typing on makes suggestions fewer**, also where it closes the tag or opens a value. -/
theorem complete_typed_subset (schema : Schema) {text : String} {caret : Int}
    (h : Context.find text.toList caret ≠ .nowhere) {typed : String} (hsolid : IsSolid typed.toList)
    (hopen : '<' ∉ typed.toList) :
    schema.complete (replaceBefore text caret 0 typed) (caret + typed.length) ⊆ schema.complete text caret := by
  obtain ⟨outer, stem, word, after, haround, -, hfind⟩ := Context.exists_around h
  have hword : IsSolid (word ++ typed.toList) :=
    fun c hc => (List.mem_append.1 hc).elim (haround.solid c) (hsolid c)
  have hnext : Context.Around (replaceBefore text caret 0 typed).toList (caret + typed.length) outer stem
      (word ++ typed.toList) after := by
    have hkept : Context.Around text.toList caret outer stem (word ++ []) after := by simpa using haround
    simpa using hkept.replace hword (by simp [haround.word_open, hopen])
  unfold complete
  rw [hnext.find_eq, hfind]
  split
  · simp [suggestions, candidates, sortNames]
  · exact suggestions_atWord_append schema stem word typed.toList

/-- A letter is typed that is folded into two. -/
theorem complete_typed_folded : Context.find "<stra>".toList 5 ≠ .nowhere ∧ IsSolid "ß".toList ∧
    complete ⟨["strasse"], .empty, .empty, .empty⟩ "<straß>" 6 = ["strasse"] ∧
    complete ⟨["strasse"], .empty, .empty, .empty⟩ (replaceBefore "<stra>" 5 0 "ß") (5 + "ß".length) ⊆
      complete ⟨["strasse"], .empty, .empty, .empty⟩ "<stra>" 5 := by
  have hfind : Context.find "<stra>".toList 5 ≠ .nowhere := by decide
  have hsolid : IsSolid "ß".toList := by decide
  exact ⟨hfind, hsolid, by decide +kernel, complete_typed_subset _ hfind hsolid (by decide)⟩

end Schema

end TagGrammar
