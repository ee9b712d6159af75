import TagGrammar.Proofs.Completions

/-!
# The caret by a scan from the start

`Context.find` looks back from the caret for the last `<` and reads quotes only from there. `Scan`
reads the whole text before the caret from its start, one character at a time. As long as no quoted
value holds an angle bracket, the two agree (`find_of_scan`): after every character, what is found by
looking back is what the scan is in the middle of. A caret inside a value may be taken for one inside
a tag only behind a `<` that the values of its tag hold (`find_in_value`).
-/

namespace TagGrammar

open Text

/-! ## First and last words -/

/-- A word is the longest start of a text that holds no blank. -/
structure StartsWithWord (word text : List Char) : Prop where
  start : word <+: text
  solid : IsSolid word
  longest : ∀ other, other <+: text → IsSolid other → other.length ≤ word.length

theorem startsWithWord_leadingWord (text : List Char) : StartsWithWord (leadingWord text) text := by
  refine ⟨List.takeWhile_prefix _, fun c hc => ?_, fun other hother hsolid => ?_⟩
  · simpa using List.mem_takeWhile_imp hc
  · obtain ⟨rest, rfl⟩ := hother
    have hrun : ∀ c ∈ other, (!isBlank c) = true := fun c hc => by simp [hsolid c hc]
    rw [leadingWord, List.takeWhile_append_of_pos hrun, List.length_append]
    omega

theorem trailingWord_eq (text : List Char) : trailingWord text = (leadingWord text.reverse).reverse := rfl

theorem endsWithWord_trailingWord (text : List Char) : EndsWithWord (trailingWord text) text := by
  have h := startsWithWord_leadingWord text.reverse
  rw [trailingWord_eq]
  refine ⟨?_, fun c hc => h.solid c (List.mem_reverse.1 hc), fun other hother hsolid => ?_⟩
  · rw [← List.reverse_prefix, List.reverse_reverse]
    exact h.start
  · have hlength := h.longest other.reverse (List.reverse_prefix.2 hother) fun c hc =>
      hsolid c (List.mem_reverse.1 hc)
    simpa using hlength

theorem leadingWord_eq_self_iff {text : List Char} : leadingWord text = text ↔ IsSolid text := by
  rw [leadingWord, List.takeWhile_eq_self_iff]
  simp [IsSolid]

/-! ## The scan -/

/-- Where a scan has come to. Inside a tag it holds what stands after the `<`. -/
inductive Scan where
  | outside
  | tag (text : List Char)
  | value (mark : Char) (text : List Char)
  deriving DecidableEq

namespace Scan

def step : Scan → Char → Scan
  | outside, c => if c = '<' then tag [] else outside
  | tag text, c =>
    if c = '<' then tag []
    else if c = '>' then outside
    else if c = '"' ∨ c = '\'' then value c (text ++ [c])
    else tag (text ++ [c])
  | value mark text, c => if c = mark then tag (text ++ [c]) else value mark (text ++ [c])

def run (text : List Char) : Scan :=
  text.foldl step outside

/-- Whether a scan that goes on with a text meets no angle bracket inside a value. -/
def sparesValues : Scan → List Char → Bool
  | _, [] => true
  | value mark text, c :: rest => c != '<' && c != '>' && sparesValues ((value mark text).step c) rest
  | state, c :: rest => sparesValues (state.step c) rest

/-- What can be completed where a scan has come to. -/
inductive Offers : Scan → Context → Prop where
  | outside : Offers outside .nowhere
  | value (mark : Char) (text : List Char) : Offers (value mark text) .nowhere
  | tagName {text : List Char} (h : IsSolid text) : Offers (tag text) (.tagName (String.ofList text))
  | attributeName {text first last : List Char} (h : ¬ IsSolid text) (hfirst : StartsWithWord first text)
      (hlast : EndsWithWord last text) :
      Offers (tag text) (.attributeName (if first = [] then none else some (String.ofList first))
        (String.ofList last))

/-! ## Looking back -/

/-- Looking back from the end of a text finds what the scan is in the middle of. -/
def Tracks (before : List Char) : Scan → Prop
  | outside => Context.openTag? before = none
  | tag text => Context.openTag? before = some text ∧ text.foldl Context.stepQuote none = none
  | value mark text => Context.openTag? before = some text ∧ text.foldl Context.stepQuote none = some mark

end Scan

namespace Context

theorem openTag?_open (before : List Char) : openTag? (before ++ ['<']) = some [] :=
  openTag?_append List.not_mem_nil List.not_mem_nil

theorem openTag?_close (before : List Char) : openTag? (before ++ ['>']) = none := by
  simp [openTag?]

theorem openTag?_concat (before : List Char) {c : Char} (hopen : c ≠ '<') (hclose : c ≠ '>') :
    openTag? (before ++ [c]) = (openTag? before).map (· ++ [c]) := by
  have hback : ((before ++ [c]).reverse.takeWhile (· != '<')).reverse =
      (before.reverse.takeWhile (· != '<')).reverse ++ [c] := by
    simp [hopen]
  simp only [openTag?, hback]
  by_cases hmem : '<' ∈ before
  · by_cases htext : '>' ∈ (before.reverse.takeWhile (· != '<')).reverse
    · simp [hmem, htext]
    · simp [hmem, htext, hclose.symm]
  · simp [hmem, hopen.symm]

theorem endsQuoted_eq_false_iff {text : List Char} :
    endsQuoted text = false ↔ text.foldl stepQuote none = none := by
  simp [endsQuoted]

theorem offers_ofTagText {text : List Char} (h : text.foldl stepQuote none = none) :
    (Scan.tag text).Offers (ofTagText text) := by
  have hends := endsQuoted_eq_false_iff.2 h
  by_cases hsolid : IsSolid text
  · have hword := leadingWord_eq_self_iff.2 hsolid
    simp only [ofTagText, hends, hword]
    exact .tagName hsolid
  · have hword := mt leadingWord_eq_self_iff.1 hsolid
    simp only [ofTagText, hends, hword, List.isEmpty_iff]
    exact .attributeName hsolid (startsWithWord_leadingWord text) (endsWithWord_trailingWord text)

end Context

namespace Scan

open Context (stepQuote openTag?_open openTag?_close openTag?_concat)

theorem Tracks.step {before : List Char} {state : Scan} {c : Char} (h : state.Tracks before)
    (hspares : state.sparesValues [c] = true) : (state.step c).Tracks (before ++ [c]) := by
  cases state with
  | outside =>
    by_cases hopen : c = '<'
    · subst hopen
      exact ⟨openTag?_open before, rfl⟩
    · simp only [Scan.step, if_neg hopen, Tracks]
      by_cases hclose : c = '>'
      · subst hclose
        exact openTag?_close before
      · rw [openTag?_concat before hopen hclose, show Context.openTag? before = none from h]
        rfl
  | tag text =>
    obtain ⟨htext, hquote⟩ := h
    by_cases hopen : c = '<'
    · subst hopen
      exact ⟨openTag?_open before, rfl⟩
    · by_cases hclose : c = '>'
      · subst hclose
        exact openTag?_close before
      · have hnext := openTag?_concat before hopen hclose
        rw [htext] at hnext
        by_cases hmark : c = '"' ∨ c = '\''
        · simp only [Scan.step, if_neg hopen, if_neg hclose, if_pos hmark]
          exact ⟨hnext, by simp [hquote, stepQuote, hmark]⟩
        · simp only [Scan.step, if_neg hopen, if_neg hclose, if_neg hmark]
          exact ⟨hnext, by simp [hquote, stepQuote, hmark]⟩
  | value mark text =>
    obtain ⟨htext, hquote⟩ := h
    -- inside a value there is no angle bracket, so the character belongs to the tag
    obtain ⟨hopen, hclose⟩ : c ≠ '<' ∧ c ≠ '>' := by simpa [sparesValues] using hspares
    have hnext := openTag?_concat before hopen hclose
    rw [htext] at hnext
    by_cases hmark : c = mark
    · simp only [Scan.step, if_pos hmark]
      exact ⟨hnext, by simp [hquote, stepQuote, hmark]⟩
    · simp only [Scan.step, if_neg hmark]
      exact ⟨hnext, by simp [hquote, stepQuote, hmark]⟩

theorem sparesValues_cons {state : Scan} {c : Char} {rest : List Char} :
    state.sparesValues (c :: rest) = (state.sparesValues [c] && (state.step c).sparesValues rest) := by
  cases state <;> simp [sparesValues]

theorem Tracks.run {before rest : List Char} {state : Scan} (h : state.Tracks before)
    (hspares : state.sparesValues rest = true) : (rest.foldl Scan.step state).Tracks (before ++ rest) := by
  induction rest generalizing before state with
  | nil => simpa using h
  | cons c rest ih =>
    rw [sparesValues_cons, Bool.and_eq_true] at hspares
    have hnext := ih (h.step hspares.1) hspares.2
    rwa [List.append_assoc] at hnext

theorem tracks_run {text : List Char} (h : outside.sparesValues text = true) : (run text).Tracks text := by
  have hstart : outside.Tracks [] := rfl
  exact hstart.run h

end Scan

namespace Context

/-- **Looking back from a caret finds what a scan from the start offers there**, if no quoted value
before it holds an angle bracket. A caret outside the text is nowhere. -/
theorem find_of_scan (text : List Char) (caret : Int) :
    (0 ≤ caret → caret ≤ text.length → Scan.outside.sparesValues (text.take caret.toNat) = true →
      (Scan.run (text.take caret.toNat)).Offers (find text caret)) ∧
    (¬ (0 ≤ caret ∧ caret ≤ text.length) → find text caret = nowhere) := by
  constructor
  · intro hstart hend hspares
    have htracks := Scan.tracks_run hspares
    rw [find, if_pos ⟨hstart, hend⟩]
    cases hrun : Scan.run (text.take caret.toNat) with
    | outside =>
      rw [hrun] at htracks
      rw [show openTag? _ = none from htracks]
      exact .outside
    | tag inner =>
      rw [hrun] at htracks
      rw [htracks.1]
      exact offers_ofTagText htracks.2
    | value mark inner =>
      rw [hrun] at htracks
      have hends : endsQuoted inner = true := by simp [endsQuoted, htracks.2]
      rw [htracks.1]
      simp only [ofTagText, hends, if_true]
      exact .value mark inner
  · intro hrange
    rw [find, if_neg hrange]

/-- A quote in running text, a tag that is restarted, both kinds of quotes and blanks of two kinds. -/
def untidy : List Char :=
  "it's <a <menu-item\u00a0text=\"don't\"\tto='\"' na/>".toList

theorem find_untidy : Scan.outside.sparesValues (untidy.take 41) = true ∧
    Scan.run (untidy.take 41) = .tag "menu-item\u00a0text=\"don't\"\tto='\"' na".toList ∧
    (Scan.run (untidy.take 41)).Offers (find untidy 41) ∧
    find untidy 41 = attributeName (some "menu-item") "na" ∧
    find untidy 50 = nowhere :=
  ⟨by decide, by decide, (find_of_scan untidy 41).1 (by decide) (by decide) (by decide), by decide,
    (find_of_scan untidy 50).2 (by decide)⟩

end Context

/-! ## Carets inside values -/

theorem closesQuotes_iff {text : List Char} : ClosesQuotes text ↔ text.foldl Context.stepQuote none = none := by
  refine ⟨Context.foldl_stepQuote_closes, fun h => ?_⟩
  induction hlength : text.length using Nat.strong_induction_on generalizing text with
  | _ n ih =>
    cases text with
    | nil => exact .nil
    | cons c rest =>
      rw [List.foldl_cons] at h
      by_cases hmark : c = '"' ∨ c = '\''
      · have hopen : Context.stepQuote none c = some c := by simp [Context.stepQuote, hmark]
        rw [hopen] at h
        have hmem : ¬ ∀ d ∈ rest, (d == c) = false := by
          intro hall
          have hvalue : c ∉ rest := fun hc => by simpa using hall c hc
          simp [Context.foldl_stepQuote_value hvalue] at h
        obtain ⟨value, d, after, rfl, hvalue, hd⟩ := exists_first hmem
        obtain rfl := beq_iff_eq.1 hd
        have hfree : d ∉ value := fun hc => by simpa using hvalue d hc
        rw [List.foldl_append, Context.foldl_stepQuote_value hfree, List.foldl_cons, Context.stepQuote,
          if_pos rfl] at h
        have hshorter : after.length < n := by
          simp only [← hlength, List.length_cons, List.length_append]
          omega
        exact .quoted hmark hfree (ih after.length hshorter h rfl)
      · have hplain : Context.stepQuote none c = none := by simp [Context.stepQuote, hmark]
        rw [hplain] at h
        rw [not_or] at hmark
        exact .plain hmark.1 hmark.2 (ih rest.length (by simp [← hlength]) h rfl)

namespace Scan

/-- What a scan holds stands after a `<` and leaves open the quote that the scan is inside of, whatever
the values hold. -/
def Since (before : List Char) : Scan → Prop
  | outside => True
  | tag text => (∃ outer, before = outer ++ '<' :: text) ∧ text.foldl Context.stepQuote none = none
  | value mark text => (∃ outer, before = outer ++ '<' :: text) ∧ text.foldl Context.stepQuote none = some mark

theorem Since.step {before : List Char} {state : Scan} (h : state.Since before) (c : Char) :
    (state.step c).Since (before ++ [c]) := by
  cases state with
  | outside =>
    by_cases hopen : c = '<'
    · subst hopen
      exact ⟨⟨before, rfl⟩, rfl⟩
    · simp [Scan.step, hopen, Since]
  | tag text =>
    obtain ⟨⟨outer, rfl⟩, hquote⟩ := h
    by_cases hopen : c = '<'
    · subst hopen
      exact ⟨⟨outer ++ '<' :: text, rfl⟩, rfl⟩
    · by_cases hclose : c = '>'
      · simp [Scan.step, hclose, Since]
      · by_cases hmark : c = '"' ∨ c = '\''
        · simp [Scan.step, hopen, hclose, hmark, Since, hquote, Context.stepQuote]
        · simp [Scan.step, hopen, hclose, hmark, Since, hquote, Context.stepQuote]
  | value mark text =>
    obtain ⟨⟨outer, rfl⟩, hquote⟩ := h
    by_cases hmark : c = mark
    · simp [Scan.step, hmark, Since, hquote, Context.stepQuote]
    · simp [Scan.step, hmark, Since, hquote, Context.stepQuote]

theorem since_run (text : List Char) : (run text).Since text := by
  induction text using List.reverseRecOn with
  | nil => trivial
  | append_singleton text c ih =>
    rw [run, List.foldl_append]
    exact ih.step c

end Scan

namespace Context

theorem ofTagText_eq_nowhere_iff {tagText : List Char} : ofTagText tagText = nowhere ↔ ¬ ClosesQuotes tagText := by
  rw [closesQuotes_iff, ← endsQuoted_eq_false_iff, Bool.not_eq_false]
  by_cases hends : endsQuoted tagText = true
  · simp [ofTagText, hends]
  · by_cases hword : leadingWord tagText = tagText <;> simp [ofTagText, hends, hword]

theorem find_after_bracket {text : List Char} {caret : Int} (hstart : 0 ≤ caret) (hend : caret ≤ text.length)
    {outer rest : List Char} (hbefore : text.take caret.toNat = outer ++ '<' :: rest) (hopen : '<' ∉ rest) :
    find text caret = nowhere ↔ '>' ∈ rest ∨ ¬ ClosesQuotes rest := by
  rw [find, if_pos ⟨hstart, hend⟩, hbefore, openTag?_append_eq hopen]
  by_cases hclose : '>' ∈ rest
  · simp [hclose]
  · simp [hclose, ofTagText_eq_nowhere_iff]

end Context

theorem Schema.complete_nowhere {text : String} {caret : Int} (h : Context.find text.toList caret = .nowhere)
    (schema : Schema) : schema.complete text caret = [] := by
  simp [Schema.complete, h, Schema.suggestions, Schema.candidates, sortNames]

/-- **A caret inside a value is nowhere, unless a value of its tag holds a `<`** that reads like the start
of another tag. -/
theorem Context.find_in_value {text : String} {caret : Int} (hstart : 0 ≤ caret) (hend : caret ≤ text.length)
    {mark : Char} {inner : List Char} (hscan : Scan.run (text.toList.take caret.toNat) = .value mark inner) :
    (find text.toList caret = nowhere ↔ ∀ front rest, inner = front ++ '<' :: rest → '<' ∉ rest →
      '>' ∈ rest ∨ ¬ ClosesQuotes rest) ∧
    ('<' ∉ inner → find text.toList caret = nowhere) ∧
    (find text.toList caret = nowhere → ∀ schema : Schema, schema.complete text caret = []) := by
  have hsince := Scan.since_run (text.toList.take caret.toNat)
  rw [hscan] at hsince
  obtain ⟨⟨outer, houter⟩, hquote⟩ := hsince
  have hopened : ¬ ClosesQuotes inner := by simp [closesQuotes_iff, hquote]
  rw [← String.length_toList] at hend
  have hplain : '<' ∉ inner → find text.toList caret = nowhere := fun hopen =>
    (find_after_bracket hstart hend houter hopen).2 (.inr hopened)
  refine ⟨⟨fun hfind front rest hinner hopen => ?_, fun h => ?_⟩, hplain,
    fun hfind schema => schema.complete_nowhere hfind⟩
  · have hbefore : text.toList.take caret.toNat = (outer ++ '<' :: front) ++ '<' :: rest := by
      simp [houter, hinner]
    exact (find_after_bracket hstart hend hbefore hopen).1 hfind
  · -- the tag is looked for backwards, so the last `<` of the values is the one that is found
    by_cases hmem : '<' ∈ inner
    · obtain ⟨rest, front, hsplit, hopen⟩ := List.eq_append_cons_of_mem (List.mem_reverse.2 hmem)
      have hinner : inner = front.reverse ++ '<' :: rest.reverse := by
        rw [← List.reverse_reverse inner, hsplit]
        simp
      have hbefore : text.toList.take caret.toNat = (outer ++ '<' :: front.reverse) ++ '<' :: rest.reverse := by
        simp [houter, hinner]
      have hlast : '<' ∉ rest.reverse := mt List.mem_reverse.1 hopen
      exact (find_after_bracket hstart hend hbefore hlast).2 (h _ _ hinner hlast)
    · exact hplain hmem

theorem Context.find_in_value_again :
    Scan.run ("<label text=\"a <b tip='".toList.take 23) = .value '"' "label text=\"a <b tip='".toList ∧
    find "<label text=\"a <b tip='".toList 23 = nowhere ∧
    ∀ schema : Schema, schema.complete "<label text=\"a <b tip='" 23 = [] := by
  have hscan : Scan.run ("<label text=\"a <b tip='".toList.take 23) =
    .value '"' "label text=\"a <b tip='".toList := by
    decide
  have hvalue := @find_in_value "<label text=\"a <b tip='" 23 (by decide) (by decide) _ _ hscan
  have hfind : find "<label text=\"a <b tip='".toList 23 = nowhere := by
    apply hvalue.1.2
    intro front rest hinner hopen
    have hsplit : "label text=\"a <b tip='".toList = "label text=\"a ".toList ++ '<' :: "b tip='".toList := by
      decide
    have hrest : rest = "b tip='".toList := by
      rw [hsplit] at hinner
      have := congrArg List.reverse hinner
      simp only [List.reverse_append, List.reverse_cons, List.append_assoc, List.singleton_append] at this
      rw [← List.reverse_inj]
      exact (mark_unique (by simpa using hopen) (by decide) this.symm).1
    rw [hrest, closesQuotes_iff]
    decide
  exact ⟨hscan, hfind, hvalue.2.2 hfind⟩

/-- A caret right after a `<` inside a value is taken for one where the name of a tag stands. -/
theorem Context.find_in_value_bracket :
    Scan.run ("<label text=\"if a <".toList.take 19) = .value '"' "label text=\"if a <".toList ∧
    find "<label text=\"if a <".toList 19 = tagName "" ∧
    Schema.complete ⟨["label"], .empty, .empty, .empty⟩ "<label text=\"if a <" 19 = ["label"] :=
  ⟨by decide, by decide, by decide +kernel⟩

end TagGrammar
