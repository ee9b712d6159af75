import Mathlib.Data.List.TakeWhile
import TagGrammar.Name
import TagGrammar.Text.Line
import TagGrammar.Text.Scan

/-!
# Blanks, words and lines

What the readers of the front of a text accept, as equations between the text and its parts, and
how words and lines come out of a text that is put together from them.
-/

namespace TagGrammar.Text

-- Characters are finite in number, so a search for an instance may settle on trying all of them.
instance (priority := 2000) decidableForallMem {p : Char → Prop} [DecidablePred p] (text : List Char) :
    Decidable (∀ c ∈ text, p c) :=
  List.decidableBAll p text

/-- Nothing but blanks. -/
def IsBlanks (text : List Char) : Prop :=
  ∀ c ∈ text, isBlank c = true

/-- One or more blanks. -/
def IsGap (text : List Char) : Prop :=
  text ≠ [] ∧ IsBlanks text

/-- Characters without a blank among them. -/
def IsSolid (text : List Char) : Prop :=
  ∀ c ∈ text, isBlank c = false

instance (text : List Char) : Decidable (IsSolid text) :=
  inferInstanceAs (Decidable (∀ c ∈ text, isBlank c = false))

/-- A text does not go on with a character of a class. -/
def StopsAt (p : Char → Bool) (text : List Char) : Prop :=
  ∀ c ∈ text.head?, p c = false

theorem isGap_space : IsGap [' '] :=
  ⟨by simp, by intro c hc; simp at hc; subst hc; decide⟩

theorem IsBlanks.not_mem {text : List Char} (h : IsBlanks text) {c : Char} (hc : isBlank c = false) : c ∉ text := by
  intro hmem
  rw [h c hmem] at hc
  cases hc

theorem stopsAt_cons {p : Char → Bool} {c : Char} {text : List Char} (h : p c = false) :
    StopsAt p (c :: text) := by
  intro d hd
  simp only [List.head?_cons, Option.mem_some_iff] at hd
  exact hd ▸ h

theorem stopsAt_append {p : Char → Bool} {s t : List Char} (hne : s ≠ [])
    (h : ∀ c ∈ s, p c = false) : StopsAt p (s ++ t) := by
  cases s with
  | nil => exact absurd rfl hne
  | cons c s => exact stopsAt_cons (h c (by simp))

theorem IsGap.stopsAt {p : Char → Bool} {gap rest : List Char} (h : IsGap gap)
    (hp : ∀ c, isBlank c = true → p c = false) : StopsAt p (gap ++ rest) :=
  stopsAt_append h.1 fun c hc => hp c (h.2 c hc)

/-! ## Maximal runs -/

section
variable {p : Char → Bool} {run rest : List Char}

theorem takeWhile_run (hrun : ∀ c ∈ run, p c = true) (hrest : StopsAt p rest) :
    (run ++ rest).takeWhile p = run := by
  rw [List.takeWhile_append_of_pos hrun]
  cases rest with
  | nil => simp
  | cons c rest => simp [hrest c rfl]

theorem dropWhile_run (hrun : ∀ c ∈ run, p c = true) (hrest : StopsAt p rest) :
    (run ++ rest).dropWhile p = rest := by
  rw [List.dropWhile_append_of_pos hrun]
  cases rest with
  | nil => rfl
  | cons c rest => simp [hrest c rfl]

theorem run_unique {run' rest' : List Char} (hrun : ∀ c ∈ run, p c = true) (hrest : StopsAt p rest)
    (hrun' : ∀ c ∈ run', p c = true) (hrest' : StopsAt p rest') (h : run ++ rest = run' ++ rest') :
    run = run' ∧ rest = rest' := by
  constructor
  · rw [← takeWhile_run hrun hrest, h, takeWhile_run hrun' hrest']
  · rw [← dropWhile_run hrun hrest, h, dropWhile_run hrun' hrest']

theorem exists_first {text : List Char} (h : ¬ ∀ c ∈ text, p c = false) :
    ∃ before c after, text = before ++ c :: after ∧ (∀ d ∈ before, p d = false) ∧ p c = true := by
  induction text with
  | nil => simp at h
  | cons c text ih =>
    by_cases hc : p c = true
    · exact ⟨[], c, text, rfl, by simp, hc⟩
    · rw [Bool.not_eq_true] at hc
      obtain ⟨before, d, after, rfl, hbefore, hd⟩ := ih fun hrest => h (List.forall_mem_cons.2 ⟨hc, hrest⟩)
      exact ⟨c :: before, d, after, rfl, List.forall_mem_cons.2 ⟨hc, hbefore⟩, hd⟩

omit p run rest in
/-- A text falls apart in one way at the first of its marks. -/
theorem mark_unique {mark : Char} {s t s' t' : List Char} (hs : mark ∉ s) (hs' : mark ∉ s')
    (h : s ++ mark :: t = s' ++ mark :: t') : s = s' ∧ t = t' := by
  have hrun : ∀ {text : List Char}, mark ∉ text → ∀ c ∈ text, (c != mark) = true := by
    intro text hmark c hc
    rw [bne_iff_ne]
    rintro rfl
    exact hmark hc
  have hstops : ∀ rest, StopsAt (· != mark) (mark :: rest) := fun rest => stopsAt_cons (by simp)
  obtain ⟨hstart, hend⟩ := run_unique (hrun hs) (hstops t) (hrun hs') (hstops t') h
  exact ⟨hstart, (List.cons.inj hend).2⟩

theorem dropWhile_of_stopsAt (hrest : StopsAt p rest) : rest.dropWhile p = rest := by
  simpa using dropWhile_run (p := p) (List.forall_mem_nil _) hrest

theorem stopsAt_dropWhile (text : List Char) : StopsAt p (text.dropWhile p) := by
  intro c hc
  have := List.head?_dropWhile_not p text
  rw [Option.mem_def.1 hc] at this
  simpa using this

end

/-! ## Reading from the front -/

theorem afterStart?_eq_some_iff {start text rest : List Char} :
    afterStart? start text = some rest ↔ text = start ++ rest := by
  unfold afterStart?
  constructor
  · intro h
    split at h
    · rename_i hp
      obtain ⟨t, rfl⟩ := List.isPrefixOf_iff_prefix.1 hp
      rw [List.drop_left] at h
      rw [Option.some.inj h]
    · cases h
  · rintro rfl
    simp

theorem afterBlanks?_eq_some_iff {text rest : List Char} :
    afterBlanks? text = some rest ↔ ∃ gap, IsGap gap ∧ text = gap ++ rest ∧ StopsAt isBlank rest := by
  constructor
  · intro h
    cases text with
    | nil => cases h
    | cons c text =>
      simp only [afterBlanks?] at h
      split at h
      · rename_i hc
        obtain rfl := Option.some.inj h
        refine ⟨c :: text.takeWhile isBlank, ⟨by simp, ?_⟩, by simp, stopsAt_dropWhile text⟩
        intro d hd
        rcases List.mem_cons.1 hd with rfl | hd
        · exact hc
        · exact List.mem_takeWhile_imp hd
      · cases h
  · rintro ⟨gap, ⟨hne, hgap⟩, rfl, hrest⟩
    cases gap with
    | nil => exact absurd rfl hne
    | cons c gap =>
      have hc : isBlank c = true := hgap c (by simp)
      have hdrop := dropWhile_run (fun d hd => hgap d (List.mem_cons_of_mem _ hd)) hrest
      simp [afterBlanks?, hc, hdrop]

theorem takeSome?_eq_some_iff {p : Char → Bool} {text taken rest : List Char} :
    takeSome? p text = some (taken, rest) ↔
      taken ≠ [] ∧ (∀ c ∈ taken, p c = true) ∧ text = taken ++ rest ∧ StopsAt p rest := by
  unfold takeSome?
  constructor
  · intro h
    split at h
    · cases h
    · rename_i hne
      simp only [Option.some.injEq, Prod.mk.injEq] at h
      obtain ⟨rfl, rfl⟩ := h
      exact ⟨hne, fun c hc => List.mem_takeWhile_imp hc, by simp, stopsAt_dropWhile text⟩
  · rintro ⟨hne, htaken, rfl, hrest⟩
    rw [takeWhile_run htaken hrest, dropWhile_run htaken hrest]
    cases taken with
    | nil => exact absurd rfl hne
    | cons c taken => rfl

/-! ## Trimming -/

theorem trim_eq_self {text : List Char} (hhead : StopsAt isBlank text)
    (hlast : StopsAt isBlank text.reverse) : trim text = text := by
  rw [trim, trimWhile, dropEndWhile, dropWhile_of_stopsAt hhead, dropWhile_of_stopsAt hlast,
    List.reverse_reverse]

theorem mem_dropWhile {p : Char → Bool} {text : List Char} {c : Char} (hc : c ∈ text) (hp : p c = false) :
    c ∈ text.dropWhile p := by
  rw [← List.takeWhile_append_dropWhile (p := p) (l := text), List.mem_append] at hc
  rcases hc with hc | hc
  · have := List.mem_takeWhile_imp hc
    rw [hp] at this
    cases this
  · exact hc

theorem mem_trim {text : List Char} {c : Char} (hc : c ∈ text) (hblank : isBlank c = false) : c ∈ trim text := by
  rw [trim, trimWhile, dropEndWhile, List.mem_reverse]
  exact mem_dropWhile (List.mem_reverse.2 (mem_dropWhile hc hblank)) hblank

theorem mem_of_mem_trim {text : List Char} {c : Char} (hc : c ∈ trim text) : c ∈ text := by
  rw [trim, trimWhile, dropEndWhile, List.mem_reverse] at hc
  have hrest := (List.dropWhile_sublist isBlank).subset hc
  rw [List.mem_reverse] at hrest
  exact (List.dropWhile_sublist isBlank).subset hrest

/-! ## Words -/

@[simp] theorem words_nil : words [] = [] := by
  simp [words]

theorem words_append_blank {c : Char} (hc : isBlank c = true) (x y : List Char) :
    words (x ++ c :: y) = words x ++ words y := by
  unfold words
  rw [List.splitOnP_append_cons x y hc, List.filter_append]

theorem words_of_isSolid {word : List Char} (hne : word ≠ []) (h : IsSolid word) :
    words word = [word] := by
  rw [words, List.splitOnP_eq_singleton h]
  simp [hne]

theorem words_blanks_append {blanks : List Char} (h : IsBlanks blanks) (x : List Char) :
    words (blanks ++ x) = words x := by
  induction blanks with
  | nil => rfl
  | cons c blanks ih =>
    rw [List.cons_append, ← List.nil_append (c :: (blanks ++ x)), words_append_blank (h c List.mem_cons_self),
      words_nil, List.nil_append, ih fun d hd => h d (List.mem_cons_of_mem _ hd)]

theorem words_append_blanks {blanks : List Char} (h : IsBlanks blanks) (x : List Char) :
    words (x ++ blanks) = words x := by
  cases blanks with
  | nil => rw [List.append_nil]
  | cons c blanks =>
    have hrest := words_blanks_append (fun d hd => h d (List.mem_cons_of_mem _ hd)) []
    rw [List.append_nil, words_nil] at hrest
    rw [words_append_blank (h c List.mem_cons_self), hrest, List.append_nil]

theorem words_append_gap {gap : List Char} (h : IsGap gap) (x y : List Char) :
    words (x ++ gap ++ y) = words x ++ words y := by
  obtain ⟨hne, hblanks⟩ := h
  cases gap with
  | nil => exact absurd rfl hne
  | cons c gap =>
    rw [List.append_assoc, List.cons_append, words_append_blank (hblanks c List.mem_cons_self),
      words_blanks_append fun d hd => hblanks d (List.mem_cons_of_mem _ hd)]

theorem words_intercalate : ∀ parts : List (List Char),
    words ([' '].intercalate parts) = parts.flatMap words
  | [] => words_nil
  | [part] => by simp
  | part :: next :: parts => by
    rw [List.intercalate_cons_cons, List.append_assoc, List.singleton_append,
      words_append_blank (by decide), words_intercalate (next :: parts)]
    rfl

/-! ## Names -/

theorem isName_iff {text : List Char} :
    isName text = true ↔ text ≠ [] ∧ ∀ c ∈ text, isNameChar c = true := by
  simp [isName]

theorem isSolid_of_isName {text : List Char} (h : isName text = true) : IsSolid text := by
  intro c hc
  have := (isName_iff.1 h).2 c hc
  simp only [isNameChar, Bool.and_eq_true, Bool.not_eq_true'] at this
  exact this.1

theorem not_mem_of_isName {text : List Char} (h : isName text = true) {c : Char}
    (hc : c ∈ reservedChars) : c ∉ text := by
  intro hmem
  have := (isName_iff.1 h).2 c hmem
  simp [isNameChar, hc] at this

/-! ## Lines -/

theorem isBlank_of_isLineBreak {c : Char} (h : isLineBreak c = true) : isBlank c = true := by
  simp only [isLineBreak, inSpans, List.any_cons, List.any_nil, Bool.or_eq_true, Bool.and_eq_true,
    decide_eq_true_eq, Bool.false_eq_true, or_false] at h
  simp only [isBlank, isSpace, inSpans, List.any_cons, List.any_nil, Bool.or_eq_true,
    Bool.and_eq_true, decide_eq_true_eq, Bool.false_eq_true, or_false]
  omega

theorem lines_append_newline {line : List Char} (h : ∀ c ∈ line, isLineBreak c = false)
    (rest : List Char) : lines (line ++ '\n' :: rest) = line :: lines rest := by
  induction line with
  | nil => simp [lines, isLineBreak, inSpans]
  | cons c line ih =>
    have hc : isLineBreak c = false := h c (by simp)
    have hne : c ≠ '\r' := by
      rintro rfl
      exact absurd hc (by decide)
    rw [List.cons_append, lines.eq_3 _ _ (fun r hr _ => hne hr), hc,
      ih fun d hd => h d (List.mem_cons_of_mem _ hd)]
    rfl

/-- A character that is not the first half of a break either ends a line or starts the next one. -/
theorem lines_cons {c : Char} {rest : List Char} (h : c = '\r' → rest.head? ≠ some '\n') :
    lines (c :: rest) = if isLineBreak c then [] :: lines rest else consFirst c (lines rest) := by
  apply lines.eq_3
  rintro tail rfl rfl
  exact h rfl rfl

theorem lines_append_lineFeed_ne_nil (text : List Char) : lines (text ++ ['\n']) ≠ [] := by
  cases text with
  | nil => decide
  | cons c text =>
    by_cases hpair : c = '\r' ∧ (text ++ ['\n']).head? = some '\n'
    · obtain ⟨rfl, hhead⟩ := hpair
      obtain ⟨tail, htail⟩ := List.head?_eq_some_iff.1 hhead
      rw [List.cons_append, htail, lines.eq_2]
      exact List.cons_ne_nil _ _
    · rw [List.cons_append, lines_cons fun hc hhead => hpair ⟨hc, hhead⟩]
      split
      · exact List.cons_ne_nil _ _
      · cases lines (text ++ ['\n']) <;> exact List.cons_ne_nil _ _

theorem consFirst_append {c : Char} {ls others : List (List Char)} (h : ls ≠ []) :
    consFirst c (ls ++ others) = consFirst c ls ++ others := by
  cases ls with
  | nil => exact absurd rfl h
  | cons line ls => rfl

theorem lines_append_lineFeed (text rest : List Char) :
    lines (text ++ '\n' :: rest) = lines (text ++ ['\n']) ++ lines rest := by
  induction hn : text.length using Nat.strongRecOn generalizing text with
  | ind n ih =>
    cases text with
    | nil => simp [lines, isLineBreak, inSpans]
    | cons c text =>
      have hhead : (text ++ '\n' :: rest).head? = (text ++ ['\n']).head? := by cases text <;> rfl
      by_cases hpair : c = '\r' ∧ (text ++ ['\n']).head? = some '\n'
      · obtain ⟨rfl, hfeed⟩ := hpair
        -- the carriage return and the line feed after it are one break
        cases text with
        | nil => simp [lines]
        | cons d text =>
          obtain rfl : d = '\n' := by simpa using hfeed
          have hrest := ih text.length (by simp only [← hn, List.length_cons]; omega) text rfl
          simp only [List.cons_append, lines.eq_2, hrest]
      · have hrest := ih text.length (by simp only [← hn, List.length_cons]; omega) text rfl
        rw [List.cons_append, List.cons_append, lines_cons fun hc h => hpair ⟨hc, hhead ▸ h⟩,
          lines_cons fun hc h => hpair ⟨hc, h⟩, hrest]
        by_cases hbreak : isLineBreak c = true
        · rw [if_pos hbreak, if_pos hbreak]
          rfl
        · rw [if_neg hbreak, if_neg hbreak, consFirst_append (lines_append_lineFeed_ne_nil text)]

theorem lines_append_break {line : List Char} (h : ∀ c ∈ line, isLineBreak c = false) {c : Char}
    (hc : isLineBreak c = true) (rest : List Char) : ∃ others, lines (line ++ c :: rest) = line :: others := by
  induction line with
  | nil =>
    by_cases hpair : c = '\r' ∧ rest.head? = some '\n'
    · obtain ⟨rfl, hhead⟩ := hpair
      obtain ⟨tail, rfl⟩ := List.head?_eq_some_iff.1 hhead
      exact ⟨lines tail, lines.eq_2 tail⟩
    · rw [List.nil_append, lines_cons fun hr hhead => hpair ⟨hr, hhead⟩, if_pos hc]
      exact ⟨_, rfl⟩
  | cons d line ih =>
    obtain ⟨others, hothers⟩ := ih fun e he => h e (List.mem_cons_of_mem _ he)
    have hd := h d List.mem_cons_self
    have hne : d ≠ '\r' := by
      rintro rfl
      exact absurd hd (by decide)
    rw [List.cons_append, lines_cons fun hr => absurd hr hne, hd, hothers]
    exact ⟨others, rfl⟩

theorem lines_flatMap_lineFeed (texts : List (List Char)) :
    lines (texts.flatMap (· ++ ['\n'])) = texts.flatMap fun text => lines (text ++ ['\n']) := by
  induction texts with
  | nil => rfl
  | cons text texts ih =>
    rw [List.flatMap_cons, List.flatMap_cons, List.append_assoc, List.singleton_append,
      lines_append_lineFeed, ih]

theorem lines_flatMap_newline {ls : List (List Char)}
    (h : ∀ line ∈ ls, ∀ c ∈ line, isLineBreak c = false) :
    lines (ls.flatMap (· ++ ['\n'])) = ls := by
  induction ls with
  | nil => rfl
  | cons line ls ih =>
    rw [List.flatMap_cons, List.append_assoc, List.singleton_append,
      lines_append_newline (h line (by simp)), ih fun l hl => h l (List.mem_cons_of_mem _ hl)]

end TagGrammar.Text
