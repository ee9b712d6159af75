import TagGrammar.Proofs.Text
import TagGrammar.Vocabulary

/-!
# Names and defined names

A name of a type definition file is a name as soon as it is solid, and the token of such a name is
such a name again. Names of plain letters, digits and marks are told by their bytes.
-/

namespace TagGrammar

open Text

/-! ## Defined names -/

theorem isDefinedName_iff {text : List Char} :
    isDefinedName text = true ↔ text ≠ [] ∧ ∀ c ∈ text, isDefinedNameChar c = true := by
  simp [isDefinedName]

theorem isDefinedNameChar_iff {c : Char} :
    isDefinedNameChar c = true ↔ isSpace c = false ∧ c ∉ reservedChars := by
  simp [isDefinedNameChar]

theorem not_mem_of_isDefinedName {text : List Char} (h : isDefinedName text = true) {c : Char}
    (hc : c ∈ reservedChars) : c ∉ text := by
  intro hmem
  exact (isDefinedNameChar_iff.1 ((isDefinedName_iff.1 h).2 c hmem)).2 hc

theorem isName_of_isSolid {text : List Char} (h : isDefinedName text = true) (hsolid : IsSolid text) :
    isName text = true := by
  obtain ⟨hne, hchars⟩ := isDefinedName_iff.1 h
  refine isName_iff.2 ⟨hne, fun c hc => ?_⟩
  have hreserved := (isDefinedNameChar_iff.1 (hchars c hc)).2
  simp [isNameChar, hsolid c hc, hreserved]

theorem isDefinedName_of_isName {text : List Char} (h : isName text = true) : isDefinedName text = true := by
  refine isDefinedName_iff.2 ⟨(isName_iff.1 h).1, fun c hc => isDefinedNameChar_iff.2 ⟨?_, ?_⟩⟩
  · have hblank := isSolid_of_isName h c hc
    simp only [isBlank, Bool.or_eq_false_iff] at hblank
    exact hblank.1
  · exact fun hreserved => not_mem_of_isName h hreserved hc

/-! ## Tokens of names -/

/-- Intervals without white space and without reserved characters. -/
def nameSpans : List (Nat × Nat) :=
  [(0x61, 0x7A), (0xA1, 0x167F), (0x1681, 0x1FFF), (0x2060, 0x2FFF), (0x3001, 0x10FFFF)]

theorem toNat_ofNat {n : Nat} (h : n.isValidChar) : (Char.ofNat n).toNat = n := by
  rw [Char.ofNat, dif_pos h]
  rfl

theorem isDefinedNameChar_of_inSpans {n : Nat} (h : ∃ span ∈ nameSpans, span.1 ≤ n ∧ n ≤ span.2) :
    isDefinedNameChar (Char.ofNat n) = true := by
  by_cases hvalid : n.isValidChar
  · have hn := toNat_ofNat hvalid
    have hreserved : ∀ c ∈ reservedChars, c.toNat < 0x61 ∨ c.toNat = 0x7C := by
      decide
    rw [isDefinedNameChar_iff]
    simp only [nameSpans, List.mem_cons, List.not_mem_nil, or_false, exists_eq_or_imp,
      exists_eq_left] at h
    constructor
    · simp only [isSpace, inSpans, List.any_cons, List.any_nil, Bool.or_false, Bool.or_eq_false_iff,
        Bool.and_eq_false_iff, decide_eq_false_iff_not, hn]
      omega
    · intro hc
      have := hreserved _ hc
      rw [hn] at this
      omega
  · rw [Char.ofNat, dif_neg hvalid]
    decide

/-- The lower case of a run of letters lies in one of the intervals. -/
theorem lowerRuns_inSpans : ∀ run ∈ lowerRuns, ∃ span ∈ nameSpans,
    (span.1 : Int) ≤ run.first + run.shift ∧ run.last + run.shift ≤ (span.2 : Int) := by
  decide +kernel

theorem isDefinedNameChar_lowerChar {c : Char} (h : isDefinedNameChar c = true) :
    lowerChar c ≠ [] ∧ ∀ d ∈ lowerChar c, isDefinedNameChar d = true := by
  have hlisted : ∀ entry ∈ lowerSequences, entry.2 ≠ [] ∧
      ∀ code ∈ entry.2, isDefinedNameChar (Char.ofNat code) = true := by
    decide
  unfold lowerChar mapCase?
  cases hseq : lowerSequences.lookup c.toNat with
  | some codes =>
    obtain ⟨before, after, heq, -⟩ := List.lookup_eq_some_iff.1 hseq
    obtain ⟨hne, hcodes⟩ := hlisted (c.toNat, codes) (by simp [heq])
    refine ⟨by simpa using hne, ?_⟩
    simpa using hcodes
  | none =>
    cases hrun : lowerRuns.find? fun run => run.covers c.toNat with
    | none => simpa using h
    | some run =>
      have hcovers := List.find?_some hrun
      obtain ⟨span, hspan, hlow, hhigh⟩ := lowerRuns_inSpans run (List.mem_of_find?_eq_some hrun)
      simp only [CaseRun.covers, Bool.and_eq_true, decide_eq_true_eq] at hcovers
      refine ⟨by simp, fun d hd => ?_⟩
      simp only [Option.map_some, Option.getD_some, List.mem_singleton] at hd
      subst hd
      exact isDefinedNameChar_of_inSpans ⟨span, hspan, by omega, by omega⟩

theorem isDefinedNameChar_lowerWithin {c : Char} (h : isDefinedNameChar c = true) (before after : List Char) :
    lowerWithin before c after ≠ [] ∧ ∀ d ∈ lowerWithin before c after, isDefinedNameChar d = true := by
  unfold lowerWithin
  split
  · split
    · decide
    · decide
  · exact isDefinedNameChar_lowerChar h

theorem isDefinedNameChar_lowerAfter {text : List Char} (h : ∀ c ∈ text, isDefinedNameChar c = true)
    (before : List Char) : ∀ d ∈ lowerAfter before text, isDefinedNameChar d = true := by
  induction text generalizing before with
  | nil => simp [lowerAfter]
  | cons c rest ih =>
    intro d hd
    rw [lowerAfter, List.mem_append] at hd
    rcases hd with hd | hd
    · exact (isDefinedNameChar_lowerWithin (h c List.mem_cons_self) before rest).2 d hd
    · exact ih (fun c hc => h c (List.mem_cons_of_mem _ hc)) (c :: before) d hd

theorem isDefinedName_tokenOfName {name : String} (h : isDefinedName name.toList = true) :
    isDefinedName (tokenOfName name).toList = true := by
  obtain ⟨hne, hchars⟩ := isDefinedName_iff.1 h
  rw [isDefinedName_iff, tokenOfName, lower, String.toList_ofList, String.toList_ofList]
  constructor
  · cases htext : name.toList with
    | nil => exact absurd htext hne
    | cons c rest =>
      have hfirst := (isDefinedNameChar_lowerWithin (hchars c (by simp [htext])) [] rest).1
      simp [lowerAfter, hfirst]
  · intro d hd
    obtain ⟨c, hc, rfl⟩ := List.mem_map.1 hd
    split
    · decide
    · exact isDefinedNameChar_lowerAfter hchars [] c hc

/-! ## Plain names -/

/-- The bytes of letters, digits and the marks `-`, `.`, `/`, `:`, `@`, `[`, `\`, `]`, `^`, `_`. -/
def isPlainByte (b : UInt8) : Bool :=
  (0x2D ≤ b && b ≤ 0x3A) || (0x40 ≤ b && b ≤ 0x7A)

def isPlainString (s : String) : Bool :=
  !s.toByteArray.data.toList.isEmpty && s.toByteArray.data.toList.all isPlainByte

theorem toNat_of_isPlainByte {b : UInt8} (h : isPlainByte b = true) :
    0x2D ≤ b.toNat ∧ b.toNat ≤ 0x3A ∨ 0x40 ≤ b.toNat ∧ b.toNat ≤ 0x7A := by
  simpa [isPlainByte, UInt8.le_iff_toNat_le] using h

/-- A character with plain bytes has one byte, its code point. -/
theorem toNat_of_plainBytes {c : Char} (h : ∀ b ∈ String.utf8EncodeChar c, isPlainByte b = true) :
    0x2D ≤ c.toNat ∧ c.toNat ≤ 0x3A ∨ 0x40 ≤ c.toNat ∧ c.toNat ≤ 0x7A := by
  have hfirst : ∃ n, UInt8.ofNat n ∈ String.utf8EncodeChar c ∧ n < 256 ∧
      (n = c.toNat ∨ 0xC0 ≤ n) := by
    unfold String.utf8EncodeChar
    dsimp only
    by_cases h₁ : c.val.toNat ≤ 0x7F
    · rw [if_pos h₁]
      exact ⟨c.val.toNat, List.mem_cons_self, by omega, .inl rfl⟩
    · rw [if_neg h₁]
      by_cases h₂ : c.val.toNat ≤ 0x7FF
      · rw [if_pos h₂]
        exact ⟨_, List.mem_cons_self, by omega, by omega⟩
      · rw [if_neg h₂]
        by_cases h₃ : c.val.toNat ≤ 0xFFFF
        · rw [if_pos h₃]
          exact ⟨_, List.mem_cons_self, by omega, by omega⟩
        · rw [if_neg h₃]
          exact ⟨_, List.mem_cons_self, by omega, by omega⟩
  obtain ⟨n, hmem, hlt, hn⟩ := hfirst
  have hplain := toNat_of_isPlainByte (h _ hmem)
  rw [UInt8.toNat_ofNat_of_lt' hlt] at hplain
  omega

theorem isNameChar_of_plainBytes {c : Char} (h : ∀ b ∈ String.utf8EncodeChar c, isPlainByte b = true) :
    isNameChar c = true := by
  have hrange := toNat_of_plainBytes h
  have hreserved : ∀ c ∈ reservedChars, c.toNat < 0x2D ∨ 0x3A < c.toNat ∧ c.toNat < 0x40 ∨ 0x7A < c.toNat := by
    decide
  have hblank : isBlank c = false := by
    simp only [isBlank, isSpace, inSpans, List.any_cons, List.any_nil, Bool.or_false, Bool.or_eq_false_iff,
      Bool.and_eq_false_iff, decide_eq_false_iff_not]
    omega
  have hmem : c ∉ reservedChars := by
    intro hc
    have := hreserved c hc
    omega
  simp [isNameChar, hblank, hmem]

theorem isName_of_isPlainString {s : String} (h : isPlainString s = true) : isName s.toList = true := by
  have hbytes : s.toByteArray.data.toList = s.toList.flatMap String.utf8EncodeChar := by
    conv => lhs; rw [← s.ofList_toList, String.toByteArray_ofList, List.utf8Encode]
    rw [List.toList_data_toByteArray]
  simp only [isPlainString, hbytes, Bool.and_eq_true, Bool.not_eq_true', List.isEmpty_eq_false_iff,
    List.all_eq_true] at h
  refine isName_iff.2 ⟨?_, fun c hc => isNameChar_of_plainBytes fun b hb => ?_⟩
  · intro hnil
    exact h.1 (by rw [hnil]; rfl)
  · exact h.2 b (List.mem_flatMap.2 ⟨c, hc, hb⟩)

end TagGrammar
