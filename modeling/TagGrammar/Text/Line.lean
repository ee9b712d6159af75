import TagGrammar.Text.Span

/-!
# Lines

A text falls into lines at every line break. `\r\n` is one break, and a break at the very end
starts no further line. `unifyBreaks` is what reading a text file does to its breaks; it never
changes the lines (`lines_unifyBreaks`).
-/

namespace TagGrammar.Text

def isLineBreak (c : Char) : Bool :=
  inSpans [(0x0A, 0x0D), (0x1C, 0x1E), (0x85, 0x85), (0x2028, 0x2029)] c

def consFirst (c : Char) : List (List Char) → List (List Char)
  | [] => [[c]]
  | line :: rest => (c :: line) :: rest

/-- The lines of a text, without their breaks. -/
def lines : List Char → List (List Char)
  | [] => []
  | '\r' :: '\n' :: rest => [] :: lines rest
  | c :: rest => if isLineBreak c then [] :: lines rest else consFirst c (lines rest)

/-- Writes `\n` for `\r\n` and for `\r`. -/
def unifyBreaks : List Char → List Char
  | [] => []
  | '\r' :: '\n' :: rest => '\n' :: unifyBreaks rest
  | c :: rest => (if c = '\r' then '\n' else c) :: unifyBreaks rest

theorem lines_unifyBreaks (text : List Char) : lines (unifyBreaks text) = lines text := by
  fun_induction unifyBreaks text with
  | case1 => rfl
  | case2 rest ih => simp [lines, isLineBreak, inSpans, ih]
  | case3 c rest h ih =>
    by_cases hc : c = '\r'
    · subst hc
      rw [lines.eq_3 _ _ fun r => h r]
      simp [lines, isLineBreak, inSpans, ih]
    · simp [lines, hc, ih]

end TagGrammar.Text
