import TagGrammar.Text.Span

/-!
# Blank characters and words

Two classes of blank characters are in use. `isSpace` is the `White_Space` property of Unicode;
`isBlank` adds the four information separators U+001C to U+001F. Grammar text, markup and tag
names are read with `isBlank`, type definition files and numbers with `isSpace`.

A word is a maximal run of characters that are not blank.
-/

namespace TagGrammar.Text

/-- The `White_Space` property. -/
def isSpace (c : Char) : Bool :=
  inSpans [(0x09, 0x0D), (0x20, 0x20), (0x85, 0x85), (0xA0, 0xA0), (0x1680, 0x1680),
    (0x2000, 0x200A), (0x2028, 0x2029), (0x202F, 0x202F), (0x205F, 0x205F), (0x3000, 0x3000)] c

/-- `White_Space` or an information separator. -/
def isBlank (c : Char) : Bool :=
  isSpace c || inSpans [(0x1C, 0x1F)] c

/-! ## Trimming -/

/-- Drops the characters of a class from the end of a text. -/
def dropEndWhile (p : Char → Bool) (text : List Char) : List Char :=
  (text.reverse.dropWhile p).reverse

/-- Drops the characters of a class from both ends of a text. -/
def trimWhile (p : Char → Bool) (text : List Char) : List Char :=
  dropEndWhile p (text.dropWhile p)

def trim (text : List Char) : List Char :=
  trimWhile isBlank text

def trimString (s : String) : String :=
  String.ofList (trim s.toList)

/-! ## Words -/

def words (text : List Char) : List (List Char) :=
  (text.splitOnP isBlank).filter fun word => !word.isEmpty

/-- The longest start of a text that holds no blank. -/
def leadingWord (text : List Char) : List Char :=
  text.takeWhile fun c => !isBlank c

/-- The longest end of a text that holds no blank. -/
def trailingWord (text : List Char) : List Char :=
  (text.reverse.takeWhile fun c => !isBlank c).reverse

end TagGrammar.Text
