import TagGrammar.Text.Blank

/-!
# Names

Tags, type identities, attribute names and value tokens are names: non-empty texts without blanks
and without the characters that grammar statements reserve. Type definition files admit slightly
more, because they take blanks to be `White_Space` only.
-/

namespace TagGrammar

open Text

/-- The characters that grammar statements reserve. -/
def reservedChars : List Char :=
  ['"', '%', ';', '<', '>', '(', ')', '|']

def isNameChar (c : Char) : Bool :=
  !isBlank c && !reservedChars.contains c

def isName (text : List Char) : Bool :=
  !text.isEmpty && text.all isNameChar

/-- A character a name in a type definition file may hold. -/
def isDefinedNameChar (c : Char) : Bool :=
  !isSpace c && !reservedChars.contains c

/-- Whether a text is a name as far as type definition files are concerned. -/
def isDefinedName (text : List Char) : Bool :=
  !text.isEmpty && text.all isDefinedNameChar

/-- The names of a list that differ from a given one. -/
def without (name : String) (names : List String) : List String :=
  names.filter (· ≠ name)

theorem mem_without {name other : String} {names : List String} :
    other ∈ without name names ↔ other ∈ names ∧ other ≠ name := by
  simp [without]

/-- Leaving out a name that occurs makes a list shorter. -/
theorem length_without_lt {name : String} {names : List String} (h : name ∈ names) :
    (without name names).length < names.length :=
  List.length_filter_lt_length_iff_exists.2 ⟨name, h, by simp⟩

end TagGrammar
