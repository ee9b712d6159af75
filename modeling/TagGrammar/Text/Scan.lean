import TagGrammar.Text.Blank

/-!
# Reading from the front of a text

Each function takes something off the front of a text and gives what follows it, or nothing if the
text starts otherwise.
-/

namespace TagGrammar.Text

def afterStart? (start text : List Char) : Option (List Char) :=
  if start.isPrefixOf text then some (text.drop start.length) else none

def afterBlanks? : List Char → Option (List Char)
  | [] => none
  | c :: rest => if isBlank c then some (rest.dropWhile isBlank) else none

/-- One or more characters of a class, and what follows them. -/
def takeSome? (p : Char → Bool) (text : List Char) : Option (List Char × List Char) :=
  match text.takeWhile p with
  | [] => none
  | taken => some (taken, text.dropWhile p)

end TagGrammar.Text
