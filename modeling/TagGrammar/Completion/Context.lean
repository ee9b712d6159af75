import TagGrammar.Text.Blank

/-!
# The context of a caret

Names can be completed in two places of a markup text: in the name of a tag that has been opened,
and after it, where attributes stand. A caret outside tags or inside a quoted value is in neither.
-/

namespace TagGrammar

open Text

/-- What can be completed at a caret, and what has been typed of it. An attribute belongs to the
tag before it, unless nothing stands right after the opening `<`. -/
inductive Context where
  | tagName (typed : String)
  | attributeName (tag : Option String) (typed : String)
  | nowhere
  deriving DecidableEq

namespace Context

/-- The quote that a character leaves open, after one that was open before it. -/
def stepQuote : Option Char → Char → Option Char
  | none, c => if c = '"' || c = '\'' then some c else none
  | some mark, c => if c = mark then none else some mark

def endsQuoted (text : List Char) : Bool :=
  (text.foldl stepQuote none).isSome

/-- What stands after the last `<` of a text, unless a `>` follows it. -/
def openTag? (text : List Char) : Option (List Char) :=
  let tagText := (text.reverse.takeWhile (· != '<')).reverse
  if text.contains '<' && !tagText.contains '>' then some tagText else none

/-- The context at the end of the text of an open tag. -/
def ofTagText (tagText : List Char) : Context :=
  if endsQuoted tagText then nowhere
  else
    let tag := leadingWord tagText
    if tag = tagText then tagName (String.ofList tag)
    else
      attributeName (if tag.isEmpty then none else some (String.ofList tag))
        (String.ofList (trailingWord tagText))

/-- The context of a caret, given by the number of characters before it. -/
def find (text : List Char) (caret : Int) : Context :=
  if 0 ≤ caret ∧ caret ≤ text.length then
    match openTag? (text.take caret.toNat) with
    | some tagText => ofTagText tagText
    | none => nowhere
  else nowhere

def word : Context → String
  | tagName _ => "tag_name"
  | attributeName .. => "attribute_name"
  | nowhere => "none"

/-- The tag whose attributes are completed. -/
def tag? : Context → Option String
  | attributeName tag _ => tag
  | _ => none

def typed : Context → String
  | tagName typed => typed
  | attributeName _ typed => typed
  | nowhere => ""

end Context

end TagGrammar
