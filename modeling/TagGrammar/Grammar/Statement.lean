import TagGrammar.Grammar
import TagGrammar.Text.Scan

/-!
# Statements

A grammar is written as one statement a line, in one of three shapes:

    <!ENTITY % name "body">
    <!ELEMENT tag EMPTY>          or ANY
    <!ATTLIST tag %name;>

The body of a fragment is an optional reference `%base;` and then attribute names, each followed by
its definition: `CDATA` or a group of tokens `(one|two)`.
-/

namespace TagGrammar

open Text

/-- A statement of a grammar. The body of a fragment is not taken apart yet. -/
inductive Statement where
  | fragment (name : String) (body : String)
  | element (tag : String) (content : ContentModel)
  | attributeList (tag : String) (fragment : String)
  deriving DecidableEq

/-! ## Writing -/

def Statement.render : Statement → String
  | fragment name body => "<!ENTITY % " ++ name ++ " \"" ++ body ++ "\">"
  | element tag content => "<!ELEMENT " ++ tag ++ " " ++ content.word ++ ">"
  | attributeList tag name => "<!ATTLIST " ++ tag ++ " %" ++ name ++ ";>"

def Fragment.body (fragment : Fragment) : String :=
  " ".intercalate
    (fragment.base.toList.map (fun base => "%" ++ base ++ ";") ++
      fragment.attributes.map fun attr => attr.name ++ " " ++ attr.definition)

def Fragment.statement (fragment : Fragment) : Statement :=
  .fragment fragment.name fragment.body

def Element.statement (element : Element) : Statement :=
  .element element.tag element.content

def Element.attributeStatement (element : Element) : Statement :=
  .attributeList element.tag element.identity

/-- The fragment that every type's fragment continues in the end. -/
def baseStatement : Statement :=
  (Fragment.mk baseFragment none baseAttributes).statement

namespace Grammar

/-- The statements of a grammar: the base fragment, the fragments of the types, and two statements
for every element. -/
def statements (grammar : Grammar) : List Statement :=
  baseStatement :: grammar.types.map Fragment.statement ++
    grammar.elements.flatMap fun element => [element.statement, element.attributeStatement]

/-- The written form of a grammar, a line for every statement. -/
def text (grammar : Grammar) : String :=
  "\n".intercalate (grammar.statements.map Statement.render) ++ "\n"

end Grammar

/-! ## Reading -/

/-- A character that the name of a fragment may hold. -/
def isFragmentNameChar (c : Char) : Bool :=
  !isBlank c && c != '"' && c != '%' && c != ';' && c != '<' && c != '>'

/-- A character that the tag of an element may hold. -/
def isTagChar (c : Char) : Bool :=
  !isBlank c && c != '<' && c != '>'

def isClosing (text : List Char) : Bool :=
  text.dropWhile isBlank == ['>']

namespace Statement

def readFragment? (text : List Char) : Option Statement := do
  let text ← afterBlanks? (← afterStart? "<!ENTITY".toList text)
  let text ← afterBlanks? (← afterStart? ['%'] text)
  let (name, text) ← takeSome? isFragmentNameChar text
  let text ← afterStart? ['"'] (← afterBlanks? text)
  let rest ← afterStart? ['"'] (text.dropWhile (· != '"'))
  if isClosing rest then
    return fragment (String.ofList name) (String.ofList (text.takeWhile (· != '"')))
  else none

/-- Reads a content model and the end of the statement. -/
def readContent? (text : List Char) : Option ContentModel :=
  [ContentModel.empty, ContentModel.any].find? fun model =>
    ((afterStart? model.word.toList text).map isClosing).getD false

def readElement? (text : List Char) : Option Statement := do
  let text ← afterBlanks? (← afterStart? "<!ELEMENT".toList text)
  let (tag, text) ← takeSome? isTagChar text
  let content ← readContent? (← afterBlanks? text)
  return element (String.ofList tag) content

def readAttributeList? (text : List Char) : Option Statement := do
  let text ← afterBlanks? (← afterStart? "<!ATTLIST".toList text)
  let (tag, text) ← takeSome? isTagChar text
  let text ← afterStart? ['%'] (← afterBlanks? text)
  let (name, text) ← takeSome? isFragmentNameChar text
  let rest ← afterStart? [';'] text
  if isClosing rest then return attributeList (String.ofList tag) (String.ofList name) else none

def read? (text : List Char) : Option Statement :=
  readFragment? text <|> readElement? text <|> readAttributeList? text

end Statement

/-! ## Bodies of fragments -/

/-- A fragment's body: the fragment it continues and the definitions it adds. -/
structure FragmentBody where
  base : Option String
  definitions : Table String

inductive BodyFault where
  | malformedReference
  | attributeWithoutType
  | invalidName (name : String)
  | invalidType (name definition : String)
  | duplicateAttribute (name : String)
  deriving DecidableEq

namespace FragmentBody

/-- Reads a reference `%name;`. -/
def readReference? (word : List Char) : Option String := do
  let rest ← afterStart? ['%'] word
  match ← takeSome? isFragmentNameChar rest with
  | (name, [';']) => return String.ofList name
  | _ => none

/-- Whether a word is a group of tokens `(one|two)`. -/
def isTokenGroup : List Char → Bool
  | '(' :: rest => rest.getLast? == some ')' && (rest.dropLast.splitOn '|').all isName
  | _ => false

def isDefinition (word : List Char) : Bool :=
  word == textDefinition.toList || isTokenGroup word

/-- Reads attribute names, each followed by its definition, after some that have been read. -/
def readPairs (definitions : Table String) :
    List (List Char) → Except BodyFault (Table String)
  | name :: definition :: rest =>
    let key := String.ofList name
    if !isName name then .error (.invalidName key)
    else if !isDefinition definition then .error (.invalidType key (String.ofList definition))
    else if definitions.contains key then .error (.duplicateAttribute key)
    else readPairs (definitions.insert key (String.ofList definition)) rest
  | _ => .ok definitions

def readDefinitions (base : Option String) (words : List (List Char)) :
    Except BodyFault FragmentBody :=
  if words.length % 2 = 1 then .error .attributeWithoutType
  else (readPairs .empty words).map fun definitions => ⟨base, definitions⟩

def read (body : List Char) : Except BodyFault FragmentBody :=
  match words body with
  | ('%' :: rest) :: others =>
    match readReference? ('%' :: rest) with
    | some base => readDefinitions (some base) others
    | none => .error .malformedReference
  | others => readDefinitions none others

end FragmentBody

end TagGrammar
