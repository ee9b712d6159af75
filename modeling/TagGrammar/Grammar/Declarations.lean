import TagGrammar.Grammar.Statement
import TagGrammar.Text.Line

/-!
# Declarations

Reading a grammar text line by line collects what its statements declare. Blank lines are
skipped, every other line has to be a statement, and nothing may be declared twice. An error names
the line it was found in and repeats that line.
-/

namespace TagGrammar

open Text

/-! ## Errors -/

inductive GrammarFault where
  | unrecognized
  | body (fault : BodyFault)
  | duplicateFragment (name : String)
  | duplicateElement (tag : String)
  | duplicateAttributeList (tag : String)
  | chainCycle (name : String)
  | undeclaredFragment (name : String)
  | undeclaredElement (tag : String)
  | missingAttributeList (tag : String)
  deriving DecidableEq

def BodyFault.message : BodyFault → String
  | malformedReference => "malformed fragment reference"
  | attributeWithoutType => "attribute without a type"
  | invalidName name => s!"invalid attribute name '{name}'"
  | invalidType name definition => s!"invalid type '{definition}' for '{name}'"
  | duplicateAttribute name => s!"duplicate attribute '{name}'"

def GrammarFault.message : GrammarFault → String
  | unrecognized => "unrecognized construct"
  | body fault => fault.message
  | duplicateFragment name => s!"duplicate fragment '{name}'"
  | duplicateElement tag => s!"duplicate element '{tag}'"
  | duplicateAttributeList tag => s!"duplicate attribute list for '{tag}'"
  | chainCycle name => s!"fragment chain cycle through '{name}'"
  | undeclaredFragment name => s!"undeclared fragment '{name}'"
  | undeclaredElement tag => s!"undeclared element '{tag}'"
  | missingAttributeList tag => s!"element '{tag}' has no attribute list"

/-- A fault, the number of the line it was found in and that line without blanks around it. -/
structure GrammarError where
  fault : GrammarFault
  line : Nat
  construct : String
  deriving DecidableEq

def GrammarError.message (error : GrammarError) : String :=
  s!"line {error.line}: {error.fault.message}: {error.construct}"

/-! ## Declarations -/

/-- What a line declares, with the number and the text of the line. -/
structure Located (α : Type) where
  line : Nat
  construct : String
  value : α

def Located.error {α : Type} (located : Located α) (fault : GrammarFault) : GrammarError :=
  ⟨fault, located.line, located.construct⟩

/-- What the lines of a grammar text declare. -/
structure Declarations where
  fragments : Table (Located FragmentBody)
  elements : Table (Located ContentModel)
  attributeLists : Table (Located String)

namespace Declarations

def empty : Declarations :=
  ⟨.empty, .empty, .empty⟩

def readLine (declared : Declarations) (number : Nat) (line : List Char) :
    Except GrammarError Declarations :=
  let construct := String.ofList line
  match Statement.read? line with
  | some (.fragment name body) =>
    if declared.fragments.contains name then
      .error ⟨.duplicateFragment name, number, construct⟩
    else
      match FragmentBody.read body.toList with
      | .error fault => .error ⟨.body fault, number, construct⟩
      | .ok value =>
        .ok { declared with
          fragments := declared.fragments.insert name ⟨number, construct, value⟩ }
  | some (.element tag content) =>
    if declared.elements.contains tag then .error ⟨.duplicateElement tag, number, construct⟩
    else
      .ok { declared with elements := declared.elements.insert tag ⟨number, construct, content⟩ }
  | some (.attributeList tag fragment) =>
    if declared.attributeLists.contains tag then
      .error ⟨.duplicateAttributeList tag, number, construct⟩
    else
      .ok { declared with
        attributeLists := declared.attributeLists.insert tag ⟨number, construct, fragment⟩ }
  | none => .error ⟨.unrecognized, number, construct⟩

/-- Adds what the lines from a given number on declare. -/
def readLines (declared : Declarations) (number : Nat) :
    List (List Char) → Except GrammarError Declarations
  | [] => .ok declared
  | raw :: rest =>
    match trim raw with
    | [] => readLines declared (number + 1) rest
    | line =>
      match readLine declared number line with
      | .error error => .error error
      | .ok declared => readLines declared (number + 1) rest

def read (text : String) : Except GrammarError Declarations :=
  readLines empty 1 (lines text.toList)

end Declarations

end TagGrammar
