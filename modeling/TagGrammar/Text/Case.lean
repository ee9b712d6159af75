import TagGrammar.Text.CaseTable
import TagGrammar.Text.Span

/-!
# Letter case

Full case mappings. Folding and upper case work character by character; lower case does so for
every character but the capital sigma, whose lower case depends on whether a word ends with it.
-/

namespace TagGrammar.Text

/-- The image of a character that a mapping lists, if it does. -/
def mapCase? (sequences : List (Nat × List Nat)) (runs : List CaseRun) (c : Char) :
    Option (List Char) :=
  match sequences.lookup c.toNat with
  | some codes => some (codes.map Char.ofNat)
  | none =>
    (runs.find? fun run => run.covers c.toNat).map fun run =>
      [Char.ofNat ((c.toNat : Int) + run.shift).toNat]

/-! ## Single characters -/

/-- Lower case of a character that stands alone. -/
def lowerChar (c : Char) : List Char :=
  (mapCase? lowerSequences lowerRuns c).getD [c]

def upperChar (c : Char) : List Char :=
  (mapCase? upperSequences upperRuns c).getD [c]

def foldChar (c : Char) : List Char :=
  (mapCase? foldSequences foldRuns c).getD (lowerChar c)

/-! ## Texts -/

/-- Whether the first character that is not passed over is a letter that has case. -/
def meetsCased (text : List Char) : Bool :=
  match text.dropWhile (inSpans caseIgnorableSpans) with
  | [] => false
  | c :: _ => inSpans casedSpans c

/-- Lower case of a character between a reversed text before it and a text after it. A capital
sigma that follows a letter and precedes none is final. -/
def lowerWithin (before : List Char) (c : Char) (after : List Char) : List Char :=
  if c = 'Σ' then
    if meetsCased before && !meetsCased after then ['ς'] else ['σ']
  else lowerChar c

/-- Lower case of a text that follows the given reversed text. -/
def lowerAfter (before : List Char) : List Char → List Char
  | [] => []
  | c :: rest => lowerWithin before c rest ++ lowerAfter (c :: before) rest

def lower (s : String) : String :=
  String.ofList (lowerAfter [] s.toList)

def upper (s : String) : String :=
  String.ofList (s.toList.flatMap upperChar)

/-- Case folding of a text. Texts with the same folding differ in letter case only. -/
def fold (text : List Char) : List Char :=
  text.flatMap foldChar

theorem fold_append (s t : List Char) : fold (s ++ t) = fold s ++ fold t :=
  List.flatMap_append

end TagGrammar.Text
