import TagGrammar.Text.Blank

/-!
# Integers in text

An integer is written with decimal digits of any script, an optional sign in front and single
underscores between digits; spaces around it are ignored.
-/

namespace TagGrammar.Text

/-- The digits zero of the decimal scripts. The nine code points after each are its other
digits. -/
def digitZeros : List Nat := [
    0x30, 0x660, 0x6F0, 0x7C0, 0x966, 0x9E6, 0xA66, 0xAE6, 0xB66, 0xBE6, 0xC66, 0xCE6, 0xD66,
    0xDE6, 0xE50, 0xED0, 0xF20, 0x1040, 0x1090, 0x17E0, 0x1810, 0x1946, 0x19D0, 0x1A80, 0x1A90,
    0x1B50, 0x1BB0, 0x1C40, 0x1C50, 0xA620, 0xA8D0, 0xA900, 0xA9D0, 0xA9F0, 0xAA50, 0xABF0,
    0xFF10, 0x104A0, 0x10D30, 0x11066, 0x110F0, 0x11136, 0x111D0, 0x112F0, 0x11450, 0x114D0,
    0x11650, 0x116C0, 0x11730, 0x118E0, 0x11950, 0x11C50, 0x11D50, 0x11DA0, 0x16A60, 0x16AC0,
    0x16B50, 0x1D7CE, 0x1D7D8, 0x1D7E2, 0x1D7EC, 0x1D7F6, 0x1E140, 0x1E2F0, 0x1E950, 0x1FBF0]

def digitValue? (c : Char) : Option Nat :=
  (digitZeros.find? fun first => first ≤ c.toNat && c.toNat < first + 10).map (c.toNat - ·)

def maxDigits : Nat := 4300

/-- Reads one or more digits. An underscore may stand between two of them. -/
def readDigits? : List Char → Option (List Nat)
  | [] => none
  | [c] => (digitValue? c).map ([·])
  | c :: '_' :: rest => do
    let digit ← digitValue? c
    let digits ← readDigits? rest
    return digit :: digits
  | c :: rest => do
    let digit ← digitValue? c
    let digits ← readDigits? rest
    return digit :: digits

/-- Reads a natural number of at most `maxDigits` digits. -/
def readNat? (text : List Char) : Option Nat := do
  let digits ← readDigits? text
  if digits.length ≤ maxDigits then
    return digits.foldl (fun value digit => 10 * value + digit) 0
  else none

def readInt? (text : List Char) : Option Int :=
  match trimWhile isSpace text with
  | '+' :: rest => (readNat? rest).map Int.ofNat
  | '-' :: rest => (readNat? rest).map fun n => -Int.ofNat n
  | rest => (readNat? rest).map Int.ofNat

end TagGrammar.Text
