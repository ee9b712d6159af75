import TagGrammar.Text.Scan

/-!
# JSON

A strict reader of JSON texts. What is assumed of the reader that checks definition files:

* Blanks around tokens are space, tab and line ends only, and nothing follows the value.
* Strings hold no raw control characters and no lone surrogates.
* Arrays and objects nest only so deep, empty ones apart.
* `NaN` and the infinities count as numbers, and numbers have only so many digits. The value of a number
  is of no interest here and is not kept.
* Of two members of an object with one name the last one counts.
-/

namespace TagGrammar

open Text

/-- A JSON value. The members of an object stand in the order they were written. -/
inductive JsonValue where
  | null
  | boolean (value : Bool)
  | number
  | string (text : String)
  | array (items : List JsonValue)
  | object (members : List (String × JsonValue))

namespace JsonValue

/-- The last member with a name. -/
def member? (members : List (String × JsonValue)) (name : String) : Option JsonValue :=
  members.reverse.lookup name

/-! ## Tokens -/

def skipBlanks (text : List Char) : List Char :=
  text.dropWhile fun c => c == ' ' || c == '\t' || c == '\n' || c == '\r'

def hexValue? (c : Char) : Option Nat :=
  if '0' ≤ c && c ≤ '9' then some (c.toNat - '0'.toNat)
  else if 'a' ≤ c && c ≤ 'f' then some (c.toNat - 'a'.toNat + 10)
  else if 'A' ≤ c && c ≤ 'F' then some (c.toNat - 'A'.toNat + 10)
  else none

def hexValue4? (a b c d : Char) : Option Nat := do
  return ((← hexValue? a) * 16 + (← hexValue? b)) * 256 + ((← hexValue? c) * 16 + (← hexValue? d))

/-- The character that an escape of one letter stands for. -/
def escaped? : Char → Option Char
  | '"' => some '"'
  | '\\' => some '\\'
  | '/' => some '/'
  | 'b' => some '\x08'
  | 'f' => some '\x0c'
  | 'n' => some '\n'
  | 'r' => some '\r'
  | 't' => some '\t'
  | _ => none

/-- Puts a character in front of what has been read. -/
def readBefore (c : Char) (read : Option (List Char × List Char)) :
    Option (List Char × List Char) :=
  read.map fun (text, rest) => (c :: text, rest)

/-- Reads a string after its opening quote. A character outside the basic plane is escaped by a
pair of surrogates. -/
def readString? : List Char → Option (List Char × List Char)
  | '"' :: rest => some ([], rest)
  | '\\' :: 'u' :: a :: b :: c :: d :: '\\' :: 'u' :: e :: f :: g :: h :: rest =>
    match hexValue4? a b c d, hexValue4? e f g h with
    | some high, some low =>
      if 0xD800 ≤ high && high < 0xDC00 then
        if 0xDC00 ≤ low && low < 0xE000 then
          readBefore (Char.ofNat (0x10000 + (high - 0xD800) * 0x400 + (low - 0xDC00)))
            (readString? rest)
        else none
      else if 0xDC00 ≤ high && high < 0xE000 then none
      else
        readBefore (Char.ofNat high) (readString? ('\\' :: 'u' :: e :: f :: g :: h :: rest))
    | _, _ => none
  | '\\' :: 'u' :: a :: b :: c :: d :: rest =>
    match hexValue4? a b c d with
    | some n => if 0xD800 ≤ n && n < 0xE000 then none else readBefore (Char.ofNat n) (readString? rest)
    | none => none
  | '\\' :: c :: rest =>
    match escaped? c with
    | some meant => readBefore meant (readString? rest)
    | none => none
  | c :: rest => if c.toNat < 0x20 || c == '\\' then none else readBefore c (readString? rest)
  | [] => none

def afterDigits? (text : List Char) : Option (List Char) :=
  match text with
  | c :: rest => if c.isDigit then some (rest.dropWhile Char.isDigit) else none
  | [] => none

/-- Passes over the fraction of a number, if it has one. -/
def afterFraction? (text : List Char) : Option (List Char) :=
  match text with
  | '.' :: rest => afterDigits? rest
  | _ => some text

/-- Passes over the exponent of a number, if it has one. -/
def afterExponent? (text : List Char) : Option (List Char) :=
  match text with
  | c :: rest =>
    if c == 'e' || c == 'E' then
      match rest with
      | '+' :: digits | '-' :: digits => afterDigits? digits
      | _ => afterDigits? rest
    else some text
  | [] => some text

/-- The most digits a number may have before its fraction. -/
def maxDigits : Nat := 4300

/-- Passes over the digits of a number before its fraction. Several digits do not start with
zero. -/
def afterWhole? (text : List Char) : Option (List Char) :=
  match text with
  | '0' :: c :: rest => if c.isDigit then none else some (c :: rest)
  | _ => if (text.takeWhile Char.isDigit).length ≤ maxDigits then afterDigits? text else none

def afterMagnitude? (text : List Char) : Option (List Char) := do
  afterExponent? (← afterFraction? (← afterWhole? text))

def afterNumber? (text : List Char) : Option (List Char) :=
  match text with
  | '-' :: rest => afterStart? "Infinity".toList rest <|> afterMagnitude? rest
  | _ => afterStart? "Infinity".toList text <|> afterStart? "NaN".toList text <|> afterMagnitude? text

/-! ## Values -/

/-- The deepest nesting of arrays and objects that are not empty. -/
def maxDepth : Nat := 200

mutual

/-- Reads a value, with room for a number of nested arrays and objects that are not empty. The fuel
bounds the number of steps. -/
def readValue? (fuel room : Nat) (text : List Char) : Option (JsonValue × List Char) :=
  match fuel with
  | 0 => none
  | fuel + 1 =>
    match skipBlanks text with
    | '"' :: rest => (readString? rest).map fun (s, rest) => (.string (String.ofList s), rest)
    | '[' :: rest =>
      match skipBlanks rest, room with
      | ']' :: rest, _ => some (.array [], rest)
      | _, 0 => none
      | _, room + 1 => (readItems? fuel room rest).map fun (items, rest) => (.array items, rest)
    | '\x7b' :: rest =>
      match skipBlanks rest, room with
      | '\x7d' :: rest, _ => some (.object [], rest)
      | _, 0 => none
      | _, room + 1 =>
        (readMembers? fuel room rest).map fun (members, rest) => (.object members, rest)
    | text =>
      (afterStart? "null".toList text).map (JsonValue.null, ·) <|>
        (afterStart? "true".toList text).map (JsonValue.boolean true, ·) <|>
        (afterStart? "false".toList text).map (JsonValue.boolean false, ·) <|>
        (afterNumber? text).map (JsonValue.number, ·)

/-- Reads the items of an array up to its closing bracket. -/
def readItems? (fuel room : Nat) (text : List Char) : Option (List JsonValue × List Char) :=
  match fuel with
  | 0 => none
  | fuel + 1 =>
    match readValue? fuel room text with
    | none => none
    | some (value, rest) =>
      match skipBlanks rest with
      | ']' :: rest => some ([value], rest)
      | ',' :: rest =>
        (readItems? fuel room rest).map fun (items, rest) => (value :: items, rest)
      | _ => none

/-- Reads the members of an object up to its closing brace. -/
def readMembers? (fuel room : Nat) (text : List Char) :
    Option (List (String × JsonValue) × List Char) :=
  match fuel with
  | 0 => none
  | fuel + 1 =>
    match skipBlanks text with
    | '"' :: rest =>
      match readString? rest with
      | none => none
      | some (name, rest) =>
        match skipBlanks rest with
        | ':' :: rest =>
          match readValue? fuel room rest with
          | none => none
          | some (value, rest) =>
            let read := (String.ofList name, value)
            match skipBlanks rest with
            | '\x7d' :: rest => some ([read], rest)
            | ',' :: rest =>
              (readMembers? fuel room rest).map fun (members, rest) => (read :: members, rest)
            | _ => none
        | _ => none
    | _ => none

end

/-- Reads a JSON text. Each step passes over a character, so its length bounds their number. -/
def parse? (text : String) : Option JsonValue :=
  let chars := text.toList
  match readValue? (2 * chars.length + 1) maxDepth chars with
  | some (value, rest) => if (skipBlanks rest).isEmpty then some value else none
  | none => none

end JsonValue

end TagGrammar
