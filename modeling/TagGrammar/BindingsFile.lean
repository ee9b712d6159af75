import TagGrammar.Table
import TagGrammar.Text.Scan

/-!
# Bindings files

A bindings file is a list of statements `tag=type`. A tag may stand in single quotes and a type in
single or double quotes, in which backslashes escape characters; `#` starts a comment, and the word
`export` before a tag is ignored. A statement that cannot be read is passed over up to the end of
its line, with a warning that names the line it started in.

The reader is a package of its own (dotenv). What is assumed of it:

* A byte order mark at the start is dropped, and line breaks are `\n`, `\r` and `\r\n`.
* In quotes, a backslash always takes the next character along, so that a quote after it does not
  close; only the listed escapes are replaced.
* A type without quotes ends with its line or before a `#` that follows a blank, and nothing in a type
  stands for a variable.
* Of two statements for a tag the later one counts, in the place of the earlier one.
-/

namespace TagGrammar.BindingsFile

open Text

/-! ## Reading -/

/-- A step of reading. Its state is the text still to be read; a failure keeps the point it was
found at. -/
abbrev ReadM := EStateM Unit (List Char)

/-- A blank that does not end a line. -/
def isInlineBlank (c : Char) : Bool :=
  isBlank c && c != '\r' && c != '\n'

def isInline (c : Char) : Bool :=
  c != '\r' && c != '\n'

def skipWhile (p : Char → Bool) : ReadM Unit :=
  modify (List.dropWhile p)

/-- Passes over the word `export` if a blank follows it on the line. -/
def skipExport : ReadM Unit :=
  modify fun text =>
    match afterStart? "export".toList text with
    | some (c :: rest) => if isInlineBlank c then rest.dropWhile isInlineBlank else text
    | _ => text

/-- Passes over a comment, if one follows on the line. -/
def skipComment : ReadM Unit :=
  modify fun text =>
    match text.dropWhile isInlineBlank with
    | '#' :: rest => rest.dropWhile isInline
    | _ => text

/-- Requires the end of the line or of the text. -/
def endLine : ReadM Unit := do
  match (← get).dropWhile isInlineBlank with
  | [] => set ([] : List Char)
  | '\r' :: '\n' :: rest => set rest
  | '\n' :: rest => set rest
  | '\r' :: rest => set rest
  | _ => throw ()

/-- Passes over the rest of the line and its end. -/
def skipLine (text : List Char) : List Char :=
  (text.dropWhile isInline).drop 1

/-! ### Tags -/

def isKeyChar (c : Char) : Bool :=
  !isBlank c && c != '=' && c != '#'

/-- Reads the tag of a statement. A comment has none. -/
def readKey : ReadM (Option String) := do
  match ← get with
  | '#' :: _ => return none
  | '\'' :: rest =>
    match takeSome? (· != '\'') rest with
    | some (key, _ :: rest) =>
      set rest
      return some (String.ofList key)
    | _ => throw ()
  | text =>
    match takeSome? isKeyChar text with
    | some (key, rest) =>
      set rest
      return some (String.ofList key)
    | none => throw ()

/-! ### Types -/

/-- The characters up to the closing quote, escapes as they stand, and what follows the quote. -/
def takeQuoted? (mark : Char) : List Char → Option (List Char × List Char)
  | [] => none
  | '\\' :: c :: rest => (takeQuoted? mark rest).map fun (taken, rest) => ('\\' :: c :: taken, rest)
  | c :: rest =>
    if c = mark then some ([], rest)
    else if c = '\\' then none
    else (takeQuoted? mark rest).map fun (taken, rest) => (c :: taken, rest)

def singleQuotedEscapes : List (Char × Char) :=
  [('\\', '\\'), ('\'', '\'')]

def doubleQuotedEscapes : List (Char × Char) :=
  [('\\', '\\'), ('\'', '\''), ('"', '"'), ('a', '\x07'), ('b', '\x08'), ('f', '\x0c'),
    ('n', '\n'), ('r', '\r'), ('t', '\t'), ('v', '\x0b')]

/-- Replaces the known escapes and keeps the others. -/
def unescape (escapes : List (Char × Char)) : List Char → List Char
  | '\\' :: c :: rest =>
    match escapes.lookup c with
    | some meant => meant :: unescape escapes rest
    | none => '\\' :: unescape escapes (c :: rest)
  | c :: rest => c :: unescape escapes rest
  | [] => []

/-- Cuts off a comment, which starts with a `#` after blanks, and the blanks before it. -/
def cutComment : List Char → List Char
  | [] => []
  | c :: rest =>
    if isBlank c && (rest.dropWhile isBlank).head? == some '#' then []
    else c :: cutComment rest

def readQuoted (mark : Char) (escapes : List (Char × Char)) (text : List Char) :
    ReadM String := do
  match takeQuoted? mark text with
  | some (taken, rest) =>
    set rest
    return String.ofList (unescape escapes taken)
  | none => throw ()

/-- Reads the type of a statement after the `=` and the blanks that follow it. -/
def readType (afterBlank : Bool) : ReadM String := do
  match ← get with
  | [] => return ""
  | c :: rest =>
    if afterBlank && c = '#' then return ""
    else if c = '\'' then readQuoted c singleQuotedEscapes rest
    else if c = '"' then readQuoted c doubleQuotedEscapes rest
    else
      let text := c :: rest
      set (text.dropWhile isInline)
      return String.ofList (dropEndWhile isBlank (cutComment (text.takeWhile isInline)))

/-- Reads what follows a tag: its type, if there is a `=`. -/
def readAssigned : ReadM (Option String) := do
  match ← get with
  | '=' :: rest =>
    set (rest.dropWhile isInlineBlank)
    return some (← readType ((rest.head?.map isInlineBlank).getD false))
  | _ => return none

/-! ### Statements -/

/-- Reads a statement: a tag and its type, if it has one. -/
def readStatement : ReadM (Option (String × Option String)) := do
  skipWhile isBlank
  if (← get).isEmpty then return none
  else
    skipExport
    let key ← readKey
    skipWhile isInlineBlank
    let type ← readAssigned
    skipComment
    endLine
    return key.map (·, type)

/-- The statements of a text that starts in a given line. A statement that cannot be read gives
the number of the line it starts in. -/
def readStatements (line : Nat) (text : List Char) :
    List (Except Nat (String × Option String)) :=
  if text.isEmpty then []
  else
    let (found, rest) : List (Except Nat (String × Option String)) × List Char :=
      match readStatement.run text with
      | .ok statement rest => ((statement.map Except.ok).toList, rest)
      | .error _ rest => ([.error line], skipLine rest)
    if rest.length < text.length then
      let passed := text.take (text.length - rest.length)
      found ++ readStatements (line + passed.count '\n') rest
    else found
termination_by text.length

/-! ## Contents -/

/-- What a bindings file holds: the types of the tags, where they have one, and the lines of the
statements that could not be read. -/
structure Contents where
  types : Table (Option String)
  unreadable : List Nat

/-- Drops a byte order mark from the front of a text. -/
def dropMark : List Char → List Char
  | '\uFEFF' :: rest => rest
  | text => text

def parse (text : String) : Contents :=
  let statements := readStatements 1 (dropMark text.toList)
  ⟨Table.ofList (statements.filterMap Except.toOption),
    statements.filterMap fun
      | .error line => some line
      | .ok _ => none⟩

/-- The first tag in a list that has no type, or the tags and their types without blanks around
them. -/
def complete (bindings : Table String) : List (String × Option String) → Except String (Table String)
  | [] => .ok bindings
  | (tag, type) :: rest =>
    let type := trimString (type.getD "")
    if type = "" then .error tag else complete (bindings.insert tag type) rest

/-- The bindings of a file, or the first tag that has no type. -/
def Contents.bindings (contents : Contents) : Except String (Table String) :=
  complete .empty contents.types.entries

end TagGrammar.BindingsFile
