import TagGrammar.Text.Hexadecimal
import TagGrammar.Text.PrintableTable
import TagGrammar.Text.Span

/-!
# Quoted text

A quoted text stands between single quotes, or between double quotes if it holds a single quote
and no double quote. Inside, the quote in use, the backslash and every character without a
printed form are written as escapes.
-/

namespace TagGrammar.Text

def isPrintable (c : Char) : Bool :=
  !inSpans unprintableSpans c

def escapeCode (c : Char) : List Char :=
  let n := c.toNat
  if n < 0x100 then '\\' :: 'x' :: hexPadded 2 n
  else if n < 0x10000 then '\\' :: 'u' :: hexPadded 4 n
  else '\\' :: 'U' :: hexPadded 8 n

/-- A character as it is written between the given quotes. -/
def escapeChar (mark c : Char) : List Char :=
  if c = mark || c = '\\' then ['\\', c]
  else if c = '\n' then ['\\', 'n']
  else if c = '\r' then ['\\', 'r']
  else if c = '\t' then ['\\', 't']
  else if isPrintable c then [c]
  else escapeCode c

def quoteMark (text : List Char) : Char :=
  if text.contains '\'' && !text.contains '"' then '"' else '\''

def quote (s : String) : String :=
  let mark := quoteMark s.toList
  String.ofList (mark :: s.toList.flatMap (escapeChar mark) ++ [mark])

end TagGrammar.Text
