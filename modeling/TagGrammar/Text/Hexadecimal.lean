/-!
# Hexadecimal numbers
-/

namespace TagGrammar.Text

/-- A number in lower-case hexadecimal digits, filled up with zeros to the given width. -/
def hexPadded (width n : Nat) : List Char :=
  let digits := Nat.toDigits 16 n
  List.replicate (width - digits.length) '0' ++ digits

end TagGrammar.Text
