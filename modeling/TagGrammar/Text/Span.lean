/-!
# Intervals of code points

A character class is given as data by the closed intervals of code points it consists of.
-/

namespace TagGrammar.Text

/-- Whether a character lies in one of the given closed intervals of code points. -/
def inSpans (spans : List (Nat × Nat)) (c : Char) : Bool :=
  spans.any fun span => span.1 ≤ c.toNat && c.toNat ≤ span.2

end TagGrammar.Text
