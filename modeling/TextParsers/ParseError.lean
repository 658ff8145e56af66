import TextParsers.Decimal
import TextParsers.Text.Quoted

/-!
# Parse errors

An error says what a parser rejected and where: an input that does not match,
with the expectation that failed, or an input that goes on after a match. The
position is a number of bytes from the start of the input, and what stands
there is shown as a quoted excerpt.
-/

namespace TextParsers

/-- The number of characters that an excerpt shows at most. -/
def excerptLength : Nat := 16

/-- What stands at the front of a text: its first characters in quotation marks, with three dots
if it goes on after them. -/
def excerpt (s : Text) : String :=
  if s.isEmpty then "end of input"
  else
    let shown := String.ofList (Text.quoteChars (s.chars.take excerptLength))
    if (s.chars.drop excerptLength).isEmpty then shown else shown ++ "..."

/-- Why an input was rejected. -/
inductive ParseError where
  /-- The input does not match. -/
  | mismatch (expected : String) (offset : Nat) (found : String)
  /-- The input matches and goes on. -/
  | trailingInput (offset : Nat) (found : String)
  deriving DecidableEq

namespace ParseError

/-- The position of the error in bytes from the start of the input. -/
def offset : ParseError → Nat
  | mismatch _ offset _ => offset
  | trailingInput offset _ => offset

/-- The excerpt of what stands at the position. -/
def found : ParseError → String
  | mismatch _ _ found => found
  | trailingInput _ found => found

/-- What should have stood at the position. -/
def expected : ParseError → String
  | mismatch expected _ _ => expected
  | trailingInput _ _ => "Expected: end of input"

/-- The error in words. -/
def message (e : ParseError) : String :=
  e.expected ++ " at byte offset " ++ Decimal.ofNat e.offset ++ ", found " ++ e.found

end ParseError

/-- The position of a remainder within an input, in bytes. -/
def offsetOf (input remainder : Text) : Nat := input.size - remainder.size

end TextParsers
