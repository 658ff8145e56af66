import TextParsers.Parser.Basic
import TextParsers.Text.Blank
import TextParsers.Text.Letter

/-!
# Primitive parsers

The parsers that look at characters themselves. Each fails on the very text it
was given, takes nothing when it fails, and makes no records.
-/

namespace TextParsers.Parser

/-- Takes the given string. -/
def literal (t : String) : Parser String :=
  ofOutcome fun s =>
    match s.afterLiteral? t.toList with
    | some rest => .success t rest
    | none => .failure ("Expected: \"" ++ t ++ "\" prefix") s

/-- Takes the longest run of characters that satisfy `q`, which must not be empty. -/
def charsWhile (q : Char → Bool) (expected : String) : Parser String :=
  ofOutcome fun s =>
    match s.takeWhile q with
    | [] => .failure expected s
    | c :: cs => .success (String.ofList (c :: cs)) (s.dropWhile q)

/-- The expectation of a run of characters that has no name of its own. -/
def expectedRun : String := "Expected: prefix matching predicate"

/-- Takes a run of letters. -/
def letters : Parser String := charsWhile Text.isLetter expectedRun

/-- Takes a run of ASCII digits. -/
def digits : Parser String := charsWhile Char.isDigit expectedRun

/-- Takes a run of breaking whitespace. -/
def whitespace : Parser String := charsWhile Text.isBlank "Expected: one or more whitespace"

/-- Whether a byte is an ASCII digit. -/
def isDigitByte (b : UInt8) : Bool := 0x30 ≤ b && b ≤ 0x39

/-- The largest number that `integer` takes. -/
def largestInteger : Nat := 9223372036854775807

/-- Takes an unsigned number. The digits are found by a scan of bytes, which cannot end inside a
character. -/
def integer : Parser Int64 :=
  ofOutcome fun s =>
    let count := s.leadingBytes isDigitByte
    if count = 0 then .failure "Expected: integer value" s
    else
      let number := Decimal.value (s.takeBytes count)
      if number ≤ largestInteger then .success (Int64.ofNat number) (s.dropBytes count)
      else .failure "Expected: integer value within i64 range" s

/-- Takes one character. -/
def anyChar : Parser String :=
  ofOutcome fun s =>
    match s.next? with
    | some (c, rest) => .success (String.singleton c) rest
    | none => .failure "Expected: any character" s

/-- Succeeds where nothing is left. -/
def endOfInput : Parser Unit :=
  ofOutcome fun s => if s.isEmpty then .success () s else .failure "Expected: end of input" s

end TextParsers.Parser
