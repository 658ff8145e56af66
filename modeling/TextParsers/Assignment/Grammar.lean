import TextParsers.Assignment.Basic
import TextParsers.Parser.Primitive
import TextParsers.Parser.Repetition
import TextParsers.Parser.Sequence

/-!
# The language of assignments

The parsers of a small language, put together from the combinators alone: an
assignment `let name = [1, 2, 3]`, an array `[1, 2, 3]` on its own, and a pair
of names `key:value`. Some whitespace has to follow `let`; in an assignment
there may be any after the name, after the equals sign and after each comma,
and in an array on its own there has to be some after each comma.
-/

namespace TextParsers.Parser

/-- Any breaking whitespace, also none. -/
def spaces : Parser String := (many whitespace).map String.join

/-- Numbers between brackets, with a comma and what `gap` takes between each two. -/
def array {α : Type} (gap : Parser α) : Parser (List Int64) :=
  between (literal "[") (separatedBy integer ((literal ",").sequence gap)) (literal "]")

/-- A named list of numbers. -/
def assignment : Parser Assignment :=
  let keyword := (literal "let").sequence whitespace
  let name := letters.skipRight spaces
  let equals := (literal "=").skipRight spaces
  (((keyword.skipLeft name).skipRight equals).sequence (array spaces)).map
    fun (name, values) => ⟨name, values⟩

/-- A list of numbers. -/
def intArray : Parser (List Int64) := array whitespace

/-- Two runs of letters with a colon between them. -/
def keyValue : Parser (String × String) :=
  (letters.skipRight (literal ":")).sequence letters

end TextParsers.Parser

namespace TextParsers

/-- Reads a whole input as an assignment. -/
def Assignment.parse (input : Text) : Logged (Except ParseError Assignment) :=
  Parser.assignment.parseComplete input

end TextParsers
