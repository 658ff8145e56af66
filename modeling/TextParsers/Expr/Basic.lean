import TextParsers.Assignment.Grammar
import TextParsers.Expr.Value

/-!
# Parser expressions

A parser expression is a parser as data: the primitives at its leaves, the
combinators at its inner nodes. It stands for a parser of values once it is
known what the names in it stand for (`Expr.parser`). That parser is put
together from the combinators themselves, so a law that every combinator keeps
is, by induction on the expression, a law of every expression.

A name is looked up when the parser is applied, not when it is built, so a
parser may be named inside its own definition.
-/

namespace TextParsers

/-- A parser as data. -/
inductive Expr where
  | literal (t : String)
  | integer
  | whitespace
  | letters
  | digits
  | charsWhile (q : Char → Bool) (expected : String)
  | spaces
  | assignment
  | intArray
  | keyValue
  | anyChar
  | endOfInput
  | succeed (v : Value)
  | fail (expected : String)
  /-- The parser with a name. -/
  | ref (name : String)
  | sequence (first second : Expr)
  | oneOf (first second : Expr)
  | skipLeft (first second : Expr)
  | skipRight (first second : Expr)
  | many (item : Expr)
  | separatedBy (item separator : Expr)
  | between (opening content closing : Expr)
  | map (f : Value → Value) (of : Expr)
  | mapExpected (f : String → String) (of : Expr)

namespace Expr

/-- The parser that an expression stands for, `named` being the parsers that names stand for. -/
def parser (named : String → Parser Value) : Expr → Parser Value
  | literal t => (Parser.literal t).map .text
  | integer => Parser.integer.map .int
  | whitespace => Parser.whitespace.map .text
  | letters => Parser.letters.map .text
  | digits => Parser.digits.map .text
  | charsWhile q expected => (Parser.charsWhile q expected).map .text
  | spaces => Parser.spaces.map .text
  | assignment => Parser.assignment.map .assignment
  | intArray => Parser.intArray.map fun ns => .list (ns.map .int)
  | keyValue => Parser.keyValue.map fun (k, v) => .pair (.text k) (.text v)
  | anyChar => Parser.anyChar.map .text
  | endOfInput => Parser.endOfInput.map fun _ => .nothing
  | succeed v => Parser.succeed v
  | fail expected => Parser.fail expected
  | ref name => ⟨fun s => (named name).apply s⟩
  | sequence first second =>
      ((first.parser named).sequence (second.parser named)).map fun (a, b) => .pair a b
  | oneOf first second => (first.parser named).oneOf (second.parser named)
  | skipLeft first second => (first.parser named).skipLeft (second.parser named)
  | skipRight first second => (first.parser named).skipRight (second.parser named)
  | many item => (item.parser named).many.map .list
  | separatedBy item separator =>
      ((item.parser named).separatedBy (separator.parser named)).map .list
  | between opening content closing =>
      (opening.parser named).between (content.parser named) (closing.parser named)
  | map f of => (of.parser named).map f
  | mapExpected f of => (of.parser named).mapExpected f

end Expr

end TextParsers
