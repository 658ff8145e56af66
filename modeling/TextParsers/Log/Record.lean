import TextParsers.ParseError
import TextParsers.Text.Column

/-!
# Log records

What parsing reports besides its result: a repetition that stops because its
last match consumed nothing, an input that was rejected as a whole, and an
assignment that the command line has read.
-/

namespace TextParsers

/-- How important a record is. -/
inductive Level where
  | error
  | warn
  | info
  | debug
  | trace
  deriving DecidableEq

namespace Level

/-- From the most severe level to the most detailed one. -/
def all : List Level := [error, warn, info, debug, trace]

/-- The place of a level in `all`. -/
def detail : Level → Nat
  | error => 0
  | warn => 1
  | info => 2
  | debug => 3
  | trace => 4

/-- The name of a level. -/
def name : Level → String
  | error => "ERROR"
  | warn => "WARN"
  | info => "INFO"
  | debug => "DEBUG"
  | trace => "TRACE"

end Level

/-- The two parsers that repeat. -/
inductive Repetition where
  | many
  | separatedBy
  deriving DecidableEq

/-- The name of a repetition. -/
def Repetition.name : Repetition → String
  | many => "many"
  | separatedBy => "separated_by"

/-- Something that happened while parsing. -/
inductive Record where
  /-- A repetition stopped on a match that consumed nothing, with so many bytes left. -/
  | zeroWidth (repetition : Repetition) (bytesLeft : Nat)
  /-- An input of so many bytes was rejected. -/
  | rejected (size : Nat) (error : ParseError)
  /-- An assignment of so many values was read. -/
  | parsed (name : String) (values : Nat)
  deriving DecidableEq

namespace Record

/-- How important the record is. -/
def level : Record → Level
  | zeroWidth _ _ => .trace
  | rejected _ _ => .debug
  | parsed _ _ => .info

/-- The part of the program that a record comes from. -/
def target : Record → String
  | zeroWidth repetition _ => "strcomb::" ++ repetition.name
  | rejected _ _ => "strcomb::parser"
  | parsed _ _ => "strcomb"

/-- The record in words. -/
def message : Record → String
  | zeroWidth repetition bytesLeft =>
      repetition.name ++ ": stopping on zero-width match at " ++ Decimal.ofNat bytesLeft ++
        " bytes left"
  | rejected size error =>
      "rejected " ++ Decimal.ofNat size ++ " byte input: " ++ error.message
  | parsed name values =>
      "parsed " ++ name ++ " with " ++ Decimal.ofNat values ++ " values"

/-- The record on one line. -/
def line (r : Record) : String :=
  r.level.name ++ " " ++ r.target ++ " " ++ r.message

/-- The record as a console shows it, the level in a column of five characters. -/
def consoleLine (r : Record) : String :=
  "[" ++ Text.inColumn 5 r.level.name ++ " " ++ r.target ++ "] " ++ r.message

end Record

end TextParsers
