import TextParsers.Expr.Value
import TextParsers.ParseError

/-!
# Functions named in parser expressions

The character classes, the functions on values and the changes of messages
that a parser expression may name where it is written down as data. Arithmetic
is that of 64-bit words, so it wraps around.
-/

namespace TextParsers

/-- A class of characters. -/
inductive CharClass where
  | any
  | none
  | digit
  | lower
  | upper
  /-- The characters that occur in a string. -/
  | among (chars : String)
  /-- The characters that do not occur in a string. -/
  | notAmong (chars : String)

/-- Whether a character belongs to the class. Digits and case are those of ASCII. -/
def CharClass.contains : CharClass → Char → Bool
  | any, _ => true
  | none, _ => false
  | digit, c => c.isDigit
  | lower, c => c.isLower
  | upper, c => c.isUpper
  | among chars, c => chars.toList.elem c
  | notAmong chars, c => !chars.toList.elem c

/-- A function on values. -/
inductive Transform where
  | identity
  | isEven
  | negate
  | first
  | second
  | swap
  /-- The number of elements of a list, or of bytes of a string. -/
  | size
  /-- The sum of the numbers in a list. -/
  | sum
  /-- The characters of any value. -/
  | plain
  | const (v : Value)
  | add (n : Int64)
  | mul (n : Int64)

/-- The number in a value, zero if it is none. -/
def Value.toInt64 : Value → Int64
  | .int n => n
  | _ => 0

/-- Applies the function. A value of a kind that the function is not for stays as it is. -/
def Transform.apply : Transform → Value → Value
  | isEven, .int n => .bool (n % 2 = 0)
  | negate, .int n => .int (-n)
  | first, .pair a _ => a
  | second, .pair _ b => b
  | swap, .pair a b => .pair b a
  | size, .list vs => .int (Int64.ofNat vs.length)
  | size, .text s => .int (Int64.ofNat s.utf8ByteSize)
  | sum, .list vs => .int (vs.foldl (fun total v => total + v.toInt64) 0)
  | plain, v => .text v.plain
  | const w, _ => w
  | add k, .int n => .int (n + k)
  | mul k, .int n => .int (n * k)
  | _, v => v

/-- A change of a message. -/
inductive Rewording where
  /-- Puts another message in its place. -/
  | replace (message : String)
  /-- Puts something before and after it. -/
  | wrap (before after : String)

/-- Changes a message. -/
def Rewording.apply : Rewording → String → String
  | replace message, _ => message
  | wrap before after, message => before ++ message ++ after

end TextParsers
