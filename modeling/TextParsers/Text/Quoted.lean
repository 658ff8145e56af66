import TextParsers.Text.Basic
import TextParsers.Text.Unprintable

/-!
# Quoted text

Text inside quotation marks, on one line and free of characters that do not
show. The quotation mark and the backslash are preceded by a backslash, the
null character and the three usual line and tab controls have a letter, and
every other unprintable character is written by its code point in hexadecimal
between braces. All other characters stand for themselves, the apostrophe too.
-/

namespace TextParsers.Text

/-- What is written within quotation marks for a character. -/
def escapeChar (c : Char) : List Char :=
  if c = '\x00' then ['\\', '0']
  else if c = '\t' then ['\\', 't']
  else if c = '\r' then ['\\', 'r']
  else if c = '\n' then ['\\', 'n']
  else if c = '\\' then ['\\', '\\']
  else if c = '\x22' then ['\\', '\x22']
  else if isUnprintable c then
    ['\\', 'u', '\x7b'] ++ Nat.toDigits 16 c.toNat ++ ['\x7d']
  else [c]

/-- The characters between quotation marks. -/
def quoteChars (cs : List Char) : List Char :=
  '\x22' :: cs.flatMap escapeChar ++ ['\x22']

/-- The string between quotation marks. -/
def quote (s : String) : String := String.ofList (quoteChars s.toList)

end TextParsers.Text
