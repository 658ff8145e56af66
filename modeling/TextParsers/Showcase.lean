import TextParsers.Assignment.Grammar
import TextParsers.Layout.Describe

/-!
# The showcase

Every primitive and every combinator on sample inputs, in numbered sections
with a line per sample: the input in quotation marks and the outcome beside
it.
-/

namespace TextParsers.Showcase

open TextParsers.Parser

/-- A minus sign and a number. -/
def signed : Parser (String × Int64) := (literal "-").sequence integer

/-- Whether a number is even. -/
def even : Parser Bool := integer.map fun n => n % 2 = 0

/-- Numbers with a separator between each two. -/
def numbers (separator : String) : Parser (List Int64) := separatedBy integer (literal separator)

/-- A name and a number with an equals sign between them. -/
def setting : Parser (String × Int64) :=
  ((letters.sequence (literal "=")).sequence integer).map fun ((name, _), n) => (name, n)

/-- A line for each sample. -/
def sampleLines {α : Type} [Describe α] (p : Parser α) (samples : List String) : List String :=
  samples.map fun sample =>
    "  " ++ Text.inColumn 24 (Text.quote sample) ++ " " ++
      (describe (p.apply (Text.ofString sample)).value).inline

/-- The titles of the sections with their lines. -/
def sections : List (String × List String) :=
  [("Literal", sampleLines (literal "*  ") ["*  jan", "jan"]),
   ("Integer", sampleLines integer ["1234jan", "jan"]),
   ("Whitespace", sampleLines whitespace ["   jan", "jan"]),
   ("Sequence", sampleLines signed ["-123jan", "123jan"]),
   ("One of", sampleLines ((literal "a").oneOf (literal "b")) ["ab", "bc", "cd"]),
   ("Map", sampleLines even ["11", "12"]),
   ("Skip left", sampleLines (integer.skipLeft (literal "a")) ["1a"]),
   ("Skip right", sampleLines ((literal "a").skipRight integer) ["a1"]),
   ("Many", sampleLines (literal "a").many ["aaa", "aaab"]),
   ("Separated by", sampleLines (numbers ",") ["1,2,3", "1,2", "a"]),
   ("Variable assignment", sampleLines assignment ["let  ab = [1, 2, 3,  4]"]),
   ("Integer array", sampleLines intArray ["[1, 2, 3]"]),
   ("Key-value", sampleLines keyValue ["firstName:Jan"]),
   ("Method syntax", sampleLines setting ["width=80"])]

/-- The whole showcase, with an empty line at its end. -/
def lines : List String :=
  (sections.zipIdx 1).flatMap (fun ((title, samples), number) =>
    (Decimal.ofNat number ++ ". " ++ title) :: samples) ++ [""]

end TextParsers.Showcase
