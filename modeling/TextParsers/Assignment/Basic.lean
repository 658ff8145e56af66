import TextParsers.Decimal

/-!
# Assignments

An assignment gives a list of numbers a name. It is written on one line as
`let name = [1, 2, 3]`.
-/

namespace TextParsers

/-- A name for a list of numbers. -/
structure Assignment where
  name : String
  values : List Int64
  deriving DecidableEq

/-- The assignment as it is written. -/
def Assignment.render (a : Assignment) : String :=
  "let " ++ a.name ++ " = [" ++ ", ".intercalate (a.values.map Decimal.ofInt64) ++ "]"

end TextParsers
