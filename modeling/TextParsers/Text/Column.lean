/-!
# Columns

Strings filled up with spaces, so that what follows them is aligned from line
to line.
-/

namespace TextParsers.Text

/-- The string followed by as many spaces as make it `width` characters wide. A wider string is
left as it is. -/
def inColumn (width : Nat) (s : String) : String :=
  String.ofList (s.toList.rightpad width ' ')

end TextParsers.Text
