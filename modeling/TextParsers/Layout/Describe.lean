import TextParsers.Assignment.Basic
import TextParsers.Layout.Basic
import TextParsers.Outcome

/-!
# How the values of the library are shown

Strings and texts are quoted, numbers stand in decimal, and structures carry
the names of their fields.
-/

namespace TextParsers

/-- A type whose values can be shown. -/
class Describe (α : Type) where
  describe : α → Layout

export Describe (describe)

variable {α β : Type}

instance : Describe String := ⟨Layout.quoted⟩

instance : Describe Text := ⟨fun s => .quoted s.toString⟩

instance : Describe Int64 := ⟨fun n => .atom (Decimal.ofInt64 n)⟩

instance : Describe Nat := ⟨fun n => .atom (Decimal.ofNat n)⟩

instance : Describe Bool := ⟨fun b => .atom (if b then "true" else "false")⟩

instance [Describe α] : Describe (List α) := ⟨fun xs => .list (xs.map describe)⟩

instance [Describe α] [Describe β] : Describe (α × β) :=
  ⟨fun (a, b) => .tuple [describe a, describe b]⟩

instance : Describe Assignment where
  describe a :=
    .record "VariableAssignment" [("name", describe a.name), ("values", describe a.values)]

instance [Describe α] : Describe (Outcome α) where
  describe
    | .success v rest => .record "Success" [("value", describe v), ("remainder", describe rest)]
    | .failure e rest => .record "Failure" [("expected", describe e), ("remainder", describe rest)]

instance : Describe ParseError where
  describe
    | .mismatch e offset found =>
        .record "Mismatch"
          [("expected", describe e), ("offset", describe offset), ("found", describe found)]
    | .trailingInput offset found =>
        .record "TrailingInput" [("offset", describe offset), ("found", describe found)]

/-- A parser whose failures are relabelled is shown as the parser it relabels; of the relabelling
itself, which is a function, only that it is one. -/
def Layout.relabelled (parser : Layout) : Layout :=
  .record "MapExpected" [("parser", parser), ("mapper", .quoted "<function>")]

end TextParsers
