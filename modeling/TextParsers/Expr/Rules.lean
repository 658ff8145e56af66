import TextParsers.Expr.Basic

/-!
# Named rules

A list of rules gives names to parser expressions, which may refer to each
other and to themselves. A name stands for the first rule of that name, and a
name without a rule for a parser that fails.

Looking up names within names is bounded by a depth. Between two look-ups of
one name inside one another some of the text has to be taken, or else the
rules would call each other forever. So each rule is looked up at most once
for each byte of the text and once at its end, and rules that come to an end
at all never reach the bound.
-/

namespace TextParsers

/-- Parser expressions with names. -/
abbrev Rules := List (String × Expr)

namespace Rules

/-- What a name stands for, with so many look-ups inside one another. -/
def named (rules : Rules) : Nat → String → Parser Value
  | 0, name => Parser.fail ("endless recursion in parser " ++ name)
  | depth + 1, name =>
      match rules.lookup name with
      | some e => e.parser (rules.named depth)
      | none => Parser.fail ("undefined parser " ++ name)

/-- The depth of look-ups that a text of so many bytes can need. -/
def depthFor (rules : Rules) (size : Nat) : Nat := (size + 1) * rules.length + 1

/-- The parser that an expression stands for under the rules. -/
def parser (rules : Rules) (e : Expr) : Parser Value :=
  ⟨fun s => (e.parser (rules.named (rules.depthFor s.size))).apply s⟩

end Rules

end TextParsers
