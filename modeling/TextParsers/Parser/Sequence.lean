import TextParsers.Parser.Basic

/-!
# One after another, or one instead of another

Parsers run in sequence each start where the one before stopped, and the first
failure is the failure of the whole, with its message and its position. They
differ in which values they keep. A choice tries its second parser on the text
that the first one was given, whatever the first had taken before it failed.
-/

namespace TextParsers.Parser

variable {α β γ : Type}

/-- Runs both and keeps both values. -/
def sequence (p : Parser α) (q : Parser β) : Parser (α × β) :=
  p.andThen fun a => q.map fun b => (a, b)

/-- Runs both and keeps the value of the second. -/
def skipLeft (p : Parser α) (q : Parser β) : Parser β :=
  p.andThen fun _ => q

/-- Runs both and keeps the value of the first. -/
def skipRight (p : Parser α) (q : Parser β) : Parser α :=
  p.andThen fun a => q.map fun _ => a

/-- Runs all three and keeps the value in the middle. -/
def between (opening : Parser α) (content : Parser β) (closing : Parser γ) : Parser β :=
  opening.andThen fun _ => content.andThen fun b => closing.map fun _ => b

/-- The first parser if it succeeds, else the second. When both fail, the expectations are joined
and the position is that of the second. -/
def oneOf (p q : Parser α) : Parser α :=
  ⟨fun s => do
    match ← p.apply s with
    | .success a rest => return .success a rest
    | .failure first _ =>
        return (← q.apply s).mapExpected fun second => first ++ ", " ++ second⟩

end TextParsers.Parser
