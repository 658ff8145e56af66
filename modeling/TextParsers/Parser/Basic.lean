import TextParsers.Outcome

/-!
# Parsers

A parser is a function from texts to logged outcomes. It may be any such
function; the parsers of this library obey a law besides, the suffix law
(`LeavesSuffix`), on which the meaning of positions and the end of every
repetition depend.
-/

namespace TextParsers

/-- Takes a value off the front of a text, or fails. -/
structure Parser (α : Type) where
  /-- Runs the parser on a text. -/
  apply : Text → Logged (Outcome α)

namespace Parser

variable {α β : Type}

theorem eq_of_apply_eq {p q : Parser α} (h : ∀ s, p.apply s = q.apply s) : p = q := by
  cases p
  cases q
  exact congrArg Parser.mk (funext h)

/-- What remains is always a suffix of the text that the parser was given, after a failure too. -/
def LeavesSuffix (p : Parser α) : Prop :=
  ∀ s : Text, (p.apply s).value.remainder.chars <:+ s.chars

/-- The parser that makes no records. -/
def ofOutcome (f : Text → Outcome α) : Parser α := ⟨fun s => pure (f s)⟩

@[simp] theorem apply_ofOutcome (f : Text → Outcome α) (s : Text) :
    (ofOutcome f).apply s = ⟨f s, []⟩ := rfl

/-- Succeeds with a value and takes nothing. -/
def succeed (v : α) : Parser α := ofOutcome fun s => .success v s

/-- Fails where it stands. -/
def fail (expected : String) : Parser α := ofOutcome fun s => .failure expected s

/-- Changes the value. -/
def map (f : α → β) (p : Parser α) : Parser β := ⟨fun s => do return (← p.apply s).map f⟩

/-- Changes the expectation of failures. -/
def mapExpected (f : String → String) (p : Parser α) : Parser α :=
  ⟨fun s => do return (← p.apply s).mapExpected f⟩

/-- Goes on with the parser that `next` makes of the value. -/
def andThen (p : Parser α) (next : α → Parser β) : Parser β :=
  ⟨fun s => do (← p.apply s).andThen fun v rest => (next v).apply rest⟩

/-- Parses a whole input. What is rejected is also noted in the log, after the records of the
parser itself. -/
def parseComplete (p : Parser α) (input : Text) : Logged (Except ParseError α) := do
  match (← p.apply input).completeResult input with
  | .ok v => return .ok v
  | .error e =>
      Logged.note (.rejected input.size e)
      return .error e

/-- Applies parsers one after another. After a success the next one gets what is left, after a
failure it gets the same text again. -/
def applyInTurn : List (Parser α) → Text → Logged (List (Outcome α))
  | [], _ => pure []
  | p :: ps, s => do
      let o ← p.apply s
      let following := if o.isSuccess then o.remainder else s
      return o :: (← applyInTurn ps following)

end Parser

end TextParsers
