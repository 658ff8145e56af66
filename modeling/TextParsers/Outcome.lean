import TextParsers.Log.Logged

/-!
# Outcomes

A parser applied to a text either takes a value off the front and leaves the
rest, or fails with an expectation and the text at which it was not met.
Failing is an ordinary outcome: it can be relabelled, replaced by another
attempt, or turned into an error once the input it belongs to is known.
-/

namespace TextParsers

/-- What a parser makes of a text. -/
inductive Outcome (α : Type) where
  /-- A value was taken off the front, `remainder` is left. -/
  | success (value : α) (remainder : Text)
  /-- The expectation was not met at `remainder`. -/
  | failure (expected : String) (remainder : Text)
  deriving DecidableEq

namespace Outcome

variable {α β : Type}

/-- The text that is left after a success, or at which a failure stands. -/
def remainder : Outcome α → Text
  | success _ rest => rest
  | failure _ rest => rest

/-- The value of a success. -/
def value? : Outcome α → Option α
  | success v _ => some v
  | failure _ _ => none

/-- The expectation of a failure. -/
def expected? : Outcome α → Option String
  | success _ _ => none
  | failure e _ => some e

/-- Whether a value was taken. -/
def isSuccess (o : Outcome α) : Bool := o.value?.isSome

/-- Whether the expectation was not met. -/
def isFailure (o : Outcome α) : Bool := !o.isSuccess

/-- Changes the value of a success. -/
def map (f : α → β) : Outcome α → Outcome β
  | success v rest => success (f v) rest
  | failure e rest => failure e rest

/-- Changes the expectation of a failure. -/
def mapExpected (f : String → String) : Outcome α → Outcome α
  | success v rest => success v rest
  | failure e rest => failure (f e) rest

theorem mapExpected_mapExpected (f g : String → String) (o : Outcome α) :
    (o.mapExpected f).mapExpected g = o.mapExpected fun e => g (f e) := by
  cases o with
  | success v rest => rfl
  | failure e rest => rfl

/-- Goes on from a success with its value and what is left; a failure stays as it is. -/
def andThen (o : Outcome α) (next : α → Text → Logged (Outcome β)) : Logged (Outcome β) :=
  match o with
  | success v rest => next v rest
  | failure e rest => pure (failure e rest)

/-- The value and what is left of `input`, or the error that the failure is in `input`. -/
def result (input : Text) : Outcome α → Except ParseError (α × Text)
  | success v rest => .ok (v, rest)
  | failure e rest => .error (.mismatch e (offsetOf input rest) (excerpt rest))

/-- The value if nothing is left of `input`. -/
def completeResult (input : Text) (o : Outcome α) : Except ParseError α := do
  let (v, rest) ← o.result input
  if rest.isEmpty then pure v
  else throw (.trailingInput (offsetOf input rest) (excerpt rest))

end Outcome

end TextParsers
