import TextParsers.Parser.Basic

/-!
# Repetition

`many` runs a parser as often as it succeeds, and `separatedBy` a parser with
another one between each two of its matches. Both are one loop over rounds
(`repeatRounds`), which differ in what a round does: a round of `many` that
fails ends the repetition, a round of `separatedBy` ends it if the separator
fails and breaks it, as a failure of the whole, if the item after a separator
does.

A round that matches without taking anything would match again forever. Its
value is kept, the fact is noted in the log, and the repetition stops. Any
other round leaves a shorter text, so as many rounds as the text has bytes,
and one more, always reach an end of the loop's own.
-/

namespace TextParsers.Parser

variable {α β : Type}

/-- What a single round of a repetition comes to. -/
inductive Round (α : Type) where
  /-- One more value. -/
  | matched (value : α) (rest : Text)
  /-- No further match. -/
  | ended
  /-- A match was begun and could not be finished. -/
  | broken (expected : String) (rest : Text)

/-- How a repetition comes to its end. -/
inductive Exit where
  /-- There was no further match. -/
  | noMatch
  /-- The last match took nothing. -/
  | zeroWidth
  /-- A match was begun and could not be finished. -/
  | broken (expected : String) (rest : Text)
  /-- The rounds ran out before any other end. -/
  | outOfRounds

/-- What a repetition has done when it ends. -/
structure Run (α : Type) where
  values : Array α
  records : Array Record
  /-- What is left after the last match that took something. -/
  rest : Text
  exit : Exit

/-- Runs at most `rounds` rounds from `rest` on, after the values and records collected so far. -/
def repeatRounds (repetition : Repetition) (round : Text → Logged (Round α)) (rounds : Nat)
    (values : Array α) (records : Array Record) (rest : Text) : Run α :=
  match rounds with
  | 0 => ⟨values, records, rest, .outOfRounds⟩
  | rounds + 1 =>
      let ⟨made, noted⟩ := round rest
      let records := records ++ noted.toArray
      match made with
      | .ended => ⟨values, records, rest, .noMatch⟩
      | .broken expected stuck => ⟨values, records, rest, .broken expected stuck⟩
      | .matched value next =>
          let values := values.push value
          if next.size = rest.size then
            ⟨values, records.push (.zeroWidth repetition next.size), rest, .zeroWidth⟩
          else repeatRounds repetition round rounds values records next

/-- The outcome of a repetition: a failure if it was broken, else its values. -/
def Run.outcome (run : Run α) : Logged (Outcome (List α)) :=
  match run.exit with
  | .broken expected stuck => ⟨.failure expected stuck, run.records.toList⟩
  | _ => ⟨.success run.values.toList run.rest, run.records.toList⟩

/-- A round of `many`. -/
def manyRound (p : Parser α) (s : Text) : Logged (Round α) := do
  match ← p.apply s with
  | .success a rest => return .matched a rest
  | .failure _ _ => return .ended

/-- All matches of a parser, one after another. It never fails. -/
def many (p : Parser α) : Parser (List α) :=
  ⟨fun s => (repeatRounds .many p.manyRound (s.size + 1) #[] #[] s).outcome⟩

/-- A round of `separatedBy`: a separator and an item. -/
def separatedRound (item : Parser α) (separator : Parser β) (s : Text) : Logged (Round α) := do
  match ← separator.apply s with
  | .failure _ _ => return .ended
  | .success _ afterSeparator =>
      match ← item.apply afterSeparator with
      | .success a rest => return .matched a rest
      | .failure expected stuck => return .broken expected stuck

/-- Items with a separator between each two. There may be none, but after a separator there has
to be one. -/
def separatedBy (item : Parser α) (separator : Parser β) : Parser (List α) :=
  ⟨fun s => do
    match ← item.apply s with
    | .failure _ _ => return .success [] s
    | .success a rest =>
        (repeatRounds .separatedBy (item.separatedRound separator) (rest.size + 1) #[a] #[]
          rest).outcome⟩

end TextParsers.Parser
