import TextParsers.Proofs.Suffix

/-!
# Every repetition comes to an end of its own

The loop behind `many` and `separatedBy` counts its rounds down, and the exit
for a count that ran out is there only because a loop has to be written in a
form that ends. It decides nothing. A round that goes on leaves at least one
byte less, so among as many rounds as the text has bytes, and one more, there
is one that does not go on; and a run that has stopped is the same run under
any larger count.

What is left to say is where the loop stops. Each exit but the last is a
statement on what a round comes to at the text where the loop stood
(`Run.HasReason`), and for the two repetitions it says what their parsers did
there.

The bounds on the number of values are those of the rounds. A round adds one
value at most, also the round that took nothing, and a separated list has its
first item besides.
-/

namespace TextParsers.Parser

variable {α β : Type}

/-- The exit of the run says what a round comes to at the text where the run stopped. There is
nothing that would be the reason of a run whose rounds ran out. -/
def Run.HasReason (round : Text → Logged (Round α)) (run : Run α) : Prop :=
  match run.exit with
  | .noMatch => (round run.rest).value = .ended
  | .zeroWidth => ∃ v, (round run.rest).value = .matched v run.rest
  | .broken e t => (round run.rest).value = .broken e t
  | .outOfRounds => False

section

variable {kind : Repetition} {round : Text → Logged (Round α)}

theorem Run.HasReason.after {run : Run α} (h : run.HasReason round) (values : Array α)
    (records : Array Record) : (run.after values records).HasReason round := h

/-- The loop stops for a reason as soon as it is given more rounds than there are bytes. The
induction is on the rounds: one that goes on leaves fewer bytes, so both counts go down. -/
theorem hasReason_repeatRounds (hround : RoundLeavesSuffix round) :
    ∀ (rounds : Nat) (s : Text), s.size < rounds →
      (repeatRounds kind round rounds #[] #[] s).HasReason round := by
  intro rounds
  induction rounds with
  | zero =>
      intro s hs
      exact absurd hs (Nat.not_lt_zero _)
  | succ n ih =>
      intro s hs
      rcases hround.split s with h | ⟨e, t, h⟩ | ⟨v, h⟩ | ⟨v, t, h, -, hlt⟩
      · rw [repeatRounds_of_ended h]
        exact h
      · rw [repeatRounds_of_broken h]
        exact h
      · rw [repeatRounds_of_zeroWidth h rfl]
        exact ⟨v, h⟩
      · rw [repeatRounds_of_matched h (by omega)]
        exact (ih t (by omega)).after _ _

theorem size_values_repeatRounds_le (kind : Repetition) (round : Text → Logged (Round α)) :
    ∀ (rounds : Nat) (values : Array α) (records : Array Record) (s : Text),
      (repeatRounds kind round rounds values records s).values.size ≤ values.size + rounds := by
  intro rounds
  induction rounds with
  | zero =>
      intro values records s
      exact Nat.le_refl _
  | succ n ih =>
      intro values records s
      rw [repeatRounds]
      obtain ⟨made, noted⟩ := round s
      cases made with
      | ended => exact Nat.le_add_right _ _
      | broken e t => exact Nat.le_add_right _ _
      | matched v t =>
          simp only []
          split
          · rw [Array.size_push]
            omega
          · have hrest := ih (values.push v) (records ++ noted.toArray) t
            rw [Array.size_push] at hrest
            omega

/-- A number of rounds above the number of bytes is enough, a larger one changes nothing, and each
round adds one value at most to those that were there before. -/
theorem repeatRounds_ends (kind : Repetition) (hround : RoundLeavesSuffix round)
    (values : Array α) (s : Text) :
    ∃ run : Run α,
      (∀ rounds, s.size < rounds → repeatRounds kind round rounds values #[] s = run) ∧
      run.HasReason round ∧ run.values.size ≤ values.size + (s.size + 1) := by
  refine ⟨repeatRounds kind round (s.size + 1) values #[] s, fun rounds hrounds => ?_, ?_,
    size_values_repeatRounds_le kind round _ _ _ s⟩
  · rw [repeatRounds_eq_after, repeatRounds_eq_after kind round (s.size + 1),
      repeatRounds_congr hround rounds (s.size + 1) s hrounds (Nat.lt_succ_self _)]
  · rw [repeatRounds_eq_after]
    exact (hasReason_repeatRounds hround _ s (Nat.lt_succ_self _)).after _ _

end

/-! ## What the exits of the two repetitions say -/

section

variable {p : Parser α} {separator : Parser β} {run : Run α} {s r : Text} {vs : List α}

theorem hasReason_manyRound (h : run.HasReason p.manyRound) :
    run.exit = .noMatch ∧ (∃ e r, p.Fails run.rest e r) ∨
      run.exit = .zeroWidth ∧ ∃ v, p.Takes run.rest v run.rest := by
  unfold Run.HasReason at h
  split at h
  · next hexit => exact Or.inl ⟨hexit, manyRound_ended.1 h⟩
  · next hexit =>
      obtain ⟨v, hv⟩ := h
      exact Or.inr ⟨hexit, v, manyRound_matched.1 hv⟩
  · exact absurd h manyRound_not_broken
  · exact h.elim

theorem hasReason_separatedRound (h : run.HasReason (p.separatedRound separator)) :
    run.exit = .noMatch ∧ (∃ e r, separator.Fails run.rest e r) ∨
      (∃ e r, run.exit = .broken e r ∧ ∃ b t, separator.Takes run.rest b t ∧ p.Fails t e r) ∨
      run.exit = .zeroWidth ∧
        ∃ b t v, separator.Takes run.rest b t ∧ p.Takes t v run.rest := by
  unfold Run.HasReason at h
  split at h
  · next hexit => exact Or.inl ⟨hexit, separatedRound_ended.1 h⟩
  · next hexit =>
      obtain ⟨v, hv⟩ := h
      obtain ⟨b, t, hb, ht⟩ := separatedRound_matched.1 hv
      exact Or.inr (Or.inr ⟨hexit, b, t, v, hb, ht⟩)
  · next e r hexit => exact Or.inr (Or.inl ⟨e, r, hexit, separatedRound_broken.1 h⟩)
  · exact h.elim

theorem Run.length_of_outcome (h : run.outcome.value = .success vs r) :
    vs.length = run.values.size := by
  unfold Run.outcome at h
  split at h
  · cases h
  · injection h with hvs _
    rw [← hvs, Array.length_toList]

/-- The run of a separated list after its first item `a`. -/
theorem separatedBy_ends (hp : p.LeavesSuffix) (hseparator : separator.LeavesSuffix) {a : α}
    {t : Text} (ha : p.Takes s a t) :
    ∃ run : Run α,
      (∀ rounds, s.size < rounds →
        repeatRounds .separatedBy (p.separatedRound separator) rounds #[a] #[] t = run) ∧
      run.HasReason (p.separatedRound separator) ∧
      ((p.separatedBy separator).apply s).value = run.outcome.value ∧
      run.values.size ≤ s.size + 2 := by
  have hts : t.size ≤ s.size := Text.size_le_of_suffix (hp.of_takes ha)
  obtain ⟨run, hrun, hreason, hsize⟩ :=
    repeatRounds_ends .separatedBy (hp.separatedRound hseparator) #[a] t
  refine ⟨run, fun rounds hrounds => hrun rounds (by omega), hreason, ?_, ?_⟩
  · rw [← hrun (t.size + 1) (Nat.lt_succ_self _)]
    rw [Takes] at ha
    simp only [separatedBy, Logged.value_bind, ha]
  · have hone : #[a].size = 1 := rfl
    omega

end

/-- Repetitions of parsers that keep to the suffix law end by themselves, whatever these take or do
not take. With one round more than the text has bytes, or with any more rounds, the loop of `many`
stops where the parser fails or takes nothing, after at most as many values as there were rounds.
The loop of a separated list stops, after the first item, where the separator fails, where an item
does, or where both together take nothing; the list has at most one value more. -/
theorem repetition_ends {p : Parser α} {separator : Parser β} (hp : p.LeavesSuffix)
    (hseparator : separator.LeavesSuffix) (s : Text) :
    (∃ run : Run α,
      (∀ rounds, s.size < rounds → repeatRounds .many p.manyRound rounds #[] #[] s = run) ∧
      (run.exit = .noMatch ∧ (∃ e r, p.Fails run.rest e r) ∨
        run.exit = .zeroWidth ∧ ∃ v, p.Takes run.rest v run.rest) ∧
      (p.many.apply s).value = .success run.values.toList run.rest ∧
      run.values.size ≤ s.size + 1) ∧
    (∀ a t, p.Takes s a t → ∃ run : Run α,
      (∀ rounds, s.size < rounds →
        repeatRounds .separatedBy (p.separatedRound separator) rounds #[a] #[] t = run) ∧
      (run.exit = .noMatch ∧ (∃ e r, separator.Fails run.rest e r) ∨
        (∃ e r, run.exit = .broken e r ∧ ∃ b t, separator.Takes run.rest b t ∧ p.Fails t e r) ∨
        run.exit = .zeroWidth ∧
          ∃ b t v, separator.Takes run.rest b t ∧ p.Takes t v run.rest) ∧
      ((p.separatedBy separator).apply s).value = run.outcome.value) ∧
    ∀ vs r, (p.separatedBy separator).Takes s vs r → vs.length ≤ s.size + 2 := by
  refine ⟨?_, fun a t ha => ?_, fun vs r h => ?_⟩
  · obtain ⟨run, hrun, hreason, hsize⟩ :=
      repeatRounds_ends .many hp.manyRound #[] s
    have hexit := hasReason_manyRound hreason
    refine ⟨run, hrun, hexit, ?_, by simpa using hsize⟩
    have happly : p.many.apply s = run.outcome := by
      rw [← hrun (s.size + 1) (Nat.lt_succ_self _)]
      rfl
    rw [happly]
    rcases hexit with ⟨hexit, -⟩ | ⟨hexit, -⟩
    · simp only [Run.outcome, hexit]
    · simp only [Run.outcome, hexit]
  · obtain ⟨run, hrun, hreason, hvalue, -⟩ := separatedBy_ends hp hseparator ha
    exact ⟨run, hrun, hasReason_separatedRound hreason, hvalue⟩
  · cases vs with
    | nil => exact Nat.zero_le _
    | cons v vs =>
        obtain ⟨t, hv, -⟩ := takes_separatedBy_cons.1 h
        obtain ⟨run, -, -, hvalue, hsize⟩ := separatedBy_ends hp hseparator hv
        have hlength := Run.length_of_outcome (hvalue.symm.trans h)
        omega

/-- Items that never take anything, and a separator that may: the list is as long as it can be, with
the first item, one for each byte, and the last one where nothing was taken any more. -/
theorem repetition_ends_at_bound :
    (literal "").LeavesSuffix ∧ ((literal "a").oneOf (literal "")).LeavesSuffix ∧
      (literal "").Takes (Text.ofString "aa") "" (Text.ofString "aa") ∧
      (∃ run : Run String,
        (∀ rounds, 2 < rounds →
          repeatRounds .separatedBy ((literal "").separatedRound ((literal "a").oneOf (literal "")))
            rounds #[""] #[] (Text.ofString "aa") = run) ∧
        (((literal "").separatedBy ((literal "a").oneOf (literal ""))).apply
          (Text.ofString "aa")).value = run.outcome.value) ∧
      ((literal "").separatedBy ((literal "a").oneOf (literal ""))).Takes (Text.ofString "aa")
        ["", "", "", ""] (Text.ofString "") ∧
      ["", "", "", ""].length ≤ 2 + 2 := by
  have hitem : (literal "").LeavesSuffix := leavesSuffix_literal
  have hseparator : ((literal "a").oneOf (literal "")).LeavesSuffix :=
    leavesSuffix_literal.oneOf leavesSuffix_literal
  have hfirst : (literal "").Takes (Text.ofString "aa") "" (Text.ofString "aa") := by
    rw [takes_literal]
    exact ⟨rfl, rfl⟩
  have hlist : ((literal "").separatedBy ((literal "a").oneOf (literal ""))).Takes
      (Text.ofString "aa") ["", "", "", ""] (Text.ofString "") := by
    rw [Takes]
    decide +kernel
  obtain ⟨-, hloop, hlength⟩ := repetition_ends hitem hseparator (Text.ofString "aa")
  obtain ⟨run, hrun, -, hvalue⟩ := hloop _ _ hfirst
  exact ⟨hitem, hseparator, hfirst, ⟨run, hrun, hvalue⟩, hlist, hlength _ _ hlist⟩

end TextParsers.Parser
