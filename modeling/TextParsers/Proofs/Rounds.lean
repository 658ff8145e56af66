import TextParsers.Parser.Repetition
import TextParsers.Proofs.Runs
import TextParsers.Proofs.Takes

/-!
# Repetition, round by round

The loop behind `many` and `separatedBy` collects values and records as it
goes and counts its rounds down. Neither is part of what a repetition means.
What was collected before stands in front of what comes later
(`repeatRounds_eq_after`), and a number of rounds above the number of bytes
left is as good as any other (`repeatRounds_congr`): a round that goes on
leaves a shorter text, and one that does not ends the loop.

So a repetition can be read as a recursion on the text, with one equation for
each thing a round may come to. From these equations, and not from the loop,
everything else about repetitions follows.
-/

namespace TextParsers.Parser

variable {α β : Type}

/-- A run with other values and records in front of its own. -/
def Run.after (values : Array α) (records : Array Record) (run : Run α) : Run α :=
  { run with values := values ++ run.values, records := records ++ run.records }

theorem Run.after_after (values values' : Array α) (records records' : Array Record)
    (run : Run α) :
    (run.after values' records').after values records =
      run.after (values ++ values') (records ++ records') := by
  simp only [Run.after, Array.append_assoc]

theorem Run.outcome_after (values : Array α) (records : Array Record) (run : Run α) :
    (run.after values records).outcome =
      ⟨run.outcome.value.map (values.toList ++ ·), records.toList ++ run.outcome.records⟩ := by
  cases h : run.exit <;> simp [Run.after, Run.outcome, Outcome.map, h]

/-! ## The loop

One lemma for each thing that a single round may come to, then the count of
rounds. -/

section

variable {kind : Repetition} {round : Text → Logged (Round α)} {rounds : Nat} {s t : Text}
  {v : α} {e : String}

theorem repeatRounds_eq_after (kind : Repetition) (round : Text → Logged (Round α)) :
    ∀ (rounds : Nat) (values : Array α) (records : Array Record) (s : Text),
      repeatRounds kind round rounds values records s =
        (repeatRounds kind round rounds #[] #[] s).after values records := by
  intro rounds
  induction rounds with
  | zero =>
      intro values records s
      simp [repeatRounds, Run.after]
  | succ n ih =>
      intro values records s
      rw [repeatRounds, repeatRounds]
      obtain ⟨made, noted⟩ := round s
      cases made with
      | ended => simp [Run.after]
      | broken e t => simp [Run.after]
      | matched v t =>
          simp only []
          split
          · simp [Run.after]
          · -- Both sides go on from `t`, one with `v` alone and one with `v` after the others.
            rw [ih (values.push v), ih (Array.push #[] v), Run.after_after]
            simp

theorem repeatRounds_of_ended (h : (round s).value = .ended) :
    repeatRounds kind round (rounds + 1) #[] #[] s =
      ⟨#[], (round s).records.toArray, s, .noMatch⟩ := by
  rw [repeatRounds]
  simp [h]

theorem repeatRounds_of_broken (h : (round s).value = .broken e t) :
    repeatRounds kind round (rounds + 1) #[] #[] s =
      ⟨#[], (round s).records.toArray, s, .broken e t⟩ := by
  rw [repeatRounds]
  simp [h]

theorem repeatRounds_of_zeroWidth (h : (round s).value = .matched v t) (ht : t.size = s.size) :
    repeatRounds kind round (rounds + 1) #[] #[] s =
      ⟨#[v], (round s).records.toArray.push (.zeroWidth kind t.size), s, .zeroWidth⟩ := by
  rw [repeatRounds]
  simp [h, ht]

theorem repeatRounds_of_matched (h : (round s).value = .matched v t) (ht : t.size ≠ s.size) :
    repeatRounds kind round (rounds + 1) #[] #[] s =
      (repeatRounds kind round rounds #[] #[] t).after #[v] (round s).records.toArray := by
  rw [repeatRounds]
  simp only [h, if_neg ht]
  rw [repeatRounds_eq_after]
  simp

/-- A round stands at a suffix of the text it was given, whether it went on or broke. -/
structure RoundLeavesSuffix (round : Text → Logged (Round α)) : Prop where
  matched : ∀ {s v t}, (round s).value = .matched v t → t.chars <:+ s.chars
  broken : ∀ {s e t}, (round s).value = .broken e t → t.chars <:+ s.chars

/-- All that a round may come to. -/
theorem RoundLeavesSuffix.split (hround : RoundLeavesSuffix round) (s : Text) :
    (round s).value = .ended ∨ (∃ e t, (round s).value = .broken e t) ∨
      (∃ v, (round s).value = .matched v s) ∨
      ∃ v t, (round s).value = .matched v t ∧ t.chars <:+ s.chars ∧ t.size < s.size := by
  cases h : (round s).value with
  | ended => exact Or.inl rfl
  | broken e t => exact Or.inr (Or.inl ⟨e, t, rfl⟩)
  | matched v t =>
      have hsuffix := hround.matched h
      rcases Nat.lt_or_eq_of_le (Text.size_le_of_suffix hsuffix) with hlt | heq
      · exact Or.inr (Or.inr (Or.inr ⟨v, t, rfl, hsuffix, hlt⟩))
      · have hts := Text.eq_of_suffix_of_size_eq hsuffix heq
        exact Or.inr (Or.inr (Or.inl ⟨v, by rw [hts]⟩))

/-- Any two numbers of rounds above the number of bytes give the same run. -/
theorem repeatRounds_congr (hround : RoundLeavesSuffix round) :
    ∀ (n m : Nat) (s : Text), s.size < n → s.size < m →
      repeatRounds kind round n #[] #[] s = repeatRounds kind round m #[] #[] s := by
  intro n
  induction n with
  | zero =>
      intro m s hn _
      exact absurd hn (Nat.not_lt_zero _)
  | succ n ih =>
      intro m s hn hm
      obtain ⟨m, rfl⟩ : ∃ k, m = k + 1 := ⟨m - 1, by omega⟩
      rcases hround.split s with h | ⟨e, t, h⟩ | ⟨v, h⟩ | ⟨v, t, h, -, hlt⟩
      · rw [repeatRounds_of_ended h, repeatRounds_of_ended h]
      · rw [repeatRounds_of_broken h, repeatRounds_of_broken h]
      · rw [repeatRounds_of_zeroWidth h rfl, repeatRounds_of_zeroWidth h rfl]
      · rw [repeatRounds_of_matched h (by omega), repeatRounds_of_matched h (by omega),
          ih m t (by omega) (by omega)]

end

/-! ## Repetition as a recursion on the text -/

/-- The parser that repeats a round from a text on, with nothing collected before. -/
def repetition (kind : Repetition) (round : Text → Logged (Round α)) : Parser (List α) :=
  ⟨fun s => (repeatRounds kind round (s.size + 1) #[] #[] s).outcome⟩

section

variable {kind : Repetition} {round : Text → Logged (Round α)} {s t r : Text} {v : α}
  {vs : List α} {e : String}

theorem apply_repetition_of_ended (h : (round s).value = .ended) :
    (repetition kind round).apply s = ⟨.success [] s, (round s).records⟩ := by
  simp only [repetition, repeatRounds_of_ended h, Run.outcome]

theorem apply_repetition_of_broken (h : (round s).value = .broken e t) :
    (repetition kind round).apply s = ⟨.failure e t, (round s).records⟩ := by
  simp only [repetition, repeatRounds_of_broken h, Run.outcome]

theorem apply_repetition_of_zeroWidth (h : (round s).value = .matched v s) :
    (repetition kind round).apply s =
      ⟨.success [v] s, (round s).records ++ [.zeroWidth kind s.size]⟩ := by
  simp only [repetition, repeatRounds_of_zeroWidth h rfl, Run.outcome]
  simp

theorem apply_repetition_of_matched (hround : RoundLeavesSuffix round)
    (h : (round s).value = .matched v t) (ht : t.size < s.size) :
    (repetition kind round).apply s =
      ⟨((repetition kind round).apply t).value.map (v :: ·),
        (round s).records ++ ((repetition kind round).apply t).records⟩ := by
  have hcongr : repeatRounds kind round s.size #[] #[] t =
      repeatRounds kind round (t.size + 1) #[] #[] t :=
    repeatRounds_congr hround _ _ t ht (Nat.lt_succ_self _)
  simp only [repetition, repeatRounds_of_matched h (Nat.ne_of_lt ht), Run.outcome_after, hcongr]
  simp

theorem leavesSuffix_repetition (hround : RoundLeavesSuffix round) :
    (repetition kind round).LeavesSuffix := by
  intro s
  induction s using Text.size_induction with
  | step s ih =>
      rcases hround.split s with h | ⟨e, t, h⟩ | ⟨v, h⟩ | ⟨v, t, h, hsuffix, hlt⟩
      · rw [apply_repetition_of_ended h]
        exact List.suffix_rfl
      · rw [apply_repetition_of_broken h]
        exact hround.broken h
      · rw [apply_repetition_of_zeroWidth h]
        exact List.suffix_rfl
      · rw [apply_repetition_of_matched hround h hlt]
        have hrest := ih t hlt
        cases hvalue : ((repetition kind round).apply t).value with
        | success vs r =>
            rw [hvalue] at hrest
            exact hrest.trans hsuffix
        | failure e r =>
            rw [hvalue] at hrest
            exact hrest.trans hsuffix

/-! Both judgments of a repetition, each by what the first round comes to. -/

theorem takes_repetition (hround : RoundLeavesSuffix round) :
    (repetition kind round).Takes s vs r ↔
      (vs = [] ∧ (round s).value = .ended ∧ r = s) ∨
      (∃ v, vs = [v] ∧ (round s).value = .matched v s ∧ r = s) ∨
      ∃ v ws t, vs = v :: ws ∧ (round s).value = .matched v t ∧ t.size < s.size ∧
        (repetition kind round).Takes t ws r := by
  simp only [Takes]
  rcases hround.split s with h | ⟨e, t, h⟩ | ⟨v, h⟩ | ⟨v, t, h, -, hlt⟩
  · rw [apply_repetition_of_ended h]
    simp [h, eq_comm]
  · rw [apply_repetition_of_broken h]
    simp [h]
  · rw [apply_repetition_of_zeroWidth h]
    simp only [h, Outcome.success.injEq, reduceCtorEq, false_and, and_false, false_or,
      Round.matched.injEq, and_true]
    refine ⟨fun heq => Or.inl ⟨v, heq.1.symm, rfl, heq.2.symm⟩, fun heq => ?_⟩
    rcases heq with ⟨w, rfl, rfl, rfl⟩ | ⟨w, ws, t, -, ⟨-, rfl⟩, hlt, -⟩
    · exact ⟨rfl, rfl⟩
    · exact absurd hlt (Nat.lt_irrefl _)
  · rw [apply_repetition_of_matched hround h hlt]
    simp only [h, reduceCtorEq, false_and, and_false, false_or, Round.matched.injEq]
    cases hvalue : ((repetition kind round).apply t).value with
    | success ws r' =>
        simp only [Outcome.map, Outcome.success.injEq]
        refine ⟨fun heq => ?_, fun heq => ?_⟩
        · obtain ⟨rfl, rfl⟩ := heq
          exact Or.inr ⟨v, ws, t, rfl, ⟨rfl, rfl⟩, hlt, hvalue⟩
        · rcases heq with ⟨w, -, ⟨-, rfl⟩, -⟩ | ⟨w, us, t', rfl, ⟨rfl, rfl⟩, -, ht⟩
          · exact absurd hlt (Nat.lt_irrefl _)
          · rw [hvalue] at ht
            injection ht with hus hr
            exact ⟨by rw [hus], hr⟩
    | failure e r' =>
        simp only [Outcome.map, reduceCtorEq, false_iff]
        intro heq
        rcases heq with ⟨w, -, ⟨-, rfl⟩, -⟩ | ⟨w, us, t', -, ⟨-, rfl⟩, -, ht⟩
        · exact absurd hlt (Nat.lt_irrefl _)
        · rw [hvalue] at ht
          cases ht

theorem fails_repetition (hround : RoundLeavesSuffix round) :
    (repetition kind round).Fails s e r ↔
      (round s).value = .broken e r ∨
      ∃ v t, (round s).value = .matched v t ∧ t.size < s.size ∧
        (repetition kind round).Fails t e r := by
  simp only [Fails]
  rcases hround.split s with h | ⟨e', t, h⟩ | ⟨v, h⟩ | ⟨v, t, h, -, hlt⟩
  · rw [apply_repetition_of_ended h]
    simp [h]
  · rw [apply_repetition_of_broken h]
    simp [h]
  · rw [apply_repetition_of_zeroWidth h]
    simp only [h, reduceCtorEq, false_or, false_iff, Round.matched.injEq]
    intro heq
    obtain ⟨w, t, ⟨-, rfl⟩, hlt, -⟩ := heq
    exact absurd hlt (Nat.lt_irrefl _)
  · rw [apply_repetition_of_matched hround h hlt]
    simp only [h, reduceCtorEq, false_or, Round.matched.injEq]
    cases hvalue : ((repetition kind round).apply t).value with
    | success ws r' =>
        simp only [Outcome.map, reduceCtorEq, false_iff]
        intro heq
        obtain ⟨w, t', ⟨-, rfl⟩, -, ht⟩ := heq
        rw [hvalue] at ht
        cases ht
    | failure d r' =>
        simp only [Outcome.map]
        refine ⟨fun heq => ⟨v, t, ⟨rfl, rfl⟩, hlt, hvalue.trans heq⟩, fun heq => ?_⟩
        obtain ⟨w, t', ⟨-, rfl⟩, -, ht⟩ := heq
        exact hvalue.symm.trans ht

/-- A repetition fails only where one of its rounds broke. -/
theorem broken_of_fails_repetition (hround : RoundLeavesSuffix round)
    (h : (repetition kind round).Fails s e r) :
    ∃ t, t.chars <:+ s.chars ∧ (round t).value = .broken e r := by
  induction s using Text.size_induction with
  | step s ih =>
      rcases (fails_repetition hround).1 h with hs | ⟨v, t, hs, hlt, ht⟩
      · exact ⟨s, List.suffix_rfl, hs⟩
      · obtain ⟨t', hsuffix, hbroken⟩ := ih t hlt ht
        exact ⟨t', hsuffix.trans (hround.matched hs), hbroken⟩

/-! Where every round that goes on takes something there is no zero-width end,
and a repetition that succeeds is a chain of rounds up to one that ends. -/

theorem takes_repetition_nil (hround : RoundLeavesSuffix round) :
    (repetition kind round).Takes s [] r ↔ (round s).value = .ended ∧ r = s := by
  rw [takes_repetition hround]
  simp

theorem takes_repetition_cons (hround : RoundLeavesSuffix round)
    (hshrink : ∀ {s v t}, (round s).value = .matched v t → t.size < s.size) :
    (repetition kind round).Takes s (v :: vs) r ↔
      ∃ t, (round s).value = .matched v t ∧ (repetition kind round).Takes t vs r := by
  rw [takes_repetition hround]
  refine ⟨fun h => ?_, fun h => ?_⟩
  · rcases h with ⟨hnil, -, -⟩ | ⟨w, -, hw, -⟩ | ⟨w, ws, t, hcons, hw, -, ht⟩
    · cases hnil
    · exact absurd (hshrink hw) (Nat.lt_irrefl _)
    · injection hcons with hv hvs
      subst hv hvs
      exact ⟨t, hw, ht⟩
  · obtain ⟨t, ht, hvs⟩ := h
    exact Or.inr (Or.inr ⟨v, vs, t, rfl, ht, hshrink ht, hvs⟩)

end

/-! ## The two repetitions -/

section

variable {p : Parser α} {item : Parser α} {separator : Parser β} {s t r : Text} {a : α}
  {vs : List α} {e : String}

theorem many_eq (p : Parser α) : p.many = repetition .many p.manyRound := rfl

theorem manyRound_matched : (p.manyRound s).value = .matched a r ↔ p.Takes s a r := by
  simp only [manyRound, Takes, Logged.value_bind]
  cases (p.apply s).value with
  | success b t => simp
  | failure d t => simp

theorem manyRound_ended : (p.manyRound s).value = .ended ↔ ∃ d t, p.Fails s d t := by
  simp only [manyRound, Fails, Logged.value_bind]
  cases (p.apply s).value with
  | success b t => simp
  | failure d t => simp

theorem manyRound_not_broken : (p.manyRound s).value ≠ .broken e r := by
  simp only [manyRound, Logged.value_bind]
  cases (p.apply s).value with
  | success b t => simp
  | failure d t => simp

theorem separatedRound_matched :
    (item.separatedRound separator s).value = .matched a r ↔
      ∃ b t, separator.Takes s b t ∧ item.Takes t a r := by
  simp only [separatedRound, Takes, Logged.value_bind]
  cases (separator.apply s).value with
  | failure d t => simp
  | success b t =>
      simp only [Logged.value_bind, Outcome.success.injEq]
      cases hitem : (item.apply t).value with
      | success a' r' =>
          simp only [Logged.value_pure, Round.matched.injEq]
          refine ⟨fun h => ?_, fun h => ?_⟩
          · obtain ⟨rfl, rfl⟩ := h
            exact ⟨b, t, ⟨rfl, rfl⟩, hitem⟩
          · obtain ⟨_, _, ⟨rfl, rfl⟩, h⟩ := h
            rw [hitem] at h
            injection h with ha hr
            exact ⟨ha, hr⟩
      | failure d r' =>
          simp only [Logged.value_pure, reduceCtorEq, false_iff]
          intro h
          obtain ⟨_, _, ⟨rfl, rfl⟩, h⟩ := h
          rw [hitem] at h
          cases h

theorem separatedRound_ended :
    (item.separatedRound separator s).value = .ended ↔ ∃ d t, separator.Fails s d t := by
  simp only [separatedRound, Fails, Logged.value_bind]
  cases (separator.apply s).value with
  | failure d t => simp
  | success b t =>
      simp only [Logged.value_bind]
      cases (item.apply t).value with
      | success a' r' => simp
      | failure d r' => simp

theorem separatedRound_broken :
    (item.separatedRound separator s).value = .broken e r ↔
      ∃ b t, separator.Takes s b t ∧ item.Fails t e r := by
  simp only [separatedRound, Takes, Fails, Logged.value_bind]
  cases (separator.apply s).value with
  | failure d t => simp
  | success b t =>
      simp only [Logged.value_bind, Outcome.success.injEq]
      cases hitem : (item.apply t).value with
      | success a' r' =>
          simp only [Logged.value_pure, reduceCtorEq, false_iff]
          intro h
          obtain ⟨_, _, ⟨rfl, rfl⟩, h⟩ := h
          rw [hitem] at h
          cases h
      | failure d r' =>
          simp only [Logged.value_pure, Round.broken.injEq]
          refine ⟨fun h => ?_, fun h => ?_⟩
          · obtain ⟨rfl, rfl⟩ := h
            exact ⟨b, t, ⟨rfl, rfl⟩, hitem⟩
          · obtain ⟨_, _, ⟨rfl, rfl⟩, h⟩ := h
            rw [hitem] at h
            injection h with hd hr
            exact ⟨hd, hr⟩

theorem apply_separatedBy_of_fails (h : item.Fails s e r) :
    (item.separatedBy separator).apply s = ⟨.success [] s, (item.apply s).records⟩ := by
  rw [Fails] at h
  refine Logged.ext ?_ ?_
  · simp [separatedBy, h]
  · simp [separatedBy, h]

theorem apply_separatedBy_of_takes (h : item.Takes s a t) :
    (item.separatedBy separator).apply s =
      ⟨((repetition .separatedBy (item.separatedRound separator)).apply t).value.map (a :: ·),
        (item.apply s).records ++
          ((repetition .separatedBy (item.separatedRound separator)).apply t).records⟩ := by
  rw [Takes] at h
  refine Logged.ext ?_ ?_
  · simp only [separatedBy, Logged.value_bind, h]
    rw [repeatRounds_eq_after, Run.outcome_after]
    rfl
  · simp only [separatedBy, Logged.records_bind, h]
    rw [repeatRounds_eq_after, Run.outcome_after]
    rfl

theorem takes_separatedBy_nil :
    (item.separatedBy separator).Takes s [] r ↔ (∃ d t, item.Fails s d t) ∧ r = s := by
  rcases takes_or_fails item s with ⟨a, t, h⟩ | ⟨d, t, h⟩
  · rw [Takes, apply_separatedBy_of_takes h]
    refine ⟨fun hs => ?_, fun hs => ?_⟩
    · cases hrep : ((repetition .separatedBy (item.separatedRound separator)).apply t).value with
      | success ws r' => simp [hrep, Outcome.map] at hs
      | failure d r' => simp [hrep, Outcome.map] at hs
    · obtain ⟨⟨d, t', hfails⟩, -⟩ := hs
      exact absurd hfails h.not_fails
  · rw [Takes, apply_separatedBy_of_fails h, Outcome.success.injEq]
    exact ⟨fun hs => ⟨⟨d, t, h⟩, hs.2.symm⟩, fun hs => ⟨rfl, hs.2.symm⟩⟩

theorem takes_separatedBy_cons :
    (item.separatedBy separator).Takes s (a :: vs) r ↔
      ∃ t, item.Takes s a t ∧
        (repetition .separatedBy (item.separatedRound separator)).Takes t vs r := by
  rcases takes_or_fails item s with ⟨b, t, h⟩ | ⟨d, t, h⟩
  · rw [Takes, apply_separatedBy_of_takes h]
    cases hrep : ((repetition .separatedBy (item.separatedRound separator)).apply t).value with
    | success ws r' =>
        simp only [Outcome.map, Outcome.success.injEq, List.cons.injEq]
        refine ⟨fun hs => ?_, fun hs => ?_⟩
        · obtain ⟨⟨rfl, rfl⟩, rfl⟩ := hs
          exact ⟨t, h, hrep⟩
        · obtain ⟨t', hitem, hs⟩ := hs
          obtain ⟨rfl, rfl⟩ := h.unique hitem
          obtain ⟨rfl, rfl⟩ := Takes.unique hrep hs
          exact ⟨⟨rfl, rfl⟩, rfl⟩
    | failure d r' =>
        simp only [Outcome.map, reduceCtorEq, false_iff]
        intro hs
        obtain ⟨t', hitem, hs⟩ := hs
        obtain ⟨rfl, rfl⟩ := h.unique hitem
        exact hs.not_fails hrep
  · rw [Takes, apply_separatedBy_of_fails h]
    refine ⟨fun hs => (by cases hs), fun hs => ?_⟩
    obtain ⟨t', hitem, -⟩ := hs
    exact absurd h hitem.not_fails

theorem fails_separatedBy :
    (item.separatedBy separator).Fails s e r ↔
      ∃ a t, item.Takes s a t ∧
        (repetition .separatedBy (item.separatedRound separator)).Fails t e r := by
  rcases takes_or_fails item s with ⟨b, t, h⟩ | ⟨d, t, h⟩
  · rw [Fails, apply_separatedBy_of_takes h]
    cases hrep : ((repetition .separatedBy (item.separatedRound separator)).apply t).value with
    | success ws r' =>
        simp only [Outcome.map, reduceCtorEq, false_iff]
        intro hs
        obtain ⟨a, t', hitem, hs⟩ := hs
        obtain ⟨rfl, rfl⟩ := h.unique hitem
        exact Takes.not_fails hrep hs
    | failure d r' =>
        simp only [Outcome.map, Outcome.failure.injEq]
        refine ⟨fun hs => ?_, fun hs => ?_⟩
        · obtain ⟨rfl, rfl⟩ := hs
          exact ⟨b, t, h, hrep⟩
        · obtain ⟨a, t', hitem, hs⟩ := hs
          obtain ⟨rfl, rfl⟩ := h.unique hitem
          exact Fails.unique hrep hs
  · rw [Fails, apply_separatedBy_of_fails h]
    refine ⟨fun hs => (by cases hs), fun hs => ?_⟩
    obtain ⟨a, t', hitem, -⟩ := hs
    exact absurd h hitem.not_fails

end

end TextParsers.Parser
