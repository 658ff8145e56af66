import TextParsers.Parser.Sequence

/-!
# What a parser takes and where it fails

Two judgments say what a parser does with a text, without its records:
`p.Takes s a r` when it takes `a` off the front of `s` and leaves `r`, and
`p.Fails s e r` when the expectation `e` is not met at `r`. Exactly one of
them holds, for one value or expectation and one remainder.

Each combinator is inverted here once, in both judgments. What is proved about
all parsers that can be put together goes through these equivalences, and
nothing later looks into a combinator again.
-/

namespace TextParsers.Parser

variable {α β γ : Type}

/-- `p` takes `a` off the front of `s` and leaves `r`. -/
def Takes (p : Parser α) (s : Text) (a : α) (r : Text) : Prop :=
  (p.apply s).value = .success a r

/-- `p` fails on `s`, with the expectation `e` at `r`. -/
def Fails (p : Parser α) (s : Text) (e : String) (r : Text) : Prop :=
  (p.apply s).value = .failure e r

section

variable {p : Parser α} {s : Text}

theorem takes_or_fails (p : Parser α) (s : Text) :
    (∃ a r, p.Takes s a r) ∨ ∃ e r, p.Fails s e r := by
  cases h : (p.apply s).value with
  | success a r => exact Or.inl ⟨a, r, h⟩
  | failure e r => exact Or.inr ⟨e, r, h⟩

theorem Takes.unique {a a' : α} {r r' : Text} (h : p.Takes s a r) (h' : p.Takes s a' r') :
    a = a' ∧ r = r' := by
  have heq := h.symm.trans h'
  injection heq with ha hr
  exact ⟨ha, hr⟩

theorem Fails.unique {e e' : String} {r r' : Text} (h : p.Fails s e r) (h' : p.Fails s e' r') :
    e = e' ∧ r = r' := by
  have heq := h.symm.trans h'
  injection heq with he hr
  exact ⟨he, hr⟩

theorem Takes.not_fails {a : α} {e : String} {r r' : Text} (h : p.Takes s a r) :
    ¬ p.Fails s e r' := by
  intro h'
  have heq := h.symm.trans h'
  injection heq

end

/-! ## Changing values and expectations -/

section

variable {p : Parser α} {s r : Text} {e : String}

theorem takes_succeed {v a : α} : (succeed v).Takes s a r ↔ v = a ∧ s = r := by
  simp [Takes, succeed]

theorem not_fails_succeed {v : α} : ¬ (succeed v).Fails s e r := by
  simp [Fails, succeed]

theorem not_takes_fail {expected : String} {a : α} : ¬ (fail expected).Takes s a r := by
  simp [Takes, fail]

theorem fails_fail {expected : String} :
    (fail expected : Parser α).Fails s e r ↔ expected = e ∧ s = r := by
  simp [Fails, fail]

theorem apply_map (f : α → β) (p : Parser α) (s : Text) :
    (p.map f).apply s = ⟨(p.apply s).value.map f, (p.apply s).records⟩ :=
  Logged.ext rfl (List.append_nil _)

theorem takes_map {f : α → β} {b : β} : (p.map f).Takes s b r ↔ ∃ a, p.Takes s a r ∧ f a = b := by
  simp only [Takes, map, Logged.value_bind, Logged.value_pure]
  cases (p.apply s).value with
  | success a t =>
      simp only [Outcome.map, Outcome.success.injEq]
      refine ⟨fun h => ?_, fun h => ?_⟩
      · obtain ⟨rfl, rfl⟩ := h
        exact ⟨a, ⟨rfl, rfl⟩, rfl⟩
      · obtain ⟨_, ⟨rfl, rfl⟩, rfl⟩ := h
        exact ⟨rfl, rfl⟩
  | failure d t => simp [Outcome.map]

theorem fails_map {f : α → β} : (p.map f).Fails s e r ↔ p.Fails s e r := by
  simp only [Fails, map, Logged.value_bind, Logged.value_pure]
  cases (p.apply s).value with
  | success a t => simp [Outcome.map]
  | failure d t => simp [Outcome.map]

theorem takes_mapExpected {f : String → String} {a : α} :
    (p.mapExpected f).Takes s a r ↔ p.Takes s a r := by
  simp only [Takes, mapExpected, Logged.value_bind, Logged.value_pure]
  cases (p.apply s).value with
  | success b t => simp [Outcome.mapExpected]
  | failure d t => simp [Outcome.mapExpected]

theorem fails_mapExpected {f : String → String} :
    (p.mapExpected f).Fails s e r ↔ ∃ d, p.Fails s d r ∧ f d = e := by
  simp only [Fails, mapExpected, Logged.value_bind, Logged.value_pure]
  cases (p.apply s).value with
  | success a t => simp [Outcome.mapExpected]
  | failure d t =>
      simp only [Outcome.mapExpected, Outcome.failure.injEq]
      refine ⟨fun h => ?_, fun h => ?_⟩
      · obtain ⟨rfl, rfl⟩ := h
        exact ⟨d, ⟨rfl, rfl⟩, rfl⟩
      · obtain ⟨_, ⟨rfl, rfl⟩, rfl⟩ := h
        exact ⟨rfl, rfl⟩

end

/-! ## One after another -/

section

variable {p : Parser α} {q : Parser β} {s r : Text} {e : String}

theorem takes_andThen {next : α → Parser β} {b : β} :
    (p.andThen next).Takes s b r ↔ ∃ a t, p.Takes s a t ∧ (next a).Takes t b r := by
  simp only [Takes, andThen, Logged.value_bind]
  cases (p.apply s).value with
  | success a t =>
      simp only [Outcome.andThen, Outcome.success.injEq]
      refine ⟨fun h => ⟨a, t, ⟨rfl, rfl⟩, h⟩, fun h => ?_⟩
      obtain ⟨_, _, ⟨rfl, rfl⟩, h⟩ := h
      exact h
  | failure d t => simp [Outcome.andThen]

theorem fails_andThen {next : α → Parser β} :
    (p.andThen next).Fails s e r ↔
      p.Fails s e r ∨ ∃ a t, p.Takes s a t ∧ (next a).Fails t e r := by
  simp only [Takes, Fails, andThen, Logged.value_bind]
  cases (p.apply s).value with
  | success a t =>
      simp only [Outcome.andThen, Outcome.success.injEq, reduceCtorEq, false_or]
      refine ⟨fun h => ⟨a, t, ⟨rfl, rfl⟩, h⟩, fun h => ?_⟩
      obtain ⟨_, _, ⟨rfl, rfl⟩, h⟩ := h
      exact h
  | failure d t => simp [Outcome.andThen]

theorem takes_sequence {a : α} {b : β} :
    (p.sequence q).Takes s (a, b) r ↔ ∃ t, p.Takes s a t ∧ q.Takes t b r := by
  simp only [sequence, takes_andThen, takes_map, Prod.mk.injEq]
  refine ⟨fun h => ?_, fun h => ?_⟩
  · obtain ⟨_, t, hp, _, hq, rfl, rfl⟩ := h
    exact ⟨t, hp, hq⟩
  · obtain ⟨t, hp, hq⟩ := h
    exact ⟨a, t, hp, b, hq, rfl, rfl⟩

theorem fails_sequence :
    (p.sequence q).Fails s e r ↔ p.Fails s e r ∨ ∃ a t, p.Takes s a t ∧ q.Fails t e r := by
  simp only [sequence, fails_andThen, fails_map]

theorem takes_skipLeft {b : β} :
    (p.skipLeft q).Takes s b r ↔ ∃ a t, p.Takes s a t ∧ q.Takes t b r :=
  takes_andThen

theorem fails_skipLeft :
    (p.skipLeft q).Fails s e r ↔ p.Fails s e r ∨ ∃ a t, p.Takes s a t ∧ q.Fails t e r :=
  fails_andThen

theorem takes_skipRight {a : α} :
    (p.skipRight q).Takes s a r ↔ ∃ t b, p.Takes s a t ∧ q.Takes t b r := by
  simp only [skipRight, takes_andThen, takes_map]
  refine ⟨fun h => ?_, fun h => ?_⟩
  · obtain ⟨_, t, hp, b, hq, rfl⟩ := h
    exact ⟨t, b, hp, hq⟩
  · obtain ⟨t, b, hp, hq⟩ := h
    exact ⟨a, t, hp, b, hq, rfl⟩

theorem fails_skipRight :
    (p.skipRight q).Fails s e r ↔ p.Fails s e r ∨ ∃ a t, p.Takes s a t ∧ q.Fails t e r := by
  simp only [skipRight, fails_andThen, fails_map]

end

/-- Brackets are one more way to put three parsers after another. -/
theorem between_eq (opening : Parser α) (content : Parser β) (closing : Parser γ) :
    between opening content closing = opening.skipLeft (content.skipRight closing) := rfl

/-! ## One instead of another -/

section

variable {p q : Parser α} {s r : Text} {e : String}

theorem takes_oneOf {a : α} :
    (p.oneOf q).Takes s a r ↔ p.Takes s a r ∨ (∃ d t, p.Fails s d t) ∧ q.Takes s a r := by
  simp only [Takes, Fails, oneOf, Logged.value_bind]
  cases (p.apply s).value with
  | success b t => simp
  | failure d t =>
      simp only [Logged.value_bind, Logged.value_pure, Outcome.failure.injEq, reduceCtorEq,
        false_or]
      cases (q.apply s).value with
      | success b t' => simp [Outcome.mapExpected]
      | failure d' t' => simp [Outcome.mapExpected]

theorem fails_oneOf :
    (p.oneOf q).Fails s e r ↔
      ∃ d t d', p.Fails s d t ∧ q.Fails s d' r ∧ e = d ++ ", " ++ d' := by
  simp only [Fails, oneOf, Logged.value_bind]
  cases (p.apply s).value with
  | success b t => simp
  | failure d t =>
      simp only [Logged.value_bind, Logged.value_pure, Outcome.failure.injEq]
      cases (q.apply s).value with
      | success b t' => simp [Outcome.mapExpected]
      | failure d' t' =>
          simp only [Outcome.mapExpected, Outcome.failure.injEq]
          refine ⟨fun h => ?_, fun h => ?_⟩
          · obtain ⟨rfl, rfl⟩ := h
            exact ⟨d, t, d', ⟨rfl, rfl⟩, ⟨rfl, rfl⟩, rfl⟩
          · obtain ⟨_, _, _, ⟨rfl, rfl⟩, ⟨rfl, rfl⟩, rfl⟩ := h
            exact ⟨rfl, rfl⟩

end

/-! ## Whole inputs -/

section

variable {p : Parser α} {s : Text} {n : Nat} {f : String}

theorem completeResult_success {a : α} {r : Text} :
    (Outcome.success a r).completeResult s =
      if r.chars = [] then .ok a else .error (.trailingInput (offsetOf s r) (excerpt r)) := by
  have hresult : (Outcome.success a r).completeResult s =
      if r.isEmpty then .ok a else .error (.trailingInput (offsetOf s r) (excerpt r)) := rfl
  simp only [hresult, Text.isEmpty, List.isEmpty_iff]

theorem completeResult_failure {e : String} {r : Text} :
    (Outcome.failure e r : Outcome α).completeResult s =
      .error (.mismatch e (offsetOf s r) (excerpt r)) := rfl

theorem value_parseComplete :
    (p.parseComplete s).value = (p.apply s).value.completeResult s := by
  rw [parseComplete, Logged.value_bind]
  cases (p.apply s).value.completeResult s with
  | ok a => rfl
  | error e => rfl

theorem parseComplete_eq_ok_iff {a : α} :
    (p.parseComplete s).value = .ok a ↔ ∃ r, p.Takes s a r ∧ r.chars = [] := by
  rw [value_parseComplete]
  simp only [Takes]
  cases (p.apply s).value with
  | success b r =>
      rw [completeResult_success]
      by_cases hr : r.chars = []
      · rw [if_pos hr]
        simp only [Except.ok.injEq, Outcome.success.injEq]
        refine ⟨fun h => ⟨r, ⟨h, rfl⟩, hr⟩, fun h => ?_⟩
        obtain ⟨_, ⟨hba, -⟩, -⟩ := h
        exact hba
      · simp [hr]
  | failure e r => simp [completeResult_failure]

theorem parseComplete_eq_trailingInput_iff :
    (p.parseComplete s).value = .error (.trailingInput n f) ↔
      ∃ a r, p.Takes s a r ∧ r.chars ≠ [] ∧ offsetOf s r = n ∧ excerpt r = f := by
  rw [value_parseComplete]
  simp only [Takes]
  cases (p.apply s).value with
  | success b r =>
      rw [completeResult_success]
      by_cases hr : r.chars = []
      · simp [hr]
      · rw [if_neg hr]
        simp only [Except.error.injEq, ParseError.trailingInput.injEq, Outcome.success.injEq]
        refine ⟨fun h => ⟨b, r, ⟨rfl, rfl⟩, hr, h⟩, fun h => ?_⟩
        obtain ⟨_, _, ⟨-, rfl⟩, -, h⟩ := h
        exact h
  | failure e r => simp [completeResult_failure]

theorem parseComplete_eq_mismatch_iff {e : String} :
    (p.parseComplete s).value = .error (.mismatch e n f) ↔
      ∃ r, p.Fails s e r ∧ offsetOf s r = n ∧ excerpt r = f := by
  rw [value_parseComplete]
  simp only [Fails]
  cases (p.apply s).value with
  | success b r =>
      rw [completeResult_success]
      split
      · simp
      · simp
  | failure d r =>
      simp only [completeResult_failure, Except.error.injEq, ParseError.mismatch.injEq,
        Outcome.failure.injEq]
      refine ⟨fun h => ⟨r, ⟨h.1, rfl⟩, h.2⟩, fun h => ?_⟩
      obtain ⟨_, ⟨hde, rfl⟩, h⟩ := h
      exact ⟨hde, h⟩

theorem records_parseComplete_of_ok {a : α} (h : (p.parseComplete s).value = .ok a) :
    (p.parseComplete s).records = (p.apply s).records := by
  rw [value_parseComplete] at h
  simp [parseComplete, h]

theorem records_parseComplete_of_error {e : ParseError}
    (h : (p.parseComplete s).value = .error e) :
    (p.parseComplete s).records = (p.apply s).records ++ [.rejected s.size e] := by
  rw [value_parseComplete] at h
  simp [parseComplete, h]

end

end TextParsers.Parser
