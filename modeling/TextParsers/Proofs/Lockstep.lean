import Mathlib.Data.List.Forall2
import TextParsers.Parser.Repetition
import TextParsers.Parser.Sequence

/-!
# Two parsers in lockstep

Some laws compare two runs: of a parser and the same parser with other
messages, or of a parser and the same parser with its values changed. In all of
them both runs take the same way. They succeed on the same texts, leave the
same rests, make the same records, and differ at most in the values and in the
messages that they carry along.

`Lockstep V M` says this of two parsers, where `V` relates the values and `M`
the messages. Every combinator keeps it, because none of them looks at a value
or a message before it decides how to go on. For the repetitions that is an
induction on the rounds: both loops stand at the same text all the time, so
they compare the same two sizes, and one of them stops exactly when the other
does.
-/

namespace TextParsers

section

variable {β β' γ γ' : Type} {R : β → β' → Prop} {S : γ → γ' → Prop}

/-- The results are related, and the records are the same. -/
structure Logged.Rel (R : β → β' → Prop) (m : Logged β) (n : Logged β') : Prop where
  value : R m.value n.value
  records : m.records = n.records

theorem Logged.rel_pure {b : β} {b' : β'} (h : R b b') :
    Logged.Rel R (pure b) (pure b') := ⟨h, rfl⟩

theorem Logged.rel_bind {m : Logged β} {n : Logged β'} {f : β → Logged γ} {g : β' → Logged γ'}
    (h : Logged.Rel R m n) (hfg : ∀ b b', R b b' → Logged.Rel S (f b) (g b')) :
    Logged.Rel S (m >>= f) (n >>= g) := by
  have hnext := hfg _ _ h.value
  refine ⟨hnext.value, ?_⟩
  rw [records_bind, records_bind, h.records, hnext.records]

end

section

variable {α β : Type}

/-- The outcomes are successes with related values or failures with related messages, and leave the
same rest. -/
inductive Outcome.Rel (V : α → β → Prop) (M : String → String → Prop) :
    Outcome α → Outcome β → Prop where
  | success {a : α} {b : β} (r : Text) : V a b → Rel V M (.success a r) (.success b r)
  | failure {d e : String} (r : Text) : M d e → Rel V M (.failure d r) (.failure e r)

end

namespace Parser

variable {α α' β β' γ γ' : Type} {V : α → α' → Prop} {W : β → β' → Prop} {X : γ → γ' → Prop}
  {M N : String → String → Prop} {p : Parser α} {p' : Parser α'} {q : Parser β} {q' : Parser β'}

/-- On every text both parsers succeed with related values or both fail with related messages, and
either way they leave the same rest and make the same records. -/
def Lockstep (V : α → α' → Prop) (M : String → String → Prop) (p : Parser α) (p' : Parser α') :
    Prop :=
  ∀ s : Text, Logged.Rel (Outcome.Rel V M) (p.apply s) (p'.apply s)

theorem lockstep_self {V : α → α → Prop} (hV : ∀ a, V a a) (hM : ∀ e, M e e) (p : Parser α) :
    p.Lockstep V M p := by
  intro s
  refine ⟨?_, rfl⟩
  cases (p.apply s).value with
  | success a r => exact .success r (hV a)
  | failure e r => exact .failure r (hM e)

/-! ## One after another, or one instead of another -/

theorem Lockstep.map {f : α → β} {g : α' → β'} (h : p.Lockstep V M p')
    (hfg : ∀ a a', V a a' → W (f a) (g a')) : (p.map f).Lockstep W M (p'.map g) := by
  intro s
  refine Logged.rel_bind (h s) ?_
  intro o o' ho
  cases ho with
  | success r ha => exact Logged.rel_pure (.success r (hfg _ _ ha))
  | failure r he => exact Logged.rel_pure (.failure r he)

theorem Lockstep.mapExpected {f : String → String} (h : p.Lockstep V M p')
    (hf : ∀ d e, M d e → N (f d) e) : (p.mapExpected f).Lockstep V N p' := by
  intro s
  rw [← bind_pure (p'.apply s)]
  refine Logged.rel_bind (h s) ?_
  intro o o' ho
  cases ho with
  | success r ha => exact Logged.rel_pure (.success r ha)
  | failure r he => exact Logged.rel_pure (.failure r (hf _ _ he))

theorem Lockstep.andThen {next : α → Parser β} {next' : α' → Parser β'} (h : p.Lockstep V M p')
    (hnext : ∀ a a', V a a' → (next a).Lockstep W M (next' a')) :
    (p.andThen next).Lockstep W M (p'.andThen next') := by
  intro s
  refine Logged.rel_bind (h s) ?_
  intro o o' ho
  cases ho with
  | success r ha => exact hnext _ _ ha r
  | failure r he => exact Logged.rel_pure (.failure r he)

theorem Lockstep.sequence (h : p.Lockstep V M p') (hq : q.Lockstep W M q') :
    (p.sequence q).Lockstep (fun ab ab' => V ab.1 ab'.1 ∧ W ab.2 ab'.2) M (p'.sequence q') :=
  h.andThen fun _ _ ha => hq.map fun _ _ hb => ⟨ha, hb⟩

theorem Lockstep.skipLeft (h : p.Lockstep V M p') (hq : q.Lockstep W M q') :
    (p.skipLeft q).Lockstep W M (p'.skipLeft q') :=
  h.andThen fun _ _ _ => hq

theorem Lockstep.skipRight (h : p.Lockstep V M p') (hq : q.Lockstep W M q') :
    (p.skipRight q).Lockstep V M (p'.skipRight q') :=
  h.andThen fun _ _ ha => hq.map fun _ _ _ => ha

theorem Lockstep.between {closing : Parser γ} {closing' : Parser γ'} (h : p.Lockstep V M p')
    (hq : q.Lockstep W M q') (hclosing : closing.Lockstep X M closing') :
    (p.between q closing).Lockstep W M (p'.between q' closing') :=
  h.andThen fun _ _ _ => hq.andThen fun _ _ hb => hclosing.map fun _ _ _ => hb

theorem Lockstep.oneOf {q : Parser α} {q' : Parser α'} (h : p.Lockstep V M p')
    (hq : q.Lockstep V M q')
    (hjoin : ∀ d d' e e', M d d' → M e e' → N (d ++ ", " ++ e) (d' ++ ", " ++ e')) :
    (p.oneOf q).Lockstep V N (p'.oneOf q') := by
  intro s
  refine Logged.rel_bind (h s) ?_
  intro o o' ho
  cases ho with
  | success r ha => exact Logged.rel_pure (.success r ha)
  | failure r hd =>
      refine Logged.rel_bind (hq s) ?_
      intro o o' ho
      cases ho with
      | success r ha => exact Logged.rel_pure (.success r ha)
      | failure r he => exact Logged.rel_pure (.failure r (hjoin _ _ _ _ hd he))

/-! ## Repetition

Both loops are at the same text in every round. So the messages that they
throw away are the only difference that the rounds could make, and those decide
nothing. -/

/-- The rounds come to the same, at the same text, with related values or messages. -/
inductive Round.Rel (V : α → β → Prop) (M : String → String → Prop) :
    Round α → Round β → Prop where
  | matched {a : α} {b : β} (r : Text) : V a b → Rel V M (.matched a r) (.matched b r)
  | ended : Rel V M .ended .ended
  | broken {d e : String} (r : Text) : M d e → Rel V M (.broken d r) (.broken e r)

/-- The repetitions end in the same way, and if they are broken, at the same text and with related
messages. -/
inductive Exit.Rel (M : String → String → Prop) : Exit → Exit → Prop where
  | noMatch : Rel M .noMatch .noMatch
  | zeroWidth : Rel M .zeroWidth .zeroWidth
  | broken {d e : String} (r : Text) : M d e → Rel M (.broken d r) (.broken e r)
  | outOfRounds : Rel M .outOfRounds .outOfRounds

/-- The runs end at the same text, in the same way, with related values and the same records. -/
structure Run.Rel (V : α → β → Prop) (M : String → String → Prop) (run : Run α) (run' : Run β) :
    Prop where
  values : List.Forall₂ V run.values.toList run'.values.toList
  records : run.records = run'.records
  rest : run.rest = run'.rest
  exit : Exit.Rel M run.exit run'.exit

/-- Loops whose rounds go in lockstep go in lockstep, from the same text and after related values.
The induction is on the rounds, of which both have the same number. -/
theorem rel_repeatRounds {kind : Repetition} {round : Text → Logged (Round α)}
    {round' : Text → Logged (Round α')}
    (hround : ∀ s, Logged.Rel (Round.Rel V M) (round s) (round' s)) :
    ∀ (rounds : Nat) (values : Array α) (values' : Array α') (records : Array Record) (s : Text),
      List.Forall₂ V values.toList values'.toList →
      Run.Rel V M (repeatRounds kind round rounds values records s)
        (repeatRounds kind round' rounds values' records s) := by
  intro rounds
  induction rounds with
  | zero =>
      intro values values' records s hvalues
      exact ⟨hvalues, rfl, rfl, .outOfRounds⟩
  | succ n ih =>
      intro values values' records s hvalues
      obtain ⟨hmade, hnoted⟩ := hround s
      rw [repeatRounds, repeatRounds]
      generalize round s = m at hmade hnoted ⊢
      generalize round' s = m' at hmade hnoted ⊢
      obtain ⟨made, noted⟩ := m
      obtain ⟨made', noted'⟩ := m'
      obtain rfl : noted = noted' := hnoted
      cases hmade with
      | ended => exact ⟨hvalues, rfl, rfl, .noMatch⟩
      | broken r he => exact ⟨hvalues, rfl, rfl, .broken r he⟩
      | @matched a a' r ha =>
          have hmore : List.Forall₂ V (values.push a).toList (values'.push a').toList := by
            rw [Array.toList_push, Array.toList_push]
            exact List.rel_append hvalues (.cons ha .nil)
          simp only []
          split
          · exact ⟨hmore, rfl, rfl, .zeroWidth⟩
          · exact ih _ _ _ r hmore

theorem Run.Rel.outcome {run : Run α} {run' : Run α'} (h : Run.Rel V M run run') :
    Logged.Rel (Outcome.Rel (List.Forall₂ V) M) run.outcome run'.outcome := by
  obtain ⟨values, records, rest, exit⟩ := run
  obtain ⟨values', records', rest', exit'⟩ := run'
  obtain ⟨hvalues, rfl, rfl, hexit⟩ := h
  cases hexit with
  | broken r he => exact ⟨.failure r he, rfl⟩
  | noMatch | zeroWidth | outOfRounds => exact ⟨.success rest hvalues, rfl⟩

theorem Lockstep.many (h : p.Lockstep V M p') : p.many.Lockstep (List.Forall₂ V) N p'.many := by
  have hround : ∀ s, Logged.Rel (Round.Rel V N) (p.manyRound s) (p'.manyRound s) := by
    intro s
    refine Logged.rel_bind (h s) ?_
    intro o o' ho
    cases ho with
    | success r ha => exact Logged.rel_pure (.matched r ha)
    | failure r he => exact Logged.rel_pure .ended
  intro s
  exact (rel_repeatRounds hround _ _ _ _ s .nil).outcome

theorem Lockstep.separatedBy (h : p.Lockstep V M p') (hq : q.Lockstep W N q') :
    (p.separatedBy q).Lockstep (List.Forall₂ V) M (p'.separatedBy q') := by
  have hround : ∀ s, Logged.Rel (Round.Rel V M) (p.separatedRound q s)
      (p'.separatedRound q' s) := by
    intro s
    refine Logged.rel_bind (hq s) ?_
    intro o o' ho
    cases ho with
    | failure r he => exact Logged.rel_pure .ended
    | success t hb =>
        refine Logged.rel_bind (h t) ?_
        intro o o' ho
        cases ho with
        | success r ha => exact Logged.rel_pure (.matched r ha)
        | failure r he => exact Logged.rel_pure (.broken r he)
  intro s
  refine Logged.rel_bind (h s) ?_
  intro o o' ho
  cases ho with
  | failure r he => exact Logged.rel_pure (.success s .nil)
  | success r ha => exact (rel_repeatRounds hround _ _ _ _ r (.cons ha .nil)).outcome

end Parser

end TextParsers
