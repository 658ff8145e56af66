import TextParsers.Expr.Rules
import TextParsers.Proofs.Primitives
import TextParsers.Proofs.Rounds

/-!
# What remains is a suffix

Every position that the library reports is a difference of two byte counts,
and every repetition ends because a text gets shorter. Both rest on one law:
what a parser leaves, or the text at which it fails, is a suffix of the text
that it was given.

The primitives obey the law because they cut a text in two or leave it alone.
The combinators keep it, for then each part is given a suffix in its turn and
leaves a suffix of that. So a whole expression obeys it as soon as the parsers
behind its names do, and rules obey it without any condition, however they
refer to each other.
-/

namespace TextParsers

namespace Parser

variable {α β γ : Type} {p : Parser α} {s r : Text}

theorem leavesSuffix_of (htakes : ∀ {s a r}, p.Takes s a r → r.chars <:+ s.chars)
    (hfails : ∀ {s e r}, p.Fails s e r → r.chars <:+ s.chars) : p.LeavesSuffix := by
  intro s
  cases h : (p.apply s).value with
  | success a r => exact htakes h
  | failure e r => exact hfails h

theorem LeavesSuffix.of_takes (hp : p.LeavesSuffix) {a : α} (h : p.Takes s a r) :
    r.chars <:+ s.chars := by
  have hs := hp s
  rw [Takes] at h
  rw [h] at hs
  exact hs

theorem LeavesSuffix.of_fails (hp : p.LeavesSuffix) {e : String} (h : p.Fails s e r) :
    r.chars <:+ s.chars := by
  have hs := hp s
  rw [Fails] at h
  rw [h] at hs
  exact hs

/-! ## The primitives -/

theorem leavesSuffix_of_inPlace (hplace : p.InPlace)
    (htakes : ∀ {s a r}, p.Takes s a r → r.chars <:+ s.chars) : p.LeavesSuffix := by
  refine leavesSuffix_of htakes ?_
  intro s e r h
  obtain rfl := hplace h
  exact List.suffix_rfl

theorem leavesSuffix_literal {t : String} : (literal t).LeavesSuffix :=
  leavesSuffix_of_inPlace inPlace_literal fun h => ⟨_, (takes_literal.1 h).2⟩

theorem leavesSuffix_charsWhile {q : Char → Bool} {expected : String} :
    (charsWhile q expected).LeavesSuffix :=
  leavesSuffix_of_inPlace inPlace_charsWhile fun h => ⟨_, (takes_charsWhile.1 h).2.2.2⟩

theorem leavesSuffix_integer : integer.LeavesSuffix := by
  refine leavesSuffix_of_inPlace inPlace_integer ?_
  intro s v r h
  obtain ⟨ds, -, -, happ⟩ := takes_integer.1 h
  exact ⟨ds, happ⟩

theorem leavesSuffix_anyChar : anyChar.LeavesSuffix := by
  refine leavesSuffix_of_inPlace inPlace_anyChar ?_
  intro s a r h
  obtain ⟨c, -, happ⟩ := takes_anyChar.1 h
  exact ⟨[c], happ⟩

theorem leavesSuffix_endOfInput : endOfInput.LeavesSuffix := by
  refine leavesSuffix_of_inPlace inPlace_endOfInput ?_
  intro s _ r h
  obtain rfl := (takes_endOfInput.1 h).2
  exact List.suffix_rfl

theorem inPlace_succeed {v : α} : (succeed v).InPlace :=
  fun _ _ _ h => absurd h not_fails_succeed

theorem inPlace_fail {expected : String} : (fail expected : Parser α).InPlace :=
  fun _ _ _ h => (fails_fail.1 h).2.symm

theorem leavesSuffix_succeed {v : α} : (succeed v).LeavesSuffix := by
  refine leavesSuffix_of_inPlace inPlace_succeed ?_
  intro s a r h
  obtain rfl := (takes_succeed.1 h).2
  exact List.suffix_rfl

theorem leavesSuffix_fail {expected : String} : (fail expected : Parser α).LeavesSuffix :=
  leavesSuffix_of_inPlace inPlace_fail fun h => absurd h not_takes_fail

/-! ## The combinators -/

section

variable {q : Parser β}

theorem LeavesSuffix.map (hp : p.LeavesSuffix) (f : α → β) : (p.map f).LeavesSuffix := by
  refine leavesSuffix_of ?_ fun h => hp.of_fails (fails_map.1 h)
  intro s b r h
  obtain ⟨a, ha, -⟩ := takes_map.1 h
  exact hp.of_takes ha

theorem LeavesSuffix.mapExpected (hp : p.LeavesSuffix) (f : String → String) :
    (p.mapExpected f).LeavesSuffix := by
  refine leavesSuffix_of (fun h => hp.of_takes (takes_mapExpected.1 h)) ?_
  intro s e r h
  obtain ⟨d, hd, -⟩ := fails_mapExpected.1 h
  exact hp.of_fails hd

theorem LeavesSuffix.andThen {next : α → Parser β} (hp : p.LeavesSuffix)
    (hnext : ∀ a, (next a).LeavesSuffix) : (p.andThen next).LeavesSuffix := by
  refine leavesSuffix_of ?_ ?_
  · intro s b r h
    obtain ⟨a, t, ha, hb⟩ := takes_andThen.1 h
    exact ((hnext a).of_takes hb).trans (hp.of_takes ha)
  · intro s e r h
    rcases fails_andThen.1 h with he | ⟨a, t, ha, he⟩
    · exact hp.of_fails he
    · exact ((hnext a).of_fails he).trans (hp.of_takes ha)

theorem LeavesSuffix.sequence (hp : p.LeavesSuffix) (hq : q.LeavesSuffix) :
    (p.sequence q).LeavesSuffix :=
  hp.andThen fun _ => hq.map _

theorem LeavesSuffix.skipLeft (hp : p.LeavesSuffix) (hq : q.LeavesSuffix) :
    (p.skipLeft q).LeavesSuffix :=
  hp.andThen fun _ => hq

theorem LeavesSuffix.skipRight (hp : p.LeavesSuffix) (hq : q.LeavesSuffix) :
    (p.skipRight q).LeavesSuffix :=
  hp.andThen fun _ => hq.map _

theorem LeavesSuffix.between {closing : Parser γ} (hp : p.LeavesSuffix) (hq : q.LeavesSuffix)
    (hclosing : closing.LeavesSuffix) : (p.between q closing).LeavesSuffix := by
  rw [between_eq]
  exact hp.skipLeft (hq.skipRight hclosing)

theorem LeavesSuffix.oneOf {p q : Parser α} (hp : p.LeavesSuffix) (hq : q.LeavesSuffix) :
    (p.oneOf q).LeavesSuffix := by
  refine leavesSuffix_of ?_ ?_
  · intro s a r h
    rcases takes_oneOf.1 h with ha | ⟨-, ha⟩
    · exact hp.of_takes ha
    · exact hq.of_takes ha
  · intro s e r h
    obtain ⟨d, t, d', -, hd', -⟩ := fails_oneOf.1 h
    exact hq.of_fails hd'

/-! A repetition obeys the law because each of its rounds does. -/

theorem LeavesSuffix.manyRound (hp : p.LeavesSuffix) : RoundLeavesSuffix p.manyRound where
  matched h := hp.of_takes (manyRound_matched.1 h)
  broken h := absurd h manyRound_not_broken

theorem LeavesSuffix.separatedRound (hp : p.LeavesSuffix) (hq : q.LeavesSuffix) :
    RoundLeavesSuffix (p.separatedRound q) where
  matched h := by
    obtain ⟨b, t, hb, ha⟩ := separatedRound_matched.1 h
    exact (hp.of_takes ha).trans (hq.of_takes hb)
  broken h := by
    obtain ⟨b, t, hb, he⟩ := separatedRound_broken.1 h
    exact (hp.of_fails he).trans (hq.of_takes hb)

theorem LeavesSuffix.many (hp : p.LeavesSuffix) : p.many.LeavesSuffix := by
  rw [many_eq]
  exact leavesSuffix_repetition hp.manyRound

theorem not_fails_many (hlaw : p.LeavesSuffix) {s : Text} {e : String} {r : Text} :
    ¬ p.many.Fails s e r := by
  intro h
  rw [many_eq] at h
  obtain ⟨t, -, hbroken⟩ := broken_of_fails_repetition hlaw.manyRound h
  exact manyRound_not_broken hbroken

theorem exists_takes_many (hlaw : p.LeavesSuffix) (s : Text) : ∃ vs r, p.many.Takes s vs r := by
  rcases takes_or_fails p.many s with htakes | ⟨e, r, hfails⟩
  · exact htakes
  · exact absurd hfails (not_fails_many hlaw)

theorem LeavesSuffix.separatedBy (hp : p.LeavesSuffix) (hq : q.LeavesSuffix) :
    (p.separatedBy q).LeavesSuffix := by
  have hrounds : (repetition .separatedBy (p.separatedRound q)).LeavesSuffix :=
    leavesSuffix_repetition (hp.separatedRound hq)
  refine leavesSuffix_of ?_ ?_
  · intro s vs r h
    cases vs with
    | nil =>
        obtain rfl := (takes_separatedBy_nil.1 h).2
        exact List.suffix_rfl
    | cons v vs =>
        obtain ⟨t, hv, hvs⟩ := takes_separatedBy_cons.1 h
        exact (hrounds.of_takes hvs).trans (hp.of_takes hv)
  · intro s e r h
    obtain ⟨v, t, hv, he⟩ := fails_separatedBy.1 h
    exact (hrounds.of_fails he).trans (hp.of_takes hv)

end

/-! ## The language of assignments -/

theorem leavesSuffix_spaces : spaces.LeavesSuffix := leavesSuffix_charsWhile.many.map _

theorem leavesSuffix_array {gap : Parser α} (hgap : gap.LeavesSuffix) :
    (array gap).LeavesSuffix :=
  leavesSuffix_literal.between
    (leavesSuffix_integer.separatedBy (leavesSuffix_literal.sequence hgap)) leavesSuffix_literal

theorem leavesSuffix_assignment : assignment.LeavesSuffix := by
  have hkeyword : ((literal "let").sequence whitespace).LeavesSuffix :=
    leavesSuffix_literal.sequence leavesSuffix_charsWhile
  have hname : (letters.skipRight spaces).LeavesSuffix :=
    leavesSuffix_charsWhile.skipRight leavesSuffix_spaces
  have hequals : ((literal "=").skipRight spaces).LeavesSuffix :=
    leavesSuffix_literal.skipRight leavesSuffix_spaces
  exact (((hkeyword.skipLeft hname).skipRight hequals).sequence
    (leavesSuffix_array leavesSuffix_spaces)).map _

theorem leavesSuffix_intArray : intArray.LeavesSuffix :=
  leavesSuffix_array leavesSuffix_charsWhile

theorem leavesSuffix_keyValue : keyValue.LeavesSuffix :=
  (leavesSuffix_charsWhile.skipRight leavesSuffix_literal).sequence leavesSuffix_charsWhile

end Parser

open TextParsers.Parser

/-! ## Expressions and rules -/

variable {named : String → Parser Value}

theorem Expr.leavesSuffix_parser (hnamed : ∀ name, (named name).LeavesSuffix) (e : Expr) :
    (e.parser named).LeavesSuffix := by
  induction e with
  | literal t => exact leavesSuffix_literal.map _
  | integer => exact leavesSuffix_integer.map _
  | whitespace | letters | digits | charsWhile q expected => exact leavesSuffix_charsWhile.map _
  | spaces => exact leavesSuffix_spaces.map _
  | assignment => exact leavesSuffix_assignment.map _
  | intArray => exact leavesSuffix_intArray.map _
  | keyValue => exact leavesSuffix_keyValue.map _
  | anyChar => exact leavesSuffix_anyChar.map _
  | endOfInput => exact leavesSuffix_endOfInput.map _
  | succeed v => exact leavesSuffix_succeed
  | fail expected => exact leavesSuffix_fail
  | ref name => exact hnamed name
  | sequence first second hfirst hsecond => exact (hfirst.sequence hsecond).map _
  | oneOf first second hfirst hsecond => exact hfirst.oneOf hsecond
  | skipLeft first second hfirst hsecond => exact hfirst.skipLeft hsecond
  | skipRight first second hfirst hsecond => exact hfirst.skipRight hsecond
  | many item hitem => exact hitem.many.map _
  | separatedBy item separator hitem hseparator => exact (hitem.separatedBy hseparator).map _
  | between opening content closing hopening hcontent hclosing =>
      exact hopening.between hcontent hclosing
  | map f of hof => exact hof.map f
  | mapExpected f of hof => exact hof.mapExpected f

/-- Rules obey the law at every depth, since a name that is not looked up any more stands for a
parser that fails in its place. -/
theorem Rules.leavesSuffix_named (rules : Rules) (depth : Nat) (name : String) :
    (rules.named depth name).LeavesSuffix := by
  induction depth generalizing name with
  | zero => exact leavesSuffix_fail
  | succ depth ih =>
      rw [Rules.named]
      split
      · exact Expr.leavesSuffix_parser ih _
      · exact leavesSuffix_fail

theorem Rules.leavesSuffix_parser (rules : Rules) (e : Expr) : (rules.parser e).LeavesSuffix :=
  fun s => Expr.leavesSuffix_parser (rules.leavesSuffix_named _) e s

/-- Whether an expression takes a value or fails, what it leaves is a suffix of the text it was
given, provided that the parsers behind its names keep to this. -/
theorem Expr.remainder_suffix (hnamed : ∀ name, (named name).LeavesSuffix) (e : Expr)
    (s : Text) :
    (∀ v r, ((e.parser named).apply s).value = .success v r → r.chars <:+ s.chars) ∧
      ∀ expected r, ((e.parser named).apply s).value = .failure expected r →
        r.chars <:+ s.chars := by
  have hlaw := Expr.leavesSuffix_parser hnamed e
  exact ⟨fun v r h => hlaw.of_takes h, fun expected r h => hlaw.of_fails h⟩

/-- A list that breaks off after a separator fails at the end of the text, inside a parser that
only a name stands for. -/
theorem Expr.remainder_suffix_of_unfinished_list :
    (∀ _ : String, (Parser.anyChar.map Value.text).LeavesSuffix) ∧
      (((Expr.separatedBy (.ref "c") (.literal ",")).parser fun _ => Parser.anyChar.map .text).apply
        (Text.ofString "é,")).value = .failure "Expected: any character" (Text.ofString "") ∧
      (Text.ofString "").chars <:+ (Text.ofString "é,").chars := by
  have hnamed : ∀ _ : String, (Parser.anyChar.map Value.text).LeavesSuffix :=
    fun _ => leavesSuffix_anyChar.map _
  have hfails : (((Expr.separatedBy (.ref "c") (.literal ",")).parser
      fun _ => Parser.anyChar.map .text).apply (Text.ofString "é,")).value =
      .failure "Expected: any character" (Text.ofString "") := by decide +kernel
  exact ⟨hnamed, hfails, (Expr.remainder_suffix hnamed _ _).2 _ _ hfails⟩

end TextParsers
