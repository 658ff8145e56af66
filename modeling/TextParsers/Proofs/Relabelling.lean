import TextParsers.Expr.Rules
import TextParsers.Proofs.Lockstep

/-!
# Messages decide nothing

A parser says what it expected where it fails, and `mapExpected` puts the
message in other words. That is for readers alone. Two expressions that are the
same without their messages cannot be told apart on any text, except by the
messages of their failures: they take the same values, leave or fail at the
same rests, and make the same records on the way.

A message could only matter where one run goes on after a failure, in a choice
or at the end of a repetition, and there no combinator looks at it. So each
expression goes in lockstep with what is left of it when the messages are taken
out (`Expr.withoutMessages`), and two expressions of which the same is left go
in lockstep with each other.
-/

namespace TextParsers

section

variable {α : Type} {o o' o'' : Outcome α}

/-- The outcomes differ at most in the message of a failure. -/
def Outcome.AgreesWith (o o' : Outcome α) : Prop := Outcome.Rel Eq (fun _ _ => True) o o'

theorem Outcome.AgreesWith.symm (h : o.AgreesWith o') : o'.AgreesWith o := by
  cases h with
  | success r ha => exact .success r ha.symm
  | failure r _ => exact .failure r trivial

theorem Outcome.AgreesWith.trans (h : o.AgreesWith o') (h' : o'.AgreesWith o'') :
    o.AgreesWith o'' := by
  cases h with
  | success r ha =>
      cases h' with
      | success _ ha' => exact .success r (ha.trans ha')
  | failure r _ =>
      cases h' with
      | failure _ _ => exact .failure r trivial

end

namespace Parser

variable {α β : Type} {p p' p'' : Parser α}

/-- The parsers differ at most in the messages of their failures. -/
def AgreesWith (p p' : Parser α) : Prop := p.Lockstep Eq (fun _ _ => True) p'

theorem agreesWith_self (p : Parser α) : p.AgreesWith p :=
  lockstep_self (fun _ => rfl) (fun _ => trivial) p

theorem AgreesWith.symm (h : p.AgreesWith p') : p'.AgreesWith p :=
  fun s => ⟨Outcome.AgreesWith.symm (h s).value, (h s).records.symm⟩

theorem AgreesWith.trans (h : p.AgreesWith p') (h' : p'.AgreesWith p'') : p.AgreesWith p'' :=
  fun s => ⟨Outcome.AgreesWith.trans (h s).value (h' s).value,
    (h s).records.trans (h' s).records⟩

theorem AgreesWith.map (h : p.AgreesWith p') (f : α → β) : (p.map f).AgreesWith (p'.map f) :=
  Lockstep.map h fun _ _ ha => congrArg f ha

theorem agreesWith_charsWhile (q : Char → Bool) (d e : String) :
    (charsWhile q d).AgreesWith (charsWhile q e) := by
  intro s
  refine ⟨?_, rfl⟩
  simp only [charsWhile, apply_ofOutcome]
  cases s.takeWhile q with
  | nil => exact .failure s trivial
  | cons c cs => exact .success _ rfl

theorem agreesWith_fail (d e : String) : (fail d : Parser α).AgreesWith (fail e) :=
  fun s => ⟨.failure s trivial, rfl⟩

end Parser

open TextParsers.Parser

variable {named named' : String → Parser Value} {e e' : Expr}

/-- The expression with empty messages, and with no changes of messages. A run of a class with a
name of its own is a run with a message like any other. -/
def Expr.withoutMessages : Expr → Expr
  | whitespace => .charsWhile Text.isBlank ""
  | letters => .charsWhile Text.isLetter ""
  | digits => .charsWhile Char.isDigit ""
  | charsWhile q _ => .charsWhile q ""
  | fail _ => .fail ""
  | sequence first second => .sequence first.withoutMessages second.withoutMessages
  | oneOf first second => .oneOf first.withoutMessages second.withoutMessages
  | skipLeft first second => .skipLeft first.withoutMessages second.withoutMessages
  | skipRight first second => .skipRight first.withoutMessages second.withoutMessages
  | many item => .many item.withoutMessages
  | separatedBy item separator => .separatedBy item.withoutMessages separator.withoutMessages
  | between opening content closing =>
      .between opening.withoutMessages content.withoutMessages closing.withoutMessages
  | map f of => .map f of.withoutMessages
  | mapExpected _ of => of.withoutMessages
  | leaf => leaf

/-- One step for each constructor: the parts agree, and no combinator asks for more. -/
theorem Expr.agreesWith_withoutMessages (hnamed : ∀ name, (named name).AgreesWith (named' name))
    (e : Expr) : (e.parser named).AgreesWith (e.withoutMessages.parser named') := by
  induction e with
  | whitespace | letters | digits | charsWhile q expected =>
      exact (agreesWith_charsWhile _ _ _).map _
  | fail expected => exact agreesWith_fail _ _
  | ref name => exact hnamed name
  | literal t | integer | spaces | assignment | intArray | keyValue | anyChar | endOfInput
  | succeed v => exact agreesWith_self _
  | sequence first second hfirst hsecond =>
      refine (Lockstep.sequence hfirst hsecond).map ?_
      rintro ⟨a, b⟩ ⟨_, _⟩ ⟨rfl, rfl⟩
      rfl
  | oneOf first second hfirst hsecond =>
      exact Lockstep.oneOf hfirst hsecond fun _ _ _ _ _ _ => trivial
  | skipLeft first second hfirst hsecond => exact Lockstep.skipLeft hfirst hsecond
  | skipRight first second hfirst hsecond => exact Lockstep.skipRight hfirst hsecond
  | many item hitem =>
      refine (Lockstep.many hitem).map ?_
      intro vs vs' hvs
      rw [List.forall₂_eq_eq_eq] at hvs
      rw [hvs]
  | separatedBy item separator hitem hseparator =>
      refine (Lockstep.separatedBy hitem hseparator).map ?_
      intro vs vs' hvs
      rw [List.forall₂_eq_eq_eq] at hvs
      rw [hvs]
  | between opening content closing hopening hcontent hclosing =>
      exact Lockstep.between hopening hcontent hclosing
  | map f of hof => exact hof.map f
  | mapExpected f of hof => exact Lockstep.mapExpected hof fun _ _ _ => trivial

theorem Expr.agreesWith_of_withoutMessages_eq
    (hnamed : ∀ name, (named name).AgreesWith (named' name))
    (h : e.withoutMessages = e'.withoutMessages) :
    (e.parser named).AgreesWith (e'.parser named') := by
  have hleft := agreesWith_withoutMessages hnamed e
  have hright := agreesWith_withoutMessages (fun name => agreesWith_self (named' name)) e'
  rw [← h] at hright
  exact hleft.trans hright.symm

/-! ## Rules

Rules may refer to each other and to themselves, so the messages are taken out
of all of them at once. That both sides look up the same names at the same
depth is all that is left to say. -/

/-- The rules with their expressions without messages. -/
def Rules.withoutMessages (rules : Rules) : Rules :=
  rules.map fun rule => (rule.1, rule.2.withoutMessages)

theorem Rules.lookup_withoutMessages (rules : Rules) (name : String) :
    rules.withoutMessages.lookup name = (rules.lookup name).map Expr.withoutMessages := by
  induction rules with
  | nil => rfl
  | cons rule rules ih =>
      rw [withoutMessages] at ih
      rw [withoutMessages, List.map_cons, List.lookup_cons, List.lookup_cons, ih]
      split
      · rfl
      · rfl

section

variable {rules rules' : Rules}

theorem Rules.agreesWith_named (h : rules.withoutMessages = rules'.withoutMessages)
    (depth : Nat) (name : String) :
    (rules.named depth name).AgreesWith (rules'.named depth name) := by
  induction depth generalizing name with
  | zero => exact agreesWith_self _
  | succ depth ih =>
      have hlookup : (rules.lookup name).map Expr.withoutMessages =
          (rules'.lookup name).map Expr.withoutMessages := by
        rw [← lookup_withoutMessages, ← lookup_withoutMessages, h]
      rw [Rules.named, Rules.named]
      cases hleft : rules.lookup name with
      | none =>
          rw [hleft, Option.map_none, eq_comm, Option.map_eq_none_iff] at hlookup
          rw [hlookup]
          exact agreesWith_self _
      | some e =>
          rw [hleft, Option.map_some, eq_comm, Option.map_eq_some_iff] at hlookup
          obtain ⟨e', hright, he⟩ := hlookup
          rw [hright]
          exact Expr.agreesWith_of_withoutMessages_eq ih he.symm

theorem Rules.agreesWith_parser (h : rules.withoutMessages = rules'.withoutMessages)
    (he : e.withoutMessages = e'.withoutMessages) :
    (rules.parser e).AgreesWith (rules'.parser e') := by
  have hlength : rules.length = rules'.length := by
    have hcount := congrArg List.length h
    rwa [withoutMessages, withoutMessages, List.length_map, List.length_map] at hcount
  intro s
  have hparser : (rules'.parser e').apply s =
      (e'.parser (rules'.named (rules.depthFor s.size))).apply s := by
    rw [depthFor, hlength]
    rfl
  rw [hparser]
  exact Expr.agreesWith_of_withoutMessages_eq (agreesWith_named h _) he s

end

/-- Messages never influence parsing. Two expressions that are the same without their messages, with
names for parsers that differ in messages alone, both succeed on a text, with the same value and
the same rest, or both fail on it, at the same place; and they make the same records. -/
theorem Expr.apply_eq_apart_from_messages
    (hnamed : ∀ name, (named name).AgreesWith (named' name))
    (h : e.withoutMessages = e'.withoutMessages) (s : Text) :
    ((∃ v r, ((e.parser named).apply s).value = .success v r ∧
        ((e'.parser named').apply s).value = .success v r) ∨
      ∃ d d' r, ((e.parser named).apply s).value = .failure d r ∧
        ((e'.parser named').apply s).value = .failure d' r) ∧
    ((e.parser named).apply s).records = ((e'.parser named').apply s).records := by
  obtain ⟨hvalue, hrecords⟩ := Expr.agreesWith_of_withoutMessages_eq hnamed h s
  refine ⟨?_, hrecords⟩
  generalize ((e.parser named).apply s).value = o at hvalue ⊢
  generalize ((e'.parser named').apply s).value = o' at hvalue ⊢
  cases hvalue with
  | @success v _ r hv => exact Or.inl ⟨v, r, rfl, by rw [hv]⟩
  | @failure d d' r _ => exact Or.inr ⟨d, d', r, rfl, rfl⟩

/-- A choice after a repetition that stops on a match of nothing. Both sides of the choice have
other messages, and one of them is known by its name only. -/
theorem Expr.apply_eq_apart_from_messages_of_choice :
    (∀ _ : String, (Parser.fail "no name" : Parser Value).AgreesWith (.fail "unknown")) ∧
      (Expr.skipLeft (.many (.literal "")) (.mapExpected (fun _ => "a number")
        (.oneOf .digits (.ref "n")))).withoutMessages =
          (Expr.skipLeft (.many (.literal ""))
            (.oneOf (.charsWhile Char.isDigit "digits") (.ref "n"))).withoutMessages ∧
      (((Expr.skipLeft (.many (.literal "")) (.mapExpected (fun _ => "a number")
        (.oneOf .digits (.ref "n")))).parser fun _ => .fail "no name").apply
          (Text.ofString "é")).value = .failure "a number" (Text.ofString "é") ∧
      ∃ d, (((Expr.skipLeft (.many (.literal ""))
        (.oneOf (.charsWhile Char.isDigit "digits") (.ref "n"))).parser
          fun _ => .fail "unknown").apply (Text.ofString "é")) =
            ⟨.failure d (Text.ofString "é"), [.zeroWidth .many 2]⟩ := by
  have hnamed : ∀ _ : String, (Parser.fail "no name" : Parser Value).AgreesWith (.fail "unknown") :=
    fun _ => agreesWith_fail _ _
  have hsame : (Expr.skipLeft (.many (.literal "")) (.mapExpected (fun _ => "a number")
      (.oneOf .digits (.ref "n")))).withoutMessages =
        (Expr.skipLeft (.many (.literal ""))
          (.oneOf (.charsWhile Char.isDigit "digits") (.ref "n"))).withoutMessages := rfl
  have hleft : (((Expr.skipLeft (.many (.literal "")) (.mapExpected (fun _ => "a number")
      (.oneOf .digits (.ref "n")))).parser fun _ => .fail "no name").apply
        (Text.ofString "é")).value = .failure "a number" (Text.ofString "é") := by decide +kernel
  have hnoted : (((Expr.skipLeft (.many (.literal "")) (.mapExpected (fun _ => "a number")
      (.oneOf .digits (.ref "n")))).parser fun _ => .fail "no name").apply
        (Text.ofString "é")).records = [.zeroWidth .many 2] := by decide +kernel
  obtain ⟨hvalue, hrecords⟩ :=
    Expr.apply_eq_apart_from_messages hnamed hsame (Text.ofString "é")
  refine ⟨hnamed, hsame, hleft, ?_⟩
  rw [hleft] at hvalue
  rw [hnoted] at hrecords
  rcases hvalue with ⟨v, r, h, -⟩ | ⟨d, d', r, h, hright⟩
  · cases h
  · injection h with _ hr
    subst hr
    exact ⟨d', Logged.ext hright hrecords.symm⟩

end TextParsers
