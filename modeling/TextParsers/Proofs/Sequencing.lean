import TextParsers.Parser.Primitive
import TextParsers.Proofs.Lockstep
import TextParsers.Proofs.Takes

/-!
# Sequences without their brackets

Four combinators put parsers one after another, and they differ in the values
that they keep. What they do to a text does not depend on that, nor on how they
are nested: the leaves are applied in order, each to what the one before has
left, and the first that fails is the failure of the whole.

This is one equation. A tree of such combinators is its leaves in turn, with
their values projected to those that the tree keeps (`Sequencing.parser_eq_map`).
It follows from a few laws of `andThen` and `map`, by which each combinator is
a projection of `sequence` and `sequence` may be bracketed either way, and what
is true of the leaves in turn is then an induction on a list.
-/

namespace TextParsers

namespace Parser

variable {α β γ δ : Type}

/-! ## Laws of parsers one after another -/

theorem andThen_assoc (p : Parser α) (next : α → Parser β) (last : β → Parser γ) :
    (p.andThen next).andThen last = p.andThen fun a => (next a).andThen last := by
  refine eq_of_apply_eq fun s => ?_
  simp only [andThen, bind_assoc]
  congr 1
  funext o
  cases o with
  | success a r => rfl
  | failure e r => rfl

theorem succeed_andThen (a : α) (next : α → Parser β) : (succeed a).andThen next = next a :=
  eq_of_apply_eq fun s => pure_bind (Outcome.success a s) _

theorem map_eq_andThen (f : α → β) (p : Parser α) : p.map f = p.andThen fun a => succeed (f a) := by
  refine eq_of_apply_eq fun s => ?_
  simp only [map, andThen]
  congr 1
  funext o
  cases o with
  | success a r => rfl
  | failure e r => rfl

theorem map_andThen (f : α → β) (next : β → Parser γ) (p : Parser α) :
    (p.map f).andThen next = p.andThen fun a => next (f a) := by
  simp only [map_eq_andThen, andThen_assoc, succeed_andThen]

theorem andThen_map (next : α → Parser β) (f : β → γ) (p : Parser α) :
    (p.andThen next).map f = p.andThen fun a => (next a).map f := by
  simp only [map_eq_andThen, andThen_assoc]

theorem map_map (f : α → β) (g : β → γ) (p : Parser α) :
    (p.map f).map g = p.map fun a => g (f a) := by
  simp only [map_eq_andThen, andThen_assoc, succeed_andThen]

theorem map_id (p : Parser α) : (p.map fun a => a) = p := by
  refine eq_of_apply_eq fun s => Logged.ext ?_ (List.append_nil _)
  simp only [map, Logged.value_bind, Logged.value_pure]
  cases (p.apply s).value with
  | success a r => rfl
  | failure e r => rfl

theorem skipLeft_eq_map (p : Parser α) (q : Parser β) :
    p.skipLeft q = (p.sequence q).map Prod.snd := by
  simp only [skipLeft, sequence, andThen_map, map_map, map_id]

theorem skipRight_eq_map (p : Parser α) (q : Parser β) :
    p.skipRight q = (p.sequence q).map Prod.fst := by
  simp only [skipRight, sequence, andThen_map, map_map]

theorem between_eq_skipRight (opening : Parser α) (content : Parser β) (closing : Parser γ) :
    opening.between content closing = (opening.skipLeft content).skipRight closing := by
  simp only [between, skipLeft, skipRight, andThen_assoc]

theorem sequence_assoc (p : Parser α) (q : Parser β) (r : Parser γ) :
    (p.sequence q).sequence r =
      (p.sequence (q.sequence r)).map fun abc => ((abc.1, abc.2.1), abc.2.2) := by
  simp only [sequence, andThen_assoc, map_andThen, andThen_map, map_map]

theorem sequence_map (p : Parser α) (q : Parser β) (f : α → γ) (g : β → δ) :
    (p.map f).sequence (q.map g) = (p.sequence q).map (Prod.map f g) := by
  simp only [sequence, map_andThen, andThen_map, map_map, Prod.map]

theorem succeed_sequence (a : α) (q : Parser β) :
    (succeed a).sequence q = q.map fun b => (a, b) :=
  succeed_andThen a _

theorem sequence_succeed (p : Parser α) (b : β) :
    p.sequence (succeed b) = p.map fun a => (a, b) := by
  simp only [sequence, map_eq_andThen, succeed_andThen]

section

variable {p : Parser α} {q : Parser β} {next : α → Parser β} {f : α → β} {s r : Text} {a : α}
  {b : β} {e : String} {records : List Record}

theorem apply_map_eq_iff {o : Outcome β} :
    (p.map f).apply s = ⟨o, records⟩ ↔ ∃ o', p.apply s = ⟨o', records⟩ ∧ o'.map f = o := by
  rw [apply_map]
  constructor
  · intro h
    cases h
    exact ⟨_, rfl, rfl⟩
  · rintro ⟨o', hp, rfl⟩
    rw [hp]

theorem apply_map_eq_success_iff :
    (p.map f).apply s = ⟨.success b r, records⟩ ↔
      ∃ a, p.apply s = ⟨.success a r, records⟩ ∧ f a = b := by
  rw [apply_map_eq_iff]
  constructor
  · rintro ⟨⟨a, t⟩ | ⟨e, t⟩, hp, h⟩
    · cases h
      exact ⟨a, hp, rfl⟩
    · cases h
  · rintro ⟨a, hp, rfl⟩
    exact ⟨.success a r, hp, rfl⟩

theorem apply_map_eq_failure_iff :
    (p.map f).apply s = ⟨.failure e r, records⟩ ↔ p.apply s = ⟨.failure e r, records⟩ := by
  rw [apply_map_eq_iff]
  constructor
  · rintro ⟨⟨a, t⟩ | ⟨e', t⟩, hp, h⟩
    · cases h
    · cases h
      exact hp
  · intro hp
    exact ⟨.failure e r, hp, rfl⟩

/-- The first parser fails for both, or the second goes on where it stopped. -/
theorem apply_andThen_eq_iff {o : Outcome β} :
    (p.andThen next).apply s = ⟨o, records⟩ ↔
      (∃ e t, p.apply s = ⟨.failure e t, records⟩ ∧ o = .failure e t) ∨
        ∃ a t own later, p.apply s = ⟨.success a t, own⟩ ∧ (next a).apply t = ⟨o, later⟩ ∧
          records = own ++ later := by
  have hbind : (p.andThen next).apply s =
      (p.apply s >>= fun o' => o'.andThen fun v rest => (next v).apply rest) := rfl
  rw [hbind]
  rcases p.apply s with ⟨⟨a, t⟩ | ⟨e, t⟩, own⟩
  · constructor
    · intro h
      cases h
      exact Or.inr ⟨a, t, own, _, rfl, rfl, rfl⟩
    · rintro (⟨e, u, h, -⟩ | ⟨a', u, own', later, h, hnext, rfl⟩)
      · cases h
      · cases h
        refine Logged.ext ?_ ?_
        · simp [Outcome.andThen, hnext]
        · simp [Outcome.andThen, hnext]
  · constructor
    · intro h
      cases h
      exact Or.inl ⟨e, t, Logged.ext rfl (List.append_nil own).symm, rfl⟩
    · rintro (⟨e', u, h, rfl⟩ | ⟨a, u, own', later, h, -⟩)
      · cases h
        exact Logged.ext rfl (List.append_nil _)
      · cases h

theorem apply_sequence_eq_success_iff :
    (p.sequence q).apply s = ⟨.success (a, b) r, records⟩ ↔
      ∃ t own later, p.apply s = ⟨.success a t, own⟩ ∧ q.apply t = ⟨.success b r, later⟩ ∧
        records = own ++ later := by
  rw [sequence, apply_andThen_eq_iff]
  constructor
  · rintro (⟨e, t, -, h⟩ | ⟨a', t, own, later, hp, hq, rfl⟩)
    · cases h
    · obtain ⟨b', hq, h⟩ := apply_map_eq_success_iff.1 hq
      cases h
      exact ⟨t, own, later, hp, hq, rfl⟩
  · rintro ⟨t, own, later, hp, hq, rfl⟩
    exact Or.inr ⟨a, t, own, later, hp, apply_map_eq_success_iff.2 ⟨b, hq, rfl⟩, rfl⟩

theorem apply_sequence_eq_failure_iff :
    (p.sequence q).apply s = ⟨.failure e r, records⟩ ↔
      p.apply s = ⟨.failure e r, records⟩ ∨
        ∃ a t own later, p.apply s = ⟨.success a t, own⟩ ∧ q.apply t = ⟨.failure e r, later⟩ ∧
          records = own ++ later := by
  rw [sequence, apply_andThen_eq_iff]
  constructor
  · rintro (⟨e', t, hp, h⟩ | ⟨a, t, own, later, hp, hq, rfl⟩)
    · cases h
      exact Or.inl hp
    · exact Or.inr ⟨a, t, own, later, hp, apply_map_eq_failure_iff.1 hq, rfl⟩
  · rintro (hp | ⟨a, t, own, later, hp, hq, rfl⟩)
    · exact Or.inl ⟨e, r, hp, rfl⟩
    · exact Or.inr ⟨a, t, own, later, hp, apply_map_eq_failure_iff.2 hq, rfl⟩

end

end Parser

open TextParsers.Parser

/-! ## Parsers in turn -/

/-- A parser with values of a type of its own. -/
structure Part where
  {type : Type}
  parser : Parser type

/-- One value for each part. The values of `p :: ps` are pairs in every proof, without a lemma that
says so. -/
@[reducible]
def Values : List Part → Type
  | [] => Unit
  | p :: ps => p.type × Values ps

/-- The values of the parts of either list. -/
def Values.split : (ps qs : List Part) → Values (ps ++ qs) → Values ps × Values qs
  | [], _, vs => ((), vs)
  | _ :: ps, qs, (v, vs) => ((v, (split ps qs vs).1), (split ps qs vs).2)

/-- From `s` on, each part takes something of what the part before has left, and the last leaves
`r`. -/
def TakesInTurn : (ps : List Part) → Text → Values ps → Text → List Record → Prop
  | [], s, _, r, records => r = s ∧ records = []
  | p :: ps, s, (v, vs), r, records =>
      ∃ t own later, p.parser.apply s = ⟨.success v t, own⟩ ∧ TakesInTurn ps t vs r later ∧
        records = own ++ later

/-- All parts one after another. -/
def inTurn : (ps : List Part) → Parser (Values ps)
  | [] => succeed ()
  | p :: ps => p.parser.sequence (inTurn ps)

section

variable {ps qs : List Part} {s r : Text} {e : String} {records : List Record} {α β : Type}

theorem apply_inTurn_eq_success_iff {vs : Values ps} :
    (inTurn ps).apply s = ⟨.success vs r, records⟩ ↔ TakesInTurn ps s vs r records := by
  induction ps generalizing s records with
  | nil =>
      simp only [inTurn, succeed, apply_ofOutcome, TakesInTurn]
      constructor
      · intro h
        cases h
        exact ⟨rfl, rfl⟩
      · rintro ⟨rfl, rfl⟩
        rfl
  | cons p ps ih =>
      obtain ⟨v, vs⟩ := vs
      refine apply_sequence_eq_success_iff.trans ?_
      simp only [ih, TakesInTurn]

theorem apply_inTurn_eq_failure_iff :
    (inTurn ps).apply s = ⟨.failure e r, records⟩ ↔
      ∃ before p after vs t earlier own, ps = before ++ p :: after ∧
        TakesInTurn before s vs t earlier ∧ p.parser.apply t = ⟨.failure e r, own⟩ ∧
        records = earlier ++ own := by
  induction ps generalizing s records with
  | nil => simp [inTurn, succeed]
  | cons p ps ih =>
      -- Either `p` itself fails, and no part is before it, or it is one of those that take
      -- something before the one that fails.
      refine apply_sequence_eq_failure_iff.trans ?_
      constructor
      · rintro (hp | ⟨v, t, own, later, hp, hlater, rfl⟩)
        · exact ⟨[], p, ps, (), s, [], records, rfl, ⟨rfl, rfl⟩, hp, rfl⟩
        · obtain ⟨before, q, after, vs, u, earlier, last, rfl, hbefore, hq, rfl⟩ := ih.1 hlater
          exact ⟨p :: before, q, after, (v, vs), u, own ++ earlier, last, rfl,
            ⟨t, own, earlier, hp, hbefore, rfl⟩, hq, (List.append_assoc _ _ _).symm⟩
      · rintro ⟨before, q, after, vs, u, earlier, last, hps, hbefore, hq, rfl⟩
        cases before with
        | nil =>
            obtain ⟨rfl, rfl⟩ := hbefore
            cases hps
            exact Or.inl hq
        | cons p' before =>
            cases hps
            obtain ⟨v, vs⟩ := vs
            obtain ⟨t, own, later, hp, hbefore, rfl⟩ := hbefore
            exact Or.inr ⟨v, t, own, later ++ last, hp,
              ih.2 ⟨before, q, after, vs, u, later, last, rfl, hbefore, hq, rfl⟩,
              List.append_assoc _ _ _⟩

theorem inTurn_append (ps qs : List Part) :
    (inTurn (ps ++ qs)).map (Values.split ps qs) = (inTurn ps).sequence (inTurn qs) := by
  induction ps with
  | nil => exact (succeed_sequence () (inTurn qs)).symm
  | cons p ps ih =>
      calc (p.parser.sequence (inTurn (ps ++ qs))).map (Values.split (p :: ps) qs)
          = (p.parser.sequence ((inTurn (ps ++ qs)).map (Values.split ps qs))).map
              fun vw => ((vw.1, vw.2.1), vw.2.2) := by
            simp only [Parser.sequence, Parser.map_map, andThen_map]
            rfl
        _ = (p.parser.sequence ((inTurn ps).sequence (inTurn qs))).map
              fun vw => ((vw.1, vw.2.1), vw.2.2) := by
            rw [ih]
        _ = (p.parser.sequence (inTurn ps)).sequence (inTurn qs) :=
            (sequence_assoc _ _ _).symm

theorem sequence_inTurn (f : Values ps → α) (g : Values qs → β) :
    ((inTurn ps).map f).sequence ((inTurn qs).map g) =
      (inTurn (ps ++ qs)).map fun vs =>
        (f (Values.split ps qs vs).1, g (Values.split ps qs vs).2) := by
  rw [sequence_map, ← inTurn_append, map_map]
  rfl

end

/-! ## Trees of sequences -/

/-- Parsers put one after another, with their brackets and with the sides that are kept. -/
inductive Sequencing : Type → Type 1 where
  | leaf {α : Type} (p : Parser α) : Sequencing α
  | sequence {α β : Type} (first : Sequencing α) (second : Sequencing β) : Sequencing (α × β)
  | skipLeft {α β : Type} (first : Sequencing α) (second : Sequencing β) : Sequencing β
  | skipRight {α β : Type} (first : Sequencing α) (second : Sequencing β) : Sequencing α
  | between {α β γ : Type} (opening : Sequencing α) (content : Sequencing β)
      (closing : Sequencing γ) : Sequencing β

namespace Sequencing

/-- The parser that a tree is. -/
def parser {α : Type} : Sequencing α → Parser α
  | leaf p => p
  | sequence first second => first.parser.sequence second.parser
  | skipLeft first second => first.parser.skipLeft second.parser
  | skipRight first second => first.parser.skipRight second.parser
  | between opening content closing => opening.parser.between content.parser closing.parser

/-- The parsers at the leaves, from left to right. -/
def parts {α : Type} : Sequencing α → List Part
  | leaf p => [⟨p⟩]
  | sequence first second | skipLeft first second | skipRight first second =>
      first.parts ++ second.parts
  | between opening content closing => opening.parts ++ (content.parts ++ closing.parts)

/-- The value of a tree whose leaves have these values. -/
def project {α : Type} : (t : Sequencing α) → Values t.parts → α
  | leaf _, vs => vs.1
  | sequence first second, vs =>
      (first.project (Values.split _ _ vs).1, second.project (Values.split _ _ vs).2)
  | skipLeft _ second, vs => second.project (Values.split _ _ vs).2
  | skipRight first _, vs => first.project (Values.split _ _ vs).1
  | between _ content _, vs =>
      content.project (Values.split _ _ (Values.split _ _ vs).2).1

theorem parser_eq_map {α : Type} (t : Sequencing α) :
    t.parser = (inTurn t.parts).map t.project := by
  induction t with
  | leaf p =>
      calc p
          = p.map fun a => a := (map_id p).symm
        _ = (p.sequence (succeed ())).map fun vs => vs.1 := by rw [sequence_succeed, map_map]
  | sequence first second hfirst hsecond =>
      calc first.parser.sequence second.parser
          = ((inTurn first.parts).map first.project).sequence
              ((inTurn second.parts).map second.project) := by rw [← hfirst, ← hsecond]
        _ = (inTurn (first.sequence second).parts).map (first.sequence second).project :=
            sequence_inTurn _ _
  | skipLeft first second hfirst hsecond =>
      rw [parser, hfirst, hsecond, skipLeft_eq_map, sequence_inTurn, map_map]
      rfl
  | skipRight first second hfirst hsecond =>
      rw [parser, hfirst, hsecond, skipRight_eq_map, sequence_inTurn, map_map]
      rfl
  | between opening content closing hopening hcontent hclosing =>
      rw [parser, hopening, hcontent, hclosing, between_eq, skipLeft_eq_map,
        skipRight_eq_map, sequence_inTurn, map_map, sequence_inTurn, map_map]
      rfl

/-- The last leaf to be applied decides what is left, and with the leaves before it what is
recorded; only the value depends on the tree. -/
theorem lockstep_of_parts_eq {α β : Type} {t : Sequencing α} {t' : Sequencing β}
    (h : t.parts = t'.parts) : t.parser.Lockstep (fun _ _ => True) Eq t'.parser := by
  rw [parser_eq_map t, parser_eq_map t']
  -- The types of the projections contain the parts, which can be replaced for any two of them.
  generalize t.project = f
  generalize t'.project = g
  revert f g
  rw [h]
  intro f g
  exact (lockstep_self (fun _ => rfl) (fun _ => rfl) _).map fun _ _ _ => trivial

/-- A tree of sequences applies its leaves from left to right, each to what the one before it has
left. If all of them succeed, the value is the projection of theirs that the tree keeps, and the
records are theirs in order. The first leaf that fails is the failure of the whole, with its message
and its place, and no later leaf is applied. So trees with the same leaves go in lockstep whatever
they keep. Brackets are a sequence bracketed either way, and skipping a side is a sequence of which
the other side is kept. -/
theorem applies_leaves_in_turn {α : Type} (t : Sequencing α) :
    (∀ s v r records, t.parser.apply s = ⟨.success v r, records⟩ ↔
      ∃ vs, TakesInTurn t.parts s vs r records ∧ t.project vs = v) ∧
    (∀ s e r records, t.parser.apply s = ⟨.failure e r, records⟩ ↔
      ∃ before p after vs u earlier own, t.parts = before ++ p :: after ∧
        TakesInTurn before s vs u earlier ∧ p.parser.apply u = ⟨.failure e r, own⟩ ∧
        records = earlier ++ own) ∧
    (∀ (β : Type) (t' : Sequencing β), t.parts = t'.parts →
      t.parser.Lockstep (fun _ _ => True) Eq t'.parser) ∧
    ∀ (β γ δ : Type) (o : Parser β) (c : Parser γ) (k : Parser δ),
      o.between c k = (o.skipLeft c).skipRight k ∧ o.between c k = o.skipLeft (c.skipRight k) ∧
      o.skipLeft c = (o.sequence c).map Prod.snd ∧
      o.skipRight c = (o.sequence c).map Prod.fst := by
  refine ⟨?_, ?_, fun _ _ => lockstep_of_parts_eq, fun _ _ _ o c k => ⟨?_, ?_, ?_, ?_⟩⟩
  · intro s v r records
    rw [parser_eq_map, apply_map_eq_success_iff]
    simp only [apply_inTurn_eq_success_iff]
  · intro s e r records
    rw [parser_eq_map, apply_map_eq_failure_iff, apply_inTurn_eq_failure_iff]
  · exact between_eq_skipRight o c k
  · exact between_eq o c k
  · exact skipLeft_eq_map o c
  · exact skipRight_eq_map o c

/-- Two trees over the same three leaves, of which the one in the middle takes nothing and notes it.
The last leaf decides how far both come, and the note stands in front of a failure too. -/
theorem applies_leaves_in_turn_of_three :
    (((leaf letters).skipRight (leaf (literal "").many)).sequence (leaf integer)).parser.apply
        (Text.ofString "é7!") =
      ⟨.success ("é", 7) (Text.ofString "!"), [.zeroWidth .many 2]⟩ ∧
    (((leaf letters).skipRight (leaf (literal "").many)).sequence (leaf integer)).parser.apply
        (Text.ofString "é!") =
      ⟨.failure "Expected: integer value" (Text.ofString "!"), [.zeroWidth .many 1]⟩ ∧
    (((leaf letters).skipRight (leaf (literal "").many)).sequence (leaf integer)).parser.Lockstep
      (fun _ _ => True) Eq
      ((leaf letters).between (leaf (literal "").many) (leaf integer)).parser := by
  obtain ⟨htakes, hfails, hsame, -⟩ := applies_leaves_in_turn
    (((leaf letters).skipRight (leaf (literal "").many)).sequence (leaf integer))
  have hname : letters.apply (Text.ofString "é7!") = ⟨.success "é" (Text.ofString "7!"), []⟩ :=
    Logged.ext (by decide +kernel) rfl
  have hnote : (literal "").many.apply (Text.ofString "7!") =
      ⟨.success [""] (Text.ofString "7!"), [.zeroWidth .many 2]⟩ :=
    Logged.ext (by decide +kernel) (by decide +kernel)
  have hnumber : integer.apply (Text.ofString "7!") = ⟨.success 7 (Text.ofString "!"), []⟩ :=
    Logged.ext (by decide +kernel) rfl
  have hname' : letters.apply (Text.ofString "é!") = ⟨.success "é" (Text.ofString "!"), []⟩ :=
    Logged.ext (by decide +kernel) rfl
  have hnote' : (literal "").many.apply (Text.ofString "!") =
      ⟨.success [""] (Text.ofString "!"), [.zeroWidth .many 1]⟩ :=
    Logged.ext (by decide +kernel) (by decide +kernel)
  have hnumber' : integer.apply (Text.ofString "!") =
      ⟨.failure "Expected: integer value" (Text.ofString "!"), []⟩ :=
    Logged.ext (by decide +kernel) rfl
  refine ⟨?_, ?_, hsame _ _ rfl⟩
  · exact (htakes _ _ _ _).2 ⟨("é", [""], 7, ()),
      ⟨_, _, _, hname, ⟨_, _, _, hnote, ⟨_, _, _, hnumber, ⟨rfl, rfl⟩, rfl⟩, rfl⟩, rfl⟩, rfl⟩
  · exact (hfails _ _ _ _).2 ⟨[⟨letters⟩, ⟨(literal "").many⟩], ⟨integer⟩, [],
      ("é", [""], ()), _, _, _, rfl,
      ⟨_, _, _, hname', ⟨_, _, _, hnote', ⟨rfl, rfl⟩, rfl⟩, rfl⟩, hnumber', rfl⟩

end Sequencing

end TextParsers
