import TextParsers.Parser.Primitive
import TextParsers.Parser.Repetition
import TextParsers.Proofs.Takes

/-!
# Choices without their brackets

A choice between several parsers is written as a tree of choices between two.
Its brackets mean nothing: the leaves are tried from left to right, each on the
text that the choice was given, and the first that succeeds decides. That the
messages come out alike as well is not evident from the combinator, which
joins them on one side only and always keeps the place of the other.

All of it rests on `oneOf_assoc`, where both sides are the same parser, with
their messages and records. With it every tree is bracketed to the right, as a
fold over its leaves (`Choice.parser_eq_foldr`), and in a fold a number of
failing parsers leave to the one after them the text they were given, with
their records and their messages in front of its own
(`apply_foldr_oneOf_of_fails`).
-/

namespace TextParsers

namespace Parser

variable {α : Type} {p q : Parser α} {s t : Text} {v : α} {e : String}

theorem apply_oneOf_of_takes (h : p.Takes s v t) (q : Parser α) :
    (p.oneOf q).apply s = p.apply s := by
  rw [Takes] at h
  refine Logged.ext ?_ ?_
  · simp [oneOf, h]
  · simp [oneOf, h]

theorem apply_oneOf_of_fails (h : p.Fails s e t) (q : Parser α) :
    (p.oneOf q).apply s =
      ⟨(q.apply s).value.mapExpected fun second => e ++ ", " ++ second,
        (p.apply s).records ++ (q.apply s).records⟩ := by
  rw [Fails] at h
  refine Logged.ext ?_ ?_
  · simp [oneOf, h]
  · simp [oneOf, h]

theorem oneOf_assoc (p q r : Parser α) : (p.oneOf q).oneOf r = p.oneOf (q.oneOf r) := by
  refine eq_of_apply_eq fun s => ?_
  rcases takes_or_fails p s with ⟨v, t, hp⟩ | ⟨e, t, hp⟩
  · have hpq : (p.oneOf q).Takes s v t := takes_oneOf.2 (Or.inl hp)
    rw [apply_oneOf_of_takes hpq, apply_oneOf_of_takes hp, apply_oneOf_of_takes hp]
  · rcases takes_or_fails q s with ⟨v, u, hq⟩ | ⟨d, u, hq⟩
    · have hpq : (p.oneOf q).Takes s v u := takes_oneOf.2 (Or.inr ⟨⟨e, t, hp⟩, hq⟩)
      rw [apply_oneOf_of_takes hpq, apply_oneOf_of_fails hp, apply_oneOf_of_fails hp,
        apply_oneOf_of_takes hq]
    · have hpq : (p.oneOf q).Fails s (e ++ ", " ++ d) u :=
        fails_oneOf.2 ⟨e, t, d, hp, hq, rfl⟩
      rw [apply_oneOf_of_fails hpq, apply_oneOf_of_fails hp, apply_oneOf_of_fails hp,
        apply_oneOf_of_fails hq]
      simp only [Outcome.mapExpected_mapExpected, String.append_assoc, List.append_assoc]

/-! What alternatives that fail leave to a parser after them: their records come before its own,
and if it fails as well their messages come before its own. -/

theorem apply_foldr_oneOf_of_takes {ps : List (Parser α)}
    (hps : ∀ p ∈ ps, ∃ e t, p.Fails s e t) (hq : q.Takes s v t) :
    (ps.foldr oneOf q).apply s =
      ⟨.success v t, (ps.flatMap fun p => (p.apply s).records) ++ (q.apply s).records⟩ := by
  induction ps with
  | nil => exact Logged.ext hq rfl
  | cons p ps ih =>
      obtain ⟨e, u, hp⟩ := hps p List.mem_cons_self
      have hrest := ih fun p' hp' => hps p' (List.mem_cons_of_mem _ hp')
      rw [List.foldr_cons, apply_oneOf_of_fails hp, hrest, List.flatMap_cons, List.append_assoc]
      rfl

theorem apply_foldr_oneOf_of_fails {ps : List (Parser α)} {message : Parser α → String}
    (hps : ∀ p ∈ ps, ∃ u, p.Fails s (message p) u) (hq : q.Fails s e t) :
    (ps.foldr oneOf q).apply s =
      ⟨.failure (", ".intercalate (ps.map message ++ [e])) t,
        (ps.flatMap fun p => (p.apply s).records) ++ (q.apply s).records⟩ := by
  induction ps with
  | nil =>
      rw [List.map_nil, List.nil_append, String.intercalate_singleton]
      exact Logged.ext hq rfl
  | cons p ps ih =>
      obtain ⟨u, hp⟩ := hps p List.mem_cons_self
      have hrest := ih fun p' hp' => hps p' (List.mem_cons_of_mem _ hp')
      have hne : ps.map message ++ [e] ≠ [] := List.append_ne_nil_of_right_ne_nil _ (by simp)
      rw [List.foldr_cons, apply_oneOf_of_fails hp, hrest, List.map_cons, List.cons_append,
        String.intercalate_cons_of_ne_nil hne, List.flatMap_cons, List.append_assoc]
      rfl

end Parser

open TextParsers.Parser

/-- A choice, with its brackets. -/
inductive Choice (α : Type) where
  | leaf (p : Parser α)
  | oneOf (first second : Choice α)

namespace Choice

variable {α : Type}

/-- The parser that a choice is. -/
def parser : Choice α → Parser α
  | leaf p => p
  | oneOf first second => first.parser.oneOf second.parser

/-- The parsers that are chosen between, from left to right. -/
def leaves : Choice α → List (Parser α)
  | leaf p => [p]
  | oneOf first second => first.leaves ++ second.leaves

theorem parser_oneOf_eq_foldr (c : Choice α) (q : Parser α) :
    c.parser.oneOf q = c.leaves.foldr Parser.oneOf q := by
  induction c generalizing q with
  | leaf p => rfl
  | oneOf first second hfirst hsecond =>
      rw [parser, leaves, oneOf_assoc, hsecond, hfirst, List.foldr_append]

theorem exists_leaves_eq_concat (c : Choice α) : ∃ ps p, c.leaves = ps ++ [p] := by
  induction c with
  | leaf p => exact ⟨[], p, rfl⟩
  | oneOf first second _ hsecond =>
      obtain ⟨ps, p, h⟩ := hsecond
      exact ⟨first.leaves ++ ps, p, by rw [leaves, h, List.append_assoc]⟩

/-- A choice is bracketed to the right, its last leaf innermost. -/
theorem parser_eq_foldr {c : Choice α} {ps : List (Parser α)} {p : Parser α}
    (h : c.leaves = ps ++ [p]) : c.parser = ps.foldr Parser.oneOf p := by
  induction c generalizing ps with
  | leaf q =>
      have h : [] ++ [q] = ps ++ [p] := h
      obtain ⟨rfl, hqp⟩ := List.append_inj' h rfl
      exact (List.cons.inj hqp).1
  | oneOf first second _ hsecond =>
      obtain ⟨qs, q, hq⟩ := second.exists_leaves_eq_concat
      rw [leaves, hq, ← List.append_assoc] at h
      obtain ⟨rfl, hqp⟩ := List.append_inj' h rfl
      obtain rfl := (List.cons.inj hqp).1
      rw [parser, hsecond hq, parser_oneOf_eq_foldr, List.foldr_append]

/-! ## What a choice does -/

section

variable {c : Choice α} {s r : Text}

theorem apply_of_takes {ps qs : List (Parser α)} {p : Parser α} {v : α}
    (hleaves : c.leaves = ps ++ p :: qs) (hps : ∀ q ∈ ps, ∃ e t, q.Fails s e t)
    (hp : p.Takes s v r) :
    c.parser.apply s = ⟨.success v r, (ps ++ [p]).flatMap fun q => (q.apply s).records⟩ := by
  have hrecords : ((ps ++ [p]).flatMap fun q => (q.apply s).records) =
      (ps.flatMap fun q => (q.apply s).records) ++ (p.apply s).records := by
    rw [List.flatMap_append, List.flatMap_singleton]
  rw [hrecords]
  rcases List.eq_nil_or_concat qs with rfl | ⟨qs, q, rfl⟩
  · rw [parser_eq_foldr hleaves]
    exact apply_foldr_oneOf_of_takes hps hp
  · -- The leaves after `p` are a choice of their own, and it stands on the right of `p`.
    rw [List.concat_eq_append, ← List.cons_append, ← List.append_assoc] at hleaves
    rw [parser_eq_foldr hleaves, List.foldr_append, List.foldr_cons,
      ← apply_oneOf_of_takes hp (qs.foldr Parser.oneOf q)]
    exact apply_foldr_oneOf_of_takes hps (takes_oneOf.2 (Or.inl hp))

theorem apply_of_fails {message : Parser α → String} {place : Parser α → Text} {p : Parser α}
    (h : ∀ q ∈ c.leaves, q.Fails s (message q) (place q)) (hlast : c.leaves.getLast? = some p) :
    c.parser.apply s =
      ⟨.failure (", ".intercalate (c.leaves.map message)) (place p),
        c.leaves.flatMap fun q => (q.apply s).records⟩ := by
  obtain ⟨ps, hleaves⟩ := List.getLast?_eq_some_iff.1 hlast
  rw [parser_eq_foldr hleaves, hleaves]
  rw [hleaves, List.forall_mem_append] at h
  obtain ⟨hps, hp⟩ := h
  rw [apply_foldr_oneOf_of_fails (fun q hq => ⟨place q, hps q hq⟩)
      (hp p (List.mem_singleton_self p)),
    List.map_append, List.flatMap_append, List.flatMap_singleton, List.map_singleton]

end

end Choice

/-- A choice tries its leaves from left to right, all of them on the text it was given. The first
that succeeds decides the value and the rest, and the records are those of the leaves up to it. If
all fail, their messages are joined in order and the failure stands where the last one failed. So
choices with the same leaves in the same order are the same parser, however they are bracketed. -/
theorem Choice.tries_leaves_in_order {α : Type} (c : Choice α) :
    (∀ s ps p qs v r, c.leaves = ps ++ p :: qs → (∀ q ∈ ps, ∃ e t, q.Fails s e t) →
      p.Takes s v r →
      c.parser.apply s = ⟨.success v r, (ps ++ [p]).flatMap fun q => (q.apply s).records⟩) ∧
    (∀ s (message : Parser α → String) (place : Parser α → Text) p,
      (∀ q ∈ c.leaves, q.Fails s (message q) (place q)) → c.leaves.getLast? = some p →
      c.parser.apply s =
        ⟨.failure (", ".intercalate (c.leaves.map message)) (place p),
          c.leaves.flatMap fun q => (q.apply s).records⟩) ∧
    ∀ c' : Choice α, c.leaves = c'.leaves → c.parser = c'.parser := by
  refine ⟨fun s ps p qs v r hleaves hps hp => apply_of_takes hleaves hps hp,
    fun s message place p h hlast => apply_of_fails h hlast, fun c' h => ?_⟩
  obtain ⟨ps, p, hleaves⟩ := c.exists_leaves_eq_concat
  rw [parser_eq_foldr hleaves, parser_eq_foldr (h.symm.trans hleaves)]

/-- Two ways to bracket the same three leaves. In front of `x` the one in the middle decides, and
the last one, which would note a match of nothing, is not tried. In front of `é` all fail, the
first of them after it has taken something. -/
theorem Choice.tries_leaves_in_order_of_three :
    (Choice.oneOf (.oneOf (.leaf ((literal "é").skipLeft (literal "y"))) (.leaf (literal "x")))
        (.leaf ((literal "").many.skipLeft (literal "y")))).parser =
      (Choice.oneOf (.leaf ((literal "é").skipLeft (literal "y")))
        (.oneOf (.leaf (literal "x")) (.leaf ((literal "").many.skipLeft (literal "y"))))).parser ∧
    (Choice.oneOf (.oneOf (.leaf ((literal "é").skipLeft (literal "y"))) (.leaf (literal "x")))
        (.leaf ((literal "").many.skipLeft (literal "y")))).parser.apply (Text.ofString "x") =
      ⟨.success "x" (Text.ofString ""), []⟩ ∧
    (Choice.oneOf (.oneOf (.leaf ((literal "é").skipLeft (literal "y"))) (.leaf (literal "x")))
        (.leaf ((literal "").many.skipLeft (literal "y")))).parser.apply (Text.ofString "éx") =
      ⟨.failure
          "Expected: \"y\" prefix, Expected: \"x\" prefix, Expected: \"y\" prefix"
          (Text.ofString "éx"),
        [.zeroWidth .many 3]⟩ := by
  obtain ⟨htakes, hfails, hsame⟩ := Choice.tries_leaves_in_order
    (.oneOf (.oneOf (.leaf ((literal "é").skipLeft (literal "y"))) (.leaf (literal "x")))
      (.leaf ((literal "").many.skipLeft (literal "y"))))
  refine ⟨hsame _ rfl, ?_, ?_⟩
  · have hfirst : ∀ q ∈ [(literal "é").skipLeft (literal "y")],
        ∃ e t, q.Fails (Text.ofString "x") e t := by
      intro q hq
      rw [List.mem_singleton.1 hq]
      refine ⟨"Expected: \"é\" prefix", Text.ofString "x", ?_⟩
      rw [Fails]
      decide +kernel
    have hsecond : (literal "x").Takes (Text.ofString "x") "x" (Text.ofString "") := by
      rw [Takes]
      decide +kernel
    have hmiddle := htakes _ [(literal "é").skipLeft (literal "y")] _
      [(literal "").many.skipLeft (literal "y")] _ _ rfl hfirst hsecond
    rw [hmiddle]
    exact Logged.ext rfl (by decide +kernel)
  · have hall : ∀ q ∈ [(literal "é").skipLeft (literal "y"), literal "x",
        (literal "").many.skipLeft (literal "y")],
        q.Fails (Text.ofString "éx") ((q.apply (Text.ofString "éx")).value.expected?.getD "")
          (q.apply (Text.ofString "éx")).value.remainder := by
      intro q hq
      simp only [List.mem_cons, List.not_mem_nil, or_false] at hq
      rcases hq with rfl | rfl | rfl
      · rw [Fails]
        decide +kernel
      · rw [Fails]
        decide +kernel
      · rw [Fails]
        decide +kernel
    have hlast := hfails (Text.ofString "éx")
      (fun q => (q.apply (Text.ofString "éx")).value.expected?.getD "")
      (fun q => (q.apply (Text.ofString "éx")).value.remainder) _ hall rfl
    rw [hlast]
    exact Logged.ext (by decide +kernel) (by decide +kernel)

end TextParsers
