import TextParsers.Proofs.Sentences

/-!
# Where reading an assignment stops

A text that is no assignment is read up to some place, and this module says
which places there are. The text is cut in two there. What comes before the
cut is the beginning of a sentence, with all runs as long as they can be. What
comes after it begins with no character that the grammar allows there, which
is a statement on its first character alone.

There are two exceptions, where more than one character was looked at before
the reading stopped, and it stopped before the first of them all the same:
`let` is compared as a whole, and of a number it is only known at its end that
it is too large.

That the parser fails at a cut just when the cut is such a place is shown part
by part, in the order of the parts.
-/

namespace TextParsers

open Text

/-- No number can be read off the text: it does not begin with a digit, or the digits it begins
with denote a number that is too large. -/
def LacksNumber (cs : List Char) : Prop :=
  Stops Char.isDigit cs ∨ Parser.largestInteger < Decimal.value (cs.takeWhile Char.isDigit)

/-- A place at which the reading of a list stops, after its opening bracket. -/
inductive ListStalls : List Char → List Char → Prop where
  /-- Before the first number. -/
  | opening {rest : List Char} :
      LacksNumber rest → Stops (· == ']') rest → ListStalls [] rest
  /-- After a number. -/
  | number {body rest : List Char} {v : Int64} {vs : List Int64} :
      ListBody (IsRun isBlank) body (v :: vs) → Stops Char.isDigit rest →
      Stops (· == ',') rest → Stops (· == ']') rest → ListStalls body rest
  /-- After a comma and the blanks that follow it. -/
  | comma {body u rest : List Char} {v : Int64} {vs : List Int64} :
      ListBody (IsRun isBlank) body (v :: vs) → IsRun isBlank u → Stops isBlank rest →
      LacksNumber rest → ListStalls (body ++ ',' :: u) rest

/-- A place at which the reading of an assignment stops. -/
inductive Stalls : List Char → List Char → Prop where
  /-- At the beginning. -/
  | start {rest : List Char} : ¬ "let".toList <+: rest → Stalls [] rest
  /-- After `let`. -/
  | keyword {rest : List Char} : Stops isBlank rest → Stalls "let".toList rest
  /-- After the blanks that follow `let`. -/
  | gap {w₀ rest : List Char} :
      w₀ ≠ [] → IsRun isBlank w₀ → Stops isBlank rest → Stops isLetter rest →
      Stalls ("let".toList ++ w₀) rest
  /-- After the name and the blanks that follow it. -/
  | name {w₀ n w₁ rest : List Char} :
      IsHeading w₀ n w₁ → Stops isLetter (w₁ ++ rest) → Stops isBlank rest →
      Stops (· == '=') rest → Stalls ("let".toList ++ (w₀ ++ (n ++ w₁))) rest
  /-- After the equals sign and the blanks that follow it. -/
  | equals {w₀ n w₁ w₂ rest : List Char} :
      IsHeading w₀ n w₁ → IsRun isBlank w₂ → Stops isBlank rest → Stops (· == '[') rest →
      Stalls ("let".toList ++ (w₀ ++ (n ++ (w₁ ++ '=' :: w₂)))) rest
  /-- In the list. -/
  | list {w₀ n w₁ w₂ u rest : List Char} :
      IsHeading w₀ n w₁ → IsRun isBlank w₂ → ListStalls u rest →
      Stalls ("let".toList ++ (w₀ ++ (n ++ (w₁ ++ '=' :: (w₂ ++ '[' :: u))))) rest

namespace Parser

variable {α β : Type} {s r t : Text}

/-- `p` fails on `s` and stands at `r`, whatever its expectation. -/
def FailsAt (p : Parser α) (s r : Text) : Prop := ∃ e, p.Fails s e r

section

variable {p : Parser α} {q : Parser β}

theorem failsAt_map {f : α → β} : (p.map f).FailsAt s r ↔ p.FailsAt s r :=
  exists_congr fun _ => fails_map

theorem failsAt_andThen {next : α → Parser β} :
    (p.andThen next).FailsAt s r ↔
      p.FailsAt s r ∨ ∃ a t, p.Takes s a t ∧ (next a).FailsAt t r := by
  simp only [FailsAt, fails_andThen, exists_or]
  refine or_congr_right ⟨fun h => ?_, fun h => ?_⟩
  · obtain ⟨e, a, t, ha, he⟩ := h
    exact ⟨a, t, ha, e, he⟩
  · obtain ⟨a, t, ha, e, he⟩ := h
    exact ⟨e, a, t, ha, he⟩

theorem failsAt_sequence :
    (p.sequence q).FailsAt s r ↔ p.FailsAt s r ∨ ∃ a t, p.Takes s a t ∧ q.FailsAt t r := by
  simp only [sequence, failsAt_andThen, failsAt_map]

theorem failsAt_skipLeft :
    (p.skipLeft q).FailsAt s r ↔ p.FailsAt s r ∨ ∃ a t, p.Takes s a t ∧ q.FailsAt t r :=
  failsAt_andThen

theorem failsAt_skipRight :
    (p.skipRight q).FailsAt s r ↔ p.FailsAt s r ∨ ∃ a t, p.Takes s a t ∧ q.FailsAt t r := by
  simp only [skipRight, failsAt_andThen, failsAt_map]

end

/-! ## Tokens -/

theorem failsAt_literal {u : String} :
    (literal u).FailsAt s r ↔ ¬ u.toList <+: s.chars ∧ r = s := by
  refine ⟨fun h => ?_, fun h => ⟨_, fails_literal.2 ⟨h.1, rfl, h.2⟩⟩⟩
  obtain ⟨e, h⟩ := h
  exact ⟨(fails_literal.1 h).1, (fails_literal.1 h).2.2⟩

/-- A sign is missing where the text begins with another character or is at its end. -/
theorem failsAt_sign {u : String} {c : Char} (hu : u.toList = [c]) :
    (literal u).FailsAt s r ↔ Stops (· == c) s.chars ∧ r = s := by
  rw [failsAt_literal, hu]
  refine and_congr_left fun _ => ?_
  cases s.chars with
  | nil => simp
  | cons d cs => simp [List.cons_prefix_cons, eq_comm (a := d)]

theorem failsAt_charsWhile {q : Char → Bool} {expected : String} :
    (charsWhile q expected).FailsAt s r ↔ Stops q s.chars ∧ r = s := by
  refine ⟨fun h => ?_, fun h => ⟨_, fails_charsWhile.2 ⟨h.1, rfl, h.2⟩⟩⟩
  obtain ⟨e, h⟩ := h
  exact ⟨(fails_charsWhile.1 h).1, (fails_charsWhile.1 h).2.2⟩

theorem not_failsAt_spaces : ¬ spaces.FailsAt s r := by
  intro h
  obtain ⟨e, h⟩ := failsAt_map.1 h
  exact not_fails_many leavesSuffix_charsWhile h

theorem failsAt_integer : integer.FailsAt s r ↔ LacksNumber s.chars ∧ r = s := by
  simp only [FailsAt, Fails, apply_integer, LacksNumber]
  by_cases hnil : s.takeWhile Char.isDigit = []
  · rw [if_pos hnil]
    have hstop : Stops Char.isDigit s.chars := takeWhile_eq_nil_iff.1 hnil
    simp [hstop, eq_comm]
  · rw [if_neg hnil]
    have hstop : ¬ Stops Char.isDigit s.chars := mt takeWhile_eq_nil_iff.2 hnil
    by_cases hle : Decimal.value (s.takeWhile Char.isDigit) ≤ largestInteger
    · rw [if_pos hle]
      have hlt : ¬ largestInteger < Decimal.value (s.chars.takeWhile Char.isDigit) :=
        Nat.not_lt.2 hle
      simp [hstop, hlt]
    · rw [if_neg hle]
      have hlt : largestInteger < Decimal.value (s.chars.takeWhile Char.isDigit) :=
        Nat.lt_of_not_le hle
      simp [hlt, eq_comm]

/-! ## Before the list -/

theorem failsAt_skipRight_spaces {p : Parser α} :
    (p.skipRight spaces).FailsAt s r ↔ p.FailsAt s r := by
  rw [failsAt_skipRight]
  refine ⟨fun h => ?_, Or.inl⟩
  rcases h with h | ⟨a, t, -, h⟩
  · exact h
  · exact absurd h not_failsAt_spaces

theorem failsAt_keyword :
    ((literal "let").sequence whitespace).FailsAt s r ↔
      ¬ "let".toList <+: s.chars ∧ r = s ∨
        Stops isBlank r.chars ∧ "let".toList ++ r.chars = s.chars := by
  rw [failsAt_sequence, failsAt_literal]
  refine or_congr_right ⟨fun h => ?_, fun h => ?_⟩
  · obtain ⟨a, t, hlet, hgap⟩ := h
    obtain ⟨hstop, rfl⟩ := failsAt_charsWhile.1 hgap
    exact ⟨hstop, (takes_literal.1 hlet).2⟩
  · obtain ⟨hstop, happ⟩ := h
    exact ⟨"let", r, takes_literal.2 ⟨rfl, happ⟩, failsAt_charsWhile.2 ⟨hstop, rfl⟩⟩

theorem failsAt_heading :
    heading.FailsAt s r ↔
      ((literal "let").sequence whitespace).FailsAt s r ∨
        ∃ w₀, (w₀ ≠ [] ∧ IsRun isBlank w₀) ∧ Stops isBlank r.chars ∧ Stops isLetter r.chars ∧
          "let".toList ++ (w₀ ++ r.chars) = s.chars := by
  rw [heading, failsAt_skipLeft]
  refine or_congr_right ⟨fun h => ?_, fun h => ?_⟩
  · obtain ⟨b, t, hlet, hname⟩ := h
    obtain ⟨hletter, rfl⟩ := failsAt_charsWhile.1 (failsAt_skipRight_spaces.1 hname)
    obtain ⟨w₀, hw₀, hblank, happ⟩ := takes_keyword.1 ⟨b, hlet⟩
    exact ⟨w₀, hw₀, hblank, hletter, happ⟩
  · obtain ⟨w₀, hw₀, hblank, hletter, happ⟩ := h
    obtain ⟨b, hlet⟩ := takes_keyword.2 ⟨w₀, hw₀, hblank, happ⟩
    exact ⟨b, r, hlet, failsAt_skipRight_spaces.2 (failsAt_charsWhile.2 ⟨hletter, rfl⟩)⟩

theorem failsAt_header :
    header.FailsAt s r ↔
      heading.FailsAt s r ∨
        ∃ w₀ n w₁, IsHeading w₀ n w₁ ∧ Stops isLetter (w₁ ++ r.chars) ∧ Stops isBlank r.chars ∧
          Stops (· == '=') r.chars ∧
          "let".toList ++ (w₀ ++ (n ++ (w₁ ++ r.chars))) = s.chars := by
  rw [header, failsAt_skipRight]
  refine or_congr_right ⟨fun h => ?_, fun h => ?_⟩
  · obtain ⟨n, t, hn, hequals⟩ := h
    obtain ⟨hsign, rfl⟩ := (failsAt_sign rfl).1 (failsAt_skipRight_spaces.1 hequals)
    obtain ⟨w₀, w₁, hparts, hletter, hblank, happ⟩ := takes_heading.1 hn
    exact ⟨w₀, n.toList, w₁, hparts, hletter, hblank, hsign, happ⟩
  · obtain ⟨w₀, n, w₁, hparts, hletter, hblank, hsign, happ⟩ := h
    have hn : heading.Takes s (String.ofList n) r :=
      takes_heading.2 ⟨w₀, w₁, by simpa using hparts, hletter, hblank, by simpa using happ⟩
    exact ⟨_, r, hn, failsAt_skipRight_spaces.2 ((failsAt_sign rfl).2 ⟨hsign, rfl⟩)⟩

/-! ## In the list

Between two numbers the reading can only break off behind the comma. Before
the comma it ends, and then the closing bracket is missing. -/

section

variable {gap : Parser α} {gaps : List Char → Prop}

theorem numberRound_broken_iff (hgap : gap.TakesGaps gaps) :
    (∃ e, (numberRound gap s).value = .broken e r) ↔
      ∃ u, gaps u ∧ Stops isBlank r.chars ∧ LacksNumber r.chars ∧
        ',' :: (u ++ r.chars) = s.chars := by
  simp only [numberRound, separatedRound_broken]
  refine ⟨fun h => ?_, fun h => ?_⟩
  · obtain ⟨e, b, t, hsep, he⟩ := h
    obtain ⟨hlacks, rfl⟩ := failsAt_integer.1 ⟨e, he⟩
    obtain ⟨u, hu, hblank, happ⟩ := (takes_token hgap).1 ⟨b, hsep⟩
    exact ⟨u, hu, hblank, hlacks, happ⟩
  · obtain ⟨u, hu, hblank, hlacks, happ⟩ := h
    have hsep : ∃ b, ((literal ",").sequence gap).Takes s b r :=
      (takes_token hgap).2 ⟨u, hu, hblank, happ⟩
    obtain ⟨b, hb⟩ := hsep
    obtain ⟨e, he⟩ := failsAt_integer.2 ⟨hlacks, rfl⟩
    exact ⟨e, b, r, hb, he⟩

theorem numberRound_spaces_ended_iff :
    (numberRound spaces s).value = .ended ↔ Stops (· == ',') s.chars := by
  have hsign : ∀ {t : Text}, (literal ",").FailsAt s t ↔ Stops (· == ',') s.chars ∧ t = s :=
    failsAt_sign rfl
  rw [numberRound, separatedRound_ended]
  refine ⟨fun h => ?_, fun h => ?_⟩
  · obtain ⟨d, t, h⟩ := h
    rcases failsAt_sequence.1 ⟨d, h⟩ with hcomma | ⟨c, t', -, hgap⟩
    · exact (hsign.1 hcomma).1
    · exact absurd hgap not_failsAt_spaces
  · obtain ⟨d, h⟩ := failsAt_sequence.2 (Or.inl (hsign.2 ⟨h, rfl⟩))
    exact ⟨d, s, h⟩

/-- Rounds fail at a comma after which there is no number, however many went well before. -/
theorem failsAt_numberRounds (hlaw : gap.LeavesSuffix) (hgap : gap.TakesGaps gaps) :
    (repetition .separatedBy (numberRound gap)).FailsAt s r ↔
      ∃ cs vs u, ListTail gaps cs vs ∧ gaps u ∧ Stops isBlank r.chars ∧ LacksNumber r.chars ∧
        cs ++ ',' :: (u ++ r.chars) = s.chars := by
  have hround := numberRound_leavesSuffix hlaw
  refine ⟨fun h => ?_, fun h => ?_⟩
  · -- The first round either breaks here or leaves a shorter text, on which the others fail.
    induction s using size_induction with
    | step s ih =>
        obtain ⟨e, h⟩ := h
        rcases (fails_repetition hround).1 h with hbroken | ⟨v, t, hv, hlt, ht⟩
        · obtain ⟨u, hu, hblank, hlacks, happ⟩ := (numberRound_broken_iff hgap).1 ⟨e, hbroken⟩
          exact ⟨[], [], u, .nil, hu, hblank, hlacks, happ⟩
        · obtain ⟨w, ds, hw, hnum, -, happ⟩ := (numberRound_matched hgap).1 hv
          obtain ⟨cs, vs, u, htail, hu, hblank, hlacks, hcs⟩ := ih t hlt ⟨e, ht⟩
          refine ⟨_, v :: vs, u, .cons hw hnum htail, hu, hblank, hlacks, ?_⟩
          rw [← happ, ← hcs]
          simp
  · obtain ⟨cs, vs, u, htail, hu, hblank, hlacks, happ⟩ := h
    induction htail generalizing s with
    | nil =>
        obtain ⟨e, he⟩ := (numberRound_broken_iff hgap).2 ⟨u, hu, hblank, hlacks, happ⟩
        exact ⟨e, (fails_repetition hround).2 (Or.inl he)⟩
    | @cons w ds cs v vs hw hnum htail ih =>
        have hstop : Stops Char.isDigit (cs ++ ',' :: (u ++ r.chars)) :=
          htail.stops_isDigit (stops_cons.2 (by decide))
        have hv : (numberRound gap s).value =
            .matched v (ofChars (cs ++ ',' :: (u ++ r.chars))) := by
          refine (numberRound_matched hgap).2 ⟨w, ds, hw, hnum, hstop, ?_⟩
          rw [← happ]
          simp
        obtain ⟨e, he⟩ := ih (rfl : _ = (ofChars (cs ++ ',' :: (u ++ r.chars))).chars)
        exact ⟨e, (fails_repetition hround).2 (Or.inr ⟨v, _, hv, numberRound_shrinks hgap hv, he⟩)⟩

theorem failsAt_numbers (hlaw : gap.LeavesSuffix) (hgap : gap.TakesGaps gaps) :
    (integer.separatedBy ((literal ",").sequence gap)).FailsAt s r ↔
      ∃ cs v vs u, ListBody gaps cs (v :: vs) ∧ gaps u ∧ Stops isBlank r.chars ∧
        LacksNumber r.chars ∧ cs ++ ',' :: (u ++ r.chars) = s.chars := by
  simp only [FailsAt, fails_separatedBy]
  refine ⟨fun h => ?_, fun h => ?_⟩
  · obtain ⟨e, v, t, hv, ht⟩ := h
    obtain ⟨ds, hnum, -, happ⟩ := takes_integer.1 hv
    obtain ⟨cs, vs, u, htail, hu, hblank, hlacks, hcs⟩ :=
      (failsAt_numberRounds hlaw hgap).1 ⟨e, ht⟩
    refine ⟨_, v, vs, u, .items hnum htail, hu, hblank, hlacks, ?_⟩
    rw [← happ, ← hcs, List.append_assoc]
  · obtain ⟨cs, v, vs, u, hbody, hu, hblank, hlacks, happ⟩ := h
    cases hbody with
    | @items ds cs _ _ hnum htail =>
        let t := ofChars (cs ++ ',' :: (u ++ r.chars))
        have hstop : Stops Char.isDigit t.chars := htail.stops_isDigit (stops_cons.2 (by decide))
        have hv : integer.Takes s v t := takes_integer.2 ⟨ds, hnum, hstop, by
          rw [← happ, List.append_assoc]
          rfl⟩
        obtain ⟨e, he⟩ := (failsAt_numberRounds (s := t) hlaw hgap).2
          ⟨cs, vs, u, htail, hu, hblank, hlacks, rfl⟩
        exact ⟨e, v, t, hv, he⟩

end

theorem failsAt_array :
    (array spaces).FailsAt s r ↔
      Stops (· == '[') s.chars ∧ r = s ∨
        ∃ u, ListStalls u r.chars ∧ '[' :: (u ++ r.chars) = s.chars := by
  have hsign : ∀ {s r : Text}, (literal "]").FailsAt s r ↔ Stops (· == ']') s.chars ∧ r = s :=
    failsAt_sign rfl
  rw [array, between_eq, failsAt_skipLeft, failsAt_sign rfl]
  simp only [failsAt_skipRight, failsAt_numbers leavesSuffix_spaces takesGaps_spaces, hsign]
  refine or_congr_right ⟨fun h => ?_, fun h => ?_⟩
  · obtain ⟨o, t, ho, h⟩ := h
    have hopen : '[' :: t.chars = s.chars := (takes_literal.1 ho).2
    rcases h with ⟨cs, v, vs, u, hbody, hu, hblank, hlacks, happ⟩ | ⟨vs, t', hvs, hclose, rfl⟩
    · refine ⟨_, .comma hbody hu hblank hlacks, ?_⟩
      rw [← hopen, ← happ]
      simp
    · cases vs with
      | nil =>
          -- A number that could not be read was taken for the end of an empty list.
          obtain ⟨⟨d, t', hfails⟩, rfl⟩ := takes_separatedBy_nil.1 hvs
          have hlacks := (failsAt_integer.1 ⟨d, hfails⟩).1
          exact ⟨[], .opening hlacks hclose, hopen⟩
      | cons v vs =>
          obtain ⟨hended, hdigit, cs, hbody, happ⟩ :=
            (takes_numbers_cons leavesSuffix_spaces takesGaps_spaces).1 hvs
          have hcomma := numberRound_spaces_ended_iff.1 hended
          refine ⟨cs, .number hbody hdigit hcomma hclose, ?_⟩
          rw [happ]
          exact hopen
  · obtain ⟨u, hstalls, happ⟩ := h
    obtain ⟨t, ht⟩ : ∃ t : Text, u ++ r.chars = t.chars := ⟨ofChars (u ++ r.chars), rfl⟩
    rw [ht] at happ
    refine ⟨"[", t, takes_literal.2 ⟨rfl, happ⟩, ?_⟩
    cases hstalls with
    | opening hlacks hclose =>
        obtain rfl : r = t := ext ht
        obtain ⟨d, hd⟩ := failsAt_integer.2 ⟨hlacks, rfl⟩
        exact Or.inr ⟨[], r, takes_separatedBy_nil.2 ⟨⟨d, r, hd⟩, rfl⟩, hclose, rfl⟩
    | @number _ _ v vs hbody hdigit hcomma hclose =>
        have hvs := (takes_numbers_cons leavesSuffix_spaces takesGaps_spaces).2
          ⟨numberRound_spaces_ended_iff.2 hcomma, hdigit, u, hbody, ht⟩
        exact Or.inr ⟨v :: vs, r, hvs, hclose, rfl⟩
    | @comma body w _ v vs hbody hw hblank hlacks =>
        exact Or.inl ⟨body, v, vs, w, hbody, hw, hblank, hlacks, by simpa using ht⟩

/-! ## The assignment -/

/-- The parser of assignments fails at a place just when the reading stops there. -/
theorem failsAt_assignment :
    assignment.FailsAt s r ↔ ∃ u, Stalls u r.chars ∧ u ++ r.chars = s.chars := by
  rw [assignment_eq, failsAt_map, failsAt_sequence, failsAt_header, failsAt_heading,
    failsAt_keyword]
  refine ⟨fun h => ?_, fun h => ?_⟩
  · rcases h with (((⟨hno, rfl⟩ | ⟨hblank, happ⟩) | ⟨w₀, ⟨hne₀, hw₀⟩, hblank, hletter, happ⟩) |
      ⟨w₀, n, w₁, hparts, hletter, hblank, hsign, happ⟩) | ⟨n, t, hn, hlist⟩
    · exact ⟨[], .start hno, rfl⟩
    · exact ⟨_, .keyword hblank, happ⟩
    · exact ⟨_, .gap hne₀ hw₀ hblank hletter, by simpa using happ⟩
    · exact ⟨_, .name hparts hletter hblank hsign, by simpa using happ⟩
    · obtain ⟨w₀, w₁, w₂, hparts, hw₂, hblank, happ⟩ := takes_header.1 hn
      rcases failsAt_array.1 hlist with ⟨hsign, rfl⟩ | ⟨u, hstalls, hu⟩
      · exact ⟨_, .equals hparts hw₂ hblank hsign, by simpa using happ⟩
      · refine ⟨_, .list hparts hw₂ hstalls, ?_⟩
        rw [← happ, ← hu]
        simp
  · obtain ⟨u, hstalls, happ⟩ := h
    cases hstalls with
    | start hno =>
        obtain rfl : r = s := ext happ
        exact Or.inl (Or.inl (Or.inl (Or.inl ⟨hno, rfl⟩)))
    | keyword hblank => exact Or.inl (Or.inl (Or.inl (Or.inr ⟨hblank, happ⟩)))
    | @gap w₀ _ hne₀ hw₀ hblank hletter =>
        exact Or.inl (Or.inl (Or.inr ⟨w₀, ⟨hne₀, hw₀⟩, hblank, hletter, by simpa using happ⟩))
    | @name w₀ n w₁ _ hparts hletter hblank hsign =>
        exact Or.inl (Or.inr ⟨w₀, n, w₁, hparts, hletter, hblank, hsign, by simpa using happ⟩)
    | @equals w₀ n w₁ w₂ _ hparts hw₂ hblank hsign =>
        have hn : header.Takes s (String.ofList n) r :=
          takes_header.2 ⟨w₀, w₁, w₂, by simpa using hparts, hw₂, hblank, by simpa using happ⟩
        exact Or.inr ⟨_, r, hn, failsAt_array.2 (Or.inl ⟨hsign, rfl⟩)⟩
    | @list w₀ n w₁ w₂ u _ hparts hw₂ hstalls =>
        let t := ofChars ('[' :: (u ++ r.chars))
        have hblank : Stops isBlank t.chars := stops_cons.2 (by decide)
        have hn : header.Takes s (String.ofList n) t :=
          takes_header.2 ⟨w₀, w₁, w₂, by simpa using hparts, hw₂, hblank, by
            simpa [t] using happ⟩
        exact Or.inr ⟨_, t, hn, failsAt_array.2 (Or.inr ⟨u, hstalls, rfl⟩)⟩

end Parser

end TextParsers
