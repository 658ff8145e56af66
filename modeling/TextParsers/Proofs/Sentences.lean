import TextParsers.Assignment.Grammar
import TextParsers.Proofs.Suffix

/-!
# The sentences of the language of assignments

The parser of assignments never takes a step back: each run is as long as it
can be, and once a comma was taken a number has to follow. The grammar says
nothing of this. It only says which characters a sentence is put together
from, and a text may well be cut into the same parts in more than one order of
thought. That both accept the same is the statement of this module.

What makes it true is that a part of a sentence always stops the run before
it: a letter ends the blanks after `let`, a blank or the equals sign ends the
name, a comma or the closing bracket ends a number, a digit ends the blanks
after a comma. So the longest run is the only one that leaves a text on which
the next parser can succeed, and nothing is lost by taking it.
-/

namespace TextParsers

open Text

/-! ## The grammar -/

/-- Numbers, each with a comma and a gap before it. -/
inductive ListTail (gap : List Char → Prop) : List Char → List Int64 → Prop where
  | nil : ListTail gap [] []
  | cons {u ds cs : List Char} {v : Int64} {vs : List Int64} :
      gap u → Parser.Numeral ds v → ListTail gap cs vs →
      ListTail gap (',' :: (u ++ (ds ++ cs))) (v :: vs)

/-- What stands between the brackets: nothing, or numbers with a comma and a gap between each
two. -/
inductive ListBody (gap : List Char → Prop) : List Char → List Int64 → Prop where
  | empty : ListBody gap [] []
  | items {ds cs : List Char} {v : Int64} {vs : List Int64} :
      Parser.Numeral ds v → ListTail gap cs vs → ListBody gap (ds ++ cs) (v :: vs)

/-- The text of an assignment, with blanks of any length where there may be some. -/
inductive Sentence : List Char → Assignment → Prop where
  | intro {w₀ w₁ w₂ body : List Char} {a : Assignment} :
      w₀ ≠ [] → IsRun isBlank w₀ → a.name.toList ≠ [] → IsRun isLetter a.name.toList →
      IsRun isBlank w₁ → IsRun isBlank w₂ → ListBody (IsRun isBlank) body a.values →
      Sentence ("let".toList ++ w₀ ++ a.name.toList ++ w₁ ++ ['='] ++ w₂ ++ ['['] ++ body ++ [']']) a

theorem sentence_iff {cs : List Char} {a : Assignment} :
    Sentence cs a ↔ ∃ w₀ w₁ w₂ body : List Char,
      w₀ ≠ [] ∧ IsRun isBlank w₀ ∧ a.name.toList ≠ [] ∧ IsRun isLetter a.name.toList ∧
      IsRun isBlank w₁ ∧ IsRun isBlank w₂ ∧ ListBody (IsRun isBlank) body a.values ∧
      cs = "let".toList ++ w₀ ++ a.name.toList ++ w₁ ++ ['='] ++ w₂ ++ ['['] ++ body ++ [']'] := by
  refine ⟨fun h => ?_, fun h => ?_⟩
  · cases h with
    | @intro w₀ w₁ w₂ body _ hne₀ hw₀ hne hrun hw₁ hw₂ hbody =>
        exact ⟨w₀, w₁, w₂, body, hne₀, hw₀, hne, hrun, hw₁, hw₂, hbody, rfl⟩
  · obtain ⟨w₀, w₁, w₂, body, hne₀, hw₀, hne, hrun, hw₁, hw₂, hbody, rfl⟩ := h
    exact .intro hne₀ hw₀ hne hrun hw₁ hw₂ hbody

/-- The parts that stand before the equals sign: the blanks after `let`, the name and the blanks
after it. -/
structure IsHeading (w₀ n w₁ : List Char) : Prop where
  gap_ne_nil : w₀ ≠ []
  gap : IsRun isBlank w₀
  name_ne_nil : n ≠ []
  name : IsRun isLetter n
  trailing : IsRun isBlank w₁

/-- A number ends where the list goes on, at a comma or at what follows the list. -/
theorem ListTail.stops_isDigit {gap : List Char → Prop} {cs rest : List Char} {vs : List Int64}
    (h : ListTail gap cs vs) (hrest : Stops Char.isDigit rest) :
    Stops Char.isDigit (cs ++ rest) := by
  cases h with
  | nil => exact hrest
  | cons _ _ _ => exact stops_cons.2 (by decide)

namespace Parser

variable {α : Type} {s r t : Text}

/-! ## Blanks -/

section

variable {q : Char → Bool} {expected : String}

theorem size_lt_of_takes_charsWhile {a : String} (h : (charsWhile q expected).Takes s a r) :
    r.size < s.size := by
  obtain ⟨hne, -, -, happ⟩ := takes_charsWhile.1 h
  exact size_lt_of_append happ hne

/-- Repeating a greedy run makes at most one round: what it leaves stops the run. -/
theorem takes_many_charsWhile {vs : List String} :
    (charsWhile q expected).many.Takes s vs r ↔
      vs = [] ∧ Stops q s.chars ∧ r = s ∨
        ∃ a, vs = [a] ∧ (charsWhile q expected).Takes s a r := by
  have hround : RoundLeavesSuffix (charsWhile q expected).manyRound :=
    leavesSuffix_charsWhile.manyRound
  have hshrink : ∀ {s : Text} {a : String} {t : Text},
      ((charsWhile q expected).manyRound s).value = .matched a t → t.size < s.size :=
    fun h => size_lt_of_takes_charsWhile (manyRound_matched.1 h)
  have hended : ∀ s : Text, ((charsWhile q expected).manyRound s).value = .ended ↔
      Stops q s.chars := by
    intro s
    rw [manyRound_ended]
    refine ⟨fun h => ?_, fun h => ⟨_, s, fails_charsWhile.2 ⟨h, rfl, rfl⟩⟩⟩
    obtain ⟨d, t, h⟩ := h
    exact (fails_charsWhile.1 h).1
  rw [many_eq]
  match vs with
  | [] => simp [takes_repetition_nil hround, hended]
  | a :: ws =>
      rw [takes_repetition_cons hround hshrink]
      refine ⟨fun h => ?_, fun h => ?_⟩
      · obtain ⟨t, ha, hws⟩ := h
        have htakes := manyRound_matched.1 ha
        have hstop := (hended t).2 (takes_charsWhile.1 htakes).2.2.1
        match ws with
        | [] =>
            obtain ⟨-, rfl⟩ := (takes_repetition_nil hround).1 hws
            exact Or.inr ⟨a, rfl, htakes⟩
        | b :: ws =>
            -- A second round would begin with a character that stopped the first.
            obtain ⟨t', hb, -⟩ := (takes_repetition_cons hround hshrink).1 hws
            rw [hstop] at hb
            cases hb
      · rcases h with ⟨hnil, -, -⟩ | ⟨b, hb, htakes⟩
        · cases hnil
        · injection hb with hab hws
          subst hab hws
          refine ⟨r, manyRound_matched.2 htakes, ?_⟩
          have hstop := (hended r).2 (takes_charsWhile.1 htakes).2.2.1
          exact (takes_repetition_nil hround).2 ⟨hstop, rfl⟩

end

theorem takes_spaces {a : String} :
    spaces.Takes s a r ↔ IsRun isBlank a.toList ∧ Stops isBlank r.chars ∧
      a.toList ++ r.chars = s.chars := by
  simp only [spaces, whitespace, takes_map, takes_many_charsWhile]
  refine ⟨fun h => ?_, fun h => ?_⟩
  · obtain ⟨vs, ⟨rfl, hstop, rfl⟩ | ⟨b, rfl, htakes⟩, rfl⟩ := h
    · simpa using hstop
    · obtain ⟨-, hrun, hstop, happ⟩ := takes_charsWhile.1 htakes
      simpa using ⟨hrun, hstop, happ⟩
  · obtain ⟨hrun, hstop, happ⟩ := h
    by_cases hne : a.toList = []
    · rw [hne, List.nil_append] at happ
      obtain rfl : r = s := ext happ
      refine ⟨[], Or.inl ⟨rfl, hstop, rfl⟩, ?_⟩
      rw [String.toList_eq_nil_iff.1 hne, String.join_nil]
    · exact ⟨[a], Or.inr ⟨a, rfl, takes_charsWhile.2 ⟨hne, hrun, hstop, happ⟩⟩, by simp⟩

/-- The parser takes just the runs of blanks that satisfy `gap`, whatever its values are. -/
def TakesGaps (p : Parser α) (gap : List Char → Prop) : Prop :=
  ∀ s r : Text, (∃ a, p.Takes s a r) ↔ ∃ u, gap u ∧ Stops isBlank r.chars ∧ u ++ r.chars = s.chars

theorem takesGaps_spaces : spaces.TakesGaps (IsRun isBlank) := by
  intro s r
  refine ⟨fun h => ?_, fun h => ?_⟩
  · obtain ⟨a, ha⟩ := h
    exact ⟨a.toList, takes_spaces.1 ha⟩
  · obtain ⟨u, hu⟩ := h
    exact ⟨String.ofList u, takes_spaces.2 (by simpa using hu)⟩

theorem takesGaps_whitespace : whitespace.TakesGaps fun u => u ≠ [] ∧ IsRun isBlank u := by
  intro s r
  refine ⟨fun h => ?_, fun h => ?_⟩
  · obtain ⟨a, ha⟩ := h
    obtain ⟨hne, hrun, hstop, happ⟩ := takes_charsWhile.1 ha
    exact ⟨a.toList, ⟨hne, hrun⟩, hstop, happ⟩
  · obtain ⟨u, ⟨hne, hrun⟩, hstop, happ⟩ := h
    exact ⟨String.ofList u, takes_charsWhile.2 (by simpa using ⟨hne, hrun, hstop, happ⟩)⟩

theorem takes_skipRight_spaces {p : Parser α} {a : α} :
    (p.skipRight spaces).Takes s a r ↔
      ∃ w, IsRun isBlank w ∧ Stops isBlank r.chars ∧ p.Takes s a (ofChars (w ++ r.chars)) := by
  rw [takes_skipRight]
  refine ⟨fun h => ?_, fun h => ?_⟩
  · obtain ⟨t, b, ha, hb⟩ := h
    obtain ⟨w, hw, hblank, happ⟩ := (takesGaps_spaces t r).1 ⟨b, hb⟩
    obtain rfl : ofChars (w ++ r.chars) = t := ext happ
    exact ⟨w, hw, hblank, ha⟩
  · obtain ⟨w, hw, hblank, ha⟩ := h
    obtain ⟨b, hb⟩ := (takesGaps_spaces (ofChars (w ++ r.chars)) r).2 ⟨w, hw, hblank, rfl⟩
    exact ⟨_, b, ha, hb⟩

/-- A token and the blanks after it. -/
theorem takes_token {p : Parser α} {gap : List Char → Prop} (hgap : p.TakesGaps gap)
    {token : String} :
    (∃ b, ((literal token).sequence p).Takes s b r) ↔
      ∃ u, gap u ∧ Stops isBlank r.chars ∧ token.toList ++ (u ++ r.chars) = s.chars := by
  refine ⟨fun h => ?_, fun h => ?_⟩
  · obtain ⟨⟨c, b⟩, h⟩ := h
    obtain ⟨t, hc, hb⟩ := takes_sequence.1 h
    obtain ⟨u, hu, hstop, happ⟩ := (hgap t r).1 ⟨b, hb⟩
    refine ⟨u, hu, hstop, ?_⟩
    rw [happ]
    exact (takes_literal.1 hc).2
  · obtain ⟨u, hu, hstop, happ⟩ := h
    obtain ⟨b, hb⟩ := (hgap (ofChars (u ++ r.chars)) r).2 ⟨u, hu, hstop, rfl⟩
    exact ⟨(token, b), takes_sequence.2 ⟨_, takes_literal.2 ⟨rfl, happ⟩, hb⟩⟩

/-! ## Lists of numbers

The text after a list begins with the closing bracket, which is neither a
digit nor a comma. So the list ends there and nowhere before. -/

section

variable {gap : Parser α} {gaps : List Char → Prop} {v : Int64} {vs : List Int64}

/-- The rounds of a list of numbers. -/
def numberRound (gap : Parser α) : Text → Logged (Round Int64) :=
  integer.separatedRound ((literal ",").sequence gap)

theorem numberRound_matched (hgap : gap.TakesGaps gaps) :
    (numberRound gap s).value = .matched v t ↔
      ∃ u ds, gaps u ∧ Numeral ds v ∧ Stops Char.isDigit t.chars ∧
        ',' :: (u ++ (ds ++ t.chars)) = s.chars := by
  rw [numberRound, separatedRound_matched]
  refine ⟨fun h => ?_, fun h => ?_⟩
  · obtain ⟨b, t₂, hsep, hv⟩ := h
    obtain ⟨u, hu, -, happ⟩ := (takes_token hgap).1 ⟨b, hsep⟩
    obtain ⟨ds, hnum, hstop, hds⟩ := takes_integer.1 hv
    refine ⟨u, ds, hu, hnum, hstop, ?_⟩
    rw [hds]
    exact happ
  · obtain ⟨u, ds, hu, hnum, hstop, happ⟩ := h
    have hdigits : ∀ c ∈ ds, isBlank c = false := fun c hc =>
      isBlank_eq_false_of_isDigit (hnum.digits c hc)
    have hblank : Stops isBlank (ds ++ t.chars) := stops_append_of_ne_nil hnum.nonempty hdigits
    have hsep : ∃ b, ((literal ",").sequence gap).Takes s b (ofChars (ds ++ t.chars)) :=
      (takes_token hgap).2 ⟨u, hu, hblank, happ⟩
    obtain ⟨b, hb⟩ := hsep
    exact ⟨b, _, hb, takes_integer.2 ⟨ds, hnum, hstop, rfl⟩⟩

theorem numberRound_leavesSuffix (hlaw : gap.LeavesSuffix) :
    RoundLeavesSuffix (numberRound gap) :=
  leavesSuffix_integer.separatedRound (leavesSuffix_literal.sequence hlaw)

theorem numberRound_shrinks (hgap : gap.TakesGaps gaps)
    (h : (numberRound gap s).value = .matched v t) : t.size < s.size := by
  obtain ⟨u, ds, -, -, -, happ⟩ := (numberRound_matched hgap).1 h
  refine size_lt_of_append (u := ',' :: (u ++ ds)) ?_ (by simp)
  rw [← happ]
  simp

theorem numberRound_ended {rest : List Char} (h : s.chars = ']' :: rest) :
    (numberRound gap s).value = .ended := by
  rw [numberRound, separatedRound_ended]
  have hno : ¬ ",".toList <+: s.chars := by
    rw [h]
    simp
  exact ⟨_, s, fails_sequence.2 (Or.inl (fails_literal.2 ⟨hno, rfl, rfl⟩))⟩

/-- Rounds go on up to a text where none can be begun. If there was any, a number ends there. -/
theorem takes_numberRounds (hlaw : gap.LeavesSuffix) (hgap : gap.TakesGaps gaps) :
    (repetition .separatedBy (numberRound gap)).Takes s vs r ↔
      (numberRound gap r).value = .ended ∧
        ∃ cs, ListTail gaps cs vs ∧ (cs ≠ [] → Stops Char.isDigit r.chars) ∧
          cs ++ r.chars = s.chars := by
  have hround := numberRound_leavesSuffix hlaw
  have hshrink : ∀ {s : Text} {v : Int64} {t : Text},
      (numberRound gap s).value = .matched v t → t.size < s.size := numberRound_shrinks hgap
  induction vs generalizing s with
  | nil =>
      rw [takes_repetition_nil hround]
      refine ⟨fun h => ?_, fun h => ?_⟩
      · obtain ⟨hended, rfl⟩ := h
        exact ⟨hended, [], .nil, fun hne => absurd rfl hne, rfl⟩
      · obtain ⟨hended, cs, htail, -, happ⟩ := h
        cases htail
        obtain rfl : r = s := ext happ
        exact ⟨hended, rfl⟩
  | cons v vs ih =>
      rw [takes_repetition_cons hround hshrink]
      refine ⟨fun h => ?_, fun h => ?_⟩
      · obtain ⟨t, hv, hvs⟩ := h
        obtain ⟨u, ds, hu, hnum, hstop, happ⟩ := (numberRound_matched hgap).1 hv
        obtain ⟨hended, cs, htail, hdigit, hcs⟩ := ih.1 hvs
        refine ⟨hended, _, .cons hu hnum htail, fun _ => hstop.of_append hcs hdigit, ?_⟩
        rw [← happ, ← hcs]
        simp
      · obtain ⟨hended, cs, htail, hdigit, happ⟩ := h
        cases htail with
        | @cons u ds cs _ _ hu hnum htail =>
            have hrest : Stops Char.isDigit r.chars := hdigit (by simp)
            refine ⟨ofChars (cs ++ r.chars), ?_, ih.2 ⟨hended, cs, htail, fun _ => hrest, rfl⟩⟩
            refine (numberRound_matched hgap).2 ⟨u, ds, hu, hnum, htail.stops_isDigit hrest, ?_⟩
            rw [← happ]
            simp

theorem takes_numbers_cons (hlaw : gap.LeavesSuffix) (hgap : gap.TakesGaps gaps) :
    (integer.separatedBy ((literal ",").sequence gap)).Takes s (v :: vs) r ↔
      (numberRound gap r).value = .ended ∧ Stops Char.isDigit r.chars ∧
        ∃ cs, ListBody gaps cs (v :: vs) ∧ cs ++ r.chars = s.chars := by
  rw [takes_separatedBy_cons]
  refine ⟨fun h => ?_, fun h => ?_⟩
  · obtain ⟨t, hv, hvs⟩ := h
    obtain ⟨ds, hnum, hstop, hds⟩ := takes_integer.1 hv
    obtain ⟨hended, cs, htail, hdigit, hcs⟩ := (takes_numberRounds hlaw hgap).1 hvs
    refine ⟨hended, hstop.of_append hcs hdigit, _, .items hnum htail, ?_⟩
    rw [← hds, ← hcs, List.append_assoc]
  · obtain ⟨hended, hdigit, cs, hbody, happ⟩ := h
    cases hbody with
    | @items ds cs _ _ hnum htail =>
        have hv : integer.Takes s v (ofChars (cs ++ r.chars)) :=
          takes_integer.2 ⟨ds, hnum, htail.stops_isDigit hdigit, by
            rw [← happ, List.append_assoc]
            rfl⟩
        exact ⟨_, hv, (takes_numberRounds hlaw hgap).2 ⟨hended, cs, htail, fun _ => hdigit, rfl⟩⟩

theorem takes_numbers (hlaw : gap.LeavesSuffix) (hgap : gap.TakesGaps gaps)
    {rest : List Char} (hr : r.chars = ']' :: rest) :
    (integer.separatedBy ((literal ",").sequence gap)).Takes s vs r ↔
      ∃ cs, ListBody gaps cs vs ∧ cs ++ r.chars = s.chars := by
  match vs with
  | [] =>
      rw [takes_separatedBy_nil]
      refine ⟨fun h => ⟨[], .empty, by rw [h.2, List.nil_append]⟩, fun h => ?_⟩
      obtain ⟨cs, hbody, happ⟩ := h
      cases hbody
      obtain rfl : r = s := ext happ
      rcases takes_or_fails integer r with ⟨v, t, hv⟩ | hfails
      · -- A number would have to begin with the closing bracket.
        obtain ⟨ds, hnum, -, hds⟩ := takes_integer.1 hv
        cases ds with
        | nil => exact absurd rfl hnum.nonempty
        | cons d ds =>
            rw [hr, List.cons_append] at hds
            injection hds with hd _
            subst hd
            exact absurd (isRun_cons.1 hnum.digits).1 (by decide)
      · exact ⟨hfails, rfl⟩
  | v :: vs =>
      rw [takes_numbers_cons hlaw hgap]
      have hdigit : Stops Char.isDigit r.chars := by
        rw [hr]
        exact stops_cons.2 (by decide)
      exact ⟨fun h => h.2.2, fun h => ⟨numberRound_ended hr, hdigit, h⟩⟩

/-- An array is a list between brackets, and nothing else is. -/
theorem takes_array (hlaw : gap.LeavesSuffix) (hgap : gap.TakesGaps gaps) :
    (array gap).Takes s vs r ↔
      ∃ cs, ListBody gaps cs vs ∧ '[' :: (cs ++ ']' :: r.chars) = s.chars := by
  rw [array, between_eq, takes_skipLeft]
  refine ⟨fun h => ?_, fun h => ?_⟩
  · obtain ⟨o, t₁, ho, hrest⟩ := h
    obtain ⟨t₂, c, hvs, hc⟩ := takes_skipRight.1 hrest
    have hopen := (takes_literal.1 ho).2
    have hclose : ']' :: r.chars = t₂.chars := (takes_literal.1 hc).2
    obtain ⟨cs, hbody, hcs⟩ := (takes_numbers hlaw hgap hclose.symm).1 hvs
    refine ⟨cs, hbody, ?_⟩
    rw [hclose, hcs]
    exact hopen
  · obtain ⟨cs, hbody, happ⟩ := h
    have hopen : (literal "[").Takes s "[" (ofChars (cs ++ ']' :: r.chars)) :=
      takes_literal.2 ⟨rfl, happ⟩
    have hclose : (literal "]").Takes (ofChars (']' :: r.chars)) "]" r :=
      takes_literal.2 ⟨rfl, rfl⟩
    have hvs := (takes_numbers (s := ofChars (cs ++ ']' :: r.chars))
      (r := ofChars (']' :: r.chars)) hlaw hgap rfl).2 ⟨cs, hbody, rfl⟩
    exact ⟨_, _, hopen, takes_skipRight.2 ⟨_, _, hvs, hclose⟩⟩

end

theorem takes_array_spaces {vs : List Int64} :
    (array spaces).Takes s vs r ↔
      ∃ cs, ListBody (IsRun isBlank) cs vs ∧ '[' :: (cs ++ ']' :: r.chars) = s.chars :=
  takes_array leavesSuffix_spaces takesGaps_spaces

/-! ## Assignments

The three tokens before the array, each with the blanks after it. -/

theorem takes_keyword :
    (∃ b, ((literal "let").sequence whitespace).Takes s b r) ↔
      ∃ w, (w ≠ [] ∧ IsRun isBlank w) ∧ Stops isBlank r.chars ∧
        "let".toList ++ (w ++ r.chars) = s.chars :=
  takes_token takesGaps_whitespace

theorem takes_name {n : String} :
    (letters.skipRight spaces).Takes s n r ↔
      ∃ w, (n.toList ≠ [] ∧ IsRun isLetter n.toList) ∧ IsRun isBlank w ∧
        Stops isLetter (w ++ r.chars) ∧ Stops isBlank r.chars ∧
        n.toList ++ (w ++ r.chars) = s.chars := by
  rw [takes_skipRight_spaces]
  refine exists_congr fun w => ⟨fun h => ?_, fun h => ?_⟩
  · obtain ⟨hw, hblank, hn⟩ := h
    obtain ⟨hne, hrun, hstop, happ⟩ := takes_charsWhile.1 hn
    exact ⟨⟨hne, hrun⟩, hw, hstop, hblank, happ⟩
  · obtain ⟨⟨hne, hrun⟩, hw, hstop, hblank, happ⟩ := h
    exact ⟨hw, hblank, takes_charsWhile.2 ⟨hne, hrun, hstop, happ⟩⟩

theorem takes_equals :
    (∃ b, ((literal "=").skipRight spaces).Takes s b r) ↔
      ∃ w, IsRun isBlank w ∧ Stops isBlank r.chars ∧ '=' :: (w ++ r.chars) = s.chars := by
  refine ⟨fun h => ?_, fun h => ?_⟩
  · obtain ⟨c, h⟩ := h
    obtain ⟨w, hw, hstop, hc⟩ := takes_skipRight_spaces.1 h
    exact ⟨w, hw, hstop, (takes_literal.1 hc).2⟩
  · obtain ⟨w, hw, hstop, happ⟩ := h
    exact ⟨"=", takes_skipRight_spaces.2 ⟨w, hw, hstop, takes_literal.2 ⟨rfl, happ⟩⟩⟩

/-- The parser of what stands before the equals sign. -/
def heading : Parser String :=
  ((literal "let").sequence whitespace).skipLeft (letters.skipRight spaces)

/-- The parser of what stands before the list. -/
def header : Parser String := heading.skipRight ((literal "=").skipRight spaces)

theorem assignment_eq :
    assignment = (header.sequence (array spaces)).map fun (n, vs) => ⟨n, vs⟩ := rfl

theorem takes_heading {n : String} :
    heading.Takes s n r ↔
      ∃ w₀ w₁, IsHeading w₀ n.toList w₁ ∧ Stops isLetter (w₁ ++ r.chars) ∧
        Stops isBlank r.chars ∧
        "let".toList ++ (w₀ ++ (n.toList ++ (w₁ ++ r.chars))) = s.chars := by
  rw [heading, takes_skipLeft]
  refine ⟨fun h => ?_, fun h => ?_⟩
  · obtain ⟨b, t, hlet, hn⟩ := h
    obtain ⟨w₀, ⟨hne₀, hw₀⟩, -, h₀⟩ := takes_keyword.1 ⟨b, hlet⟩
    obtain ⟨w₁, ⟨hne, hrun⟩, hw₁, hletter, hblank, h₁⟩ := takes_name.1 hn
    refine ⟨w₀, w₁, ⟨hne₀, hw₀, hne, hrun, hw₁⟩, hletter, hblank, ?_⟩
    rw [h₁]
    exact h₀
  · obtain ⟨w₀, w₁, hparts, hletter, hblank, happ⟩ := h
    let t := ofChars (n.toList ++ (w₁ ++ r.chars))
    have hs : "let".toList ++ (w₀ ++ t.chars) = s.chars := happ
    -- The name begins with a letter, so the blanks before it end there.
    have hstop : Stops isBlank t.chars := stops_append_of_ne_nil hparts.name_ne_nil
      fun c hc => isBlank_eq_false_of_isLetter (hparts.name c hc)
    obtain ⟨b, hlet⟩ := takes_keyword.2 ⟨w₀, ⟨hparts.gap_ne_nil, hparts.gap⟩, hstop, hs⟩
    exact ⟨b, t, hlet, takes_name.2
      ⟨w₁, ⟨hparts.name_ne_nil, hparts.name⟩, hparts.trailing, hletter, hblank, rfl⟩⟩

theorem takes_header {n : String} :
    header.Takes s n r ↔
      ∃ w₀ w₁ w₂, IsHeading w₀ n.toList w₁ ∧ IsRun isBlank w₂ ∧ Stops isBlank r.chars ∧
        "let".toList ++ (w₀ ++ (n.toList ++ (w₁ ++ '=' :: (w₂ ++ r.chars)))) = s.chars := by
  rw [header, takes_skipRight]
  refine ⟨fun h => ?_, fun h => ?_⟩
  · obtain ⟨t, b, hn, heq⟩ := h
    obtain ⟨w₀, w₁, hparts, -, -, h₁⟩ := takes_heading.1 hn
    obtain ⟨w₂, hw₂, hblank, h₂⟩ := takes_equals.1 ⟨b, heq⟩
    refine ⟨w₀, w₁, w₂, hparts, hw₂, hblank, ?_⟩
    rw [h₂]
    exact h₁
  · obtain ⟨w₀, w₁, w₂, hparts, hw₂, hblank, happ⟩ := h
    have hletter : Stops isLetter (w₁ ++ '=' :: (w₂ ++ r.chars)) :=
      stops_append (fun c hc => isLetter_eq_false_of_isBlank (hparts.trailing c hc))
        (stops_cons.2 (by decide +kernel))
    let t := ofChars ('=' :: (w₂ ++ r.chars))
    have hequals : Stops isBlank t.chars := stops_cons.2 (by decide)
    obtain ⟨b, heq⟩ := takes_equals.2 ⟨w₂, hw₂, hblank, (rfl : _ = t.chars)⟩
    exact ⟨t, b, takes_heading.2 ⟨w₀, w₁, hparts, hletter, hequals, happ⟩, heq⟩

/-- What the parser of assignments takes is a sentence, and it takes every sentence, whatever text
comes after it. -/
theorem takes_assignment {a : Assignment} :
    assignment.Takes s a r ↔ ∃ cs, Sentence cs a ∧ cs ++ r.chars = s.chars := by
  rw [assignment_eq, takes_map]
  refine ⟨fun h => ?_, fun h => ?_⟩
  · obtain ⟨⟨n, vs⟩, h, rfl⟩ := h
    obtain ⟨t, hn, hvs⟩ := takes_sequence.1 h
    obtain ⟨w₀, w₁, w₂, hparts, hw₂, -, h₁⟩ := takes_header.1 hn
    obtain ⟨body, hbody, h₂⟩ := takes_array_spaces.1 hvs
    refine ⟨_, Sentence.intro hparts.gap_ne_nil hparts.gap hparts.name_ne_nil hparts.name
      hparts.trailing hw₂ hbody, ?_⟩
    rw [← h₁, ← h₂]
    simp
  · obtain ⟨cs, hsentence, happ⟩ := h
    cases hsentence with
    | @intro w₀ w₁ w₂ body _ hne₀ hw₀ hne hrun hw₁ hw₂ hbody =>
        let t := ofChars ('[' :: (body ++ ']' :: r.chars))
        have hblank : Stops isBlank t.chars := stops_cons.2 (by decide)
        have hs : "let".toList ++ (w₀ ++ (a.name.toList ++ (w₁ ++ '=' :: (w₂ ++ t.chars)))) =
            s.chars := by
          rw [← happ]
          simp [t]
        have hn : header.Takes s a.name t :=
          takes_header.2 ⟨w₀, w₁, w₂, ⟨hne₀, hw₀, hne, hrun, hw₁⟩, hw₂, hblank, hs⟩
        have hvs : (array spaces).Takes t a.values r :=
          takes_array_spaces.2 ⟨body, hbody, rfl⟩
        exact ⟨(a.name, a.values), takes_sequence.2 ⟨t, hn, hvs⟩, rfl⟩

/-- The parser of assignments accepts exactly its grammar: a name and values are read off a text,
and `r` is left, just when the text is `let`, blanks, the name, blanks, an equals sign, blanks,
the values between brackets, and `r`. -/
theorem apply_assignment_eq_success_iff {n : String} {vs : List Int64} :
    (assignment.apply s).value = .success ⟨n, vs⟩ r ↔
      ∃ w₀ w₁ w₂ body : List Char,
        w₀ ≠ [] ∧ IsRun isBlank w₀ ∧ n.toList ≠ [] ∧ IsRun isLetter n.toList ∧
        IsRun isBlank w₁ ∧ IsRun isBlank w₂ ∧ ListBody (IsRun isBlank) body vs ∧
        s.chars = "let".toList ++ w₀ ++ n.toList ++ w₁ ++ ['='] ++ w₂ ++ ['['] ++ body ++ [']'] ++
          r.chars := by
  refine takes_assignment.trans ⟨fun h => ?_, fun h => ?_⟩
  · obtain ⟨cs, hsentence, happ⟩ := h
    obtain ⟨w₀, w₁, w₂, body, hne₀, hw₀, hne, hrun, hw₁, hw₂, hbody, rfl⟩ :=
      sentence_iff.1 hsentence
    exact ⟨w₀, w₁, w₂, body, hne₀, hw₀, hne, hrun, hw₁, hw₂, hbody, happ.symm⟩
  · obtain ⟨w₀, w₁, w₂, body, hne₀, hw₀, hne, hrun, hw₁, hw₂, hbody, happ⟩ := h
    exact ⟨_, Sentence.intro (a := ⟨n, vs⟩) hne₀ hw₀ hne hrun hw₁ hw₂ hbody, happ.symm⟩

end Parser

end TextParsers
