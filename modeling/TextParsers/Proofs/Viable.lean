import TextParsers.Proofs.Positions
import TextParsers.Proofs.RoundTrip
import TextParsers.Proofs.Stalls

/-!
# The longest beginning that can still become an assignment

The position in an error is more than some place in the input. What comes
before it can be completed to an assignment, and with the next character added
it cannot any more, so an author who reads the message has to look there and
nowhere further to the left.

The first half is shown by writing down a completion for each place where the
reading stops. The second half takes no new look at the grammar. Whether the
reading stops at a place depends on the first character after it and on nothing
that comes later, so a completion that began with the same character would stop
there as well, and could not be an assignment. A text that was read to its last
bracket is no beginning of another for the same reason.

The two places where the parser looks at more than one character, `let` and a
number that is too large, are left out of the second half: there the input is
good for a while after the position of the error.
-/

namespace TextParsers

open Text

variable {u cs : List Char} {a b : Assignment} {s : Text} {e : ParseError}

/-- The characters are the beginning of an assignment. -/
def Viable (u : List Char) : Prop :=
  ∃ t a, (Assignment.parse t).value = .ok a ∧ u <+: t.chars

theorem viable_iff : Viable u ↔ ∃ cs a, Sentence (u ++ cs) a := by
  refine ⟨fun h => ?_, fun h => ?_⟩
  · obtain ⟨t, a, ht, cs, hcs⟩ := h
    refine ⟨cs, a, ?_⟩
    rw [hcs]
    exact parse_eq_ok_iff.1 ht
  · obtain ⟨cs, a, h⟩ := h
    exact ⟨ofChars (u ++ cs), a, parse_eq_ok_iff.2 h, List.prefix_append u cs⟩

theorem Viable.of_prefix (h : Viable cs) (hu : u <+: cs) : Viable u := by
  obtain ⟨t, a, ht, hcs⟩ := h
  exact ⟨t, a, ht, hu.trans hcs⟩

theorem Sentence.viable (h : Sentence u a) : Viable u :=
  viable_iff.2 ⟨[], a, by rwa [List.append_nil]⟩

/-! ## Completions -/

section

variable {gap : List Char → Prop} {w₀ n w₁ w₂ ds body rest : List Char} {v w : Int64}
  {vs : List Int64}

theorem ListTail.snoc (h : ListTail gap cs vs) (hu : gap u) (hnum : Parser.Numeral ds v) :
    ListTail gap (cs ++ ',' :: (u ++ ds)) (vs ++ [v]) := by
  induction h with
  | nil =>
      have hlast := ListTail.cons hu hnum .nil
      rw [List.append_nil] at hlast
      exact hlast
  | cons hw hd _ ih =>
      have hrest := ListTail.cons hw hd ih
      simpa using hrest

theorem ListBody.snoc (h : ListBody gap cs (w :: vs)) (hu : gap u) (hnum : Parser.Numeral ds v) :
    ListBody gap (cs ++ ',' :: (u ++ ds)) (w :: (vs ++ [v])) := by
  cases h with
  | items hd htail =>
      rw [List.append_assoc]
      exact .items hd (htail.snoc hu hnum)

theorem ListStalls.exists_listBody (h : ListStalls u rest) :
    ∃ cs vs, ListBody (IsRun isBlank) (u ++ cs) vs := by
  cases h with
  | opening => exact ⟨[], [], .empty⟩
  | @number _ _ v vs hbody => exact ⟨[], v :: vs, by rwa [List.append_nil]⟩
  | @comma body w _ v vs hbody hw =>
      have hzero : Parser.Numeral ['0'] 0 :=
        ⟨by simp, isRun_cons.2 ⟨by decide, isRun_nil⟩, by decide⟩
      refine ⟨['0'], v :: (vs ++ [0]), ?_⟩
      have hlonger := hbody.snoc hw hzero
      simpa using hlonger

theorem IsHeading.sentence (h : IsHeading w₀ n w₁) (hw₂ : IsRun isBlank w₂)
    (hbody : ListBody (IsRun isBlank) body vs) :
    Sentence ("let".toList ++ (w₀ ++ (n ++ (w₁ ++ '=' :: (w₂ ++ '[' :: (body ++ [']']))))))
      ⟨String.ofList n, vs⟩ := by
  have hsentence : Sentence _ ⟨String.ofList n, vs⟩ :=
    .intro h.gap_ne_nil h.gap (by simpa using h.name_ne_nil) (by simpa using h.name) h.trailing
      hw₂ hbody
  simpa using hsentence

theorem sentence_of_gap (hne : w₀ ≠ []) (hw₀ : IsRun isBlank w₀) :
    Sentence ("let".toList ++ (w₀ ++ "a=[]".toList)) ⟨"a", []⟩ := by
  have hname : IsRun isLetter ['a'] := isRun_cons.2 ⟨by decide +kernel, isRun_nil⟩
  have hparts : IsHeading w₀ ['a'] [] := ⟨hne, hw₀, by simp, hname, isRun_nil⟩
  exact hparts.sentence isRun_nil .empty

/-- At every place where the reading stops it could have gone on. -/
theorem Stalls.viable (h : Stalls u rest) : Viable u := by
  have hshortest := sentence_of_gap (by simp) isRun_isBlank_space
  cases h with
  | start => exact hshortest.viable.of_prefix List.nil_prefix
  | keyword => exact hshortest.viable.of_prefix (List.prefix_append _ _)
  | gap hne hw₀ =>
      have hsentence := sentence_of_gap hne hw₀
      exact viable_iff.2 ⟨"a=[]".toList, _, by simpa using hsentence⟩
  | name hparts =>
      have hsentence := hparts.sentence isRun_nil .empty
      exact viable_iff.2 ⟨_, _, by simpa using hsentence⟩
  | equals hparts hw₂ =>
      have hsentence := hparts.sentence hw₂ .empty
      exact viable_iff.2 ⟨_, _, by simpa using hsentence⟩
  | list hparts hw₂ hstalls =>
      obtain ⟨cs, vs, hbody⟩ := hstalls.exists_listBody
      have hsentence := hparts.sentence hw₂ hbody
      exact viable_iff.2 ⟨cs ++ [']'], _, by simpa using hsentence⟩

end

/-! ## Nothing further

Where no number can be begun, that is because there is no digit, or because
the number is too large. The second is not seen at its first digit. -/

section

variable {rest rest' : List Char}

theorem LacksNumber.congr_head (h : LacksNumber rest) (hhead : rest.head? = rest'.head?)
    (hvalue : ¬ Parser.largestInteger < Decimal.value (rest.takeWhile Char.isDigit)) :
    LacksNumber rest' :=
  Or.inl ((h.resolve_right hvalue).congr_head hhead)

theorem ListStalls.congr_head (h : ListStalls u rest) (hhead : rest.head? = rest'.head?)
    (hvalue : ¬ Parser.largestInteger < Decimal.value (rest.takeWhile Char.isDigit)) :
    ListStalls u rest' := by
  cases h with
  | opening hlacks hclose =>
      exact .opening (hlacks.congr_head hhead hvalue) (hclose.congr_head hhead)
  | number hbody hdigit hcomma hclose =>
      exact .number hbody (hdigit.congr_head hhead) (hcomma.congr_head hhead)
        (hclose.congr_head hhead)
  | comma hbody hw hblank hlacks =>
      exact .comma hbody hw (hblank.congr_head hhead) (hlacks.congr_head hhead hvalue)

/-- The reading stops at a place because of the first character after it. -/
theorem Stalls.congr_head (h : Stalls u rest) (hu : u ≠ []) (hhead : rest.head? = rest'.head?)
    (hvalue : ¬ Parser.largestInteger < Decimal.value (rest.takeWhile Char.isDigit)) :
    Stalls u rest' := by
  cases h with
  | start => exact absurd rfl hu
  | keyword hblank => exact .keyword (hblank.congr_head hhead)
  | gap hne hw₀ hblank hletter =>
      exact .gap hne hw₀ (hblank.congr_head hhead) (hletter.congr_head hhead)
  | @name _ _ w₁ _ hparts hletter hblank hsign =>
      have hname : Stops isLetter (w₁ ++ rest') :=
        hletter.congr_head (by simp only [List.head?_append, hhead])
      exact .name hparts hname (hblank.congr_head hhead) (hsign.congr_head hhead)
  | equals hparts hw₂ hblank hsign =>
      exact .equals hparts hw₂ (hblank.congr_head hhead) (hsign.congr_head hhead)
  | list hparts hw₂ hstalls => exact .list hparts hw₂ (hstalls.congr_head hhead hvalue)

end

theorem Stalls.not_viable_concat {c : Char} {rest : List Char} (h : Stalls u (c :: rest))
    (hu : u ≠ [])
    (hvalue : ¬ Parser.largestInteger < Decimal.value ((c :: rest).takeWhile Char.isDigit)) :
    ¬ Viable (u ++ [c]) := by
  intro hviable
  obtain ⟨cs, a, hsentence⟩ := viable_iff.1 hviable
  rw [List.append_assoc] at hsentence
  -- The completion is taken as a whole, and the reading of it stops behind `u`.
  have htakes : Parser.assignment.Takes (ofChars (u ++ c :: cs)) a (ofChars []) :=
    Parser.takes_assignment.2 ⟨_, hsentence, List.append_nil _⟩
  have hstalls : Stalls u (c :: cs) := h.congr_head hu rfl hvalue
  obtain ⟨e, hfails⟩ := Parser.failsAt_assignment.2
    (⟨u, hstalls, rfl⟩ : ∃ u', Stalls u' (ofChars (c :: cs)).chars ∧
      u' ++ (ofChars (c :: cs)).chars = (ofChars (u ++ c :: cs)).chars)
  exact htakes.not_fails hfails

/-- No assignment is the beginning of another. -/
theorem Sentence.eq_nil_of_append (h : Sentence u a) (h' : Sentence (u ++ cs) b) : cs = [] := by
  have hshort : Parser.assignment.Takes (ofChars (u ++ cs)) a (ofChars cs) :=
    Parser.takes_assignment.2 ⟨u, h, rfl⟩
  have hlong : Parser.assignment.Takes (ofChars (u ++ cs)) b (ofChars []) :=
    Parser.takes_assignment.2 ⟨_, h', List.append_nil _⟩
  exact congrArg chars (hshort.unique hlong).2

theorem Sentence.not_viable_concat {c : Char} (h : Sentence u a) : ¬ Viable (u ++ [c]) := by
  intro hviable
  obtain ⟨cs, b, hb⟩ := viable_iff.1 hviable
  rw [List.append_assoc] at hb
  have hnil := h.eq_nil_of_append hb
  simp at hnil

/-- If no beginning of a text is viable that is longer by one character, none is that is longer by
several. -/
theorem prefix_of_viable {v r : List Char}
    (hlast : ∀ c rest, r = c :: rest → ¬ Viable (v ++ [c])) (hu : u <+: v ++ r)
    (hviable : Viable u) : u <+: v := by
  rcases List.prefix_or_prefix_of_prefix hu (List.prefix_append v r) with huv | ⟨w, rfl⟩
  · exact huv
  · cases w with
    | nil => simp
    | cons c w =>
        obtain ⟨rest, rfl⟩ := (List.prefix_append_right_inj v).1 hu
        have hshort : v ++ [c] <+: v ++ c :: w := by simp
        exact absurd (hviable.of_prefix hshort) (hlast c _ rfl)

/-! ## Errors -/

/-- A text is rejected where the reading of it stops, or behind an assignment if it goes on
there. -/
theorem exists_cut_of_parse_eq_error (h : (Assignment.parse s).value = .error e) :
    ∃ u r, u ++ r.chars = s.chars ∧ e.offset = offsetOf s r ∧
      (Stalls u r.chars ∨ (∃ a, Sentence u a) ∧ r.chars ≠ []) := by
  cases e with
  | mismatch expected n f =>
      obtain ⟨r, hfails, rfl, -⟩ := Parser.parseComplete_eq_mismatch_iff.1 h
      obtain ⟨u, hstalls, happ⟩ := Parser.failsAt_assignment.1 ⟨expected, hfails⟩
      exact ⟨u, r, happ, rfl, Or.inl hstalls⟩
  | trailingInput n f =>
      obtain ⟨a, r, htakes, hne, rfl, -⟩ := Parser.parseComplete_eq_trailingInput_iff.1 h
      obtain ⟨u, hsentence, happ⟩ := Parser.takes_assignment.1 htakes
      exact ⟨u, r, happ, rfl, Or.inr ⟨⟨a, hsentence⟩, hne⟩⟩

/-- An error of reading an assignment stands at the end of the longest viable beginning of the
input: what comes before it is viable, and with the next character it is not. Only that what comes
before it is viable holds also where the input does not begin with `let`, or has a number that is
too large after the position. -/
theorem parse_error_at_longest_viable (h : (Assignment.parse s).value = .error e) :
    s.IsBoundary e.offset ∧ Viable (s.takeBytes e.offset) ∧
      (e.offset ≠ 0 →
        ¬ Parser.largestInteger <
          Decimal.value ((s.dropBytes e.offset).takeWhile Char.isDigit) →
        (∀ c rest, (s.dropBytes e.offset).chars = c :: rest →
          ¬ Viable (s.takeBytes e.offset ++ [c])) ∧
        ∀ u, u <+: s.chars → Viable u → u <+: s.takeBytes e.offset) := by
  obtain ⟨v, r, happ, hoffset, hcut⟩ := exists_cut_of_parse_eq_error h
  have hsuffix : r.chars <:+ s.chars := ⟨v, happ⟩
  have hlength : offsetOf s r = utf8Length v := offsetOf_eq_utf8Length happ
  rw [hoffset, takeBytes_offsetOf happ, dropBytes_offsetOf hsuffix]
  refine ⟨isBoundary_offsetOf hsuffix, ?_, fun hpos hvalue => ?_⟩
  · rcases hcut with hstalls | ⟨⟨a, hsentence⟩, -⟩
    · exact hstalls.viable
    · exact hsentence.viable
  · have hne : v ≠ [] := by
      intro hv
      rw [hlength, hv] at hpos
      exact hpos rfl
    have hlast : ∀ c rest, r.chars = c :: rest → ¬ Viable (v ++ [c]) := by
      intro c rest hr
      rcases hcut with hstalls | ⟨⟨a, hsentence⟩, -⟩
      · rw [hr] at hstalls
        rw [Text.takeWhile, hr] at hvalue
        exact hstalls.not_viable_concat hne hvalue
      · exact hsentence.not_viable_concat
    refine ⟨hlast, fun u hu hviable => ?_⟩
    rw [← happ] at hu
    exact prefix_of_viable hlast hu hviable

/-- After a number only a digit, a comma or the closing bracket can follow, and no blank. -/
theorem parse_error_at_longest_viable_of_blank :
    (Assignment.parse (Text.ofString "let ä = [1, 2 x]")).value =
        .error (.mismatch "Expected: \"]\" prefix" 14 "\" x]\"") ∧
      Viable "let ä = [1, 2".toList ∧ ¬ Viable "let ä = [1, 2 ".toList ∧
      ∀ u, u <+: "let ä = [1, 2 x]".toList → Viable u → u <+: "let ä = [1, 2".toList := by
  have hfails : Parser.assignment.Fails (Text.ofString "let ä = [1, 2 x]")
      "Expected: \"]\" prefix" (Text.ofString " x]") := by
    unfold Parser.Fails
    decide +kernel
  have herror := Parser.parseComplete_eq_mismatch_iff.2
    ⟨_, hfails, (by decide : _ = 14), (by decide +kernel : _ = "\" x]\"")⟩
  obtain ⟨-, hviable, hlongest⟩ := parse_error_at_longest_viable herror
  obtain ⟨hlast, hprefix⟩ := hlongest (by decide) (by decide +kernel)
  have hnext := hlast ' ' "x]".toList (by decide +kernel)
  exact ⟨herror, hviable, hnext, hprefix⟩

end TextParsers
