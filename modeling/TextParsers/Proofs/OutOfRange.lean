import Mathlib.Data.List.Basic
import TextParsers.Proofs.Positions
import TextParsers.Proofs.Stalls

/-!
# A number in a list that is out of range

Digits that denote too large a number are no number to `integer`, which says
so and stands before them. What becomes of that depends on where in a list
they are. After a comma a number is required, so there the failure breaks the
list, and it travels unchanged through the brackets and the header to the
caller: the expectation that is reported is that of `integer`, and the position
is that of the first digit.

Before the first number nothing is required. There the list takes the failure
for a sign that it is empty, succeeds without having taken anything, and the
failure is forgotten. The closing bracket is looked for next, and it is the
bracket that is reported as missing, at the same position. So where the error
stands does not tell the two apart, and what it says does.
-/

namespace TextParsers

open Text

/-- A number in range as it stands in a list: its digits, and the blanks after the comma that
follows them. -/
structure IsItem (ds u : List Char) : Prop where
  nonempty : ds ≠ []
  digits : IsRun Char.isDigit ds
  value_le : Decimal.value ds ≤ Parser.largestInteger
  gap : IsRun isBlank u

theorem IsItem.numeral {ds u : List Char} (h : IsItem ds u) :
    Parser.Numeral ds (Int64.ofNat (Decimal.value ds)) :=
  Parser.numeral_ofNat h.nonempty h.digits h.value_le

/-- Items of a list, each with its comma. -/
def itemsText (items : List (List Char × List Char)) : List Char :=
  items.flatMap fun p => p.1 ++ ',' :: p.2

/-- An assignment from its first character up to the end of some items of its list. -/
def assignmentUpTo (w₀ n w₁ w₂ : List Char) (items : List (List Char × List Char)) : List Char :=
  "let".toList ++ w₀ ++ n ++ w₁ ++ ['='] ++ w₂ ++ ['['] ++ itemsText items

section

variable {items : List (List Char × List Char)} {ds u : List Char} {v : Int64}

@[simp] theorem itemsText_nil : itemsText [] = [] := rfl

@[simp] theorem itemsText_cons :
    itemsText ((ds, u) :: items) = ds ++ ',' :: (u ++ itemsText items) := by
  simp [itemsText]

@[simp] theorem itemsText_concat :
    itemsText (items ++ [(ds, u)]) = itemsText items ++ (ds ++ ',' :: u) := by
  simp [itemsText]

/-- With a number after them, items are a list. -/
theorem listBody_itemsText (hitems : ∀ p ∈ items, IsItem p.1 p.2) (hnum : Parser.Numeral ds v) :
    ∃ w vs, ListBody (IsRun isBlank) (itemsText items ++ ds) (w :: vs) := by
  induction items with
  | nil => exact ⟨v, [], by simpa using ListBody.items hnum .nil⟩
  | cons p items ih =>
      obtain ⟨d, u⟩ := p
      obtain ⟨hitem, hitems⟩ := List.forall_mem_cons.1 hitems
      obtain ⟨w, vs, hbody⟩ := ih hitems
      -- The list so far gets a comma and the blanks in front of its first number.
      generalize htext : itemsText items ++ ds = body at hbody
      cases hbody with
      | @items ds' cs _ _ hfirst htail =>
          have hlist := ListBody.items hitem.numeral (.cons hitem.gap hfirst htail)
          refine ⟨Int64.ofNat (Decimal.value d), w :: vs, ?_⟩
          rw [itemsText_cons, List.append_assoc, List.cons_append, List.append_assoc, htext]
          exact hlist

end

namespace Parser

variable {α : Type} {gap : Parser α} {gaps : List Char → Prop} {s r : Text} {e : String}
  {items : List (List Char × List Char)} {ds rest : List Char}

/-- A list of numbers fails with what is said of the number that it breaks off at. -/
theorem fails_integer_of_fails_numbers (hlaw : gap.LeavesSuffix)
    (h : (integer.separatedBy ((literal ",").sequence gap)).Fails s e r) :
    integer.Fails r e r := by
  obtain ⟨v, t, -, hrounds⟩ := fails_separatedBy.1 h
  obtain ⟨t', -, hbroken⟩ := broken_of_fails_repetition (numberRound_leavesSuffix hlaw) hrounds
  obtain ⟨b, t'', -, hnumber⟩ := separatedRound_broken.1 hbroken
  obtain rfl := inPlace_integer hnumber
  exact hnumber

/-- After a comma a number that is too large is a failure of the list. -/
theorem fails_numbers_of_lt (hlaw : gap.LeavesSuffix) (hgap : gap.TakesGaps gaps)
    {body u : List Char} {v : Int64} {vs : List Int64} (hbody : ListBody gaps body (v :: vs))
    (hu : gaps u) (hblank : Stops isBlank r.chars)
    (hlarge : largestInteger < Decimal.value (r.takeWhile Char.isDigit))
    (happ : body ++ ',' :: (u ++ r.chars) = s.chars) :
    (integer.separatedBy ((literal ",").sequence gap)).Fails s
      "Expected: integer value within i64 range" r := by
  obtain ⟨e, h⟩ := (failsAt_numbers hlaw hgap).2
    ⟨body, v, vs, u, hbody, hu, hblank, Or.inr hlarge, happ⟩
  obtain ⟨rfl, -⟩ := (fails_integer_of_fails_numbers hlaw h).unique (fails_integer_of_lt hlarge)
  exact h

/-- At the beginning of a list it makes the list an empty one. -/
theorem takes_numbers_of_lt {separator : Parser α}
    (hlarge : largestInteger < Decimal.value (s.takeWhile Char.isDigit)) :
    (integer.separatedBy separator).Takes s [] s :=
  takes_separatedBy_nil.2 ⟨⟨_, s, fails_integer_of_lt hlarge⟩, rfl⟩

/-- Digits of a number that is too large, up to the last of them. -/
structure IsTooLarge (ds rest : List Char) : Prop where
  digits : IsRun Char.isDigit ds
  value_gt : largestInteger < Decimal.value ds
  stops : Stops Char.isDigit rest

theorem IsTooLarge.ne_nil (h : IsTooLarge ds rest) : ds ≠ [] := by
  rintro rfl
  exact absurd h.value_gt (by decide)

theorem IsTooLarge.takeWhile (h : IsTooLarge ds rest) :
    (ofChars (ds ++ rest)).takeWhile Char.isDigit = ds :=
  takeWhile_append_of_stops h.digits h.stops

theorem IsTooLarge.lt_value (h : IsTooLarge ds rest) :
    largestInteger < Decimal.value ((ofChars (ds ++ rest)).takeWhile Char.isDigit) := by
  rw [h.takeWhile]
  exact h.value_gt

/-- The brackets pass on what becomes of the list between them. -/
theorem fails_array_of_content {content : List Char}
    (h : ((integer.separatedBy ((literal ",").sequence spaces)).skipRight (literal "]")).Fails
      (ofChars content) e r) : (array spaces).Fails (ofChars ('[' :: content)) e r := by
  rw [array, between_eq, fails_skipLeft]
  exact Or.inr ⟨"[", ofChars content, takes_literal.2 ⟨rfl, rfl⟩, h⟩

theorem fails_array_of_tooLarge_first (h : IsTooLarge ds rest) :
    (array spaces).Fails (ofChars ('[' :: (ds ++ rest))) "Expected: \"]\" prefix"
      (ofChars (ds ++ rest)) := by
  have hstop : Stops (· == ']') (ds ++ rest) := by
    refine stops_append_of_ne_nil h.ne_nil fun c hc => beq_eq_false_iff_ne.2 ?_
    rintro rfl
    exact h.digits.notMem (by decide) hc
  obtain ⟨e, hclose⟩ := (failsAt_sign (u := "]") (s := ofChars (ds ++ rest)) rfl).2 ⟨hstop, rfl⟩
  obtain ⟨-, rfl, -⟩ := fails_literal.1 hclose
  exact fails_array_of_content
    (fails_skipRight.2 (Or.inr ⟨[], _, takes_numbers_of_lt h.lt_value, hclose⟩))

theorem fails_array_of_tooLarge_later (hitems : ∀ p ∈ items, IsItem p.1 p.2) (hne : items ≠ [])
    (h : IsTooLarge ds rest) :
    (array spaces).Fails (ofChars ('[' :: (itemsText items ++ (ds ++ rest))))
      "Expected: integer value within i64 range" (ofChars (ds ++ rest)) := by
  -- The last item ends the list that was read, and its comma asks for one more number.
  obtain ⟨init, ⟨d, u⟩, rfl⟩ := items.eq_nil_or_concat'.resolve_left hne
  obtain ⟨hinit, hlast⟩ := List.forall_mem_append.1 hitems
  have hitem : IsItem d u := hlast (d, u) (List.mem_singleton_self _)
  obtain ⟨w, vs, hbody⟩ := listBody_itemsText hinit hitem.numeral
  have hblank : Stops isBlank (ds ++ rest) := stops_append_of_ne_nil h.ne_nil fun c hc =>
    isBlank_eq_false_of_isDigit (h.digits c hc)
  exact fails_array_of_content (fails_skipRight.2 (Or.inl (fails_numbers_of_lt leavesSuffix_spaces
    takesGaps_spaces hbody hitem.gap hblank h.lt_value (by simp))))

end Parser

section

variable {w₀ n w₁ w₂ ds rest : List Char} {items : List (List Char × List Char)}

theorem assignmentUpTo_append :
    assignmentUpTo w₀ n w₁ w₂ items ++ rest =
      "let".toList ++ (w₀ ++ (n ++ (w₁ ++ '=' :: (w₂ ++ '[' :: (itemsText items ++ rest))))) := by
  have heq : assignmentUpTo w₀ n w₁ w₂ items =
      "let".toList ++ w₀ ++ n ++ w₁ ++ ['='] ++ w₂ ++ ['['] ++ itemsText items := rfl
  rw [heq]
  simp

/-- A list in which reading fails makes the whole assignment fail, there and with that. -/
theorem parse_eq_mismatch_of_fails_array {e : String} (hheading : IsHeading w₀ n w₁)
    (hw₂ : IsRun isBlank w₂)
    (h : (Parser.array Parser.spaces).Fails (ofChars ('[' :: (itemsText items ++ rest))) e
      (ofChars rest)) :
    (Assignment.parse (ofChars (assignmentUpTo w₀ n w₁ w₂ items ++ rest))).value =
      .error (.mismatch e (utf8Length (assignmentUpTo w₀ n w₁ w₂ items))
        (excerpt (ofChars rest))) := by
  have happ : assignmentUpTo w₀ n w₁ w₂ items ++ rest =
      "let".toList ++ (w₀ ++ (n ++ (w₁ ++ '=' :: (w₂ ++ '[' :: (itemsText items ++ rest))))) :=
    assignmentUpTo_append
  have hblank : Stops isBlank ('[' :: (itemsText items ++ rest)) := stops_cons.2 (by decide)
  have hheader : Parser.header.Takes (ofChars (assignmentUpTo w₀ n w₁ w₂ items ++ rest))
      (String.ofList n) (ofChars ('[' :: (itemsText items ++ rest))) :=
    Parser.takes_header.2
      ⟨w₀, w₁, w₂, by simpa using hheading, hw₂, hblank, by simpa using happ.symm⟩
  refine Parser.parseComplete_of_fails ?_
  rw [Parser.assignment_eq, Parser.fails_map, Parser.fails_sequence]
  exact Or.inr ⟨_, _, hheader, h⟩

/-- A number that is too large is reported at its first digit, wherever it stands in the list of an
assignment and whatever text follows it. After the first number the report says that it is out of
range. Of the first number it says that the closing bracket is missing. -/
theorem parse_number_out_of_range (hheading : IsHeading w₀ n w₁) (hw₂ : IsRun isBlank w₂)
    (hitems : ∀ p ∈ items, IsItem p.1 p.2) (hlarge : Parser.IsTooLarge ds rest) :
    (Assignment.parse (ofChars (assignmentUpTo w₀ n w₁ w₂ items ++ (ds ++ rest)))).value =
      .error (.mismatch
        (if items = [] then "Expected: \"]\" prefix"
          else "Expected: integer value within i64 range")
        (utf8Length (assignmentUpTo w₀ n w₁ w₂ items)) (excerpt (ofChars (ds ++ rest)))) := by
  split
  · next hnil =>
      subst hnil
      have hlist : (Parser.array Parser.spaces).Fails
          (ofChars ('[' :: (itemsText [] ++ (ds ++ rest)))) "Expected: \"]\" prefix"
          (ofChars (ds ++ rest)) := by
        rw [itemsText_nil, List.nil_append]
        exact Parser.fails_array_of_tooLarge_first hlarge
      exact parse_eq_mismatch_of_fails_array hheading hw₂ hlist
  · next hne =>
      exact parse_eq_mismatch_of_fails_array hheading hw₂
        (Parser.fails_array_of_tooLarge_later hitems hne hlarge)

/-- The second number of a list, after a name of two bytes. -/
theorem parse_number_out_of_range_of_second :
    IsHeading [' '] ['é'] [' '] ∧ IsRun isBlank [' '] ∧
      (∀ p ∈ [(['1'], [' '])], IsItem p.1 p.2) ∧
      Parser.IsTooLarge "9223372036854775808".toList "x".toList ∧
      (Assignment.parse (ofString "let é = [1, 9223372036854775808x")).value =
        .error (.mismatch "Expected: integer value within i64 range" 13
          (excerpt (ofString "9223372036854775808x"))) := by
  have hheading : IsHeading [' '] ['é'] [' '] :=
    ⟨by simp, isRun_isBlank_space, by simp, by decide +kernel, isRun_isBlank_space⟩
  have hitems : ∀ p ∈ [(['1'], [' '])], IsItem p.1 p.2 :=
    List.forall_mem_singleton.2 ⟨by simp, by decide, by decide, isRun_isBlank_space⟩
  have hlarge : Parser.IsTooLarge "9223372036854775808".toList "x".toList :=
    ⟨by decide +kernel, by decide +kernel, by decide +kernel⟩
  have herror := parse_number_out_of_range hheading isRun_isBlank_space hitems hlarge
  have htext : assignmentUpTo [' '] ['é'] [' '] [' '] [(['1'], [' '])] ++
      ("9223372036854775808".toList ++ "x".toList) =
        "let é = [1, 9223372036854775808x".toList := by decide +kernel
  have hoffset : utf8Length (assignmentUpTo [' '] ['é'] [' '] [' '] [(['1'], [' '])]) = 13 := by
    decide +kernel
  have hrest : "9223372036854775808".toList ++ "x".toList = "9223372036854775808x".toList := by
    decide +kernel
  rw [htext, hrest, hoffset, if_neg (List.cons_ne_nil _ _)] at herror
  exact ⟨hheading, isRun_isBlank_space, hitems, hlarge, herror⟩

/-- A first number that is out of range is not reported as such. -/
theorem first_number_not_reported :
    ¬ ∀ (w₀ n w₁ w₂ ds rest : List Char) (items : List (List Char × List Char)),
      IsHeading w₀ n w₁ → IsRun isBlank w₂ → (∀ p ∈ items, IsItem p.1 p.2) →
      Parser.IsTooLarge ds rest →
      ∃ found,
        (Assignment.parse (ofChars (assignmentUpTo w₀ n w₁ w₂ items ++ (ds ++ rest)))).value =
          .error (.mismatch "Expected: integer value within i64 range"
            (utf8Length (assignmentUpTo w₀ n w₁ w₂ items)) found) := by
  intro h
  have hheading : IsHeading [' '] ['x'] [' '] :=
    ⟨by simp, isRun_isBlank_space, by simp, by decide +kernel, isRun_isBlank_space⟩
  have hlarge : Parser.IsTooLarge "9223372036854775808".toList "]".toList :=
    ⟨by decide +kernel, by decide +kernel, by decide +kernel⟩
  obtain ⟨found, herror⟩ := h [' '] ['x'] [' '] [' '] _ _ [] hheading isRun_isBlank_space
    (List.forall_mem_nil _) hlarge
  have hfails : Parser.assignment.Fails (ofString "let x = [9223372036854775808]")
      "Expected: \"]\" prefix" (ofString "9223372036854775808]") := by
    unfold Parser.Fails
    decide +kernel
  obtain ⟨r, hrange, -⟩ := Parser.parseComplete_eq_mismatch_iff.1 herror
  exact absurd (hrange.unique hfails).1 (by decide)

end

end TextParsers
