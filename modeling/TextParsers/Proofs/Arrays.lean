import TextParsers.Proofs.Sentences

/-!
# An array on its own and in an assignment

The language has two lists of numbers. In an assignment any blanks may follow
a comma, and none have to; an array on its own wants at least one there, and
its separator is a comma and a blank together, so a comma without a blank is
given back and the list ends in front of it.

As grammars the two differ in nothing but the gap after a comma, and what the
parsers take is what their grammars say (`takes_array`). So the loops need not
be compared. A list of the narrow kind is one of the wide kind in which every
comma is followed by a blank, and this is an induction over the list: numbers
and blanks have no comma in them, and the number after a comma does not begin
with a blank, so a comma that is followed by one has a gap after it.
-/

namespace TextParsers

open Text

/-- Every comma is directly followed by a breaking whitespace character. -/
def CommasSpaced (cs : List Char) : Prop :=
  ∀ u w, cs = u ++ ',' :: w → ∃ c ∈ w.head?, isBlank c = true

section

variable {c : Char} {u ds cs : List Char} {v : Int64} {vs : List Int64}

theorem commasSpaced_nil : CommasSpaced [] := by
  intro u w h
  simp at h

theorem commasSpaced_cons :
    CommasSpaced (c :: cs) ↔
      (c = ',' → ∃ d ∈ cs.head?, isBlank d = true) ∧ CommasSpaced cs := by
  refine ⟨fun h => ⟨fun hc => h [] cs (by rw [hc]; rfl), fun u w hcs => ?_⟩, fun h u w hcs => ?_⟩
  · exact h (c :: u) w (by rw [hcs]; rfl)
  · cases u with
    | nil =>
        injection hcs with hc hw
        rw [← hw]
        exact h.1 hc
    | cons d u =>
        injection hcs with _ hw
        exact h.2 u w hw

theorem commasSpaced_append_of_notMem (hu : ',' ∉ u) :
    CommasSpaced (u ++ cs) ↔ CommasSpaced cs := by
  induction u with
  | nil => rfl
  | cons c u ih =>
      rw [List.mem_cons, not_or] at hu
      rw [List.cons_append, commasSpaced_cons, ih hu.2]
      exact and_iff_right fun hc => absurd hc.symm hu.1

/-- Between a comma and a number a blank comes first just when there is any. -/
theorem head?_gap_isBlank (hu : IsRun isBlank u) (hnum : Parser.Numeral ds v) :
    (∃ d ∈ (u ++ (ds ++ cs)).head?, isBlank d = true) ↔ u ≠ [] := by
  cases u with
  | nil =>
      have hne := hnum.nonempty
      have hdigits := hnum.digits
      cases ds with
      | nil => exact absurd rfl hne
      | cons d ds =>
          have hd := isBlank_eq_false_of_isDigit (isRun_cons.1 hdigits).1
          simp [hd]
  | cons d u =>
      have hd := (isRun_cons.1 hu).1
      simp [hd]

/-- A comma, blanks and a number have one comma in them, and after it stands what the gap begins
with. -/
theorem commasSpaced_comma (hu : IsRun isBlank u) (hnum : Parser.Numeral ds v) :
    CommasSpaced (',' :: (u ++ (ds ++ cs))) ↔ u ≠ [] ∧ CommasSpaced cs := by
  have hno : ',' ∉ u ++ ds := by
    rw [List.mem_append, not_or]
    exact ⟨hu.notMem (by decide), hnum.digits.notMem (by decide)⟩
  have hrest : CommasSpaced (u ++ (ds ++ cs)) ↔ CommasSpaced cs := by
    rw [← List.append_assoc, commasSpaced_append_of_notMem hno]
  rw [commasSpaced_cons, head?_gap_isBlank hu hnum, hrest]
  exact and_congr_left' (imp_iff_right rfl)

theorem commasSpaced_bracket : CommasSpaced [']'] :=
  commasSpaced_cons.2 ⟨fun hc => absurd hc (by decide), commasSpaced_nil⟩

/-! Numbers with a gap that is not empty are numbers with any gaps whose commas are followed by a
blank. The bracket after them is one more character that may follow a comma and is no blank. -/

theorem listTail_gap_iff :
    ListTail (fun u => u ≠ [] ∧ IsRun isBlank u) cs vs ↔
      ListTail (IsRun isBlank) cs vs ∧ CommasSpaced (cs ++ [']']) := by
  refine ⟨fun h => ?_, fun h => ?_⟩
  · induction h with
    | nil => exact ⟨.nil, commasSpaced_bracket⟩
    | cons hu hnum _ ih =>
        refine ⟨.cons hu.2 hnum ih.1, ?_⟩
        rw [List.cons_append, List.append_assoc, List.append_assoc]
        exact (commasSpaced_comma hu.2 hnum).2 ⟨hu.1, ih.2⟩
  · obtain ⟨htail, hspaced⟩ := h
    induction htail with
    | nil => exact .nil
    | cons hu hnum _ ih =>
        rw [List.cons_append, List.append_assoc, List.append_assoc,
          commasSpaced_comma hu hnum] at hspaced
        exact .cons ⟨hspaced.1, hu⟩ hnum (ih hspaced.2)

theorem listBody_gap_iff :
    ListBody (fun u => u ≠ [] ∧ IsRun isBlank u) cs vs ↔
      ListBody (IsRun isBlank) cs vs ∧ CommasSpaced (cs ++ [']']) := by
  refine ⟨fun h => ?_, fun h => ?_⟩
  · cases h with
    | empty => exact ⟨.empty, commasSpaced_bracket⟩
    | items hnum htail =>
        obtain ⟨htail, hspaced⟩ := listTail_gap_iff.1 htail
        refine ⟨.items hnum htail, ?_⟩
        rw [List.append_assoc]
        exact (commasSpaced_append_of_notMem (hnum.digits.notMem (by decide))).2 hspaced
  · obtain ⟨hbody, hspaced⟩ := h
    cases hbody with
    | empty => exact .empty
    | items hnum htail =>
        rw [List.append_assoc,
          commasSpaced_append_of_notMem (hnum.digits.notMem (by decide))] at hspaced
        exact .items hnum (listTail_gap_iff.2 ⟨htail, hspaced⟩)

end

namespace Parser

variable {s t r : Text} {n : String} {vs : List Int64}

/-! ## The two parsers -/

theorem takes_intArray :
    intArray.Takes s vs r ↔
      ∃ body, ListBody (fun u => u ≠ [] ∧ IsRun isBlank u) body vs ∧
        '[' :: (body ++ ']' :: r.chars) = s.chars :=
  takes_array leavesSuffix_charsWhile takesGaps_whitespace

theorem takes_intArray_iff_spaces :
    intArray.Takes s vs r ↔
      (array spaces).Takes s vs r ∧ ∃ u, u ++ r.chars = s.chars ∧ CommasSpaced u := by
  rw [takes_intArray, takes_array_spaces]
  have hspaced : ∀ body, CommasSpaced ('[' :: (body ++ [']'])) ↔ CommasSpaced (body ++ [']']) :=
    fun body => commasSpaced_cons.trans (and_iff_right fun hc => absurd hc (by decide))
  refine ⟨fun h => ?_, fun h => ?_⟩
  · obtain ⟨body, hbody, happ⟩ := h
    obtain ⟨hbody, hcommas⟩ := listBody_gap_iff.1 hbody
    refine ⟨⟨body, hbody, happ⟩, '[' :: (body ++ [']']), ?_, (hspaced body).2 hcommas⟩
    rw [← happ]
    simp
  · obtain ⟨⟨body, hbody, happ⟩, u, hu, hcommas⟩ := h
    -- What was taken is the text up to `r`, so the commas of `u` are those of the array.
    have hpart : u = '[' :: (body ++ [']']) := by
      refine List.append_cancel_right (hu.trans (happ.symm.trans ?_))
      simp
    rw [hpart, hspaced] at hcommas
    exact ⟨body, listBody_gap_iff.2 ⟨hbody, hcommas⟩, happ⟩

/-- Once the header is taken, the values of an assignment are those of the array after it. -/
theorem takes_assignment_of_header (h : header.Takes s n t) :
    assignment.Takes s ⟨n, vs⟩ r ↔ (array spaces).Takes t vs r := by
  rw [assignment_eq, takes_map]
  refine ⟨fun hs => ?_, fun hs => ⟨(n, vs), takes_sequence.2 ⟨t, h, hs⟩, rfl⟩⟩
  obtain ⟨⟨n', vs'⟩, hboth, heq⟩ := hs
  obtain ⟨t', hn, hvs⟩ := takes_sequence.1 hboth
  obtain ⟨-, rfl⟩ := h.unique hn
  injection heq with _ hvalues
  rw [← hvalues]
  exact hvs

theorem takes_assignment_of_bracket (h : s.chars.head? = some '[') :
    assignment.Takes (ofChars ("let x=".toList ++ s.chars)) ⟨"x", vs⟩ r ↔
      (array spaces).Takes s vs r := by
  have hblank : Stops isBlank s.chars := by
    intro c hc
    rw [h] at hc
    obtain rfl := Option.some.inj hc
    decide
  have hletter : IsRun isLetter "x".toList := isRun_cons.2 ⟨by decide +kernel, isRun_nil⟩
  have hparts : IsHeading [' '] "x".toList [] :=
    ⟨by simp, isRun_isBlank_space, by simp, hletter, isRun_nil⟩
  exact takes_assignment_of_header
    (takes_header.2 ⟨[' '], [], [], hparts, isRun_nil, hblank, rfl⟩)

/-- The parser of arrays accepts exactly its grammar, in which at least one blank follows each
comma. The parser of assignments takes the same values off the same text after `let x=`, provided
that every comma in the part that is taken has a blank after it, and not otherwise. -/
theorem apply_intArray_eq_success_iff :
    ((intArray.apply s).value = .success vs r ↔
      ∃ body, ListBody (fun u => u ≠ [] ∧ IsRun isBlank u) body vs ∧
        s.chars = ['['] ++ body ++ [']'] ++ r.chars) ∧
    ((intArray.apply s).value = .success vs r ↔
      (assignment.apply (ofChars ("let x=".toList ++ s.chars))).value = .success ⟨"x", vs⟩ r ∧
        s.chars.head? = some '[' ∧ ∃ u, u ++ r.chars = s.chars ∧ CommasSpaced u) := by
  refine ⟨takes_intArray.trans ?_, takes_intArray_iff_spaces.trans ⟨fun h => ?_, fun h => ?_⟩⟩
  · simp [eq_comm]
  · obtain ⟨htakes, hcommas⟩ := h
    obtain ⟨body, -, happ⟩ := takes_array_spaces.1 htakes
    have hhead : s.chars.head? = some '[' := by
      rw [← happ]
      rfl
    exact ⟨(takes_assignment_of_bracket hhead).2 htakes, hhead, hcommas⟩
  · obtain ⟨htakes, hhead, hcommas⟩ := h
    exact ⟨(takes_assignment_of_bracket hhead).1 htakes, hcommas⟩

end Parser

end TextParsers
