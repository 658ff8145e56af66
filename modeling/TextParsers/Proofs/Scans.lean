import TextParsers.Proofs.Numbers
import TextParsers.Proofs.Repeats
import TextParsers.Proofs.ZeroWidth

/-!
# Where a scan stops

A run ends where a scan stops, and a scan can be made in two ways. `charsWhile`
looks for the first character outside its class and asks at which byte it
begins. `integer` looks for the first byte that is no digit and asks for
nothing else. Both then cut the text at an index of bytes, which is the size of
the text if the scan went through to its end.

An index that was found among characters is between two of them. One that was
found among bytes need not be, and that it is for digits rests on how
characters are written: one that takes several bytes begins with a byte that is
no ASCII digit, so the scan never gets inside of it. The two scans stop at one
place, and a number is what the digits before that place denote, or it is out
of range, but it is never anything else.

What is left after a run begins with a character outside the class, so a second
run cannot be had there. Repeating a run therefore finds one run or none, which
is why blanks that may be missing can be written as a repetition of blanks that
may not.
-/

namespace TextParsers

open Text

/-- Characters with the indices of their first bytes, which are counted from `n` on. -/
def charIndices : Nat → List Char → List (Nat × Char)
  | _, [] => []
  | n, c :: cs => (n, c) :: charIndices (n + c.utf8Size) cs

theorem elim_find?_charIndices (q : Char → Bool) (n : Nat) (cs : List Char) :
    ((charIndices n cs).find? fun p => !q p.2).elim (n + utf8Length cs) Prod.fst =
      n + utf8Length (cs.takeWhile q) := by
  induction cs generalizing n with
  | nil => rfl
  | cons c cs ih =>
      rw [charIndices, List.find?_cons, List.takeWhile_cons]
      cases hc : q c with
      | true =>
          have hrest := ih (n + c.utf8Size)
          simpa [Nat.add_assoc] using hrest
      | false => simp

namespace Text

variable {q : Char → Bool} {u : List Char} {s r : Text}

/-- The byte at which the first character begins that does not satisfy `q`, or the size of the text
if there is no such character. -/
def charStop (q : Char → Bool) (s : Text) : Nat :=
  ((charIndices 0 s.chars).find? fun p => !q p.2).elim s.size Prod.fst

/-- The first byte that does not satisfy `q`, or the size of the text if there is no such byte. -/
def byteStop (q : UInt8 → Bool) (s : Text) : Nat := s.bytes.findIdx fun b => !q b

theorem charStop_eq (q : Char → Bool) (s : Text) :
    s.charStop q = utf8Length (s.takeWhile q) := by
  have hfound := elim_find?_charIndices q 0 s.chars
  rw [Nat.zero_add, Nat.zero_add, ← s.size_eq] at hfound
  exact hfound

theorem byteStop_eq (q : UInt8 → Bool) (s : Text) : s.byteStop q = s.leadingBytes q := by
  rw [leadingBytes_eq, List.takeWhile_eq_take_findIdx_not, List.length_take,
    Nat.min_eq_left List.findIdx_le_length, byteStop]

theorem charStop_eq_zero_iff : s.charStop q = 0 ↔ Stops q s.chars := by
  rw [charStop_eq, utf8Length_eq_zero_iff]
  exact takeWhile_eq_nil_iff

theorem takeBytes_charStop (q : Char → Bool) (s : Text) :
    s.takeBytes (s.charStop q) = s.takeWhile q := by
  have happ : s.takeWhile q ++ s.chars.dropWhile q = s.chars := List.takeWhile_append_dropWhile
  rw [charStop_eq, Parser.takeBytes_utf8Length happ]

theorem dropBytes_charStop (q : Char → Bool) (s : Text) :
    s.dropBytes (s.charStop q) = s.dropWhile q := by
  have happ : s.takeWhile q ++ s.chars.dropWhile q = s.chars := List.takeWhile_append_dropWhile
  refine ext ?_
  rw [charStop_eq, Parser.chars_dropBytes_utf8Length happ, chars_dropWhile]

/-- A scan of the characters of a text stops between two of them. -/
theorem isBoundary_charStop (q : Char → Bool) (s : Text) : s.IsBoundary (s.charStop q) := by
  rw [IsBoundary, takeBytes_charStop, charStop_eq]

/-! ## Longest runs -/

/-- The text begins with the run `u` and goes on with `r`, and every run that it begins with is a
beginning of `u`. -/
structure IsLongestRun (q : Char → Bool) (u : List Char) (r s : Text) : Prop where
  append : u ++ r.chars = s.chars
  run : IsRun q u
  longest : ∀ v, v <+: s.chars → IsRun q v → v <+: u

/-- A run is the longest one if the text after it does not go on with its characters. -/
theorem isLongestRun_iff :
    IsLongestRun q u r s ↔ u ++ r.chars = s.chars ∧ IsRun q u ∧ Stops q r.chars := by
  refine ⟨fun h => ⟨h.append, h.run, ?_⟩, fun h => ?_⟩
  · cases hr : r.chars with
    | nil => exact stops_nil
    | cons c cs =>
        rw [stops_cons]
        cases hc : q c with
        | false => rfl
        | true =>
            -- With its next character the run would be longer.
            have hlonger : u ++ [c] <+: s.chars := by
              rw [← h.append, hr]
              simp
            have hlength := (h.longest _ hlonger
              (isRun_append.2 ⟨h.run, isRun_cons.2 ⟨hc, isRun_nil⟩⟩)).length_le
            simp at hlength
  · obtain ⟨happ, hrun, hstop⟩ := h
    refine ⟨happ, hrun, fun v hv hvrun => ?_⟩
    rw [← happ] at hv
    rcases List.prefix_or_prefix_of_prefix hv (List.prefix_append u r.chars) with hvu | ⟨w, rfl⟩
    · exact hvu
    · obtain ⟨cs, hcs⟩ := (List.prefix_append_right_inj u).1 hv
      cases w with
      | nil => simp
      | cons c w =>
          rw [← hcs, List.cons_append, stops_cons] at hstop
          exact absurd hstop (by simp [(isRun_cons.1 (isRun_append.1 hvrun).2).1])

theorem exists_isLongestRun (q : Char → Bool) (s : Text) : ∃ u r, IsLongestRun q u r s :=
  ⟨s.chars.takeWhile q, s.dropWhile q,
    isLongestRun_iff.2 ⟨List.takeWhile_append_dropWhile, isRun_takeWhile, stops_dropWhile⟩⟩

theorem IsLongestRun.eq_of_nil (h : IsLongestRun q [] r s) : r = s := ext h.append

end Text

namespace Parser

variable {q : Char → Bool} {expected : String} {u : List Char} {s r : Text}

/-! ## Digits among characters and among bytes -/

/-- Reading a run makes no records either, so it is known by its outcome. -/
theorem apply_charsWhile_of_value {o : Outcome String}
    (h : ((charsWhile q expected).apply s).value = o) :
    (charsWhile q expected).apply s = ⟨o, []⟩ :=
  Logged.ext h rfl

/-- A run is the text up to where the scan stops, and there is none if it stops at once. -/
theorem apply_charsWhile_eq_cut (q : Char → Bool) (expected : String) (s : Text) :
    (charsWhile q expected).apply s =
      ⟨if s.charStop q = 0 then .failure expected s
        else .success (String.ofList (s.takeBytes (s.charStop q))) (s.dropBytes (s.charStop q)),
        []⟩ := by
  rw [takeBytes_charStop, dropBytes_charStop]
  split
  · next hzero =>
      exact apply_charsWhile_of_value (fails_charsWhile.2 ⟨charStop_eq_zero_iff.1 hzero, rfl, rfl⟩)
  · next hpos =>
      have hne : s.takeWhile q ≠ [] := mt takeWhile_eq_nil_iff.1 (mt charStop_eq_zero_iff.2 hpos)
      refine apply_charsWhile_of_value (takes_charsWhile.2 ?_)
      rw [String.toList_ofList, chars_dropWhile]
      exact ⟨hne, isRun_takeWhile, stops_dropWhile, List.takeWhile_append_dropWhile⟩

theorem byteStop_isDigitByte (s : Text) : s.byteStop isDigitByte = s.charStop Char.isDigit := by
  rw [byteStop_eq, charStop_eq]
  exact countLeadingBytes_isDigitByte s.chars

example : (Text.ofString "42é7").byteStop isDigitByte = 2 := by decide +kernel

theorem stops_of_fails_integer (h : integer.Fails s "Expected: integer value" r) :
    Stops Char.isDigit s.chars := by
  rw [Fails, apply_integer] at h
  split at h
  · next hnil => exact takeWhile_eq_nil_iff.1 hnil
  · split at h
    · cases h
    · injection h with hexpected
      exact absurd hexpected (by decide)

/-- A run of digits is a number in range, or one that is not. -/
theorem takes_or_fails_integer {d : String} (h : digits.Takes s d r) :
    (Decimal.value d.toList ≤ largestInteger ∧ ∃ v, Numeral d.toList v ∧ integer.Takes s v r) ∨
      (largestInteger < Decimal.value d.toList ∧
        integer.Fails s "Expected: integer value within i64 range" s) := by
  obtain ⟨hne, hdigits, hstop, happ⟩ := takes_charsWhile.1 h
  rcases Nat.lt_or_ge largestInteger (Decimal.value d.toList) with hlt | hle
  · have htake : s.takeWhile Char.isDigit = d.toList := by
      rw [Text.takeWhile, ← happ]
      exact takeWhile_append_of_stops hdigits hstop
    exact Or.inr ⟨hlt, fails_integer_of_lt (by rwa [htake])⟩
  · have hnum := numeral_ofNat hne hdigits hle
    exact Or.inl ⟨hle, _, hnum, takes_integer.2 ⟨_, hnum, hstop, happ⟩⟩

/-- The scan of `integer` for a byte that is no digit and the scan of `digits` for a character that
is none stop at the same place of every text, which is between two characters. So the one finds no
number just when the other finds no digits, and otherwise the number is the one that these digits
denote, with the same text left, or it is out of range. -/
theorem integer_stops_where_digits_do (s : Text) :
    s.leadingBytes isDigitByte = s.byteStop isDigitByte ∧
    digits.apply s =
      ⟨if s.charStop Char.isDigit = 0 then .failure expectedRun s
        else .success (String.ofList (s.takeBytes (s.charStop Char.isDigit)))
          (s.dropBytes (s.charStop Char.isDigit)), []⟩ ∧
    s.byteStop isDigitByte = s.charStop Char.isDigit ∧
    s.IsBoundary (s.byteStop isDigitByte) ∧
    ((∃ r, (integer.apply s).value = .failure "Expected: integer value" r) ↔
      ∃ e r, (digits.apply s).value = .failure e r) ∧
    ∀ d r, (digits.apply s).value = .success d r →
      (Decimal.placeValue d.toList ≤ 9223372036854775807 ∧
        ∃ v : Int64, v.toInt = Decimal.placeValue d.toList ∧
          integer.apply s = ⟨.success v r, []⟩) ∨
      (9223372036854775807 < Decimal.placeValue d.toList ∧
        integer.apply s = ⟨.failure "Expected: integer value within i64 range" s, []⟩) := by
  refine ⟨(byteStop_eq _ s).symm, apply_charsWhile_eq_cut _ _ s, byteStop_isDigitByte s, ?_,
    ⟨fun h => ?_, fun h => ?_⟩, fun d r h => ?_⟩
  · rw [byteStop_isDigitByte]
    exact isBoundary_charStop _ s
  · obtain ⟨r, h⟩ := h
    exact ⟨_, s, fails_charsWhile.2 ⟨stops_of_fails_integer h, rfl, rfl⟩⟩
  · obtain ⟨e, r, h⟩ := h
    exact ⟨s, fails_integer_of_stops (fails_charsWhile.1 h).1⟩
  · rw [← Decimal.value_eq_placeValue]
    rcases takes_or_fails_integer h with ⟨hle, v, hnum, htakes⟩ | ⟨hlt, hfails⟩
    · exact Or.inl ⟨hle, v, hnum.value.symm, apply_integer_of_value htakes⟩
    · exact Or.inr ⟨hlt, apply_integer_of_value hfails⟩

/-! ## Runs that are repeated -/

theorem takes_charsWhile_of_isLongestRun (h : IsLongestRun q u r s) (hne : u ≠ []) :
    (charsWhile q expected).Takes s (String.ofList u) r := by
  obtain ⟨happ, hrun, hstop⟩ := isLongestRun_iff.1 h
  rw [takes_charsWhile, String.toList_ofList]
  exact ⟨hne, hrun, hstop, happ⟩

theorem fails_charsWhile_of_isLongestRun (h : IsLongestRun q [] r s) :
    (charsWhile q expected).Fails s expected s := by
  obtain ⟨-, -, hstop⟩ := isLongestRun_iff.1 h
  rw [h.eq_of_nil] at hstop
  exact fails_charsWhile.2 ⟨hstop, rfl, rfl⟩

/-- A greedy run takes the longest run of its class if that is not empty, and repeating it takes the
same run and no second one. It does not fail if there is none. So any blanks, also none, are taken
by a repetition of one run or more of them. -/
theorem greedy_run_repeats_once (q : Char → Bool) (expected : String) :
    (∀ s : Text, (∃ u r, IsLongestRun q u r s) ∧ ∀ u r, IsLongestRun q u r s →
      (charsWhile q expected).apply s =
        ⟨if u = [] then .failure expected s else .success (String.ofList u) r, []⟩ ∧
      (charsWhile q expected).many.apply s =
        ⟨if u = [] then .success [] s else .success [String.ofList u] r, []⟩) ∧
    ∀ s : Text, ∃ u r, IsLongestRun isBlank u r s ∧
      spaces.apply s = ⟨.success (String.ofList u) r, []⟩ := by
  have huntraced : (charsWhile q expected).many.NotesOnly fun _ => False :=
    (notesOnly_ofOutcome _).many consumes_charsWhile
  refine ⟨fun s => ⟨exists_isLongestRun q s, fun u r h => ?_⟩, fun s => ?_⟩
  · by_cases hu : u = []
    · subst hu
      have hfails : (charsWhile q expected).Fails s expected s :=
        fails_charsWhile_of_isLongestRun h
      rw [if_pos rfl, if_pos rfl]
      exact ⟨apply_charsWhile_of_value hfails, apply_many_of_fails hfails⟩
    · have htakes : (charsWhile q expected).Takes s (String.ofList u) r :=
        takes_charsWhile_of_isLongestRun h hu
      rw [if_neg hu, if_neg hu]
      exact ⟨apply_charsWhile_of_value htakes,
        huntraced.apply_of_value (takes_many_charsWhile.2 (Or.inr ⟨_, rfl, htakes⟩))⟩
  · obtain ⟨u, r, h⟩ := exists_isLongestRun isBlank s
    obtain ⟨happ, hrun, hstop⟩ := isLongestRun_iff.1 h
    have htakes : spaces.Takes s (String.ofList u) r :=
      takes_spaces.2 (by simpa using ⟨hrun, hstop, happ⟩)
    exact ⟨u, r, h, notesOnly_spaces.apply_of_value htakes⟩

end Parser

end TextParsers
