import TextParsers.Proofs.Suffix

/-!
# Where errors stand

An error gives its position as a number of bytes, and nobody counted them: the
number is the size of the input less the size of what was left. That this is
the place where the rest begins, and not just some number, is the suffix law
once more. The rest is the end of the input, so the input is cut in two there,
the first part takes up what the sizes differ by, and the subtraction never
has to stop at zero. The place is between two characters because both parts
are made of whole ones, however many bytes a character takes.

So a complete parse tells its caller what the parser itself would have told:
the value, if nothing was left; else where the parser stopped, what stands
there, and, if the parser failed, which expectation was not met. In the log
the rejection comes after the records of the parser, once.
-/

namespace TextParsers

/-! ## Positions in a text -/

section

variable {s r : Text} {u : List Char}

theorem offsetOf_eq_utf8Length (h : u ++ r.chars = s.chars) : offsetOf s r = utf8Length u := by
  rw [offsetOf, s.size_eq, r.size_eq, ← h, utf8Length_append]
  omega

theorem takeBytes_offsetOf (h : u ++ r.chars = s.chars) : s.takeBytes (offsetOf s r) = u := by
  rw [offsetOf_eq_utf8Length h, Parser.takeBytes_utf8Length h]

theorem dropBytes_offsetOf (h : r.chars <:+ s.chars) : s.dropBytes (offsetOf s r) = r := by
  obtain ⟨u, hu⟩ := h
  rw [offsetOf_eq_utf8Length hu]
  exact Text.ext (Parser.chars_dropBytes_utf8Length hu)

theorem isBoundary_offsetOf (h : r.chars <:+ s.chars) : s.IsBoundary (offsetOf s r) := by
  obtain ⟨u, hu⟩ := h
  rw [Text.IsBoundary, takeBytes_offsetOf hu, offsetOf_eq_utf8Length hu]

end

/-- The error stands in `input` at the place where `r` begins, which is between two characters, and
shows what stands there. -/
structure ParseError.Locates (e : ParseError) (input r : Text) : Prop where
  offset_le : e.offset ≤ input.size
  offset_add_size : e.offset + r.size = input.size
  isBoundary : input.IsBoundary e.offset
  dropBytes_eq : input.dropBytes e.offset = r
  found_eq : e.found = excerpt r

theorem ParseError.locates_of_suffix {e : ParseError} {input r : Text}
    (h : r.chars <:+ input.chars) (hoffset : e.offset = offsetOf input r)
    (hfound : e.found = excerpt r) : e.Locates input r := by
  have hsize : r.size ≤ input.size := Text.size_le_of_suffix h
  have hsub : offsetOf input r = input.size - r.size := rfl
  refine ⟨by omega, by omega, ?_, ?_, hfound⟩
  · rw [hoffset]
    exact isBoundary_offsetOf h
  · rw [hoffset]
    exact dropBytes_offsetOf h

namespace Parser

variable {α : Type} {p : Parser α} {s : Text}

theorem parseComplete_eq_ok_iff_apply {a : α} :
    (p.parseComplete s).value = .ok a ↔ (p.apply s).value = .success a (Text.ofString "") := by
  rw [parseComplete_eq_ok_iff]
  refine ⟨fun h => ?_, fun h => ⟨_, h, rfl⟩⟩
  obtain ⟨r, hr, hnil⟩ := h
  obtain rfl : r = Text.ofString "" := Text.ext hnil
  exact hr

/-- A failure behind the characters `u` is an error at the number of bytes that they take. -/
theorem parseComplete_of_fails {u rest : List Char} {e : String}
    (h : p.Fails (Text.ofChars (u ++ rest)) e (Text.ofChars rest)) :
    (p.parseComplete (Text.ofChars (u ++ rest))).value =
      .error (.mismatch e (utf8Length u) (excerpt (Text.ofChars rest))) :=
  parseComplete_eq_mismatch_iff.2 ⟨_, h, offsetOf_eq_utf8Length rfl, rfl⟩

/-- Every error of a complete parse stands where the parser stopped. -/
theorem LeavesSuffix.locates (hp : p.LeavesSuffix) {e : ParseError}
    (h : (p.parseComplete s).value = .error e) : e.Locates s (p.apply s).value.remainder := by
  cases e with
  | mismatch expected n f =>
      obtain ⟨r, hr, rfl, rfl⟩ := parseComplete_eq_mismatch_iff.1 h
      have hrest : (p.apply s).value.remainder = r := by
        rw [hr]
        rfl
      rw [hrest]
      exact ParseError.locates_of_suffix (hp.of_fails hr) rfl rfl
  | trailingInput n f =>
      obtain ⟨a, r, hr, -, rfl, rfl⟩ := parseComplete_eq_trailingInput_iff.1 h
      have hrest : (p.apply s).value.remainder = r := by
        rw [hr]
        rfl
      rw [hrest]
      exact ParseError.locates_of_suffix (hp.of_takes hr) rfl rfl

theorem LeavesSuffix.offset_lt_of_trailingInput (hp : p.LeavesSuffix) {n : Nat} {f : String}
    (h : (p.parseComplete s).value = .error (.trailingInput n f)) : n < s.size := by
  obtain ⟨a, r, hr, hne, rfl, -⟩ := parseComplete_eq_trailingInput_iff.1 h
  have hle := Text.size_le_of_suffix (hp.of_takes hr)
  have hpos : 0 < r.size := by
    rw [r.size_eq]
    exact Nat.pos_of_ne_zero (mt utf8Length_eq_zero_iff.1 hne)
  show s.size - r.size < s.size
  omega

end Parser

/-- A complete parse reports the outcome of the parser and nothing else. It succeeds if nothing is
left, fails as trailing input if something is, and with the expectation of the parser if that
failed. Both kinds of errors stand where the parser stopped, provided that the parsers behind the
names of the expression keep to the suffix law, and an error puts one more record at the end of the
log. -/
theorem Expr.parseComplete_reports_apply {named : String → Parser Value}
    (hnamed : ∀ name, (named name).LeavesSuffix) (e : Expr) (s : Text) :
    (∀ v, ((e.parser named).parseComplete s).value = .ok v ↔
      ((e.parser named).apply s).value = .success v (Text.ofString "")) ∧
    ((∃ offset found,
        ((e.parser named).parseComplete s).value = .error (.trailingInput offset found)) ↔
      ∃ v r, ((e.parser named).apply s).value = .success v r ∧ r.chars ≠ []) ∧
    (∀ expected, (∃ offset found,
        ((e.parser named).parseComplete s).value = .error (.mismatch expected offset found)) ↔
      ∃ r, ((e.parser named).apply s).value = .failure expected r) ∧
    (∀ error, ((e.parser named).parseComplete s).value = .error error →
      error.Locates s ((e.parser named).apply s).value.remainder) ∧
    (∀ offset found,
      ((e.parser named).parseComplete s).value = .error (.trailingInput offset found) →
        offset < s.size) ∧
    (∀ v, ((e.parser named).parseComplete s).value = .ok v →
      ((e.parser named).parseComplete s).records = ((e.parser named).apply s).records) ∧
    ∀ error, ((e.parser named).parseComplete s).value = .error error → ∃ last : Record,
      ((e.parser named).parseComplete s).records =
        ((e.parser named).apply s).records ++ [last] ∧
      last.level = .debug ∧
      last.message =
        "rejected " ++ Decimal.ofNat s.size ++ " byte input: " ++ error.message := by
  have hlaw := Expr.leavesSuffix_parser hnamed e
  refine ⟨fun v => Parser.parseComplete_eq_ok_iff_apply, ⟨fun h => ?_, fun h => ?_⟩,
    fun expected => ⟨fun h => ?_, fun h => ?_⟩, fun error => hlaw.locates,
    fun offset found => hlaw.offset_lt_of_trailingInput,
    fun v => Parser.records_parseComplete_of_ok, fun error h => ?_⟩
  · obtain ⟨offset, found, h⟩ := h
    obtain ⟨v, r, hr, hne, -⟩ := Parser.parseComplete_eq_trailingInput_iff.1 h
    exact ⟨v, r, hr, hne⟩
  · obtain ⟨v, r, hr, hne⟩ := h
    exact ⟨_, _, Parser.parseComplete_eq_trailingInput_iff.2 ⟨v, r, hr, hne, rfl, rfl⟩⟩
  · obtain ⟨offset, found, h⟩ := h
    obtain ⟨r, hr, -⟩ := Parser.parseComplete_eq_mismatch_iff.1 h
    exact ⟨r, hr⟩
  · obtain ⟨r, hr⟩ := h
    exact ⟨_, _, Parser.parseComplete_eq_mismatch_iff.2 ⟨r, hr, rfl, rfl⟩⟩
  · exact ⟨_, Parser.records_parseComplete_of_error h, rfl, rfl⟩

/-- A list whose items a name stands for, in an input of two-byte characters: it stops before the
last of them. -/
theorem Expr.parseComplete_reports_apply_of_rest :
    (∀ _ : String, (Parser.anyChar.map Value.text).LeavesSuffix) ∧
      (((Expr.separatedBy (.ref "c") (.literal "é")).parser
        fun _ => Parser.anyChar.map .text).parseComplete (Text.ofString "aéüö")).value =
          .error (.trailingInput 5 "\"ö\"") ∧
      (ParseError.trailingInput 5 "\"ö\"").Locates (Text.ofString "aéüö") (Text.ofString "ö") ∧
      5 < (Text.ofString "aéüö").size := by
  have hnamed : ∀ _ : String, (Parser.anyChar.map Value.text).LeavesSuffix :=
    fun _ => Parser.leavesSuffix_anyChar.map _
  have htakes : (((Expr.separatedBy (.ref "c") (.literal "é")).parser
      fun _ => Parser.anyChar.map .text).apply (Text.ofString "aéüö")).value =
        .success (.list [.text "a", .text "ü"]) (Text.ofString "ö") := by decide +kernel
  have hfound : excerpt (Text.ofString "ö") = "\"ö\"" := by decide +kernel
  have herror := Parser.parseComplete_eq_trailingInput_iff.2
    ⟨_, _, htakes, by decide, rfl, hfound⟩
  obtain ⟨-, -, -, hlocates, hinside, -⟩ := Expr.parseComplete_reports_apply hnamed
    (.separatedBy (.ref "c") (.literal "é")) (Text.ofString "aéüö")
  have hplace := hlocates _ herror
  rw [htakes] at hplace
  exact ⟨hnamed, herror, hplace, hinside _ _ herror⟩

end TextParsers
