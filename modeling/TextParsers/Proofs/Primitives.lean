import TextParsers.Parser.Primitive
import TextParsers.Proofs.Runs
import TextParsers.Proofs.Takes

/-!
# What the primitives take

A primitive looks at characters itself, so what it takes is said in terms of
the text alone: the given string, or the longest run of a class. When it fails
it has taken nothing and stands where it was given the text (`InPlace`).

`integer` is the one primitive that scans bytes. No byte of a character above
U+007F is an ASCII digit, so the scan ends where the scan of characters does,
and the rest of the library may forget that there were bytes at all
(`apply_integer`).
-/

namespace TextParsers.Parser

open Text

variable {α : Type} {s r : Text}

/-- Every failure of the parser stands at the text it was given. -/
def InPlace (p : Parser α) : Prop := ∀ ⦃s e r⦄, p.Fails s e r → r = s

/-! ## A given string -/

theorem takes_literal {t a : String} :
    (literal t).Takes s a r ↔ a = t ∧ t.toList ++ r.chars = s.chars := by
  simp only [Takes, literal, apply_ofOutcome]
  cases h : s.afterLiteral? t.toList with
  | none =>
      refine ⟨fun hs => (by cases hs), fun hs => ?_⟩
      rw [afterLiteral?_eq_some_iff.2 hs.2] at h
      cases h
  | some rest =>
      have hrest := afterLiteral?_eq_some_iff.1 h
      simp only [Outcome.success.injEq]
      refine ⟨fun hs => ?_, fun hs => ⟨hs.1.symm, ?_⟩⟩
      · obtain ⟨rfl, rfl⟩ := hs
        exact ⟨rfl, hrest⟩
      · exact ext (List.append_cancel_left (hrest.trans hs.2.symm))

theorem fails_literal {t e : String} :
    (literal t).Fails s e r ↔
      ¬ t.toList <+: s.chars ∧ e = "Expected: \"" ++ t ++ "\" prefix" ∧ r = s := by
  simp only [Fails, literal, apply_ofOutcome]
  cases h : s.afterLiteral? t.toList with
  | none =>
      have hno : ¬ t.toList <+: s.chars := afterLiteral?_eq_none_iff.1 h
      simp only [Outcome.failure.injEq]
      refine ⟨fun hs => ⟨hno, hs.1.symm, hs.2.symm⟩, fun hs => ⟨hs.2.1.symm, hs.2.2.symm⟩⟩
  | some rest =>
      refine ⟨fun hs => (by cases hs), fun hs => ?_⟩
      exact absurd ⟨rest.chars, afterLiteral?_eq_some_iff.1 h⟩ hs.1

theorem inPlace_literal {t : String} : (literal t).InPlace :=
  fun _ _ _ h => (fails_literal.1 h).2.2

/-! ## The longest run of a class -/

section

variable {q : Char → Bool} {expected : String}

theorem takes_charsWhile {a : String} :
    (charsWhile q expected).Takes s a r ↔
      a.toList ≠ [] ∧ IsRun q a.toList ∧ Stops q r.chars ∧ a.toList ++ r.chars = s.chars := by
  have hcut : a.toList ++ r.chars = s.chars ∧ IsRun q a.toList ∧ Stops q r.chars ↔
      a.toList = s.takeWhile q ∧ r.chars = s.chars.dropWhile q := run_append_eq_iff
  simp only [Takes, charsWhile, apply_ofOutcome]
  cases h : s.takeWhile q with
  | nil =>
      refine ⟨fun hs => (by cases hs), fun hs => ?_⟩
      have heq := (hcut.1 ⟨hs.2.2.2, hs.2.1, hs.2.2.1⟩).1
      exact absurd (heq.trans h) hs.1
  | cons c cs =>
      rw [h] at hcut
      simp only [Outcome.success.injEq]
      refine ⟨fun hs => ?_, fun hs => ?_⟩
      · obtain ⟨rfl, rfl⟩ := hs
        obtain ⟨happ, hrun, hstop⟩ := hcut.2 ⟨String.toList_ofList, rfl⟩
        exact ⟨by simp, hrun, hstop, happ⟩
      · obtain ⟨ha, hr⟩ := hcut.1 ⟨hs.2.2.2, hs.2.1, hs.2.2.1⟩
        exact ⟨by rw [← ha, String.ofList_toList], ext hr.symm⟩

theorem fails_charsWhile {e : String} :
    (charsWhile q expected).Fails s e r ↔ Stops q s.chars ∧ e = expected ∧ r = s := by
  simp only [Fails, charsWhile, apply_ofOutcome]
  cases h : s.takeWhile q with
  | nil =>
      have hstop : Stops q s.chars := by
        have happ : s.takeWhile q ++ s.chars.dropWhile q = s.chars :=
          List.takeWhile_append_dropWhile
        rw [h, List.nil_append] at happ
        rw [← happ]
        exact stops_dropWhile
      simp only [Outcome.failure.injEq]
      exact ⟨fun hs => ⟨hstop, hs.1.symm, hs.2.symm⟩, fun hs => ⟨hs.2.1.symm, hs.2.2.symm⟩⟩
  | cons c cs =>
      refine ⟨fun hs => (by cases hs), fun hs => ?_⟩
      have hnil : ([] ++ s.chars).takeWhile q = [] := takeWhile_append_of_stops isRun_nil hs.1
      exact absurd (h.symm.trans hnil) (by simp)

theorem inPlace_charsWhile : (charsWhile q expected).InPlace :=
  fun _ _ _ h => (fails_charsWhile.1 h).2.2

end

/-! ## Numbers -/

theorem isDigitByte_or {x m : UInt8} (hm : 0x40 ≤ m) : isDigitByte (x ||| m) = false := by
  have hle : m.toNat ≤ (x ||| m).toNat := by
    rw [UInt8.toNat_or]
    exact Nat.right_le_or
  have hm' : (0x40 : UInt8).toNat ≤ m.toNat := UInt8.le_iff_toNat_le.1 hm
  have hgt : ¬ (x ||| m) ≤ 0x39 := by
    rw [UInt8.le_iff_toNat_le]
    have h40 : (0x40 : UInt8).toNat = 0x40 := rfl
    have h39 : (0x39 : UInt8).toNat = 0x39 := rfl
    omega
  simp [isDigitByte, hgt]

theorem isDigitByte_val {c : Char} (hc : c.val ≤ 127) :
    isDigitByte c.val.toUInt8 = c.isDigit := by
  have hval : c.val.toUInt8.toNat = c.val.toNat := by
    have hlt : c.val.toNat ≤ 127 := hc
    rw [UInt32.toNat_toUInt8]
    omega
  have h30 : (0x30 : UInt8).toNat = 0x30 := rfl
  have h39 : (0x39 : UInt8).toNat = 0x39 := rfl
  have h0 : '0'.val.toNat = 0x30 := rfl
  have h9 : '9'.val.toNat = 0x39 := rfl
  simp only [isDigitByte, Char.isDigit, UInt8.le_iff_toNat_le, UInt32.le_iff_toNat_le, ge_iff_le,
    hval, h30, h39, h0, h9]

/-- A digit is one byte, and no other character begins with a byte that is a digit. -/
theorem takeWhile_isDigitByte (c : Char) :
    (String.utf8EncodeChar c).takeWhile isDigitByte =
      if c.isDigit then String.utf8EncodeChar c else [] := by
  have hother : c.utf8Size ≠ 1 → c.isDigit = false := by
    intro hsize
    have hval : ¬ c.val ≤ 127 := mt Char.utf8Size_eq_one_iff.2 hsize
    have hnine : ¬ c.val ≤ '9'.val := fun h => hval (UInt32.le_trans h (by decide))
    rw [Char.isDigit, Bool.and_eq_false_iff]
    exact Or.inr (decide_eq_false hnine)
  -- The first byte of a longer form has a bit above all ASCII digits set.
  rcases Char.utf8Size_eq c with h | h | h | h
  · rw [String.utf8EncodeChar_eq_singleton h, List.takeWhile_cons,
      isDigitByte_val (Char.utf8Size_eq_one_iff.1 h), List.takeWhile_nil]
  · rw [String.utf8EncodeChar_eq_cons_cons h, hother (by omega), List.takeWhile_cons,
      isDigitByte_or (by decide)]
    rfl
  · rw [String.utf8EncodeChar_eq_cons_cons_cons h, hother (by omega), List.takeWhile_cons,
      isDigitByte_or (by decide)]
    rfl
  · rw [String.utf8EncodeChar_eq_cons_cons_cons_cons h, hother (by omega), List.takeWhile_cons,
      isDigitByte_or (by decide)]
    rfl

theorem all_isDigitByte (c : Char) :
    (String.utf8EncodeChar c).all isDigitByte = c.isDigit := by
  have hpre := takeWhile_isDigitByte c
  cases hc : c.isDigit with
  | true =>
      rw [if_pos hc] at hpre
      rw [List.all_eq_true]
      intro b hb
      rw [← hpre] at hb
      exact List.all_eq_true.1 List.all_takeWhile b hb
  | false =>
      rw [if_neg (by simp [hc])] at hpre
      have hsize := Char.utf8Size_pos c
      cases hbytes : String.utf8EncodeChar c with
      | nil =>
          rw [← String.length_utf8EncodeChar, hbytes] at hsize
          cases hsize
      | cons b bs =>
          rw [hbytes, List.takeWhile_cons] at hpre
          split at hpre
          · cases hpre
          · next hb => simp [hb]

/-- The scan of bytes ends after the digits that the scan of characters finds. -/
theorem countLeadingBytes_isDigitByte (cs : List Char) :
    countLeadingBytes isDigitByte cs = utf8Length (cs.takeWhile Char.isDigit) := by
  induction cs with
  | nil => rfl
  | cons c cs ih =>
      rw [countLeadingBytes, all_isDigitByte, takeWhile_isDigitByte, List.takeWhile_cons]
      cases hc : c.isDigit with
      | true => simp [ih]
      | false => simp

theorem charsWithin_utf8Length (u rest : List Char) :
    charsWithin (utf8Length u) (u ++ rest) = u ++ charsWithin 0 rest := by
  induction u with
  | nil => rfl
  | cons c u ih =>
      rw [List.cons_append, charsWithin, utf8Length_cons, if_pos (Nat.le_add_right _ _),
        Nat.add_sub_cancel_left, ih, List.cons_append]

theorem charsWithin_zero (cs : List Char) : charsWithin 0 cs = [] := by
  cases cs with
  | nil => rfl
  | cons c cs =>
      have := Char.utf8Size_pos c
      rw [charsWithin, if_neg (by omega)]

theorem takeBytes_utf8Length {u rest : List Char} (h : u ++ rest = s.chars) :
    s.takeBytes (utf8Length u) = u := by
  rw [takeBytes, ← h, charsWithin_utf8Length, charsWithin_zero, List.append_nil]

theorem chars_dropBytes_utf8Length {u rest : List Char} (h : u ++ rest = s.chars) :
    (s.dropBytes (utf8Length u)).chars = rest := by
  have happ := takeBytes_append_dropBytes (utf8Length u) s
  rw [takeBytes_utf8Length h, ← h] at happ
  exact List.append_cancel_left happ

/-- `integer` in terms of characters alone. -/
theorem apply_integer (s : Text) :
    (integer.apply s).value =
      if s.takeWhile Char.isDigit = [] then .failure "Expected: integer value" s
      else if Decimal.value (s.takeWhile Char.isDigit) ≤ largestInteger then
        .success (Int64.ofNat (Decimal.value (s.takeWhile Char.isDigit)))
          (s.dropWhile Char.isDigit)
      else .failure "Expected: integer value within i64 range" s := by
  have happ : s.takeWhile Char.isDigit ++ s.chars.dropWhile Char.isDigit = s.chars :=
    List.takeWhile_append_dropWhile
  have hcount : s.leadingBytes isDigitByte = utf8Length (s.takeWhile Char.isDigit) :=
    countLeadingBytes_isDigitByte s.chars
  have hdrop : s.dropBytes (utf8Length (s.takeWhile Char.isDigit)) = s.dropWhile Char.isDigit :=
    ext (chars_dropBytes_utf8Length happ)
  simp only [integer, apply_ofOutcome, hcount, utf8Length_eq_zero_iff, takeBytes_utf8Length happ,
    hdrop]

/-- Digits, at least one, and the number they denote in decimal. Leading zeros are allowed. -/
structure Numeral (ds : List Char) (v : Int64) : Prop where
  nonempty : ds ≠ []
  digits : IsRun Char.isDigit ds
  value : (Decimal.value ds : Int) = v.toInt

theorem Numeral.value_le {ds : List Char} {v : Int64} (h : Numeral ds v) :
    Decimal.value ds ≤ largestInteger := by
  have hv := h.value
  have hlt := v.toInt_lt
  rw [largestInteger]
  omega

theorem Numeral.unique {ds : List Char} {v w : Int64} (hv : Numeral ds v) (hw : Numeral ds w) :
    v = w :=
  Int64.toInt_inj.1 (hv.value.symm.trans hw.value)

theorem numeral_ofNat {ds : List Char} (hne : ds ≠ []) (hds : IsRun Char.isDigit ds)
    (hle : Decimal.value ds ≤ largestInteger) :
    Numeral ds (Int64.ofNat (Decimal.value ds)) := by
  refine ⟨hne, hds, ?_⟩
  rw [largestInteger] at hle
  rw [Int64.toInt_ofNat_of_lt (by omega)]

theorem takes_integer {v : Int64} :
    integer.Takes s v r ↔
      ∃ ds, Numeral ds v ∧ Stops Char.isDigit r.chars ∧ ds ++ r.chars = s.chars := by
  rw [Takes, apply_integer]
  refine ⟨fun hs => ?_, fun hs => ?_⟩
  · split at hs
    · cases hs
    · next hne =>
        split at hs
        · next hle =>
            injection hs with hv hr
            obtain rfl := hv
            obtain rfl := hr
            exact ⟨_, numeral_ofNat hne isRun_takeWhile hle, stops_dropWhile,
              List.takeWhile_append_dropWhile⟩
        · cases hs
  · obtain ⟨ds, hnum, hstop, happ⟩ := hs
    obtain ⟨hds, hr⟩ := run_append_eq_iff.1 ⟨happ, hnum.digits, hstop⟩
    have hds' : s.takeWhile Char.isDigit = ds := hds.symm
    have hmine := numeral_ofNat hnum.nonempty hnum.digits hnum.value_le
    rw [hds', if_neg hnum.nonempty, if_pos hnum.value_le, hmine.unique hnum]
    exact congrArg _ (ext hr.symm)

theorem inPlace_integer : integer.InPlace := by
  intro s e r h
  rw [Fails, apply_integer] at h
  split at h
  · injection h with _ hr
    exact hr.symm
  · split at h
    · cases h
    · injection h with _ hr
      exact hr.symm

/-! It says which of two things is missing: a digit, or a number that is small enough. -/

theorem fails_integer_of_stops (h : Stops Char.isDigit s.chars) :
    integer.Fails s "Expected: integer value" s := by
  have hnone : s.takeWhile Char.isDigit = [] := takeWhile_eq_nil_iff.2 h
  rw [Fails, apply_integer, if_pos hnone]

theorem fails_integer_of_lt (h : largestInteger < Decimal.value (s.takeWhile Char.isDigit)) :
    integer.Fails s "Expected: integer value within i64 range" s := by
  have hne : s.takeWhile Char.isDigit ≠ [] := by
    intro hnil
    rw [hnil] at h
    exact absurd h (by decide)
  rw [Fails, apply_integer, if_neg hne, if_neg (Nat.not_le.2 h)]

/-! ## One character, and the end -/

theorem takes_anyChar {a : String} :
    anyChar.Takes s a r ↔ ∃ c, a = String.singleton c ∧ c :: r.chars = s.chars := by
  simp only [Takes, anyChar, apply_ofOutcome, next?]
  split
  · next c rest h =>
      split at h
      · cases h
      · next c' cs hs =>
          injection h with h
          injection h with hc hrest
          subst hc hrest
          simp only [Outcome.success.injEq]
          refine ⟨fun hr => ?_, fun hr => ?_⟩
          · obtain ⟨rfl, rfl⟩ := hr
            exact ⟨_, rfl, hs.symm⟩
          · obtain ⟨d, rfl, hd⟩ := hr
            rw [hs] at hd
            injection hd with hdc hcs
            exact ⟨by rw [hdc], ext hcs.symm⟩
  · next h =>
      refine ⟨fun hr => (by cases hr), fun hr => ?_⟩
      obtain ⟨d, -, hd⟩ := hr
      split at h
      · next hs =>
          rw [hs] at hd
          cases hd
      · cases h

theorem inPlace_anyChar : anyChar.InPlace := by
  intro s e r h
  simp only [Fails, anyChar, apply_ofOutcome] at h
  split at h
  · cases h
  · injection h with _ hr
    exact hr.symm

theorem takes_endOfInput : endOfInput.Takes s () r ↔ s.isEmpty = true ∧ r = s := by
  simp only [Takes, endOfInput, apply_ofOutcome]
  split
  · next h =>
      simp only [Outcome.success.injEq, true_and]
      exact ⟨fun hr => ⟨h, hr.symm⟩, fun hr => hr.2.symm⟩
  · next h => exact ⟨fun hr => (by cases hr), fun hr => absurd hr.1 h⟩

theorem inPlace_endOfInput : endOfInput.InPlace := by
  intro s e r h
  simp only [Fails, endOfInput, apply_ofOutcome] at h
  split at h
  · cases h
  · injection h with _ hr
    exact hr.symm

end TextParsers.Parser
