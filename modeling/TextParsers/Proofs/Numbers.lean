import Mathlib.Data.Nat.Digits.Defs
import TextParsers.Proofs.Primitives

/-!
# The numbers that digits denote

A run of digits is read from the left, ten times what came before plus the
next digit. What it denotes is said from the right: each digit counts for
itself times the power of ten of its place (`Decimal.placeValue`). That both
are one number is an induction over the digits, in which the accumulated value
moves up by as many places as there are digits left.

Whether a number is in range is therefore not a question of how many digits it
has. Zeros in front add places and nothing to the sum, so a small number may be
written with any number of digits, and the largest number and the one after it
have as many digits as each other.
-/

namespace TextParsers

open Text

namespace Decimal

/-- What a digit stands for by itself. -/
def digitValue (c : Char) : Nat := c.toNat - '0'.toNat

/-- The number that digits denote by their places, the last one being that of the units. -/
def placeValue (ds : List Char) : Nat := Nat.ofDigits 10 (ds.map digitValue).reverse

theorem placeValue_cons (c : Char) (ds : List Char) :
    placeValue (c :: ds) = placeValue ds + 10 ^ ds.length * digitValue c := by
  rw [placeValue, List.map_cons, Nat.ofDigits_reverse_cons, List.length_map, placeValue]

/-- Reading from the left gives the sum over the places. -/
theorem value_eq_placeValue (ds : List Char) : value ds = placeValue ds := by
  induction ds with
  | nil => rfl
  | cons c ds ih =>
      -- The first digit is carried along and is multiplied once for each of the others.
      have hread : value (c :: ds) = 10 ^ ds.length * digitValue c + value ds := by
        rw [value, Nat.ofDigitChars_cons, Nat.ofDigitChars_eq_ofDigitChars_zero, Nat.mul_zero,
          Nat.zero_add]
        rfl
      rw [hread, ih, placeValue_cons, Nat.add_comm]

example : placeValue "042".toList = 42 := by decide +kernel

/-- Zeros in front of a number do not change it. -/
theorem value_replicate_zero_append (k : Nat) (ds : List Char) :
    value (List.replicate k '0' ++ ds) = value ds := by
  rw [value, Nat.ofDigitChars_append, Nat.ofDigitChars_replicate_zero, Nat.mul_zero]
  rfl

end Decimal

namespace Parser

variable {s r : Text} {ds : List Char} {v : Int64}

/-- Digits are taken for the number that they denote by their places. -/
theorem Numeral.toInt_eq (h : Numeral ds v) : v.toInt = Decimal.placeValue ds := by
  rw [← h.value, Decimal.value_eq_placeValue]

theorem numeral_replicate_zero_append {n : Nat} (k : Nat) (hn : n ≤ largestInteger) :
    Numeral (List.replicate k '0' ++ Decimal.digits n) (Int64.ofNat n) := by
  have hzeros : IsRun Char.isDigit (List.replicate k '0') := by
    intro c hc
    rw [List.eq_of_mem_replicate hc]
    rfl
  have hdigits : IsRun Char.isDigit (Decimal.digits n) := fun _ hc =>
    Decimal.isDigit_of_mem_digits hc
  have hne : List.replicate k '0' ++ Decimal.digits n ≠ [] :=
    List.append_ne_nil_of_right_ne_nil _ Nat.toDigits_ne_nil
  have hvalue : Decimal.value (List.replicate k '0' ++ Decimal.digits n) = n := by
    rw [Decimal.value_replicate_zero_append, Decimal.value_digits]
  have hnum := numeral_ofNat hne (isRun_append.2 ⟨hzeros, hdigits⟩) (hvalue.trans_le hn)
  rw [hvalue] at hnum
  exact hnum

/-- Reading a number makes no records, so it is known by its outcome. -/
theorem apply_integer_of_value {o : Outcome Int64} (h : (integer.apply s).value = o) :
    integer.apply s = ⟨o, []⟩ :=
  Logged.ext h rfl

/-- What is read off the front of a text is the longest run of digits, exactly: without any there is
no number, up to the largest number it is the sum over the places, and above that it is out of
range. How many digits there are does not matter, so a number is read back with any number of zeros
in front of it, whatever comes after its last digit. -/
theorem integer_reads_places :
    (∀ s : Text,
      (s.chars.takeWhile Char.isDigit = [] →
        integer.apply s = ⟨.failure "Expected: integer value" s, []⟩) ∧
      (s.chars.takeWhile Char.isDigit ≠ [] →
        Decimal.placeValue (s.chars.takeWhile Char.isDigit) ≤ 9223372036854775807 →
        ∃ v : Int64, v.toInt = Decimal.placeValue (s.chars.takeWhile Char.isDigit) ∧
          integer.apply s = ⟨.success v (ofChars (s.chars.dropWhile Char.isDigit)), []⟩) ∧
      (9223372036854775807 < Decimal.placeValue (s.chars.takeWhile Char.isDigit) →
        integer.apply s = ⟨.failure "Expected: integer value within i64 range" s, []⟩)) ∧
    ∀ (n k : Nat) (t : Text), n ≤ 9223372036854775807 → Stops Char.isDigit t.chars →
      ∃ v : Int64, v.toInt = n ∧
        integer.apply (ofChars (List.replicate k '0' ++ Decimal.digits n ++ t.chars)) =
          ⟨.success v t, []⟩ := by
  refine ⟨fun s => ⟨fun hnil => ?_, fun hne hle => ?_, fun hlt => ?_⟩, fun n k t hn ht => ?_⟩
  · have hvalue := apply_integer s
    rw [Text.takeWhile, if_pos hnil] at hvalue
    exact apply_integer_of_value hvalue
  · rw [← Decimal.value_eq_placeValue] at hle
    have hnum := numeral_ofNat hne isRun_takeWhile hle
    have htakes : integer.Takes s _ (ofChars (s.chars.dropWhile Char.isDigit)) :=
      takes_integer.2 ⟨_, hnum, stops_dropWhile, List.takeWhile_append_dropWhile⟩
    exact ⟨_, hnum.toInt_eq, apply_integer_of_value htakes⟩
  · rw [← Decimal.value_eq_placeValue] at hlt
    have hne : s.chars.takeWhile Char.isDigit ≠ [] := by
      intro hnil
      rw [hnil] at hlt
      exact absurd hlt (by decide)
    have hgt : ¬ Decimal.value (s.chars.takeWhile Char.isDigit) ≤ largestInteger :=
      Nat.not_le.2 hlt
    have hvalue := apply_integer s
    rw [Text.takeWhile, if_neg hne, if_neg hgt] at hvalue
    exact apply_integer_of_value hvalue
  · have hnum := numeral_replicate_zero_append k hn
    have htakes : integer.Takes (ofChars (List.replicate k '0' ++ Decimal.digits n ++ t.chars)) _ t :=
      takes_integer.2 ⟨_, hnum, ht, rfl⟩
    exact ⟨_, Int64.toInt_ofNat_of_lt (by omega), apply_integer_of_value htakes⟩

/-- The largest number with zeros in front of it, the number after it, and a digit that is none of
ASCII, each before a character of two bytes. -/
theorem integer_reads_places_at_limit :
    9223372036854775807 ≤ 9223372036854775807 ∧ Stops Char.isDigit (Text.ofString "é").chars ∧
      (∃ v : Int64, v.toInt = (9223372036854775807 : Nat) ∧
        integer.apply (ofChars (List.replicate 3 '0' ++ Decimal.digits 9223372036854775807 ++
          (Text.ofString "é").chars)) = ⟨.success v (Text.ofString "é"), []⟩) ∧
      (Text.ofString "042é").chars.takeWhile Char.isDigit ≠ [] ∧
      Decimal.placeValue ((Text.ofString "042é").chars.takeWhile Char.isDigit) ≤
        9223372036854775807 ∧
      (∃ v : Int64,
        v.toInt = Decimal.placeValue ((Text.ofString "042é").chars.takeWhile Char.isDigit) ∧
        integer.apply (Text.ofString "042é") =
          ⟨.success v (ofChars ((Text.ofString "042é").chars.dropWhile Char.isDigit)), []⟩) ∧
      9223372036854775807 <
        Decimal.placeValue ((Text.ofString "09223372036854775808é").chars.takeWhile Char.isDigit) ∧
      integer.apply (Text.ofString "09223372036854775808é") =
        ⟨.failure "Expected: integer value within i64 range"
          (Text.ofString "09223372036854775808é"), []⟩ ∧
      (Text.ofString "٣é").chars.takeWhile Char.isDigit = [] ∧
      integer.apply (Text.ofString "٣é") =
        ⟨.failure "Expected: integer value" (Text.ofString "٣é"), []⟩ := by
  obtain ⟨hread, hback⟩ := integer_reads_places
  have hstop : Stops Char.isDigit (Text.ofString "é").chars := stops_cons.2 (by decide)
  have hsome : (Text.ofString "042é").chars.takeWhile Char.isDigit ≠ [] := by decide +kernel
  have hsmall : Decimal.placeValue ((Text.ofString "042é").chars.takeWhile Char.isDigit) ≤
      9223372036854775807 := by decide +kernel
  have hlarge : 9223372036854775807 <
      Decimal.placeValue ((Text.ofString "09223372036854775808é").chars.takeWhile Char.isDigit) := by
    decide +kernel
  have hnone : (Text.ofString "٣é").chars.takeWhile Char.isDigit = [] := by decide +kernel
  exact ⟨Nat.le_refl _, hstop, hback _ 3 _ (Nat.le_refl _) hstop, hsome, hsmall,
    (hread _).2.1 hsome hsmall, hlarge, (hread _).2.2 hlarge, hnone, (hread _).1 hnone⟩

end Parser

end TextParsers
