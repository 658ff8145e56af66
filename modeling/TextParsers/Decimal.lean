/-!
# Decimal numbers

Numbers are written in decimal without leading zeros, with a minus sign in
front of negative ones. Reading takes any digits, leading zeros included, and
gives back what was written (`value_digits`).
-/

namespace TextParsers.Decimal

/-- The digits of a number. -/
def digits (n : Nat) : List Char := Nat.toDigits 10 n

/-- The number that digits denote. -/
def value (ds : List Char) : Nat := Nat.ofDigitChars 10 ds 0

/-- A number in decimal. -/
def ofNat (n : Nat) : String := String.ofList (digits n)

/-- A signed number in decimal. -/
def ofInt64 (n : Int64) : String :=
  match n.toInt with
  | .ofNat k => ofNat k
  | .negSucc k => "-" ++ ofNat (k + 1)

@[simp] theorem value_digits (n : Nat) : value (digits n) = n :=
  Nat.ofDigitChars_ten_toDigits

theorem isDigit_of_mem_digits {n : Nat} {c : Char} (h : c ∈ digits n) : c.isDigit = true :=
  Nat.isDigit_of_mem_toDigits (by decide) (by decide) h

end TextParsers.Decimal
