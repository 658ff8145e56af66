import TextParsers.Assignment.Basic

/-!
# Values of parser expressions

The values that parser expressions yield, all in one type. Strings and
numbers come from the primitive parsers, lists from repetitions, pairs from
sequences, and assignments from the language of assignments.
-/

namespace TextParsers

/-- A value that a parser expression yields. -/
inductive Value where
  | nothing
  | bool (b : Bool)
  | text (s : String)
  | int (n : Int64)
  | list (vs : List Value)
  | pair (first second : Value)
  | assignment (a : Assignment)

namespace Value

mutual

/-- Whether two values are the same. -/
def same : Value → Value → Bool
  | nothing, nothing => true
  | bool a, bool b => a = b
  | text a, text b => a = b
  | int a, int b => a = b
  | list as, list bs => sameLists as bs
  | pair a b, pair c d => same a c && same b d
  | assignment a, assignment b => a = b
  | _, _ => false

/-- Whether two lists hold the same values in the same order. -/
def sameLists : List Value → List Value → Bool
  | [], [] => true
  | a :: as, b :: bs => same a b && sameLists as bs
  | _, _ => false

end

mutual

theorem same_iff : (v w : Value) → (same v w = true ↔ v = w)
  | nothing, w => by cases w <;> simp [same]
  | bool _, w => by cases w <;> simp [same]
  | text _, w => by cases w <;> simp [same]
  | int _, w => by cases w <;> simp [same]
  | list vs, w => by cases w <;> simp [same, sameLists_iff vs]
  | pair a b, w => by cases w <;> simp [same, same_iff a, same_iff b]
  | assignment _, w => by cases w <;> simp [same]

theorem sameLists_iff : (vs ws : List Value) → (sameLists vs ws = true ↔ vs = ws)
  | [], ws => by cases ws <;> simp [sameLists]
  | v :: vs, ws => by cases ws <;> simp [sameLists, same_iff v, sameLists_iff vs]

end

instance : DecidableEq Value := fun v w =>
  if h : same v w = true then isTrue ((same_iff v w).1 h)
  else isFalse fun e => h ((same_iff v w).2 e)

mutual

/-- The characters of a value, those of its parts one after another. -/
def plain : Value → String
  | nothing => ""
  | bool b => if b then "true" else "false"
  | text s => s
  | int n => Decimal.ofInt64 n
  | list vs => String.join (plainEach vs)
  | pair a b => a.plain ++ b.plain
  | assignment a => a.render

/-- The characters of each value of a list. -/
def plainEach : List Value → List String
  | [] => []
  | v :: vs => v.plain :: plainEach vs

end

end Value

end TextParsers
