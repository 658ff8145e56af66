/-!
# Texts and their bytes

A text is a list of characters that also knows how many bytes it takes in
UTF-8. Parsers only ever take characters off the front, and every position
they report is a number of bytes, so the count is kept beside the characters
instead of being taken anew at each step. The field `size_eq` ties the two
together, and with it a text is determined by its characters (`Text.ext`).

Two views are used to reason about a text: `chars`, and `bytes`, the UTF-8
form itself. Scanning the second from the front, one encoded character at a
time, finds what `takeWhile` finds on the whole (`leadingBytes_eq`).
-/

namespace TextParsers

/-- The number of bytes that the characters take in UTF-8. -/
def utf8Length (cs : List Char) : Nat := cs.foldr (fun c n => c.utf8Size + n) 0

@[simp] theorem utf8Length_nil : utf8Length [] = 0 := rfl

@[simp] theorem utf8Length_cons (c : Char) (cs : List Char) :
    utf8Length (c :: cs) = c.utf8Size + utf8Length cs := rfl

@[simp] theorem utf8Length_append (cs ds : List Char) :
    utf8Length (cs ++ ds) = utf8Length cs + utf8Length ds := by
  induction cs with
  | nil => simp
  | cons c cs ih => simp [ih, Nat.add_assoc]

theorem utf8Length_eq_zero_iff {cs : List Char} : utf8Length cs = 0 ↔ cs = [] := by
  cases cs with
  | nil => simp
  | cons c cs =>
      have := c.utf8Size_pos
      simp
      omega

/-- Characters together with the number of bytes they take. -/
structure Text where
  /-- The characters, first to last. -/
  chars : List Char
  /-- The number of bytes in UTF-8. -/
  size : Nat
  size_eq : size = utf8Length chars

namespace Text

theorem ext {s t : Text} (h : s.chars = t.chars) : s = t := by
  obtain ⟨cs, m, hm⟩ := s
  obtain ⟨ds, n, hn⟩ := t
  obtain rfl : cs = ds := h
  subst hm hn
  rfl

instance : DecidableEq Text := fun s t =>
  if h : s.chars = t.chars then isTrue (ext h) else isFalse fun e => h (congrArg chars e)

/-- The text with the given characters. -/
def ofChars (cs : List Char) : Text := ⟨cs, utf8Length cs, rfl⟩

/-- The text of a string. -/
def ofString (s : String) : Text := ofChars s.toList

/-- The string with the characters of the text. -/
def toString (s : Text) : String := String.ofList s.chars

/-- Whether nothing is left of the text. -/
def isEmpty (s : Text) : Bool := s.chars.isEmpty

@[simp] theorem chars_ofChars (cs : List Char) : (ofChars cs).chars = cs := rfl

@[simp] theorem ofChars_chars (s : Text) : ofChars s.chars = s := ext rfl

@[simp] theorem chars_ofString (s : String) : (ofString s).chars = s.toList := rfl

theorem ofString_append (s t : String) :
    ofString (s ++ t) = ofChars (s.toList ++ (ofString t).chars) :=
  ext String.toList_append

@[simp] theorem ofString_toString (s : Text) : ofString s.toString = s :=
  ext (by simp [toString])

/-! ## Taking characters off the front -/

/-- What is left of a text after its first characters `u`. -/
def after (s : Text) (u rest : List Char) (h : u ++ rest = s.chars) : Text :=
  ⟨rest, s.size - utf8Length u, by rw [s.size_eq, ← h, utf8Length_append]; omega⟩

/-- The longest beginning of a text whose characters all satisfy `q`. -/
def takeWhile (q : Char → Bool) (s : Text) : List Char := s.chars.takeWhile q

/-- What follows the longest beginning whose characters all satisfy `q`. -/
def dropWhile (q : Char → Bool) (s : Text) : Text :=
  s.after (s.chars.takeWhile q) (s.chars.dropWhile q) List.takeWhile_append_dropWhile

@[simp] theorem chars_dropWhile (q : Char → Bool) (s : Text) :
    (s.dropWhile q).chars = s.chars.dropWhile q := rfl

/-- What follows `u` in a text that begins with `u`. -/
def afterLiteral? (u : List Char) (s : Text) : Option Text :=
  if h : u <+: s.chars then
    some (s.after u (s.chars.drop u.length) (List.prefix_iff_eq_append.1 h))
  else none

theorem afterLiteral?_eq_some_iff {u : List Char} {s rest : Text} :
    s.afterLiteral? u = some rest ↔ u ++ rest.chars = s.chars := by
  unfold afterLiteral?
  split
  · next h =>
    have hdrop := List.prefix_iff_eq_append.1 h
    constructor
    · intro e
      obtain rfl := Option.some.inj e
      exact hdrop
    · intro e
      refine congrArg some (ext ?_)
      exact List.append_cancel_left (hdrop.trans e.symm)
  · next h =>
    constructor
    · intro e
      cases e
    · intro e
      exact absurd ⟨rest.chars, e⟩ h

theorem afterLiteral?_eq_none_iff {u : List Char} {s : Text} :
    s.afterLiteral? u = none ↔ ¬ u <+: s.chars := by
  simp [afterLiteral?]

/-- The first character and what follows it. -/
def next? (s : Text) : Option (Char × Text) :=
  match h : s.chars with
  | [] => none
  | c :: rest => some (c, s.after [c] rest h.symm)

/-! ## Bytes -/

/-- The UTF-8 form of a text. -/
def bytes (s : Text) : List UInt8 := s.chars.flatMap String.utf8EncodeChar

/-- The number of bytes that satisfy `q` before the first one that does not, scanning encoded
characters one after another. -/
def countLeadingBytes (q : UInt8 → Bool) : List Char → Nat
  | [] => 0
  | c :: cs =>
      let encoded := String.utf8EncodeChar c
      if encoded.all q then encoded.length + countLeadingBytes q cs
      else (encoded.takeWhile q).length

/-- The number of bytes that satisfy `q` before the first one that does not. -/
def leadingBytes (q : UInt8 → Bool) (s : Text) : Nat := countLeadingBytes q s.chars

/-- The characters that lie whole within the first `n` bytes. -/
def charsWithin (n : Nat) : List Char → List Char
  | [] => []
  | c :: cs => if c.utf8Size ≤ n then c :: charsWithin (n - c.utf8Size) cs else []

theorem charsWithin_append_drop (n : Nat) (cs : List Char) :
    charsWithin n cs ++ cs.drop (charsWithin n cs).length = cs := by
  induction cs generalizing n with
  | nil => rfl
  | cons c cs ih =>
      unfold charsWithin
      split
      · simp [ih]
      · rfl

/-- The beginning of a text up to byte `n`, or up to the character that byte `n` falls into. -/
def takeBytes (n : Nat) (s : Text) : List Char := charsWithin n s.chars

/-- The text from byte `n` on, or from the character that byte `n` falls into. -/
def dropBytes (n : Nat) (s : Text) : Text :=
  s.after (charsWithin n s.chars) (s.chars.drop (charsWithin n s.chars).length)
    (charsWithin_append_drop n s.chars)

/-- Byte `n` of a text begins a character or is its end. -/
def IsBoundary (s : Text) (n : Nat) : Prop := utf8Length (s.takeBytes n) = n

@[simp] theorem takeBytes_append_dropBytes (n : Nat) (s : Text) :
    s.takeBytes n ++ (s.dropBytes n).chars = s.chars :=
  charsWithin_append_drop n s.chars

@[simp] theorem length_bytes (s : Text) : s.bytes.length = s.size := by
  rw [s.size_eq]
  unfold bytes
  induction s.chars with
  | nil => rfl
  | cons c cs ih => simp [ih]

theorem length_takeWhile_append (q : UInt8 → Bool) (as bs : List UInt8) :
    ((as ++ bs).takeWhile q).length =
      if as.all q then as.length + (bs.takeWhile q).length else (as.takeWhile q).length := by
  by_cases hall : as.all q = true
  · rw [if_pos hall, List.takeWhile_append_of_pos (List.all_eq_true.1 hall), List.length_append]
  · rw [if_neg hall, List.takeWhile_append, if_neg]
    intro hlength
    have hwhole : as.takeWhile q = as := (List.takeWhile_prefix q).eq_of_length hlength
    rw [← hwhole] at hall
    exact hall List.all_takeWhile

/-- Scanning character by character stops where a scan of the whole UTF-8 form does. -/
theorem leadingBytes_eq (q : UInt8 → Bool) (s : Text) :
    s.leadingBytes q = (s.bytes.takeWhile q).length := by
  unfold leadingBytes bytes
  induction s.chars with
  | nil => rfl
  | cons c cs ih => rw [countLeadingBytes, List.flatMap_cons, length_takeWhile_append, ih]

end Text

end TextParsers
