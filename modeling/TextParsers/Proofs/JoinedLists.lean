import TextParsers.Proofs.RoundTrip
import TextParsers.Proofs.ZeroWidth

/-!
# Lists that were joined with a separator

Values that are written one after another, with a given string between each
two, are read back as a list of them. What has to be known of the items is
little: each of them is taken from the text that was written for it, as long as
the text after it is one that ends an item (`Parser.TakesBefore`). That text is
either the separator with the next item or what follows the list, so it is
enough that these two end an item.

The separator itself may hold anything. It is taken as it stands, however the
text goes on, so it may end in digits and be followed by a number. Only its
first character has to be none, since there a number before it stops. And since
a separator goes on with the list wherever there is one, the list ends in front
of what follows only if that does not begin with it.
-/

namespace TextParsers

open Text

/-- A text that stops a run at once stops it as well with anything after it. -/
theorem Text.Stops.append_right {q : Char → Bool} {u : List Char} (hu : Stops q u) (hne : u ≠ [])
    (v : List Char) : Stops q (u ++ v) :=
  hu.congr_head (List.head?_append_of_ne_nil u hne).symm

namespace Parser

variable {α : Type} {item : Parser α} {ends : List Char → Prop} {encode : α → String}
  {separator : String} {as : List α} {t : Text}

/-- The parser takes the characters for the value `a` and stops behind them, before every text of
which `ends` is true. -/
def TakesBefore (p : Parser α) (ends : List Char → Prop) (cs : List Char) (a : α) : Prop :=
  ∀ r : Text, ends r.chars → p.Takes (ofChars (cs ++ r.chars)) a r

/-- An item ends where the list goes on, at a separator or at what follows the list. -/
theorem ends_joinedTail (hseparator : ∀ cs, ends (separator.toList ++ cs)) (ht : ends t.chars) :
    ends (joinedTail separator encode as ++ t.chars) := by
  cases as with
  | nil => exact ht
  | cons a as =>
      rw [joinedTail_cons, List.append_assoc]
      exact hseparator _

/-- The rounds of the list. Each takes a separator and the item that was written after it, and the
last one finds no separator. -/
theorem takes_joinedTail (hitem : item.LeavesSuffix) (hconsumes : item.Consumes)
    (hencode : ∀ a ∈ as, item.TakesBefore ends (encode a).toList a)
    (hseparator : ∀ cs, ends (separator.toList ++ cs)) (ht : ends t.chars)
    (hend : ¬ separator.toList <+: t.chars) :
    (repetition .separatedBy (item.separatedRound (literal separator))).Takes
      (ofChars (joinedTail separator encode as ++ t.chars)) as t := by
  have hround : RoundLeavesSuffix (item.separatedRound (literal separator)) :=
    hitem.separatedRound leavesSuffix_literal
  have hshrink : ∀ {s : Text} {v : α} {u : Text},
      (item.separatedRound (literal separator) s).value = .matched v u → u.size < s.size := by
    intro s v u h
    obtain ⟨b, w, hb, hv⟩ := separatedRound_matched.1 h
    exact Nat.lt_of_lt_of_le (hconsumes hv) (leavesSuffix_literal.size_le hb)
  induction as with
  | nil =>
      have hended : (item.separatedRound (literal separator) t).value = .ended :=
        separatedRound_ended.2 ⟨_, t, fails_literal.2 ⟨hend, rfl, rfl⟩⟩
      rw [joinedTail, List.flatMap_nil, List.nil_append, ofChars_chars]
      exact (takes_repetition_nil hround).2 ⟨hended, rfl⟩
  | cons a as ih =>
      rw [List.forall_mem_cons] at hencode
      have htakes := hencode.1 (ofChars (joinedTail separator encode as ++ t.chars))
        (ends_joinedTail hseparator ht)
      have hliteral : (literal separator).Takes
          (ofChars (joinedTail separator encode (a :: as) ++ t.chars)) separator
          (ofChars ((encode a).toList ++ (joinedTail separator encode as ++ t.chars))) := by
        rw [takes_literal, joinedTail_cons]
        exact ⟨rfl, by simp⟩
      have hmatched := separatedRound_matched.2 ⟨_, _, hliteral, htakes⟩
      exact (takes_repetition_cons hround hshrink).2 ⟨_, hmatched, ih hencode.2⟩

/-- A list is read back if each of its items is, and the empty list where no item is found. -/
theorem takes_separatedBy_of_joined (hitem : item.LeavesSuffix) (hconsumes : item.Consumes)
    (hencode : ∀ a ∈ as, item.TakesBefore ends (encode a).toList a)
    (hseparator : ∀ cs, ends (separator.toList ++ cs)) (ht : ends t.chars)
    (hend : ¬ separator.toList <+: t.chars) (hnone : ∃ e r, item.Fails t e r) :
    (item.separatedBy (literal separator)).Takes
      (ofChars ((separator.intercalate (as.map encode)).toList ++ t.chars)) as t := by
  cases as with
  | nil =>
      rw [List.map_nil, String.intercalate_nil, String.toList_empty, List.nil_append, ofChars_chars]
      exact takes_separatedBy_nil.2 ⟨hnone, rfl⟩
  | cons a as =>
      rw [List.forall_mem_cons] at hencode
      have htakes := hencode.1 (ofChars (joinedTail separator encode as ++ t.chars))
        (ends_joinedTail hseparator ht)
      rw [toList_intercalate_cons, List.append_assoc]
      exact takes_separatedBy_cons.2
        ⟨_, htakes, takes_joinedTail hitem hconsumes hencode.2 hseparator ht hend⟩

/-! ## Lists of numbers -/

theorem takesBefore_integer {v : Int64} (h : 0 ≤ v) :
    integer.TakesBefore (Stops Char.isDigit) (Decimal.ofInt64 v).toList v :=
  fun _ hr => takes_integer.2 ⟨_, numeral_ofInt64 h, hr, rfl⟩

/-- Numbers that are not negative, written with a separator between each two, are read back just as
they were, and nothing is noted on the way. The separator must not begin with a digit, and what
follows must neither begin with a digit nor with the separator, which therefore is not empty.
Otherwise both may be any text, and there may be any number of values. -/
theorem separatedBy_reads_joined (vs : List Int64) (separator t : String) (hvs : ∀ v ∈ vs, 0 ≤ v)
    (hseparator : Stops Char.isDigit separator.toList) (ht : Stops Char.isDigit t.toList)
    (hend : ¬ separator.toList <+: t.toList) :
    (integer.separatedBy (literal separator)).apply
        (ofString (separator.intercalate (vs.map Decimal.ofInt64) ++ t)) =
      ⟨.success vs (ofString t), []⟩ := by
  have hne : separator.toList ≠ [] := by
    intro hnil
    rw [hnil] at hend
    exact hend List.nil_prefix
  have htakes : (integer.separatedBy (literal separator)).Takes
      (ofChars ((separator.intercalate (vs.map Decimal.ofInt64)).toList ++ (ofString t).chars)) vs
      (ofString t) :=
    takes_separatedBy_of_joined leavesSuffix_integer consumes_integer
      (fun v hv => takesBefore_integer (hvs v hv)) (hseparator.append_right hne) ht hend
      ⟨_, _, fails_integer_of_stops ht⟩
  have hnotes : (integer.separatedBy (literal separator)).NotesOnly fun _ => False :=
    (notesOnly_ofOutcome _).separatedBy (notesOnly_ofOutcome _) leavesSuffix_integer
      leavesSuffix_literal (Or.inl consumes_integer)
  rw [ofString_append]
  exact hnotes.apply_of_value htakes

/-- A separator that ends in digits, before numbers up to the largest one and before a text that
begins as the separator does. -/
theorem separatedBy_reads_joined_of_digits :
    (∀ v ∈ [(12 : Int64), 0, 9223372036854775807], 0 ≤ v) ∧
      Stops Char.isDigit "é;1".toList ∧ Stops Char.isDigit "é;2".toList ∧
      ¬ "é;1".toList <+: "é;2".toList ∧
      (integer.separatedBy (literal "é;1")).apply (ofString
          ("é;1".intercalate ([(12 : Int64), 0, 9223372036854775807].map Decimal.ofInt64) ++
            "é;2")) =
        ⟨.success [12, 0, 9223372036854775807] (ofString "é;2"), []⟩ := by
  have hvs : ∀ v ∈ [(12 : Int64), 0, 9223372036854775807], 0 ≤ v :=
    List.forall_mem_cons.2 ⟨by decide,
      List.forall_mem_cons.2 ⟨by decide, List.forall_mem_singleton.2 (by decide)⟩⟩
  have hseparator : Stops Char.isDigit "é;1".toList := by decide
  have ht : Stops Char.isDigit "é;2".toList := by decide
  have hend : ¬ "é;1".toList <+: "é;2".toList := by decide
  exact ⟨hvs, hseparator, ht, hend, separatedBy_reads_joined _ _ _ hvs hseparator ht hend⟩

end Parser

end TextParsers
