import TextParsers.Proofs.ZeroWidth

/-!
# Separators that cannot fail

A separated list is committed to an item as soon as a separator was taken. So
a separator that can always be taken, because it may be empty, commits the list
after each of its items, and such a list has no way to end well. Of the three
exits of its loop two are closed: the separator never fails, and since an item
takes something, separator and item together are never a match of nothing. The
loop cannot go on for ever either, as each round leaves a shorter text. What is
left is the third exit, at an item that fails.

So items with optional blanks between them are no separated list in this
library. The only list that such a parser ever takes is the one without items.
-/

namespace TextParsers.Parser

open Text

variable {α β : Type} {p : Parser α} {item : Parser α} {separator : Parser β} {s t : Text}

/-- The parser takes something off every text, be it nothing. -/
def Infallible (p : Parser α) : Prop := ∀ s, ∃ a r, p.Takes s a r

theorem Infallible.map (hp : p.Infallible) (f : α → β) : (p.map f).Infallible := by
  intro s
  obtain ⟨a, r, h⟩ := hp s
  exact ⟨f a, r, takes_map.2 ⟨a, h, rfl⟩⟩

theorem infallible_many (hp : p.LeavesSuffix) : p.many.Infallible :=
  exists_takes_many hp

theorem infallible_spaces : spaces.Infallible :=
  (infallible_many leavesSuffix_charsWhile).map _

theorem infallible_literal_empty : (literal "").Infallible :=
  fun s => ⟨"", s, takes_literal.2 ⟨rfl, rfl⟩⟩

/-- The rounds of such a list come to an item that fails. -/
theorem fails_rounds_of_infallible (hitem : item.LeavesSuffix) (hconsumes : item.Consumes)
    (hseparator : separator.LeavesSuffix) (hinfallible : separator.Infallible) (t : Text) :
    ∃ u e f, u.chars <:+ t.chars ∧ item.Fails u e f ∧
      (repetition .separatedBy (item.separatedRound separator)).Fails t e f := by
  have hround : RoundLeavesSuffix (item.separatedRound separator) := hitem.separatedRound hseparator
  induction t using size_induction with
  | step t ih =>
      obtain ⟨b, u, hb⟩ := hinfallible t
      have hut := hseparator.of_takes hb
      rcases takes_or_fails item u with ⟨v, w, hv⟩ | ⟨e, f, he⟩
      · -- The item took something, so the round goes on with a shorter text.
        have hlt : w.size < t.size := Nat.lt_of_lt_of_le (hconsumes hv) (size_le_of_suffix hut)
        have hmatched := separatedRound_matched.2 ⟨b, u, hb, hv⟩
        obtain ⟨x, e, f, hx, he, hrest⟩ := ih w hlt
        refine ⟨x, e, f, hx.trans ((hitem.of_takes hv).trans hut), he, ?_⟩
        exact (fails_repetition hround).2 (Or.inr ⟨v, w, hmatched, hlt, hrest⟩)
      · have hbroken := separatedRound_broken.2 ⟨b, u, hb, he⟩
        exact ⟨u, e, f, hut, he, (fails_repetition hround).2 (Or.inl hbroken)⟩

theorem fails_separatedBy_of_infallible (hitem : item.LeavesSuffix) (hconsumes : item.Consumes)
    (hseparator : separator.LeavesSuffix) (hinfallible : separator.Infallible) {v : α}
    (hv : item.Takes s v t) :
    ∃ u e f, u.chars <:+ s.chars ∧ item.Fails u e f ∧ (item.separatedBy separator).Fails s e f := by
  obtain ⟨u, e, f, hu, he, hrounds⟩ :=
    fails_rounds_of_infallible hitem hconsumes hseparator hinfallible t
  exact ⟨u, e, f, hu.trans (hitem.of_takes hv), he, fails_separatedBy.2 ⟨v, t, hv, hrounds⟩⟩

/-- A list whose items take something and whose separator cannot fail is empty or fails, if both
keep to the suffix law. It is empty where the item fails at once, and otherwise it fails as the item
does at some later place, so it is never taken with any items. Blanks that may be missing are such a
separator, and so are the empty string and any repetition. -/
theorem separatedBy_of_infallible (hitem : item.LeavesSuffix) (hconsumes : item.Consumes)
    (hseparator : separator.LeavesSuffix) (hinfallible : separator.Infallible) (s : Text) :
    (∀ e r, item.Fails s e r → (item.separatedBy separator).Takes s [] s) ∧
      (∀ v r, item.Takes s v r → ∃ t e f, t.chars <:+ s.chars ∧ item.Fails t e f ∧
        (item.separatedBy separator).Fails s e f) ∧
      (∀ vs r, (item.separatedBy separator).Takes s vs r → vs = []) ∧
      spaces.Infallible ∧ (literal "").Infallible ∧
      ∀ {γ : Type} (q : Parser γ), q.LeavesSuffix → q.many.Infallible := by
  refine ⟨fun e r h => takes_separatedBy_nil.2 ⟨⟨e, r, h⟩, rfl⟩,
    fun v r hv => fails_separatedBy_of_infallible hitem hconsumes hseparator hinfallible hv,
    fun vs r h => ?_, infallible_spaces, infallible_literal_empty, fun q hq => infallible_many hq⟩
  cases vs with
  | nil => rfl
  | cons v vs =>
      obtain ⟨t, hv, -⟩ := takes_separatedBy_cons.1 h
      obtain ⟨u, e, f, -, -, hfails⟩ :=
        fails_separatedBy_of_infallible hitem hconsumes hseparator hinfallible hv
      exact absurd hfails h.not_fails

/-- Numbers with optional blanks between them: two are there, and then the list fails. -/
theorem separatedBy_of_infallible_of_blanks :
    integer.LeavesSuffix ∧ integer.Consumes ∧ spaces.LeavesSuffix ∧ spaces.Infallible ∧
      integer.Takes (Text.ofString "1 2é") 1 (Text.ofString " 2é") ∧
      (∃ t e f, t.chars <:+ (Text.ofString "1 2é").chars ∧ integer.Fails t e f ∧
        (integer.separatedBy spaces).Fails (Text.ofString "1 2é") e f) ∧
      integer.Fails (Text.ofString "é") "Expected: integer value" (Text.ofString "é") ∧
      (integer.separatedBy spaces).Takes (Text.ofString "é") [] (Text.ofString "é") ∧
      whitespace.many.Infallible := by
  have htakes : integer.Takes (Text.ofString "1 2é") 1 (Text.ofString " 2é") := by
    rw [Takes]
    decide +kernel
  have hfails : integer.Fails (Text.ofString "é") "Expected: integer value" (Text.ofString "é") := by
    rw [Fails]
    decide +kernel
  obtain ⟨-, hbroken, -, -, -, hmany⟩ := separatedBy_of_infallible leavesSuffix_integer
    consumes_integer leavesSuffix_spaces infallible_spaces (Text.ofString "1 2é")
  obtain ⟨hempty, -⟩ := separatedBy_of_infallible leavesSuffix_integer consumes_integer
    leavesSuffix_spaces infallible_spaces (Text.ofString "é")
  exact ⟨leavesSuffix_integer, consumes_integer, leavesSuffix_spaces, infallible_spaces, htakes,
    hbroken _ _ htakes, hfails, hempty _ _ hfails, hmany _ leavesSuffix_charsWhile⟩

end TextParsers.Parser
