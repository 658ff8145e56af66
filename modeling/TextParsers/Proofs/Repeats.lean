import TextParsers.Proofs.Suffix

/-!
# Repetition as a recursion

`many` is a loop that collects values as it goes, and the loop has an exit in
the middle: a match that took nothing is kept, but what is left stays what it
was. The meaning of a repetition needs neither. A parser that fails has no
matches; one that takes nothing has that one match; one that takes something
has that match and then whatever a repetition has on the rest. `Repeats` is
this reading as a relation, with the records beside the values, and the loop
computes exactly it (`apply_many_eq_iff`).

A separated list is a loop of its own, with other exits. It is nevertheless an
item followed by a repetition of separator and item together, as long as that
repetition is not stopped by an item: there the repetition gives the separator
back and succeeds, while the list stands by the separator and fails. Both
loops go through the same texts, so the proof follows `Repeats` and looks at
the end only.
-/

namespace TextParsers.Parser

variable {α β : Type}

/-- From `s` on, `p` takes the values one after another and leaves `r`, and the records are made
on the way, those of the last attempt among them. -/
inductive Repeats (p : Parser α) : Text → List α → Text → List Record → Prop where
  /-- There is no further match. -/
  | stops {s t : Text} {e : String} : p.Fails s e t → Repeats p s [] s (p.apply s).records
  /-- A match of nothing counts once. -/
  | idles {s : Text} {v : α} : p.Takes s v s →
      Repeats p s [v] s ((p.apply s).records ++ [.zeroWidth .many s.size])
  | goesOn {s t r : Text} {v : α} {vs : List α} {records : List Record} :
      p.Takes s v t → t.size < s.size → Repeats p t vs r records →
      Repeats p s (v :: vs) r ((p.apply s).records ++ records)

section

variable {p : Parser α} {s t r : Text} {v : α} {vs : List α} {e : String} {records : List Record}

/-- All that a parser that obeys the law may come to. -/
theorem LeavesSuffix.split (hp : p.LeavesSuffix) (s : Text) :
    (∃ e t, p.Fails s e t) ∨ (∃ v, p.Takes s v s) ∨ ∃ v t, p.Takes s v t ∧ t.size < s.size := by
  rcases hp.manyRound.split s with h | ⟨e, t, h⟩ | ⟨v, h⟩ | ⟨v, t, h, -, hlt⟩
  · exact Or.inl (manyRound_ended.1 h)
  · exact absurd h manyRound_not_broken
  · exact Or.inr (Or.inl ⟨v, manyRound_matched.1 h⟩)
  · exact Or.inr (Or.inr ⟨v, t, manyRound_matched.1 h, hlt⟩)

/-- The reading is total, since what is left gets shorter wherever it goes on. -/
theorem repeats_total (hp : p.LeavesSuffix) (s : Text) :
    ∃ vs r records, p.Repeats s vs r records := by
  induction s using Text.size_induction with
  | step s ih =>
      rcases hp.split s with ⟨e, t, h⟩ | ⟨v, h⟩ | ⟨v, t, h, hlt⟩
      · exact ⟨_, _, _, .stops h⟩
      · exact ⟨_, _, _, .idles h⟩
      · obtain ⟨vs, r, records, hrest⟩ := ih t hlt
        exact ⟨_, _, _, .goesOn h hlt hrest⟩

/-! ## The loop follows the recursion -/

theorem records_manyRound (p : Parser α) (s : Text) :
    (p.manyRound s).records = (p.apply s).records := by
  rw [manyRound, Logged.records_bind]
  cases (p.apply s).value with
  | success v t => exact List.append_nil _
  | failure e t => exact List.append_nil _

theorem apply_many_of_fails (h : p.Fails s e t) :
    p.many.apply s = ⟨.success [] s, (p.apply s).records⟩ := by
  rw [many_eq, apply_repetition_of_ended (manyRound_ended.2 ⟨e, t, h⟩), records_manyRound]

theorem apply_many_of_zeroWidth (h : p.Takes s v s) :
    p.many.apply s = ⟨.success [v] s, (p.apply s).records ++ [.zeroWidth .many s.size]⟩ := by
  rw [many_eq, apply_repetition_of_zeroWidth (manyRound_matched.2 h), records_manyRound]

theorem apply_many_of_takes (hp : p.LeavesSuffix) (h : p.Takes s v t) (ht : t.size < s.size) :
    p.many.apply s =
      ⟨(p.many.apply t).value.map (v :: ·), (p.apply s).records ++ (p.many.apply t).records⟩ := by
  rw [many_eq, apply_repetition_of_matched hp.manyRound (manyRound_matched.2 h) ht,
    records_manyRound]

theorem Repeats.apply_many (hp : p.LeavesSuffix) (h : p.Repeats s vs r records) :
    p.many.apply s = ⟨.success vs r, records⟩ := by
  induction h with
  | stops h => exact apply_many_of_fails h
  | idles h => exact apply_many_of_zeroWidth h
  | goesOn h hlt _ ih =>
      rw [apply_many_of_takes hp h hlt, ih]
      rfl

theorem apply_many_eq_iff (hp : p.LeavesSuffix) :
    p.many.apply s = ⟨.success vs r, records⟩ ↔ p.Repeats s vs r records := by
  refine ⟨fun h => ?_, fun h => h.apply_many hp⟩
  obtain ⟨vs', r', records', hrepeats⟩ := repeats_total hp s
  have heq := (hrepeats.apply_many hp).symm.trans h
  simp only [Logged.mk.injEq, Outcome.success.injEq] at heq
  obtain ⟨⟨rfl, rfl⟩, rfl⟩ := heq
  exact hrepeats

/-- What the loop takes is what the recursion says, with the records of the loop. -/
theorem Takes.repeats (h : p.many.Takes s vs r) (hp : p.LeavesSuffix) :
    p.Repeats s vs r (p.many.apply s).records :=
  (apply_many_eq_iff hp).1 (Logged.ext h rfl)

end

/-- A repetition of a parser that keeps to the suffix law never fails, and its first match decides
how it goes on. If the parser fails there are no values. If it takes nothing there is that one
value, and one record more than the parser's own, with the number of bytes that are left. If it
takes something, the value is followed by those of the repetition on the rest, and the records by
the records of that. -/
theorem many_by_first_match {p : Parser α} (hp : p.LeavesSuffix) (s : Text) :
    (∃ vs r, (p.many.apply s).value = .success vs r) ∧
      (∀ e t, (p.apply s).value = .failure e t →
        p.many.apply s = ⟨.success [] s, (p.apply s).records⟩) ∧
      (∀ v, (p.apply s).value = .success v s →
        p.many.apply s = ⟨.success [v] s, (p.apply s).records ++ [.zeroWidth .many s.size]⟩) ∧
      ∀ v t, (p.apply s).value = .success v t → t.size < s.size →
        ∃ vs r, (p.many.apply t).value = .success vs r ∧
          p.many.apply s =
            ⟨.success (v :: vs) r, (p.apply s).records ++ (p.many.apply t).records⟩ := by
  have hsuccess : ∀ t, ∃ vs r, (p.many.apply t).value = .success vs r := by
    intro t
    obtain ⟨vs, r, records, hrepeats⟩ := repeats_total hp t
    exact ⟨vs, r, by rw [hrepeats.apply_many hp]⟩
  refine ⟨hsuccess s, fun e t h => apply_many_of_fails h, fun v h => apply_many_of_zeroWidth h, ?_⟩
  intro v t h hlt
  obtain ⟨vs, r, hrest⟩ := hsuccess t
  refine ⟨vs, r, hrest, ?_⟩
  rw [apply_many_of_takes hp h hlt, hrest]
  rfl

/-- The second match takes nothing, in front of a character of two bytes. -/
theorem many_by_first_match_of_idle :
    ((literal "a").oneOf (literal "")).LeavesSuffix ∧
      (((literal "a").oneOf (literal "")).apply (Text.ofString "aé")).value =
        .success "a" (Text.ofString "é") ∧
      (((literal "a").oneOf (literal "")).apply (Text.ofString "é")).value =
        .success "" (Text.ofString "é") ∧
      ((literal "a").oneOf (literal "")).many.apply (Text.ofString "aé") =
        ⟨.success ["a", ""] (Text.ofString "é"), [.zeroWidth .many 2]⟩ := by
  have hp : ((literal "a").oneOf (literal "")).LeavesSuffix :=
    leavesSuffix_literal.oneOf leavesSuffix_literal
  have hfirst : (((literal "a").oneOf (literal "")).apply (Text.ofString "aé")).value =
      .success "a" (Text.ofString "é") := by decide +kernel
  have hsecond : (((literal "a").oneOf (literal "")).apply (Text.ofString "é")).value =
      .success "" (Text.ofString "é") := by decide +kernel
  obtain ⟨-, -, -, hgoesOn⟩ := many_by_first_match hp (Text.ofString "aé")
  obtain ⟨-, -, hidles, -⟩ := many_by_first_match hp (Text.ofString "é")
  obtain ⟨vs, r, hrest, hall⟩ := hgoesOn _ _ hfirst (by decide +kernel)
  rw [hidles _ hsecond] at hrest hall
  injection hrest with hvs hr
  subst hvs hr
  exact ⟨hp, hfirst, hsecond, hall⟩

/-! ## A separated list is an item and a repetition

A round of the list takes what the separator and the item take in sequence, so
it goes on where a round of the repetition goes on. They differ where the item
fails after a separator: the repetition ends there, in front of the separator,
and the list is broken. -/

section

variable {item : Parser α} {separator : Parser β} {t u r f : Text} {b : β} {vs : List α}
  {e : String} {records : List Record}

theorem fails_rounds_of_repeats (hitem : item.LeavesSuffix) (hseparator : separator.LeavesSuffix)
    (h : (separator.skipLeft item).Repeats t vs r records) (hb : separator.Takes r b u)
    (hu : item.Fails u e f) :
    (repetition .separatedBy (item.separatedRound separator)).Fails t e f := by
  have hround : RoundLeavesSuffix (item.separatedRound separator) := hitem.separatedRound hseparator
  induction h with
  | stops => exact (fails_repetition hround).2 (Or.inl (separatedRound_broken.2 ⟨b, u, hb, hu⟩))
  | idles hv =>
      -- Separator and item succeed at the end of the repetition, so the item does not fail there.
      obtain ⟨b', u', hb', hv⟩ := takes_skipLeft.1 hv
      obtain ⟨-, rfl⟩ := hb.unique hb'
      exact absurd hu hv.not_fails
  | goesOn hv hlt _ ih =>
      have hmatched := separatedRound_matched.2 (takes_skipLeft.1 hv)
      exact (fails_repetition hround).2 (Or.inr ⟨_, _, hmatched, hlt, ih hb⟩)

theorem takes_rounds_of_repeats (hitem : item.LeavesSuffix) (hseparator : separator.LeavesSuffix)
    (h : (separator.skipLeft item).Repeats t vs r records)
    (hend : ∀ b u e f, separator.Takes r b u → ¬ item.Fails u e f) :
    (repetition .separatedBy (item.separatedRound separator)).Takes t vs r := by
  have hround : RoundLeavesSuffix (item.separatedRound separator) := hitem.separatedRound hseparator
  induction h with
  | stops hfails =>
      rcases fails_skipLeft.1 hfails with hfails | ⟨b, u, hb, hu⟩
      · exact (takes_repetition_nil hround).2 ⟨separatedRound_ended.2 ⟨_, _, hfails⟩, rfl⟩
      · exact absurd hu (hend b u _ _ hb)
  | idles hv =>
      have hmatched := separatedRound_matched.2 (takes_skipLeft.1 hv)
      exact (takes_repetition hround).2 (Or.inr (Or.inl ⟨_, rfl, hmatched, rfl⟩))
  | goesOn hv hlt _ ih =>
      have hmatched := separatedRound_matched.2 (takes_skipLeft.1 hv)
      exact (takes_repetition hround).2
        (Or.inr (Or.inr ⟨_, _, _, rfl, hmatched, hlt, ih hend⟩))

end

/-- A separated list is an item, followed by a repetition of separator and item, if both keep to the
suffix law. It is empty where the item fails. It fails as the item does where a separator follows
the repetition and no item after that, and in every other case the list is the first item and those
of the repetition. -/
theorem separatedBy_is_item_then_many {item : Parser α} {separator : Parser β}
    (hitem : item.LeavesSuffix) (hseparator : separator.LeavesSuffix) (s : Text) :
    (∀ e t, item.Fails s e t → (item.separatedBy separator).Takes s [] s) ∧
      ∀ v t, item.Takes s v t →
        (∃ vs r, (separator.skipLeft item).many.Takes t vs r) ∧
          ∀ vs r, (separator.skipLeft item).many.Takes t vs r →
            (∀ b u e f, separator.Takes r b u → item.Fails u e f →
              (item.separatedBy separator).Fails s e f) ∧
            ((∀ b u e f, separator.Takes r b u → ¬ item.Fails u e f) →
              (item.separatedBy separator).Takes s (v :: vs) r) := by
  have hround : (separator.skipLeft item).LeavesSuffix := hseparator.skipLeft hitem
  refine ⟨fun e t h => takes_separatedBy_nil.2 ⟨⟨e, t, h⟩, rfl⟩, fun v t hv => ⟨?_, ?_⟩⟩
  · obtain ⟨vs, r, records, hrepeats⟩ := repeats_total hround t
    exact ⟨vs, r, by rw [Takes, hrepeats.apply_many hround]⟩
  · intro vs r hvs
    have hrepeats : (separator.skipLeft item).Repeats t vs r _ :=
      (apply_many_eq_iff hround).1 (Logged.ext hvs rfl)
    refine ⟨fun b u e f hb hu => ?_, fun hend => ?_⟩
    · exact fails_separatedBy.2
        ⟨v, t, hv, fails_rounds_of_repeats hitem hseparator hrepeats hb hu⟩
    · exact takes_separatedBy_cons.2
        ⟨t, hv, takes_rounds_of_repeats hitem hseparator hrepeats hend⟩

/-- The same parsers on a list that breaks off after a separator and on one that ends. -/
theorem separatedBy_is_item_then_many_of_unfinished :
    digits.LeavesSuffix ∧ (literal ",").LeavesSuffix ∧
      ((literal ",").skipLeft digits).many.Takes (Text.ofString ",2,é") ["2"]
        (Text.ofString ",é") ∧
      (digits.separatedBy (literal ",")).Fails (Text.ofString "1,2,é") expectedRun
        (Text.ofString "é") ∧
      ((literal ",").skipLeft digits).many.Takes (Text.ofString ",2é") ["2"] (Text.ofString "é") ∧
      (digits.separatedBy (literal ",")).Takes (Text.ofString "1,2é") ["1", "2"]
        (Text.ofString "é") := by
  have hitem : digits.LeavesSuffix := leavesSuffix_charsWhile
  have hseparator : (literal ",").LeavesSuffix := leavesSuffix_literal
  have hbroken : ((literal ",").skipLeft digits).many.Takes (Text.ofString ",2,é") ["2"]
      (Text.ofString ",é") := by
    rw [Takes]
    decide +kernel
  have hended : ((literal ",").skipLeft digits).many.Takes (Text.ofString ",2é") ["2"]
      (Text.ofString "é") := by
    rw [Takes]
    decide +kernel
  have hfirst : digits.Takes (Text.ofString "1,2,é") "1" (Text.ofString ",2,é") := by
    rw [Takes]
    decide +kernel
  have hfirst' : digits.Takes (Text.ofString "1,2é") "1" (Text.ofString ",2é") := by
    rw [Takes]
    decide +kernel
  have hcomma : (literal ",").Takes (Text.ofString ",é") "," (Text.ofString "é") := by
    rw [Takes]
    decide +kernel
  have hrejected : digits.Fails (Text.ofString "é") expectedRun (Text.ofString "é") := by
    rw [Fails]
    decide +kernel
  have hnoComma : (literal ",").Fails (Text.ofString "é") "Expected: \",\" prefix"
      (Text.ofString "é") := by
    rw [Fails]
    decide +kernel
  obtain ⟨-, hlist⟩ := separatedBy_is_item_then_many hitem hseparator (Text.ofString "1,2,é")
  obtain ⟨-, hlist'⟩ := separatedBy_is_item_then_many hitem hseparator (Text.ofString "1,2é")
  exact ⟨hitem, hseparator, hbroken,
    ((hlist _ _ hfirst).2 _ _ hbroken).1 _ _ _ _ hcomma hrejected, hended,
    ((hlist' _ _ hfirst').2 _ _ hended).2 fun b u e f hb => absurd hnoComma hb.not_fails⟩

end TextParsers.Parser
