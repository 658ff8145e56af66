import TextParsers.Proofs.Repeats

/-!
# What a repetition leaves, it has no further use for

Where a repetition ends its parser has nothing more to give. Either it fails
there or it takes nothing there, and in the second case that match is the last
one of the repetition, which was kept. The result does not say which of the two
it was, but it can be asked again: a repetition from there on has no value or
that one value once more, and it leaves the text as it is.

So nothing is gained by repeating a repetition. The outer loop gets all values
in its first round. Unless that round took nothing there is a second one, which
finds what can still be found, takes nothing, and is kept as any match of
nothing is. There is never a third.
-/

namespace TextParsers.Parser

variable {α : Type} {p : Parser α} {s r : Text} {vs ws : List α} {records : List Record}

/-- A repetition of `p` takes nothing off `r`, and `ws` are its values. -/
inductive Spent (p : Parser α) (r : Text) : List α → Prop where
  | fails {e : String} {t : Text} : p.Fails r e t → Spent p r []
  | idles {v : α} : p.Takes r v r → Spent p r [v]

theorem Spent.takes_many (h : p.Spent r ws) : p.many.Takes r ws r := by
  cases h with
  | fails h => rw [Takes, apply_many_of_fails h]
  | idles h => rw [Takes, apply_many_of_zeroWidth h]

/-- What is found again where a repetition ended is the end of what it found before. -/
theorem Repeats.spent (h : p.Repeats s vs r records) : ∃ ws, p.Spent r ws ∧ ws <:+ vs := by
  induction h with
  | stops h => exact ⟨_, .fails h, List.suffix_rfl⟩
  | idles h => exact ⟨_, .idles h, List.suffix_rfl⟩
  | goesOn _ _ _ ih =>
      obtain ⟨ws, hspent, hsuffix⟩ := ih
      exact ⟨ws, hspent, hsuffix.trans (List.suffix_cons _ _)⟩

theorem Spent.cases_of_suffix (h : p.Spent r ws) (hsuffix : ws <:+ vs) :
    (∃ e t, p.Fails r e t) ∧ ws = [] ∨
      ∃ v, p.Takes r v r ∧ vs.getLast? = some v ∧ ws = [v] := by
  cases h with
  | fails h => exact Or.inl ⟨⟨_, _, h⟩, rfl⟩
  | @idles v h =>
      obtain ⟨us, rfl⟩ := hsuffix
      exact Or.inr ⟨v, h, List.getLast?_concat, rfl⟩

/-- The outer loop of a repetition of a repetition that took something has a second round and no
third. -/
theorem apply_many_many_of_spent (hp : p.LeavesSuffix) (hvs : p.many.Takes s vs r) (hne : r ≠ s)
    (h : p.Spent r ws) :
    p.many.many.apply s = ⟨.success [vs, ws] r,
      (p.many.apply s).records ++ ((p.many.apply r).records ++ [.zeroWidth .many r.size])⟩ := by
  have hlt : r.size < s.size := Text.size_lt_of_suffix_of_ne (hp.many.of_takes hvs) hne
  rw [apply_many_of_takes hp.many hvs hlt, apply_many_of_zeroWidth h.takes_many]
  rfl

/-- A repetition always succeeds, and it exhausts its parser if that keeps to the suffix law: where
it ends the parser fails, or it takes nothing and its value is the last one of the repetition. From
there on the repetition finds no value in the first case and just that value in the second. If a
repetition is itself repeated, its values make the first list, and the only one if nothing was
taken; otherwise one more list follows, of what is found at the end. Either way the outer repetition
notes that it stopped on a match of nothing. -/
theorem many_exhausts_matches (hp : p.LeavesSuffix) (s : Text) :
    (∃ vs r, p.many.Takes s vs r) ∧
      ∀ vs r, p.many.Takes s vs r → ∃ ws,
        ((∃ e t, p.Fails r e t) ∧ ws = [] ∨
          ∃ v, p.Takes r v r ∧ vs.getLast? = some v ∧ ws = [v]) ∧
        p.many.Takes r ws r ∧
        (r = s → p.many.many.apply s =
          ⟨.success [vs] s, (p.many.apply s).records ++ [.zeroWidth .many s.size]⟩) ∧
        (r ≠ s → p.many.many.apply s = ⟨.success [vs, ws] r,
          (p.many.apply s).records ++
            ((p.many.apply r).records ++ [.zeroWidth .many r.size])⟩) := by
  refine ⟨exists_takes_many hp s, fun vs r hvs => ?_⟩
  obtain ⟨ws, hspent, hsuffix⟩ := (hvs.repeats hp).spent
  refine ⟨ws, hspent.cases_of_suffix hsuffix, hspent.takes_many, fun hsame => ?_, fun hne => ?_⟩
  · rw [hsame] at hvs
    exact apply_many_of_zeroWidth hvs
  · exact apply_many_many_of_spent hp hvs hne hspent

/-- A parser that takes nothing in front of a character of two bytes, from a text with something to
take before it and from that character on. -/
theorem many_exhausts_matches_of_idle :
    ((literal "a").oneOf (literal "")).LeavesSuffix ∧
      ((literal "a").oneOf (literal "")).many.Takes (Text.ofString "aé") ["a", ""]
        (Text.ofString "é") ∧
      Text.ofString "é" ≠ Text.ofString "aé" ∧
      ((literal "a").oneOf (literal "")).many.many.apply (Text.ofString "aé") =
        ⟨.success [["a", ""], [""]] (Text.ofString "é"),
          [.zeroWidth .many 2, .zeroWidth .many 2, .zeroWidth .many 2]⟩ ∧
      ((literal "a").oneOf (literal "")).many.Takes (Text.ofString "é") [""]
        (Text.ofString "é") ∧
      ((literal "a").oneOf (literal "")).many.many.apply (Text.ofString "é") =
        ⟨.success [[""]] (Text.ofString "é"), [.zeroWidth .many 2, .zeroWidth .many 2]⟩ := by
  have hp : ((literal "a").oneOf (literal "")).LeavesSuffix :=
    leavesSuffix_literal.oneOf leavesSuffix_literal
  have hlong : ((literal "a").oneOf (literal "")).many.Takes (Text.ofString "aé") ["a", ""]
      (Text.ofString "é") := by
    rw [Takes]
    decide +kernel
  have hshort : ((literal "a").oneOf (literal "")).many.Takes (Text.ofString "é") [""]
      (Text.ofString "é") := by
    rw [Takes]
    decide +kernel
  have hne : Text.ofString "é" ≠ Text.ofString "aé" := by decide +kernel
  obtain ⟨ws, -, hws, -, htwo⟩ :=
    (many_exhausts_matches hp (Text.ofString "aé")).2 _ _ hlong
  obtain ⟨-, -, -, hone, -⟩ := (many_exhausts_matches hp (Text.ofString "é")).2 _ _ hshort
  obtain ⟨rfl, -⟩ := hws.unique hshort
  exact ⟨hp, hlong, hne, htwo hne, hshort, hone rfl⟩

end TextParsers.Parser
