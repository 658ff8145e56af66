import TextParsers.Proofs.Suffix

/-!
# No character is lost

A parser that only takes pieces of text and puts them side by side keeps the
text: the pieces in its value, read from left to right, and what is left make
up the text that it was given. Nothing is dropped between two pieces, nothing
is there twice, and nothing comes out of order.

The law is stated with a function that reads the characters off a value, so
that it goes along with the combinators: a pair reads as its first part and
then its second, a list as its elements in turn. Two of them could be expected
to break it and do not. A choice gives its second alternative the very text
that the first one got, so nothing stays from an attempt that failed. A
repetition that stops on a match that took nothing keeps the value of that
match, and by the law for one match there is no character in it.
-/

namespace TextParsers

mutual

/-- The texts in a value from left to right, through pairs and lists. -/
def Value.texts : Value → List String
  | .text s => [s]
  | .list vs => textsEach vs
  | .pair a b => a.texts ++ b.texts
  | .nothing | .bool _ | .int _ | .assignment _ => []

/-- The texts in each value of a list. -/
def Value.textsEach : List Value → List String
  | [] => []
  | v :: vs => v.texts ++ textsEach vs

end

/-- The characters of the texts in a value. -/
def Value.textChars (v : Value) : List Char := v.texts.flatMap String.toList

section

variable {t : String} {a b : Value} {vs : List Value}

theorem Value.textsEach_eq_flatMap : Value.textsEach vs = vs.flatMap Value.texts := by
  induction vs with
  | nil => rfl
  | cons v vs ih => rw [textsEach, List.flatMap_cons, ih]

theorem Value.textChars_text : (Value.text t).textChars = t.toList := by
  simp [textChars, texts]

theorem Value.textChars_pair : (Value.pair a b).textChars = a.textChars ++ b.textChars := by
  simp [textChars, texts]

theorem Value.textChars_list : (Value.list vs).textChars = vs.flatMap Value.textChars := by
  rw [textChars, texts, textsEach_eq_flatMap, List.flatMap_assoc]
  rfl

end

namespace Parser

variable {α β : Type} {p : Parser α} {content : α → List Char}

/-- The parser keeps its text: the characters that `content` reads off the value, followed by what
is left, are those of the text that was given. -/
def Lossless (p : Parser α) (content : α → List Char) : Prop :=
  ∀ ⦃s a r⦄, p.Takes s a r → content a ++ r.chars = s.chars

theorem lossless_literal {t : String} : (literal t).Lossless String.toList := by
  intro s a r h
  obtain ⟨rfl, happ⟩ := takes_literal.1 h
  exact happ

theorem lossless_charsWhile {q : Char → Bool} {expected : String} :
    (charsWhile q expected).Lossless String.toList :=
  fun _ _ _ h => (takes_charsWhile.1 h).2.2.2

theorem Lossless.map {content' : β → List Char} {f : α → β} (hp : p.Lossless content)
    (hf : ∀ a, content' (f a) = content a) : (p.map f).Lossless content' := by
  intro s b r h
  obtain ⟨a, ha, rfl⟩ := takes_map.1 h
  rw [hf]
  exact hp ha

theorem Lossless.mapExpected (hp : p.Lossless content) (f : String → String) :
    (p.mapExpected f).Lossless content :=
  fun _ _ _ h => hp (takes_mapExpected.1 h)

theorem Lossless.sequence {q : Parser β} {content' : β → List Char} (hp : p.Lossless content)
    (hq : q.Lossless content') :
    (p.sequence q).Lossless fun ab => content ab.1 ++ content' ab.2 := by
  intro s ab r h
  obtain ⟨t, ha, hb⟩ := takes_sequence.1 h
  rw [List.append_assoc, hq hb, hp ha]

theorem Lossless.oneOf {q : Parser α} (hp : p.Lossless content) (hq : q.Lossless content) :
    (p.oneOf q).Lossless content := by
  intro s a r h
  rcases takes_oneOf.1 h with ha | ⟨-, ha⟩
  · exact hp ha
  · exact hq ha

/-- A parser that keeps its text leaves a suffix where it succeeds, and `many` asks for no more. -/
theorem Lossless.manyRound (hp : p.Lossless content) : RoundLeavesSuffix p.manyRound where
  matched h := ⟨_, hp (manyRound_matched.1 h)⟩
  broken h := absurd h manyRound_not_broken

theorem Lossless.many (hp : p.Lossless content) :
    p.many.Lossless (List.flatMap content) := by
  intro s as r h
  rw [many_eq] at h
  induction s using Text.size_induction generalizing as with
  | step s ih =>
      rcases (takes_repetition hp.manyRound).1 h with
        ⟨rfl, -, rfl⟩ | ⟨a, rfl, ha, rfl⟩ | ⟨a, as', t, rfl, ha, hlt, has⟩
      · rfl
      · -- The value of a match that took nothing has no characters.
        simpa using hp (manyRound_matched.1 ha)
      · rw [List.flatMap_cons, List.append_assoc, ih t hlt has, hp (manyRound_matched.1 ha)]

theorem lossless_spaces : spaces.Lossless String.toList :=
  lossless_charsWhile.many.map fun _ => String.toList_join

end Parser

open TextParsers.Parser

/-- The expression takes texts, relabels their failures and puts them side by side, and does
nothing else. -/
def Expr.TakesTexts : Expr → Prop
  | literal _ | whitespace | letters | digits | charsWhile _ _ | spaces => True
  | sequence first second | oneOf first second => first.TakesTexts ∧ second.TakesTexts
  | many item => item.TakesTexts
  | mapExpected _ of => of.TakesTexts
  | _ => False

theorem Expr.lossless_parser {named : String → Parser Value} {e : Expr} (he : e.TakesTexts) :
    (e.parser named).Lossless Value.textChars := by
  induction e with
  | literal t => exact lossless_literal.map fun _ => Value.textChars_text
  | whitespace | letters | digits | charsWhile q expected =>
      exact lossless_charsWhile.map fun _ => Value.textChars_text
  | spaces => exact lossless_spaces.map fun _ => Value.textChars_text
  | sequence first second hfirst hsecond =>
      exact ((hfirst he.1).sequence (hsecond he.2)).map fun _ => Value.textChars_pair
  | oneOf first second hfirst hsecond => exact (hfirst he.1).oneOf (hsecond he.2)
  | many item hitem => exact (hitem he).many.map fun _ => Value.textChars_list
  | mapExpected f of hof => exact (hof he).mapExpected f
  | _ => exact he.elim

/-- Where an expression that only takes texts succeeds, the texts in its value, joined from left to
right, and what is left make up the text that it was given. -/
theorem Expr.join_texts_append_remainder {named : String → Parser Value} {e : Expr}
    (he : e.TakesTexts) {s r : Text} {v : Value}
    (h : ((e.parser named).apply s).value = .success v r) :
    String.join v.texts ++ r.toString = s.toString := by
  have hchars : v.textChars ++ r.chars = s.chars := Expr.lossless_parser he h
  rw [← String.toList_inj, String.toList_append, String.toList_join, Text.toString,
    Text.toString, String.toList_ofList, String.toList_ofList]
  exact hchars

/-- A repetition of repetitions: the first alternative gives up on its second `a`, and the last
round takes nothing and leaves an empty list in the value. -/
theorem Expr.join_texts_append_remainder_of_nested :
    (Expr.many (.oneOf (.sequence (.literal "a") (.literal "b"))
      (.many (.mapExpected id (.literal "a"))))).TakesTexts ∧
      (((Expr.many (.oneOf (.sequence (.literal "a") (.literal "b"))
        (.many (.mapExpected id (.literal "a"))))).parser fun _ => Parser.anyChar.map .text).apply
          (Text.ofString "abaaé")).value =
        .success
          (.list [.pair (.text "a") (.text "b"), .list [.text "a", .text "a"], .list []])
          (Text.ofString "é") ∧
      String.join (Value.list [.pair (.text "a") (.text "b"), .list [.text "a", .text "a"],
        .list []]).texts ++ (Text.ofString "é").toString = (Text.ofString "abaaé").toString := by
  have htexts : (Expr.many (.oneOf (.sequence (.literal "a") (.literal "b"))
      (.many (.mapExpected id (.literal "a"))))).TakesTexts := by
    simp [TakesTexts]
  have htakes : (((Expr.many (.oneOf (.sequence (.literal "a") (.literal "b"))
      (.many (.mapExpected id (.literal "a"))))).parser fun _ => Parser.anyChar.map .text).apply
        (Text.ofString "abaaé")).value =
      .success (.list [.pair (.text "a") (.text "b"), .list [.text "a", .text "a"], .list []])
        (Text.ofString "é") := by decide +kernel
  exact ⟨htexts, htakes, Expr.join_texts_append_remainder htexts htakes⟩

end TextParsers
