import TextParsers.Proofs.Suffix

/-!
# Where failures come from

A failure of a large parser is reported at one place and with one expectation,
but neither was made up on the way. Each combinator hands on the failure of a
part, except that a choice joins the expectations of both alternatives and
keeps the place of the second. So a failure can be taken apart again: it is a
list of failures of leaves, each a parser that rejected the very text it was
given, with the expectations joined in order and the place of the last one.

The one thing that breaks this is `mapExpected`, which may put any expectation
in the place of another. An expression without it keeps its expectations
(`Expr.KeepsExpectations`), and for those the list is found by following the
expression down to its leaves.
-/

namespace TextParsers

/-- A text that was rejected where it begins, and the expectation that it did not meet. -/
structure Rejection where
  expected : String
  place : Text

/-- The rejections add up to the failure with expectation `e` at `r`: each is one that `leaf`
admits, at a suffix of `s`, the expectations are joined in order and the last one stands at `r`. -/
structure Explains (leaf : Rejection → Prop) (s : Text) (js : List Rejection) (e : String)
    (r : Text) : Prop where
  leaves : ∀ j ∈ js, leaf j
  suffix : ∀ j ∈ js, j.place.chars <:+ s.chars
  expected : ", ".intercalate (js.map Rejection.expected) = e
  last : (js.map Rejection.place).getLast? = some r

namespace Explains

variable {leaf : Rejection → Prop} {s t r r' : Text} {js js' : List Rejection} {e e' : String}

theorem ne_nil (h : Explains leaf s js e r) : js ≠ [] := by
  intro hnil
  have hlast := h.last
  rw [hnil] at hlast
  cases hlast

theorem single (h : leaf ⟨e, s⟩) : Explains leaf s [⟨e, s⟩] e s where
  leaves j hj := by
    rw [List.mem_singleton.1 hj]
    exact h
  suffix j hj := by
    obtain rfl := List.mem_singleton.1 hj
    exact List.suffix_rfl
  expected := by simp
  last := rfl

theorem of_suffix (h : Explains leaf t js e r) (hts : t.chars <:+ s.chars) :
    Explains leaf s js e r :=
  { h with suffix := fun j hj => (h.suffix j hj).trans hts }

theorem append (h : Explains leaf s js e r) (h' : Explains leaf s js' e' r') :
    Explains leaf s (js ++ js') (e ++ ", " ++ e') r' where
  leaves j hj := by
    rcases List.mem_append.1 hj with hj | hj
    · exact h.leaves j hj
    · exact h'.leaves j hj
  suffix j hj := by
    rcases List.mem_append.1 hj with hj | hj
    · exact h.suffix j hj
    · exact h'.suffix j hj
  expected := by
    have hne : js.map Rejection.expected ≠ [] := by simpa using h.ne_nil
    have hne' : js'.map Rejection.expected ≠ [] := by simpa using h'.ne_nil
    rw [List.map_append, String.intercalate_append_of_ne_nil hne hne', h.expected, h'.expected]
  last := by
    rw [List.map_append, List.getLast?_append, h'.last, Option.some_or]

end Explains

namespace Parser

variable {α β γ : Type} {leaf : Rejection → Prop} {p : Parser α}

/-- Every failure of the parser adds up from rejections that `leaf` admits. -/
def Explained (leaf : Rejection → Prop) (p : Parser α) : Prop :=
  ∀ ⦃s e r⦄, p.Fails s e r → ∃ js, Explains leaf s js e r

theorem InPlace.map (hp : p.InPlace) (f : α → β) : (p.map f).InPlace :=
  fun _ _ _ h => hp (fails_map.1 h)

theorem InPlace.explained (hp : p.InPlace)
    (hleaf : ∀ {s e}, p.Fails s e s → leaf ⟨e, s⟩) : p.Explained leaf := by
  intro s e r h
  have hr := hp h
  subst hr
  exact ⟨_, Explains.single (hleaf h)⟩

section

variable {q : Parser β}

theorem Explained.map (hp : p.Explained leaf) (f : α → β) : (p.map f).Explained leaf :=
  fun _ _ _ h => hp (fails_map.1 h)

theorem Explained.andThen {next : α → Parser β} (hp : p.Explained leaf) (hlaw : p.LeavesSuffix)
    (hnext : ∀ a, (next a).Explained leaf) : (p.andThen next).Explained leaf := by
  intro s e r h
  rcases fails_andThen.1 h with he | ⟨a, t, ha, he⟩
  · exact hp he
  · obtain ⟨js, hjs⟩ := hnext a he
    exact ⟨js, hjs.of_suffix (hlaw.of_takes ha)⟩

theorem Explained.sequence (hp : p.Explained leaf) (hlaw : p.LeavesSuffix)
    (hq : q.Explained leaf) : (p.sequence q).Explained leaf :=
  hp.andThen hlaw fun _ => hq.map _

theorem Explained.skipLeft (hp : p.Explained leaf) (hlaw : p.LeavesSuffix)
    (hq : q.Explained leaf) : (p.skipLeft q).Explained leaf :=
  hp.andThen hlaw fun _ => hq

theorem Explained.skipRight (hp : p.Explained leaf) (hlaw : p.LeavesSuffix)
    (hq : q.Explained leaf) : (p.skipRight q).Explained leaf :=
  hp.andThen hlaw fun _ => hq.map _

theorem Explained.between {closing : Parser γ} (hp : p.Explained leaf) (hplaw : p.LeavesSuffix)
    (hq : q.Explained leaf) (hqlaw : q.LeavesSuffix) (hclosing : closing.Explained leaf) :
    (p.between q closing).Explained leaf := by
  rw [between_eq]
  exact hp.skipLeft hplaw (hq.skipRight hqlaw hclosing)

/-- The only place where explanations grow: both alternatives were rejected, one after the
other. -/
theorem Explained.oneOf {p q : Parser α} (hp : p.Explained leaf) (hq : q.Explained leaf) :
    (p.oneOf q).Explained leaf := by
  intro s e r h
  obtain ⟨d, t, d', hd, hd', rfl⟩ := fails_oneOf.1 h
  obtain ⟨js, hjs⟩ := hp hd
  obtain ⟨js', hjs'⟩ := hq hd'
  exact ⟨js ++ js', hjs.append hjs'⟩

theorem explained_many (hlaw : p.LeavesSuffix) : p.many.Explained leaf :=
  fun _ _ _ h => absurd h (not_fails_many hlaw)

/-- A list fails with an item that was called for by the separator before it. The separator itself
only ever ends the list. -/
theorem Explained.separatedBy (hp : p.Explained leaf) (hplaw : p.LeavesSuffix)
    (hqlaw : q.LeavesSuffix) : (p.separatedBy q).Explained leaf := by
  intro s e r h
  obtain ⟨v, t, hv, hrep⟩ := fails_separatedBy.1 h
  obtain ⟨t', ht', hbroken⟩ :=
    broken_of_fails_repetition (hplaw.separatedRound hqlaw) hrep
  obtain ⟨b, t'', hb, he⟩ := separatedRound_broken.1 hbroken
  obtain ⟨js, hjs⟩ := hp he
  have hsuffix : t''.chars <:+ s.chars :=
    (hqlaw.of_takes hb).trans (ht'.trans (hplaw.of_takes hv))
  exact ⟨js, hjs.of_suffix hsuffix⟩

end

end Parser

open TextParsers.Parser

/-! ## The leaves of an expression -/

/-- The leaves of an expression from left to right. A parser of the language of assignments counts
for the leaves that it is put together from. -/
def Expr.leaves : Expr → List Expr
  | spaces => [whitespace]
  | assignment =>
      [literal "let", whitespace, letters, whitespace, literal "=", whitespace, literal "[",
        integer, literal ",", whitespace, literal "]"]
  | intArray => [literal "[", integer, literal ",", whitespace, literal "]"]
  | keyValue => [letters, literal ":", letters]
  | sequence first second | oneOf first second | skipLeft first second | skipRight first second =>
      first.leaves ++ second.leaves
  | many item => item.leaves
  | separatedBy item separator => item.leaves ++ separator.leaves
  | between opening content closing => opening.leaves ++ content.leaves ++ closing.leaves
  | map _ of | mapExpected _ of => of.leaves
  | leaf => [leaf]

/-- No expectation is replaced anywhere in the expression. -/
def Expr.KeepsExpectations : Expr → Prop
  | sequence first second | oneOf first second | skipLeft first second | skipRight first second =>
      first.KeepsExpectations ∧ second.KeepsExpectations
  | many item => item.KeepsExpectations
  | separatedBy item separator => item.KeepsExpectations ∧ separator.KeepsExpectations
  | between opening content closing =>
      opening.KeepsExpectations ∧ content.KeepsExpectations ∧ closing.KeepsExpectations
  | map _ of => of.KeepsExpectations
  | mapExpected _ _ => False
  | _ => True

/-- One of the expressions rejects the text with that expectation, where it begins. -/
def RejectedBy (named : String → Parser Value) (ls : List Expr) (j : Rejection) : Prop :=
  ∃ l ∈ ls, (l.parser named).Fails j.place j.expected j.place

section

variable {α : Type} {named : String → Parser Value} {ls : List Expr}

/-- A parser that fails in place whenever a leaf does is explained by that leaf. -/
theorem explained_of_mem {l : Expr} (hl : l ∈ ls) {p : Parser α} (hp : p.InPlace)
    (hfails : ∀ {s e r}, p.Fails s e r → (l.parser named).Fails s e r) :
    p.Explained (RejectedBy named ls) :=
  hp.explained fun h => ⟨l, hl, hfails h⟩

theorem explained_literal {t : String} (h : Expr.literal t ∈ ls) :
    (Parser.literal t).Explained (RejectedBy named ls) :=
  explained_of_mem h inPlace_literal fun hf => fails_map.2 hf

theorem explained_integer (h : Expr.integer ∈ ls) :
    Parser.integer.Explained (RejectedBy named ls) :=
  explained_of_mem h inPlace_integer fun hf => fails_map.2 hf

theorem explained_whitespace (h : Expr.whitespace ∈ ls) :
    Parser.whitespace.Explained (RejectedBy named ls) :=
  explained_of_mem h inPlace_charsWhile fun hf => fails_map.2 hf

theorem explained_letters (h : Expr.letters ∈ ls) :
    Parser.letters.Explained (RejectedBy named ls) :=
  explained_of_mem h inPlace_charsWhile fun hf => fails_map.2 hf

theorem explained_spaces {leaf : Rejection → Prop} : Parser.spaces.Explained leaf :=
  (explained_many leavesSuffix_charsWhile).map _

theorem explained_array {gap : Parser α} (hgap : gap.LeavesSuffix)
    (hopening : Expr.literal "[" ∈ ls) (hitem : Expr.integer ∈ ls)
    (hclosing : Expr.literal "]" ∈ ls) :
    (Parser.array gap).Explained (RejectedBy named ls) := by
  have hseparator : ((Parser.literal ",").sequence gap).LeavesSuffix :=
    leavesSuffix_literal.sequence hgap
  have hinteger : Parser.integer.Explained (RejectedBy named ls) := explained_integer hitem
  have hlist := hinteger.separatedBy leavesSuffix_integer hseparator
  exact (explained_literal hopening).between leavesSuffix_literal hlist
    (leavesSuffix_integer.separatedBy hseparator) (explained_literal hclosing)

theorem explained_assignment (hls : Expr.leaves .assignment ⊆ ls) :
    Parser.assignment.Explained (RejectedBy named ls) := by
  have hkeyword : ((Parser.literal "let").sequence Parser.whitespace).Explained
      (RejectedBy named ls) :=
    (explained_literal (hls (by simp [Expr.leaves]))).sequence leavesSuffix_literal
      (explained_whitespace (hls (by simp [Expr.leaves])))
  have hname : (Parser.letters.skipRight Parser.spaces).Explained (RejectedBy named ls) :=
    (explained_letters (hls (by simp [Expr.leaves]))).skipRight leavesSuffix_charsWhile
      explained_spaces
  have hequals : ((Parser.literal "=").skipRight Parser.spaces).Explained
      (RejectedBy named ls) :=
    (explained_literal (hls (by simp [Expr.leaves]))).skipRight leavesSuffix_literal
      explained_spaces
  have harray : (Parser.array Parser.spaces).Explained (RejectedBy named ls) :=
    explained_array leavesSuffix_spaces (hls (by simp [Expr.leaves]))
      (hls (by simp [Expr.leaves])) (hls (by simp [Expr.leaves]))
  have hkeywordLaw : ((Parser.literal "let").sequence Parser.whitespace).LeavesSuffix :=
    leavesSuffix_literal.sequence leavesSuffix_charsWhile
  have hnameLaw : (Parser.letters.skipRight Parser.spaces).LeavesSuffix :=
    leavesSuffix_charsWhile.skipRight leavesSuffix_spaces
  have hequalsLaw : ((Parser.literal "=").skipRight Parser.spaces).LeavesSuffix :=
    leavesSuffix_literal.skipRight leavesSuffix_spaces
  have hhead := (hkeyword.skipLeft hkeywordLaw hname).skipRight (hkeywordLaw.skipLeft hnameLaw)
    hequals
  exact (hhead.sequence ((hkeywordLaw.skipLeft hnameLaw).skipRight hequalsLaw) harray).map _

theorem explained_keyValue (hls : Expr.leaves .keyValue ⊆ ls) :
    Parser.keyValue.Explained (RejectedBy named ls) := by
  have hletters : Parser.letters.Explained (RejectedBy named ls) :=
    explained_letters (hls (by simp [Expr.leaves]))
  have hkey : (Parser.letters.skipRight (Parser.literal ":")).Explained (RejectedBy named ls) :=
    hletters.skipRight leavesSuffix_charsWhile (explained_literal (hls (by simp [Expr.leaves])))
  exact hkey.sequence (leavesSuffix_charsWhile.skipRight leavesSuffix_literal) hletters

variable {e : Expr}

theorem Expr.explained_leaf (hl : e ∈ ls) (hp : (e.parser named).InPlace) :
    (e.parser named).Explained (RejectedBy named ls) :=
  explained_of_mem hl hp fun hf => hf

theorem Expr.explained_parser (hsuffix : ∀ name, (named name).LeavesSuffix)
    (hplace : ∀ name, (named name).InPlace) (e : Expr) (he : e.KeepsExpectations)
    (hls : e.leaves ⊆ ls) : (e.parser named).Explained (RejectedBy named ls) := by
  -- `ls` stays the same all through, so that explanations of two parts can be put together.
  induction e with
  | literal t => exact explained_leaf (hls (by simp [leaves])) (inPlace_literal.map _)
  | integer => exact explained_leaf (hls (by simp [leaves])) (inPlace_integer.map _)
  | whitespace | letters | digits | charsWhile q expected =>
      exact explained_leaf (hls (by simp [leaves])) (inPlace_charsWhile.map _)
  | anyChar => exact explained_leaf (hls (by simp [leaves])) (inPlace_anyChar.map _)
  | endOfInput => exact explained_leaf (hls (by simp [leaves])) (inPlace_endOfInput.map _)
  | succeed v => exact explained_leaf (hls (by simp [leaves])) inPlace_succeed
  | fail expected => exact explained_leaf (hls (by simp [leaves])) inPlace_fail
  | ref name => exact explained_leaf (hls (by simp [leaves])) (hplace name)
  | spaces => exact explained_spaces.map _
  | assignment => exact (explained_assignment hls).map _
  | intArray =>
      exact (explained_array leavesSuffix_charsWhile (hls (by simp [leaves]))
        (hls (by simp [leaves])) (hls (by simp [leaves]))).map _
  | keyValue => exact (explained_keyValue hls).map _
  | sequence first second hfirst hsecond =>
      rw [leaves, List.append_subset] at hls
      exact ((hfirst he.1 hls.1).sequence (first.leavesSuffix_parser hsuffix)
        (hsecond he.2 hls.2)).map _
  | oneOf first second hfirst hsecond =>
      rw [leaves, List.append_subset] at hls
      exact (hfirst he.1 hls.1).oneOf (hsecond he.2 hls.2)
  | skipLeft first second hfirst hsecond =>
      rw [leaves, List.append_subset] at hls
      exact (hfirst he.1 hls.1).skipLeft (first.leavesSuffix_parser hsuffix) (hsecond he.2 hls.2)
  | skipRight first second hfirst hsecond =>
      rw [leaves, List.append_subset] at hls
      exact (hfirst he.1 hls.1).skipRight (first.leavesSuffix_parser hsuffix) (hsecond he.2 hls.2)
  | many item hitem => exact (explained_many (item.leavesSuffix_parser hsuffix)).map _
  | separatedBy item separator hitem hseparator =>
      rw [leaves, List.append_subset] at hls
      exact ((hitem he.1 hls.1).separatedBy (item.leavesSuffix_parser hsuffix)
        (separator.leavesSuffix_parser hsuffix)).map _
  | between opening content closing hopening hcontent hclosing =>
      rw [leaves, List.append_subset, List.append_subset] at hls
      exact (hopening he.1 hls.1.1).between (opening.leavesSuffix_parser hsuffix)
        (hcontent he.2.1 hls.1.2) (content.leavesSuffix_parser hsuffix)
        (hclosing he.2.2 hls.2)
  | map f of hof => exact (hof he hls).map f
  | mapExpected f of hof => exact False.elim he

/-- A failure of an expression that keeps its expectations is made of failures of its leaves. Each
of them rejected, where it begins, a suffix of the text; their expectations are joined in order,
and the failure is reported where the last of them stands. This is so provided that the parsers
behind its names keep to the suffix law and fail in place, at the text they were given. -/
theorem Expr.failure_from_leaves (hsuffix : ∀ name, (named name).LeavesSuffix)
    (hplace : ∀ name, (named name).InPlace) (he : e.KeepsExpectations) {s r : Text}
    {expected : String} (h : ((e.parser named).apply s).value = .failure expected r) :
    ∃ js : List Rejection, js ≠ [] ∧
      (∀ j ∈ js, j.place.chars <:+ s.chars ∧
        ∃ l ∈ e.leaves, ((l.parser named).apply j.place).value = .failure j.expected j.place) ∧
      ", ".intercalate (js.map Rejection.expected) = expected ∧
      (js.map Rejection.place).getLast? = some r := by
  obtain ⟨js, hjs⟩ := Expr.explained_parser hsuffix hplace e he (List.Subset.refl _) h
  exact ⟨js, hjs.ne_nil, fun j hj => ⟨hjs.suffix j hj, hjs.leaves j hj⟩, hjs.expected, hjs.last⟩

/-- Three leaves at two places: the alternatives after the first character, and the choice around
them. -/
theorem Expr.failure_from_leaves_of_choices :
    (∀ _ : String, (Parser.fail "no name" : Parser Value).LeavesSuffix) ∧
      (∀ _ : String, (Parser.fail "no name" : Parser Value).InPlace) ∧
      (Expr.oneOf (.skipLeft (.literal "a") (.oneOf .integer (.ref "n")))
        (.literal "b")).KeepsExpectations ∧
      ∃ js : List Rejection, js ≠ [] ∧
        (∀ j ∈ js, j.place.chars <:+ (Text.ofString "ac").chars ∧
          ∃ l ∈ [Expr.literal "a", .integer, .ref "n", .literal "b"],
            ((l.parser fun _ => .fail "no name").apply j.place).value =
              .failure j.expected j.place) ∧
        ", ".intercalate (js.map Rejection.expected) =
          "Expected: integer value, no name, Expected: \"b\" prefix" ∧
        (js.map Rejection.place).getLast? = some (Text.ofString "ac") := by
  have hkeeps : (Expr.oneOf (.skipLeft (.literal "a") (.oneOf .integer (.ref "n")))
      (.literal "b")).KeepsExpectations := by
    simp [KeepsExpectations]
  have hfails : (((Expr.oneOf (.skipLeft (.literal "a") (.oneOf .integer (.ref "n")))
      (.literal "b")).parser fun _ => Parser.fail "no name").apply (Text.ofString "ac")).value =
      .failure "Expected: integer value, no name, Expected: \"b\" prefix"
        (Text.ofString "ac") := by decide +kernel
  exact ⟨fun _ => leavesSuffix_fail, fun _ => inPlace_fail, hkeeps,
    Expr.failure_from_leaves (fun _ => leavesSuffix_fail) (fun _ => inPlace_fail) hkeeps hfails⟩

end

end TextParsers
