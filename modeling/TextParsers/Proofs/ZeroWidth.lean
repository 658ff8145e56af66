import TextParsers.Proofs.Sentences

/-!
# Guarded repetitions never stop on a match of nothing

A repetition that stops because its last match took nothing says so in the log,
and whoever reads that record has written a parser that repeats something which
may be empty. Whether that can happen is seen from the expression alone.
`Expr.nullable` asks which expressions may succeed without taking anything, and
`Expr.guarded` whether every repetition has a part in its rounds that may not.

The first question is answered in favour of emptiness where it cannot be
decided, so only one direction is true of it: an expression that is not
nullable takes at least one byte whenever it succeeds. For a sequence it is
enough that one part takes something, as the others never give anything back.
With this each round of a guarded repetition that matches leaves a shorter
text, the sizes that the loop compares are never equal, and the record is never
made, not even in an attempt that a choice gives up later.
-/

namespace TextParsers

/-- No record is of the most detailed level, on which repetitions say that they stopped on a match
of nothing. -/
def Untraced (records : List Record) : Prop := ∀ record ∈ records, record.level ≠ .trace

theorem Logged.forall_mem_records_bind {β γ : Type} {allowed : Record → Prop} {m : Logged β}
    {f : β → Logged γ} (hm : ∀ record ∈ m.records, allowed record)
    (hf : ∀ b, ∀ record ∈ (f b).records, allowed record) :
    ∀ record ∈ (m >>= f).records, allowed record := by
  rw [Logged.records_bind, List.forall_mem_append]
  exact ⟨hm, hf m.value⟩

namespace Parser

variable {α β γ : Type} {p : Parser α} {q : Parser β} {s r : Text}

theorem LeavesSuffix.size_le (hp : p.LeavesSuffix) {a : α} (h : p.Takes s a r) :
    r.size ≤ s.size :=
  Text.size_le_of_suffix (hp.of_takes h)

/-! ## Parsers that take something -/

/-- Whatever the parser takes has at least one byte. -/
def Consumes (p : Parser α) : Prop := ∀ ⦃s a r⦄, p.Takes s a r → r.size < s.size

theorem consumes_literal {t : String} (ht : t ≠ "") : (literal t).Consumes := by
  intro s a r h
  have hne : t.toList ≠ [] := mt String.toList_eq_nil_iff.1 ht
  exact Text.size_lt_of_append (takes_literal.1 h).2 hne

theorem consumes_charsWhile {c : Char → Bool} {expected : String} :
    (charsWhile c expected).Consumes :=
  fun _ _ _ h => size_lt_of_takes_charsWhile h

theorem consumes_integer : integer.Consumes := by
  intro s v r h
  obtain ⟨ds, hnum, -, happ⟩ := takes_integer.1 h
  exact Text.size_lt_of_append happ hnum.nonempty

theorem consumes_anyChar : anyChar.Consumes := by
  intro s a r h
  obtain ⟨c, -, happ⟩ := takes_anyChar.1 h
  exact Text.size_lt_of_append (u := [c]) happ (by simp)

theorem consumes_fail {expected : String} : (fail expected : Parser α).Consumes :=
  fun _ _ _ h => absurd h not_takes_fail

theorem Consumes.map (hp : p.Consumes) (f : α → β) : (p.map f).Consumes := by
  intro s b r h
  obtain ⟨a, ha, -⟩ := takes_map.1 h
  exact hp ha

theorem Consumes.mapExpected (hp : p.Consumes) (f : String → String) :
    (p.mapExpected f).Consumes :=
  fun _ _ _ h => hp (takes_mapExpected.1 h)

/-- It does not matter which of the two parsers takes something. -/
theorem consumes_andThen {next : α → Parser β} (hp : p.LeavesSuffix)
    (hnext : ∀ a, (next a).LeavesSuffix) (h : p.Consumes ∨ ∀ a, (next a).Consumes) :
    (p.andThen next).Consumes := by
  intro s b r hb
  obtain ⟨a, t, ha, hb⟩ := takes_andThen.1 hb
  have hts := hp.size_le ha
  have hrt := (hnext a).size_le hb
  rcases h with h | h
  · have := h ha
    omega
  · have := h a hb
    omega

theorem consumes_sequence (hp : p.LeavesSuffix) (hq : q.LeavesSuffix)
    (h : p.Consumes ∨ q.Consumes) : (p.sequence q).Consumes :=
  consumes_andThen hp (fun _ => hq.map _) (h.imp_right fun hq _ => hq.map _)

theorem consumes_skipLeft (hp : p.LeavesSuffix) (hq : q.LeavesSuffix)
    (h : p.Consumes ∨ q.Consumes) : (p.skipLeft q).Consumes :=
  consumes_andThen hp (fun _ => hq) (h.imp_right fun hq _ => hq)

theorem consumes_skipRight (hp : p.LeavesSuffix) (hq : q.LeavesSuffix)
    (h : p.Consumes ∨ q.Consumes) : (p.skipRight q).Consumes :=
  consumes_andThen hp (fun _ => hq.map _) (h.imp_right fun hq _ => hq.map _)

theorem consumes_between {closing : Parser γ} (hp : p.LeavesSuffix) (hq : q.LeavesSuffix)
    (hclosing : closing.LeavesSuffix) (h : p.Consumes ∨ q.Consumes ∨ closing.Consumes) :
    (p.between q closing).Consumes := by
  rw [between_eq]
  exact consumes_skipLeft hp (hq.skipRight hclosing)
    (h.imp_right (consumes_skipRight hq hclosing))

theorem Consumes.oneOf {p q : Parser α} (hp : p.Consumes) (hq : q.Consumes) :
    (p.oneOf q).Consumes := by
  intro s a r h
  rcases takes_oneOf.1 h with ha | ⟨-, ha⟩
  · exact hp ha
  · exact hq ha

/-! ## What a parser notes

The only records of parsers are those of repetitions that stop on a match of
nothing. So a parser whose repetitions are guarded notes nothing at all, and
this is said in terms of any class of records, so that the parsers that names
stand for may note something of their own.
-/

variable {allowed : Record → Prop}

/-- All records that the parser makes are allowed. -/
def NotesOnly (allowed : Record → Prop) (p : Parser α) : Prop :=
  ∀ s : Text, ∀ record ∈ (p.apply s).records, allowed record

/-- A parser of which no record is allowed makes none. -/
theorem NotesOnly.apply_of_value (h : p.NotesOnly fun _ => False) {o : Outcome α}
    (ho : (p.apply s).value = o) : p.apply s = ⟨o, []⟩ :=
  Logged.ext ho (List.eq_nil_iff_forall_not_mem.2 (h s))

theorem notesOnly_ofOutcome (f : Text → Outcome α) : (ofOutcome f).NotesOnly allowed :=
  fun _ => List.forall_mem_nil _

theorem NotesOnly.map (hp : p.NotesOnly allowed) (f : α → β) : (p.map f).NotesOnly allowed :=
  fun s => Logged.forall_mem_records_bind (hp s) fun _ => List.forall_mem_nil _

theorem NotesOnly.mapExpected (hp : p.NotesOnly allowed) (f : String → String) :
    (p.mapExpected f).NotesOnly allowed :=
  fun s => Logged.forall_mem_records_bind (hp s) fun _ => List.forall_mem_nil _

theorem NotesOnly.andThen {next : α → Parser β} (hp : p.NotesOnly allowed)
    (hnext : ∀ a, (next a).NotesOnly allowed) : (p.andThen next).NotesOnly allowed := by
  intro s
  refine Logged.forall_mem_records_bind (hp s) ?_
  intro o
  cases o with
  | success a r => exact hnext a r
  | failure e r => exact List.forall_mem_nil _

theorem NotesOnly.sequence (hp : p.NotesOnly allowed) (hq : q.NotesOnly allowed) :
    (p.sequence q).NotesOnly allowed :=
  hp.andThen fun _ => hq.map _

theorem NotesOnly.skipLeft (hp : p.NotesOnly allowed) (hq : q.NotesOnly allowed) :
    (p.skipLeft q).NotesOnly allowed :=
  hp.andThen fun _ => hq

theorem NotesOnly.skipRight (hp : p.NotesOnly allowed) (hq : q.NotesOnly allowed) :
    (p.skipRight q).NotesOnly allowed :=
  hp.andThen fun _ => hq.map _

theorem NotesOnly.between {closing : Parser γ} (hp : p.NotesOnly allowed)
    (hq : q.NotesOnly allowed) (hclosing : closing.NotesOnly allowed) :
    (p.between q closing).NotesOnly allowed :=
  hp.skipLeft (hq.skipRight hclosing)

theorem NotesOnly.oneOf {p q : Parser α} (hp : p.NotesOnly allowed) (hq : q.NotesOnly allowed) :
    (p.oneOf q).NotesOnly allowed := by
  intro s
  refine Logged.forall_mem_records_bind (hp s) ?_
  intro o
  cases o with
  | success a r => exact List.forall_mem_nil _
  | failure e r => exact Logged.forall_mem_records_bind (hq s) fun _ => List.forall_mem_nil _

section

variable {kind : Repetition} {round : Text → Logged (Round α)}

/-- Where every round that matches leaves a shorter text, the loop has no records but those of its
rounds. -/
theorem forall_mem_records_repeatRounds
    (hround : ∀ s, ∀ record ∈ (round s).records, allowed record)
    (hshrinks : ∀ {s v t}, (round s).value = .matched v t → t.size < s.size) :
    ∀ (rounds : Nat) (values : Array α) (records : Array Record) (s : Text),
      (∀ record ∈ records.toList, allowed record) →
      ∀ record ∈ (repeatRounds kind round rounds values records s).records.toList,
        allowed record := by
  intro rounds
  induction rounds with
  | zero =>
      intro values records s h
      exact h
  | succ n ih =>
      intro values records s h
      have hboth : ∀ record ∈ (records ++ (round s).records.toArray).toList, allowed record := by
        rw [Array.toList_append, List.forall_mem_append]
        exact ⟨h, hround s⟩
      rw [repeatRounds]
      cases hmade : (round s).value with
      | ended => simpa only [hmade] using hboth
      | broken e t => simpa only [hmade] using hboth
      | matched v t =>
          have hne : t.size ≠ s.size := Nat.ne_of_lt (hshrinks hmade)
          simp only [hmade, if_neg hne]
          exact ih _ _ t hboth

theorem Run.forall_mem_records_outcome {run : Run α}
    (h : ∀ record ∈ run.records.toList, allowed record) :
    ∀ record ∈ run.outcome.records, allowed record := by
  unfold Run.outcome
  split
  · exact h
  · exact h

end

theorem NotesOnly.many (hp : p.NotesOnly allowed) (hconsumes : p.Consumes) :
    p.many.NotesOnly allowed := by
  have hround : ∀ s, ∀ record ∈ (p.manyRound s).records, allowed record := by
    intro s
    refine Logged.forall_mem_records_bind (hp s) ?_
    intro o
    cases o with
    | success a r => exact List.forall_mem_nil _
    | failure e r => exact List.forall_mem_nil _
  intro s
  exact Run.forall_mem_records_outcome (forall_mem_records_repeatRounds hround
    (fun h => hconsumes (manyRound_matched.1 h)) _ _ _ s (List.forall_mem_nil _))

/-- Separator and item are measured together, so one of them is enough. -/
theorem NotesOnly.separatedBy (hp : p.NotesOnly allowed) (hq : q.NotesOnly allowed)
    (hplaw : p.LeavesSuffix) (hqlaw : q.LeavesSuffix) (hconsumes : p.Consumes ∨ q.Consumes) :
    (p.separatedBy q).NotesOnly allowed := by
  have hround : ∀ s, ∀ record ∈ (p.separatedRound q s).records, allowed record := by
    intro s
    refine Logged.forall_mem_records_bind (hq s) ?_
    intro o
    cases o with
    | failure e r => exact List.forall_mem_nil _
    | success b t =>
        refine Logged.forall_mem_records_bind (hp t) ?_
        intro o
        cases o with
        | success a r => exact List.forall_mem_nil _
        | failure e r => exact List.forall_mem_nil _
  have hshrinks : ∀ {s v t}, (p.separatedRound q s).value = .matched v t → t.size < s.size := by
    intro s v r h
    obtain ⟨b, t, hb, hv⟩ := separatedRound_matched.1 h
    have hts := hqlaw.size_le hb
    have hrt := hplaw.size_le hv
    rcases hconsumes with hc | hc
    · have := hc hv
      omega
    · have := hc hb
      omega
  intro s
  refine Logged.forall_mem_records_bind (hp s) ?_
  intro o
  cases o with
  | failure e r => exact List.forall_mem_nil _
  | success a r =>
      exact Run.forall_mem_records_outcome
        (forall_mem_records_repeatRounds hround hshrinks _ _ _ r (List.forall_mem_nil _))

theorem NotesOnly.parseComplete (hp : p.NotesOnly allowed) {s : Text}
    (hrejected : ∀ e, (p.parseComplete s).value = .error e → allowed (.rejected s.size e)) :
    ∀ record ∈ (p.parseComplete s).records, allowed record := by
  cases h : (p.parseComplete s).value with
  | ok a =>
      rw [records_parseComplete_of_ok h]
      exact hp s
  | error e =>
      rw [records_parseComplete_of_error h, List.forall_mem_append]
      refine ⟨hp s, ?_⟩
      intro record hrecord
      rw [List.mem_singleton.1 hrecord]
      exact hrejected e h

/-! ## The language of assignments -/

theorem notesOnly_spaces : spaces.NotesOnly allowed :=
  ((notesOnly_ofOutcome _).many consumes_charsWhile).map _

section

variable {gap : Parser α}

theorem consumes_array (hgap : gap.LeavesSuffix) : (array gap).Consumes := by
  have hseparator : ((literal ",").sequence gap).LeavesSuffix :=
    leavesSuffix_literal.sequence hgap
  exact consumes_between leavesSuffix_literal (leavesSuffix_integer.separatedBy hseparator)
    leavesSuffix_literal (Or.inl (consumes_literal (by decide)))

theorem notesOnly_array (hgap : gap.LeavesSuffix) (hnotes : gap.NotesOnly allowed) :
    (array gap).NotesOnly allowed := by
  have hseparator : ((literal ",").sequence gap).NotesOnly allowed :=
    (notesOnly_ofOutcome _).sequence hnotes
  have hinteger : integer.NotesOnly allowed := notesOnly_ofOutcome _
  have hlist := hinteger.separatedBy hseparator leavesSuffix_integer
    (leavesSuffix_literal.sequence hgap) (Or.inl consumes_integer)
  exact NotesOnly.between (notesOnly_ofOutcome _) hlist (notesOnly_ofOutcome _)

end

theorem consumes_assignment : assignment.Consumes := by
  intro s a r h
  obtain ⟨cs, hsentence, happ⟩ := takes_assignment.1 h
  refine Text.size_lt_of_append happ ?_
  cases hsentence
  simp

theorem notesOnly_assignment : assignment.NotesOnly allowed := by
  have hkeyword : ((literal "let").sequence whitespace).NotesOnly allowed :=
    (notesOnly_ofOutcome _).sequence (notesOnly_ofOutcome _)
  have hname : (letters.skipRight spaces).NotesOnly allowed :=
    (notesOnly_ofOutcome _).skipRight notesOnly_spaces
  have hequals : ((literal "=").skipRight spaces).NotesOnly allowed :=
    (notesOnly_ofOutcome _).skipRight notesOnly_spaces
  exact (((hkeyword.skipLeft hname).skipRight hequals).sequence
    (notesOnly_array leavesSuffix_spaces notesOnly_spaces)).map _

theorem notesOnly_intArray : intArray.NotesOnly allowed :=
  notesOnly_array leavesSuffix_charsWhile (notesOnly_ofOutcome _)

theorem consumes_keyValue : keyValue.Consumes :=
  consumes_sequence (leavesSuffix_charsWhile.skipRight leavesSuffix_literal)
    leavesSuffix_charsWhile (Or.inr consumes_charsWhile)

theorem notesOnly_keyValue : keyValue.NotesOnly allowed :=
  ((notesOnly_ofOutcome _).skipRight (notesOnly_ofOutcome _)).sequence (notesOnly_ofOutcome _)

end Parser

open TextParsers.Parser

/-! ## Expressions -/

/-- Whether the expression may succeed without taking anything, as far as its form tells. Of a
parser that only a name stands for nothing is known. -/
def Expr.nullable : Expr → Bool
  | literal t => t = ""
  | integer | whitespace | letters | digits | charsWhile _ _ | anyChar | fail _ => false
  | assignment | intArray | keyValue => false
  | spaces | many _ | separatedBy _ _ | endOfInput | succeed _ | ref _ => true
  | sequence first second | skipLeft first second | skipRight first second =>
      first.nullable && second.nullable
  | between opening content closing => opening.nullable && content.nullable && closing.nullable
  | oneOf first second => first.nullable || second.nullable
  | map _ of | mapExpected _ of => of.nullable

/-- Whether something is taken in each round of every repetition in the expression: by the body of
`many`, and by the item or the separator of a list. -/
def Expr.guarded : Expr → Bool
  | many item => !item.nullable && item.guarded
  | separatedBy item separator =>
      (!item.nullable || !separator.nullable) && item.guarded && separator.guarded
  | sequence first second | oneOf first second | skipLeft first second | skipRight first second =>
      first.guarded && second.guarded
  | between opening content closing => opening.guarded && content.guarded && closing.guarded
  | map _ of | mapExpected _ of => of.guarded
  | _ => true

variable {named : String → Parser Value}

theorem Expr.consumes_of_not_nullable (hsuffix : ∀ name, (named name).LeavesSuffix) (e : Expr)
    (h : e.nullable = false) : (e.parser named).Consumes := by
  induction e with
  | literal t =>
      have ht : t ≠ "" := by simpa [nullable] using h
      exact (consumes_literal ht).map _
  | integer => exact consumes_integer.map _
  | whitespace | letters | digits | charsWhile q expected => exact consumes_charsWhile.map _
  | anyChar => exact consumes_anyChar.map _
  | fail expected => exact consumes_fail
  | assignment => exact consumes_assignment.map _
  | intArray => exact (consumes_array leavesSuffix_charsWhile).map _
  | keyValue => exact consumes_keyValue.map _
  | spaces | many _ | separatedBy _ _ | endOfInput | succeed _ | ref _ => cases h
  | sequence first second hfirst hsecond =>
      rw [nullable, Bool.and_eq_false_iff] at h
      exact (consumes_sequence (first.leavesSuffix_parser hsuffix)
        (second.leavesSuffix_parser hsuffix) (h.imp hfirst hsecond)).map _
  | skipLeft first second hfirst hsecond =>
      rw [nullable, Bool.and_eq_false_iff] at h
      exact consumes_skipLeft (first.leavesSuffix_parser hsuffix)
        (second.leavesSuffix_parser hsuffix) (h.imp hfirst hsecond)
  | skipRight first second hfirst hsecond =>
      rw [nullable, Bool.and_eq_false_iff] at h
      exact consumes_skipRight (first.leavesSuffix_parser hsuffix)
        (second.leavesSuffix_parser hsuffix) (h.imp hfirst hsecond)
  | between opening content closing hopening hcontent hclosing =>
      rw [nullable, Bool.and_eq_false_iff, Bool.and_eq_false_iff, or_assoc] at h
      exact consumes_between (opening.leavesSuffix_parser hsuffix)
        (content.leavesSuffix_parser hsuffix) (closing.leavesSuffix_parser hsuffix)
        (h.imp hopening (Or.imp hcontent hclosing))
  | oneOf first second hfirst hsecond =>
      rw [nullable, Bool.or_eq_false_iff] at h
      exact (hfirst h.1).oneOf (hsecond h.2)
  | map f of hof => exact (hof h).map f
  | mapExpected f of hof => exact (hof h).mapExpected f

theorem Expr.notesOnly_of_guarded {allowed : Record → Prop}
    (hsuffix : ∀ name, (named name).LeavesSuffix)
    (hnotes : ∀ name, (named name).NotesOnly allowed) (e : Expr) (h : e.guarded = true) :
    (e.parser named).NotesOnly allowed := by
  induction e with
  | literal _ | integer | whitespace | letters | digits | charsWhile _ _ | anyChar
  | endOfInput => exact (notesOnly_ofOutcome _).map _
  | succeed v => exact notesOnly_ofOutcome _
  | fail expected => exact notesOnly_ofOutcome _
  | ref name => exact hnotes name
  | spaces => exact notesOnly_spaces.map _
  | assignment => exact notesOnly_assignment.map _
  | intArray => exact notesOnly_intArray.map _
  | keyValue => exact notesOnly_keyValue.map _
  | sequence first second hfirst hsecond =>
      rw [guarded, Bool.and_eq_true] at h
      exact ((hfirst h.1).sequence (hsecond h.2)).map _
  | oneOf first second hfirst hsecond =>
      rw [guarded, Bool.and_eq_true] at h
      exact (hfirst h.1).oneOf (hsecond h.2)
  | skipLeft first second hfirst hsecond =>
      rw [guarded, Bool.and_eq_true] at h
      exact (hfirst h.1).skipLeft (hsecond h.2)
  | skipRight first second hfirst hsecond =>
      rw [guarded, Bool.and_eq_true] at h
      exact (hfirst h.1).skipRight (hsecond h.2)
  | between opening content closing hopening hcontent hclosing =>
      rw [guarded, Bool.and_eq_true, Bool.and_eq_true] at h
      exact (hopening h.1.1).between (hcontent h.1.2) (hclosing h.2)
  | many item hitem =>
      rw [guarded, Bool.and_eq_true, Bool.not_eq_true'] at h
      exact ((hitem h.2).many (item.consumes_of_not_nullable hsuffix h.1)).map _
  | separatedBy item separator hitem hseparator =>
      rw [guarded, Bool.and_eq_true, Bool.and_eq_true, Bool.or_eq_true, Bool.not_eq_true',
        Bool.not_eq_true'] at h
      have hconsumes := h.1.1.imp (item.consumes_of_not_nullable hsuffix)
        (separator.consumes_of_not_nullable hsuffix)
      exact ((hitem h.1.2).separatedBy (hseparator h.2) (item.leavesSuffix_parser hsuffix)
        (separator.leavesSuffix_parser hsuffix) hconsumes).map _
  | map f of hof => exact (hof h).map f
  | mapExpected f of hof => exact (hof h).mapExpected f

/-- The two questions are answered rightly, provided that the parsers behind the names of an
expression keep to the suffix law and do not make the record themselves. An expression that is not
nullable leaves a strictly shorter text whenever it succeeds, and one whose repetitions are guarded
never makes the record of a match of nothing, on any text. The parsers of the language of
assignments do not make it either, and neither does reading an assignment. -/
theorem Expr.guarded_repetitions_untraced (hsuffix : ∀ name, (named name).LeavesSuffix)
    (hquiet : ∀ name s, Untraced ((named name).apply s).records) (e : Expr) :
    (e.nullable = false → ∀ s v r,
      ((e.parser named).apply s).value = .success v r → r.size < s.size) ∧
    (e.guarded = true → ∀ s, Untraced ((e.parser named).apply s).records) ∧
    ∀ s, Untraced (Parser.spaces.apply s).records ∧ Untraced (Parser.assignment.apply s).records ∧
      Untraced (Parser.intArray.apply s).records ∧ Untraced (Parser.keyValue.apply s).records ∧
      Untraced (Assignment.parse s).records := by
  refine ⟨fun h s v r hr => e.consumes_of_not_nullable hsuffix h hr,
    fun h => e.notesOnly_of_guarded hsuffix hquiet h, fun s => ?_⟩
  have hrejected : ∀ e, (Assignment.parse s).value = .error e →
      (Record.rejected s.size e).level ≠ .trace := by
    intro e _ h
    cases h
  exact ⟨notesOnly_spaces s, notesOnly_assignment s, notesOnly_intArray s, notesOnly_keyValue s,
    notesOnly_assignment.parseComplete hrejected⟩

/-- Items that may be empty, between separators that may not: two of the four items are, and only
the separators keep the list going. -/
theorem Expr.guarded_repetitions_untraced_of_blanks :
    (∀ _ : String, (Parser.spaces.map Value.text).LeavesSuffix) ∧
      (∀ (_ : String) s, Untraced ((Parser.spaces.map Value.text).apply s).records) ∧
      (Expr.skipLeft (.literal "[")
        (.separatedBy (.ref "gap") (.oneOf (.literal ",") (.literal ";")))).nullable = false ∧
      (Expr.skipLeft (.literal "[")
        (.separatedBy (.ref "gap") (.oneOf (.literal ",") (.literal ";")))).guarded = true ∧
      (((Expr.skipLeft (.literal "[") (.separatedBy (.ref "gap")
        (.oneOf (.literal ",") (.literal ";")))).parser fun _ => Parser.spaces.map .text).apply
          (Text.ofString "[ ;,  ;]")).value =
        .success (.list [.text " ", .text "", .text "  ", .text ""]) (Text.ofString "]") ∧
      (Text.ofString "]").size < (Text.ofString "[ ;,  ;]").size ∧
      Untraced (((Expr.skipLeft (.literal "[") (.separatedBy (.ref "gap")
        (.oneOf (.literal ",") (.literal ";")))).parser fun _ => Parser.spaces.map .text).apply
          (Text.ofString "[ ;,  ;]")).records := by
  have hsuffix : ∀ _ : String, (Parser.spaces.map Value.text).LeavesSuffix :=
    fun _ => leavesSuffix_spaces.map _
  have hquiet : ∀ (_ : String) s, Untraced ((Parser.spaces.map Value.text).apply s).records :=
    fun _ => notesOnly_spaces.map _
  have htakes : (((Expr.skipLeft (.literal "[") (.separatedBy (.ref "gap")
      (.oneOf (.literal ",") (.literal ";")))).parser fun _ => Parser.spaces.map .text).apply
        (Text.ofString "[ ;,  ;]")).value =
      .success (.list [.text " ", .text "", .text "  ", .text ""]) (Text.ofString "]") := by
    decide +kernel
  obtain ⟨hshorter, huntraced, -⟩ := Expr.guarded_repetitions_untraced hsuffix hquiet
    (.skipLeft (.literal "[") (.separatedBy (.ref "gap") (.oneOf (.literal ",") (.literal ";"))))
  exact ⟨hsuffix, hquiet, rfl, rfl, htakes, hshorter rfl _ _ _ htakes, huntraced rfl _⟩

end TextParsers
