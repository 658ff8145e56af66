import TextParsers.Proofs.Repeats
import TextParsers.Proofs.Viable
import TextParsers.Proofs.ZeroWidth

/-!
# Assignments end where they end

An assignment that was written down is taken off the front of any text, and
what comes after it has no say in this: not another assignment, not a comma,
not more digits. The grammar gives the reason. Its sentences end with the
closing bracket, and a parser that takes every sentence whatever comes after it
(`takes_assignment`) cannot reach past that bracket.

So assignments can be written one after another without anything between them,
and `many` finds each of them again. This needs nothing of assignments but the
one property, which is stated of any parser and any characters
(`Parser.Delimits`): characters that delimit themselves are put one after
another, and the induction is on the list of their values. Each round takes
some characters, so the repetition ends where the parser fails and makes no
record of its own.
-/

namespace TextParsers

open Text

namespace Parser

variable {α : Type} {p : Parser α} {as : List α} {t r : Text} {e : String}

/-- The parser takes the characters for the value `a` and stops behind them, whatever comes
after. -/
def Delimits (p : Parser α) (cs : List Char) (a : α) : Prop :=
  ∀ r : Text, p.Takes (ofChars (cs ++ r.chars)) a r

/-- Values whose characters delimit themselves are found again one after another. -/
theorem repeats_of_delimits {encode : α → List Char} (hconsumes : p.Consumes)
    (hdelimits : ∀ a ∈ as, p.Delimits (encode a) a) (ht : p.Fails t e r) :
    ∃ records, p.Repeats (ofChars (as.flatMap encode ++ t.chars)) as t records := by
  induction as with
  | nil =>
      rw [List.flatMap_nil, List.nil_append, ofChars_chars]
      exact ⟨_, .stops ht⟩
  | cons a as ih =>
      rw [List.forall_mem_cons] at hdelimits
      obtain ⟨records, hrest⟩ := ih hdelimits.2
      have htakes := hdelimits.1 (ofChars (as.flatMap encode ++ t.chars))
      rw [List.flatMap_cons, List.append_assoc]
      exact ⟨_, .goesOn htakes (hconsumes htakes) hrest⟩

end Parser

/-- The assignment is one that can be read: its name is made of letters, and no value is
negative. -/
structure Assignment.IsReadable (a : Assignment) : Prop where
  name_ne_nil : a.name.toList ≠ []
  name : IsRun isLetter a.name.toList
  nonneg : ∀ v ∈ a.values, 0 ≤ v

theorem Assignment.IsReadable.delimits {a : Assignment} (h : a.IsReadable) :
    Parser.assignment.Delimits a.render.toList a := by
  have hsentence : Sentence a.render.toList a :=
    sentence_render_iff.2 ⟨rfl, h.nonneg, isPadded_self.2 ⟨h.name_ne_nil, h.name⟩⟩
  exact fun _ => Parser.takes_assignment.2 ⟨_, hsentence, rfl⟩

/-- Readable assignments, written one after another without anything between them, are found again
one by one, up to a text that no assignment can be taken from, and nothing is noted on the way. Each
of them is taken alone as well, whatever text comes after it. And of two texts that are assignments
neither is a proper beginning of the other. -/
theorem assignments_delimit_themselves :
    (∀ (as : List Assignment) (t : String), (∀ a ∈ as, a.IsReadable) →
      (∃ e r, (Parser.assignment.apply (ofString t)).value = .failure e r) →
      Parser.assignment.many.apply (ofString (String.join (as.map Assignment.render) ++ t)) =
        ⟨.success as (ofString t), []⟩) ∧
    (∀ (a : Assignment) (u : String), a.IsReadable →
      Parser.assignment.apply (ofString (a.render ++ u)) = ⟨.success a (ofString u), []⟩) ∧
    ∀ (s s' : String) (a a' : Assignment), (Assignment.parse (ofString s)).value = .ok a →
      (Assignment.parse (ofString s')).value = .ok a' → s.toList <+: s'.toList → s = s' := by
  refine ⟨fun as t has ht => ?_, fun a u ha => ?_, fun s s' a a' hs hs' hprefix => ?_⟩
  · obtain ⟨e, r, ht⟩ := ht
    obtain ⟨records, hrepeats⟩ := Parser.repeats_of_delimits Parser.consumes_assignment
      (fun a ha => (has a ha).delimits) ht
    -- The records come with the rounds. That there are none is known of the parser as a whole.
    have hmany := hrepeats.apply_many Parser.leavesSuffix_assignment
    rw [ofString_append, String.toList_join, List.flatMap_map]
    exact (Parser.notesOnly_assignment.many Parser.consumes_assignment).apply_of_value
      (congrArg Logged.value hmany)
  · rw [ofString_append]
    exact Parser.notesOnly_assignment.apply_of_value (ha.delimits _)
  · obtain ⟨cs, hcs⟩ := hprefix
    have hlong : Sentence (s.toList ++ cs) a' := by
      rw [hcs]
      exact parse_eq_ok_iff.1 hs'
    have hnil : cs = [] := (parse_eq_ok_iff.1 hs).eq_nil_of_append hlong
    rw [hnil, List.append_nil] at hcs
    exact String.toList_inj.1 hcs

/-- Two assignments and the beginning of a third, with nothing between them, and one of them before
what would have gone on with its list. -/
theorem assignments_delimit_themselves_of_two :
    (∀ a ∈ [Assignment.mk "ä" [7, 0], ⟨"b", []⟩], a.IsReadable) ∧
      (Parser.assignment.apply (ofString "let")).value =
        .failure "Expected: one or more whitespace" (ofString "") ∧
      Parser.assignment.many.apply (ofString
          (String.join ([Assignment.mk "ä" [7, 0], ⟨"b", []⟩].map Assignment.render) ++ "let")) =
        ⟨.success [⟨"ä", [7, 0]⟩, ⟨"b", []⟩] (ofString "let"), []⟩ ∧
      Parser.assignment.apply (ofString ((Assignment.mk "ä" [7, 0]).render ++ ", 1]")) =
        ⟨.success ⟨"ä", [7, 0]⟩ (ofString ", 1]"), []⟩ ∧
      (Assignment.parse (ofString "let b=[]")).value = .ok ⟨"b", []⟩ ∧
      "let b=[]".toList <+: "let b=[]".toList ∧ "let b=[]" = "let b=[]" := by
  have hreadable : ∀ a ∈ [Assignment.mk "ä" [7, 0], ⟨"b", []⟩], a.IsReadable := by
    have hvalues : ∀ v ∈ [(7 : Int64), 0], 0 ≤ v :=
      List.forall_mem_cons.2 ⟨by decide, List.forall_mem_singleton.2 (by decide)⟩
    rw [List.forall_mem_cons, List.forall_mem_singleton]
    exact ⟨⟨by simp, by decide +kernel, hvalues⟩,
      ⟨by simp, by decide +kernel, List.forall_mem_nil _⟩⟩
  have hfails : (Parser.assignment.apply (ofString "let")).value =
      .failure "Expected: one or more whitespace" (ofString "") := by decide +kernel
  have htakes : Parser.assignment.Takes (ofString "let b=[]") ⟨"b", []⟩ (ofString "") := by
    unfold Parser.Takes
    decide +kernel
  have hparse : (Assignment.parse (ofString "let b=[]")).value = .ok ⟨"b", []⟩ :=
    Parser.parseComplete_eq_ok_iff.2 ⟨_, htakes, rfl⟩
  obtain ⟨hmany, hone, hprefix⟩ := assignments_delimit_themselves
  exact ⟨hreadable, hfails, hmany _ _ hreadable ⟨_, _, hfails⟩,
    hone _ _ (hreadable _ (by simp)), hparse, List.prefix_rfl,
    hprefix _ _ _ _ hparse hparse List.prefix_rfl⟩

end TextParsers
