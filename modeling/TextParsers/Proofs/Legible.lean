import Mathlib.Tactic.SplitIfs
import TextParsers.CommandLine
import TextParsers.Proofs.Provenance
import TextParsers.Proofs.Quoting
import TextParsers.Proofs.RoundTrip
import TextParsers.Proofs.ZeroWidth

/-!
# Text that stays on its line

An input may hold any character, line breaks and control characters among
them, and what is written about it must still be one line. That it is has
three reasons. Quoting leaves no control character as it is, so an input and
an excerpt of it may be shown wherever quoted text may. A name is a run of
letters, and no letter is a control character. And the expectations of the
parser of assignments are those of its leaves, of which there are few.

A separator of lines or paragraphs counts as a control character here, so a
legible string is one line for every reader of lines.
-/

namespace TextParsers

open Text

namespace Text

/-- The code points of control characters and of the separators of lines and paragraphs. -/
def controlRanges : List (Nat × Nat) := [(0x0, 0x1F), (0x7F, 0x9F), (0x2028, 0x2029)]

/-- Whether a character can stand in the middle of a line. -/
def isLegible (c : Char) : Bool := !inRanges controlRanges c

/-- No character of the string ends a line or controls how it is shown. -/
def Legible (s : String) : Prop := IsRun isLegible s.toList

section

variable {c : Char} {cs : List Char} {s t : String}

@[simp] theorem legible_ofList : Legible (String.ofList cs) ↔ IsRun isLegible cs := by
  rw [Legible, String.toList_ofList]

@[simp] theorem legible_append : Legible (s ++ t) ↔ Legible s ∧ Legible t := by
  rw [Legible, String.toList_append, isRun_append]
  rfl

theorem Legible.intercalate {l : List String} (hs : Legible s) (hl : ∀ t ∈ l, Legible t) :
    Legible (s.intercalate l) := by
  induction l with
  | nil =>
      rw [String.intercalate_nil]
      exact isRun_nil
  | cons t l ih =>
      rw [List.forall_mem_cons] at hl
      cases l with
      | nil =>
          rw [String.intercalate_singleton]
          exact hl.1
      | cons u l =>
          rw [String.intercalate_cons_cons, legible_append, legible_append]
          exact ⟨⟨hl.1, hs⟩, ih hl.2⟩

theorem Legible.newline_notMem (h : Legible s) : '\n' ∉ s.toList :=
  IsRun.notMem h (by decide)

/-! ## Letters and digits -/

theorem isLegible_of_apart {rs : List (Nat × Nat)}
    (apart : ∀ r ∈ rs, ∀ q ∈ controlRanges, r.2 < q.1 ∨ q.2 < r.1) (hc : inRanges rs c = true) :
    isLegible c = true := by
  rw [isLegible, inRanges_eq_false_of_apart apart hc]
  rfl

theorem isRun_isLegible_of_isLetter (h : IsRun isLetter cs) : IsRun isLegible cs :=
  fun c hc => isLegible_of_apart (by decide +kernel) (h c hc)

theorem isLegible_of_isDigit (h : c.isDigit = true) : isLegible c = true :=
  isLegible_of_apart (by decide) (inRanges_of_isDigit h)

theorem isLegible_of_mem_hex {n : Nat} (h : c ∈ Nat.toDigits 16 n) : isLegible c = true := by
  have hdigit : ∀ d < 16, isLegible (Nat.digitChar d) = true := by decide
  obtain ⟨d, hd, rfl⟩ := exists_digitChar_of_mem_hex h
  exact hdigit d hd

/-! ## Quoted text -/

/-- Tables of which the second has every range of the first within one of its own. -/
theorem inRanges_of_within {rs qs : List (Nat × Nat)}
    (within : ∀ r ∈ rs, ∃ q ∈ qs, q.1 ≤ r.1 ∧ r.2 ≤ q.2) (hc : inRanges rs c = true) :
    inRanges qs c = true := by
  rw [inRanges, List.any_eq_true] at hc ⊢
  obtain ⟨r, hr, hcr⟩ := hc
  obtain ⟨q, hq, hle⟩ := within r hr
  refine ⟨q, hq, ?_⟩
  simp only [Bool.and_eq_true, decide_eq_true_eq] at hcr ⊢
  omega

/-- The four controls that have escapes of their own leave gaps in the table of unprintable
characters, and only there does it not cover the controls. -/
theorem isLegible_of_printable (h : isUnprintable c = false) (h₀ : c ≠ '\x00') (ht : c ≠ '\t')
    (hr : c ≠ '\r') (hn : c ≠ '\n') : isLegible c = true := by
  rw [isLegible, Bool.not_eq_true']
  by_contra hcontrol
  rw [Bool.not_eq_false] at hcontrol
  have hne : c.toNat ≠ 0x0 ∧ c.toNat ≠ 0x9 ∧ c.toNat ≠ 0xD ∧ c.toNat ≠ 0xA :=
    ⟨fun e => h₀ (Char.toNat_inj.1 e), fun e => ht (Char.toNat_inj.1 e),
      fun e => hr (Char.toNat_inj.1 e), fun e => hn (Char.toNat_inj.1 e)⟩
  have hgaps : inRanges [(0x1, 0x8), (0xB, 0xC), (0xE, 0x1F), (0x7F, 0x9F), (0x2028, 0x2029)] c =
      true := by
    simp only [inRanges, controlRanges, List.any_cons, List.any_nil, Bool.or_eq_true,
      Bool.and_eq_true, decide_eq_true_eq, Bool.false_eq_true, or_false] at hcontrol ⊢
    omega
  have hunprintable : isUnprintable c = true := inRanges_of_within (by decide +kernel) hgaps
  rw [h] at hunprintable
  cases hunprintable

theorem isRun_escapeChar (c : Char) : IsRun isLegible (escapeChar c) := by
  unfold escapeChar
  split_ifs with h₀ ht hr hn _ _ h
  -- The short escapes are closed terms.
  any_goals decide
  · rw [isRun_append, isRun_append]
    exact ⟨⟨by decide, fun d hd => isLegible_of_mem_hex hd⟩, by decide⟩
  · rw [isRun_cons]
    exact ⟨isLegible_of_printable (Bool.eq_false_iff.2 h) h₀ ht hr hn, isRun_nil⟩

theorem isRun_quoteChars (cs : List Char) : IsRun isLegible (quoteChars cs) := by
  rw [quoteChars, isRun_append, isRun_cons]
  refine ⟨⟨by decide, fun c hc => ?_⟩, by decide⟩
  obtain ⟨d, -, hd⟩ := List.mem_flatMap.1 hc
  exact isRun_escapeChar d c hd

theorem legible_quote (s : String) : Legible (quote s) :=
  legible_ofList.2 (isRun_quoteChars s.toList)

end

end Text

theorem legible_excerpt (s : Text) : Legible (excerpt s) := by
  unfold excerpt
  split
  · exact legible_ofList.2 (by decide)
  · have hshown := isRun_quoteChars (s.chars.take excerptLength)
    simp only []
    split
    · exact legible_ofList.2 hshown
    · exact legible_append.2 ⟨legible_ofList.2 hshown, legible_ofList.2 (by decide)⟩

theorem Decimal.legible_ofNat (n : Nat) : Legible (Decimal.ofNat n) :=
  legible_ofList.2 fun _ hc => isLegible_of_isDigit (Decimal.isDigit_of_mem_digits hc)

theorem Decimal.legible_ofInt64 (v : Int64) : Legible (Decimal.ofInt64 v) := by
  unfold Decimal.ofInt64
  split
  · exact legible_ofNat _
  · exact legible_append.2 ⟨legible_ofList.2 (by decide), legible_ofNat _⟩

/-! ## Assignments and errors -/

section

variable {s r : Text} {a : Assignment} {e : ParseError}

theorem legible_name_of_parse (h : (Assignment.parse s).value = .ok a) : Legible a.name := by
  obtain ⟨_, _, _, _, -, -, -, hname, -⟩ := sentence_iff.1 (parse_eq_ok_iff.1 h)
  exact isRun_isLegible_of_isLetter hname

theorem Assignment.legible_render (h : Legible a.name) : Legible a.render := by
  have hvalues : Legible (", ".intercalate (a.values.map Decimal.ofInt64)) := by
    refine Legible.intercalate (legible_ofList.2 (by decide)) fun t ht => ?_
    obtain ⟨v, -, rfl⟩ := List.mem_map.1 ht
    exact Decimal.legible_ofInt64 v
  simp only [Assignment.render, legible_append]
  refine ⟨⟨⟨⟨?_, h⟩, ?_⟩, hvalues⟩, ?_⟩
  all_goals exact legible_ofList.2 (by decide)

/-- Leaves whose expectations are legible. -/
def Expr.LegibleLeaf : Expr → Prop
  | literal t => Legible t
  | integer | whitespace | letters => True
  | _ => False

theorem Expr.LegibleLeaf.expected {l : Expr} (hl : l.LegibleLeaf) {named : String → Parser Value}
    {expected : String} (h : (l.parser named).Fails s expected r) : Legible expected := by
  cases l with
  | literal t =>
      obtain ⟨-, rfl, -⟩ := Parser.fails_literal.1 (Parser.fails_map.1 h)
      simp only [legible_append]
      refine ⟨⟨?_, hl⟩, ?_⟩
      all_goals exact legible_ofList.2 (by decide)
  | integer =>
      have hfails := Parser.fails_map.1 h
      rw [Parser.Fails, Parser.apply_integer] at hfails
      split_ifs at hfails
      · injection hfails with hexpected
        rw [← hexpected]
        exact legible_ofList.2 (by decide)
      · injection hfails with hexpected
        rw [← hexpected]
        exact legible_ofList.2 (by decide)
  | whitespace | letters =>
      obtain ⟨-, rfl, -⟩ := Parser.fails_charsWhile.1 (Parser.fails_map.1 h)
      exact legible_ofList.2 (by decide)
  | _ => exact False.elim hl

theorem legibleLeaf_of_mem_leaves : ∀ l ∈ Expr.leaves .assignment, l.LegibleLeaf := by
  have htokens : Legible "let" ∧ Legible "=" ∧ Legible "[" ∧ Legible "," ∧ Legible "]" := by
    refine ⟨?_, ?_, ?_, ?_, ?_⟩
    all_goals exact legible_ofList.2 (by decide)
  simpa [Expr.leaves, Expr.LegibleLeaf] using htokens

theorem legible_expected_of_fails {expected : String}
    (h : Parser.assignment.Fails s expected r) : Legible expected := by
  have hexplained : Parser.assignment.Explained
      (RejectedBy (fun _ => Parser.fail "") (Expr.leaves .assignment)) :=
    explained_assignment (List.Subset.refl _)
  obtain ⟨js, hjs⟩ := hexplained h
  rw [← hjs.expected]
  refine Legible.intercalate (legible_ofList.2 (by decide)) fun t ht => ?_
  obtain ⟨j, hj, rfl⟩ := List.mem_map.1 ht
  obtain ⟨l, hl, hfails⟩ := hjs.leaves j hj
  exact (legibleLeaf_of_mem_leaves l hl).expected hfails

theorem legible_message_of_parse (h : (Assignment.parse s).value = .error e) :
    Legible e.message := by
  have hparts : Legible e.expected ∧ Legible e.found := by
    cases e with
    | mismatch expected n f =>
        obtain ⟨r, hfails, -, rfl⟩ := Parser.parseComplete_eq_mismatch_iff.1 h
        exact ⟨legible_expected_of_fails hfails, legible_excerpt r⟩
    | trailingInput n f =>
        obtain ⟨a, r, -, -, -, rfl⟩ := Parser.parseComplete_eq_trailingInput_iff.1 h
        have hend : Legible "Expected: end of input" := legible_ofList.2 (by decide)
        exact ⟨hend, legible_excerpt r⟩
  simp only [ParseError.message, legible_append]
  refine ⟨⟨⟨⟨hparts.1, ?_⟩, Decimal.legible_ofNat _⟩, ?_⟩, hparts.2⟩
  all_goals exact legible_ofList.2 (by decide)

end

end TextParsers
