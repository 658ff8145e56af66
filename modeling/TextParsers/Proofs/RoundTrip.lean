import Mathlib.Data.List.Basic
import TextParsers.Proofs.Sentences

/-!
# Reading back what was written

An assignment may have any name at all and any values, and it is written
without looking at them. Reading it back is another matter: names are letters,
and numbers have no sign. So this is not a round trip for every assignment,
and the module says for which it is one.

The values are the easy half. A list of numbers that are not negative is
written in the form that is read, and a negative one puts a minus sign where
only digits, commas and blanks may stand.

A name could do worse: it may hold an equals sign or a bracket, or a whole
assignment. But no part of a sentence other than its one equals sign is such a
sign, so the sign that is written after the name is the one that is read, and
the same goes for the opening bracket. Whatever the name is, the values are
those that were written, and the name is at most stripped of blanks.
-/

namespace TextParsers

open Text

/-! ## Numbers -/

section

variable {v : Int64}

theorem numeral_ofInt64 (h : 0 ≤ v) : Parser.Numeral (Decimal.ofInt64 v).toList v := by
  rw [Int64.le_iff_toInt_le, Int64.toInt_zero] at h
  unfold Decimal.ofInt64
  cases hv : v.toInt with
  | ofNat k =>
      simp only [Decimal.ofNat, String.toList_ofList]
      refine ⟨Nat.toDigits_ne_nil, fun c hc => Decimal.isDigit_of_mem_digits hc, ?_⟩
      rw [Decimal.value_digits, hv]
      rfl
  | negSucc k =>
      rw [hv] at h
      omega

theorem nonneg_of_notMem (h : '-' ∉ (Decimal.ofInt64 v).toList) : 0 ≤ v := by
  rw [Int64.le_iff_toInt_le, Int64.toInt_zero]
  unfold Decimal.ofInt64 at h
  cases hv : v.toInt with
  | ofNat k => exact Int.natCast_nonneg k
  | negSucc k =>
      rw [hv] at h
      exact absurd (by simp) h

end

/-! ## Lists of numbers -/

section

variable {cs : List Char} {vs ws : List Int64}

/-- The values after the first as they are written. -/
def writtenTail (vs : List Int64) : List Char :=
  vs.flatMap fun v => ',' :: ' ' :: (Decimal.ofInt64 v).toList

/-- The values as they are written between the brackets. -/
def written (vs : List Int64) : List Char :=
  (", ".intercalate (vs.map Decimal.ofInt64)).toList

/-- The items after the first as they are written, each with the separator before it. -/
def joinedTail {α : Type} (separator : String) (encode : α → String) (as : List α) : List Char :=
  as.flatMap fun a => separator.toList ++ (encode a).toList

theorem joinedTail_cons {α : Type} (separator : String) (encode : α → String) (a : α)
    (as : List α) :
    joinedTail separator encode (a :: as) =
      separator.toList ++ ((encode a).toList ++ joinedTail separator encode as) := by
  rw [joinedTail, List.flatMap_cons, List.append_assoc]
  rfl

/-- Items with a separator between each two are the first of them and then the others, each with the
separator before it. -/
theorem toList_intercalate_cons {α : Type} (separator : String) (encode : α → String) (a : α)
    (as : List α) :
    (separator.intercalate ((a :: as).map encode)).toList =
      (encode a).toList ++ joinedTail separator encode as := by
  induction as generalizing a with
  | nil => simp [joinedTail]
  | cons b as ih =>
      have hrest : (separator.intercalate ((a :: b :: as).map encode)).toList =
          (encode a).toList ++
            (separator.toList ++ (separator.intercalate ((b :: as).map encode)).toList) := by
        simp only [List.map_cons, String.intercalate_cons_cons, String.toList_append,
          List.append_assoc]
      rw [hrest, ih, joinedTail_cons]

theorem written_cons (v : Int64) (vs : List Int64) :
    written (v :: vs) = (Decimal.ofInt64 v).toList ++ writtenTail vs :=
  toList_intercalate_cons ", " Decimal.ofInt64 v vs

theorem listTail_writtenTail (h : ∀ v ∈ vs, 0 ≤ v) :
    ListTail (IsRun isBlank) (writtenTail vs) vs := by
  induction vs with
  | nil => exact .nil
  | cons v vs ih =>
      have hnum := numeral_ofInt64 (h v (by simp))
      exact .cons isRun_isBlank_space hnum (ih fun w hw => h w (by simp [hw]))

theorem listBody_written (h : ∀ v ∈ vs, 0 ≤ v) : ListBody (IsRun isBlank) (written vs) vs := by
  cases vs with
  | nil => exact .empty
  | cons v vs =>
      rw [written_cons]
      have hnum := numeral_ofInt64 (h v (by simp))
      exact .items hnum (listTail_writtenTail fun w hw => h w (by simp [hw]))

theorem mem_written {v : Int64} {c : Char} (hv : v ∈ vs) (hc : c ∈ (Decimal.ofInt64 v).toList) :
    c ∈ written vs := by
  cases vs with
  | nil => cases hv
  | cons w vs =>
      rw [written_cons, List.mem_append]
      rcases List.mem_cons.1 hv with rfl | hv
      · exact Or.inl hc
      · refine Or.inr (List.mem_flatMap.2 ⟨v, hv, ?_⟩)
        simp [hc]

/-- A text is read as one list of values only. -/
theorem ListBody.unique (hv : ListBody (IsRun isBlank) cs vs)
    (hw : ListBody (IsRun isBlank) cs ws) : vs = ws := by
  have htakes : ∀ {us : List Int64}, ListBody (IsRun isBlank) cs us →
      (Parser.array Parser.spaces).Takes (ofChars ('[' :: (cs ++ [']']))) us (ofChars []) :=
    fun h => Parser.takes_array_spaces.2 ⟨cs, h, rfl⟩
  exact ((htakes hv).unique (htakes hw)).1

end

/-! ## Signs

The characters that are no digit, no comma, no blank and no letter stand in a
sentence only where the grammar has them. -/

section

variable {c : Char} {cs : List Char} {vs : List Int64}

theorem ListTail.notMem (h : ListTail (IsRun isBlank) cs vs) (hdigit : c.isDigit = false)
    (hblank : isBlank c = false) (hcomma : c ≠ ',') : c ∉ cs := by
  induction h with
  | nil => exact List.not_mem_nil
  | cons hu hnum _ ih =>
      have := hu.notMem hblank
      have := hnum.digits.notMem hdigit
      simp [*]

theorem ListBody.notMem (h : ListBody (IsRun isBlank) cs vs) (hdigit : c.isDigit = false)
    (hblank : isBlank c = false) (hcomma : c ≠ ',') : c ∉ cs := by
  cases h with
  | empty => exact List.not_mem_nil
  | items hnum htail =>
      have := hnum.digits.notMem hdigit
      have := htail.notMem hdigit hblank hcomma
      simp [*]

/-- What is written is read as values only if it is read as those that were written, and none of
them is negative. -/
theorem listBody_written_iff {ws : List Int64} :
    ListBody (IsRun isBlank) (written vs) ws ↔ ws = vs ∧ ∀ v ∈ vs, 0 ≤ v := by
  refine ⟨fun h => ?_, fun h => ?_⟩
  · have hminus : '-' ∉ written vs := h.notMem (by decide) (by decide) (by decide)
    have hnonneg : ∀ v ∈ vs, 0 ≤ v := fun v hv =>
      nonneg_of_notMem fun hmem => hminus (mem_written hv hmem)
    exact ⟨h.unique (listBody_written hnonneg), hnonneg⟩
  · obtain ⟨rfl, hnonneg⟩ := h
    exact listBody_written hnonneg

end

/-! ## Assignments -/

/-- What is read as a whole is a sentence. -/
theorem parse_eq_ok_iff {s : Text} {a : Assignment} :
    (Assignment.parse s).value = .ok a ↔ Sentence s.chars a := by
  rw [Assignment.parse, Parser.parseComplete_eq_ok_iff]
  refine ⟨fun h => ?_, fun h => ?_⟩
  · obtain ⟨r, htakes, hr⟩ := h
    obtain ⟨cs, hsentence, happ⟩ := Parser.takes_assignment.1 htakes
    rw [hr, List.append_nil] at happ
    rw [← happ]
    exact hsentence
  · have htakes : Parser.assignment.Takes s a (ofChars []) :=
      Parser.takes_assignment.2 ⟨s.chars, h, List.append_nil _⟩
    exact ⟨_, htakes, rfl⟩

/-- The name is `bare`, a run of letters, with blanks before and after it. -/
def IsPadded (name bare : List Char) : Prop :=
  bare ≠ [] ∧ IsRun isLetter bare ∧
    ∃ u w : List Char, IsRun isBlank u ∧ IsRun isBlank w ∧ name = u ++ bare ++ w

/-- Letters have no blanks to take off. -/
theorem isPadded_self {name : List Char} :
    IsPadded name name ↔ name ≠ [] ∧ IsRun isLetter name := by
  refine ⟨fun h => ⟨h.1, h.2.1⟩, fun h => ⟨h.1, h.2, [], [], isRun_nil, isRun_nil, ?_⟩⟩
  rw [List.nil_append, List.append_nil]

theorem toList_render (a : Assignment) :
    a.render.toList =
      "let".toList ++ ' ' :: (a.name.toList ++ [' ']) ++
        '=' :: ([' '] ++ '[' :: (written a.values ++ [']'])) := by
  simp [Assignment.render, written]

/-- Of the blanks around a name one is written on each side, and the others are of the name. -/
theorem isPadded_of_append {name bare w₀ w₁ : List Char} (hne₀ : w₀ ≠ [])
    (hw₀ : IsRun isBlank w₀) (hne : bare ≠ []) (hrun : IsRun isLetter bare)
    (hw₁ : IsRun isBlank w₁) (h : w₀ ++ bare ++ w₁ = ' ' :: (name ++ [' '])) :
    IsPadded name bare := by
  cases w₀ with
  | nil => exact absurd rfl hne₀
  | cons c u =>
      simp only [List.cons_append, List.cons.injEq] at h
      obtain ⟨-, h⟩ := h
      rcases List.eq_nil_or_concat w₁ with rfl | ⟨w, d, rfl⟩
      · -- The last character is a letter and the blank that was written after the name.
        rcases List.eq_nil_or_concat bare with rfl | ⟨init, d, rfl⟩
        · exact absurd rfl hne
        · rw [List.append_nil, List.concat_eq_append, ← List.append_assoc] at h
          obtain ⟨-, hd⟩ := List.append_inj' h rfl
          injection hd with hd
          subst hd
          exact absurd (hrun ' ' (by simp)) (by decide +kernel)
      · rw [List.concat_eq_append, ← List.append_assoc] at h
        obtain ⟨hname, -⟩ := List.append_inj' h rfl
        rw [List.concat_eq_append] at hw₁
        exact ⟨hne, hrun, u, w, (isRun_cons.1 hw₀).2, (isRun_append.1 hw₁).1, hname.symm⟩

theorem sentence_render_iff {a b : Assignment} :
    Sentence a.render.toList b ↔
      b.values = a.values ∧ (∀ v ∈ a.values, 0 ≤ v) ∧ IsPadded a.name.toList b.name.toList := by
  rw [toList_render, sentence_iff]
  refine ⟨fun h => ?_, fun h => ?_⟩
  · obtain ⟨w₀, w₁, w₂, body, hne₀, hw₀, hne, hrun, hw₁, hw₂, hbody, h⟩ := h
    -- The name that was written may hold any character. So the text is cut where the sentence has
    -- the sign, and both sides of the cut are free of it there.
    have hhead : '=' ∉ "let".toList ++ (w₀ ++ b.name.toList ++ w₁) := by
      have := hw₀.notMem (by decide : isBlank '=' = false)
      have := hrun.notMem (by decide +kernel : isLetter '=' = false)
      have := hw₁.notMem (by decide : isBlank '=' = false)
      simp [*]
    have htail : '=' ∉ w₂ ++ '[' :: (body ++ [']']) := by
      have := hw₂.notMem (by decide : isBlank '=' = false)
      have := hbody.notMem (by decide : '='.isDigit = false) (by decide) (by decide)
      simp [*]
    have hgap : '[' ∉ w₂ := hw₂.notMem (by decide)
    have hlist : '[' ∉ body ++ [']'] := by
      have := hbody.notMem (by decide : '['.isDigit = false) (by decide) (by decide)
      simp [*]
    have hequals : "let".toList ++ (w₀ ++ b.name.toList ++ w₁) ++
          '=' :: (w₂ ++ '[' :: (body ++ [']'])) =
        "let".toList ++ ' ' :: (a.name.toList ++ [' ']) ++
          '=' :: ([' '] ++ '[' :: (written a.values ++ [']'])) := by
      rw [h]
      simp
    obtain ⟨hname, -, hvalues⟩ := (List.append_cons_inj_of_notMem hhead htail).1 hequals
    obtain ⟨-, -, hbrackets⟩ := (List.append_cons_inj_of_notMem hgap hlist).1 hvalues
    obtain rfl : body = written a.values := List.append_cancel_right hbrackets
    obtain ⟨hsame, hnonneg⟩ := listBody_written_iff.1 hbody
    exact ⟨hsame, hnonneg,
      isPadded_of_append hne₀ hw₀ hne hrun hw₁ (List.append_cancel_left hname)⟩
  · obtain ⟨hsame, hnonneg, hne, hrun, u, w, hu, hw, hname⟩ := h
    have hbody := listBody_written_iff.2 ⟨hsame, hnonneg⟩
    refine ⟨' ' :: u, w ++ [' '], [' '], written a.values, by simp,
      isRun_append.2 ⟨isRun_isBlank_space, hu⟩, hne, hrun,
      isRun_append.2 ⟨hw, isRun_isBlank_space⟩, isRun_isBlank_space, hbody, ?_⟩
    rw [hname]
    simp

/-- Reading back what was written succeeds just when no value is negative and the name is a run of
letters, blanks around it not counted. What is read then is that run with the same values, so the
assignment itself comes back just when its name has no blanks around it. -/
theorem parse_render_eq_ok_iff (a : Assignment) :
    (∀ b, (Assignment.parse (Text.ofString a.render)).value = .ok b ↔
      b.values = a.values ∧ (∀ v ∈ a.values, 0 ≤ v) ∧ IsPadded a.name.toList b.name.toList) ∧
    ((∃ b, (Assignment.parse (Text.ofString a.render)).value = .ok b) ↔
      (∀ v ∈ a.values, 0 ≤ v) ∧ ∃ bare, IsPadded a.name.toList bare) ∧
    ((Assignment.parse (Text.ofString a.render)).value = .ok a ↔
      (a.name.toList ≠ [] ∧ IsRun isLetter a.name.toList) ∧ ∀ v ∈ a.values, 0 ≤ v) := by
  have hread : ∀ b, (Assignment.parse (Text.ofString a.render)).value = .ok b ↔
      b.values = a.values ∧ (∀ v ∈ a.values, 0 ≤ v) ∧ IsPadded a.name.toList b.name.toList :=
    fun b => parse_eq_ok_iff.trans sentence_render_iff
  refine ⟨hread, ⟨fun h => ?_, fun h => ?_⟩, ⟨fun h => ?_, fun h => ?_⟩⟩
  · obtain ⟨b, hb⟩ := h
    obtain ⟨-, hnonneg, hname⟩ := (hread b).1 hb
    exact ⟨hnonneg, _, hname⟩
  · obtain ⟨hnonneg, bare, hname⟩ := h
    refine ⟨⟨String.ofList bare, a.values⟩, (hread _).2 ⟨rfl, hnonneg, ?_⟩⟩
    rw [String.toList_ofList]
    exact hname
  · obtain ⟨-, hnonneg, hname⟩ := (hread a).1 h
    exact ⟨isPadded_self.1 hname, hnonneg⟩
  · obtain ⟨hname, hnonneg⟩ := h
    exact (hread a).2 ⟨rfl, hnonneg, isPadded_self.2 hname⟩

end TextParsers
