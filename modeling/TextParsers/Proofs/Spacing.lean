import TextParsers.Proofs.SelfDelimiting

/-!
# Blanks between the tokens of an assignment

An assignment is a row of tokens, and its author may put blanks after any of
them. The parser does not skip blanks everywhere. It takes some after `let`,
where there have to be any, and it takes those after the name, the equals sign
and a comma. A bracket or a number has to be followed at once by the next
token, and the closing bracket by the end of the input.

So a row of tokens with blanks is the assignment that it looks like just when
there are blanks after `let` and none after a bracket or a number
(`Token.Admits`), and no text of this kind is ever read as another assignment.
Otherwise the first token that is not followed by what it admits is where the
reading ends. The tokens up to there are the beginning of a sentence, whatever
stands after the last of them, and the blank that comes next begins nothing
that could go on from there.
-/

namespace TextParsers

open Text

/-- What an assignment is written with. -/
inductive Token where
  | keyword
  | name (n : String)
  | equals
  | opening
  | number (v : Int64)
  | comma
  | closing

namespace Token

/-- A token as it is written. -/
def text : Token → String
  | keyword => "let"
  | name n => n
  | equals => "="
  | opening => "["
  | number v => Decimal.ofInt64 v
  | comma => ","
  | closing => "]"

/-- The blanks that may stand after a token. -/
def Admits : Token → List Char → Prop
  | keyword, w => w ≠ []
  | name _, _ => True
  | equals, _ => True
  | comma, _ => True
  | opening, w => w = []
  | number _, w => w = []
  | closing, w => w = []

/-- Numbers, each with a comma before it. -/
def tail : List Int64 → List Token
  | [] => []
  | v :: vs => comma :: number v :: tail vs

/-- Numbers with a comma between each two. -/
def list : List Int64 → List Token
  | [] => []
  | v :: vs => number v :: tail vs

end Token

/-- The tokens of an assignment, first to last. -/
def Assignment.tokens (a : Assignment) : List Token :=
  .keyword :: .name a.name :: .equals :: .opening :: (Token.list a.values ++ [.closing])

/-- Tokens, each followed by the characters that are paired with it. -/
def spaced (ts : List (Token × List Char)) : List Char :=
  ts.flatMap fun p => p.1.text.toList ++ p.2

section

variable {t : Token} {w : List Char} {ts us : List (Token × List Char)} {vs : List Int64}

@[simp] theorem spaced_nil : spaced [] = [] := rfl

@[simp] theorem spaced_cons :
    spaced ((t, w) :: ts) = t.text.toList ++ (w ++ spaced ts) := by
  rw [spaced, List.flatMap_cons, List.append_assoc]
  rfl

@[simp] theorem spaced_append : spaced (ts ++ us) = spaced ts ++ spaced us :=
  List.flatMap_append

theorem map_fst_eq_cons_iff {l : List Token} :
    ts.map Prod.fst = t :: l ↔ ∃ w us, ts = (t, w) :: us ∧ us.map Prod.fst = l := by
  rw [List.map_eq_cons_iff]
  refine ⟨fun h => ?_, fun h => ?_⟩
  · obtain ⟨⟨_, w⟩, us, hts, rfl, hus⟩ := h
    exact ⟨w, us, hts, hus⟩
  · obtain ⟨w, us, hts, hus⟩ := h
    exact ⟨(t, w), us, hts, rfl, hus⟩

/-- Each token is followed by blanks, and by as many as it admits. -/
def WellSpaced (ts : List (Token × List Char)) : Prop :=
  ∀ p ∈ ts, IsRun isBlank p.2 ∧ p.1.Admits p.2

theorem wellSpaced_cons :
    WellSpaced ((t, w) :: ts) ↔ (IsRun isBlank w ∧ t.Admits w) ∧ WellSpaced ts :=
  List.forall_mem_cons

theorem wellSpaced_append : WellSpaced (ts ++ us) ↔ WellSpaced ts ∧ WellSpaced us :=
  List.forall_mem_append

/-! ## Lists of numbers

A list whose tokens are all followed by what they admit is one of the grammar.
This also says what was read up to a token that is not: with the characters
after that token left out, the row of tokens is such a list, and it is the
list of the numbers so far. -/

theorem listTail_spaced (hvs : ∀ v ∈ vs, 0 ≤ v) (htokens : ts.map Prod.fst = Token.tail vs)
    (hspaced : WellSpaced ts) : ListTail (IsRun isBlank) (spaced ts) vs := by
  induction vs generalizing ts with
  | nil =>
      obtain rfl := List.map_eq_nil_iff.1 htokens
      exact .nil
  | cons v vs ih =>
      obtain ⟨u, _, rfl, hnumber⟩ := map_fst_eq_cons_iff.1 htokens
      obtain ⟨w, us, rfl, hus⟩ := map_fst_eq_cons_iff.1 hnumber
      rw [wellSpaced_cons, wellSpaced_cons] at hspaced
      obtain ⟨⟨hu, -⟩, ⟨-, hw⟩, hrest⟩ := hspaced
      obtain rfl : w = [] := hw
      obtain ⟨hv, hvs⟩ := List.forall_mem_cons.1 hvs
      rw [spaced_cons, spaced_cons]
      have htail := ListTail.cons hu (numeral_ofInt64 hv) (ih hvs hus hrest)
      exact htail

theorem listBody_spaced (hvs : ∀ v ∈ vs, 0 ≤ v) (htokens : ts.map Prod.fst = Token.list vs)
    (hspaced : WellSpaced ts) : ListBody (IsRun isBlank) (spaced ts) vs := by
  cases vs with
  | nil =>
      obtain rfl := List.map_eq_nil_iff.1 htokens
      exact .empty
  | cons v vs =>
      obtain ⟨w, us, rfl, hus⟩ := map_fst_eq_cons_iff.1 htokens
      obtain ⟨⟨-, hw⟩, hrest⟩ := wellSpaced_cons.1 hspaced
      obtain rfl : w = [] := hw
      obtain ⟨hv, hvs⟩ := List.forall_mem_cons.1 hvs
      rw [spaced_cons]
      exact .items (numeral_ofInt64 hv) (listTail_spaced hvs hus hrest)

/-- The tokens of a list up to one of its numbers are those of the list that ends there. -/
theorem tail_cut {l rest : List Token} (h : l ++ t :: rest = Token.tail vs ++ [.closing]) :
    t = .comma ∨ t = .closing ∧ l = Token.tail vs ∨
      ∃ v us, t = .number v ∧ l ++ [t] = Token.tail us ∧ us <+: vs := by
  induction vs generalizing l with
  | nil =>
      obtain ⟨rfl, h⟩ | ⟨rfl, h⟩ := List.append_eq_singleton_iff.1 h
      · injection h with h _
        exact Or.inr (Or.inl ⟨h, rfl⟩)
      · cases h
  | cons v vs ih =>
      match l with
      | [] =>
          injection h with h _
          exact Or.inl h
      | [_] =>
          injection h with hcomma h
          injection h with hnumber _
          subst hcomma hnumber
          exact Or.inr (Or.inr ⟨v, [v], rfl, rfl, by simp⟩)
      | _ :: _ :: l =>
          injection h with hcomma h
          injection h with hnumber h
          subst hcomma hnumber
          rcases ih h with hcomma | ⟨hclosing, rfl⟩ | ⟨w, us, hw, hus, hpre⟩
          · exact Or.inl hcomma
          · exact Or.inr (Or.inl ⟨hclosing, rfl⟩)
          · refine Or.inr (Or.inr ⟨w, v :: us, hw, ?_, by simpa using hpre⟩)
            rw [List.cons_append, List.cons_append, hus]
            rfl

theorem list_cut {l rest : List Token} (h : l ++ t :: rest = Token.list vs ++ [.closing]) :
    t = .comma ∨ t = .closing ∧ l = Token.list vs ∨
      ∃ v us, t = .number v ∧ l ++ [t] = Token.list us ∧ us ≠ [] ∧ us <+: vs := by
  cases vs with
  | nil =>
      have htail : l ++ t :: rest = Token.tail [] ++ [.closing] := h
      rcases tail_cut htail with hcomma | hclosing | ⟨w, us, hw, hus, hpre⟩
      · exact Or.inl hcomma
      · exact Or.inr (Or.inl hclosing)
      · obtain rfl := List.prefix_nil.1 hpre
        simp [Token.tail] at hus
  | cons v vs =>
      match l with
      | [] =>
          injection h with hnumber _
          subst hnumber
          exact Or.inr (Or.inr ⟨v, [v], rfl, rfl, by simp, by simp⟩)
      | _ :: l =>
          injection h with hnumber h
          subst hnumber
          rcases tail_cut h with hcomma | ⟨hclosing, rfl⟩ | ⟨w, us, hw, hus, hpre⟩
          · exact Or.inl hcomma
          · exact Or.inr (Or.inl ⟨hclosing, rfl⟩)
          · refine Or.inr (Or.inr ⟨w, v :: us, hw, ?_, by simp, by simpa using hpre⟩)
            rw [List.cons_append, hus]
            rfl

end

/-! ## Where the reading ends

With the characters after its last token left out, a row that was well spaced
before that token still is. -/

section

variable {a : Assignment} {t : Token} {w₀ w₁ w₂ w u rest : List Char}
  {ts us : List (Token × List Char)}

theorem WellSpaced.concat (hus : WellSpaced us) (ht : t.Admits []) : WellSpaced (us ++ [(t, [])]) :=
  wellSpaced_append.2 ⟨hus, List.forall_mem_singleton.2 ⟨isRun_nil, ht⟩⟩

theorem spaced_concat : spaced (us ++ [(t, [])]) = spaced us ++ t.text.toList := by
  rw [spaced_append, spaced_cons, spaced_nil, List.append_nil, List.append_nil]

/-- A text is rejected where the reading of it stops. -/
theorem exists_error_of_stalls (h : Stalls u rest) :
    ∃ e, (Assignment.parse (ofChars (u ++ rest))).value = .error e ∧ e.offset = utf8Length u := by
  obtain ⟨d, hfails⟩ := Parser.failsAt_assignment.2
    (⟨u, h, rfl⟩ : ∃ u', Stalls u' (ofChars rest).chars ∧
      u' ++ (ofChars rest).chars = (ofChars (u ++ rest)).chars)
  exact ⟨_, Parser.parseComplete_of_fails hfails, rfl⟩

/-- A text that goes on after an assignment is rejected there. -/
theorem exists_error_of_sentence (h : Sentence u a) (hne : rest ≠ []) :
    ∃ e, (Assignment.parse (ofChars (u ++ rest))).value = .error e ∧ e.offset = utf8Length u := by
  have htakes : Parser.assignment.Takes (ofChars (u ++ rest)) a (ofChars rest) :=
    Parser.takes_assignment.2 ⟨u, h, rfl⟩
  refine ⟨_, Parser.parseComplete_eq_trailingInput_iff.2 ⟨a, _, htakes, hne, rfl, rfl⟩, ?_⟩
  exact offsetOf_eq_utf8Length rfl

/-- Blanks are no sign that could stand in their place. -/
theorem stops_sign_blanks {d : Char} (hw : IsRun isBlank w) (hne : w ≠ [])
    (hd : isBlank d = false) : Stops (· == d) (w ++ rest) := by
  refine stops_append_of_ne_nil hne fun c hc => beq_eq_false_iff_ne.2 ?_
  rintro rfl
  exact hw.notMem hd hc

theorem stops_isDigit_blanks (hw : IsRun isBlank w) (hne : w ≠ []) :
    Stops Char.isDigit (w ++ rest) :=
  stops_append_of_ne_nil hne fun c hc => isDigit_eq_false_of_isBlank (hw c hc)

/-- The tokens before the list. -/
def Assignment.heading (a : Assignment) (w₀ w₁ w₂ : List Char) : List (Token × List Char) :=
  [(.keyword, w₀), (.name a.name, w₁), (.equals, w₂)]

theorem sentence_spaced (ha : a.IsReadable) (htokens : ts.map Prod.fst = a.tokens)
    (hspaced : WellSpaced ts) : Sentence (spaced ts) a := by
  obtain ⟨w₀, _, rfl, hname⟩ := map_fst_eq_cons_iff.1 htokens
  obtain ⟨w₁, _, rfl, hequals⟩ := map_fst_eq_cons_iff.1 hname
  obtain ⟨w₂, _, rfl, hopening⟩ := map_fst_eq_cons_iff.1 hequals
  obtain ⟨u, _, rfl, hlist⟩ := map_fst_eq_cons_iff.1 hopening
  obtain ⟨us, _, rfl, hus, hclosing⟩ := List.map_eq_append_iff.1 hlist
  obtain ⟨w, _, rfl, hnil⟩ := map_fst_eq_cons_iff.1 hclosing
  obtain rfl := List.map_eq_nil_iff.1 hnil
  simp only [wellSpaced_cons, wellSpaced_append] at hspaced
  obtain ⟨⟨hw₀, hne₀⟩, ⟨hw₁, -⟩, ⟨hw₂, -⟩, ⟨-, hu⟩, hitems, ⟨-, hw⟩, -⟩ := hspaced
  obtain rfl : u = [] := hu
  obtain rfl : w = [] := hw
  have hsentence := Sentence.intro (a := a) hne₀ hw₀ ha.name_ne_nil ha.name hw₁ hw₂
    (listBody_spaced ha.nonneg hus hitems)
  simpa [Token.text] using hsentence

theorem stalls_of_listStalls (ha : a.IsReadable) (hheading : WellSpaced (a.heading w₀ w₁ w₂))
    (h : ListStalls u rest) : Stalls (spaced (a.heading w₀ w₁ w₂) ++ '[' :: u) rest := by
  simp only [Assignment.heading, wellSpaced_cons] at hheading
  obtain ⟨⟨hw₀, hne₀⟩, ⟨hw₁, -⟩, ⟨hw₂, -⟩, -⟩ := hheading
  have hparts : IsHeading w₀ a.name.toList w₁ := ⟨hne₀, hw₀, ha.name_ne_nil, ha.name, hw₁⟩
  have hstalls := Stalls.list hparts hw₂ h
  simpa [Assignment.heading, Token.text] using hstalls

/-- In a list the reading ends behind the number that blanks follow, and behind the list if blanks
follow that. -/
theorem exists_error_in_list {l : List Token} (ha : a.IsReadable)
    (hheading : WellSpaced (a.heading w₀ w₁ w₂)) (hus : WellSpaced us)
    (htokens : us.map Prod.fst ++ t :: l = Token.list a.values ++ [.closing])
    (hw : IsRun isBlank w) (hno : ¬ t.Admits w) :
    ∃ e, (Assignment.parse (ofChars (spaced (a.heading w₀ w₁ w₂) ++
        '[' :: (spaced us ++ t.text.toList) ++ (w ++ rest)))).value = .error e ∧
      e.offset =
        utf8Length (spaced (a.heading w₀ w₁ w₂) ++ '[' :: (spaced us ++ t.text.toList)) := by
  rw [← spaced_concat]
  rcases list_cut htokens with rfl | ⟨rfl, hlist⟩ | ⟨v, vs, rfl, hlist, hne, hpre⟩
  · exact absurd trivial hno
  · have hall : WellSpaced (a.heading w₀ w₁ w₂ ++ (.opening, []) :: (us ++ [(.closing, [])])) :=
      wellSpaced_append.2 ⟨hheading, wellSpaced_cons.2 ⟨⟨isRun_nil, rfl⟩, hus.concat rfl⟩⟩
    have hsentence := sentence_spaced ha
      (by simp [Assignment.heading, Assignment.tokens, hlist]) hall
    rw [spaced_append, spaced_cons] at hsentence
    exact exists_error_of_sentence hsentence (List.append_ne_nil_of_left_ne_nil hno _)
  · have hvs : ∀ v ∈ vs, 0 ≤ v := fun v hv => ha.nonneg v (hpre.subset hv)
    have hbody : ListBody (IsRun isBlank) (spaced (us ++ [(.number v, [])])) vs :=
      listBody_spaced hvs (by rw [List.map_append, ← hlist]; rfl) (hus.concat rfl)
    obtain ⟨v', vs', rfl⟩ := List.exists_cons_of_ne_nil hne
    exact exists_error_of_stalls (stalls_of_listStalls ha hheading
      (.number hbody (stops_isDigit_blanks hw hno)
        (stops_sign_blanks hw hno (by decide)) (stops_sign_blanks hw hno (by decide))))

/-- Behind the heading the reading ends at the first bracket or number that blanks follow. -/
theorem exists_error_behind_heading {l : List Token} (ha : a.IsReadable)
    (hheading : WellSpaced (a.heading w₀ w₁ w₂)) (hus : WellSpaced us)
    (htokens : us.map Prod.fst ++ t :: l = .opening :: (Token.list a.values ++ [.closing]))
    (hw : IsRun isBlank w) (hno : ¬ t.Admits w) :
    ∃ e, (Assignment.parse (ofChars (spaced (a.heading w₀ w₁ w₂ ++ us) ++ t.text.toList ++
        (w ++ rest)))).value = .error e ∧
      e.offset = utf8Length (spaced (a.heading w₀ w₁ w₂ ++ us) ++ t.text.toList) := by
  cases us with
  | nil =>
      injection htokens with ht _
      obtain rfl : t = .opening := ht
      have hlacks : LacksNumber (w ++ rest) := Or.inl (stops_isDigit_blanks hw hno)
      rw [List.append_nil]
      exact exists_error_of_stalls (stalls_of_listStalls ha hheading
        (.opening hlacks (stops_sign_blanks hw hno (by decide))))
  | cons p us =>
      obtain ⟨_, u⟩ := p
      injection htokens with ho htokens
      obtain rfl : _ = Token.opening := ho
      obtain ⟨⟨-, hu⟩, hitems⟩ := wellSpaced_cons.1 hus
      obtain rfl : u = [] := hu
      have hread : spaced (a.heading w₀ w₁ w₂ ++ (.opening, []) :: us) ++ t.text.toList =
          spaced (a.heading w₀ w₁ w₂) ++ '[' :: (spaced us ++ t.text.toList) := by
        rw [spaced_append, spaced_cons, List.append_assoc]
        rfl
      rw [hread]
      exact exists_error_in_list ha hheading hitems htokens hw hno

/-- The reading ends behind the first token that is not followed by what it admits. -/
theorem exists_error_of_not_admits {rest : List (Token × List Char)} (ha : a.IsReadable)
    (htokens : (us ++ (t, w) :: rest).map Prod.fst = a.tokens) (hus : WellSpaced us)
    (hw : IsRun isBlank w) (hno : ¬ t.Admits w) :
    ∃ e, (Assignment.parse (ofChars (spaced (us ++ (t, w) :: rest)))).value = .error e ∧
      e.offset = utf8Length (spaced us ++ t.text.toList) := by
  have hcut : spaced (us ++ (t, w) :: rest) =
      spaced us ++ t.text.toList ++ (w ++ spaced rest) := by
    rw [spaced_append, spaced_cons, List.append_assoc]
  rw [hcut]
  rw [List.map_append, List.map_cons] at htokens
  match us with
  | [] =>
      injection htokens with ht hrest
      obtain rfl : t = .keyword := ht
      obtain rfl : w = [] := not_not.1 hno
      obtain ⟨w₁, _, rfl, -⟩ := map_fst_eq_cons_iff.1 hrest
      refine exists_error_of_stalls (.keyword ?_)
      rw [List.nil_append, spaced_cons]
      exact stops_append_of_ne_nil ha.name_ne_nil fun c hc =>
        isBlank_eq_false_of_isLetter (ha.name c hc)
  | [_] =>
      injection htokens with _ htokens
      injection htokens with ht _
      obtain rfl : t = .name a.name := ht
      exact absurd trivial hno
  | [_, _] =>
      injection htokens with _ htokens
      injection htokens with _ htokens
      injection htokens with ht _
      obtain rfl : t = .equals := ht
      exact absurd trivial hno
  | (_, w₀) :: (_, w₁) :: (_, w₂) :: items =>
      injection htokens with hk htokens
      injection htokens with hn htokens
      injection htokens with he htokens
      obtain rfl : _ = Token.keyword := hk
      obtain rfl : _ = Token.name a.name := hn
      obtain rfl : _ = Token.equals := he
      have hparts : WellSpaced (a.heading w₀ w₁ w₂ ++ items) := hus
      obtain ⟨hheading, hitems⟩ := wellSpaced_append.1 hparts
      exact exists_error_behind_heading ha hheading hitems htokens hw hno

/-- Unless every token is followed by what it admits, there is a first one that is not. -/
theorem exists_first_not_admits (ts : List (Token × List Char))
    (h : ¬ ∀ p ∈ ts, p.1.Admits p.2) :
    ∃ us t w rest, ts = us ++ (t, w) :: rest ∧ (∀ p ∈ us, p.1.Admits p.2) ∧ ¬ t.Admits w := by
  induction ts with
  | nil => exact absurd (List.forall_mem_nil _) h
  | cons p ts ih =>
      by_cases hp : p.1.Admits p.2
      · have hts : ¬ ∀ p ∈ ts, p.1.Admits p.2 := fun hts => h (List.forall_mem_cons.2 ⟨hp, hts⟩)
        obtain ⟨us, t, w, rest, rfl, hus, hno⟩ := ih hts
        exact ⟨p :: us, t, w, rest, rfl, List.forall_mem_cons.2 ⟨hp, hus⟩, hno⟩
      · exact ⟨[], p.1, p.2, ts, rfl, List.forall_mem_nil _, hp⟩

end

/-- A readable assignment with blanks between its tokens is read as that assignment if every token
is followed by what it admits, and as nothing else otherwise: it is rejected then, behind the first
token of which this is not so. -/
theorem spaced_tokens_read_iff {a : Assignment} {ts : List (Token × List Char)}
    (ha : a.IsReadable) (htokens : ts.map Prod.fst = a.tokens)
    (hblanks : ∀ p ∈ ts, IsRun isBlank p.2) :
    (∀ b, (Assignment.parse (ofChars (spaced ts))).value = .ok b ↔
      b = a ∧ ∀ p ∈ ts, p.1.Admits p.2) ∧
    ∀ us t w rest, ts = us ++ (t, w) :: rest → (∀ p ∈ us, p.1.Admits p.2) → ¬ t.Admits w →
      ∃ e, (Assignment.parse (ofChars (spaced ts))).value = .error e ∧
        e.offset = utf8Length (spaced us ++ t.text.toList) := by
  have hread : (∀ p ∈ ts, p.1.Admits p.2) →
      (Assignment.parse (ofChars (spaced ts))).value = .ok a := fun hall =>
    parse_eq_ok_iff.2 (sentence_spaced ha htokens fun p hp => ⟨hblanks p hp, hall p hp⟩)
  have hrejected : ∀ us t w rest, ts = us ++ (t, w) :: rest → (∀ p ∈ us, p.1.Admits p.2) →
      ¬ t.Admits w → ∃ e, (Assignment.parse (ofChars (spaced ts))).value = .error e ∧
        e.offset = utf8Length (spaced us ++ t.text.toList) := by
    rintro us t w rest rfl hus hno
    obtain ⟨hblank, hrest⟩ := List.forall_mem_append.1 hblanks
    exact exists_error_of_not_admits ha htokens (fun p hp => ⟨hblank p hp, hus p hp⟩)
      (List.forall_mem_cons.1 hrest).1 hno
  refine ⟨fun b => ⟨fun h => ?_, fun h => ?_⟩, hrejected⟩
  · by_cases hall : ∀ p ∈ ts, p.1.Admits p.2
    · have heq := h.symm.trans (hread hall)
      injection heq with heq
      exact ⟨heq, hall⟩
    · obtain ⟨us, t, w, rest, hts, hus, hno⟩ := exists_first_not_admits ts hall
      obtain ⟨e, he, -⟩ := hrejected us t w rest hts hus hno
      cases h.symm.trans he
  · obtain ⟨rfl, hall⟩ := h
    exact hread hall

/-- A tab after a comma is read, and a blank after a number is not. -/
theorem spaced_tokens_read_iff_of_two :
    (Assignment.mk "é" [1, 2]).IsReadable ∧
      [(Token.keyword, [' ']), (.name "é", []), (.equals, []), (.opening, []), (.number 1, [' ']),
        (.comma, ['\t']), (.number 2, []), (.closing, [])].map Prod.fst =
          (Assignment.mk "é" [1, 2]).tokens ∧
      (∀ p ∈ [(Token.keyword, [' ']), (.name "é", []), (.equals, []), (.opening, []),
        (.number 1, [' ']), (.comma, ['\t']), (.number 2, []), (.closing, [])],
          IsRun isBlank p.2) ∧
      (∀ b, (Assignment.parse (ofString "let é=[1 ,\t2]")).value ≠ .ok b) ∧
      ∃ e, (Assignment.parse (ofString "let é=[1 ,\t2]")).value = .error e ∧ e.offset = 9 := by
  have hreadable : (Assignment.mk "é" [1, 2]).IsReadable := by
    refine ⟨by simp, by decide +kernel, ?_⟩
    exact List.forall_mem_cons.2 ⟨by decide, List.forall_mem_singleton.2 (by decide)⟩
  have hblanks : ∀ p ∈ [(Token.keyword, [' ']), (.name "é", []), (.equals, []), (.opening, []),
      (.number 1, [' ']), (.comma, ['\t']), (.number 2, []), (.closing, [])],
        IsRun isBlank p.2 := by
    simp only [List.forall_mem_cons, isRun_cons, isRun_nil]
    decide
  obtain ⟨hread, hrejected⟩ := spaced_tokens_read_iff hreadable rfl hblanks
  have hno : ¬ (Token.number 1).Admits [' '] := List.cons_ne_nil _ _
  have hbefore : ∀ p ∈ [(Token.keyword, [' ']), (.name "é", []), (.equals, []), (.opening, [])],
      p.1.Admits p.2 := by
    simp [Token.Admits]
  refine ⟨hreadable, rfl, hblanks, fun b hb => ?_, hrejected _ _ _ _ rfl hbefore hno⟩
  exact hno (((hread b).1 hb).2 (.number 1, [' ']) (by simp))

/-- Blanks are not optional after every token, as a blank after the opening bracket shows. -/
theorem blank_after_opening_not_read :
    ¬ ∀ (a : Assignment) (ts : List (Token × List Char)), a.IsReadable →
      ts.map Prod.fst = a.tokens → (∀ p ∈ ts, IsRun isBlank p.2) →
      (∀ w, (Token.keyword, w) ∈ ts → w ≠ []) →
      (Assignment.parse (ofChars (spaced ts))).value = .ok a := by
  intro h
  have hreadable : (Assignment.mk "x" [1]).IsReadable :=
    ⟨by simp, by decide +kernel, List.forall_mem_singleton.2 (by decide)⟩
  have hread := h ⟨"x", [1]⟩ [(.keyword, [' ']), (.name "x", [' ']), (.equals, [' ']),
    (.opening, [' ']), (.number 1, []), (.closing, [])] hreadable rfl
    (by simp only [List.forall_mem_cons, isRun_cons, isRun_nil]; decide) (by simp)
  have hfails : Parser.assignment.Fails (ofString "let x = [ 1]") "Expected: \"]\" prefix"
      (ofString " 1]") := by
    unfold Parser.Fails
    decide +kernel
  obtain ⟨r, htakes, -⟩ := Parser.parseComplete_eq_ok_iff.1 hread
  exact htakes.not_fails hfails

end TextParsers
