import TextParsers.Text.Basic
import TextParsers.Text.Blank
import TextParsers.Text.Letter

/-!
# Runs of characters

A parser that takes characters of a class takes all of them, up to the first
one outside the class. So a run can be read off a text only if it is known
where it stops: `takeWhile_append_of_stops` says that a run followed by a text
that stops it is what `takeWhile` finds, and `run_append_eq_iff` that there is
no other way to cut a text into a run and a rest that stops it.

In the language of assignments a run always stops because the next token
begins with a character of another class. That the classes do not meet is a
fact about their tables, decided by comparing the ranges pairwise.
-/

namespace TextParsers.Text

/-- All characters satisfy `q`. There may be none. -/
def IsRun (q : Char → Bool) (cs : List Char) : Prop := ∀ c ∈ cs, q c = true

instance (q : Char → Bool) (cs : List Char) : Decidable (IsRun q cs) :=
  List.decidableBAll (fun c => q c = true) cs

/-- The characters end, or go on with one that does not satisfy `q`. -/
def Stops (q : Char → Bool) (cs : List Char) : Prop := ∀ c ∈ cs.head?, q c = false

section

variable {q : Char → Bool} {c : Char} {u v cs rest : List Char}

@[simp] theorem isRun_nil : IsRun q [] := by
  intro c hc
  cases hc

@[simp] theorem isRun_cons : IsRun q (c :: cs) ↔ q c = true ∧ IsRun q cs := by
  simp [IsRun]

@[simp] theorem isRun_append : IsRun q (u ++ v) ↔ IsRun q u ∧ IsRun q v := by
  simp only [IsRun, List.mem_append]
  refine ⟨fun h => ⟨fun c hc => h c (Or.inl hc), fun c hc => h c (Or.inr hc)⟩, ?_⟩
  intro h c hc
  rcases hc with hc | hc
  · exact h.1 c hc
  · exact h.2 c hc

theorem isRun_takeWhile : IsRun q (cs.takeWhile q) := by
  intro c hc
  exact List.all_eq_true.1 List.all_takeWhile c hc

theorem IsRun.notMem (h : IsRun q cs) (hc : q c = false) : c ∉ cs := by
  intro hmem
  rw [h c hmem] at hc
  cases hc

@[simp] theorem stops_nil : Stops q [] := by
  intro c hc
  cases hc

@[simp] theorem stops_cons : Stops q (c :: cs) ↔ q c = false := by
  simp [Stops]

instance (q : Char → Bool) : (cs : List Char) → Decidable (Stops q cs)
  | [] => isTrue stops_nil
  | c :: _ => decidable_of_iff (q c = false) stops_cons.symm

theorem stops_dropWhile : Stops q (cs.dropWhile q) := by
  induction cs with
  | nil => exact stops_nil
  | cons c cs ih =>
      rw [List.dropWhile_cons]
      split
      · exact ih
      · next hc => exact stops_cons.2 (by simpa using hc)

/-- Whether a run stops is a matter of the first character alone. -/
theorem Stops.congr_head (h : Stops q cs) (hhead : cs.head? = rest.head?) : Stops q rest := by
  rw [Stops, hhead] at h
  exact h

theorem takeWhile_eq_nil_iff : cs.takeWhile q = [] ↔ Stops q cs := by
  cases cs with
  | nil => simp
  | cons c cs => simp [List.takeWhile_cons]

/-- A text that begins outside the class stops the run, whatever comes later. -/
theorem stops_append (hu : ∀ c ∈ u, q c = false) (hrest : Stops q rest) :
    Stops q (u ++ rest) := by
  cases u with
  | nil => exact hrest
  | cons c u => exact stops_cons.2 (hu c (by simp))

theorem stops_append_of_ne_nil (hne : u ≠ []) (hu : ∀ c ∈ u, q c = false) :
    Stops q (u ++ rest) := by
  cases u with
  | nil => exact absurd rfl hne
  | cons c u => exact stops_cons.2 (hu c (by simp))

theorem Stops.of_append (hcs : Stops q cs) (h : u ++ rest = cs) (hrest : u ≠ [] → Stops q rest) :
    Stops q rest := by
  cases u with
  | nil =>
      rw [← h] at hcs
      exact hcs
  | cons c u => exact hrest (by simp)

theorem takeWhile_append_of_stops (hu : IsRun q u) (hrest : Stops q rest) :
    (u ++ rest).takeWhile q = u := by
  rw [List.takeWhile_append_of_pos hu]
  cases rest with
  | nil => simp
  | cons c cs => simp [stops_cons.1 hrest]

theorem dropWhile_append_of_stops (hu : IsRun q u) (hrest : Stops q rest) :
    (u ++ rest).dropWhile q = rest := by
  rw [List.dropWhile_append_of_pos hu]
  cases rest with
  | nil => rfl
  | cons c cs => simp [stops_cons.1 hrest]

/-- Cutting a text after its longest run is the only way to cut it into a run and a rest that
stops the run. -/
theorem run_append_eq_iff :
    u ++ rest = cs ∧ IsRun q u ∧ Stops q rest ↔ u = cs.takeWhile q ∧ rest = cs.dropWhile q := by
  refine ⟨fun h => ?_, fun h => ?_⟩
  · obtain ⟨rfl, hu, hrest⟩ := h
    rw [takeWhile_append_of_stops hu hrest, dropWhile_append_of_stops hu hrest]
    exact ⟨rfl, rfl⟩
  · obtain ⟨rfl, rfl⟩ := h
    exact ⟨List.takeWhile_append_dropWhile, isRun_takeWhile, stops_dropWhile⟩

/-- Two runs that stop are the same if the texts that begin with them are. -/
theorem run_append_inj (hu : IsRun q u) (hv : IsRun q v) (hcs : Stops q cs) (hrest : Stops q rest)
    (h : u ++ cs = v ++ rest) : u = v ∧ cs = rest := by
  obtain ⟨hu', hcs'⟩ := run_append_eq_iff.1 ⟨h, hu, hcs⟩
  obtain ⟨hv', hrest'⟩ := run_append_eq_iff.1 ⟨Eq.refl (v ++ rest), hv, hrest⟩
  exact ⟨hu'.trans hv'.symm, hcs'.trans hrest'.symm⟩

end

/-! ## Texts as suffixes of texts

The bytes of a suffix are counted by the text itself, so a suffix is never
larger, and one of the same size is the whole text. -/

section

variable {s t : Text}

theorem size_le_of_suffix (h : t.chars <:+ s.chars) : t.size ≤ s.size := by
  obtain ⟨u, hu⟩ := h
  rw [t.size_eq, s.size_eq, ← hu, utf8Length_append]
  omega

theorem eq_of_suffix_of_size_eq (h : t.chars <:+ s.chars) (hsize : t.size = s.size) : t = s := by
  obtain ⟨u, hu⟩ := h
  have hlen : utf8Length u = 0 := by
    rw [t.size_eq, s.size_eq, ← hu, utf8Length_append] at hsize
    omega
  rw [utf8Length_eq_zero_iff] at hlen
  subst hlen
  exact ext hu

theorem size_lt_of_suffix_of_ne (h : t.chars <:+ s.chars) (hne : t ≠ s) : t.size < s.size :=
  Nat.lt_of_le_of_ne (size_le_of_suffix h) fun hsize => hne (eq_of_suffix_of_size_eq h hsize)

theorem size_lt_of_append {u : List Char} (h : u ++ t.chars = s.chars) (hu : u ≠ []) :
    t.size < s.size := by
  have hpos : utf8Length u ≠ 0 := mt utf8Length_eq_zero_iff.1 hu
  rw [t.size_eq, s.size_eq, ← h, utf8Length_append]
  omega

end

/-- What holds of a text as soon as it holds of all smaller ones holds of every text. -/
theorem size_induction {P : Text → Prop} (step : ∀ s, (∀ t, t.size < s.size → P t) → P s)
    (s : Text) : P s := by
  induction hn : s.size using Nat.strongRecOn generalizing s with
  | ind n ih =>
      subst hn
      exact step s fun t ht => ih t.size ht t rfl

/-! ## Classes that do not meet -/

/-- Tables whose ranges lie apart have no character in common. -/
theorem inRanges_eq_false_of_apart {rs qs : List (Nat × Nat)} {c : Char}
    (apart : ∀ r ∈ rs, ∀ q ∈ qs, r.2 < q.1 ∨ q.2 < r.1) (hc : inRanges rs c = true) :
    inRanges qs c = false := by
  rw [inRanges, List.any_eq_true] at hc
  obtain ⟨r, hr, hcr⟩ := hc
  rw [inRanges, List.any_eq_false]
  intro q hq hcq
  simp only [Bool.and_eq_true, decide_eq_true_eq] at hcr hcq
  have := apart r hr q hq
  omega

theorem isBlank_eq_false_of_isLetter {c : Char} (h : isLetter c = true) : isBlank c = false :=
  inRanges_eq_false_of_apart (by decide +kernel) h

theorem isLetter_eq_false_of_isBlank {c : Char} (h : isBlank c = true) : isLetter c = false :=
  inRanges_eq_false_of_apart (by decide +kernel) h

theorem isRun_isBlank_space : IsRun isBlank [' '] :=
  isRun_cons.2 ⟨by decide, isRun_nil⟩

theorem inRanges_of_isDigit {c : Char} (h : c.isDigit = true) :
    inRanges [(0x30, 0x39)] c = true := by
  simp only [Char.isDigit, Bool.and_eq_true, decide_eq_true_eq, ge_iff_le] at h
  have hlow : 0x30 ≤ c.toNat := h.1
  have hhigh : c.toNat ≤ 0x39 := h.2
  simp [inRanges, hlow, hhigh]

theorem isBlank_eq_false_of_isDigit {c : Char} (h : c.isDigit = true) : isBlank c = false :=
  inRanges_eq_false_of_apart (by decide) (inRanges_of_isDigit h)

theorem isDigit_eq_false_of_isBlank {c : Char} (h : isBlank c = true) : c.isDigit = false := by
  cases hc : c.isDigit with
  | false => rfl
  | true =>
      rw [isBlank_eq_false_of_isDigit hc] at h
      cases h

end TextParsers.Text
