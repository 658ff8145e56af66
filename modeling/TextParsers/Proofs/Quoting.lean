import Mathlib.Data.List.Nodup
import Mathlib.Tactic.SplitIfs
import TextParsers.ParseError
import TextParsers.Proofs.Primitives

/-!
# What was quoted is known from the quotation

Quoting writes some characters as they are and others by two or more, and the
text may hold the very characters that are written for others. They cannot be
mistaken for each other. A backslash begins whatever is written for a character
that does not stand for itself, and it does not stand for itself either. The
character after it says which of the short escapes this is, or that a code point
follows, which ends at the brace. So a quotation is read from the left in one
way only, and the first quotation mark that is not part of an escape is its end
(`quoteChars_append_inj`).

Therefore the dots after an excerpt cannot come from the text that it quotes. An
excerpt tells the first characters of a text and whether there are more, and two
texts have the same excerpt only if they agree in both.
-/

namespace TextParsers

namespace Text

variable {c d : Char} {cs ds us vs : List Char}

/-! ## Code points in hexadecimal -/

theorem exists_digitChar_of_mem_hex {n : Nat} (h : c ∈ Nat.toDigits 16 n) :
    ∃ k < 16, c = Nat.digitChar k := by
  induction n using Nat.strongRecOn with
  | ind n ih =>
      rw [Nat.toDigits_eq_if (by decide)] at h
      split at h
      · next hn => exact ⟨n, hn, List.mem_singleton.1 h⟩
      · rcases List.mem_append.1 h with h | h
        · exact ih (n / 16) (by omega) h
        · exact ⟨n % 16, Nat.mod_lt n (by decide), List.mem_singleton.1 h⟩

theorem digitChar_inj {k l : Nat} (hk : k < 16) (hl : l < 16)
    (h : Nat.digitChar k = Nat.digitChar l) : k = l := by
  have hall : ∀ k < 16, ∀ l < 16, Nat.digitChar k = Nat.digitChar l → k = l := by decide
  exact hall k hk l hl h

theorem hex_append_singleton_ne {n : Nat} : Nat.toDigits 16 n ++ [d] ≠ [c] := by
  simp [List.append_eq_singleton_iff]

/-- The last digits are those of the remainders, and the digits before them those of the
quotients. -/
theorem hex_inj {m n : Nat} (h : Nat.toDigits 16 m = Nat.toDigits 16 n) : m = n := by
  induction m using Nat.strongRecOn generalizing n with
  | ind m ih =>
      rw [Nat.toDigits_eq_if (by decide), Nat.toDigits_eq_if (n := n) (by decide)] at h
      split at h
      · next hm =>
          split at h
          · next hn =>
              injection h with h
              exact digitChar_inj hm hn h
          · exact absurd h.symm hex_append_singleton_ne
      · split at h
        · exact absurd h hex_append_singleton_ne
        · obtain ⟨hquotient, hdigit⟩ := List.append_inj' h rfl
          injection hdigit with hdigit
          have hmod := digitChar_inj (Nat.mod_lt m (by decide)) (Nat.mod_lt n (by decide)) hdigit
          have hdiv := ih (m / 16) (by omega) hquotient
          omega

/-! ## What is written for a character -/

/-- The characters that are written as a backslash and one more character, each with that one. -/
def shortEscapes : List (Char × Char) :=
  [('\x00', '0'), ('\t', 't'), ('\r', 'r'), ('\n', 'n'), ('\\', '\\'), ('\x22', '\x22')]

/-- The three forms of what is written for a character. -/
inductive Escape (c : Char) : List Char → Prop where
  | short {k : Char} : (c, k) ∈ shortEscapes → Escape c ['\\', k]
  | codePoint :
      Escape c ('\\' :: 'u' :: '\x7b' :: (Nat.toDigits 16 c.toNat ++ ['\x7d']))
  | itself : c ≠ '\\' → c ≠ '\x22' → Escape c [c]

theorem escape_escapeChar (c : Char) : Escape c (escapeChar c) := by
  unfold escapeChar
  split_ifs with h₀ ht hr hn hbackslash hquote
  -- The characters with a short escape are given, and each is in the table.
  any_goals
    subst c
    exact .short (by decide)
  · exact .codePoint
  · exact .itself hbackslash hquote

/-- No two characters have the same short escape. -/
theorem eq_of_mem_shortEscapes {k : Char} (hc : (c, k) ∈ shortEscapes)
    (hd : (d, k) ∈ shortEscapes) : c = d := by
  have hnodup : (shortEscapes.map Prod.snd).Nodup := by decide
  exact congrArg Prod.fst (List.inj_on_of_nodup_map hnodup hc hd rfl)

/-- The letter of the long escapes is not one of the short ones. -/
theorem u_notMem_shortEscapes : (c, 'u') ∉ shortEscapes := by
  intro h
  have hmem : 'u' ∈ shortEscapes.map Prod.snd := List.mem_map.2 ⟨_, h, rfl⟩
  exact absurd hmem (by decide)

/-- The digits of a code point end at the brace. -/
theorem hex_append_inj {m n : Nat}
    (h : Nat.toDigits 16 m ++ '\x7d' :: us = Nat.toDigits 16 n ++ '\x7d' :: vs) :
    m = n ∧ us = vs := by
  have hdigits : ∀ n, IsRun (fun c => c != '\x7d') (Nat.toDigits 16 n) := by
    intro n c hc
    obtain ⟨k, hk, rfl⟩ := exists_digitChar_of_mem_hex hc
    have hall : ∀ k < 16, (Nat.digitChar k != '\x7d') = true := by decide
    exact hall k hk
  obtain ⟨hhex, hrest⟩ := run_append_inj (hdigits m) (hdigits n) (stops_cons.2 (by decide))
    (stops_cons.2 (by decide)) h
  injection hrest with _ hrest
  exact ⟨hex_inj hhex, hrest⟩

/-- What is written for a character is known from any text that begins with it. -/
theorem Escape.append_inj {x y : List Char} (hc : Escape c x) (hd : Escape d y)
    (h : x ++ us = y ++ vs) : c = d ∧ us = vs := by
  cases hc with
  | @short k hk =>
      cases hd with
      | short hl =>
          injection h with _ h
          injection h with hkl h
          rw [← hkl] at hl
          exact ⟨eq_of_mem_shortEscapes hk hl, h⟩
      | codePoint =>
          injection h with _ h
          injection h with hku _
          rw [hku] at hk
          exact absurd hk u_notMem_shortEscapes
      | itself hbackslash _ =>
          injection h with hhead _
          exact absurd hhead.symm hbackslash
  | codePoint =>
      cases hd with
      | short hl =>
          injection h with _ h
          injection h with hul _
          rw [← hul] at hl
          exact absurd hl u_notMem_shortEscapes
      | codePoint =>
          have hdigits : Nat.toDigits 16 c.toNat ++ '\x7d' :: us =
              Nat.toDigits 16 d.toNat ++ '\x7d' :: vs := by simpa using h
          obtain ⟨hcode, hrest⟩ := hex_append_inj hdigits
          exact ⟨Char.toNat_inj.1 hcode, hrest⟩
      | itself hbackslash _ =>
          injection h with hhead _
          exact absurd hhead.symm hbackslash
  | itself hbackslash _ =>
      cases hd with
      | short _ | codePoint =>
          injection h with hhead _
          exact absurd hhead hbackslash
      | itself _ _ =>
          injection h with hhead hrest
          exact ⟨hhead, hrest⟩

theorem escapeChar_append_inj (h : escapeChar c ++ us = escapeChar d ++ vs) : c = d ∧ us = vs :=
  (escape_escapeChar c).append_inj (escape_escapeChar d) h

/-- Nothing that is written for a character begins with a quotation mark. -/
theorem escapeChar_append_ne_quote : escapeChar c ++ us ≠ '\x22' :: vs := by
  intro h
  have hc := escape_escapeChar c
  generalize escapeChar c = x at hc h
  cases hc with
  | short _ | codePoint =>
      injection h with hhead _
      exact absurd hhead (by decide)
  | itself _ hquote =>
      injection h with hhead _
      exact hquote hhead

/-! ## Quotations -/

/-- What a quotation quotes is known from any text that begins with it, and so is where it ends. The
induction is on both quoted texts at once: character by character they are the same, and so they
come to their closing marks together. -/
theorem quoteChars_append_inj (h : quoteChars cs ++ us = quoteChars ds ++ vs) :
    cs = ds ∧ us = vs := by
  have hinner : cs.flatMap escapeChar ++ '\x22' :: us = ds.flatMap escapeChar ++ '\x22' :: vs := by
    simpa [quoteChars] using h
  clear h
  induction cs generalizing ds with
  | nil =>
      cases ds with
      | nil =>
          injection hinner with _ hrest
          exact ⟨rfl, hrest⟩
      | cons d ds =>
          rw [List.flatMap_cons, List.append_assoc] at hinner
          exact absurd hinner.symm escapeChar_append_ne_quote
  | cons c cs ih =>
      rw [List.flatMap_cons, List.append_assoc] at hinner
      cases ds with
      | nil => exact absurd hinner escapeChar_append_ne_quote
      | cons d ds =>
          rw [List.flatMap_cons, List.append_assoc] at hinner
          obtain ⟨rfl, hothers⟩ := escapeChar_append_inj hinner
          obtain ⟨rfl, hrest⟩ := ih hothers
          exact ⟨rfl, hrest⟩

/-- The same for the strings. -/
theorem quote_append_inj {a b u v : String} (h : quote a ++ u = quote b ++ v) : a = b ∧ u = v := by
  have hchars : quoteChars a.toList ++ u.toList = quoteChars b.toList ++ v.toList := by
    simpa [quote] using congrArg String.toList h
  obtain ⟨ha, hu⟩ := quoteChars_append_inj hchars
  exact ⟨String.toList_inj.1 ha, String.toList_inj.1 hu⟩

theorem head?_quote_append (a u : String) : (quote a ++ u).toList.head? = some '\x22' := by
  simp [quote, quoteChars]

end Text

open Text

/-! ## Excerpts -/

section

variable {s t : Text}

/-- A text is cut after whole characters, wherever that is in bytes. -/
theorem takeBytes_utf8Length_take (n : Nat) (s : Text) :
    s.takeBytes (utf8Length (s.chars.take n)) = s.chars.take n :=
  Parser.takeBytes_utf8Length (List.take_append_drop n s.chars)

/-- Where anything is left the excerpt is a quotation, and what follows it says whether it is all
that is left. -/
theorem excerpt_of_ne_nil (h : s.chars ≠ []) :
    excerpt s = quote (String.ofList (s.chars.take excerptLength)) ++
      if excerptLength < s.chars.length then "..." else "" := by
  have hempty : ¬ s.isEmpty = true := mt List.isEmpty_iff.1 h
  rw [excerpt, if_neg hempty, quote, String.toList_ofList]
  by_cases hlong : excerptLength < s.chars.length
  · have hdrop : ¬ (s.chars.drop excerptLength).isEmpty = true := by
      rw [List.isEmpty_iff, List.drop_eq_nil_iff]
      omega
    rw [if_pos hlong]
    exact if_neg hdrop
  · have hdrop : (s.chars.drop excerptLength).isEmpty = true := by
      rw [List.isEmpty_iff, List.drop_eq_nil_iff]
      omega
    rw [if_neg hlong, String.append_empty]
    exact if_pos hdrop

theorem excerpt_eq_endOfInput_iff : excerpt s = "end of input" ↔ s.chars = [] := by
  refine ⟨fun h => ?_, fun h => ?_⟩
  · by_contra hne
    rw [excerpt_of_ne_nil hne] at h
    have hhead := head?_quote_append (String.ofList (s.chars.take excerptLength))
      (if excerptLength < s.chars.length then "..." else "")
    rw [h] at hhead
    exact absurd hhead (by decide)
  · have hempty : s.isEmpty = true := List.isEmpty_iff.2 h
    rw [excerpt, if_pos hempty]

theorem excerpt_eq_iff_of_ne_nil (hs : s.chars ≠ []) (ht : t.chars ≠ []) :
    excerpt s = excerpt t ↔ s.chars.take excerptLength = t.chars.take excerptLength ∧
      (excerptLength < s.chars.length ↔ excerptLength < t.chars.length) := by
  rw [excerpt_of_ne_nil hs, excerpt_of_ne_nil ht]
  refine ⟨fun h => ?_, fun h => ?_⟩
  · obtain ⟨htake, hdots⟩ := quote_append_inj h
    refine ⟨String.ofList_inj.1 htake, ?_⟩
    split_ifs at hdots with hlong hlong' hlong'
    · exact iff_of_true hlong hlong'
    · exact absurd hdots (by decide)
    · exact absurd hdots (by decide)
    · exact iff_of_false hlong hlong'
  · rw [h.1]
    simp only [h.2]

theorem take_excerptLength_eq_nil_iff : s.chars.take excerptLength = [] ↔ s.chars = [] := by
  rw [List.take_eq_nil_iff]
  exact or_iff_right (by decide)

/-- The empty text is told from the others by its first characters. -/
theorem excerpt_eq_iff_of_nil (hs : s.chars = []) :
    excerpt s = excerpt t ↔ s.chars.take excerptLength = t.chars.take excerptLength ∧
      (excerptLength < s.chars.length ↔ excerptLength < t.chars.length) := by
  rw [excerpt_eq_endOfInput_iff.2 hs, eq_comm, excerpt_eq_endOfInput_iff]
  refine ⟨fun ht => ?_, fun h => ?_⟩
  · rw [hs, ht]
    exact ⟨rfl, Iff.rfl⟩
  · rw [← take_excerptLength_eq_nil_iff, ← h.1]
    exact take_excerptLength_eq_nil_iff.2 hs

theorem excerpt_eq_iff :
    excerpt s = excerpt t ↔ s.chars.take excerptLength = t.chars.take excerptLength ∧
      (excerptLength < s.chars.length ↔ excerptLength < t.chars.length) := by
  by_cases hs : s.chars = []
  · exact excerpt_eq_iff_of_nil hs
  · by_cases ht : t.chars = []
    · rw [eq_comm, excerpt_eq_iff_of_nil ht]
      exact and_congr eq_comm iff_comm
    · exact excerpt_eq_iff_of_ne_nil hs ht

end

/-- An excerpt is faithful. It is cut in front of a whole character or at the end, and what it
quotes is the text before the cut. Two texts have the same excerpt just when they agree in their
first sixteen characters and in whether there are more, whatever those characters are. So the end of
the input is named nowhere else, and no excerpt of a text that goes on is one of a text that does
not. -/
theorem excerpt_is_faithful :
    (∀ s : Text, s.IsBoundary (utf8Length (s.chars.take 16)) ∧
      (s.chars ≠ [] → excerpt s =
        quote (String.ofList (s.takeBytes (utf8Length (s.chars.take 16)))) ++
          if 16 < s.chars.length then "..." else "")) ∧
    (∀ s t : Text, excerpt s = excerpt t ↔
      s.chars.take 16 = t.chars.take 16 ∧ (16 < s.chars.length ↔ 16 < t.chars.length)) ∧
    (∀ s : Text, excerpt s = "end of input" ↔ s.chars = []) ∧
    ∀ s t : Text, 16 < s.chars.length → t.chars.length ≤ 16 → excerpt s ≠ excerpt t := by
  refine ⟨fun s => ⟨?_, fun hs => ?_⟩, fun s t => excerpt_eq_iff,
    fun s => excerpt_eq_endOfInput_iff, fun s t hs ht h => ?_⟩
  · rw [IsBoundary, takeBytes_utf8Length_take]
  · rw [takeBytes_utf8Length_take]
    exact excerpt_of_ne_nil hs
  · exact absurd ((excerpt_eq_iff.1 h).2.1 hs) (Nat.not_lt.2 ht)

/-- Texts that end in a quotation mark and three dots, alone and with a character after them. -/
theorem excerpt_is_faithful_of_dots :
    (ofString "aaaaaaaaaaaa\"...").chars.length ≤ 16 ∧
      16 < (ofString "aaaaaaaaaaaa\"...é").chars.length ∧
      (ofString "aaaaaaaaaaaa\"...é").chars ≠ [] ∧
      (ofString "aaaaaaaaaaaa\"...é").IsBoundary 16 ∧
      excerpt (ofString "aaaaaaaaaaaa\"...é") = quote "aaaaaaaaaaaa\"..." ++ "..." ∧
      excerpt (ofString "aaaaaaaaaaaa\"...é") ≠ excerpt (ofString "aaaaaaaaaaaa\"...") ∧
      excerpt (ofString "aaaaaaaaaaaa\"...é") = excerpt (ofString "aaaaaaaaaaaa\"...\n\n") := by
  have hshort : (ofString "aaaaaaaaaaaa\"...").chars.length ≤ 16 := by decide
  have hlong : 16 < (ofString "aaaaaaaaaaaa\"...é").chars.length := by decide
  have hne : (ofString "aaaaaaaaaaaa\"...é").chars ≠ [] := by decide
  obtain ⟨hcut, hsame, -, hother⟩ := excerpt_is_faithful
  obtain ⟨hboundary, hquote⟩ := hcut (ofString "aaaaaaaaaaaa\"...é")
  exact ⟨hshort, hlong, hne, hboundary, hquote hne, hother _ _ hlong hshort,
    (hsame _ _).2 (by decide)⟩

end TextParsers
