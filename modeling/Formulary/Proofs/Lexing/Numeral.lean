import Formulary.Decimal.Numeral
import Mathlib.Data.List.TakeWhile

/-!
# Formulary.Proofs.Lexing.Numeral

The form of a numeral, and that scanning takes the longest one.

A numeral is well formed if it has digits before or after the point and, where an
exponent is written, digits in it (`Numeral.WellFormed`). What the scanner takes off a
text that starts like a numeral is well formed, and no well-formed numeral at the front
of the text is longer (`Numeral.length_le_scan`). The converse says when a numeral that
is written before something else is read back as it is (`Numeral.scan_text_append`).
-/

namespace Formulary

/-! ## Digits at the front -/

/-- The first character, if there is one, is none of these. -/
def Shuns (p : Char → Bool) (text : List Char) : Prop :=
  ∀ c rest, text = c :: rest → p c = false

namespace Shuns

variable {p : Char → Bool} {c : Char} {text : List Char}

theorem nil : Shuns p [] := by
  intro c rest h
  contradiction

theorem cons (h : p c = false) : Shuns p (c :: text) := by
  rintro c rest ⟨⟩
  exact h

theorem takeWhile (h : Shuns p text) : text.takeWhile p = [] := by
  cases text with
  | nil => rfl
  | cons c rest => rw [List.takeWhile_cons_of_neg (by simp [h c rest rfl])]

theorem dropWhile (h : Shuns p text) : text.dropWhile p = text := by
  cases text with
  | nil => rfl
  | cons c rest => rw [List.dropWhile_cons_of_neg (by simp [h c rest rfl])]

end Shuns

/-- What is left behind the characters of a kind begins with none of them. -/
theorem shuns_dropWhile (p : Char → Bool) (text : List Char) : Shuns p (text.dropWhile p) := by
  intro c rest h
  have := List.head?_dropWhile_not p text
  simpa [h] using this

/-! ## Exponents -/

namespace Exponent

/-- A letter `e`, a sign or none, and digits. -/
structure WellFormed (e : Exponent) : Prop where
  mark : e.mark = 'e' ∨ e.mark = 'E'
  sign : ∀ c, e.sign = some c → c = '+' ∨ c = '-'
  digits : ∀ c ∈ e.digits, c.isDigit = true
  nonempty : e.digits ≠ []

/-- An exponent is read together with all digits behind it. -/
theorem scan_text_append {e : Exponent} (h : e.WellFormed) (rest : List Char) :
    scan (e.text ++ rest) =
      (some { e with digits := e.digits ++ rest.takeWhile Char.isDigit },
        rest.dropWhile Char.isDigit) := by
  obtain ⟨mark, sign, digits⟩ := e
  obtain ⟨hmark, hsign, hdigits, hnonempty⟩ := h
  dsimp only at hmark hsign hdigits hnonempty
  have htake : (digits ++ rest).takeWhile Char.isDigit = digits ++ rest.takeWhile Char.isDigit :=
    List.takeWhile_append_of_pos hdigits
  have hdrop : (digits ++ rest).dropWhile Char.isDigit = rest.dropWhile Char.isDigit :=
    List.dropWhile_append_of_pos hdigits
  obtain ⟨c, others, rfl⟩ := List.exists_cons_of_ne_nil hnonempty
  have hc : c.isDigit = true := hdigits c List.mem_cons_self
  cases sign with
  | none =>
    have hplus : c ≠ '+' := by rintro rfl; simp [Char.isDigit] at hc
    have hminus : c ≠ '-' := by rintro rfl; simp [Char.isDigit] at hc
    simp only [List.cons_append] at htake hdrop
    simp [text, scan, hmark, hplus, hminus, htake, hdrop]
  | some s =>
    simp only [List.cons_append] at htake hdrop
    rcases hsign s rfl with rfl | rfl <;> simp [text, scan, hmark, htake, hdrop]

/-- What is read is a well-formed exponent or nothing at all. -/
theorem scan_eq (input : List Char) :
    (∃ e rest, e.WellFormed ∧ input = e.text ++ rest ∧ scan input = (some e, rest)) ∨
      scan input = (none, input) := by
  unfold scan
  split
  · next mark rest =>
    split
    · next hmark =>
      split
      next sign after hsigned =>
      have hsplit : rest = sign.toList ++ after ∧ ∀ c, sign = some c → c = '+' ∨ c = '-' := by
        split at hsigned <;> cases hsigned <;> simp
      split
      · exact .inr rfl
      · next digits _ hdigits =>
        refine .inl ⟨⟨mark, sign, after.takeWhile Char.isDigit⟩, after.dropWhile Char.isDigit,
          ⟨hmark, hsplit.2, ?_, hdigits⟩, ?_, rfl⟩
        · exact fun c member => List.mem_takeWhile_imp member
        · rw [text, hsplit.1]
          simp
    · exact .inr rfl
  · exact .inr rfl

end Exponent

/-! ## Numerals -/

namespace Numeral

/-- Digits, perhaps with a point among them, before them or behind them, and an exponent or
none. -/
structure WellFormed (n : Numeral) : Prop where
  whole : ∀ c ∈ n.whole, c.isDigit = true
  fraction : ∀ digits, n.fraction = some digits → ∀ c ∈ digits, c.isDigit = true
  nonempty : n.digits ≠ []
  exponent : ∀ e, n.exponent = some e → e.WellFormed

theorem scanFraction_cons_point (rest : List Char) : scanFraction ('.' :: rest) =
    (some (rest.takeWhile Char.isDigit), rest.dropWhile Char.isDigit) := rfl

/-- Without a point there is no fraction. -/
theorem scanFraction_of_shuns {input : List Char} (h : Shuns (· == '.') input) :
    scanFraction input = (none, input) := by
  unfold scanFraction
  split
  · next rest => exact absurd (h '.' rest rfl) (by simp)
  · rfl

/-- What is read of the digits after the point is all of them, or there is no point. -/
theorem scanFraction_eq (input : List Char) :
    (∃ rest, input = '.' :: rest) ∨ scanFraction input = (none, input) := by
  cases input with
  | nil => exact .inr rfl
  | cons c rest =>
    by_cases point : c = '.'
    · exact .inl ⟨rest, by rw [point]⟩
    · exact .inr (scanFraction_of_shuns (.cons (by simpa using point)))

theorem scan_eq (input : List Char) : scan input =
    (⟨input.takeWhile Char.isDigit, (scanFraction (input.dropWhile Char.isDigit)).1,
      (Exponent.scan (scanFraction (input.dropWhile Char.isDigit)).2).1⟩,
      (Exponent.scan (scanFraction (input.dropWhile Char.isDigit)).2).2) := rfl

/-- Scanning splits the text. -/
theorem text_append_scan (input : List Char) : (scan input).1.text ++ (scan input).2 = input := by
  have hexponent (text : List Char) :
      ((Exponent.scan text).1.map Exponent.text).getD [] ++ (Exponent.scan text).2 = text := by
    rcases Exponent.scan_eq text with ⟨e, rest, -, rfl, hscan⟩ | hscan <;> simp [hscan]
  have hfraction (text : List Char) :
      ((scanFraction text).1.map ('.' :: ·)).getD [] ++ (scanFraction text).2 = text := by
    rcases scanFraction_eq text with ⟨rest, rfl⟩ | hscan
    · simp [scanFraction_cons_point]
    · simp [hscan]
  rw [scan_eq]
  simp only [text, List.append_assoc, hexponent, hfraction, List.takeWhile_append_dropWhile]

/-- What is scanned off a text that starts like a numeral is well formed. -/
theorem wellFormed_scan {input : List Char} (h : starts input = true) :
    (scan input).1.WellFormed where
  whole c member := List.mem_takeWhile_imp member
  fraction digits hdigits c member := by
    rw [scan_eq] at hdigits
    rcases scanFraction_eq (input.dropWhile Char.isDigit) with ⟨rest, hrest⟩ | hnone
    · simp only [hrest, scanFraction_cons_point, Option.some.injEq] at hdigits
      exact List.mem_takeWhile_imp (hdigits ▸ member)
    · simp [hnone] at hdigits
  nonempty := by
    unfold starts at h
    split at h
    · simp [scan_eq, digits, scanFraction_cons_point, h]
    · simp [scan_eq, digits, h]
    · contradiction
  exponent e he := by
    rw [scan_eq] at he
    rcases Exponent.scan_eq (scanFraction (input.dropWhile Char.isDigit)).2 with
      ⟨e', rest, hformed, -, hscan⟩ | hscan
    · simp only [hscan, Option.some.injEq] at he
      exact he ▸ hformed
    · simp [hscan] at he

/-! ### Scanning what was written -/

section Append

variable {n : Numeral} (h : n.WellFormed) (rest : List Char)
include h

/-- An exponent ends the digits before it, and takes all digits behind it. -/
theorem scan_text_append_of_exponent {e : Exponent} (he : n.exponent = some e) :
    scan (n.text ++ rest) =
      ({ n with exponent := some { e with digits := e.digits ++ rest.takeWhile Char.isDigit } },
        rest.dropWhile Char.isDigit) := by
  have hformed := h.exponent e he
  have hscan := Exponent.scan_text_append hformed rest
  have hmark : Shuns Char.isDigit (e.text ++ rest) ∧ Shuns (· == '.') (e.text ++ rest) := by
    rcases hformed.mark with hmark | hmark <;>
      exact ⟨.cons (by rw [hmark]; decide), .cons (by rw [hmark]; decide)⟩
  have htext : n.text ++ rest =
      n.whole ++ ((n.fraction.map ('.' :: ·)).getD [] ++ (e.text ++ rest)) := by
    simp [text, he]
  rw [htext, scan_eq, List.takeWhile_append_of_pos h.whole, List.dropWhile_append_of_pos h.whole]
  cases hf : n.fraction with
  | none => simp [hmark.1.takeWhile, hmark.1.dropWhile, scanFraction_of_shuns hmark.2, hscan]
  | some digits =>
    have hpoint : Shuns Char.isDigit ('.' :: (digits ++ (e.text ++ rest))) := .cons (by decide)
    have hdigits := h.fraction digits hf
    simp [hpoint.takeWhile, hpoint.dropWhile, scanFraction_cons_point,
      List.takeWhile_append_of_pos hdigits, List.dropWhile_append_of_pos hdigits,
      hmark.1.takeWhile, hmark.1.dropWhile, hscan]

/-- Without an exponent, the digits after the point are read together with those behind them. -/
theorem scan_text_append_of_fraction {digits : List Char} (he : n.exponent = none)
    (hf : n.fraction = some digits) : scan (n.text ++ rest) =
      (⟨n.whole, some (digits ++ rest.takeWhile Char.isDigit),
        (Exponent.scan (rest.dropWhile Char.isDigit)).1⟩,
        (Exponent.scan (rest.dropWhile Char.isDigit)).2) := by
  have hpoint : Shuns Char.isDigit ('.' :: (digits ++ rest)) := .cons (by decide)
  have hdigits := h.fraction digits hf
  have htext : n.text ++ rest = n.whole ++ '.' :: (digits ++ rest) := by simp [text, he, hf]
  rw [htext, scan_eq, List.takeWhile_append_of_pos h.whole, List.dropWhile_append_of_pos h.whole]
  simp [hpoint.takeWhile, hpoint.dropWhile, scanFraction_cons_point,
    List.takeWhile_append_of_pos hdigits, List.dropWhile_append_of_pos hdigits]

/-- Of a numeral that is digits only, all digits are read together with those behind them. -/
theorem scan_text_append_of_whole (he : n.exponent = none) (hf : n.fraction = none) :
    scan (n.text ++ rest) =
      (⟨n.whole ++ rest.takeWhile Char.isDigit,
        (scanFraction (rest.dropWhile Char.isDigit)).1,
        (Exponent.scan (scanFraction (rest.dropWhile Char.isDigit)).2).1⟩,
        (Exponent.scan (scanFraction (rest.dropWhile Char.isDigit)).2).2) := by
  have htext : n.text ++ rest = n.whole ++ rest := by simp [text, he, hf]
  rw [htext, scan_eq, List.takeWhile_append_of_pos h.whole, List.dropWhile_append_of_pos h.whole]

end Append

/-- **Longest**: no well-formed numeral at the front of a text has more characters than the one
that is scanned. -/
theorem length_le_scan {n : Numeral} (h : n.WellFormed) {input : List Char}
    (front : n.text <+: input) : n.text.length ≤ (scan input).1.text.length := by
  obtain ⟨rest, rfl⟩ := front
  cases he : n.exponent with
  | some e =>
    rw [scan_text_append_of_exponent h rest he]
    simp only [text, Exponent.text, he, Option.map_some, Option.getD_some, List.length_append,
      List.length_cons]
    omega
  | none =>
    cases hf : n.fraction with
    | some digits =>
      rw [scan_text_append_of_fraction h rest he hf]
      simp only [text, he, hf, Option.map_some, Option.map_none, Option.getD_some,
        Option.getD_none, List.length_append, List.length_cons, List.length_nil]
      omega
    | none =>
      rw [scan_text_append_of_whole h rest he hf]
      simp only [text, he, hf, Option.map_none, Option.getD_none, List.length_append,
        List.length_nil]
      omega

/-- A numeral is read back as it is if what follows cannot go on with it. -/
theorem scan_text_append {n : Numeral} (h : n.WellFormed) {rest : List Char}
    (digits : Shuns Char.isDigit rest) (point : Shuns (· == '.') rest)
    (exponent : Exponent.scan rest = (none, rest)) : scan (n.text ++ rest) = (n, rest) := by
  cases he : n.exponent with
  | some e =>
    simp [scan_text_append_of_exponent h rest he, digits.takeWhile, digits.dropWhile, ← he]
  | none =>
    cases hf : n.fraction with
    | some digits' =>
      simp [scan_text_append_of_fraction h rest he hf, digits.takeWhile, digits.dropWhile,
        exponent, ← he, ← hf]
    | none =>
      simp [scan_text_append_of_whole h rest he hf, digits.takeWhile, digits.dropWhile,
        scanFraction_of_shuns point, exponent, ← he, ← hf]

/-! ### Starting like a numeral -/

theorem starts_cons {c : Char} (h : c.isDigit = true) (rest : List Char) :
    starts (c :: rest) = true := by
  unfold starts
  split
  · next heq =>
    cases (List.cons.inj heq).1
    contradiction
  · next heq =>
    cases (List.cons.inj heq).1
    exact h
  · contradiction

/-- Where a well-formed numeral stands, scanning begins one. -/
theorem starts_text_append {n : Numeral} (h : n.WellFormed) (rest : List Char) :
    starts (n.text ++ rest) = true := by
  cases hwhole : n.whole with
  | cons c others =>
    have hc := h.whole c (by simp [hwhole])
    simp only [text, hwhole, List.cons_append]
    exact starts_cons hc _
  | nil =>
    have hdigits := h.nonempty
    rw [digits, hwhole, List.nil_append] at hdigits
    cases hf : n.fraction with
    | none => simp [hf] at hdigits
    | some fraction =>
      rw [hf, Option.getD_some] at hdigits
      obtain ⟨c, others, rfl⟩ := List.exists_cons_of_ne_nil hdigits
      have hc := h.fraction _ hf c List.mem_cons_self
      simp [text, hwhole, hf, starts, hc]

/-- A numeral begins with a digit or a point. -/
theorem shuns_text_append {n : Numeral} (h : n.WellFormed) (rest : List Char) {p : Char → Bool}
    (point : p '.' = false) (digit : ∀ {c : Char}, c.isDigit = true → p c = false) :
    Shuns p (n.text ++ rest) := by
  intro c others heq
  have hstarts := starts_text_append h rest
  rw [heq] at hstarts
  unfold starts at hstarts
  split at hstarts
  · next heq =>
    rw [(List.cons.inj heq).1]
    exact point
  · next heq =>
    rw [(List.cons.inj heq).1]
    exact digit hstarts
  · contradiction

end Numeral

end Formulary
