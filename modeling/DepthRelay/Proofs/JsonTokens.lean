import DepthRelay.Json.Print
import DepthRelay.Json.Scan
import Mathlib.Tactic.SplitIfs

namespace DepthRelay.Json

/-!
# Tokens as they are written

* `escape_cases` — the three ways in which the writer spells a character.
* `scanNumber_number` — a natural number of up to 64 bits that was written is read as itself, as
  long as what follows does not go on with the number.

The writer chooses one spelling of each character where the reader accepts many; these are
`Json.Spells`.
-/

/-! ### Strings -/

/-- The reader knows the digits that the writer uses. -/
theorem hexValue?_hexDigit {n : Nat} (h : n < 16) : hexValue? (hexDigit n) = some n := by
  decide +revert

/-- An escape after its backslash, as a string reads it. -/
theorem scanString_of_escape {s t : List Char} {c : Char} (h : scanEscape s = .ok (c, t)) :
    scanString ('\\' :: s) = (scanString t).map fun (x, r) => (c :: x, r) := by
  rw [scanString]
  simp only [show ('\\' : Char) ≠ '"' by decide, if_false, if_true]
  split
  · rename_i hf
    rw [h] at hf
    cases hf
  · rename_i hx
    rw [h] at hx
    cases hx
    rfl

/-- The three ways of writing a character: a letter after a backslash, four hexadecimal digits, or
    the character itself. -/
theorem escape_cases (c : Char) :
    (∃ l, l ≠ 'u' ∧ shortEscape? l = some c ∧ escape c = ['\\', l]) ∨
    (c.toNat < 0x20 ∧ escape c
      = ['\\', 'u', '0', '0', hexDigit (c.toNat / 16), hexDigit (c.toNat % 16)]) ∨
    (c ≠ '"' ∧ c ≠ '\\' ∧ ¬ c.toNat < 0x20 ∧ escape c = [c]) := by
  unfold escape
  split_ifs with hquote hslash hb hf hn hr ht hcontrol
  · exact .inl ⟨'"', by decide, by subst c; decide, rfl⟩
  · exact .inl ⟨'\\', by decide, by subst c; decide, rfl⟩
  · exact .inl ⟨'b', by decide, by subst c; decide, rfl⟩
  · exact .inl ⟨'f', by decide, by subst c; decide, rfl⟩
  · exact .inl ⟨'n', by decide, by subst c; decide, rfl⟩
  · exact .inl ⟨'r', by decide, by subst c; decide, rfl⟩
  · exact .inl ⟨'t', by decide, by subst c; decide, rfl⟩
  · exact .inr (.inl ⟨hcontrol, rfl⟩)
  · exact .inr (.inr ⟨hquote, hslash, hcontrol, rfl⟩)

/-! ### Numbers -/

/-- Digits go on from what has been read so far. -/
theorem le_ofDigitChars (ds : List Char) (n : Nat) : n ≤ Nat.ofDigitChars 10 ds n := by
  rw [Nat.ofDigitChars_eq_ofDigitChars_zero]
  have hpos : 0 < 10 ^ ds.length := Nat.pow_pos (by decide)
  have hle : n ≤ 10 ^ ds.length * n := Nat.le_mul_of_pos_left n hpos
  omega

/-- Digits whose value fits 64 bits are all taken into the significand. -/
theorem accumulate_eq (ds : List Char) (n : Nat)
    (h : Nat.ofDigitChars 10 ds n < UInt64.size) :
    accumulate n ds = (Nat.ofDigitChars 10 ds n, 0) := by
  induction ds generalizing n with
  | nil => rw [accumulate, Nat.ofDigitChars_nil]
  | cons d ds ih =>
    rw [Nat.ofDigitChars_cons] at h ⊢
    -- Further digits only make the value larger, so it fits after this one.
    have hfits : 10 * n + Text.digitValue d < UInt64.size :=
      Nat.lt_of_le_of_lt (le_ofDigitChars ds _) h
    rw [accumulate]
    simp only [hfits, if_true]
    exact ih _ h

theorem digitChar_ne_zero {n : Nat} (hlt : n < 10) (hpos : 0 < n) : n.digitChar ≠ '0' := by
  decide +revert

/-- A positive number is not written with a leading zero. -/
theorem number_eq_cons {n : Nat} (h : 0 < n) :
    ∃ d ds, number n = d :: ds ∧ d.isDigit = true ∧ d ≠ '0' := by
  induction n using Nat.strongRecOn with
  | ind n ih =>
    unfold number at ih ⊢
    rcases Nat.lt_or_ge n 10 with hlt | hge
    · refine ⟨n.digitChar, [], Nat.toDigits_of_lt_base hlt, ?_, digitChar_ne_zero hlt h⟩
      rw [Nat.isDigit_digitChar, decide_eq_true hlt]
    · obtain ⟨d, ds, hds, hd, hzero⟩ := ih (n / 10) (by omega) (by omega)
      refine ⟨d, ds ++ [(n % 10).digitChar], ?_, hd, hzero⟩
      rw [Nat.toDigits_of_base_le (by decide) hge, hds, List.cons_append]

/-- Whether a character ends the number before it. -/
def endsNumber (c : Char) : Bool := !c.isDigit && c != '.' && c != 'e' && c != 'E'

/-- Digits are all that belongs to an integer before such a character. -/
theorem scanFraction_natural (n : Nat) {c : Char} (hc : endsNumber c = true) (s : List Char) :
    scanFraction false n 0 (c :: s) = .ok (.natural n, c :: s) := by
  simp only [endsNumber, Bool.and_eq_true, bne_iff_ne] at hc
  obtain ⟨⟨⟨-, hpoint⟩, he⟩, hE⟩ := hc
  have hhead : ((c :: s).head? == some '.') = false := by simp [hpoint]
  have hexponent : startsExponent (c :: s) = false := by simp [startsExponent, he, hE]
  simp only [scanFraction, hhead, hexponent, Bool.false_eq_true, if_false, ne_eq,
    not_true_eq_false, Bool.not_false, if_true]

/-- **A natural number that was written is read as itself** if it fits 64 bits. -/
theorem scanNumber_number {n : Nat} (hn : n < UInt64.size) {c : Char} (hc : endsNumber c = true)
    (s : List Char) : scanNumber false (number n ++ c :: s) = .ok (.natural n, c :: s) := by
  have hdigit : c.isDigit = false := by
    simp only [endsNumber, Bool.and_eq_true, Bool.not_eq_true'] at hc
    exact hc.1.1.1
  -- Zero alone begins with the digit 0, after which the reader allows no digit.
  rcases Nat.eq_zero_or_pos n with rfl | hpos
  · rw [number, Nat.toDigits_zero, List.singleton_append, scanNumber]
    simp only [show ('0' : Char).isDigit = true by decide, Bool.not_true, Bool.false_eq_true,
      if_false, if_true, List.head?_cons, Option.any_some, hdigit]
    exact scanFraction_natural 0 hc s
  · obtain ⟨d, ds, hnum, hd, hzero⟩ := number_eq_cons hpos
    have hall : ∀ x ∈ number n, x.isDigit = true := fun x hx =>
      Nat.isDigit_of_mem_toDigits (by decide) (by decide) hx
    have htake : (number n ++ c :: s).takeWhile Char.isDigit = number n := by
      rw [List.takeWhile_append_of_pos hall, List.takeWhile_cons_of_neg (by simp [hdigit]),
        List.append_nil]
    have hdrop : (number n ++ c :: s).dropWhile Char.isDigit = c :: s := by
      rw [List.dropWhile_append_of_pos hall, List.dropWhile_cons_of_neg (by simp [hdigit])]
    have hvalue : Nat.ofDigitChars 10 (number n) 0 = n := Nat.ofDigitChars_ten_toDigits
    have hall' : accumulate 0 (number n) = (n, 0) := by
      rw [accumulate_eq _ _ (by rw [hvalue]; exact hn), hvalue]
    have hcons : number n ++ c :: s = d :: (ds ++ c :: s) := by rw [hnum, List.cons_append]
    rw [hcons, scanNumber, ← hcons, htake, hdrop, hall']
    simp only [hd, hzero, Bool.not_true, Bool.false_eq_true, if_false]
    exact scanFraction_natural n hc s

end DepthRelay.Json
