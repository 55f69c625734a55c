import DepthRelay.Json.Fault
import DepthRelay.Text.Numeral

namespace DepthRelay.Json

/-!
# Tokens of JSON documents

Each scanner takes the text that is left and returns what it read with the text after it, which is
never longer (`*_length`); that is what the recursions of the readers rest on.

* `skipSpace` — the blanks between tokens.
* `scanWord` — the letters of `null`, `true` and `false`.
* `scanNumber` — a number; integers of up to 64 bits stay exact.
* `scanString` — the characters of a string, escapes resolved.
-/

/-- The characters that may stand between tokens. -/
def isSpace (c : Char) : Bool := c == ' ' || c == '\n' || c == '\t' || c == '\r'

/-- Drops leading blanks. -/
def skipSpace (s : List Char) : List Char := s.dropWhile isSpace

theorem skipSpace_length (s : List Char) : (skipSpace s).length ≤ s.length :=
  (List.dropWhile_suffix _).length_le

/-! ### Words -/

/-- Reads the remaining letters of a word that the first letter has announced. -/
def scanWord : List Char → List Char → Except Fault (List Char)
  | [], s => .ok s
  | _ :: _, [] => .error (.here .endInValue [])
  | w :: ws, c :: s => if c = w then scanWord ws s else .error (.peek .expectedIdent (c :: s))

/-- What is left after a word is no longer. -/
theorem scanWord_length {w s r : List Char} (h : scanWord w s = .ok r) : r.length ≤ s.length := by
  induction w generalizing s with
  | nil => cases h; exact Nat.le_refl _
  | cons w ws ih =>
    cases s with
    | nil => cases h
    | cons c s =>
      unfold scanWord at h
      split at h
      · exact Nat.le_succ_of_le (ih h)
      · cases h

/-! ### Numbers -/

/-- A number as it is read. -/
inductive Number
  | natural (n : Nat)
  /-- Minus a positive number. -/
  | negative (n : Nat)
  | floating (x : Float)

/-- What messages call a number. -/
def Number.unexpected : Number → Unexpected
  | natural n => .integer n
  | negative n => .integer (-(n : Int))
  | floating x => .floating x

/-- Reads digits into a significand of 64 bits for as long as they fit; returns the significand
    and the number of digits that did not. -/
def accumulate : Nat → List Char → Nat × Nat
  | n, [] => (n, 0)
  | n, d :: ds =>
    let m := 10 * n + Text.digitValue d
    if m < UInt64.size then accumulate m ds else (n, ds.length + 1)

/-- `x` divided by `10 ^ n`, in steps that stay within the range of powers of ten. -/
def shrink (x : Float) (n : Nat) : Float :=
  if n ≤ 308 then x / Float.ofScientific 1 false n
  else if x == 0 then x
  else shrink (x / Float.ofScientific 1 false 308) (n - 308)
termination_by n

/-- `significand * 10 ^ exponent`: the significand is rounded first and then scaled by one power of
    ten.  Too large a number has no value. -/
def scale (significand : Nat) (exponent : Int) : Option Float :=
  let x := (UInt64.ofNat significand).toFloat
  match exponent with
  | .negSucc n => some (shrink x (n + 1))
  | .ofNat n =>
    if n ≤ 308 then
      let y := x * Float.ofScientific 1 false n
      if y.isInf then none else some y
    else if significand = 0 then some x
    else none

/-- A floating-point number that ends before `rest`. -/
def scaled (negative : Bool) (significand : Nat) (exponent : Int) (rest : List Char) :
    Except Fault (Number × List Char) :=
  match scale significand exponent with
  | none => .error (.here .numberOutOfRange rest)
  | some x => .ok (.floating (if negative then -x else x), rest)

/-- Reads digits for as long as their value stays within `limit`.  The value is missing if it does
    not; then the digit that led out of the range is the last one read. -/
def boundedValue (limit : Nat) : Nat → List Char → Option Nat × List Char
  | n, [] => (some n, [])
  | n, c :: s =>
    if c.isDigit then
      let m := 10 * n + Text.digitValue c
      if m ≤ limit then boundedValue limit m s else (none, s)
    else (some n, c :: s)

/-- Reads an optional sign; the flag tells whether it is a minus. -/
def scanSign (s : List Char) : Bool × List Char :=
  match s with
  | [] => (false, [])
  | c :: r => if c = '-' then (true, r) else if c = '+' then (false, r) else (false, c :: r)

/-- The exponent after its letter.  Exponents beyond 31 bits give zero or are out of range. -/
def scanExponent (negative : Bool) (significand : Nat) (start : Int) (s : List Char) :
    Except Fault (Number × List Char) :=
  let (down, s) := scanSign s
  match s with
  | [] => .error (.here .endInValue [])
  | c :: _ =>
    if !c.isDigit then .error (.peek .invalidNumber s)
    else match boundedValue 2147483647 0 s with
      | (some e, rest) => scaled negative significand (if down then start - e else start + e) rest
      | (none, rest) =>
        if significand ≠ 0 && !down then .error (.here .numberOutOfRange rest)
        else .ok (.floating (if negative then -0.0 else 0.0), rest.dropWhile Char.isDigit)

/-- Whether a text goes on with an exponent. -/
def startsExponent (s : List Char) : Bool := s.head? == some 'e' || s.head? == some 'E'

/-- What follows the digits before the point; `dropped` of these were beyond the significand. -/
def scanFraction (negative : Bool) (significand dropped : Nat) (s : List Char) :
    Except Fault (Number × List Char) :=
  if s.head? == some '.' then
    let digits := s.tail.takeWhile Char.isDigit
    let rest := s.tail.dropWhile Char.isDigit
    if digits = [] then .error (.peek (if rest = [] then .endInValue else .invalidNumber) rest)
    else
      let (significand, lost) := accumulate significand digits
      let exponent : Int := dropped - (digits.length - lost : Nat)
      if startsExponent rest then scanExponent negative significand exponent rest.tail
      else scaled negative significand exponent rest
  else if startsExponent s then scanExponent negative significand dropped s.tail
  else if dropped ≠ 0 then scaled negative significand dropped s
  else if !negative then .ok (.natural significand, s)
  else if significand = 0 || significand > 9223372036854775808 then scaled true significand 0 s
  else .ok (.negative significand, s)

/-- Reads a number whose sign, if any, has been read. -/
def scanNumber (negative : Bool) (s : List Char) : Except Fault (Number × List Char) :=
  match s with
  | [] => .error (.here .endInValue [])
  | c :: r =>
    if !c.isDigit then .error (.peek .invalidNumber s)
    else if c = '0' then
      if r.head?.any Char.isDigit then .error (.peek .invalidNumber r)
      else scanFraction negative 0 0 r
    else
      let (significand, dropped) := accumulate 0 (s.takeWhile Char.isDigit)
      scanFraction negative significand dropped (s.dropWhile Char.isDigit)

/-- What is left after scaling is no longer. -/
theorem scaled_length {neg : Bool} {m : Nat} {e : Int} {s r : List Char} {x : Number}
    (h : scaled neg m e s = .ok (x, r)) : r.length ≤ s.length := by
  unfold scaled at h
  split at h <;> cases h
  exact Nat.le_refl _

/-- What is left after the digits of a bounded value is no longer. -/
theorem boundedValue_length (limit n : Nat) (s : List Char) :
    (boundedValue limit n s).2.length ≤ s.length := by
  induction s generalizing n with
  | nil => exact Nat.le_refl _
  | cons c s ih =>
    unfold boundedValue
    split
    · dsimp only
      split
      · exact Nat.le_succ_of_le (ih _)
      · exact Nat.le_succ _
    · exact Nat.le_refl _

/-- Nor is what is left after a sign. -/
theorem scanSign_length (s : List Char) : (scanSign s).2.length ≤ s.length := by
  unfold scanSign
  split
  · exact Nat.le_refl _
  · split
    · exact Nat.le_succ _
    · split
      · exact Nat.le_succ _
      · exact Nat.le_refl _

/-- What is left after an exponent is no longer. -/
theorem scanExponent_length {neg : Bool} {m : Nat} {e : Int} {s r : List Char} {x : Number}
    (h : scanExponent neg m e s = .ok (x, r)) : r.length ≤ s.length := by
  unfold scanExponent at h
  dsimp only at h
  refine Nat.le_trans ?_ (scanSign_length s)
  split at h
  · cases h
  · split at h
    · cases h
    · have hb := boundedValue_length 2147483647 0 (scanSign s).2
      split at h <;> rename_i heq <;> rw [heq] at hb
      · exact Nat.le_trans (scaled_length h) hb
      · split at h <;> cases h
        exact Nat.le_trans (List.dropWhile_suffix _).length_le hb

/-- What is left after a fraction is no longer. -/
theorem scanFraction_length {neg : Bool} {m d : Nat} {s r : List Char} {x : Number}
    (h : scanFraction neg m d s = .ok (x, r)) : r.length ≤ s.length := by
  have htail (t : List Char) : t.tail.length ≤ t.length := by simp
  unfold scanFraction at h
  dsimp only at h
  split at h
  · have hrest : (s.tail.dropWhile Char.isDigit).length ≤ s.length :=
      Nat.le_trans (List.dropWhile_suffix _).length_le (htail s)
    split at h
    · cases h
    · split at h
      · exact Nat.le_trans (scanExponent_length h) (Nat.le_trans (htail _) hrest)
      · exact Nat.le_trans (scaled_length h) hrest
  · split at h
    · exact Nat.le_trans (scanExponent_length h) (htail s)
    · split at h
      · exact scaled_length h
      · split at h
        · cases h; exact Nat.le_refl _
        · split at h
          · exact scaled_length h
          · cases h; exact Nat.le_refl _

/-- A number has at least one digit. -/
theorem scanNumber_length {neg : Bool} {s r : List Char} {x : Number}
    (h : scanNumber neg s = .ok (x, r)) : r.length < s.length := by
  unfold scanNumber at h
  split at h
  · cases h
  · rename_i c t
    split at h
    · cases h
    · rename_i hc
      split at h
      · split at h
        · cases h
        · exact Nat.lt_succ_of_le (scanFraction_length h)
      · refine Nat.lt_of_le_of_lt (scanFraction_length h) ?_
        have hd : c.isDigit = true := by simpa using hc
        simp only [List.dropWhile_cons, hd, if_true]
        exact Nat.lt_succ_of_le (List.dropWhile_suffix _).length_le

/-! ### Strings -/

/-- The value of a hexadecimal digit of either case. -/
def hexValue? (c : Char) : Option Nat :=
  if '0' ≤ c ∧ c ≤ '9' then some (c.toNat - 48)
  else if 'a' ≤ c ∧ c ≤ 'f' then some (c.toNat - 87)
  else if 'A' ≤ c ∧ c ≤ 'F' then some (c.toNat - 55)
  else none

/-- Reads four hexadecimal digits.  Four bytes are taken whatever they are. -/
def scanHex (s : List Char) : Except Fault (Nat × List Char) :=
  let bad : Fault :=
    if byteSize s < 4 then ⟨.endInString, s, byteSize s⟩ else ⟨.invalidEscape, s, 4⟩
  match s with
  | a :: b :: c :: d :: r =>
    match hexValue? a, hexValue? b, hexValue? c, hexValue? d with
    | some a, some b, some c, some d => .ok (4096 * a + 256 * b + 16 * c + d, r)
    | _, _, _, _ => .error bad
  | _ => .error bad

/-- Four digits are read. -/
theorem scanHex_length {s r : List Char} {n : Nat} (h : scanHex s = .ok (n, r)) :
    r.length < s.length := by
  unfold scanHex at h
  dsimp only at h
  split at h
  · split at h <;> cases h
    simp only [List.length_cons]; omega
  · cases h

/-- The first half of a surrogate pair. -/
def isLeading (n : Nat) : Bool := 0xD800 ≤ n && n ≤ 0xDBFF

/-- The second half of a surrogate pair. -/
def isTrailing (n : Nat) : Bool := 0xDC00 ≤ n && n ≤ 0xDFFF

/-- The second half of a pair whose first half `lead` ended before `s`. -/
def scanTrailing (lead : Nat) (s : List Char) : Except Fault (Char × List Char) :=
  match s with
  | [] => .error (.here .endInString [])
  | c :: s =>
    if c ≠ '\\' then .error (.peek .endOfHexEscape (c :: s))
    else match s with
      | [] => .error (.here .endInString [])
      | c :: s =>
        if c ≠ 'u' then .error (.peek .endOfHexEscape (c :: s))
        else match scanHex s with
          | .error f => .error f
          | .ok (trail, r) =>
            if isTrailing trail then
              .ok (Char.ofNat (0x10000 + 0x400 * (lead - 0xD800) + (trail - 0xDC00)), r)
            else .error (.here .loneSurrogate r)

/-- The character that a code-unit escape stands for; pairs of surrogates make one character. -/
def scanCodePoint (s : List Char) : Except Fault (Char × List Char) :=
  match scanHex s with
  | .error f => .error f
  | .ok (n, r) =>
    if isTrailing n then .error (.here .loneSurrogate r)
    else if isLeading n then scanTrailing n r
    else .ok (Char.ofNat n, r)

/-- The characters that have a one-letter escape. -/
def shortEscape? (c : Char) : Option Char :=
  if c = '"' then some '"'
  else if c = '\\' then some '\\'
  else if c = '/' then some '/'
  else if c = 'b' then some '\x08'
  else if c = 'f' then some '\x0c'
  else if c = 'n' then some '\n'
  else if c = 'r' then some '\r'
  else if c = 't' then some '\t'
  else none

/-- Reads an escape after its backslash. -/
def scanEscape (s : List Char) : Except Fault (Char × List Char) :=
  match s with
  | [] => .error (.here .endInString [])
  | c :: r =>
    if c = 'u' then scanCodePoint r
    else match shortEscape? c with
      | some x => .ok (x, r)
      | none => .error (.peek .invalidEscape (c :: r))

/-- A continued character is read, at least in part. -/
theorem scanTrailing_length {n : Nat} {s r : List Char} {x : Char}
    (h : scanTrailing n s = .ok (x, r)) : r.length < s.length := by
  unfold scanTrailing at h
  split at h
  · cases h
  · split at h
    · cases h
    · split at h
      · cases h
      · split at h
        · cases h
        · split at h
          · cases h
          · rename_i hx
            have := scanHex_length hx
            split at h
            · simp only [Except.ok.injEq, Prod.mk.injEq] at h
              rw [← h.2]
              exact Nat.lt_succ_of_lt (Nat.lt_succ_of_lt this)
            · cases h

/-- Every code point takes some of the text. -/
theorem scanCodePoint_length {s r : List Char} {x : Char} (h : scanCodePoint s = .ok (x, r)) :
    r.length < s.length := by
  unfold scanCodePoint at h
  split at h
  · cases h
  · rename_i hx
    have := scanHex_length hx
    split at h
    · cases h
    · split at h
      · exact Nat.lt_trans (scanTrailing_length h) this
      · cases h; exact this

/-- Every escape does. -/
theorem scanEscape_length {s r : List Char} {x : Char} (h : scanEscape s = .ok (x, r)) :
    r.length < s.length := by
  unfold scanEscape at h
  split at h
  · cases h
  · split at h
    · exact Nat.lt_succ_of_lt (scanCodePoint_length h)
    · split at h <;> cases h
      exact Nat.lt_succ_self _

/-- Reads the rest of a string after its opening quote. -/
def scanString (s : List Char) : Except Fault (List Char × List Char) :=
  match s with
  | [] => .error (.here .endInString [])
  | c :: r =>
    if c = '"' then .ok ([], r)
    else if c = '\\' then
      match _h : scanEscape r with
      | .error f => .error f
      | .ok (x, t) => (scanString t).map fun (y, u) => (x :: y, u)
    else if c.toNat < 0x20 then .error (.here .controlCharacter r)
    else (scanString r).map fun (y, u) => (c :: y, u)
termination_by s.length
decreasing_by
  · have := scanEscape_length ‹_›
    simp only [List.length_cons]; omega
  · simp

/-- A string has at least its closing quote. -/
theorem scanString_length {s x r : List Char} (h : scanString s = .ok (x, r)) :
    r.length < s.length := by
  fun_induction scanString s generalizing x r with
  | case1 => cases h
  | case2 => cases h; exact Nat.lt_succ_self _
  | case3 => cases h
  | case4 s y t he hb ih =>
    have ht := scanEscape_length he
    match hu : scanString t with
    | .error f => rw [hu] at h; cases h
    | .ok (z, u) =>
      rw [hu] at h; cases h
      have := ih hu
      simp only [List.length_cons]; omega
  | case5 => cases h
  | case6 c s hq hb hc ih =>
    match hu : scanString s with
    | .error f => rw [hu] at h; cases h
    | .ok (z, u) =>
      rw [hu] at h; cases h
      exact Nat.lt_succ_of_lt (ih hu)

end DepthRelay.Json
