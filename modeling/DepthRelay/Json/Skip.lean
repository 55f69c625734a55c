import DepthRelay.Json.Scan

namespace DepthRelay.Json

/-!
# Skipping JSON values

Values that nobody asks for are checked for their form and dropped.  Nesting has no limit, numbers
have no range and surrogates need no partner; the open brackets are kept on a list.

* `skipString`, `skipNumber` — values without parts.
* `skipValue` — any value, inside the given open brackets.
-/

/-! ### Values without parts -/

/-- Skips the rest of a string after its opening quote. -/
def skipString (s : List Char) : Except Fault (List Char) :=
  match s with
  | [] => .error (.here .endInString [])
  | c :: r =>
    if c = '"' then .ok r
    else if c = '\\' then
      match r with
      | [] => .error (.here .endInString [])
      | e :: t =>
        if e = 'u' then
          match _h : scanHex t with
          | .error f => .error f
          | .ok (_, u) => skipString u
        else if (shortEscape? e).isSome then skipString t
        else .error (.peek .invalidEscape r)
    else if c.toNat < 0x20 then .error (.here .controlCharacter (c :: r))
    else skipString r
termination_by s.length
decreasing_by
  · have := scanHex_length ‹_›
    simp only [List.length_cons]; omega
  · simp only [List.length_cons]; omega
  · simp

/-- A string has at least its closing quote. -/
theorem skipString_length {s r : List Char} (h : skipString s = .ok r) : r.length < s.length := by
  fun_induction skipString s with
  | case1 => cases h
  | case2 => cases h; exact Nat.lt_succ_self _
  | case3 => cases h
  | case4 => cases h
  | case5 t n u hu _ ih =>
    have := scanHex_length hu
    have := ih h
    simp only [List.length_cons]; omega
  | case6 e t _ _ _ ih =>
    have := ih h
    simp only [List.length_cons]; omega
  | case7 => cases h
  | case8 => cases h
  | case9 c r _ _ _ ih => exact Nat.lt_succ_of_lt (ih h)

/-- Skips an exponent after its letter. -/
def skipExponent (s : List Char) : Except Fault (List Char) :=
  let s := (scanSign s).2
  match s with
  | [] => .error (.peek .invalidNumber [])
  | c :: r =>
    if c.isDigit then .ok (r.dropWhile Char.isDigit) else .error (.peek .invalidNumber (c :: r))

/-- Skips what follows the digits before the point. -/
def skipFraction (s : List Char) : Except Fault (List Char) :=
  if s.head? == some '.' then
    let digits := s.tail.takeWhile Char.isDigit
    let rest := s.tail.dropWhile Char.isDigit
    if digits = [] then .error (.peek .invalidNumber rest)
    else if startsExponent rest then skipExponent rest.tail
    else .ok rest
  else if startsExponent s then skipExponent s.tail
  else .ok s

/-- Skips a number whose sign, if any, has been read. -/
def skipNumber (s : List Char) : Except Fault (List Char) :=
  match s with
  | [] => .error (.peek .invalidNumber [])
  | c :: r =>
    if !c.isDigit then .error (.peek .invalidNumber s)
    else if c = '0' then
      if r.head?.any Char.isDigit then .error (.peek .invalidNumber r) else skipFraction r
    else skipFraction (r.dropWhile Char.isDigit)

/-- What is left after an exponent is no longer. -/
theorem skipExponent_length {s r : List Char} (h : skipExponent s = .ok r) :
    r.length ≤ s.length := by
  unfold skipExponent at h
  dsimp only at h
  refine Nat.le_trans ?_ (scanSign_length s)
  split at h
  · cases h
  · rename_i c t heq
    rw [heq]
    split at h <;> cases h
    exact Nat.le_trans (List.dropWhile_suffix _).length_le (Nat.le_succ _)

/-- What is left after a fraction is no longer. -/
theorem skipFraction_length {s r : List Char} (h : skipFraction s = .ok r) :
    r.length ≤ s.length := by
  have htail (t : List Char) : t.tail.length ≤ t.length := by simp
  unfold skipFraction at h
  dsimp only at h
  split at h
  · have hrest : (s.tail.dropWhile Char.isDigit).length ≤ s.length :=
      Nat.le_trans (List.dropWhile_suffix _).length_le (htail s)
    split at h
    · cases h
    · split at h
      · exact Nat.le_trans (skipExponent_length h) (Nat.le_trans (htail _) hrest)
      · cases h; exact hrest
  · split at h
    · exact Nat.le_trans (skipExponent_length h) (htail s)
    · cases h; exact Nat.le_refl _

/-- A number has at least one digit. -/
theorem skipNumber_length {s r : List Char} (h : skipNumber s = .ok r) : r.length < s.length := by
  unfold skipNumber at h
  split at h
  · cases h
  · split at h
    · cases h
    · split at h
      · split at h
        · cases h
        · exact Nat.lt_succ_of_le (skipFraction_length h)
      · exact Nat.lt_succ_of_le
          (Nat.le_trans (skipFraction_length h) (List.dropWhile_suffix _).length_le)

/-! ### Values with parts -/

/-- The two kinds of values with parts. -/
inductive Bracket
  | list
  | object
  deriving DecidableEq, Repr

namespace Bracket

/-- The character that ends such a value. -/
def closer : Bracket → Char
  | list => ']'
  | object => '}'

/-- The cause if the document ends inside such a value. -/
def atEnd : Bracket → Reason
  | list => .endInList
  | object => .endInObject

/-- The cause if neither a comma nor the end follows a part. -/
def expectedEnd : Bracket → Reason
  | list => .expectedListEnd
  | object => .expectedObjectEnd

end Bracket

/-- Skips the beginning of a value: all of it if it has no parts, otherwise its opening bracket. -/
def skipStart (s : List Char) : Except Fault (Option Bracket × List Char) :=
  match s with
  | [] => .error (.peek .endInValue [])
  | c :: r =>
    if c = 'n' then (scanWord ['u', 'l', 'l'] r).map (none, ·)
    else if c = 't' then (scanWord ['r', 'u', 'e'] r).map (none, ·)
    else if c = 'f' then (scanWord ['a', 'l', 's', 'e'] r).map (none, ·)
    else if c = '-' then (skipNumber r).map (none, ·)
    else if c.isDigit then (skipNumber s).map (none, ·)
    else if c = '"' then (skipString r).map (none, ·)
    else if c = '[' then .ok (some .list, r)
    else if c = '{' then .ok (some .object, r)
    else .error (.peek .expectedValue s)

/-- Every value begins with some of the text. -/
theorem skipStart_length {s r : List Char} {b : Option Bracket} (h : skipStart s = .ok (b, r)) :
    r.length < s.length := by
  have hmap {x : Except Fault (List Char)} (h : x.map ((none : Option Bracket), ·) = .ok (b, r)) :
      x = .ok r := by
    cases x with
    | error f => cases h
    | ok t => cases h; rfl
  unfold skipStart at h
  split at h
  · cases h
  · split at h
    · exact Nat.lt_succ_of_le (scanWord_length (hmap h))
    · split at h
      · exact Nat.lt_succ_of_le (scanWord_length (hmap h))
      · split at h
        · exact Nat.lt_succ_of_le (scanWord_length (hmap h))
        · split at h
          · exact Nat.lt_succ_of_lt (skipNumber_length (hmap h))
          · split at h
            · exact skipNumber_length (hmap h)
            · split at h
              · exact Nat.lt_succ_of_lt (skipString_length (hmap h))
              · split at h
                · cases h; exact Nat.lt_succ_self _
                · split at h <;> cases h
                  exact Nat.lt_succ_self _

/-- Reads the colon after a key. -/
def scanColon (s : List Char) : Except Fault (List Char) :=
  match skipSpace s with
  | [] => .error (.peek .endInObject [])
  | c :: r => if c = ':' then .ok r else .error (.peek .expectedColon (c :: r))

/-- A colon takes some of the text. -/
theorem scanColon_length {s r : List Char} (h : scanColon s = .ok r) : r.length < s.length := by
  unfold scanColon at h
  have := skipSpace_length s
  split at h
  · cases h
  · rename_i heq
    rw [heq] at this
    split at h <;> cases h
    exact this

/-- Skips what comes before the value of a part: nothing in a list, a key and its colon in an
    object. -/
def skipKey (b : Bracket) (s : List Char) : Except Fault (List Char) :=
  match b with
  | .list => .ok s
  | .object =>
    match skipSpace s with
    | [] => .error (.peek .endInObject [])
    | c :: r =>
      if c = '"' then
        match skipString r with
        | .error f => .error f
        | .ok t => scanColon t
      else .error (.peek .keyNotString (c :: r))

/-- A key takes at least one character. -/
theorem skipKey_object_length {s r : List Char} (h : skipKey .object s = .ok r) :
    r.length < s.length := by
  have hs := skipSpace_length s
  unfold skipKey at h
  dsimp only at h
  split at h
  · cases h
  · next c t ht =>
    rw [ht, List.length_cons] at hs
    split at h
    · split at h
      · cases h
      · next v hv =>
        have h₁ := skipString_length hv
        have h₂ := scanColon_length h
        omega
    · cases h

/-- What is left after a key is no longer. -/
theorem skipKey_length {b : Bracket} {s r : List Char} (h : skipKey b s = .ok r) :
    r.length ≤ s.length := by
  cases b with
  | list =>
    cases h
    exact Nat.le_refl _
  | object => exact Nat.le_of_lt (skipKey_object_length h)

mutual

/-- Skips a value inside the brackets `stack`, and everything up to the end of the outermost. -/
def skipValue (stack : List Bracket) (s : List Char) : Except Fault (List Char) :=
  match _h : skipStart (skipSpace s) with
  | .error f => .error f
  | .ok (none, r) => skipAfter stack r
  | .ok (some b, r) =>
    match _hr : skipSpace r with
    | [] => .error (.peek b.atEnd [])
    | c :: t => if c = b.closer then skipAfter stack t else skipPart b stack (c :: t)
termination_by (s.length, 0)
decreasing_by
  · have h₁ := skipStart_length ‹_›
    have h₂ := skipSpace_length s
    exact Prod.Lex.left _ _ (by omega)
  · have h₁ := skipStart_length ‹_›
    have h₂ := skipSpace_length s
    have h₃ := skipSpace_length r
    rw [_hr, List.length_cons] at h₃
    exact Prod.Lex.left _ _ (by omega)
  · have h₁ := skipStart_length ‹_›
    have h₂ := skipSpace_length s
    have h₃ := skipSpace_length r
    rw [_hr] at h₃
    exact Prod.Lex.left _ _ (by omega)

/-- Skips one part of a `b` value and what follows it. -/
def skipPart (b : Bracket) (stack : List Bracket) (s : List Char) : Except Fault (List Char) :=
  match _h : skipKey b s with
  | .error f => .error f
  | .ok r => skipValue (b :: stack) r
termination_by (s.length, 1)
decreasing_by
  have h₁ := skipKey_length ‹_›
  rcases Nat.lt_or_eq_of_le h₁ with h | h
  · exact Prod.Lex.left _ _ h
  · rw [h]; exact Prod.Lex.right _ (by omega)

/-- Skips what follows a value inside the brackets `stack`. -/
def skipAfter (stack : List Bracket) (s : List Char) : Except Fault (List Char) :=
  match stack with
  | [] => .ok s
  | b :: outer =>
    match _h : skipSpace s with
    | [] => .error (.peek b.atEnd [])
    | c :: r =>
      if c = ',' then skipPart b outer r
      else if c = b.closer then skipAfter outer r
      else .error (.peek b.expectedEnd (c :: r))
termination_by (s.length, 0)
decreasing_by
  · have h₁ := skipSpace_length s
    rw [_h, List.length_cons] at h₁
    exact Prod.Lex.left _ _ (by omega)
  · have h₁ := skipSpace_length s
    rw [_h, List.length_cons] at h₁
    exact Prod.Lex.left _ _ (by omega)

end

/-- How much of a text is left after skipping: a value takes at least one character. -/
structure Skips (s : List Char) : Prop where
  after : ∀ stack r, skipAfter stack s = .ok r → r.length ≤ s.length
  value : ∀ stack r, skipValue stack s = .ok r → r.length < s.length
  part : ∀ b stack r, skipPart b stack s = .ok r → r.length < s.length

section

variable {s r : List Char} {stack : List Bracket}

/-- What is left behind a value is no longer, given the bounds for every shorter text. -/
theorem Skips.of_after (ih : ∀ t : List Char, t.length < s.length → Skips t)
    (h : skipAfter stack s = .ok r) : r.length ≤ s.length := by
  have hs := skipSpace_length s
  rw [skipAfter.eq_def] at h
  split at h
  · cases h
    exact Nat.le_refl _
  · split at h
    · cases h
    · next c t heq =>
      rw [heq, List.length_cons] at hs
      split at h
      · have hpart := (ih t (by omega)).part _ _ _ h
        omega
      · split at h
        · have hafter := (ih t (by omega)).after _ _ h
          omega
        · cases h

/-- A value takes some of the text, given the same. -/
theorem Skips.of_value (ih : ∀ t : List Char, t.length < s.length → Skips t)
    (h : skipValue stack s = .ok r) : r.length < s.length := by
  have hs := skipSpace_length s
  rw [skipValue.eq_def] at h
  split at h
  · cases h
  · next u heq =>
    have hu := skipStart_length heq
    have hafter := (ih u (by omega)).after _ _ h
    omega
  · next b u heq =>
    have hu := skipStart_length heq
    have hu' := skipSpace_length u
    split at h
    · cases h
    · next c t ht =>
      rw [ht] at hu'
      split at h
      · have hafter := (ih t (by rw [List.length_cons] at hu'; omega)).after _ _ h
        rw [List.length_cons] at hu'
        omega
      · have hpart := (ih (c :: t) (by omega)).part _ _ _ h
        omega

/-- So does a part of an array or an object. -/
theorem Skips.of_part {b : Bracket} (ih : ∀ t : List Char, t.length < s.length → Skips t)
    (h : skipPart b stack s = .ok r) : r.length < s.length := by
  rw [skipPart.eq_def] at h
  split at h
  · cases h
  · next u hu =>
    cases b with
    | list =>
      -- An element has no key, so the value starts where the part does.
      simp only [skipKey, Except.ok.injEq] at hu
      subst hu
      exact Skips.of_value ih h
    | object =>
      have hkey := skipKey_object_length hu
      have hvalue := (ih u hkey).value _ _ h
      omega

end

/-- By induction on the length of the text. -/
theorem skips (s : List Char) : Skips s := by
  induction hn : s.length using Nat.strongRecOn generalizing s with
  | ind n ih =>
    subst hn
    have hless (t : List Char) (ht : t.length < s.length) : Skips t := ih _ ht t rfl
    exact ⟨fun _ _ => Skips.of_after hless, fun _ _ => Skips.of_value hless,
      fun _ _ _ => Skips.of_part hless⟩

theorem skipValue_length {stack : List Bracket} {s r : List Char} (h : skipValue stack s = .ok r) :
    r.length < s.length := (skips s).value _ _ h

end DepthRelay.Json
