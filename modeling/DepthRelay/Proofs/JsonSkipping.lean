import DepthRelay.Proofs.JsonGrammar

namespace DepthRelay.Json

/-!
# Values are skipped to their end

* `scanString_spells` — a string that spells a text is read as that text.
* `Value.skip` — any value is skipped, and nothing more.  The induction is on the value: the parts
  of a list or object are skipped one after the other inside its bracket (`skipAfter_row`).
* `skipString_of_scanString`, `skipNumber_of_scanNumber` — whatever is read as a string or a number
  could have been skipped as well, and ends at the same place.
-/

/-! ### Strings -/

/-- Four digits are read as what they stand for. -/
theorem scanHex_of_hex {hex : List Char} {n : Nat} (h : Hex hex n) (r : List Char) :
    scanHex (hex ++ r) = .ok (n, r) := by
  obtain ⟨hw, hx, hy, hz⟩ := h
  simp only [List.cons_append, List.nil_append, scanHex, hw, hx, hy, hz]

/-- The letter `u` begins a number and is none of the letters that stand for a character. -/
theorem ne_u_of_short {l : Char} (h : (shortEscape? l).isSome) : l ≠ 'u' := by
  rintro rfl
  exact absurd h (by decide)

/-- A plain character is read as itself. -/
theorem scanString_plain {c : Char} (hc : Plain c) (s : List Char) :
    scanString (c :: s) = (scanString s).map fun (x, r) => (c :: x, r) := by
  rw [scanString]
  simp only [hc.1, hc.2.1, hc.2.2, if_false]

/-- The first half of a surrogate pair does not end a character, and a second half alone is none. -/
theorem not_trailing_of_leading {n : Nat} (h : isLeading n = true) : isTrailing n = false := by
  simp only [isLeading, isTrailing, Bool.and_eq_true, decide_eq_true_eq, Bool.and_eq_false_iff,
    decide_eq_false_iff_not] at h ⊢
  omega

/-- **A string is read as the text that it spells.** -/
theorem scanString_spells {x s : List Char} (h : Spells x s) (r : List Char) :
    scanString (s ++ '"' :: r) = .ok (x, r) := by
  -- One case for each way to spell a character; the rest of the string follows by induction.
  induction h with
  | nil =>
    rw [List.nil_append, scanString]
    simp only [if_true]
  | plain hc _ ih =>
    rw [List.cons_append, scanString_plain hc, ih]
    rfl
  | @short l c x s hl _ ih =>
    have hu := ne_u_of_short (Option.isSome_of_eq_some hl)
    have hescape : scanEscape (l :: (s ++ '"' :: r)) = .ok (c, s ++ '"' :: r) := by
      simp only [scanEscape, hu, if_false, hl]
    rw [List.cons_append, List.cons_append, scanString_of_escape hescape, ih]
    rfl
  | @unit hex x s n hn hleading htrailing _ ih =>
    have hescape : scanEscape ('u' :: (hex ++ (s ++ '"' :: r))) = .ok (Char.ofNat n, s ++ '"' :: r) := by
      simp only [scanEscape, if_true, scanCodePoint, scanHex_of_hex hn, hleading, htrailing,
        Bool.false_eq_true, if_false]
    rw [List.cons_append, List.cons_append, List.append_assoc, scanString_of_escape hescape, ih]
    rfl
  | @pair hex hex' x s lead trail hlead htrail hleading htrailing _ ih =>
    -- The low surrogate is read behind its own escape, and both make one character.
    have htail : scanTrailing lead ('\\' :: 'u' :: (hex' ++ (s ++ '"' :: r))) = .ok
        (Char.ofNat (0x10000 + 0x400 * (lead - 0xD800) + (trail - 0xDC00)), s ++ '"' :: r) := by
      simp only [scanTrailing, ne_eq, not_true_eq_false, if_false, scanHex_of_hex htrail, htrailing,
        if_true]
    have hescape : scanEscape ('u' :: (hex ++ '\\' :: 'u' :: (hex' ++ (s ++ '"' :: r)))) = .ok
        (Char.ofNat (0x10000 + 0x400 * (lead - 0xD800) + (trail - 0xDC00)), s ++ '"' :: r) := by
      simp only [scanEscape, if_true, scanCodePoint, scanHex_of_hex hlead, hleading,
        not_trailing_of_leading hleading, Bool.false_eq_true, if_false, htail]
    simp only [List.cons_append, List.append_assoc]
    rw [scanString_of_escape hescape, ih]
    rfl

/-- It is skipped as well. -/
theorem skipString_plain {c : Char} (hc : Plain c) (s : List Char) :
    skipString (c :: s) = skipString s := by
  rw [skipString.eq_def]
  simp only [hc.1, hc.2.1, hc.2.2, if_false]

/-- So is a short escape. -/
theorem skipString_short {l : Char} (hl : (shortEscape? l).isSome) (s : List Char) :
    skipString ('\\' :: l :: s) = skipString s := by
  rw [skipString.eq_def]
  simp only [show ('\\' : Char) ≠ '"' by decide, if_false, if_true, ne_u_of_short hl, hl]

/-- Four digits in base 16 are skipped where they can be read. -/
theorem skipString_unit {s t : List Char} {n : Nat} (h : scanHex s = .ok (n, t)) :
    skipString ('\\' :: 'u' :: s) = skipString t := by
  rw [skipString.eq_def]
  simp only [show ('\\' : Char) ≠ '"' by decide, if_false, if_true]
  -- The branches need the equation for their termination, so it cannot be rewritten in place.
  split <;> rename_i heq <;> rw [h] at heq <;> cases heq
  rfl

/-- A string is skipped to its closing quote. -/
theorem skipString_loose {s : List Char} (h : Loose s) (r : List Char) :
    skipString (s ++ '"' :: r) = .ok r := by
  induction h with
  | nil =>
    rw [List.nil_append, skipString.eq_def]
    simp only [if_true]
  | plain hc _ ih => rw [List.cons_append, skipString_plain hc, ih]
  | short hl _ ih => rw [List.cons_append, List.cons_append, skipString_short hl, ih]
  | unit hn _ ih =>
    rw [List.cons_append, List.cons_append, List.append_assoc,
      skipString_unit (scanHex_of_hex hn _), ih]

/-- An escape that is read could have been skipped: the two halves of a surrogate pair are skipped
    one after the other. -/
theorem skipString_of_scanEscape {s t : List Char} {c : Char} (h : scanEscape s = .ok (c, t)) :
    skipString ('\\' :: s) = skipString t := by
  -- A reader of escapes looks at every character that a skipper looks at, and at some more.
  unfold scanEscape at h
  split at h
  · cases h
  · next l r =>
    split at h
    · next hu =>
      subst hu
      unfold scanCodePoint at h
      split at h
      · cases h
      · next n u hhex =>
        rw [skipString_unit hhex]
        split at h
        · cases h
        · -- A high surrogate is followed by the unit of a low one, which is skipped like any other.
          split at h
          · unfold scanTrailing at h
            split at h
            · cases h
            · split at h
              · cases h
              · next hslash =>
                split at h
                · cases h
                · split at h
                  · cases h
                  · next hu' =>
                    split at h
                    · cases h
                    · next hhex' =>
                      split at h
                      · rw [Decidable.not_not.mp hslash, Decidable.not_not.mp hu',
                          skipString_unit hhex', (Prod.mk.inj (Except.ok.inj h)).2]
                      · cases h
          · cases h
            rfl
    · split at h
      · next hl =>
        cases h
        exact skipString_short (Option.isSome_of_eq_some hl) t
      · cases h

/-- A character in front of what is read does not change what is left. -/
theorem of_scanString_map {c : Char} {s x r : List Char}
    (h : ((scanString s).map fun (y, u) => (c :: y, u)) = .ok (x, r)) :
    ∃ y, scanString s = .ok (y, r) := by
  cases hs : scanString s with
  | error f =>
    rw [hs] at h
    cases h
  | ok p =>
    rw [hs] at h
    cases h
    exact ⟨p.1, rfl⟩

/-- **A string that is read could have been skipped**, and ends at the same place. -/
theorem skipString_of_scanString {s x r : List Char} (h : scanString s = .ok (x, r)) :
    skipString s = .ok r := by
  fun_induction scanString s generalizing x r with
  | case1 => cases h
  | case2 =>
    cases h
    rw [skipString.eq_def]
    simp only [if_true]
  | case3 => cases h
  | case4 s c t he hquote ih =>
    obtain ⟨y, hy⟩ := of_scanString_map h
    rw [skipString_of_scanEscape he]
    exact ih hy
  | case5 => cases h
  | case6 c s hquote hslash hcontrol ih =>
    obtain ⟨y, hy⟩ := of_scanString_map h
    rw [skipString_plain ⟨hquote, hslash, hcontrol⟩]
    exact ih hy

/-! ### Numbers -/

/-- Digits are taken up to where they stop. -/
theorem takeWhile_digits {ds s : List Char} (hds : ∀ c ∈ ds, c.isDigit = true)
    (hs : s.head?.any Char.isDigit = false) : (ds ++ s).takeWhile Char.isDigit = ds := by
  rw [List.takeWhile_append_of_pos hds]
  cases s with
  | nil => simp
  | cons c t => rw [List.takeWhile_cons_of_neg (by simpa using hs), List.append_nil]

/-- What is left begins where they stop. -/
theorem dropWhile_digits {ds s : List Char} (hds : ∀ c ∈ ds, c.isDigit = true)
    (hs : s.head?.any Char.isDigit = false) : (ds ++ s).dropWhile Char.isDigit = s := by
  rw [List.dropWhile_append_of_pos hds]
  cases s with
  | nil => rfl
  | cons c t => exact List.dropWhile_cons_of_neg (by simpa using hs)

/-- Where a number stops there is no more of one. -/
theorem Stops.head {s : List Char} (h : Stops s) :
    s.head?.any Char.isDigit = false ∧ s.head? ≠ some '.' ∧ startsExponent s = false := by
  obtain ⟨c, t, rfl, hc⟩ := h
  simp only [endsNumber, Bool.and_eq_true, Bool.not_eq_true', bne_iff_ne] at hc
  obtain ⟨⟨⟨hdigit, hpoint⟩, he⟩, hE⟩ := hc
  exact ⟨by simpa using hdigit, by simpa using hpoint, by simp [startsExponent, he, hE]⟩

/-- After a sign, the digits are left. -/
theorem scanSign_append {sign ds : List Char} (hsign : sign ∈ [[], ['+'], ['-']]) (hds : Digits ds)
    (s : List Char) : (scanSign (sign ++ (ds ++ s))).2 = ds ++ s := by
  simp only [List.mem_cons, List.not_mem_nil, or_false] at hsign
  rcases hsign with rfl | rfl | rfl
  · obtain ⟨hne, hall⟩ := hds
    obtain ⟨c, t, rfl⟩ := List.exists_cons_of_ne_nil hne
    have hdigit := hall c List.mem_cons_self
    have hminus : c ≠ '-' := by rintro rfl; exact absurd hdigit (by decide)
    have hplus : c ≠ '+' := by rintro rfl; exact absurd hdigit (by decide)
    simp only [List.nil_append, List.cons_append, scanSign, hminus, hplus, if_false]
  · rfl
  · rfl

/-- An exponent is skipped after its letter, -/
theorem Exponent.skip {s r : List Char} (h : Exponent s) (hr : Stops r) :
    (if startsExponent (s ++ r) then skipExponent (s ++ r).tail else .ok (s ++ r)) = .ok r := by
  obtain ⟨hdigit, -, hexponent⟩ := hr.head
  rcases h with rfl | ⟨e, sign, ds, he, hsign, hds, rfl⟩
  · rw [List.nil_append, if_neg (by simp [hexponent])]
  · have hstarts : startsExponent (e :: (sign ++ ds) ++ r) = true := by
      rcases he with rfl | rfl <;> rfl
    rw [if_pos hstarts, List.cons_append, List.tail_cons, List.append_assoc]
    unfold skipExponent
    dsimp only
    rw [scanSign_append hsign hds]
    obtain ⟨hne, hall⟩ := hds
    obtain ⟨c, t, rfl⟩ := List.exists_cons_of_ne_nil hne
    simp only [List.cons_append, hall c List.mem_cons_self, if_true]
    rw [dropWhile_digits (fun d hd => hall d (List.mem_cons_of_mem c hd)) hdigit]

/-- An exponent begins neither with a digit nor with a point. -/
theorem Exponent.head {s r : List Char} (h : Exponent s) (hr : Stops r) :
    (s ++ r).head?.any Char.isDigit = false ∧ (s ++ r).head? ≠ some '.' := by
  rcases h with rfl | ⟨e, sign, ds, he, -, -, rfl⟩
  · exact ⟨hr.head.1, hr.head.2.1⟩
  · rcases he with rfl | rfl <;> exact ⟨rfl, by simp⟩

/-- and so is what stands between the digits before the point and the end. -/
theorem Fraction.skip {s t r : List Char} (h : Fraction s) (ht : Exponent t) (hr : Stops r) :
    skipFraction (s ++ (t ++ r)) = .ok r := by
  obtain ⟨hdigit, hpoint⟩ := ht.head hr
  rcases h with rfl | ⟨ds, ⟨hne, hall⟩, rfl⟩
  · unfold skipFraction
    rw [List.nil_append, if_neg (by simpa using hpoint)]
    exact ht.skip hr
  · unfold skipFraction
    dsimp only
    rw [List.cons_append, if_pos (by rfl), List.tail_cons, takeWhile_digits hall hdigit,
      dropWhile_digits hall hdigit, if_neg hne]
    exact ht.skip hr

/-- Nor does a fraction begin with a digit. -/
theorem Fraction.head {s t r : List Char} (h : Fraction s) (ht : Exponent t) (hr : Stops r) :
    (s ++ (t ++ r)).head?.any Char.isDigit = false := by
  rcases h with rfl | ⟨ds, -, rfl⟩
  · exact (ht.head hr).1
  · rfl

/-- **A number is skipped**, if what follows does not go on with it. -/
theorem skipNumber_whole {s t u r : List Char} (hs : Whole s) (ht : Fraction t) (hu : Exponent u)
    (hr : Stops r) : skipNumber (s ++ (t ++ (u ++ r))) = .ok r := by
  have hdigit := ht.head hu hr
  rcases hs with rfl | ⟨⟨hne, hall⟩, hzero⟩
  · simp only [List.cons_append, List.nil_append, skipNumber, hdigit,
      show ('0' : Char).isDigit = true by decide, Bool.not_true, Bool.false_eq_true, if_false, if_true]
    exact ht.skip hu hr
  · obtain ⟨c, ds, rfl⟩ := List.exists_cons_of_ne_nil hne
    have hc : c ≠ '0' := by simpa using hzero
    simp only [List.cons_append, skipNumber, hall c List.mem_cons_self, hc, Bool.not_true,
      Bool.false_eq_true, if_false]
    rw [dropWhile_digits (fun d hd => hall d (List.mem_cons_of_mem c hd)) hdigit]
    exact ht.skip hu hr

/-- Reading the value of an exponent stops after its digits, or among them. -/
theorem boundedValue_rest (limit n : Nat) (s : List Char) :
    (boundedValue limit n s).2.dropWhile Char.isDigit = s.dropWhile Char.isDigit ∧
      ((boundedValue limit n s).1.isSome →
        (boundedValue limit n s).2 = s.dropWhile Char.isDigit) := by
  induction s generalizing n with
  | nil => exact ⟨rfl, fun _ => rfl⟩
  | cons c s ih =>
    unfold boundedValue
    split
    · next hc =>
      dsimp only
      split
      · rw [List.dropWhile_cons_of_pos hc]
        exact ih _
      · rw [List.dropWhile_cons_of_pos hc]
        exact ⟨rfl, fun h => absurd h (by simp)⟩
    · next hc =>
      rw [List.dropWhile_cons_of_neg hc]
      exact ⟨rfl, fun _ => rfl⟩

/-- A scaled number leaves all of the text. -/
theorem rest_of_scaled {negative : Bool} {m : Nat} {e : Int} {s r : List Char} {x : Number}
    (h : scaled negative m e s = .ok (x, r)) : s = r := by
  unfold scaled at h
  split at h
  · cases h
  · exact congrArg Prod.snd (Except.ok.inj h)

/-- An exponent is skipped where it can be read. -/
theorem skipExponent_of_scanExponent {negative : Bool} {m : Nat} {e : Int} {s r : List Char}
    {x : Number} (h : scanExponent negative m e s = .ok (x, r)) : skipExponent s = .ok r := by
  unfold scanExponent at h
  dsimp only at h
  unfold skipExponent
  dsimp only
  generalize (scanSign s).2 = t at h ⊢
  cases t with
  | nil => cases h
  | cons c t =>
    dsimp only at h ⊢
    cases hc : c.isDigit with
    | false =>
      rw [hc] at h
      cases h
    | true =>
      rw [hc] at h
      obtain ⟨hdropped, hdigits⟩ := boundedValue_rest 2147483647 0 (c :: t)
      rw [List.dropWhile_cons_of_pos hc] at hdropped hdigits
      have hr : t.dropWhile Char.isDigit = r := by
        simp only [Bool.not_true, Bool.false_eq_true, if_false] at h
        split at h
        · next v rest heq =>
          rw [heq] at hdigits
          exact (hdigits rfl).symm.trans (rest_of_scaled h)
        · next rest heq =>
          rw [heq] at hdropped
          split at h
          · cases h
          · exact hdropped.symm.trans (congrArg Prod.snd (Except.ok.inj h))
      rw [if_pos rfl, hr]

/-- A fraction is skipped where it can be read. -/
theorem skipFraction_of_scanFraction {negative : Bool} {m d : Nat} {s r : List Char} {x : Number}
    (h : scanFraction negative m d s = .ok (x, r)) : skipFraction s = .ok r := by
  unfold scanFraction at h
  dsimp only at h
  unfold skipFraction
  dsimp only
  split at h
  · next hpoint =>
    rw [if_pos hpoint]
    split at h
    · cases h
    · next hdigits =>
      rw [if_neg hdigits]
      split at h
      · next he =>
        rw [if_pos he]
        exact skipExponent_of_scanExponent h
      · next he => rw [if_neg he, rest_of_scaled h]
  · next hpoint =>
    rw [if_neg hpoint]
    split at h
    · next he =>
      rw [if_pos he]
      exact skipExponent_of_scanExponent h
    · next he =>
      rw [if_neg he]
      -- Without point and exponent, what is left has not changed.
      have hr : s = r := by
        split at h
        · exact rest_of_scaled h
        · split at h
          · exact congrArg Prod.snd (Except.ok.inj h)
          · split at h
            · exact rest_of_scaled h
            · exact congrArg Prod.snd (Except.ok.inj h)
      rw [hr]

/-- **A number that is read could have been skipped**, and ends at the same place. -/
theorem skipNumber_of_scanNumber {negative : Bool} {s r : List Char} {x : Number}
    (h : scanNumber negative s = .ok (x, r)) : skipNumber s = .ok r := by
  cases s with
  | nil => cases h
  | cons c t =>
    unfold scanNumber at h
    unfold skipNumber
    dsimp only at h ⊢
    split at h
    · cases h
    · next hc =>
      rw [if_neg hc]
      split at h
      · next hzero =>
        rw [if_pos hzero]
        split at h
        · cases h
        · next hdigit =>
          rw [if_neg hdigit]
          exact skipFraction_of_scanFraction h
      · next hzero =>
        rw [if_neg hzero]
        rw [List.dropWhile_cons_of_pos (by simpa using hc)] at h
        exact skipFraction_of_scanFraction h

/-! ### Values -/

/-- The values without parts that begin with a quote, a minus or a digit. -/
theorem skipStart_string {s r : List Char} (h : skipString s = .ok r) :
    skipStart ('"' :: s) = .ok (none, r) := by
  simp only [skipStart, show ('"' : Char) ≠ 'n' by decide, show ('"' : Char) ≠ 't' by decide,
    show ('"' : Char) ≠ 'f' by decide, show ('"' : Char) ≠ '-' by decide,
    show ('"' : Char).isDigit = false by decide, Bool.false_eq_true, if_false, if_true, h, Except.map]

/-- A number that begins with a minus sign is skipped. -/
theorem skipStart_minus {s r : List Char} (h : skipNumber s = .ok r) :
    skipStart ('-' :: s) = .ok (none, r) := by
  simp only [skipStart, show ('-' : Char) ≠ 'n' by decide, show ('-' : Char) ≠ 't' by decide,
    show ('-' : Char) ≠ 'f' by decide, if_false, if_true, h, Except.map]

/-- A value that starts with a digit is a number. -/
theorem skipStart_digit {c : Char} {s r : List Char} (hc : c.isDigit = true)
    (h : skipNumber (c :: s) = .ok r) : skipStart (c :: s) = .ok (none, r) := by
  have hletter (l : Char) (hl : l.isDigit = false) : c ≠ l := by
    rintro rfl
    exact absurd (hc.symm.trans hl) (by simp)
  simp only [skipStart, hletter 'n' (by decide), hletter 't' (by decide), hletter 'f' (by decide),
    hletter '-' (by decide), hc, if_false, if_true, h, Except.map]

/-- A number is skipped as a whole, if something comes after it that ends it. -/
theorem IsNumber.skip {s r : List Char} (h : IsNumber s) (hr : Stops r) :
    skipStart (s ++ r) = .ok (none, r) := by
  obtain ⟨sign, whole, fraction, exponent, hsign, hwhole, hfraction, hexponent, rfl⟩ := h
  have hskip := skipNumber_whole hwhole hfraction hexponent hr
  simp only [List.mem_cons, List.not_mem_nil, or_false] at hsign
  rcases hsign with rfl | rfl
  · obtain ⟨c, ds, rfl, hc⟩ := hwhole.head
    simp only [List.nil_append, List.append_assoc, List.cons_append] at hskip ⊢
    exact skipStart_digit hc hskip
  · simp only [List.cons_append, List.nil_append, List.append_assoc]
    exact skipStart_minus hskip

/-- A text is skipped as a value, with blanks before it, wherever it stands. -/
def Skipped (v : List Char) : Prop :=
  ∀ (stack : List Bracket) (blanks r : List Char), Blank blanks → Stops r →
    skipValue stack (blanks ++ (v ++ r)) = skipAfter stack r

section

variable {b : Bracket} {stack : List Bracket} {s t r : List Char}

/-- A value without parts is done where it ends. -/
theorem skipValue_whole (h : skipStart (skipSpace s) = .ok (none, r)) :
    skipValue stack s = skipAfter stack r := by
  rw [skipValue.eq_def]
  split <;> rename_i heq <;> rw [h] at heq <;> cases heq
  rfl

/-- A list or an object without parts. -/
theorem skipValue_empty (h : skipStart (skipSpace s) = .ok (some b, t))
    (hend : skipSpace t = b.closer :: r) : skipValue stack s = skipAfter stack r := by
  rw [skipValue.eq_def]
  split <;> rename_i heq <;> rw [h] at heq <;> cases heq
  split <;> rename_i heq <;> rw [hend] at heq <;> cases heq
  exact if_pos rfl

/-- Blanks in front of a part do not matter. -/
theorem skipPart_skipSpace (b : Bracket) (stack : List Bracket) (s : List Char) :
    skipPart b stack (skipSpace s) = skipPart b stack s := by
  cases b with
  | list =>
    rw [skipPart.eq_def, skipPart.eq_def .list]
    simp only [skipKey]
    rw [skipValue.eq_def, skipValue.eq_def _ s, skipSpace_skipSpace]
  | object =>
    have hkey : skipKey .object (skipSpace s) = skipKey .object s := by
      simp only [skipKey, skipSpace_skipSpace]
    rw [skipPart.eq_def, skipPart.eq_def .object, hkey]

/-- A list or an object with parts. -/
theorem skipValue_parts (h : skipStart (skipSpace s) = .ok (some b, t))
    (hpart : ∃ c u, skipSpace t = c :: u ∧ c ≠ b.closer) :
    skipValue stack s = skipPart b stack t := by
  obtain ⟨c, u, hspace, hc⟩ := hpart
  rw [← skipPart_skipSpace, hspace, skipValue.eq_def]
  split <;> rename_i heq <;> rw [h] at heq <;> cases heq
  split <;> rename_i heq <;> rw [hspace] at heq <;> cases heq
  exact if_neg hc

/-- After its key a part is a value. -/
theorem skipPart_of_key (h : skipKey b s = .ok t) : skipPart b stack s = skipValue (b :: stack) t := by
  rw [skipPart.eq_def]
  split <;> rename_i heq <;> rw [h] at heq <;> cases heq
  rfl

/-- Blanks after a value are skipped. -/
theorem skipAfter_skipSpace (s : List Char) :
    skipAfter (b :: stack) (skipSpace s) = skipAfter (b :: stack) s := by
  rw [skipAfter.eq_def, skipAfter.eq_def _ s]
  dsimp only
  rw [skipSpace_skipSpace]

theorem skipAfter_blank {blanks : List Char} (h : Blank blanks) (s : List Char) :
    skipAfter (b :: stack) (blanks ++ s) = skipAfter (b :: stack) s := by
  rw [← skipAfter_skipSpace, h.skip, skipAfter_skipSpace]

/-- After a comma there is one part more. -/
theorem skipAfter_comma (s : List Char) :
    skipAfter (b :: stack) (',' :: s) = skipPart b stack s := by
  rw [skipAfter.eq_def]
  dsimp only
  rw [skipSpace_of_not (by decide)]
  exact if_pos rfl

/-- A closing bracket takes the innermost open one away. -/
theorem skipAfter_closer (s : List Char) :
    skipAfter (b :: stack) (b.closer :: s) = skipAfter stack s := by
  have hspace : isSpace b.closer = false := by cases b <;> decide
  have hcomma : b.closer ≠ ',' := by cases b <;> decide
  rw [skipAfter.eq_def]
  dsimp only
  rw [skipSpace_of_not hspace]
  exact (if_neg hcomma).trans (if_pos rfl)

/-- A part is skipped, with the blanks around it, and does not begin like the end of the whole. -/
structure SkippedPart (b : Bracket) (stack : List Bracket) (t : List Char) : Prop where
  skip : ∀ r, Stops r → skipPart b stack (t ++ r) = skipAfter (b :: stack) r
  head : ∀ r, ∃ c u, skipSpace (t ++ r) = c :: u ∧ c ≠ b.closer

theorem skipAfter_nil (s : List Char) : skipAfter [] s = .ok s := by
  rw [skipAfter.eq_def]

/-- The parts of a list or an object that are still to come are skipped one after the other. -/
theorem skipAfter_row {ts : List (List Char)} (hts : ∀ t ∈ ts, SkippedPart b stack t)
    (r : List Char) :
    skipAfter (b :: stack) (ts.flatMap (',' :: ·) ++ b.closer :: r) = skipAfter stack r := by
  induction ts with
  | nil => exact skipAfter_closer r
  | cons t ts ih =>
    have hstops : Stops (ts.flatMap (',' :: ·) ++ b.closer :: r) := by
      cases ts with
      | nil => exact stops_cons (by cases b <;> decide) r
      | cons u us => exact stops_cons (by decide) _
    rw [List.flatMap_cons, List.append_assoc, List.cons_append, skipAfter_comma,
      (hts t List.mem_cons_self).skip _ hstops]
    exact ih fun u hu => hts u (List.mem_cons_of_mem t hu)

/-- A list or an object after its opening bracket. -/
theorem skipValue_row {blanks : List Char} {ts : List (List Char)} (hblanks : Blank blanks)
    (hts : ∀ t ∈ ts, SkippedPart b stack t)
    (hstart : skipStart (skipSpace s) = .ok (some b, row blanks ts ++ b.closer :: r)) :
    skipValue stack s = skipAfter stack r := by
  cases ts with
  | nil =>
    exact skipValue_empty hstart (hblanks.skip_token (by cases b <;> decide) r)
  | cons t ts =>
    have hall := skipAfter_row hts r
    rw [List.flatMap_cons, List.cons_append, List.cons_append, List.append_assoc,
      skipAfter_comma] at hall
    rw [row, List.append_assoc] at hstart
    rw [skipValue_parts hstart ((hts t List.mem_cons_self).head _), hall]

end

/-- A colon is found behind blanks. -/
theorem scanColon_blank {blanks : List Char} (h : Blank blanks) (s : List Char) :
    scanColon (blanks ++ ':' :: s) = .ok s := by
  unfold scanColon
  rw [h.skip_token (by decide)]
  exact if_pos rfl

theorem Element.text_append (e : Element) (r : List Char) :
    e.text ++ r = e.lead ++ (e.value ++ (e.trail ++ r)) := by
  simp only [Element.text, List.append_assoc]

theorem Member.text_append (m : Member) (r : List Char) :
    m.text ++ r = m.before ++ '"' :: (m.key ++ '"' :: (m.between ++ ':' :: (m.toElement.text ++ r))) := by
  simp only [Member.text, List.append_assoc, quoted_append, List.cons_append]

/-- **An element** is skipped, with the blanks around it. -/
theorem Element.skip {e : Element} (he : e.Formed) (hv : Skipped e.value) (b : Bracket)
    (stack : List Bracket) {r : List Char} (hr : Stops r) :
    skipValue (b :: stack) (e.text ++ r) = skipAfter (b :: stack) r := by
  rw [e.text_append, hv _ _ _ he.lead (he.trail.stops hr), skipAfter_blank he.trail]

/-- A member of an array is skipped as a part of it. -/
theorem Element.skippedPart {e : Element} (he : e.Formed) (hvalue : Value e.value)
    (hv : Skipped e.value) (stack : List Bracket) : SkippedPart .list stack e.text where
  skip r hr := by
    rw [skipPart_of_key (t := e.text ++ r) rfl]
    exact e.skip he hv .list stack hr
  head r := by
    obtain ⟨c, t, hct, hspace, hlist, -⟩ := hvalue.head
    refine ⟨c, t ++ (e.trail ++ r), ?_, hlist⟩
    rw [e.text_append, hct, List.cons_append, he.lead.skip_token hspace]

/-- A member of an object is skipped as a part of it. -/
theorem Member.skippedPart {m : Member} (hm : m.Formed) (hv : Skipped m.value)
    (stack : List Bracket) : SkippedPart .object stack m.text where
  skip r hr := by
    have hkey : skipKey .object (m.text ++ r) = .ok (m.toElement.text ++ r) := by
      rw [m.text_append]
      simp only [skipKey, hm.before.skip_token (show isSpace '"' = false by decide), if_true,
        skipString_loose hm.key, scanColon_blank hm.between]
    rw [skipPart_of_key hkey]
    exact m.toElement.skip hm.element hv .object stack hr
  head r := by
    rw [m.text_append, hm.before.skip_token (by decide)]
    exact ⟨_, _, rfl, by decide⟩

/-- **A value is skipped to its end**, whatever it is and wherever it stands. -/
theorem Value.skip {v : List Char} (h : Value v) : Skipped v := by
  -- What `skipStart` makes of the beginning tells what is left to do; blanks before it do not count.
  induction h with
  | word h =>
    intro stack blanks r hblanks hr
    simp only [List.mem_cons, List.not_mem_nil, or_false] at h
    rcases h with rfl | rfl | rfl <;>
    · refine skipValue_whole ?_
      rw [hblanks.skip]
      rfl
  | number h =>
    intro stack blanks r hblanks hr
    obtain ⟨c, t, rfl, hc⟩ := h.head
    have hspace : isSpace c = false := by
      rcases hc with rfl | hc
      · decide
      · exact isSpace_of_isDigit hc
    refine skipValue_whole ?_
    rw [List.cons_append, hblanks.skip_token hspace, ← List.cons_append]
    exact h.skip hr
  | @string s h =>
    intro stack blanks r hblanks hr
    refine skipValue_whole ?_
    rw [quoted_append, hblanks.skip_token (by decide)]
    exact skipStart_string (skipString_loose h r)
  | @list inner es hinner formed values ih =>
    intro stack blanks r hblanks hr
    refine skipValue_row hinner (b := .list) (fun t (ht : t ∈ es.map Element.text) => ?_) ?_
    · obtain ⟨e, he, rfl⟩ := List.mem_map.mp ht
      exact e.skippedPart (formed e he) (values e he) (ih e he) stack
    · rw [listText, List.cons_append, hblanks.skip_token (by decide), List.append_assoc]
      rfl
  | @object inner ms hinner formed values ih =>
    intro stack blanks r hblanks hr
    refine skipValue_row hinner (b := .object) (fun t (ht : t ∈ ms.map Member.text) => ?_) ?_
    · obtain ⟨m, hm, rfl⟩ := List.mem_map.mp ht
      exact m.skippedPart (formed m hm) (ih m hm) stack
    · rw [objectText, List.cons_append, hblanks.skip_token (by decide), List.append_assoc]
      rfl

end DepthRelay.Json
