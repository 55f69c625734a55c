import DepthRelay.Settings.Printer
import DepthRelay.Settings.Reader
import DepthRelay.Proofs.JsonSkipping

namespace DepthRelay.Settings

/-!
# The values of settings in files

* `TextOf` — the texts that a field's value may have: numbers have one, a text has all its
  spellings, and a choice is the string of its name or an object from that name to `null`.
* `readField_text` — each of them is read as the value, whatever has been read before.
* `skipValue_of_readField` — whatever is read for a field could have been skipped as a value, and
  ends at the same place.

A number with a sign, a fraction or an exponent is not a natural number to the reader, and neither
is `-0`.
-/

open Json

/-- Settings `acc` with one field taken from `s`. -/
def adopt (s acc : Settings) : Field → Settings
  | .frameRate => { acc with frameRate := s.frameRate }
  | .exposureTime => { acc with exposureTime := s.exposureTime }
  | .maxPoints => { acc with maxPoints := s.maxPoints }
  | .overflowPolicy => { acc with overflowPolicy := s.overflowPolicy }
  | .delivery => { acc with delivery := s.delivery }
  | .handoffDepth => { acc with handoffDepth := s.handoffDepth }
  | .attachName => { acc with attachName := s.attachName }

/-- Texts of the choice `name`. -/
inductive ChoiceText (name : String) : List Char → Prop
  | plain {s : List Char} (h : Spells name.toList s) : ChoiceText name (quoted s)
  | tagged {m : Member} (formed : m.Formed) (h : Spells name.toList m.key)
      (null : m.value = "null".toList) : ChoiceText name (objectText [] [m])

/-- `v` is a text of the value that a field has in `s`. -/
def TextOf (s : Settings) (v : List Char) : Field → Prop
  | .frameRate => v = number s.frameRate.toNat
  | .exposureTime => v = number s.exposureTime.toNat
  | .maxPoints => v = number s.maxPoints.toNat
  | .overflowPolicy => ChoiceText (policyName s.overflowPolicy) v
  | .delivery => ChoiceText (deliveryName s.delivery) v
  | .handoffDepth => v = number s.handoffDepth.toNat
  | .attachName => ∃ x, Spells s.attachName.toList x ∧ v = quoted x

/-- A natural number begins with a digit. -/
theorem number_head (n : Nat) : ∃ d ds, number n = d :: ds ∧ d.isDigit = true := by
  rcases Nat.eq_zero_or_pos n with rfl | hpos
  · exact ⟨'0', [], rfl, by decide⟩
  · obtain ⟨d, ds, hnumber, hd, -⟩ := number_eq_cons hpos
    exact ⟨d, ds, hnumber, hd⟩

/-- A numeral is a number. -/
theorem isNumber_number (n : Nat) : IsNumber (number n) := by
  have hwhole : Whole (number n) := by
    rcases Nat.eq_zero_or_pos n with rfl | hpos
    · exact .inl rfl
    · obtain ⟨d, ds, hnumber, -, hzero⟩ := number_eq_cons hpos
      refine .inr ⟨⟨Nat.toDigits_ne_nil, fun c hc => ?_⟩, ?_⟩
      · exact Nat.isDigit_of_mem_toDigits (by decide) (by decide) hc
      · simpa [hnumber] using hzero
  exact ⟨[], number n, [], [], by simp, hwhole, .inl rfl, .inl rfl, by simp⟩

/-- The text of a choice is a value. -/
theorem ChoiceText.value {name : String} {v : List Char} (h : ChoiceText name v) : Value v := by
  cases h with
  | plain h => exact .string h.loose
  | @tagged m formed h null =>
    refine .object blank_nil (fun m' hm' => ?_) fun m' hm' => ?_
    · rw [List.mem_singleton.mp hm']
      exact formed
    · rw [List.mem_singleton.mp hm', null]
      exact .word (by simp)

/-- A text of a field's value is the text of a value. -/
theorem TextOf.value {s : Settings} {v : List Char} {f : Field} (h : s.TextOf v f) : Value v := by
  cases f with
  | frameRate | exposureTime | maxPoints | handoffDepth =>
    obtain rfl := h
    exact .number (isNumber_number _)
  | overflowPolicy | delivery => exact ChoiceText.value h
  | attachName =>
    obtain ⟨x, hx, rfl⟩ := h
    exact .string hx.loose

/-! ### Values that are read -/

/-- A number below the limit of its field is read as itself. -/
theorem readNatural_number {limit n : Nat} (hn : n < limit) (hlimit : limit ≤ UInt64.size)
    (kind : String) {lead r : List Char} (hlead : Blank lead) (hr : Stops r) :
    readNatural limit kind (lead ++ (number n ++ r)) = .ok (n, r) := by
  obtain ⟨c, t, rfl, hc⟩ := hr
  obtain ⟨d, ds, hnumber, hd⟩ := number_head n
  have hskip : skipSpace (lead ++ (number n ++ c :: t)) = number n ++ c :: t := by
    rw [hnumber, List.cons_append, hlead.skip_token (isSpace_of_isDigit hd)]
  -- A number begins with a digit, which is no sign.
  have hsign : ((number n ++ c :: t).head? == some '-') = false := by
    rw [hnumber, List.cons_append, List.head?_cons]
    have : d ≠ '-' := by rintro rfl; exact absurd hd (by decide)
    simpa using this
  have hdigit : (number n ++ c :: t).head?.any Char.isDigit = true := by
    rw [hnumber, List.cons_append, List.head?_cons, Option.any_some, hd]
  simp only [readNatural, hskip, hsign, hdigit, Bool.or_true, if_true, Bool.false_eq_true, if_false,
    scanNumber_number (Nat.lt_of_lt_of_le hn hlimit) hc, hn]

/-- A name is read however it is spelled. -/
theorem readName_spells {α : Type} {names : List (String × α)} {name : String} {a : α}
    (hname : names.lookup name = some a) {s : List Char} (h : Spells name.toList s)
    (r : List Char) : readName names (s ++ '"' :: r) = .ok (a, r) := by
  simp only [readName, scanString_spells h, String.ofList_toList, hname]

/-- A choice is read in either of its forms. -/
theorem readChoice_text {α : Type} {names : List (String × α)} {name : String} {a : α}
    (hname : names.lookup name = some a) {v lead : List Char} (h : ChoiceText name v)
    (hlead : Blank lead) (r : List Char) : readChoice names (lead ++ (v ++ r)) = .ok (a, r) := by
  cases h with
  | plain h =>
    rw [quoted_append, readChoice, hlead.skip_token (by decide)]
    exact readName_spells hname h r
  | @tagged m formed h null =>
    have htext : objectText [] [m] ++ r = '{' :: (m.text ++ '}' :: r) := by
      simp [objectText, row]
    have htag : readTag names (m.text ++ '}' :: r) =
        .ok (a, m.between ++ ':' :: (m.toElement.text ++ '}' :: r)) := by
      rw [m.text_append, readTag, formed.before.skip_token (by decide)]
      exact readName_spells hname h _
    have hunit : readUnit (m.toElement.text ++ '}' :: r) = .ok (m.trail ++ '}' :: r) := by
      rw [m.toElement.text_append, null, readUnit, formed.element.lead.skip]
      rfl
    have hend : endTagged (m.trail ++ '}' :: r) = .ok r := by
      rw [endTagged, formed.element.trail.skip_token (by decide)]
      exact if_pos rfl
    have htagged : readTagged names (m.text ++ '}' :: r) = .ok (a, r) := by
      simp only [readTagged, htag, scanColon_blank formed.between, Except.bind, hunit, hend,
        Except.map]
    rw [htext, readChoice, hlead.skip_token (by decide)]
    exact htagged

/-- **Every text of a field's value is read as that value**, whatever has been read before. -/
theorem readField_text {s : Settings} {v : List Char} {f : Field} (h : s.TextOf v f)
    (acc : Settings) {lead r : List Char} (hlead : Blank lead) (hr : Stops r) :
    readField f acc (lead ++ (v ++ r)) = .ok (s.adopt acc f, r) := by
  have h32 : UInt32.size ≤ UInt64.size := by decide
  -- One case for each field: a number within its bounds, a choice by its name, or a text.
  cases f with
  | frameRate =>
    obtain rfl := h
    simp only [readField, readNatural_number s.frameRate.toNat_lt h32 _ hlead hr, Except.map,
      UInt32.ofNat_toNat, adopt]
  | exposureTime =>
    obtain rfl := h
    simp only [readField, readNatural_number s.exposureTime.toNat_lt h32 _ hlead hr, Except.map,
      UInt32.ofNat_toNat, adopt]
  | maxPoints =>
    obtain rfl := h
    simp only [readField, readNatural_number s.maxPoints.toNat_lt (Nat.le_refl _) _ hlead hr,
      Except.map, UInt64.ofNat_toNat, adopt]
  | overflowPolicy =>
    have hname : policyNames.lookup (policyName s.overflowPolicy) = some s.overflowPolicy := by
      cases s.overflowPolicy <;> decide
    simp only [readField, readChoice_text hname h hlead, Except.map, adopt]
  | delivery =>
    have hname : deliveryNames.lookup (deliveryName s.delivery) = some s.delivery := by
      cases s.delivery <;> decide
    simp only [readField, readChoice_text hname h hlead, Except.map, adopt]
  | handoffDepth =>
    obtain rfl := h
    simp only [readField, readNatural_number s.handoffDepth.toNat_lt (Nat.le_refl _) _ hlead hr,
      Except.map, UInt64.ofNat_toNat, adopt]
  | attachName =>
    obtain ⟨x, hx, rfl⟩ := h
    have htext : readText (lead ++ (quoted x ++ r)) = .ok (s.attachName, r) := by
      rw [quoted_append, readText, hlead.skip_token (by decide)]
      simp only [if_true, scanString_spells hx, Except.map, String.ofList_toList]
    simp only [readField, htext, Except.map, adopt]

/-! ### Values that could be skipped -/

variable {s r : List Char}

/-- What is read as a natural number can be skipped as well. -/
theorem skipValue_of_readNatural {limit n : Nat} {kind : String}
    (h : readNatural limit kind s = .ok (n, r)) : skipValue [] s = .ok r := by
  unfold readNatural at h
  dsimp only at h
  have hstart : skipStart (skipSpace s) = .ok (none, r) := by
    generalize skipSpace s = t at h ⊢
    split at h
    · next hhead =>
      -- Whichever way the number is judged, it has been read.
      have hread : ∃ x, scanNumber (t.head? == some '-')
          (if (t.head? == some '-') = true then t.tail else t) = .ok (x, r) := by
        split at h
        · cases h
        · next hscan =>
          split at h
          · cases h
            exact ⟨_, hscan⟩
          · cases h
        · cases h
        · cases h
      obtain ⟨x, hscan⟩ := hread
      have hskip := skipNumber_of_scanNumber hscan
      cases t with
      | nil => cases hhead
      | cons c t =>
        simp only [List.head?_cons, Option.any_some, Option.some_beq_some, Bool.or_eq_true,
          beq_iff_eq, List.tail_cons] at hhead hskip
        by_cases hminus : c = '-'
        · subst hminus
          rw [if_pos rfl] at hskip
          exact skipStart_minus hskip
        · rw [if_neg hminus] at hskip
          exact skipStart_digit (hhead.resolve_left hminus) hskip
    · cases h
  rw [skipValue_whole hstart, skipAfter_nil]

theorem skipValue_of_string {t : List Char} (hs : skipSpace s = '"' :: t)
    (h : skipString t = .ok r) : skipValue [] s = .ok r := by
  rw [skipValue_whole (hs ▸ skipStart_string h), skipAfter_nil]

/-- So can a text. -/
theorem skipValue_of_readText {x : String} (h : readText s = .ok (x, r)) :
    skipValue [] s = .ok r := by
  unfold readText at h
  split at h
  · cases h
  · next c t hs =>
    split at h
    · next hc =>
      subst hc
      obtain ⟨⟨y, u⟩, hy, hyu⟩ := map_eq_ok h
      cases hyu
      exact skipValue_of_string hs (skipString_of_scanString hy)
    · cases h

/-- So can a name. -/
theorem skipString_of_readName {α : Type} {names : List (String × α)} {a : α}
    (h : readName names s = .ok (a, r)) : skipString s = .ok r := by
  unfold readName at h
  split at h
  · cases h
  · next hx =>
    split at h
    · cases h
      exact skipString_of_scanString hx
    · cases h

/-- A tag is a name in quotes. -/
theorem of_readTag {α : Type} {names : List (String × α)} {a : α}
    (h : readTag names s = .ok (a, r)) :
    ∃ t, skipSpace s = '"' :: t ∧ readName names t = .ok (a, r) := by
  unfold readTag at h
  split at h
  · cases h
  · next c t hs =>
    split at h
    · next hc => exact ⟨t, hc ▸ hs, h⟩
    · split at h <;> cases h

/-- A unit begins and ends at once. -/
theorem skipStart_of_readUnit (h : readUnit s = .ok r) : skipStart (skipSpace s) = .ok (none, r) := by
  unfold readUnit at h
  split at h
  · cases h
  · next c t hs =>
    split at h
    · next hc =>
      subst hc
      rw [hs]
      simp only [skipStart, if_true, h, Except.map]
    · cases h

/-- Behind a tagged choice there is a closing brace. -/
theorem of_endTagged (h : endTagged s = .ok r) : skipSpace s = '}' :: r := by
  unfold endTagged at h
  split at h
  · cases h
  · next c t hs =>
    split at h
    · next hc =>
      cases h
      exact hc ▸ hs
    · cases h

/-- The object form of a choice is an object with one member. -/
theorem skipValue_of_readTagged {α : Type} {names : List (String × α)} {a : α} {t : List Char}
    (hs : skipSpace s = '{' :: t) (h : readTagged names t = .ok (a, r)) :
    skipValue [] s = .ok r := by
  unfold readTagged at h
  split at h
  · cases h
  · next a' u htag =>
    obtain ⟨v, hv, hvr⟩ := map_eq_ok h
    obtain ⟨x, hcolon, hx⟩ := bind_eq_ok hv
    obtain ⟨y, hunit, hend⟩ := bind_eq_ok hx
    cases hvr
    obtain ⟨w, hw, hname⟩ := of_readTag htag
    have hkey : skipKey .object t = .ok x := by
      simp only [skipKey, hw, if_true, skipString_of_readName hname, hcolon]
    rw [skipValue_parts (b := .object) (t := t) (by rw [hs]; rfl) ⟨_, w, hw, by decide⟩,
      skipPart_of_key hkey, skipValue_whole (skipStart_of_readUnit hunit), ← skipAfter_skipSpace,
      of_endTagged hend]
    exact (skipAfter_closer (b := .object) r).trans (skipAfter_nil r)

/-- **A choice** that is read can be skipped as well. -/
theorem skipValue_of_readChoice {α : Type} {names : List (String × α)} {a : α}
    (h : readChoice names s = .ok (a, r)) : skipValue [] s = .ok r := by
  unfold readChoice at h
  split at h
  · cases h
  · next c t hs =>
    split at h
    · next hc =>
      subst hc
      exact skipValue_of_string hs (skipString_of_readName h)
    · split at h
      · next hc =>
        subst hc
        exact skipValue_of_readTagged hs h
      · cases h

/-- **What is read for a field could have been skipped as a value**, and ends at the same place. -/
theorem skipValue_of_readField {f : Field} {acc acc' : Settings}
    (h : readField f acc s = .ok (acc', r)) : skipValue [] s = .ok r := by
  cases f with
  | frameRate | exposureTime | maxPoints | handoffDepth =>
    obtain ⟨⟨n, u⟩, hread, hu⟩ := map_eq_ok h
    cases hu
    exact skipValue_of_readNatural hread
  | overflowPolicy | delivery =>
    obtain ⟨⟨a, u⟩, hread, hu⟩ := map_eq_ok h
    cases hu
    exact skipValue_of_readChoice hread
  | attachName =>
    obtain ⟨⟨x, u⟩, hread, hu⟩ := map_eq_ok h
    cases hu
    exact skipValue_of_readText hread

end DepthRelay.Settings
