import DepthRelay.Proofs.JsonTokens
import DepthRelay.Json.Skip

namespace DepthRelay.Json

/-!
# The texts of JSON values

The grammar of JSON as it stands in its standard, over texts and without a reader.

* `Blank` — what may stand between tokens.
* `Spells` — the spellings of a text inside a string; `Loose` — strings whose escapes need not make
  characters.
* `IsNumber` — numbers.
* `Element`, `Member` — the parts of lists and objects, with the blanks around them; `listText`,
  `objectText` put them together.
* `Value` — any value.

A text and its parts are kept apart from the blanks around them, so that a value is the same text
wherever it stands.  What follows a value matters only for numbers, which have no end of their own:
`Stops` says that the text does not go on with a number.
-/

/-! ### Blanks -/

/-- Nothing but blanks. -/
def Blank (s : List Char) : Prop := ∀ c ∈ s, isSpace c = true

instance (s : List Char) : Decidable (Blank s) := List.decidableBAll _ s

theorem blank_nil : Blank [] := nofun

/-- Nothing is skipped before a token. -/
theorem skipSpace_of_not {c : Char} (hc : isSpace c = false) (s : List Char) :
    skipSpace (c :: s) = c :: s :=
  List.dropWhile_cons_of_neg (by simp [hc])

@[simp] theorem skipSpace_skipSpace (s : List Char) : skipSpace (skipSpace s) = skipSpace s := by
  cases h : skipSpace s with
  | nil => rfl
  | cons c t =>
    have hc := List.head?_dropWhile_not isSpace s
    rw [show s.dropWhile isSpace = c :: t from h] at hc
    exact skipSpace_of_not (by simpa using hc) t

/-- Blanks before anything are skipped. -/
theorem Blank.skip {blanks : List Char} (h : Blank blanks) (s : List Char) :
    skipSpace (blanks ++ s) = skipSpace s :=
  List.dropWhile_append_of_pos h

theorem Blank.skip_token {blanks : List Char} (h : Blank blanks) {c : Char}
    (hc : isSpace c = false) (s : List Char) : skipSpace (blanks ++ c :: s) = c :: s := by
  rw [h.skip, skipSpace_of_not hc]

/-- No digit is blank. -/
theorem isSpace_of_isDigit {c : Char} (hc : c.isDigit = true) : isSpace c = false := by
  rw [Char.isDigit_iff_toNat] at hc
  simp only [isSpace, Bool.or_eq_false_iff, beq_eq_false_iff_ne, ne_eq]
  refine ⟨⟨⟨?_, ?_⟩, ?_⟩, ?_⟩ <;> rintro rfl <;> exact absurd hc (by decide)

theorem endsNumber_of_isSpace {c : Char} (hc : isSpace c = true) : endsNumber c = true := by
  simp only [isSpace, Bool.or_eq_true, beq_iff_eq] at hc
  rcases hc with ((rfl | rfl) | rfl) | rfl <;> decide

/-- The text goes on with a character that no number goes on with. -/
def Stops (s : List Char) : Prop := ∃ c t, s = c :: t ∧ endsNumber c = true

theorem stops_cons {c : Char} (hc : endsNumber c = true) (s : List Char) : Stops (c :: s) :=
  ⟨c, s, rfl, hc⟩

/-- Blanks do not go on with a number either. -/
theorem Blank.stops {blanks s : List Char} (h : Blank blanks) (hs : Stops s) :
    Stops (blanks ++ s) := by
  cases blanks with
  | nil => exact hs
  | cons c t => exact stops_cons (endsNumber_of_isSpace (h c List.mem_cons_self)) _

/-! ### Strings -/

/-- A character that stands for itself inside a string. -/
def Plain (c : Char) : Prop := c ≠ '"' ∧ c ≠ '\\' ∧ ¬ c.toNat < 0x20

instance (c : Char) : Decidable (Plain c) :=
  inferInstanceAs (Decidable (c ≠ '"' ∧ c ≠ '\\' ∧ ¬ c.toNat < 0x20))

/-- Four hexadecimal digits and their value. -/
inductive Hex : List Char → Nat → Prop
  | digits {w x y z : Char} {a b c d : Nat} (hw : hexValue? w = some a) (hx : hexValue? x = some b)
      (hy : hexValue? y = some c) (hz : hexValue? z = some d) :
      Hex [w, x, y, z] (4096 * a + 256 * b + 16 * c + d)

/-- How a text may stand inside a string: each character for itself, by a letter, by its number, or
    by the numbers of a surrogate pair. -/
inductive Spells : List Char → List Char → Prop
  | nil : Spells [] []
  | plain {c : Char} {x s : List Char} (hc : Plain c) (h : Spells x s) : Spells (c :: x) (c :: s)
  | short {l c : Char} {x s : List Char} (hl : shortEscape? l = some c) (h : Spells x s) :
      Spells (c :: x) ('\\' :: l :: s)
  | unit {hex x s : List Char} {n : Nat} (hn : Hex hex n) (hleading : isLeading n = false)
      (htrailing : isTrailing n = false) (h : Spells x s) :
      Spells (Char.ofNat n :: x) ('\\' :: 'u' :: (hex ++ s))
  | pair {hex hex' x s : List Char} {lead trail : Nat} (hlead : Hex hex lead)
      (htrail : Hex hex' trail) (hleading : isLeading lead = true)
      (htrailing : isTrailing trail = true) (h : Spells x s) :
      Spells (Char.ofNat (0x10000 + 0x400 * (lead - 0xD800) + (trail - 0xDC00)) :: x)
        ('\\' :: 'u' :: (hex ++ '\\' :: 'u' :: (hex' ++ s)))

/-- What may stand inside a string, surrogates without a partner included. -/
inductive Loose : List Char → Prop
  | nil : Loose []
  | plain {c : Char} {s : List Char} (hc : Plain c) (h : Loose s) : Loose (c :: s)
  | short {l : Char} {s : List Char} (hl : (shortEscape? l).isSome) (h : Loose s) :
      Loose ('\\' :: l :: s)
  | unit {hex s : List Char} {n : Nat} (hn : Hex hex n) (h : Loose s) :
      Loose ('\\' :: 'u' :: (hex ++ s))

/-- A text that is spelled out can be read loosely. -/
theorem Spells.loose {x s : List Char} (h : Spells x s) : Loose s := by
  induction h with
  | nil => exact .nil
  | plain hc _ ih => exact .plain hc ih
  | short hl _ ih => exact .short (by simp [hl]) ih
  | unit hn _ _ _ ih => exact .unit hn ih
  | pair hlead htrail _ _ _ ih => exact .unit hlead (.unit htrail ih)

/-- A text without quotes, backslashes and control characters spells itself. -/
theorem spells_plain {x : List Char} (h : ∀ c ∈ x, Plain c) : Spells x x := by
  induction x with
  | nil => exact .nil
  | cons c x ih =>
    exact .plain (h c List.mem_cons_self) (ih fun d hd => h d (List.mem_cons_of_mem c hd))

/-- A character as it is written is one of its spellings. -/
theorem Spells.escape_append {x s : List Char} (h : Spells x s) (c : Char) :
    Spells (c :: x) (escape c ++ s) := by
  obtain ⟨l, -, hl, he⟩ | ⟨hcontrol, he⟩ | ⟨hquote, hslash, hcontrol, he⟩ := escape_cases c
  · rw [he]
    exact .short hl h
  · have hhex := Hex.digits (w := '0') (x := '0') (a := 0) (b := 0) rfl rfl
      (hexValue?_hexDigit (n := c.toNat / 16) (by omega))
      (hexValue?_hexDigit (n := c.toNat % 16) (by omega))
    have hvalue : 4096 * 0 + 256 * 0 + 16 * (c.toNat / 16) + c.toNat % 16 = c.toNat := by omega
    rw [hvalue] at hhex
    have hleading : isLeading c.toNat = false := by
      simp only [isLeading, Bool.and_eq_false_iff, decide_eq_false_iff_not]
      omega
    have htrailing : isTrailing c.toNat = false := by
      simp only [isTrailing, Bool.and_eq_false_iff, decide_eq_false_iff_not]
      omega
    have hunit := Spells.unit hhex hleading htrailing h
    rw [Char.ofNat_toNat] at hunit
    rw [he]
    exact hunit
  · rw [he]
    exact .plain ⟨hquote, hslash, hcontrol⟩ h

/-- **A text as it is written is one of its spellings.** -/
theorem spells_written (x : List Char) : Spells x (x.flatMap escape) := by
  induction x with
  | nil => exact .nil
  | cons c x ih => exact ih.escape_append c

/-- A text between quotes. -/
def quoted (s : List Char) : List Char := '"' :: (s ++ ['"'])

@[simp] theorem quoted_append (s r : List Char) : quoted s ++ r = '"' :: (s ++ '"' :: r) := by
  simp [quoted]

/-! ### Numbers -/

/-- Decimal digits, at least one. -/
def Digits (s : List Char) : Prop := s ≠ [] ∧ ∀ c ∈ s, c.isDigit = true

/-- The digits before the point: zero, or digits that do not begin with one. -/
def Whole (s : List Char) : Prop := s = ['0'] ∨ Digits s ∧ s.head? ≠ some '0'

/-- The point and what follows it, if there is one. -/
def Fraction (s : List Char) : Prop := s = [] ∨ ∃ ds, Digits ds ∧ s = '.' :: ds

/-- The exponent with its letter, if there is one. -/
def Exponent (s : List Char) : Prop :=
  s = [] ∨ ∃ e sign ds, (e = 'e' ∨ e = 'E') ∧ sign ∈ [[], ['+'], ['-']] ∧ Digits ds ∧
    s = e :: (sign ++ ds)

/-- The text of a number. -/
def IsNumber (s : List Char) : Prop :=
  ∃ sign whole fraction exponent, sign ∈ [[], ['-']] ∧ Whole whole ∧ Fraction fraction ∧
    Exponent exponent ∧ s = sign ++ (whole ++ (fraction ++ exponent))

/-! ### Values with parts -/

/-- A value with the blanks around it. -/
structure Element where
  lead : List Char
  value : List Char
  trail : List Char

/-- A key, as it stands between its quotes, and a value, with the blanks around them. -/
structure Member extends Element where
  before : List Char
  key : List Char
  between : List Char

def Element.text (e : Element) : List Char := e.lead ++ (e.value ++ e.trail)

def Member.text (m : Member) : List Char :=
  m.before ++ (quoted m.key ++ (m.between ++ ':' :: m.toElement.text))

/-- There are only blanks around the value. -/
structure Element.Formed (e : Element) : Prop where
  lead : Blank e.lead
  trail : Blank e.trail

/-- The key is a string, and there are only blanks around it and the value. -/
structure Member.Formed (m : Member) : Prop where
  before : Blank m.before
  key : Loose m.key
  between : Blank m.between
  element : m.toElement.Formed

/-- A member without blanks. -/
def Member.bare (key value : List Char) : Member :=
  { before := [], key, between := [], lead := [], value, trail := [] }

theorem Member.bare_formed {key : List Char} (h : Loose key) (value : List Char) :
    (bare key value).Formed :=
  ⟨blank_nil, h, blank_nil, blank_nil, blank_nil⟩

/-- Parts with commas between them, and `blanks` if there are none. -/
def row (blanks : List Char) : List (List Char) → List Char
  | [] => blanks
  | t :: ts => t ++ ts.flatMap (',' :: ·)

def listText (blanks : List Char) (es : List Element) : List Char :=
  '[' :: (row blanks (es.map Element.text) ++ [']'])

def objectText (blanks : List Char) (ms : List Member) : List Char :=
  '{' :: (row blanks (ms.map Member.text) ++ ['}'])

/-- The text of a value.  Keys may occur more than once. -/
inductive Value : List Char → Prop
  | word {s : List Char} (h : s ∈ ["null".toList, "true".toList, "false".toList]) : Value s
  | number {s : List Char} (h : IsNumber s) : Value s
  | string {s : List Char} (h : Loose s) : Value (quoted s)
  | list {blanks : List Char} {es : List Element} (hblanks : Blank blanks)
      (formed : ∀ e ∈ es, e.Formed) (values : ∀ e ∈ es, Value e.value) : Value (listText blanks es)
  | object {blanks : List Char} {ms : List Member} (hblanks : Blank blanks)
      (formed : ∀ m ∈ ms, m.Formed) (values : ∀ m ∈ ms, Value m.value) :
      Value (objectText blanks ms)

/-- The text is the value `v` with nothing but blanks around it. -/
def Document (v text : List Char) : Prop :=
  ∃ before behind, Blank before ∧ Blank behind ∧ text = before ++ (v ++ behind)

/-! ### How values begin -/

/-- A whole part begins with a digit. -/
theorem Whole.head {s : List Char} (h : Whole s) : ∃ c t, s = c :: t ∧ c.isDigit = true := by
  rcases h with rfl | ⟨⟨hne, hall⟩, -⟩
  · exact ⟨'0', [], rfl, by decide⟩
  · obtain ⟨c, t, rfl⟩ := List.exists_cons_of_ne_nil hne
    exact ⟨c, t, rfl, hall c List.mem_cons_self⟩

/-- A number begins with a digit or a minus sign. -/
theorem IsNumber.head {s : List Char} (h : IsNumber s) :
    ∃ c t, s = c :: t ∧ (c = '-' ∨ c.isDigit = true) := by
  obtain ⟨sign, whole, fraction, exponent, hsign, hwhole, -, -, rfl⟩ := h
  obtain ⟨c, t, rfl, hc⟩ := hwhole.head
  simp only [List.mem_cons, List.not_mem_nil, or_false] at hsign
  rcases hsign with rfl | rfl
  · exact ⟨c, _, rfl, .inr hc⟩
  · exact ⟨'-', _, rfl, .inl rfl⟩

/-- A value begins with a character that is neither a blank nor ends a list or an object. -/
theorem Value.head {s : List Char} (h : Value s) :
    ∃ c t, s = c :: t ∧ isSpace c = false ∧ c ≠ ']' ∧ c ≠ '}' := by
  cases h with
  | word h =>
    simp only [List.mem_cons, List.not_mem_nil, or_false] at h
    rcases h with rfl | rfl | rfl <;> exact ⟨_, _, rfl, by decide, by decide, by decide⟩
  | number h =>
    obtain ⟨c, t, rfl, rfl | hc⟩ := h.head
    · exact ⟨'-', t, rfl, by decide, by decide, by decide⟩
    · refine ⟨c, t, rfl, isSpace_of_isDigit hc, ?_, ?_⟩ <;> rintro rfl <;> exact absurd hc (by decide)
  | string _ | list _ _ _ | object _ _ _ => exact ⟨_, _, rfl, by decide, by decide, by decide⟩

end DepthRelay.Json
