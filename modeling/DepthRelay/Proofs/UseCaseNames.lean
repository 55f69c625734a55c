import DepthRelay.FrameRate
import Mathlib.Data.List.Basic

namespace DepthRelay

/-!
# Use-case names and the rates they carry

The name of a use case is a row of tokens joined by underscores, and the first token that ends in
`FPS` decides its rate.

* `Text.Numeral` — what a numeral is: one sign `+` at most, then digits.
* `NamesRate` — when a name carries a rate, said of its tokens.
* `useCaseFps?_eq_some_iff` — the decoder finds a rate exactly when the name carries it.
* `useCaseFps?_decodes` — the same, with its two consequences: a name that is put together from
  tokens decodes to the rate it was made for, and a name without an `FPS` token to none.
-/

/-! ### Numerals and parts of a text -/

namespace Text

/-- `s` is a numeral of `n`: one or more ASCII digits, with one `+` before them at most. -/
def Numeral (s : List Char) (n : Nat) : Prop :=
  ∃ ds, (s = ds ∨ s = '+' :: ds) ∧ ds ≠ [] ∧ (∀ c ∈ ds, c.isDigit = true) ∧
    Nat.ofDigitChars 10 ds 0 = n

/-- The pieces between separators are those of the standard splitting. -/
theorem parts_eq_splitOn (sep : Char) (s : List Char) : parts sep s = s.splitOn sep := by
  induction s with
  | nil => rfl
  | cons c r ih =>
    rw [parts, List.splitOn, List.splitOnP_cons_eq_if_modifyHead, ← List.splitOn, ← ih]
    split_ifs with heq hbeq hbeq
    · rfl
    · exact absurd (beq_iff_eq.2 heq) hbeq
    · exact absurd (beq_iff_eq.1 hbeq) heq
    · obtain ⟨p, ps, hps⟩ := List.exists_cons_of_ne_nil (parts_ne_nil sep r)
      rw [hps]
      rfl

/-- A stem is what is left in front of the ending. -/
theorem stem?_eq_some_iff {ending s t : List Char} : stem? ending s = some t ↔ s = t ++ ending := by
  unfold stem?
  constructor
  · intro h
    split_ifs at h with hsuffix
    rw [← Option.some.inj h]
    exact (List.suffix_iff_eq_append.1 (List.isSuffixOf_iff_suffix.1 hsuffix)).symm
  · rintro rfl
    rw [if_pos (List.isSuffixOf_iff_suffix.2 (List.suffix_append t ending)), List.length_append,
      Nat.add_sub_cancel, List.take_left]

theorem stem?_eq_none_iff {ending s : List Char} : stem? ending s = none ↔ ¬ ending <:+ s := by
  rw [← List.isSuffixOf_iff_suffix, stem?]
  simp only [ite_eq_right_iff, reduceCtorEq, imp_false]

/-- Digits stand for the number that they make up in base ten. -/
theorem digits?_eq_some_iff {s : List Char} {n : Nat} :
    digits? s = some n ↔
      s ≠ [] ∧ (∀ c ∈ s, c.isDigit = true) ∧ Nat.ofDigitChars 10 s 0 = n := by
  rw [digits?, Option.ite_none_right_eq_some, List.all_eq_true, Option.some.injEq, and_assoc]
  rfl

/-- The reader takes off a sign that is there, and a numeral without one has a digit there. -/
theorem digits?_dropPlus_eq_some_iff {s : List Char} {n : Nat} :
    digits? (dropPlus s) = some n ↔ Numeral s n := by
  rw [digits?_eq_some_iff]
  constructor
  · intro h
    refine ⟨dropPlus s, ?_, h⟩
    unfold dropPlus
    split
    · exact .inr rfl
    · exact .inl rfl
  · rintro ⟨ds, rfl | rfl, hne, hdigit, hvalue⟩
    · have hkeep : dropPlus s = s := by
        unfold dropPlus
        split
        · exact absurd (hdigit '+' (List.mem_cons_self ..)) (by decide)
        · rfl
      rw [hkeep]
      exact ⟨hne, hdigit, hvalue⟩
    · exact ⟨hne, hdigit, hvalue⟩

theorem unsigned?_eq_some_iff {limit n : Nat} {s : List Char} :
    unsigned? limit s = some n ↔ Numeral s n ∧ n < limit := by
  rw [unsigned?, Option.filter_eq_some_iff, digits?_dropPlus_eq_some_iff, decide_eq_true_iff]

/-- The digits of a number make up its numeral. -/
theorem numeral_toDigits (n : Nat) : Numeral (Nat.toDigits 10 n) n :=
  ⟨_, .inl rfl, Nat.toDigits_ne_nil,
    fun _ hc => Nat.isDigit_of_mem_toDigits (by decide) (by decide) hc,
    Nat.ofDigitChars_ten_toDigits⟩

end Text

/-! ### Names -/

/-- The ending by which a token of a name gives the rate. -/
def rateEnding : List Char := "FPS".toList

/-- The tokens of a name. -/
def tokens (name : String) : List (List Char) := name.toList.splitOn '_'

/-- The name carries the rate `n`: its first token with the ending is a numeral of `n` below `2^32`,
    followed by the ending. -/
def NamesRate (name : String) (n : Nat) : Prop :=
  ∃ pre numeral post, tokens name = pre ++ (numeral ++ rateEnding) :: post ∧
    (∀ t ∈ pre, ¬ rateEnding <:+ t) ∧ Text.Numeral numeral n ∧ n < UInt32.size

/-- The first token with the ending, without the ending. -/
theorem findSome?_stem?_eq_some_iff {ending s : List Char} {ts : List (List Char)} :
    ts.findSome? (Text.stem? ending) = some s ↔
      ∃ pre post, ts = pre ++ (s ++ ending) :: post ∧ ∀ t ∈ pre, ¬ ending <:+ t := by
  rw [List.findSome?_eq_some_iff]
  simp only [Text.stem?_eq_some_iff, Text.stem?_eq_none_iff]
  constructor
  · rintro ⟨pre, t, post, hts, rfl, hpre⟩
    exact ⟨pre, post, hts, hpre⟩
  · rintro ⟨pre, post, hts, hpre⟩
    exact ⟨pre, _, post, hts, rfl, hpre⟩

/-- **The decoder finds exactly the rate that the name carries.** -/
theorem useCaseFps?_eq_some_iff (name : String) (n : Nat) :
    (useCaseFps? name).map UInt32.toNat = some n ↔ NamesRate name n := by
  have hsearch : useCaseFps? name = ((tokens name).findSome? (Text.stem? rateEnding)).bind
      fun s => (Text.unsigned? UInt32.size s).map UInt32.ofNat := by
    rw [useCaseFps?, Text.parts_eq_splitOn]
    rfl
  rw [hsearch]
  simp only [Option.map_eq_some_iff, Option.bind_eq_some_iff, findSome?_stem?_eq_some_iff,
    Text.unsigned?_eq_some_iff]
  constructor
  · rintro ⟨-, ⟨s, ⟨pre, post, htokens, hpre⟩, m, ⟨hnumeral, hlt⟩, rfl⟩, rfl⟩
    rw [UInt32.toNat_ofNat_of_lt' hlt]
    exact ⟨pre, s, post, htokens, hpre, hnumeral, hlt⟩
  · rintro ⟨pre, s, post, htokens, hpre, hnumeral, hlt⟩
    exact ⟨_, ⟨s, ⟨pre, post, htokens, hpre⟩, n, ⟨hnumeral, hlt⟩, rfl⟩,
      UInt32.toNat_ofNat_of_lt' hlt⟩

/-- Tokens without underscores are the tokens of the name that joins them. -/
theorem tokens_intercalate {ts : List String} (hne : ts ≠ []) (hfree : ∀ t ∈ ts, '_' ∉ t.toList) :
    tokens ("_".intercalate ts) = ts.map String.toList := by
  rw [tokens, String.toList_intercalate]
  refine List.splitOn_intercalate '_' (fun l hl => ?_) (by simpa using hne)
  obtain ⟨t, ht, rfl⟩ := List.mem_map.1 hl
  exact hfree t ht

/-- The token that gives the rate `n` in a name that is put together. -/
def rateToken (n : Nat) : String := toString n ++ "FPS"

@[simp] theorem toList_rateToken (n : Nat) :
    (rateToken n).toList = Nat.toDigits 10 n ++ rateEnding := by
  rw [rateToken, String.toList_append, rateEnding]
  exact congrArg (· ++ _) Nat.toList_repr

/-- The token of a rate has no underscore in it. -/
theorem not_mem_rateToken (n : Nat) : '_' ∉ (rateToken n).toList := by
  rw [toList_rateToken, List.mem_append]
  rintro (hdigit | hending)
  · exact absurd (Nat.isDigit_of_mem_toDigits (by decide) (by decide) hdigit) (by decide)
  · exact absurd hending (by decide)

/-- A name that is put together carries the rate of its first token with the ending. -/
theorem namesRate_intercalate {n : Nat} (hn : n < UInt32.size) {pre post : List String}
    (hfree : ∀ t ∈ pre ++ post, '_' ∉ t.toList) (hpre : ∀ t ∈ pre, ¬ rateEnding <:+ t.toList) :
    NamesRate ("_".intercalate (pre ++ rateToken n :: post)) n := by
  refine ⟨pre.map String.toList, Nat.toDigits 10 n, post.map String.toList, ?_, ?_,
    Text.numeral_toDigits n, hn⟩
  · rw [tokens_intercalate (by simp) ?_, List.map_append, List.map_cons, toList_rateToken]
    intro t ht
    rcases List.mem_append.1 ht with hin | hin
    · exact hfree t (List.mem_append_left _ hin)
    · rcases List.mem_cons.1 hin with rfl | hin
      · exact not_mem_rateToken n
      · exact hfree t (List.mem_append_right _ hin)
  · intro l hl
    obtain ⟨t, ht, rfl⟩ := List.mem_map.1 hl
    exact hpre t ht

/-- **Use-case names decode to their rate.**  A name decodes to `n` exactly when its first token
    that ends in `FPS` is a numeral of `n`, with one `+` before it at most, and that ending.  So a
    name joined from tokens decodes to the rate in its first such token, however large the rate is
    within 32 bits and whatever stands around it, and a name without such a token decodes to
    none. -/
theorem useCaseFps?_decodes :
    (∀ (name : String) (n : Nat),
      (useCaseFps? name).map UInt32.toNat = some n ↔ NamesRate name n) ∧
    (∀ (n : Nat) (pre post : List String), n < UInt32.size →
      (∀ t ∈ pre ++ post, '_' ∉ t.toList) → (∀ t ∈ pre, ¬ rateEnding <:+ t.toList) →
      (useCaseFps? ("_".intercalate (pre ++ rateToken n :: post))).map UInt32.toNat = some n) ∧
    (∀ name : String, (∀ t ∈ tokens name, ¬ rateEnding <:+ t) → useCaseFps? name = none) := by
  refine ⟨useCaseFps?_eq_some_iff, fun n pre post hn hfree hpre => ?_, fun name hnone => ?_⟩
  · exact (useCaseFps?_eq_some_iff _ n).2 (namesRate_intercalate hn hfree hpre)
  · rw [Option.eq_none_iff_forall_ne_some]
    intro k hk
    obtain ⟨pre, numeral, post, htokens, -⟩ :=
      (useCaseFps?_eq_some_iff name k.toNat).1 (by rw [hk, Option.map_some])
    refine hnone (numeral ++ rateEnding) ?_ (List.suffix_append ..)
    rw [htokens]
    exact List.mem_append_right _ (List.mem_cons_self ..)

/-- Every part of it at names that are made and at names that are not: a sign and leading zeros are
    read, a rate of 33 bits is none and is not made up for by a later token, and an ending alone is
    no numeral. -/
theorem useCaseFps?_decodes_names :
    (useCaseFps? "MODE_9_4294967295FPS_2000").map UInt32.toNat = some 4294967295 ∧
    (useCaseFps? "_+007FPS_5FPS").map UInt32.toNat = some 7 ∧
    useCaseFps? "MODE_9_2000" = none ∧
    useCaseFps? "4294967296FPS_5FPS" = none ∧ useCaseFps? "FPS_5FPS" = none ∧
    useCaseFps? "++5FPS" = none := by
  have hmade : "_".intercalate (["MODE", "9"] ++ rateToken 4294967295 :: ["2000"])
      = "MODE_9_4294967295FPS_2000" := by decide +kernel
  have hnumeral : Text.Numeral ['+', '0', '0', '7'] 7 :=
    ⟨['0', '0', '7'], .inr rfl, by decide, by simp, rfl⟩
  refine ⟨?_, ?_, ?_, by decide +kernel, by decide +kernel, by decide +kernel⟩
  · rw [← hmade]
    exact useCaseFps?_decodes.2.1 4294967295 ["MODE", "9"] ["2000"] (by decide) (by decide)
      (by decide)
  · exact (useCaseFps?_decodes.1 "_+007FPS_5FPS" 7).2
      ⟨[[]], ['+', '0', '0', '7'], ["5FPS".toList], by decide +kernel, by decide, hnumeral,
        by decide⟩
  · exact useCaseFps?_decodes.2.2 "MODE_9_2000" (by decide +kernel)

end DepthRelay
