import DepthRelay.Host.Delivery
import DepthRelay.Relay.Channel
import Mathlib.Data.List.Basic

namespace DepthRelay

/-!
# What a buffer holds

A frame buffer is three things at once: a row of points, a row of 32-bit patterns and a row of
bytes.  How they hang together, whatever earlier frames have left in the buffer.

* `length_flatMap_of_eq`, `drop_flatMap_of_eq` — rows that are made of blocks of one length.
* `readWord?` — what a host reads from four bytes; `readWord?_bytesOf` finds the patterns again.
* `Carries` — patterns that begin with the coordinates of given points.  `carries_setPoint` is one
  step of copying a frame and `carries_setPoints` all of them.
* `FrameBuffer.of_write` — what publishing a frame does to the buffer.
-/

/-! ### Rows of blocks -/

section

variable {α β : Type} {f : α → List β} {n : Nat}

/-- Blocks of one length, put together. -/
theorem length_flatMap_of_eq (h : ∀ a, (f a).length = n) (l : List α) :
    (l.flatMap f).length = n * l.length := by
  induction l with
  | nil => rfl
  | cons a l ih =>
    rw [List.flatMap_cons, List.length_append, h, ih, List.length_cons, Nat.mul_succ, Nat.add_comm]

/-- A whole number of blocks can be skipped before the blocks are put in a row. -/
theorem drop_flatMap_of_eq (h : ∀ a, (f a).length = n) (l : List α) (i : Nat) :
    (l.flatMap f).drop (n * i) = (l.drop i).flatMap f := by
  induction i generalizing l with
  | zero => rfl
  | succ i ih =>
    cases l with
    | nil => simp
    | cons a l =>
      rw [List.drop_succ_cons, ← ih, List.flatMap_cons, Nat.mul_succ, Nat.add_comm,
        ← List.drop_drop, ← h a, List.drop_left]

/-- A place within a block, among all of them. -/
theorem getElem?_flatMap_of_eq (h : ∀ a, (f a).length = n) {l : List α} {i c : Nat} {a : α}
    (ha : l[i]? = some a) (hc : c < n) : (l.flatMap f)[n * i + c]? = (f a)[c]? := by
  obtain ⟨hi, rfl⟩ := List.getElem?_eq_some_iff.mp ha
  rw [← List.getElem?_drop, drop_flatMap_of_eq h, List.drop_eq_getElem_cons hi,
    List.flatMap_cons, List.getElem?_append_left (by rw [h]; exact hc)]

end

/-! ### Patterns and bytes -/

/-- The pattern of four bytes, the least significant first. -/
def wordOf (b₀ b₁ b₂ b₃ : UInt8) : UInt32 :=
  .ofNat (b₀.toNat + 256 * (b₁.toNat + 256 * (b₂.toNat + 256 * b₃.toNat)))

/-- Four bytes of a word make up the word again. -/
theorem wordOf_wordBytes (w : UInt32) :
    wordOf w.toUInt8 (w >>> 8).toUInt8 (w >>> 16).toUInt8 (w >>> 24).toUInt8 = w := by
  have hw := w.toNat_lt
  apply UInt32.toNat_inj.mp
  simp [wordOf, Nat.shiftRight_eq_div_pow]
  omega

/-- The pattern in the four bytes from a place on, if there are as many. -/
def readWord? (b : ByteArray) (i : Nat) : Option UInt32 :=
  match b.data.toList.drop i with
  | b₀ :: b₁ :: b₂ :: b₃ :: _ => some (wordOf b₀ b₁ b₂ b₃)
  | _ => none

namespace FrameBuffer

/-- The bytes of a buffer are those of its words, one word after the other. -/
theorem data_bytesOf (words : Array UInt32) :
    (bytesOf words).data.toList = words.toList.flatMap wordBytes := by
  have hfold (ws : List UInt32) (b : ByteArray) :
      (ws.foldl pushWord b).data.toList = b.data.toList ++ ws.flatMap wordBytes := by
    induction ws generalizing b with
    | nil => simp
    | cons w ws ih => rw [List.foldl_cons, ih, data_pushWord, List.flatMap_cons, List.append_assoc]
  unfold bytesOf
  rw [← Array.foldl_toList, hfold]
  rfl

@[simp] theorem size_bytesOf (words : Array UInt32) : (bytesOf words).size = 4 * words.size := by
  have hlength := congrArg List.length (data_bytesOf words)
  rw [length_flatMap_of_eq length_wordBytes] at hlength
  exact hlength

/-- Every pattern is read as it was written. -/
theorem readWord?_bytesOf (words : Array UInt32) (i : Nat) :
    readWord? (bytesOf words) (4 * i) = words[i]? := by
  unfold readWord?
  rw [data_bytesOf, drop_flatMap_of_eq length_wordBytes, ← Array.getElem?_toList]
  cases h : words.toList[i]? with
  | none =>
    rw [List.drop_eq_nil_of_le (List.getElem?_eq_none_iff.mp h)]
    rfl
  | some w =>
    obtain ⟨hi, rfl⟩ := List.getElem?_eq_some_iff.mp h
    rw [List.drop_eq_getElem_cons hi]
    exact congrArg some (wordOf_wordBytes _)

end FrameBuffer

/-! ### Points and patterns -/

/-- What is published of a point. -/
def Point.coordinates (p : Point) : List UInt32 := [p.x, p.y, p.z]

@[simp] theorem Point.length_coordinates (p : Point) :
    p.coordinates.length = Sensor.floatsPerPoint := rfl

namespace FrameBuffer

/-- The patterns begin with the coordinates of the points. -/
def Carries (words : Array UInt32) (points : List Point) : Prop :=
  points.flatMap Point.coordinates <+: words.toList

variable {words : Array UInt32} {points done : List Point} {p : Point}

theorem carries_nil (words : Array UInt32) : Carries words [] := List.nil_prefix

/-- One step of copying: the next point joins those that are in the buffer already. -/
theorem carries_setPoint (h : Carries words done)
    (hroom : Sensor.floatsPerPoint * (done.length + 1) ≤ words.size) :
    Carries (setPoint words done.length p) (done ++ [p]) := by
  obtain ⟨rest, hrest⟩ := h
  have hlength := length_flatMap_of_eq Point.length_coordinates done
  -- Behind the points that are there already, there is room for three patterns more.
  obtain ⟨a, b, c, rest, rfl⟩ : ∃ a b c rest', rest = a :: b :: c :: rest' := by
    have hsize := congrArg List.length hrest
    rw [List.length_append, hlength, Array.length_toList] at hsize
    unfold Sensor.floatsPerPoint at hsize hroom
    match rest, hsize with
    | a :: b :: c :: rest, _ => exact ⟨a, b, c, rest, rfl⟩
    | [], hsize | [_], hsize | [_, _], hsize => simp at hsize; omega
  refine ⟨rest, ?_⟩
  unfold setPoint
  simp only [Array.toList_setIfInBounds, ← hrest, ← hlength, List.flatMap_append]
  simp [Point.coordinates]

/-- All steps of copying. -/
theorem carries_setPoints (h : Carries words done)
    (hroom : Sensor.floatsPerPoint * (done.length + points.length) ≤ words.size) :
    Carries (setPoints words done.length points) (done ++ points) := by
  -- By induction on the points that are still to be copied.
  induction points generalizing words done with
  | nil => simpa [setPoints] using h
  | cons p points ih =>
    have hstep : Carries (setPoint words done.length p) (done ++ [p]) := by
      refine carries_setPoint h (Nat.le_trans (Nat.mul_le_mul_left _ ?_) hroom)
      simp
    have hlength : (done ++ [p]).length + points.length = done.length + (p :: points).length := by
      rw [List.length_append, List.length_cons, List.length_cons, List.length_nil]
      omega
    have hrest := ih hstep (by rw [size_setPoint, hlength]; exact hroom)
    simpa [setPoints] using hrest

/-- A pattern of a point that the buffer carries. -/
theorem Carries.getElem? (h : Carries words points) {n c : Nat} (hp : points[n]? = some p)
    (hc : c < Sensor.floatsPerPoint) :
    words[Sensor.floatsPerPoint * n + c]? = p.coordinates[c]? := by
  obtain ⟨rest, hrest⟩ := h
  have hblock := getElem?_flatMap_of_eq Point.length_coordinates hp hc
  have hlt : Sensor.floatsPerPoint * n + c < (points.flatMap Point.coordinates).length := by
    have hn := (List.getElem?_eq_some_iff.mp hp).1
    have hmul := Nat.mul_le_mul_left Sensor.floatsPerPoint (Nat.succ_le_of_lt hn)
    rw [length_flatMap_of_eq Point.length_coordinates]
    rw [Nat.mul_succ] at hmul
    omega
  rw [← Array.getElem?_toList, ← hrest, List.getElem?_append_left hlt, hblock]

end FrameBuffer

/-! ### Publishing a frame -/

/-- How many points are published, and when. -/
theorem OverflowPolicy.of_accept? {policy : OverflowPolicy} {capacity count n : Nat}
    (h : policy.accept? capacity count = some n) :
    n = min count capacity ∧ (policy = .reject → count ≤ capacity) := by
  unfold accept? at h
  by_cases hfits : count ≤ capacity
  · rw [if_pos hfits] at h
    obtain rfl := Option.some.inj h
    exact ⟨(Nat.min_eq_left hfits).symm, fun _ => hfits⟩
  · rw [if_neg hfits] at h
    cases policy with
    | reject => exact absurd h (by simp)
    | truncate =>
      obtain rfl := Option.some.inj h
      exact ⟨(Nat.min_eq_right (Nat.le_of_not_le hfits)).symm, by simp⟩

namespace FrameBuffer

/-- A frame that is not refused stands at the front of the buffer, as far as there is room. -/
theorem of_write {b b' : FrameBuffer} {points : List Point} {policy : OverflowPolicy}
    {written : Written} (h : b.write points policy = .ok (written, b')) :
    policy.accept? b.capacity points.length = some written.written ∧
      b'.words.size = b.words.size ∧ Carries b'.words (points.take written.written) := by
  unfold write at h
  cases ha : policy.accept? b.capacity points.length with
  | none => rw [ha] at h; exact absurd h (by simp)
  | some n =>
    rw [ha] at h
    obtain ⟨rfl, rfl⟩ := Prod.mk.inj (Except.ok.inj h)
    refine ⟨rfl, size_setPoints _ _ _, ?_⟩
    refine carries_setPoints (carries_nil b.words) ?_
    have hn := (OverflowPolicy.of_accept? ha).1
    have hroom : Sensor.floatsPerPoint * b.capacity ≤ b.words.size := Nat.mul_div_le _ _
    refine Nat.le_trans (Nat.mul_le_mul_left _ ?_) hroom
    rw [List.length_nil, List.length_take]
    omega

end FrameBuffer

end DepthRelay
