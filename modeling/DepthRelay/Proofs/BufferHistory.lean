import DepthRelay.Proofs.BufferContents
import DepthRelay.Proofs.Places
import Mathlib.Data.List.Induction

namespace DepthRelay

/-!
# A buffer and its history

A frame is written to the front of a buffer and leaves alone what lies behind it.  So what the
buffer holds at one place depends on all frames before: it is what the latest frame has left there
that was taken and reached as far.

* `FrameBuffer.Request` — a frame that is to be written, and what to do if it is too long.
* `FrameBuffer.after` — the buffer after a row of requests; `FrameBuffer.latest?` is the point that
  was written last at a place, and `FrameBuffer.latestCount` the number of points of the last frame.
* `FrameBuffer.Remembers`, `FrameBuffer.remembers_after` — the buffer holds what its history says.
* `buffer_history` — this, and what becomes of the next request, for every history.
-/

namespace FrameBuffer

/-! ### Histories -/

/-- A frame that is to be written. -/
structure Request where
  points : List Point
  policy : OverflowPolicy
  deriving DecidableEq, Repr

/-- How many points of the frame a buffer with room for `n` takes; none if the frame is refused. -/
def Request.accepted? (n : Nat) (r : Request) : Option Nat :=
  if r.policy = .reject ∧ n < r.points.length then none else some (min r.points.length n)

/-- The buffer after a request; one that is refused leaves it alone. -/
def put (b : FrameBuffer) (r : Request) : FrameBuffer :=
  match b.write r.points r.policy with
  | .ok (_, b') => b'
  | .error _ => b

/-- The buffer after a row of requests, the first one first. -/
def after (b : FrameBuffer) (history : List Request) : FrameBuffer := history.foldl put b

/-- Point `i` of the latest frame that was taken with more than `i` points. -/
def latest? (n i : Nat) (history : List Request) : Option Point :=
  history.reverse.findSome? fun r =>
    (r.accepted? n).bind fun count => if i < count then r.points[i]? else none

/-- The number of points that were taken of the latest frame that was not refused; 0 before any. -/
def latestCount (n : Nat) (history : List Request) : Nat :=
  (history.reverse.findSome? (Request.accepted? n)).getD 0

theorem after_append_singleton (b : FrameBuffer) (history : List Request) (r : Request) :
    b.after (history ++ [r]) = (b.after history).put r := by
  simp [after]

/-- One more request writes the points that it brings, if it is accepted, and leaves the others. -/
theorem latest?_append_singleton (n i : Nat) (history : List Request) (r : Request) :
    latest? n i (history ++ [r]) =
      ((r.accepted? n).bind fun count => if i < count then r.points[i]? else none).or
        (latest? n i history) := by
  unfold latest?
  rw [List.reverse_concat, findSome?_cons_or]

/-- One more request counts if it is accepted. -/
theorem latestCount_append_singleton (n : Nat) (history : List Request) (r : Request) :
    latestCount n (history ++ [r]) = (r.accepted? n).getD (latestCount n history) := by
  unfold latestCount
  rw [List.reverse_concat, findSome?_cons_or]
  cases r.accepted? n <;> rfl

/-! ### One request -/

variable {b b' : FrameBuffer} {r : Request} {n i c count : Nat} {words : Array UInt32}
  {points : List Point} {p : Point}

/-- The policy of a buffer accepts what its requests say it does. -/
theorem Request.accept?_eq (n : Nat) (r : Request) :
    r.policy.accept? n r.points.length = r.accepted? n := by
  unfold accepted? OverflowPolicy.accept?
  by_cases hfits : r.points.length ≤ n
  · simp [hfits, Nat.not_lt.mpr hfits]
  · cases r.policy <;> simp [hfits, Nat.lt_of_not_le hfits, Nat.le_of_not_le hfits]

theorem Request.accepted?_eq_none :
    r.accepted? n = none ↔ r.policy = .reject ∧ n < r.points.length := by
  simp [accepted?]

/-- An accepted request writes as many of its points as there is room for. -/
theorem Request.eq_min_of_accepted? (h : r.accepted? n = some count) :
    count = min r.points.length n := by
  unfold accepted? at h
  split at h
  · exact absurd h (by simp)
  · exact (Option.some.inj h).symm

/-- A request that is refused. -/
theorem write_of_refused (hcapacity : b.capacity = n) (h : r.accepted? n = none) :
    b.write r.points r.policy = .error (.bufferOverflow r.points.length n) ∧ b.put r = b := by
  subst hcapacity
  have hwrite : b.write r.points r.policy =
      .error (.bufferOverflow r.points.length b.capacity) := by
    unfold write
    rw [Request.accept?_eq, h]
  exact ⟨hwrite, by rw [put, hwrite]⟩

/-- A request that is not refused. -/
theorem write_of_accepted (hcapacity : b.capacity = n) (h : r.accepted? n = some count) :
    b.write r.points r.policy = .ok (⟨count, r.points.length - count⟩, b.put r) ∧
      b.put r = { b with words := setPoints b.words 0 (r.points.take count), count := count } := by
  subst hcapacity
  have hwrite : b.write r.points r.policy = .ok (⟨count, r.points.length - count⟩,
      { b with words := setPoints b.words 0 (r.points.take count), count := count }) := by
    unfold write
    rw [Request.accept?_eq, h]
  have hput : b.put r =
      { b with words := setPoints b.words 0 (r.points.take count), count := count } := by
    rw [put, hwrite]
  exact ⟨hwrite.trans (by rw [hput]), hput⟩

/-- A point is put at its place and nowhere else. -/
theorem getElem?_setPoint_of_le (h : Sensor.floatsPerPoint * (i + 1) ≤ c) :
    (setPoint words i p)[c]? = words[c]? := by
  unfold Sensor.floatsPerPoint at h
  unfold setPoint Sensor.floatsPerPoint
  dsimp only
  rw [Array.getElem?_setIfInBounds_ne (by omega), Array.getElem?_setIfInBounds_ne (by omega),
    Array.getElem?_setIfInBounds_ne (by omega)]

/-- What lies behind a frame stays as it was. -/
theorem getElem?_setPoints_of_le (h : Sensor.floatsPerPoint * (i + points.length) ≤ c) :
    (setPoints words i points)[c]? = words[c]? := by
  induction points generalizing words i with
  | nil => rfl
  | cons p points ih =>
    rw [List.length_cons] at h
    -- The rest of the frame begins one place further on, and ends at the same place.
    have hrest : Sensor.floatsPerPoint * (i + 1 + points.length) ≤ c := by
      rw [show i + 1 + points.length = i + (points.length + 1) by omega]
      exact h
    have hfirst : Sensor.floatsPerPoint * (i + 1) ≤ c :=
      Nat.le_trans (Nat.mul_le_mul_left _ (by omega)) h
    exact (ih hrest).trans (getElem?_setPoint_of_le hfirst)

/-! ### All requests -/

/-- A buffer with room for `n` points holds at each place what the latest frame has left there that
    reached as far, and zeros where none did. -/
structure Remembers (n : Nat) (history : List Request) (b : FrameBuffer) : Prop where
  size : b.words.size = 3 * n
  triple : ∀ i < n, ∀ c < 3, b.words[3 * i + c]? =
    (((latest? n i history).map Point.coordinates).getD [0, 0, 0])[c]?
  count : b.count = latestCount n history

theorem Remembers.capacity {history : List Request} (h : Remembers n history b) :
    b.capacity = n := by
  unfold FrameBuffer.capacity Sensor.floatsPerPoint
  rw [h.size, Nat.mul_div_cancel_left n (by decide)]

/-- A new buffer remembers a history in which nothing has happened. -/
theorem remembers_zeros (address n : Nat) : Remembers n [] (zeros address n) where
  size := by simp [zeros, Sensor.floatsPerPoint]
  triple := by
    intro i hi c hc
    have hzero : (zeros address n).words[3 * i + c]? = some 0 := by
      simp [zeros, Array.getElem?_replicate, Sensor.floatsPerPoint]
      omega
    rw [hzero]
    obtain rfl | rfl | rfl : c = 0 ∨ c = 1 ∨ c = 2 := by omega
    all_goals rfl
  count := rfl

/-- **A request is remembered**, if it is not refused. -/
theorem Remembers.put {history : List Request} (h : Remembers n history b) (r : Request) :
    Remembers n (history ++ [r]) (b.put r) := by
  cases haccepted : r.accepted? n with
  | none =>
    rw [(write_of_refused h.capacity haccepted).2]
    refine ⟨h.size, fun i hi c hc => ?_, ?_⟩
    · rw [latest?_append_singleton, haccepted, Option.bind_none, Option.none_or]
      exact h.triple i hi c hc
    · rw [latestCount_append_singleton, haccepted, Option.getD_none]
      exact h.count
  | some count =>
    have hmin := Request.eq_min_of_accepted? haccepted
    have hput := (write_of_accepted h.capacity haccepted).2
    have hlength : (r.points.take count).length = count := by
      rw [List.length_take]
      omega
    rw [hput]
    refine ⟨(size_setPoints _ _ _).trans h.size, fun i hi c hc => ?_, ?_⟩
    · rw [latest?_append_singleton, haccepted, Option.bind_some]
      by_cases hreached : i < count
      · -- The frame has reached the place.
        have hlt : i < r.points.length := by omega
        have hpoint : (r.points.take count)[i]? = some r.points[i] := by
          rw [List.getElem?_take_of_lt hreached, List.getElem?_eq_getElem hlt]
        have hcarries : Carries (setPoints b.words 0 (r.points.take count)) (r.points.take count) :=
          carries_setPoints (carries_nil b.words) (by
            rw [List.length_nil, hlength, h.size, Nat.zero_add]
            exact Nat.mul_le_mul_left 3 (by omega))
        rw [if_pos hreached, List.getElem?_eq_getElem hlt]
        exact hcarries.getElem? hpoint hc
      · rw [if_neg hreached, Option.none_or, ← h.triple i hi c hc]
        refine getElem?_setPoints_of_le ?_
        rw [hlength]
        unfold Sensor.floatsPerPoint
        omega
    · rw [latestCount_append_singleton, haccepted, Option.getD_some]

/-- **A buffer remembers its history**, by induction from the last request. -/
theorem remembers_after (address n : Nat) (history : List Request) :
    Remembers n history ((zeros address n).after history) := by
  -- From the end, since the latest request decides.
  induction history using List.reverseRecOn with
  | nil => exact remembers_zeros address n
  | append_singleton history r ih =>
    rw [after_append_singleton]
    exact ih.put r

/-- No more points are in a buffer than there is room for. -/
theorem latestCount_le (n : Nat) (history : List Request) : latestCount n history ≤ n := by
  induction history using List.reverseRecOn with
  | nil => exact Nat.zero_le n
  | append_singleton history r ih =>
    rw [latestCount_append_singleton]
    cases haccepted : r.accepted? n with
    | none => exact ih
    | some count =>
      have hmin := Request.eq_min_of_accepted? haccepted
      rw [Option.getD_some]
      omega

/-- The current frame is the front of the buffer. -/
theorem Remembers.frame {history : List Request} (h : Remembers n history b) :
    b.frame.toList = b.words.toList.take (3 * b.count) ∧ b.frame.size = 3 * b.count := by
  have hcount := latestCount_le n history
  have hsize := h.size
  rw [← h.count] at hcount
  unfold FrameBuffer.frame Sensor.floatsPerPoint
  refine ⟨by simp, ?_⟩
  rw [Array.size_extract]
  omega

/-- How a buffer with room for `n` points answers to a request. -/
structure Answers (n : Nat) (b : FrameBuffer) (r : Request) : Prop where
  refuses : (∃ e, b.write r.points r.policy = .error e) ↔ r.policy = .reject ∧ n < r.points.length
  /-- A refusal tells by how much the frame is too long, and changes nothing. -/
  refused : ∀ e, b.write r.points r.policy = .error e →
    e = .bufferOverflow r.points.length n ∧ b.put r = b
  written : ∀ outcome b', b.write r.points r.policy = .ok (outcome, b') →
    b' = b.put r ∧ outcome.written = min r.points.length n ∧
      outcome.written + outcome.truncated = r.points.length
  /-- To cut a frame off is to write its beginning. -/
  leading : b.put ⟨r.points, .truncate⟩ = b.put ⟨r.points.take n, .reject⟩

/-- To cut a frame off is to write its beginning. -/
theorem Remembers.leading {history : List Request} (h : Remembers n history b)
    (points : List Point) : b.put ⟨points, .truncate⟩ = b.put ⟨points.take n, .reject⟩ := by
  have hcut : Request.accepted? n ⟨points, .truncate⟩ = some (min points.length n) := by
    simp [Request.accepted?]
  have hbeginning : Request.accepted? n ⟨points.take n, .reject⟩ = some (min points.length n) := by
    have hfits : ¬n < (points.take n).length := Nat.not_lt.mpr (List.length_take_le n points)
    rw [Request.accepted?, if_neg fun h => hfits h.2, List.length_take, Nat.min_comm n,
      Nat.min_assoc, Nat.min_self]
  rw [(write_of_accepted h.capacity hcut).2, (write_of_accepted h.capacity hbeginning).2]
  have hsame : points.take (min points.length n) =
      (points.take n).take (min points.length n) := by
    rw [List.take_take, Nat.min_eq_left (Nat.min_le_right _ n)]
  dsimp only
  rw [hsame]

/-- **How a buffer answers a request** follows from its history. -/
theorem Remembers.answers {history : List Request} (h : Remembers n history b) (r : Request) :
    Answers n b r := by
  cases haccepted : r.accepted? n with
  | none =>
    have hrefused := Request.accepted?_eq_none.mp haccepted
    obtain ⟨hwrite, hput⟩ := write_of_refused h.capacity haccepted
    refine ⟨⟨fun _ => hrefused, fun _ => ⟨_, hwrite⟩⟩, ?_, ?_, h.leading r.points⟩
    · rintro e he
      exact ⟨Except.error.inj (he.symm.trans hwrite), hput⟩
    · rintro outcome b' hok
      exact absurd (hok.symm.trans hwrite) (by simp)
  | some count =>
    have hmin := Request.eq_min_of_accepted? haccepted
    have hkept : ¬(r.policy = .reject ∧ n < r.points.length) := by
      rw [← Request.accepted?_eq_none, haccepted]
      simp
    obtain ⟨hwrite, -⟩ := write_of_accepted h.capacity haccepted
    refine ⟨⟨?_, fun hrefused => absurd hrefused hkept⟩, ?_, ?_, h.leading r.points⟩
    · rintro ⟨e, he⟩
      exact absurd (he.symm.trans hwrite) (by simp)
    · rintro e he
      exact absurd (he.symm.trans hwrite) (by simp)
    · rintro outcome b' hok
      obtain ⟨rfl, rfl⟩ := Prod.mk.inj (Except.ok.inj (hok.symm.trans hwrite))
      refine ⟨rfl, hmin, ?_⟩
      show count + (r.points.length - count) = r.points.length
      omega

end FrameBuffer

/-- **A buffer holds what its history says**, whatever frames have been written, in whatever order
    and however long, and each request is answered as its policy says. -/
theorem buffer_history (address n : Nat) (hroom : n ≤ Sensor.maxPoints)
    (history : List FrameBuffer.Request) :
    ∃ b, FrameBuffer.ofCapacity address n = .ok b ∧
      FrameBuffer.Remembers n history (b.after history) ∧
      (b.after history).frame.toList =
        (b.after history).words.toList.take (3 * FrameBuffer.latestCount n history) ∧
      (b.after history).frame.size = 3 * FrameBuffer.latestCount n history ∧
      ∀ r, FrameBuffer.Answers n (b.after history) r := by
  have hremembers := FrameBuffer.remembers_after address n history
  have hframe := hremembers.frame
  rw [hremembers.count] at hframe
  exact ⟨_, FrameBuffer.ofCapacity_eq_ok.mpr ⟨hroom, rfl⟩, hremembers, hframe.1, hframe.2,
    hremembers.answers⟩

/-- A frame that is cut off, a shorter one, and one that is refused: the second place still holds
    what the first frame has left there. -/
theorem buffer_history_stale_tail :
    let point (k : UInt32) : Point := { x := k, y := k, z := k }
    let long : FrameBuffer.Request := ⟨[point 1, point 2, point 3], .truncate⟩
    let refused : FrameBuffer.Request := ⟨[point 5, point 6, point 7], .reject⟩
    let history := [long, ⟨[point 4], .reject⟩, refused]
    ∃ b, FrameBuffer.ofCapacity 64 2 = .ok b ∧ (b.after history).words[0]? = some 4 ∧
      (b.after history).words[3]? = some 2 ∧ (b.after history).count = 1 ∧
      (b.after history).put refused = b.after history := by
  intro point long refused history
  obtain ⟨b, hb, hremembers, -, -, hanswers⟩ := buffer_history 64 2 (by decide) history
  refine ⟨b, hb, ?_, ?_, hremembers.count, ?_⟩
  · exact hremembers.triple 0 (by decide) 0 (by decide)
  · exact hremembers.triple 1 (by decide) 0 (by decide)
  · obtain ⟨e, he⟩ := (hanswers refused).refuses.mpr ⟨rfl, by decide⟩
    exact ((hanswers refused).refused e he).2

end DepthRelay
