import DepthRelay.Camera.Device
import DepthRelay.Camera.Synthetic
import DepthRelay.Proofs.BufferContents
import DepthRelay.Relay.Delivery

namespace DepthRelay

/-!
# Words and bounds

Numbers of the relay are as large as they have to be, and a place outside an array is passed over.
On words of a fixed size, and with bounds that are looked at, the same computations can give up.

* `Panic` — why a computation gives up.
* `Checked.times`, `Checked.minus`, `Checked.divide`, `Checked.leading`, `Checked.put` — the
  operations that can.
* `FrameBuffer.writeChecked`, `Channel.publishChecked`, `Delivery.bytesChecked`,
  `Source.startChecked` — what the relay computes with them.
* `FrameBuffer.writeChecked_eq`, … — none of these gives up, and their results are those of the
  relay.
-/

/-- Why a computation gives up. -/
inductive Panic
  /-- A product does not fit its word. -/
  | overflow
  /-- A difference would be below zero. -/
  | underflow
  | zeroDivisor
  | outOfBounds
  /-- It ends without an answer. -/
  | aborted (reason : Abort)
  deriving DecidableEq, Repr

namespace Checked

variable {α : Type}

/-- A product that has to be below `limit`. -/
def times (limit a b : Nat) : Except Panic Nat :=
  if a * b < limit then .ok (a * b) else .error .overflow

def minus (a b : Nat) : Except Panic Nat := if b ≤ a then .ok (a - b) else .error .underflow

def divide (a b : Nat) : Except Panic Nat := if b = 0 then .error .zeroDivisor else .ok (a / b)

/-- The first `n` elements, all of which have to be there. -/
def leading (xs : List α) (n : Nat) : Except Panic (List α) :=
  if n ≤ xs.length then .ok (xs.take n) else .error .outOfBounds

/-- Sets a place that has to be there. -/
def put (xs : Array α) (i : Nat) (x : α) : Except Panic (Array α) :=
  if i < xs.size then .ok (xs.setIfInBounds i x) else .error .outOfBounds

variable {a b n i : Nat}

theorem times_of_lt {limit : Nat} (h : a * b < limit) : times limit a b = .ok (a * b) := if_pos h

theorem minus_of_le (h : b ≤ a) : minus a b = .ok (a - b) := if_pos h

theorem divide_of_pos (h : 0 < b) : divide a b = .ok (a / b) := if_neg (Nat.ne_of_gt h)

theorem leading_of_le {xs : List α} (h : n ≤ xs.length) : leading xs n = .ok (xs.take n) := if_pos h

theorem put_of_lt {xs : Array α} (x : α) (h : i < xs.size) :
    put xs i x = .ok (xs.setIfInBounds i x) := if_pos h

end Checked

/-! ### Buffers -/

/-- A policy publishes no more points than there are, and than there is room for. -/
theorem OverflowPolicy.accept?_le {policy : OverflowPolicy} {capacity count n : Nat}
    (h : policy.accept? capacity count = some n) : n ≤ count ∧ n ≤ capacity := by
  have hn := (OverflowPolicy.of_accept? h).1
  omega

namespace FrameBuffer

/-- `FrameBuffer.ofCapacity` with a product in a word of 64 bits. -/
def ofCapacityChecked (address capacity : Nat) : Except Panic (Except RelayError FrameBuffer) :=
  if capacity > Sensor.maxPoints then
    .ok (.error (.config s!"buffer capacity {capacity} exceeds {Sensor.maxPoints} points"))
  else do
    let size ← Checked.times UInt64.size Sensor.floatsPerPoint capacity
    return .ok { address, words := Array.replicate size 0, count := 0 }

/-- `FrameBuffer.setPoint` with places that have to be there. -/
def setPointChecked (words : Array UInt32) (i : Nat) (p : Point) : Except Panic (Array UInt32) := do
  let k := Sensor.floatsPerPoint * i
  let words ← Checked.put words k p.x
  let words ← Checked.put words (k + 1) p.y
  Checked.put words (k + 2) p.z

def setPointsChecked (words : Array UInt32) (i : Nat) : List Point → Except Panic (Array UInt32)
  | [] => .ok words
  | p :: ps => do
    let words ← setPointChecked words i p
    setPointsChecked words (i + 1) ps

/-- `FrameBuffer.write` with points that have to be there, places as well, and a difference that is
    not below zero. -/
def writeChecked (b : FrameBuffer) (points : List Point) (policy : OverflowPolicy) :
    Except Panic (Except RelayError (Written × FrameBuffer)) :=
  match policy.accept? b.capacity points.length with
  | none => .ok (.error (.bufferOverflow points.length b.capacity))
  | some n => do
    let points' ← Checked.leading points n
    let words ← setPointsChecked b.words 0 points'
    let truncated ← Checked.minus points.length n
    return .ok (⟨n, truncated⟩, { b with words, count := n })

/-- `FrameBuffer.frame` with a product in a word of 64 bits and words that have to be there. -/
def frameChecked (b : FrameBuffer) : Except Panic (Array UInt32) := do
  let n ← Checked.times UInt64.size b.count Sensor.floatsPerPoint
  if n ≤ b.words.size then .ok (b.words.extract 0 n) else .error .outOfBounds

/-- A buffer within the limits of the sensor, whose frame has not more points than fit. -/
structure Sized (b : FrameBuffer) : Prop where
  capacity : b.capacity ≤ Sensor.maxPoints
  count : b.count ≤ b.capacity

/-- A new buffer is as large as it should be. -/
theorem sized_zeros (address : Nat) {n : Nat} (h : n ≤ Sensor.maxPoints) :
    (zeros address n).Sized where
  capacity := by
    rw [capacity_zeros]
    exact h
  count := Nat.zero_le _

/-- **A buffer is made within a word**, if it is made. -/
theorem ofCapacityChecked_eq (address n : Nat) :
    ofCapacityChecked address n = .ok (ofCapacity address n) := by
  unfold ofCapacityChecked ofCapacity
  split
  · rfl
  · next hroom =>
    have hproduct : Sensor.floatsPerPoint * n < UInt64.size := by
      unfold Sensor.maxPoints at hroom
      unfold Sensor.floatsPerPoint UInt64.size
      omega
    rw [Checked.times_of_lt hproduct]
    rfl

/-- A point is written without giving up where the buffer has room for it. -/
theorem setPointChecked_eq {words : Array UInt32} {i : Nat} (p : Point)
    (h : Sensor.floatsPerPoint * (i + 1) ≤ words.size) :
    setPointChecked words i p = .ok (setPoint words i p) := by
  unfold Sensor.floatsPerPoint at h
  unfold setPointChecked setPoint Sensor.floatsPerPoint
  dsimp only [bind, Except.bind]
  rw [Checked.put_of_lt _ (by omega)]
  dsimp only
  rw [Checked.put_of_lt _ (by rw [Array.size_setIfInBounds]; omega)]
  dsimp only
  rw [Checked.put_of_lt _ (by rw [Array.size_setIfInBounds, Array.size_setIfInBounds]; omega)]

/-- So are any number of points. -/
theorem setPointsChecked_eq {words : Array UInt32} {i : Nat} {points : List Point}
    (h : Sensor.floatsPerPoint * (i + points.length) ≤ words.size) :
    setPointsChecked words i points = .ok (setPoints words i points) := by
  induction points generalizing words i with
  | nil => rfl
  | cons p ps ih =>
    unfold Sensor.floatsPerPoint at h ih
    rw [List.length_cons] at h
    unfold setPointsChecked setPoints
    dsimp only [bind, Except.bind]
    rw [setPointChecked_eq p (by unfold Sensor.floatsPerPoint; omega)]
    exact ih (by rw [size_setPoint]; omega)

/-- As many points as fit have their places in the buffer. -/
theorem le_size_of_le_capacity {b : FrameBuffer} {n : Nat} (h : n ≤ b.capacity) :
    Sensor.floatsPerPoint * n ≤ b.words.size :=
  Nat.le_trans (Nat.mul_le_mul_left _ h) (Nat.mul_div_le _ _)

/-- **Writing a frame stays in bounds**, whatever the frame, the policy and the buffer. -/
theorem writeChecked_eq (b : FrameBuffer) (points : List Point) (policy : OverflowPolicy) :
    b.writeChecked points policy = .ok (b.write points policy) := by
  unfold writeChecked write
  cases haccept : policy.accept? b.capacity points.length with
  | none => rfl
  | some n =>
    -- The policy answers for both bounds: of the points there are, and of the places.
    obtain ⟨hcount, hcapacity⟩ := OverflowPolicy.accept?_le haccept
    have hplaces : Sensor.floatsPerPoint * (0 + (points.take n).length) ≤ b.words.size := by
      rw [Nat.zero_add, List.length_take, Nat.min_eq_left hcount]
      exact le_size_of_le_capacity hcapacity
    dsimp only [bind, Except.bind]
    rw [Checked.leading_of_le hcount]
    dsimp only
    rw [setPointsChecked_eq hplaces]
    dsimp only
    rw [Checked.minus_of_le hcount]
    rfl

/-- A frame that is written leaves a buffer within its limits. -/
theorem Sized.of_write {b b' : FrameBuffer} {points : List Point} {policy : OverflowPolicy}
    {written : Written} (hb : b.Sized) (h : b.write points policy = .ok (written, b')) :
    b'.Sized ∧ b'.count = written.written := by
  obtain ⟨haccept, hsize, -⟩ := FrameBuffer.of_write h
  have hcapacity : b'.capacity = b.capacity := congrArg (· / _) hsize
  have hcount : b'.count = written.written := by
    unfold write at h
    rw [haccept] at h
    exact (congrArg FrameBuffer.count (Prod.mk.inj (Except.ok.inj h)).2).symm
  refine ⟨⟨hcapacity ▸ hb.capacity, ?_⟩, hcount⟩
  rw [hcapacity, hcount]
  exact (OverflowPolicy.accept?_le haccept).2

/-- **The current frame lies in the buffer.** -/
theorem Sized.frameChecked_eq {b : FrameBuffer} (hb : b.Sized) : b.frameChecked = .ok b.frame := by
  have hplaces := le_size_of_le_capacity hb.count
  -- The limit of the sensor is far below what a word holds.
  have hproduct : b.count * Sensor.floatsPerPoint < UInt64.size := by
    have hcapacity := Nat.le_trans hb.count hb.capacity
    unfold Sensor.maxPoints at hcapacity
    unfold Sensor.floatsPerPoint UInt64.size
    omega
  unfold frameChecked frame
  rw [Checked.times_of_lt hproduct, Nat.mul_comm b.count]
  exact if_pos hplaces

end FrameBuffer

/-! ### Deliveries -/

/-- The bytes of the current frame, with a product in a word of 64 bits and bytes that have to be
    there. -/
def Delivery.bytesChecked (d : Delivery) : Except Panic ByteArray := do
  let n ← Checked.times UInt64.size d.pointCount Sensor.bytesPerPoint
  if n ≤ d.data.size then .ok (d.data.extract 0 n) else .error .outOfBounds

/-- What any delivery has to say about the bytes of its frame: nothing if their number does not fit
    a word of 64 bits, and otherwise those at the front of the data, as far as there are any. -/
theorem Delivery.frameBytes_total (d : Delivery) :
    ((∃ e, d.frameBytes = .error e) ↔ UInt64.size ≤ d.pointCount * Sensor.bytesPerPoint) ∧
      (d.pointCount * Sensor.bytesPerPoint < UInt64.size → ∃ bytes, d.frameBytes = .ok bytes ∧
        bytes.size = min (d.pointCount * Sensor.bytesPerPoint) d.data.size ∧
        bytes.data.toList = d.data.data.toList.take bytes.size) := by
  unfold frameBytes
  by_cases hfits : d.pointCount * Sensor.bytesPerPoint < UInt64.size
  · rw [if_pos hfits]
    refine ⟨by simp [Nat.not_le.mpr hfits], fun _ => ⟨_, rfl, ?_, ?_⟩⟩
    · simp
    · simp
  · rw [if_neg hfits]
    exact ⟨by simp [Nat.not_lt.mp hfits], fun h => absurd h hfits⟩

namespace Channel

/-- `Channel.publish` with all checks. -/
def publishChecked (points : List Point) (c : Channel) :
    Except Panic (Except RelayError (Delivery × Written × Channel)) :=
  (c.buffer.writeChecked points c.policy).map fun
    | .error e => .error e
    | .ok (w, b) => .ok (⟨c.view, b.bytes, w.written, c.nextSequence⟩, w,
        { c with buffer := b, nextSequence := c.nextSequence + 1 })

/-- A channel publishes every frame without giving up. -/
theorem publishChecked_eq (points : List Point) (c : Channel) :
    c.publishChecked points = .ok (c.publish points) := by
  unfold publishChecked publish
  rw [FrameBuffer.writeChecked_eq]
  cases c.buffer.write points c.policy <;> rfl

variable {x y : Channel} {points : List Point} {d : Delivery} {written : Written}

/-- **The bytes of a frame that is published are in the buffer.** -/
theorem bytesChecked_of_publish (hx : x.buffer.Sized) (h : x.publish points = .ok (d, written, y)) :
    y.buffer.Sized ∧ ∃ bytes, d.bytesChecked = .ok bytes ∧ d.frameBytes = .ok bytes := by
  obtain ⟨b, hwrite, rfl, rfl⟩ := publish_eq_ok.mp h
  obtain ⟨hb, hcount⟩ := hx.of_write hwrite
  refine ⟨hb, ?_⟩
  have hplaces := FrameBuffer.le_size_of_le_capacity hb.count
  have hbytes : written.written * Sensor.bytesPerPoint ≤ b.bytes.size := by
    rw [show b.bytes.size = 4 * b.words.size from FrameBuffer.size_bytesOf b.words, ← hcount]
    unfold Sensor.bytesPerPoint
    unfold Sensor.floatsPerPoint at hplaces ⊢
    omega
  have hproduct : written.written * Sensor.bytesPerPoint < UInt64.size := by
    have hcapacity := Nat.le_trans hb.count hb.capacity
    rw [hcount] at hcapacity
    unfold Sensor.maxPoints at hcapacity
    unfold Sensor.bytesPerPoint Sensor.floatsPerPoint UInt64.size
    omega
  unfold Delivery.bytesChecked Delivery.frameBytes
  rw [Checked.times_of_lt hproduct, if_pos hproduct, Nat.min_eq_left hbytes]
  exact ⟨_, if_pos hbytes, rfl⟩

end Channel

namespace Relay

/-- `Relay.publish` with all checks. -/
def publishChecked (k : Nat) (points : List Point) (w : Relay) :
    Except Panic (Option Delivery × Relay) :=
  ((w.channel k).publishChecked points).map fun
    | .error _ => (none, w.count k Stats.noteOverflow)
    | .ok (d, written, c) =>
      (some d, (w.modifyChannel k fun _ => c).count k (Stats.noteWritten written.truncated))

/-- So does the relay. -/
theorem publishChecked_eq (k : Nat) (points : List Point) (w : Relay) :
    w.publishChecked k points = .ok (w.publish k points) := by
  unfold publishChecked publish
  rw [Channel.publishChecked_eq]
  cases (w.channel k).publish points <;> rfl

end Relay

/-! ### Sources -/

/-- `Source.start` with a divisor that has to be positive. -/
def Source.startChecked (run now : Nat) (useCase : Option String) (limit : Option Nat) :
    Except Panic Source := do
  let interval ← Checked.divide nanosPerSecond (Source.rate useCase)
  return { run, interval, limit, due := now + interval }

/-- **A source can always pace its frames**, whatever the use case is called. -/
theorem Source.startChecked_eq (run now : Nat) (useCase : Option String) (limit : Option Nat) :
    Source.startChecked run now useCase limit = .ok (.start run now useCase limit) := by
  unfold startChecked start
  rw [Checked.divide_of_pos (rate_pos useCase)]
  rfl

end DepthRelay
