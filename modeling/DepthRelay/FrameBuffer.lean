import DepthRelay.Error
import DepthRelay.Point
import DepthRelay.Sensor

namespace DepthRelay

/-!
# The frame buffer

Frames are published through one buffer of fixed size per open session.  A host keeps a *view* of
it, an address and a length, for as long as the session is open.

* `FrameBuffer.ofCapacity` — a zero-filled buffer; more points than the sensor has are refused.
* `FrameBuffer.write` — copies the coordinates of a frame to the front of the buffer; what lies
  behind them stays as earlier frames left it.
* `FrameBuffer.frame`, `FrameBuffer.bytes` — the current frame, and the whole buffer as memory.
* `OverflowPolicy.accept?` — how many points of a frame are published, if any.
-/

/-- What to do with a frame that has more points than the buffer holds. -/
inductive OverflowPolicy
  /-- Drop the whole frame. -/
  | reject
  /-- Publish the first points of the frame. -/
  | truncate
  deriving DecidableEq, Repr, Inhabited

/-- Points that are published of a frame of `count` points; none if the frame is dropped. -/
def OverflowPolicy.accept? (policy : OverflowPolicy) (capacity count : Nat) : Option Nat :=
  if count ≤ capacity then some count
  else match policy with
    | .reject => none
    | .truncate => some capacity

/-- A buffer as a host sees it: where it lies and how many bytes it has. -/
structure View where
  address : Nat
  length : Nat
  deriving DecidableEq, Repr, Inhabited

/-- A buffer for the coordinates of one frame. -/
structure FrameBuffer where
  /-- Where the buffer lies. -/
  address : Nat
  /-- Three coordinates per point, as binary32 patterns. -/
  words : Array UInt32
  /-- Points of the frame written last. -/
  count : Nat
  deriving Repr, Inhabited

/-- Outcome of a write that was not refused. -/
structure Written where
  /-- Points now in the buffer. -/
  written : Nat
  /-- Points cut off. -/
  truncated : Nat
  deriving DecidableEq, Repr

namespace FrameBuffer

/-- A zero-filled buffer for `capacity` points. -/
def zeros (address capacity : Nat) : FrameBuffer where
  address := address
  words := Array.replicate (Sensor.floatsPerPoint * capacity) 0
  count := 0

/-- A zero-filled buffer for `capacity` points, which may not exceed those of the sensor. -/
def ofCapacity (address capacity : Nat) : Except RelayError FrameBuffer :=
  if capacity > Sensor.maxPoints then
    .error (.config s!"buffer capacity {capacity} exceeds {Sensor.maxPoints} points")
  else .ok (zeros address capacity)

/-- A buffer is made if its capacity is one that a sensor can have, and holds zeros then. -/
theorem ofCapacity_eq_ok {address n : Nat} {b : FrameBuffer} :
    ofCapacity address n = .ok b ↔ n ≤ Sensor.maxPoints ∧ b = zeros address n := by
  unfold ofCapacity
  by_cases hlarge : n > Sensor.maxPoints
  · simp [hlarge, Nat.not_le.mpr hlarge]
  · simp [hlarge, Nat.le_of_not_lt hlarge, eq_comm]

/-- Points that the buffer holds. -/
def capacity (b : FrameBuffer) : Nat := b.words.size / Sensor.floatsPerPoint

@[simp] theorem capacity_zeros (a n : Nat) : (zeros a n).capacity = n := by
  simp [zeros, capacity, Sensor.floatsPerPoint]

/-- The same view every time.  Buffers without room need no memory of their own, so they all share
    one view. -/
def view (b : FrameBuffer) : View where
  address := if b.words.isEmpty then 0 else b.address
  length := 4 * b.words.size

/-- Puts the coordinates of a point at place `i`. -/
def setPoint (words : Array UInt32) (i : Nat) (p : Point) : Array UInt32 :=
  let k := Sensor.floatsPerPoint * i
  ((words.setIfInBounds k p.x).setIfInBounds (k + 1) p.y).setIfInBounds (k + 2) p.z

@[simp] theorem size_setPoint (words : Array UInt32) (i : Nat) (p : Point) :
    (setPoint words i p).size = words.size := by simp [setPoint]

/-- Puts the coordinates of consecutive points from place `i` on. -/
def setPoints (words : Array UInt32) (i : Nat) : List Point → Array UInt32
  | [] => words
  | p :: ps => setPoints (setPoint words i p) (i + 1) ps

@[simp] theorem size_setPoints (words : Array UInt32) (i : Nat) (ps : List Point) :
    (setPoints words i ps).size = words.size := by
  induction ps generalizing words i with
  | nil => rfl
  | cons p ps ih => simp [setPoints, ih]

/-- Publishes a frame.  A frame that is refused leaves the buffer alone. -/
def write (b : FrameBuffer) (points : List Point) (policy : OverflowPolicy) :
    Except RelayError (Written × FrameBuffer) :=
  match policy.accept? b.capacity points.length with
  | none => .error (.bufferOverflow points.length b.capacity)
  | some n =>
    .ok (⟨n, points.length - n⟩,
      { b with words := setPoints b.words 0 (points.take n), count := n })

/-- A pattern row as memory. -/
def bytesOf (words : Array UInt32) : ByteArray :=
  words.foldl pushWord (ByteArray.emptyWithCapacity (4 * words.size))

/-- The coordinates of the current frame. -/
def frame (b : FrameBuffer) : Array UInt32 := b.words.extract 0 (Sensor.floatsPerPoint * b.count)

/-- The whole buffer as memory, with what earlier frames left behind the current one. -/
def bytes (b : FrameBuffer) : ByteArray := bytesOf b.words

end FrameBuffer

end DepthRelay
