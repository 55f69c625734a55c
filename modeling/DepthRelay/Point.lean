namespace DepthRelay

/-!
# Depth points

What a camera delivers: rows of points, each a position with driver metadata.

* `Point` — coordinates and noise are kept as the binary32 patterns they arrive with, so that no
  pattern is ever changed on its way, not-a-number payloads included.
* `Point.bytes` — a point as it lies in memory: 20 bytes, little-endian, the last one padding.
* `wordBytes`, `pushWord` — the four bytes of a pattern, the least significant first.
-/

/-- The four bytes of a 32-bit pattern, the least significant first. -/
def wordBytes (w : UInt32) : List UInt8 :=
  [w.toUInt8, (w >>> 8).toUInt8, (w >>> 16).toUInt8, (w >>> 24).toUInt8]

@[simp] theorem length_wordBytes (w : UInt32) : (wordBytes w).length = 4 := rfl

/-- Appends the four bytes of a pattern. -/
def pushWord (b : ByteArray) (w : UInt32) : ByteArray :=
  (((b.push w.toUInt8).push (w >>> 8).toUInt8).push (w >>> 16).toUInt8).push (w >>> 24).toUInt8

theorem data_pushWord (b : ByteArray) (w : UInt32) :
    (pushWord b w).data.toList = b.data.toList ++ wordBytes w := by
  simp [pushWord, wordBytes]

/-- One point of a frame. -/
structure Point where
  /-- Position along the sensor's rows, in metres. -/
  x : UInt32
  /-- Position along the sensor's columns, in metres. -/
  y : UInt32
  /-- Distance from the sensor, in metres. -/
  z : UInt32
  /-- Estimated standard deviation of the distance. -/
  noise : UInt32 := 0
  /-- Infrared amplitude. -/
  gray : UInt16 := 0
  /-- 0 for an invalid point, 255 for full confidence. -/
  confidence : UInt8 := 255
  deriving DecidableEq, Repr, Inhabited

namespace Point

/-- Bytes of a point in memory. -/
def size : Nat := 20

/-- A point as it lies in memory. -/
def bytes (p : Point) : List UInt8 :=
  wordBytes p.x ++ wordBytes p.y ++ wordBytes p.z ++ wordBytes p.noise ++
    [p.gray.toUInt8, (p.gray >>> 8).toUInt8, p.confidence, 0]

end Point

/-- One frame as a camera hands it over. -/
structure DepthFrame where
  /-- The camera's own frame counter. -/
  sequence : Nat
  /-- Microseconds since the epoch; 0 for a frame that no camera has stamped. -/
  timestamp : Nat := 0
  width : UInt32
  height : UInt32
  /-- The points in sensor order. -/
  points : List Point
  deriving Repr, Inhabited

/-- An unstamped frame of one row. -/
def DepthFrame.ofPoints (sequence : Nat) (points : List Point) : DepthFrame where
  sequence := sequence
  width := UInt32.ofNat points.length
  height := 1
  points := points

end DepthRelay
