import DepthRelay.Error
import DepthRelay.Sensor

namespace DepthRelay

/-!
# Layout of published points

Hosts that build point-cloud messages from a buffer need to know how its points lie in memory.

* `PointLayout.ofCapacity` — three binary32 fields, 12 bytes per point, little-endian.
* `PointLayout.rowStep` — bytes per row of a cloud of given width, if it fits 32 bits.
-/

/-- Type code of a binary32 field in point-cloud messages. -/
def float32Type : UInt8 := 7

/-- One field of a published point. -/
structure PointField where
  name : String
  /-- Bytes from the start of the point. -/
  offset : UInt32
  datatype : UInt8 := float32Type
  count : UInt32 := 1
  deriving DecidableEq, Repr

/-- How the points of a buffer lie in memory. -/
structure PointLayout where
  fields : List PointField
  /-- Bytes from one point to the next. -/
  pointStep : UInt32
  bigEndian : Bool
  maxPoints : Nat
  deriving DecidableEq, Repr

namespace PointLayout

/-- The layout of a buffer for `maxPoints` points. -/
def ofCapacity (maxPoints : Nat) : PointLayout where
  fields := [⟨"x", 0, float32Type, 1⟩, ⟨"y", 4, float32Type, 1⟩, ⟨"z", 8, float32Type, 1⟩]
  pointStep := UInt32.ofNat Sensor.bytesPerPoint
  bigEndian := false
  maxPoints := maxPoints

/-- Bytes per row of a cloud that is `width` points wide. -/
def rowStep (layout : PointLayout) (width : UInt32) : Except Abort UInt32 :=
  if layout.pointStep.toNat * width.toNat < UInt32.size then .ok (layout.pointStep * width)
  else .error .multiplyOverflow

end PointLayout

end DepthRelay
