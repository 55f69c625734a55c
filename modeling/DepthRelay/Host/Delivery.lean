import DepthRelay.Error
import DepthRelay.FrameBuffer

namespace DepthRelay

/-!
# Deliveries

What a host's frame handler is given for one frame, and what it can answer.

* `Delivery` — the buffer, how much of it is the current frame, and the frame's number.
* `Delivery.frameBytes` — the part of the buffer that belongs to the current frame.
* `Reply` — the handler accepts the frame, reports a failure, or gives up without an answer.
-/

/-- One frame as a host's handler sees it. -/
structure Delivery where
  /-- The view that was exposed when the session was opened. -/
  view : View
  /-- The contents of the whole buffer. -/
  data : ByteArray
  /-- Points of the current frame at the start of the buffer. -/
  pointCount : Nat
  /-- Number of the frame within its session. -/
  sequence : Nat

/-- The bytes of the current frame: those of its points, or the whole buffer if that is less.  The
    product must fit 64 bits. -/
def Delivery.frameBytes (d : Delivery) : Except Abort ByteArray :=
  if d.pointCount * Sensor.bytesPerPoint < UInt64.size then
    .ok (d.data.extract 0 (min (d.pointCount * Sensor.bytesPerPoint) d.data.size))
  else .error .multiplyOverflow

/-- How a frame handler ends. -/
inductive Reply
  | accepted
  /-- The handler returns a failure. -/
  | failed (text : String)
  /-- The handler does not return. -/
  | aborted (reason : Abort)
  deriving DecidableEq, Repr

end DepthRelay
