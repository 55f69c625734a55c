namespace DepthRelay.Sensor

/-!
# The depth sensor

Fixed figures of the camera family and of the data published for it.

* `maxWidth`, `maxHeight` — the sensor's full resolution; `maxPoints` is their product.
* `bytesPerPoint` — three binary32 coordinates per published point.
* `maxExposureTime` — the longest manual exposure, in microseconds.
-/

/-- Columns of the full sensor. -/
def maxWidth : UInt32 := 224

/-- Rows of the full sensor. -/
def maxHeight : UInt32 := 171

/-- Most points that one frame of the full sensor can have. -/
def maxPoints : Nat := 38304

theorem maxPoints_eq : maxPoints = maxWidth.toNat * maxHeight.toNat := rfl

/-- Coordinates published per point: x, y and z. -/
def floatsPerPoint : Nat := 3

/-- Bytes published per point. -/
def bytesPerPoint : Nat := 4 * floatsPerPoint

/-- Bytes of a buffer that holds `maxPoints` points. -/
def maxDataSize : Nat := maxPoints * bytesPerPoint

/-- Default manual exposure time, in microseconds. -/
def defaultExposureTime : UInt32 := 450

/-- Longest manual exposure time that the sensor accepts, in microseconds. -/
def maxExposureTime : UInt32 := 2000

/-- Version text of the driver kit that the simulated cameras stand for. -/
def kitVersion : String := "simulated 0.1.0"

end DepthRelay.Sensor
