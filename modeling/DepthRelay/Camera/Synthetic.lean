import DepthRelay.Camera.Basic
import DepthRelay.Error

namespace DepthRelay

/-!
# Synthetic frames

Cameras without a scene show a wavy surface about one metre away, computed in binary32.

* `syntheticPoint` — the point of one pixel.
* `CameraProfile.syntheticPoints` — a whole frame, row by row, if its size fits 32 bits.
-/

/-- The point at a column and a row of a sensor; `phase` moves the waves. -/
def syntheticPoint (width height : UInt32) (phase : Float32) (row col : Nat) : Point :=
  let column := (UInt32.ofNat col).toFloat32
  let line := (UInt32.ofNat row).toFloat32
  let z : Float32 := 1.0 + 0.1 * (phase + column * 0.05).sin
  let x := (column - width.toFloat32 / 2.0) * 0.004 * z
  let y := (line - height.toFloat32 / 2.0) * 0.004 * z
  let noise : Float32 := 0.002
  { x := x.toBits
    y := y.toBits
    z := z.toBits
    noise := noise.toBits
    gray := (z * 1000.0).toUInt16
    confidence := 255 }

/-- A full frame of a camera. -/
def CameraProfile.syntheticPoints (p : CameraProfile) (phase : Nat) : Except Abort (List Point) :=
  if p.width.toNat * p.height.toNat < UInt32.size then
    let shift := (UInt64.ofNat phase).toFloat32 * 0.2
    .ok ((List.range p.height.toNat).flatMap fun row =>
      (List.range p.width.toNat).map (syntheticPoint p.width p.height shift row))
  else .error .multiplyOverflow

end DepthRelay
