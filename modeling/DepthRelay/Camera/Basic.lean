import DepthRelay.FrameRate
import DepthRelay.Point
import DepthRelay.Sensor
import DepthRelay.Status

namespace DepthRelay

/-!
# Simulated cameras

A camera stays connected while device objects for it come and go; its state is shared by all of
them.

* `Descriptor` — the platform handle that cameras are reachable through.
* `CameraProfile` — what is fixed about a camera; `StreamMode` tells where its frames come from.
* `DriverOp` — the operations that can be made to fail.
* `Camera` — the state; `Camera.offer` hands a frame to whoever listens.
-/

/-- The platform handle that cameras are looked for behind. -/
structure Descriptor where
  fd : Int
  deriving DecidableEq, Repr, Inhabited

/-- A descriptor as messages show it. -/
def Descriptor.text (d : Descriptor) : String := s!"fd:{d.fd}"

/-- Where a camera's frames come from once it captures. -/
inductive StreamMode
  /-- Only from frames that are injected. -/
  | manual
  /-- From a thread of the driver, at the rate of the use case; at most `limit` frames a run. -/
  | paced (limit : Option Nat)
  deriving DecidableEq, Repr, Inhabited

/-- What is fixed about a camera. -/
structure CameraProfile where
  serial : String
  fd : Int
  width : UInt32 := Sensor.maxWidth
  height : UInt32 := Sensor.maxHeight
  useCases : List String := standardUseCases
  stream : StreamMode := .manual
  deriving Repr, Inhabited

/-- Who sets the exposure time. -/
inductive ExposureMode
  | manual
  | automatic
  deriving DecidableEq, Repr, Inhabited

/-- Driver operations that can be made to fail. -/
inductive DriverOp
  | createCamera
  | prepare
  | registerListener
  | useCases
  | setUseCase
  | setExposureMode
  | setExposureTime
  | startCapture
  | stopCapture
  | maxSensorWidth
  | maxSensorHeight
  deriving DecidableEq, Repr

/-- A camera whose listeners are named by `L`. -/
structure Camera (L : Type) where
  profile : CameraProfile
  /-- Injected failures, at most one for an operation. -/
  faults : List (DriverOp × Status) := []
  listener : Option L := none
  initialized : Bool := false
  capturing : Bool := false
  /-- The use case selected last. -/
  useCase : Option String := none
  exposureMode : ExposureMode := .automatic
  /-- The exposure time set last, in microseconds; 0 if none ever was. -/
  exposureTime : UInt32 := 0
  /-- Frames handed to a listener so far. -/
  emitted : Nat := 0
  deriving Repr

namespace Camera

variable {L : Type}

/-- The failure injected for an operation. -/
def fault? (c : Camera L) (op : DriverOp) : Option Status := c.faults.lookup op

/-- Makes an operation fail with a status until the faults are cleared. -/
def fail (op : DriverOp) (s : Status) (c : Camera L) : Camera L :=
  { c with faults := (op, s) :: c.faults.filter (·.1 ≠ op) }

/-- Lets all operations work again. -/
def clearFaults (c : Camera L) : Camera L := { c with faults := [] }

/-- Takes a frame at a moment in nanoseconds.  If the camera captures and somebody listens, the
    frame gets the next number of the camera and goes to the listener; otherwise nothing happens. -/
def offer (now : Nat) (points : List Point) (c : Camera L) : Option (L × DepthFrame) × Camera L :=
  match c.capturing, c.listener with
  | true, some l =>
    (some (l, ⟨c.emitted, now / 1000, c.profile.width, c.profile.height, points⟩),
      { c with emitted := c.emitted + 1 })
  | _, _ => (none, c)

/-- The state after a device object for the camera is gone: the choices made stay, the rest is as
    before the object was prepared. -/
def release (c : Camera L) : Camera L :=
  { c with capturing := false, listener := none, initialized := false }

end Camera

/-! ### Enumeration -/

/-- Serials of the cameras behind a descriptor, in the order of the list. -/
def connected {L : Type} (cameras : List (Camera L)) (d : Descriptor) : List String :=
  (cameras.filter (·.profile.fd == d.fd)).map (·.profile.serial)

/-- The place of the first camera with a serial. -/
def place? {L : Type} (cameras : List (Camera L)) (serial : String) : Option Nat :=
  cameras.findIdx? (·.profile.serial == serial)

end DepthRelay
