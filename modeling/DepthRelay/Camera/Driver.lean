import DepthRelay.Camera.Basic

namespace DepthRelay.Camera

/-!
# Driver calls

The calls of a device object on its camera.  Each looks first for an injected failure, then whether
the camera is prepared, then at its own conditions, and changes the camera only after that; a call
that fails leaves the camera as it was.

* `DriverCall` — a call that answers or fails with a status, on a camera that is threaded through.
* `check`, `demand`, `guarded` — the conditions.
* `prepare` … `maxHeight` — the calls.
-/

variable {L : Type}

/-- A call on a camera: an answer or a status, and the camera afterwards in both cases. -/
abbrev DriverCall (L α : Type) := EStateM Status (Camera L) α

/-- Fails if a failure is injected for the operation. -/
def check (op : DriverOp) : DriverCall L Unit := fun c =>
  match c.fault? op with
  | some s => .error s c
  | none => .ok () c

/-- Fails with a status unless a condition holds. -/
def demand (holds : Camera L → Bool) (s : Status) : DriverCall L Unit := fun c =>
  if holds c then .ok () c else .error s c

/-- The conditions that all calls on a prepared camera share. -/
def guarded (op : DriverOp) : DriverCall L Unit := do
  check op
  demand (·.initialized) .deviceNotInitialized

/-- Prepares the camera for all other calls. -/
def prepare : DriverCall L Unit := do
  check .prepare
  modify fun c => { c with initialized := true }

/-- Registers the one listener, in place of an earlier one. -/
def registerListener (l : L) : DriverCall L Unit := do
  guarded .registerListener
  modify fun c => { c with listener := some l }

/-- Removes the listener; this never fails. -/
def unregisterListener : DriverCall L Unit := modify fun c => { c with listener := none }

/-- The use cases on offer. -/
def useCases : DriverCall L (List String) := do
  guarded .useCases
  demand (!·.profile.useCases.isEmpty) .noUseCasesForDevice
  return (← get).profile.useCases

/-- Selects a use case; not while capturing. -/
def setUseCase (name : String) : DriverCall L Unit := do
  guarded .setUseCase
  demand (!·.capturing) .deviceIsBusy
  demand (·.profile.useCases.contains name) .usecaseNotSupported
  modify fun c => { c with useCase := some name }

/-- Selects who sets the exposure time. -/
def setExposureMode (mode : ExposureMode) : DriverCall L Unit := do
  guarded .setExposureMode
  modify fun c => { c with exposureMode := mode }

/-- Sets the exposure time, in microseconds; only in manual mode. -/
def setExposureTime (micros : UInt32) : DriverCall L Unit := do
  guarded .setExposureTime
  demand (·.exposureMode == .manual) .logicError
  demand (fun _ => micros ≠ 0 && micros ≤ Sensor.maxExposureTime) .outOfBounds
  modify fun c => { c with exposureTime := micros }

/-- Starts to capture; not twice. -/
def startCapture : DriverCall L Unit := do
  guarded .startCapture
  demand (!·.capturing) .logicError
  modify fun c => { c with capturing := true }

/-- Stops to capture, if it did. -/
def stopCapture : DriverCall L Unit := do
  guarded .stopCapture
  modify fun c => { c with capturing := false }

/-- Columns of the sensor. -/
def maxWidth : DriverCall L UInt32 := do
  guarded .maxSensorWidth
  return (← get).profile.width

/-- Rows of the sensor. -/
def maxHeight : DriverCall L UInt32 := do
  guarded .maxSensorHeight
  return (← get).profile.height

end DepthRelay.Camera
