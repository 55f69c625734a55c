import DepthRelay.Camera.Device
import DepthRelay.Error
import DepthRelay.Layout
import DepthRelay.Session.Stats
import DepthRelay.Settings.Basic

namespace DepthRelay

/-!
# Capture sessions

A session captures from one camera at a time and goes from closed to opened to capturing and back.
While it is open it holds a device object; the frames of one opening travel through one *channel*,
which is only named here.

* `Session.withCamera` — a driver call on the camera of an open session, its failure worded as a
  failure of the session's operation.
* `Session.configure` — the driver calls that prepare a camera for a session.
* `Session.start`, `Session.stop`, `Session.setExposure`, `Session.maxWidth`, `Session.maxHeight` —
  the operations on an open session.  They take the cameras along and hand them back.
* `Session.halt` — what closing does to the camera before frames under way are waited for.
-/

/-- What a session holds while it is open. -/
structure OpenCamera where
  device : Device
  /-- The channel that listens to the camera. -/
  channel : Nat
  serial : String
  rate : FrameRate
  deriving DecidableEq, Repr

/-- A capture session. -/
structure Session where
  /-- Place of the host runtime. -/
  runtime : Nat := 0
  settings : Settings := {}
  state : SessionState := .closed
  camera : Option OpenCamera := none
  /-- Timing of the run. -/
  timing : TimingLog := {}
  /-- Counts since the session was made. -/
  stats : Stats := {}
  deriving Repr, Inhabited

namespace Session

variable {α : Type}

/-- A closed session with settings that must be within their limits. -/
def ofSettings (runtime : Nat) (settings : Settings) : Except RelayError Session :=
  match settings.validate with
  | .error e => .error e
  | .ok () => .ok { runtime, settings }

/-- The frame source that the session's device object owns. -/
def source? (s : Session) : Option Source := s.camera.bind (·.device.source)

/-- How the points of a frame lie in the buffer that the host is shown. -/
def pointLayout (s : Session) : PointLayout := .ofCapacity s.settings.maxPoints.toNat

/-- Works on the device object of an open session and on its camera.  Cameras are never taken away,
    so an open session always finds its own. -/
def withCamera (operation : String)
    (f : Device → Camera Nat → Except Status α × Device × Camera Nat)
    (s : Session) (cameras : List (Camera Nat)) :
    Except RelayError α × Session × List (Camera Nat) :=
  match s.camera with
  | none => (.error (.invalidState operation s.state), s, cameras)
  | some o =>
    match cameras[o.device.camera]? with
    | none => (.error (.device operation .disconnectedDevice), s, cameras)
    | some c =>
      let (r, d, c) := f o.device c
      (r.mapError (.device operation), { s with camera := some { o with device := d } },
        cameras.set o.device.camera c)

/-- A driver call that does not concern the frame source. -/
def call (operation : String) (m : Camera.DriverCall Nat α) (s : Session)
    (cameras : List (Camera Nat)) : Except RelayError α × Session × List (Camera Nat) :=
  s.withCamera operation (fun d c =>
    match m c with
    | .ok a c => (.ok a, d, c)
    | .error e c => (.error e, d, c)) cameras

/-! ### Preparing a camera -/

/-- A driver call whose failure is one of the operation. -/
def stage (operation : String) (m : Camera.DriverCall Nat α) :
    EStateM RelayError (Camera Nat) α := fun c =>
  match m c with
  | .ok a c => .ok a c
  | .error e c => .error (.device operation e) c

/-- Fails with an error unless a condition holds. -/
def require (holds : Bool) (e : RelayError) : EStateM RelayError (Camera Nat) Unit := fun c =>
  if holds then .ok () c else .error e c

/-- Prepares a camera for a session at a frame rate, with a channel as its listener.  The buffer of
    the channel is made once the camera is initialised. -/
def configure (rate : FrameRate) (channel : Nat) (buffer : Except RelayError FrameBuffer) :
    EStateM RelayError (Camera Nat) FrameBuffer := do
  stage "initialize the camera device" Camera.prepare
  let buffer ← MonadExcept.ofExcept buffer
  stage "register data listener" (Camera.registerListener channel)
  let offered ← stage "retrieve use cases" Camera.useCases
  require (offered.contains rate.useCase) (.useCaseNotFound rate.useCase)
  stage "set use case" (Camera.setUseCase rate.useCase)
  stage "set exposure mode to manual" (Camera.setExposureMode .manual)
  return buffer

/-! ### Operations on an open session -/

/-- Starts to capture, with or without a timing log.  The run's frame source, if the camera has
    one, gets the identity `run`. -/
def start (timing : Bool) (run now : Nat) (s : Session) (cameras : List (Camera Nat)) :
    Except RelayError Unit × Session × List (Camera Nat) :=
  if s.state = .opened then
    match { s with timing := s.timing.setEnabled timing }.withCamera "start capture"
        (Device.start run now) cameras with
    | (.ok (), s, cameras) => (.ok (), { s with state := .capturing }, cameras)
    | (.error e, s, cameras) =>
      (.error e, { s with timing := s.timing.setEnabled false }, cameras)
  else (.error (.invalidState "start capture" s.state), s, cameras)

/-- Ends the timing of a run and hands over its samples; there are none if it was not timed. -/
def endTiming (s : Session) : List TimingSample × Session :=
  if s.timing.enabled then
    (s.timing.drain.1, { s with timing := s.timing.drain.2.setEnabled false })
  else ([], { s with timing := s.timing.setEnabled false })

/-- Stops to capture and hands over the samples of the run. -/
def stop (s : Session) (cameras : List (Camera Nat)) :
    Except RelayError (List TimingSample) × Session × List (Camera Nat) :=
  if s.state = .capturing then
    match s.withCamera "stop capture" Device.stop cameras with
    | (.ok (), s, cameras) => (.ok s.endTiming.1, { s.endTiming.2 with state := .opened }, cameras)
    | (.error e, s, cameras) => (.error e, s, cameras)
  else (.error (.invalidState "stop capture" s.state), s, cameras)

/-- Sets the exposure time that the settings ask for. -/
def setExposure (s : Session) (cameras : List (Camera Nat)) :
    Except RelayError Unit × Session × List (Camera Nat) :=
  s.call "set exposure time" (Camera.setExposureTime s.settings.exposureTime) cameras

/-- Columns of the sensor. -/
def maxWidth (s : Session) (cameras : List (Camera Nat)) :
    Except RelayError UInt32 × Session × List (Camera Nat) :=
  s.call "get max sensor width" Camera.maxWidth cameras

/-- Rows of the sensor. -/
def maxHeight (s : Session) (cameras : List (Camera Nat)) :
    Except RelayError UInt32 × Session × List (Camera Nat) :=
  s.call "get max sensor height" Camera.maxHeight cameras

/-! ### Closing -/

/-- Lets the camera of a session go quiet: capturing is stopped and the listener removed, whatever
    the driver says to it.  A run that this ends leaves its samples in a log that is off. -/
def halt (s : Session) (cameras : List (Camera Nat)) : Session × List (Camera Nat) :=
  match s.state with
  | .capturing =>
    let (_, s, cameras) := s.withCamera "stop capture" Device.stop cameras
    let (_, s, cameras) := s.call "unregister data listener" Camera.unregisterListener cameras
    ({ s with timing := s.timing.setEnabled false }, cameras)
  | _ => (s.call "unregister data listener" Camera.unregisterListener cameras).2

/-- The session once its camera is given back. -/
def closed (s : Session) : Session := { s with state := .closed, camera := none }

end Session

end DepthRelay
