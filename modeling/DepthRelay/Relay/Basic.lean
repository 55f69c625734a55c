import DepthRelay.Relay.Channel
import DepthRelay.Session.Basic

namespace DepthRelay

/-!
# The relay

Cameras, host runtimes and the sessions between them.  Cameras, runtimes, channels and sessions are
named by their places in lists; nothing is ever taken out of those lists, so a place keeps its
meaning.

* `Relay` — the state of everything that sessions share.
* `Relay.addSession`, `Relay.openSession` — a session is made, and opens the one camera behind a
  descriptor.
* `Relay.start`, `Relay.stop`, `Relay.setExposure`, `Relay.maxWidth`, `Relay.maxHeight` — operations
  on a session at a place.
* `Relay.beginClose`, `Relay.endClose` — closing, before and after the frames in the hand-off have
  been dispatched.
-/

/-- Everything that sessions share. -/
structure Relay where
  /-- Cameras, whose listeners are channels. -/
  cameras : List (Camera Nat) := []
  runtimes : List Runtime := []
  channels : List Channel := []
  sessions : List Session := []
  attachments : Attachments := []
  /-- Identity of the next frame source. -/
  nextRun : Nat := 0
  /-- Nanoseconds since the epoch. -/
  now : Nat := 0
  deriving Repr

namespace Relay

variable {α : Type}

/-! ### Places -/

/-- The session at a place. -/
def session (i : Nat) (w : Relay) : Session := w.sessions.getD i default

/-- The channel at a place. -/
def channel (k : Nat) (w : Relay) : Channel := w.channels.getD k default

/-- The runtime at a place. -/
def runtime (r : Nat) (w : Relay) : Runtime := w.runtimes.getD r default

/-- Changes the session at a place. -/
def modifySession (i : Nat) (f : Session → Session) (w : Relay) : Relay :=
  { w with sessions := w.sessions.modify i f }

/-- Changes the channel at a place. -/
def modifyChannel (k : Nat) (f : Channel → Channel) (w : Relay) : Relay :=
  { w with channels := w.channels.modify k f }

/-- Changes the runtime at a place. -/
def modifyRuntime (r : Nat) (f : Runtime → Runtime) (w : Relay) : Relay :=
  { w with runtimes := w.runtimes.modify r f }

/-- Changes the camera at a place. -/
def modifyCamera (i : Nat) (f : Camera Nat → Camera Nat) (w : Relay) : Relay :=
  { w with cameras := w.cameras.modify i f }

@[simp] theorem session_modifyChannel (i k : Nat) (f : Channel → Channel) (w : Relay) :
    (w.modifyChannel k f).session i = w.session i := rfl

@[simp] theorem session_modifyRuntime (i r : Nat) (f : Runtime → Runtime) (w : Relay) :
    (w.modifyRuntime r f).session i = w.session i := rfl

@[simp] theorem channel_modifySession (k i : Nat) (f : Session → Session) (w : Relay) :
    (w.modifySession i f).channel k = w.channel k := rfl

@[simp] theorem channel_modifyRuntime (k r : Nat) (f : Runtime → Runtime) (w : Relay) :
    (w.modifyRuntime r f).channel k = w.channel k := rfl

/-- A change at one place is seen at that place, if there is a session. -/
theorem session_modifySession (i : Nat) (f : Session → Session) (w : Relay)
    (h : i < w.sessions.length) : (w.modifySession i f).session i = f (w.session i) := by
  simp [session, modifySession, List.getD_eq_getElem?_getD, h]

/-- A change at one place is not seen at another. -/
theorem session_modifySession_of_ne {i j : Nat} (f : Session → Session) (w : Relay) (h : i ≠ j) :
    (w.modifySession i f).session j = w.session j := by
  simp [session, modifySession, List.getD_eq_getElem?_getD, h]

/-- A change at one place is seen at that place, if there is a channel. -/
theorem channel_modifyChannel (k : Nat) (f : Channel → Channel) (w : Relay)
    (h : k < w.channels.length) : (w.modifyChannel k f).channel k = f (w.channel k) := by
  simp [channel, modifyChannel, List.getD_eq_getElem?_getD, h]

/-- A change at one place is not seen at another. -/
theorem channel_modifyChannel_of_ne {k l : Nat} (f : Channel → Channel) (w : Relay) (h : k ≠ l) :
    (w.modifyChannel k f).channel l = w.channel l := by
  simp [channel, modifyChannel, List.getD_eq_getElem?_getD, h]

/-- Changes the counts of the session that a channel belongs to. -/
def count (k : Nat) (f : Stats → Stats) (w : Relay) : Relay :=
  w.modifySession (w.channel k).session fun s => { s with stats := f s.stats }

/-- Ends a thread. -/
def exitThread (t : ThreadId) (w : Relay) : Relay :=
  let (attachments, runtimes) := w.attachments.exit t w.runtimes
  { w with attachments, runtimes }

/-- Ends a frame source. -/
def exitSource (source : Option Source) (w : Relay) : Relay :=
  match source with
  | none => w
  | some s => w.exitThread (.source s.run)

/-! ### Opening -/

/-- Adds a closed session, which gets the next place. -/
def addSession (runtime : Nat) (settings : Settings) (w : Relay) : Except RelayError Relay :=
  match Session.ofSettings runtime settings with
  | .error e => .error e
  | .ok s => .ok { w with sessions := w.sessions ++ [s] }

/-- The channel of an opening. -/
def newChannel (i : Nat) (buffer : FrameBuffer) (w : Relay) : Channel :=
  let s := w.session i
  { session := i
    binding :=
      { address := s.runtime
        runtime := s.runtime
        threadName := match s.settings.delivery with
          | .synchronous => s.settings.attachName
          | .queued => dispatchThreadName }
    policy := s.settings.overflowPolicy
    buffer := buffer
    handoff := match s.settings.delivery with
      | .synchronous => none
      | .queued => some (.ofDepth s.settings.handoffDepth.toNat) }

/-- Opens a camera for a session and exposes the channel's buffer, which lies at `address`.  If
    anything fails the camera is given back at once. -/
def openCamera (place : Nat) (c : Camera Nat) (rate : FrameRate) (address i : Nat) (w : Relay) :
    Except RelayError Unit × Relay :=
  let s := w.session i
  match c.fault? .createCamera with
  | some e => (.error (.device "create the camera device" e), w)
  | none =>
    let buffer := FrameBuffer.ofCapacity address s.settings.maxPoints.toNat
    match Session.configure rate w.channels.length buffer c with
    | .error e c => (.error e, { w with cameras := w.cameras.set place c.release })
    | .ok buffer c =>
      match (w.runtime s.runtime).expose buffer.view with
      | .error e => (.error (.host e), { w with cameras := w.cameras.set place c.release })
      | .ok r =>
        let o : OpenCamera :=
          { device := { camera := place }
            channel := w.channels.length
            serial := c.profile.serial
            rate := rate }
        (.ok (), { w with
          cameras := w.cameras.set place c
          runtimes := w.runtimes.set s.runtime r
          channels := w.channels ++ [w.newChannel i buffer]
          sessions := w.sessions.set i { s with state := .opened, camera := some o } })

/-- Opens the single camera behind a descriptor at the frame rate with a key.  A session that
    cannot open stays closed. -/
def openSession (d : Descriptor) (key : UInt32) (address i : Nat) (w : Relay) :
    Except RelayError Unit × Relay :=
  if (w.session i).state = .closed then
    match FrameRate.ofKey? key with
    | none => (.error (.unsupportedFrameRate key), w)
    | some rate =>
      match connected w.cameras d with
      | [] => (.error .noDevice, w)
      | [serial] =>
        match (place? w.cameras serial).bind fun p => (w.cameras[p]?).map fun c => (p, c) with
        | none => (.error (.device "create the camera device" .disconnectedDevice), w)
        | some (p, c) => w.openCamera p c rate address i
      | serials => (.error (.ambiguousDevice serials.length), w)
  else (.error (.invalidState "open" (w.session i).state), w)

/-! ### Operations on a session -/

/-- An operation on the session at a place and on the cameras. -/
def operate (f : Session → List (Camera Nat) → Except RelayError α × Session × List (Camera Nat))
    (i : Nat) (w : Relay) : Except RelayError α × Relay :=
  let (r, s, cameras) := f (w.session i) w.cameras
  (r, { w with cameras := cameras, sessions := w.sessions.set i s })

/-- Starts to capture.  Only a run that has begun uses up an identity. -/
def start (timing : Bool) (i : Nat) (w : Relay) : Except RelayError Unit × Relay :=
  match w.operate (Session.start timing w.nextRun w.now) i with
  | (.ok (), v) => (.ok (), { v with nextRun := v.nextRun + 1 })
  | (.error e, v) => (.error e, v)

/-- Stops to capture and hands over the timing samples of the run.  A frame source that this stops
    ends as a thread, too. -/
def stop (i : Nat) (w : Relay) : Except RelayError (List TimingSample) × Relay :=
  match w.operate Session.stop i with
  | (.ok samples, v) => (.ok samples, v.exitSource (w.session i).source?)
  | (.error e, v) => (.error e, v)

/-- Sets the exposure time that the settings ask for. -/
def setExposure (i : Nat) (w : Relay) : Except RelayError Unit × Relay :=
  w.operate Session.setExposure i

/-- Columns of the sensor. -/
def maxWidth (i : Nat) (w : Relay) : Except RelayError UInt32 × Relay :=
  w.operate Session.maxWidth i

/-- Rows of the sensor. -/
def maxHeight (i : Nat) (w : Relay) : Except RelayError UInt32 × Relay :=
  w.operate Session.maxHeight i

/-! ### Closing -/

/-- First part of closing: no frame reaches the channel any more, and those in its hand-off are
    waited for. -/
def beginClose (i : Nat) (w : Relay) : Relay :=
  match (w.session i).camera with
  | none => w
  | some o =>
    let (s, cameras) := (w.session i).halt w.cameras
    let w := if s.source?.isNone then w.exitSource (w.session i).source? else w
    { w with cameras := cameras, sessions := w.sessions.set i s }.modifyChannel o.channel
      fun c => { c with handoff := c.handoff.map Handoff.close }

/-- Second part of closing: the dispatch thread and the frame source end, the camera is given back
    and the buffer withdrawn. -/
def endClose (i : Nat) (w : Relay) : Relay :=
  let s := w.session i
  match s.camera with
  | none => w
  | some o =>
    let w := (w.exitThread (.dispatch o.channel)).exitSource s.source?
    { w with
      cameras := w.cameras.modify o.device.camera Camera.release
      runtimes := w.runtimes.modify s.runtime (Runtime.retract (w.channel o.channel).view)
      sessions := w.sessions.set i s.closed }

end Relay

end DepthRelay
