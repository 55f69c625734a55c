import DepthRelay.Camera.Synthetic
import DepthRelay.Relay.Basic

namespace DepthRelay.Relay

/-!
# Delivering a frame

A thread delivers a frame in stages, between which other threads may go on:

* `begin` — the span of the frame begins and the thread attaches to the host;
* `publish` — with the buffer to itself, the thread puts the frame into it;
* `enter` and `leave` — the two ends of the call of the handler;
* `conclude` — the outcome is made out, counted and timed, and the buffer is free again.

Before that, `offer` takes a frame from a camera to the channel that listens to it, and in queued
delivery `submit` leaves it in the hand-off.
-/

/-- Takes a frame to the channel that listens to the camera at a place, if the camera captures. -/
def offer (camera : Nat) (points : List Point) (w : Relay) : Option Nat × Relay :=
  match w.cameras[camera]? with
  | none => (none, w)
  | some c =>
    let (taken, c) := c.offer w.now points
    (taken.map Prod.fst, { w with cameras := w.cameras.set camera c })

/-- Leaves a frame in the hand-off of a channel. -/
def submit (k : Nat) (h : Handoff) (points : List Point) (w : Relay) : Relay :=
  match h.submit points with
  | (.queued, h) => w.modifyChannel k fun c => { c with handoff := some h }
  | (.dropped, h) =>
    (w.modifyChannel k fun c => { c with handoff := some h }).count k Stats.noteBackpressure

/-- Begins to deliver a frame; without an attachment the frame is dropped. -/
def begin (t : ThreadId) (k : Nat) (w : Relay) : Option Ticket × Relay :=
  let c := w.channel k
  let started := (w.session c.session).timing.begin? w.now
  let (handle, attachments, runtimes) := w.attachments.attach t c.binding w.runtimes
  let w := { w with attachments, runtimes }
  match handle with
  | none => (none, w.count k Stats.noteAttachFailure)
  | some h => (some ⟨k, started, h⟩, w)

/-- Puts a frame into the buffer of a channel; a frame that is refused is dropped. -/
def publish (k : Nat) (points : List Point) (w : Relay) : Option Delivery × Relay :=
  match (w.channel k).publish points with
  | .error _ => (none, w.count k Stats.noteOverflow)
  | .ok (d, written, c) =>
    (some d, (w.modifyChannel k fun _ => c).count k (Stats.noteWritten written.truncated))

/-- Begins the call of the handler for a delivery of a channel. -/
def enter (k : Nat) (d : Delivery) (w : Relay) : Except HostError Unit × Relay :=
  let r := (w.channel k).binding.runtime
  match (w.runtime r).enter d.view with
  | .error e => (.error e, w)
  | .ok runtime => (.ok (), w.modifyRuntime r fun _ => runtime)

/-- Ends the call of the handler for a frame. -/
def leave (t : Ticket) (reply : Reply) (w : Relay) : Relay :=
  w.modifyRuntime (w.channel t.channel).binding.runtime (Runtime.leave t.handle reply)

/-- Adds the span of a frame, which ends now, to the timing log of a channel's session. -/
def time (t : Ticket) (w : Relay) : Relay :=
  match t.started with
  | none => w
  | some start =>
    w.modifySession (w.channel t.channel).session fun s =>
      { s with timing := s.timing.record ⟨start, w.now⟩ }

/-- Makes out how the call for a frame ended, counts the frame and times it if it was accepted. -/
def conclude (t : Ticket) (call : Except HostError Unit) (w : Relay) : Relay :=
  let r := (w.channel t.channel).binding.runtime
  let (outcome, runtime) := (w.runtime r).conclude call t.handle
  let w := w.modifyRuntime r fun _ => runtime
  match outcome with
  | .delivered => (w.count t.channel Stats.noteDelivered).time t
  | .failed _ => w.count t.channel Stats.noteHandlerFailure

/-! ### The dispatch thread of a channel -/

/-- The dispatch thread takes the next frame out of the hand-off. -/
def takeQueued? (k : Nat) (w : Relay) : Option (List Point × Relay) :=
  ((w.channel k).handoff.bind Handoff.take?).map fun (points, h) =>
    (points, w.modifyChannel k fun c => { c with handoff := some h })

/-- The dispatch thread is done with a frame, whose slot is free again. -/
def completeQueued (k : Nat) (w : Relay) : Relay :=
  w.modifyChannel k fun c => { c with handoff := c.handoff.map Handoff.complete }

/-- The dispatch thread ends because the handler gave up. -/
def crashQueued (k : Nat) (w : Relay) : Relay :=
  (w.modifyChannel k fun c => { c with handoff := c.handoff.map Handoff.crash }).exitThread
    (.dispatch k)

/-! ### Frame sources -/

/-- A session whose frame source wakes first, with that source. -/
def nextSource? (w : Relay) : Option (Nat × Source) :=
  (w.sessions.zipIdx.filterMap fun (s, i) => s.source?.map fun source => (i, source)).foldl
    (fun best x =>
      match best with
      | none => some x
      | some y => if x.2.due < y.2.due then some x else some y) none

/-- Replaces the frame source of a session. -/
def setSource (i : Nat) (source : Option Source) (w : Relay) : Relay :=
  w.modifySession i fun s =>
    { s with camera := s.camera.map fun o => { o with device := { o.device with source } } }

/-- Ends a frame source from within its own thread. -/
def endSource (i run : Nat) (w : Relay) : Relay := (w.setSource i none).exitThread (.source run)

/-- A frame source ends because the handler gave up. -/
def crashSource (run : Nat) (w : Relay) : Relay :=
  match w.sessions.findIdx? fun s => s.source?.any (·.run == run) with
  | none => w
  | some i => w.endSource i run

/-- The frame source of a session does its work at the time it is due: it produces the next frame
    of its camera, or ends.  A source that cannot produce a frame ends, too. -/
def wakeSource (i : Nat) (source : Source) (w : Relay) : Option (Nat × List Point) × Relay :=
  let w := { w with now := max w.now source.due }
  let camera := ((w.session i).camera.map (·.device.camera)).getD 0
  match source.wake, w.cameras[camera]? with
  | some (phase, source), some c =>
    match c.profile.syntheticPoints phase with
    | .ok points => (some (camera, points), w.setSource i (some source))
    | .error _ => (none, w.endSource i source.run)
  | _, _ => (none, w.endSource i source.run)

end DepthRelay.Relay
