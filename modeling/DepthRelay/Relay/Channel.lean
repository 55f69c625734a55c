import DepthRelay.Handoff
import DepthRelay.Host.Attachment
import DepthRelay.Timing

namespace DepthRelay

/-!
# Channels

The way of frames from a camera to a host, made anew each time a session opens a camera.  Frames
that are under way when the session closes keep their channel.

* `Channel` — the listener's end: which session counts its frames, how threads attach, the buffer,
  and in queued delivery the hand-off.
* `Channel.publish` — a frame goes into the buffer and gets its number.
* `Ticket` — what a thread remembers about the frame that it is delivering.
-/

/-- The way of frames from a camera to a host. -/
structure Channel where
  /-- Place of the session that counts the frames. -/
  session : Nat := 0
  /-- Attaches the threads that deliver. -/
  binding : Binding := default
  policy : OverflowPolicy := .reject
  buffer : FrameBuffer := .zeros 0 0
  /-- Number of the next frame that goes into the buffer. -/
  nextSequence : Nat := 0
  /-- The hand-off of queued delivery. -/
  handoff : Option Handoff := none
  deriving Repr, Inhabited

namespace Channel

/-- The buffer as it is exposed to the host. -/
def view (c : Channel) : View := c.buffer.view

/-- Puts a frame into the buffer.  The handler gets the whole buffer; only frames that are not
    refused use up a number. -/
def publish (points : List Point) (c : Channel) :
    Except RelayError (Delivery × Written × Channel) :=
  match c.buffer.write points c.policy with
  | .error e => .error e
  | .ok (w, b) =>
    .ok (⟨c.view, b.bytes, w.written, c.nextSequence⟩, w,
      { c with buffer := b, nextSequence := c.nextSequence + 1 })

/-- A frame that is not refused goes into the buffer and uses up a number. -/
theorem publish_eq_ok {points : List Point} {x y : Channel} {d : Delivery} {w : Written} :
    x.publish points = .ok (d, w, y) ↔
      ∃ b, x.buffer.write points x.policy = .ok (w, b) ∧
        d = ⟨x.view, b.bytes, w.written, x.nextSequence⟩ ∧
        y = { x with buffer := b, nextSequence := x.nextSequence + 1 } := by
  unfold publish
  cases x.buffer.write points x.policy with
  | error e => simp
  | ok result =>
    obtain ⟨w', b⟩ := result
    constructor
    · intro h
      obtain ⟨rfl, hrest⟩ := Prod.mk.inj (Except.ok.inj h)
      obtain ⟨rfl, rfl⟩ := Prod.mk.inj hrest
      exact ⟨b, rfl, rfl, rfl⟩
    · rintro ⟨b', hb, rfl, rfl⟩
      obtain ⟨rfl, rfl⟩ := Prod.mk.inj (Except.ok.inj hb)
      rfl

end Channel

/-- A frame that a thread is delivering. -/
structure Ticket where
  channel : Nat
  /-- When the frame arrived, if that is to be known. -/
  started : Option Moment
  /-- The thread's handle. -/
  handle : Handle
  deriving DecidableEq, Repr

end DepthRelay
