import DepthRelay.Point

namespace DepthRelay

/-!
# The hand-off to a dispatch thread

In queued delivery the driver's thread only copies a frame into a free slot and queues it; a
dispatch thread takes frames out and gives them to a *sink*.  The slots are a fixed pool: a slot
returns to it when the sink is done with its frame.

* `Handoff.claim?`, `Handoff.enqueue` — the two steps of `Handoff.submit`.
* `Handoff.take?`, `Handoff.complete` — the two steps of the dispatch thread around the sink.
* `Handoff.close` — no more frames are accepted; those in the queue are still dispatched.
* `Handoff.crash` — the sink gave up: the thread is gone, and so are the frames in the queue.
-/

/-- What a submitter learns about its frame. -/
inductive HandoffStatus
  | queued
  /-- No slot was free, or the hand-off is closed or its thread gone. -/
  | dropped
  deriving DecidableEq, Repr

/-- A hand-off between two steps of the parties. -/
structure Handoff where
  /-- Slots in the pool and length of the queue. -/
  depth : Nat
  /-- Slots nobody holds. -/
  free : Nat
  /-- Frames to be dispatched, the oldest first. -/
  queue : List (List Point) := []
  /-- Whether frames are accepted. -/
  accepting : Bool := true
  /-- Whether the dispatch thread lives; it may have nothing to do. -/
  alive : Bool := true
  /-- Whether the sink has a frame. -/
  sinking : Bool := false
  deriving DecidableEq, Repr

namespace Handoff

/-- A hand-off with a fresh pool. -/
def ofDepth (depth : Nat) : Handoff where
  depth := depth
  free := depth

/-- Takes a free slot. -/
def claim? (h : Handoff) : Option Handoff :=
  if h.free = 0 then none else some { h with free := h.free - 1 }

/-- Queues a frame that has a slot.  A frame that cannot be queued is dropped with its slot. -/
def enqueue (frame : List Point) (h : Handoff) : HandoffStatus × Handoff :=
  if h.accepting && h.alive && h.queue.length < h.depth then
    (.queued, { h with queue := h.queue ++ [frame] })
  else (.dropped, h)

/-- Takes a slot and queues a frame; without a slot the frame is dropped. -/
def submit (frame : List Point) (h : Handoff) : HandoffStatus × Handoff :=
  match h.claim? with
  | none => (.dropped, h)
  | some h => h.enqueue frame

/-- Takes the oldest frame to the sink. -/
def take? (h : Handoff) : Option (List Point × Handoff) :=
  match h.alive, h.sinking, h.queue with
  | true, false, frame :: rest => some (frame, { h with queue := rest, sinking := true })
  | _, _, _ => none

/-- A frame that is taken was the oldest, and waited for a thread with nothing else to do. -/
theorem of_take? {h v : Handoff} {frame : List Point} (htake : h.take? = some (frame, v)) :
    h.sinking = false ∧ ∃ rest, h.queue = frame :: rest ∧
      v = { h with queue := rest, sinking := true } := by
  unfold take? at htake
  split at htake
  · next frame' rest _ hidle hqueue =>
    obtain ⟨rfl, rfl⟩ := Prod.mk.inj (Option.some.inj htake)
    exact ⟨hidle, rest, hqueue, rfl⟩
  · exact absurd htake (by simp)

/-- The sink is done with its frame; the slot goes back to the pool. -/
def complete (h : Handoff) : Handoff := { h with free := h.free + 1, sinking := false }

/-- Accepts no more frames. -/
def close (h : Handoff) : Handoff := { h with accepting := false }

/-- The sink gave up on its frame. -/
def crash (h : Handoff) : Handoff := { h with queue := [], alive := false, sinking := false }

/-- Whether the dispatch thread has nothing left to do and ends. -/
def finished (h : Handoff) : Bool := !h.alive || (!h.accepting && !h.sinking && h.queue.isEmpty)

end Handoff

end DepthRelay
