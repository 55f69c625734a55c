namespace DepthRelay

/-!
# Delivery counts

What has become of the frames of a session since it was made.  Every frame that reaches the session
ends in exactly one of the counts but `truncatedFrames`, which counts frames on their way to the
handler.
-/

/-- The delivery counts of a session. -/
structure Stats where
  /-- Frames the handler accepted. -/
  delivered : Nat := 0
  /-- Frames dropped because the thread could not attach. -/
  attachFailures : Nat := 0
  /-- Frames the handler failed on, or could not be called for. -/
  handlerFailures : Nat := 0
  /-- Frames dropped because they have more points than the buffer holds. -/
  overflowRejects : Nat := 0
  /-- Frames published with points cut off. -/
  truncatedFrames : Nat := 0
  /-- Frames dropped because no slot of the hand-off was free. -/
  backpressureDrops : Nat := 0
  deriving DecidableEq, Repr, Inhabited

namespace Stats

/-- Frames that have come to an end. -/
def settled (s : Stats) : Nat :=
  s.delivered + s.attachFailures + s.handlerFailures + s.overflowRejects + s.backpressureDrops

/-- One more frame that the handler accepted. -/
def noteDelivered (s : Stats) : Stats := { s with delivered := s.delivered + 1 }

/-- One more frame whose thread could not attach. -/
def noteAttachFailure (s : Stats) : Stats := { s with attachFailures := s.attachFailures + 1 }

/-- One more frame that the handler failed on. -/
def noteHandlerFailure (s : Stats) : Stats := { s with handlerFailures := s.handlerFailures + 1 }

/-- One more frame that did not fit the buffer. -/
def noteOverflow (s : Stats) : Stats := { s with overflowRejects := s.overflowRejects + 1 }

/-- A frame went into the buffer, with so many points cut off. -/
def noteWritten (truncated : Nat) (s : Stats) : Stats :=
  if truncated = 0 then s else { s with truncatedFrames := s.truncatedFrames + 1 }

/-- One more frame that the hand-off dropped. -/
def noteBackpressure (s : Stats) : Stats := { s with backpressureDrops := s.backpressureDrops + 1 }

/-! ### Each end of a frame is counted once -/

@[simp] theorem settled_noteDelivered (s : Stats) : s.noteDelivered.settled = s.settled + 1 := by
  simp only [settled, noteDelivered]
  omega

@[simp] theorem settled_noteAttachFailure (s : Stats) :
    s.noteAttachFailure.settled = s.settled + 1 := by
  simp only [settled, noteAttachFailure]
  omega

@[simp] theorem settled_noteHandlerFailure (s : Stats) :
    s.noteHandlerFailure.settled = s.settled + 1 := by
  simp only [settled, noteHandlerFailure]
  omega

@[simp] theorem settled_noteOverflow (s : Stats) : s.noteOverflow.settled = s.settled + 1 := by
  simp only [settled, noteOverflow]
  omega

@[simp] theorem settled_noteBackpressure (s : Stats) :
    s.noteBackpressure.settled = s.settled + 1 := by
  simp only [settled, noteBackpressure]
  omega

/-- A frame in the buffer is still on its way. -/
@[simp] theorem settled_noteWritten (truncated : Nat) (s : Stats) :
    (s.noteWritten truncated).settled = s.settled := by
  unfold noteWritten
  split <;> rfl

end Stats

end DepthRelay
