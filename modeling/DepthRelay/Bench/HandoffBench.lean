import DepthRelay.Bench.Gate
import DepthRelay.Handoff

namespace DepthRelay.Bench

/-!
# A hand-off on the bench

A hand-off whose sink notes every frame it is given, waits at a gate, and may be told to give up or
to close the hand-off in one of its calls.

* `HandoffBench.settle` — lets the dispatch thread run until it has nothing to do or waits.
* `HandoffBench.submit`, `HandoffBench.shutdown` — what a bench can ask for, each followed by
  settling.
-/

/-- A hand-off and its sink. -/
structure HandoffBench where
  handoff : Handoff
  gate : Gate Unit
  /-- Number of the call in which the sink gives up. -/
  abortAt : Option Nat := none
  /-- Number of the call in which the sink closes the hand-off. -/
  closeAt : Option Nat := none
  /-- The frames that the sink has been given, the oldest first. -/
  calls : List (List Point) := []
  /-- Calls of the sink that have returned. -/
  finished : Nat := 0

namespace HandoffBench

/-- One step of the dispatch thread, if it can do one: it ends the call of the sink, or takes the
    next frame to it. -/
def step? (b : HandoffBench) : Option HandoffBench :=
  if b.handoff.sinking then
    if b.gate.holds () then none
    else
      let call := b.calls.length - 1
      if b.abortAt = some call then some { b with handoff := b.handoff.crash }
      else
        let h := if b.closeAt = some call then b.handoff.close else b.handoff
        some { b with handoff := h.complete, finished := b.finished + 1 }
  else
    match b.handoff.take? with
    | none => none
    | some (frame, h) =>
      some { b with handoff := h, calls := b.calls ++ [frame], gate := b.gate.arrive () }

/-- At most `n` steps of the dispatch thread. -/
def run : Nat → HandoffBench → HandoffBench
  | 0, b => b
  | n + 1, b =>
    match b.step? with
    | none => b
    | some b => run n b

/-- Steps of the dispatch thread until it cannot do any.  Each frame takes two steps. -/
def settle (b : HandoffBench) : HandoffBench := run (2 * b.handoff.queue.length + 2) b

/-- Submits a frame. -/
def submit (frame : List Point) (b : HandoffBench) : HandoffStatus × HandoffBench :=
  let (status, h) := b.handoff.submit frame
  (status, { b with handoff := h }.settle)

/-- Lets the next `n` calls of the sink pass the gate. -/
def release (n : Nat) (b : HandoffBench) : HandoffBench :=
  { b with gate := b.gate.release n }.settle

/-- Closes or opens the gate. -/
def setGate (closed : Bool) (b : HandoffBench) : HandoffBench :=
  { b with gate := b.gate.setClosed closed }.settle

/-- Opens the gate, closes the hand-off and waits for the dispatch thread. -/
def shutdown (b : HandoffBench) : HandoffBench :=
  let b := b.setGate false
  { b with handoff := b.handoff.close }.settle

end HandoffBench

end DepthRelay.Bench
