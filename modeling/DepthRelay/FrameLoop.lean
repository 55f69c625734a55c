namespace DepthRelay

/-!
# Frame loops

A frame loop is a thread that calls one body per frame until the body asks to leave or the loop is
told to stop.  The body is told about a stop only between two of its own steps, so long waits look
at the stop flag themselves.

* `LoopAction` — how one call of the body ends.
* `FrameLoop` — the state of a loop; `FrameLoop.step` is one call of the body.
* `FrameLoop.join`, `FrameLoop.stop` — waiting for the end, without and with telling it to stop.
* `sleepCompletes` — whether a wait runs its full time.
-/

/-- How one call of a loop's body ends. -/
inductive LoopAction
  /-- Call again. -/
  | again
  /-- Leave the loop. -/
  | leave
  /-- The body gives up, which ends the thread. -/
  | abort
  /-- The body tells its own loop to stop, and to call again. -/
  | stopSelf
  deriving DecidableEq, Repr

/-- A loop between two calls of its body. -/
structure FrameLoop where
  /-- Calls of the body so far. -/
  calls : Nat := 0
  /-- Whether the loop has been told to stop. -/
  stopRequested : Bool := false
  /-- Whether the thread still runs. -/
  running : Bool := true
  deriving DecidableEq, Repr

namespace FrameLoop

/-- Tells the loop to stop, without waiting. -/
def requestStop (l : FrameLoop) : FrameLoop := { l with stopRequested := true }

/-- What the thread does next: it ends if it has been told to, otherwise it calls the body, which
    is told the number of the call, from 1. -/
def step (body : Nat → LoopAction) (l : FrameLoop) : FrameLoop :=
  if !l.running then l
  else if l.stopRequested then { l with running := false }
  else
    let l := { l with calls := l.calls + 1 }
    match body l.calls with
    | .again => l
    | .leave | .abort => { l with running := false }
    | .stopSelf => l.requestStop

/-- Lets the thread run, for at most `fuel` steps. -/
def run (body : Nat → LoopAction) : Nat → FrameLoop → FrameLoop
  | 0, l => l
  | fuel + 1, l => if l.running then run body fuel (l.step body) else l

/-- Waits until the thread has ended, within `fuel` steps. -/
def join (body : Nat → LoopAction) (fuel : Nat) (l : FrameLoop) : FrameLoop := l.run body fuel

/-- Tells the loop to stop and waits until the thread has ended. -/
def stop (body : Nat → LoopAction) (l : FrameLoop) : FrameLoop := l.requestStop.run body 1

end FrameLoop

/-- Whether a wait that looks at the stop flag runs its full time: only if the flag is not set,
    which is looked at before the time, even if that is already over. -/
def sleepCompletes (stopped : Bool) : Bool := !stopped

/-! ### Bodies -/

/-- Leaves in call `n` and later, or gives up in call `abortAt`. -/
def leaveFrom (n : Nat) (abortAt : Option Nat) (call : Nat) : LoopAction :=
  if abortAt = some call then .abort else if n ≤ call then .leave else .again

/-- Tells its own loop to stop in call `n`. -/
def stopSelfAt (n : Nat) (call : Nat) : LoopAction := if call = n then .stopSelf else .again

end DepthRelay
