import DepthRelay.Camera.Driver
import DepthRelay.Timing

namespace DepthRelay

/-!
# Device objects and frame sources

A device object is what one user of a camera holds.  While a paced camera captures, the object also
owns a *source*, a thread that delivers synthetic frames at the rate of the use case.

* `Source` — the state of such a thread between two frames; `Source.wake` is what it does when its
  wait is over.
* `Device` — a device object; starting, stopping and dropping it.
-/

/-- Frames per second of a source whose use case does not tell. -/
def defaultSourceRate : Nat := 5

/-- A source between two frames. -/
structure Source where
  /-- Identity of the thread. -/
  run : Nat
  /-- Nanoseconds between two frames. -/
  interval : Nat
  /-- Frames after which the source ends. -/
  limit : Option Nat
  /-- Frames produced so far; also the phase of the next one. -/
  produced : Nat := 0
  /-- When the next wait is over. -/
  due : Nat
  deriving DecidableEq, Repr

namespace Source

/-- Frames per second for a use case, at least one. -/
def rate (useCase : Option String) : Nat :=
  max 1 (((useCase.bind useCaseFps?).map UInt32.toNat).getD defaultSourceRate)

theorem rate_pos (useCase : Option String) : 0 < rate useCase :=
  Nat.lt_of_lt_of_le Nat.zero_lt_one (Nat.le_max_left _ _)

/-- A source that starts now; its first frame comes after one interval. -/
def start (run now : Nat) (useCase : Option String) (limit : Option Nat) : Source :=
  let interval := nanosPerSecond / rate useCase
  { run, interval, limit, due := now + interval }

/-- What a source does when its wait is over: it ends if it has reached its limit, otherwise it
    produces the next frame, whose phase is returned, and waits again. -/
def wake (s : Source) : Option (Nat × Source) :=
  if s.limit.any (· ≤ s.produced) then none
  else some (s.produced, { s with produced := s.produced + 1, due := s.due + s.interval })

end Source

/-- A device object. -/
structure Device where
  /-- Place of its camera. -/
  camera : Nat
  source : Option Source := none
  deriving DecidableEq, Repr

namespace Device

variable {L : Type}

/-- Starts to capture; a paced camera gets a source with the given identity. -/
def start (run now : Nat) (d : Device) (c : Camera L) : Except Status Unit × Device × Camera L :=
  match Camera.startCapture c with
  | .error s c => (.error s, d, c)
  | .ok () c =>
    match c.profile.stream with
    | .manual => (.ok (), d, c)
    | .paced limit => (.ok (), { d with source := some (.start run now c.useCase limit) }, c)

/-- Stops to capture and ends the source. -/
def stop (d : Device) (c : Camera L) : Except Status Unit × Device × Camera L :=
  match Camera.stopCapture c with
  | .error s c => (.error s, d, c)
  | .ok () c => (.ok (), { d with source := none }, c)

end Device

end DepthRelay
