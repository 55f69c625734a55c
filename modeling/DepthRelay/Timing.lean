namespace DepthRelay

/-!
# Delivery timing

How long frames took, from the moment they reached the relay until the handler had returned.

* `TimingSample` — one frame's span; times are nanoseconds since the epoch.
* `TimingLog` — collects the samples of a run.  Switching it on starts a fresh log, switching it
  off keeps what is there, and only a log that is on takes samples.
* `TimingLog.drain` — hands the samples over, the earliest start first.
-/

/-- A moment, in nanoseconds since the epoch. -/
abbrev Moment := Int

/-- Nanoseconds per second. -/
def nanosPerSecond : Nat := 1000000000

/-- The span of one delivered frame. -/
structure TimingSample where
  start : Moment
  stop : Moment
  deriving DecidableEq, Repr, Inhabited

namespace TimingSample

/-- Length of the span in nanoseconds. -/
def nanos (s : TimingSample) : Int := s.stop - s.start

/-- Length of the span in microseconds, cut toward zero. -/
def micros (s : TimingSample) : Int := s.nanos.tdiv 1000

/-- Seconds and nanoseconds of a moment, the seconds rounded down. -/
def clockText (t : Moment) : String :=
  let fraction := toString (t % nanosPerSecond).toNat
  s!"{t / nanosPerSecond}." ++ "".pushn '0' (9 - fraction.length) ++ fraction

/-- A span as logs show it. -/
def text (s : TimingSample) : String :=
  s!"callback: start={clockText s.start} end={clockText s.stop}"

end TimingSample

/-- The samples of a run. -/
structure TimingLog where
  enabled : Bool := false
  /-- Samples in the order in which they were recorded. -/
  samples : List TimingSample := []
  deriving DecidableEq, Repr, Inhabited

namespace TimingLog

/-- Switches the log on, which empties it, or off, which keeps it. -/
def setEnabled (on : Bool) (l : TimingLog) : TimingLog where
  enabled := on
  samples := if on then [] else l.samples

/-- The start of a frame's span, if the log is on. -/
def begin? (now : Moment) (l : TimingLog) : Option Moment := if l.enabled then some now else none

/-- Takes a sample if the log is on. -/
def record (s : TimingSample) (l : TimingLog) : TimingLog :=
  if l.enabled then { l with samples := l.samples ++ [s] } else l

/-- Number of samples. -/
def size (l : TimingLog) : Nat := l.samples.length

/-- Samples by start; equal starts stay in recording order. -/
def ordered (l : TimingLog) : List TimingSample :=
  l.samples.mergeSort fun a b => a.start ≤ b.start

/-- Hands all samples over, in order of start, and empties the log. -/
def drain (l : TimingLog) : List TimingSample × TimingLog := (l.ordered, { l with samples := [] })

theorem length_drain (l : TimingLog) : l.drain.1.length = l.size := by
  simp [drain, ordered, size]

end TimingLog

end DepthRelay
