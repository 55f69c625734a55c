import DepthRelay.Json.Print
import DepthRelay.Relay.Live

namespace DepthRelay.Command

/-!
# A capture run

Captures from one simulated camera into a host that accepts every frame and counts points, and
looks at the counts at regular intervals until the time is over or enough frames have come.

* `CaptureOptions` — what a user can ask for.
* `capture` — the run.  Time is simulated: a look happens before the frames that are due at the
  same moment.
* `CaptureReport` — what the run has shown; `CaptureReport.summary` is how it ends.
-/

/-- What a user can ask for. -/
structure CaptureOptions where
  /-- Key of the frame rate; without one, that of the settings. -/
  rate : Option UInt32 := none
  /-- How long to capture. -/
  seconds : UInt64 := 3
  /-- Frames after which to stop, which is also the limit of the camera. -/
  frames : Option UInt64 := none
  /-- Whether deliveries are timed. -/
  timing : Bool := false
  /-- Whether to deliver on a dispatch thread, whatever the settings say. -/
  queued : Bool := false
  deriving DecidableEq, Repr, Inhabited

namespace CaptureOptions

/-- The settings with what the options change about them. -/
def apply (o : CaptureOptions) (s : Settings) : Settings :=
  if o.queued then { s with delivery := .queued } else s

/-- The descriptor that the camera is behind. -/
def descriptor : Descriptor := ⟨3⟩

/-- The simulated camera. -/
def camera (o : CaptureOptions) : CameraProfile :=
  { serial := "sim-0001"
    fd := descriptor.fd
    stream := .paced (o.frames.map UInt64.toNat) }

/-- The relay before a session is made. -/
def relay (o : CaptureOptions) (now : Nat) : Relay :=
  { cameras := [{ profile := o.camera }], runtimes := [{}], now := now }

end CaptureOptions

/-- The host: it accepts every frame and adds up the points. -/
def countPoints : Handler Nat := fun _ d seen => { reply := .accepted, host := seen + d.pointCount }

/-- Nanoseconds between two looks at the counts. -/
def lookInterval : Nat := 100000000

/-- Number of looks in a second. -/
def looksPerSecond : Nat := nanosPerSecond / lookInterval

/-- Whether the camera has produced enough frames. -/
def enough (frames : Option UInt64) (w : Relay) : Bool :=
  frames.any fun n => n.toNat ≤ ((w.cameras.head?.map Camera.emitted).getD 0)

/-- Looks at the counts up to `n` times, until there are enough frames; what has been delivered at
    each look is returned.  Frames are nanoseconds apart at least, so `lookInterval` bounds those
    between two looks. -/
def watch (frames : Option UInt64) : Nat → Live Nat → List Nat × Live Nat
  | 0, l => ([], l)
  | n + 1, l =>
    if enough frames l.relay then ([], l)
    else
      let delivered := (l.relay.session 0).stats.delivered
      let (later, l) :=
        watch frames n (l.runTo countPoints (l.relay.now + lookInterval) lookInterval)
      (delivered :: later, l)

/-- What a capture run has shown. -/
structure CaptureReport where
  width : UInt32
  height : UInt32
  /-- The camera and the rate it was opened at. -/
  camera : Option OpenCamera
  /-- Frames delivered at each look. -/
  progress : List Nat
  /-- The timing samples, if deliveries were timed. -/
  samples : Option (List TimingSample)
  points : Nat
  stats : Stats

/-- The relay after an operation that has not failed. -/
def succeed {α : Type} (x : Except RelayError α × Relay) : Except RelayError (α × Relay) :=
  x.1.map fun a => (a, x.2)

/-- Captures with some settings. -/
def capture (o : CaptureOptions) (settings : Settings) (now : Nat) :
    Except RelayError CaptureReport := do
  let w ← (o.relay now).addSession 0 (o.apply settings)
  let (_, w) ← succeed (w.openSession CaptureOptions.descriptor (o.rate.getD settings.frameRate) 1 0)
  let (_, w) ← succeed (w.setExposure 0)
  let (width, w) ← succeed (w.maxWidth 0)
  let (height, w) ← succeed (w.maxHeight 0)
  let (_, w) ← succeed (w.start o.timing 0)
  let (progress, l) := watch o.frames (looksPerSecond * o.seconds.toNat) ⟨w, 0⟩
  let (samples, v) ← succeed (l.relay.stop 0)
  let l := (l.withRelay v).close countPoints 0
  return {
    width, height
    camera := (w.session 0).camera
    progress
    samples := if o.timing then some samples else none
    points := l.host
    stats := (l.relay.session 0).stats }

namespace CaptureReport

/-- What is printed before the run. -/
def opening (r : CaptureReport) : String :=
  s!"Sensor: {r.width}x{r.height}\n" ++
    (match r.camera with
      | none => ""
      | some o => s!"Camera: {o.serial} ({o.rate.description})\n") ++
    "\nCapturing... (press Ctrl+C to stop early)\n"

/-- What is printed at each look. -/
def look (delivered : Nat) : String := s!"\rFrames: {delivered}"

/-- One line about the time that deliveries took. -/
def timingLine (samples : List TimingSample) : String :=
  match samples with
  | [] => "No timing samples recorded\n"
  | _ =>
    let micros := samples.map TimingSample.micros
    let mean := (micros.foldl (· + ·) 0).tdiv micros.length
    let longest := micros.max?.getD 0
    s!"Timing: {samples.length} samples, mean {mean} us, max {longest} us\n"

/-- The counts as a document. -/
def counts (s : Stats) : String :=
  String.ofList (Json.object [
    ("delivered", Json.number s.delivered),
    ("attach_failures", Json.number s.attachFailures),
    ("handler_failures", Json.number s.handlerFailures),
    ("overflow_rejects", Json.number s.overflowRejects),
    ("truncated_frames", Json.number s.truncatedFrames),
    ("backpressure_drops", Json.number s.backpressureDrops)])

/-- What is printed after the run. -/
def summary (r : CaptureReport) : String :=
  "\n" ++ (r.samples.map timingLine).getD "" ++ s!"Points delivered: {r.points}\n" ++
    counts r.stats ++ "\n"

end CaptureReport

end DepthRelay.Command
