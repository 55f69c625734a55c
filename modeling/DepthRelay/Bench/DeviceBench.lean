import DepthRelay.Camera.Device
import DepthRelay.Camera.Synthetic

namespace DepthRelay.Bench

/-!
# Cameras and device objects on the bench

Named device objects for a list of cameras, and named recorders that listen to them.

* `DeviceBench.create`, `DeviceBench.drop` — device objects come and go.
* `DeviceBench.call`, `DeviceBench.start`, `DeviceBench.stop` — calls on a device object.
* `DeviceBench.emit`, `DeviceBench.emitSynthetic` — frames injected into a camera.
* `DeviceBench.await` — lets time pass for the frame sources until a recorder has enough frames.
-/

/-- A listener that keeps what it is given. -/
structure Recorder where
  /-- Frames that nobody has collected yet. -/
  frames : List DepthFrame := []
  /-- Frames received in all. -/
  received : Nat := 0

/-- Cameras, device objects, recorders and a clock in nanoseconds. -/
structure DeviceBench where
  cameras : List (Camera String)
  devices : List (String × Device) := []
  recorders : List (String × Recorder) := []
  nextRun : Nat := 0
  now : Nat

namespace DeviceBench

/-- The recorder with a name; one that nobody has used yet is empty. -/
def recorder (name : String) (b : DeviceBench) : Recorder := (b.recorders.lookup name).getD {}

/-- Replaces a recorder. -/
def setRecorder (name : String) (r : Recorder) (b : DeviceBench) : DeviceBench :=
  { b with recorders := (name, r) :: b.recorders.filter (·.1 ≠ name) }

/-- Replaces a device object. -/
def setDevice (name : String) (d : Device) (b : DeviceBench) : DeviceBench :=
  { b with devices := (name, d) :: b.devices.filter (·.1 ≠ name) }

/-- Hands the frames of a recorder over. -/
def collect (name : String) (b : DeviceBench) : List DepthFrame × DeviceBench :=
  let r := b.recorder name
  (r.frames, b.setRecorder name { r with frames := [] })

/-! ### Device objects -/

/-- The effect on a camera of dropping a device object for it. -/
def released (d : Device) (b : DeviceBench) : DeviceBench :=
  { b with cameras := b.cameras.modify d.camera Camera.release }

/-- Makes a device object for the camera with a serial.  An object of the same name is dropped once
    the new one is made. -/
def create (name serial : String) (b : DeviceBench) : Except Status Unit × DeviceBench :=
  match place? b.cameras serial with
  | none => (.error .disconnectedDevice, b)
  | some i =>
    match b.cameras[i]?.bind (·.fault? .createCamera) with
    | some s => (.error s, b)
    | none =>
      let b := match b.devices.lookup name with
        | some old => b.released old
        | none => b
      (.ok (), b.setDevice name { camera := i })

/-- Drops a device object; the answer tells whether there was one. -/
def drop (name : String) (b : DeviceBench) : Bool × DeviceBench :=
  match b.devices.lookup name with
  | none => (false, b)
  | some d => (true, { b.released d with devices := b.devices.filter (·.1 ≠ name) })

/-- Works on a device object and its camera, if there is such an object. -/
def withDevice {α : Type} (name : String)
    (f : Device → Camera String → Except Status α × Device × Camera String) (b : DeviceBench) :
    Option (Except Status α) × DeviceBench :=
  match b.devices.lookup name with
  | none => (none, b)
  | some d =>
    match b.cameras[d.camera]? with
    | none => (none, b)
    | some c =>
      let (r, d, c) := f d c
      (some r, { b with cameras := b.cameras.set d.camera c }.setDevice name d)

/-- A driver call on a device object. -/
def call {α : Type} (name : String) (m : Camera.DriverCall String α) (b : DeviceBench) :
    Option (Except Status α) × DeviceBench :=
  b.withDevice name fun d c =>
    match m c with
    | .ok a c => (.ok a, d, c)
    | .error s c => (.error s, d, c)

/-- Starts to capture. -/
def start (name : String) (b : DeviceBench) : Option (Except Status Unit) × DeviceBench :=
  { b with nextRun := b.nextRun + 1 }.withDevice name (Device.start b.nextRun b.now)

/-- Stops to capture. -/
def stop (name : String) (b : DeviceBench) : Option (Except Status Unit) × DeviceBench :=
  b.withDevice name Device.stop

/-! ### Frames -/

/-- Injects a frame into the camera at a place. -/
def emitAt (i : Nat) (points : List Point) (b : DeviceBench) : Bool × DeviceBench :=
  match b.cameras[i]? with
  | none => (false, b)
  | some c =>
    match c.offer b.now points with
    | (none, _) => (false, b)
    | (some (listener, frame), c) =>
      let r := b.recorder listener
      (true, { b with cameras := b.cameras.set i c }.setRecorder listener
        { frames := r.frames ++ [frame], received := r.received + 1 })

/-- Injects a frame into the camera with a serial, if there is one. -/
def emit (serial : String) (points : List Point) (b : DeviceBench) : Option Bool × DeviceBench :=
  match place? b.cameras serial with
  | none => (none, b)
  | some i =>
    let (r, b) := b.emitAt i points
    (some r, b)

/-- Injects a synthetic frame, whose phase is the number of frames so far. -/
def emitSynthetic (serial : String) (b : DeviceBench) :
    Option (Except Abort Bool) × DeviceBench :=
  match place? b.cameras serial with
  | none => (none, b)
  | some i =>
    match b.cameras[i]? with
    | none => (none, b)
    | some c =>
      match c.profile.syntheticPoints c.emitted with
      | .error a => (some (.error a), b)
      | .ok points =>
        let (r, b) := b.emitAt i points
        (some (.ok r), b)

/-! ### Frame sources -/

/-- The device object whose source wakes first. -/
def nextSource? (b : DeviceBench) : Option (String × Device × Source) :=
  (b.devices.filterMap fun (n, d) => d.source.map fun s => (n, d, s)).foldl (fun best x =>
    match best with
    | none => some x
    | some y => if x.2.2.due < y.2.2.due then some x else some y) none

/-- Lets time pass until a source wakes, and lets it do its work.  A source ends at its limit, and
    also if it cannot produce a frame. -/
def wakeSource (name : String) (d : Device) (s : Source) (b : DeviceBench) : DeviceBench :=
  let b := { b with now := max b.now s.due }
  match s.wake, b.cameras[d.camera]? with
  | some (phase, s), some c =>
    match c.profile.syntheticPoints phase with
    | .ok points => ((b.setDevice name { d with source := some s }).emitAt d.camera points).2
    | .error _ => b.setDevice name { d with source := none }
  | _, _ => b.setDevice name { d with source := none }

/-- Lets time pass until a recorder has received `n` frames in all, for at most `fuel` frames. -/
def await (listener : String) (n : Nat) : Nat → DeviceBench → DeviceBench
  | 0, b => b
  | fuel + 1, b =>
    if n ≤ (b.recorder listener).received then b
    else
      match b.nextSource? with
      | none => b
      | some (name, d, s) => await listener n fuel (b.wakeSource name d s)

end DeviceBench

end DepthRelay.Bench
