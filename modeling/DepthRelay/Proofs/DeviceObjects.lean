import DepthRelay.Bench.DeviceBench
import DepthRelay.Proofs.DriverCalls
import DepthRelay.Proofs.Places

namespace DepthRelay.Bench

/-!
# Device objects on shared cameras

Any number of device objects can be made for a camera.  They share its state, each that is dropped
takes part of it away, and whoever holds the camera's handle makes operations fail and injects
frames.

* `Act` — what can be done on a bench, in any order; `DeviceBench.perform` does one of them and
  `DeviceBench.run` a list of them.
* `Served` — how a call on a device object can end, and what it has done to the camera then.
* `Moved` — everything that one act can do to one camera.
* `Sound` — what holds of a camera at all times.
* `DeviceBench.Traced` — where a device object comes from that is there after an act.
* `run_camera` — where a camera is after a run, and which frames it has handed out.
* `recorder_run` — which of them a listener has kept.
* `manual_camera_sound` — all of it for a camera that only passes injected frames on.
-/

/-! ### Acts -/

/-- A call on a device object. -/
inductive DeviceCall
  | prepare
  | registerListener (listener : String)
  | unregisterListener
  | useCases
  | setUseCase (useCase : String)
  | setExposureMode (mode : ExposureMode)
  | setExposureTime (micros : UInt32)
  | start
  | stop
  | maxWidth
  | maxHeight

/-- Something that is done on a bench. -/
inductive Act
  /-- A device object is made, under a name, for the camera with a serial. -/
  | create (name serial : String)
  | drop (name : String)
  | call (name : String) (k : DeviceCall)
  | fail (serial : String) (op : DriverOp) (s : Status)
  | clearFaults (serial : String)
  | emit (serial : String) (points : List Point)
  | emitSynthetic (serial : String)
  /-- The frame source that is due first does its work. -/
  | wake

/-- Whether a call on the device object with a name works; `none` if there is no such object.  What
    a call has to tell is left out. -/
def DeviceCall.perform (name : String) (b : DeviceBench) :
    DeviceCall → Option (Except Status Unit) × DeviceBench
  | .prepare => b.call name Camera.prepare
  | .registerListener l => b.call name (Camera.registerListener l)
  | .unregisterListener => b.call name Camera.unregisterListener
  | .useCases => (b.call name Camera.useCases).map (Option.map fun r => r.map fun _ => ()) id
  | .setUseCase u => b.call name (Camera.setUseCase u)
  | .setExposureMode m => b.call name (Camera.setExposureMode m)
  | .setExposureTime t => b.call name (Camera.setExposureTime t)
  | .start => b.start name
  | .stop => b.stop name
  | .maxWidth => (b.call name Camera.maxWidth).map (Option.map fun r => r.map fun _ => ()) id
  | .maxHeight => (b.call name Camera.maxHeight).map (Option.map fun r => r.map fun _ => ()) id

namespace DeviceBench

/-- A bench that nothing has been done on. -/
def fresh (profiles : List CameraProfile) (now : Nat) : DeviceBench :=
  { cameras := profiles.map fun p => { profile := p }, now }

/-- Changes the first camera with a serial, if there is one. -/
def atSerial (serial : String) (f : Camera String → Camera String) (b : DeviceBench) :
    DeviceBench :=
  match place? b.cameras serial with
  | none => b
  | some i => { b with cameras := b.cameras.modify i f }

/-- The bench after an act. -/
def perform (b : DeviceBench) : Act → DeviceBench
  | .create name serial => (b.create name serial).2
  | .drop name => (b.drop name).2
  | .call name k => (k.perform name b).2
  | .fail serial op s => b.atSerial serial (Camera.fail op s)
  | .clearFaults serial => b.atSerial serial Camera.clearFaults
  | .emit serial points => (b.emit serial points).2
  | .emitSynthetic serial => (b.emitSynthetic serial).2
  | .wake =>
    match b.nextSource? with
    | none => b
    | some (name, d, s) => b.wakeSource name d s

/-- The bench after acts in sequence. -/
def run (b : DeviceBench) (acts : List Act) : DeviceBench := acts.foldl perform b

end DeviceBench

/-- A call of a listener. -/
structure ListenerCall where
  /-- Place of the camera. -/
  camera : Nat
  listener : String
  frame : DepthFrame

namespace DeviceBench

/-- The call that follows if points are injected into the camera at a place. -/
def callOf (i : Nat) (points : List Point) (b : DeviceBench) : Option ListenerCall := do
  let c ← b.cameras[i]?
  let (listener, frame) ← (c.offer b.now points).1
  return { camera := i, listener, frame }

/-- The points that an act injects, and the place of the camera. -/
def injected? (b : DeviceBench) : Act → Option (Nat × List Point)
  | .emit serial points => (place? b.cameras serial).map fun i => (i, points)
  | .emitSynthetic serial => do
    let i ← place? b.cameras serial
    let c ← b.cameras[i]?
    let points ← (c.profile.syntheticPoints c.emitted).toOption
    return (i, points)
  | .wake => do
    let (_, d, s) ← b.nextSource?
    let (phase, _) ← s.wake
    let c ← b.cameras[d.camera]?
    let points ← (c.profile.syntheticPoints phase).toOption
    return (d.camera, points)
  | _ => none

/-- When an act injects its points: a source has to wait for that. -/
def moment (b : DeviceBench) : Act → Nat
  | .wake => (b.nextSource?.map fun x => max b.now x.2.2.due).getD b.now
  | _ => b.now

/-- The call of a listener that an act leads to. -/
def callIn? (b : DeviceBench) (a : Act) : Option ListenerCall :=
  (b.injected? a).bind fun (i, points) => { b with now := b.moment a }.callOf i points

/-- The calls of listeners in a run, in order. -/
def calls (b : DeviceBench) : List Act → List ListenerCall
  | [] => []
  | a :: as => (b.callIn? a).toList ++ (b.perform a).calls as

/-- Those on behalf of the camera at a place. -/
def callsOn (i : Nat) (b : DeviceBench) (acts : List Act) : List ListenerCall :=
  (b.calls acts).filter (·.camera = i)

/-- Whether an act injects a frame into the camera at a place and is told that a listener got it. -/
def accepts (i : Nat) (b : DeviceBench) : Act → Bool
  | .emit serial points =>
    place? b.cameras serial = some i ∧ (b.emit serial points).1 = some true
  | .emitSynthetic serial =>
    place? b.cameras serial = some i ∧ (b.emitSynthetic serial).1.any (·.toOption = some true)
  | _ => false

/-- How often that happens in a run. -/
def accepted (i : Nat) (b : DeviceBench) : List Act → Nat
  | [] => 0
  | a :: as => (b.accepts i a).toNat + accepted i (b.perform a) as

end DeviceBench

/-! ### What one act does to a camera -/

/-- How a call on a device object ends and what the camera is then, with what the driver has checked
    before. -/
inductive Served (c : Camera String) :
    DeviceCall → Except Status Unit → Camera String → Prop
  | refused (k : DeviceCall) (s : Status) : Served c k (.error s) c
  | told (k : DeviceCall) : Served c k (.ok ()) c
  | prepared : Served c .prepare (.ok ()) { c with initialized := true }
  | heard (l : String) (hi : c.initialized = true) :
      Served c (.registerListener l) (.ok ()) { c with listener := some l }
  | unheard : Served c .unregisterListener (.ok ()) { c with listener := none }
  | selected (u : String) (hu : u ∈ c.profile.useCases) :
      Served c (.setUseCase u) (.ok ()) { c with useCase := some u }
  | switched (m : ExposureMode) :
      Served c (.setExposureMode m) (.ok ()) { c with exposureMode := m }
  | exposed (t : UInt32) (hm : c.exposureMode = .manual) (ht : t ≤ Sensor.maxExposureTime) :
      Served c (.setExposureTime t) (.ok ()) { c with exposureTime := t }
  | started (hi : c.initialized = true) : Served c .start (.ok ()) { c with capturing := true }
  | stopped : Served c .stop (.ok ()) { c with capturing := false }

/-- A call that ends as `Camera.ended` says has been refused or has changed the camera. -/
theorem ended_cases {α : Type} {m : Camera.DriverCall String α} {refusal : Option Status} {a : α}
    {after c : Camera String} (h : m c = Camera.ended refusal a after c) :
    (∃ s, m c = .error s c) ∨ refusal = none ∧ m c = .ok a after := by
  cases refusal with
  | some s => exact .inl ⟨s, h⟩
  | none => exact .inr ⟨rfl, h⟩

/-- A call that nothing is in the way of finds the camera initialized. -/
theorem initialized_of_obstacle {op : DriverOp} {c : Camera String}
    (h : c.obstacle? op = none) : c.initialized = true := by
  cases hi : c.initialized with
  | true => rfl
  | false => cases hf : c.fault? op <;> simp [Camera.obstacle?, hf, hi] at h

/-- What a call on the device object with a name does to the bench. -/
inductive Attended (name : String) (k : DeviceCall) (b : DeviceBench) :
    Option (Except Status Unit) × DeviceBench → Prop
  | absent (run : Nat) : Attended name k b (none, { b with nextRun := run })
  | served (run : Nat) {d d' : Device} {c c' : Camera String} {r : Except Status Unit}
      (hd : b.devices.lookup name = some d) (hc : b.cameras[d.camera]? = some c)
      (hs : Served c k r c') (hcamera : d'.camera = d.camera)
      (hsource : d'.source = none ∨ d'.source = d.source ∨ c.profile.stream ≠ .manual) :
      Attended name k b (some r,
        { b with cameras := b.cameras.set d.camera c', nextRun := run }.setDevice name d')

namespace Attended

variable {α : Type} {name : String} {k : DeviceCall} {b : DeviceBench}

/-- A call on a device object, given what it does to the object and to the camera. -/
theorem of_withDevice (run : Nat)
    {f : Device → Camera String → Except Status Unit × Device × Camera String}
    (hf : ∀ d c, Served c k (f d c).1 (f d c).2.2 ∧ (f d c).2.1.camera = d.camera ∧
      ((f d c).2.1.source = none ∨ (f d c).2.1.source = d.source ∨ c.profile.stream ≠ .manual)) :
    Attended name k b ({ b with nextRun := run }.withDevice name f) := by
  unfold DeviceBench.withDevice
  cases hd : b.devices.lookup name with
  | none => exact .absent run
  | some d =>
    dsimp only
    cases hc : b.cameras[d.camera]? with
    | none => exact .absent run
    | some c =>
      obtain ⟨hs, hcamera, hsource⟩ := hf d c
      have h := Attended.served run hd hc hs hcamera hsource
      rwa [← hcamera] at h

/-- A driver call by way of a device object, of which only the outcome counts. -/
def through (m : Camera.DriverCall String α) (d : Device) (c : Camera String) :
    Except Status Unit × Device × Camera String :=
  match m c with
  | .ok _ c => (.ok (), d, c)
  | .error s c => (.error s, d, c)

/-- A driver call, with its answer left out. -/
theorem call_eq_through (name : String) (m : Camera.DriverCall String α) (b : DeviceBench) :
    (b.call name m).map (Option.map fun r => r.map fun _ => ()) id =
      b.withDevice name (through m) := by
  unfold DeviceBench.call DeviceBench.withDevice through
  cases b.devices.lookup name with
  | none => rfl
  | some d =>
    dsimp only
    cases b.cameras[d.camera]? with
    | none => rfl
    | some c => cases he : m c <;> simp [he, Except.map]

/-- A driver call that is refused or does what it is for. -/
theorem of_call {m : Camera.DriverCall String α}
    (hm : ∀ c, (∃ s, m c = .error s c) ∨ ∃ a c', m c = .ok a c' ∧ Served c k (.ok ()) c') :
    Attended name k b ((b.call name m).map (Option.map fun r => r.map fun _ => ()) id) := by
  have hf : Attended name k b _ := of_withDevice b.nextRun (f := through m) (by
    intro d c
    unfold through
    rcases hm c with ⟨s, he⟩ | ⟨a, c', he, hs⟩
    · rw [he]
      exact ⟨.refused k s, rfl, .inr (.inl rfl)⟩
    · rw [he]
      exact ⟨hs, rfl, .inr (.inl rfl)⟩)
  rwa [call_eq_through]

/-- A driver call without an answer, given how it can end. -/
theorem of_unit_call {m : Camera.DriverCall String Unit}
    (hm : ∀ c, (∃ s, m c = .error s c) ∨ ∃ a c', m c = .ok a c' ∧ Served c k (.ok ()) c') :
    Attended name k b (b.call name m) := by
  have h : Attended name k b _ := of_call hm
  have hid : (Option.map fun r : Except Status Unit => r.map fun _ => ()) = id := by
    funext r
    rcases r with _ | _ | _ <;> rfl
  rwa [hid] at h

end Attended

/-- Every call on a device object is refused or does what it is for. -/
theorem DeviceCall.attended (name : String) (k : DeviceCall) (b : DeviceBench) :
    Attended name k b (k.perform name b) := by
  cases k with
  | prepare =>
    refine .of_unit_call fun c => ?_
    refine (ended_cases (Camera.prepare_eq c)).imp_right fun ⟨_, he⟩ => ⟨_, _, he, .prepared⟩
  | registerListener l =>
    refine .of_unit_call fun c => ?_
    refine (ended_cases (Camera.registerListener_eq l c)).imp_right fun ⟨hr, he⟩ => ?_
    exact ⟨_, _, he, .heard l (initialized_of_obstacle hr)⟩
  | unregisterListener =>
    exact .of_unit_call fun c => .inr ⟨_, _, Camera.unregisterListener_eq c, .unheard⟩
  | useCases =>
    refine .of_call fun c => ?_
    exact (ended_cases (Camera.useCases_eq c)).imp_right fun ⟨_, he⟩ => ⟨_, _, he, .told _⟩
  | setUseCase u =>
    refine .of_unit_call fun c => ?_
    refine (ended_cases (Camera.setUseCase_eq u c)).imp_right fun ⟨hr, he⟩ => ?_
    simp only [Option.or_eq_none_iff, ite_eq_left_iff, reduceCtorEq, imp_false, Decidable.not_not,
      List.contains_iff_mem] at hr
    exact ⟨_, _, he, .selected u hr.2.2⟩
  | setExposureMode m =>
    refine .of_unit_call fun c => ?_
    refine (ended_cases (Camera.setExposureMode_eq m c)).imp_right fun ⟨_, he⟩ => ?_
    exact ⟨_, _, he, .switched m⟩
  | setExposureTime t =>
    refine .of_unit_call fun c => ?_
    refine (ended_cases (Camera.setExposureTime_eq t c)).imp_right fun ⟨hr, he⟩ => ?_
    simp only [Option.or_eq_none_iff, ite_eq_left_iff, reduceCtorEq, imp_false, Decidable.not_not,
      Bool.and_eq_true, decide_eq_true_eq, beq_iff_eq] at hr
    exact ⟨_, _, he, .exposed t hr.2.1 hr.2.2.2⟩
  | start =>
    refine .of_withDevice (b.nextRun + 1) fun d c => ?_
    rcases ended_cases (Camera.startCapture_eq c) with ⟨s, he⟩ | ⟨hr, he⟩
    · rw [he]
      exact ⟨.refused _ s, rfl, .inr (.inl rfl)⟩
    · rw [he]
      have hi : c.initialized = true := initialized_of_obstacle (Option.or_eq_none_iff.1 hr).1
      -- Only the camera of a paced profile gives the object a source.
      cases hstream : c.profile.stream with
      | manual => simpa [hstream] using Served.started hi
      | paced limit => simpa [hstream] using Served.started hi
  | stop =>
    refine .of_withDevice b.nextRun fun d c => ?_
    rcases ended_cases (Camera.stopCapture_eq c) with ⟨s, he⟩ | ⟨_, he⟩
    · rw [he]
      exact ⟨.refused _ s, rfl, .inr (.inl rfl)⟩
    · rw [he]
      exact ⟨.stopped, rfl, .inl rfl⟩
  | maxWidth =>
    refine .of_call fun c => ?_
    exact (ended_cases (Camera.maxWidth_eq c)).imp_right fun ⟨_, he⟩ => ⟨_, _, he, .told _⟩
  | maxHeight =>
    refine .of_call fun c => ?_
    exact (ended_cases (Camera.maxHeight_eq c)).imp_right fun ⟨_, he⟩ => ⟨_, _, he, .told _⟩

/-! ### Injected frames -/

namespace DeviceBench

/-- The bench once a listener has been called: the camera counts the frame, and the listener keeps
    it. -/
def heard (k : ListenerCall) (b : DeviceBench) : DeviceBench :=
  { b with cameras := b.cameras.modify k.camera fun c => { c with emitted := c.emitted + 1 } }
    |>.setRecorder k.listener
      { frames := (b.recorder k.listener).frames ++ [k.frame]
        received := (b.recorder k.listener).received + 1 }

/-- A call of a listener is on behalf of a camera that captures, and its frame has the number of
    frames that the camera has counted. -/
theorem of_callOf {i : Nat} {points : List Point} {b : DeviceBench} {k : ListenerCall}
    (h : b.callOf i points = some k) :
    k.camera = i ∧ ∃ c, b.cameras[i]? = some c ∧ c.capturing = true ∧
      c.listener = some k.listener ∧ k.frame.sequence = c.emitted := by
  unfold callOf at h
  cases hc : b.cameras[i]? with
  | none => simp [hc] at h
  | some c =>
    cases hcap : c.capturing <;> cases hl : c.listener <;>
      simp [hc, Camera.offer, hcap, hl] at h
    subst h
    exact ⟨rfl, c, rfl, hcap, hl, rfl⟩

/-- Injecting a frame is told to have worked exactly if it leads to a call. -/
theorem emitAt_eq (i : Nat) (points : List Point) (b : DeviceBench) :
    b.emitAt i points =
      match b.callOf i points with
      | none => (false, b)
      | some k => (true, b.heard k) := by
  unfold emitAt callOf
  cases hc : b.cameras[i]? with
  | none => rfl
  | some c =>
    cases hcap : c.capturing <;> cases hl : c.listener <;>
      simp [Camera.offer, hcap, hl, heard, modify_of_getElem? _ hc]

/-- An act changes cameras and recorders as the call of a listener does that it leads to. -/
structure Hears (a : Act) (b : DeviceBench) : Prop where
  cameras : (b.perform a).cameras =
    (b.callIn? a).elim b.cameras fun k => (b.heard k).cameras
  recorders : (b.perform a).recorders =
    (b.callIn? a).elim b.recorders fun k => (b.heard k).recorders

/-- An injected frame, with the listener that it reaches. -/
theorem hears_emit (serial : String) (points : List Point) (b : DeviceBench) :
    Hears (.emit serial points) b := by
  constructor <;> simp only [callIn?, injected?, moment, perform, emit] <;>
    cases place? b.cameras serial with
    | none => rfl
    | some i =>
      simp only [emitAt_eq, Option.map_some, Option.bind_some]
      cases b.callOf i points <;> rfl

/-- The same for a frame that the camera makes up. -/
theorem hears_emitSynthetic (serial : String) (b : DeviceBench) :
    Hears (.emitSynthetic serial) b := by
  constructor <;> simp only [callIn?, injected?, moment, perform, emitSynthetic] <;>
    cases place? b.cameras serial with
    | none => rfl
    | some i =>
      simp only [Option.bind_eq_bind, Option.bind_some]
      cases b.cameras[i]? with
      | none => rfl
      | some c =>
        simp only [Option.bind_some]
        cases c.profile.syntheticPoints c.emitted with
        | error => rfl
        | ok points =>
          simp only [emitAt_eq, Except.toOption, Option.bind_some, Option.pure_def]
          cases b.callOf i points <;> rfl

/-- The same for a frame of a source. -/
theorem hears_wake (b : DeviceBench) : Hears .wake b := by
  constructor <;> simp only [callIn?, injected?, moment, perform] <;>
    cases b.nextSource? with
    | none => rfl
    | some x =>
      obtain ⟨name, d, s⟩ := x
      simp only [Option.bind_eq_bind, Option.bind_some, Option.map_some, Option.getD_some,
        wakeSource]
      cases s.wake with
      | none => rfl
      | some y =>
        obtain ⟨phase, s'⟩ := y
        simp only [Option.bind_some]
        cases b.cameras[d.camera]? with
        | none => rfl
        | some c =>
          simp only [Option.bind_some]
          cases c.profile.syntheticPoints phase with
          | error => rfl
          | ok points =>
            simp only [emitAt_eq, Except.toOption, Option.bind_some, Option.pure_def]
            -- The call is the same whatever the device objects are.
            have hsame : callOf d.camera points
                  ({ b with now := max b.now s.due }.setDevice name { d with source := some s' }) =
                { b with now := max b.now s.due }.callOf d.camera points := rfl
            rw [hsame]
            cases { b with now := max b.now s.due }.callOf d.camera points <;> rfl

end DeviceBench

/-! ### Steps of a camera -/

/-- Everything that one act can do to the camera at a place. -/
inductive Moved (a : Act) (b : DeviceBench) (i : Nat) (c : Camera String) :
    Camera String → Prop
  | kept (hq : ∀ k, b.callIn? a = some k → k.camera ≠ i) : Moved a b i c c
  | released (hq : b.callIn? a = none) : Moved a b i c c.release
  | faulted (hq : b.callIn? a = none) (faults : List (DriverOp × Status)) :
      Moved a b i c { c with faults := faults }
  | served {name : String} {k : DeviceCall} {d : Device} {r : Except Status Unit}
      {c' : Camera String} (ha : a = .call name k) (hd : b.devices.lookup name = some d)
      (hi : d.camera = i) (hr : (k.perform name b).1 = some r) (hs : Served c k r c') :
      Moved a b i c c'
  | called {k : ListenerCall} (hk : b.callIn? a = some k) (hi : k.camera = i)
      (hcap : c.capturing = true) (hl : c.listener = some k.listener)
      (hn : k.frame.sequence = c.emitted) : Moved a b i c { c with emitted := c.emitted + 1 }

section Steps

variable {a : Act} {b : DeviceBench} {i : Nat} {c : Camera String}

/-- Replacing a camera by what an act may make of it. -/
theorem moved_modify (j : Nat) {f : Camera String → Camera String} (hc : b.cameras[i]? = some c)
    (hq : b.callIn? a = none) (hf : Moved a b i c (f c)) :
    ∃ c', (b.cameras.modify j f)[i]? = some c' ∧ Moved a b i c c' := by
  rw [List.getElem?_modify, hc]
  by_cases hij : j = i
  · exact ⟨f c, by simp [hij], hf⟩
  · exact ⟨c, by simp [hij], .kept fun k hk => by simp [hq] at hk⟩

/-- What frames do to a camera: it counts those that reach its listener. -/
theorem moved_of_hears (h : DeviceBench.Hears a b) (hc : b.cameras[i]? = some c) :
    ∃ c', (b.perform a).cameras[i]? = some c' ∧ Moved a b i c c' := by
  rw [h.cameras]
  cases hk : b.callIn? a with
  | none => exact ⟨c, hc, .kept fun k hk' => by simp [hk] at hk'⟩
  | some k =>
    show ∃ c', (b.cameras.modify k.camera _)[i]? = some c' ∧ _
    rw [List.getElem?_modify, hc]
    by_cases hi : k.camera = i
    · refine ⟨{ c with emitted := c.emitted + 1 }, by simp [hi], ?_⟩
      obtain ⟨x, -, hx⟩ := Option.bind_eq_some_iff.1 hk
      obtain ⟨hcamera, c₁, hc₁, hcap, hl, hn⟩ := DeviceBench.of_callOf hx
      obtain rfl : c₁ = c := by simpa [← hcamera, hi, hc] using hc₁.symm
      exact .called hk hi hcap hl hn
    · refine ⟨c, by simp [hi], .kept ?_⟩
      rintro k' hk'
      rwa [← Option.some_inj.1 (hk.symm.trans hk')]

/-- A device object that is made leaves the camera as it is; one that it replaces releases its
    own. -/
theorem moved_create (name serial : String) (hc : b.cameras[i]? = some c) :
    ∃ c', (b.perform (.create name serial)).cameras[i]? = some c' ∧
      Moved (.create name serial) b i c c' := by
  have hkept : Moved (.create name serial) b i c c := .kept fun k hk => by cases hk
  simp only [DeviceBench.perform, DeviceBench.create]
  split
  · exact ⟨c, hc, hkept⟩
  · split
    · exact ⟨c, hc, hkept⟩
    · cases b.devices.lookup name with
      | none => exact ⟨c, hc, hkept⟩
      | some old => exact moved_modify old.camera hc rfl (.released rfl)

/-- An object that goes moves the camera like a drop. -/
theorem moved_drop (name : String) (hc : b.cameras[i]? = some c) :
    ∃ c', (b.perform (.drop name)).cameras[i]? = some c' ∧ Moved (.drop name) b i c c' := by
  simp only [DeviceBench.perform, DeviceBench.drop]
  cases b.devices.lookup name with
  | none => exact ⟨c, hc, .kept fun k hk => by cases hk⟩
  | some d => exact moved_modify d.camera hc rfl (.released rfl)

/-- What a call on a device object does to a camera: it serves the call if it is the one of the
    object, and else stays as it is. -/
theorem moved_call (name : String) (k : DeviceCall) (hc : b.cameras[i]? = some c) :
    ∃ c', (b.perform (.call name k)).cameras[i]? = some c' ∧ Moved (.call name k) b i c c' := by
  have hkept : Moved (.call name k) b i c c := .kept fun k hk => by cases hk
  have h := k.attended name b
  show ∃ c', (k.perform name b).2.cameras[i]? = some c' ∧ _
  generalize hp : k.perform name b = p at h ⊢
  cases h with
  | absent run => exact ⟨c, hc, hkept⟩
  | @served run d d' c₁ c' r hd hc₁ hs hcamera hsource =>
    show ∃ c'', (b.cameras.set d.camera c')[i]? = some c'' ∧ _
    by_cases hi : d.camera = i
    · obtain rfl : c₁ = c := by simpa [hi, hc] using hc₁.symm
      refine ⟨c', hi ▸ getElem?_set_of_some hc₁, ?_⟩
      exact .served rfl hd hi (by rw [hp]) hs
    · exact ⟨c, by rw [List.getElem?_set_ne hi, hc], hkept⟩

/-- What is done to the camera with a serial. -/
theorem moved_atSerial {serial : String} {f : Camera String → Camera String}
    (hp : b.perform a = b.atSerial serial f) (hq : b.callIn? a = none)
    (hf : Moved a b i c (f c)) (hc : b.cameras[i]? = some c) :
    ∃ c', (b.perform a).cameras[i]? = some c' ∧ Moved a b i c c' := by
  rw [hp]
  unfold DeviceBench.atSerial
  cases place? b.cameras serial with
  | none => exact ⟨c, hc, .kept fun k hk => by simp [hq] at hk⟩
  | some j => exact moved_modify j hc hq hf

/-- No act takes a camera away, and each does one of a few things to it. -/
theorem perform_camera (a : Act) (hc : b.cameras[i]? = some c) :
    ∃ c', (b.perform a).cameras[i]? = some c' ∧ Moved a b i c c' := by
  cases a with
  | create name serial => exact moved_create name serial hc
  | drop name => exact moved_drop name hc
  | call name k => exact moved_call name k hc
  | fail serial op s => exact moved_atSerial rfl rfl (.faulted rfl _) hc
  | clearFaults serial => exact moved_atSerial rfl rfl (.faulted rfl _) hc
  | emit serial points => exact moved_of_hears (DeviceBench.hears_emit serial points b) hc
  | emitSynthetic serial => exact moved_of_hears (DeviceBench.hears_emitSynthetic serial b) hc
  | wake => exact moved_of_hears (DeviceBench.hears_wake b) hc

end Steps

/-! ### What holds of a camera at all times -/

/-- A camera as device objects leave it. -/
structure Sound (c : Camera String) : Prop where
  initialized_of_capturing : c.capturing = true → c.initialized = true
  initialized_of_listener : c.listener ≠ none → c.initialized = true
  useCase_offered : ∀ u, c.useCase = some u → u ∈ c.profile.useCases
  exposureTime_le : c.exposureTime ≤ Sensor.maxExposureTime

/-- **A call on a device object** leaves the camera sound. -/
theorem Sound.served {c c' : Camera String} {k : DeviceCall} {r : Except Status Unit}
    (h : Sound c) (hs : Served c k r c') : Sound c' := by
  cases hs with
  | refused | told => exact h
  | prepared => exact { h with
      initialized_of_capturing := fun _ => rfl
      initialized_of_listener := fun _ => rfl }
  | heard l hi => exact { h with initialized_of_listener := fun _ => hi }
  | unheard => exact { h with initialized_of_listener := fun hl => absurd rfl hl }
  | selected u hu => exact { h with useCase_offered := fun _ he => Option.some_inj.1 he ▸ hu }
  | switched => exact { h with }
  | exposed t hm ht => exact { h with exposureTime_le := ht }
  | started hi => exact { h with initialized_of_capturing := fun _ => hi }
  | stopped => exact { h with initialized_of_capturing := nofun }

/-- **An act** leaves the camera sound. -/
theorem Sound.moved {a : Act} {b : DeviceBench} {i : Nat} {c c' : Camera String} (h : Sound c)
    (hm : Moved a b i c c') : Sound c' := by
  cases hm with
  | kept => exact h
  -- A dropped object takes the preparation away, and the listener and the capture with it.
  | released => exact { h with
      initialized_of_capturing := nofun
      initialized_of_listener := fun hl => absurd rfl hl }
  | faulted => exact { h with }
  | served _ _ _ _ hs => exact h.served hs
  | called => exact { h with }

/-- An act that sets the exposure time of the camera at a place, which is in manual mode. -/
structure Exposes (i : Nat) (t : UInt32) (b : DeviceBench) (a : Act) : Prop where
  called : ∃ name d, a = .call name (.setExposureTime t) ∧
    b.devices.lookup name = some d ∧ d.camera = i ∧
    (b.call name (Camera.setExposureTime t)).1 = some (.ok ())
  manual : ∃ c, b.cameras[i]? = some c ∧ c.exposureMode = .manual

section Moved

variable {a : Act} {b : DeviceBench} {i : Nat} {c c' : Camera String}

/-- A camera is the same one after a move. -/
theorem Moved.profile (h : Moved a b i c c') : c'.profile = c.profile := by
  cases h with
  | served _ _ _ _ hs => cases hs <;> rfl
  | kept | released | faulted | called => rfl

/-- The exposure time changes only by an act that sets it in manual mode. -/
theorem Moved.exposure (h : Moved a b i c c') (hc : b.cameras[i]? = some c) :
    c'.exposureTime = c.exposureTime ∨ Exposes i c'.exposureTime b a := by
  cases h with
  | @served name k d r c' ha hd hi hr hs =>
    cases hs with
    | exposed t hm ht => exact .inr ⟨⟨name, d, ha, hd, hi, hr⟩, c, hc, hm⟩
    | refused | told | prepared | heard | unheard | selected | switched | started | stopped =>
      exact .inl rfl
  | kept | released | faulted | called => exact .inl rfl

/-- The calls of listeners for a camera have the numbers that its counter goes through. -/
theorem Moved.numbered (h : Moved a b i c c') :
    c'.emitted = c.emitted + (b.callsOn i [a]).length ∧
      (b.callsOn i [a]).map (·.frame.sequence) =
        List.range' c.emitted (b.callsOn i [a]).length := by
  have hquiet (hq : ∀ k, b.callIn? a = some k → k.camera ≠ i) : b.callsOn i [a] = [] := by
    cases hk : b.callIn? a with
    | none => simp [DeviceBench.callsOn, DeviceBench.calls, hk]
    | some k => simp [DeviceBench.callsOn, DeviceBench.calls, hk, hq k hk]
  have hnone (hq : b.callIn? a = none) : b.callsOn i [a] = [] := hquiet (by simp [hq])
  cases h with
  | kept hq => simp [hquiet hq]
  | released hq | faulted hq => simp [hnone hq, Camera.release]
  | served ha _ _ _ hs =>
    subst ha
    have hsame : c'.emitted = c.emitted := by cases hs <;> rfl
    simp [hnone rfl, hsame]
  | called hk hi hcap hl hn =>
    simp [DeviceBench.callsOn, DeviceBench.calls, hk, hi, hn]

end Moved

/-! ### Runs -/

theorem DeviceBench.callsOn_cons (i : Nat) (b : DeviceBench) (a : Act) (as : List Act) :
    b.callsOn i (a :: as) = b.callsOn i [a] ++ (b.perform a).callsOn i as := by
  simp [callsOn, calls]

/-- **A camera over a run.**  Whatever is done, in whichever order and with however many device
    objects, the camera stays sound; its counter is ahead by the calls of listeners, which it has
    numbered one after the other; and its exposure time is what it was, or what an act of the run
    set in manual mode. -/
theorem run_camera (acts : List Act) {b : DeviceBench} {i : Nat} {c : Camera String}
    (hc : b.cameras[i]? = some c) (hsound : Sound c) :
    ∃ c', (b.run acts).cameras[i]? = some c' ∧ Sound c' ∧ c'.profile = c.profile ∧
      c'.emitted = c.emitted + (b.callsOn i acts).length ∧
      (b.callsOn i acts).map (·.frame.sequence) =
        List.range' c.emitted (b.callsOn i acts).length ∧
      (c'.exposureTime = c.exposureTime ∨
        ∃ before a after, acts = before ++ a :: after ∧
          Exposes i c'.exposureTime (b.run before) a) := by
  induction acts generalizing b c with
  | nil => exact ⟨c, hc, hsound, rfl, rfl, rfl, .inl rfl⟩
  | cons a as ih =>
    obtain ⟨c₁, hc₁, hm⟩ := perform_camera a hc
    obtain ⟨c', hc', hs', hp', he', hn', hx'⟩ := ih hc₁ (hsound.moved hm)
    obtain ⟨he, hn⟩ := hm.numbered
    refine ⟨c', hc', hs', hp'.trans hm.profile, ?_, ?_, ?_⟩
    · rw [b.callsOn_cons, List.length_append, he', he, Nat.add_assoc]
    · rw [b.callsOn_cons, List.map_append, List.length_append, hn, hn', he, List.range'_append_1]
    · rcases hx' with hsame | ⟨before, a', after, rfl, hx⟩
      · rw [hsame]
        refine (hm.exposure hc).imp_right fun hx => ?_
        exact ⟨[], a, as, rfl, hx⟩
      · exact .inr ⟨a :: before, a', after, rfl, hx⟩

/-! ### What listeners have kept -/

namespace DeviceBench

/-- The recorders of other listeners stay as they are. -/
theorem recorder_setRecorder (l m : String) (r : Recorder) (b : DeviceBench) :
    (b.setRecorder m r).recorder l = if l = m then r else b.recorder l := by
  unfold recorder setRecorder
  by_cases h : l = m
  · simp [h]
  · have hne : (l == m) = false := by simp [h]
    simp only [List.lookup_cons, hne, lookup_filter_ne h, if_neg h]

/-- Only calls of listeners change recorders. -/
theorem perform_recorders (b : DeviceBench) (a : Act) :
    (b.perform a).recorders =
      (b.callIn? a).elim b.recorders fun k => (b.heard k).recorders := by
  cases a with
  | create name serial =>
    simp only [perform, create]
    split
    · rfl
    · split
      · rfl
      · cases b.devices.lookup name <;> rfl
  | drop name =>
    simp only [perform, drop]
    cases b.devices.lookup name <;> rfl
  | call name k =>
    have h := k.attended name b
    show (k.perform name b).2.recorders = b.recorders
    generalize k.perform name b = p at h ⊢
    cases h <;> rfl
  | fail serial | clearFaults serial =>
    simp only [perform, atSerial]
    cases place? b.cameras serial <;> rfl
  | emit serial points => exact (hears_emit serial points b).recorders
  | emitSynthetic serial => exact (hears_emitSynthetic serial b).recorders
  | wake => exact (hears_wake b).recorders

/-- A recorder has kept the frames of exactly the calls that named it, in order. -/
theorem recorder_run (l : String) (acts : List Act) (b : DeviceBench) :
    ((b.run acts).recorder l).frames =
      (b.recorder l).frames ++ ((b.calls acts).filter (·.listener = l)).map (·.frame) := by
  induction acts generalizing b with
  | nil => simp [run, calls]
  | cons a as ih =>
    show (((b.perform a).run as).recorder l).frames = _
    have hstep : ((b.perform a).recorder l).frames =
        (b.recorder l).frames ++
          ((b.callIn? a).toList.filter (·.listener = l)).map (·.frame) := by
      unfold recorder
      rw [b.perform_recorders a]
      cases b.callIn? a with
      | none => simp
      | some k =>
        show ((b.heard k).recorder l).frames = _
        unfold heard
        rw [recorder_setRecorder]
        by_cases hl : l = k.listener
        · subst hl
          simp [recorder]
        · simp [recorder, hl, Ne.symm hl]
    rw [ih, hstep, calls, List.filter_append, List.map_append, List.append_assoc]

end DeviceBench

/-! ### Cameras without a source -/

namespace DeviceBench

/-- No device object for the camera at a place has a source of frames. -/
def Sourceless (i : Nat) (b : DeviceBench) : Prop :=
  ∀ name d, (name, d) ∈ b.devices → d.camera = i → d.source = none

/-- What is left of a list if each entry replaces the choice so far or does not. -/
theorem mem_of_foldl {α : Type} {f : Option α → α → Option α}
    (hf : ∀ best x, f best x = some x ∨ f best x = best) {l : List α} {best : Option α} {x : α}
    (hx : l.foldl f best = some x) : best = some x ∨ x ∈ l := by
  induction l generalizing best with
  | nil => exact .inl hx
  | cons y l ih =>
    rcases ih hx with hbest | hmem
    · rcases hf best y with hnew | hkept
      · exact .inr (by simp [← Option.some_inj.1 (hnew.symm.trans hbest)])
      · exact .inl (hkept ▸ hbest)
    · exact .inr (List.mem_cons_of_mem _ hmem)

/-- The source that is due first belongs to a device object. -/
theorem mem_of_nextSource? {b : DeviceBench} {name : String} {d : Device} {s : Source}
    (h : b.nextSource? = some (name, d, s)) : (name, d) ∈ b.devices ∧ d.source = some s := by
  unfold DeviceBench.nextSource? at h
  refine (mem_of_foldl (fun best x => ?_) h).elim (fun hnone => nomatch hnone) fun hmem => ?_
  · cases best with
    | none => exact .inl rfl
    | some y =>
      dsimp only
      split
      · exact .inl rfl
      · exact .inr rfl
  · obtain ⟨⟨n, e⟩, he, hmap⟩ := List.mem_filterMap.1 hmem
    obtain ⟨s', hs', heq⟩ := Option.map_eq_some_iff.1 hmap
    cases heq
    exact ⟨he, hs'⟩

theorem emitAt_devices (i : Nat) (points : List Point) (b : DeviceBench) :
    (b.emitAt i points).2.devices = b.devices := by
  rw [emitAt_eq]
  cases b.callOf i points <;> rfl

/-- Objects are those that have been set, or that were there. -/
theorem mem_setDevice {n name : String} {d e : Device} {b : DeviceBench}
    (h : (n, e) ∈ (b.setDevice name d).devices) : e = d ∨ (n, e) ∈ b.devices := by
  rcases List.mem_cons.1 h with heq | hmem
  · exact .inl (Prod.mk.inj heq).2
  · exact .inr (List.mem_filter.1 hmem).1

/-- Where a device object comes from that is there after an act. -/
inductive Traced (b : DeviceBench) (n : String) (e : Device) : Prop
  | kept (he : (n, e) ∈ b.devices)
  | made {c : Camera String} (hc : b.cameras[e.camera]? = some c) (hsource : e.source = none)
  | called {m : String} {d : Device} {c : Camera String} (hd : (m, d) ∈ b.devices)
      (hcamera : e.camera = d.camera) (hc : b.cameras[d.camera]? = some c)
      (hsource : e.source = none ∨ e.source = d.source ∨ c.profile.stream ≠ .manual)
  | woken {m : String} {d : Device} {s : Source} (hd : (m, d) ∈ b.devices)
      (hs : d.source = some s) (hcamera : e.camera = d.camera)

/-- A device object after an act was there before, or has been made for a camera of the bench; its
    source changes by calls on it and by waking up. -/
theorem traced_of_perform {b : DeviceBench} {a : Act} {n : String} {e : Device}
    (he : (n, e) ∈ (b.perform a).devices) : Traced b n e := by
  cases a with
  | create name serial =>
    simp only [perform, create] at he
    split at he
    · exact .kept he
    · rename_i i hi
      split at he
      · exact .kept he
      · rcases mem_setDevice he with rfl | hmem
        · obtain ⟨hlt, -⟩ := List.findIdx?_eq_some_iff_getElem.1 hi
          exact .made (List.getElem?_eq_getElem hlt) rfl
        · refine .kept ?_
          cases hl : b.devices.lookup name with
          | none => rwa [hl] at hmem
          | some old => rwa [hl] at hmem
  | drop name =>
    simp only [perform, drop] at he
    cases hl : b.devices.lookup name with
    | none => exact .kept (by simpa [hl] using he)
    | some d =>
      rw [hl] at he
      exact .kept (List.mem_filter.1 he).1
  | call name k =>
    have ha := k.attended name b
    replace he : (n, e) ∈ (k.perform name b).2.devices := he
    generalize k.perform name b = p at ha he
    cases ha with
    | absent run => exact .kept he
    | @served run d d' c c' r hd hc hs hcamera hsource =>
      rcases mem_setDevice he with rfl | hmem
      · exact .called (mem_of_lookup hd) hcamera hc hsource
      · exact .kept hmem
  | fail serial | clearFaults serial =>
    refine .kept ?_
    simp only [perform, atSerial] at he
    cases hp : place? b.cameras serial <;> simpa [hp] using he
  | emit serial points =>
    refine .kept ?_
    simp only [perform, emit] at he
    cases hp : place? b.cameras serial with
    | none => simpa [hp] using he
    | some i => simpa [hp, emitAt_devices] using he
  | emitSynthetic serial =>
    refine .kept ?_
    simp only [perform, emitSynthetic] at he
    split at he
    · exact he
    · split at he
      · exact he
      · split at he
        · exact he
        · simpa [emitAt_devices] using he
  | wake =>
    simp only [perform] at he
    cases hs : b.nextSource? with
    | none => exact .kept (by simpa [hs] using he)
    | some x =>
      obtain ⟨name, d, s⟩ := x
      obtain ⟨hmem, hsource⟩ := mem_of_nextSource? hs
      rw [hs] at he
      -- Whatever becomes of the source, its object stays with its camera.
      have hset (source : Option Source)
          (h : (n, e) ∈
            ({ b with now := max b.now s.due }.setDevice name { d with source }).devices) :
          Traced b n e := by
        rcases mem_setDevice h with rfl | hkept
        · exact .woken hmem hsource rfl
        · exact .kept hkept
      dsimp only [wakeSource] at he
      split at he
      · split at he
        · exact hset _ (by simpa only [emitAt_devices] using he)
        · exact hset none he
      · exact hset none he

/-- No act gives a camera a source that only passes injected frames on. -/
theorem Sourceless.perform {i : Nat} {b : DeviceBench} {c : Camera String} (h : b.Sourceless i)
    (hc : b.cameras[i]? = some c) (hm : c.profile.stream = .manual) (a : Act) :
    (b.perform a).Sourceless i := by
  intro n e he hi
  cases traced_of_perform he with
  | kept he => exact h n e he hi
  | made _ hsource => exact hsource
  | @called m d c₁ hd hcamera hc₁ hsource =>
    rw [hcamera] at hi
    rcases hsource with hnone | hsame | hpaced
    · exact hnone
    · exact hsame.trans (h m d hd hi)
    · obtain rfl : c = c₁ := by simpa [hi, hc] using hc₁
      exact absurd hm hpaced
  | @woken m d s hd hs hcamera =>
    exact absurd (hs.symm.trans (h m d hd (hcamera ▸ hi))) (by simp)

/-- The calls on a camera by an injection, if it is the camera of the injection. -/
theorem callsOn_eq_of_callOf {i j : Nat} {points : List Point} {b : DeviceBench} {a : Act}
    (ha : b.callIn? a = b.callOf j points) :
    b.callsOn i [a] = if j = i then (b.callOf j points).toList else [] := by
  unfold callsOn calls calls
  rw [ha, List.append_nil]
  cases hk : b.callOf j points with
  | none => simp
  | some k =>
    obtain ⟨hcamera, -⟩ := of_callOf hk
    simp only [Option.toList_some, List.filter_cons, hcamera, decide_eq_true_eq, List.filter_nil]

/-- A listener is called exactly if there is a call to be made. -/
theorem emitAt_fst (i : Nat) (points : List Point) (b : DeviceBench) :
    (b.emitAt i points).1 = (b.callOf i points).isSome := by
  rw [emitAt_eq]
  cases b.callOf i points <;> rfl

/-- Without a source, a camera's listeners are called exactly by the injections that are told so. -/
theorem accepts_eq {i : Nat} {b : DeviceBench} (h : b.Sourceless i) (a : Act) :
    (b.accepts i a).toNat = (b.callsOn i [a]).length := by
  -- An act that injects no frame is not accepted, and calls nobody.
  cases a with
  | create | drop | call | fail | clearFaults => rfl
  | emit serial points =>
    cases hp : place? b.cameras serial with
    | none => simp [accepts, callsOn, calls, callIn?, injected?, hp]
    | some j =>
      have hcall : b.callIn? (.emit serial points) = b.callOf j points := by
        simp [callIn?, injected?, moment, hp]
      rw [callsOn_eq_of_callOf hcall]
      simp only [accepts, emit, hp, emitAt_fst, Option.some_inj]
      by_cases hi : j = i
      · cases b.callOf j points <;> simp [hi]
      · simp [hi]
  | emitSynthetic serial =>
    cases hp : place? b.cameras serial with
    | none => simp [accepts, callsOn, calls, callIn?, injected?, hp]
    | some j =>
      cases hc : b.cameras[j]? with
      | none => simp [accepts, emitSynthetic, callsOn, calls, callIn?, injected?, hp, hc]
      | some c =>
        cases hpoints : c.profile.syntheticPoints c.emitted with
        | error =>
          simp [accepts, emitSynthetic, callsOn, calls, callIn?, injected?, hp, hc, hpoints,
            Except.toOption]
        | ok points =>
          have hcall : b.callIn? (.emitSynthetic serial) = b.callOf j points := by
            simp [callIn?, injected?, moment, hp, hc, hpoints, Except.toOption]
          rw [callsOn_eq_of_callOf hcall]
          simp only [accepts, emitSynthetic, hp, hc, hpoints, emitAt_fst, Option.some_inj,
            Option.any_some, Except.toOption]
          by_cases hi : j = i
          · cases b.callOf j points <;> simp [hi]
          · simp [hi]
  | wake =>
    -- Sources wake up on their own cameras, and on this one there are none.
    have hnone : b.callsOn i [.wake] = [] := by
      simp only [callsOn, calls, List.append_nil, List.filter_eq_nil_iff, Option.mem_toList,
        decide_eq_true_eq]
      intro k hk hi
      obtain ⟨⟨j, points⟩, hinj, hcall⟩ := Option.bind_eq_some_iff.1 hk
      obtain ⟨⟨name, d, s⟩, hs, hrest⟩ := Option.bind_eq_some_iff.1 hinj
      obtain ⟨hmem, hsource⟩ := mem_of_nextSource? hs
      have hj : d.camera = j := by
        simp only [Option.bind_eq_bind, Option.bind_eq_some_iff, Option.pure_def,
          Option.some_inj, Prod.mk.injEq] at hrest
        obtain ⟨-, -, -, -, -, -, hj, -⟩ := hrest
        exact hj
      obtain ⟨hcamera, -⟩ := of_callOf hcall
      simp [h name d hmem (hj.trans (hcamera.symm.trans hi))] at hsource
    rw [hnone]
    rfl

end DeviceBench

/-- A camera without a source over a run: its listeners are called as often as injections are told
    that they were. -/
theorem accepted_run (acts : List Act) {b : DeviceBench} {i : Nat} {c : Camera String}
    (hc : b.cameras[i]? = some c) (hm : c.profile.stream = .manual) (h : b.Sourceless i) :
    b.accepted i acts = (b.callsOn i acts).length := by
  induction acts generalizing b c with
  | nil => rfl
  | cons a as ih =>
    obtain ⟨c₁, hc₁, hmoved⟩ := perform_camera a hc
    have hrest := ih hc₁ (hmoved.profile ▸ hm) (h.perform hc hm a)
    rw [b.callsOn_cons, List.length_append, ← b.accepts_eq h a, ← hrest]
    rfl

/-- **A camera that only passes injected frames on.**  Whatever is done on the bench with device
    objects and handles: the camera captures only while it is initialised, and has a listener only
    then; a selected use case is one of its own; its exposure time is at most 2000 µs, and 0 unless
    it was set in manual mode; its counter tells how many calls of listeners there have been, and
    how many injections were told that there was one; the calls are numbered from 0 on; and each
    listener has received the frames of the calls that name it, and nothing else. -/
theorem manual_camera_sound (profiles : List CameraProfile) (now : Nat) (acts : List Act) (i : Nat)
    (p : CameraProfile) (hp : profiles[i]? = some p) (hm : p.stream = .manual) :
    let b := DeviceBench.fresh profiles now
    ∃ c, (b.run acts).cameras[i]? = some c ∧ c.profile = p ∧
      (c.capturing = true → c.initialized = true) ∧
      (c.listener ≠ none → c.initialized = true) ∧
      (∀ u, c.useCase = some u → u ∈ p.useCases) ∧
      c.exposureTime ≤ 2000 ∧
      (c.exposureTime = 0 ∨
        ∃ before a after, acts = before ++ a :: after ∧
          Exposes i c.exposureTime (b.run before) a) ∧
      c.emitted = (b.callsOn i acts).length ∧
      c.emitted = b.accepted i acts ∧
      (∀ (k : Nat) (call : ListenerCall),
        (b.callsOn i acts)[k]? = some call → call.frame.sequence = k) ∧
      ∀ l, ((b.run acts).recorder l).frames =
        ((b.calls acts).filter (·.listener = l)).map (·.frame) := by
  intro b
  have hb : b.cameras[i]? = some { profile := p } := by
    show (profiles.map _)[i]? = _
    rw [List.getElem?_map, hp]
    rfl
  -- A camera is sound when it is made: it has not been touched.
  have hsound : Sound { profile := p } := {
    initialized_of_capturing := nofun
    initialized_of_listener := fun h => absurd rfl h
    useCase_offered := nofun
    exposureTime_le := by show (0 : UInt32) ≤ 2000; decide }
  -- The rest is what a run does to one camera, and what its recorders have heard.
  obtain ⟨c, hc, hs, hprofile, he, hn, hx⟩ := run_camera acts hb hsound
  have haccepted := accepted_run acts hb hm (fun _ _ h => nomatch h)
  rw [Nat.zero_add] at he
  refine ⟨c, hc, hprofile, hs.initialized_of_capturing, hs.initialized_of_listener, ?_,
    hs.exposureTime_le, hx, he, he.trans haccepted.symm, ?_, ?_⟩
  · intro u hu
    have hoffered := hs.useCase_offered u hu
    rwa [hprofile] at hoffered
  · intro k call hk
    have hnumber := congrArg (·[k]?) hn
    obtain ⟨hlt, hget⟩ := List.getElem?_eq_some_iff.1 hk
    simpa [hlt, hget] using hnumber
  · intro l
    rw [b.recorder_run l acts, show (b.recorder l).frames = [] from rfl, List.nil_append]

/-- A bench on which two device objects share a camera: the first prepares it and listens, the
    second starts it, and dropping the first ends the capture of both. -/
def sharedCameraActs : List Act :=
  [.create "a" "s", .create "b" "s", .call "a" .prepare, .call "a" (.registerListener "l"),
   .call "b" .start, .emit "s" [], .drop "a", .emit "s" [],
   .call "b" .prepare, .call "b" (.registerListener "m"), .call "b" (.setExposureMode .manual),
   .call "b" (.setExposureTime 700), .fail "s" .startCapture .timeout, .call "b" .start,
   .clearFaults "s", .call "b" .start, .emit "s" []]

/-- There the camera stays sound, and has numbered its two frames, of which each listener has
    received one. -/
theorem manual_camera_sound_shared :
    let b := DeviceBench.fresh [{ serial := "s", fd := 1 }] 0
    (b.run sharedCameraActs).cameras[0]?.map (fun c => (c.emitted, c.exposureTime, c.capturing)) =
        some (2, 700, true) ∧
      (b.callsOn 0 sharedCameraActs).map (·.frame.sequence) = [0, 1] ∧
      ∃ c, (b.run sharedCameraActs).cameras[0]? = some c ∧
        (c.capturing = true → c.initialized = true) ∧
        c.emitted = b.accepted 0 sharedCameraActs ∧
        ((b.run sharedCameraActs).recorder "l").frames.map (·.sequence) = [0] ∧
        ((b.run sharedCameraActs).recorder "m").frames.map (·.sequence) = [1] := by
  intro b
  obtain ⟨c, hc, -, hcap, -, -, -, -, -, haccepted, -, hreceived⟩ :=
    manual_camera_sound [{ serial := "s", fd := 1 }] 0 sharedCameraActs 0 _ rfl rfl
  refine ⟨by decide, by decide, c, hc, hcap, haccepted, ?_, ?_⟩
  · rw [hreceived]
    decide
  · rw [hreceived]
    decide

end DepthRelay.Bench
