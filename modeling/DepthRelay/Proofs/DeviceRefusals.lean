import DepthRelay.Proofs.DeviceObjects

namespace DepthRelay.Bench

/-!
# Refused calls on device objects

A call on a device object does all that it is for or nothing at all, and the status of one that is
refused tells the first reason there was.

* `DeviceCall.refusal?` — the reasons, in their order: an injected failure, a camera that is not
  initialised, and what the call demands besides (`DeviceCall.demands`).
* `DeviceCall.effect`, `DeviceCall.attending` — camera and device object after a call that works.
* `perform_eq` — every call is one of these two endings, for the object that it names.
* `Homed` — every device object has its camera, whatever has been done on the bench.
* `device_calls_all_or_nothing` — the two endings for every call in every state of a bench.
-/

/-! ### Reasons -/

namespace DeviceCall

/-- The operation that a failure has to be injected for; that a listener is taken away cannot be
    made to fail. -/
def op? : DeviceCall → Option DriverOp
  | .prepare => some .prepare
  | .registerListener _ => some .registerListener
  | .unregisterListener => none
  | .useCases => some .useCases
  | .setUseCase _ => some .setUseCase
  | .setExposureMode _ => some .setExposureMode
  | .setExposureTime _ => some .setExposureTime
  | .start => some .startCapture
  | .stop => some .stopCapture
  | .maxWidth => some .maxSensorWidth
  | .maxHeight => some .maxSensorHeight

/-- Whether a call wants its camera initialised. -/
def wantsInitialized : DeviceCall → Bool
  | .prepare | .unregisterListener => false
  | _ => true

/-- What a call demands besides, in order, each with the status of a camera that does not meet
    it. -/
def demands : DeviceCall → List ((Camera String → Bool) × Status)
  | .useCases => [((!·.profile.useCases.isEmpty), .noUseCasesForDevice)]
  | .setUseCase u =>
    [((!·.capturing), .deviceIsBusy), ((·.profile.useCases.contains u), .usecaseNotSupported)]
  | .setExposureTime t =>
    [((·.exposureMode == .manual), .logicError),
     (fun _ => t ≠ 0 && t ≤ Sensor.maxExposureTime, .outOfBounds)]
  | .start => [((!·.capturing), .logicError)]
  | _ => []

/-- The first demand that a camera does not meet. -/
def unmet? (k : DeviceCall) (c : Camera String) : Option Status :=
  k.demands.findSome? fun (holds, s) => if holds c then none else some s

/-- The first reason for which a call fails on a camera, if there is one. -/
def refusal? (k : DeviceCall) (c : Camera String) : Option Status :=
  (k.op?.bind c.fault?).or <|
  (if k.wantsInitialized && !c.initialized then some .deviceNotInitialized else none).or <|
  k.unmet? c

/-- The camera after a call that works. -/
def effect : DeviceCall → Camera String → Camera String
  | .prepare, c => { c with initialized := true }
  | .registerListener l, c => { c with listener := some l }
  | .unregisterListener, c => { c with listener := none }
  | .setUseCase u, c => { c with useCase := some u }
  | .setExposureMode m, c => { c with exposureMode := m }
  | .setExposureTime t, c => { c with exposureTime := t }
  | .start, c => { c with capturing := true }
  | .stop, c => { c with capturing := false }
  | .useCases, c | .maxWidth, c | .maxHeight, c => c

/-- The device object after a call that works: only starting and stopping touch its source. -/
def attending (run now : Nat) : DeviceCall → Device → Camera String → Device
  | .start, d, c =>
    match c.profile.stream with
    | .manual => d
    | .paced limit => { d with source := some (.start run now c.useCase limit) }
  | .stop, d, _ => { d with source := none }
  | _, d, _ => d

/-- A call concerns the camera of its object. -/
theorem attending_camera (run now : Nat) (k : DeviceCall) (d : Device) (c : Camera String) :
    (k.attending run now d c).camera = d.camera := by
  cases k with
  | start => cases hs : c.profile.stream <;> simp [attending, hs]
  | prepare | registerListener | unregisterListener | useCases | setUseCase | setExposureMode
  | setExposureTime | stop | maxWidth | maxHeight => rfl

/-- How a call on a device object ends, and what object and camera are then. -/
def ending (run now : Nat) (k : DeviceCall) (d : Device) (c : Camera String) :
    Except Status Unit × Device × Camera String :=
  match k.refusal? c with
  | some s => (.error s, d, c)
  | none => (.ok (), k.attending run now d c, k.effect c)

/-- How many identities for sources a call uses up. -/
def runs : DeviceCall → Nat
  | .start => 1
  | _ => 0

/-- The reasons for a call that wants its camera initialised. -/
theorem refusal?_eq {k : DeviceCall} {op : DriverOp} (hop : k.op? = some op)
    (hk : k.wantsInitialized = true) (c : Camera String) :
    k.refusal? c = (c.obstacle? op).or (k.unmet? c) := by
  simp only [refusal?, hop, hk, Camera.obstacle?, Option.bind_some, Option.or_assoc, Bool.true_and]
  cases c.initialized <;> rfl

/-- Two demands, one after the other. -/
theorem unmet?_two {k : DeviceCall} {p q : Camera String → Bool} {s t : Status}
    (hk : k.demands = [(p, s), (q, t)]) (c : Camera String) :
    k.unmet? c = (if p c then none else some s).or (if q c then none else some t) := by
  rw [unmet?, hk, findSome?_cons_or, findSome?_cons_or, List.findSome?_nil, Option.or_none]

variable {α : Type}

/-- A driver call that ends with the first reason, or else with the effect. -/
theorem through_eq {k : DeviceCall} {m : Camera.DriverCall String α} {a : α} {run now : Nat}
    {d : Device} {c : Camera String} (hd : k.attending run now d c = d)
    (hm : m c = Camera.ended (k.refusal? c) a (k.effect c) c) :
    Attended.through m d c = k.ending run now d c := by
  unfold Attended.through ending
  rw [hm]
  cases k.refusal? c with
  | some s => rfl
  | none => rw [hd]; rfl

/-- To start is the call of that name. -/
theorem start_eq (run now : Nat) (d : Device) (c : Camera String) :
    Device.start run now d c = DeviceCall.start.ending run now d c := by
  have hr : DeviceCall.start.refusal? c =
      (c.obstacle? .startCapture).or (if c.capturing then some .logicError else none) := by
    rw [refusal?_eq rfl rfl]
    cases hc : c.capturing <;> simp [unmet?, demands, hc]
  unfold Device.start ending
  rw [Camera.startCapture_eq, hr]
  cases (c.obstacle? .startCapture).or _ with
  | some s => rfl
  | none =>
    simp only [Camera.ended, attending, effect]
    cases c.profile.stream <;> rfl

/-- To stop is the call of that name. -/
theorem stop_eq (run now : Nat) (d : Device) (c : Camera String) :
    Device.stop d c = DeviceCall.stop.ending run now d c := by
  have hr : DeviceCall.stop.refusal? c = c.obstacle? .stopCapture := by
    rw [refusal?_eq rfl rfl]
    exact Option.or_none
  unfold Device.stop ending
  rw [Camera.stopCapture_eq, hr]
  cases c.obstacle? .stopCapture <;> rfl

/-- Every call on a device object ends as `ending` says, if there is such an object. -/
theorem perform_eq (name : String) (k : DeviceCall) (b : DeviceBench) :
    k.perform name b =
      { b with nextRun := b.nextRun + k.runs }.withDevice name (k.ending b.nextRun b.now) := by
  -- Every call but `start` and `stop` is this: refusals in their order, else an answer and an
  -- effect.
  have hcall {α : Type} {m : Camera.DriverCall String α} (a : Camera String → α)
      (hd : ∀ d c, k.attending b.nextRun b.now d c = d)
      (hm : ∀ c, m c = Camera.ended (k.refusal? c) (a c) (k.effect c) c) :
      b.withDevice name (Attended.through m) =
        b.withDevice name (k.ending b.nextRun b.now) :=
    congrArg (b.withDevice name) <| funext fun d => funext fun c => through_eq (hd d c) (hm c)
  cases k with
  | prepare =>
    refine hcall (fun _ => ()) (fun _ _ => rfl) fun c => ?_
    rw [Camera.prepare_eq]
    simp [refusal?, op?, wantsInitialized, unmet?, demands, effect]
  | registerListener l =>
    refine hcall (fun _ => ()) (fun _ _ => rfl) fun c => ?_
    rw [Camera.registerListener_eq, refusal?_eq rfl rfl]
    simp [unmet?, demands, effect]
  | unregisterListener =>
    exact hcall (fun _ => ()) (fun _ _ => rfl) fun c => Camera.unregisterListener_eq c
  | useCases =>
    refine (Attended.call_eq_through name Camera.useCases b).trans ?_
    -- To tell the use cases fails if there are none, and so is not a plain answer.
    refine hcall (·.profile.useCases) (fun _ _ => rfl) fun c => ?_
    rw [Camera.useCases_eq, refusal?_eq rfl rfl]
    cases hu : c.profile.useCases.isEmpty <;> simp [unmet?, demands, effect, hu]
  | setUseCase u =>
    refine hcall (fun _ => ()) (fun _ _ => rfl) fun c => ?_
    rw [Camera.setUseCase_eq, refusal?_eq rfl rfl, unmet?_two rfl]
    cases hc : c.capturing <;> simp [effect, hc]
  | setExposureMode m =>
    refine hcall (fun _ => ()) (fun _ _ => rfl) fun c => ?_
    rw [Camera.setExposureMode_eq, refusal?_eq rfl rfl]
    simp [unmet?, demands, effect]
  | setExposureTime t =>
    refine hcall (fun _ => ()) (fun _ _ => rfl) fun c => ?_
    rw [Camera.setExposureTime_eq, refusal?_eq rfl rfl, unmet?_two rfl]
    rfl
  | start =>
    show DeviceBench.withDevice name (Device.start b.nextRun b.now) _ = _
    rw [funext fun d => funext fun c => start_eq b.nextRun b.now d c]
    rfl
  | stop =>
    show DeviceBench.withDevice name Device.stop b = _
    rw [funext fun d => funext fun c => stop_eq b.nextRun b.now d c]
    rfl
  | maxWidth =>
    refine (Attended.call_eq_through name Camera.maxWidth b).trans ?_
    refine hcall (·.profile.width) (fun _ _ => rfl) fun c => ?_
    rw [Camera.maxWidth_eq, refusal?_eq rfl rfl]
    simp [unmet?, demands, effect]
  | maxHeight =>
    refine (Attended.call_eq_through name Camera.maxHeight b).trans ?_
    refine hcall (·.profile.height) (fun _ _ => rfl) fun c => ?_
    rw [Camera.maxHeight_eq, refusal?_eq rfl rfl]
    simp [unmet?, demands, effect]

end DeviceCall

/-! ### Device objects and their cameras -/

namespace DeviceBench

/-- Setting one object does not affect the others. -/
theorem lookup_setDevice (n name : String) (d : Device) (b : DeviceBench) :
    (b.setDevice name d).devices.lookup n = if n = name then some d else b.devices.lookup n := by
  unfold setDevice
  by_cases h : n = name
  · simp [h]
  · have hne : (n == name) = false := by simp [h]
    simp only [List.lookup_cons, hne, lookup_filter_ne h, if_neg h]

/-- Every device object has its camera. -/
def Homed (b : DeviceBench) : Prop :=
  ∀ name d, (name, d) ∈ b.devices → ∃ c, b.cameras[d.camera]? = some c

/-- **An act** leaves every object with a camera of the bench. -/
theorem Homed.perform {b : DeviceBench} (h : b.Homed) (a : Act) : (b.perform a).Homed := by
  intro n e he
  have hcamera : ∃ c, b.cameras[e.camera]? = some c := by
    cases traced_of_perform he with
    | kept he => exact h n e he
    | made hc _ => exact ⟨_, hc⟩
    | called hd hcamera => exact hcamera ▸ h _ _ hd
    | woken hd _ hcamera => exact hcamera ▸ h _ _ hd
  obtain ⟨c, hc⟩ := hcamera
  obtain ⟨c', hc', -⟩ := perform_camera a hc
  exact ⟨c', hc'⟩

/-- So does a run. -/
theorem Homed.run {b : DeviceBench} (h : b.Homed) (acts : List Act) : (b.run acts).Homed := by
  induction acts generalizing b with
  | nil => exact h
  | cons a as ih => exact ih (h.perform a)

end DeviceBench

/-! ### The two endings -/

/-- A call on a device object that is there. -/
theorem DeviceCall.perform_of_lookup {name : String} {k : DeviceCall} {b : DeviceBench} {d : Device}
    {c : Camera String} (hd : b.devices.lookup name = some d)
    (hc : b.cameras[d.camera]? = some c) :
    k.perform name b =
      match k.refusal? c with
      | some s => (some (.error s), { b with nextRun := b.nextRun + k.runs }.setDevice name d)
      | none => (some (.ok ()),
          { b with
            cameras := b.cameras.set d.camera (k.effect c)
            nextRun := b.nextRun + k.runs }.setDevice name (k.attending b.nextRun b.now d c)) := by
  rw [k.perform_eq name b]
  unfold DeviceBench.withDevice
  simp only [hd, hc, ending]
  cases k.refusal? c with
  | some s => simp only [set_of_getElem? hc]
  | none => simp only [attending_camera]

/-- **A call on a device object does everything or nothing.**  After anything that can be done on a
    bench, a call on an object that is there fails exactly if there is a reason, with the first one:
    the failure that is injected for its operation, or else that the camera is not initialised, or
    else the first demand of its own that is not met.  Then all cameras, device objects and
    recorders are as they were.  Otherwise it changes its camera to what the call is for.  Taking a
    listener away never fails. -/
theorem device_calls_all_or_nothing (profiles : List CameraProfile) (now : Nat) (acts : List Act)
    (name : String) (k : DeviceCall) (d : Device) :
    let b := (DeviceBench.fresh profiles now).run acts
    b.devices.lookup name = some d →
      ∃ c, b.cameras[d.camera]? = some c ∧
        (∀ s, (k.perform name b).1 = some (.error s) ↔ k.refusal? c = some s) ∧
        (∀ s, (k.perform name b).1 = some (.error s) →
          (k.perform name b).2.cameras = b.cameras ∧
          (∀ n, (k.perform name b).2.devices.lookup n = b.devices.lookup n) ∧
          (k.perform name b).2.recorders = b.recorders) ∧
        (k.refusal? c = none → (k.perform name b).1 = some (.ok ()) ∧
          (k.perform name b).2.cameras = b.cameras.set d.camera (k.effect c)) ∧
        (DeviceCall.unregisterListener.perform name b).1 = some (.ok ()) := by
  intro b hd
  have hfresh : (DeviceBench.fresh profiles now).Homed := fun _ _ h => nomatch h
  have hhomed : b.Homed := hfresh.run acts
  obtain ⟨c, hc⟩ := hhomed name d (mem_of_lookup hd)
  -- A call by name is the call on the object of that name and on its camera.
  have hk : k.perform name b = _ := DeviceCall.perform_of_lookup hd hc
  have hu : DeviceCall.unregisterListener.perform name b = _ :=
    DeviceCall.perform_of_lookup hd hc
  refine ⟨c, hc, ?_, ?_, ?_, by rw [hu]; rfl⟩
  · intro s
    rw [hk]
    cases k.refusal? c <;> simp
  · intro s hs
    rw [hk] at hs ⊢
    cases hr : k.refusal? c with
    | none => simp [hr] at hs
    | some s' =>
      refine ⟨rfl, fun n => ?_, rfl⟩
      rw [DeviceBench.lookup_setDevice]
      -- The object is set to what it was.
      by_cases hn : n = name
      · rw [if_pos hn, hn, hd]
      · rw [if_neg hn]
  · intro hr
    rw [hk, hr]
    exact ⟨rfl, rfl⟩

/-- Two device objects for one camera: the first prepares it, the second starts it and is dropped,
    so that the camera is no longer initialised, and stopping is made to fail besides. -/
def droppedCameraActs : List Act :=
  [.create "a" "s", .create "b" "s", .call "a" .prepare, .call "a" (.registerListener "l"),
   .call "b" .start, .emit "s" [], .fail "s" .stopCapture .timeout, .drop "b"]

/-- There the injected failure is what the first object is told, and its camera keeps its frame. -/
theorem device_calls_all_or_nothing_dropped :
    let b := (DeviceBench.fresh [{ serial := "s", fd := 1 }] 0).run droppedCameraActs
    b.devices.lookup "a" = some { camera := 0 } ∧
      (DeviceCall.stop.perform "a" b).1 = some (.error .timeout) ∧
      (DeviceCall.maxWidth.perform "a" b).1 = some (.error .deviceNotInitialized) ∧
      (DeviceCall.stop.perform "a" b).2.cameras = b.cameras := by
  intro b
  have hd : b.devices.lookup "a" = some { camera := 0 } := by decide
  have hstop : (DeviceCall.stop.perform "a" b).1 = some (.error .timeout) := by rfl
  obtain ⟨c, -, -, hsame, -⟩ := device_calls_all_or_nothing [{ serial := "s", fd := 1 }] 0
    droppedCameraActs "a" .stop { camera := 0 } hd
  exact ⟨hd, hstop, by rfl, (hsame .timeout hstop).1⟩

end DepthRelay.Bench
