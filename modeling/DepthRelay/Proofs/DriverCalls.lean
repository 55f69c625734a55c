import DepthRelay.Session.Basic

namespace DepthRelay

/-!
# Outcomes of driver calls

Each driver call in closed form, and from it how the preparation of a camera ends.

* `Camera.obstacle?` — why a call on a prepared camera fails before it looks at conditions of its
  own: an injected failure comes first, then a camera that is not initialised.
* `Camera.ended` — the shape of all outcomes: the first reason there is, with the camera as it was,
  or the answer, with the camera changed.
* `Session.refusal?` — the first stage of `Session.configure` that does not work, in order.
* `configure_ends` — `configure` ends with exactly that refusal.  Whatever it has done to the camera
  by then is gone once the camera is released, but for its use case and its exposure mode
  (`Camera.blank`).
-/

namespace Camera

variable {L α : Type}

/-- The camera without the choices that outlive a device object. -/
def blank (c : Camera L) : Camera L := { c with useCase := none, exposureMode := .automatic }

/-! ### The shared conditions -/

/-- How a call ends that fails with a reason if there is one, leaving the camera as it was, and
    otherwise answers `a` and leaves it as `after`. -/
def ended (refusal : Option Status) (a : α) (after before : Camera L) :
    EStateM.Result Status (Camera L) α :=
  match refusal with
  | some s => .error s before
  | none => .ok a after

/-- Why a call on a prepared camera fails before it looks at conditions of its own. -/
def obstacle? (op : DriverOp) (c : Camera L) : Option Status :=
  (c.fault? op).or (if c.initialized then none else some .deviceNotInitialized)

theorem obstacle?_of_initialized {c : Camera L} (h : c.initialized = true) (op : DriverOp) :
    c.obstacle? op = c.fault? op := by
  simp [obstacle?, h]

/-- A guarded call fails with the obstacle, if there is one, and goes on otherwise. -/
theorem guarded_bind (op : DriverOp) (k : Unit → DriverCall L α) (c : Camera L) :
    (guarded op >>= k) c =
      match c.obstacle? op with
      | some s => .error s c
      | none => k () c := by
  show EStateM.bind (EStateM.bind (check op) _) k c = _
  simp only [EStateM.bind, check, obstacle?, demand]
  cases c.fault? op with
  | some s => rfl
  | none => by_cases h : c.initialized <;> simp [h]

/-- A demand in front of a call is a refusal, or nothing. -/
theorem demand_bind (holds : Camera L → Bool) (s : Status) (k : Unit → DriverCall L α)
    (c : Camera L) :
    (demand holds s >>= k) c = if holds c then k () c else .error s c := by
  show EStateM.bind (demand holds s) k c = _
  simp only [EStateM.bind, demand]
  by_cases h : holds c <;> simp [h]

/-! ### The calls -/

/-- A camera is prepared unless the driver refuses. -/
theorem prepare_eq (c : Camera L) :
    prepare c = ended (c.fault? .prepare) () { c with initialized := true } c := by
  show EStateM.bind (check .prepare) _ c = _
  simp only [EStateM.bind, check]
  cases c.fault? .prepare <;> rfl

/-- A listener is registered unless there is an obstacle to it. -/
theorem registerListener_eq (l : L) (c : Camera L) :
    registerListener l c =
      ended (c.obstacle? .registerListener) () { c with listener := some l } c := by
  unfold registerListener
  rw [guarded_bind]
  cases c.obstacle? .registerListener <;> rfl

theorem unregisterListener_eq (c : Camera L) :
    unregisterListener c = .ok () { c with listener := none } := rfl

/-- The use cases are told, unless the driver refuses or there are none. -/
theorem useCases_eq (c : Camera L) :
    useCases c =
      ended ((c.obstacle? .useCases).or
        (if c.profile.useCases.isEmpty then some .noUseCasesForDevice else none))
        c.profile.useCases c c := by
  unfold useCases
  rw [guarded_bind]
  cases c.obstacle? .useCases with
  | some s => rfl
  | none =>
    dsimp only
    rw [demand_bind]
    cases c.profile.useCases.isEmpty <;> rfl

/-- A use case is selected while the camera does not capture, if it is one of its own. -/
theorem setUseCase_eq (name : String) (c : Camera L) :
    setUseCase name c =
      ended ((c.obstacle? .setUseCase).or
        ((if c.capturing then some .deviceIsBusy else none).or
          (if c.profile.useCases.contains name then none else some .usecaseNotSupported)))
        () { c with useCase := some name } c := by
  unfold setUseCase
  rw [guarded_bind]
  cases c.obstacle? .setUseCase with
  | some s => rfl
  | none =>
    dsimp only
    rw [demand_bind]
    by_cases hb : c.capturing
    · rw [if_pos hb, if_neg (by simp [hb])]
      rfl
    · rw [if_neg hb, if_pos (by simp [hb])]
      rw [demand_bind]
      by_cases hn : c.profile.useCases.contains name
      · rw [if_pos hn, if_pos hn]
        rfl
      · rw [if_neg hn, if_neg hn]
        rfl

/-- The mode of exposure is set unless there is an obstacle to it. -/
theorem setExposureMode_eq (mode : ExposureMode) (c : Camera L) :
    setExposureMode mode c =
      ended (c.obstacle? .setExposureMode) () { c with exposureMode := mode } c := by
  unfold setExposureMode
  rw [guarded_bind]
  cases c.obstacle? .setExposureMode <;> rfl

/-- A camera starts to capture unless it does already. -/
theorem startCapture_eq (c : Camera L) :
    startCapture c =
      ended ((c.obstacle? .startCapture).or (if c.capturing then some .logicError else none))
        () { c with capturing := true } c := by
  unfold startCapture
  rw [guarded_bind]
  cases c.obstacle? .startCapture with
  | some s => rfl
  | none =>
    dsimp only
    rw [demand_bind]
    cases c.capturing <;> rfl

/-- A camera stops to capture if it does. -/
theorem stopCapture_eq (c : Camera L) :
    stopCapture c = ended (c.obstacle? .stopCapture) () { c with capturing := false } c := by
  unfold stopCapture
  rw [guarded_bind]
  cases c.obstacle? .stopCapture <;> rfl

/-- The exposure time is set in manual mode, within its bounds. -/
theorem setExposureTime_eq (micros : UInt32) (c : Camera L) :
    setExposureTime micros c =
      ended ((c.obstacle? .setExposureTime).or
        ((if c.exposureMode == .manual then none else some .logicError).or
          (if micros ≠ 0 && micros ≤ Sensor.maxExposureTime then none else some .outOfBounds)))
        () { c with exposureTime := micros } c := by
  unfold setExposureTime
  rw [guarded_bind]
  cases c.obstacle? .setExposureTime with
  | some s => rfl
  | none =>
    dsimp only
    rw [demand_bind]
    by_cases hm : c.exposureMode == .manual
    · rw [if_pos hm, if_pos hm]
      rw [demand_bind]
      by_cases hb : (micros ≠ 0 && micros ≤ Sensor.maxExposureTime) = true
      · rw [if_pos hb, if_pos hb]
        rfl
      · rw [if_neg hb, if_neg hb]
        rfl
    · rw [if_neg hm, if_neg hm]
      rfl

/-- The width is told unless there is an obstacle to it. -/
theorem maxWidth_eq (c : Camera L) :
    maxWidth c = ended (c.obstacle? .maxSensorWidth) c.profile.width c c := by
  unfold maxWidth
  rw [guarded_bind]
  cases c.obstacle? .maxSensorWidth <;> rfl

/-- So is the height. -/
theorem maxHeight_eq (c : Camera L) :
    maxHeight c = ended (c.obstacle? .maxSensorHeight) c.profile.height c c := by
  unfold maxHeight
  rw [guarded_bind]
  cases c.obstacle? .maxSensorHeight <;> rfl

end Camera

/-! ### Preparing a camera -/

namespace Session

variable {α β : Type}

/-- Why a stage fails: the failure that is injected for its driver call, or else the call's own
    reason. -/
def stage? (operation : String) (op : DriverOp) (own : Option Status) (c : Camera Nat) :
    Option RelayError :=
  ((c.fault? op).or own).map (.device operation)

/-- The error of a result, if it is one. -/
def error? : Except RelayError α → Option RelayError
  | .error e => some e
  | .ok _ => none

/-- The first stage of `configure` that does not work, if there is one. -/
def refusal? (rate : FrameRate) (buffer : Except RelayError FrameBuffer) (c : Camera Nat) :
    Option RelayError :=
  (stage? "initialize the camera device" .prepare none c).or <|
  (error? buffer).or <|
  (stage? "register data listener" .registerListener none c).or <|
  (stage? "retrieve use cases" .useCases
    (if c.profile.useCases.isEmpty then some .noUseCasesForDevice else none) c).or <|
  (if c.profile.useCases.contains rate.useCase then none
    else some (.useCaseNotFound rate.useCase) : Option RelayError).or <|
  (stage? "set use case" .setUseCase (if c.capturing then some .deviceIsBusy else none) c).or <|
  stage? "set exposure mode to manual" .setExposureMode none c

/-- A camera that captures is refused. -/
theorem idle_of_refusal?_eq_none {rate : FrameRate} {buffer : Except RelayError FrameBuffer}
    {c : Camera Nat} (h : refusal? rate buffer c = none) : c.capturing = false := by
  cases hc : c.capturing with
  | false => rfl
  | true => simp [refusal?, stage?, hc] at h

/-- How preparations end: with the refusal, if there is one, or with an answer that meets `Q`.
    Either way they have only done what a release undoes, apart from the two choices that
    `Camera.blank` leaves out. -/
def Ends (m : EStateM RelayError (Camera Nat) α) (c : Camera Nat) (refusal : Option RelayError)
    (Q : α → Camera Nat → Prop) : Prop :=
  match refusal with
  | some e => ∃ c', m c = .error e c' ∧ c'.release.blank = c.release.blank
  | none => ∃ a c', m c = .ok a c' ∧ c'.release.blank = c.release.blank ∧ Q a c'

/-- Preparations in sequence end with the first refusal of the two. -/
theorem Ends.bind {m : EStateM RelayError (Camera Nat) α}
    {f : α → EStateM RelayError (Camera Nat) β} {c : Camera Nat} {r r' : Option RelayError} {Q : α → Camera Nat → Prop}
    {Q' : β → Camera Nat → Prop} (hm : Ends m c r Q)
    (hf : ∀ a c', Q a c' → Ends (f a) c' r' Q') : Ends (m >>= f) c (r.or r') Q' := by
  cases r with
  | some e =>
    obtain ⟨c', he, hc⟩ := hm
    refine ⟨c', ?_, hc⟩
    show EStateM.bind m f c = _
    simp only [EStateM.bind, he]
  | none =>
    obtain ⟨a, c', ha, hc, hq⟩ := hm
    have hb : (m >>= f) c = f a c' := by
      show EStateM.bind m f c = _
      simp only [EStateM.bind, ha]
    have hf' := hf a c' hq
    cases r' with
    | some e =>
      obtain ⟨d, he, hd⟩ := hf'
      exact ⟨d, by rw [hb, he], by rw [hd, hc]⟩
    | none =>
      obtain ⟨b, d, he, hd, hq'⟩ := hf'
      exact ⟨b, d, by rw [hb, he], by rw [hd, hc], hq'⟩

/-- A stage ends as its driver call does. -/
theorem ends_stage {operation : String} {op : DriverOp} {own : Option Status}
    {m : Camera.DriverCall Nat α} {c after : Camera Nat} {a : α}
    (hm : m c = Camera.ended ((c.fault? op).or own) a after c)
    (hc : after.release.blank = c.release.blank) :
    Ends (stage operation m) c (stage? operation op own c) fun a' c' => a' = a ∧ c' = after := by
  unfold stage?
  cases h : (c.fault? op).or own with
  | some s => exact ⟨c, by simp only [stage, hm, h, Camera.ended], rfl⟩
  | none => exact ⟨a, after, by simp only [stage, hm, h, Camera.ended], hc, rfl, rfl⟩

/-- The camera of a session that has just been opened. -/
def prepared (rate : FrameRate) (channel : Nat) (c : Camera Nat) : Camera Nat :=
  { c with
    initialized := true
    listener := some channel
    useCase := some rate.useCase
    exposureMode := .manual }

/-- A result that is known ends as it is known to. -/
theorem ends_ofExcept (r : Except RelayError α) (c : Camera Nat) :
    Ends (MonadExcept.ofExcept r) c (error? r)
      fun a c' => r = .ok a ∧ c' = c := by
  cases r with
  | error e => exact ⟨c, rfl, rfl⟩
  | ok a => exact ⟨a, c, rfl, rfl, rfl, rfl⟩

/-- A requirement ends in its error, or in nothing. -/
theorem ends_require (holds : Bool) (e : RelayError) (c : Camera Nat) :
    Ends (require holds e) c (if holds then none else some e)
      fun _ c' => holds = true ∧ c' = c := by
  cases holds with
  | true => exact ⟨(), c, rfl, rfl, rfl, rfl⟩
  | false => exact ⟨c, rfl, rfl⟩

/-- **Preparing a camera.**  It fails with the first stage that does not work, and otherwise leaves
    the camera initialised and configured, with the channel as its listener. -/
theorem configure_ends (rate : FrameRate) (channel : Nat) (buffer : Except RelayError FrameBuffer)
    (c : Camera Nat) :
    Ends (configure rate channel buffer) c (refusal? rate buffer c)
      fun b c' => buffer = .ok b ∧ c' = prepared rate channel c := by
  unfold configure refusal?
  have hprepare := Camera.prepare_eq c
  rw [← Option.or_none (o := c.fault? .prepare)] at hprepare
  refine (ends_stage hprepare rfl).bind ?_
  rintro _ _ ⟨-, rfl⟩
  refine (ends_ofExcept buffer _).bind ?_
  rintro b _ ⟨hb, rfl⟩
  -- From here on the camera is initialised, so a call's obstacle can only be its injected failure.
  have hregister := Camera.registerListener_eq channel { c with initialized := true }
  rw [Camera.obstacle?_of_initialized rfl, ← Option.or_none (o := Camera.fault? _ _)] at hregister
  refine (ends_stage hregister rfl).bind ?_
  rintro _ _ ⟨-, rfl⟩
  have huseCases := Camera.useCases_eq { c with initialized := true, listener := some channel }
  rw [Camera.obstacle?_of_initialized rfl] at huseCases
  refine (ends_stage huseCases rfl).bind ?_
  rintro _ _ ⟨rfl, rfl⟩
  refine (ends_require _ _ _).bind ?_
  rintro _ _ ⟨hu, rfl⟩
  have hselect := Camera.setUseCase_eq rate.useCase
    { c with initialized := true, listener := some channel }
  rw [Camera.obstacle?_of_initialized rfl, if_pos hu, Option.or_none] at hselect
  refine (ends_stage hselect rfl).bind ?_
  rintro _ _ ⟨-, rfl⟩
  have hmode := Camera.setExposureMode_eq .manual
    { c with initialized := true, listener := some channel, useCase := some rate.useCase }
  rw [Camera.obstacle?_of_initialized rfl, ← Option.or_none (o := Camera.fault? _ _)] at hmode
  rw [← Option.or_none (o := stage? _ _ _ _)]
  refine (ends_stage hmode rfl).bind ?_
  rintro _ _ ⟨-, rfl⟩
  exact ⟨b, _, rfl, rfl, hb, rfl⟩

end Session

end DepthRelay
