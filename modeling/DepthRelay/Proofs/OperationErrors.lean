import DepthRelay.Proofs.Willing

namespace DepthRelay

/-!
# Why operations fail

An operation of a session has many driver calls and checks in it that could fail.  Most of them
cannot fail by themselves, each for a reason of its own: a camera that is held is initialised and in
manual mode, a camera that nobody holds does not capture, and valid settings have room for points
and an exposure time within bounds.

* `Operation.Hindered` — what can stand in the way of an operation: a state that does not fit, a
  request that nothing answers to, or a failure that is injected right now into a driver operation
  that is needed.
* `Picks` — an answer that is one of several reasons, and is missing only if there are none; reasons
  add up along the checks of an operation (`Picks.or`).
* `Relay.openSession_picks`, `Relay.perform_picks_of_held`, `Relay.perform_picks_of_closed` — the
  answers of openings, and of operations on an open and on a closed session.
* `World.Alone` — a session with cameras of its own among any number of sessions, on hosts that
  refuse no buffer.
* `operations_fail_if_hindered` — the answer of an operation, in every reachable world.
-/

variable {σ : Type}

/-! ### What stands in the way of an operation -/

/-- What messages call a driver operation. -/
def DriverOp.text : DriverOp → String
  | createCamera => "create the camera device"
  | prepare => "initialize the camera device"
  | registerListener => "register data listener"
  | useCases => "retrieve use cases"
  | setUseCase => "set use case"
  | setExposureMode => "set exposure mode to manual"
  | setExposureTime => "set exposure time"
  | startCapture => "start capture"
  | stopCapture => "stop capture"
  | maxSensorWidth => "get max sensor width"
  | maxSensorHeight => "get max sensor height"

namespace Operation

/-- What messages call an operation. -/
def text : Operation → String
  | openCamera _ _ _ => "open"
  | start _ => DriverOp.startCapture.text
  | stop => DriverOp.stopCapture.text
  | setExposure => DriverOp.setExposureTime.text
  | maxWidth => DriverOp.maxSensorWidth.text
  | maxHeight => DriverOp.maxSensorHeight.text

/-- The states in which a session takes an operation. -/
def Fits (state : SessionState) : Operation → Prop
  | openCamera _ _ _ => state = .closed
  | start _ => state = .opened
  | stop => state = .capturing
  | _ => state ≠ .closed

/-- The driver operations that an operation needs, in their order. -/
def needs : Operation → List DriverOp
  | openCamera _ _ _ =>
    [.createCamera, .prepare, .registerListener, .useCases, .setUseCase, .setExposureMode]
  | start _ => [.startCapture]
  | stop => [.stopCapture]
  | setExposure => [.setExposureTime]
  | maxWidth => [.maxSensorWidth]
  | maxHeight => [.maxSensorHeight]

/-- The camera that an operation of a session works on: the one that is asked for, or the one that
    the session holds. -/
def camera? (s : Session) (w : Relay) : Operation → Option (Camera Nat)
  | openCamera d _ _ => (w.target? d).bind fun p => w.cameras[p]?
  | _ => s.camera.bind fun o => w.cameras[o.device.camera]?

/-- What stands in the way of an operation of the session `s`, as the error that it makes. -/
inductive Hindered (s : Session) (w : Relay) : Operation → RelayError → Prop
  | state (op : Operation) (h : ¬op.Fits s.state) :
      Hindered s w op (.invalidState op.text s.state)
  | rate (d : Descriptor) (key : UInt32) (address : Nat) (closed : s.state = .closed)
      (h : FrameRate.ofKey? key = none) :
      Hindered s w (.openCamera d key address) (.unsupportedFrameRate key)
  | missing (d : Descriptor) (key : UInt32) (address : Nat) (closed : s.state = .closed)
      (h : connected w.cameras d = []) : Hindered s w (.openCamera d key address) .noDevice
  | ambiguous (d : Descriptor) (key : UInt32) (address : Nat) (closed : s.state = .closed)
      (h : 1 < (connected w.cameras d).length) :
      Hindered s w (.openCamera d key address) (.ambiguousDevice (connected w.cameras d).length)
  | useCase (d : Descriptor) (key : UInt32) (address : Nat) (rate : FrameRate) (c : Camera Nat)
      (closed : s.state = .closed) (rated : FrameRate.ofKey? key = some rate)
      (found : (openCamera d key address).camera? s w = some c)
      (h : rate.useCase ∉ c.profile.useCases) :
      Hindered s w (.openCamera d key address) (.useCaseNotFound rate.useCase)
  /-- A failure is injected right now. -/
  | injected (op : Operation) (c : Camera Nat) (x : DriverOp) (status : Status)
      (fits : op.Fits s.state) (found : op.camera? s w = some c) (needed : x ∈ op.needs)
      (h : c.fault? x = some status) : Hindered s w op (.device x.text status)

/-- The error of a result, if it is one. -/
def Result.error? : Result → Option RelayError
  | unit r => Session.error? r
  | samples r => Session.error? r
  | size r => Session.error? r

end Operation

/-! ### Reasons that add up -/

section

variable {α : Type} {o o' : Option α} {P Q : α → Prop} {a : α}

/-- The answer is one of the reasons `P`, and is missing only if there are none. -/
def Picks (o : Option α) (P : α → Prop) : Prop :=
  (∀ a, o = some a → P a) ∧ (o = none → ∀ a, ¬P a)

namespace Picks

theorem congr (h : Picks o P) (hPQ : ∀ a, P a ↔ Q a) : Picks o Q :=
  ⟨fun a ha => (hPQ a).mp (h.1 a ha), fun ho a ha => h.2 ho a ((hPQ a).mpr ha)⟩

/-- There is no reason. -/
theorem none : Picks (.none : Option α) fun _ => False :=
  ⟨fun _ ha => absurd ha (by simp), fun _ _ ha => ha⟩

/-- A reason has been found. -/
theorem found (h : P a) : Picks (.some a) P :=
  ⟨fun _ ha => Option.some.inj ha ▸ h, fun ho => absurd ho (by simp)⟩

/-- There is a reason if and only if a condition holds. -/
theorem ite (p : Prop) [Decidable p] (a : α) :
    Picks (if p then .none else .some a) fun b => ¬p ∧ b = a := by
  by_cases hp : p
  · rw [if_pos hp]
    exact none.congr fun b => by simp [hp]
  · rw [if_neg hp]
    exact found ⟨hp, rfl⟩

/-- The reasons of two checks, of which the first is made first. -/
theorem or (h : Picks o P) (h' : Picks o' Q) : Picks (o.or o') fun a => P a ∨ Q a := by
  cases o with
  | none =>
    refine ⟨fun a ha => .inr (h'.1 a ha), fun ho a hPQ => ?_⟩
    rcases hPQ with hP | hQ
    · exact h.2 rfl a hP
    · exact h'.2 ho a hQ
  | some b => exact ⟨fun a ha => .inl (h.1 a ha), fun ho => absurd ho (by simp)⟩

end Picks

end

namespace Camera

/-- The failure that is injected into a driver operation, as an error. -/
def injected (c : Camera Nat) (x : DriverOp) : Option RelayError :=
  (c.fault? x).map (.device x.text)

/-- The first driver operation in a row that a failure is injected into. -/
def hurdle? (c : Camera Nat) (xs : List DriverOp) : Option RelayError := xs.findSome? c.injected

theorem hurdle?_nil (c : Camera Nat) : c.hurdle? [] = none := rfl

theorem hurdle?_cons (c : Camera Nat) (x : DriverOp) (xs : List DriverOp) :
    c.hurdle? (x :: xs) = (c.injected x).or (c.hurdle? xs) := findSome?_cons_or c.injected x xs

theorem injected_eq_some {c : Camera Nat} {x : DriverOp} {e : RelayError} :
    c.injected x = some e ↔ ∃ status, c.fault? x = some status ∧ e = .device x.text status := by
  simp [injected, Option.map_eq_some_iff, eq_comm (a := e)]

/-- The failures that are injected into a row of driver operations. -/
theorem picks_hurdle? (c : Camera Nat) (xs : List DriverOp) :
    Picks (c.hurdle? xs) fun e => ∃ x ∈ xs, c.injected x = some e := by
  induction xs with
  | nil => exact Picks.none.congr fun e => by simp
  | cons x xs ih =>
    rw [hurdle?_cons]
    have hx : Picks (c.injected x) fun e => c.injected x = some e :=
      ⟨fun e he => he, fun hnone e he => absurd (hnone.symm.trans he) (by simp)⟩
    exact (hx.or ih).congr fun e => by simp

end Camera

/-! ### Openings -/

namespace Session

/-- Why an idle camera that offers use cases cannot be prepared, if there is room for its frames. -/
theorem refusal?_eq {rate : FrameRate} {b : FrameBuffer} {c : Camera Nat}
    (hidle : c.capturing = false) (hoffers : c.profile.useCases ≠ []) :
    refusal? rate (.ok b) c =
      (c.hurdle? [.prepare, .registerListener, .useCases]).or
        ((if rate.useCase ∈ c.profile.useCases then none
            else some (.useCaseNotFound rate.useCase) : Option RelayError).or
          (c.hurdle? [.setUseCase, .setExposureMode])) := by
  have hempty : c.profile.useCases.isEmpty = false := by simpa using hoffers
  simp only [refusal?, stage?, error?, Camera.hurdle?_cons, Camera.hurdle?_nil, Camera.injected,
    DriverOp.text, hidle, hempty, Bool.false_eq_true, if_false, Option.or_none, Option.none_or,
    List.contains_iff_mem, Option.or_assoc]

end Session

namespace Relay

variable {w : Relay} {i p : Nat} {c : Camera Nat}

/-- Why the opening of a camera fails, if there is room for its frames: the host is asked to take
    the buffer once the camera is prepared. -/
theorem openCamera_error? {rate : FrameRate} {address : Nat} {b : FrameBuffer}
    (hroom : FrameBuffer.ofCapacity address (w.session i).settings.maxPoints.toNat = .ok b) :
    Session.error? (w.openCamera p c rate address i).1 =
      ((c.injected .createCamera).or (Session.refusal? rate (.ok b) c)).or
        ((w.runtime (w.session i).runtime).exposeFault.map .host) := by
  have hend := Session.configure_ends rate w.channels.length (.ok b) c
  unfold openCamera Camera.injected
  cases c.fault? .createCamera with
  | some status => rfl
  | none =>
    dsimp only
    rw [hroom]
    unfold Session.Ends at hend
    cases hrefusal : Session.refusal? rate (.ok b) c with
    | some e =>
      rw [hrefusal] at hend
      obtain ⟨c', he, -⟩ := hend
      rw [he]
      rfl
    | none =>
      rw [hrefusal] at hend
      obtain ⟨b', c', he, -⟩ := hend
      rw [he]
      unfold Runtime.expose
      cases (w.runtime (w.session i).runtime).exposeFault <;> rfl

/-- A camera that is connected is found by its serial. -/
theorem found_of_connected {d : Descriptor} {serial : String}
    (h : connected w.cameras d = [serial]) :
    ∃ p c, place? w.cameras serial = some p ∧ w.target? d = some p ∧ w.cameras[p]? = some c := by
  have hserial : serial ∈ connected w.cameras d := by simp [h]
  obtain ⟨c, hc, rfl⟩ := List.mem_map.mp hserial
  have hfound : (place? w.cameras c.profile.serial).isSome = true := by
    rw [place?, List.findIdx?_isSome, List.any_eq_true]
    exact ⟨c, (List.mem_filter.mp hc).1, by simp⟩
  obtain ⟨p, hp⟩ := Option.isSome_iff_exists.mp hfound
  have hlt := (List.findIdx?_eq_some_iff_getElem.mp hp).1
  exact ⟨p, _, hp, by simp [target?, h, hp], List.getElem?_eq_getElem hlt⟩

/-- What stands in the way of an opening once its camera has been found: what its checks look for,
    in their order. -/
theorem hindered_openCamera {s : Session} {d : Descriptor} {key : UInt32} {address : Nat}
    {rate : FrameRate} {serial : String} (hstate : s.state = .closed)
    (hrate : FrameRate.ofKey? key = some rate) (hserials : connected w.cameras d = [serial])
    (hcamera : (Operation.openCamera d key address).camera? s w = some c) (e : RelayError) :
    (∃ x ∈ [.createCamera, .prepare, .registerListener, .useCases], c.injected x = some e) ∨
      (rate.useCase ∉ c.profile.useCases ∧ e = .useCaseNotFound rate.useCase) ∨
        (∃ x ∈ [.setUseCase, .setExposureMode], c.injected x = some e) ↔
    Operation.Hindered s w (.openCamera d key address) e := by
  constructor
  · have hinjected {x : DriverOp} (hx : x ∈ (Operation.openCamera d key address).needs)
        (h : c.injected x = some e) : Operation.Hindered s w (.openCamera d key address) e := by
      obtain ⟨status, hfault, rfl⟩ := Camera.injected_eq_some.mp h
      exact .injected _ c x status hstate hcamera hx hfault
    -- Either a fault of the driver or a use case that is not offered.
    rintro (⟨x, hx, h⟩ | ⟨hmissing, rfl⟩ | ⟨x, hx, h⟩)
    · exact hinjected (List.mem_append_left [.setUseCase, .setExposureMode] hx) h
    · exact .useCase d key address rate c hstate hrate hcamera hmissing
    · exact hinjected
        (List.mem_append_right [.createCamera, .prepare, .registerListener, .useCases] hx) h
  · intro h
    cases h with
    -- The reasons that come before the camera is found do not apply any more.
    | state op h => exact absurd hstate h
    | rate _ _ _ _ h => exact absurd (hrate.symm.trans h) (by simp)
    | missing _ _ _ _ h => exact absurd (hserials.symm.trans h) (by simp)
    | ambiguous _ _ _ _ h => exact absurd h (by simp [hserials])
    | useCase _ _ _ rate' c' _ rated found h =>
      obtain rfl := Option.some.inj (hrate.symm.trans rated)
      obtain rfl := Option.some.inj (hcamera.symm.trans found)
      exact .inr (.inl ⟨h, rfl⟩)
    | injected op c' x status _ found needed h =>
      obtain rfl := Option.some.inj (hcamera.symm.trans found)
      have hx := Camera.injected_eq_some.mpr ⟨status, h, rfl⟩
      rcases List.mem_append.mp (show x ∈
        [.createCamera, .prepare, .registerListener, .useCases] ++ [.setUseCase, .setExposureMode]
        from needed) with hmem | hmem
      · exact .inl ⟨x, hmem, hx⟩
      · exact .inr (.inr ⟨x, hmem, hx⟩)

/-- **Why an opening fails.** -/
theorem openSession_picks {s : Session} (d : Descriptor) (key : UInt32) (address : Nat)
    (hs : w.sessions[i]? = some s)
    (hidle : s.state = .closed → ∀ p c, w.target? d = some p → w.cameras[p]? = some c →
      c.capturing = false ∧ c.profile.useCases ≠ [])
    (hroom : ∃ b, FrameBuffer.ofCapacity address s.settings.maxPoints.toNat = .ok b)
    (hwilling : (w.runtime s.runtime).exposeFault = none) :
    Picks (Session.error? (w.openSession d key address i).1)
      (Operation.Hindered s w (.openCamera d key address)) := by
  unfold openSession
  rw [session_eq hs]
  by_cases hstate : s.state = .closed
  · rw [if_pos hstate]
    -- The refusals come in the order in which the stages are tried.
    cases hrate : FrameRate.ofKey? key with
    | none => exact Picks.found (.rate d key address hstate hrate)
    | some rate =>
      dsimp only
      cases hserials : connected w.cameras d with
      | nil => exact Picks.found (.missing d key address hstate hserials)
      | cons serial rest =>
        cases rest with
        | cons next others =>
          have hmany := Operation.Hindered.ambiguous (w := w) d key address hstate (by simp [hserials])
          rw [hserials] at hmany
          exact Picks.found hmany
        | nil =>
          -- One camera is behind the descriptor: what is left is what its driver and the rate lead
          -- to.
          obtain ⟨p, c, hplace, htarget, hc⟩ := found_of_connected hserials
          obtain ⟨hquiet, hoffers⟩ := hidle hstate p c htarget hc
          obtain ⟨b, hb⟩ := hroom
          rw [← session_eq hs] at hb hwilling
          have hcamera : (Operation.openCamera d key address).camera? s w = some c := by
            simp [Operation.camera?, htarget, hc]
          simp only [hplace, Option.bind_some, hc, Option.map_some]
          rw [openCamera_error? hb, hwilling, Option.map_none, Option.or_none,
            Session.refusal?_eq hquiet hoffers, ← Option.or_assoc, ← Camera.hurdle?_cons]
          have hchecks := (c.picks_hurdle? [.createCamera, .prepare, .registerListener, .useCases]).or
            ((Picks.ite (rate.useCase ∈ c.profile.useCases) (.useCaseNotFound rate.useCase)).or
              (c.picks_hurdle? [.setUseCase, .setExposureMode]))
          exact hchecks.congr (hindered_openCamera hstate hrate hserials hcamera)
  · rw [if_neg hstate]
    exact Picks.found (.state (.openCamera d key address) hstate)

/-! ### Operations on an open session -/

/-- An operation that needs one driver operation, and ends as the driver's call does. -/
theorem picks_ended {α : Type} {s : Session} {op : Operation} {x : DriverOp} {operation : String}
    {refusal : Option Status} {a : α} {after before : Relay} (htext : operation = x.text)
    (hrefusal : refusal = c.fault? x) (hneeds : op.needs = [x]) (hfits : op.Fits s.state)
    (hcamera : op.camera? s w = some c) :
    Picks (Session.error? (ended operation refusal a after before).1)
      (Operation.Hindered s w op) := by
  have hended : Session.error? (ended operation refusal a after before).1 = c.hurdle? [x] := by
    rw [Camera.hurdle?_cons, Camera.hurdle?_nil, Option.or_none, htext, hrefusal]
    unfold ended Camera.injected
    cases c.fault? x <;> rfl
  rw [hended]
  refine (c.picks_hurdle? [x]).congr fun e => ?_
  constructor
  · rintro ⟨y, hy, h⟩
    obtain ⟨status, hfault, rfl⟩ := Camera.injected_eq_some.mp h
    exact .injected op c y status hfits hcamera (hneeds ▸ hy) hfault
  · intro h
    cases h with
    | state _ h => exact absurd hfits h
    | injected _ c' y status _ found needed h =>
      obtain rfl := Option.some.inj (hcamera.symm.trans found)
      exact ⟨y, hneeds ▸ needed, Camera.injected_eq_some.mpr ⟨status, h, rfl⟩⟩
    | _ => exact absurd hneeds (by simp [Operation.needs])

/-- **Why an operation fails** on a camera that the session holds and that is attuned to it. -/
theorem perform_picks_of_held {s : Session} {o : OpenCamera} (op : Operation)
    (hopen : ∀ d key address, op ≠ .openCamera d key address) (hs : w.sessions[i]? = some s)
    (ho : s.camera = some o) (hc : w.cameras[o.device.camera]? = some c)
    (hstate : s.state ≠ .closed) (hinitialized : c.initialized = true)
    (hmanual : c.exposureMode = .manual) (hfollows : c.capturing = true ↔ s.state = .capturing)
    (hexposure : s.settings.exposureTime ≠ 0 ∧ s.settings.exposureTime ≤ Sensor.maxExposureTime) :
    Picks (op.perform i w).1.error? (Operation.Hindered s w op) := by
  have hobstacle := Camera.obstacle?_of_initialized hinitialized
  have hcamera : (s.camera.bind fun o => w.cameras[o.device.camera]?) = some c := by
    rw [ho, Option.bind_some, hc]
  cases op with
  | openCamera d key address => exact absurd rfl (hopen d key address)
  | start timing =>
    show Picks (Session.error? (w.start timing i).1) _
    -- In the right state only an injected fault can be in the way.
    by_cases hopened : s.state = .opened
    · have hquiet : c.capturing = false := by simpa [hopened] using hfollows
      rw [start_eq timing hs ho hc hopened]
      exact picks_ended rfl (by simp [hobstacle, hquiet]) rfl hopened hcamera
    · rw [start_of_ne timing hs hopened]
      exact Picks.found (.state (.start timing) hopened)
  | stop =>
    show Picks (Session.error? (w.stop i).1) _
    by_cases hcapturing : s.state = .capturing
    · rw [stop_eq hs ho hc hcapturing]
      exact picks_ended rfl (hobstacle _) rfl hcapturing hcamera
    · rw [stop_of_ne hs hcapturing]
      exact Picks.found (.state .stop hcapturing)
  | setExposure =>
    show Picks (Session.error? (w.setExposure i).1) _
    rw [setExposure_eq hs ho hc]
    exact picks_ended rfl (by simp [hobstacle, hmanual, hexposure]) rfl hstate hcamera
  | maxWidth =>
    show Picks (Session.error? (w.maxWidth i).1) _
    rw [maxWidth_eq hs ho hc]
    exact picks_ended rfl (hobstacle _) rfl hstate hcamera
  | maxHeight =>
    show Picks (Session.error? (w.maxHeight i).1) _
    rw [maxHeight_eq hs ho hc]
    exact picks_ended rfl (hobstacle _) rfl hstate hcamera

/-- Without a camera nothing but an opening fits. -/
theorem perform_picks_of_closed {s : Session} (op : Operation)
    (hopen : ∀ d key address, op ≠ .openCamera d key address) (hs : w.sessions[i]? = some s)
    (ho : s.camera = none) (hstate : s.state = .closed) :
    Picks (op.perform i w).1.error? (Operation.Hindered s w op) := by
  cases op with
  | openCamera d key address => exact absurd rfl (hopen d key address)
  | start timing =>
    have hfits : s.state ≠ .opened := by simp [hstate]
    show Picks (Session.error? (w.start timing i).1) _
    rw [start_of_ne timing hs hfits]
    exact Picks.found (.state (.start timing) hfits)
  | stop =>
    have hfits : s.state ≠ .capturing := by simp [hstate]
    show Picks (Session.error? (w.stop i).1) _
    rw [stop_of_ne hs hfits]
    exact Picks.found (.state .stop hfits)
  | setExposure =>
    show Picks (Session.error? (w.setExposure i).1) _
    rw [setExposure_of_camera_eq_none hs ho]
    exact Picks.found (.state .setExposure (not_not_intro hstate))
  | maxWidth =>
    show Picks (Session.error? (w.maxWidth i).1) _
    rw [maxWidth_of_camera_eq_none hs ho]
    exact Picks.found (.state .maxWidth (not_not_intro hstate))
  | maxHeight =>
    show Picks (Session.error? (w.maxHeight i).1) _
    rw [maxHeight_of_camera_eq_none hs ho]
    exact Picks.found (.state .maxHeight (not_not_intro hstate))

end Relay

/-! ### Sessions with cameras of their own -/

/-- The session at place `i` has the cameras `own` for itself, in a world with the cameras
    `profiles` whose hosts refuse no buffer. -/
structure World.Alone (i : Nat) (settings : Settings) (own : Nat → Bool)
    (profiles : List CameraProfile) (w : World σ) : Prop where
  custody : Custody w.standing
  attuned : AttunedOn (fun p => own p = true) w.standing
  owned : ∀ j p : Nat, w.standing.Holds j p → (own p = true ↔ j = i)
  present : ∃ t, w.standing.sessions[i]? = some t ∧ t.settings = settings
  profiles : w.relay.cameras.map Camera.profile = profiles
  willing : w.relay.Willing

namespace World

variable {i r : Nat} {settings : Settings} {own : Nat → Bool} {profiles : List CameraProfile}
  {w : World σ}

/-- **A step** leaves a session alone with its cameras. -/
theorem Alone.step (hw : w.Alone i settings own profiles) (h : Handler σ) {e : Event}
    (hown : ∀ j p, e.Reaches w.relay j p → (own p = true ↔ j = i))
    (haccepts : ∀ r fault, e ≠ .refuseBuffers r (some fault)) :
    (w.step h e).2.Alone i settings own profiles := by
  have hshift := step_shift h e hw.custody
  refine ⟨hw.custody.shift hshift, ?_, ?_, ?_, (profiles_step h e hw.custody).trans hw.profiles,
    willing_step h hw.custody hw.willing haccepts⟩
  · refine hw.attuned.shift hw.custody ?_ hshift
    intro j p k hp hreach hholds
    have hj : j = i := (hown j p hreach).mp hp
    have hk : k = i := (hw.owned k p hholds).mp hp
    rw [hj, hk]
  · rintro j p ⟨t', o, ht', ho, rfl⟩
    rcases hshift.camera_before ht' ho with ⟨t, ht, ho⟩ | ⟨hreach, -⟩
    · exact hw.owned j _ ⟨t, o, ht, ho, rfl⟩
    · exact hown j _ hreach
  · obtain ⟨t, ht, hsettings⟩ := hw.present
    obtain ⟨t', ht', -, hsame⟩ := hshift.session_after ht
    exact ⟨t', ht', hsame.trans hsettings⟩

/-- **A run** does, by induction on the schedule. -/
theorem Alone.run (hw : w.Alone i settings own profiles) (h : Handler σ) (events : List Event)
    (hown : ∀ j d key address p, Event.operate j (.openCamera d key address) ∈ events →
      w.relay.target? d = some p → (own p = true ↔ j = i))
    (haccepts : ∀ r fault, Event.refuseBuffers r (some fault) ∉ events) :
    (w.run h events).Alone i settings own profiles := by
  induction events generalizing w with
  | nil => exact hw
  | cons e rest ih =>
    have hstep : (w.step h e).2.Alone i settings own profiles := by
      refine hw.step h ?_ ?_
      · rintro j p ⟨-, d, key, address, rfl, htarget⟩
        exact hown j d key address p List.mem_cons_self htarget
      · rintro r fault rfl
        exact haccepts r fault List.mem_cons_self
    refine ih hstep ?_ fun r fault hmem => haccepts r fault (List.mem_cons_of_mem e hmem)
    intro j d key address p hmem htarget
    -- A descriptor is answered by the same camera in all runs.
    rw [target?_of_profiles (hstep.profiles.trans hw.profiles.symm)] at htarget
    exact hown j d key address p (List.mem_cons_of_mem e hmem) htarget

/-- At the start it has them to itself. -/
theorem alone_fresh (profiles : List CameraProfile) (runtimes : Nat)
    (sessions : List (Nat × Settings)) (host : σ) (now : Nat)
    (hi : sessions[i]? = some (r, settings)) :
    (fresh profiles runtimes sessions host now).Alone i settings own profiles where
  custody := custody_fresh profiles runtimes sessions host now
  attuned := by
    have hattuned := attuned_fresh profiles runtimes sessions host now
    exact ⟨fun j k p _ => hattuned.sole j k p, fun j s o c _ => hattuned.configured j s o c,
      fun j s o c _ => hattuned.following j s o c⟩
  owned := fun j p hholds => absurd hholds (not_holds_fresh profiles runtimes sessions host now j p)
  present := by simp [standing, Relay.standing, fresh, hi, Session.standing]
  profiles := by simp [fresh, Function.comp_def]
  willing := willing_fresh profiles runtimes sessions host now

/-- **Why an operation fails** in such a world. -/
theorem Alone.picks (hw : w.Alone i settings own profiles) (op : Operation)
    (hvalid : settings.validate = .ok ()) (hfree : i ∉ w.closing)
    (hown : ∀ j p, (Event.operate i op).Reaches w.relay j p → own p = true)
    (hoffers : ∀ p profile, own p = true → profiles[p]? = some profile → profile.useCases ≠ [])
    {s : Session} (hs : w.relay.sessions[i]? = some s) :
    Picks (op.perform i w.relay).1.error? (op.Hindered s w.relay) := by
  obtain ⟨hclosed, hfound⟩ := Relay.of_custody hw.custody hs
  have hs' : w.standing.sessions[i]? = some s.standing := Relay.session_standing hs
  have hsettings : s.settings = settings := by
    obtain ⟨t, ht, hsettings⟩ := hw.present
    obtain rfl := Option.some.inj (hs'.symm.trans ht)
    exact hsettings
  obtain ⟨⟨-, hpoints⟩, hexposure⟩ := Settings.bounds_of_validate (hsettings ▸ hvalid)
  by_cases hopen : ∃ d key address, op = .openCamera d key address
  · obtain ⟨d, key, address, rfl⟩ := hopen
    refine Relay.openSession_picks d key address hs ?_ ?_ (hw.willing.runtime _)
    · intro hstate p c htarget hc
      have hp : own p = true :=
        hown i p ⟨(List.getElem?_eq_some_iff.mp hs).1, d, key, address, rfl, htarget⟩
      constructor
      · -- Only the session itself could hold the camera, and it is closed.
        cases hcapturing : c.capturing with
        | false => rfl
        | true =>
          obtain ⟨j, hj⟩ := hw.custody.vacant p c.standing (Relay.camera_standing hc)
            (.inr hcapturing)
          exact absurd ((hw.owned j p hj).mp hp) (hw.custody.not_holds hs' hstate hj)
      · refine hoffers p c.profile hp ?_
        rw [← hw.profiles, List.getElem?_map, hc]
        rfl
    · exact ⟨_, FrameBuffer.ofCapacity_eq_ok.mpr ⟨hpoints, rfl⟩⟩
  · have hother : ∀ d key address, op ≠ .openCamera d key address := by
      rintro d key address rfl
      exact hopen ⟨d, key, address, rfl⟩
    cases ho : s.camera with
    | none => exact Relay.perform_picks_of_closed op hother hs ho (hclosed.mpr ho)
    | some o =>
      obtain ⟨c, hc⟩ := hfound o ho
      have ho' := Relay.held_standing ho
      have hc' : w.standing.cameras[o.device.camera]? = some c.standing := Relay.camera_standing hc
      have hmine : own o.device.camera = true :=
        (hw.owned i _ ⟨s.standing, o.standing, hs', ho', rfl⟩).mpr rfl
      obtain ⟨hinitialized, -, hmanual⟩ := hw.attuned.configured i _ o.standing _ hmine hs' ho' hc'
      obtain ⟨-, hfollows⟩ := hw.attuned.following i _ o.standing _ hmine hfree hs' ho' hc'
      have hstate : s.state ≠ .closed := fun hstate => by
        rw [hclosed.mp hstate] at ho
        exact absurd ho (by simp)
      exact Relay.perform_picks_of_held op hother hs ho hc hstate hinitialized hmanual hfollows
        hexposure

end World

/-- **Operations fail only if something stands in their way.**  A session has its cameras for
    itself, each of them offers use cases, and hosts refuse no buffer.  Then after every schedule,
    whatever has failed in its course, an operation gives an error only if the state does not fit,
    nothing answers to the request, or that very failure is injected right now into a driver
    operation that is needed; and if there is such a reason, the operation does not succeed. -/
theorem operations_fail_if_hindered (profiles : List CameraProfile) (runtimes : Nat)
    (sessions : List (Nat × Settings)) (host : σ) (now : Nat) (h : Handler σ) (events : List Event)
    (i r : Nat) (settings : Settings) (own : Nat → Bool) (op : Operation)
    (hi : sessions[i]? = some (r, settings)) (hvalid : settings.validate = .ok ())
    (hown : ∀ j d key address p,
      Event.operate j (.openCamera d key address) ∈ events ++ [.operate i op] →
      (World.fresh profiles runtimes sessions host now).relay.target? d = some p →
        (own p = true ↔ j = i))
    (hoffers : ∀ p profile, own p = true → profiles[p]? = some profile → profile.useCases ≠ [])
    (haccepts : ∀ r fault, Event.refuseBuffers r (some fault) ∉ events) :
    let w := (World.fresh profiles runtimes sessions host now).run h events
    i ∉ w.closing → ∃ s result, w.relay.sessions[i]? = some s ∧
      (w.step h (.operate i op)).1 = .answered result ∧
      Picks result.error? (op.Hindered s w.relay) := by
  intro w hfree
  have hstart : (World.fresh profiles runtimes sessions host now).Alone i settings own profiles :=
    World.alone_fresh profiles runtimes sessions host now hi
  -- Alone with its cameras, the session is refused for no other reasons than its own.
  have hw : w.Alone i settings own profiles := by
    refine hstart.run h events ?_ haccepts
    intro j d key address p hmem
    exact hown j d key address p (List.mem_append_left _ hmem)
  obtain ⟨t, ht, -⟩ := hw.present
  simp only [World.standing, Relay.standing, List.getElem?_map, Option.map_eq_some_iff] at ht
  obtain ⟨s, hs, rfl⟩ := ht
  have hready : w.ready i = true := by
    simp [World.ready, hfree, (List.getElem?_eq_some_iff.mp hs).1]
  refine ⟨s, (op.perform i w.relay).1, hs, ?_, hw.picks op hvalid hfree ?_ hoffers hs⟩
  · unfold World.step
    dsimp only
    rw [if_pos hready]
  · -- The operation itself, if it opens, opens a camera that belongs to the session.
    rintro j p ⟨-, d, key, address, he, htarget⟩
    obtain ⟨rfl, rfl⟩ := Event.operate.inj he
    rw [World.target?_of_profiles (hw.profiles.trans hstart.profiles.symm)] at htarget
    exact (hown i d key address p (List.mem_append_right _ (List.mem_singleton.mpr rfl))
      htarget).mpr rfl

/-- The driver has refused to stop a camera, which was closed and opened again.  The refusal is
    still there, but a start does not need that driver operation, and fails as another one does. -/
theorem operations_fail_if_hindered_reopened :
    let settings : Settings := { maxPoints := 2 }
    let start : World Unit := World.fresh [{ serial := "A", fd := 3 }, { serial := "B", fd := 4 }] 1
      [(0, settings), (0, settings)] () 0
    let events : List Event :=
      [.operate 0 (.openCamera ⟨3⟩ 5 64), .operate 1 (.openCamera ⟨4⟩ 5 96),
        .operate 0 (.start false), .fail 0 .stopCapture .deviceIsBusy, .operate 0 .stop,
        .beginClose 0, .endClose 0, .operate 0 (.openCamera ⟨3⟩ 5 64),
        .fail 0 .startCapture .runtimeError]
    let w := start.run .accepting events
    (∃ s, w.relay.sessions[0]? = some s ∧ s.state = .opened ∧
      Operation.Hindered s w.relay (.start true) (.device "start capture" .runtimeError) ∧
      ∀ e, ¬Operation.Hindered s w.relay .maxWidth e) ∧
    (w.step .accepting (.operate 0 (.start true))).1 =
      .answered (.unit (.error (.device "start capture" .runtimeError))) := by
  intro settings start events w
  have hown (op : Operation) (hop : ∀ d key address, op ≠ .openCamera d key address) :
      ∀ j d key address p,
        Event.operate j (.openCamera d key address) ∈ events ++ [.operate 0 op] →
        start.relay.target? d = some p → (decide (p = 0) = true ↔ j = 0) := by
    intro j d key address p hmem htarget
    have hnot := (hop d key address).symm
    have hopens : j = 0 ∧ d = ⟨3⟩ ∨ j = 1 ∧ d = ⟨4⟩ := by
      have hopens : j = 0 ∧ d = ⟨3⟩ ∧ key = 5 ∧ address = 64 ∨
          j = 1 ∧ d = ⟨4⟩ ∧ key = 5 ∧ address = 96 := by
        simpa [events, hnot, or_comm] using hmem
      exact hopens.imp (fun hA => ⟨hA.1, hA.2.1⟩) fun hB => ⟨hB.1, hB.2.1⟩
    have htargets : start.relay.target? ⟨3⟩ = some 0 ∧ start.relay.target? ⟨4⟩ = some 1 := by
      decide
    rcases hopens with ⟨rfl, rfl⟩ | ⟨rfl, rfl⟩
    · obtain rfl := Option.some.inj (htargets.1.symm.trans htarget)
      decide
    · obtain rfl := Option.some.inj (htargets.2.symm.trans htarget)
      decide
  have hoffers : ∀ p profile, decide (p = 0) = true →
      [({ serial := "A", fd := 3 } : CameraProfile), { serial := "B", fd := 4 }][p]? =
        some profile → profile.useCases ≠ [] := by
    intro p profile hp hprofile
    obtain rfl := of_decide_eq_true hp
    obtain rfl := Option.some.inj hprofile
    decide
  have haccepts : ∀ r fault, Event.refuseBuffers r (some fault) ∉ events := by simp [events]
  have hvalid : settings.validate = .ok () := by decide
  have hfree : 0 ∉ w.closing := by decide
  have hanswer : (w.step .accepting (.operate 0 (.start true))).1 =
      .answered (.unit (.error (.device "start capture" .runtimeError))) := by decide
  have hsize : (w.step .accepting (.operate 0 .maxWidth)).1 = .answered (.size (.ok 224)) := by
    decide
  have hw : World.run .accepting events start = w := rfl
  have hstarted := operations_fail_if_hindered _ 1 _ () 0 .accepting events 0 0 settings
    (fun p => p = 0) (.start true) rfl hvalid (hown _ (by simp)) hoffers haccepts
  have hsized := operations_fail_if_hindered _ 1 _ () 0 .accepting events 0 0 settings
    (fun p => p = 0) .maxWidth rfl hvalid (hown _ (by simp)) hoffers haccepts
  rw [show World.fresh _ 1 _ () 0 = start from rfl, hw] at hstarted hsized
  obtain ⟨s, result, hs, hresult, hreasons⟩ := hstarted hfree
  obtain ⟨t, result', ht, hresult', hreasons'⟩ := hsized hfree
  obtain rfl : s = t := Option.some.inj (hs.symm.trans ht)
  obtain rfl := Response.answered.inj (hresult.symm.trans hanswer)
  obtain rfl := Response.answered.inj (hresult'.symm.trans hsize)
  have hstate : s.state = .opened := by
    rw [← Relay.session_eq hs]
    decide
  exact ⟨⟨s, hs, hstate, hreasons.1 _ rfl, hreasons'.2 rfl⟩, hanswer⟩

end DepthRelay
