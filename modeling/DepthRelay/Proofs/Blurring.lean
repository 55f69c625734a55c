import DepthRelay.Proofs.Coherence

namespace DepthRelay

/-!
# What nobody can see

A camera that is not prepared remembers the choices of its last device object, and a log that is
off the samples of its last run.  No call, no frame and no operation looks at either, which is shown
by blurring both.

* `Camera.blurred`, `TimingLog.blurred` — without what cannot be seen; `World.blurred` is a world in
  which everything is blurred.
* `Live.emit_blurred`, `Live.dispatch_blurred`, `Live.wake_blurred` — frames take the same way in a
  blurred world.
* `Relay.perform_blurred` — operations are answered alike.
* `World.run_of_blurred` — worlds that differ in nothing but what is blurred answer a schedule
  alike, and come to differ in nothing else.
-/

/-! ### Cameras -/

namespace Camera

/-- The camera without the choices that only a prepared camera shows. -/
def blurred (c : Camera Nat) : Camera Nat := if c.initialized then c else c.blank

variable (c : Camera Nat)

theorem blurred_of_initialized {c : Camera Nat} (h : c.initialized = true) : c.blurred = c :=
  if_pos h

theorem blurred_of_not_initialized {c : Camera Nat} (h : c.initialized = false) :
    c.blurred = c.blank :=
  if_neg (by simp [h])

/-- Everything else is seen. -/
theorem blurred_cases : c.blurred = c ∧ c.initialized = true ∨
    c.blurred = c.blank ∧ c.initialized = false := by
  cases h : c.initialized with
  | true => exact .inl ⟨blurred_of_initialized h, rfl⟩
  | false => exact .inr ⟨blurred_of_not_initialized h, rfl⟩

/-- Whoever does not look at what is blurred sees the camera as it is. -/
theorem congr_blurred {β : Sort*} (f : Camera Nat → β) (hblank : f c.blank = f c) :
    f c.blurred = f c := by
  rcases c.blurred_cases with ⟨h, -⟩ | ⟨h, -⟩
  · rw [h]
  · rw [h, hblank]

@[simp] theorem profile_blurred : c.blurred.profile = c.profile :=
  c.congr_blurred (·.profile) rfl

@[simp] theorem faults_blurred : c.blurred.faults = c.faults :=
  c.congr_blurred (·.faults) rfl

@[simp] theorem listener_blurred : c.blurred.listener = c.listener :=
  c.congr_blurred (·.listener) rfl

@[simp] theorem initialized_blurred : c.blurred.initialized = c.initialized :=
  c.congr_blurred (·.initialized) rfl

@[simp] theorem capturing_blurred : c.blurred.capturing = c.capturing :=
  c.congr_blurred (·.capturing) rfl

@[simp] theorem exposureTime_blurred : c.blurred.exposureTime = c.exposureTime :=
  c.congr_blurred (·.exposureTime) rfl

@[simp] theorem emitted_blurred : c.blurred.emitted = c.emitted :=
  c.congr_blurred (·.emitted) rfl

@[simp] theorem fault?_blurred (op : DriverOp) : c.blurred.fault? op = c.fault? op := by
  simp [fault?]

@[simp] theorem obstacle?_blurred (op : DriverOp) : c.blurred.obstacle? op = c.obstacle? op := by
  simp [obstacle?]

@[simp] theorem blurred_blurred : c.blurred.blurred = c.blurred := by
  rcases c.blurred_cases with ⟨h, hinit⟩ | ⟨h, hinit⟩
  · rw [h, h]
  · rw [h]
    exact blurred_of_not_initialized hinit

/-- A change that neither looks at what is blurred nor prepares or releases the camera. -/
theorem blurred_of_comm {f : Camera Nat → Camera Nat}
    (hinitialized : ∀ c, (f c).initialized = c.initialized)
    (hblank : ∀ c, (f c).blank = f c.blank) :
    (f c).blurred = f c.blurred := by
  rcases c.blurred_cases with ⟨h, hinit⟩ | ⟨h, hinit⟩
  · -- There is nothing to blur, neither before nor after the change.
    rw [h, blurred_of_initialized ((hinitialized c).trans hinit)]
  · rw [h, blurred_of_not_initialized ((hinitialized c).trans hinit), hblank]

/-- Of a camera that has been released the choices cannot be seen. -/
theorem blurred_release : c.release.blurred = c.release.blank := rfl

@[simp] theorem blank_blurred : c.blurred.blank = c.blank :=
  c.congr_blurred (·.blank) rfl

/-- So after a release it does not matter whether the camera was blurred before. -/
theorem release_blurred : c.blurred.release.blurred = c.release.blurred := by
  rw [blurred_release, blurred_release]
  show c.blurred.blank.release = c.blank.release
  rw [blank_blurred]

/-- A call that gets past the shared conditions finds the camera prepared, so that there is nothing
    to blur; any other call is refused for the same reason. -/
theorem refusal_blurred (op : DriverOp) (own : Camera Nat → Option Status) :
    (c.blurred.obstacle? op).or (own c.blurred) = (c.obstacle? op).or (own c) ∧
      ((c.obstacle? op).or (own c) = none → c.blurred = c) := by
  rw [obstacle?_blurred]
  cases hobstacle : c.obstacle? op with
  | some e => simp
  | none =>
    -- A camera that is not prepared would have been an obstacle.
    have hinit : c.initialized = true := by
      by_cases hinit : c.initialized = true
      · exact hinit
      · simp [obstacle?, hinit] at hobstacle
    rw [blurred_of_initialized hinit]
    exact ⟨rfl, fun _ => rfl⟩

theorem blurred_count : ({ c with emitted := c.emitted + 1 } : Camera Nat).blurred =
    { c.blurred with emitted := c.blurred.emitted + 1 } :=
  blurred_of_comm c (f := fun c => { c with emitted := c.emitted + 1 }) (fun _ => rfl) fun _ => rfl

/-- A frame finds the same listener. -/
theorem offer_blurred (now : Nat) (points : List Point) :
    c.blurred.offer now points = ((c.offer now points).1, (c.offer now points).2.blurred) := by
  cases hcapturing : c.capturing with
  | false => simp [offer, hcapturing]
  | true =>
    cases hlistener : c.listener with
    | none => simp [offer, hcapturing, hlistener]
    | some l =>
      have hoffer (d : Camera Nat) (hd : d.capturing = true) (hl : d.listener = some l) :
          d.offer now points =
            (some (l, ⟨d.emitted, now / 1000, d.profile.width, d.profile.height, points⟩),
              { d with emitted := d.emitted + 1 }) := by
        simp [offer, hd, hl]
      rw [hoffer c hcapturing hlistener, hoffer c.blurred (by simp [hcapturing])
        (by simp [hlistener])]
      refine Prod.ext ?_ (blurred_count c).symm
      simp

end Camera

/-! ### Logs and sessions -/

namespace TimingLog

/-- The log without samples that were left in it when it was switched off. -/
def blurred (l : TimingLog) : TimingLog := if l.enabled then l else {}

variable (l : TimingLog)

@[simp] theorem enabled_blurred : l.blurred.enabled = l.enabled := by
  unfold blurred
  by_cases h : l.enabled <;> simp [h]

@[simp] theorem blurred_blurred : l.blurred.blurred = l.blurred := by
  unfold blurred
  by_cases h : l.enabled <;> simp [h]

@[simp] theorem blurred_setEnabled (on : Bool) :
    (l.blurred.setEnabled on).blurred = (l.setEnabled on).blurred := by
  cases on <;> simp [setEnabled, blurred]

@[simp] theorem begin?_blurred (now : Moment) : l.blurred.begin? now = l.begin? now := by
  simp [begin?]

@[simp] theorem harvest_blurred : l.blurred.harvest = l.harvest := by
  unfold harvest blurred
  by_cases h : l.enabled <;> simp [h]

theorem blurred_harvested : l.harvested.blurred = {} := rfl

theorem blurred_record (x : TimingSample) : (l.record x).blurred = l.blurred.record x := by
  unfold record blurred
  by_cases h : l.enabled <;> simp [h]

end TimingLog

namespace Session

/-- The session with its log blurred. -/
def blurred (s : Session) : Session := { s with timing := s.timing.blurred }

@[simp] theorem blurred_blurred (s : Session) : s.blurred.blurred = s.blurred := by
  simp [blurred]

end Session

/-! ### Relays -/

namespace Relay

variable (w : Relay)

/-- The relay with all cameras and sessions blurred. -/
def blurred (w : Relay) : Relay :=
  { w with cameras := w.cameras.map Camera.blurred, sessions := w.sessions.map Session.blurred }

@[simp] theorem blurred_blurred : w.blurred.blurred = w.blurred := by
  simp [blurred, Function.comp_def]

@[simp] theorem attachments_blurred : w.blurred.attachments = w.attachments := rfl

@[simp] theorem runtimes_blurred : w.blurred.runtimes = w.runtimes := rfl

@[simp] theorem now_blurred : w.blurred.now = w.now := rfl

@[simp] theorem getElem?_cameras_blurred (p : Nat) :
    w.blurred.cameras[p]? = (w.cameras[p]?).map Camera.blurred :=
  List.getElem?_map

@[simp] theorem channel_blurred (k : Nat) : w.blurred.channel k = w.channel k := rfl

@[simp] theorem runtime_blurred (r : Nat) : w.blurred.runtime r = w.runtime r := rfl

@[simp] theorem session_blurred (i : Nat) : w.blurred.session i = (w.session i).blurred := by
  unfold session blurred
  rw [List.getD_eq_getElem?_getD, List.getD_eq_getElem?_getD, List.getElem?_map]
  cases w.sessions[i]? <;> rfl

/-- A change of a session that blurring does not see through. -/
theorem blurred_modifySession (i : Nat) {f : Session → Session}
    (h : ∀ s, (f s).blurred = f s.blurred) :
    (w.modifySession i f).blurred = w.blurred.modifySession i f := by
  unfold blurred modifySession
  rw [map_modify_of_comm h]

/-- The same for a camera. -/
theorem blurred_modifyCamera (p : Nat) {f : Camera Nat → Camera Nat}
    (h : ∀ c, (f c).blurred = f c.blurred) :
    (w.modifyCamera p f).blurred = w.blurred.modifyCamera p f := by
  unfold blurred modifyCamera
  rw [map_modify_of_comm h]

theorem blurred_modifyChannel (k : Nat) (f : Channel → Channel) :
    (w.modifyChannel k f).blurred = w.blurred.modifyChannel k f := rfl

theorem blurred_modifyRuntime (r : Nat) (f : Runtime → Runtime) :
    (w.modifyRuntime r f).blurred = w.blurred.modifyRuntime r f := rfl

theorem blurred_count (k : Nat) (f : Stats → Stats) :
    (w.count k f).blurred = w.blurred.count k f :=
  blurred_modifySession w _ fun _ => rfl

theorem blurred_exitThread (t : ThreadId) : (w.exitThread t).blurred = w.blurred.exitThread t := rfl

theorem blurred_exitSource (source : Option Source) :
    (w.exitSource source).blurred = w.blurred.exitSource source := by
  cases source <;> rfl

theorem blurred_update (i : Nat) (s : Session) (p : Nat) (c : Camera Nat) :
    (w.update i s p c).blurred = w.blurred.update i s.blurred p c.blurred := by
  unfold blurred update
  simp only [List.map_set]

/-! ### The stages of a delivery -/

/-- A camera that is not prepared hands nothing out, blurred or not. -/
theorem offer_blurred (p : Nat) (points : List Point) :
    w.blurred.offer p points = ((w.offer p points).1, (w.offer p points).2.blurred) := by
  unfold offer
  rw [getElem?_cameras_blurred]
  cases hc : w.cameras[p]? with
  | none => rfl
  | some c =>
    simp only [Option.map_some]
    rw [now_blurred, Camera.offer_blurred]
    simp only [blurred, List.map_set]

/-- A thread attaches alike, and takes a ticket if the log is on, which is then not blurred. -/
theorem begin_blurred (t : ThreadId) (k : Nat) :
    w.blurred.begin t k = ((w.begin t k).1, (w.begin t k).2.blurred) := by
  unfold begin
  dsimp only
  rw [channel_blurred, session_blurred, attachments_blurred, runtimes_blurred]
  -- Threads attach to hosts, and nothing of a host is blurred.
  generalize w.attachments.attach t (w.channel k).binding w.runtimes = result
  obtain ⟨handle, as, runtimes⟩ := result
  cases handle with
  | none =>
    dsimp only
    rw [blurred_count]
    rfl
  | some handle =>
    dsimp only [Session.blurred]
    rw [TimingLog.begin?_blurred]
    rfl

/-- A frame is published alike. -/
theorem publish_blurred (k : Nat) (points : List Point) :
    w.blurred.publish k points = ((w.publish k points).1, (w.publish k points).2.blurred) := by
  unfold publish
  rw [channel_blurred]
  cases (w.channel k).publish points with
  | error e =>
    dsimp only
    rw [blurred_count]
  | ok r =>
    dsimp only
    rw [blurred_count, blurred_modifyChannel]

/-- A handler is entered alike in the blurred relay. -/
theorem enter_blurred (k : Nat) (d : Delivery) :
    w.blurred.enter k d = ((w.enter k d).1, (w.enter k d).2.blurred) := by
  unfold enter
  dsimp only
  rw [channel_blurred, runtime_blurred]
  cases (w.runtime (w.channel k).binding.runtime).enter d.view <;> rfl

theorem leave_blurred (t : Ticket) (reply : Reply) :
    w.blurred.leave t reply = (w.leave t reply).blurred := rfl

/-- A sample that is taken goes to a log that is on. -/
theorem time_blurred (t : Ticket) : w.blurred.time t = (w.time t).blurred := by
  unfold time
  cases t.started with
  | none => rfl
  | some start =>
    dsimp only
    rw [blurred_modifySession]
    · rfl
    · intro s
      simp only [Session.blurred, TimingLog.blurred_record]

/-- The end of a call is noted alike. -/
theorem conclude_blurred (t : Ticket) (call : Except HostError Unit) :
    w.blurred.conclude t call = (w.conclude t call).blurred := by
  unfold conclude
  dsimp only
  rw [channel_blurred, runtime_blurred]
  cases ((w.runtime (w.channel t.channel).binding.runtime).conclude call t.handle).1 with
  | delivered =>
    dsimp only
    rw [← blurred_modifyRuntime, ← blurred_count, time_blurred]
  | failed text =>
    dsimp only
    rw [← blurred_modifyRuntime, ← blurred_count]

/-- A frame waits, or is dropped, alike. -/
theorem submit_blurred (k : Nat) (q : Handoff) (points : List Point) :
    w.blurred.submit k q points = (w.submit k q points).blurred := by
  unfold submit
  generalize q.submit points = result
  obtain ⟨status, q'⟩ := result
  cases status with
  | queued => rfl
  | dropped =>
    dsimp only
    rw [blurred_count, blurred_modifyChannel]

theorem takeQueued?_blurred (k : Nat) :
    w.blurred.takeQueued? k = (w.takeQueued? k).map (Prod.map id blurred) := by
  unfold takeQueued?
  rw [channel_blurred, Option.map_map]
  rfl

/-- A source is set, or taken away, in the blurred relay as in the relay. -/
theorem setSource_blurred (i : Nat) (source : Option Source) :
    w.blurred.setSource i source = (w.setSource i source).blurred := by
  unfold setSource
  rw [blurred_modifySession]
  intro s
  rfl

theorem endSource_blurred (i run : Nat) :
    w.blurred.endSource i run = (w.endSource i run).blurred := by
  unfold endSource
  rw [setSource_blurred, blurred_exitThread]

/-- A frame source is lost alike. -/
theorem crashSource_blurred (run : Nat) :
    w.blurred.crashSource run = (w.crashSource run).blurred := by
  unfold crashSource
  -- The source is found in the same session.
  have hplace : w.blurred.sessions.findIdx? (fun s => s.source?.any (·.run == run)) =
      w.sessions.findIdx? fun s => s.source?.any (·.run == run) := by
    unfold blurred
    rw [List.findIdx?_map]
    rfl
  rw [hplace]
  cases w.sessions.findIdx? fun s => s.source?.any (·.run == run) with
  | none => rfl
  | some i => exact endSource_blurred w i run

/-- A frame source wakes up alike: it looks at the profile of its camera only. -/
theorem wakeSource_blurred (i : Nat) (source : Source) :
    w.blurred.wakeSource i source =
      ((w.wakeSource i source).1, (w.wakeSource i source).2.blurred) := by
  have hnow : ({ w.blurred with now := max w.now source.due } : Relay) =
      ({ w with now := max w.now source.due } : Relay).blurred := rfl
  unfold wakeSource
  dsimp only
  rw [now_blurred, hnow, getElem?_cameras_blurred]
  generalize ({ w with now := max w.now source.due } : Relay) = v
  rw [session_blurred]
  dsimp only [Session.blurred]
  cases source.wake with
  | none => exact congrArg _ (endSource_blurred v i source.run)
  | some next =>
    cases w.cameras[((v.session i).camera.map (·.device.camera)).getD 0]? with
    | none => exact congrArg _ (endSource_blurred v i source.run)
    | some c =>
      -- The frame is made from the profile, which is not blurred.
      simp only [Option.map_some, Camera.profile_blurred]
      cases c.profile.syntheticPoints next.1 with
      | ok points => exact congrArg _ (setSource_blurred v i (some next.2))
      | error e => exact congrArg _ (endSource_blurred v i next.2.run)

end Relay

/-! ### Operations -/

namespace Relay

variable {w : Relay} {i : Nat} {s : Session} {o : OpenCamera} {c : Camera Nat}

theorem getElem?_sessions_blurred (hs : w.sessions[i]? = some s) :
    w.blurred.sessions[i]? = some s.blurred := by
  unfold blurred
  rw [List.getElem?_map, hs]
  rfl

theorem found_blurred (hc : w.cameras[o.device.camera]? = some c) :
    w.blurred.cameras[o.device.camera]? = some c.blurred := by
  rw [getElem?_cameras_blurred, hc]
  rfl

/-- Outcomes with the same answer, after which the relays look alike. -/
structure Alike {α : Type} (r r' : α × Relay) : Prop where
  answer : r.1 = r'.1
  relay : r.2.blurred = r'.2.blurred

/-- What is made of two results is as alike as they are. -/
theorem Alike.map {α β : Type} {r r' : α × Relay} (h : Alike r r') (f : α → β) :
    Alike (r.map f id) (r'.map f id) where
  answer := congrArg f h.answer
  relay := h.relay

/-- Calls that are refused alike end alike, if they do so when they are not refused. -/
theorem ended_alike {α : Type} {operation : String} {refusal refusal' : Option Status} {a a' : α}
    {after after' before before' : Relay} (hrefusal : refusal' = refusal) (ha : a' = a)
    (hbefore : before'.blurred = before.blurred)
    (hafter : refusal = none → after'.blurred = after.blurred) :
    Alike (ended operation refusal' a' after' before')
      (ended operation refusal a after before) := by
  subst hrefusal ha
  cases refusal' with
  | some e => exact ⟨rfl, hbefore⟩
  | none => exact ⟨rfl, hafter rfl⟩

/-- The same camera, and sessions that look alike. -/
theorem update_alike {s' : Session} {c' : Camera Nat} {p : Nat} (hs : s'.blurred = s.blurred)
    (hc : c'.blurred = c.blurred) :
    (w.blurred.update i s' p c').blurred = (w.update i s p c).blurred := by
  rw [blurred_update, blurred_update, blurred_blurred, hs, hc]

/-- Frame sources of runs that begin now are the same. -/
theorem sourceOfRun_blurred (w : Relay) (c : Camera Nat) (o : OpenCamera) :
    w.blurred.sourceOfRun c o = w.sourceOfRun c o := rfl

/-- **A start** begins with an empty log, whatever the log has remembered. -/
theorem start_blurred (timing : Bool) (hs : w.sessions[i]? = some s) (ho : s.camera = some o)
    (hc : w.cameras[o.device.camera]? = some c) (hstate : s.state = .opened) :
    Alike (w.blurred.start timing i) (w.start timing i) := by
  obtain ⟨hrefusal, hsame⟩ := c.refusal_blurred .startCapture
    fun c => if c.capturing then some .logicError else none
  rw [start_eq timing hs ho hc hstate,
    start_eq timing (getElem?_sessions_blurred hs) ho (found_blurred hc) hstate]
  refine ended_alike hrefusal rfl ?_ ?_
  · -- If the call is refused, the log has been switched on and off again.
    refine update_alike ?_ c.blurred_blurred
    simp only [Session.blurred, TimingLog.setEnabled]
    cases timing <;> simp [TimingLog.blurred]
  · intro hnone
    -- If it is not, the camera is prepared, and there was nothing to blur but the log.
    rw [hsame hnone, sourceOfRun_blurred]
    refine congrArg (fun v : Relay => { v with nextRun := w.nextRun + 1 }) (update_alike ?_ rfl)
    simp [Session.blurred]

/-- **A stop** returns the samples of a log that is on. -/
theorem stop_blurred (hs : w.sessions[i]? = some s) (ho : s.camera = some o)
    (hc : w.cameras[o.device.camera]? = some c) (hstate : s.state = .capturing) :
    Alike (w.blurred.stop i) (w.stop i) := by
  obtain ⟨hrefusal, hsame⟩ := c.refusal_blurred .stopCapture fun _ => none
  rw [Option.or_none, Option.or_none] at hrefusal
  rw [Option.or_none] at hsame
  rw [stop_eq hs ho hc hstate,
    stop_eq (getElem?_sessions_blurred hs) ho (found_blurred hc) hstate]
  refine ended_alike hrefusal s.timing.harvest_blurred w.blurred_blurred ?_
  intro hnone
  rw [hsame hnone, blurred_exitSource, blurred_exitSource]
  refine congrArg (exitSource o.device.source) (update_alike ?_ rfl)
  simp [Session.blurred, TimingLog.blurred_harvested]

/-- **Setting the exposure time** needs a prepared camera. -/
theorem setExposure_blurred (hs : w.sessions[i]? = some s) (ho : s.camera = some o)
    (hc : w.cameras[o.device.camera]? = some c) :
    Alike (w.blurred.setExposure i) (w.setExposure i) := by
  obtain ⟨hrefusal, hsame⟩ := c.refusal_blurred .setExposureTime fun c =>
    (if c.exposureMode == .manual then none else some .logicError : Option Status).or
      (if s.settings.exposureTime ≠ 0 && s.settings.exposureTime ≤ Sensor.maxExposureTime
        then none else some .outOfBounds)
  rw [setExposure_eq hs ho hc,
    setExposure_eq (getElem?_sessions_blurred hs) ho (found_blurred hc)]
  refine ended_alike hrefusal rfl w.blurred_blurred ?_
  intro hnone
  rw [hsame hnone]
  exact update_alike s.blurred_blurred rfl

/-- The blurred relay knows the width of the camera. -/
theorem maxWidth_blurred (hs : w.sessions[i]? = some s) (ho : s.camera = some o)
    (hc : w.cameras[o.device.camera]? = some c) :
    Alike (w.blurred.maxWidth i) (w.maxWidth i) := by
  rw [maxWidth_eq hs ho hc, maxWidth_eq (getElem?_sessions_blurred hs) ho (found_blurred hc)]
  exact ended_alike (c.obstacle?_blurred _) (congrArg _ c.profile_blurred) w.blurred_blurred
    fun _ => w.blurred_blurred

/-- It knows the height, too. -/
theorem maxHeight_blurred (hs : w.sessions[i]? = some s) (ho : s.camera = some o)
    (hc : w.cameras[o.device.camera]? = some c) :
    Alike (w.blurred.maxHeight i) (w.maxHeight i) := by
  rw [maxHeight_eq hs ho hc, maxHeight_eq (getElem?_sessions_blurred hs) ho (found_blurred hc)]
  exact ended_alike (c.obstacle?_blurred _) (congrArg _ c.profile_blurred) w.blurred_blurred
    fun _ => w.blurred_blurred

/-! ### Opening -/

theorem connected_blurred (w : Relay) (d : Descriptor) :
    connected w.blurred.cameras d = connected w.cameras d := by
  simp [connected, blurred, List.filter_map, Function.comp_def]

theorem place?_blurred (w : Relay) (serial : String) :
    place? w.blurred.cameras serial = place? w.cameras serial := by
  simp [place?, blurred, List.findIdx?_map, Function.comp_def]

theorem refusal?_blurred (rate : FrameRate) (buffer : Except RelayError FrameBuffer)
    (c : Camera Nat) : Session.refusal? rate buffer c.blurred = Session.refusal? rate buffer c := by
  simp [Session.refusal?, Session.stage?]

/-- A prepared camera has been given all that is blurred. -/
theorem prepared_blurred (rate : FrameRate) (k : Nat) (c : Camera Nat) :
    Session.prepared rate k c.blurred = Session.prepared rate k c :=
  c.congr_blurred (Session.prepared rate k) rfl

/-- Cameras that have been given back look alike. -/
theorem undone_alike (w : Relay) (p : Nat) {c' d' : Camera Nat}
    (hc' : c'.release.blank = c.release.blank)
    (hd' : d'.release.blank = c.blurred.release.blank) :
    ({ w.blurred with cameras := w.blurred.cameras.set p d'.release } : Relay).blurred =
      ({ w with cameras := w.cameras.set p c'.release } : Relay).blurred := by
  have halike : d'.release.blurred = c'.release.blurred := by
    rw [Camera.blurred_release, Camera.blurred_release, hd', hc']
    exact c.release_blurred
  unfold blurred
  simp only [List.map_set, halike, List.map_map, Function.comp_def, Camera.blurred_blurred,
    Session.blurred_blurred]

theorem newChannel_blurred (i : Nat) (b : FrameBuffer) (w : Relay) :
    w.blurred.newChannel i b = w.newChannel i b := by
  unfold newChannel
  rw [session_blurred]
  rfl

/-- **An opening** prepares the camera anew, and does not look at the log. -/
theorem openCamera_blurred (p : Nat) (c : Camera Nat) (rate : FrameRate) (address i : Nat)
    (w : Relay) :
    Alike (w.blurred.openCamera p c.blurred rate address i) (w.openCamera p c rate address i) := by
  have hsession : w.blurred.session i = (w.session i).blurred := session_blurred w i
  -- The preparations start from different cameras, and end with the same refusal.
  have hc := Session.configure_ends rate w.channels.length
    (FrameBuffer.ofCapacity address (w.session i).settings.maxPoints.toNat) c
  have hd := Session.configure_ends rate w.channels.length
    (FrameBuffer.ofCapacity address (w.session i).settings.maxPoints.toNat) c.blurred
  rw [refusal?_blurred] at hd
  unfold openCamera
  rw [hsession, Camera.fault?_blurred]
  cases c.fault? .createCamera with
  | some e => exact ⟨rfl, w.blurred_blurred⟩
  | none =>
    dsimp only [Session.blurred]
    rw [show w.blurred.channels = w.channels from rfl]
    unfold Session.Ends at hc hd
    cases hrefusal : Session.refusal? rate
        (FrameBuffer.ofCapacity address (w.session i).settings.maxPoints.toNat) c with
    | some e =>
      rw [hrefusal] at hc hd
      obtain ⟨c', hc', hblank⟩ := hc
      obtain ⟨d', hd', hblank'⟩ := hd
      rw [hc', hd']
      exact ⟨rfl, undone_alike w p hblank hblank'⟩
    | none =>
      rw [hrefusal] at hc hd
      obtain ⟨b, c', hc', hblank, hb, rfl⟩ := hc
      obtain ⟨b', d', hd', hblank', hb', rfl⟩ := hd
      -- Both have made the same buffer, which is exposed to the same host.
      obtain rfl : b = b' := Except.ok.inj (hb.symm.trans hb')
      rw [hc', hd']
      dsimp only
      rw [runtime_blurred]
      cases (w.runtime (w.session i).runtime).expose b.view with
      | error e => exact ⟨rfl, undone_alike w p hblank hblank'⟩
      | ok r =>
        refine ⟨rfl, ?_⟩
        rw [prepared_blurred, newChannel_blurred]
        unfold blurred
        simp only [List.map_set, List.map_map, Function.comp_def, Camera.blurred_blurred,
          Session.blurred_blurred]
        simp only [Session.blurred, TimingLog.blurred_blurred]
        rfl

/-- **An opening**, refused or not. -/
theorem openSession_blurred (d : Descriptor) (key : UInt32) (address i : Nat) (w : Relay) :
    Alike (w.blurred.openSession d key address i) (w.openSession d key address i) := by
  unfold openSession
  rw [session_blurred, connected_blurred]
  show Alike (if (w.session i).state = .closed then _ else _ : Except RelayError Unit × Relay) _
  by_cases hstate : (w.session i).state = .closed
  · rw [if_pos hstate, if_pos hstate]
    cases FrameRate.ofKey? key with
    | none => exact ⟨rfl, w.blurred_blurred⟩
    | some rate =>
      dsimp only
      cases connected w.cameras d with
      | nil => exact ⟨rfl, w.blurred_blurred⟩
      | cons serial rest =>
        cases rest with
        | cons _ _ => exact ⟨rfl, w.blurred_blurred⟩
        | nil =>
          dsimp only
          rw [place?_blurred]
          cases place? w.cameras serial with
          | none => exact ⟨rfl, w.blurred_blurred⟩
          | some p =>
            simp only [Option.bind_some, getElem?_cameras_blurred]
            cases w.cameras[p]? with
            | none => exact ⟨rfl, w.blurred_blurred⟩
            | some c => exact openCamera_blurred p c rate address i w
  · rw [if_neg hstate, if_neg hstate]
    exact ⟨rfl, w.blurred_blurred⟩

/-! ### Any operation, and closing -/

/-- **Operations** are answered alike, and what they leave behind looks alike. -/
theorem perform_blurred {closing : List Nat} (op : Operation)
    (hcustody : Custody (w.standing closing)) (hi : i < w.sessions.length) :
    Alike (op.perform i w.blurred) (op.perform i w) := by
  obtain ⟨s, hs⟩ : ∃ s, w.sessions[i]? = some s := ⟨_, List.getElem?_eq_getElem hi⟩
  obtain ⟨hclosed, hfound⟩ := of_custody hcustody hs
  have hs' := getElem?_sessions_blurred hs
  have hsame := w.blurred_blurred
  -- A session that is not closed holds a camera.
  have hholds (hstate : s.state ≠ .closed) : ∃ o, s.camera = some o :=
    Option.ne_none_iff_exists'.mp fun ho => hstate (hclosed.mpr ho)
  cases op with
  | openCamera d key address =>
    exact (openSession_blurred d key address i w).map _
  | start timing =>
    by_cases hstate : s.state = .opened
    · obtain ⟨o, ho⟩ := hholds (by simp [hstate])
      obtain ⟨c, hc⟩ := hfound o ho
      exact (start_blurred timing hs ho hc hstate).map _
    · unfold Operation.perform
      dsimp only [Prod.map]
      rw [start_of_ne timing hs hstate, start_of_ne timing hs' hstate]
      exact ⟨rfl, hsame⟩
  | stop =>
    by_cases hstate : s.state = .capturing
    · obtain ⟨o, ho⟩ := hholds (by simp [hstate])
      obtain ⟨c, hc⟩ := hfound o ho
      exact (stop_blurred hs ho hc hstate).map _
    · unfold Operation.perform
      dsimp only [Prod.map]
      rw [stop_of_ne hs hstate, stop_of_ne hs' hstate]
      exact ⟨rfl, hsame⟩
  | setExposure =>
    cases ho : s.camera with
    | none =>
      unfold Operation.perform
      dsimp only [Prod.map]
      rw [setExposure_of_camera_eq_none hs ho, setExposure_of_camera_eq_none hs' ho]
      exact ⟨rfl, hsame⟩
    | some o =>
      obtain ⟨c, hc⟩ := hfound o ho
      exact (setExposure_blurred hs ho hc).map _
  | maxWidth =>
    cases ho : s.camera with
    | none =>
      unfold Operation.perform
      dsimp only [Prod.map]
      rw [maxWidth_of_camera_eq_none hs ho, maxWidth_of_camera_eq_none hs' ho]
      exact ⟨rfl, hsame⟩
    | some o =>
      obtain ⟨c, hc⟩ := hfound o ho
      exact (maxWidth_blurred hs ho hc).map _
  | maxHeight =>
    cases ho : s.camera with
    | none =>
      unfold Operation.perform
      dsimp only [Prod.map]
      rw [maxHeight_of_camera_eq_none hs ho, maxHeight_of_camera_eq_none hs' ho]
      exact ⟨rfl, hsame⟩
    | some o =>
      obtain ⟨c, hc⟩ := hfound o ho
      exact (maxHeight_blurred hs ho hc).map _

/-- Stopping has the same outcome. -/
theorem stops_blurred (s : Session) (c : Camera Nat) : stops s.blurred c.blurred = stops s c := by
  unfold stops
  rw [Camera.obstacle?_blurred]
  rfl

/-- A camera goes quiet in the same way. -/
theorem quiet_blurred (s : Session) (c : Camera Nat) :
    quiet s.blurred c.blurred = (quiet s c).blurred := by
  have hquiet : (quiet s c).blurred = { c.blurred with
      listener := none
      capturing := c.blurred.capturing && !stops s c } :=
    Camera.blurred_of_comm c
      (f := fun d => { d with listener := none, capturing := d.capturing && !stops s c })
      (fun _ => rfl) fun _ => rfl
  rw [hquiet]
  unfold quiet
  rw [stops_blurred]

/-- **The first part of closing** looks alike. -/
theorem beginClose_blurred (hs : w.sessions[i]? = some s) (ho : s.camera = some o)
    (hc : w.cameras[o.device.camera]? = some c) :
    (w.blurred.beginClose i).blurred = (w.beginClose i).blurred := by
  have hsession : (halted s.blurred o c.blurred).blurred = (halted s o c).blurred := by
    unfold halted
    rw [stops_blurred]
    by_cases hstate : s.state = .capturing <;> simp [Session.blurred, hstate]
  -- The part about the hand-off and the frame source is not blurred; what is left is the update.
  rw [beginClose_eq hs ho hc,
    beginClose_eq (getElem?_sessions_blurred hs) ho (found_blurred hc), stops_blurred,
    quiet_blurred, blurred_modifyChannel, blurred_modifyChannel, ← exitSource_update, ← exitSource_update,
    blurred_exitSource, blurred_exitSource, update_alike hsession (quiet s c).blurred_blurred]

/-- **The second part of closing** looks alike. -/
theorem endClose_blurred (hs : w.sessions[i]? = some s) (ho : s.camera = some o)
    (hc : w.cameras[o.device.camera]? = some c) :
    (w.blurred.endClose i).blurred = (w.endClose i).blurred := by
  have hsession : s.blurred.closed.blurred = s.closed.blurred := by
    simp [Session.blurred, Session.closed]
  rw [endClose_eq hs ho hc,
    endClose_eq (getElem?_sessions_blurred hs) ho (found_blurred hc), channel_blurred,
    blurred_modifyRuntime, blurred_modifyRuntime, ← exitSource_update, ← exitSource_update,
    blurred_exitSource, blurred_exitSource, ← blurred_exitThread,
    update_alike hsession c.release_blurred]
  rfl

end Relay

/-! ### Threads that deliver -/

namespace Live

variable {σ : Type} (h : Handler σ) (l : Live σ)

/-- The relay is blurred. -/
def blurred (l : Live σ) : Live σ := l.withRelay l.relay.blurred

@[simp] theorem relay_blurred : l.blurred.relay = l.relay.blurred := rfl

@[simp] theorem host_blurred : l.blurred.host = l.host := rfl

@[simp] theorem blurred_blurred : l.blurred.blurred = l.blurred := by
  unfold blurred withRelay
  dsimp only
  rw [Relay.blurred_blurred]

theorem withRelay_blurred (w : Relay) : l.blurred.withRelay w.blurred = (l.withRelay w).blurred :=
  rfl

/-- A call of the handler comes out alike. -/
theorem handle_blurred (t : Ticket) (d : Delivery) :
    l.blurred.handle h t d = ((l.handle h t d).1, (l.handle h t d).2.blurred) := by
  unfold handle
  rw [relay_blurred, Relay.enter_blurred]
  generalize l.relay.enter t.channel d = result
  obtain ⟨answer, w⟩ := result
  cases answer with
  | error e =>
    dsimp only
    rw [Relay.conclude_blurred]
    rfl
  | ok _ =>
    dsimp only
    rw [Relay.channel_blurred, host_blurred]
    generalize h (w.channel t.channel).binding.runtime d l.host = a
    -- The clock goes on alike in both.
    have hnow : ({ w.blurred with now := w.blurred.now + a.elapsed } : Relay) =
        ({ w with now := w.now + a.elapsed } : Relay).blurred := rfl
    rw [hnow]
    generalize ({ w with now := w.now + a.elapsed } : Relay) = v
    -- A handler that gives up leaves the frame as it is; the other replies are concluded.
    cases a.reply with
    | aborted reason => rfl
    | accepted =>
      dsimp only
      rw [Relay.leave_blurred, Relay.conclude_blurred]
      rfl
    | failed text =>
      dsimp only
      rw [Relay.leave_blurred, Relay.conclude_blurred]
      rfl

/-- **A delivery** comes out alike. -/
theorem deliver_blurred (t : ThreadId) (k : Nat) (points : List Point) :
    l.blurred.deliver h t k points =
      ((l.deliver h t k points).1, (l.deliver h t k points).2.blurred) := by
  unfold deliver
  rw [relay_blurred, Relay.begin_blurred]
  generalize l.relay.begin t k = result
  obtain ⟨ticket, w⟩ := result
  cases ticket with
  | none => rfl
  | some ticket =>
    dsimp only
    rw [Relay.publish_blurred]
    generalize w.publish k points = result
    obtain ⟨d, v⟩ := result
    cases d with
    | none => rfl
    | some d => exact handle_blurred h (l.withRelay v) ticket d

/-- **Injected frames** take the same way in a blurred world. -/
theorem emit_blurred (t : ThreadId) (p : Nat) (points : List Point) :
    l.blurred.emit h t p points = ((l.emit h t p points).1, (l.emit h t p points).2.blurred) := by
  unfold emit
  rw [relay_blurred, Relay.offer_blurred]
  generalize l.relay.offer p points = result
  obtain ⟨k?, w⟩ := result
  cases k? with
  | none => rfl
  | some k =>
    dsimp only
    rw [Relay.channel_blurred]
    cases (w.channel k).handoff with
    | some q =>
      dsimp only
      rw [Relay.submit_blurred]
      rfl
    | none =>
      have hdeliver := deliver_blurred h (l.withRelay w) t k points
      dsimp only
      rw [withRelay_blurred, hdeliver]
      generalize (l.withRelay w).deliver h t k points = result
      obtain ⟨answer, l'⟩ := result
      cases answer <;> rfl

/-- **Dispatch threads** do the same in a blurred world. -/
theorem dispatch_blurred (k : Nat) : l.blurred.dispatch h k = (l.dispatch h k).blurred := by
  unfold dispatch
  rw [relay_blurred, Relay.takeQueued?_blurred]
  cases l.relay.takeQueued? k with
  | none => rfl
  | some taken =>
    obtain ⟨points, w⟩ := taken
    have hdeliver := deliver_blurred h (l.withRelay w) (.dispatch k) k points
    dsimp only [Option.map_some, Prod.map, id]
    rw [withRelay_blurred, hdeliver]
    generalize (l.withRelay w).deliver h (.dispatch k) k points = result
    obtain ⟨answer, l'⟩ := result
    cases answer <;> rfl

/-- **Frame sources** do the same in a blurred world. -/
theorem wake_blurred (i : Nat) (source : Source) :
    l.blurred.wake h i source = (l.wake h i source).blurred := by
  unfold wake
  rw [relay_blurred, Relay.wakeSource_blurred]
  generalize l.relay.wakeSource i source = result
  obtain ⟨frame, w⟩ := result
  cases frame with
  | none => rfl
  | some frame =>
    obtain ⟨p, points⟩ := frame
    have hemit := emit_blurred h (l.withRelay w) (.source source.run) p points
    dsimp only
    rw [withRelay_blurred, hemit]
    generalize (l.withRelay w).emit h (.source source.run) p points = result
    obtain ⟨answer, l'⟩ := result
    cases answer with
    | ok _ => rfl
    | error _ =>
      dsimp only
      rw [relay_blurred, Relay.crashSource_blurred]
      rfl

end Live

/-! ### Schedules -/

namespace World

variable {σ : Type} (h : Handler σ) {v w : World σ}

/-- The relay is blurred. -/
def blurred (w : World σ) : World σ := { w with toLive := w.toLive.blurred }

theorem ready_blurred (i : Nat) (w : World σ) : w.blurred.ready i = w.ready i := by
  show (decide (i < (w.relay.sessions.map Session.blurred).length) && !w.closing.contains i) = _
  rw [List.length_map]
  rfl

theorem camera_blurred (i : Nat) (w : World σ) :
    (w.blurred.relay.session i).camera = (w.relay.session i).camera := by
  rw [show w.blurred.relay = w.relay.blurred from rfl, Relay.session_blurred]
  rfl

theorem dispatched_blurred (i : Nat) (w : World σ) : w.blurred.dispatched i = w.dispatched i := by
  unfold dispatched
  rw [camera_blurred]
  rfl

/-- Relays that look alike make worlds that look alike. -/
theorem blurred_setRelay {u u' : Relay} (hu : u.blurred = u'.blurred) (w : World σ) :
    (w.blurred.setRelay u).blurred = (w.setRelay u').blurred := by
  unfold blurred Live.blurred setRelay
  dsimp only [Live.withRelay]
  rw [hu]

/-- A change of the relay that can be exchanged with blurring. -/
theorem blurred_setRelay_of_comm {u u' : Relay} (hu : u'.blurred = u) (w : World σ) :
    (w.blurred.setRelay u).blurred = (w.setRelay u').blurred := by
  refine blurred_setRelay ?_ w
  rw [← hu, Relay.blurred_blurred]

/-- Where nothing is looked at that is blurred, a step and blurring can be exchanged. -/
theorem blurred_toLive {l l' : Live σ} (hl : l = l'.blurred) (w : World σ) :
    ({ w.blurred with toLive := l } : World σ).blurred =
      ({ w with toLive := l' } : World σ).blurred := by
  unfold blurred
  dsimp only
  rw [hl, Live.blurred_blurred]

theorem blurred_blurred (w : World σ) : w.blurred.blurred = w.blurred := blurred_toLive rfl w

/-- **A step in a blurred world** is answered as ever, and leaves behind what looks alike. -/
theorem step_blurred (e : Event) (hcustody : Custody w.standing) :
    (w.blurred.step h e).1 = (w.step h e).1 ∧
      (w.blurred.step h e).2.blurred = (w.step h e).2.blurred := by
  cases e with
  | operate i op =>
    unfold step
    dsimp only
    -- The guards do not look at what is blurred, so that both worlds decide alike.
    rw [ready_blurred]
    by_cases hready : w.ready i
    · rw [if_pos hready, if_pos hready]
      have halike := Relay.perform_blurred op hcustody (of_ready hready).1
      exact ⟨congrArg Response.answered halike.answer, blurred_setRelay halike.relay w⟩
    · rw [if_neg hready, if_neg hready]
      exact ⟨rfl, w.blurred_blurred⟩
  | beginClose i =>
    unfold step
    dsimp only
    rw [ready_blurred, camera_blurred]
    by_cases hready : w.ready i
    · rw [if_pos hready, if_pos hready]
      by_cases hheld : (w.relay.session i).camera.isSome
      · rw [if_pos hheld, if_pos hheld]
        obtain ⟨s, o, c, hs, ho, hc⟩ := holder_of_ready hcustody hready hheld
        have halike := Relay.beginClose_blurred hs ho hc
        refine ⟨rfl, ?_⟩
        have hworld := blurred_setRelay halike w
        exact congrArg (fun u : World σ => { u with closing := i :: w.closing }) hworld
      · rw [if_neg hheld, if_neg hheld]
        exact ⟨rfl, w.blurred_blurred⟩
    · rw [if_neg hready, if_neg hready]
      exact ⟨rfl, w.blurred_blurred⟩
  | endClose i =>
    unfold step
    dsimp only
    rw [dispatched_blurred, show w.blurred.closing = w.closing from rfl]
    by_cases hready : w.closing.contains i && w.dispatched i
    · rw [if_pos hready, if_pos hready]
      obtain ⟨s, o, c, hs, ho, hc⟩ := holder_of_closing hcustody (of_endClose hready).1
      have hworld := blurred_setRelay (Relay.endClose_blurred hs ho hc) w
      refine ⟨rfl, ?_⟩
      exact congrArg (fun u : World σ => { u with closing := w.closing.filter (· ≠ i) }) hworld
    · rw [if_neg hready, if_neg hready]
      exact ⟨rfl, w.blurred_blurred⟩
  | emit worker camera points =>
    have hemit := Live.emit_blurred h w.toLive (.worker worker) camera points
    have hanswer := congrArg Prod.fst hemit
    exact ⟨congrArg Response.emitted hanswer, blurred_toLive (congrArg Prod.snd hemit) w⟩
  | dispatch k => exact ⟨rfl, blurred_toLive (Live.dispatch_blurred h w.toLive k) w⟩
  | wake i =>
    -- Whether there is a frame source can be seen in spite of the blur.
    have hsource : (w.blurred.relay.session i).source? = (w.relay.session i).source? := by
      unfold Session.source?
      rw [camera_blurred]
    unfold step
    dsimp only
    rw [hsource]
    cases (w.relay.session i).source? with
    | none => exact ⟨rfl, w.blurred_blurred⟩
    | some source => exact ⟨rfl, blurred_toLive (Live.wake_blurred h w.toLive i source) w⟩
  | fail camera op s =>
    have hcamera := Relay.blurred_modifyCamera w.relay camera (f := Camera.fail op s) fun c =>
      c.blurred_of_comm (fun _ => rfl) fun _ => rfl
    exact ⟨rfl, blurred_setRelay_of_comm hcamera w⟩
  | clearFaults camera =>
    have hcamera := Relay.blurred_modifyCamera w.relay camera (f := Camera.clearFaults) fun c =>
      c.blurred_of_comm (fun _ => rfl) fun _ => rfl
    exact ⟨rfl, blurred_setRelay_of_comm hcamera w⟩
  | disableAttach r on =>
    have hruntime := Relay.blurred_modifyRuntime w.relay r fun x => { x with attachDisabled := on }
    exact ⟨rfl, blurred_setRelay_of_comm hruntime w⟩
  | refuseBuffers r fault =>
    have hruntime := Relay.blurred_modifyRuntime w.relay r fun x => { x with exposeFault := fault }
    exact ⟨rfl, blurred_setRelay_of_comm hruntime w⟩
  | exitWorker worker =>
    have hexit := Relay.blurred_exitThread w.relay (.worker worker)
    exact ⟨rfl, blurred_setRelay_of_comm hexit w⟩
  | pass nanos =>
    have hpass : ({ w.relay with now := w.relay.now + nanos } : Relay).blurred =
        { w.relay.blurred with now := w.relay.blurred.now + nanos } := rfl
    exact ⟨rfl, blurred_setRelay_of_comm hpass w⟩

/-- **Worlds that look alike answer alike**, and go on looking alike. -/
theorem run_of_blurred (events : List Event) (hv : Custody v.standing) (hw : Custody w.standing)
    (halike : v.blurred = w.blurred) :
    v.responses h events = w.responses h events ∧
      (v.run h events).blurred = (w.run h events).blurred := by
  induction events generalizing v w with
  | nil => exact ⟨rfl, halike⟩
  | cons e rest ih =>
    -- Each step is compared with the same step of the blurred world, which is one for both.
    obtain ⟨hanswer, hafter⟩ := step_blurred h e hv
    obtain ⟨hanswer', hafter'⟩ := step_blurred h e hw
    rw [halike] at hanswer hafter
    obtain ⟨hresponses, hrun⟩ := ih (hv.shift (step_shift h e hv)) (hw.shift (step_shift h e hw))
      (hafter.symm.trans hafter')
    refine ⟨?_, hrun⟩
    show (v.step h e).1 :: _ = (w.step h e).1 :: _
    rw [← hanswer, ← hanswer', hresponses]

end World

end DepthRelay
