import DepthRelay.Proofs.DriverCalls
import DepthRelay.Proofs.Places
import DepthRelay.Proofs.World

namespace DepthRelay

/-!
# Outcomes of session operations

What each operation of a session does to the relay, in closed form.  All of them come down to one
update: the session at a place and the camera that it works on are replaced (`Relay.update`).

* `openSession_cases` — an opening is refused before it touches a camera, or is undone, or succeeds;
  `Relay.opened` is the relay afterwards.
* `start_eq`, `stop_eq`, `setExposure_eq`, `maxWidth_eq`, `maxHeight_eq` — the operations on an open
  session, each with the first reason for which it fails.
* `beginClose_eq`, `endClose_eq` — the two parts of closing.
-/

/-! ### Timing of a run -/

namespace TimingLog

/-- What is handed over at the end of a run. -/
def harvest (l : TimingLog) : List TimingSample := if l.enabled then l.ordered else []

/-- The log after the end of a run.  A log that was off keeps what it had. -/
def harvested (l : TimingLog) : TimingLog where
  enabled := false
  samples := if l.enabled then [] else l.samples

end TimingLog

/-- The end of a run hands the samples out, if it was timed, and switches the timing off. -/
theorem Session.endTiming_eq (s : Session) :
    s.endTiming = (s.timing.harvest, { s with timing := s.timing.harvested }) := by
  unfold Session.endTiming TimingLog.harvest TimingLog.harvested
  by_cases h : s.timing.enabled
  · rw [if_pos h, if_pos h, if_pos h]
    rfl
  · rw [if_neg h, if_neg h, if_neg h]
    rfl

namespace Relay

variable {α : Type}

/-! ### Places -/

theorem session_eq {i : Nat} {s : Session} {w : Relay} (hs : w.sessions[i]? = some s) :
    w.session i = s := by
  simp [session, List.getD_eq_getElem?_getD, hs]

theorem channel_eq {k : Nat} {c : Channel} {w : Relay} (hc : w.channels[k]? = some c) :
    w.channel k = c := by
  simp [channel, List.getD_eq_getElem?_getD, hc]

theorem runtime_eq {r : Nat} {x : Runtime} {w : Relay} (hr : w.runtimes[r]? = some x) :
    w.runtime r = x := by
  simp [runtime, List.getD_eq_getElem?_getD, hr]

/-- The session at place `i` and the camera at place `p` are replaced. -/
def update (i : Nat) (s : Session) (p : Nat) (c : Camera Nat) (w : Relay) : Relay :=
  { w with cameras := w.cameras.set p c, sessions := w.sessions.set i s }

/-- Nothing changes if a session and its camera are set to what they are. -/
theorem update_self {i p : Nat} {s : Session} {c : Camera Nat} {w : Relay}
    (hs : w.sessions[i]? = some s) (hc : w.cameras[p]? = some c) : w.update i s p c = w := by
  unfold update
  rw [set_of_getElem? hs, set_of_getElem? hc]

/-! ### The end of a thread -/

section

variable (t : ThreadId) (source : Option Source) (w : Relay)

/-- Only attachments and hosts see the end of a thread. -/
theorem exitThread_eq :
    w.exitThread t =
      { w with
        attachments := (w.attachments.exit t w.runtimes).1
        runtimes := (w.attachments.exit t w.runtimes).2 } := rfl

@[simp] theorem cameras_exitThread : (w.exitThread t).cameras = w.cameras := rfl

@[simp] theorem cameras_exitSource : (w.exitSource source).cameras = w.cameras := by
  cases source <;> rfl

theorem exitSource_update (i : Nat) (s : Session) (p : Nat) (c : Camera Nat) :
    (w.update i s p c).exitSource source = (w.exitSource source).update i s p c := by
  cases source <;> rfl

end

/-! ### Opening -/

/-- The relay after the session at place `i` has opened the camera `c` at place `p`; `b` is the
    buffer and `r` the host to which it is exposed. -/
def opened (i p : Nat) (c : Camera Nat) (rate : FrameRate) (b : FrameBuffer) (r : Runtime)
    (w : Relay) : Relay :=
  { w.update i
      { w.session i with
        state := .opened
        camera := some
          { device := { camera := p }
            channel := w.channels.length
            serial := c.profile.serial
            rate := rate } }
      p (Session.prepared rate w.channels.length c) with
    runtimes := w.runtimes.set (w.session i).runtime r
    channels := w.channels ++ [w.newChannel i b] }

/-- How an opening by the session at place `i` ends. -/
inductive Opening (d : Descriptor) (key : UInt32) (address i : Nat) (w : Relay) :
    Except RelayError Unit → Relay → Prop
  /-- No camera has been touched. -/
  | refused (e : RelayError) : Opening d key address i w (.error e) w
  /-- The camera has been given back.  Only the two choices of a device object may remain. -/
  | undone (e : RelayError) (p : Nat) (c c' : Camera Nat) (target : w.target? d = some p)
      (found : w.cameras[p]? = some c) (residue : c'.blank = c.blank.release)
      (closed : (w.session i).state = .closed) :
      Opening d key address i w (.error e) { w with cameras := w.cameras.set p c' }
  | done (p : Nat) (c : Camera Nat) (rate : FrameRate) (b : FrameBuffer) (r : Runtime)
      (target : w.target? d = some p) (found : w.cameras[p]? = some c)
      (closed : (w.session i).state = .closed) (idle : c.capturing = false)
      (rated : FrameRate.ofKey? key = some rate)
      (room : FrameBuffer.ofCapacity address (w.session i).settings.maxPoints.toNat = .ok b)
      (exposed : (w.runtime (w.session i).runtime).expose b.view = .ok r) :
      Opening d key address i w (.ok ()) (w.opened i p c rate b r)

/-- **Everything that an opening can come to** once it goes for a camera at a supported rate. -/
theorem openCamera_cases (d : Descriptor) (key : UInt32) (address i : Nat) (w : Relay) (p : Nat)
    (c : Camera Nat) (rate : FrameRate) (target : w.target? d = some p)
    (found : w.cameras[p]? = some c) (closed : (w.session i).state = .closed)
    (rated : FrameRate.ofKey? key = some rate) :
    Opening d key address i w (w.openCamera p c rate address i).1
      (w.openCamera p c rate address i).2 := by
  unfold openCamera
  cases c.fault? .createCamera with
  | some e => exact .refused _
  | none =>
    -- From here on the device object has to be given back if something fails.
    have hend := Session.configure_ends rate w.channels.length
      (FrameBuffer.ofCapacity address (w.session i).settings.maxPoints.toNat) c
    unfold Session.Ends at hend
    dsimp only
    cases hr : Session.refusal? rate
        (FrameBuffer.ofCapacity address (w.session i).settings.maxPoints.toNat) c with
    | some e =>
      rw [hr] at hend
      obtain ⟨c', he, hc⟩ := hend
      rw [he]
      exact .undone e p c _ target found hc closed
    | none =>
      rw [hr] at hend
      obtain ⟨b, c', he, hc, hb, rfl⟩ := hend
      rw [he]
      dsimp only
      cases hx : (w.runtime (w.session i).runtime).expose b.view with
      -- The host refuses the buffer of a camera that is prepared.
      | error e => exact .undone _ p c _ target found hc closed
      | ok r =>
        have hidle : c.capturing = false := Session.idle_of_refusal?_eq_none hr
        exact .done p c rate b r target found closed hidle rated hb hx

/-- **Everything that an opening can come to**: it is refused before it reaches a camera, or it is
    undone, or done. -/
theorem openSession_cases (d : Descriptor) (key : UInt32) (address i : Nat) (w : Relay) :
    Opening d key address i w (w.openSession d key address i).1
      (w.openSession d key address i).2 := by
  unfold openSession
  by_cases hstate : (w.session i).state = .closed
  · rw [if_pos hstate]
    cases hrate : FrameRate.ofKey? key with
    | none => exact .refused _
    | some rate =>
      dsimp only
      cases hserials : connected w.cameras d with
      | nil => exact .refused _
      | cons serial rest =>
        cases rest with
        | cons _ _ => exact .refused _
        | nil =>
          dsimp only
          cases hp : place? w.cameras serial with
          | none => exact .refused _
          | some p =>
            cases hc : w.cameras[p]? with
            | none => simpa [hc] using Opening.refused _
            | some c =>
              have htarget : w.target? d = some p := by simp [target?, hserials, hp]
              simpa [hc] using openCamera_cases d key address i w p c rate htarget hc hstate hrate
  · rw [if_neg hstate]
    exact .refused _

/-! ### Operations on an open session -/

/-- How an operation ends that fails with the status of its driver call if there is one, leaving the
    relay as `before`, and otherwise answers `a` and leaves it as `after`. -/
def ended (operation : String) (refusal : Option Status) (a : α) (after before : Relay) :
    Except RelayError α × Relay :=
  match refusal with
  | some e => (.error (.device operation e), before)
  | none => (.ok a, after)

section

variable {w : Relay} {i : Nat} {s : Session} {o : OpenCamera} {c : Camera Nat}

/-- What a session with a camera makes of a call on its device object. -/
theorem withCamera_eq (operation : String)
    (f : Device → Camera Nat → Except Status α × Device × Camera Nat) (cameras : List (Camera Nat))
    (ho : s.camera = some o) (hc : cameras[o.device.camera]? = some c) :
    s.withCamera operation f cameras =
      ((f o.device c).1.mapError (.device operation),
        { s with camera := some { o with device := (f o.device c).2.1 } },
        cameras.set o.device.camera (f o.device c).2.2) := by
  simp only [Session.withCamera, ho, hc]

/-- A driver call that does not concern the frame source. -/
theorem call_eq (operation : String) {m : Camera.DriverCall Nat α} {refusal : Option Status} {a : α}
    {after : Camera Nat} (hs : w.sessions[i]? = some s) (ho : s.camera = some o)
    (hc : w.cameras[o.device.camera]? = some c) (hm : m c = Camera.ended refusal a after c) :
    w.operate (Session.call operation m) i =
      ended operation refusal a (w.update i s o.device.camera after) w := by
  have hsame : { s with camera := some o } = s := by rw [← ho]
  unfold operate Session.call
  rw [session_eq hs, withCamera_eq operation _ w.cameras ho hc, hm]
  cases refusal with
  | some e =>
    show (_, w.update i { s with camera := some o } o.device.camera c) = _
    rw [hsame, update_self hs hc]
    rfl
  | none =>
    show (_, w.update i { s with camera := some o } o.device.camera after) = _
    rw [hsame]
    rfl

/-- Without a camera there is nothing to call. -/
theorem call_of_camera_eq_none (operation : String) (m : Camera.DriverCall Nat α)
    (hs : w.sessions[i]? = some s) (ho : s.camera = none) :
    w.operate (Session.call operation m) i = (.error (.invalidState operation s.state), w) := by
  unfold operate Session.call Session.withCamera
  rw [session_eq hs]
  simp only [ho]
  rw [set_of_getElem? hs]

/-- **Setting the exposure time** fails for the first of three reasons: the driver does, the camera
    is not in manual mode, or the time is out of bounds. -/
theorem setExposure_eq (hs : w.sessions[i]? = some s) (ho : s.camera = some o)
    (hc : w.cameras[o.device.camera]? = some c) :
    w.setExposure i =
      ended "set exposure time"
        ((c.obstacle? .setExposureTime).or
          ((if c.exposureMode == .manual then none else some .logicError).or
            (if s.settings.exposureTime ≠ 0 && s.settings.exposureTime ≤ Sensor.maxExposureTime
              then none else some .outOfBounds)))
        () (w.update i s o.device.camera { c with exposureTime := s.settings.exposureTime }) w := by
  rw [← call_eq "set exposure time" hs ho hc (Camera.setExposureTime_eq _ c)]
  unfold setExposure operate
  rw [session_eq hs]
  rfl

/-- The width of the camera, unless the driver refuses to tell. -/
theorem maxWidth_eq (hs : w.sessions[i]? = some s) (ho : s.camera = some o)
    (hc : w.cameras[o.device.camera]? = some c) :
    w.maxWidth i =
      ended "get max sensor width" (c.obstacle? .maxSensorWidth) c.profile.width w w := by
  have h := call_eq "get max sensor width" hs ho hc (Camera.maxWidth_eq c)
  rw [update_self hs hc] at h
  exact h

/-- The height of the camera, unless the driver refuses to tell. -/
theorem maxHeight_eq (hs : w.sessions[i]? = some s) (ho : s.camera = some o)
    (hc : w.cameras[o.device.camera]? = some c) :
    w.maxHeight i =
      ended "get max sensor height" (c.obstacle? .maxSensorHeight) c.profile.height w w := by
  have h := call_eq "get max sensor height" hs ho hc (Camera.maxHeight_eq c)
  rw [update_self hs hc] at h
  exact h

/-- Without a camera there is no exposure time to set. -/
theorem setExposure_of_camera_eq_none (hs : w.sessions[i]? = some s) (ho : s.camera = none) :
    w.setExposure i = (.error (.invalidState "set exposure time" s.state), w) := by
  rw [← call_of_camera_eq_none "set exposure time"
    (Camera.setExposureTime s.settings.exposureTime) hs ho]
  unfold setExposure operate
  rw [session_eq hs]
  rfl

/-- Without a camera there is no sensor to ask for its size. -/
theorem maxWidth_of_camera_eq_none (hs : w.sessions[i]? = some s) (ho : s.camera = none) :
    w.maxWidth i = (.error (.invalidState "get max sensor width" s.state), w) :=
  call_of_camera_eq_none "get max sensor width" Camera.maxWidth hs ho

theorem maxHeight_of_camera_eq_none (hs : w.sessions[i]? = some s) (ho : s.camera = none) :
    w.maxHeight i = (.error (.invalidState "get max sensor height" s.state), w) :=
  call_of_camera_eq_none "get max sensor height" Camera.maxHeight hs ho

/-- The frame source of a run that begins now. -/
def sourceOfRun (c : Camera Nat) (o : OpenCamera) (w : Relay) : Option Source :=
  match c.profile.stream with
  | .manual => o.device.source
  | .paced limit => some (.start w.nextRun w.now c.useCase limit)

/-- **A start of an open session** begins a run with an empty log, unless the driver refuses or the
    camera captures already. -/
theorem start_eq (timing : Bool) (hs : w.sessions[i]? = some s) (ho : s.camera = some o)
    (hc : w.cameras[o.device.camera]? = some c) (hstate : s.state = .opened) :
    w.start timing i =
      ended "start capture"
        ((c.obstacle? .startCapture).or (if c.capturing then some .logicError else none)) ()
        { w.update i
            { s with
              state := .capturing
              timing := s.timing.setEnabled timing
              camera := some { o with device := { o.device with source := w.sourceOfRun c o } } }
            o.device.camera { c with capturing := true } with
          nextRun := w.nextRun + 1 }
        (w.update i { s with timing := (s.timing.setEnabled timing).setEnabled false }
          o.device.camera c) := by
  unfold start operate Session.start
  rw [session_eq hs, if_pos hstate, withCamera_eq "start capture" _ w.cameras (by exact ho) hc]
  unfold Device.start
  rw [Camera.startCapture_eq]
  cases (c.obstacle? .startCapture).or (if c.capturing then some .logicError else none) with
  | some e =>
    -- The device object is as it was, so only the log has been touched.
    show (_, w.update i { s with
      timing := (s.timing.setEnabled timing).setEnabled false
      camera := some o } o.device.camera c) = _
    rw [← ho]
    rfl
  | none =>
    simp only [Camera.ended, ended, sourceOfRun]
    cases c.profile.stream <;> rfl

/-- In another state nothing is started. -/
theorem start_of_ne (timing : Bool) (hs : w.sessions[i]? = some s) (hstate : s.state ≠ .opened) :
    w.start timing i = (.error (.invalidState "start capture" s.state), w) := by
  unfold start operate Session.start
  rw [session_eq hs, if_neg hstate]
  dsimp only
  rw [set_of_getElem? hs]

/-- **A stop of a capturing session** returns its samples and ends its source, unless the driver
    refuses. -/
theorem stop_eq (hs : w.sessions[i]? = some s) (ho : s.camera = some o)
    (hc : w.cameras[o.device.camera]? = some c) (hstate : s.state = .capturing) :
    w.stop i =
      ended "stop capture" (c.obstacle? .stopCapture) s.timing.harvest
        ((w.update i
          { s with
            state := .opened
            timing := s.timing.harvested
            camera := some { o with device := { o.device with source := none } } }
          o.device.camera { c with capturing := false }).exitSource o.device.source)
        w := by
  have hsource : s.source? = o.device.source := by simp [Session.source?, ho]
  unfold stop operate Session.stop
  rw [session_eq hs, if_pos hstate, withCamera_eq "stop capture" _ w.cameras ho hc, hsource]
  unfold Device.stop
  rw [Camera.stopCapture_eq]
  cases c.obstacle? .stopCapture with
  | some e =>
    show (_, w.update i { s with camera := some o } o.device.camera c) = _
    -- The call has changed neither the device object nor the camera.
    rw [← ho, update_self hs hc]
    rfl
  | none =>
    simp only [Camera.ended, ended, Session.endTiming_eq]
    rfl

/-- In another state nothing is stopped. -/
theorem stop_of_ne (hs : w.sessions[i]? = some s) (hstate : s.state ≠ .capturing) :
    w.stop i = (.error (.invalidState "stop capture" s.state), w) := by
  unfold stop operate Session.stop
  rw [session_eq hs, if_neg hstate]
  dsimp only
  rw [set_of_getElem? hs]

/-! ### Closing -/

/-- Whether closing stops the run of a session: the driver must not refuse it. -/
def stops (s : Session) (c : Camera Nat) : Bool :=
  decide (s.state = .capturing) && (c.obstacle? .stopCapture).isNone

/-- A session whose camera has gone quiet. -/
def halted (s : Session) (o : OpenCamera) (c : Camera Nat) : Session :=
  { s with
    timing := if s.state = .capturing then s.timing.setEnabled false else s.timing
    camera := some
      { o with device :=
        { o.device with source := if stops s c then none else o.device.source } } }

/-- A camera that has gone quiet: it has no listener, and captures only if it could not be
    stopped. -/
def quiet (s : Session) (c : Camera Nat) : Camera Nat :=
  { c with listener := none, capturing := c.capturing && !stops s c }

/-- Removing the listener never fails. -/
theorem unregister_eq {cameras : List (Camera Nat)} (ho : s.camera = some o)
    (hc : cameras[o.device.camera]? = some c) :
    s.call "unregister data listener" Camera.unregisterListener cameras =
      (.ok (), s, cameras.set o.device.camera { c with listener := none }) := by
  unfold Session.call
  rw [withCamera_eq "unregister data listener" _ cameras ho hc, Camera.unregisterListener_eq]
  show (_, { s with camera := some o }, _) = _
  rw [← ho]
  rfl

/-- A session that begins to close stops its camera, as far as the driver lets it, and takes the
    listener away. -/
theorem halt_eq {cameras : List (Camera Nat)} (ho : s.camera = some o)
    (hc : cameras[o.device.camera]? = some c) :
    s.halt cameras = (halted s o c, cameras.set o.device.camera (quiet s c)) := by
  unfold Session.halt
  by_cases hstate : s.state = .capturing
  · have hp := (List.getElem?_eq_some_iff.mp hc).1
    rw [withCamera_eq "stop capture" _ cameras ho hc]
    unfold Device.stop
    rw [Camera.stopCapture_eq]
    simp only [hstate]
    cases hfault : c.obstacle? .stopCapture with
    | some e =>
      simp only [Camera.ended]
      -- The camera goes on capturing, with nobody to listen.
      rw [set_of_getElem? hc, unregister_eq (o := o) (c := c) rfl hc]
      simp [halted, quiet, stops, hstate, hfault]
    | none =>
      simp only [Camera.ended]
      rw [unregister_eq (o := { o with device := { o.device with source := none } })
        (c := { c with capturing := false }) rfl (by simp [hp])]
      simp [halted, quiet, stops, hstate, hfault]
  · -- Nothing is to be stopped, and the log is left alone.
    have hoff : stops s c = false := by simp [stops, hstate]
    have hs : halted s o c = s := by
      unfold halted
      rw [if_neg hstate, hoff]
      show { s with camera := some o } = s
      rw [← ho]
    rw [hs]
    unfold quiet
    rw [hoff]
    cases hcase : s.state with
    | capturing => exact absurd hcase hstate
    | closed => simp only [unregister_eq ho hc, Bool.not_false, Bool.and_true]
    | opened => simp only [unregister_eq ho hc, Bool.not_false, Bool.and_true]

/-- **The first part of closing.** -/
theorem beginClose_eq (hs : w.sessions[i]? = some s) (ho : s.camera = some o)
    (hc : w.cameras[o.device.camera]? = some c) :
    w.beginClose i =
      ((w.exitSource (if stops s c then o.device.source else none)).update i
          (halted s o c) o.device.camera (quiet s c)).modifyChannel o.channel
        fun x => { x with handoff := x.handoff.map Handoff.close } := by
  unfold beginClose
  rw [session_eq hs]
  simp only [ho, halt_eq ho hc]
  -- The source has ended if the session has none left, and then it is the one from before.
  have hsource : s.source? = o.device.source := by simp [Session.source?, ho]
  have hleft : (halted s o c).source? = if stops s c then none else o.device.source := rfl
  rw [hsource, hleft]
  cases hstop : stops s c with
  | true => cases o.device.source <;> rfl
  | false => cases o.device.source <;> rfl

/-- **The second part of closing.** -/
theorem endClose_eq (hs : w.sessions[i]? = some s) (ho : s.camera = some o)
    (hc : w.cameras[o.device.camera]? = some c) :
    w.endClose i =
      (((w.exitThread (.dispatch o.channel)).exitSource o.device.source).update i s.closed
          o.device.camera c.release).modifyRuntime s.runtime
        (Runtime.retract (w.channel o.channel).view) := by
  have hsource : s.source? = o.device.source := by simp [Session.source?, ho]
  unfold endClose
  rw [session_eq hs]
  simp only [ho, hsource]
  rw [cameras_exitSource, cameras_exitThread, modify_of_getElem? _ hc]
  cases o.device.source <;> rfl

/-! ### Any operation -/

/-- What an operation of the session `s` at place `i` can do to the relay, and whether it fails. -/
inductive Performed (i : Nat) (s : Session) (w : Relay) : Operation → Bool → Relay → Prop
  | idle (op : Operation) (failed : Bool) : Performed i s w op failed w
  /-- A camera has been prepared in vain and given back. -/
  | undone (d : Descriptor) (key : UInt32) (address p : Nat) (c c' : Camera Nat)
      (target : w.target? d = some p) (found : w.cameras[p]? = some c)
      (residue : c'.blank = c.blank.release) (closed : s.state = .closed) :
      Performed i s w (.openCamera d key address) true { w with cameras := w.cameras.set p c' }
  | opened (d : Descriptor) (key : UInt32) (address p : Nat) (c : Camera Nat) (rate : FrameRate)
      (b : FrameBuffer) (r : Runtime) (target : w.target? d = some p)
      (found : w.cameras[p]? = some c) (closed : s.state = .closed) (still : c.capturing = false)
      (rated : FrameRate.ofKey? key = some rate)
      (room : FrameBuffer.ofCapacity address s.settings.maxPoints.toNat = .ok b)
      (exposed : (w.runtime s.runtime).expose b.view = .ok r) :
      Performed i s w (.openCamera d key address) false (w.opened i p c rate b r)
  /-- The camera does not start; a log that has been switched on for the run is off again. -/
  | unstarted (timing : Bool) (o : OpenCamera) (c : Camera Nat) (held : s.camera = some o)
      (found : w.cameras[o.device.camera]? = some c) (state : s.state = .opened) :
      Performed i s w (.start timing) true
        (w.update i { s with timing := (s.timing.setEnabled timing).setEnabled false }
          o.device.camera c)
  | started (timing : Bool) (o : OpenCamera) (c : Camera Nat) (held : s.camera = some o)
      (found : w.cameras[o.device.camera]? = some c) (state : s.state = .opened) :
      Performed i s w (.start timing) false
        { w.update i
            { s with
              state := .capturing
              timing := s.timing.setEnabled timing
              camera := some { o with device := { o.device with source := w.sourceOfRun c o } } }
            o.device.camera { c with capturing := true } with
          nextRun := w.nextRun + 1 }
  | stopped (o : OpenCamera) (c : Camera Nat) (held : s.camera = some o)
      (found : w.cameras[o.device.camera]? = some c) (state : s.state = .capturing) :
      Performed i s w .stop false
        ((w.update i
          { s with
            state := .opened
            timing := s.timing.harvested
            camera := some { o with device := { o.device with source := none } } }
          o.device.camera { c with capturing := false }).exitSource o.device.source)
  | exposed (o : OpenCamera) (c : Camera Nat) (held : s.camera = some o)
      (found : w.cameras[o.device.camera]? = some c) :
      Performed i s w .setExposure false
        (w.update i s o.device.camera { c with exposureTime := s.settings.exposureTime })

/-- **What an operation can do.**  The session is at place `i`, it is closed if and only if it holds
    no camera, and the camera that it holds is there. -/
theorem perform_cases (op : Operation) (hs : w.sessions[i]? = some s)
    (hclosed : s.state = .closed ↔ s.camera = none)
    (hfound : ∀ o, s.camera = some o → ∃ c, w.cameras[o.device.camera]? = some c) :
    Performed i s w op (op.perform i w).1.failed (op.perform i w).2 := by
  have hne (ho : s.camera = none) : s.state ≠ .opened ∧ s.state ≠ .capturing := by
    simp [hclosed.mpr ho]
  cases op with
  | openCamera d key address =>
    have hopen := openSession_cases d key address i w
    unfold Operation.perform
    dsimp only [Prod.map]
    generalize w.openSession d key address i = result at hopen ⊢
    obtain ⟨answer, v⟩ := result
    cases hopen with
    | refused e => exact .idle _ _
    | undone e p c c' target found residue closed =>
      exact .undone d key address p c c' target found residue (session_eq hs ▸ closed)
    | done p c rate b r target found closed still rated room exposed =>
      rw [session_eq hs] at closed room exposed
      exact .opened d key address p c rate b r target found closed still rated room exposed
  | start timing =>
    unfold Operation.perform
    by_cases hstate : s.state = .opened
    · -- An opened session holds a camera.
      obtain ⟨o, ho⟩ := Option.ne_none_iff_exists'.mp fun ho => (hne ho).1 hstate
      obtain ⟨c, hc⟩ := hfound o ho
      dsimp only [Prod.map]
      rw [start_eq timing hs ho hc hstate]
      cases (c.obstacle? .startCapture).or (if c.capturing then some .logicError else none) with
      | some e => exact .unstarted timing o c ho hc hstate
      | none => exact .started timing o c ho hc hstate
    · dsimp only [Prod.map]
      rw [start_of_ne timing hs hstate]
      exact .idle _ _
  | stop =>
    unfold Operation.perform
    by_cases hstate : s.state = .capturing
    · obtain ⟨o, ho⟩ := Option.ne_none_iff_exists'.mp fun ho => (hne ho).2 hstate
      obtain ⟨c, hc⟩ := hfound o ho
      dsimp only [Prod.map]
      rw [stop_eq hs ho hc hstate]
      cases c.obstacle? .stopCapture with
      | some e => exact .idle _ _
      | none => exact .stopped o c ho hc hstate
    · dsimp only [Prod.map]
      rw [stop_of_ne hs hstate]
      exact .idle _ _
  | setExposure =>
    unfold Operation.perform
    dsimp only [Prod.map]
    cases ho : s.camera with
    | none =>
      rw [setExposure_of_camera_eq_none hs ho]
      exact .idle _ _
    | some o =>
      obtain ⟨c, hc⟩ := hfound o ho
      rw [setExposure_eq hs ho hc]
      generalize (c.obstacle? .setExposureTime).or _ = refusal
      cases refusal with
      | some e => exact .idle _ _
      | none => exact .exposed o c ho hc
  | maxWidth =>
    unfold Operation.perform
    dsimp only [Prod.map]
    cases ho : s.camera with
    | none =>
      rw [maxWidth_of_camera_eq_none hs ho]
      exact .idle _ _
    | some o =>
      obtain ⟨c, hc⟩ := hfound o ho
      rw [maxWidth_eq hs ho hc]
      cases c.obstacle? .maxSensorWidth <;> exact .idle _ _
  | maxHeight =>
    unfold Operation.perform
    dsimp only [Prod.map]
    cases ho : s.camera with
    | none =>
      rw [maxHeight_of_camera_eq_none hs ho]
      exact .idle _ _
    | some o =>
      obtain ⟨c, hc⟩ := hfound o ho
      rw [maxHeight_eq hs ho hc]
      cases c.obstacle? .maxSensorHeight <;> exact .idle _ _

end

end Relay

end DepthRelay
