import DepthRelay.Proofs.Deliveries

namespace DepthRelay

/-!
# Sessions and cameras keep together

What a step does to what stands, and from it what is true of sessions and cameras in all runs.

* `World.step_operate_cases`, `World.step_beginClose_cases`, `World.step_endClose_cases`,
  `World.step_wake_cases` — when such a step does anything.
* `World.step_shift` — a step does one of the things that `Shift` lists, and opens no camera but the
  one that it goes for.
* `World.attuned_step`, `World.custody_run` — the invariants, at a step and along a schedule.
* `session_coherence` — a session that has its cameras for itself never drifts apart from them.
-/

variable {σ : Type}

/-! ### What stands, by places -/

namespace Relay

variable {w : Relay} {closing : List Nat} {i p k : Nat} {s : Session} {o : OpenCamera}
  {c : Camera Nat} {x : Channel}

theorem session_standing (hs : w.sessions[i]? = some s) :
    (w.standing closing).sessions[i]? = some s.standing := by
  simp [standing, hs]

theorem camera_standing (hc : w.cameras[p]? = some c) :
    (w.standing closing).cameras[p]? = some c.standing := by
  simp [standing, hc]

theorem channel_standing (hx : w.channels[k]? = some x) :
    (w.standing closing).channels[k]? = some x.wiring := by
  simp [standing, hx]

theorem held_standing (ho : s.camera = some o) : s.standing.camera = some o.standing := by
  simp [Session.standing, ho]

theorem of_camera_standing {d : Camera Nat} (h : (w.standing closing).cameras[p]? = some d) :
    ∃ c, w.cameras[p]? = some c ∧ c.standing = d := by
  simpa [standing] using h

theorem of_session_standing {t : Session} (h : (w.standing closing).sessions[i]? = some t) :
    ∃ s, w.sessions[i]? = some s ∧ s.standing = t := by
  simpa [standing] using h

theorem of_channel_standing {y : Wiring} (h : (w.standing closing).channels[k]? = some y) :
    ∃ x, w.channels[k]? = some x ∧ x.wiring = y := by
  simpa [standing] using h

/-- What stands tells who holds what. -/
theorem holds_standing : (w.standing closing).Holds i p ↔ w.Holds i p := by
  constructor
  · rintro ⟨t, u, ht, hu, hp⟩
    simp only [standing, List.getElem?_map, Option.map_eq_some_iff] at ht
    obtain ⟨s, hs, rfl⟩ := ht
    obtain ⟨o, ho, rfl⟩ := Option.map_eq_some_iff.mp hu
    exact ⟨s, o, hs, ho, hp⟩
  · rintro ⟨s, o, hs, ho, hp⟩
    exact ⟨s.standing, o.standing, session_standing hs, held_standing ho, hp⟩

theorem standing_update :
    (w.update i s p c).standing closing =
      (w.standing closing).update i s.standing p c.standing := by
  simp [standing, update, Standing.update, List.map_set]

/-- Custody as the operations of a session need it. -/
theorem of_custody (h : Custody (w.standing closing)) (hs : w.sessions[i]? = some s) :
    (s.state = .closed ↔ s.camera = none) ∧
      ∀ o, s.camera = some o → ∃ c, w.cameras[o.device.camera]? = some c := by
  constructor
  · have hclosed := h.closed i s.standing (session_standing hs)
    simpa [Session.standing] using hclosed
  · intro o ho
    obtain ⟨d, hd, -⟩ := h.found i s.standing o.standing (session_standing hs) (held_standing ho)
    obtain ⟨c, hc, -⟩ := of_camera_standing hd
    exact ⟨c, hc⟩

/-- A session that holds a camera has a channel, which serves it. -/
theorem wired_of_custody (h : Custody (w.standing closing)) {t : Session} {u : OpenCamera}
    (ht : (w.standing closing).sessions[i]? = some t) (hu : t.camera = some u) :
    ∃ x, w.channels[u.channel]? = some x ∧ x.wiring.Serves i t := by
  obtain ⟨y, hy, hserves⟩ := h.wired i t u ht hu
  obtain ⟨x, hx, rfl⟩ := of_channel_standing hy
  exact ⟨x, hx, hserves⟩

/-- A camera hands frames only to a session that holds it and is not being closed. -/
theorem heard_of_custody (h : Custody (w.standing closing)) (hk : w.listener? p = some k) :
    ∃ i t u, (w.standing closing).sessions[i]? = some t ∧ t.camera = some u ∧
      u.device.camera = p ∧ u.channel = k ∧ i ∉ closing := by
  obtain ⟨c, hc, -, hlistener⟩ := listener?_eq_some.mp hk
  exact h.heard p k c.standing (camera_standing hc) hlistener

end Relay

/-! ### What a step does -/

/-- A new channel serves the session that it is made for. -/
theorem serves_newChannel (i : Nat) (b : FrameBuffer) (w : Relay) :
    (w.newChannel i b).wiring.Serves i (w.session i).standing := by
  refine ⟨rfl, rfl, rfl, rfl, ?_⟩
  show (w.newChannel i b).handoff.isSome = decide ((w.session i).settings.delivery = .queued)
  unfold Relay.newChannel
  dsimp only
  cases (w.session i).settings.delivery <;> rfl

/-- A buffer that has been exposed is exposed. -/
theorem Runtime.exposed_expose {v : View} {x r : Runtime} (h : x.expose v = .ok r) :
    r.exposed = exposing v x.exposed := by
  rw [(expose_eq_ok.mp h).2]
  rfl

/-- The buffers that are exposed once one more is. -/
theorem exposed_set {w : Relay} {n : Nat} {v : View} {r : Runtime}
    (h : (w.runtime n).expose v = .ok r) :
    (w.runtimes.set n r).map Runtime.exposed =
      (w.runtimes.map Runtime.exposed).modify n (exposing v) := by
  have hexposed := Runtime.exposed_expose h
  -- A place that no host has is exposed to nobody, before and after.
  rw [List.map_set]
  cases hn : w.runtimes[n]? with
  | none =>
    rw [modify_of_getElem?_eq_none _ (by simp [hn]), List.set_eq_of_length_le]
    simpa using hn
  | some x =>
    rw [modify_of_getElem? (a := x.exposed) _ (by simp [hn]), hexposed, Relay.runtime_eq hn]

/-- An operation of a session that is not being closed. -/
theorem Relay.perform_shift {w : Relay} {closing : List Nat} {i : Nat}
    (reaches : Nat → Nat → Prop) (op : Operation) (hcustody : Custody (w.standing closing))
    (hi : i < w.sessions.length) (hfree : i ∉ closing)
    (hreaches : ∀ d key address p, op = .openCamera d key address → w.target? d = some p →
      reaches i p) :
    Shift reaches (w.standing closing) ((op.perform i w).2.standing closing) := by
  obtain ⟨s, hs⟩ : ∃ s, w.sessions[i]? = some s := ⟨_, List.getElem?_eq_getElem hi⟩
  obtain ⟨hclosed, hfound⟩ := of_custody hcustody hs
  have hcases := perform_cases op hs hclosed hfound
  generalize op.perform i w = result at hcases ⊢
  obtain ⟨answer, v⟩ := result
  dsimp only at hcases ⊢
  generalize answer.failed = failed at hcases
  cases hcases with
  | idle op failed => exact .still
  | undone d key address p c c' target found residue closed =>
    have hstanding : ({ w with cameras := w.cameras.set p c' } : Relay).standing closing =
        { w.standing closing with cameras := (w.standing closing).cameras.set p c'.standing } := by
      simp [standing, List.map_set]
    rw [hstanding]
    refine .undone i p s.standing c.standing c'.standing (hreaches d key address p rfl target)
      (session_standing hs) closed (camera_standing found) ?_
    show c'.blank.standing = c.blank.release.standing
    rw [residue]
  | opened d key address p c rate b r target found closed still rated room exposed =>
    have hstanding : (w.opened i p c rate b r).standing closing =
        { (w.standing closing).update i
            (s.standing.holding p (w.standing closing).channels.length c.profile.serial rate) p
            (Session.prepared rate (w.standing closing).channels.length c.standing) with
          channels := (w.standing closing).channels ++ [(w.newChannel i b).wiring]
          exposed := (w.standing closing).exposed.modify s.runtime (exposing b.view) } := by
      unfold opened
      rw [session_eq hs]
      unfold standing
      simp only [exposed_set exposed, update, List.map_set, Standing.update, List.length_map,
        List.map_append, List.map_cons, List.map_nil]
      rfl
    rw [hstanding]
    have hserves := serves_newChannel i b w
    rw [session_eq hs] at hserves
    exact .opened i p s.standing c.standing rate (w.newChannel i b).wiring
      (hreaches d key address p rfl target) (session_standing hs) closed (camera_standing found)
      still hserves
  | unstarted timing o c held found state =>
    rw [standing_update]
    exact .unstarted i s.standing o.standing c.standing (session_standing hs) (held_standing held)
      (camera_standing found) hfree state
  | started timing o c held found state =>
    have hsession : Session.standing
        { s with
          state := .capturing
          timing := s.timing.setEnabled timing
          camera := some { o with device := { o.device with source := w.sourceOfRun c o } } } =
        { s.standing with state := .capturing, timing := { enabled := timing } } := by
      simp [Session.standing, OpenCamera.standing, TimingLog.setEnabled, held]
    show Shift reaches (w.standing closing)
      ((w.update i _ o.device.camera { c with capturing := true }).standing closing)
    rw [standing_update, hsession]
    exact .started i s.standing o.standing c.standing timing (session_standing hs)
      (held_standing held) (camera_standing found) hfree state
  | stopped o c held found state =>
    have hsession : Session.standing
        { s with
          state := .opened
          timing := s.timing.harvested
          camera := some { o with device := { o.device with source := none } } } =
        { s.standing with state := .opened, timing := {} } := by
      simp [Session.standing, OpenCamera.standing, TimingLog.harvested, held]
    rw [standing_exitSource, standing_update, hsession]
    exact .stopped i s.standing o.standing c.standing (session_standing hs) (held_standing held)
      (camera_standing found) hfree state
  | exposed o c held found =>
    -- What stands of a camera does not tell the exposure time.
    have hsame : (w.standing closing).update i s.standing o.device.camera
        (Camera.standing { c with exposureTime := s.settings.exposureTime }) =
        w.standing closing := by
      show (w.standing closing).update i s.standing o.device.camera c.standing = _
      rw [← standing_update, update_self hs found]
    rw [standing_update, hsame]
    exact .still

/-- The first part of closing. -/
theorem Relay.beginClose_shift {w : Relay} {closing : List Nat} {i : Nat} {s : Session}
    {o : OpenCamera} (reaches : Nat → Nat → Prop) (hcustody : Custody (w.standing closing))
    (hs : w.sessions[i]? = some s) (ho : s.camera = some o) :
    Shift reaches (w.standing closing) ((w.beginClose i).standing (i :: closing)) := by
  obtain ⟨c, hc⟩ := (of_custody hcustody hs).2 o ho
  have hsession : (halted s o c).standing = { s.standing with timing := {} } := by
    -- Only runs are timed: a log that closing leaves alone is off already.
    have htimed := hcustody.timed i s.standing (session_standing hs)
    have hoff : s.state ≠ .capturing → s.timing.enabled = false := by
      intro hstate
      cases hon : s.timing.enabled with
      | false => rfl
      | true => exact absurd (htimed hon) hstate
    by_cases hstate : s.state = .capturing
    · simp [halted, Session.standing, OpenCamera.standing, TimingLog.setEnabled, ho, hstate]
    · simp [halted, Session.standing, OpenCamera.standing, ho, hstate, hoff hstate]
  rw [beginClose_eq hs ho hc,
    standing_modifyChannel _ _ _ fun x _ => wiring_map_handoff Handoff.close x,
    ← exitSource_update, standing_exitSource, standing_update, hsession]
  exact .halted i s.standing o.standing c.standing (c.capturing && !stops s c)
    (session_standing hs) (held_standing ho) (camera_standing hc)

/-- A host that takes a buffer back changes what it exposes, and nothing else that stands. -/
theorem Relay.standing_retract (w : Relay) (closing : List Nat) (r : Nat) (v : View) :
    (w.modifyRuntime r (Runtime.retract v)).standing closing =
      { w.standing closing with
        exposed := (w.standing closing).exposed.modify r (·.filter (· ≠ v)) } := by
  unfold standing modifyRuntime
  rw [map_modify_of_comm (f := Runtime.exposed) fun x => rfl]

/-- The second part of closing. -/
theorem Relay.endClose_shift {w : Relay} {closing : List Nat} {i : Nat}
    (reaches : Nat → Nat → Prop) (hcustody : Custody (w.standing closing)) (hi : i ∈ closing) :
    Shift reaches (w.standing closing)
      ((w.endClose i).standing (closing.filter (· ≠ i))) := by
  obtain ⟨p, hp⟩ := hcustody.closing i hi
  obtain ⟨s, o, hs, ho, -⟩ := holds_standing.mp hp
  obtain ⟨c, hc⟩ := (of_custody hcustody hs).2 o ho
  -- The buffer that is withdrawn is the one of the session's channel.
  obtain ⟨x, hx, -⟩ := wired_of_custody hcustody (session_standing hs) (held_standing ho)
  have hview : w.channel o.channel = x := channel_eq hx
  have hrelay : (w.endClose i).standing (closing.filter (· ≠ i)) =
      { (w.standing closing).update i s.standing.closed o.device.camera c.standing.release with
        exposed := (w.standing closing).exposed.modify s.runtime (·.filter (· ≠ x.view))
        closing := closing.filter (· ≠ i) } := by
    rw [endClose_eq hs ho hc, standing_retract, standing_update, standing_exitSource,
      standing_exitThread, hview]
    rfl
  rw [hrelay]
  exact .ended i s.standing o.standing c.standing x.wiring (session_standing hs)
    (held_standing ho) (camera_standing hc) (channel_standing hx) hi

namespace World

variable {w : World σ} (h : Handler σ)

theorem of_ready {i : Nat} (hready : w.ready i = true) :
    i < w.relay.sessions.length ∧ i ∉ w.closing := by
  simpa [ready] using hready

/-- A session that takes calls, with the camera that it holds. -/
theorem holder_of_ready {i : Nat} (hcustody : Custody w.standing) (hready : w.ready i = true)
    (hheld : (w.relay.session i).camera.isSome = true) :
    ∃ s o c, w.relay.sessions[i]? = some s ∧ s.camera = some o ∧
      w.relay.cameras[o.device.camera]? = some c := by
  have hs := List.getElem?_eq_getElem (of_ready hready).1
  rw [Relay.session_eq hs] at hheld
  obtain ⟨o, ho⟩ := Option.isSome_iff_exists.mp hheld
  obtain ⟨c, hc⟩ := (Relay.of_custody hcustody hs).2 o ho
  exact ⟨_, o, c, hs, ho, hc⟩

/-- A session that is being closed, with the camera that it holds. -/
theorem holder_of_closing {i : Nat} (hcustody : Custody w.standing) (hi : i ∈ w.closing) :
    ∃ s o c, w.relay.sessions[i]? = some s ∧ s.camera = some o ∧
      w.relay.cameras[o.device.camera]? = some c := by
  obtain ⟨p, hp⟩ := hcustody.closing i hi
  obtain ⟨s, o, hs, ho, -⟩ := Relay.holds_standing.mp hp
  obtain ⟨c, hc⟩ := (Relay.of_custody hcustody hs).2 o ho
  exact ⟨s, o, c, hs, ho, hc⟩

/-- Closing can go on. -/
theorem of_endClose {i : Nat} (hready : (w.closing.contains i && w.dispatched i) = true) :
    i ∈ w.closing ∧ w.dispatched i = true := by
  simpa using hready

variable (w) in
/-- An operation is carried out, unless it is not the time for it. -/
theorem step_operate_cases (i : Nat) (op : Operation) :
    (w.step h (.operate i op)).2 = w ∨
      i < w.relay.sessions.length ∧ i ∉ w.closing ∧
        (w.step h (.operate i op)).2 = w.setRelay (op.perform i w.relay).2 := by
  unfold step
  dsimp only
  by_cases hready : w.ready i
  · rw [if_pos hready]
    obtain ⟨hi, hfree⟩ := of_ready hready
    exact .inr ⟨hi, hfree, rfl⟩
  · rw [if_neg hready]
    exact .inl rfl

/-- Closing begins only for a session that holds a camera. -/
theorem step_beginClose_cases (hcustody : Custody w.standing) (i : Nat) :
    (w.step h (.beginClose i)).2 = w ∨
      ∃ s o c, w.relay.sessions[i]? = some s ∧ s.camera = some o ∧
        w.relay.cameras[o.device.camera]? = some c ∧
        (w.step h (.beginClose i)).2 =
          { w.setRelay (w.relay.beginClose i) with closing := i :: w.closing } := by
  unfold step
  dsimp only
  by_cases hready : w.ready i
  · rw [if_pos hready]
    by_cases hheld : (w.relay.session i).camera.isSome
    · rw [if_pos hheld]
      obtain ⟨s, o, c, hs, ho, hc⟩ := holder_of_ready hcustody hready hheld
      exact .inr ⟨s, o, c, hs, ho, hc, rfl⟩
    · rw [if_neg hheld]
      exact .inl rfl
  · rw [if_neg hready]
    exact .inl rfl

/-- Closing goes on only once the dispatch thread has ended. -/
theorem step_endClose_cases (hcustody : Custody w.standing) (i : Nat) :
    (w.step h (.endClose i)).2 = w ∨
      i ∈ w.closing ∧ w.dispatched i = true ∧
        ∃ s o c, w.relay.sessions[i]? = some s ∧ s.camera = some o ∧
          w.relay.cameras[o.device.camera]? = some c ∧
          (w.step h (.endClose i)).2 =
            { w.setRelay (w.relay.endClose i) with closing := w.closing.filter (· ≠ i) } := by
  unfold step
  dsimp only
  by_cases hready : w.closing.contains i && w.dispatched i
  · rw [if_pos hready]
    obtain ⟨hi, hdispatched⟩ := of_endClose hready
    obtain ⟨s, o, c, hs, ho, hc⟩ := holder_of_closing hcustody hi
    exact .inr ⟨hi, hdispatched, s, o, c, hs, ho, hc, rfl⟩
  · rw [if_neg hready]
    exact .inl rfl

variable (w) in
/-- A frame source wakes up, if the session has one. -/
theorem step_wake_cases (i : Nat) :
    (w.step h (.wake i)).2 = w ∨
      ∃ source, (w.step h (.wake i)).2 = { w with toLive := w.toLive.wake h i source } := by
  unfold step
  dsimp only
  cases (w.relay.session i).source? with
  | none => exact .inl rfl
  | some source => exact .inr ⟨source, rfl⟩

/-- A step that is no caller's changes nothing of what stands. -/
theorem standing_step {e : Event} (hcaller : e.caller? = none) :
    (w.step h e).2.standing = w.standing := by
  cases e with
  | operate j op | beginClose j | endClose j => exact absurd hcaller (by simp [Event.caller?])
  | emit worker camera points =>
    exact Live.standing_emit w.closing h w.toLive (.worker worker) camera points
  | dispatch k => exact Live.standing_dispatch w.closing h w.toLive k
  | wake i =>
    rcases w.step_wake_cases h i with hsame | ⟨source, hafter⟩
    · rw [hsame]
    · rw [hafter]
      exact Live.standing_wake w.closing h w.toLive i source
  | fail camera op s => exact Relay.standing_modifyCamera w.closing w.relay camera fun _ => rfl
  | clearFaults camera => exact Relay.standing_modifyCamera w.closing w.relay camera fun _ => rfl
  | disableAttach r on => exact Relay.standing_modifyRuntime w.closing w.relay r fun _ _ => rfl
  | refuseBuffers r fault => exact Relay.standing_modifyRuntime w.closing w.relay r fun _ _ => rfl
  | exitWorker worker => exact Relay.standing_exitThread w.closing w.relay (.worker worker)
  | pass nanos => rfl

/-- **What a step can do** to what stands. -/
theorem step_shift (e : Event) (hcustody : Custody w.standing) :
    Shift (e.Reaches w.relay) w.standing (w.step h e).2.standing := by
  cases e with
  | operate i op =>
    rcases w.step_operate_cases h i op with hsame | ⟨hi, hfree, hafter⟩
    · rw [hsame]
      exact .still
    · rw [hafter]
      refine Relay.perform_shift _ op hcustody hi hfree ?_
      rintro d key address p rfl htarget
      exact ⟨hi, d, key, address, rfl, htarget⟩
  | beginClose i =>
    rcases step_beginClose_cases h hcustody i with hsame | ⟨s, o, c, hs, ho, -, hafter⟩
    · rw [hsame]
      exact .still
    · rw [hafter]
      exact Relay.beginClose_shift _ hcustody hs ho
  | endClose i =>
    rcases step_endClose_cases h hcustody i with hsame | ⟨hi, -, s, o, c, -, -, -, hafter⟩
    · rw [hsame]
      exact .still
    · rw [hafter]
      exact Relay.endClose_shift _ hcustody hi
  | _ => exact .of_eq (standing_step h rfl)

/-- No session comes or goes. -/
theorem length_sessions_step (hcustody : Custody w.standing) (e : Event) :
    (w.step h e).2.relay.sessions.length = w.relay.sessions.length := by
  have hlength := (step_shift h e hcustody).length_sessions
  simpa only [standing, Relay.standing, List.length_map] using hlength

/-- Cameras stay what they are. -/
theorem profiles_step (e : Event) (hcustody : Custody w.standing) :
    (w.step h e).2.relay.cameras.map Camera.profile = w.relay.cameras.map Camera.profile := by
  have hprofiles := (step_shift h e hcustody).profiles
  simp only [standing, Relay.standing, List.map_map] at hprofiles
  exact hprofiles

/-! ### Whole runs -/

/-- **Custody holds in all runs.** -/
theorem custody_run (events : List Event) (hcustody : Custody w.standing) :
    Custody (w.run h events).standing := by
  induction events generalizing w with
  | nil => exact hcustody
  | cons e rest ih => exact ih (hcustody.shift (step_shift h e hcustody))

/-- A run leaves every camera what it is. -/
theorem profiles_run (events : List Event) (hcustody : Custody w.standing) :
    (w.run h events).relay.cameras.map Camera.profile = w.relay.cameras.map Camera.profile := by
  induction events generalizing w with
  | nil => rfl
  | cons e rest ih =>
    exact (ih (hcustody.shift (step_shift h e hcustody))).trans (profiles_step h e hcustody)

/-- What is fixed about sessions, along a schedule. -/
theorem fixed_run (events : List Event) (hcustody : Custody w.standing) :
    (w.run h events).relay.sessions.map (fun s => (s.runtime, s.settings)) =
      w.relay.sessions.map fun s => (s.runtime, s.settings) := by
  induction events generalizing w with
  | nil => rfl
  | cons e rest ih =>
    have hshift := step_shift h e hcustody
    have hfixed := hshift.fixed
    simp only [standing, Relay.standing, List.map_map] at hfixed
    exact (ih (hcustody.shift hshift)).trans hfixed

/-- One step keeps cameras attuned if it opens no camera that is in other hands. -/
theorem attuned_step (e : Event) (hcustody : Custody w.standing) (hattuned : Attuned w.standing)
    (hprivate : e.Private w) : Attuned (w.step h e).2.standing := by
  refine hattuned.shift hcustody ?_ (step_shift h e hcustody)
  intro i p j hreach hholds
  exact hprivate i p j hreach (Relay.holds_standing.mp hholds)

/-- In the beginning nobody holds anything. -/
theorem not_holds_fresh (profiles : List CameraProfile) (runtimes : Nat)
    (sessions : List (Nat × Settings)) (host : σ) (now i p : Nat) :
    ¬(fresh profiles runtimes sessions host now).standing.Holds i p := by
  rw [show (fresh profiles runtimes sessions host now).standing.Holds i p ↔ _ from
    Relay.holds_standing]
  rintro ⟨s, o, hs, ho, -⟩
  simp only [fresh, List.getElem?_map, Option.map_eq_some_iff] at hs
  obtain ⟨_, _, rfl⟩ := hs
  exact absurd ho (by simp)

/-- Nothing is held at the start. -/
theorem custody_fresh (profiles : List CameraProfile) (runtimes : Nat)
    (sessions : List (Nat × Settings)) (host : σ) (now : Nat) :
    Custody (fresh profiles runtimes sessions host now).standing := by
  have hsession {i : Nat} {s : Session}
      (hs : (fresh profiles runtimes sessions host now).standing.sessions[i]? = some s) :
      s.state = .closed ∧ s.camera = none ∧ s.timing.enabled = false := by
    simp only [standing, Relay.standing, fresh, List.getElem?_map, Option.map_eq_some_iff] at hs
    obtain ⟨_, ⟨_, _, rfl⟩, rfl⟩ := hs
    exact ⟨rfl, rfl, rfl⟩
  have hcamera {p : Nat} {c : Camera Nat}
      (hc : (fresh profiles runtimes sessions host now).standing.cameras[p]? = some c) :
      c.initialized = false ∧ c.capturing = false ∧ c.listener = none := by
    simp only [standing, Relay.standing, fresh, List.getElem?_map, Option.map_eq_some_iff] at hc
    obtain ⟨_, ⟨_, _, rfl⟩, rfl⟩ := hc
    exact ⟨rfl, rfl, rfl⟩
  -- Closed sessions hold nothing, and cameras serve nobody, so that each clause is empty.
  refine ⟨?_, ?_, ?_, ?_, ?_, ?_, ?_, ?_⟩
  · intro i s hs
    simp [hsession hs]
  · intro i s hs hon
    simp [hsession hs] at hon
  · intro i s o hs ho
    simp [hsession hs] at ho
  · intro i s o hs ho
    simp [hsession hs] at ho
  · intro i hi
    exact absurd hi (by simp [standing, Relay.standing, fresh])
  · intro i s hi
    exact absurd hi (by simp [standing, Relay.standing, fresh])
  · intro p c hc hactive
    simp [hcamera hc] at hactive
  · intro p k c hc hk
    simp [hcamera hc] at hk

/-- At the start no camera captures, and every session is closed. -/
theorem attuned_fresh (profiles : List CameraProfile) (runtimes : Nat)
    (sessions : List (Nat × Settings)) (host : σ) (now : Nat) :
    Attuned (fresh profiles runtimes sessions host now).standing := by
  have hnone {i : Nat} {s : Session} {o : OpenCamera}
      (hs : (fresh profiles runtimes sessions host now).standing.sessions[i]? = some s) :
      s.camera ≠ some o := fun ho =>
    not_holds_fresh profiles runtimes sessions host now i _ ⟨s, o, hs, ho, rfl⟩
  refine ⟨?_, ?_, ?_⟩
  · intro i j p hi
    exact absurd hi (not_holds_fresh profiles runtimes sessions host now i p)
  · intro i s o c hs ho
    exact absurd ho (hnone hs)
  · intro i s o c _ hs ho
    exact absurd ho (hnone hs)

/-- A world with one session, whose cameras nobody else can open. -/
structure Single (w : World σ) : Prop where
  custody : Custody w.standing
  attuned : Attuned w.standing
  length_sessions : w.relay.sessions.length = 1

/-- A relay with one session has one. -/
theorem single_solo (profiles : List CameraProfile) (settings : Settings) (host : σ) (now : Nat) :
    (solo profiles settings host now).Single where
  custody := custody_fresh profiles 1 [(0, settings)] host now
  attuned := attuned_fresh profiles 1 [(0, settings)] host now
  length_sessions := rfl

/-- A single session shares its cameras with nobody. -/
theorem Single.private (hsingle : w.Single) (e : Event) : e.Private w := by
  rintro i p j ⟨hi, -⟩ ⟨s, o, hs, -, -⟩
  have hj := (List.getElem?_eq_some_iff.mp hs).1
  have hlength := hsingle.length_sessions
  omega

/-- A relay with one session keeps that session, and all that is true of cameras nobody shares. -/
theorem Single.run (hsingle : w.Single) (events : List Event) : (w.run h events).Single := by
  induction events generalizing w with
  | nil => exact hsingle
  | cons e rest ih =>
    have hshift := step_shift h e hsingle.custody
    apply ih
    refine ⟨hsingle.custody.shift hshift,
      attuned_step h e hsingle.custody hsingle.attuned (hsingle.private e), ?_⟩
    rw [length_sessions_step h hsingle.custody, hsingle.length_sessions]

end World

/-! ### Coherence -/

/-- The camera is not in use. -/
def Camera.Idle (c : Camera Nat) : Prop :=
  c.initialized = false ∧ c.capturing = false ∧ c.listener = none

/-- A camera that nobody holds is not in use. -/
theorem Relay.idle_of_not_holds {w : Relay} {closing : List Nat} {p : Nat} {c : Camera Nat}
    (hcustody : Custody (w.standing closing)) (hc : w.cameras[p]? = some c)
    (hunheld : ∀ i, ¬w.Holds i p) : c.Idle := by
  have hc' : (w.standing closing).cameras[p]? = some c.standing := camera_standing hc
  have hinactive : ¬(c.initialized = true ∨ c.capturing = true) := by
    intro hactive
    obtain ⟨i, hi⟩ := hcustody.vacant p c.standing hc' hactive
    exact hunheld i (holds_standing.mp hi)
  have hunheard : c.listener = none := by
    cases hlistener : c.listener with
    | none => rfl
    | some k =>
      obtain ⟨i, t, o, ht, ho, hplace, -⟩ := hcustody.heard p k c.standing hc' hlistener
      exact absurd (holds_standing.mp ⟨t, o, ht, ho, hplace⟩) (hunheld i)
  simp only [not_or, Bool.not_eq_true] at hinactive
  exact ⟨hinactive.1, hinactive.2, hunheard⟩

/-- The place of the camera that a session holds. -/
def Session.place? (s : Session) : Option Nat := s.camera.map (·.device.camera)

/-- The session `s` at place `i` and the cameras of the relay keep together. -/
structure Session.Coherent (s : Session) (i : Nat) (w : Relay) : Prop where
  closed : s.state = .closed ↔ s.camera = none
  /-- No camera is in use but the one that the session holds, and none if the session is closed. -/
  idle : ∀ p c, w.cameras[p]? = some c → s.place? ≠ some p → c.Idle
  /-- The camera that the session holds. -/
  held : ∀ o, s.camera = some o → ∃ c, w.cameras[o.device.camera]? = some c ∧
    c.profile.serial = o.serial ∧ c.initialized = true ∧
    c.listener = some o.channel ∧ (w.channel o.channel).session = i ∧
    c.useCase = some o.rate.useCase ∧ c.exposureMode = .manual ∧
    (c.capturing = true ↔ s.state = .capturing)
  timed : s.timing.enabled = true → s.state = .capturing

namespace World

/-- The camera that a session holds. -/
theorem Single.held {w : World σ} (hsingle : w.Single) {i : Nat} (hfree : i ∉ w.closing)
    {s : Session} {o : OpenCamera} (hs : w.relay.sessions[i]? = some s) (ho : s.camera = some o) :
    ∃ c, w.relay.cameras[o.device.camera]? = some c ∧ c.profile.serial = o.serial ∧
      c.initialized = true ∧ c.listener = some o.channel ∧
      (w.relay.channel o.channel).session = i ∧ c.useCase = some o.rate.useCase ∧
      c.exposureMode = .manual ∧ (c.capturing = true ↔ s.state = .capturing) := by
  have hs' : w.standing.sessions[i]? = some s.standing := Relay.session_standing hs
  have ho' := Relay.held_standing ho
  obtain ⟨d, hd, hserial⟩ := hsingle.custody.found i s.standing o.standing hs' ho'
  obtain ⟨hinitialized, huse, hmode⟩ := hsingle.attuned.configured i _ _ d hs' ho' hd
  obtain ⟨hlistener, hcapturing⟩ := hsingle.attuned.following i _ _ d hfree hs' ho' hd
  obtain ⟨x, hx, hserves⟩ := Relay.wired_of_custody hsingle.custody hs' ho'
  obtain ⟨c, hc, rfl⟩ := Relay.of_camera_standing hd
  refine ⟨c, hc, hserial, hinitialized, hlistener, ?_, huse, hmode, hcapturing⟩
  have hchannel : w.relay.channel o.channel = x := Relay.channel_eq hx
  rw [hchannel]
  exact hserves.session

/-- A single session that is not being closed is coherent with the cameras. -/
theorem Single.coherent {w : World σ} (hsingle : w.Single) (hfree : 0 ∉ w.closing) {s : Session}
    (hs : w.relay.sessions[0]? = some s) : s.Coherent 0 w.relay where
  closed := (Relay.of_custody hsingle.custody hs).1
  idle := by
    intro p c hc hp
    refine Relay.idle_of_not_holds hsingle.custody hc ?_
    rintro i ⟨t, o, ht, ho, hplace⟩
    have hi := (List.getElem?_eq_some_iff.mp ht).1
    rw [hsingle.length_sessions] at hi
    obtain rfl : i = 0 := by omega
    obtain rfl : s = t := Option.some.inj (hs.symm.trans ht)
    exact hp (by simp [Session.place?, ho, hplace])
  held := fun _ ho => hsingle.held hfree hs ho
  timed := hsingle.custody.timed 0 s.standing (Relay.session_standing hs)

end World

/-- Frames find a listener at the camera from which a coherent session captures, and nowhere
    else. -/
theorem Session.Coherent.listener?_ne_none {s : Session} {i : Nat} {w : Relay}
    (hcoherent : s.Coherent i w) (p : Nat) :
    w.listener? p ≠ none ↔ s.state = .capturing ∧ s.place? = some p := by
  constructor
  · intro hlistener
    obtain ⟨k, hk⟩ := Option.ne_none_iff_exists'.mp hlistener
    obtain ⟨c, hc, hcapturing, -⟩ := Relay.listener?_eq_some.mp hk
    -- A camera that captures is in use, so it is the one that the session holds.
    have hplace : s.place? = some p := by
      by_cases hplace : s.place? = some p
      · exact hplace
      · obtain ⟨-, hidle, -⟩ := hcoherent.idle p c hc hplace
        exact absurd (hcapturing.symm.trans hidle) (by simp)
    obtain ⟨o, ho, hp⟩ := Option.map_eq_some_iff.mp hplace
    obtain ⟨d, hd, -, -, -, -, -, -, hfollowing⟩ := hcoherent.held o ho
    obtain rfl : c = d := Option.some.inj (hc.symm.trans (hp ▸ hd))
    exact ⟨hfollowing.mp hcapturing, hplace⟩
  · rintro ⟨hstate, hplace⟩
    obtain ⟨o, ho, rfl⟩ := Option.map_eq_some_iff.mp hplace
    obtain ⟨c, hc, -, -, hlistener, -, -, -, hfollowing⟩ := hcoherent.held o ho
    have hk := Relay.listener?_eq_some.mpr ⟨c, hc, hfollowing.mpr hstate, hlistener⟩
    rw [hk]
    simp

/-- **A session and its camera never drift apart.**  A session that has the cameras for itself is
    coherent with them after every schedule, as long as it is not in the middle of being closed, and
    an injected frame finds a listener if and only if the session captures from that camera. -/
theorem session_coherence (profiles : List CameraProfile) (settings : Settings) (host : σ)
    (now : Nat) (h : Handler σ) (events : List Event) :
    let w := (World.solo profiles settings host now).run h events
    0 ∉ w.closing → ∃ s, w.relay.sessions = [s] ∧ s.Coherent 0 w.relay ∧
      ∀ t p points,
        ((w.toLive.emit h t p points).1 = .ok false ↔
          ¬(s.state = .capturing ∧ s.place? = some p)) ∧
        (h.Returns → ((w.toLive.emit h t p points).1 = .ok true ↔
          s.state = .capturing ∧ s.place? = some p)) := by
  intro w hfree
  have hsingle : w.Single := (World.single_solo profiles settings host now).run h events
  obtain ⟨s, hs⟩ := List.length_eq_one_iff.mp hsingle.length_sessions
  have hcoherent := hsingle.coherent hfree (s := s) (by simp [hs])
  refine ⟨s, hs, hcoherent, fun t p points => ?_⟩
  have hlistener := hcoherent.listener?_ne_none p
  -- The answer tells whether there was a listener, and that is known by coherence.
  rcases w.toLive.emit_answer h t p points with ⟨hnone, hfalse⟩ | ⟨hsome, htaken⟩
  · have hnot : ¬(s.state = .capturing ∧ s.place? = some p) := fun hcaptures =>
      hlistener.mpr hcaptures hnone
    simp [hfalse, hnot]
  · have hcaptures := hlistener.mp hsome
    rcases htaken with htrue | ⟨habort, a, herror⟩
    · simp [htrue, hcaptures]
    · exact ⟨by simp [herror, hcaptures], fun hreturns => absurd hreturns habort⟩

/-- The driver refuses to stop: the session still captures, and so does its camera. -/
theorem session_coherence_refused_stop :
    let w := (World.solo [{ serial := "A", fd := 3 }, { serial := "B", fd := 4 }]
      { maxPoints := 2 } () 0).run .accepting
      [.operate 0 (.openCamera ⟨4⟩ 5 64), .operate 0 (.start true),
        .fail 1 .stopCapture .deviceIsBusy, .operate 0 .stop]
    0 ∉ w.closing ∧ ∃ s, w.relay.sessions = [s] ∧ s.Coherent 0 w.relay ∧
      s.state = .capturing ∧ s.place? = some 1 ∧
      ∀ t points, (w.toLive.emit .accepting t 1 points).1 = .ok true := by
  intro w
  have hfree : 0 ∉ w.closing := by decide
  obtain ⟨s, hs, hcoherent, hemit⟩ := session_coherence _ _ _ _ Handler.accepting _ hfree
  have hsession : w.relay.session 0 = s := Relay.session_eq (by rw [hs]; rfl)
  have hstate : s.state = .capturing := by
    rw [← hsession]
    decide
  have hplace : s.place? = some 1 := by
    rw [← hsession]
    decide
  refine ⟨hfree, s, hs, hcoherent, hstate, hplace, fun t points => ?_⟩
  refine ((hemit t 1 points).2 ?_).mpr ⟨hstate, hplace⟩
  intro r d host reason
  simp [Handler.accepting]

end DepthRelay
