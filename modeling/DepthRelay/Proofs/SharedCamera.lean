import DepthRelay.Proofs.Passage

namespace DepthRelay

/-!
# A camera that a second session opens

A camera lets every session have a device object that asks for one, and each of these objects takes
the camera back when it is gone.  So a session keeps the use of its camera exactly as long as no
other session gets an object for it.

* `Camera.usage`, `Relay.usage?` — what device objects have made of a camera.
* `Relay.boards?` — the camera for which an opening makes a device object.
* `World.Spares` — a camera and the session that holds it come out of a step as they were.
* `second_opening_spares_iff` — when a second opening spares the camera.
-/

variable {σ : Type}

/-! ### The use of a camera -/

/-- What device objects have made of a camera: whether it is initialised, whether it captures, and
    who listens. -/
def Camera.usage {L : Type} (c : Camera L) : Bool × Bool × Option L :=
  (c.initialized, c.capturing, c.listener)

/-- The use of the camera at a place. -/
def Relay.usage? (p : Nat) (w : Relay) : Option (Bool × Bool × Option Nat) :=
  (w.cameras[p]?).map Camera.usage

/-- The place of the camera for which an opening makes a device object, if it comes that far. -/
def Relay.boards? (d : Descriptor) (key : UInt32) (i : Nat) (w : Relay) : Option Nat :=
  if (w.session i).state = .closed ∧ (FrameRate.ofKey? key).isSome then
    (w.target? d).filter fun p => (w.cameras[p]?).any fun c => (c.fault? .createCamera).isNone
  else none

namespace Relay

variable {d : Descriptor} {key : UInt32} {address i p q : Nat} {v w : Relay}

variable (address) in
/-- An opening that makes no device object leaves everything as it was. -/
theorem openSession_of_boards?_eq_none (h : w.boards? d key i = none) :
    ∃ e, w.openSession d key address i = (.error e, w) := by
  unfold boards? target? at h
  unfold openSession
  by_cases hclosed : (w.session i).state = .closed
  · rw [if_pos hclosed]
    cases hrate : FrameRate.ofKey? key with
    | none => exact ⟨_, rfl⟩
    | some rate =>
      rw [if_pos ⟨hclosed, by simp [hrate]⟩] at h
      dsimp only
      cases hserials : connected w.cameras d with
      | nil => exact ⟨_, rfl⟩
      | cons serial rest =>
        cases rest with
        | cons _ _ => exact ⟨_, rfl⟩
        | nil =>
          rw [hserials] at h
          dsimp only at h ⊢
          cases hp : place? w.cameras serial with
          | none => exact ⟨_, rfl⟩
          | some p =>
            rw [hp] at h
            cases hc : w.cameras[p]? with
            | none =>
              rw [Option.bind_some, hc]
              exact ⟨_, rfl⟩
            | some c =>
              -- The driver refuses to make the object.
              cases hfault : c.fault? .createCamera with
              | none => simp [hc, hfault] at h
              | some e =>
                rw [Option.bind_some, hc]
                refine ⟨.device "create the camera device" e, ?_⟩
                dsimp only [Option.map_some]
                unfold openCamera
                rw [hfault]
  · rw [if_neg hclosed]
    exact ⟨_, rfl⟩

variable (address) in
/-- **An opening that makes a device object** succeeds on a camera that does not capture, or gives
    the camera back. -/
theorem openSession_of_boards? (h : w.boards? d key i = some p) :
    ∃ c, w.cameras[p]? = some c ∧
      ((∃ e c', c'.blank = c.blank.release ∧
          w.openSession d key address i = (.error e, { w with cameras := w.cameras.set p c' })) ∨
        ∃ rate b r, c.capturing = false ∧
          w.openSession d key address i = (.ok (), w.opened i p c rate b r)) := by
  unfold boards? at h
  split at h
  · next hready =>
    obtain ⟨hclosed, hrate⟩ := hready
    obtain ⟨rate, hrate⟩ := Option.isSome_iff_exists.mp hrate
    obtain ⟨htarget, hany⟩ := Option.filter_eq_some_iff.mp h
    obtain ⟨c, hc, hnone⟩ := (Option.any_eq_true ..).mp hany
    have hfault : c.fault? .createCamera = none := by simpa using hnone
    refine ⟨c, hc, ?_⟩
    -- What is asked for is there, so that the opening goes straight to its camera.
    have hopens : w.openSession d key address i = w.openCamera p c rate address i := by
      unfold target? at htarget
      unfold openSession
      rw [if_pos hclosed, hrate]
      dsimp only
      split at htarget
      · next serial hserials =>
        rw [hserials]
        dsimp only
        rw [htarget, Option.bind_some, hc]
        rfl
      · exact absurd htarget (by simp)
    -- The camera may still refuse to be configured; then it is released again.
    have hends := Session.configure_ends rate w.channels.length
      (FrameBuffer.ofCapacity address (w.session i).settings.maxPoints.toNat) c
    rw [hopens]
    unfold openCamera Session.Ends at *
    rw [hfault]
    dsimp only
    cases hr : Session.refusal? rate
        (FrameBuffer.ofCapacity address (w.session i).settings.maxPoints.toNat) c with
    | some e =>
      rw [hr] at hends
      obtain ⟨c', hconfigure, hresidue⟩ := hends
      rw [hconfigure]
      exact .inl ⟨e, c'.release, hresidue, rfl⟩
    | none =>
      rw [hr] at hends
      obtain ⟨b, c', hconfigure, hresidue, -, rfl⟩ := hends
      rw [hconfigure]
      dsimp only
      -- After that only the host can refuse.
      cases (w.runtime (w.session i).runtime).expose b.view with
      | error e => exact .inl ⟨_, _, hresidue, rfl⟩
      | ok r => exact .inr ⟨rate, b, r, Session.idle_of_refusal?_eq_none hr, rfl⟩
  · exact absurd h (by simp)

/-- The camera that is boarded is the one that was asked for. -/
theorem target?_of_boards? (h : w.boards? d key i = some p) : w.target? d = some p := by
  unfold boards? at h
  split at h
  · exact (Option.filter_eq_some_iff.mp h).1
  · exact absurd h (by simp)

/-- Only a closed session boards a camera. -/
theorem closed_of_boards? {s : Session} (hs : w.sessions[i]? = some s)
    (h : w.boards? d key i = some p) : s.state = .closed := by
  unfold boards? at h
  split at h
  · next hready =>
    rw [session_eq hs] at hready
    exact hready.1
  · exact absurd h (by simp)

variable (address) in
/-- The use of the camera once a device object has been made for it: the new session has it, or
    nobody. -/
theorem usage?_openSession (h : w.boards? d key i = some p) :
    (w.openSession d key address i).2.usage? p =
      some (match (w.openSession d key address i).1 with
        | .ok () => (true, false, some w.channels.length)
        | .error _ => (false, false, none)) := by
  obtain ⟨c, hc, ⟨e, c', hresidue, hafter⟩ | ⟨rate, b, r, hidle, hafter⟩⟩ :=
    openSession_of_boards? address h
  · obtain ⟨-, hlistener, hinitialized, hcapturing⟩ := Camera.residue hresidue
    rw [hafter]
    unfold usage?
    dsimp only
    rw [getElem?_set_of_some hc, Option.map_some, Camera.usage, hlistener, hinitialized, hcapturing]
  · rw [hafter]
    unfold usage?
    rw [show (w.opened i p c rate b r).cameras[p]? = some _ from getElem?_set_of_some hc,
      Option.map_some, Camera.usage, ← hidle]
    rfl

/-- The answer to stopping a session goes by the session and by its camera. -/
theorem stop_answer {s : Session} {o : OpenCamera} {c : Camera Nat} (hs : w.sessions[i]? = some s)
    (hs' : v.sessions[i]? = some s) (ho : s.camera = some o)
    (hc : w.cameras[o.device.camera]? = some c) (hc' : v.cameras[o.device.camera]? = some c) :
    (v.stop i).1 = (w.stop i).1 := by
  by_cases hstate : s.state = .capturing
  · rw [stop_eq hs ho hc hstate, stop_eq hs' ho hc' hstate]
    cases c.obstacle? .stopCapture <;> rfl
  · rw [stop_of_ne hs hstate, stop_of_ne hs' hstate]

end Relay

/-! ### Steps that leave a session and its camera alone -/

namespace World

variable {h : Handler σ} {u v w : World σ} {i j p : Nat}

/-- The session at place `i` and the camera at place `p` are the same in both worlds. -/
structure Keeps (i p : Nat) (w v : World σ) : Prop where
  session : v.relay.sessions[i]? = w.relay.sessions[i]?
  camera : v.relay.cameras[p]? = w.relay.cameras[p]?
  ready : v.ready i = w.ready i

theorem Keeps.rfl : w.Keeps i p w := ⟨Eq.refl _, Eq.refl _, Eq.refl _⟩

theorem Keeps.trans (hwv : w.Keeps i p v) (hvu : v.Keeps i p u) : w.Keeps i p u :=
  ⟨hvu.session.trans hwv.session, hvu.camera.trans hwv.camera, hvu.ready.trans hwv.ready⟩

/-- Another session changes and works on another camera. -/
theorem keeps_of_set {q : Nat} {s : Session} {c : Camera Nat} (hij : i ≠ j) (hqp : q ≠ p)
    (hsessions : v.relay.sessions = w.relay.sessions.set j s)
    (hcameras : v.relay.cameras = w.relay.cameras.set q c)
    (hclosing : v.closing.contains i = w.closing.contains i) : w.Keeps i p v where
  session := by rw [hsessions, List.getElem?_set_ne (Ne.symm hij)]
  camera := by rw [hcameras, List.getElem?_set_ne hqp]
  ready := by
    unfold ready
    rw [hsessions, List.length_set, hclosing]

/-- A camera that the session at place `j` does not hold comes through the closing of that
    session. -/
theorem keeps_beginClose (h : Handler σ) (hcustody : Custody w.standing) (hij : i ≠ j)
    (hother : ¬w.relay.Holds j p) : w.Keeps i p (w.step h (.beginClose j)).2 := by
  rcases step_beginClose_cases h hcustody j with hsame | ⟨s, o, c, hs, ho, hc, hafter⟩
  · rw [hsame]
    exact .rfl
  · have hbegin := Relay.beginClose_eq hs ho hc
    rw [hafter]
    refine keeps_of_set (q := o.device.camera) (s := Relay.halted s o c) (c := Relay.quiet s c) hij
      (fun hp => hother ⟨s, o, hs, ho, hp⟩) ?_ ?_ (by simp [hij])
    · show (w.relay.beginClose j).sessions = _
      rw [hbegin]
      cases (if Relay.stops s c then o.device.source else none) <;> exact Eq.refl _
    · show (w.relay.beginClose j).cameras = _
      rw [hbegin]
      cases (if Relay.stops s c then o.device.source else none) <;> exact Eq.refl _

/-- The end of a close leaves another session's camera as it was. -/
theorem keeps_endClose (h : Handler σ) (hcustody : Custody w.standing) (hij : i ≠ j)
    (hother : ¬w.relay.Holds j p) : w.Keeps i p (w.step h (.endClose j)).2 := by
  rcases step_endClose_cases h hcustody j with hsame | ⟨-, -, s, o, c, hs, ho, hc, hafter⟩
  · rw [hsame]
    exact .rfl
  · have hend := Relay.endClose_eq hs ho hc
    rw [hafter]
    refine keeps_of_set (q := o.device.camera) (s := s.closed) (c := c.release) hij
      (fun hp => hother ⟨s, o, hs, ho, hp⟩) ?_ ?_ (by simp [hij])
    · show (w.relay.endClose j).sessions = _
      rw [hend]
      cases o.device.source <;> exact Eq.refl _
    · show (w.relay.endClose j).cameras = _
      rw [hend]
      cases o.device.source <;> exact Eq.refl _

/-! ### Sparing a camera -/

variable (h) in
/-- The camera at place `p`, which the session at place `i` holds, is in `v` as it was in `w`: its
    use is the same, frames reach the channel that they reached, and a stop that succeeded succeeds
    with the same samples. -/
structure Spares (i p : Nat) (w v : World σ) : Prop where
  usage : v.relay.usage? p = w.relay.usage? p
  frames : ∀ worker points k, w.arrived? (.emit worker p points) = some (k, points) →
    v.arrived? (.emit worker p points) = some (k, points)
  stop : ∀ l, (w.step h (.operate i .stop)).1 = .answered (.samples (.ok l)) →
    (v.step h (.operate i .stop)).1 = .answered (.samples (.ok l))

/-- A frame arrives where the use of the camera says. -/
theorem arrived?_of_usage? (husage : v.relay.usage? p = w.relay.usage? p) (worker : String)
    (points : List Point) :
    v.arrived? (.emit worker p points) = w.arrived? (.emit worker p points) := by
  have hlistener (w : World σ) : w.relay.listener? p =
      (w.relay.usage? p).bind fun (_, capturing, listener) =>
        if capturing then listener else none := by
    unfold Relay.listener? Relay.usage?
    cases w.relay.cameras[p]? with
    | none => rfl
    | some c => rfl
  show (v.relay.listener? p).map _ = (w.relay.listener? p).map _
  rw [hlistener v, hlistener w, husage]

/-- A step that leaves the session and its camera alone spares the camera. -/
theorem Keeps.spares (hwv : w.Keeps i p v) (hcustody : Custody w.standing)
    (hholds : w.relay.Holds i p) : w.Spares h i p v := by
  have husage : v.relay.usage? p = w.relay.usage? p := by
    unfold Relay.usage?
    rw [hwv.camera]
  refine ⟨husage, fun worker points k hk => (arrived?_of_usage? husage worker points).trans hk, ?_⟩
  intro l hstop
  obtain ⟨s, o, hs, ho, rfl⟩ := hholds
  obtain ⟨c, hc⟩ := (Relay.of_custody hcustody hs).2 o ho
  have hanswer := Relay.stop_answer hs (hwv.session.trans hs) ho hc (hwv.camera.trans hc)
  rw [← hstop]
  unfold step
  dsimp only
  rw [hwv.ready]
  cases w.ready i with
  | false => rfl
  | true => exact congrArg (fun r => Response.answered (.samples r)) hanswer

/-- An opening, with the answer in place of its kind. -/
theorem step_openCamera (hready : w.ready j = true) (d : Descriptor) (key : UInt32)
    (address : Nat) :
    w.step h (.operate j (.openCamera d key address)) =
      (.answered (.unit (w.relay.openSession d key address j).1),
        w.setRelay (w.relay.openSession d key address j).2) := by
  unfold step
  dsimp only
  rw [if_pos hready]
  rfl

/-- A step that is not an opening for the camera does not give it to a session. -/
theorem not_holds_step (h : Handler σ) (hcustody : Custody w.standing) {e : Event}
    (hreach : ¬e.Reaches w.relay j p) (hw : ¬w.relay.Holds j p) :
    ¬(w.step h e).2.relay.Holds j p := by
  intro hholds
  have hholds' : (w.step h e).2.standing.Holds j p := Relay.holds_standing.mpr hholds
  obtain ⟨t', o, ht', ho, rfl⟩ := hholds'
  rcases (w.step_shift h e hcustody).camera_before ht' ho with ⟨t, ht, ho⟩ | ⟨hreach', -⟩
  · exact hw (Relay.holds_standing.mp ⟨t, o, ht, ho, rfl⟩)
  · exact hreach hreach'

/-- A session whose opening makes a device object holds nothing yet. -/
theorem not_holds_of_boards? (hcustody : Custody w.standing) {d : Descriptor} {key : UInt32}
    {q : Nat} (hboards : w.relay.boards? d key j = some q) : ¬w.relay.Holds j p := by
  rintro ⟨s, o, hs, ho, -⟩
  have hclosed := (Relay.of_custody hcustody hs).1.mp (Relay.closed_of_boards? hs hboards)
  exact absurd (ho.symm.trans hclosed) (by simp)

/-- **A second opening that makes no device object for the camera spares it**, and so does the
    closing that follows. -/
theorem spares_of_boards?_ne (hcustody : Custody w.standing) (hholds : w.relay.Holds i p)
    (hij : i ≠ j) (hready : w.ready j = true) {d : Descriptor} {key : UInt32} {address : Nat}
    (hother : w.relay.boards? d key j ≠ some p) :
    let opening := w.step h (.operate j (.openCamera d key address))
    w.Spares h i p opening.2 ∧
      (opening.1 = .answered (.unit (.ok ())) →
        w.Spares h i p (opening.2.run h [.beginClose j, .endClose j])) := by
  intro opening
  have hopening : opening = _ := step_openCamera hready d key address
  cases hboards : w.relay.boards? d key j with
  | none =>
    obtain ⟨e, hrefused⟩ := Relay.openSession_of_boards?_eq_none address hboards
    rw [hopening, hrefused]
    refine ⟨Keeps.rfl.spares hcustody hholds, ?_⟩
    intro hok
    exact absurd hok (by simp)
  | some q =>
    have hqp : q ≠ p := by
      rintro rfl
      exact hother hboards
    obtain ⟨c, hc, ⟨e, c', -, hafter⟩ | ⟨rate, b, r, -, hafter⟩⟩ :=
      Relay.openSession_of_boards? address hboards
    · have hkeeps : w.Keeps i p (w.setRelay { w.relay with cameras := w.relay.cameras.set q c' }) :=
        ⟨rfl, List.getElem?_set_ne hqp, rfl⟩
      rw [hopening, hafter]
      refine ⟨hkeeps.spares hcustody hholds, ?_⟩
      intro hok
      exact absurd hok (by simp)
    · -- The other session has another camera now, and gives it back.
      have hkeeps : w.Keeps i p opening.2 := by
        rw [hopening, hafter]
        exact keeps_of_set hij hqp rfl rfl rfl
      have hfree : ¬opening.2.relay.Holds j p := by
        refine not_holds_step h hcustody ?_ (not_holds_of_boards? hcustody hboards)
        rintro ⟨-, d', key', address', he, htarget⟩
        obtain ⟨-, hop⟩ := Event.operate.inj he
        obtain ⟨rfl, -, -⟩ := Operation.openCamera.inj hop
        exact hqp (Option.some.inj ((Relay.target?_of_boards? hboards).symm.trans htarget))
      refine ⟨hkeeps.spares hcustody hholds, fun _ => ?_⟩
      have hopened : Custody opening.2.standing := hcustody.shift (w.step_shift h _ hcustody)
      have hclosing := keeps_beginClose h hopened hij hfree
      have hfree' := not_holds_step h hopened (e := .beginClose j) (by simp [Event.Reaches]) hfree
      have hclosed := keeps_endClose h (hopened.shift (World.step_shift h _ hopened)) hij hfree'
      exact ((hkeeps.trans hclosing).trans hclosed).spares hcustody hholds

/-- **A second opening that makes a device object for the camera** takes it away, unless nobody had
    the use of it. -/
theorem not_spares_of_boards? (hcustody : Custody w.standing) (hready : w.ready j = true)
    {d : Descriptor} {key : UInt32} {address : Nat} (hboards : w.relay.boards? d key j = some p) :
    let opening := w.step h (.operate j (.openCamera d key address))
    opening.2.relay.usage? p = w.relay.usage? p →
      w.relay.usage? p = some (false, false, none) ∧ opening.1 ≠ .answered (.unit (.ok ())) := by
  intro opening husage
  have hopening : opening = _ := step_openCamera hready d key address
  have hafter := Relay.usage?_openSession address hboards
  rw [hopening] at husage ⊢
  rw [show Relay.usage? p (w.setRelay (w.relay.openSession d key address j).2).relay =
    (w.relay.openSession d key address j).2.usage? p from rfl, hafter] at husage
  cases hanswer : (w.relay.openSession d key address j).1 with
  | error e =>
    rw [hanswer] at husage
    exact ⟨husage.symm, by simp⟩
  | ok _ =>
    -- Nobody can have listened by a channel that is new.
    rw [hanswer] at husage
    obtain ⟨c, hc, hsame⟩ := Option.map_eq_some_iff.mp husage.symm
    have hlistener : c.listener = some w.relay.channels.length := by
      have hparts := congrArg (fun u => u.2.2) hsame
      exact hparts
    obtain ⟨k, t, o, ht, ho, -, hchannel, -⟩ :=
      hcustody.heard p _ c.standing (Relay.camera_standing hc) hlistener
    obtain ⟨x, hx, -⟩ := Relay.wired_of_custody hcustody ht ho
    have hlt := (List.getElem?_eq_some_iff.mp hx).1
    omega

/-- A camera of which nobody has the use cannot be stopped. -/
theorem stop_of_unused (hholds : w.relay.Holds i p)
    (hunused : w.relay.usage? p = some (false, false, none)) (l : List TimingSample) :
    (w.step h (.operate i .stop)).1 ≠ .answered (.samples (.ok l)) := by
  obtain ⟨s, o, hs, ho, rfl⟩ := hholds
  obtain ⟨c, hc, hsame⟩ := Option.map_eq_some_iff.mp hunused
  have hinitialized : c.initialized = false := congrArg Prod.fst hsame
  have hstop : ∃ e, (w.relay.stop i).1 = .error e := by
    by_cases hstate : s.state = .capturing
    · rw [Relay.stop_eq hs ho hc hstate]
      unfold Camera.obstacle?
      rw [hinitialized]
      cases c.fault? .stopCapture with
      | none => exact ⟨_, rfl⟩
      | some e => exact ⟨_, rfl⟩
    · rw [Relay.stop_of_ne hs hstate]
      exact ⟨_, rfl⟩
  obtain ⟨e, he⟩ := hstop
  unfold step
  dsimp only
  split
  · show Response.answered (.samples (w.relay.stop i).1) ≠ _
    rw [he]
    simp
  · simp

/-- A camera of which nobody has the use is spared by an opening that fails. -/
theorem spares_of_unused (hholds : w.relay.Holds i p) (hready : w.ready j = true)
    {d : Descriptor} {key : UInt32} {address : Nat} (hboards : w.relay.boards? d key j = some p)
    (hunused : w.relay.usage? p = some (false, false, none)) :
    let opening := w.step h (.operate j (.openCamera d key address))
    opening.1 ≠ .answered (.unit (.ok ())) →
      w.Spares h i p opening.2 ∧
        (opening.1 = .answered (.unit (.ok ())) →
          w.Spares h i p (opening.2.run h [.beginClose j, .endClose j])) := by
  intro opening hfailed
  refine ⟨?_, fun hok => absurd hok hfailed⟩
  have hopening : opening = _ := step_openCamera hready d key address
  have hafter := Relay.usage?_openSession address hboards
  have husage : opening.2.relay.usage? p = w.relay.usage? p := by
    rw [hopening] at hfailed ⊢
    rw [show Relay.usage? p (w.setRelay (w.relay.openSession d key address j).2).relay =
      (w.relay.openSession d key address j).2.usage? p from rfl, hafter, hunused]
    cases hanswer : (w.relay.openSession d key address j).1 with
    | error e => rfl
    | ok _ =>
      rw [hanswer] at hfailed
      exact absurd rfl hfailed
  refine ⟨husage, fun worker points k hk => (arrived?_of_usage? husage worker points).trans hk, ?_⟩
  intro l hstop
  exact absurd hstop (stop_of_unused hholds hunused l)

end World

/-- **A second opening and a camera in use.**  Let a session hold a camera, in any run and whatever
    others hold, and let another session ask for an opening.  The camera is spared — its use is the
    same afterwards, frames reach the session that they reached, and the session can be stopped as
    before, also once the other session has been closed again — if and only if the opening makes no
    device object for it, or nobody had the use of the camera and the opening fails. -/
theorem second_opening_spares_iff (profiles : List CameraProfile) (runtimes : Nat)
    (sessions : List (Nat × Settings)) (host : σ) (now : Nat) (h : Handler σ) (events : List Event)
    (d : Descriptor) (key : UInt32) (address i j p : Nat) :
    let w := (World.fresh profiles runtimes sessions host now).run h events
    let opening := w.step h (.operate j (.openCamera d key address))
    w.relay.Holds i p → i ≠ j → w.ready j = true →
      ((w.Spares h i p opening.2 ∧
          (opening.1 = .answered (.unit (.ok ())) →
            w.Spares h i p (opening.2.run h [.beginClose j, .endClose j]))) ↔
        w.relay.boards? d key j ≠ some p ∨
          w.relay.usage? p = some (false, false, none) ∧
            opening.1 ≠ .answered (.unit (.ok ()))) := by
  intro w opening hholds hij hready
  have hcustody : Custody w.standing :=
    World.custody_run h events (World.custody_fresh profiles runtimes sessions host now)
  constructor
  · rintro ⟨hspares, -⟩
    by_cases hboards : w.relay.boards? d key j = some p
    · exact .inr (World.not_spares_of_boards? hcustody hready hboards hspares.usage)
    · exact .inl hboards
  · rintro (hother | ⟨hunused, hfailed⟩)
    · exact World.spares_of_boards?_ne hcustody hholds hij hready hother
    · by_cases hboards : w.relay.boards? d key j = some p
      · exact World.spares_of_unused hholds hready hboards hunused hfailed
      · exact World.spares_of_boards?_ne hcustody hholds hij hready hboards

/-- While the first session captures, the second one opens another camera and spares the first one;
    had it asked for the same camera, it would not have spared it. -/
theorem second_opening_spares_iff_busy :
    let profiles : List CameraProfile := [{ serial := "A", fd := 3 }, { serial := "B", fd := 4 }]
    let h := Handler.accepting
    let events : List Event := [.operate 0 (.openCamera ⟨3⟩ 5 64), .operate 0 (.start true)]
    let sessions : List (Nat × Settings) := [(0, { maxPoints := 1 }), (0, { maxPoints := 1 })]
    let w := (World.fresh profiles 1 sessions () 0).run h events
    w.Spares h 0 0 (w.step h (.operate 1 (.openCamera ⟨4⟩ 5 96))).2 ∧
      ¬w.Spares h 0 0 (w.step h (.operate 1 (.openCamera ⟨3⟩ 5 96))).2 := by
  intro profiles h events sessions w
  have hholds : w.relay.Holds 0 0 := ⟨_, _, rfl, rfl, rfl⟩
  have hready : w.ready 1 = true := by decide +kernel
  have hspares (d : Descriptor) := second_opening_spares_iff profiles 1 sessions () 0 h events
    d 5 96 0 1 0 hholds (by decide) hready
  refine ⟨((hspares ⟨4⟩).mpr (.inl (by decide +kernel))).1, ?_⟩
  intro hsame
  have husage : (w.step h (.operate 1 (.openCamera ⟨3⟩ 5 96))).2.relay.usage? 0 ≠
      w.relay.usage? 0 := by
    decide +kernel
  exact husage hsame.usage

/-- A session captures, and another one asks for the same camera.  The opening is refused because
    the camera is busy, and takes the camera away all the same: the next frame finds nobody, and the
    session cannot be stopped any more. -/
theorem second_opening_takes_camera_in_use :
    let profiles : List CameraProfile := [{ serial := "A", fd := 3 }]
    let h := Handler.accepting
    let sessions : List (Nat × Settings) := [(0, { maxPoints := 1 }), (0, { maxPoints := 1 })]
    let w := (World.fresh profiles 1 sessions () 0).run h
      [.operate 0 (.openCamera ⟨3⟩ 5 64), .operate 0 (.start false)]
    let opening := w.step h (.operate 1 (.openCamera ⟨3⟩ 5 96))
    let frame := Event.emit "W" 0 [⟨1, 2, 3, 0, 0, 0⟩]
    opening.1 = .answered (.unit (.error (.device "set use case" .deviceIsBusy))) ∧
      w.relay.usage? 0 = some (true, true, some 0) ∧
      opening.2.relay.usage? 0 = some (false, false, none) ∧
      ((w.step h frame).2.relay.session 0).stats.delivered = 1 ∧
      ((opening.2.step h frame).2.relay.session 0).stats.delivered = 0 ∧
      (w.step h (.operate 0 .stop)).1 = .answered (.samples (.ok [])) ∧
      (opening.2.step h (.operate 0 .stop)).1 =
        .answered (.samples (.error (.device "stop capture" .deviceNotInitialized))) := by
  refine ⟨rfl, ?_, ?_, ?_, ?_, rfl, rfl⟩
  all_goals decide +kernel

end DepthRelay
