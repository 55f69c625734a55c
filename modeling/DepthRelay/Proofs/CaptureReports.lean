import DepthRelay.Proofs.Closing
import DepthRelay.Proofs.Fixtures
import DepthRelay.Proofs.FullFrames
import DepthRelay.Proofs.OpeningStages
import DepthRelay.Proofs.SettingsFiles

namespace DepthRelay

/-!
# The report of a capture run

A capture run opens its camera, asks a few things, starts, waits, stops and closes.  The frame
source and the dispatch thread of its session go on between these calls, and while it closes.

* `Event.ambient` — the steps of those threads, and of the clock.
* `World.Undisturbed` — nothing has gone wrong with a single session; its calls then succeed.
* `World.Quiet` — no camera captures, so that nothing is emitted or dropped any more.
* `Command.Course` — a capture run with everything that other threads do in its course.
* `Command.AddsUp` — how the numbers of a report agree.
* `Course.addsUp` — they agree in every course.
-/

variable {σ : Type}

/-- The step is not one of a caller: a frame source, a dispatch thread or the clock goes on. -/
def Event.ambient : Event → Bool
  | .dispatch _ | .wake _ | .pass _ => true
  | _ => false

/-- The step belongs to the end of a run: the session closes, and other threads go on meanwhile. -/
def Event.late (e : Event) : Bool := e.ambient || e = .beginClose 0 || e = .endClose 0

/-- A frame whose delivery has begun is not dropped. -/
theorem Settlement.backpressureDrops {policy : OverflowPolicy} {visible called : Bool}
    {f : Stats → Stats} (hf : Settlement policy visible called f) (s : Stats) :
    (f s).backpressureDrops = s.backpressureDrops := by
  cases hf with
  | detached => rfl
  | refused reject => rfl
  | unheard cut => exact Stats.backpressureDrops_noteWritten cut s
  | failed cut => exact Stats.backpressureDrops_noteWritten cut s
  | accepted cut => exact Stats.backpressureDrops_noteWritten cut s

/-! ### Calls that succeed -/

/-- The state in which an operation leaves an open session with nothing in its way, if this is the
    time for it. -/
def Operation.next? : Operation → SessionState → Option SessionState
  | .start _, .opened => some .capturing
  | .stop, .capturing => some .opened
  | .setExposure, .opened | .maxWidth, .opened | .maxHeight, .opened => some .opened
  | .setExposure, .capturing | .maxWidth, .capturing | .maxHeight, .capturing => some .capturing
  | _, _ => none

namespace World

/-- A single session is in a state, and nothing is wrong with any camera. -/
structure Undisturbed (settings : Settings) (state : SessionState) (w : World σ) : Prop where
  single : w.Single
  free : w.closing = []
  state : (w.relay.session 0).state = state
  settings : (w.relay.session 0).settings = settings
  sound : ∀ c ∈ w.relay.cameras, c.faults = []

variable {settings : Settings} {state state' : SessionState} {w : World σ} {h : Handler σ}

/-- Frames and time do not disturb a session. -/
theorem Undisturbed.ambient (hw : w.Undisturbed settings state) (hreturns : h.Returns) {e : Event}
    (he : e.ambient = true) : (w.step h e).2.Undisturbed settings state := by
  have hcaller : e.caller? = none := by
    cases e <;> first | rfl | exact absurd he (by simp [Event.ambient])
  have hstanding := standing_step (w := w) h hcaller
  have hsession : ((w.step h e).2.relay.session 0).standing = (w.relay.session 0).standing :=
    getD_of_map_eq (congrArg Standing.sessions hstanding) 0 default
  have hfaults : (w.step h e).2.relay.cameras.map Camera.faults =
      w.relay.cameras.map Camera.faults := by
    cases e with
    | dispatch k =>
      exact congrArg (fun f => f.cameras.map Camera.faults) (Live.fixtures_dispatch h w.toLive k)
    | wake i =>
      rcases w.step_wake_cases h i with hsame | ⟨source, hafter⟩
      · rw [hsame]
      · rw [hafter]
        exact Live.faults_wake h hreturns w.toLive i source
    | pass nanos => rfl
    | _ => exact absurd he (by simp [Event.ambient])
  refine ⟨hw.single.run h [e], (congrArg Standing.closing hstanding).trans hw.free,
    (congrArg Session.state hsession).trans hw.state,
    (congrArg Session.settings hsession).trans hw.settings, ?_⟩
  intro c hc
  obtain ⟨c', hc', hsame⟩ := List.mem_map.mp (hfaults ▸ List.mem_map_of_mem hc)
  exact hsame.symm.trans (hw.sound c' hc')

/-- An undisturbed session that holds a camera, with that camera. -/
theorem Undisturbed.held (hw : w.Undisturbed settings state) (hopen : state ≠ .closed) :
    w.ready 0 = true ∧ ∃ s o c, w.relay.sessions[0]? = some s ∧ s.state = state ∧
      s.settings = settings ∧ s.camera = some o ∧ w.relay.cameras[o.device.camera]? = some c ∧
      (∀ op, c.obstacle? op = none) ∧ c.exposureMode = .manual ∧
      (c.capturing = true ↔ state = .capturing) := by
  have hlt : 0 < w.relay.sessions.length := by
    rw [hw.single.length_sessions]
    exact Nat.one_pos
  have hs := List.getElem?_eq_getElem hlt
  have hstate := hw.state
  have hsettings := hw.settings
  rw [Relay.session_eq hs] at hstate hsettings
  have hfree : 0 ∉ w.closing := by simp [hw.free]
  have hclosed := (Relay.of_custody hw.single.custody hs).1
  obtain ⟨o, ho⟩ := Option.ne_none_iff_exists'.mp fun hnone =>
    hopen (hstate.symm.trans (hclosed.mpr hnone))
  obtain ⟨c, hc, -, hinitialized, -, -, -, hmode, hfollowing⟩ := hw.single.held hfree hs ho
  refine ⟨by simp [ready, hlt, hw.free], _, o, c, hs, hstate, hsettings, ho, hc, fun op => ?_,
    hmode, hstate ▸ hfollowing⟩
  rw [Camera.obstacle?_of_initialized hinitialized]
  simp [Camera.fault?, hw.sound c (List.mem_of_getElem? hc)]

/-- A session that is replaced in a relay with one session. -/
theorem Undisturbed.replaced (hw : w.Undisturbed settings state) {e : Event} {s s' : Session}
    {p : Nat} {c c' : Camera Nat} (hs : w.relay.sessions[0]? = some s)
    (hc : w.relay.cameras[p]? = some c)
    (hsessions : (w.step h e).2.relay.sessions = w.relay.sessions.set 0 s')
    (hcameras : (w.step h e).2.relay.cameras = w.relay.cameras.set p c')
    (hclosing : (w.step h e).2.closing = w.closing) (hstate : s'.state = state')
    (hsettings : s'.settings = settings) (hfaults : c'.faults = c.faults) :
    (w.step h e).2.Undisturbed settings state' := by
  have hsession : (w.step h e).2.relay.session 0 = s' := by
    refine Relay.session_eq ?_
    rw [hsessions]
    exact getElem?_set_of_some hs
  refine ⟨hw.single.run h [e], hclosing.trans hw.free, by rw [hsession, hstate],
    by rw [hsession, hsettings], ?_⟩
  intro d hd
  rw [hcameras] at hd
  rcases List.mem_or_eq_of_mem_set hd with hold | rfl
  · exact hw.sound d hold
  · exact hfaults.trans (hw.sound c (List.mem_of_getElem? hc))

/-- What a call does that is made in time, to a session and its camera. -/
theorem Undisturbed.performed (hw : w.Undisturbed settings state)
    (hvalid : settings.validate = .ok ()) {op : Operation} (hnext : op.next? state = some state') :
    w.ready 0 = true ∧ (op.perform 0 w.relay).1.failed = false ∧
      ∃ s s' p c c', w.relay.sessions[0]? = some s ∧ w.relay.cameras[p]? = some c ∧
        (op.perform 0 w.relay).2.sessions = w.relay.sessions.set 0 s' ∧
        (op.perform 0 w.relay).2.cameras = w.relay.cameras.set p c' ∧
        s'.state = state' ∧ s'.settings = settings ∧
        s'.camera.map OpenCamera.standing = s.camera.map OpenCamera.standing ∧
        c'.faults = c.faults := by
  have hopen : state ≠ .closed := by
    rintro rfl
    cases op <;> exact absurd hnext (by simp [Operation.next?])
  obtain ⟨hready, s, o, c, hs, hstate, hsettings, ho, hc, hclear, hmode, hfollowing⟩ :=
    hw.held hopen
  -- A question leaves the session in the state that it is in.
  have hquery (hop : op.next? state = some state) :
      state = state' := Option.some.inj (hop.symm.trans hnext)
  refine ⟨hready, ?_⟩
  cases op with
  | openCamera d key address => exact absurd hnext (by cases state <;> simp [Operation.next?])
  | setExposure =>
    obtain rfl := hquery (by cases state <;> first | rfl | exact absurd rfl hopen)
    obtain ⟨-, hpositive, hbound⟩ := Settings.bounds_of_validate hvalid
    have hset := Relay.setExposure_eq hs ho hc
    rw [hclear, hmode, hsettings] at hset
    simp only [hpositive, hbound, beq_self_eq_true, if_true, Option.or_none, ne_eq,
      not_false_eq_true, decide_true, Bool.and_self] at hset
    unfold Operation.perform
    dsimp only [Prod.map]
    rw [hset]
    exact ⟨rfl, s, s, _, c, _, hs, hc, rfl, rfl, hstate, hsettings, rfl, rfl⟩
  | maxWidth =>
    obtain rfl := hquery (by cases state <;> first | rfl | exact absurd rfl hopen)
    have hask := Relay.maxWidth_eq hs ho hc
    rw [hclear] at hask
    unfold Operation.perform
    dsimp only [Prod.map]
    rw [hask]
    exact ⟨rfl, s, s, _, c, c, hs, hc, (set_of_getElem? hs).symm, (set_of_getElem? hc).symm, hstate,
      hsettings, rfl, rfl⟩
  | maxHeight =>
    obtain rfl := hquery (by cases state <;> first | rfl | exact absurd rfl hopen)
    have hask := Relay.maxHeight_eq hs ho hc
    rw [hclear] at hask
    unfold Operation.perform
    dsimp only [Prod.map]
    rw [hask]
    exact ⟨rfl, s, s, _, c, c, hs, hc, (set_of_getElem? hs).symm, (set_of_getElem? hc).symm, hstate,
      hsettings, rfl, rfl⟩
  | start timing =>
    obtain ⟨rfl, rfl⟩ : state = .opened ∧ state' = .capturing := by
      cases state <;> simp_all [Operation.next?]
    have hidle : c.capturing = false := by simpa using hfollowing
    have hstart := Relay.start_eq timing hs ho hc hstate
    rw [hclear, hidle] at hstart
    unfold Operation.perform
    dsimp only [Prod.map]
    rw [hstart]
    exact ⟨rfl, s, _, _, c, _, hs, hc, rfl, rfl, rfl, hsettings,
      (congrArg (Option.map OpenCamera.standing) ho).symm, rfl⟩
  | stop =>
    obtain ⟨rfl, rfl⟩ : state = .capturing ∧ state' = .opened := by
      cases state <;> simp_all [Operation.next?]
    have hstop := Relay.stop_eq hs ho hc hstate
    rw [hclear] at hstop
    unfold Operation.perform
    dsimp only [Prod.map]
    rw [hstop]
    exact ⟨rfl, s, _, _, c, _, hs, hc, Relay.sessions_exitSource _ _, Relay.cameras_exitSource _ _,
      rfl, hsettings, (congrArg (Option.map OpenCamera.standing) ho).symm, rfl⟩

/-- **A call succeeds when it is the time for it**, and the session keeps its camera. -/
theorem Undisturbed.operate (hw : w.Undisturbed settings state)
    (hvalid : settings.validate = .ok ()) (op : Operation) (hnext : op.next? state = some state') :
    (op.perform 0 w.relay).1.failed = false ∧
      w.step h (.operate 0 op) =
        (.answered (op.perform 0 w.relay).1, w.setRelay (op.perform 0 w.relay).2) ∧
      (w.step h (.operate 0 op)).2.Undisturbed settings state' ∧
      ((w.step h (.operate 0 op)).2.relay.session 0).camera.map OpenCamera.standing =
        (w.relay.session 0).camera.map OpenCamera.standing := by
  obtain ⟨hready, hok, s, s', p, c, c', hs, hc, hsessions, hcameras, hstate, hsettings, hkept,
    hfaults⟩ := hw.performed hvalid hnext
  have hstep : w.step h (.operate 0 op) =
      (.answered (op.perform 0 w.relay).1, w.setRelay (op.perform 0 w.relay).2) :=
    step_operate hready
  have hreplaced : (w.step h (.operate 0 op)).2.relay.sessions = w.relay.sessions.set 0 s' := by
    rw [hstep]
    exact hsessions
  refine ⟨hok, hstep, ?_, ?_⟩
  · exact hw.replaced hs hc hreplaced (by rw [hstep]; exact hcameras) (by rw [hstep]; rfl) hstate
      hsettings hfaults
  · have hsession : (w.step h (.operate 0 op)).2.relay.session 0 = s' :=
      Relay.session_eq (hreplaced ▸ getElem?_set_of_some hs)
    rw [hsession, Relay.session_eq hs]
    exact hkept

/-- **Calls succeed that are made in the right order**, whatever frames and time do between them. -/
theorem Undisturbed.run (hw : w.Undisturbed settings state) (hvalid : settings.validate = .ok ())
    (hreturns : h.Returns) (events : List Event) (calls : List Operation)
    (hcalls : events.filter (!·.ambient) = calls.map (.operate 0))
    (hnext : calls.foldlM (fun st op => op.next? st) state = some state') :
    (w.run h events).Undisturbed settings state' := by
  induction events generalizing w state calls with
  | nil =>
    obtain rfl : calls = [] := List.map_eq_nil_iff.mp hcalls.symm
    obtain rfl : state = state' := Option.some.inj hnext
    exact hw
  | cons e events ih =>
    by_cases he : e.ambient = true
    · rw [List.filter_cons_of_neg (by simp [he])] at hcalls
      exact ih (hw.ambient hreturns he) calls hcalls hnext
    · rw [List.filter_cons_of_pos (by simpa using he)] at hcalls
      cases calls with
      | nil => exact absurd hcalls (by simp)
      | cons op calls =>
        obtain ⟨rfl, hrest⟩ := List.cons.inj hcalls
        rw [List.foldlM_cons] at hnext
        obtain ⟨state₁, hfirst, hnext⟩ := Option.bind_eq_some_iff.mp hnext
        exact ih (hw.operate hvalid op hfirst).2.2.1 calls hrest hnext

/-! ### After the stop -/

/-- No camera captures, and no frame has been emitted or dropped since the world `u`. -/
structure Quiet (u w : World σ) : Prop where
  custody : Custody w.standing
  idle : ∀ c ∈ w.relay.cameras, c.capturing = false
  emitted : w.relay.books.emitted = u.relay.books.emitted
  dropped : w.relay.books.stats.map Stats.backpressureDrops =
    u.relay.books.stats.map Stats.backpressureDrops

/-- A session that does not capture has quiet cameras. -/
theorem Undisturbed.quiet (hw : w.Undisturbed settings .opened) : w.Quiet w where
  custody := hw.single.custody
  idle := by
    obtain ⟨-, s, o, c, hs, hstate, -⟩ := hw.held (by simp)
    have hcoherent := hw.single.coherent (by simp [hw.free]) hs
    intro d hd
    obtain ⟨p, hp⟩ := List.mem_iff_getElem?.mp hd
    by_cases hplace : s.place? = some p
    · obtain ⟨o', ho', rfl⟩ := Option.map_eq_some_iff.mp hplace
      obtain ⟨d', hd', -, -, -, -, -, -, hfollowing⟩ := hcoherent.held o' ho'
      obtain rfl := Option.some.inj (hp.symm.trans hd')
      simpa [hstate] using hfollowing
    · exact (hcoherent.idle p d hp hplace).2.1
  emitted := rfl
  dropped := rfl

/-- Only frames that are heard are emitted, and only those can be dropped. -/
theorem books_of_unheard (hreturns : h.Returns) (hcustody : Custody w.standing) (e : Event)
    (hunheard : ∀ p, w.relay.listener? p = none) :
    (w.step h e).2.relay.books.emitted = w.relay.books.emitted ∧
      (w.step h e).2.relay.books.stats.map Stats.backpressureDrops =
        w.relay.books.stats.map Stats.backpressureDrops := by
  have hposting := step_books h hreturns hcustody e
  generalize (w.step h e).2.relay.books = b at hposting
  cases hposting with
  | same => exact ⟨rfl, rfl⟩
  | channel i => exact ⟨rfl, rfl⟩
  | injected p k b heard booking => exact absurd heard (by simp [hunheard p])
  | dispatched k called f settlement q queued pending =>
    have hstats : (w.relay.books.stats.modify (w.relay.channel k).session f).map
        Stats.backpressureDrops = w.relay.books.stats.map Stats.backpressureDrops :=
      map_modify_of_eq fun s _ => settlement.backpressureDrops s
    cases called <;> exact ⟨rfl, hstats⟩

/-- Nothing is emitted or dropped while a session closes that has been stopped. -/
theorem Quiet.step {u : World σ} (hw : u.Quiet w) (hreturns : h.Returns) {e : Event}
    (he : e.late = true) : u.Quiet (w.step h e).2 := by
  have hunheard (p : Nat) : w.relay.listener? p = none := by
    rw [Option.eq_none_iff_forall_ne_some]
    intro k hk
    obtain ⟨c, hc, hcapturing, -⟩ := Relay.listener?_eq_some.mp hk
    exact absurd (hw.idle c (List.mem_of_getElem? hc)) (by simp [hcapturing])
  obtain ⟨hemitted, hdropped⟩ := books_of_unheard hreturns hw.custody e hunheard
  refine ⟨hw.custody.shift (step_shift h e hw.custody), ?_, hemitted.trans hw.emitted,
    hdropped.trans hw.dropped⟩
  -- Who steps is a thread, which starts no camera, or the caller, who lets one go.
  by_cases hcaller : e.caller? = none
  · have hcameras := congrArg Standing.cameras (standing_step (w := w) h hcaller)
    intro c hc
    have hmem : c.standing ∈ w.standing.cameras := by
      rw [← hcameras]
      exact List.mem_map_of_mem hc
    obtain ⟨c', hc', hsame⟩ := List.mem_map.mp hmem
    exact (congrArg Camera.capturing hsame).symm.trans (hw.idle c' hc')
  · cases e with
    | beginClose i =>
      rcases step_beginClose_cases h hw.custody i with hsame | ⟨s, o, c, hs, ho, hc, hafter⟩
      · rw [hsame]
        exact hw.idle
      · have hcapturing := hw.idle c (List.mem_of_getElem? hc)
        rw [hafter]
        show ∀ d ∈ (w.relay.beginClose i).cameras, _
        rw [Relay.beginClose_eq hs ho hc]
        show ∀ d ∈ (w.relay.exitSource _).cameras.set _ _, _
        rw [Relay.cameras_exitSource]
        intro d hd
        rcases List.mem_or_eq_of_mem_set hd with hold | rfl
        · exact hw.idle d hold
        · simp [Relay.quiet, hcapturing]
    | endClose i =>
      rcases step_endClose_cases h hw.custody i with hsame | ⟨-, -, s, o, c, hs, ho, hc, hafter⟩
      · rw [hsame]
        exact hw.idle
      · rw [hafter]
        show ∀ d ∈ (w.relay.endClose i).cameras, _
        rw [Relay.endClose_eq hs ho hc]
        show ∀ d ∈ ((w.relay.exitThread _).exitSource _).cameras.set _ _, _
        rw [Relay.cameras_exitSource, Relay.cameras_exitThread]
        intro d hd
        rcases List.mem_or_eq_of_mem_set hd with hold | rfl
        · exact hw.idle d hold
        · rfl
    | operate i op => exact absurd he (by simp [Event.late, Event.ambient])
    | _ => exact absurd rfl hcaller

/-- **Meanwhile** a camera stays quiet, since nobody operates it. -/
theorem Quiet.run {u : World σ} (hw : u.Quiet w) (hreturns : h.Returns) (events : List Event)
    (hlate : ∀ e ∈ events, e.late = true) : u.Quiet (w.run h events) := by
  induction events generalizing w with
  | nil => exact hw
  | cons e events ih =>
    exact ih (hw.step hreturns (hlate e List.mem_cons_self))
      fun x hx => hlate x (List.mem_cons_of_mem e hx)

/-- What a session has dropped stays as it is while no camera captures. -/
theorem Quiet.drops {u : World σ} (hw : u.Quiet w) (i : Nat) :
    (w.relay.session i).stats.backpressureDrops = (u.relay.session i).stats.backpressureDrops := by
  have hdropped := hw.dropped
  unfold Relay.books at hdropped
  rw [List.map_map, List.map_map] at hdropped
  exact getD_of_map_eq hdropped i default

end World

/-! ### Calls of the command -/

namespace Command

/-- What no call of the command changes, once the camera is open. -/
structure Kept (w v : World Nat) : Prop where
  host : v.host = w.host
  profiles : v.relay.cameras.map Camera.profile = w.relay.cameras.map Camera.profile
  camera : (v.relay.session 0).camera.map OpenCamera.standing =
    (w.relay.session 0).camera.map OpenCamera.standing

theorem Kept.trans {w v u : World Nat} (hfirst : Kept w v) (hlast : Kept v u) : Kept w u where
  host := hlast.host.trans hfirst.host
  profiles := hlast.profiles.trans hfirst.profiles
  camera := hlast.camera.trans hfirst.camera

/-- An operation that has not failed. -/
theorem succeed_eq {α : Type} {x : Except RelayError α × Relay} {a : α} (h : x.1 = .ok a) :
    succeed x = .ok (a, x.2) := by
  unfold succeed
  rw [h]
  rfl

/-- **A call of the command succeeds** when it is the time for it, and is a step in the world of its
    session. -/
theorem call_succeeds {α : Type} {settings : Settings} {w : World Nat}
    {state state' : SessionState} (hw : w.Undisturbed settings state)
    (hvalid : settings.validate = .ok ()) (op : Operation)
    (call : Relay → Except RelayError α × Relay)
    {result : Except RelayError α → Operation.Result}
    (hperform : op.perform 0 w.relay = (call w.relay).map result id)
    (hresult : ∀ e, (result (.error e)).failed = true) (hnext : op.next? state = some state') :
    let v := (w.step countPoints (.operate 0 op)).2
    (∃ a, succeed (call w.relay) = .ok (a, v.relay) ∧
      (w.step countPoints (.operate 0 op)).1 = .answered (result (.ok a))) ∧
      Kept w v ∧ v.Undisturbed settings state' := by
  obtain ⟨hok, hstep, hafter, hcamera⟩ := hw.operate (h := countPoints) hvalid op hnext
  have hprofiles := World.profiles_step countPoints (.operate 0 op) hw.single.custody
  rw [hperform] at hok hstep
  intro v
  have hv : v = w.setRelay (call w.relay).2 := congrArg Prod.snd hstep
  refine ⟨?_, ⟨congrArg (fun u => u.host) hv, hprofiles, hcamera⟩, hafter⟩
  rw [show v.relay = (call w.relay).2 from congrArg (fun u => u.relay) hv,
    show (w.step countPoints (.operate 0 op)).1 = _ from congrArg Prod.fst hstep, Prod.map_fst]
  cases hcall : (call w.relay).1 with
  | error e =>
    rw [Prod.map_fst, hcall, hresult e] at hok
    exact absurd hok (by simp)
  | ok a => exact ⟨a, succeed_eq hcall, rfl⟩

/-! ### Courses -/

/-- What the command asks of its session before it waits. -/
def CaptureOptions.requests (o : CaptureOptions) : List Operation :=
  [.setExposure, .maxWidth, .maxHeight, .start o.timing]

/-- When the command has opened its camera. -/
def CaptureOptions.opened (o : CaptureOptions) (settings : Settings) (now : Nat) : World Nat :=
  ((World.solo [o.camera] (o.apply settings) 0 now).step countPoints
    (.operate 0 (.openCamera descriptor (o.rate.getD settings.frameRate) 1))).2

/-- A capture run once its camera is open: what happens until the command stops its session, and
    from then on until it has closed it. -/
structure Course (o : CaptureOptions) where
  before : List Event
  after : List Event
  asks : before.filter (!·.ambient) = o.requests.map (.operate 0)
  ends : after.filter (!·.ambient) = [.beginClose 0, .endClose 0]

namespace Course

variable {o : CaptureOptions} (x : Course o) (settings : Settings) (now : Nat)

/-- The run from its opening on. -/
def episode : Episode where
  profiles := [o.camera]
  now := now
  descriptor := CaptureOptions.descriptor
  key := o.rate.getD settings.frameRate
  address := 1
  events := (x.before ++ [.operate 0 .stop]) ++ x.after

/-- When the command stops its session. -/
def waited : World Nat := (o.opened settings now).run countPoints x.before

/-- The opening is that of the episode. -/
theorem episode_opened : (x.episode settings now).opened countPoints (o.apply settings) 0 =
    o.opened settings now := rfl

/-- When its session is stopped. -/
def stopped : World Nat := ((x.waited settings now).step countPoints (.operate 0 .stop)).2

/-- The samples that the stop has returned. -/
def samples : List TimingSample :=
  match ((x.waited settings now).step countPoints (.operate 0 .stop)).1 with
  | .answered (.samples (.ok samples)) => samples
  | _ => []

/-- Frames that the camera has emitted by then. -/
def emitted : Nat := ((x.stopped settings now).relay.cameras.map Camera.emitted).sum

/-- When everything is over. -/
def finished : World Nat := (x.stopped settings now).run countPoints x.after

end Course

/-! ### Numbers that agree -/

/-- The numbers of a report agree with the settings and with the `emitted` frames of the camera. -/
structure AddsUp (s : Settings) (emitted points : Nat) (stats : Stats) : Prop where
  frames : stats.delivered + stats.overflowRejects + stats.backpressureDrops = emitted
  attached : stats.attachFailures = 0
  handled : stats.handlerFailures = 0
  direct : s.delivery ≠ .queued → stats.backpressureDrops = 0
  whole : s.maxPoints.toNat = Sensor.maxPoints →
    stats.overflowRejects = 0 ∧ stats.truncatedFrames = 0
  refused : s.maxPoints.toNat < Sensor.maxPoints → s.overflowPolicy = .reject →
    stats.delivered = 0 ∧ stats.truncatedFrames = 0
  cut : s.maxPoints.toNat < Sensor.maxPoints → s.overflowPolicy = .truncate →
    stats.truncatedFrames = stats.delivered ∧ stats.overflowRejects = 0
  points : points = stats.delivered * min Sensor.maxPoints s.maxPoints.toNat

/-- What becomes of full frames adds up. -/
theorem addsUp_outcome {s : Settings} (n : Nat) {dropped : Nat}
    (hdirect : s.delivery ≠ .queued → dropped = 0) :
    let stats := (s.outcome Sensor.maxPoints n).noteDropped dropped
    AddsUp s stats.settled (stats.delivered * min Sensor.maxPoints s.maxPoints.toNat) stats := by
  intro stats
  have hdropped : stats.backpressureDrops = dropped := by
    show (s.outcome Sensor.maxPoints n).backpressureDrops + dropped = dropped
    unfold Settings.outcome
    split
    · exact Nat.zero_add _
    · split <;> exact Nat.zero_add _
  have hcounts : stats.attachFailures = 0 ∧ stats.handlerFailures = 0 ∧
      (s.maxPoints.toNat = Sensor.maxPoints →
        stats.overflowRejects = 0 ∧ stats.truncatedFrames = 0) ∧
      (s.maxPoints.toNat < Sensor.maxPoints → s.overflowPolicy = .reject →
        stats.delivered = 0 ∧ stats.truncatedFrames = 0) ∧
      (s.maxPoints.toNat < Sensor.maxPoints → s.overflowPolicy = .truncate →
        stats.truncatedFrames = stats.delivered ∧ stats.overflowRejects = 0) := by
    simp only [stats, Settings.outcome, Stats.noteDropped]
    by_cases hfits : Sensor.maxPoints ≤ s.maxPoints.toNat
    · simp [hfits, Nat.not_lt.mpr hfits]
    · cases hover : s.overflowPolicy <;> simp [hfits, Nat.ne_of_lt (Nat.not_le.mp hfits)]
  obtain ⟨hattached, hhandled, hwhole, hrefused, hcut⟩ := hcounts
  refine ⟨?_, hattached, hhandled, fun h => hdropped.trans (hdirect h), hwhole, hrefused, hcut, rfl⟩
  unfold Stats.settled
  rw [hattached, hhandled]
  omega

/-! ### The opening -/

variable {o : CaptureOptions} {settings : Settings}

/-- The options do not lead out of the limits. -/
theorem validate_apply (hvalid : settings.validate = .ok ()) :
    (o.apply settings).validate = .ok () := by
  unfold CaptureOptions.apply
  split
  · exact hvalid
  · exact hvalid

/-- The simulated camera has as many pixels as points fit a frame. -/
theorem size_camera (o : CaptureOptions) : o.camera.size = Sensor.maxPoints :=
  Sensor.maxPoints_eq.symm

/-- The simulated camera can be opened at every supported rate. -/
theorem opens {τ : Type} (h : Handler τ) (host : τ) (now : Nat)
    (hvalid : settings.validate = .ok ())
    (hrate : (FrameRate.ofKey? (o.rate.getD settings.frameRate)).isSome = true) :
    ((World.solo [o.camera] (o.apply settings) host now).step h
      (.operate 0 (.openCamera CaptureOptions.descriptor (o.rate.getD settings.frameRate) 1))).1 =
        .answered (.unit (.ok ())) := by
  obtain ⟨rate, hrate⟩ := Option.isSome_iff_exists.mp hrate
  generalize hw : World.solo [o.camera] (o.apply settings) host now = w
  have hs : w.relay.sessions[0]? = some { settings := o.apply settings } := by
    rw [← hw]
    rfl
  have hcameras : w.relay.cameras = [{ profile := o.camera }] := by
    rw [← hw]
    rfl
  have hbehind : w.relay.behind CaptureOptions.descriptor = [{ profile := o.camera }] := by
    unfold Relay.behind
    rw [hcameras]
    rfl
  have hroom := (Settings.bounds_of_validate (validate_apply (o := o) hvalid)).1.2
  -- The opening fails at its first stage that fails, and none does on a fresh simulated camera.
  have herror := Relay.openSession_error? (d := CaptureOptions.descriptor)
    (o.rate.getD settings.frameRate) 1 hs (by simp [Relay.Distinct, hcameras])
    (by
      intro _ p c _ hc
      have hmem := List.mem_of_getElem? hc
      rw [hcameras] at hmem
      rw [List.mem_singleton.mp hmem]) hroom
  have hnone : OpeningStage.firstFailure? { settings := o.apply settings } CaptureOptions.descriptor
      (o.rate.getD settings.frameRate) w.relay = none := by
    unfold OpeningStage.firstFailure?
    rw [List.findSome?_append, OpeningStage.choosing_eq_none.mpr ⟨rfl, ⟨rate, hrate⟩, _, hbehind⟩,
      OpeningStage.preparing_findSome? (b := default) hbehind hrate rfl]
    cases rate <;> rfl
  rw [hnone] at herror
  -- Nor does the host refuse the buffer.
  have hexposed : (w.relay.runtime 0).exposeFault = none := by
    rw [← hw]
    rfl
  rw [hexposed] at herror
  have hok := Relay.ok_iff_error?_eq_none.mpr herror
  have hready : w.ready 0 = true := by
    rw [← hw]
    rfl
  rw [World.step_operate hready]
  unfold Operation.perform
  dsimp only [Prod.map]
  rw [hok]

namespace Course

variable {τ : Type} (x : Course o) (now : Nat)

/-- What happens after the stop is late. -/
theorem late_after {e : Event} (he : e ∈ x.after) : e.late = true := by
  by_cases hambient : e.ambient = true
  · simp [Event.late, hambient]
  · have hcall : e ∈ x.after.filter (!·.ambient) :=
      List.mem_filter.mpr ⟨he, by simpa using hambient⟩
    rw [x.ends] at hcall
    rcases List.mem_cons.mp hcall with rfl | hcall
    · rfl
    · rw [List.mem_singleton.mp hcall]
      rfl

/-- Nothing is injected in a course, and its session is opened once. -/
theorem paced {e : Event} (he : e ∈ (x.episode settings now).events) :
    e.steady = true ∧ e.injects = false := by
  by_cases hambient : e.ambient = true
  · cases e <;> first | exact ⟨rfl, rfl⟩ | exact absurd hambient (by simp [Event.ambient])
  · rcases List.mem_append.mp he with hbefore | hafter
    · rcases List.mem_append.mp hbefore with hbefore | hstop
      · have hcall : e ∈ x.before.filter (!·.ambient) :=
          List.mem_filter.mpr ⟨hbefore, by simpa using hambient⟩
        rw [x.asks] at hcall
        obtain ⟨op, hop, rfl⟩ := List.mem_map.mp hcall
        simp only [CaptureOptions.requests, List.mem_cons, List.not_mem_nil, or_false] at hop
        rcases hop with rfl | rfl | rfl | rfl <;> exact ⟨rfl, rfl⟩
      · rw [List.mem_singleton.mp hstop]
        exact ⟨rfl, rfl⟩
    · have hlate := x.late_after hafter
      cases e <;>
        first | exact ⟨rfl, rfl⟩ | exact absurd hlate (by simp [Event.late, Event.ambient])

/-- A course in which the books of the session are kept from the start. -/
theorem conserving (settings : Settings) :
    (x.finished settings now).Conserving 0 0 (o.apply settings) (fun _ => true) [o.camera] := by
  have hstart : (World.fresh [o.camera] 1 [(0, o.apply settings)] 0 now).Conserving 0 0
      (o.apply settings) (fun _ => true) [o.camera] := by
    refine World.conserving_fresh [o.camera] 1 [(0, o.apply settings)] 0 now rfl Nat.one_pos ?_
    intro j s hj
    have hlt := (List.getElem?_eq_some_iff.mp hj).1
    simp only [List.length_singleton] at hlt
    omega
  have hover : (World.fresh [o.camera] 1 [(0, o.apply settings)] 0 now).run countPoints
      ([(x.episode settings now).opening] ++ (x.episode settings now).events) =
        x.finished settings now := by
    unfold episode
    rw [World.run_append, World.run_append, World.run_append]
    rfl
  rw [← hover]
  refine hstart.run countPoints countPoints_returns _ ?_
  -- No other session opens the camera: there is one opening, and it is that of the session.
  intro j d key address p hmem _
  rcases List.mem_append.mp hmem with hopening | hlater
  · have hsame := List.mem_singleton.mp hopening
    simp only [Episode.opening, Event.operate.injEq] at hsame
    simp [hsame.1]
  · exact absurd (x.paced now hlater).1 (by simp [Event.steady])

/-- Every frame that was emitted in a course has come to an end once the session is closed. -/
theorem settled (settings : Settings)
    (hclosed : ((x.finished settings now).relay.session 0).state = .closed) :
    (x.finished settings now).relay.books.emitted.sum =
      ((x.finished settings now).relay.session 0).stats.settled := by
  have hw := x.conserving now settings
  obtain ⟨t, ht, -⟩ := hw.secluded.present
  obtain ⟨s, hs, rfl⟩ := Relay.of_session_standing ht
  rw [Relay.session_eq hs] at hclosed ⊢
  have hnone : s.standing.camera = none := (hw.custody.closed 0 s.standing ht).mp hclosed
  -- Nothing waits in the hand-off of a closed session, so what was emitted is what was settled.
  have hframes := hw.balanced.frames
  unfold World.account Books.account Books.emittedBy at hframes
  simp only [if_true, World.waitingFor_of_closed hw.fed hw.custody ht hnone,
    Nat.add_zero] at hframes
  have hemitted : ((x.finished settings now).relay.books.emitted.mapIdx fun _ n => n) =
      (x.finished settings now).relay.books.emitted :=
    List.ext_getElem (by simp) (by simp)
  have hstats : (x.finished settings now).relay.books.stats.getD 0 {} = s.stats := by
    simp [Relay.books, List.getD_eq_getElem?_getD, hs]
  rw [hemitted, hstats] at hframes
  exact hframes

variable (hvalid : settings.validate = .ok ())
  (hrate : (FrameRate.ofKey? (o.rate.getD settings.frameRate)).isSome = true)

include hvalid hrate

/-- The episode of a course is a valid one. -/
theorem valid (h : Handler τ) (host : τ) :
    (x.episode settings now).Valid h (o.apply settings) host where
  opens := opens h host now hvalid hrate
  steady := fun _ he => (x.paced now he).1

/-- A session that has just opened its camera. -/
theorem undisturbed_opened (h : Handler τ) (host : τ) :
    ((x.episode settings now).opened h (o.apply settings) host).Undisturbed (o.apply settings)
      .opened := by
  obtain ⟨p, c, rate, b, r, hfound, -, hafter⟩ :=
    (x.valid now hvalid hrate h host).opened_eq
  have hsingle := (World.single_solo [o.camera] (o.apply settings) host now).run h
    [(x.episode settings now).opening]
  refine ⟨hsingle, by rw [hafter]; rfl, by rw [hafter]; rfl, by rw [hafter]; rfl, ?_⟩
  rw [hafter]
  intro d hd
  -- The camera was fresh, and to prepare it makes no call fail.
  have hfresh : ∀ c ∈ (World.solo [o.camera] (o.apply settings) host now).relay.cameras,
      c.faults = [] := by
    intro c hc
    rw [List.mem_singleton.mp hc]
  rcases List.mem_or_eq_of_mem_set hd with hold | rfl
  · exact hfresh d hold
  · exact hfresh c (List.mem_of_getElem? hfound)

/-- When the command stops its session, the session captures. -/
theorem undisturbed_waited :
    (x.waited settings now).Undisturbed (o.apply settings) .capturing :=
  (x.undisturbed_opened now hvalid hrate countPoints 0).run (validate_apply hvalid)
    countPoints_returns x.before o.requests x.asks rfl

/-- **The command stops its session without an error**, and from then on nothing is emitted and
    nothing is dropped. -/
theorem stops :
    ((x.waited settings now).step countPoints (.operate 0 .stop)).1 =
        .answered (.samples (.ok (x.samples settings now))) ∧
      (x.stopped settings now).Undisturbed (o.apply settings) .opened ∧
      (x.stopped settings now).Quiet (x.finished settings now) := by
  obtain ⟨⟨samples, -, hanswer⟩, -, hstopped⟩ :=
    call_succeeds (x.undisturbed_waited now hvalid hrate) (validate_apply hvalid) .stop
      (Relay.stop 0) rfl (fun _ => rfl) rfl
  refine ⟨?_, hstopped, hstopped.quiet.run countPoints_returns x.after fun e he => x.late_after he⟩
  unfold Course.samples
  rw [hanswer]

/-- Every frame that is delivered in a course is a full frame. -/
theorem length_delivered :
    ∀ points ∈ (x.episode settings now).frames countPoints.noting (o.apply settings) (0, [])
      World.delivered?, points.length = Sensor.maxPoints := by
  have hcourse := x.valid now hvalid hrate countPoints.noting (0, [])
  have hreturns := countPoints_returns.noting
  have hopened := hcourse.tended_opened hreturns
  have hlane := hopened.delivered_append_lane hreturns hcourse.steady
  rw [hcourse.lane_opened, List.nil_append] at hlane
  have hprofiles : ((x.episode settings now).opened countPoints.noting (o.apply settings)
      (0, [])).relay.cameras.map Camera.profile = [o.camera] :=
    World.profiles_step countPoints.noting _ (World.custody_fresh ..)
  have hsize : ∀ p ∈ ((x.episode settings now).opened countPoints.noting (o.apply settings)
      (0, [])).relay.cameras.map Camera.profile, p.size = Sensor.maxPoints := by
    intro p hp
    rw [hprofiles] at hp
    rw [List.mem_singleton.mp hp]
    exact size_camera o
  intro points hpoints
  refine World.length_kept (h := countPoints.noting) 0 (x.episode settings now).events
    (fun e he => (x.paced now he).2) hopened.custody hsize points ?_
  rw [hlane]
  exact List.mem_append_left _ hpoints

/-- What the command has counted at the end of a course: full frames that were delivered, and
    frames that the hand-off dropped. -/
theorem counted :
    ∃ n dropped, ((x.finished settings now).relay.session 0).stats =
        ((o.apply settings).outcome Sensor.maxPoints n).noteDropped dropped ∧
      (x.finished settings now).host = ((o.apply settings).outcome Sensor.maxPoints n).delivered *
        min Sensor.maxPoints (o.apply settings).maxPoints.toNat ∧
      ((o.apply settings).delivery ≠ .queued → dropped = 0) := by
  have hcourse := x.valid now hvalid hrate countPoints.noting (0, [])
  have hreturns := countPoints_returns.noting
  obtain ⟨-, hledger⟩ := hcourse.ledger_after countPoints_returns countPoints_observant
  have hafter := (Ledger.after_fresh (o.apply settings) Sensor.maxPoints).deliverAll
    (x.length_delivered now hvalid hrate)
  -- The hosts of the command take no notes.
  have hnotes : x.finished settings now =
      ((x.episode settings now).after countPoints.noting (o.apply settings) (0, [])).erase := by
    have hopened : (x.episode settings now).opened countPoints (o.apply settings) 0 =
        ((x.episode settings now).opened countPoints.noting (o.apply settings) (0, [])).erase :=
      congrArg Prod.snd (World.step_noting countPoints
        (World.solo [o.camera] (o.apply settings) (0, []) now) _)
    unfold Episode.after
    rw [← World.run_noting, ← hopened]
    show ((World.run countPoints x.before _).step countPoints _).2.run countPoints x.after = _
    unfold episode
    rw [World.run_append, World.run_append]
    rfl
  rw [hnotes]
  refine ⟨_, _, (congrArg Ledger.stats hledger).trans (congrArg (Stats.noteDropped _) hafter.stats),
    (congrArg Ledger.host hledger).trans hafter.points, fun hdirect => ?_⟩
  have hmode : (o.apply settings).delivery = .synchronous := by
    cases hdelivery : (o.apply settings).delivery with
    | synchronous => rfl
    | queued => exact absurd hdelivery hdirect
  have hnone := ((hcourse.tended_opened hreturns).frames_of_synchronous hreturns hmode
    hcourse.steady).2
  exact congrArg List.length hnone

/-- **The numbers of a course agree.** -/
theorem addsUp (hclosed : ((x.finished settings now).relay.session 0).state = .closed) :
    AddsUp (o.apply settings) (x.emitted settings now)
      (x.finished settings now).host ((x.finished settings now).relay.session 0).stats := by
  obtain ⟨n, dropped, hstats, hpoints, hdirect⟩ := x.counted now hvalid hrate
  have hemitted :
      x.emitted settings now = ((x.finished settings now).relay.session 0).stats.settled :=
    (congrArg List.sum (x.stops now hvalid hrate).2.2.emitted).symm.trans
      (x.settled now settings hclosed)
  rw [hemitted, hpoints, hstats]
  exact addsUp_outcome n hdirect

end Course

end Command

end DepthRelay
