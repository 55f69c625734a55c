import DepthRelay.Proofs.SessionCalls

namespace DepthRelay

/-!
# Who holds what

Sessions hold cameras, cameras have listeners, channels belong to sessions, and hosts see buffers.
Frames that pass change nothing of this, so it is looked at apart.

* `Standing` — the part of a world that deliveries, faults and time leave alone.
* `Shift` — everything that a step can do to it; `Shift.session_after`, `Shift.channels`,
  `Shift.camera_before` and their like say what follows for one part of it.
* `Custody` — what is true of it in all runs, however many sessions share a camera: a session is
  closed if and only if it holds no camera, a camera that is in use is held by somebody, and frames
  of a camera go to a session that holds it.
* `Attuned` — what is true as long as no camera is shared: a camera that is held is configured for
  its holder, and captures if and only if the holder does; `AttunedOn` is the same for some cameras.
-/

/-! ### What stands -/

/-- How a channel is wired. -/
structure Wiring where
  session : Nat
  binding : Binding
  policy : OverflowPolicy
  view : View
  queued : Bool
  deriving DecidableEq, Repr

/-- The channel without the frames that pass through it. -/
def Channel.wiring (x : Channel) : Wiring where
  session := x.session
  binding := x.binding
  policy := x.policy
  view := x.view
  queued := x.handoff.isSome

/-- What a session holds, without the frame source. -/
def OpenCamera.standing (o : OpenCamera) : OpenCamera :=
  { o with device := { camera := o.device.camera } }

/-- The session without its counts, its samples and its frame source. -/
def Session.standing (s : Session) : Session :=
  { s with
    camera := s.camera.map OpenCamera.standing
    timing := { enabled := s.timing.enabled }
    stats := {} }

/-- The camera without its frames, its faults and the exposure time. -/
def Camera.standing (c : Camera Nat) : Camera Nat :=
  { c with faults := [], exposureTime := 0, emitted := 0 }

/-- What deliveries, faults and time leave alone. -/
structure Standing where
  cameras : List (Camera Nat)
  sessions : List Session
  channels : List Wiring
  /-- The buffers that are exposed, by hosts. -/
  exposed : List (List View)
  closing : List Nat

def Relay.standing (closing : List Nat) (w : Relay) : Standing where
  cameras := w.cameras.map Camera.standing
  sessions := w.sessions.map Session.standing
  channels := w.channels.map Channel.wiring
  exposed := w.runtimes.map Runtime.exposed
  closing := closing

def World.standing {σ : Type} (w : World σ) : Standing := w.relay.standing w.closing

namespace Standing

/-- The session at place `i` holds the camera at place `p`. -/
def Holds (st : Standing) (i p : Nat) : Prop :=
  ∃ s o, st.sessions[i]? = some s ∧ s.camera = some o ∧ o.device.camera = p

/-- The session at place `i` and the camera at place `p` are replaced. -/
def update (i : Nat) (s : Session) (p : Nat) (c : Camera Nat) (st : Standing) : Standing :=
  { st with cameras := st.cameras.set p c, sessions := st.sessions.set i s }

end Standing

/-- The channel belongs to an opening of the session `s` at place `i`. -/
structure Wiring.Serves (x : Wiring) (i : Nat) (s : Session) : Prop where
  session : x.session = i
  runtime : x.binding.runtime = s.runtime
  address : x.binding.address = s.runtime
  policy : x.policy = s.settings.overflowPolicy
  queued : x.queued = decide (s.settings.delivery = .queued)

/-! ### What a step can do -/

/-- The buffers of a host once one more is exposed. -/
def exposing (v : View) (vs : List View) : List View := if v ∈ vs then vs else v :: vs

/-- A session with a camera that it has just opened. -/
def Session.holding (p channel : Nat) (serial : String) (rate : FrameRate) (s : Session) :
    Session :=
  { s with
    state := .opened
    camera := some { device := { camera := p }, channel, serial, rate } }

/-- Everything that a step can do to what stands; `reaches i p` says that the step is an opening of
    the session at place `i` that goes for the camera at place `p`. -/
inductive Shift (reaches : Nat → Nat → Prop) (st : Standing) : Standing → Prop
  | still : Shift reaches st st
  | undone (i p : Nat) (s : Session) (c c' : Camera Nat) (reach : reaches i p)
      (session : st.sessions[i]? = some s) (closed : s.state = .closed)
      (found : st.cameras[p]? = some c) (residue : c'.blank = c.blank.release) :
      Shift reaches st { st with cameras := st.cameras.set p c' }
  | opened (i p : Nat) (s : Session) (c : Camera Nat) (rate : FrameRate) (x : Wiring)
      (reach : reaches i p) (session : st.sessions[i]? = some s) (closed : s.state = .closed)
      (found : st.cameras[p]? = some c) (quiet : c.capturing = false) (serves : x.Serves i s) :
      Shift reaches st
        { st.update i (s.holding p st.channels.length c.profile.serial rate) p
            (Session.prepared rate st.channels.length c) with
          channels := st.channels ++ [x]
          exposed := st.exposed.modify s.runtime (exposing x.view) }
  | unstarted (i : Nat) (s : Session) (o : OpenCamera) (c : Camera Nat)
      (session : st.sessions[i]? = some s) (held : s.camera = some o)
      (found : st.cameras[o.device.camera]? = some c) (free : i ∉ st.closing)
      (state : s.state = .opened) :
      Shift reaches st (st.update i { s with timing := {} } o.device.camera c)
  | started (i : Nat) (s : Session) (o : OpenCamera) (c : Camera Nat) (timing : Bool)
      (session : st.sessions[i]? = some s) (held : s.camera = some o)
      (found : st.cameras[o.device.camera]? = some c) (free : i ∉ st.closing)
      (state : s.state = .opened) :
      Shift reaches st
        (st.update i { s with state := .capturing, timing := { enabled := timing } }
          o.device.camera { c with capturing := true })
  | stopped (i : Nat) (s : Session) (o : OpenCamera) (c : Camera Nat)
      (session : st.sessions[i]? = some s) (held : s.camera = some o)
      (found : st.cameras[o.device.camera]? = some c) (free : i ∉ st.closing)
      (state : s.state = .capturing) :
      Shift reaches st
        (st.update i { s with state := .opened, timing := {} } o.device.camera
          { c with capturing := false })
  /-- Closing has begun; the driver may have refused to stop the camera. -/
  | halted (i : Nat) (s : Session) (o : OpenCamera) (c : Camera Nat) (capturing : Bool)
      (session : st.sessions[i]? = some s) (held : s.camera = some o)
      (found : st.cameras[o.device.camera]? = some c) :
      Shift reaches st
        { st.update i { s with timing := {} } o.device.camera
            { c with listener := none, capturing := capturing } with
          closing := i :: st.closing }
  | ended (i : Nat) (s : Session) (o : OpenCamera) (c : Camera Nat) (x : Wiring)
      (session : st.sessions[i]? = some s) (held : s.camera = some o)
      (found : st.cameras[o.device.camera]? = some c) (wired : st.channels[o.channel]? = some x)
      (begun : i ∈ st.closing) :
      Shift reaches st
        { st.update i s.closed o.device.camera c.release with
          exposed := st.exposed.modify s.runtime (·.filter (· ≠ x.view))
          closing := st.closing.filter (· ≠ i) }

/-- Nothing that stands has changed. -/
theorem Shift.of_eq {reaches : Nat → Nat → Prop} {st st' : Standing} (h : st' = st) :
    Shift reaches st st' := h ▸ .still

/-- No session comes or goes. -/
theorem Shift.length_sessions {reaches : Nat → Nat → Prop} {st st' : Standing}
    (h : Shift reaches st st') : st'.sessions.length = st.sessions.length := by
  cases h <;> simp [Standing.update]

/-! ### Custody -/

/-- Who holds what, in all runs. -/
structure Custody (st : Standing) : Prop where
  closed : ∀ (i : Nat) (s : Session), st.sessions[i]? = some s →
    (s.state = .closed ↔ s.camera = none)
  timed : ∀ (i : Nat) (s : Session), st.sessions[i]? = some s → s.timing.enabled = true →
    s.state = .capturing
  found : ∀ (i : Nat) (s : Session) (o : OpenCamera), st.sessions[i]? = some s →
    s.camera = some o → ∃ c, st.cameras[o.device.camera]? = some c ∧ c.profile.serial = o.serial
  wired : ∀ (i : Nat) (s : Session) (o : OpenCamera), st.sessions[i]? = some s →
    s.camera = some o → ∃ x, st.channels[o.channel]? = some x ∧ x.Serves i s
  /-- Only a session that holds a camera can be being closed. -/
  closing : ∀ i ∈ st.closing, ∃ p, st.Holds i p
  silent : ∀ (i : Nat) (s : Session), i ∈ st.closing → st.sessions[i]? = some s →
    s.timing.enabled = false
  /-- A camera is in use only while somebody holds it. -/
  vacant : ∀ (p : Nat) (c : Camera Nat), st.cameras[p]? = some c →
    c.initialized = true ∨ c.capturing = true → ∃ i, st.Holds i p
  /-- A listener is the channel of a session that holds the camera and is not being closed. -/
  heard : ∀ (p k : Nat) (c : Camera Nat), st.cameras[p]? = some c → c.listener = some k →
    ∃ i s o, st.sessions[i]? = some s ∧ s.camera = some o ∧ o.device.camera = p ∧
      o.channel = k ∧ i ∉ st.closing

/-- What is left of preparations in vain. -/
theorem Camera.residue {c c' : Camera Nat} (h : c'.blank = c.blank.release) :
    c'.profile = c.profile ∧ c'.listener = none ∧ c'.initialized = false ∧
      c'.capturing = false := by
  cases c
  cases c'
  simp_all [Camera.blank, Camera.release]

namespace Standing

variable {st st' : Standing} {i j p : Nat} {s s' : Session}

/-- A session that is replaced holds on to its camera. -/
theorem holds_of_set (h : st'.sessions = st.sessions.set i s') (hs : st.sessions[i]? = some s)
    (hsame : s'.camera = s.camera) : st'.Holds j p ↔ st.Holds j p := by
  unfold Holds
  rw [h]
  by_cases hj : j = i
  · subst hj
    rw [getElem?_set_of_some hs, hs]
    constructor
    · rintro ⟨t, o, ht, ho, hp⟩
      obtain rfl : s' = t := Option.some.inj ht
      exact ⟨s, o, rfl, hsame ▸ ho, hp⟩
    · rintro ⟨t, o, ht, ho, hp⟩
      obtain rfl : s = t := Option.some.inj ht
      exact ⟨s', o, rfl, hsame ▸ ho, hp⟩
  · rw [List.getElem?_set_ne (Ne.symm hj)]

end Standing

namespace Custody

open Standing

variable {st : Standing} {i p : Nat} {s s' : Session} {o : OpenCamera} {c c' : Camera Nat}

/-- A session works on the camera that it holds, or begins to be closed. -/
theorem work (h : Custody st) (s' : Session) (c' : Camera Nat) (closing : List Nat)
    (hs : st.sessions[i]? = some s) (ho : s.camera = some o)
    (hc : st.cameras[o.device.camera]? = some c) (hsame : s'.camera = s.camera)
    (hruntime : s'.runtime = s.runtime) (hsettings : s'.settings = s.settings)
    (hstate : s'.state ≠ .closed) (htimed : s'.timing.enabled = true → s'.state = .capturing)
    (hprofile : c'.profile = c.profile)
    (hsilent : i ∈ closing → s'.timing.enabled = false)
    (hclosing : closing = st.closing ∧ c'.listener = c.listener ∨
      closing = i :: st.closing ∧ c'.listener = none) :
    Custody { st.update i s' o.device.camera c' with closing := closing } where
  closed := by
    intro j t ht
    rcases getElem?_set_cases ht with ⟨rfl, rfl⟩ | ⟨-, ht⟩
    · simp [hstate, hsame, ho]
    · exact h.closed j t ht
  timed := by
    intro j t ht
    rcases getElem?_set_cases ht with ⟨rfl, rfl⟩ | ⟨-, ht⟩
    · exact htimed
    · exact h.timed j t ht
  found := by
    intro j t u ht hu
    have hold : ∃ d, st.cameras[u.device.camera]? = some d ∧ d.profile.serial = u.serial := by
      rcases getElem?_set_cases ht with ⟨rfl, rfl⟩ | ⟨-, ht⟩
      · exact h.found j s u hs (hsame ▸ hu)
      · exact h.found j t u ht hu
    obtain ⟨d, hd, hserial⟩ := hold
    by_cases hp : u.device.camera = o.device.camera
    · obtain rfl : c = d := by simpa [hp, hc] using hd
      rw [hp]
      exact ⟨c', getElem?_set_of_some hc, by rw [hprofile, hserial]⟩
    · exact ⟨d, (List.getElem?_set_ne (Ne.symm hp)).trans hd, hserial⟩
  wired := by
    intro j t u ht hu
    rcases getElem?_set_cases ht with ⟨rfl, rfl⟩ | ⟨-, ht⟩
    · -- A channel serves the session by what never changes about it.
      obtain ⟨x, hx, hserves⟩ := h.wired j s u hs (hsame ▸ hu)
      obtain ⟨h₁, h₂, h₃, h₄, h₅⟩ := hserves
      exact ⟨x, hx, h₁, hruntime ▸ h₂, hruntime ▸ h₃, hsettings ▸ h₄, hsettings ▸ h₅⟩
    · exact h.wired j t u ht hu
  closing := by
    intro j hj
    have hholds : ∃ q, st.Holds j q := by
      rcases hclosing with ⟨rfl, -⟩ | ⟨rfl, -⟩
      · exact h.closing j hj
      · rcases List.mem_cons.mp hj with rfl | hj
        · exact ⟨_, s, o, hs, ho, rfl⟩
        · exact h.closing j hj
    obtain ⟨q, hq⟩ := hholds
    refine ⟨q, ?_⟩
    exact (holds_of_set rfl hs hsame).mpr hq
  silent := by
    intro j t hj ht
    rcases getElem?_set_cases ht with ⟨rfl, rfl⟩ | ⟨hij, ht⟩
    · exact hsilent hj
    · refine h.silent j t ?_ ht
      rcases hclosing with ⟨rfl, -⟩ | ⟨rfl, -⟩
      · exact hj
      · exact (List.mem_cons.mp hj).resolve_left hij
  vacant := by
    intro q d hd hactive
    rcases getElem?_set_cases hd with ⟨rfl, rfl⟩ | ⟨-, hd⟩
    · exact ⟨i, (holds_of_set rfl hs hsame).mpr ⟨s, o, hs, ho, rfl⟩⟩
    · obtain ⟨j, hj⟩ := h.vacant q d hd hactive
      exact ⟨j, (holds_of_set rfl hs hsame).mpr hj⟩
  heard := by
    intro q k d hd hk
    -- The listener was there before, and its session is not the one that begins to be closed.
    have hbefore : ∃ d', st.cameras[q]? = some d' ∧ d'.listener = some k ∧
        (q = o.device.camera → closing = st.closing) := by
      rcases getElem?_set_cases hd with ⟨rfl, rfl⟩ | ⟨hq, hd⟩
      · rcases hclosing with ⟨hsame, hlistener⟩ | ⟨-, hnone⟩
        · exact ⟨c, hc, hlistener ▸ hk, fun _ => hsame⟩
        · exact absurd (hk.symm.trans hnone) (by simp)
      · exact ⟨d, hd, hk, fun hp => absurd hp hq⟩
    obtain ⟨d', hd', hk', hq⟩ := hbefore
    obtain ⟨j, t, u, ht, hu, hp, hchannel, hj⟩ := h.heard q k d' hd' hk'
    by_cases hij : j = i
    · subst hij
      obtain rfl : s = t := by simpa [hs] using ht
      obtain rfl : o = u := by simpa [ho] using hu
      exact ⟨j, s', o, getElem?_set_of_some hs, hsame ▸ hu, hp, hchannel, hq hp.symm ▸ hj⟩
    · refine ⟨j, t, u, (List.getElem?_set_ne (Ne.symm hij)).trans ht, hu, hp, hchannel, ?_⟩
      rcases hclosing with ⟨rfl, -⟩ | ⟨rfl, -⟩
      · exact hj
      · exact fun hmem => (List.mem_cons.mp hmem).elim hij hj

/-- A camera is given back that nobody has come to hold. -/
theorem undo (h : Custody st) (hc : st.cameras[p]? = some c)
    (hresidue : c'.blank = c.blank.release) :
    Custody { st with cameras := st.cameras.set p c' } := by
  obtain ⟨hprofile, hlistener, hinitialized, hcapturing⟩ := Camera.residue hresidue
  refine ⟨h.closed, h.timed, ?_, h.wired, h.closing, h.silent, ?_, ?_⟩
  · intro j t u ht hu
    obtain ⟨d, hd, hserial⟩ := h.found j t u ht hu
    by_cases hp : u.device.camera = p
    · -- A session that is not known to be closed may hold the same camera; its serial stays.
      obtain rfl : c = d := by simpa [hp, hc] using hd
      rw [hp]
      exact ⟨c', getElem?_set_of_some hc, by rw [hprofile, hserial]⟩
    · exact ⟨d, (List.getElem?_set_ne (Ne.symm hp)).trans hd, hserial⟩
  · intro q d hd hactive
    rcases getElem?_set_cases hd with ⟨rfl, rfl⟩ | ⟨-, hd⟩
    · simp [hinitialized, hcapturing] at hactive
    · exact h.vacant q d hd hactive
  · intro q k d hd hk
    rcases getElem?_set_cases hd with ⟨rfl, rfl⟩ | ⟨-, hd⟩
    · simp [hlistener] at hk
    · exact h.heard q k d hd hk

/-- Whoever else holds a camera still does after one session's place was replaced. -/
theorem holds_other {st' : Standing} {j q : Nat} (hsessions : st'.sessions = st.sessions.set i s')
    (hj : j ≠ i) (hq : st.Holds j q) : st'.Holds j q := by
  obtain ⟨t, u, ht, hu, hq⟩ := hq
  refine ⟨t, u, ?_, hu, hq⟩
  rw [hsessions, List.getElem?_set_ne (Ne.symm hj), ht]

/-- A closed session holds nothing. -/
theorem not_holds (h : Custody st) (hs : st.sessions[i]? = some s) (hstate : s.state = .closed)
    {j q : Nat} (hq : st.Holds j q) : j ≠ i := by
  rintro rfl
  obtain ⟨t, u, ht, hu, -⟩ := hq
  obtain rfl : s = t := Option.some.inj (hs.symm.trans ht)
  exact absurd ((h.closed j s hs).mp hstate) (by simp [hu])

/-- A session opens a camera. -/
theorem hold (h : Custody st) {rate : FrameRate} {x : Wiring} (exposed : List (List View))
    (hs : st.sessions[i]? = some s) (hstate : s.state = .closed) (hc : st.cameras[p]? = some c)
    (hx : x.Serves i s) :
    Custody
      { st.update i (s.holding p st.channels.length c.profile.serial rate) p
          (Session.prepared rate st.channels.length c) with
        channels := st.channels ++ [x]
        exposed := exposed } where
  closed := by
    intro j t ht
    rcases getElem?_set_cases ht with ⟨rfl, rfl⟩ | ⟨-, ht⟩
    · simp [Session.holding]
    · exact h.closed j t ht
  timed := by
    intro j t ht hon
    rcases getElem?_set_cases ht with ⟨rfl, rfl⟩ | ⟨-, ht⟩
    · -- A closed session is not timed.
      exact absurd ((h.timed j s hs hon).symm.trans hstate) (by simp)
    · exact h.timed j t ht hon
  found := by
    intro j t u ht hu
    rcases getElem?_set_cases ht with ⟨rfl, rfl⟩ | ⟨-, ht⟩
    · obtain rfl := Option.some.inj hu
      exact ⟨_, getElem?_set_of_some hc, rfl⟩
    · obtain ⟨d, hd, hserial⟩ := h.found j t u ht hu
      by_cases hp : u.device.camera = p
      · obtain rfl : c = d := by simpa [hp, hc] using hd
        rw [hp]
        exact ⟨_, getElem?_set_of_some hc, hserial⟩
      · exact ⟨d, (List.getElem?_set_ne (Ne.symm hp)).trans hd, hserial⟩
  wired := by
    intro j t u ht hu
    rcases getElem?_set_cases ht with ⟨rfl, rfl⟩ | ⟨-, ht⟩
    · obtain rfl := Option.some.inj hu
      exact ⟨x, by simp, hx.1, hx.2, hx.3, hx.4, hx.5⟩
    · obtain ⟨y, hy, hserves⟩ := h.wired j t u ht hu
      refine ⟨y, ?_, hserves⟩
      -- The new channel comes last, so the others keep their places.
      show (st.channels ++ [x])[u.channel]? = some y
      rw [List.getElem?_append_left (List.getElem?_eq_some_iff.mp hy).1, hy]
  closing := by
    intro j hj
    obtain ⟨q, hq⟩ := h.closing j hj
    exact ⟨q, holds_other rfl (h.not_holds hs hstate hq) hq⟩
  silent := by
    intro j t hj ht
    rcases getElem?_set_cases ht with ⟨rfl, rfl⟩ | ⟨-, ht⟩
    · exact h.silent j s hj hs
    · exact h.silent j t hj ht
  vacant := by
    intro q d hd hactive
    rcases getElem?_set_cases hd with ⟨rfl, rfl⟩ | ⟨-, hd⟩
    · exact ⟨i, _, _, getElem?_set_of_some hs, rfl, rfl⟩
    · obtain ⟨j, hj⟩ := h.vacant q d hd hactive
      exact ⟨j, holds_other rfl (h.not_holds hs hstate hj) hj⟩
  heard := by
    intro q k d hd hk
    rcases getElem?_set_cases hd with ⟨rfl, rfl⟩ | ⟨-, hd⟩
    · obtain rfl := Option.some.inj hk
      refine ⟨i, _, _, getElem?_set_of_some hs, rfl, rfl, rfl, ?_⟩
      intro hmem
      -- Who is being closed holds a camera, and this session was closed.
      obtain ⟨r, hr⟩ := h.closing i hmem
      exact h.not_holds hs hstate hr rfl
    · obtain ⟨j, t, u, ht, hu, hp, hchannel, hj⟩ := h.heard q k d hd hk
      have hij : j ≠ i := h.not_holds hs hstate ⟨t, u, ht, hu, rfl⟩
      exact ⟨j, t, u, (List.getElem?_set_ne (Ne.symm hij)).trans ht, hu, hp, hchannel, hj⟩

/-- A session gives its camera back. -/
theorem close (h : Custody st) (exposed : List (List View)) (hs : st.sessions[i]? = some s)
    (ho : s.camera = some o) (hc : st.cameras[o.device.camera]? = some c) (hi : i ∈ st.closing) :
    Custody
      { st.update i s.closed o.device.camera c.release with
        exposed := exposed
        closing := st.closing.filter (· ≠ i) } := by
  -- The only camera that the session holds is the one that it gives back.
  have hother {j q : Nat} (hq : q ≠ o.device.camera) (hj : st.Holds j q) : j ≠ i := by
    rintro rfl
    obtain ⟨t, u, ht, hu, hp⟩ := hj
    obtain rfl : s = t := Option.some.inj (hs.symm.trans ht)
    obtain rfl : o = u := Option.some.inj (ho.symm.trans hu)
    exact hq hp.symm
  refine ⟨?_, ?_, ?_, ?_, ?_, ?_, ?_, ?_⟩
  · intro j t ht
    rcases getElem?_set_cases ht with ⟨rfl, rfl⟩ | ⟨-, ht⟩
    · simp [Session.closed]
    · exact h.closed j t ht
  · intro j t ht hon
    rcases getElem?_set_cases ht with ⟨rfl, rfl⟩ | ⟨-, ht⟩
    · -- The log was switched off when closing began.
      exact absurd (hon.symm.trans (h.silent j s hi hs)) (by simp)
    · exact h.timed j t ht hon
  · intro j t u ht hu
    rcases getElem?_set_cases ht with ⟨rfl, rfl⟩ | ⟨-, ht⟩
    · exact absurd hu (by simp [Session.closed])
    · obtain ⟨d, hd, hserial⟩ := h.found j t u ht hu
      by_cases hp : u.device.camera = o.device.camera
      · obtain rfl : c = d := by simpa [hp, hc] using hd
        rw [hp]
        exact ⟨_, getElem?_set_of_some hc, hserial⟩
      · exact ⟨d, (List.getElem?_set_ne (Ne.symm hp)).trans hd, hserial⟩
  · intro j t u ht hu
    rcases getElem?_set_cases ht with ⟨rfl, rfl⟩ | ⟨-, ht⟩
    · exact absurd hu (by simp [Session.closed])
    · exact h.wired j t u ht hu
  · intro j hj
    obtain ⟨hj, hij⟩ := List.mem_filter.mp hj
    obtain ⟨q, hq⟩ := h.closing j hj
    exact ⟨q, holds_other rfl (by simpa using hij) hq⟩
  · intro j t hj ht
    obtain ⟨hj, hij⟩ := List.mem_filter.mp hj
    rcases getElem?_set_cases ht with ⟨rfl, rfl⟩ | ⟨-, ht⟩
    · simp at hij
    · exact h.silent j t hj ht
  · intro q d hd hactive
    rcases getElem?_set_cases hd with ⟨rfl, rfl⟩ | ⟨hq, hd⟩
    · simp [Camera.release] at hactive
    · obtain ⟨j, hj⟩ := h.vacant q d hd hactive
      exact ⟨j, holds_other rfl (hother hq hj) hj⟩
  · intro q k d hd hk
    rcases getElem?_set_cases hd with ⟨rfl, rfl⟩ | ⟨hq, hd⟩
    · simp [Camera.release] at hk
    · obtain ⟨j, t, u, ht, hu, hp, hchannel, hj⟩ := h.heard q k d hd hk
      have hij : j ≠ i := hother hq ⟨t, u, ht, hu, hp⟩
      refine ⟨j, t, u, (List.getElem?_set_ne (Ne.symm hij)).trans ht, hu, hp, hchannel, ?_⟩
      exact fun hmem => hj (List.mem_filter.mp hmem).1

/-- **Custody is kept by every step.** -/
theorem shift {reaches : Nat → Nat → Prop} {st' : Standing} (h : Custody st)
    (hshift : Shift reaches st st') : Custody st' := by
  cases hshift with
  | still => exact h
  | undone i p s c c' _ _ _ found residue => exact h.undo found residue
  | opened i p s c rate x _ session closed found _ serves =>
    exact h.hold _ session closed found serves
  | unstarted i s o c session held found free state =>
    exact h.work _ _ st.closing session held found rfl rfl rfl (by simp [state]) (by simp) rfl
      (by simp) (.inl ⟨rfl, rfl⟩)
  | started i s o c timing session held found free state =>
    exact h.work _ _ st.closing session held found rfl rfl rfl (by simp) (by simp) rfl
      (fun hi => absurd hi free) (.inl ⟨rfl, rfl⟩)
  | stopped i s o c session held found free state =>
    exact h.work _ _ st.closing session held found rfl rfl rfl (by simp) (by simp) rfl
      (by simp) (.inl ⟨rfl, rfl⟩)
  | halted i s o c capturing session held found =>
    have hstate : s.state ≠ .closed := fun hstate =>
      absurd ((h.closed i s session).mp hstate) (by simp [held])
    exact h.work _ _ _ session held found rfl rfl rfl hstate (by simp) rfl
      (by simp) (.inr ⟨rfl, rfl⟩)
  | ended i s o c x session held found wired begun => exact h.close _ session held found begun

end Custody

/-! ### Cameras that are not shared -/

/-- No camera in `mine` is shared, and these cameras are attuned to the sessions that hold them. -/
structure AttunedOn (mine : Nat → Prop) (st : Standing) : Prop where
  sole : ∀ i j p : Nat, mine p → st.Holds i p → st.Holds j p → i = j
  configured : ∀ (i : Nat) (s : Session) (o : OpenCamera) (c : Camera Nat),
    mine o.device.camera → st.sessions[i]? = some s → s.camera = some o →
    st.cameras[o.device.camera]? = some c →
    c.initialized = true ∧ c.useCase = some o.rate.useCase ∧ c.exposureMode = .manual
  following : ∀ (i : Nat) (s : Session) (o : OpenCamera) (c : Camera Nat),
    mine o.device.camera → i ∉ st.closing → st.sessions[i]? = some s → s.camera = some o →
    st.cameras[o.device.camera]? = some c →
    c.listener = some o.channel ∧ (c.capturing = true ↔ s.state = .capturing)

namespace AttunedOn

variable {mine : Nat → Prop} {st : Standing} {i p : Nat} {s s' : Session} {o : OpenCamera}
  {c c' : Camera Nat}

/-- A session works on the camera that it holds, or begins to be closed. -/
theorem work (h : AttunedOn mine st) (s' : Session) (c' : Camera Nat) (closing : List Nat)
    (hs : st.sessions[i]? = some s) (ho : s.camera = some o)
    (hc : st.cameras[o.device.camera]? = some c) (hsame : s'.camera = s.camera)
    (hconfigured : c'.initialized = c.initialized ∧ c'.useCase = c.useCase ∧
      c'.exposureMode = c.exposureMode)
    (hclosing : ∀ j ∉ closing, j ∉ st.closing)
    (hfollowing : mine o.device.camera → i ∉ closing → c'.listener = c.listener ∧
      (c'.capturing = true ↔ s'.state = .capturing)) :
    AttunedOn mine { st.update i s' o.device.camera c' with closing := closing } where
  sole := by
    intro j k q hq hj hk
    exact h.sole j k q hq ((Standing.holds_of_set rfl hs hsame).mp hj)
      ((Standing.holds_of_set rfl hs hsame).mp hk)
  configured := by
    intro j t u d hmine ht hu hd
    obtain ⟨h₁, h₂, h₃⟩ := hconfigured
    rcases getElem?_set_cases hd with ⟨hp, rfl⟩ | ⟨hp, hd'⟩
    · -- Only this session holds the camera that it works on.
      have hj : j = i := h.sole j i o.device.camera (hp ▸ hmine)
        ((Standing.holds_of_set rfl hs hsame).mp ⟨t, u, ht, hu, hp⟩) ⟨s, o, hs, ho, rfl⟩
      subst hj
      obtain rfl : s' = t := Option.some.inj ((getElem?_set_of_some hs).symm.trans ht)
      obtain rfl : o = u := Option.some.inj (ho.symm.trans (hsame ▸ hu))
      rw [h₁, h₂, h₃]
      exact h.configured j s o c hmine hs ho hc
    · rcases getElem?_set_cases ht with ⟨rfl, rfl⟩ | ⟨-, ht'⟩
      · exact h.configured j s u d hmine hs (hsame ▸ hu) hd'
      · exact h.configured j t u d hmine ht' hu hd'
  following := by
    intro j t u d hmine hfree ht hu hd
    rcases getElem?_set_cases ht with ⟨rfl, rfl⟩ | ⟨hj, ht'⟩
    · obtain rfl : o = u := Option.some.inj (ho.symm.trans (hsame ▸ hu))
      obtain rfl : c' = d := Option.some.inj ((getElem?_set_of_some hc).symm.trans hd)
      obtain ⟨hlistener, hcapturing⟩ := hfollowing hmine hfree
      exact ⟨hlistener.trans (h.following j s o c hmine (hclosing j hfree) hs ho hc).1, hcapturing⟩
    · rcases getElem?_set_cases hd with ⟨hp, rfl⟩ | ⟨-, hd'⟩
      · exact absurd (h.sole j i o.device.camera (hp ▸ hmine) ⟨t, u, ht', hu, hp⟩
          ⟨s, o, hs, ho, rfl⟩) hj
      · exact h.following j t u d hmine (hclosing j hfree) ht' hu hd'

/-- A camera that nobody holds is changed, so no session sees the difference. -/
theorem undo (h : AttunedOn mine st) (hunheld : mine p → ∀ j, ¬st.Holds j p) :
    AttunedOn mine { st with cameras := st.cameras.set p c' } where
  sole := h.sole
  configured := by
    intro j t u d hmine ht hu hd
    rcases getElem?_set_cases hd with ⟨hp, -⟩ | ⟨-, hd⟩
    · exact absurd ⟨t, u, ht, hu, hp⟩ (hunheld (hp ▸ hmine) j)
    · exact h.configured j t u d hmine ht hu hd
  following := by
    intro j t u d hmine hfree ht hu hd
    rcases getElem?_set_cases hd with ⟨hp, -⟩ | ⟨-, hd⟩
    · exact absurd ⟨t, u, ht, hu, hp⟩ (hunheld (hp ▸ hmine) j)
    · exact h.following j t u d hmine hfree ht hu hd

/-- A session opens a camera that nobody holds. -/
theorem hold (h : AttunedOn mine st) {rate : FrameRate} {x : Wiring} (exposed : List (List View))
    (hunheld : mine p → ∀ j, ¬st.Holds j p) (hc : st.cameras[p]? = some c)
    (hquiet : c.capturing = false) :
    AttunedOn mine
      { st.update i (s.holding p st.channels.length c.profile.serial rate) p
          (Session.prepared rate st.channels.length c) with
        channels := st.channels ++ [x]
        exposed := exposed } where
  sole := by
    -- The session that opens is the only new holder, and nobody has held its camera before.
    rintro j k q hmine ⟨t, u, ht, hu, hq⟩ ⟨t', u', ht', hu', hq'⟩
    rcases getElem?_set_cases ht with ⟨rfl, rfl⟩ | ⟨-, ht⟩
    · obtain rfl := Option.some.inj hu
      obtain rfl : p = q := hq
      rcases getElem?_set_cases ht' with ⟨rfl, rfl⟩ | ⟨-, ht'⟩
      · rfl
      · exact absurd ⟨t', u', ht', hu', hq'⟩ (hunheld hmine k)
    · have hj : st.Holds j q := ⟨t, u, ht, hu, hq⟩
      rcases getElem?_set_cases ht' with ⟨rfl, rfl⟩ | ⟨-, ht'⟩
      · obtain rfl := Option.some.inj hu'
        obtain rfl : p = q := hq'
        exact absurd hj (hunheld hmine j)
      · exact h.sole j k q hmine hj ⟨t', u', ht', hu', hq'⟩
  configured := by
    intro j t u d hmine ht hu hd
    rcases getElem?_set_cases ht with ⟨rfl, rfl⟩ | ⟨-, ht⟩
    · -- The camera of the new holder has just been configured.
      obtain rfl := Option.some.inj hu
      obtain rfl := Option.some.inj ((getElem?_set_of_some hc).symm.trans hd)
      exact ⟨rfl, rfl, rfl⟩
    · rcases getElem?_set_cases hd with ⟨hp, -⟩ | ⟨-, hd⟩
      · exact absurd ⟨t, u, ht, hu, hp⟩ (hunheld (hp ▸ hmine) j)
      · exact h.configured j t u d hmine ht hu hd
  following := by
    intro j t u d hmine hfree ht hu hd
    rcases getElem?_set_cases ht with ⟨rfl, rfl⟩ | ⟨-, ht⟩
    · obtain rfl := Option.some.inj hu
      obtain rfl := Option.some.inj ((getElem?_set_of_some hc).symm.trans hd)
      -- The camera has not captured, and the new holder has not started.
      refine ⟨rfl, ?_⟩
      show c.capturing = true ↔ SessionState.opened = .capturing
      simp [hquiet]
    · rcases getElem?_set_cases hd with ⟨hp, -⟩ | ⟨-, hd⟩
      · exact absurd ⟨t, u, ht, hu, hp⟩ (hunheld (hp ▸ hmine) j)
      · exact h.following j t u d hmine hfree ht hu hd

/-- A session gives its camera back. -/
theorem close (h : AttunedOn mine st) (exposed : List (List View)) (hs : st.sessions[i]? = some s)
    (ho : s.camera = some o) :
    AttunedOn mine
      { st.update i s.closed o.device.camera c.release with
        exposed := exposed
        closing := st.closing.filter (· ≠ i) } := by
  -- The session that gives its camera back is the only one that held it.
  have hsole {j : Nat} (hmine : mine o.device.camera) (hj : st.Holds j o.device.camera) : j = i :=
    h.sole j i o.device.camera hmine hj ⟨s, o, hs, ho, rfl⟩
  refine ⟨?_, ?_, ?_⟩
  · rintro j k q hmine ⟨t, u, ht, hu, hq⟩ ⟨t', u', ht', hu', hq'⟩
    rcases getElem?_set_cases ht with ⟨rfl, rfl⟩ | ⟨-, ht⟩
    · exact absurd hu (by simp [Session.closed])
    · rcases getElem?_set_cases ht' with ⟨rfl, rfl⟩ | ⟨-, ht'⟩
      · exact absurd hu' (by simp [Session.closed])
      · exact h.sole j k q hmine ⟨t, u, ht, hu, hq⟩ ⟨t', u', ht', hu', hq'⟩
  · intro j t u d hmine ht hu hd
    rcases getElem?_set_cases ht with ⟨rfl, rfl⟩ | ⟨hj, ht⟩
    · exact absurd hu (by simp [Session.closed])
    · rcases getElem?_set_cases hd with ⟨hp, -⟩ | ⟨-, hd⟩
      · exact absurd (hsole (hp ▸ hmine) ⟨t, u, ht, hu, hp⟩) hj
      · exact h.configured j t u d hmine ht hu hd
  · intro j t u d hmine hfree ht hu hd
    rcases getElem?_set_cases ht with ⟨rfl, rfl⟩ | ⟨hj, ht⟩
    · exact absurd hu (by simp [Session.closed])
    · rcases getElem?_set_cases hd with ⟨hp, -⟩ | ⟨-, hd⟩
      · exact absurd (hsole (hp ▸ hmine) ⟨t, u, ht, hu, hp⟩) hj
      · have hfree' : j ∉ st.closing := fun hmem =>
          hfree (List.mem_filter.mpr ⟨hmem, by simpa using hj⟩)
        exact h.following j t u d hmine hfree' ht hu hd

/-- **Attunement is kept** by every step that does not reach for a camera in other hands, as far as
    the cameras in `mine` go. -/
theorem shift {reaches : Nat → Nat → Prop} {st' : Standing} (h : AttunedOn mine st)
    (hcustody : Custody st) (hprivate : ∀ i p j, mine p → reaches i p → st.Holds j p → j = i)
    (hshift : Shift reaches st st') : AttunedOn mine st' := by
  -- A closed session reaches only for cameras that nobody holds.
  have hunheld {i p : Nat} {s : Session} (reach : reaches i p)
      (session : st.sessions[i]? = some s) (closed : s.state = .closed) (hmine : mine p) (j : Nat) :
      ¬st.Holds j p := fun hj =>
    hcustody.not_holds session closed hj (hprivate i p j hmine reach hj)
  cases hshift with
  | still => exact h
  | undone i p s c c' reach session closed => exact h.undo (hunheld reach session closed)
  | opened i p s c rate x reach session closed found quiet =>
    exact h.hold _ (hunheld reach session closed) found quiet
  | unstarted i s o c session held found free state =>
    refine h.work _ c st.closing session held found rfl ⟨rfl, rfl, rfl⟩ (fun _ hj => hj)
      fun hmine hfree => ?_
    exact ⟨rfl, (h.following i s o c hmine free session held found).2⟩
  | started i s o c timing session held found free state =>
    exact h.work _ _ st.closing session held found rfl ⟨rfl, rfl, rfl⟩ (fun _ hj => hj)
      fun _ _ => ⟨rfl, by simp⟩
  | stopped i s o c session held found free state =>
    exact h.work _ _ st.closing session held found rfl ⟨rfl, rfl, rfl⟩ (fun _ hj => hj)
      fun _ _ => ⟨rfl, by simp⟩
  | halted i s o c capturing session held found =>
    refine h.work _ _ _ session held found rfl ⟨rfl, rfl, rfl⟩
      (fun _ hj hmem => hj (List.mem_cons_of_mem _ hmem)) fun _ hfree => ?_
    exact absurd List.mem_cons_self hfree
  | ended i s o c x session held => exact h.close _ session held

end AttunedOn

/-- No camera is shared, and cameras are attuned to the sessions that hold them. -/
structure Attuned (st : Standing) : Prop where
  sole : ∀ i j p : Nat, st.Holds i p → st.Holds j p → i = j
  configured : ∀ (i : Nat) (s : Session) (o : OpenCamera) (c : Camera Nat),
    st.sessions[i]? = some s → s.camera = some o → st.cameras[o.device.camera]? = some c →
    c.initialized = true ∧ c.useCase = some o.rate.useCase ∧ c.exposureMode = .manual
  following : ∀ (i : Nat) (s : Session) (o : OpenCamera) (c : Camera Nat), i ∉ st.closing →
    st.sessions[i]? = some s → s.camera = some o → st.cameras[o.device.camera]? = some c →
    c.listener = some o.channel ∧ (c.capturing = true ↔ s.state = .capturing)

namespace Attuned

variable {st st' : Standing}

/-- To be attuned is to be attuned in all cameras. -/
theorem iff_attunedOn : Attuned st ↔ AttunedOn (fun _ => True) st where
  mp h :=
    ⟨fun i j p _ => h.sole i j p, fun i s o c _ => h.configured i s o c,
      fun i s o c _ => h.following i s o c⟩
  mpr h :=
    ⟨fun i j p => h.sole i j p trivial, fun i s o c => h.configured i s o c trivial,
      fun i s o c => h.following i s o c trivial⟩

/-- **Attunement is kept** by every step that does not reach for a camera in other hands. -/
theorem shift {reaches : Nat → Nat → Prop} (h : Attuned st) (hcustody : Custody st)
    (hprivate : ∀ i p j, reaches i p → st.Holds j p → j = i) (hshift : Shift reaches st st') :
    Attuned st' :=
  iff_attunedOn.mpr <|
    (iff_attunedOn.mp h).shift hcustody (fun i p j _ => hprivate i p j) hshift

end Attuned

/-! ### What a shift leaves alone -/

namespace Shift

variable {reaches : Nat → Nat → Prop} {st st' : Standing}

/-- What is fixed about sessions. -/
theorem fixed (h : Shift reaches st st') :
    st'.sessions.map (fun t => (t.runtime, t.settings)) =
      st.sessions.map fun t => (t.runtime, t.settings) := by
  cases h with
  | still => rfl
  | undone => rfl
  | opened i p s c rate x _ session => exact map_set_of_eq session rfl
  | unstarted i s o c session => exact map_set_of_eq session rfl
  | started i s o c timing session => exact map_set_of_eq session rfl
  | stopped i s o c session => exact map_set_of_eq session rfl
  | halted i s o c capturing session => exact map_set_of_eq session rfl
  | ended i s o c x session => exact map_set_of_eq session rfl

/-- What is fixed about cameras. -/
theorem profiles (h : Shift reaches st st') :
    st'.cameras.map Camera.profile = st.cameras.map Camera.profile := by
  cases h with
  | still => rfl
  | undone i p s c c' _ _ _ found residue =>
    exact map_set_of_eq found (Camera.residue residue).1
  | opened i p s c rate x _ _ _ found => exact map_set_of_eq found rfl
  | unstarted i s o c _ _ found => exact map_set_of_eq found rfl
  | started i s o c timing _ _ found => exact map_set_of_eq found rfl
  | stopped i s o c _ _ found => exact map_set_of_eq found rfl
  | halted i s o c capturing _ _ found => exact map_set_of_eq found rfl
  | ended i s o c x _ _ found => exact map_set_of_eq found rfl

/-- A session was the one that it is, as far as this is fixed. -/
theorem session_before (h : Shift reaches st st') {i : Nat} {t' : Session}
    (ht : st'.sessions[i]? = some t') :
    ∃ t, st.sessions[i]? = some t ∧ t.runtime = t'.runtime ∧ t.settings = t'.settings := by
  obtain ⟨t, ht, hsame⟩ := getElem?_of_map_eq h.fixed.symm ht
  obtain ⟨hruntime, hsettings⟩ := Prod.mk.inj hsame
  exact ⟨t, ht, hruntime, hsettings⟩

/-- A session keeps its host and its settings. -/
theorem session_after (h : Shift reaches st st') {i : Nat} {t : Session}
    (ht : st.sessions[i]? = some t) :
    ∃ t', st'.sessions[i]? = some t' ∧ t'.runtime = t.runtime ∧ t'.settings = t.settings := by
  obtain ⟨t', ht', hsame⟩ := getElem?_of_map_eq h.fixed ht
  obtain ⟨hruntime, hsettings⟩ := Prod.mk.inj hsame
  exact ⟨t', ht', hruntime, hsettings⟩

/-- Channels are never rewired; a new one belongs to the session that has opened it. -/
theorem channels (h : Shift reaches st st') :
    st'.channels = st.channels ∨ ∃ i s x, st.sessions[i]? = some s ∧ x.Serves i s ∧
      st'.channels = st.channels ++ [x] := by
  cases h with
  | opened i p s c rate x _ session _ _ _ serves => exact .inr ⟨i, s, x, session, serves, rfl⟩
  | _ => exact .inl rfl

/-- A channel stays wired as it is. -/
theorem channel_after (h : Shift reaches st st') {k : Nat} {x : Wiring}
    (hx : st.channels[k]? = some x) : st'.channels[k]? = some x := by
  rcases h.channels with hsame | ⟨-, -, y, -, -, hnew⟩
  · rw [hsame]
    exact hx
  · rw [hnew, List.getElem?_append_left (List.getElem?_eq_some_iff.mp hx).1]
    exact hx

/-- Only openings make channels. -/
theorem channels_of_unreached (h : Shift reaches st st') (hreach : ∀ i p, ¬reaches i p) :
    st'.channels = st.channels := by
  cases h with
  | opened i p s c rate x reach => exact absurd reach (hreach i p)
  | _ => rfl

/-- Buffers are exposed by openings and withdrawn by closings. -/
theorem exposed_cases (h : Shift reaches st st') :
    st'.exposed = st.exposed ∨ (∃ n v, st'.exposed = st.exposed.modify n (exposing v)) ∨
      ∃ (j : Nat) (s : Session) (o : OpenCamera) (x : Wiring), st.sessions[j]? = some s ∧
        s.camera = some o ∧ st.channels[o.channel]? = some x ∧
        st'.sessions[j]? = some s.closed ∧
        st'.exposed = st.exposed.modify s.runtime (·.filter (· ≠ x.view)) := by
  cases h with
  | opened i p s c rate x => exact .inr (.inl ⟨s.runtime, x.view, rfl⟩)
  | ended i s o c x session held _ wired =>
    exact .inr (.inr ⟨i, s, o, x, session, held, wired, getElem?_set_of_some session, rfl⟩)
  | _ => exact .inl rfl

/-- A replaced session that holds on to its camera. -/
theorem camera_of_set {i j : Nat} {s s' t' : Session} {o : OpenCamera}
    (hs : st.sessions[i]? = some s) (ht : (st.sessions.set i s')[j]? = some t')
    (ho : t'.camera = some o) (hsame : s'.camera = s.camera) :
    ∃ t, st.sessions[j]? = some t ∧ t.camera = some o := by
  rcases getElem?_set_cases ht with ⟨rfl, rfl⟩ | ⟨-, ht⟩
  · exact ⟨s, hs, hsame ▸ ho⟩
  · exact ⟨t', ht, ho⟩

/-- What a session holds afterwards it held before, or the step has opened it. -/
theorem camera_before (h : Shift reaches st st') {j : Nat} {t' : Session} {o : OpenCamera}
    (ht : st'.sessions[j]? = some t') (ho : t'.camera = some o) :
    (∃ t, st.sessions[j]? = some t ∧ t.camera = some o) ∨
      reaches j o.device.camera ∧ o.channel = st.channels.length ∧
        ∃ x, st'.channels = st.channels ++ [x] ∧
          st'.exposed = st.exposed.modify t'.runtime (exposing x.view) := by
  cases h with
  | still => exact .inl ⟨t', ht, ho⟩
  | undone => exact .inl ⟨t', ht, ho⟩
  | opened i p s c rate x reach session =>
    rcases getElem?_set_cases ht with ⟨rfl, rfl⟩ | ⟨-, ht⟩
    · obtain rfl := Option.some.inj ho
      exact .inr ⟨reach, rfl, x, rfl, rfl⟩
    · exact .inl ⟨t', ht, ho⟩
  | unstarted i s o' c session => exact .inl (camera_of_set session ht ho rfl)
  | started i s o' c timing session => exact .inl (camera_of_set session ht ho rfl)
  | stopped i s o' c session => exact .inl (camera_of_set session ht ho rfl)
  | halted i s o' c capturing session => exact .inl (camera_of_set session ht ho rfl)
  | ended i s o' c x session =>
    rcases getElem?_set_cases ht with ⟨rfl, rfl⟩ | ⟨-, ht⟩
    · exact absurd ho (by simp [Session.closed])
    · exact .inl ⟨t', ht, ho⟩

/-- A session holds on to its camera until it has been closed. -/
theorem camera_after (h : Shift reaches st st') (hcustody : Custody st) {j : Nat} {t : Session}
    {o : OpenCamera} (ht : st.sessions[j]? = some t) (ho : t.camera = some o)
    (hstays : j ∈ st.closing → j ∈ st'.closing) :
    ∃ t', st'.sessions[j]? = some t' ∧ t'.camera = some o := by
  have hset {i : Nat} {s s' : Session} (hs : st.sessions[i]? = some s)
      (hsame : s'.camera = s.camera) :
      ∃ t', (st.sessions.set i s')[j]? = some t' ∧ t'.camera = some o := by
    by_cases hj : j = i
    · subst hj
      obtain rfl : s = t := Option.some.inj (hs.symm.trans ht)
      exact ⟨s', getElem?_set_of_some hs, hsame.trans ho⟩
    · exact ⟨t, (List.getElem?_set_ne (Ne.symm hj)).trans ht, ho⟩
  cases h with
  | still => exact ⟨t, ht, ho⟩
  | undone => exact ⟨t, ht, ho⟩
  | opened i p s c rate x _ session closed =>
    have hj : j ≠ i := hcustody.not_holds session closed ⟨t, o, ht, ho, rfl⟩
    exact ⟨t, (List.getElem?_set_ne (Ne.symm hj)).trans ht, ho⟩
  | unstarted i s o' c session => exact hset session rfl
  | started i s o' c timing session => exact hset session rfl
  | stopped i s o' c session => exact hset session rfl
  | halted i s o' c capturing session => exact hset session rfl
  | ended i s o' c x session held _ _ begun =>
    have hj : j ≠ i := by
      rintro rfl
      exact absurd (List.mem_filter.mp (hstays begun)).2 (by simp)
    exact ⟨t, (List.getElem?_set_ne (Ne.symm hj)).trans ht, ho⟩

end Shift

/-- What has been exposed stays so. -/
theorem mem_exposing {v x : View} {vs : List View} (h : x ∈ vs) : x ∈ exposing v vs := by
  unfold exposing
  by_cases hv : v ∈ vs
  · rw [if_pos hv]
    exact h
  · rw [if_neg hv]
    exact List.mem_cons_of_mem v h

/-- What is exposed is there. -/
theorem self_mem_exposing (v : View) (vs : List View) : v ∈ exposing v vs := by
  unfold exposing
  by_cases hv : v ∈ vs
  · rw [if_pos hv]
    exact hv
  · rw [if_neg hv]
    exact List.mem_cons_self

end DepthRelay
