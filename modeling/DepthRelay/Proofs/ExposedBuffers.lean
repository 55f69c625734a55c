import DepthRelay.Proofs.Apart
import DepthRelay.Proofs.Reception

namespace DepthRelay

/-!
# Hosts see the buffers of open sessions

Any number of sessions, on hosts and cameras that they may share, as long as a new buffer does not
lie where the buffer of an open session does.  A place is free again once its session is closed.

* `Exact` — hosts see nothing but buffers that sessions show, and each of them once.
* `World.Exposing`, `World.Exposing.run` — the invariant of such worlds, whatever handlers do.
* `exposed_buffers_of_open_sessions` — what hosts see, and what becomes of the next frame.
-/

variable {σ : Type}

/-! ### Nothing else is exposed -/

/-- A session goes on to show its buffer until it has been closed. -/
theorem Standing.Shows.after {reaches : Nat → Nat → Prop} {st st' : Standing} {j r : Nat} {v : View}
    (h : st.Shows j r v) (hcustody : Custody st) (hshift : Shift reaches st st')
    (hstays : j ∈ st.closing → j ∈ st'.closing) : st'.Shows j r v := by
  obtain ⟨t, o, x, ht, ho, hx, rfl, rfl⟩ := h
  obtain ⟨t', ht', ho'⟩ := hshift.camera_after hcustody ht ho hstays
  refine ⟨t', o, x, ht', ho', hshift.channel_after hx, ?_, rfl⟩
  obtain ⟨u, hu, hruntime, -⟩ := hshift.session_after ht
  obtain rfl : t' = u := Option.some.inj (ht'.symm.trans hu)
  exact hruntime

/-- Hosts see only buffers that sessions show, and each of them once. -/
structure Exact (st : Standing) : Prop where
  nodup : ∀ (r : Nat) (vs : List View), st.exposed[r]? = some vs → vs.Nodup
  shown : ∀ (r : Nat) (vs : List View) (v : View), st.exposed[r]? = some vs → v ∈ vs →
    ∃ j, st.Shows j r v

/-- What a host sees after a step it has seen before, or it is the buffer of the opening. -/
theorem mem_of_mem_exposing {u v : View} {vs : List View} (h : v ∈ exposing u vs) :
    v ∈ vs ∨ v = u := by
  unfold exposing at h
  split at h
  · exact .inl h
  · exact (List.mem_cons.mp h).symm

/-- Exposing a buffer does not make two of it. -/
theorem nodup_exposing {v : View} {vs : List View} (h : vs.Nodup) : (exposing v vs).Nodup := by
  unfold exposing
  by_cases hv : v ∈ vs
  · rw [if_pos hv]
    exact h
  · rw [if_neg hv]
    exact List.nodup_cons.mpr ⟨hv, h⟩

/-- **Hosts go on to see nothing else.** -/
theorem Exact.shift {reaches : Nat → Nat → Prop} {st st' : Standing} (h : Exact st)
    (hcustody : Custody st) (hshift : Shift reaches st st') : Exact st' where
  nodup := by
    intro r vs hvs
    rcases hshift.exposed_cases with hsame | ⟨n, v, hmore⟩ | ⟨_, s, _, x, -, -, -, -, hless⟩
    · exact h.nodup r vs (hsame ▸ hvs)
    · rw [hmore] at hvs
      obtain ⟨us, hus, ⟨-, rfl⟩ | ⟨-, rfl⟩⟩ := of_getElem?_modify hvs
      · exact h.nodup r vs hus
      · exact nodup_exposing (h.nodup r us hus)
    · rw [hless] at hvs
      obtain ⟨us, hus, ⟨-, rfl⟩ | ⟨-, rfl⟩⟩ := of_getElem?_modify hvs
      · exact h.nodup r vs hus
      · exact (h.nodup r us hus).filter _
  shown := by
    intro r vs v hvs hv
    have hafter (j : Nat) (hj : st.Shows j r v) := hj.after hcustody hshift
    have hkept (us : List View) (hus : st.exposed[r]? = some us) (hmem : v ∈ us)
        (hstays : ∀ j ∈ st.closing, j ∈ st'.closing) : ∃ j, st'.Shows j r v := by
      obtain ⟨j, hj⟩ := h.shown r us v hus hmem
      exact ⟨j, hafter j hj (hstays j)⟩
    cases hshift with
    | opened i p s c rate x reach session closed found quiet serves =>
      obtain ⟨us, hus, ⟨-, rfl⟩ | ⟨rfl, rfl⟩⟩ := of_getElem?_modify hvs
      · exact hkept vs hus hv fun _ hj => hj
      · rcases mem_of_mem_exposing hv with hold | rfl
        · exact hkept us hus hold fun _ hj => hj
        · exact ⟨i, _, _, x, getElem?_set_of_some session, rfl, by simp, rfl, rfl⟩
    | ended i s o c x session held found wired begun =>
      -- The buffer that the session has shown is gone, so what is left is another one's.
      have hother (us : List View) (hus : st.exposed[r]? = some us) (hmem : v ∈ us)
          (hne : r = s.runtime → v ≠ x.view) : ∃ j, st.Shows j r v ∧ j ≠ i := by
        obtain ⟨j, hj⟩ := h.shown r us v hus hmem
        refine ⟨j, hj, ?_⟩
        rintro rfl
        obtain ⟨t, u, y, ht, hu, hy, hr, hview⟩ := hj
        obtain rfl : s = t := Option.some.inj (session.symm.trans ht)
        obtain rfl : o = u := Option.some.inj (held.symm.trans hu)
        obtain rfl : x = y := Option.some.inj (wired.symm.trans hy)
        exact hne hr.symm hview.symm
      have hleft : ∃ j, st.Shows j r v ∧ j ≠ i := by
        obtain ⟨us, hus, ⟨hne, rfl⟩ | ⟨rfl, rfl⟩⟩ := of_getElem?_modify hvs
        · exact hother vs hus hv fun hr => absurd hr hne
        · obtain ⟨hmem, hne⟩ := List.mem_filter.mp hv
          exact hother us hus hmem fun _ => by simpa using hne
      obtain ⟨j, hj, hji⟩ := hleft
      exact ⟨j, hafter j hj fun hclosing => List.mem_filter.mpr ⟨hclosing, by simpa using hji⟩⟩
    | halted => exact hkept vs hvs hv fun _ hj => List.mem_cons_of_mem _ hj
    | _ => exact hkept vs hvs hv fun _ hj => hj

namespace World

variable {w : World σ}

/-! ### Runs -/

/-- Hosts see exactly the buffers that sessions show, and frames wait only for such sessions. -/
structure Exposing (w : World σ) : Prop where
  custody : Custody w.standing
  shown : Shown w.standing
  exact : Exact w.standing
  attended : w.Attended

/-- **A step** keeps what is exposed apart, if a new buffer has an address of its own. -/
theorem Exposing.step (hw : w.Exposing) (h : Handler σ) {e : Event}
    (hdisjoint : e.disjoint w = true) : (w.step h e).2.Exposing where
  custody := hw.custody.shift (step_shift h e hw.custody)
  shown := by
    refine hw.shown.shift hw.custody ?_ (step_shift h e hw.custody)
    intro x hnew
    exact not_shows_new h hw.custody hw.shown hdisjoint hnew
  exact := hw.exact.shift hw.custody (step_shift h e hw.custody)
  attended := hw.attended.step h hw.custody e

/-- **A run** keeps it apart, by induction on the schedule. -/
theorem Exposing.run (hw : w.Exposing) (h : Handler σ) (events : List Event)
    (hdisjoint : w.disjoint h events = true) : (w.run h events).Exposing := by
  induction events generalizing w with
  | nil => exact hw
  | cons e rest ih =>
    obtain ⟨hfirst, hrest⟩ := (Bool.and_eq_true _ _).mp hdisjoint
    exact ih (hw.step h hfirst) hrest

/-- At the start nothing is exposed. -/
theorem exposing_fresh (profiles : List CameraProfile) (runtimes : Nat)
    (sessions : List (Nat × Settings)) (host : σ) (now : Nat)
    (hvalid : ∀ r settings, (r, settings) ∈ sessions →
      r < runtimes ∧ settings.validate = .ok ()) :
    (fresh profiles runtimes sessions host now).Exposing where
  custody := custody_fresh profiles runtimes sessions host now
  shown := shown_fresh profiles runtimes sessions host now hvalid
  exact := by
    have hempty {r : Nat} {vs : List View}
        (hvs : (fresh profiles runtimes sessions host now).standing.exposed[r]? = some vs) :
        vs = [] := by
      simp only [standing, Relay.standing, fresh, List.map_replicate] at hvs
      exact List.eq_of_mem_replicate (List.mem_of_getElem? hvs)
    refine ⟨fun r vs hvs => ?_, fun r vs v hvs hv => ?_⟩
    · rw [hempty hvs]
      exact List.nodup_nil
    · rw [hempty hvs] at hv
      exact absurd hv (by simp)
  attended := fun k hwaits => absurd rfl hwaits

end World

/-! ### What hosts see -/

namespace Relay

variable {w : Relay} {r : Nat}

/-- The buffer that a session has open, if it is one of the sessions of the host `r`. -/
def openView? (r : Nat) (w : Relay) (s : Session) : Option View :=
  if s.runtime = r ∧ s.state ≠ .closed then s.camera.map fun o => (w.channel o.channel).view
  else none

/-- The buffers that the sessions of a host have open, one for each session. -/
def openViews (r : Nat) (w : Relay) : List View := w.sessions.filterMap (w.openView? r)

/-- Something can still put a frame into the buffer of the channel: a camera hands frames to it, or
    a frame waits there. -/
def Uses (k : Nat) (w : Relay) : Prop :=
  (∃ c ∈ w.cameras, c.listener = some k) ∨ (w.lane k).1 ≠ []

/-- Hosts see the buffers of open sessions, and no other buffer is in use. -/
structure ExposesOpen (w : Relay) : Prop where
  opened : ∀ (i : Nat) (s : Session), w.sessions[i]? = some s →
    (s.state ≠ .closed ↔ ∃ o, s.camera = some o)
  exposed : ∀ (r : Nat) (x : Runtime), w.runtimes[r]? = some x →
    x.exposed.Nodup ∧ x.exposed.Perm (w.openViews r)
  used : ∀ k : Nat, w.Uses k → ∃ (i : Nat) (s : Session) (o : OpenCamera),
    w.sessions[i]? = some s ∧ s.camera = some o ∧ o.channel = k

/-- A session has the buffer open that it shows. -/
theorem openView?_eq_some {closing : List Nat} (hcustody : Custody (w.standing closing)) {i : Nat}
    {s : Session} (hs : w.sessions[i]? = some s) {v : View} :
    w.openView? r s = some v ↔ (w.standing closing).Shows i r v := by
  unfold openView?
  have hs' : (w.standing closing).sessions[i]? = some s.standing := session_standing hs
  constructor
  · intro hview
    by_cases hopen : s.runtime = r ∧ s.state ≠ .closed
    · rw [if_pos hopen] at hview
      obtain ⟨o, ho, rfl⟩ := Option.map_eq_some_iff.mp hview
      obtain ⟨x, hx, -⟩ := wired_of_custody hcustody hs' (held_standing ho)
      exact ⟨s.standing, o.standing, x.wiring, hs', held_standing ho, channel_standing hx, hopen.1,
        congrArg Channel.view (channel_eq hx).symm⟩
    · rw [if_neg hopen] at hview
      exact absurd hview (by simp)
  · rintro ⟨t, u, y, ht, hu, hy, rfl, rfl⟩
    obtain rfl : s.standing = t := Option.some.inj (hs'.symm.trans ht)
    obtain ⟨o, ho, rfl⟩ := Option.map_eq_some_iff.mp hu
    obtain ⟨x, hx, rfl⟩ := of_channel_standing hy
    have hstate : s.state ≠ .closed := by
      intro hclosed
      have hnone := (of_custody hcustody hs).1.mp hclosed
      exact absurd (ho.symm.trans hnone) (by simp)
    rw [if_pos ⟨rfl, hstate⟩, ho]
    exact congrArg (some ∘ Channel.view) (channel_eq hx)

/-- The buffers of open sessions are those that some session shows. -/
theorem mem_openViews {closing : List Nat} (hcustody : Custody (w.standing closing)) {v : View} :
    v ∈ w.openViews r ↔ ∃ j, (w.standing closing).Shows j r v := by
  unfold openViews
  rw [List.mem_filterMap]
  constructor
  · rintro ⟨s, hs, hview⟩
    obtain ⟨i, hi⟩ := List.getElem?_of_mem hs
    exact ⟨i, (openView?_eq_some hcustody hi).mp hview⟩
  · rintro ⟨j, hj⟩
    have hj' := hj
    obtain ⟨t, -, -, ht, -⟩ := hj'
    obtain ⟨s, hs, rfl⟩ := of_session_standing ht
    exact ⟨s, List.mem_of_getElem? hs, (openView?_eq_some hcustody hs).mpr hj⟩

/-- No two sessions have the same buffer open. -/
theorem nodup_openViews {closing : List Nat} (hcustody : Custody (w.standing closing))
    (hshown : Shown (w.standing closing)) : (w.openViews r).Nodup := by
  refine List.pairwise_filterMap.mpr (List.pairwise_iff_getElem.mpr ?_)
  intro i j hi hj hij v hv v' hv' hsame
  subst hsame
  have hi' := (openView?_eq_some hcustody (List.getElem?_eq_getElem hi)).mp hv
  have hj' := (openView?_eq_some hcustody (List.getElem?_eq_getElem hj)).mp hv'
  exact absurd (hshown.distinct i j r r v hi' hj') (Nat.ne_of_lt hij)

end Relay

namespace World

variable {w : World σ}

/-- **Hosts expose the buffers of open sessions**, each of them once. -/
theorem Exposing.exposesOpen (hw : w.Exposing) : w.relay.ExposesOpen where
  opened := by
    intro i s hs
    obtain ⟨hclosed, -⟩ := Relay.of_custody hw.custody hs
    rw [Ne, hclosed, ← ne_eq, Option.ne_none_iff_exists']
  exposed := by
    intro r x hx
    have hvs : w.standing.exposed[r]? = some x.exposed := by simp [standing, Relay.standing, hx]
    have hnodup := hw.exact.nodup r x.exposed hvs
    have hdistinct : (w.relay.openViews r).Nodup := Relay.nodup_openViews hw.custody hw.shown
    -- Neither list has a buffer twice, so it is enough that they have the same buffers.
    refine ⟨hnodup, (List.perm_ext_iff_of_nodup hnodup hdistinct).mpr fun v => ?_⟩
    rw [Relay.mem_openViews hw.custody]
    constructor
    · exact hw.exact.shown r x.exposed v hvs
    · rintro ⟨j, hj⟩
      obtain ⟨vs, hvs', hv⟩ := hw.shown.exposed j r v hj
      obtain rfl := Option.some.inj (hvs.symm.trans hvs')
      exact hv
  used := by
    intro k huses
    have hholder : ∃ (j : Nat) (t : Session) (u : OpenCamera), w.standing.sessions[j]? = some t ∧
        t.camera = some u ∧ u.channel = k := by
      rcases huses with ⟨c, hc, hlistener⟩ | hwaits
      · obtain ⟨p, hp⟩ := List.getElem?_of_mem hc
        obtain ⟨j, t, u, ht, hu, -, hk, -⟩ :=
          hw.custody.heard p k c.standing (Relay.camera_standing hp) hlistener
        exact ⟨j, t, u, ht, hu, hk⟩
      · exact (hw.attended k hwaits).2
    obtain ⟨j, t, u, ht, hu, hk⟩ := hholder
    obtain ⟨s, hs, rfl⟩ := Relay.of_session_standing ht
    obtain ⟨o, ho, rfl⟩ := Option.map_eq_some_iff.mp hu
    exact ⟨j, s, o, hs, ho, hk⟩

/-- A frame is delivered for an open session, into the buffer that the session has open and its host
    sees. -/
theorem Exposing.delivered (hw : w.Exposing) {e : Event} {k : Nat} {points : List Point}
    (hdelivered : w.delivered? e = some (k, points)) :
    ∃ i s o, w.relay.sessions[i]? = some s ∧ s.camera = some o ∧ o.channel = k ∧
      (w.relay.channel k).session = i ∧ (w.relay.channel k).binding.runtime = s.runtime ∧
      w.relay.openView? s.runtime s = some (w.relay.channel k).view ∧
      w.relay.visible k = true := by
  obtain ⟨j, t, u, ht, hu, rfl⟩ := holder_of_delivered? hw.custody hw.attended hdelivered
  obtain ⟨x, hx, hserves⟩ := Relay.wired_of_custody hw.custody ht hu
  have hshows : w.standing.Shows j t.runtime x.view :=
    ⟨t, u, x.wiring, ht, hu, Relay.channel_standing hx, rfl, rfl⟩
  obtain ⟨vs, hvs, hv⟩ := hw.shown.exposed j t.runtime x.view hshows
  obtain ⟨s, hs, rfl⟩ := Relay.of_session_standing ht
  obtain ⟨o, ho, rfl⟩ := Option.map_eq_some_iff.mp hu
  have hchannel : w.relay.channel o.standing.channel = x := Relay.channel_eq hx
  rw [hchannel]
  exact ⟨j, s, o, hs, ho, rfl, hserves.session, hserves.runtime,
    (Relay.openView?_eq_some hw.custody hs).mpr hshows,
    visible_of_mem hx hserves.runtime hvs hv⟩

end World

/-- **Hosts see exactly the buffers of open sessions.**  After every schedule, whatever has failed
    in its course, each host sees one buffer for each of its sessions that is open, and no other
    buffer is in use.  The next frame is delivered into the buffer that an open session shows, and
    the handler is called for it, unless the thread may not attach or the frame has too many
    points. -/
theorem exposed_buffers_of_open_sessions (profiles : List CameraProfile) (runtimes : Nat)
    (sessions : List (Nat × Settings)) (host : σ) (now : Nat) (h : Handler σ) (events : List Event)
    (hvalid : ∀ r settings, (r, settings) ∈ sessions → r < runtimes ∧ settings.validate = .ok ())
    (hdisjoint : (World.fresh profiles runtimes sessions host now).disjoint h events = true) :
    let w := (World.fresh profiles runtimes sessions host now).run h events
    w.relay.ExposesOpen ∧
      ∀ e k points, w.delivered? e = some (k, points) →
        ∃ i s o, w.relay.sessions[i]? = some s ∧ s.camera = some o ∧ o.channel = k ∧
          (w.relay.channel k).session = i ∧ (w.relay.channel k).binding.runtime = s.runtime ∧
          w.relay.openView? s.runtime s = some (w.relay.channel k).view ∧
          w.relay.visible k = true ∧
          Reception h w.toLive (w.step h e).2.toLive k points := by
  intro w
  have hw : w.Exposing :=
    (World.exposing_fresh profiles runtimes sessions host now hvalid).run h events hdisjoint
  refine ⟨hw.exposesOpen, fun e k points hdelivered => ?_⟩
  obtain ⟨i, s, o, hs, ho, hk, hsession, hruntime, hview, hvisible⟩ := hw.delivered hdelivered
  exact ⟨i, s, o, hs, ho, hk, hsession, hruntime, hview, hvisible,
    World.step_reception h hdelivered hvisible⟩

/-- The host still sees the buffer of a session that is being closed when the last frame is
    dispatched, and then it does not.  A new buffer of another session lies at the same place. -/
theorem exposed_buffers_of_open_sessions_reused :
    let queued : Settings := { maxPoints := 2, delivery := .queued, handoffDepth := 2 }
    let start : World (Unit × List (Nat × Delivery)) :=
      World.fresh [{ serial := "A", fd := 3 }, { serial := "B", fd := 4 }] 1
        [(0, queued), (0, { maxPoints := 2 })] ((), []) 0
    let closing : List Event :=
      [.operate 0 (.openCamera ⟨3⟩ 5 64), .operate 0 (.start false), .emit "W" 0 [default],
        .beginClose 0]
    let reused := closing ++ [.dispatch 0, .endClose 0, .operate 1 (.openCamera ⟨4⟩ 5 64)]
    let w := start.run Handler.accepting.noting closing
    let v := start.run Handler.accepting.noting reused
    w.delivered? (.dispatch 0) = some (0, [default]) ∧
      (w.step Handler.accepting.noting (.dispatch 0)).2.host.2.length = 1 ∧
      w.relay.visible 0 = true ∧ v.relay.ExposesOpen ∧ v.relay.openViews 0 = [⟨64, 24⟩] := by
  intro queued start closing reused w v
  have hvalid : ∀ r settings, (r, settings) ∈ [(0, queued), (0, { maxPoints := 2 })] →
      r < 1 ∧ settings.validate = .ok () := by
    intro r settings hmem
    simp only [List.mem_cons, Prod.mk.injEq, List.not_mem_nil, or_false] at hmem
    rcases hmem with ⟨rfl, rfl⟩ | ⟨rfl, rfl⟩
    · decide
    · decide
  have hdelivered : w.delivered? (.dispatch 0) = some (0, [default]) := by decide
  have hdisjoint : start.disjoint Handler.accepting.noting closing = true := by decide
  have hdisjoint' : start.disjoint Handler.accepting.noting reused = true := by decide
  have hclosing := exposed_buffers_of_open_sessions _ 1 _ ((), []) 0 Handler.accepting.noting
    closing hvalid hdisjoint
  have hreused := exposed_buffers_of_open_sessions _ 1 _ ((), []) 0 Handler.accepting.noting
    reused hvalid hdisjoint'
  rw [show World.fresh _ 1 _ ((), []) 0 = start from rfl,
    show World.run _ closing start = w from rfl] at hclosing
  rw [show World.fresh _ 1 _ ((), []) 0 = start from rfl,
    show World.run _ reused start = v from rfl] at hreused
  obtain ⟨-, hdeliveries⟩ := hclosing
  obtain ⟨hexposes, -⟩ := hreused
  obtain ⟨i, s, o, -, -, -, -, -, -, hvisible, -⟩ := hdeliveries _ _ _ hdelivered
  refine ⟨hdelivered, ?_, hvisible, hexposes, ?_⟩
  · decide
  · decide

end DepthRelay
