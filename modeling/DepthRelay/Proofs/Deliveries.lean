import DepthRelay.Proofs.Custody

namespace DepthRelay

/-!
# What frames leave alone

Frames come from a camera or a frame source, wait in a hand-off, are published and handled.  None of
this, and no end of a thread, changes what stands (`Relay.standing`), whatever the handlers do.

* `standing_begin` … `standing_conclude` — the stages of a delivery.
* `standing_emit`, `standing_dispatch`, `standing_wake` — the threads that deliver.
-/

namespace Relay

variable (closing : List Nat) (w : Relay)

/-! ### Small changes -/

/-- A session may change in what does not stand. -/
theorem standing_modifySession (i : Nat) {f : Session → Session}
    (h : ∀ s, (f s).standing = s.standing) :
    (w.modifySession i f).standing closing = w.standing closing := by
  unfold standing modifySession
  rw [map_modify_of_eq fun s _ => h s]

/-- A channel may change in what is not its wiring. -/
theorem standing_modifyChannel (k : Nat) {f : Channel → Channel}
    (h : ∀ x, w.channels[k]? = some x → (f x).wiring = x.wiring) :
    (w.modifyChannel k f).standing closing = w.standing closing := by
  unfold standing modifyChannel
  rw [map_modify_of_eq h]

/-- A host may change in anything but the buffers that it sees. -/
theorem standing_modifyRuntime (r : Nat) {f : Runtime → Runtime}
    (h : ∀ x, w.runtimes[r]? = some x → (f x).exposed = x.exposed) :
    (w.modifyRuntime r f).standing closing = w.standing closing := by
  unfold standing modifyRuntime
  rw [map_modify_of_eq h]

/-- A camera may change in what does not stand. -/
theorem standing_modifyCamera (p : Nat) {f : Camera Nat → Camera Nat}
    (h : ∀ c, (f c).standing = c.standing) :
    (w.modifyCamera p f).standing closing = w.standing closing := by
  unfold standing modifyCamera
  rw [map_modify_of_eq fun c _ => h c]

theorem standing_count (k : Nat) (f : Stats → Stats) :
    (w.count k f).standing closing = w.standing closing :=
  standing_modifySession closing w _ fun _ => rfl

/-- The end of a thread, as a view of the hosts shows it that does not count detached threads. -/
theorem map_exit {β : Type} {f : Runtime → β} (h : ∀ r, f r.detach = f r) (t : ThreadId)
    (as : Attachments) (runtimes : List Runtime) :
    (as.exit t runtimes).2.map f = runtimes.map f := by
  show ((as.ofThread t).foldl _ runtimes).map f = _
  -- By induction on the attachments of the thread, each of which is detached.
  induction as.ofThread t generalizing runtimes with
  | nil => rfl
  | cons a rest ih =>
    rw [List.foldl_cons, ih]
    exact map_modify_of_eq fun r _ => h r

/-- A thread that ends changes nothing that stands. -/
theorem standing_exitThread (t : ThreadId) :
    (w.exitThread t).standing closing = w.standing closing := by
  unfold standing
  rw [exitThread_eq]
  simp only [map_exit (f := Runtime.exposed) fun _ => rfl]

/-- The end of a frame source changes nothing that stands. -/
theorem standing_exitSource (source : Option Source) :
    (w.exitSource source).standing closing = w.standing closing := by
  cases source with
  | none => rfl
  | some s => exact standing_exitThread closing w (.source s.run)

/-! ### The stages of a delivery -/

/-- An attempt to attach, as a view of the hosts shows it that does not tell about attempts. -/
theorem map_attach {β : Type} {f : Runtime → β}
    (h : ∀ (r : Runtime) next count names,
      f { r with nextHandle := next, attaches := count, attempts := names } = f r)
    (t : ThreadId) (b : Binding) (as : Attachments) (runtimes : List Runtime) :
    (as.attach t b runtimes).2.2.map f = runtimes.map f := by
  unfold Attachments.attach
  cases as.handle? t b.address with
  | some _ => rfl
  | none =>
    cases hr : runtimes[b.runtime]? with
    | none => rfl
    | some r =>
      have hkept : f (r.attach b.threadName).2 = f r := by
        unfold Runtime.attach
        dsimp only
        split <;> exact h ..
      dsimp only
      generalize r.attach b.threadName = result at hkept ⊢
      obtain ⟨answer, r'⟩ := result
      -- Whether the attempt was successful or not, the host has counted it.
      cases answer <;> exact map_set_of_eq hr hkept

/-- Attaching changes nothing that stands. -/
theorem standing_begin (t : ThreadId) (k : Nat) :
    (w.begin t k).2.standing closing = w.standing closing := by
  have hattach := map_attach (f := Runtime.exposed) (fun _ _ _ _ => rfl) t (w.channel k).binding
    w.attachments w.runtimes
  unfold begin
  dsimp only
  generalize w.attachments.attach t (w.channel k).binding w.runtimes = result at hattach ⊢
  obtain ⟨handle, as, runtimes⟩ := result
  have hstanding : ({ w with attachments := as, runtimes := runtimes } : Relay).standing closing =
      w.standing closing := by
    unfold standing
    dsimp only at hattach ⊢
    rw [hattach]
  cases handle with
  | some h => exact hstanding
  | none => exact (standing_count closing _ k _).trans hstanding

/-- Frames do not change where a buffer lies or how long it is. -/
theorem view_write {b b' : FrameBuffer} {points : List Point} {policy : OverflowPolicy}
    {written : Written} (h : b.write points policy = .ok (written, b')) : b'.view = b.view := by
  unfold FrameBuffer.write at h
  cases ha : policy.accept? b.capacity points.length with
  | none => rw [ha] at h; exact absurd h (by simp)
  | some n =>
    rw [ha] at h
    obtain ⟨-, rfl⟩ := Prod.mk.inj (Except.ok.inj h)
    simp [FrameBuffer.view, Array.isEmpty]

/-- To publish a frame does not rewire the channel. -/
theorem wiring_publish {x y : Channel} {points : List Point} {d : Delivery} {written : Written}
    (h : x.publish points = .ok (d, written, y)) : y.wiring = x.wiring := by
  obtain ⟨b, hwrite, -, rfl⟩ := Channel.publish_eq_ok.mp h
  simp only [Channel.wiring, Channel.view, view_write hwrite]

/-- A frame is written into the buffer of its channel, which is wired as before. -/
theorem standing_publish (k : Nat) (points : List Point) :
    (w.publish k points).2.standing closing = w.standing closing := by
  unfold publish
  cases h : (w.channel k).publish points with
  | error e => exact standing_count closing w k _
  | ok r =>
    obtain ⟨d, written, y⟩ := r
    refine (standing_count closing _ k _).trans (standing_modifyChannel closing w k ?_)
    intro x hx
    -- The channel that is put back is the one that was looked up.
    rw [channel_eq hx] at h
    exact wiring_publish h

/-- The host notes that its handler is called; it sees the same buffers. -/
theorem standing_enter (k : Nat) (d : Delivery) :
    (w.enter k d).2.standing closing = w.standing closing := by
  unfold enter Runtime.enter
  dsimp only
  by_cases h : (w.runtime (w.channel k).binding.runtime).isExposed d.view
  · rw [if_pos h]
    refine standing_modifyRuntime closing w _ ?_
    intro x hx
    rw [runtime_eq hx]
  · rw [if_neg h]

/-- The host notes how the handler has replied. -/
theorem standing_leave (t : Ticket) (reply : Reply) :
    (w.leave t reply).standing closing = w.standing closing := by
  refine standing_modifyRuntime closing w _ ?_
  intro x _
  cases reply <;> rfl

/-- A sample is taken in the log of the session, which does not stand. -/
theorem standing_time (t : Ticket) : (w.time t).standing closing = w.standing closing := by
  unfold time
  cases t.started with
  | none => rfl
  | some start =>
    refine standing_modifySession closing w _ ?_
    intro s
    unfold TimingLog.record
    by_cases h : s.timing.enabled
    · rw [if_pos h]
      rfl
    · rw [if_neg h]

theorem exposed_conclude (call : Except HostError Unit) (h : Handle) (x : Runtime) :
    (x.conclude call h).2.exposed = x.exposed := by
  rw [Runtime.conclude_eq]

/-- **The end of a call** changes nothing that stands. -/
theorem standing_conclude (t : Ticket) (call : Except HostError Unit) :
    (w.conclude t call).standing closing = w.standing closing := by
  unfold conclude
  dsimp only
  have hruntime := standing_modifyRuntime closing w (w.channel t.channel).binding.runtime
    (f := fun _ => ((w.runtime (w.channel t.channel).binding.runtime).conclude call t.handle).2)
    (by intro x hx; rw [runtime_eq hx]; exact exposed_conclude call t.handle x)
  cases ((w.runtime (w.channel t.channel).binding.runtime).conclude call t.handle).1 with
  | delivered =>
    exact (standing_time closing _ t).trans ((standing_count closing _ _ _).trans hruntime)
  | failed text => exact (standing_count closing _ _ _).trans hruntime

/-! ### Cameras, hand-offs and frame sources -/

/-- A camera that hands a frame out counts it, which does not stand. -/
theorem standing_offer (p : Nat) (points : List Point) :
    (w.offer p points).2.standing closing = w.standing closing := by
  unfold offer
  cases hc : w.cameras[p]? with
  | none => rfl
  | some c =>
    have hkept : (c.offer w.now points).2.standing = c.standing := by
      unfold Camera.offer
      split <;> rfl
    unfold standing
    dsimp only
    rw [map_set_of_eq hc hkept]

/-- A frame that waits in the hand-off does not change the wiring. -/
theorem standing_submit (k : Nat) (q : Handoff) (points : List Point)
    (h : (w.channel k).handoff = some q) :
    (w.submit k q points).standing closing = w.standing closing := by
  have hkept (q' : Handoff) : ∀ x, w.channels[k]? = some x →
      ({ x with handoff := some q' } : Channel).wiring = x.wiring := by
    intro x hx
    rw [channel_eq hx] at h
    simp [Channel.wiring, Channel.view, h]
  unfold submit
  cases q.submit points with
  | mk status q' =>
    cases status with
    | queued => exact standing_modifyChannel closing w k (hkept q')
    | dropped =>
      exact (standing_count closing _ k _).trans (standing_modifyChannel closing w k (hkept q'))

theorem wiring_map_handoff (f : Handoff → Handoff) (x : Channel) :
    ({ x with handoff := x.handoff.map f } : Channel).wiring = x.wiring := by
  simp [Channel.wiring, Channel.view]

/-- Nor does a frame that is taken out of it. -/
theorem standing_takeQueued? {k : Nat} {points : List Point} {v : Relay}
    (h : w.takeQueued? k = some (points, v)) : v.standing closing = w.standing closing := by
  obtain ⟨⟨points', q'⟩, hq, hv⟩ := Option.map_eq_some_iff.mp h
  obtain ⟨-, rfl⟩ := Prod.mk.inj hv
  obtain ⟨q, hhandoff, -⟩ := Option.bind_eq_some_iff.mp hq
  refine standing_modifyChannel closing w k ?_
  intro x hx
  rw [channel_eq hx] at hhandoff
  simp [Channel.wiring, Channel.view, hhandoff]

theorem standing_completeQueued (k : Nat) :
    (w.completeQueued k).standing closing = w.standing closing :=
  standing_modifyChannel closing w k fun x _ => wiring_map_handoff Handoff.complete x

theorem standing_crashQueued (k : Nat) :
    (w.crashQueued k).standing closing = w.standing closing :=
  (standing_exitThread closing _ _).trans
    (standing_modifyChannel closing w k fun x _ => wiring_map_handoff Handoff.crash x)

/-- The frame source of a session does not stand. -/
theorem standing_setSource (i : Nat) (source : Option Source) :
    (w.setSource i source).standing closing = w.standing closing := by
  refine standing_modifySession closing w i ?_
  intro s
  cases hs : s.camera with
  | none => simp [Session.standing, hs]
  | some o => simp [Session.standing, OpenCamera.standing, hs]

theorem standing_endSource (i run : Nat) :
    (w.endSource i run).standing closing = w.standing closing :=
  (standing_exitThread closing _ _).trans (standing_setSource closing w i none)

/-- A frame source that is lost was not part of what stands. -/
theorem standing_crashSource (run : Nat) :
    (w.crashSource run).standing closing = w.standing closing := by
  unfold crashSource
  cases w.sessions.findIdx? fun s => s.source?.any (·.run == run) with
  | none => rfl
  | some i => exact standing_endSource closing w i run

/-- A frame source that wakes up changes itself and the clock only. -/
theorem standing_wakeSource (i : Nat) (source : Source) :
    (w.wakeSource i source).2.standing closing = w.standing closing := by
  have hnow (n : Nat) : ({ w with now := n } : Relay).standing closing = w.standing closing := rfl
  unfold wakeSource
  dsimp only
  split
  · split
    · exact (standing_setSource closing _ i _).trans (hnow _)
    · exact (standing_endSource closing _ i _).trans (hnow _)
  · exact (standing_endSource closing _ i _).trans (hnow _)

end Relay

/-! ### What an injected frame finds -/

namespace Relay

/-- The listener that a frame of the camera at a place finds. -/
def listener? (p : Nat) (w : Relay) : Option Nat :=
  w.cameras[p]?.bind fun c => if c.capturing then c.listener else none

variable {w : Relay} {p k : Nat} {c : Camera Nat} {points : List Point}

/-- A camera has a listener while it captures. -/
theorem listener?_eq_some :
    w.listener? p = some k ↔
      ∃ c, w.cameras[p]? = some c ∧ c.capturing = true ∧ c.listener = some k := by
  simp [listener?, Option.bind_eq_some_iff]

/-- Nothing but the cameras matters for what a frame finds. -/
theorem listener?_of_cameras {v : Relay} (h : v.cameras = w.cameras) (p : Nat) :
    v.listener? p = w.listener? p := by
  unfold listener?
  rw [h]

/-- A camera that captures hands the frame to its listener, and counts it. -/
theorem offer_of_some (hc : w.cameras[p]? = some c) (hcapturing : c.capturing = true)
    (hlistener : c.listener = some k) :
    w.offer p points =
      (some k, { w with cameras := w.cameras.set p { c with emitted := c.emitted + 1 } }) := by
  simp [offer, hc, Camera.offer, hcapturing, hlistener]

/-- A camera that nobody hears hands nothing out. -/
theorem offer_of_none (h : w.listener? p = none) : w.offer p points = (none, w) := by
  unfold offer
  cases hc : w.cameras[p]? with
  | none => rfl
  | some c =>
    have hkept : c.offer w.now points = (none, c) := by
      unfold Camera.offer
      cases hcapturing : c.capturing with
      | false => rfl
      | true =>
        -- The camera captures, so nobody can be listening.
        have hlistener : c.listener = none := by simpa [listener?, hc, hcapturing] using h
        rw [hlistener]
    simp only [hkept, Option.map_none]
    rw [set_of_getElem? hc]

end Relay

namespace Live

section

variable {σ : Type} (h : Handler σ) (l : Live σ)

/-- Handlers that answer let the thread that delivers go on. -/
theorem deliver_ok (hreturns : h.Returns) (t : ThreadId) (k : Nat) (points : List Point) :
    (l.deliver h t k points).1 = .ok () := by
  unfold deliver
  split
  · rfl
  · split
    · rfl
    · unfold handle
      split
      · rfl
      · dsimp only
        split
        · next hreply => exact absurd hreply (hreturns _ _ _ _)
        · rfl

/-- What the answer to an injected frame can be: it tells whether the frame has found a listener,
    unless the handler gives up on it. -/
theorem emit_answer (t : ThreadId) (p : Nat) (points : List Point) :
    (l.relay.listener? p = none ∧ (l.emit h t p points).1 = .ok false) ∨
      (l.relay.listener? p ≠ none ∧ ((l.emit h t p points).1 = .ok true ∨
        ¬h.Returns ∧ ∃ a, (l.emit h t p points).1 = .error a)) := by
  unfold emit
  cases hk : l.relay.listener? p with
  | none =>
    rw [Relay.offer_of_none hk]
    exact .inl ⟨rfl, rfl⟩
  | some k =>
    obtain ⟨c, hc, hcapturing, hlistener⟩ := Relay.listener?_eq_some.mp hk
    rw [Relay.offer_of_some hc hcapturing hlistener]
    refine .inr ⟨by simp, ?_⟩
    dsimp only
    split
    · exact .inl rfl
    · split
      · exact .inl rfl
      · next a l' herror =>
        -- An abort can only come from a handler that does not return.
        refine .inr ⟨fun hreturns => ?_, a, rfl⟩
        have hanswer := congrArg Prod.fst herror
        rw [deliver_ok h _ hreturns] at hanswer
        exact absurd hanswer (by simp)

end

end Live

/-! ### The threads that deliver -/

namespace Live

variable {σ : Type} (closing : List Nat) (h : Handler σ) (l : Live σ)

/-- A call of the handler, and its end. -/
theorem standing_handle (t : Ticket) (d : Delivery) :
    (l.handle h t d).2.relay.standing closing = l.relay.standing closing := by
  have henter := Relay.standing_enter closing l.relay t.channel d
  unfold handle
  generalize l.relay.enter t.channel d = result at henter ⊢
  obtain ⟨answer, w⟩ := result
  cases answer with
  | error e => exact (Relay.standing_conclude closing w t _).trans henter
  | ok _ =>
    dsimp only
    split
    · exact henter
    · exact (Relay.standing_conclude closing _ t _).trans
        ((Relay.standing_leave closing _ t _).trans henter)

/-- **A delivery changes nothing that stands**, however it comes out. -/
theorem standing_deliver (t : ThreadId) (k : Nat) (points : List Point) :
    (l.deliver h t k points).2.relay.standing closing = l.relay.standing closing := by
  have hbegin := Relay.standing_begin closing l.relay t k
  unfold deliver
  generalize l.relay.begin t k = result at hbegin ⊢
  obtain ⟨ticket, w⟩ := result
  cases ticket with
  | none => exact hbegin
  | some ticket =>
    have hpublish := Relay.standing_publish closing w k points
    dsimp only
    generalize w.publish k points = result at hpublish ⊢
    obtain ⟨d, v⟩ := result
    cases d with
    | none => exact hpublish.trans hbegin
    | some d =>
      have hhandle := standing_handle closing h (l.withRelay v) ticket d
      exact hhandle.trans (hpublish.trans hbegin)

/-- A frame that is injected. -/
theorem standing_emit (t : ThreadId) (p : Nat) (points : List Point) :
    (l.emit h t p points).2.relay.standing closing = l.relay.standing closing := by
  have hoffer := Relay.standing_offer closing l.relay p points
  unfold emit
  generalize l.relay.offer p points = result at hoffer ⊢
  obtain ⟨taken, w⟩ := result
  cases taken with
  | none => exact hoffer
  | some k =>
    dsimp only
    cases hq : (w.channel k).handoff with
    | some q => exact (Relay.standing_submit closing w k q points hq).trans hoffer
    | none =>
      have hdeliver := standing_deliver closing h (l.withRelay w) t k points
      dsimp only
      generalize (l.withRelay w).deliver h t k points = result at hdeliver ⊢
      obtain ⟨answer, l'⟩ := result
      cases answer with
      | ok _ => exact hdeliver.trans hoffer
      | error a => exact hdeliver.trans hoffer

/-- A frame that the dispatch thread of a channel takes. -/
theorem standing_dispatch (k : Nat) :
    (l.dispatch h k).relay.standing closing = l.relay.standing closing := by
  unfold dispatch
  cases htake : l.relay.takeQueued? k with
  | none => rfl
  | some taken =>
    obtain ⟨points, w⟩ := taken
    have hdeliver := standing_deliver closing h (l.withRelay w) (.dispatch k) k points
    have htaken := Relay.standing_takeQueued? closing l.relay htake
    dsimp only
    generalize (l.withRelay w).deliver h (.dispatch k) k points = result at hdeliver ⊢
    obtain ⟨answer, l'⟩ := result
    cases answer with
    | ok _ => exact (Relay.standing_completeQueued closing _ k).trans (hdeliver.trans htaken)
    | error a => exact (Relay.standing_crashQueued closing _ k).trans (hdeliver.trans htaken)

/-- A frame source that wakes up. -/
theorem standing_wake (i : Nat) (source : Source) :
    (l.wake h i source).relay.standing closing = l.relay.standing closing := by
  have hwake := Relay.standing_wakeSource closing l.relay i source
  unfold wake
  generalize l.relay.wakeSource i source = result at hwake ⊢
  obtain ⟨produced, w⟩ := result
  cases produced with
  | none => exact hwake
  | some frame =>
    obtain ⟨p, points⟩ := frame
    have hemit := standing_emit closing h (l.withRelay w) (.source source.run) p points
    dsimp only
    generalize (l.withRelay w).emit h (.source source.run) p points = result at hemit ⊢
    obtain ⟨answer, l'⟩ := result
    cases answer with
    | ok _ => exact hemit.trans hwake
    | error a => exact (Relay.standing_crashSource closing _ _).trans (hemit.trans hwake)

end Live

end DepthRelay
