import DepthRelay.Proofs.Conservation
import DepthRelay.Proofs.Passage

namespace DepthRelay

/-!
# How deliveries end

A thread that can attach, a host without unfinished business that sees the buffer, and a handler
that answers: then a delivery is one change of the channel, one of the session and one of what the
handler remembers.

* `Runtime.face` — what a host shows that does not just count threads and calls.
* `Relay.Clear` — nothing stands between a channel and its handler.
* `Session.receive` — what the reply for a frame does to the session.
* `Live.deliver_eq`, `Live.emit_eq`, `Live.dispatch_eq`, `Live.wake_eq` — a delivery, and what the
  threads do that deliver, in one step each.
* `Relay.Calm`, `World.calm_step` — hosts that refuse no thread and have no failure left over, and
  stay like that.
* `World.Attended`, `World.Attended.step` — frames wait only for sessions that hold a camera.
* `World.holder_of_delivered?` — so they are delivered only for such sessions.
-/

/-! ### Hosts -/

namespace Runtime

/-- What a host shows, its counts of threads and calls apart. -/
def face (r : Runtime) : List View × List (Handle × String) × Bool × Option HostError :=
  (r.exposed, r.pending, r.attachDisabled, r.exposeFault)

@[simp] theorem face_detach (r : Runtime) : r.detach.face = r.face := rfl

/-- How the reply of a handler comes out, if it is one. -/
def outcome : Reply → Outcome
  | .failed text => .failed text
  | _ => .delivered

/-- A failure that a handler returns is taken at once, and nothing stays pending. -/
theorem conclude_leave {r : Runtime} (hpending : r.pending = []) (h : Handle) (reply : Reply) :
    (r.leave h reply).conclude (.ok ()) h = (outcome reply, r) := by
  obtain ⟨nextHandle, attaches, detaches, invocations, exposed, pending, attachDisabled,
    exposeFault, attempts, exposures⟩ := r
  dsimp only at hpending
  subst hpending
  cases reply <;> simp [leave, conclude, takeFailure, outcome]

end Runtime

/-- A thread that may attach gets a handle, and the hosts show the same as before. -/
theorem Attachments.attach_some {t : ThreadId} {b : Binding} {as : Attachments}
    {runtimes : List Runtime} {r : Runtime} (hr : runtimes[b.runtime]? = some r)
    (hopen : r.attachDisabled = false) :
    ∃ handle as' runtimes', as.attach t b runtimes = (some handle, as', runtimes') ∧
      runtimes'.map Runtime.face = runtimes.map Runtime.face := by
  have hface :=
    Relay.map_attach (f := Runtime.face) (fun _ _ _ _ => rfl) t b as runtimes
  have hsome : ∃ handle, (as.attach t b runtimes).1 = some handle := by
    unfold attach
    cases as.handle? t b.address with
    | some handle => exact ⟨handle, rfl⟩
    | none => simp [hr, Runtime.attach, hopen]
  generalize as.attach t b runtimes = result at hface hsome ⊢
  obtain ⟨handle?, as', runtimes'⟩ := result
  obtain ⟨handle, hhandle⟩ := hsome
  exact ⟨handle, as', runtimes', congrArg (·, as', runtimes') hhandle, hface⟩

/-- The point count, the data and the number of a delivery: all but where the buffer lies. -/
abbrev Seen := Nat × ByteArray × Nat

def Delivery.seen (d : Delivery) : Seen := (d.pointCount, d.data, d.sequence)

/-- How the reply of a handler is counted. -/
def Stats.noteReply (reply : Reply) (s : Stats) : Stats :=
  match reply with
  | .accepted => s.noteDelivered
  | _ => s.noteHandlerFailure

/-! ### Sessions -/

namespace Session

/-- The handler has answered for a frame whose span began at `started`. -/
def answer (reply : Reply) (started : Option Moment) (stop : Moment) (s : Session) : Session :=
  match reply with
  | .accepted =>
    { s with
      stats := s.stats.noteDelivered
      timing := started.elim s.timing fun start => s.timing.record ⟨start, stop⟩ }
  | _ => { s with stats := s.stats.noteHandlerFailure }

/-- A frame that arrived at `start`, with so many points cut off, was answered at `stop`. -/
def receive (cut : Nat) (reply : Reply) (start stop : Moment) (s : Session) : Session :=
  ({ s with stats := s.stats.noteWritten cut } : Session).answer reply (s.timing.begin? start) stop

theorem stats_receive (cut : Nat) (reply : Reply) (start stop : Moment) (s : Session) :
    (s.receive cut reply start stop).stats = (s.stats.noteWritten cut).noteReply reply := by
  cases reply <;> rfl

end Session

/-- The view of a delivery is the one that was exposed. -/
theorem Channel.view_of_publish {x y : Channel} {points : List Point} {d : Delivery}
    {written : Written} (h : x.publish points = .ok (d, written, y)) : d.view = x.view := by
  obtain ⟨b, -, rfl, -⟩ := publish_eq_ok.mp h
  rfl

namespace Relay

variable {w : Relay} {k : Nat}

/-- The host of a channel lets threads attach, sees the buffer, and has no failure left over. -/
def Clear (k : Nat) (w : Relay) : Prop :=
  ∃ r, w.runtimes[(w.channel k).binding.runtime]? = some r ∧
    r.isExposed (w.channel k).view = true ∧ r.pending = [] ∧ r.attachDisabled = false

/-- A channel that is replaced by one that is wired in the same way. -/
theorem wiring_modifyChannel {x : Channel} (h : x.wiring = (w.channel k).wiring) :
    ((w.modifyChannel k fun _ => x).channel k).wiring = (w.channel k).wiring := by
  by_cases hk : k < w.channels.length
  · rw [channel_modifyChannel _ _ _ hk, h]
  · unfold modifyChannel
    rw [modify_of_getElem?_eq_none _ (by simpa using hk)]

/-- The camera at a place has handed a frame to its listener. -/
def noteEmitted (p : Nat) (w : Relay) : Relay :=
  w.modifyCamera p fun c => { c with emitted := c.emitted + 1 }

/-- A frame that finds a listener. -/
theorem offer_of_listener {p : Nat} (points : List Point) (hk : w.listener? p = some k) :
    w.offer p points = (some k, w.noteEmitted p) := by
  obtain ⟨c, hc, hcapturing, hlistener⟩ := listener?_eq_some.mp hk
  rw [offer_of_some hc hcapturing hlistener]
  unfold noteEmitted modifyCamera
  rw [modify_of_getElem? _ hc]

/-- Only what is at a place matters for a change there. -/
theorem modifySession_congr (i : Nat) {f g : Session → Session}
    (h : ∀ s, w.sessions[i]? = some s → f s = g s) : w.modifySession i f = w.modifySession i g := by
  unfold modifySession
  cases hs : w.sessions[i]? with
  | none => rw [modify_of_getElem?_eq_none _ hs, modify_of_getElem?_eq_none _ hs]
  | some s => rw [modify_of_getElem? f hs, modify_of_getElem? g hs, h s hs]

theorem modifyRuntime_modifyRuntime (r : Nat) (f g : Runtime → Runtime) (w : Relay) :
    (w.modifyRuntime r f).modifyRuntime r g = w.modifyRuntime r (g ∘ f) := by
  simp [modifyRuntime, List.modify_modify_eq]

theorem modifySession_modifySession (i : Nat) (f g : Session → Session) (w : Relay) :
    (w.modifySession i f).modifySession i g = w.modifySession i (g ∘ f) := by
  simp [modifySession, List.modify_modify_eq]

/-- An accepted frame is counted, and its span recorded. -/
theorem count_time (t : Ticket) (w : Relay) :
    (w.count t.channel Stats.noteDelivered).time t =
      w.modifySession (w.channel t.channel).session
        (Session.answer .accepted t.started w.now) := by
  unfold time
  cases t.started with
  | none => rfl
  | some start => exact modifySession_modifySession _ _ _ w

/-- The end of a call in which the handler has answered. -/
theorem conclude_eq {t : Ticket} {call : Except HostError Unit} {r r' : Runtime} {reply : Reply}
    (hr : w.runtimes[(w.channel t.channel).binding.runtime]? = some r)
    (hconclude : r.conclude call t.handle = (Runtime.outcome reply, r'))
    (hreply : ∀ reason, reply ≠ .aborted reason) :
    w.conclude t call =
      (w.modifyRuntime (w.channel t.channel).binding.runtime fun _ => r').modifySession
        (w.channel t.channel).session (Session.answer reply t.started w.now) := by
  unfold conclude
  dsimp only
  rw [runtime_eq hr, hconclude]
  cases reply with
  | accepted => exact count_time t _
  | failed text => rfl
  | aborted reason => exact absurd rfl (hreply reason)

/-- A handler answers, and the host has nothing left over afterwards. -/
theorem leave_conclude_eq {t : Ticket} {r : Runtime} {reply : Reply}
    (hr : w.runtimes[(w.channel t.channel).binding.runtime]? = some r) (hpending : r.pending = [])
    (hreply : ∀ reason, reply ≠ .aborted reason) :
    (w.leave t reply).conclude t (.ok ()) =
      w.modifySession (w.channel t.channel).session (Session.answer reply t.started w.now) := by
  have hleft : (w.leave t reply).runtimes[(w.channel t.channel).binding.runtime]? =
      some (r.leave t.handle reply) := getElem?_modify_of_some hr
  have hsame : ((w.leave t reply).modifyRuntime (w.channel t.channel).binding.runtime
      fun _ => r) = w := by
    unfold leave
    rw [modifyRuntime_modifyRuntime]
    unfold modifyRuntime
    rw [modify_of_getElem? _ hr]
    dsimp only [Function.comp_def]
    rw [set_of_getElem? hr]
  rw [conclude_eq hleft (Runtime.conclude_leave hpending t.handle reply) hreply]
  exact congrArg (modifySession _ _) hsame

end Relay

variable {σ : Type}

namespace Live

variable {h : Handler σ} {l : Live σ} {k : Nat}

/-- **A call of the handler**, in one step. -/
theorem handle_eq (hreturns : h.Returns) {t : Ticket} {d : Delivery} {r : Runtime}
    (hr : l.relay.runtimes[(l.relay.channel t.channel).binding.runtime]? = some r)
    (hseen : r.isExposed d.view = true) (hpending : r.pending = []) :
    (l.handle h t d).2 =
      let x := l.relay.channel t.channel
      let a := h x.binding.runtime d l.host
      ⟨({ l.relay with now := l.relay.now + a.elapsed }.modifyRuntime x.binding.runtime fun _ =>
          { r with invocations := r.invocations + 1 }).modifySession x.session
            (Session.answer a.reply t.started (l.relay.now + a.elapsed : Nat)), a.host⟩ := by
  unfold handle Relay.enter Runtime.enter
  dsimp only
  rw [Relay.runtime_eq hr, if_pos hseen]
  dsimp only
  rw [Relay.channel_modifyRuntime]
  have hreply := hreturns (l.relay.channel t.channel).binding.runtime d l.host
  generalize h (l.relay.channel t.channel).binding.runtime d l.host = a at hreply ⊢
  obtain ⟨reply, host, elapsed⟩ := a
  dsimp only at hreply ⊢
  -- The relay in which the handler has just answered, whatever it has answered.
  have hanswered : (Relay.leave t reply
      { l.relay.modifyRuntime (l.relay.channel t.channel).binding.runtime fun _ =>
        { r with invocations := r.invocations + 1 } with
          now := l.relay.now + elapsed }).conclude t (.ok ()) = _ :=
    Relay.leave_conclude_eq (getElem?_modify_of_some hr) hpending hreply
  cases reply with
  | aborted reason => exact absurd rfl (hreply reason)
  | accepted | failed text => exact congrArg (Live.mk · host) hanswered

/-- **A delivery**, in one step. -/
theorem deliver_eq (hreturns : h.Returns) (hclear : l.relay.Clear k) (t : ThreadId)
    (points : List Point) :
    ∃ as runtimes, runtimes.map Runtime.face = l.relay.runtimes.map Runtime.face ∧
      (l.deliver h t k points).2 =
        match (l.relay.channel k).publish points with
        | .error _ => l.withRelay
            (({ l.relay with attachments := as, runtimes := runtimes } : Relay).count k
              Stats.noteOverflow)
        | .ok (d, written, x) =>
          let a := h (l.relay.channel k).binding.runtime d l.host
          ⟨(({ l.relay with
              attachments := as
              runtimes := runtimes
              now := l.relay.now + a.elapsed } : Relay).modifyChannel k fun _ => x).modifySession
                (l.relay.channel k).session
                (Session.receive written.truncated a.reply l.relay.now
                  (l.relay.now + a.elapsed : Nat)), a.host⟩ := by
  obtain ⟨r, hr, hseen, hpending, hopen⟩ := hclear
  obtain ⟨handle, as, runtimes, hattach, hface⟩ :=
    Attachments.attach_some (t := t) hr hopen
  -- The host of the channel shows the same once the thread is attached.
  obtain ⟨r', hr', hsame⟩ := getElem?_of_map_eq hface hr
  simp only [Runtime.face, Prod.mk.injEq] at hsame
  obtain ⟨hexposed, hpending', -, -⟩ := hsame
  have hbegin : l.relay.begin t k =
      (some ⟨k, (l.relay.session (l.relay.channel k).session).timing.begin? l.relay.now, handle⟩,
        { l.relay with attachments := as, runtimes := runtimes }) := by
    unfold Relay.begin
    dsimp only
    rw [hattach]
  unfold deliver
  rw [hbegin]
  dsimp only
  unfold Relay.publish
  rw [show ({ l.relay with attachments := as, runtimes := runtimes } : Relay).channel k =
    l.relay.channel k from rfl]
  cases hpublish : (l.relay.channel k).publish points with
  | error e => exact ⟨as, runtimes, hface, rfl⟩
  | ok result =>
    obtain ⟨d, written, x⟩ := result
    dsimp only
    have hview : d.view = (l.relay.channel k).view := Channel.view_of_publish hpublish
    generalize hu : ({ l.relay with
      attachments := as
      runtimes := runtimes } : Relay).modifyChannel k (fun _ => x) = u
    -- Publishing has changed neither where the channel belongs nor its host.
    have hwiring : (u.channel k).wiring = (l.relay.channel k).wiring := by
      rw [← hu]
      exact Relay.wiring_modifyChannel (Relay.wiring_publish hpublish)
    have hsession : (u.channel k).session = (l.relay.channel k).session :=
      congrArg Wiring.session hwiring
    have hbinding : (u.channel k).binding = (l.relay.channel k).binding :=
      congrArg Wiring.binding hwiring
    have hruntime : u.runtimes[(u.channel k).binding.runtime]? = some r' := by
      rw [hbinding, ← hu]
      exact hr'
    have hseen' : r'.isExposed d.view = true := by
      unfold Runtime.isExposed at hseen ⊢
      rw [hview, hexposed]
      exact hseen
    rw [handle_eq (l := l.withRelay (u.count k (Stats.noteWritten written.truncated))) hreturns
      (t := ⟨k, _, handle⟩) hruntime hseen' (hpending'.trans hpending)]
    simp only [withRelay, Relay.count, Relay.channel_modifySession, hsession, hbinding]
    rw [← hu]
    refine ⟨as, runtimes.modify (l.relay.channel k).binding.runtime
      (fun _ => { r' with invocations := r'.invocations + 1 }), ?_, ?_⟩
    · rw [map_modify_of_eq, hface]
      intro a ha
      obtain rfl := Option.some.inj (hr'.symm.trans ha)
      rfl
    · -- Both counts and the span are one change of the session.
      refine congrArg (Live.mk · _) (Eq.trans (Relay.modifySession_modifySession _ _ _
        (Relay.modifyChannel k (fun _ => x) { l.relay with
          attachments := as
          runtimes := runtimes.modify (l.relay.channel k).binding.runtime
            fun _ => { r' with invocations := r'.invocations + 1 }
          now := l.relay.now + _ })) ?_)
      refine Relay.modifySession_congr _ ?_
      intro s hs
      have hs' : l.relay.session (l.relay.channel k).session = s := Relay.session_eq hs
      rw [hs']
      rfl

/-! ### The threads that deliver -/

/-- An injected frame, if handlers answer. -/
theorem emit_eq (hreturns : h.Returns) (t : ThreadId) (p : Nat) (points : List Point) :
    l.emit h t p points =
      match l.relay.listener? p with
      | none => (.ok false, l)
      | some k =>
        let v := l.withRelay (l.relay.noteEmitted p)
        (.ok true,
          match (l.relay.channel k).handoff with
          | some q => v.withRelay (v.relay.submit k q points)
          | none => (v.deliver h t k points).2) := by
  unfold emit
  cases hk : l.relay.listener? p with
  | none =>
    rw [Relay.offer_of_none hk]
    rfl
  | some k =>
    rw [Relay.offer_of_listener points hk]
    dsimp only
    rw [show (l.relay.noteEmitted p).channel k = l.relay.channel k from rfl]
    cases (l.relay.channel k).handoff with
    | some q => rfl
    | none =>
      have hok := deliver_ok h (l.withRelay (l.relay.noteEmitted p)) hreturns t k points
      dsimp only
      generalize (l.withRelay (l.relay.noteEmitted p)).deliver h t k points = result at hok ⊢
      obtain ⟨answer, l'⟩ := result
      dsimp only at hok
      subst hok
      rfl

/-- The next frame of a hand-off, if handlers answer. -/
theorem dispatch_eq (hreturns : h.Returns) (k : Nat) :
    l.dispatch h k =
      match l.relay.takeQueued? k with
      | none => l
      | some (points, w) =>
        let v := ((l.withRelay w).deliver h (.dispatch k) k points).2
        v.withRelay (v.relay.completeQueued k) := by
  unfold dispatch
  cases l.relay.takeQueued? k with
  | none => rfl
  | some taken =>
    obtain ⟨points, w⟩ := taken
    have hok := deliver_ok h (l.withRelay w) hreturns (.dispatch k) k points
    dsimp only
    generalize (l.withRelay w).deliver h (.dispatch k) k points = result at hok ⊢
    obtain ⟨answer, l'⟩ := result
    dsimp only at hok
    subst hok
    rfl

/-- A frame source, if handlers answer. -/
theorem wake_eq (hreturns : h.Returns) (i : Nat) (source : Source) :
    l.wake h i source =
      match l.relay.wakeSource i source with
      | (none, w) => l.withRelay w
      | (some (p, points), w) => ((l.withRelay w).emit h (.source source.run) p points).2 := by
  unfold wake
  generalize l.relay.wakeSource i source = result
  obtain ⟨frame, w⟩ := result
  cases frame with
  | none => rfl
  | some frame =>
    obtain ⟨p, points⟩ := frame
    dsimp only
    have hok := emit_answer h (l.withRelay w) (.source source.run) p points
    generalize (l.withRelay w).emit h (.source source.run) p points = result at hok ⊢
    obtain ⟨answer, l'⟩ := result
    dsimp only at hok ⊢
    cases answer with
    | ok heard => rfl
    | error a =>
      rcases hok with ⟨-, hok⟩ | ⟨-, hok | ⟨hnot, -⟩⟩
      · exact absurd hok (by simp)
      · exact absurd hok (by simp)
      · exact absurd hreturns hnot

end Live

/-! ### Hosts without unfinished business -/

namespace Relay

variable {v w : Relay} {k : Nat}

/-- No host refuses threads, and none has a failure left over. -/
def Calm (w : Relay) : Prop :=
  ∀ r ∈ w.runtimes, r.pending = [] ∧ r.attachDisabled = false

/-- Only the faces of the hosts matter for whether they are calm. -/
theorem Calm.of_faces (hw : w.Calm)
    (h : v.runtimes.map Runtime.face = w.runtimes.map Runtime.face) : v.Calm := by
  intro r hr
  obtain ⟨r', hr', hface⟩ := List.mem_map.mp (h ▸ List.mem_map_of_mem hr)
  simp only [Runtime.face, Prod.mk.injEq] at hface
  obtain ⟨hpending, hopen⟩ := hw r' hr'
  exact ⟨hface.2.1.symm.trans hpending, hface.2.2.1.symm.trans hopen⟩

/-- A host changes, and stays calm. -/
theorem Calm.modify (hw : w.Calm) {n : Nat} {f : Runtime → Runtime}
    (hf : ∀ r : Runtime, r.pending = [] ∧ r.attachDisabled = false →
      (f r).pending = [] ∧ (f r).attachDisabled = false) : (w.modifyRuntime n f).Calm := by
  intro r hr
  obtain ⟨j, hj⟩ := List.mem_iff_getElem?.mp hr
  simp only [modifyRuntime, List.getElem?_modify, Option.map_eq_map, Option.map_eq_some_iff] at hj
  obtain ⟨r', hr', rfl⟩ := hj
  have hcalm := hw r' (List.mem_of_getElem? hr')
  split
  · exact hf r' hcalm
  · exact hcalm

/-- A host that exposes a buffer stays calm. -/
theorem Calm.expose (hw : w.Calm) {n : Nat} {view : View} {r : Runtime}
    (hexpose : (w.runtime n).expose view = .ok r) (h : v.runtimes = w.runtimes.set n r) :
    v.Calm := by
  intro r' hr'
  rw [h] at hr'
  obtain ⟨j, hj⟩ := List.mem_iff_getElem?.mp hr'
  rcases getElem?_set_cases hj with ⟨rfl, rfl⟩ | ⟨-, hj⟩
  · have hlt := (List.getElem?_eq_some_iff.mp hj).1
    rw [List.length_set] at hlt
    have hx := List.getElem?_eq_getElem hlt
    rw [runtime_eq hx] at hexpose
    obtain ⟨-, rfl⟩ := Runtime.expose_eq_ok.mp hexpose
    exact hw w.runtimes[j] (List.getElem_mem hlt)
  · exact hw r' (List.mem_of_getElem? hj)

theorem faces_exitThread (t : ThreadId) (w : Relay) :
    (w.exitThread t).runtimes.map Runtime.face = w.runtimes.map Runtime.face := by
  rw [exitThread_eq]
  exact map_exit (fun r => r.face_detach) t w.attachments w.runtimes

theorem Calm.exitThread (hw : w.Calm) (t : ThreadId) : (w.exitThread t).Calm :=
  hw.of_faces (faces_exitThread t w)

/-- A frame source that goes leaves hosts calm. -/
theorem Calm.exitSource (hw : w.Calm) (source : Option Source) : (w.exitSource source).Calm := by
  cases source with
  | none => exact hw
  | some s => exact hw.exitThread (.source s.run)

/-- A frame source that wakes up, or ends, leaves hosts calm. -/
theorem Calm.wakeSource (hw : w.Calm) (i : Nat) (source : Source) :
    (w.wakeSource i source).2.Calm := by
  unfold Relay.wakeSource
  dsimp only
  split
  · split
    · exact hw
    · exact Calm.exitThread hw _
  · exact Calm.exitThread hw _

/-- Nothing stands between a channel and its handler if the host sees the buffer. -/
theorem Calm.clear (hw : w.Calm) (hvisible : w.visible k = true) : w.Clear k := by
  unfold visible runtime at hvisible
  rw [List.getD_eq_getElem?_getD] at hvisible
  cases hr : w.runtimes[(w.channel k).binding.runtime]? with
  | none =>
    rw [hr] at hvisible
    exact absurd hvisible (by simp [Runtime.isExposed, default, instInhabitedRuntime.default])
  | some r =>
    rw [hr] at hvisible
    obtain ⟨hpending, hopen⟩ := hw r (List.mem_of_getElem? hr)
    exact ⟨r, hr, hvisible, hpending, hopen⟩

end Relay

namespace Relay

variable {v w : Relay} {k : Nat}

/-- A frame is taken out in front of the hand-off, which counts it as under way. -/
theorem takeQueued?_eq_some {points : List Point} (h : w.takeQueued? k = some (points, v)) :
    ∃ q rest, (w.channel k).handoff = some q ∧ q.queue = points :: rest ∧
      v = w.modifyChannel k fun x => { x with
        handoff := some { q with queue := rest, sinking := true } } := by
  obtain ⟨⟨points', q'⟩, hq', hv⟩ := Option.map_eq_some_iff.mp h
  obtain ⟨rfl, rfl⟩ := Prod.mk.inj hv
  obtain ⟨q, hq, htaken⟩ := Option.bind_eq_some_iff.mp hq'
  obtain ⟨-, rest, hqueue, rfl⟩ := Handoff.of_take? htaken
  exact ⟨q, rest, hq, hqueue, rfl⟩

/-- The hand-off in which frames wait. -/
theorem handoff_of_lane (hwaits : (w.lane k).1 ≠ []) :
    ∃ q, (w.channel k).handoff = some q ∧ w.lane k = (q.queue, q.alive) := by
  cases hq : (w.channel k).handoff with
  | none => exact absurd (by simp [lane, Channel.lane, hq]) hwaits
  | some q => exact ⟨q, rfl, Channel.lane_of_some hq⟩

/-- The way to a channel depends on channels and hosts only. -/
theorem Clear.congr (hclear : w.Clear k) (hchannels : v.channels = w.channels)
    (hruntimes : v.runtimes = w.runtimes) : v.Clear k := by
  unfold Clear
  rw [channel_of_channels hchannels, hruntimes]
  exact hclear

/-- The frame that a dispatch thread takes is not in its way. -/
theorem Clear.takeQueued? (hclear : w.Clear k) {points : List Point}
    (htake : w.takeQueued? k = some (points, v)) : v.Clear k := by
  obtain ⟨r, hr, hseen, hcalm⟩ := hclear
  have hstanding := standing_takeQueued? [] w htake
  have hwiring := wiring_of_standing hstanding k
  have hbinding : (v.channel k).binding = (w.channel k).binding := congrArg Wiring.binding hwiring
  have hview : (v.channel k).view = (w.channel k).view := congrArg Wiring.view hwiring
  obtain ⟨q, rest, -, -, rfl⟩ := takeQueued?_eq_some htake
  refine ⟨r, ?_, ?_, hcalm⟩
  · rw [hbinding]
    exact hr
  · rw [hview]
    exact hseen

end Relay

namespace Live

variable {h : Handler σ} {l : Live σ} {k : Nat}

/-- **A delivery** leaves hosts calm. -/
theorem calm_deliver (hreturns : h.Returns) (hcalm : l.relay.Calm) (hclear : l.relay.Clear k)
    (t : ThreadId) (points : List Point) : (l.deliver h t k points).2.relay.Calm := by
  obtain ⟨as, runtimes, hface, hafter⟩ := deliver_eq hreturns hclear t points
  rw [hafter]
  cases (l.relay.channel k).publish points with
  | error e => exact hcalm.of_faces hface
  | ok result => exact hcalm.of_faces hface

/-- **An injected frame** leaves hosts calm. -/
theorem calm_emit (hreturns : h.Returns) (hcalm : l.relay.Calm) (t : ThreadId) (p : Nat)
    (points : List Point)
    (hclear : ∀ k, l.relay.listener? p = some k → (l.relay.channel k).handoff = none →
      l.relay.Clear k) :
    (l.emit h t p points).2.relay.Calm := by
  rw [emit_eq hreturns]
  cases hk : l.relay.listener? p with
  | none => exact hcalm
  | some k =>
    dsimp only
    cases hq : (l.relay.channel k).handoff with
    | none =>
      exact calm_deliver (l := l.withRelay (l.relay.noteEmitted p)) hreturns hcalm
        (hclear k hk hq) t points
    | some q =>
      dsimp only
      unfold Relay.submit
      cases q.submit points with
      | mk status q' => cases status <;> exact hcalm

/-- **A dispatch thread** leaves hosts calm. -/
theorem calm_dispatch (hreturns : h.Returns) (hcalm : l.relay.Calm) (hclear : l.relay.Clear k) :
    (l.dispatch h k).relay.Calm := by
  rw [dispatch_eq hreturns]
  cases htake : l.relay.takeQueued? k with
  | none => exact hcalm
  | some taken =>
    obtain ⟨points, v⟩ := taken
    have hcalm' : v.Calm := by
      obtain ⟨q, rest, -, -, rfl⟩ := Relay.takeQueued?_eq_some htake
      exact hcalm
    exact calm_deliver (l := l.withRelay v) hreturns hcalm' (hclear.takeQueued? htake) _ points

end Live

namespace World

variable {w : World σ}

/-- Frames wait only for a thread that takes them, and for a session that holds a camera. -/
def Attended (w : World σ) : Prop :=
  ∀ k, (w.relay.lane k).1 ≠ [] → (w.relay.lane k).2 = true ∧
    ∃ (j : Nat) (s : Session) (o : OpenCamera), w.standing.sessions[j]? = some s ∧
      s.camera = some o ∧ o.channel = k

/-- Frames wait only for sessions that hold a camera, since only those are fed. -/
theorem Fed.attended (hfed : w.Fed) : w.Attended := by
  intro k hwaits
  obtain ⟨q, hq, hlane⟩ := Relay.handoff_of_lane hwaits
  have htally : w.relay.books.waiting[k]? = some (w.relay.channel k).tally := by
    simp [Relay.books, Relay.getElem?_of_handoff hq]
  obtain ⟨halive, hholder⟩ := hfed k _ htally
  rw [hlane] at hwaits ⊢
  refine ⟨by simpa [Channel.tally, hq] using halive, hholder ?_⟩
  simpa [Channel.tally, hq] using hwaits

/-- Nothing waits for a session whose closing can be completed. -/
theorem lane_of_dispatched {j : Nat} {s : Session} {o : OpenCamera}
    (hdispatched : w.dispatched j = true) (hs : w.relay.sessions[j]? = some s)
    (ho : s.camera = some o) (halive : (w.relay.lane o.channel).2 = true) :
    (w.relay.lane o.channel).1 = [] := by
  unfold dispatched at hdispatched
  rw [Relay.session_eq hs, ho] at hdispatched
  unfold Relay.lane Channel.lane at halive ⊢
  cases hq : (w.relay.channel o.channel).handoff with
  | none => rfl
  | some q =>
    rw [hq] at halive
    simp only [Option.elim_some] at halive ⊢
    simp only [hq, Option.all_some, Handoff.finished, halive] at hdispatched
    simp_all

/-- What waits after a step has waited before, or has just found a listener. -/
theorem waits_before {h : Handler σ} {e : Event} (hcustody : Custody w.standing) {k : Nat}
    (hwaits : ((w.step h e).2.relay.lane k).1 ≠ []) :
    (w.relay.lane k).1 ≠ [] ∧ ((w.step h e).2.relay.lane k).2 = (w.relay.lane k).2 ∨
      ((w.step h e).2.relay.lane k).2 = true ∧ ∃ p, w.relay.listener? p = some k := by
  rcases step_lane h e hcustody k with ⟨halive, hsplit, hlost⟩ | ⟨hlost, -⟩
  · by_cases hbefore : (w.relay.lane k).1 = []
    · right
      have hkept : onChannel k (w.kept? e) ≠ [] := by
        rw [hbefore, List.nil_append] at hsplit
        rw [hsplit]
        simp [hwaits]
      have halive' : (w.relay.lane k).2 = true := by
        cases hdead : (w.relay.lane k).2 with
        | true => rfl
        | false => exact absurd (hlost hdead) hkept
      refine ⟨halive.trans halive', ?_⟩
      obtain ⟨points, hmem⟩ := List.exists_mem_of_ne_nil _ hkept
      obtain ⟨⟨p, points'⟩, -, hfound⟩ := Option.bind_eq_some_iff.mp
        (Option.filter_eq_some_iff.mp (mem_onChannel.mp hmem)).1
      obtain ⟨k', hk, hkeq⟩ := Option.map_eq_some_iff.mp hfound
      exact ⟨p, hk.trans (congrArg (some ∘ Prod.fst) hkeq)⟩
    · exact .inl ⟨hbefore, halive⟩
  · exact absurd (congrArg Prod.fst hlost) hwaits

/-- **Frames go on to wait only for sessions that hold a camera**, whatever handlers do. -/
theorem Attended.step (hw : w.Attended) (h : Handler σ) (hcustody : Custody w.standing)
    (e : Event) : (w.step h e).2.Attended := by
  intro k hwaits
  have hshift := step_shift h e hcustody
  have hfeeder : ((w.step h e).2.relay.lane k).2 = true ∧
      ∃ (j : Nat) (s : Session) (o : OpenCamera), w.standing.sessions[j]? = some s ∧
        s.camera = some o ∧ o.channel = k ∧ (j ∈ w.closing → j ∈ (w.step h e).2.closing) := by
    rcases waits_before hcustody hwaits with ⟨hbefore, hsame⟩ | ⟨halive, p, hp⟩
    · obtain ⟨halive, j, s, o, hs, ho, rfl⟩ := hw k hbefore
      refine ⟨hsame.trans halive, j, s, o, hs, ho, rfl, fun hj => ?_⟩
      -- A session is closed only once nothing waits for it.
      refine Decidable.byContradiction fun hj' => ?_
      obtain ⟨-, hdispatched, -⟩ := closed_of_step h hcustody hj hj'
      obtain ⟨s', hs', rfl⟩ := Relay.of_session_standing hs
      obtain ⟨o', ho', rfl⟩ := Option.map_eq_some_iff.mp ho
      exact hbefore (lane_of_dispatched (o := o') hdispatched hs' ho' halive)
    · obtain ⟨j, s, o, hs, ho, -, hchannel, hfree⟩ := Relay.heard_of_custody hcustody hp
      exact ⟨halive, j, s, o, hs, ho, hchannel, fun hj => absurd hj hfree⟩
  obtain ⟨halive, j, s, o, hs, ho, rfl, hstays⟩ := hfeeder
  obtain ⟨s', hs', ho'⟩ := hshift.camera_after hcustody hs ho hstays
  exact ⟨halive, j, s', o, hs', ho', rfl⟩

/-- Frames are delivered only for sessions that hold a camera. -/
theorem holder_of_delivered? (hcustody : Custody w.standing) (hwaits : w.Attended) {e : Event}
    {k : Nat} {points : List Point} (hdelivered : w.delivered? e = some (k, points)) :
    ∃ (j : Nat) (s : Session) (o : OpenCamera), w.standing.sessions[j]? = some s ∧
      s.camera = some o ∧ o.channel = k := by
  unfold delivered? at hdelivered
  split at hdelivered
  · next k' =>
    obtain ⟨⟨points', v⟩, htake, hkeq⟩ := Option.map_eq_some_iff.mp hdelivered
    obtain rfl : k' = k := congrArg Prod.fst hkeq
    obtain ⟨q, rest, hq, hqueue, -⟩ := Relay.takeQueued?_eq_some htake
    refine (hwaits k' ?_).2
    rw [Relay.lane, Channel.lane_of_some hq, hqueue]
    simp
  · obtain ⟨⟨p, points'⟩, -, hfound⟩ :=
      Option.bind_eq_some_iff.mp (Option.filter_eq_some_iff.mp hdelivered).1
    obtain ⟨k', hk, hkeq⟩ := Option.map_eq_some_iff.mp hfound
    obtain rfl : k' = k := congrArg Prod.fst hkeq
    obtain ⟨j, s, o, hs, ho, -, hchannel, -⟩ := Relay.heard_of_custody hcustody hk
    exact ⟨j, s, o, hs, ho, hchannel⟩

/-- A frame that is not left in a hand-off is delivered at once. -/
theorem delivered?_of_listener {e : Event} (hdispatch : ∀ k, e ≠ .dispatch k) {p k : Nat}
    {points : List Point} (hinjected : w.injected? e = some (p, points))
    (hlistener : w.relay.listener? p = some k) (hdirect : (w.relay.channel k).handoff = none) :
    w.delivered? e = some (k, points) := by
  unfold delivered?
  split
  · next k => exact absurd rfl (hdispatch k)
  · simp [arrived?, hinjected, hlistener, hdirect]

/-- A call that a session makes leaves the hosts calm. -/
theorem calm_operate (h : Handler σ) (hcustody : Custody w.standing) (hcalm : w.relay.Calm)
    (i : Nat) (op : Operation) : (w.step h (.operate i op)).2.relay.Calm := by
  rcases w.step_operate_cases h i op with hsame | ⟨hi, -, hafter⟩
  · rw [hsame]
    exact hcalm
  · rw [hafter]
    show (op.perform i w.relay).2.Calm
    intro r hr
    cases Relay.perform_hosted op hcustody (List.getElem?_eq_getElem hi) with
    | kept _ runtimes => exact hcalm r (runtimes ▸ hr)
    | exposing b x exposed _ runtimes => exact hcalm.expose exposed runtimes r hr
    | ended source _ runtimes => exact hcalm.exitSource source r (runtimes ▸ hr)

/-- A source that wakes up leaves the hosts calm, when its frame finds a listener whose call can be
    made. -/
theorem calm_wake {h : Handler σ} (hreturns : h.Returns) (hcalm : w.relay.Calm) (i : Nat)
    (hclear : ∀ k points, w.delivered? (.wake i) = some (k, points) → w.relay.Clear k) :
    (w.step h (.wake i)).2.relay.Calm := by
  unfold step
  dsimp only
  cases hsource : (w.relay.session i).source? with
  | none => exact hcalm
  | some source =>
    show (w.toLive.wake h i source).relay.Calm
    rw [Live.wake_eq hreturns]
    have hinjected := injected?_wake hsource
    have hcalm' := hcalm.wakeSource i source
    cases hwake : w.relay.wakeSource i source with
    | mk produced v =>
      rw [hwake] at hinjected hcalm'
      cases produced with
      | none => exact hcalm'
      | some frame =>
        obtain ⟨p, points⟩ := frame
        obtain ⟨-, hcameras, hchannels, hruntimes⟩ := Relay.wakeSource_some hwake
        refine Live.calm_emit (l := w.toLive.withRelay v) hreturns hcalm' _ p points ?_
        intro k hk hq
        -- What the frame finds is there already before the source wakes up.
        have hk' : w.relay.listener? p = some k :=
          (Relay.listener?_of_cameras hcameras p).symm.trans hk
        have hq' : (w.relay.channel k).handoff = none :=
          Relay.channel_of_channels hchannels k ▸ hq
        exact Relay.Clear.congr
          (hclear k points (delivered?_of_listener (by simp) hinjected hk' hq')) hchannels
          hruntimes

/-- **Hosts stay calm** as long as nobody makes them refuse threads and handlers answer. -/
theorem calm_step {h : Handler σ} (hreturns : h.Returns) (hcustody : Custody w.standing)
    (hcalm : w.relay.Calm) {e : Event} (hevent : ∀ r, e ≠ .disableAttach r true)
    (hclear : ∀ k points, w.delivered? e = some (k, points) → w.relay.Clear k) :
    (w.step h e).2.relay.Calm := by
  cases e with
  | operate i op => exact calm_operate h hcustody hcalm i op
  | beginClose i =>
    rcases step_beginClose_cases h hcustody i with hsame | ⟨s, o, c, hs, ho, hc, hafter⟩
    · rw [hsame]
      exact hcalm
    · rw [hafter]
      show (w.relay.beginClose i).Calm
      -- To close changes hosts only by the attachments that end, and those do not unsettle them.
      rw [Relay.beginClose_eq hs ho hc]
      exact hcalm.exitSource _
  | endClose i =>
    rcases step_endClose_cases h hcustody i with hsame | ⟨-, -, s, o, c, hs, ho, hc, hafter⟩
    · rw [hsame]
      exact hcalm
    · rw [hafter]
      show (w.relay.endClose i).Calm
      rw [Relay.endClose_eq hs ho hc]
      refine Relay.Calm.modify ?_ fun r hr => hr
      exact (hcalm.exitThread _).exitSource _
  | emit worker camera points =>
    refine Live.calm_emit hreturns hcalm (.worker worker) camera points ?_
    intro k hk hq
    exact hclear k points (delivered?_of_listener (by simp) rfl hk hq)
  | dispatch k =>
    show (w.toLive.dispatch h k).relay.Calm
    cases htake : w.relay.takeQueued? k with
    | none =>
      rw [Live.dispatch_eq hreturns, htake]
      exact hcalm
    | some taken =>
      obtain ⟨points, v⟩ := taken
      refine Live.calm_dispatch hreturns hcalm (hclear k points ?_)
      simp [delivered?, htake]
  | wake i => exact calm_wake hreturns hcalm i hclear
  | fail camera op s => exact hcalm
  | clearFaults camera => exact hcalm
  | disableAttach r on =>
    cases on with
    | true => exact absurd rfl (hevent r)
    -- Hosts that take threads again are as calm as before.
    | false => exact hcalm.modify fun r hr => ⟨hr.1, rfl⟩
  | refuseBuffers r fault => exact hcalm.modify fun r hr => hr
  | exitWorker worker => exact hcalm.exitThread (.worker worker)
  | pass nanos => exact hcalm

end World

end DepthRelay
