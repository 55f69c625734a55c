import DepthRelay.Proofs.Outcomes
import DepthRelay.Proofs.ThreadAttachment

namespace DepthRelay

/-!
# Changes that a dispatch thread does not notice

Some changes of a relay can be made before the dispatch thread of a channel delivers a frame or
afterwards, and it is all the same: what the thread reads is not changed, and what it writes goes on
to be changed in the same way.

* `Relay.Inert` — such a change, stage by stage of a delivery; `Relay.Inert.comp` makes one change
  after the other.
* `Relay.Inert.dispatch` — a frame is dispatched before an inert change as after it.
* `Relay.inert_altered` — changes of the channel's hand-off, of its session and of a camera are
  inert, while the clock goes on.
* `Relay.inert_exitThread` — so is the end of another thread.
-/

variable {σ : Type}

/-- A ticket with another beginning of the span. -/
def Ticket.restarted (m : Option Moment → Option Moment) (t : Ticket) : Ticket :=
  { t with started := m t.started }

/-- Lets the clock go on. -/
def Relay.later (n : Nat) (w : Relay) : Relay := { w with now := w.now + n }

/-- A change of the relay that the dispatch thread of the channel `k` does not notice, except that
    spans of its frames begin at other times: `m` tells when. -/
structure Relay.Inert (k : Nat) (m : Option Moment → Option Moment) (f : Relay → Relay) :
    Prop where
  binding : ∀ w, ((f w).channel k).binding = (w.channel k).binding
  later : ∀ n w, (f w).later n = f (w.later n)
  begin : ∀ w, (f w).begin (.dispatch k) k =
    ((w.begin (.dispatch k) k).1.map (Ticket.restarted m), f (w.begin (.dispatch k) k).2)
  publish : ∀ points w, (f w).publish k points =
    ((w.publish k points).1, f (w.publish k points).2)
  enter : ∀ d w, (f w).enter k d = ((w.enter k d).1, f (w.enter k d).2)
  leave : ∀ (t : Ticket) reply w, t.channel = k →
    (f w).leave (t.restarted m) reply = f (w.leave t reply)
  conclude : ∀ (t : Ticket) call w, t.channel = k →
    (f w).conclude (t.restarted m) call = f (w.conclude t call)
  takeQueued? : ∀ w, (f w).takeQueued? k = (w.takeQueued? k).map (Prod.map id f)
  completeQueued : ∀ w, (f w).completeQueued k = f (w.completeQueued k)
  crashQueued : ∀ w, (f w).crashQueued k = f (w.crashQueued k)

/-! ### Deliveries -/

namespace Live

/-- Changes the relay. -/
def mapRelay (f : Relay → Relay) (l : Live σ) : Live σ := l.withRelay (f l.relay)

@[simp] theorem relay_mapRelay (f : Relay → Relay) (l : Live σ) :
    (l.mapRelay f).relay = f l.relay := rfl

@[simp] theorem host_mapRelay (f : Relay → Relay) (l : Live σ) :
    (l.mapRelay f).host = l.host := rfl

end Live

namespace Relay.Inert

variable {k : Nat} {m m' : Option Moment → Option Moment} {f g : Relay → Relay}

/-- One change after the other. -/
theorem comp (hf : Inert k m f) (hg : Inert k m' g) : Inert k (m ∘ m') (f ∘ g) where
  binding w := (hf.binding (g w)).trans (hg.binding w)
  later n w := by
    show (f (g w)).later n = f (g (w.later n))
    rw [hf.later, hg.later]
  begin w := by
    show (f (g w)).begin (.dispatch k) k = _
    rw [hf.begin, hg.begin, Option.map_map]
    rfl
  publish points w := by
    show (f (g w)).publish k points = _
    rw [hf.publish, hg.publish]
    rfl
  enter d w := by
    show (f (g w)).enter k d = _
    rw [hf.enter, hg.enter]
    rfl
  leave t reply w ht := by
    show (f (g w)).leave ((t.restarted m').restarted m) reply = f (g _)
    rw [hf.leave (t.restarted m') reply (g w) ht, hg.leave t reply w ht]
  conclude t call w ht := by
    show (f (g w)).conclude ((t.restarted m').restarted m) call = f (g _)
    rw [hf.conclude (t.restarted m') call (g w) ht, hg.conclude t call w ht]
  takeQueued? w := by
    show (f (g w)).takeQueued? k = _
    rw [hf.takeQueued?, hg.takeQueued?, Option.map_map]
    rfl
  completeQueued w := by
    show (f (g w)).completeQueued k = f (g _)
    rw [hf.completeQueued, hg.completeQueued]
  crashQueued w := by
    show (f (g w)).crashQueued k = f (g _)
    rw [hf.crashQueued, hg.crashQueued]

variable (h : Handler σ)

/-- A call of the handler notices nothing. -/
theorem handle (hf : Inert k m f) {t : Ticket} (ht : t.channel = k) (d : Delivery) (l : Live σ) :
    (l.mapRelay f).handle h (t.restarted m) d =
      ((l.handle h t d).1, (l.handle h t d).2.mapRelay f) := by
  unfold Live.handle
  rw [show (t.restarted m).channel = k from ht, ht, Live.relay_mapRelay, hf.enter]
  generalize l.relay.enter k d = result
  obtain ⟨answer, w⟩ := result
  cases answer with
  | error e =>
    dsimp only
    rw [hf.conclude t (.error e) w ht]
    rfl
  | ok _ =>
    dsimp only
    rw [hf.binding, Live.host_mapRelay]
    generalize h (w.channel k).binding.runtime d l.host = a
    -- The clock goes on alike in both.
    have hlater : ({ f w with now := (f w).now + a.elapsed } : Relay) =
        f { w with now := w.now + a.elapsed } := hf.later a.elapsed w
    rw [hlater]
    generalize ({ w with now := w.now + a.elapsed } : Relay) = v
    cases a.reply with
    | aborted reason => rfl
    | accepted | failed text =>
      dsimp only
      rw [hf.leave t _ v ht, hf.conclude t _ _ ht]
      rfl

/-- **A delivery notices nothing.** -/
theorem deliver (hf : Inert k m f) (points : List Point) (l : Live σ) :
    (l.mapRelay f).deliver h (.dispatch k) k points =
      ((l.deliver h (.dispatch k) k points).1,
        (l.deliver h (.dispatch k) k points).2.mapRelay f) := by
  have hticket (ticket : Ticket) (hbegun : (l.relay.begin (.dispatch k) k).1 = some ticket) :=
    channel_begin hbegun
  unfold Live.deliver
  rw [Live.relay_mapRelay, hf.begin]
  generalize l.relay.begin (.dispatch k) k = result at hticket
  obtain ⟨ticket?, w⟩ := result
  cases ticket? with
  | none => rfl
  | some ticket =>
    dsimp only [Option.map_some]
    rw [hf.publish]
    generalize w.publish k points = result
    obtain ⟨d?, v⟩ := result
    cases d? with
    | none => rfl
    | some d => exact hf.handle h (hticket ticket rfl) d (l.withRelay v)

/-- **A frame is dispatched before an inert change as after it.** -/
theorem dispatch (hf : Inert k m f) (l : Live σ) :
    (l.mapRelay f).dispatch h k = (l.dispatch h k).mapRelay f := by
  unfold Live.dispatch
  rw [Live.relay_mapRelay, hf.takeQueued?]
  cases l.relay.takeQueued? k with
  | none => rfl
  | some taken =>
    obtain ⟨points, w⟩ := taken
    have hdeliver := hf.deliver h points (l.withRelay w)
    dsimp only [Option.map_some, Prod.map, id]
    rw [show (l.mapRelay f).withRelay (f w) = (l.withRelay w).mapRelay f from rfl, hdeliver]
    generalize (l.withRelay w).deliver h (.dispatch k) k points = result
    obtain ⟨answer, v⟩ := result
    cases answer with
    | ok _ => exact congrArg (Live.mk · v.host) (hf.completeQueued v.relay)
    | error _ => exact congrArg (Live.mk · v.host) (hf.crashQueued v.relay)

end Relay.Inert

/-! ### Calls of the handler -/

namespace Relay

variable {k : Nat} (w : Relay)

/-- The beginning of a call, as a change of the host. -/
theorem enter_eq (d : Delivery) :
    w.enter k d =
      if (w.runtime (w.channel k).binding.runtime).isExposed d.view then
        (.ok (), w.modifyRuntime (w.channel k).binding.runtime fun r =>
          { r with invocations := r.invocations + 1 })
      else (.error .noBuffer, w) := by
  unfold enter Runtime.enter
  dsimp only
  by_cases hseen : (w.runtime (w.channel k).binding.runtime).isExposed d.view
  · rw [if_pos hseen, if_pos hseen]
    refine congrArg (Prod.mk _) (modifyRuntime_congr w _ fun r hr => ?_)
    rw [runtime_eq hr]
  · rw [if_neg hseen, if_neg hseen]

/-- A frame is counted and timed by the outcome of its call. -/
def noteOutcome (t : Ticket) : Outcome → Relay → Relay
  | .delivered, w => (w.count t.channel Stats.noteDelivered).time t
  | .failed _, w => w.count t.channel Stats.noteHandlerFailure

/-- The end of a call, as a change of the host. -/
theorem conclude_eq_noteOutcome (t : Ticket) (call : Except HostError Unit) :
    w.conclude t call =
      (w.modifyRuntime (w.channel t.channel).binding.runtime fun r =>
        { r with pending := r.pending.filter (·.1 ≠ t.handle) }).noteOutcome t
          ((w.runtime (w.channel t.channel).binding.runtime).conclude call t.handle).1 := by
  have hcleared : (w.modifyRuntime (w.channel t.channel).binding.runtime fun _ =>
      ((w.runtime (w.channel t.channel).binding.runtime).conclude call t.handle).2) =
      w.modifyRuntime (w.channel t.channel).binding.runtime fun r =>
        { r with pending := r.pending.filter (·.1 ≠ t.handle) } :=
    modifyRuntime_congr w _ fun r hr => by rw [runtime_eq hr, Runtime.conclude_eq]
  unfold conclude
  dsimp only
  rw [hcleared]
  cases ((w.runtime (w.channel t.channel).binding.runtime).conclude call t.handle).1 <;> rfl

end Relay

/-! ### Around a channel -/

/-- A change of a hand-off to which the turns of the dispatch thread do not matter. -/
structure Handoff.Inert (q : Handoff → Handoff) : Prop where
  take? : ∀ x, (q x).take? = x.take?.map (Prod.map id q)
  complete : ∀ x, (q x).complete = q x.complete
  crash : ∀ x, (q x).crash = q x.crash

/-- No change at all is inert. -/
theorem Handoff.inert_id : Inert id where
  take? x := by
    rw [Prod.map_id, Option.map_id]
    rfl
  complete _ := rfl
  crash _ := rfl

/-- To close a hand-off is inert. -/
theorem Handoff.inert_close : Inert close where
  take? x := by
    obtain ⟨depth, free, queue, accepting, alive, sinking⟩ := x
    cases alive <;> cases sinking <;> cases queue <;> rfl
  complete _ := rfl
  crash _ := rfl

namespace Session

/-- The span of a frame, if its beginning is known, is added to the log. -/
def timed (started : Option Moment) (stop : Moment) (s : Session) : Session :=
  { s with timing := started.elim s.timing fun start => s.timing.record ⟨start, stop⟩ }

/-- A change of a session, while the clock goes on by `n`, to which its frames do not matter. -/
structure Inert (n : Nat) (m : Option Moment → Option Moment) (g : Session → Session) : Prop where
  counted : ∀ (f : Stats → Stats) s,
    g { s with stats := f s.stats } = { g s with stats := f (g s).stats }
  begin? : ∀ (now : Nat) s, (g s).timing.begin? (now + n : Nat) = m (s.timing.begin? now)
  timed : ∀ started (now : Nat) s,
    g (s.timed started now) = (g s).timed (m started) (now + n : Nat)
  unknown : m none = none

end Session

namespace Relay

/-- The camera at place `p`, the channel `k` and its session change, and the clock goes on. -/
def altered (k p n : Nat) (a : Camera Nat → Camera Nat) (q : Handoff → Handoff)
    (g : Session → Session) (w : Relay) : Relay :=
  { w with
    cameras := w.cameras.modify p a
    channels := w.channels.modify k fun x => { x with handoff := x.handoff.map q }
    sessions := w.sessions.modify (w.channel k).session g
    now := w.now + n }

section

variable {k p n : Nat} {a : Camera Nat → Camera Nat} {q : Handoff → Handoff}
  {g : Session → Session} {m : Option Moment → Option Moment} (w : Relay)

/-- The hand-off of the channel, after a change. -/
theorem channel_altered : (w.altered k p n a q g).channel k =
    { w.channel k with handoff := (w.channel k).handoff.map q } := by
  show (w.channels.modify k _).getD k default = _
  unfold channel
  rw [List.getD_eq_getElem?_getD, List.getD_eq_getElem?_getD, List.getElem?_modify_eq]
  cases w.channels[k]? <;> rfl

/-- The span of the frame that begins now begins when `m` tells. -/
theorem begin?_altered (hg : Session.Inert n m g) :
    ((w.altered k p n a q g).session (w.channel k).session).timing.begin? (w.now + n : Nat) =
      m ((w.session (w.channel k).session).timing.begin? w.now) := by
  show ((w.sessions.modify (w.channel k).session g).getD (w.channel k).session
    default).timing.begin? _ = _
  unfold session
  rw [List.getD_eq_getElem?_getD, List.getD_eq_getElem?_getD, List.getElem?_modify_eq]
  cases w.sessions[(w.channel k).session]? with
  | none => exact hg.unknown.symm -- There is no log, and so no span.
  | some s => exact hg.begin? w.now s

/-- A change of the session exchanges with the alterations if it does with those of the session. -/
theorem modifySession_altered {f f' : Session → Session} (hcomm : ∀ s, f' (g s) = g (f s)) :
    (w.altered k p n a q g).modifySession ((w.altered k p n a q g).channel k).session f' =
      (w.modifySession (w.channel k).session f).altered k p n a q g := by
  rw [channel_altered]
  unfold altered modifySession
  dsimp only
  rw [List.modify_modify_eq, show f' ∘ g = g ∘ f from funext hcomm, ← List.modify_modify_eq]
  rfl

theorem count_altered (hg : Session.Inert n m g) (f : Stats → Stats) :
    (w.altered k p n a q g).count k f = (w.count k f).altered k p n a q g :=
  modifySession_altered w fun s => (hg.counted f s).symm

/-- A sample is taken by the session, from what the ticket tells. -/
theorem time_eq (t : Ticket) :
    w.time t = w.modifySession (w.channel t.channel).session (Session.timed t.started w.now) := by
  unfold time
  cases t.started with
  | some start => rfl
  | none =>
    show w = { w with sessions := w.sessions.modify _ id }
    rw [List.modify_id]

/-- To time a frame, with the session changed before or after. -/
theorem time_altered (hg : Session.Inert n m g) {t : Ticket} (ht : t.channel = k) :
    (w.altered k p n a q g).time (t.restarted m) = (w.time t).altered k p n a q g := by
  subst ht
  rw [time_eq, time_eq]
  exact modifySession_altered w fun s => (hg.timed t.started w.now s).symm

/-- A change of the channel exchanges with the alterations if it does with those of the hand-off. -/
theorem modifyChannel_altered {f f' : Channel → Channel}
    (hcomm : ∀ x : Channel, f' { x with handoff := x.handoff.map q } =
      { f x with handoff := (f x).handoff.map q })
    (hsession : ((w.modifyChannel k f).channel k).session = (w.channel k).session) :
    (w.altered k p n a q g).modifyChannel k f' =
      (w.modifyChannel k f).altered k p n a q g := by
  unfold altered
  rw [hsession]
  unfold modifyChannel
  dsimp only
  rw [List.modify_modify_eq, List.modify_modify_eq]
  exact congrArg (fun f => { w with
    cameras := w.cameras.modify p a
    channels := w.channels.modify k f
    sessions := w.sessions.modify (w.channel k).session g
    now := w.now + n }) (funext hcomm)

/-- A channel whose hand-off changes still belongs to the same session. -/
theorem session_modifyHandoff (k : Nat) (f : Option Handoff → Option Handoff) :
    ((w.modifyChannel k fun x => { x with handoff := f x.handoff }).channel k).session =
      (w.channel k).session := by
  have hsame : (w.channels.modify k fun x => { x with handoff := f x.handoff }).map
      Channel.session = w.channels.map Channel.session := map_modify_of_eq fun _ _ => rfl
  exact getD_of_map_eq hsame k default

/-- A change of the hand-off, `e` where it has been altered and `f` where it has not. -/
theorem modifyHandoff_altered {e f : Option Handoff → Option Handoff}
    (hcomm : ∀ x, e (x.map q) = (f x).map q) :
    (w.altered k p n a q g).modifyChannel k (fun x => { x with handoff := e x.handoff }) =
      (w.modifyChannel k fun x => { x with handoff := f x.handoff }).altered k p n a q g := by
  refine modifyChannel_altered w (fun x => ?_) (session_modifyHandoff w k f)
  dsimp only
  rw [hcomm]

/-- A frame is published before the alterations as after them. -/
theorem publish_altered (hg : Session.Inert n m g) (points : List Point) :
    (w.altered k p n a q g).publish k points =
      ((w.publish k points).1, (w.publish k points).2.altered k p n a q g) := by
  have hpublish : ({ w.channel k with handoff := (w.channel k).handoff.map q }).publish points =
      ((w.channel k).publish points).map fun done =>
        (done.1, done.2.1, { done.2.2 with handoff := done.2.2.handoff.map q }) := by
    unfold Channel.publish
    dsimp only
    cases (w.channel k).buffer.write points (w.channel k).policy <;> rfl
  unfold publish
  rw [channel_altered, hpublish]
  cases hdone : (w.channel k).publish points with
  | error e => exact congrArg (Prod.mk none) (count_altered w hg _)
  | ok result =>
    obtain ⟨d, written, y⟩ := result
    -- The channel still belongs to the same session.
    have hsession : ((w.modifyChannel k fun _ => y).channel k).session = (w.channel k).session :=
      congrArg Wiring.session (wiring_modifyChannel (wiring_publish hdone))
    dsimp only [Except.map]
    rw [modifyChannel_altered w (f := fun _ => y) (fun _ => rfl) hsession, count_altered _ hg]

/-- The outcome of a call is noted before the alterations as after them. -/
theorem noteOutcome_altered (hg : Session.Inert n m g) {t : Ticket} (ht : t.channel = k)
    (outcome : Outcome) :
    (w.altered k p n a q g).noteOutcome (t.restarted m) outcome =
      (w.noteOutcome t outcome).altered k p n a q g := by
  subst ht
  cases outcome with
  | failed text => exact count_altered w hg _
  | delivered =>
    show ((w.altered t.channel p n a q g).count t.channel Stats.noteDelivered).time _ = _
    rw [count_altered w hg]
    exact time_altered _ hg rfl

/-- A call ends before the alterations as after them. -/
theorem conclude_altered (hg : Session.Inert n m g) {t : Ticket} (ht : t.channel = k)
    (call : Except HostError Unit) :
    (w.altered k p n a q g).conclude (t.restarted m) call =
      (w.conclude t call).altered k p n a q g := by
  subst ht
  rw [conclude_eq_noteOutcome, conclude_eq_noteOutcome,
    show (t.restarted m).channel = t.channel from rfl, channel_altered,
    show (w.altered t.channel p n a q g).runtime _ = w.runtime _ from rfl]
  exact noteOutcome_altered (w.modifyRuntime (w.channel t.channel).binding.runtime _) hg rfl _

/-- **Changes around a channel** are not noticed by its dispatch thread. -/
theorem inert_altered (hq : Handoff.Inert q) (hg : Session.Inert n m g) :
    Inert k m (altered k p n a q g) where
  binding w := by rw [channel_altered]
  later n' w := by
    unfold later altered
    dsimp only
    rw [Nat.add_right_comm]
    rfl
  begin w := by
    unfold begin
    dsimp only
    rw [channel_altered]
    dsimp only
    -- Threads attach by what the change leaves alone; only the start of the span may differ.
    rw [show (w.altered k p n a q g).now = w.now + n from rfl, begin?_altered w hg,
      show (w.altered k p n a q g).attachments = w.attachments from rfl,
      show (w.altered k p n a q g).runtimes = w.runtimes from rfl]
    generalize w.attachments.attach (.dispatch k) (w.channel k).binding w.runtimes = result
    obtain ⟨handle, as, runtimes⟩ := result
    cases handle with
    | none =>
      exact congrArg (Prod.mk none) (count_altered { w with attachments := as, runtimes } hg _)
    | some handle => rfl
  publish points w := publish_altered w hg points
  enter d w := by
    unfold enter
    dsimp only
    rw [channel_altered, show (w.altered k p n a q g).runtime _ = w.runtime _ from rfl]
    cases (w.runtime (w.channel k).binding.runtime).enter d.view <;> rfl
  leave t reply w ht := by
    subst ht
    unfold leave
    rw [show (t.restarted m).channel = t.channel from rfl, channel_altered]
    rfl
  conclude t call w ht := conclude_altered w hg ht call
  takeQueued? w := by
    unfold takeQueued?
    rw [channel_altered]
    cases (w.channel k).handoff with
    | none => rfl
    | some x =>
      -- An inert change commutes with taking a frame out.
      simp only [Option.map_some, Option.bind_some, hq.take?, Option.map_map]
      congr 1
      funext taken
      refine Prod.ext rfl ?_
      exact modifyHandoff_altered w (e := fun _ => some (q taken.2))
        (f := fun _ => some taken.2) fun _ => rfl
  completeQueued w := modifyHandoff_altered w fun x => by
    cases x with
    | none => rfl
    | some x => exact congrArg some (hq.complete x)
  crashQueued w := by
    have hcrash (x : Option Handoff) :
        (x.map q).map Handoff.crash = (x.map Handoff.crash).map q := by
      cases x with
      | none => rfl
      | some x => exact congrArg some (hq.crash x)
    exact congrArg (exitThread (.dispatch k)) (modifyHandoff_altered w hcrash)

end

end Relay

/-! ### Other threads -/

/-- A host that has seen `n` more detaches. -/
def Runtime.detached (n : Nat) (r : Runtime) : Runtime := { r with detaches := r.detaches + n }

namespace Attachments

variable {t u : ThreadId}

/-- The exit of a thread takes no entry of another one away. -/
theorem handle?_exit (hne : t ≠ u) (address : Nat) (as : Attachments) (runtimes : List Runtime) :
    (as.exit u runtimes).1.handle? t address = as.handle? t address := by
  unfold handle? exit
  dsimp only
  rw [List.find?_filter]
  congr 2
  funext a
  by_cases ha : a.thread = t
  · simp [ha, hne]
    rfl
  · simp [ha]

/-- Nor does it take any of the others out of their order. -/
theorem ofThread_exit (hne : t ≠ u) (as : Attachments) (runtimes : List Runtime) :
    ofThread t (as.exit u runtimes).1 = ofThread t as := by
  unfold ofThread exit
  dsimp only
  rw [List.filter_filter]
  congr 1
  funext a
  by_cases ha : a.thread = t
  · simp [ha, hne]
  · simp [ha]

/-- A thread that exits detaches from each host as often as it was attached there. -/
theorem getElem?_exit (t : ThreadId) (as : Attachments) (runtimes : List Runtime) (i : Nat) :
    (as.exit t runtimes).2[i]? =
      runtimes[i]?.map (Runtime.detached ((ofThread t as).countP (·.runtime == i))) :=
  getElem?_foldl_detach (ofThread t as) runtimes i

/-- Hosts see the detaches of a thread before a change of one of them as afterwards. -/
theorem exit_modify (as : Attachments) (runtimes : List Runtime) (i : Nat)
    {f : Runtime → Runtime} (hf : ∀ n r, f (r.detached n) = (f r).detached n) :
    (as.exit u (runtimes.modify i f)).2 = (as.exit u runtimes).2.modify i f := by
  apply List.ext_getElem?
  intro j
  rw [getElem?_exit, List.getElem?_modify, List.getElem?_modify, getElem?_exit]
  cases runtimes[j]? with
  | none => rfl
  | some r =>
    by_cases hij : i = j
    · simp [hij, hf]
    · simp [hij]

/-- The exit of a thread and a change of a host can be exchanged if the change does not look at
    detaches. -/
theorem exit_set (u : ThreadId) (as : Attachments) {runtimes : List Runtime} {i : Nat}
    {r : Runtime} (hr : runtimes[i]? = some r) {f : Runtime → Runtime}
    (hf : ∀ n r, f (r.detached n) = (f r).detached n) :
    ∃ n, (as.exit u runtimes).2[i]? = some (r.detached n) ∧
      (as.exit u (runtimes.set i (f r))).2 =
        (as.exit u runtimes).2.set i (f (r.detached n)) := by
  have hafter := getElem?_exit u as runtimes i
  rw [hr] at hafter
  refine ⟨_, hafter, ?_⟩
  rw [← modify_of_getElem? f hr, exit_modify as runtimes i hf]
  exact modify_of_getElem? f hafter

/-- A thread attaches before another ends as afterwards. -/
theorem exit_attach (hne : t ≠ u) (b : Binding) (as : Attachments) (runtimes : List Runtime) :
    (as.exit u runtimes).1.attach t b (as.exit u runtimes).2 =
      ((as.attach t b runtimes).1,
        (as.attach t b runtimes).2.1.exit u (as.attach t b runtimes).2.2) := by
  have hsame := handle?_exit hne b.address as runtimes
  cases hhandle : as.handle? t b.address with
  | some handle => rw [attach_held hhandle, attach_held (hsame.trans hhandle)]
  | none =>
    cases hr : runtimes[b.runtime]? with
    | none =>
      have hafter := getElem?_exit u as runtimes b.runtime
      rw [hr] at hafter
      unfold attach
      rw [hsame, hhandle, hr, hafter]
      rfl
    | some r =>
      cases hoff : r.attachDisabled with
      | true =>
        obtain ⟨n, hafter, hset⟩ :=
          exit_set u as hr (f := Runtime.asked b.threadName) fun _ _ => rfl
        rw [attach_refused hhandle hr hoff, attach_refused (hsame.trans hhandle) hafter hoff,
          ← hset]
        rfl
      | false =>
        obtain ⟨n, hafter, hset⟩ :=
          exit_set u as hr (f := Runtime.admitted b.threadName) fun _ _ => rfl
        -- The new entry is not one of the thread that ends.
        have hnew (entries : Attachments) (runtimes : List Runtime) (handle : Handle) :
            exit u (⟨t, b.address, b.runtime, handle⟩ :: entries) runtimes =
              (⟨t, b.address, b.runtime, handle⟩ :: (entries.exit u runtimes).1,
                (entries.exit u runtimes).2) := by
          simp [exit, ofThread, hne]
        rw [attach_granted hhandle hr hoff, attach_granted (hsame.trans hhandle) hafter hoff,
          ← hset, hnew]
        rfl

/-- Threads end in any order. -/
theorem exit_exit (as : Attachments) (runtimes : List Runtime) :
    (as.exit t runtimes).1.exit u (as.exit t runtimes).2 =
      (as.exit u runtimes).1.exit t (as.exit u runtimes).2 := by
  by_cases hne : t = u
  · rw [hne]
  · refine Prod.ext (List.filter_comm ..) (List.ext_getElem? fun i => ?_)
    rw [getElem?_exit, getElem?_exit, getElem?_exit, getElem?_exit, ofThread_exit hne,
      ofThread_exit (Ne.symm hne), Option.map_map, Option.map_map]
    congr 1
    funext r
    simp [Runtime.detached, Nat.add_right_comm]

end Attachments

namespace Relay

variable {k : Nat} {t u : ThreadId} (w : Relay)

/-- The same in a relay. -/
theorem exitThread_modifyRuntime (i : Nat) {f : Runtime → Runtime}
    (hf : ∀ n r, f (r.detached n) = (f r).detached n) :
    (w.exitThread u).modifyRuntime i f = (w.modifyRuntime i f).exitThread u := by
  unfold exitThread modifyRuntime
  dsimp only
  rw [Attachments.exit_modify _ _ _ hf]
  rfl

/-- Threads end in any order. -/
theorem exitThread_comm : (w.exitThread t).exitThread u = (w.exitThread u).exitThread t := by
  have hexit := Attachments.exit_exit (t := t) (u := u) w.attachments w.runtimes
  unfold exitThread
  dsimp only
  rw [hexit]

theorem exposed_exitThread (i : Nat) :
    ((w.exitThread u).runtime i).exposed = (w.runtime i).exposed :=
  getD_of_map_eq (map_exit (fun _ => rfl) u w.attachments w.runtimes) i default

theorem pending_exitThread (i : Nat) :
    ((w.exitThread u).runtime i).pending = (w.runtime i).pending :=
  getD_of_map_eq (map_exit (fun _ => rfl) u w.attachments w.runtimes) i default

/-- A thread can exit before an outcome is noted or afterwards. -/
theorem exitThread_noteOutcome (t : Ticket) (outcome : Outcome) :
    (w.noteOutcome t outcome).exitThread u = (w.exitThread u).noteOutcome t outcome := by
  cases outcome with
  | failed text => rfl
  | delivered =>
    unfold noteOutcome time
    cases t.started <;> rfl

/-- **The end of another thread** is not noticed by a dispatch thread. -/
theorem inert_exitThread (hne : u ≠ .dispatch k) : Inert k id (exitThread u) where
  binding _ := rfl
  later _ _ := rfl
  begin w := by
    -- Attaching does not depend on another thread that is gone.
    unfold begin
    dsimp only
    rw [show (w.exitThread u).channel k = w.channel k from rfl,
      show (w.exitThread u).attachments = (w.attachments.exit u w.runtimes).1 from rfl,
      show (w.exitThread u).runtimes = (w.attachments.exit u w.runtimes).2 from rfl,
      Attachments.exit_attach (Ne.symm hne)]
    generalize w.attachments.attach (.dispatch k) (w.channel k).binding w.runtimes = result
    obtain ⟨handle, as, runtimes⟩ := result
    cases handle <;> rfl
  publish points w := by
    unfold publish
    rw [show (w.exitThread u).channel k = w.channel k from rfl]
    cases (w.channel k).publish points <;> rfl
  enter d w := by
    rw [enter_eq, enter_eq, show (w.exitThread u).channel k = w.channel k from rfl]
    unfold Runtime.isExposed
    rw [exposed_exitThread, exitThread_modifyRuntime w _ fun _ _ => rfl]
    split <;> rfl
  leave t reply w _ := by
    refine exitThread_modifyRuntime w _ fun _ _ => ?_
    cases reply <;> rfl
  conclude t call w _ := by
    -- A failure that is left over is kept by the host, not by the thread.
    have hcall : (((w.exitThread u).runtime (w.channel t.channel).binding.runtime).conclude call
        t.handle).1 =
          ((w.runtime (w.channel t.channel).binding.runtime).conclude call t.handle).1 := by
      rw [Runtime.conclude_eq, Runtime.conclude_eq, pending_exitThread]
    show (w.exitThread u).conclude t call = _
    rw [conclude_eq_noteOutcome, conclude_eq_noteOutcome, exitThread_noteOutcome,
      ← exitThread_modifyRuntime w _ fun _ _ => rfl]
    exact congrArg (noteOutcome t · _) hcall
  takeQueued? w := by
    unfold takeQueued?
    rw [show (w.exitThread u).channel k = w.channel k from rfl, Option.map_map]
    rfl
  completeQueued _ := rfl
  crashQueued w := exitThread_comm (w.modifyChannel k _)

end Relay

end DepthRelay
