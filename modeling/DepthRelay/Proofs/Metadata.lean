import DepthRelay.Proofs.Coherence

namespace DepthRelay

/-!
# What is not published of a point

Noise, gray value and confidence come with every point and wait with it in hand-offs, but nothing
depends on them.

* `Point.bare` — a point without them; `World.bare` is a world in which the points that wait are
  bare, and `Event.bare` an event whose points are.
* `Live.emit_bare`, `Live.dispatch_bare`, `Live.wake_bare` — bare frames take the same way.
* `World.run_of_bare` — schedules that differ in nothing else are noticed alike.
-/

variable {σ : Type}

/-! ### Bare points -/

/-- The point without what the driver tells about it. -/
def Point.bare (p : Point) : Point := { x := p.x, y := p.y, z := p.z }

@[simp] theorem Point.bare_bare (p : Point) : p.bare.bare = p.bare := rfl

/-- Only coordinates are copied. -/
theorem FrameBuffer.setPoints_bare (words : Array UInt32) (i : Nat) (points : List Point) :
    setPoints words i (points.map Point.bare) = setPoints words i points := by
  induction points generalizing words i with
  | nil => rfl
  | cons p points ih => exact ih (setPoint words i p) (i + 1)

/-- The buffer does not depend on what is not published. -/
theorem FrameBuffer.write_bare (b : FrameBuffer) (points : List Point) (policy : OverflowPolicy) :
    (b.write (points.map Point.bare) policy) = b.write points policy := by
  unfold write
  rw [List.length_map]
  cases policy.accept? b.capacity points.length with
  | none => rfl
  | some n =>
    dsimp only
    rw [← List.map_take, setPoints_bare]

/-- The hand-off, with bare points waiting. -/
def Handoff.bare (q : Handoff) : Handoff := { q with queue := q.queue.map (·.map Point.bare) }

/-- A slot of the hand-off is claimed whatever waits in it. -/
theorem Handoff.claim?_bare (q : Handoff) : q.bare.claim? = q.claim?.map Handoff.bare := by
  unfold claim?
  show (if q.free = 0 then none else some { q.bare with free := q.free - 1 }) = _
  by_cases hfree : q.free = 0
  · rw [if_pos hfree, if_pos hfree]
    rfl
  · rw [if_neg hfree, if_neg hfree]
    rfl

/-- Bare points wait at the same place. -/
theorem Handoff.enqueue_bare (points : List Point) (q : Handoff) :
    q.bare.enqueue (points.map Point.bare) =
      ((q.enqueue points).1, (q.enqueue points).2.bare) := by
  unfold enqueue bare
  simp only [List.length_map]
  by_cases hgoes : (q.accepting && q.alive && decide (q.queue.length < q.depth)) = true
  · rw [if_pos hgoes, if_pos hgoes, List.map_append]
    rfl
  · rw [if_neg hgoes, if_neg hgoes]

/-- Bare points are dropped exactly if the points are. -/
theorem Handoff.submit_bare (points : List Point) (q : Handoff) :
    q.bare.submit (points.map Point.bare) =
      ((q.submit points).1, (q.submit points).2.bare) := by
  unfold submit
  rw [claim?_bare]
  cases q.claim? with
  | none => rfl
  | some q => exact enqueue_bare points q

/-- Taking a frame out of a hand-off, without its metadata. -/
theorem Handoff.take?_bare (q : Handoff) :
    q.bare.take? = q.take?.map fun (points, q) => (points.map Point.bare, q.bare) := by
  obtain ⟨depth, free, queue, accepting, alive, sinking⟩ := q
  cases alive <;> cases sinking <;> cases queue <;> rfl

/-- The channel, with bare points waiting. -/
def Channel.bare (x : Channel) : Channel := { x with handoff := x.handoff.map Handoff.bare }

/-- A frame is published alike. -/
theorem Channel.publish_bare (points : List Point) (x : Channel) :
    x.bare.publish (points.map Point.bare) =
      (x.publish points).map fun (d, written, y) => (d, written, y.bare) := by
  have hbuffer : x.bare.buffer = x.buffer := rfl
  have hpolicy : x.bare.policy = x.policy := rfl
  unfold publish
  rw [hbuffer, hpolicy, FrameBuffer.write_bare]
  cases x.buffer.write points x.policy <;> rfl

/-! ### Bare relays -/

namespace Relay

/-- The relay, with bare points waiting. -/
def bare (w : Relay) : Relay := { w with channels := w.channels.map Channel.bare }

variable (w : Relay) (k : Nat)

@[simp] theorem cameras_bare : w.bare.cameras = w.cameras := rfl

@[simp] theorem runtimes_bare : w.bare.runtimes = w.runtimes := rfl

@[simp] theorem sessions_bare : w.bare.sessions = w.sessions := rfl

@[simp] theorem attachments_bare : w.bare.attachments = w.attachments := rfl

@[simp] theorem session_bare (i : Nat) : w.bare.session i = w.session i := rfl

@[simp] theorem runtime_bare (r : Nat) : w.bare.runtime r = w.runtime r := rfl

theorem channel_bare : w.bare.channel k = (w.channel k).bare := by
  show (w.channels.map Channel.bare).getD k (Channel.bare default) = _
  rw [List.getD_eq_getElem?_getD, List.getElem?_map, Option.getD_map]
  rfl

theorem length_channels_bare : w.bare.channels.length = w.channels.length := List.length_map _

@[simp] theorem bare_bare : w.bare.bare = w.bare := by
  have hqueue (q : Handoff) : q.bare.bare = q.bare := by simp [Handoff.bare]
  have hchannel (x : Channel) : x.bare.bare = x.bare := by
    unfold Channel.bare
    cases x.handoff <;> simp [hqueue]
  simp [bare, hchannel]

/-- A change of a channel that does not look at the points that wait. -/
theorem modifyChannel_bare {f g : Channel → Channel} (h : ∀ x, (f x).bare = g x.bare) :
    w.bare.modifyChannel k g = (w.modifyChannel k f).bare := by
  simp only [bare, modifyChannel, map_modify_of_comm h]

theorem count_bare (f : Stats → Stats) : w.bare.count k f = (w.count k f).bare := by
  unfold count
  rw [channel_bare]
  rfl

theorem exitSource_bare (source : Option Source) :
    w.bare.exitSource source = (w.exitSource source).bare := by
  cases source <;> rfl

/-! ### Deliveries -/

/-- Attaching does not look at points. -/
theorem begin_bare (t : ThreadId) :
    w.bare.begin t k = ((w.begin t k).1, (w.begin t k).2.bare) := by
  have hbinding : (w.channel k).bare.binding = (w.channel k).binding := rfl
  unfold begin
  dsimp only
  rw [channel_bare, hbinding, attachments_bare, runtimes_bare]
  generalize w.attachments.attach t (w.channel k).binding w.runtimes = result
  obtain ⟨handle, as, runtimes⟩ := result
  cases handle with
  | none => exact congrArg (Prod.mk none) (count_bare { w with attachments := as, runtimes } k _)
  | some handle => rfl

/-- The relay publishes a frame alike. -/
theorem publish_bare (points : List Point) :
    w.bare.publish k (points.map Point.bare) =
      ((w.publish k points).1, (w.publish k points).2.bare) := by
  unfold publish
  rw [channel_bare, Channel.publish_bare]
  cases (w.channel k).publish points with
  | error e => exact congrArg (Prod.mk none) (count_bare w k _)
  | ok result =>
    obtain ⟨d, written, x⟩ := result
    have hset := modifyChannel_bare w k (f := fun _ => x) (g := fun _ => x.bare) fun _ => rfl
    dsimp only [Except.map]
    rw [hset, count_bare]

/-- The handler is entered with the same delivery. -/
theorem enter_bare (d : Delivery) : w.bare.enter k d = ((w.enter k d).1, (w.enter k d).2.bare) := by
  have hbinding : (w.channel k).bare.binding = (w.channel k).binding := rfl
  unfold enter
  dsimp only
  rw [channel_bare, hbinding, runtime_bare]
  cases (w.runtime (w.channel k).binding.runtime).enter d.view <;> rfl

theorem leave_bare (t : Ticket) (reply : Reply) : w.bare.leave t reply = (w.leave t reply).bare := by
  unfold leave
  rw [channel_bare]
  rfl

theorem time_bare (t : Ticket) : w.bare.time t = (w.time t).bare := by
  unfold time
  rw [channel_bare]
  cases t.started <;> rfl

/-- The end of a call does not look at what waits. -/
theorem conclude_bare (t : Ticket) (call : Except HostError Unit) :
    w.bare.conclude t call = (w.conclude t call).bare := by
  have hbinding : (w.channel t.channel).bare.binding = (w.channel t.channel).binding := rfl
  have hruntime (r : Nat) (x : Runtime) : w.bare.modifyRuntime r (fun _ => x) =
      (w.modifyRuntime r fun _ => x).bare := rfl
  unfold conclude
  dsimp only
  rw [channel_bare, hbinding, runtime_bare]
  cases (w.runtime (w.channel t.channel).binding.runtime).conclude call t.handle with
  | mk outcome x =>
    cases outcome with
    | delivered =>
      dsimp only
      rw [hruntime, count_bare, time_bare]
    | failed text =>
      dsimp only
      rw [hruntime, count_bare]

/-- A camera offers a frame under the same number. -/
theorem offer_bare (p : Nat) (points : List Point) :
    w.bare.offer p (points.map Point.bare) = ((w.offer p points).1, (w.offer p points).2.bare) := by
  cases hk : w.listener? p with
  | none =>
    rw [offer_of_none hk, offer_of_none (by exact hk)]
  | some k =>
    obtain ⟨c, hc, hcapturing, hlistener⟩ := listener?_eq_some.mp hk
    rw [offer_of_some hc hcapturing hlistener, offer_of_some (by exact hc) hcapturing hlistener]
    rfl

/-- Bare points wait in the channel at the same place. -/
theorem submit_bare (q : Handoff) (points : List Point) :
    w.bare.submit k q.bare (points.map Point.bare) = (w.submit k q points).bare := by
  have hset (q : Handoff) := modifyChannel_bare w k
    (f := fun x => { x with handoff := some q }) (g := fun x => { x with handoff := some q.bare })
    fun _ => rfl
  unfold submit
  rw [Handoff.submit_bare]
  rcases q.submit points with ⟨_ | _, q'⟩
  · exact hset q'
  · dsimp only
    rw [hset, count_bare]

/-- The dispatch thread takes the same frame, bare. -/
theorem takeQueued?_bare : w.bare.takeQueued? k =
    (w.takeQueued? k).map fun (points, v) => (points.map Point.bare, v.bare) := by
  have hset (q : Handoff) := modifyChannel_bare w k
    (f := fun x => { x with handoff := some q }) (g := fun x => { x with handoff := some q.bare })
    fun _ => rfl
  unfold takeQueued?
  rw [channel_bare]
  cases hq : (w.channel k).handoff with
  | none => simp [Channel.bare, hq]
  | some q =>
    have htake := q.take?_bare
    cases hq' : q.take? with
    | none =>
      rw [hq'] at htake
      simp [Channel.bare, hq, hq', htake]
    | some taken =>
      rw [hq'] at htake
      simp [Channel.bare, hq, hq', htake, hset]

theorem completeQueued_bare : w.bare.completeQueued k = (w.completeQueued k).bare := by
  refine modifyChannel_bare w k fun x => ?_
  cases hq : x.handoff <;> simp [Channel.bare, hq, Handoff.bare, Handoff.complete]

/-- A dispatch thread that is lost takes everything along, bare or not. -/
theorem crashQueued_bare : w.bare.crashQueued k = (w.crashQueued k).bare := by
  have hcrash : w.bare.modifyChannel k (fun x => { x with handoff := x.handoff.map Handoff.crash }) =
      (w.modifyChannel k fun x => { x with handoff := x.handoff.map Handoff.crash }).bare := by
    refine modifyChannel_bare w k fun x => ?_
    cases hq : x.handoff <;> simp [Channel.bare, hq, Handoff.bare, Handoff.crash]
  unfold crashQueued
  rw [hcrash]
  rfl

theorem crashSource_bare (run : Nat) : w.bare.crashSource run = (w.crashSource run).bare := by
  unfold crashSource
  rw [sessions_bare]
  cases w.sessions.findIdx? fun s => s.source?.any (·.run == run) <;> rfl

/-- A frame source does not look at what waits. -/
theorem wakeSource_bare (i : Nat) (source : Source) :
    w.bare.wakeSource i source = ((w.wakeSource i source).1, (w.wakeSource i source).2.bare) := by
  have hnow : ({ w.bare with now := max w.bare.now source.due } : Relay) =
      ({ w with now := max w.now source.due } : Relay).bare := rfl
  unfold wakeSource
  dsimp only
  rw [hnow]
  generalize ({ w with now := max w.now source.due } : Relay) = v
  rw [session_bare, cameras_bare]
  cases source.wake with
  | none => rfl
  | some next =>
    cases w.cameras[((v.session i).camera.map (·.device.camera)).getD 0]? with
    | none => rfl
    | some c =>
      dsimp only
      cases c.profile.syntheticPoints next.1 <;> rfl

/-! ### Operations -/

/-- A new channel has nothing waiting. -/
theorem newChannel_bare (i : Nat) (b : FrameBuffer) (w : Relay) :
    (w.newChannel i b).bare = w.newChannel i b := by
  unfold newChannel Channel.bare
  dsimp only
  cases (w.session i).settings.delivery <;> rfl

/-- An opening does not look at what waits. -/
theorem openSession_bare (d : Descriptor) (key : UInt32) (address i : Nat) :
    w.bare.openSession d key address i =
      ((w.openSession d key address i).1, (w.openSession d key address i).2.bare) := by
  have hcamera (p : Nat) (c : Camera Nat) (rate : FrameRate) :
      w.bare.openCamera p c rate address i =
        ((w.openCamera p c rate address i).1, (w.openCamera p c rate address i).2.bare) := by
    unfold openCamera
    dsimp only
    rw [length_channels_bare, session_bare, runtime_bare]
    cases c.fault? .createCamera with
    | some e => rfl
    | none =>
      dsimp only
      cases Session.configure rate w.channels.length
        (FrameBuffer.ofCapacity address (w.session i).settings.maxPoints.toNat) c with
      | error e c' => rfl
      | ok b c' =>
        dsimp only
        cases (w.runtime (w.session i).runtime).expose b.view with
        | error e => rfl
        | ok r =>
          -- Nothing waits in the new channel.
          have happend : (w.channels ++ [w.newChannel i b]).map Channel.bare =
              w.channels.map Channel.bare ++ [w.newChannel i b] := by
            rw [List.map_append, List.map_singleton, newChannel_bare]
          unfold bare
          dsimp only
          rw [happend]
          rfl
  unfold openSession
  rw [session_bare, cameras_bare]
  by_cases hstate : (w.session i).state = .closed
  · rw [if_pos hstate, if_pos hstate]
    cases FrameRate.ofKey? key with
    | none => rfl
    | some rate =>
      dsimp only
      cases connected w.cameras d with
      | nil => rfl
      | cons serial rest =>
        cases rest with
        | cons _ _ => rfl
        | nil =>
          dsimp only
          cases (place? w.cameras serial).bind fun p => (w.cameras[p]?).map fun c => (p, c) with
          | none => rfl
          | some found => exact hcamera found.1 found.2 rate
  · rw [if_neg hstate, if_neg hstate]

/-- An operation that neither opens nor closes does not come near the channels. -/
theorem operate_bare {α : Type}
    (f : Session → List (Camera Nat) → Except RelayError α × Session × List (Camera Nat)) (i : Nat) :
    w.bare.operate f i = ((w.operate f i).1, (w.operate f i).2.bare) := rfl

/-- **An operation** answers alike, whatever waits. -/
theorem perform_bare (op : Operation) (i : Nat) :
    op.perform i w.bare = ((op.perform i w).1, (op.perform i w).2.bare) := by
  cases op with
  | openCamera d key address =>
    unfold Operation.perform
    dsimp only [Prod.map]
    rw [openSession_bare]
    rfl
  | start timing =>
    unfold Operation.perform start
    dsimp only [Prod.map]
    rw [operate_bare]
    have hrun : w.bare.nextRun = w.nextRun := rfl
    have hnow : w.bare.now = w.now := rfl
    rw [hrun, hnow]
    -- The answer of an operation does not depend on metadata, and decides the same way.
    generalize w.operate (Session.start timing w.nextRun w.now) i = result
    obtain ⟨answer, v⟩ := result
    cases answer <;> rfl
  | stop =>
    unfold Operation.perform stop
    dsimp only [Prod.map]
    rw [operate_bare, session_bare]
    generalize w.operate Session.stop i = result
    obtain ⟨answer, v⟩ := result
    cases answer with
    | error e => rfl
    | ok samples =>
      dsimp only
      rw [exitSource_bare]
      rfl
  | setExposure => rfl
  | maxWidth => rfl
  | maxHeight => rfl

/-- A session begins to close whatever waits. -/
theorem beginClose_bare (i : Nat) : w.bare.beginClose i = (w.beginClose i).bare := by
  unfold beginClose
  rw [session_bare]
  cases (w.session i).camera with
  | none => rfl
  | some o =>
    dsimp only
    rw [cameras_bare]
    generalize (w.session i).halt w.cameras = result
    obtain ⟨s, cameras⟩ := result
    have hclose (v : Relay) : v.bare.modifyChannel o.channel
        (fun x => { x with handoff := x.handoff.map Handoff.close }) =
        (v.modifyChannel o.channel fun x => { x with handoff := x.handoff.map Handoff.close }).bare := by
      refine modifyChannel_bare v o.channel fun x => ?_
      cases hq : x.handoff <;> simp [Channel.bare, hq, Handoff.bare, Handoff.close]
    rw [← hclose, exitSource_bare]
    cases s.source?.isNone <;> rfl

/-- A session is closed whatever waits. -/
theorem endClose_bare (i : Nat) : w.bare.endClose i = (w.endClose i).bare := by
  have hexit (t : ThreadId) : w.bare.exitThread t = (w.exitThread t).bare := rfl
  unfold endClose
  dsimp only
  rw [session_bare]
  cases (w.session i).camera with
  | none => rfl
  | some o =>
    have hview (x : Channel) : x.bare.view = x.view := rfl
    dsimp only
    rw [hexit, exitSource_bare, channel_bare, hview]
    rfl

end Relay

/-! ### Threads that deliver -/

namespace Live

/-- The relay has bare points waiting. -/
def bare (l : Live σ) : Live σ := { l with relay := l.relay.bare }

variable (h : Handler σ) (l : Live σ)

@[simp] theorem relay_bare : l.bare.relay = l.relay.bare := rfl

theorem withRelay_bare (w : Relay) : l.bare.withRelay w.bare = (l.withRelay w).bare := rfl

/-- The handler sees the same delivery, and answers alike. -/
theorem handle_bare (t : Ticket) (d : Delivery) :
    l.bare.handle h t d = ((l.handle h t d).1, (l.handle h t d).2.bare) := by
  unfold handle
  rw [relay_bare, Relay.enter_bare]
  generalize l.relay.enter t.channel d = result
  obtain ⟨answer, w⟩ := result
  cases answer with
  | error e =>
    dsimp only
    rw [Relay.conclude_bare, withRelay_bare]
  | ok _ =>
    have hbinding : (w.channel t.channel).bare.binding = (w.channel t.channel).binding := rfl
    dsimp only
    rw [Relay.channel_bare, hbinding, show l.bare.host = l.host from rfl]
    generalize h (w.channel t.channel).binding.runtime d l.host = a
    have hconclude (reply : Reply) :
        ((({ w.bare with now := w.bare.now + a.elapsed } : Relay).leave t reply).conclude t (.ok ())) =
        ((({ w with now := w.now + a.elapsed } : Relay).leave t reply).conclude t (.ok ())).bare := by
      rw [← Relay.conclude_bare, ← Relay.leave_bare]
      rfl
    cases a.reply with
    | aborted reason => rfl
    | accepted =>
      dsimp only
      rw [hconclude]
      rfl
    | failed text =>
      dsimp only
      rw [hconclude]
      rfl

/-- **A delivery** does not depend on what is not published. -/
theorem deliver_bare (t : ThreadId) (k : Nat) (points : List Point) :
    l.bare.deliver h t k (points.map Point.bare) =
      ((l.deliver h t k points).1, (l.deliver h t k points).2.bare) := by
  unfold deliver
  rw [relay_bare, Relay.begin_bare]
  generalize l.relay.begin t k = result
  obtain ⟨ticket, w⟩ := result
  cases ticket with
  | none => rfl
  | some ticket =>
    dsimp only
    rw [Relay.publish_bare]
    generalize w.publish k points = result
    obtain ⟨d, v⟩ := result
    cases d with
    | none => rfl
    | some d => exact handle_bare h (l.withRelay v) ticket d

/-- **Injected frames** take the same way when they are bare. -/
theorem emit_bare (t : ThreadId) (p : Nat) (points : List Point) :
    l.bare.emit h t p (points.map Point.bare) =
      ((l.emit h t p points).1, (l.emit h t p points).2.bare) := by
  unfold emit
  rw [relay_bare, Relay.offer_bare]
  generalize l.relay.offer p points = result
  obtain ⟨k?, w⟩ := result
  cases k? with
  | none => rfl
  | some k =>
    dsimp only
    rw [Relay.channel_bare]
    unfold Channel.bare
    cases (w.channel k).handoff with
    | some q =>
      dsimp only [Option.map_some]
      rw [Relay.submit_bare]
      rfl
    | none =>
      have hdeliver := deliver_bare h (l.withRelay w) t k points
      dsimp only [Option.map_none]
      rw [withRelay_bare, hdeliver]
      generalize (l.withRelay w).deliver h t k points = result
      obtain ⟨answer, l'⟩ := result
      cases answer <;> rfl

/-- **Dispatch threads** find the same frames, but bare. -/
theorem dispatch_bare (k : Nat) : l.bare.dispatch h k = (l.dispatch h k).bare := by
  unfold dispatch
  rw [relay_bare, Relay.takeQueued?_bare]
  cases l.relay.takeQueued? k with
  | none => rfl
  | some taken =>
    obtain ⟨points, w⟩ := taken
    have hdeliver := deliver_bare h (l.withRelay w) (.dispatch k) k points
    dsimp only [Option.map_some]
    rw [withRelay_bare, hdeliver]
    generalize (l.withRelay w).deliver h (.dispatch k) k points = result
    obtain ⟨answer, l'⟩ := result
    cases answer with
    | ok _ =>
      dsimp only
      rw [relay_bare, Relay.completeQueued_bare]
      rfl
    | error _ =>
      dsimp only
      rw [relay_bare, Relay.crashQueued_bare]
      rfl

@[simp] theorem bare_bare : l.bare.bare = l.bare := by
  unfold bare
  simp

/-- Whether a frame is bare when it is injected cannot be told afterwards. -/
theorem emit_alike (t : ThreadId) (p : Nat) (points : List Point) :
    (l.bare.emit h t p points).1 = (l.emit h t p points).1 ∧
      (l.bare.emit h t p points).2.bare = (l.emit h t p points).2.bare := by
  have hbare := emit_bare h l t p points
  have hbare' := emit_bare h l.bare t p points
  rw [bare_bare, hbare] at hbare'
  obtain ⟨hanswer, hafter⟩ := Prod.mk.inj hbare'
  exact ⟨hanswer.symm, hafter.symm⟩

/-- **Frame sources** produce the same frames, bare or not. -/
theorem wake_bare (i : Nat) (source : Source) :
    (l.bare.wake h i source).bare = (l.wake h i source).bare := by
  unfold wake
  rw [relay_bare, Relay.wakeSource_bare]
  generalize l.relay.wakeSource i source = result
  obtain ⟨frame, w⟩ := result
  cases frame with
  | none => exact (l.withRelay w).bare_bare
  | some frame =>
    obtain ⟨p, points⟩ := frame
    obtain ⟨hanswer, hafter⟩ := emit_alike h (l.withRelay w) (.source source.run) p points
    dsimp only
    rw [withRelay_bare]
    generalize (l.withRelay w).emit h (.source source.run) p points = result at hanswer hafter ⊢
    generalize (l.withRelay w).bare.emit h (.source source.run) p points = result' at hanswer hafter ⊢
    obtain ⟨answer, l₁⟩ := result
    obtain ⟨answer', l₂⟩ := result'
    dsimp only at hanswer hafter
    subst hanswer
    cases answer' with
    | ok _ => exact hafter
    | error _ =>
      obtain ⟨hrelay, hhost⟩ := Live.mk.inj hafter
      unfold bare withRelay
      dsimp only
      rw [← Relay.crashSource_bare, ← Relay.crashSource_bare, hrelay, hhost]

end Live

/-! ### Schedules -/

/-- The event, with a bare frame if there is one. -/
def Event.bare : Event → Event
  | emit worker camera points => emit worker camera (points.map Point.bare)
  | e => e

namespace World

/-- The relay has bare points waiting. -/
def bare (w : World σ) : World σ := { w with toLive := w.toLive.bare }

variable (h : Handler σ) {v w : World σ}

theorem bare_bare (w : World σ) : w.bare.bare = w.bare := by
  unfold bare
  simp

/-- The dispatch thread is through with bare frames when it is with the frames. -/
theorem dispatched_bare (i : Nat) (w : World σ) : w.bare.dispatched i = w.dispatched i := by
  unfold dispatched
  show (w.relay.session i).camera.all _ = _
  congr 1
  funext o
  show (w.relay.bare.channel o.channel).handoff.all Handoff.finished = _
  rw [Relay.channel_bare]
  unfold Channel.bare
  cases (w.relay.channel o.channel).handoff with
  | none => rfl
  | some q => simp [Handoff.bare, Handoff.finished]

/-- Where the points that wait are not looked at, a step can be taken with bare ones. -/
theorem bare_setRelay {u v : Relay} (hu : u = v.bare) (w : World σ) :
    (w.bare.setRelay u).bare = (w.setRelay v).bare := by
  rw [hu]
  exact (w.setRelay v).bare_bare

/-- Only what is bare of the relay matters. -/
theorem bare_toLive {l l' : Live σ} (hl : l.bare = l'.bare) (w : World σ) :
    ({ w.bare with toLive := l } : World σ).bare = ({ w with toLive := l' } : World σ).bare := by
  unfold bare
  dsimp only
  rw [hl]

/-- **A step in which everything is bare** leaves behind what differs in nothing else. -/
theorem step_bare (e : Event) (w : World σ) :
    (w.bare.step h e.bare).2.bare = (w.step h e).2.bare := by
  -- The guards do not look at metadata, so that both worlds decide alike.
  have hready (i : Nat) : w.bare.ready i = w.ready i := rfl
  cases e with
  | operate i op =>
    unfold Event.bare step
    dsimp only
    rw [hready]
    by_cases hi : w.ready i
    · rw [if_pos hi, if_pos hi]
      exact bare_setRelay (congrArg Prod.snd (w.relay.perform_bare op i)) w
    · rw [if_neg hi, if_neg hi]
      exact w.bare_bare
  | beginClose i =>
    unfold Event.bare step
    dsimp only
    rw [hready, show w.bare.relay.session i = w.relay.session i from rfl]
    by_cases hi : w.ready i
    · rw [if_pos hi, if_pos hi]
      by_cases hheld : (w.relay.session i).camera.isSome
      · rw [if_pos hheld, if_pos hheld]
        have hworld := bare_setRelay (w.relay.beginClose_bare i) w
        exact congrArg (fun u : World σ => { u with closing := i :: w.closing }) hworld
      · rw [if_neg hheld, if_neg hheld]
        exact w.bare_bare
    · rw [if_neg hi, if_neg hi]
      exact w.bare_bare
  | endClose i =>
    unfold Event.bare step
    dsimp only
    rw [dispatched_bare, show w.bare.closing = w.closing from rfl]
    by_cases hi : w.closing.contains i && w.dispatched i
    · rw [if_pos hi, if_pos hi]
      have hworld := bare_setRelay (w.relay.endClose_bare i) w
      exact congrArg (fun u : World σ => { u with closing := w.closing.filter (· ≠ i) }) hworld
    · rw [if_neg hi, if_neg hi]
      exact w.bare_bare
  | emit worker camera points =>
    have hemit := congrArg Prod.snd (Live.emit_bare h w.toLive (.worker worker) camera points)
    exact bare_toLive ((congrArg Live.bare hemit).trans (Live.bare_bare _)) w
  | dispatch k =>
    have hdispatch := Live.dispatch_bare h w.toLive k
    exact bare_toLive ((congrArg Live.bare hdispatch).trans (Live.bare_bare _)) w
  | wake i =>
    unfold Event.bare step
    dsimp only
    rw [show w.bare.relay.session i = w.relay.session i from rfl]
    cases (w.relay.session i).source? with
    | none => exact w.bare_bare
    | some source => exact bare_toLive (Live.wake_bare h w.toLive i source) w
  | fail camera op s =>
    exact bare_setRelay (v := w.relay.modifyCamera camera (Camera.fail op s)) rfl w
  | clearFaults camera =>
    exact bare_setRelay (v := w.relay.modifyCamera camera Camera.clearFaults) rfl w
  | disableAttach r on =>
    exact bare_setRelay
      (v := w.relay.modifyRuntime r fun x => { x with attachDisabled := on }) rfl w
  | refuseBuffers r fault =>
    exact bare_setRelay
      (v := w.relay.modifyRuntime r fun x => { x with exposeFault := fault }) rfl w
  | exitWorker worker =>
    exact bare_setRelay (v := w.relay.exitThread (.worker worker)) rfl w
  | pass nanos =>
    exact bare_setRelay (v := { w.relay with now := w.relay.now + nanos }) rfl w

/-- **Schedules that differ only in what is not published** lead to worlds that differ in nothing
    else, and in particular to the same memory of the hosts. -/
theorem run_of_bare {events events' : List Event}
    (hevents : events.map Event.bare = events'.map Event.bare) (halike : v.bare = w.bare) :
    (v.run h events).bare = (w.run h events').bare := by
  induction events generalizing v w events' with
  | nil =>
    obtain rfl : events' = [] := List.map_eq_nil_iff.mp hevents.symm
    exact halike
  | cons e events ih =>
    cases events' with
    | nil => exact absurd hevents (by simp)
    | cons e' events' =>
      obtain ⟨he, hrest⟩ := List.cons.inj hevents
      -- Both steps are compared with the one in which everything is bare.
      have hstep : (v.step h e).2.bare = (w.step h e').2.bare := by
        rw [← step_bare h e v, ← step_bare h e' w, he, halike]
      show ((v.step h e).2.run h events).bare = ((w.step h e').2.run h events').bare
      exact ih hrest hstep

end World

end DepthRelay
