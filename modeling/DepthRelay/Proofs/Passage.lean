import DepthRelay.Proofs.Bookkeeping

namespace DepthRelay

/-!
# Frames on their way through a channel

Which frames come to a channel in the course of a schedule, which of them its hand-off keeps, and
which are then delivered.

* `Live.deliver_cases`, `Live.emit_passage`, `Live.dispatch_passage` — what the threads that deliver
  do to channels and hosts.
* `World.arrived?`, `World.kept?`, `World.delivered?` — the frame of a step, if it is one that
  brings a frame, that brings one which is not dropped, or that delivers one.
* `World.frames` — the frames of one kind in a schedule, by channels.
* `delivered_prefix` — frames are delivered in the order in which they came, and none twice.
-/

variable {σ : Type}

/-! ### What the threads that deliver do -/

namespace Relay

variable {w : Relay} {k : Nat} {closing : List Nat}

theorem channels_begin (t : ThreadId) (k : Nat) (w : Relay) :
    (w.begin t k).2.channels = w.channels := by
  unfold begin
  dsimp only
  cases (w.attachments.attach t (w.channel k).binding w.runtimes).1 <;> rfl

theorem channels_enter (k : Nat) (d : Delivery) (w : Relay) :
    (w.enter k d).2.channels = w.channels := by
  unfold enter
  dsimp only
  cases (w.runtime (w.channel k).binding.runtime).enter d.view <;> rfl

/-- The end of a call changes no channel. -/
theorem channels_conclude (t : Ticket) (call : Except HostError Unit) (w : Relay) :
    (w.conclude t call).channels = w.channels := by
  unfold conclude
  dsimp only
  cases ((w.runtime (w.channel t.channel).binding.runtime).conclude call t.handle).1 with
  | delivered =>
    unfold time
    cases t.started <;> rfl
  | failed text => rfl

/-- The channel that a ticket is for. -/
theorem channel_begin {t : ThreadId} {ticket : Ticket} (h : (w.begin t k).1 = some ticket) :
    ticket.channel = k := by
  unfold begin at h
  dsimp only at h
  generalize w.attachments.attach t (w.channel k).binding w.runtimes = result at h
  obtain ⟨handle, as, runtimes⟩ := result
  cases handle with
  | none => exact absurd h (by simp)
  | some handle => exact congrArg Ticket.channel (Option.some.inj h).symm

end Relay

namespace Live

variable (h : Handler σ) (l : Live σ)

/-- The handler is only called for a buffer that its host sees. -/
theorem handle_cases (t : Ticket) (d : Delivery) :
    (l.handle h t d).2.relay.channels = l.relay.channels ∧
      ((l.handle h t d).2.host = l.host ∨
        (l.relay.runtime (l.relay.channel t.channel).binding.runtime).isExposed d.view = true ∧
          (l.handle h t d).2.host =
            (h (l.relay.channel t.channel).binding.runtime d l.host).host) := by
  have hchannels := Relay.channels_enter t.channel d l.relay
  have hbooks := Relay.books_enter l.relay t.channel d
  unfold handle
  rcases hbooks with ⟨-, hrefused⟩ | ⟨hexposed, hok, -⟩
  · rw [hrefused]
    exact ⟨Relay.channels_conclude t _ _, .inl rfl⟩
  · generalize l.relay.enter t.channel d = result at hchannels hok ⊢
    obtain ⟨answer, w⟩ := result
    dsimp only at hchannels hok
    subst hok
    have hchannel := Relay.channel_of_channels hchannels t.channel
    dsimp only
    rw [hchannel]
    split
    · exact ⟨hchannels, .inr ⟨hexposed, rfl⟩⟩
    · exact ⟨(Relay.channels_conclude t _ _).trans hchannels, .inr ⟨hexposed, rfl⟩⟩

/-- A delivery either changes nothing about channels and hosts, or puts the frame into the buffer
    of the channel, and then the handler may be called for it. -/
theorem deliver_cases (t : ThreadId) (k : Nat) (points : List Point) :
    (l.deliver h t k points).2.relay.channels = l.relay.channels ∧
        (l.deliver h t k points).2.host = l.host ∨
      ∃ d written x, (l.relay.channel k).publish points = .ok (d, written, x) ∧
        (l.deliver h t k points).2.relay.channels = l.relay.channels.modify k (fun _ => x) ∧
        ((l.deliver h t k points).2.host = l.host ∨
          (l.relay.runtime (l.relay.channel k).binding.runtime).isExposed d.view = true ∧
            (l.deliver h t k points).2.host =
              (h (l.relay.channel k).binding.runtime d l.host).host) := by
  have hchannels := Relay.channels_begin t k l.relay
  have hstanding := Relay.standing_begin [] l.relay t k
  have hticket (ticket : Ticket) (hbegun : (l.relay.begin t k).1 = some ticket) :=
    Relay.channel_begin hbegun
  unfold deliver
  generalize l.relay.begin t k = result at hchannels hstanding hticket ⊢
  obtain ⟨ticket?, w⟩ := result
  dsimp only at hchannels hstanding
  cases ticket? with
  | none => exact .inl ⟨hchannels, rfl⟩
  | some ticket =>
    obtain rfl : ticket.channel = k := hticket ticket rfl
    have hchannel := Relay.channel_of_channels hchannels ticket.channel
    dsimp only
    unfold Relay.publish
    rw [hchannel]
    cases hpublish : (l.relay.channel ticket.channel).publish points with
    | error e => exact .inl ⟨hchannels, rfl⟩
    | ok result =>
      obtain ⟨d, written, x⟩ := result
      refine .inr ⟨d, written, x, rfl, ?_⟩
      dsimp only
      -- The relay in which the handler is called has the frame in the channel's buffer.
      generalize hv : (w.modifyChannel ticket.channel fun _ => x).count ticket.channel
        (Stats.noteWritten written.truncated) = v
      have hv_channels : v.channels = l.relay.channels.modify ticket.channel fun _ => x := by
        rw [← hv, ← hchannels]
        rfl
      have hv_standing : v.standing [] = l.relay.standing [] := by
        have hsame := Relay.standing_publish [] w ticket.channel points
        unfold Relay.publish at hsame
        rw [hchannel, hpublish] at hsame
        rw [← hv]
        exact hsame.trans hstanding
      have hbinding : (v.channel ticket.channel).binding =
          (l.relay.channel ticket.channel).binding :=
        congrArg Wiring.binding (Relay.wiring_of_standing hv_standing ticket.channel)
      have hcases := handle_cases h (l.withRelay v) ticket d
      simp only [withRelay, hbinding, hv_channels] at hcases
      refine ⟨hcases.1, hcases.2.imp_right ?_⟩
      rintro ⟨hexposed, hhost⟩
      refine ⟨?_, hhost⟩
      unfold Relay.runtime Runtime.isExposed at hexposed ⊢
      exact Relay.exposed_of_standing hv_standing _ ▸ hexposed

end Live

/-! ### Kinds of frames -/

/-- A frame that comes to the channel at place `k` is not dropped by a hand-off. -/
def Relay.keeps (k : Nat) (points : List Point) (w : Relay) : Bool :=
  (w.channel k).handoff.all fun q => (q.submit points).1 = .queued

namespace World

variable (e : Event) (w : World σ)

/-- The frame that a step takes to a camera, with the place of the camera. -/
def injected? : Option (Nat × List Point) :=
  match e with
  | .emit _ camera points => some (camera, points)
  | .wake i => (w.relay.session i).source?.bind fun source => (w.relay.wakeSource i source).1
  | _ => none

/-- The frame that a step takes to a channel, with the place of the channel. -/
def arrived? : Option (Nat × List Point) :=
  (w.injected? e).bind fun (camera, points) => (w.relay.listener? camera).map fun k => (k, points)

/-- The frame that a step takes to a channel and that is not dropped there. -/
def kept? : Option (Nat × List Point) :=
  (w.arrived? e).filter fun (k, points) => w.relay.keeps k points

/-- The frame that a step delivers, with the place of the channel. -/
def delivered? : Option (Nat × List Point) :=
  match e with
  | .dispatch k => (w.relay.takeQueued? k).map fun (points, _) => (k, points)
  | _ => (w.arrived? e).filter fun (k, _) => (w.relay.channel k).handoff.isNone

/-- The frame, if there is one and it concerns the channel at place `k`. -/
def onChannel (k : Nat) (frame? : Option (Nat × List Point)) : List (List Point) :=
  ((frame?.filter (·.1 = k)).map Prod.snd).toList

/-- The frames of one kind that concern a channel, in the course of a schedule. -/
def frames (pick : Event → World σ → Option (Nat × List Point)) (h : Handler σ) (k : Nat) :
    List Event → World σ → List (List Point)
  | [], _ => []
  | e :: es, w => onChannel k (pick e w) ++ frames pick h k es (w.step h e).2

@[simp] theorem onChannel_none (k : Nat) : onChannel k none = [] := rfl

theorem onChannel_some (j k : Nat) (points : List Point) :
    onChannel k (some (j, points)) = if j = k then [points] else [] := by
  by_cases hj : j = k <;> simp [onChannel, hj]

/-- The frames for a channel that pass a test. -/
theorem onChannel_filter (j k : Nat) (points : List Point) (p : Nat × List Point → Bool) :
    onChannel k ((some (j, points)).filter p) =
      if j = k ∧ p (j, points) = true then [points] else [] := by
  by_cases hp : p (j, points) = true <;> simp [Option.filter, hp, onChannel_some]

/-- The frames for a channel are at most one. -/
theorem mem_onChannel {k : Nat} {points : List Point} {frame? : Option (Nat × List Point)} :
    points ∈ onChannel k frame? ↔ frame? = some (k, points) := by
  rcases frame? with _ | ⟨j, points'⟩
  · simp
  · rw [onChannel_some, Option.some.injEq, Prod.mk.injEq]
    by_cases hj : j = k <;> simp [hj, eq_comm]

/-- Frames of two schedules, one after the other. -/
theorem frames_append (pick : Event → World σ → Option (Nat × List Point)) (h : Handler σ) (k : Nat)
    (es fs : List Event) (w : World σ) :
    frames pick h k (es ++ fs) w = frames pick h k es w ++ frames pick h k fs (w.run h es) := by
  induction es generalizing w with
  | nil => rfl
  | cons e es ih =>
    rw [List.cons_append, frames, frames, ih, List.append_assoc]
    rfl

end World

/-! ### Lanes -/

/-- The frames that wait in the hand-off of a channel, and whether anybody is there to take them. -/
def Channel.lane (x : Channel) : List (List Point) × Bool :=
  x.handoff.elim ([], true) fun q => (q.queue, q.alive)

theorem Channel.lane_of_some {x : Channel} {q : Handoff} (hq : x.handoff = some q) :
    x.lane = (q.queue, q.alive) := by
  simp [lane, hq]

namespace Relay

/-- The lane of the channel at a place. -/
def lane (k : Nat) (w : Relay) : List (List Point) × Bool := (w.channel k).lane

variable {v w : Relay} {k : Nat}

theorem lane_of_map (h : v.channels.map Channel.lane = w.channels.map Channel.lane) (k : Nat) :
    v.lane k = w.lane k := getD_of_map_eq h k default

theorem lane_of_channels (h : v.channels = w.channels) (k : Nat) : v.lane k = w.lane k :=
  lane_of_map (by rw [h]) k

/-- A change of one channel that its lane does not see. -/
theorem lane_of_modify {f : Channel → Channel} {j : Nat} (h : v.channels = w.channels.modify j f)
    (hf : ∀ x, w.channels[j]? = some x → (f x).lane = x.lane) (k : Nat) : v.lane k = w.lane k := by
  refine lane_of_map ?_ k
  rw [h, map_modify_of_eq hf]

/-- A channel gets another hand-off. -/
theorem lane_of_handoff {q q' : Handoff} (hq : (w.channel k).handoff = some q)
    (h : v.channels = w.channels.modify k fun x => { x with handoff := some q' }) (j : Nat) :
    v.lane j = if j = k then (q'.queue, q'.alive) else w.lane j := by
  have hk := (List.getElem?_eq_some_iff.mp (getElem?_of_handoff hq)).1
  have hchannel (j : Nat) : v.channel j =
      (w.modifyChannel k fun x => { x with handoff := some q' }).channel j := by
    unfold channel modifyChannel
    rw [h]
  unfold lane
  rw [hchannel]
  by_cases hj : j = k
  · subst hj
    rw [if_pos rfl, channel_modifyChannel _ _ _ hk]
    rfl
  · rw [if_neg hj, channel_modifyChannel_of_ne _ _ (Ne.symm hj)]

/-- A new channel has nothing in its lane. -/
theorem lane_of_append {x : Channel} (h : v.channels = w.channels ++ [x])
    (hx : x.lane = ([], true)) (k : Nat) : v.lane k = w.lane k := by
  unfold lane channel
  rw [h, List.getD_eq_getElem?_getD, List.getD_eq_getElem?_getD]
  by_cases hk : k < w.channels.length
  · rw [List.getElem?_append_left hk]
  · rw [List.getElem?_eq_none (Nat.le_of_not_lt hk)]
    cases hx' : (w.channels ++ [x])[k]? with
    | none => rfl
    | some y =>
      -- Only the new channel can be there.
      rw [List.getElem?_append_right (Nat.le_of_not_lt hk)] at hx'
      obtain rfl := List.mem_singleton.mp (List.mem_of_getElem? hx')
      exact hx

/-- Nothing waits in a new channel. -/
theorem lane_newChannel (i : Nat) (b : FrameBuffer) (w : Relay) :
    (w.newChannel i b).lane = ([], true) := by
  unfold newChannel Channel.lane
  dsimp only
  cases (w.session i).settings.delivery <;> rfl

/-- Operations open channels, and change none. -/
theorem perform_channels {closing : List Nat} {i : Nat} {s : Session} (op : Operation)
    (hcustody : Custody (w.standing closing)) (hs : w.sessions[i]? = some s) :
    (op.perform i w).2.channels = w.channels ∨
      ∃ d key address b, op = .openCamera d key address ∧ s.state = .closed ∧
        FrameBuffer.ofCapacity address s.settings.maxPoints.toNat = .ok b ∧
        (op.perform i w).2.channels = w.channels ++ [w.newChannel i b] := by
  obtain ⟨hclosed, hfound⟩ := of_custody hcustody hs
  have hcases := perform_cases op hs hclosed hfound
  generalize op.perform i w = result at hcases ⊢
  obtain ⟨answer, v⟩ := result
  dsimp only at hcases ⊢
  generalize answer.failed = failed at hcases
  cases hcases with
  | opened d key address p c rate b r target found closed still rated room exposed =>
    exact .inr ⟨d, key, address, b, rfl, closed, room, rfl⟩
  | stopped o c held found state =>
    refine .inl ?_
    cases o.device.source <;> rfl
  | _ => exact .inl rfl

theorem channels_exitSource (source : Option Source) (w : Relay) :
    (w.exitSource source).channels = w.channels := by
  cases source <;> rfl

/-- What an operation of the session `s` does to hosts and to the threads that are attached to
    them. -/
inductive Hosted (w : Relay) (s : Session) (v : Relay) : Prop
  | kept (attachments : v.attachments = w.attachments) (runtimes : v.runtimes = w.runtimes)
  | exposing (b : FrameBuffer) (r : Runtime)
      (exposed : (w.runtime s.runtime).expose b.view = .ok r)
      (attachments : v.attachments = w.attachments)
      (runtimes : v.runtimes = w.runtimes.set s.runtime r)
  | ended (source : Option Source) (attachments : v.attachments = (w.exitSource source).attachments)
      (runtimes : v.runtimes = (w.exitSource source).runtimes)

/-- Openings expose buffers, the end of a capture ends a source, and other operations do not concern
    hosts. -/
theorem perform_hosted {closing : List Nat} {i : Nat} {s : Session} (op : Operation)
    (hcustody : Custody (w.standing closing)) (hs : w.sessions[i]? = some s) :
    Hosted w s (op.perform i w).2 := by
  obtain ⟨hclosed, hfound⟩ := of_custody hcustody hs
  have hcases := perform_cases op hs hclosed hfound
  generalize (op.perform i w).2 = v at hcases ⊢
  generalize (op.perform i w).1.failed = failed at hcases
  cases hcases with
  | opened d key address p c rate b r target found closed still rated room exposed =>
    refine .exposing b r exposed rfl ?_
    show w.runtimes.set (w.session i).runtime r = _
    rw [session_eq hs]
  | stopped o c held found state =>
    rw [exitSource_update]
    exact .ended o.device.source rfl rfl
  | _ => exact .kept rfl rfl

/-- A frame source that wakes up changes no channel. -/
theorem channels_wakeSource (i : Nat) (source : Source) (w : Relay) :
    (w.wakeSource i source).2.channels = w.channels := by
  unfold wakeSource
  dsimp only
  split
  · split <;> rfl
  · rfl

theorem channels_crashSource (run : Nat) (w : Relay) :
    (w.crashSource run).channels = w.channels := by
  unfold crashSource
  cases w.sessions.findIdx? fun s => s.source?.any (·.run == run) <;> rfl

end Relay

/-! ### What a step does -/

/-- The delivery of a frame that a channel makes, unless it refuses the frame. -/
def Channel.delivery? (points : List Point) (x : Channel) : Option Delivery :=
  match x.publish points with
  | .ok (d, _, _) => some d
  | .error _ => none

/-- A frame can be delivered exactly if it can be published. -/
theorem Channel.delivery?_eq_some {points : List Point} {x : Channel} {d : Delivery} :
    x.delivery? points = some d ↔ ∃ written y, x.publish points = .ok (d, written, y) := by
  unfold delivery?
  cases x.publish points with
  | error e => simp
  | ok result => simp [Prod.ext_iff]

/-- What waits in the hand-off does not matter for a delivery. -/
theorem Channel.delivery?_handoff (points : List Point) (q : Option Handoff) (x : Channel) :
    ({ x with handoff := q } : Channel).delivery? points = x.delivery? points := by
  unfold delivery? publish
  cases x.buffer.write points x.policy <;> rfl

/-- What the hosts remember after a frame of the channel at place `k` was delivered. -/
inductive Called (h : Handler σ) (l : Live σ) (k : Nat) (points : List Point) (host : σ) : Prop
  | not (kept : host = l.host)
  | called (d : Delivery) (delivery : (l.relay.channel k).delivery? points = some d)
      (exposed : (l.relay.runtime (l.relay.channel k).binding.runtime).isExposed d.view = true)
      (answered : host = (h (l.relay.channel k).binding.runtime d l.host).host)

/-- Deliveries look only at the channel, without its hand-off, and at the hosts. -/
theorem Called.congr {h : Handler σ} {l l' : Live σ} {k : Nat} {points : List Point} {host : σ}
    {q : Option Handoff} (hcalled : Called h l' k points host) (hhost : l'.host = l.host)
    (hchannel : l'.relay.channel k = { l.relay.channel k with handoff := q })
    (hruntimes : l'.relay.runtimes = l.relay.runtimes) : Called h l k points host := by
  cases hcalled with
  | not kept => exact .not (kept.trans hhost)
  | called d delivery exposed answered =>
    simp only [hchannel, Relay.runtime, hruntimes, hhost, Channel.delivery?_handoff]
      at delivery exposed answered
    exact .called d delivery exposed answered

/-- Everything that a step can do to lanes and hosts.  The frame that comes to a channel and the one
    that is delivered are named. -/
inductive Passage (h : Handler σ) (l v : Live σ) :
    Option (Nat × List Point) → Option (Nat × List Point) → Prop
  | idle (host : v.host = l.host) (lanes : ∀ k, v.relay.lane k = l.relay.lane k) :
      Passage h l v none none
  /-- A frame is left in a hand-off, or dropped there. -/
  | left (k : Nat) (points : List Point) (q : Handoff)
      (queued : (l.relay.channel k).handoff = some q) (host : v.host = l.host)
      (lanes : ∀ j, v.relay.lane j =
        if j = k then ((q.submit points).2.queue, (q.submit points).2.alive)
        else l.relay.lane j) :
      Passage h l v (some (k, points)) none
  | direct (k : Nat) (points : List Point)
      (direct : (l.relay.channel k).handoff = none) (called : Called h l k points v.host)
      (lanes : ∀ j, v.relay.lane j = l.relay.lane j) :
      Passage h l v (some (k, points)) (some (k, points))
  /-- A dispatch thread takes a frame, and may be lost with all that waits. -/
  | dispatched (k : Nat) (points : List Point) (rest : List (List Point))
      (lane : l.relay.lane k = (points :: rest, true)) (called : Called h l k points v.host)
      (lanes : ∀ j, j ≠ k → v.relay.lane j = l.relay.lane j)
      (after : v.relay.lane k = (rest, true) ∨ v.relay.lane k = ([], false)) :
      Passage h l v none (some (k, points))

namespace Passage

variable {h : Handler σ} {l l' v v' : Live σ} {arrived delivered : Option (Nat × List Point)}

/-- Only channels and hosts matter. -/
theorem congr (hpassage : Passage h l' v arrived delivered) (hhost : l'.host = l.host)
    (hchannels : l'.relay.channels = l.relay.channels)
    (hruntimes : l'.relay.runtimes = l.relay.runtimes) : Passage h l v arrived delivered := by
  have hlane (k : Nat) : l'.relay.lane k = l.relay.lane k := Relay.lane_of_channels hchannels k
  have hchannel := Relay.channel_of_channels hchannels
  cases hpassage with
  | idle host lanes => exact .idle (host.trans hhost) fun k => (lanes k).trans (hlane k)
  | left k points q queued host lanes =>
    refine .left k points q (hchannel k ▸ queued) (host.trans hhost) ?_
    intro j
    rw [← hlane j]
    exact lanes j
  | direct k points direct called lanes =>
    exact .direct k points (hchannel k ▸ direct) (called.congr hhost (hchannel k) hruntimes)
      fun j => (lanes j).trans (hlane j)
  | dispatched k points rest lane called lanes after =>
    exact .dispatched k points rest (hlane k ▸ lane) (called.congr hhost (hchannel k) hruntimes)
      (fun j hj => (lanes j hj).trans (hlane j)) after

/-- Nothing else happens afterwards. -/
theorem trans (hpassage : Passage h l v arrived delivered) (hhost : v'.host = v.host)
    (hchannels : v'.relay.channels = v.relay.channels) : Passage h l v' arrived delivered := by
  have hlane (k : Nat) : v'.relay.lane k = v.relay.lane k := Relay.lane_of_channels hchannels k
  cases hpassage with
  | idle host lanes => exact .idle (hhost.trans host) fun k => (hlane k).trans (lanes k)
  | left k points q queued host lanes =>
    exact .left k points q queued (hhost.trans host) fun j => (hlane j).trans (lanes j)
  | direct k points direct called lanes =>
    exact .direct k points direct (hhost ▸ called) fun j => (hlane j).trans (lanes j)
  | dispatched k points rest lane called lanes after =>
    exact .dispatched k points rest lane (hhost ▸ called)
      (fun j hj => (hlane j).trans (lanes j hj)) (hlane k ▸ after)

end Passage

namespace Live

variable (h : Handler σ) (l : Live σ)

/-- A delivery leaves lanes alone. -/
theorem deliver_passage (t : ThreadId) (k : Nat) (points : List Point) :
    Called h l k points (l.deliver h t k points).2.host ∧
      (l.deliver h t k points).2.relay.channels.map Channel.handoff =
        l.relay.channels.map Channel.handoff := by
  rcases deliver_cases h l t k points with ⟨hchannels, hhost⟩ | ⟨d, written, x, hpublish, hchannels, hhost⟩
  · rw [hchannels]
    exact ⟨.not hhost, rfl⟩
  · constructor
    · have hdelivery : (l.relay.channel k).delivery? points = some d :=
        Channel.delivery?_eq_some.mpr ⟨_, _, hpublish⟩
      rcases hhost with hhost | ⟨hexposed, hhost⟩
      · exact .not hhost
      · exact .called d hdelivery hexposed hhost
    · rw [hchannels, map_modify_of_eq]
      intro y hy
      rw [Relay.channel_eq hy] at hpublish
      obtain ⟨b, -, -, rfl⟩ := Channel.publish_eq_ok.mp hpublish
      rfl

/-- The lane of a channel depends on its hand-off only. -/
theorem lane_of_handoffs {v w : Relay}
    (h : v.channels.map Channel.handoff = w.channels.map Channel.handoff) (k : Nat) :
    v.lane k = w.lane k := by
  have hhandoff : (v.channel k).handoff = (w.channel k).handoff := getD_of_map_eq h k default
  unfold Relay.lane Channel.lane
  rw [hhandoff]

/-- An injected frame. -/
theorem emit_passage (t : ThreadId) (p : Nat) (points : List Point) :
    Passage h l (l.emit h t p points).2 ((l.relay.listener? p).map fun k => (k, points))
      (((l.relay.listener? p).map fun k => (k, points)).filter fun (k, _) =>
        (l.relay.channel k).handoff.isNone) := by
  unfold emit
  cases hk : l.relay.listener? p with
  | none =>
    rw [Relay.offer_of_none hk]
    exact .idle rfl fun _ => rfl
  | some k =>
    obtain ⟨c, hc, hcapturing, hlistener⟩ := Relay.listener?_eq_some.mp hk
    rw [Relay.offer_of_some hc hcapturing hlistener]
    -- Only the camera's own count has changed before the frame comes to the channel.
    generalize hv : ({ l.relay with
      cameras := l.relay.cameras.set p { c with emitted := c.emitted + 1 } } : Relay) = v
    have hchannels : v.channels = l.relay.channels := by rw [← hv]
    have hchannel := Relay.channel_of_channels hchannels k
    have hruntimes : v.runtimes = l.relay.runtimes := by rw [← hv]
    dsimp only [Option.map_some]
    rw [hchannel]
    cases hq : (l.relay.channel k).handoff with
    | some q =>
      have hnone : (some (k, points)).filter
          (fun (x : Nat × List Point) => (l.relay.channel x.1).handoff.isNone) = none := by
        simp [hq]
      rw [hnone]
      refine .left k points q hq rfl ?_
      have hsubmit : (v.submit k q points).channels =
          l.relay.channels.modify k fun x => { x with handoff := some (q.submit points).2 } := by
        rw [← hchannels]
        unfold Relay.submit
        rcases q.submit points with ⟨_ | _, q'⟩ <;> rfl
      exact Relay.lane_of_handoff hq hsubmit
    | none =>
      have hsome : (some (k, points)).filter
          (fun (x : Nat × List Point) => (l.relay.channel x.1).handoff.isNone) =
          some (k, points) := by
        simp [hq]
      rw [hsome]
      obtain ⟨hcalled, hhandoffs⟩ := deliver_passage h (l.withRelay v) t k points
      have hlanes (j : Nat) : ((l.withRelay v).deliver h t k points).2.relay.lane j =
          l.relay.lane j :=
        (lane_of_handoffs hhandoffs j).trans (Relay.lane_of_channels hchannels j)
      have hcalled' : Called h l k points ((l.withRelay v).deliver h t k points).2.host :=
        hcalled.congr rfl hchannel hruntimes
      dsimp only
      generalize (l.withRelay v).deliver h t k points = result at hlanes hcalled' ⊢
      obtain ⟨answer, l'⟩ := result
      cases answer <;> exact .direct k points hq hcalled' hlanes

/-- A dispatch thread. -/
theorem dispatch_passage (k : Nat) :
    Passage h l (l.dispatch h k) none
      ((l.relay.takeQueued? k).map fun (points, _) => (k, points)) := by
  unfold dispatch
  cases htake : l.relay.takeQueued? k with
  | none => exact .idle rfl fun _ => rfl
  | some taken =>
    obtain ⟨points, v⟩ := taken
    obtain ⟨⟨points', q'⟩, hq', hv⟩ := Option.map_eq_some_iff.mp htake
    obtain ⟨rfl, rfl⟩ := Prod.mk.inj hv
    obtain ⟨q, hq, htaken⟩ := Option.bind_eq_some_iff.mp hq'
    have halive : q.alive = true := by
      unfold Handoff.take? at htaken
      split at htaken
      · assumption
      · exact absurd htaken (by simp)
    obtain ⟨-, rest, hqueue, rfl⟩ := Handoff.of_take? htaken
    have hlt := (List.getElem?_eq_some_iff.mp (Relay.getElem?_of_handoff hq)).1
    -- The hand-off from which the frame has been taken.
    generalize hq' : ({ q with queue := rest, sinking := true } : Handoff) = q'
    have hqueue' : q'.queue = rest := by rw [← hq']
    have halive' : q'.alive = true := by
      rw [← hq']
      exact halive
    generalize hv : (l.relay.modifyChannel k fun x => { x with handoff := some q' }) = v
    have hlanes (j : Nat) (hj : j ≠ k) : v.lane j = l.relay.lane j := by
      rw [← hv]
      exact (Relay.lane_of_handoff hq rfl j).trans (if_neg hj)
    have hchannel : v.channel k = { l.relay.channel k with handoff := some q' } := by
      rw [← hv]
      exact Relay.channel_modifyChannel k _ l.relay hlt
    have hruntimes : v.runtimes = l.relay.runtimes := by
      rw [← hv]
      rfl
    obtain ⟨hcalled, hhandoffs⟩ := deliver_passage h (l.withRelay v) (.dispatch k) k points'
    have hcalled' :
        Called h l k points' ((l.withRelay v).deliver h (.dispatch k) k points').2.host :=
      hcalled.congr rfl hchannel hruntimes
    dsimp only [Option.map_some]
    generalize (l.withRelay v).deliver h (.dispatch k) k points' = result at hhandoffs hcalled' ⊢
    obtain ⟨answer, l'⟩ := result
    dsimp only at hhandoffs hcalled'
    -- After the delivery the hand-off is as the thread has left it when it took the frame.
    have hleft : (l'.relay.channel k).handoff = some q' := by
      have hsame : (l'.relay.channel k).handoff = (v.channel k).handoff :=
        getD_of_map_eq hhandoffs k default
      rw [hsame, hchannel]
    have hothers (j : Nat) (hj : j ≠ k) : l'.relay.lane j = l.relay.lane j := by
      rw [lane_of_handoffs hhandoffs j]
      exact hlanes j hj
    have hl' := Relay.getElem?_of_handoff hleft
    have hlane : l.relay.lane k = (points' :: rest, true) := by
      unfold Relay.lane
      rw [Channel.lane_of_some hq, hqueue, halive]
    have hdone (f : Handoff → Handoff) (j : Nat) :
        (l'.relay.modifyChannel k fun c => { c with handoff := c.handoff.map f }).lane j =
          if j = k then ((f q').queue, (f q').alive) else l'.relay.lane j := by
      refine Relay.lane_of_handoff hleft ?_ j
      show l'.relay.channels.modify k _ = _
      rw [modify_of_getElem? _ hl', modify_of_getElem? _ hl', hleft]
      rfl
    cases answer with
    | ok _ =>
      refine .dispatched k points' rest hlane hcalled' ?_ (.inl ?_)
      · intro j hj
        exact (hdone Handoff.complete j).trans ((if_neg hj).trans (hothers j hj))
      · refine (hdone Handoff.complete k).trans ((if_pos rfl).trans ?_)
        rw [← hqueue', ← halive']
        rfl
    | error a =>
      refine .dispatched k points' rest hlane hcalled' ?_ (.inr ?_)
      · intro j hj
        exact (hdone Handoff.crash j).trans ((if_neg hj).trans (hothers j hj))
      · exact (hdone Handoff.crash k).trans (if_pos rfl)

end Live

namespace World

variable (h : Handler σ) {w : World σ}

/-- A step that is no frame's. -/
theorem passage_of_lanes {e : Event} (harrived : w.injected? e = none)
    (hdelivered : ∀ k, e ≠ .dispatch k) {v : Live σ} (hhost : v.host = w.host)
    (hlanes : ∀ k, v.relay.lane k = w.relay.lane k) :
    Passage h w.toLive v (w.arrived? e) (w.delivered? e) := by
  have hnone : w.arrived? e = none := by simp [arrived?, harrived]
  have hnone' : w.delivered? e = none := by
    unfold delivered?
    split
    · next k => exact absurd rfl (hdelivered k)
    · simp [hnone]
  rw [hnone, hnone']
  exact .idle hhost hlanes

/-- What a source that wakes up injects is its frame. -/
theorem injected?_wake {i : Nat} {source : Source}
    (hsource : (w.relay.session i).source? = some source) :
    w.injected? (.wake i) = (w.relay.wakeSource i source).1 := by
  simp [injected?, hsource]

/-- **A frame that a source produces** finds the listener and the hand-off that were there before
    the source has woken up. -/
theorem frame_of_wakeSource {i p : Nat} {source : Source} {points : List Point} {v : Relay}
    (hsource : (w.relay.session i).source? = some source)
    (hwake : w.relay.wakeSource i source = (some (p, points), v)) :
    w.arrived? (.wake i) = (v.listener? p).map (fun k => (k, points)) ∧
      w.delivered? (.wake i) =
        ((v.listener? p).map fun k => (k, points)).filter
          fun (k, _) => (v.channel k).handoff.isNone := by
  obtain ⟨-, hcameras, hchannels, -⟩ := Relay.wakeSource_some hwake
  have harrived : w.arrived? (.wake i) = (v.listener? p).map fun k => (k, points) := by
    unfold arrived?
    rw [injected?_wake hsource, hwake, Option.bind_some, Relay.listener?_of_cameras hcameras]
  refine ⟨harrived, ?_⟩
  unfold delivered? Relay.channel
  rw [harrived, hchannels]

/-- A frame source that wakes up, and may produce a frame. -/
theorem wake_passage {i : Nat} {source : Source} (hsource : (w.relay.session i).source? = some source) :
    Passage h w.toLive (w.toLive.wake h i source) (w.arrived? (.wake i))
      (w.delivered? (.wake i)) := by
  have hinjected := injected?_wake hsource
  have hchannels := Relay.channels_wakeSource i source w.relay
  unfold Live.wake
  cases hwake : w.relay.wakeSource i source with
  | mk produced v =>
    rw [hwake] at hinjected hchannels
    cases produced with
    | none => exact passage_of_lanes h hinjected (by simp) rfl (Relay.lane_of_channels hchannels)
    | some frame =>
      obtain ⟨p, points⟩ := frame
      obtain ⟨-, -, -, hruntimes⟩ := Relay.wakeSource_some hwake
      obtain ⟨harrived, hdelivered⟩ := frame_of_wakeSource hsource hwake
      have hpassage := Live.emit_passage h (w.toLive.withRelay v) (.source source.run) p points
      rw [harrived, hdelivered]
      have hwhole := hpassage.congr (l := w.toLive) rfl hchannels hruntimes
      dsimp only
      generalize (w.toLive.withRelay v).emit h (.source source.run) p points = result at hwhole ⊢
      obtain ⟨answer, l'⟩ := result
      cases answer with
      | ok _ => exact hwhole
      | error a => exact hwhole.trans rfl (Relay.channels_crashSource _ _)

/-- **What a step can do** to lanes and hosts. -/
theorem step_passage (e : Event) (hcustody : Custody w.standing) :
    Passage h w.toLive (w.step h e).2.toLive (w.arrived? e) (w.delivered? e) := by
  cases e with
  | operate i op =>
    rcases w.step_operate_cases h i op with hsame | ⟨hi, -, hafter⟩
    · rw [hsame]
      exact passage_of_lanes h rfl (by simp) rfl fun _ => rfl
    · rw [hafter]
      refine passage_of_lanes h rfl (by simp) rfl ?_
      rcases Relay.perform_channels op hcustody (List.getElem?_eq_getElem hi) with
        hsame | ⟨-, -, address, b, -, -, -, hnew⟩
      · exact Relay.lane_of_channels hsame
      · exact Relay.lane_of_append hnew (Relay.lane_newChannel i b w.relay)
  | beginClose i =>
    rcases step_beginClose_cases h hcustody i with hsame | ⟨s, o, c, hs, ho, hc, hafter⟩
    · rw [hsame]
      exact passage_of_lanes h rfl (by simp) rfl fun _ => rfl
    · rw [hafter]
      refine passage_of_lanes h rfl (by simp) rfl ?_
      -- The hand-off takes no more frames, but keeps those that wait.
      have hchannels : (w.relay.beginClose i).channels = w.relay.channels.modify o.channel
          fun x => { x with handoff := x.handoff.map Handoff.close } := by
        rw [Relay.beginClose_eq hs ho hc]
        show ((w.relay.exitSource _).channels).modify _ _ = _
        rw [Relay.channels_exitSource]
      refine Relay.lane_of_modify hchannels ?_
      intro x _
      unfold Channel.lane
      cases x.handoff <;> rfl
  | endClose i =>
    rcases step_endClose_cases h hcustody i with hsame | ⟨-, -, s, o, c, hs, ho, hc, hafter⟩
    · rw [hsame]
      exact passage_of_lanes h rfl (by simp) rfl fun _ => rfl
    · rw [hafter]
      refine passage_of_lanes h rfl (by simp) rfl (Relay.lane_of_channels ?_)
      show (w.relay.endClose i).channels = w.relay.channels
      rw [Relay.endClose_eq hs ho hc]
      exact Relay.channels_exitSource _ _
  | emit worker camera points =>
    exact Live.emit_passage h w.toLive (.worker worker) camera points
  | dispatch k => exact Live.dispatch_passage h w.toLive k
  | wake i =>
    unfold step
    dsimp only
    cases hsource : (w.relay.session i).source? with
    | none =>
      exact passage_of_lanes h (by simp [injected?, hsource]) (by simp) rfl fun _ => rfl
    | some source => exact wake_passage h hsource
  | fail camera op s => exact passage_of_lanes h rfl (by simp) rfl fun _ => rfl
  | clearFaults camera => exact passage_of_lanes h rfl (by simp) rfl fun _ => rfl
  | disableAttach r on => exact passage_of_lanes h rfl (by simp) rfl fun _ => rfl
  | refuseBuffers r fault => exact passage_of_lanes h rfl (by simp) rfl fun _ => rfl
  | exitWorker worker => exact passage_of_lanes h rfl (by simp) rfl fun _ => rfl
  | pass nanos => exact passage_of_lanes h rfl (by simp) rfl fun _ => rfl

/-! ### The order of frames -/

/-- Only a hand-off with a thread takes frames. -/
theorem alive_of_submit {points : List Point} {q : Handoff}
    (h : (q.submit points).1 = .queued) : q.alive = true := by
  unfold Handoff.submit Handoff.claim? at h
  by_cases hfree : q.free = 0
  · rw [if_pos hfree] at h
    exact absurd h (by simp)
  · rw [if_neg hfree] at h
    dsimp only at h
    unfold Handoff.enqueue at h
    split at h
    · next hgoes => simp_all
    · exact absurd h (by simp)

/-- The lane of a channel after a step: what waits and what comes is delivered or waits, unless the
    dispatch thread is lost. -/
theorem step_lane (e : Event) (hcustody : Custody w.standing) (k : Nat) :
    ((w.step h e).2.relay.lane k).2 = (w.relay.lane k).2 ∧
        (w.relay.lane k).1 ++ onChannel k (w.kept? e) =
          onChannel k (w.delivered? e) ++ ((w.step h e).2.relay.lane k).1 ∧
        ((w.relay.lane k).2 = false → onChannel k (w.kept? e) = []) ∨
      (w.step h e).2.relay.lane k = ([], false) ∧ (w.relay.lane k).2 = true ∧
        onChannel k (w.delivered? e) <+: (w.relay.lane k).1 ∧ onChannel k (w.kept? e) = [] := by
  -- All follows from what a step does to the queue.
  have hpassage := step_passage h e hcustody
  unfold kept?
  generalize w.arrived? e = arrived, w.delivered? e = delivered at hpassage ⊢
  cases hpassage with
  | idle host lanes => simp [lanes k]
  | left j points q queued host lanes =>
    rw [onChannel_filter, lanes k, onChannel_none]
    by_cases hj : j = k
    · subst hj
      have hlane : w.relay.lane j = (q.queue, q.alive) := Channel.lane_of_some queued
      have hkeeps : w.relay.keeps j points = decide ((q.submit points).1 = .queued) := by
        simp [Relay.keeps, queued]
      simp only [hkeeps, hlane]
      -- A hand-off that takes the frame appends it; one that does not stays as it is.
      rcases q.submit_queue points with ⟨q', hsubmit, hqueue, halive⟩ |
        ⟨q', hsubmit, hqueue, halive⟩
      · have hstatus : q.alive = true := alive_of_submit (congrArg Prod.fst hsubmit)
        simp [hsubmit, hqueue, halive, hstatus]
      · simp [hsubmit, hqueue, halive]
    · simp [hj, Ne.symm hj]
  | direct j points direct called lanes =>
    have hlane : w.relay.lane j = ([], true) := by simp [Relay.lane, Channel.lane, direct]
    have hkeeps : w.relay.keeps j points = true := by simp [Relay.keeps, direct]
    rw [onChannel_filter, onChannel_some, lanes k]
    by_cases hj : j = k
    · subst hj
      simp [hkeeps, hlane]
    · simp [hj]
  | dispatched j points rest lane called lanes after =>
    rw [onChannel_some]
    by_cases hj : j = k
    · subst hj
      -- The thread goes on with what is left, or is lost with all of it.
      rcases after with hrest | hlost
      · simp [lane, hrest]
      · simp [lane, hlost]
    · simp [hj, lanes k (Ne.symm hj)]

/-- Frames are delivered on channels that are there. -/
theorem channel_of_delivered? {e : Event} (hcustody : Custody w.standing) {k : Nat}
    {points : List Point} (hdelivered : w.delivered? e = some (k, points)) :
    ∃ x, w.relay.channels[k]? = some x := by
  have harrived (harrived : w.arrived? e = some (k, points)) :
      ∃ x, w.relay.channels[k]? = some x := by
    obtain ⟨⟨p, points'⟩, -, hfound⟩ := Option.bind_eq_some_iff.mp harrived
    obtain ⟨k', hk, hkeq⟩ := Option.map_eq_some_iff.mp hfound
    obtain rfl := congrArg Prod.fst hkeq
    exact ⟨_, List.getElem?_eq_getElem (Relay.listener_lt hcustody hk)⟩
  unfold delivered? at hdelivered
  split at hdelivered
  · obtain ⟨⟨points', v⟩, htake, hkeq⟩ := Option.map_eq_some_iff.mp hdelivered
    obtain rfl := congrArg Prod.fst hkeq
    obtain ⟨⟨_, _⟩, hq, -⟩ := Option.map_eq_some_iff.mp htake
    obtain ⟨q, hq, -⟩ := Option.bind_eq_some_iff.mp hq
    exact ⟨_, Relay.getElem?_of_handoff hq⟩
  · exact harrived (Option.filter_eq_some_iff.mp hdelivered).1

/-- A channel whose dispatch thread is lost keeps and delivers nothing. -/
theorem frames_of_lost (events : List Event) (hcustody : Custody w.standing) {k : Nat}
    (hlost : w.relay.lane k = ([], false)) :
    frames kept? h k events w = [] ∧ frames delivered? h k events w = [] := by
  induction events generalizing w with
  | nil => exact ⟨rfl, rfl⟩
  | cons e events ih =>
    have hcustody' := hcustody.shift (step_shift h e hcustody)
    rcases step_lane h e hcustody k with ⟨halive, hqueue, hnone⟩ | ⟨-, halive, -⟩
    · rw [hlost] at halive hqueue hnone
      have hkept := hnone rfl
      rw [hkept] at hqueue
      obtain ⟨hdelivered, hrest⟩ := List.append_eq_nil_iff.mp hqueue.symm
      obtain ⟨hkept', hdelivered'⟩ := ih hcustody' (Prod.ext hrest halive)
      unfold frames
      rw [hkept, hdelivered, hkept', hdelivered']
      exact ⟨rfl, rfl⟩
    · rw [hlost] at halive
      exact absurd halive (by simp)

/-- **Frames are delivered in the order in which they came**, each at most once: first those that
    wait already, then those that are kept. -/
theorem delivered_prefix (events : List Event) (hcustody : Custody w.standing) (k : Nat) :
    frames delivered? h k events w <+:
      (w.relay.lane k).1 ++ frames kept? h k events w := by
  induction events generalizing w with
  | nil => exact List.nil_prefix
  | cons e events ih =>
    have hcustody' := hcustody.shift (step_shift h e hcustody)
    unfold frames
    rcases step_lane h e hcustody k with ⟨-, hqueue, -⟩ | ⟨hlost, -, hdelivered, hkept⟩
    · rw [← List.append_assoc, hqueue, List.append_assoc]
      exact (List.prefix_append_right_inj _).mpr (ih hcustody')
    · obtain ⟨-, hnone⟩ := frames_of_lost h events hcustody' hlost
      rw [hnone, hkept, List.append_nil, List.nil_append]
      exact hdelivered.trans (List.prefix_append _ _)

/-- The frame that a step delivers is the next one of those that its channel has kept. -/
theorem delivered_next (events : List Event) (e : Event) (hcustody : Custody w.standing) {k : Nat}
    {points : List Point} (hempty : (w.relay.lane k).1 = [])
    (hdelivered : (w.run h events).delivered? e = some (k, points)) :
    (frames kept? h k (events ++ [e]) w)[(frames delivered? h k events w).length]? =
      some points := by
  have hprefix := delivered_prefix h (events ++ [e]) hcustody k
  have hlast : frames delivered? h k [e] (w.run h events) = [points] := by
    simp [frames, hdelivered, onChannel_some]
  rw [frames_append delivered?, hlast, hempty, List.nil_append] at hprefix
  obtain ⟨rest, hrest⟩ := hprefix
  simp [← hrest]

end World

end DepthRelay
