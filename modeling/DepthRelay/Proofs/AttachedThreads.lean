import DepthRelay.Proofs.Closing

namespace DepthRelay

/-!
# Who is attached to a host

A host counts the threads that come and those that go, and whoever has come and not gone is
attached. A step attaches at most the one thread that delivers its frame, whatever handlers do.

* `Relay.Level` — a host has seen as many detaches as attaches, those threads apart that are
  attached.
* `Relay.Attends` — attachments change in nothing but threads that end and one that may attach.
* `Relay.begin_attends`, `Live.deliver_attends` — the threads that deliver.
* `World.step_attends` — any step.
-/

variable {σ : Type}

namespace Relay

/-- The host at place `n` has seen a detach for each attach, or the thread is attached to it. -/
def Level (n : Nat) (w : Relay) : Prop := (w.runtime n).attaches = w.dues n

/-- Who is attached, and what hosts have counted of that. -/
def roll (w : Relay) : Attachments × List (Nat × Nat) :=
  (w.attachments, w.runtimes.map fun r => (r.attaches, r.detaches))

/-- The relay `v` differs from `w`, as far as attachments go, in nothing but threads that have ended
    and the thread `who`, with the place of its host, that may have attached. -/
structure Attends (who : Option (ThreadId × Nat)) (w v : Relay) : Prop where
  hosts : v.runtimes.length = w.runtimes.length
  attached : ∀ a ∈ v.attachments, a ∈ w.attachments ∨ who = some (a.thread, a.runtime)
  level : ∀ n < w.runtimes.length, w.Level n → v.Level n

variable {u v w : Relay} {who : Option (ThreadId × Nat)}

/-- Only the roll matters for whether a host is level. -/
theorem Level.of_roll {n : Nat} (hw : w.Level n) (h : v.roll = w.roll) : v.Level n := by
  have hcounts : ((v.runtime n).attaches, (v.runtime n).detaches) =
      ((w.runtime n).attaches, (w.runtime n).detaches) :=
    getD_of_map_eq (congrArg Prod.snd h) n default
  obtain ⟨hattaches, hdetaches⟩ := Prod.mk.inj hcounts
  have hattachments : v.attachments = w.attachments := congrArg Prod.fst h
  unfold Level dues at hw ⊢
  rw [hattaches, hdetaches, hattachments]
  exact hw

namespace Attends

/-- A step that leaves the roll alone attaches nobody. -/
theorem of_roll (h : v.roll = w.roll) : Attends who w v where
  hosts := by
    have hcounts := congrArg (List.length ∘ Prod.snd) h
    simpa [roll] using hcounts
  attached := by
    have hsame : v.attachments = w.attachments := congrArg Prod.fst h
    exact fun a ha => .inl (hsame ▸ ha)
  level := fun _ _ hw => hw.of_roll h

theorem trans (hwv : Attends who w v) (hvu : Attends who v u) : Attends who w u where
  hosts := hvu.hosts.trans hwv.hosts
  attached := fun a ha => (hvu.attached a ha).elim (hwv.attached a) .inr
  level := fun n hn hw => hvu.level n (hwv.hosts ▸ hn) (hwv.level n hn hw)

/-- Nobody has to attach. -/
theorem weaken (h : Attends none w v) : Attends who w v where
  hosts := h.hosts
  attached := fun a ha => (h.attached a ha).imp_right fun hnone => nomatch hnone
  level := h.level

end Attends

/-! ### Threads that end -/

/-- A thread that ends detaches from all its hosts. -/
theorem attends_exitThread (t : ThreadId) (w : Relay) : Attends who w (w.exitThread t) where
  hosts := length_runtimes_exitThread t w
  attached := fun _ ha => .inl (thread_of_mem_exitThread ha).1
  level := by
    intro n hn hw
    have hattaches : ((w.exitThread t).runtime n).attaches = (w.runtime n).attaches := by
      refine getD_of_map_eq (f := Runtime.attaches) ?_ n default
      rw [exitThread_eq]
      exact map_exit (fun _ => rfl) t w.attachments w.runtimes
    exact (hattaches.trans hw).trans (dues_exitThread t hn).symm

/-- A frame source that goes takes along its own attachments only. -/
theorem attends_exitSource (source : Option Source) (w : Relay) :
    Attends who w (w.exitSource source) := by
  cases source with
  | none => exact .of_roll rfl
  | some s => exact attends_exitThread (.source s.run) w

theorem attends_endSource (i run : Nat) (h : v.roll = w.roll) : Attends who w (v.endSource i run) :=
  .trans (v := v.setSource i none) (.of_roll h) (attends_exitThread (.source run) _)

/-! ### The stages of a delivery -/

theorem roll_modifyRuntime (n : Nat) {f : Runtime → Runtime}
    (h : ∀ r, w.runtimes[n]? = some r →
      (f r).attaches = r.attaches ∧ (f r).detaches = r.detaches) :
    (w.modifyRuntime n f).roll = w.roll :=
  congrArg (w.attachments, ·) (map_modify_of_eq fun r hr => Prod.ext (h r hr).1 (h r hr).2)

/-- **A thread that begins to deliver may attach**, and nobody else. -/
theorem begin_attends (t : ThreadId) (k : Nat) (w : Relay) :
    Attends (some (t, (w.channel k).binding.runtime)) w (w.begin t k).2 := by
  generalize hb : (w.channel k).binding = b
  have hroll : (w.begin t k).2.roll =
      { w with
        attachments := (w.attachments.attach t b w.runtimes).2.1
        runtimes := (w.attachments.attach t b w.runtimes).2.2 : Relay }.roll := by
    unfold begin
    dsimp only
    rw [hb]
    cases (w.attachments.attach t b w.runtimes).1 <;> rfl
  suffices hattach : Attends (some (t, b.runtime)) w
      { w with
        attachments := (w.attachments.attach t b w.runtimes).2.1
        runtimes := (w.attachments.attach t b w.runtimes).2.2 } from
    hattach.trans (.of_roll hroll)
  unfold Attachments.attach
  cases w.attachments.handle? t b.address with
  | some handle => exact .of_roll rfl
  | none =>
    dsimp only
    cases hr : w.runtimes[b.runtime]? with
    | none => exact .of_roll rfl
    | some r =>
      unfold Runtime.attach
      dsimp only
      by_cases hrefused : r.attachDisabled
      · -- An attempt that is refused counts nothing.
        rw [if_pos hrefused]
        refine .of_roll (congrArg (w.attachments, ·) ?_)
        exact map_set_of_eq hr rfl
      · rw [if_neg hrefused]
        dsimp only
        refine ⟨List.length_set, ?_, ?_⟩
        · rintro a (_ | ⟨_, ha⟩)
          · exact .inr rfl
          · exact .inl ha
        · intro n hn hw
          unfold Level dues at hw ⊢
          dsimp only
          by_cases hn' : n = b.runtime
          · subst hn'
            rw [runtime_eq hr] at hw
            rw [runtime_eq (getElem?_set_of_some hr)]
            simp only [List.countP_cons, beq_self_eq_true, if_true]
            omega
          · have hother : (w.runtimes.set b.runtime
                { r with
                  nextHandle := r.nextHandle + 1
                  attaches := r.attaches + 1
                  attempts := r.attempts ++ [b.threadName] }).getD n default = w.runtime n := by
              unfold runtime
              rw [List.getD_eq_getElem?_getD, List.getD_eq_getElem?_getD,
                List.getElem?_set_ne (Ne.symm hn')]
            unfold runtime at hother hw ⊢
            dsimp only
            rw [hother, hw, List.countP_cons_of_neg (by simpa using Ne.symm hn')]

theorem roll_publish (k : Nat) (points : List Point) (w : Relay) :
    (w.publish k points).2.roll = w.roll := by
  unfold publish
  cases (w.channel k).publish points <;> rfl

/-- A call of the handler is not on the roll. -/
theorem roll_enter (k : Nat) (d : Delivery) (w : Relay) : (w.enter k d).2.roll = w.roll := by
  unfold enter Runtime.enter
  dsimp only
  split
  · next h =>
    split at h
    · exact absurd h (by simp)
    · rfl
  · next r h =>
    split at h
    · obtain rfl := Except.ok.inj h
      refine roll_modifyRuntime _ fun r hr => ?_
      rw [runtime_eq hr]
      exact ⟨rfl, rfl⟩
    · exact absurd h (by simp)

theorem roll_leave (t : Ticket) (reply : Reply) (w : Relay) : (w.leave t reply).roll = w.roll :=
  roll_modifyRuntime _ fun _ _ => by cases reply <;> exact ⟨rfl, rfl⟩

/-- Nor is the end of a call. -/
theorem roll_conclude (t : Ticket) (call : Except HostError Unit) (w : Relay) :
    (w.conclude t call).roll = w.roll := by
  have hruntime := roll_modifyRuntime (w := w) (w.channel t.channel).binding.runtime
    (f := fun _ => ((w.runtime (w.channel t.channel).binding.runtime).conclude call t.handle).2) (by
      intro r hr
      rw [runtime_eq hr, Runtime.conclude_eq]
      exact ⟨rfl, rfl⟩)
  refine Eq.trans ?_ hruntime
  unfold conclude
  dsimp only
  cases ((w.runtime (w.channel t.channel).binding.runtime).conclude call t.handle).1 with
  | delivered =>
    unfold time
    cases t.started <;> rfl
  | failed text => rfl

/-- A frame source that wakes up attaches nobody yet; if it is at its limit, its thread ends. -/
theorem attends_wakeSource (i : Nat) (source : Source) (w : Relay) :
    Attends who w (w.wakeSource i source).2 := by
  unfold wakeSource
  dsimp only
  split
  · split
    · exact .of_roll rfl
    · exact attends_endSource i _ rfl
  · exact attends_endSource i _ rfl

/-- So does one that crashes. -/
theorem attends_crashSource (run : Nat) (w : Relay) : Attends who w (w.crashSource run) := by
  unfold crashSource
  cases w.sessions.findIdx? fun s => s.source?.any (·.run == run) with
  | none => exact .of_roll rfl
  | some i => exact attends_endSource i run rfl

end Relay

/-! ### Threads that deliver -/

namespace Live

variable (h : Handler σ) (l : Live σ)

/-- A call of the handler, and its end. -/
theorem roll_handle (t : Ticket) (d : Delivery) :
    (l.handle h t d).2.relay.roll = l.relay.roll := by
  have henter := Relay.roll_enter t.channel d l.relay
  refine Eq.trans ?_ henter
  unfold handle
  dsimp only [withRelay]
  generalize l.relay.enter t.channel d = result
  obtain ⟨answer, w⟩ := result
  cases answer with
  | error e => exact Relay.roll_conclude t _ w
  | ok _ =>
    dsimp only
    split
    · rfl
    · exact (Relay.roll_conclude t _ _).trans (Relay.roll_leave t _ _)

/-- **A delivery** attaches at most the thread that makes it, to the host of its channel. -/
theorem deliver_attends (t : ThreadId) (k : Nat) (points : List Point) :
    Relay.Attends (some (t, (l.relay.channel k).binding.runtime)) l.relay
      (l.deliver h t k points).2.relay := by
  refine (Relay.begin_attends t k l.relay).trans (.of_roll ?_)
  unfold deliver
  generalize l.relay.begin t k = result
  obtain ⟨ticket, w⟩ := result
  cases ticket with
  | none => rfl
  | some ticket =>
    have hpublish := Relay.roll_publish k points w
    refine Eq.trans ?_ hpublish
    dsimp only
    generalize w.publish k points = result
    obtain ⟨d, v⟩ := result
    cases d with
    | none => rfl
    | some d => exact roll_handle h (l.withRelay v) ticket d

/-- A thread that injects a frame attaches only if it delivers the frame itself. -/
theorem emit_attends (t : ThreadId) (p : Nat) (points : List Point) :
    Relay.Attends none l.relay (l.emit h t p points).2.relay ∨
      ∃ k, l.relay.listener? p = some k ∧ (l.relay.channel k).handoff = none ∧
        Relay.Attends (some (t, (l.relay.channel k).binding.runtime)) l.relay
          (l.emit h t p points).2.relay := by
  unfold emit
  cases hk : l.relay.listener? p with
  | none =>
    rw [Relay.offer_of_none hk]
    exact .inl (.of_roll rfl)
  | some k =>
    obtain ⟨c, hc, hcapturing, hl⟩ := Relay.listener?_eq_some.mp hk
    rw [Relay.offer_of_some hc hcapturing hl]
    dsimp only
    -- What the camera has counted does not matter for attachments.
    generalize hv : ({ l.relay with
      cameras := l.relay.cameras.set p { c with emitted := c.emitted + 1 } } : Relay) = v
    have hchannel (k : Nat) : v.channel k = l.relay.channel k := by rw [← hv]; rfl
    have hroll : v.roll = l.relay.roll := by rw [← hv]; rfl
    cases hq : (v.channel k).handoff with
    | some q =>
      refine .inl (.of_roll (Eq.trans ?_ hroll))
      dsimp only [withRelay]
      unfold Relay.submit
      split <;> rfl
    | none =>
      refine .inr ⟨k, rfl, hchannel k ▸ hq, ?_⟩
      have hdeliver := deliver_attends h (l.withRelay v) t k points
      dsimp only
      generalize (l.withRelay v).deliver h t k points = result at hdeliver ⊢
      rw [show (l.withRelay v).relay.channel k = l.relay.channel k from hchannel k] at hdeliver
      obtain ⟨answer, m⟩ := result
      cases answer <;> exact (Relay.Attends.of_roll hroll).trans hdeliver

/-- **A dispatch thread** attaches only if it has a frame to deliver. -/
theorem dispatch_attends (k : Nat) :
    l.dispatch h k = l ∨ (∃ points v, l.relay.takeQueued? k = some (points, v)) ∧
      Relay.Attends (some (.dispatch k, (l.relay.channel k).binding.runtime)) l.relay
        (l.dispatch h k).relay := by
  unfold dispatch
  cases htake : l.relay.takeQueued? k with
  | none => exact .inl rfl
  | some taken =>
    obtain ⟨points, v⟩ := taken
    refine .inr ⟨⟨points, v, rfl⟩, ?_⟩
    have hroll : v.roll = l.relay.roll := by
      obtain ⟨q, rest, -, -, rfl⟩ := Relay.takeQueued?_eq_some htake
      rfl
    have hbinding : (v.channel k).binding = (l.relay.channel k).binding :=
      congrArg Wiring.binding (Relay.wiring_of_standing
        (Relay.standing_takeQueued? [] l.relay htake) k)
    have hdeliver := deliver_attends h (l.withRelay v) (.dispatch k) k points
    rw [show ((l.withRelay v).relay.channel k).binding = _ from hbinding] at hdeliver
    have hwhole := (Relay.Attends.of_roll hroll).trans hdeliver
    dsimp only
    generalize (l.withRelay v).deliver h (.dispatch k) k points = result at hwhole ⊢
    obtain ⟨answer, m⟩ := result
    cases answer with
    | ok _ => exact hwhole.trans (.of_roll rfl)
    | error reason =>
      have hcrashed : Relay.Attends (some (.dispatch k, (l.relay.channel k).binding.runtime))
          m.relay (m.relay.modifyChannel k fun x => { x with handoff := x.handoff.map .crash }) :=
        .of_roll rfl
      exact hwhole.trans (hcrashed.trans (Relay.attends_exitThread (.dispatch k) _))

end Live

/-! ### Any step -/

namespace Relay

variable {w : Relay} {i : Nat} {who : Option (ThreadId × Nat)} {closing : List Nat}

/-- **An operation** attaches nobody; a stop ends the thread of a source. -/
theorem perform_attends (op : Operation) (hcustody : Custody (w.standing closing))
    (hi : i < w.sessions.length) : Attends who w (op.perform i w).2 := by
  obtain ⟨s, hs⟩ : ∃ s, w.sessions[i]? = some s := ⟨_, List.getElem?_eq_getElem hi⟩
  cases perform_hosted op hcustody hs with
  | kept attachments runtimes =>
    refine .of_roll ?_
    unfold roll
    rw [attachments, runtimes]
  | exposing b r exposed attachments runtimes =>
    refine .of_roll ?_
    unfold roll
    rw [attachments, runtimes]
    refine congrArg (w.attachments, ·) ?_
    cases hr : w.runtimes[s.runtime]? with
    | none => rw [List.set_eq_of_length_le (List.getElem?_eq_none_iff.mp hr)]
    | some x =>
      rw [runtime_eq hr] at exposed
      obtain ⟨-, rfl⟩ := Runtime.expose_eq_ok.mp exposed
      exact map_set_of_eq hr rfl
  | ended source attachments runtimes =>
    refine (attends_exitSource source w).trans (.of_roll ?_)
    unfold roll
    rw [attachments, runtimes]

/-- The beginning of a close attends to the thread of the source. -/
theorem beginClose_attends {s : Session} {o : OpenCamera} {c : Camera Nat}
    (hs : w.sessions[i]? = some s) (ho : s.camera = some o)
    (hc : w.cameras[o.device.camera]? = some c) : Attends who w (w.beginClose i) := by
  rw [beginClose_eq hs ho hc]
  exact (attends_exitSource _ w).trans (.of_roll rfl)

/-- A session that is closed ends the thread of its source, if it still has one. -/
theorem endClose_attends {s : Session} {o : OpenCamera} {c : Camera Nat}
    (hs : w.sessions[i]? = some s) (ho : s.camera = some o)
    (hc : w.cameras[o.device.camera]? = some c) : Attends who w (w.endClose i) := by
  rw [endClose_eq hs ho hc]
  refine ((attends_exitThread (.dispatch o.channel) w).trans
    (attends_exitSource o.device.source _)).trans (.of_roll ?_)
  exact roll_modifyRuntime s.runtime (f := Runtime.retract _) fun _ _ => ⟨rfl, rfl⟩

end Relay

namespace World

variable {w : World σ}

/-- A source that wakes up attaches itself at most. -/
theorem wake_attends (h : Handler σ) (w : World σ) (i : Nat) :
    Relay.Attends none w.relay (w.step h (.wake i)).2.relay ∨
      ∃ t k points, w.delivered? (.wake i) = some (k, points) ∧
        Relay.Attends (some (t, (w.relay.channel k).binding.runtime)) w.relay
          (w.step h (.wake i)).2.relay := by
  unfold step
  dsimp only
  cases hsource : (w.relay.session i).source? with
  | none => exact .inl (.of_roll rfl)
  | some source =>
    have hwake : Relay.Attends none w.relay (w.relay.wakeSource i source).2 :=
      Relay.attends_wakeSource i source w.relay
    have hinjected := injected?_wake hsource
    dsimp only
    unfold Live.wake
    cases hresult : w.relay.wakeSource i source with
    | mk produced v =>
      rw [hresult] at hwake hinjected
      cases produced with
      | none => exact .inl hwake
      | some frame =>
        obtain ⟨p, points⟩ := frame
        obtain ⟨-, hcameras, hchannels, -⟩ := Relay.wakeSource_some hresult
        have hchannel (k : Nat) : v.channel k = w.relay.channel k :=
          Relay.channel_of_channels hchannels k
        have hlistener := Relay.listener?_of_cameras hcameras p
        have hemit := Live.emit_attends h (w.toLive.withRelay v) (.source source.run) p points
        dsimp only
        generalize (w.toLive.withRelay v).emit h (.source source.run) p points = result at hemit ⊢
        obtain ⟨answer, m⟩ := result
        -- A source that its handler has given up ends.
        have hlast (who : Option (ThreadId × Nat)) (hm : Relay.Attends who v m.relay) :
            Relay.Attends who w.relay m.relay ∧
              Relay.Attends who w.relay (m.relay.crashSource source.run) := by
          have hm' := hwake.weaken.trans hm
          exact ⟨hm', hm'.trans (Relay.attends_crashSource source.run m.relay)⟩
        rcases hemit with hnobody | ⟨k, hk, hdirect, hattends⟩
        · left
          cases answer with
          | ok _ => exact (hlast none hnobody).1
          | error _ => exact (hlast none hnobody).2
        · refine .inr ⟨.source source.run, k, points, ?_, ?_⟩
          · exact delivered?_of_listener (by simp) hinjected
              (hlistener.symm.trans hk) ((congrArg Channel.handoff (hchannel k)).symm.trans hdirect)
          · rw [show (w.toLive.withRelay v).relay.channel k = _ from hchannel k] at hattends
            cases answer with
            | ok _ => exact (hlast _ hattends).1
            | error _ => exact (hlast _ hattends).2

/-- **A step attaches nobody but the thread that delivers its frame.** -/
theorem step_attends (h : Handler σ) (hcustody : Custody w.standing) (e : Event) :
    Relay.Attends none w.relay (w.step h e).2.relay ∨
      ∃ t k points, w.delivered? e = some (k, points) ∧ (∀ j, e = .dispatch j → t = .dispatch k) ∧
        Relay.Attends (some (t, (w.relay.channel k).binding.runtime)) w.relay
          (w.step h e).2.relay := by
  cases e with
  | operate i op =>
    left
    rcases w.step_operate_cases h i op with hsame | ⟨hi, -, hafter⟩
    · rw [hsame]
      exact .of_roll rfl
    · rw [hafter]
      exact Relay.perform_attends op hcustody hi
  -- A close ends threads, and attaches none.
  | beginClose i =>
    left
    rcases step_beginClose_cases h hcustody i with hsame | ⟨s, o, c, hs, ho, hc, hafter⟩
    · rw [hsame]
      exact .of_roll rfl
    · rw [hafter]
      exact Relay.beginClose_attends hs ho hc
  | endClose i =>
    left
    rcases step_endClose_cases h hcustody i with hsame | ⟨-, -, s, o, c, hs, ho, hc, hafter⟩
    · rw [hsame]
      exact .of_roll rfl
    · rw [hafter]
      exact Relay.endClose_attends hs ho hc
  | emit worker p points =>
    rcases Live.emit_attends h w.toLive (.worker worker) p points with
      hnobody | ⟨k, hk, hdirect, hattends⟩
    · exact .inl hnobody
    · -- The thread that delivers attaches to the host of the channel, and nobody else does.
      refine .inr ⟨_, k, points, ?_, by simp, hattends⟩
      exact delivered?_of_listener (by simp) rfl hk hdirect
  | dispatch k =>
    rcases Live.dispatch_attends h w.toLive k with hsame | ⟨⟨points, v, htake⟩, hattends⟩
    · refine .inl (.of_roll ?_)
      exact congrArg (Relay.roll ∘ Live.relay) hsame
    · refine .inr ⟨_, k, points, ?_, fun _ _ => rfl, hattends⟩
      exact congrArg (Option.map _) htake
  | wake i =>
    rcases wake_attends h w i with hnobody | ⟨t, k, points, hdelivered, hattends⟩
    · exact .inl hnobody
    · exact .inr ⟨t, k, points, hdelivered, by simp, hattends⟩
  | disableAttach r on =>
    exact .inl (.of_roll (Relay.roll_modifyRuntime r fun _ _ => ⟨rfl, rfl⟩))
  | refuseBuffers r fault =>
    exact .inl (.of_roll (Relay.roll_modifyRuntime r fun _ _ => ⟨rfl, rfl⟩))
  | exitWorker worker => exact .inl (Relay.attends_exitThread (.worker worker) w.relay)
  | fail _ _ _ | clearFaults _ | pass _ => exact .inl (.of_roll rfl)

end World

end DepthRelay
