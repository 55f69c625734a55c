import DepthRelay.Proofs.Outcomes

namespace DepthRelay

/-!
# Hosts that refuse no buffer

A host refuses buffers only because somebody made it.  Nothing that sessions and threads do changes
its mind.

* `Relay.refusals` — why hosts refuse buffers, by their places; the lemmas `refusals_*` go through
  the stages of a delivery and through the threads that deliver.
* `Relay.Willing`, `World.willing_step` — hosts that refuse no buffer, and stay
  like that as long as nobody makes them.
-/

variable {σ : Type}

/-- A host that has accepted a buffer refuses none. -/
theorem Runtime.exposeFault_of_expose {v : View} {x r : Runtime} (h : x.expose v = .ok r) :
    r.exposeFault = none := by
  obtain ⟨hfault, rfl⟩ := expose_eq_ok.mp h
  exact hfault

namespace Relay

variable {w : Relay}

/-- Why hosts refuse buffers, if they do. -/
def refusals (w : Relay) : List (Option HostError) := w.runtimes.map Runtime.exposeFault

/-- The hosts refuse no buffer. -/
def Willing (w : Relay) : Prop := ∀ r ∈ w.runtimes, r.exposeFault = none

variable {v : Relay}

/-- Only what hosts refuse matters for whether they are willing. -/
theorem Willing.of_refusals (hw : w.Willing) (h : v.refusals = w.refusals) : v.Willing := by
  intro r hr
  obtain ⟨n, hn⟩ := List.getElem?_of_mem hr
  obtain ⟨r', hr', hsame⟩ := getElem?_of_map_eq h.symm hn
  rw [← hsame]
  exact hw r' (List.mem_of_getElem? hr')

/-- A place without a host refuses nothing, either. -/
theorem Willing.runtime (hw : w.Willing) (n : Nat) : (w.runtime n).exposeFault = none := by
  cases hr : w.runtimes[n]? with
  | none =>
    rw [Relay.runtime, List.getD_eq_getElem?_getD, hr]
    rfl
  | some r =>
    rw [runtime_eq hr]
    exact hw r (List.mem_of_getElem? hr)

theorem refusals_modifyRuntime (n : Nat) {f : Runtime → Runtime}
    (h : ∀ r, w.runtimes[n]? = some r → (f r).exposeFault = r.exposeFault) :
    (w.modifyRuntime n f).refusals = w.refusals := map_modify_of_eq h

theorem refusals_exitThread (t : ThreadId) (w : Relay) :
    (w.exitThread t).refusals = w.refusals := by
  unfold refusals
  rw [exitThread_eq]
  exact map_exit (fun _ => rfl) t w.attachments w.runtimes

theorem refusals_exitSource (source : Option Source) (w : Relay) :
    (w.exitSource source).refusals = w.refusals := by
  cases source with
  | none => rfl
  | some s => exact refusals_exitThread (.source s.run) w

/-- Attaching changes no host's mind. -/
theorem refusals_begin (t : ThreadId) (k : Nat) (w : Relay) :
    (w.begin t k).2.refusals = w.refusals := by
  have hattach := map_attach (f := Runtime.exposeFault) (fun _ _ _ _ => rfl) t
    (w.channel k).binding w.attachments w.runtimes
  unfold begin
  dsimp only
  generalize w.attachments.attach t (w.channel k).binding w.runtimes = result at hattach ⊢
  obtain ⟨handle, as, runtimes⟩ := result
  cases handle <;> exact hattach

theorem refusals_publish (k : Nat) (points : List Point) (w : Relay) :
    (w.publish k points).2.refusals = w.refusals := by
  unfold publish
  split <;> rfl

/-- Nor does a call of the handler. -/
theorem refusals_enter (k : Nat) (d : Delivery) (w : Relay) :
    (w.enter k d).2.refusals = w.refusals := by
  unfold enter Runtime.enter
  dsimp only
  by_cases h : (w.runtime (w.channel k).binding.runtime).isExposed d.view
  · rw [if_pos h]
    refine refusals_modifyRuntime _ fun r hr => ?_
    rw [runtime_eq hr]
  · rw [if_neg h]

theorem refusals_leave (t : Ticket) (reply : Reply) (w : Relay) :
    (w.leave t reply).refusals = w.refusals := by
  refine refusals_modifyRuntime _ fun r _ => ?_
  cases reply <;> rfl

/-- Nor does the end of one. -/
theorem refusals_conclude (t : Ticket) (call : Except HostError Unit) (w : Relay) :
    (w.conclude t call).refusals = w.refusals := by
  have hkept (r : Runtime) : (r.conclude call t.handle).2.exposeFault = r.exposeFault := by
    rw [Runtime.conclude_eq]
  have hruntime := refusals_modifyRuntime (w := w) (w.channel t.channel).binding.runtime
    (f := fun _ => ((w.runtime (w.channel t.channel).binding.runtime).conclude call t.handle).2)
    (by intro r hr; rw [runtime_eq hr]; exact hkept r)
  unfold conclude
  dsimp only
  cases ((w.runtime (w.channel t.channel).binding.runtime).conclude call t.handle).1 with
  | delivered =>
    refine Eq.trans ?_ hruntime
    unfold time
    cases t.started <;> rfl
  | failed text => exact hruntime

/-- Nor does a frame source that wakes up. -/
theorem refusals_wakeSource (n : Nat) (source : Source) (w : Relay) :
    (w.wakeSource n source).2.refusals = w.refusals := by
  unfold wakeSource
  dsimp only
  split
  · split
    · rfl
    · exact refusals_exitThread _ _
  · exact refusals_exitThread _ _

/-- A source that crashes changes no host's mind. -/
theorem refusals_crashSource (run : Nat) (w : Relay) :
    (w.crashSource run).refusals = w.refusals := by
  unfold crashSource
  cases w.sessions.findIdx? fun s => s.source?.any (·.run == run) with
  | none => rfl
  | some n => exact refusals_exitThread _ _

end Relay

namespace Live

variable (h : Handler σ) (l : Live σ)

/-- **A delivery changes no host's mind.** -/
theorem refusals_deliver (t : ThreadId) (k : Nat) (points : List Point) :
    (l.deliver h t k points).2.relay.refusals = l.relay.refusals := by
  have hbegin := Relay.refusals_begin t k l.relay
  unfold deliver
  generalize l.relay.begin t k = result at hbegin ⊢
  obtain ⟨ticket, w⟩ := result
  cases ticket with
  | none => exact hbegin
  | some ticket =>
    have hpublish := Relay.refusals_publish k points w
    dsimp only
    generalize w.publish k points = result at hpublish ⊢
    obtain ⟨d, v⟩ := result
    cases d with
    | none => exact hpublish.trans hbegin
    | some d =>
      have henter := Relay.refusals_enter ticket.channel d v
      refine Eq.trans ?_ (henter.trans (hpublish.trans hbegin))
      unfold handle
      dsimp only [withRelay]
      generalize v.enter ticket.channel d = result
      obtain ⟨answer, u⟩ := result
      cases answer with
      | error e => exact Relay.refusals_conclude ticket _ u
      | ok _ =>
        dsimp only
        split
        · rfl
        · exact (Relay.refusals_conclude ticket _ _).trans (Relay.refusals_leave ticket _ _)

/-- Nor does an injected frame. -/
theorem refusals_emit (t : ThreadId) (p : Nat) (points : List Point) :
    (l.emit h t p points).2.relay.refusals = l.relay.refusals := by
  unfold emit Relay.offer
  cases l.relay.cameras[p]? with
  | none => rfl
  | some c =>
    dsimp only
    cases (c.offer l.relay.now points).1.map Prod.fst with
    | none => rfl
    | some k =>
      dsimp only
      split
      · unfold Relay.submit
        split <;> rfl
      · have hdeliver := refusals_deliver h
          (l.withRelay { l.relay with cameras := l.relay.cameras.set p (c.offer l.relay.now points).2 })
          t k points
        split
        · next hok =>
          rw [hok] at hdeliver
          exact hdeliver
        · next herror =>
          rw [herror] at hdeliver
          exact hdeliver

/-- Nor does a dispatch thread. -/
theorem refusals_dispatch (k : Nat) : (l.dispatch h k).relay.refusals = l.relay.refusals := by
  unfold dispatch
  cases htake : l.relay.takeQueued? k with
  | none => rfl
  | some taken =>
    obtain ⟨points, w⟩ := taken
    obtain ⟨q, rest, -, -, rfl⟩ := Relay.takeQueued?_eq_some htake
    have hdeliver := refusals_deliver h (l.withRelay (l.relay.modifyChannel k fun x =>
      { x with handoff := some { q with queue := rest, sinking := true } })) (.dispatch k) k points
    dsimp only
    split
    · next hok =>
      rw [hok] at hdeliver
      exact hdeliver
    · next herror =>
      rw [herror] at hdeliver
      exact (Relay.refusals_exitThread _ _).trans hdeliver

/-- Nor does a frame of a source. -/
theorem refusals_wake (i : Nat) (source : Source) :
    (l.wake h i source).relay.refusals = l.relay.refusals := by
  have hwake := Relay.refusals_wakeSource i source l.relay
  unfold wake
  generalize l.relay.wakeSource i source = result at hwake ⊢
  obtain ⟨produced, w⟩ := result
  cases produced with
  | none => exact hwake
  | some frame =>
    obtain ⟨p, points⟩ := frame
    have hemit := refusals_emit h (l.withRelay w) (.source source.run) p points
    dsimp only
    split
    · next hok =>
      rw [hok] at hemit
      exact hemit.trans hwake
    · next herror =>
      rw [herror] at hemit
      exact (Relay.refusals_crashSource _ _).trans (hemit.trans hwake)

end Live

namespace World

variable {w : World σ}

/-- **Hosts go on to accept buffers** as long as nobody makes them refuse. -/
theorem willing_step (h : Handler σ) (hcustody : Custody w.standing) (hw : w.relay.Willing)
    {e : Event} (hevent : ∀ r fault, e ≠ .refuseBuffers r (some fault)) :
    (w.step h e).2.relay.Willing := by
  cases e with
  | operate i op =>
    rcases w.step_operate_cases h i op with hsame | ⟨hi, -, hafter⟩
    · rw [hsame]
      exact hw
    · rw [hafter]
      intro r' (hr' : r' ∈ (op.perform i w.relay).2.runtimes)
      -- Of the hosts an operation changes one at most, by a buffer or by a thread that ends.
      cases Relay.perform_hosted op hcustody (List.getElem?_eq_getElem hi) with
      | kept _ runtimes => exact hw r' (runtimes ▸ hr')
      | exposing b r exposed _ runtimes =>
        rw [runtimes] at hr'
        rcases List.mem_or_eq_of_mem_set hr' with hmem | rfl
        · exact hw r' hmem
        · exact Runtime.exposeFault_of_expose exposed
      | ended source _ runtimes =>
        exact hw.of_refusals (Relay.refusals_exitSource source w.relay) r' (runtimes ▸ hr')
  | beginClose i =>
    rcases step_beginClose_cases h hcustody i with hsame | ⟨s, o, c, hs, ho, hc, hafter⟩
    · rw [hsame]
      exact hw
    · rw [hafter]
      show (w.relay.beginClose i).Willing
      rw [Relay.beginClose_eq hs ho hc]
      exact hw.of_refusals (Relay.refusals_exitSource _ _)
  | endClose i =>
    rcases step_endClose_cases h hcustody i with hsame | ⟨-, -, s, o, c, hs, ho, hc, hafter⟩
    · rw [hsame]
      exact hw
    · rw [hafter]
      show (w.relay.endClose i).Willing
      rw [Relay.endClose_eq hs ho hc]
      have hthread := Relay.refusals_exitThread (.dispatch o.channel) w.relay
      have hsource := Relay.refusals_exitSource o.device.source
        (w.relay.exitThread (.dispatch o.channel))
      refine hw.of_refusals (Eq.trans ?_ (hsource.trans hthread))
      exact Relay.refusals_modifyRuntime (w := ((w.relay.exitThread _).exitSource _).update i s.closed
        o.device.camera c.release) s.runtime (f := Runtime.retract _) fun _ _ => rfl
  | emit worker camera points =>
    exact hw.of_refusals (Live.refusals_emit h w.toLive (.worker worker) camera points)
  | dispatch k => exact hw.of_refusals (Live.refusals_dispatch h w.toLive k)
  | wake i =>
    rcases w.step_wake_cases h i with hsame | ⟨source, hafter⟩
    · rw [hsame]
      exact hw
    · rw [hafter]
      exact hw.of_refusals (Live.refusals_wake h w.toLive i source)
  | disableAttach r on => exact hw.of_refusals (Relay.refusals_modifyRuntime r fun _ _ => rfl)
  | refuseBuffers r fault =>
    cases fault with
    -- A host is made unwilling by this event only, which is ruled out.
    | some e => exact absurd rfl (hevent r e)
    | none =>
      intro x hx
      obtain ⟨n, hn⟩ := List.getElem?_of_mem
        (show x ∈ w.relay.runtimes.modify r fun y => { y with exposeFault := none } from hx)
      rw [List.getElem?_modify] at hn
      obtain ⟨y, hy, rfl⟩ := Option.map_eq_some_iff.mp hn
      by_cases hrn : r = n
      · simp [hrn]
      · simp [hrn, hw y (List.mem_of_getElem? hy)]
  | exitWorker worker => exact hw.of_refusals (Relay.refusals_exitThread (.worker worker) w.relay)
  | fail _ _ _ | clearFaults _ | pass _ => exact hw

/-- At the start every host is willing. -/
theorem willing_fresh (profiles : List CameraProfile) (runtimes : Nat)
    (sessions : List (Nat × Settings)) (host : σ) (now : Nat) :
    (fresh profiles runtimes sessions host now).relay.Willing := by
  intro r hr
  obtain rfl := List.eq_of_mem_replicate hr
  rfl

end World

end DepthRelay
