import DepthRelay.Proofs.LostThreads

namespace DepthRelay

/-!
# Sessions alone on their cameras and host

What is true between any two steps of a session in queued delivery that shares neither its cameras
nor its host, even if its handler gives up.

* `Event.KeepsTo` — an event leaves the cameras of the session to it.
* `World.Lone` — the invariant: the camera follows the session, the slots are accounted for, and
  only the dispatch thread of the channel that the session holds is attached to the host.
* `World.closedOff_of_dispatched` — how closing ends.
* `World.Lone.step`, `World.Lone.run` — it is kept by every step, and by runs.
-/

variable {σ : Type}

/-! ### Whose cameras are opened -/

/-- The event opens none of the cameras `own` for anybody but the session at place `i`, and no
    others for that one. -/
def Event.KeepsTo (i : Nat) (own : Nat → Bool) (w : Relay) (e : Event) : Prop :=
  ∀ j d key address p, e = .operate j (.openCamera d key address) → w.target? d = some p →
    (own p = true ↔ j = i)

/-- What an event keeps to depends on what the cameras are, and on nothing else. -/
theorem Event.KeepsTo.congr {i : Nat} {own : Nat → Bool} {v w : Relay} {e : Event}
    (h : e.KeepsTo i own w) (hprofiles : v.cameras.map Camera.profile = w.cameras.map Camera.profile) :
    e.KeepsTo i own v := by
  intro j d key address p he htarget
  rw [World.target?_of_profiles hprofiles d] at htarget
  exact h j d key address p he htarget

namespace World

variable {w : World σ} {i k : Nat}

/-- A channel that is there goes on to serve the same session, in the same way. -/
theorem wiring_step (h : Handler σ) (e : Event) (hcustody : Custody w.standing) {x : Channel}
    (hx : w.relay.channels[k]? = some x) :
    ((w.step h e).2.relay.channel k).wiring = x.wiring ∧
      k < (w.step h e).2.relay.channels.length := by
  have hafter := (step_shift h e hcustody).channel_after (Relay.channel_standing hx)
  obtain ⟨y, hy, hwiring⟩ := Relay.of_channel_standing hafter
  rw [Relay.channel_eq hy]
  exact ⟨hwiring, (List.getElem?_eq_some_iff.mp hy).1⟩

/-- A channel stays where it is, with its wiring. -/
theorem wiring_run (h : Handler σ) (events : List Event) (hcustody : Custody w.standing) {x : Channel}
    (hx : w.relay.channels[k]? = some x) :
    ((w.run h events).relay.channel k).wiring = x.wiring ∧
      k < (w.run h events).relay.channels.length := by
  induction events generalizing w x with
  | nil =>
    rw [run, List.foldl_nil, Relay.channel_eq hx]
    exact ⟨rfl, (List.getElem?_eq_some_iff.mp hx).1⟩
  | cons e rest ih =>
    obtain ⟨hwiring, hlt⟩ := wiring_step h e hcustody hx
    have hy := List.getElem?_eq_getElem hlt
    rw [Relay.channel_eq hy] at hwiring
    obtain ⟨hlast, hend⟩ := ih (hcustody.shift (step_shift h e hcustody)) hy
    exact ⟨hlast.trans hwiring, hend⟩

/-- A session goes on to hold its channel until it has been closed. -/
theorem channel?_after (h : Handler σ) (e : Event) (hcustody : Custody w.standing)
    (hheld : (w.relay.session i).channel? = some k) (hi : i < w.relay.sessions.length)
    (hstays : i ∈ w.closing → i ∈ (w.step h e).2.closing) :
    ((w.step h e).2.relay.session i).channel? = some k := by
  have hs := List.getElem?_eq_getElem hi
  rw [Relay.session_eq hs] at hheld
  obtain ⟨o, ho, rfl⟩ := Option.map_eq_some_iff.mp hheld
  obtain ⟨t, ht, ho'⟩ := (step_shift h e hcustody).camera_after hcustody
    (Relay.session_standing hs) (Relay.held_standing ho) hstays
  obtain ⟨s', hs', hk⟩ := Relay.channel?_of_standing ht ho'
  rw [Relay.session_eq hs', hk]
  rfl

/-- **How closing ends**, once the dispatch thread has nothing left to do. -/
theorem closedOff_of_dispatched (h : Handler σ) (hcustody : Custody w.standing)
    (hbegun : i ∈ w.closing) (hdispatched : w.dispatched i = true) :
    (w.step h (.endClose i)).1 = .done ∧ i ∉ (w.step h (.endClose i)).2.closing ∧
      ∃ s o, w.relay.sessions[i]? = some s ∧ s.camera = some o ∧
        Relay.ClosedOff i o.device.camera o.channel w.relay (w.step h (.endClose i)).2.relay := by
  obtain ⟨s, o, c, hs, ho, hc⟩ := holder_of_closing hcustody hbegun
  have hstep : w.step h (.endClose i) =
      (.done, { w.setRelay (w.relay.endClose i) with closing := w.closing.filter (· ≠ i) }) := by
    unfold World.step
    dsimp only
    rw [if_pos (by simp [hbegun, hdispatched])]
  unfold dispatched at hdispatched
  rw [Relay.session_eq hs, ho] at hdispatched
  rw [hstep]
  exact ⟨rfl, by simp, s, o, hs, ho, Relay.closedOff_endClose hs ho hc hdispatched⟩

/-! ### The invariant -/

/-- The session at place `i`, with queued delivery, a host `r` and cameras `own` of its own. -/
structure Lone (i r : Nat) (settings : Settings) (own : Nat → Bool) (w : World σ) : Prop where
  custody : Custody w.standing
  secluded : Secluded i r settings own w.standing
  attuned : AttunedOn (fun p => own p = true) w.standing
  attended : w.Attended
  stocked : ∀ (k : Nat) (q : Handoff), (w.relay.channel k).handoff = some q →
    (w.relay.channel k).session = i → q.Stocked settings.handoffDepth.toNat
  accepting : ∀ (k : Nat) (q : Handoff), (w.relay.session i).channel? = some k → i ∉ w.closing →
    (w.relay.channel k).handoff = some q → q.accepting = true
  level : w.relay.Level r
  /-- Nobody is attached to the host but the dispatch thread of the channel that is held. -/
  manned : ∀ a ∈ w.relay.attachments, a.runtime = r →
    ∃ k, a.thread = .dispatch k ∧ (w.relay.session i).channel? = some k

namespace Lone

variable {r : Nat} {settings : Settings} {own : Nat → Bool} {e : Event}

/-- The session, and its place. -/
theorem session (hw : w.Lone i r settings own) :
    ∃ s, w.relay.sessions[i]? = some s ∧ s.runtime = r ∧ s.settings = settings := by
  obtain ⟨t, ht, hsettings⟩ := hw.secluded.present
  have hruntime := (hw.secluded.alone i t ht).mpr rfl
  obtain ⟨s, hs, rfl⟩ := Relay.of_session_standing ht
  exact ⟨s, hs, hruntime, hsettings⟩

theorem session_lt (hw : w.Lone i r settings own) : i < w.relay.sessions.length := by
  obtain ⟨s, hs, -⟩ := hw.session
  exact (List.getElem?_eq_some_iff.mp hs).1

theorem hosted (hw : w.Lone i r settings own) : r < w.relay.runtimes.length := by
  have hhosted := hw.secluded.hosted
  simpa [standing, Relay.standing] using hhosted

/-- The channel that the session holds is its own. -/
theorem held (hw : w.Lone i r settings own) (hheld : (w.relay.session i).channel? = some k) :
    k < w.relay.channels.length ∧ (w.relay.channel k).session = i := by
  have hs := List.getElem?_eq_getElem hw.session_lt
  rw [Relay.session_eq hs] at hheld
  exact Relay.session_of_channel? hw.custody hs hheld

/-- A queued session has a hand-off. -/
theorem handoff (hw : w.Lone i r settings own) (hqueued : settings.delivery = .queued)
    (hk : k < w.relay.channels.length) (hsession : (w.relay.channel k).session = i) :
    ∃ q, (w.relay.channel k).handoff = some q := by
  have hx := List.getElem?_eq_getElem hk
  rw [Relay.channel_eq hx] at hsession ⊢
  have hmode := ((of_secluded hw.secluded hx).2 hsession).2
  simpa [hqueued, Option.isSome_iff_exists] using hmode

/-- **Frames for the host are dispatched**, on the channel that the session holds. -/
theorem dispatch_of_delivered? (hw : w.Lone i r settings own) (hqueued : settings.delivery = .queued)
    {points : List Point} (hdelivered : w.delivered? e = some (k, points))
    (hr : (w.relay.channel k).binding.runtime = r) :
    e = .dispatch k ∧ (w.relay.session i).channel? = some k := by
  obtain ⟨x, hx⟩ := channel_of_delivered? hw.custody hdelivered
  have hk := (List.getElem?_eq_some_iff.mp hx).1
  have hsession : (w.relay.channel k).session = i := by
    rw [Relay.channel_eq hx] at hr ⊢
    exact (of_secluded hw.secluded hx).1.mp hr
  obtain ⟨q, hq⟩ := hw.handoff hqueued hk hsession
  refine ⟨?_, ?_⟩
  · unfold delivered? at hdelivered
    split at hdelivered
    · obtain ⟨_, -, hframe⟩ := Option.map_eq_some_iff.mp hdelivered
      exact congrArg Event.dispatch (congrArg Prod.fst hframe)
    · have hdirect := (Option.filter_eq_some_iff.mp hdelivered).2
      simp [hq] at hdirect
  · obtain ⟨j, s, o, hs, ho, rfl⟩ := holder_of_delivered? hw.custody hw.attended hdelivered
    obtain ⟨t, ht, hheld⟩ := Relay.channel?_of_standing hs ho
    have hj := (Relay.session_of_channel? hw.custody ht hheld).2
    obtain rfl : j = i := hj.symm.trans hsession
    rw [Relay.session_eq ht, hheld]

/-- A hand-off of the session was there before, or is new with all its slots. -/
theorem handoff_before (hw : w.Lone i r settings own) (h : Handler σ) (e : Event) (k : Nat)
    (q' : Handoff) (hq : ((w.step h e).2.relay.channel k).handoff = some q')
    (hsession : ((w.step h e).2.relay.channel k).session = i) :
    (k < w.relay.channels.length ∧ (w.relay.channel k).session = i ∧
        ∃ q, (w.relay.channel k).handoff = some q ∧
          (q' = q ∨ q.Moved q' ∨ q' = q.close ∧
            ((w.relay.session i).channel? = some k → i ∈ (w.step h e).2.closing))) ∨
      k = w.relay.channels.length ∧ q' = .ofDepth settings.handoffDepth.toNat := by
  have hold {q : Handoff} (hq₀ : (w.relay.channel k).handoff = some q) :
      k < w.relay.channels.length ∧ (w.relay.channel k).session = i := by
    have hx := Relay.getElem?_of_handoff hq₀
    have hwiring := (wiring_step h e hw.custody hx).1
    exact ⟨(List.getElem?_eq_some_iff.mp hx).1,
      (congrArg Wiring.session hwiring).symm.trans hsession⟩
  cases step_stirs h hw.custody e with
  | kept stirred =>
    obtain ⟨q, hbefore, hmoved⟩ := stirred.origin (Relay.mem_handoffs.mpr hq)
    have hq₀ := Relay.mem_handoffs.mp hbefore
    obtain ⟨hk, hmine⟩ := hold hq₀
    exact .inl ⟨hk, hmine, q, hq₀, hmoved.imp_right .inl⟩
  | shut j s o hs ho closing handoffs =>
    have hafter := Relay.mem_handoffs.mpr hq
    rw [handoffs] at hafter
    obtain ⟨q?, hbefore, hchange⟩ := of_getElem?_modify hafter
    have hq₀ : ∃ q, q? = some q ∧
        (q' = q ∨ k = o.channel ∧ q' = q.close) := by
      rcases hchange with ⟨-, hsame⟩ | ⟨hk, hclose⟩
      · exact ⟨q', hsame.symm, .inl rfl⟩
      · obtain ⟨q, rfl, rfl⟩ := Option.map_eq_some_iff.mp hclose.symm
        exact ⟨q, rfl, .inr ⟨hk, rfl⟩⟩
    obtain ⟨q, rfl, hsame⟩ := hq₀
    have hq₀ := Relay.mem_handoffs.mp hbefore
    obtain ⟨hk, hmine⟩ := hold hq₀
    refine .inl ⟨hk, hmine, q, hq₀, ?_⟩
    rcases hsame with rfl | ⟨rfl, rfl⟩
    · exact .inl rfl
    · -- Whoever closes the hand-off holds it.
      refine .inr (.inr ⟨rfl, fun _ => ?_⟩)
      have hj := (Relay.session_of_channel? hw.custody hs
        (show s.channel? = some o.channel by simp [Session.channel?, ho])).2
      rw [closing, ← hj, hmine]
      exact List.mem_cons_self
  | opened j b hj channels =>
    have hx := Relay.getElem?_of_handoff hq
    rw [channels] at hx
    rcases Nat.lt_or_ge k w.relay.channels.length with hk | hk
    · rw [List.getElem?_append_left hk] at hx
      have hsame := Relay.channel_eq hx
      rw [← hsame] at hq hsession
      exact .inl ⟨hk, hsession, q', hq, .inl rfl⟩
    · have hk' : k = w.relay.channels.length := by
        have hlt := (List.getElem?_eq_some_iff.mp hx).1
        rw [List.length_append, List.length_singleton] at hlt
        omega
      refine .inr ⟨hk', ?_⟩
      subst hk'
      rw [List.getElem?_concat_length] at hx
      rw [← Option.some.inj hx] at hq hsession
      obtain rfl : j = i := hsession
      obtain ⟨s, hs, -, hsettings⟩ := hw.session
      unfold Relay.newChannel at hq
      dsimp only at hq
      rw [Relay.session_eq hs, hsettings] at hq
      cases hdelivery : settings.delivery with
      | synchronous =>
        rw [hdelivery] at hq
        exact absurd hq (by simp)
      | queued =>
        rw [hdelivery] at hq
        exact (Option.some.inj hq).symm

/-- Hand-offs of the session keep their slots, -/
theorem stocked_step (hw : w.Lone i r settings own) (h : Handler σ) (e : Event) (k : Nat)
    (q' : Handoff) (hq : ((w.step h e).2.relay.channel k).handoff = some q')
    (hsession : ((w.step h e).2.relay.channel k).session = i) :
    q'.Stocked settings.handoffDepth.toNat := by
  rcases hw.handoff_before h e k q' hq hsession with
    ⟨-, hmine, q, hq₀, hchange⟩ | ⟨-, rfl⟩
  · have hstocked := hw.stocked k q hq₀ hmine
    rcases hchange with rfl | hmoved | ⟨rfl, -⟩
    · exact hstocked
    · exact hmoved.stocked hstocked
    · exact hstocked.close
  · exact Handoff.stocked_ofDepth _

/-- and accept frames until the session is closed. -/
theorem accepting_step (hw : w.Lone i r settings own) (h : Handler σ) (e : Event) (k : Nat)
    (q' : Handoff) (hheld : ((w.step h e).2.relay.session i).channel? = some k)
    (hfree : i ∉ (w.step h e).2.closing)
    (hq : ((w.step h e).2.relay.channel k).handoff = some q') : q'.accepting = true := by
  have hcustody := hw.custody.shift (step_shift h e hw.custody)
  have hlt : i < (w.step h e).2.relay.sessions.length := by
    rw [length_sessions_step h hw.custody]
    exact hw.session_lt
  have hs := List.getElem?_eq_getElem hlt
  have hsession : ((w.step h e).2.relay.channel k).session = i := by
    rw [Relay.session_eq hs] at hheld
    exact (Relay.session_of_channel? hcustody hs hheld).2
  rcases hw.handoff_before h e k q' hq hsession with ⟨hk, -, q, hq₀, hchange⟩ | ⟨-, rfl⟩
  · have hbefore := channel?_before h e hw.custody hw.session_lt hk hheld
    have hfree₀ : i ∉ w.closing := by
      intro hbegun
      -- A session that has been closed holds nothing.
      obtain ⟨rfl, hdispatched, -⟩ := closed_of_step h hw.custody hbegun hfree
      obtain ⟨-, -, _, _, -, -, hclosed⟩ := closedOff_of_dispatched h hw.custody hbegun hdispatched
      rw [Session.channel?, hclosed.closed.2] at hheld
      exact absurd hheld (by simp)
    have haccepting := hw.accepting k q hbefore hfree₀ hq₀
    rcases hchange with rfl | hmoved | ⟨-, hbegun⟩
    · exact haccepting
    · exact hmoved.accepting.trans haccepting
    · exact absurd (hbegun hbefore) hfree
  · rfl

/-- Threads that have come to the host and not gone. -/
theorem manned_step (hw : w.Lone i r settings own) (hqueued : settings.delivery = .queued)
    (h : Handler σ) (e : Event) (a : Attachment) (ha : a ∈ (w.step h e).2.relay.attachments)
    (har : a.runtime = r) :
    ∃ k, a.thread = .dispatch k ∧ ((w.step h e).2.relay.session i).channel? = some k := by
  -- The thread has been there before, or has just delivered a frame.
  have hbefore : ∃ k, a.thread = .dispatch k ∧ (w.relay.session i).channel? = some k := by
    rcases step_attends h hw.custody e with hnobody | ⟨t, k, points, hdelivered, hthread, hattends⟩
    · exact hw.manned a ((hnobody.attached a ha).resolve_right (by simp)) har
    · rcases hattends.attached a ha with hold | hnew
      · exact hw.manned a hold har
      · obtain ⟨rfl, hruntime⟩ := Prod.mk.inj (Option.some.inj hnew)
        obtain ⟨he, hheld⟩ := hw.dispatch_of_delivered? hqueued hdelivered (hruntime.trans har)
        exact ⟨k, hthread k he, hheld⟩
  obtain ⟨k, hthread, hheld⟩ := hbefore
  refine ⟨k, hthread, channel?_after h e hw.custody hheld hw.session_lt fun hbegun => ?_⟩
  -- If the session has been closed, the thread has ended.
  refine Decidable.byContradiction fun hended => ?_
  obtain ⟨rfl, hdispatched, -⟩ := closed_of_step h hw.custody hbegun hended
  obtain ⟨-, -, s, o, hs, ho, hclosed⟩ := closedOff_of_dispatched h hw.custody hbegun hdispatched
  rw [Relay.session_eq hs] at hheld
  obtain rfl : o.channel = k := by simpa [Session.channel?, ho] using hheld
  exact hclosed.detached a ha hthread

/-- **The invariant is kept** by every step that leaves the session its cameras. -/
theorem step (hw : w.Lone i r settings own) (hqueued : settings.delivery = .queued) (h : Handler σ)
    (hkeeps : e.KeepsTo i own w.relay) : (w.step h e).2.Lone i r settings own where
  custody := hw.custody.shift (step_shift h e hw.custody)
  secluded := by
    refine hw.secluded.shift hw.custody ?_ (step_shift h e hw.custody)
    rintro j p ⟨-, d, key, address, he, htarget⟩
    exact hkeeps j d key address p he htarget
  attuned := by
    refine hw.attuned.shift hw.custody ?_ (step_shift h e hw.custody)
    rintro j p j' hmine ⟨-, d, key, address, he, htarget⟩ hheld
    have hj : j = i := (hkeeps j d key address p he htarget).mp hmine
    exact ((hw.secluded.owned j' p hheld).mp hmine).trans hj.symm
  attended := hw.attended.step h hw.custody e
  stocked := hw.stocked_step h e
  accepting := hw.accepting_step h e
  level := by
    rcases step_attends h hw.custody e with hnobody | ⟨_, _, _, -, -, hattends⟩
    · exact hnobody.level r hw.hosted hw.level
    · exact hattends.level r hw.hosted hw.level
  manned := hw.manned_step hqueued h e

/-- **A run** leaves a lone session alone, if events keep to it. -/
theorem run (hw : w.Lone i r settings own) (hqueued : settings.delivery = .queued) (h : Handler σ)
    (events : List Event) (hkeeps : ∀ e ∈ events, e.KeepsTo i own w.relay) :
    (w.run h events).Lone i r settings own ∧
      (w.run h events).relay.cameras.map Camera.profile = w.relay.cameras.map Camera.profile := by
  induction events generalizing w with
  | nil => exact ⟨hw, rfl⟩
  | cons e rest ih =>
    have hsame := profiles_step h e hw.custody
    obtain ⟨hrun, hprofiles⟩ := ih (hw.step hqueued h (hkeeps e List.mem_cons_self)) fun e' he' =>
      (hkeeps e' (List.mem_cons_of_mem e he')).congr hsame
    exact ⟨hrun, hprofiles.trans hsame⟩

/-- What is left of a schedule leaves the session its cameras, too. -/
theorem split (hw : w.Lone i r settings own) (hqueued : settings.delivery = .queued) (h : Handler σ)
    (es fs : List Event) (hkeeps : ∀ e ∈ es ++ fs, e.KeepsTo i own w.relay) :
    (w.run h es).Lone i r settings own ∧ ∀ e ∈ fs, e.KeepsTo i own (w.run h es).relay := by
  obtain ⟨hrun, hprofiles⟩ :=
    hw.run hqueued h es fun e he => hkeeps e (List.mem_append_left fs he)
  exact ⟨hrun, fun e he => (hkeeps e (List.mem_append_right es he)).congr hprofiles⟩

end Lone

/-- At the start there is nothing to attend to. -/
theorem attended_fresh (profiles : List CameraProfile) (runtimes : Nat)
    (sessions : List (Nat × Settings)) (host : σ) (now : Nat) :
    (fresh profiles runtimes sessions host now).Attended := by
  intro k hwaits
  exact absurd rfl hwaits

/-- Everybody is alone at the start who does not have to share a host. -/
theorem lone_fresh (profiles : List CameraProfile) (runtimes : Nat)
    (sessions : List (Nat × Settings)) (host : σ) (now : Nat) {r : Nat} {settings : Settings}
    {own : Nat → Bool} (hi : sessions[i]? = some (r, settings)) (hr : r < runtimes)
    (halone : ∀ j s, sessions[j]? = some (r, s) → j = i) :
    (fresh profiles runtimes sessions host now).Lone i r settings own where
  custody := custody_fresh profiles runtimes sessions host now
  secluded := (conserving_fresh profiles runtimes sessions host now hi hr halone).secluded
  attuned := by
    obtain ⟨hsole, hconfigured, hfollowing⟩ := attuned_fresh profiles runtimes sessions host now
    exact ⟨fun i j p _ => hsole i j p, fun i s o c _ => hconfigured i s o c,
      fun i s o c _ => hfollowing i s o c⟩
  attended := attended_fresh profiles runtimes sessions host now
  stocked := by
    intro k q hq
    have hnone : ((fresh profiles runtimes sessions host now).relay.channel k).handoff = none := rfl
    exact absurd (hq.symm.trans hnone) (by simp)
  accepting := by
    intro k q _ _ hq
    have hnone : ((fresh profiles runtimes sessions host now).relay.channel k).handoff = none := rfl
    exact absurd (hq.symm.trans hnone) (by simp)
  level := by
    have hfresh : (fresh profiles runtimes sessions host now).relay.runtime r = {} := by
      refine Relay.runtime_eq ?_
      simp [fresh, hr]
    unfold Relay.Level Relay.dues
    rw [hfresh]
    rfl
  manned := by
    intro a ha
    exact absurd ha List.not_mem_nil

end World

end DepthRelay
