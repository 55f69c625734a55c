import DepthRelay.Proofs.AbortedCalls

namespace DepthRelay

/-!
# Runs in which handlers give up

Two runs of the same schedule are compared: in one of them the handlers give up on some frames, in
the other they fail on them.  All cameras show injected frames only, and where frames wait in a
hand-off the handlers answer.

* `World.Plain` — what the first run needs for the comparison; `World.Plain.of_step` keeps it.
* `World.Trails` — the second run, as far as it differs from the first.
* `World.Trails.step` — the step lemma: each event is answered alike, and an injected frame that the
  handler gives up on is one more failure that is not counted.
* `World.Plain.emitted_error_iff` — which events those are.
* `aborted_calls_are_failures` — the same for runs.
-/

variable {σ : Type}

/-! ### Worlds that can be compared -/

/-- The handler of the host at place `r` always answers. -/
def Handler.AnswersAt (h : Handler σ) (r : Nat) : Prop :=
  ∀ d s reason, (h r d s).reply ≠ .aborted reason

/-- Only injected frames are shown, hosts have no failures left over, and handlers answer for frames
    from hand-offs. -/
structure World.Plain (h : Handler σ) (w : World σ) : Prop where
  custody : Custody w.standing
  taken : w.relay.AllTaken
  manual : ∀ c ∈ w.standing.cameras, c.profile.stream = .manual
  sessions : ∀ s ∈ w.standing.sessions, s.settings.delivery = .queued → h.AnswersAt s.runtime
  channels : ∀ x ∈ w.standing.channels, x.queued = true → h.AnswersAt x.binding.runtime

/-- The second run so far, if the sessions have so many failures more. -/
structure World.Trails (owed : Nat → Nat) (v w : World σ) : Prop where
  relay : v.relay.Trails owed w.relay
  host : w.host = v.host
  closing : w.closing = v.closing

/-- The answer if the handler had failed instead. -/
def Response.pardoned : Response → Response
  | .emitted (.error _) => .emitted (.ok true)
  | r => r

namespace World

/-- The session for whose frame the handler gives up in a step, if it does. -/
def abandoned? (h : Handler σ) (e : Event) (w : World σ) : Option Nat :=
  match e, (w.step h e).1 with
  | .emit _ p _, .emitted (.error _) => some (w.relay.hearer p)
  | _, _ => none

/-- For how many frames of the session at place `i` handlers give up in a run. -/
def abandoned (h : Handler σ) (i : Nat) : List Event → World σ → Nat
  | [], _ => 0
  | e :: es, w =>
    (if w.abandoned? h e = some i then 1 else 0) + abandoned h i es (w.step h e).2

end World

/-! ### What is kept -/

namespace Relay.AllTaken

variable {w : Relay} {i : Nat} {s : Session}

/-- Nothing is left over at a host, if all has been taken. -/
theorem runtime (hw : w.AllTaken) (n : Nat) : (w.runtime n).pending = [] := by
  unfold Relay.runtime
  rw [List.getD_eq_getElem?_getD]
  cases hr : w.runtimes[n]? with
  | none => rfl
  | some r => exact hw r (List.mem_of_getElem? hr)

/-- No operation leaves a failure behind. -/
theorem perform {closing : List Nat} (hw : w.AllTaken) (hcustody : Custody (w.standing closing))
    (hs : w.sessions[i]? = some s) (op : Operation) : (op.perform i w).2.AllTaken := by
  intro r' hr'
  cases Relay.perform_hosted op hcustody hs with
  | kept _ runtimes => exact hw r' (runtimes ▸ hr')
  | exposing b r exposed _ runtimes =>
    rw [runtimes] at hr'
    rcases List.mem_or_eq_of_mem_set hr' with hmem | rfl
    · exact hw r' hmem
    · obtain ⟨-, rfl⟩ := Runtime.expose_eq_ok.mp exposed
      exact hw.runtime _
  | ended source _ runtimes => exact hw.exitSource source r' (runtimes ▸ hr')

end Relay.AllTaken

namespace World

variable {h h' : Handler σ} {v w : World σ} {owed : Nat → Nat}

/-- What is fixed stays so, whatever a step does. -/
theorem Plain.of_step (hv : v.Plain h) (e : Event) (htaken : (v.step h e).2.relay.AllTaken) :
    (v.step h e).2.Plain h := by
  have hshift := step_shift h e hv.custody
  refine ⟨hv.custody.shift hshift, htaken, ?_, ?_, ?_⟩
  · intro c hc
    obtain ⟨p, hp⟩ := List.mem_iff_getElem?.mp hc
    obtain ⟨c', hc', hsame⟩ := getElem?_of_map_eq hshift.profiles.symm hp
    rw [← hsame]
    exact hv.manual c' (List.mem_of_getElem? hc')
  · intro s hs
    obtain ⟨i, hi⟩ := List.mem_iff_getElem?.mp hs
    obtain ⟨s', hs', hruntime, hsettings⟩ := hshift.session_before hi
    rw [← hruntime, ← hsettings]
    exact hv.sessions s' (List.mem_of_getElem? hs')
  · intro x hx
    rcases hshift.channels with hsame | ⟨i, s, y, hs, hserves, hnew⟩
    · exact hv.channels x (hsame ▸ hx)
    · rw [hnew] at hx
      rcases List.mem_append.mp hx with hx | hx
      · exact hv.channels x hx
      · -- A new channel is wired as its session says.
        obtain rfl := List.mem_singleton.mp hx
        intro hqueued
        rw [hserves.queued] at hqueued
        rw [hserves.runtime]
        exact hv.sessions s (List.mem_of_getElem? hs) (of_decide_eq_true hqueued)

/-- Handlers answer for frames from a hand-off. -/
theorem Plain.answersAt (hv : v.Plain h) {k : Nat} (hqueued : (v.relay.channel k).handoff ≠ none) :
    h.AnswersAt (v.relay.channel k).binding.runtime := by
  cases hx : v.relay.channels[k]? with
  | none =>
    have hnone : v.relay.channel k = default := by
      unfold Relay.channel
      rw [List.getD_eq_getElem?_getD, hx]
      rfl
    exact absurd (congrArg Channel.handoff hnone) hqueued
  | some x =>
    rw [Relay.channel_eq hx] at hqueued ⊢
    refine hv.channels x.wiring (List.mem_of_getElem? (Relay.channel_standing hx)) ?_
    exact Option.isSome_iff_ne_none.mpr hqueued

theorem Plain.manual' (hv : v.Plain h) : ∀ c ∈ v.relay.cameras, c.profile.stream = .manual :=
  fun c hc => hv.manual c.standing (List.mem_map_of_mem hc)

namespace Trails

theorem ready (hvw : v.Trails owed w) (i : Nat) : w.ready i = v.ready i := by
  unfold World.ready
  rw [hvw.relay.length_sessions, hvw.closing]

theorem camera (hvw : v.Trails owed w) (i : Nat) :
    (w.relay.session i).camera = (v.relay.session i).camera :=
  hvw.relay.session_eq_of Session.camera (fun _ _ _ hs => hs.camera_eq) i

/-- Closing has something left to wait for in both relays, or in neither. -/
theorem dispatched (hvw : v.Trails owed w) (i : Nat) : w.dispatched i = v.dispatched i := by
  unfold World.dispatched
  rw [hvw.camera]
  simp only [hvw.relay.channel]

/-- No session has a source that could wake up. -/
theorem source? (hvw : v.Trails owed w) (i : Nat) : (v.relay.session i).source? = none := by
  rcases hvw.relay.session_cases i with hs | ⟨hnone, -⟩
  · exact hs.source?_eq
  · unfold Relay.session
    rw [List.getD_eq_getElem?_getD, hnone]
    rfl

/-- A step after which nothing more is uncounted. -/
theorem setRelay (hvw : v.Trails owed w) {v' w' : Relay} (h : v'.Trails owed w') :
    (v.setRelay v').Trails owed (w.setRelay w') :=
  ⟨h, hvw.host, hvw.closing⟩

end Trails

/-- What a step of the first run and the same step of the second have in common. -/
structure Matches (owed : Nat → Nat) (x y : Response × World σ) : Prop where
  answer : y.1.gist = x.1.pardoned.gist
  taken : x.2.relay.AllTaken
  trails : x.2.Trails owed y.2

/-- Only a frame that a camera produces can abandon a listener's turn. -/
theorem abandoned?_eq_none {e : Event} (he : ∀ worker p points, e ≠ .emit worker p points) :
    v.abandoned? h e = none := by
  unfold abandoned?
  split
  · next worker p points _ _ => exact absurd rfl (he worker p points)
  · rfl

/-- A produced frame abandons the turn of the session that hears it, when its call is aborted. -/
theorem abandoned?_emit (h : Handler σ) (v : World σ) (worker : String) (p : Nat)
    (points : List Point) :
    v.abandoned? h (.emit worker p points) =
      match (v.toLive.emit h (.worker worker) p points).1 with
      | .error _ => some (v.relay.hearer p)
      | .ok _ => none := by
  unfold abandoned? World.step
  dsimp only
  cases (v.toLive.emit h (.worker worker) p points).1 <;> rfl

namespace Trails

/-- **An operation** is answered alike, and leaves behind what differs in nothing more. -/
theorem operate (hv : v.Plain h) (hvw : v.Trails owed w) (i : Nat) (op : Operation) :
    Matches owed (v.step h (.operate i op)) (w.step h' (.operate i op)) := by
  unfold World.step
  dsimp only
  rw [hvw.ready]
  by_cases hready : v.ready i
  · rw [if_pos hready, if_pos hready]
    have hi := (of_ready hready).1
    obtain ⟨hanswer, hafter⟩ := hvw.relay.perform hi hv.manual' op
    have htaken := hv.taken.perform hv.custody (List.getElem?_eq_getElem hi) op
    exact ⟨congrArg Response.answered hanswer, htaken, hvw.setRelay hafter⟩
  · rw [if_neg hready, if_neg hready]
    exact ⟨rfl, hv.taken, hvw⟩

/-- Both sessions begin to close. -/
theorem beginClose (hv : v.Plain h) (hvw : v.Trails owed w) (i : Nat) :
    Matches owed (v.step h (.beginClose i)) (w.step h' (.beginClose i)) := by
  unfold World.step
  dsimp only
  rw [hvw.ready, hvw.camera]
  by_cases hready : v.ready i
  · rw [if_pos hready, if_pos hready]
    by_cases hheld : (v.relay.session i).camera.isSome
    · rw [if_pos hheld, if_pos hheld]
      obtain ⟨s, o, c, hs, ho, hc⟩ := holder_of_ready hv.custody hready hheld
      have hafter := hvw.relay.beginClose (of_ready hready).1
      refine ⟨rfl, ?_, hafter, hvw.host, congrArg (i :: ·) hvw.closing⟩
      show (v.relay.beginClose i).AllTaken
      rw [Relay.beginClose_eq hs ho hc]
      exact hv.taken.exitSource _
    · rw [if_neg hheld, if_neg hheld]
      exact ⟨rfl, hv.taken, hvw⟩
  · rw [if_neg hready, if_neg hready]
    exact ⟨rfl, hv.taken, hvw⟩

/-- Both sessions are closed, or both wait. -/
theorem endClose (hv : v.Plain h) (hvw : v.Trails owed w) (i : Nat) :
    Matches owed (v.step h (.endClose i)) (w.step h' (.endClose i)) := by
  unfold World.step
  dsimp only
  rw [hvw.dispatched, hvw.closing]
  by_cases hready : v.closing.contains i && v.dispatched i
  · rw [if_pos hready, if_pos hready]
    obtain ⟨s, o, c, hs, ho, hc⟩ := holder_of_closing hv.custody (of_endClose hready).1
    have hafter := hvw.relay.endClose (List.getElem?_eq_some_iff.mp hs).1
    refine ⟨rfl, ?_, hafter, hvw.host, rfl⟩
    show (v.relay.endClose i).AllTaken
    rw [Relay.endClose_eq hs ho hc]
    refine Relay.AllTaken.modify ?_ _ fun r hr => hr
    exact (hv.taken.exitThread _).exitSource _
  · rw [if_neg hready, if_neg hready]
    exact ⟨rfl, hv.taken, hvw⟩

/-- The one event after which more turns can be owed than before. -/
theorem emit (hh : h'.Tames h) (hv : v.Plain h) (hvw : v.Trails owed w) (worker : String) (p : Nat)
    (points : List Point) :
    Matches
      (fun j => owed j + if v.abandoned? h (.emit worker p points) = some j then 1 else 0)
      (v.step h (.emit worker p points)) (w.step h' (.emit worker p points)) := by
  have hemit := Live.emit_followed hh (l := v.toLive) (m := w.toLive) hvw.relay hvw.host
    hv.taken (.worker worker) p points
  rw [abandoned?_emit]
  unfold World.step
  dsimp only
  generalize v.toLive.emit h (.worker worker) p points = x at hemit ⊢
  generalize w.toLive.emit h' (.worker worker) p points = y at hemit ⊢
  cases hemit with
  | alike b host taken trails =>
    refine ⟨rfl, taken, ?_, host, hvw.closing⟩
    simpa using trails
  | aborted reason host taken trails =>
    refine ⟨rfl, taken, ?_, host, hvw.closing⟩
    -- The first run lost a turn here that the second one counts.
    rw [bump_eq_add] at trails
    exact trails

/-- No camera produces frames on its own, so both runs refuse to wake a source. -/
theorem wake (hv : v.Plain h) (hvw : v.Trails owed w) (i : Nat) :
    Matches owed (v.step h (.wake i)) (w.step h' (.wake i)) := by
  have hsource := hvw.source? i
  have hsource' : (w.relay.session i).source? = none := by
    unfold Session.source? at hsource ⊢
    rw [hvw.camera, hsource]
  unfold World.step
  dsimp only
  rw [hsource, hsource']
  exact ⟨rfl, hv.taken, hvw⟩

/-- **The step lemma.** -/
theorem step (hh : h'.Tames h) (hv : v.Plain h) (hvw : v.Trails owed w) (e : Event) :
    Matches (fun j => owed j + if v.abandoned? h e = some j then 1 else 0) (v.step h e)
      (w.step h' e) := by
  -- Only an injection can be given up on, so that nothing more is owed after any other event.
  have hplain (he : ∀ worker p points, e ≠ .emit worker p points) :
      (fun j => owed j + if v.abandoned? h e = some j then 1 else 0) = owed := by
    funext j
    simp [abandoned?_eq_none he]
  cases e with
  | emit worker p points => exact hvw.emit hh hv worker p points
  | operate i op =>
    rw [hplain (by simp)]
    exact hvw.operate hv i op
  | beginClose i =>
    rw [hplain (by simp)]
    exact hvw.beginClose hv i
  | endClose i =>
    rw [hplain (by simp)]
    exact hvw.endClose hv i
  | dispatch k =>
    rw [hplain (by simp)]
    obtain ⟨host, taken, trails⟩ := Live.dispatch_followed hh (l := v.toLive) (m := w.toLive)
      hvw.relay hvw.host hv.taken k hv.answersAt
    exact ⟨rfl, taken, trails, host, hvw.closing⟩
  | wake i =>
    rw [hplain (by simp)]
    exact hvw.wake hv i
  | fail p op s =>
    rw [hplain (by simp)]
    exact ⟨rfl, hv.taken, hvw.setRelay (hvw.relay.modifyCamera p _)⟩
  | clearFaults p =>
    rw [hplain (by simp)]
    exact ⟨rfl, hv.taken, hvw.setRelay (hvw.relay.modifyCamera p _)⟩
  | disableAttach r on =>
    rw [hplain (by simp)]
    exact ⟨rfl, hv.taken.modify r fun _ hr => hr, hvw.setRelay (hvw.relay.modifyRuntime r _)⟩
  | refuseBuffers r fault =>
    rw [hplain (by simp)]
    exact ⟨rfl, hv.taken.modify r fun _ hr => hr, hvw.setRelay (hvw.relay.modifyRuntime r _)⟩
  | exitWorker worker =>
    rw [hplain (by simp)]
    exact ⟨rfl, hv.taken.exitThread _, hvw.setRelay (hvw.relay.exitThread _)⟩
  | pass nanos =>
    rw [hplain (by simp)]
    exact ⟨rfl, hv.taken, hvw.setRelay (hvw.relay.pass _ _)⟩

end Trails

/-- The run lemma. -/
theorem Trails.run (hh : h'.Tames h) (hv : v.Plain h) (hvw : v.Trails owed w)
    (events : List Event) :
    (responses h' events w).map Response.gist =
        (responses h events v).map (fun r => r.pardoned.gist) ∧
      (v.run h events).Plain h ∧
      (v.run h events).Trails (fun i => owed i + v.abandoned h i events) (w.run h' events) := by
  induction events generalizing v w owed with
  | nil => exact ⟨rfl, hv, hvw⟩
  | cons e es ih =>
    obtain ⟨hanswer, htaken, htrails⟩ := hvw.step hh hv e
    obtain ⟨hanswers, hplain, hafter⟩ := ih (hv.of_step e htaken) htrails
    refine ⟨?_, hplain, ?_⟩
    · show (w.step h' e).1.gist :: _ = (v.step h e).1.pardoned.gist :: _
      rw [hanswer]
      exact congrArg _ hanswers
    · simp only [Nat.add_assoc] at hafter
      exact hafter

/-! ### Where runs start -/

/-- At the start there are no sources, no failures, and no hand-off of a handler that gives up. -/
theorem plain_fresh {profiles : List CameraProfile} (runtimes : Nat)
    {sessions : List (Nat × Settings)} (host : σ) (now : Nat)
    (hmanual : ∀ p ∈ profiles, p.stream = .manual)
    (hanswers : ∀ s ∈ sessions, s.2.delivery = .queued → h.AnswersAt s.1) :
    (fresh profiles runtimes sessions host now).Plain h where
  custody := custody_fresh profiles runtimes sessions host now
  taken := by
    intro r hr
    rw [List.eq_of_mem_replicate hr]
  manual := by
    intro c hc
    simp only [standing, Relay.standing, fresh, List.map_map, List.mem_map] at hc
    obtain ⟨p, hp, rfl⟩ := hc
    exact hmanual p hp
  sessions := by
    intro s hs
    simp only [standing, Relay.standing, fresh, List.map_map, List.mem_map] at hs
    obtain ⟨⟨r, settings⟩, hmem, rfl⟩ := hs
    exact hanswers (r, settings) hmem
  channels := by
    intro x hx
    exact absurd hx (by simp [standing, Relay.standing, fresh])

/-- Nothing is owed at the start. -/
theorem trails_fresh (profiles : List CameraProfile) (runtimes : Nat)
    (sessions : List (Nat × Settings)) (host : σ) (now : Nat) :
    (fresh profiles runtimes sessions host now).Trails (fun _ => 0)
      (fresh profiles runtimes sessions host now) where
  relay := by
    refine .mk _ _ fun i => ?_
    show Option.Rel _ (sessions.map _)[i]? (sessions.map _)[i]?
    rw [List.getElem?_map]
    cases sessions[i]? with
    | none => exact .none
    | some s => exact .some (.mk {} rfl rfl)
  host := rfl
  closing := rfl

/-! ### Which frames are given up -/

section Noted

variable {h : Handler σ} {w : World (σ × List (Nat × Delivery))} {reason : Abort}

/-- A step that notes a call notes no other one. -/
theorem noted_once {notes : List (Nat × Delivery)} {r r' : Nat} {d d' : Delivery}
    (hone : notes = w.host.2 ++ [(r, d)]) (hother : notes = w.host.2 ++ [(r', d')]) :
    r = r' ∧ d = d' :=
  Prod.mk.inj (List.singleton_inj.mp (List.append_cancel_left (hone.symm.trans hother)))

/-- Notes that stay the same have no new one at the end. -/
theorem not_noted {notes : List (Nat × Delivery)} {r : Nat} {d : Delivery}
    (hsame : notes = w.host.2) : notes ≠ w.host.2 ++ [(r, d)] := by
  rw [hsame]
  simp

/-- Most steps ask no handler, and are not answered as a frame is. -/
theorem emitted_error_iff_of_idle (x : Response × World (σ × List (Nat × Delivery)))
    (hhost : x.2.host = w.host) (hanswer : ∀ r, x.1 ≠ .emitted r) :
    x.1 = .emitted (.error reason) ↔
      ∃ r d, x.2.host.2 = w.host.2 ++ [(r, d)] ∧ (h r d w.host.1).reply = .aborted reason := by
  refine ⟨fun hx => absurd hx (hanswer _), ?_⟩
  rintro ⟨r, d, hnotes, -⟩
  exact absurd hnotes (not_noted (congrArg Prod.snd hhost))

/-- An injected frame is answered with a reason exactly if the handler has given up on it for that
    reason. -/
theorem emitted_error_iff_of_emit (h : Handler σ) (w : World (σ × List (Nat × Delivery)))
    (worker : String) (p : Nat) (points : List Point) (reason : Abort) :
    (w.step h.noting (.emit worker p points)).1 = .emitted (.error reason) ↔
      ∃ r d, (w.step h.noting (.emit worker p points)).2.host.2 = w.host.2 ++ [(r, d)] ∧
        (h r d w.host.1).reply = .aborted reason := by
  obtain ⟨r, hasked⟩ := Live.emit_asked h.noting w.toLive (.worker worker) p points
  unfold World.step
  dsimp only
  generalize w.toLive.emit h.noting (.worker worker) p points = x at hasked ⊢
  cases hasked with
  | not a host =>
    refine ⟨fun hx => by simp at hx, ?_⟩
    rintro ⟨r', d', hnotes, -⟩
    exact absurd hnotes (not_noted (congrArg Prod.snd host))
  | answered a d host reply =>
    refine ⟨fun hx => by simp at hx, ?_⟩
    rintro ⟨r', d', hnotes, habort⟩
    obtain ⟨rfl, rfl⟩ := noted_once (congrArg Prod.snd host) hnotes
    exact absurd habort (reply reason)
  | aborted reason' d host reply =>
    constructor
    · intro hx
      obtain rfl : reason' = reason := by simpa using hx
      exact ⟨r, d, congrArg Prod.snd host, reply⟩
    · rintro ⟨r', d', hnotes, habort⟩
      obtain ⟨rfl, rfl⟩ := noted_once (congrArg Prod.snd host) hnotes
      obtain rfl : reason' = reason := Reply.aborted.inj (reply.symm.trans habort)
      rfl

/-- Frames from a hand-off are not given up. -/
theorem Plain.not_aborted_of_dispatch (hw : w.Plain h.noting) (k : Nat) {r : Nat} {d : Delivery}
    (hnotes : (w.step h.noting (.dispatch k)).2.host.2 = w.host.2 ++ [(r, d)]) :
    (h r d w.host.1).reply ≠ .aborted reason := by
  have hpassage := Live.dispatch_passage (h := h.noting) (l := w.toLive) k
  change (w.toLive.dispatch h.noting k).host.2 = _ at hnotes
  generalize w.toLive.dispatch h.noting k = v at hpassage hnotes
  generalize (w.relay.takeQueued? k).map (fun x => (k, x.1)) = taken at hpassage
  cases hpassage with
  | idle host lanes => exact absurd hnotes (not_noted (congrArg Prod.snd host))
  | dispatched k points rest lane called lanes after =>
    cases called with
    | not kept => exact absurd hnotes (not_noted (congrArg Prod.snd kept))
    | called d' delivery exposed answered =>
      obtain ⟨rfl, rfl⟩ := noted_once (congrArg Prod.snd answered) hnotes
      have hqueued : (w.relay.channel k).handoff ≠ none := by
        intro hnone
        simp [Relay.lane, Channel.lane, hnone] at lane
      exact hw.answersAt hqueued d' w.host reason

/-- **An injected frame is answered with the reason** for which the handler has given up on it, and
    with nothing else. -/
theorem Plain.emitted_error_iff (hw : w.Plain h.noting)
    (hstill : ∀ i, (w.relay.session i).source? = none) (e : Event) (reason : Abort) :
    (w.step h.noting e).1 = .emitted (.error reason) ↔
      ∃ r d, (w.step h.noting e).2.host.2 = w.host.2 ++ [(r, d)] ∧
        (h r d w.host.1).reply = .aborted reason := by
  cases e with
  | operate i op =>
    -- These events are not answered by a handler, and do not ask one.
    refine emitted_error_iff_of_idle _ ?_ ?_ <;> unfold World.step <;> dsimp only <;> split <;>
      simp [setRelay]
  | beginClose i =>
    refine emitted_error_iff_of_idle _ ?_ ?_ <;> unfold World.step <;> dsimp only <;> split <;>
      (try split) <;> simp [setRelay]
  | endClose i =>
    refine emitted_error_iff_of_idle _ ?_ ?_ <;> unfold World.step <;> dsimp only <;> split <;>
      simp [setRelay]
  | emit worker p points => exact emitted_error_iff_of_emit h w worker p points reason
  | dispatch k =>
    -- A queued handler answers, so that a dispatch thread is never told a reason.
    refine ⟨fun hx => by simp [World.step] at hx, ?_⟩
    rintro ⟨r, d, hnotes, habort⟩
    exact absurd habort (hw.not_aborted_of_dispatch k hnotes)
  | wake i =>
    -- No session has a source.
    have hsame : w.step h.noting (.wake i) = (.unavailable, w) := by
      unfold World.step
      dsimp only
      rw [hstill]
    rw [hsame]
    exact emitted_error_iff_of_idle _ rfl (by simp)
  | fail p op s => exact emitted_error_iff_of_idle _ rfl (by simp [World.step])
  | clearFaults p => exact emitted_error_iff_of_idle _ rfl (by simp [World.step])
  | disableAttach r on => exact emitted_error_iff_of_idle _ rfl (by simp [World.step])
  | refuseBuffers r fault => exact emitted_error_iff_of_idle _ rfl (by simp [World.step])
  | exitWorker worker => exact emitted_error_iff_of_idle _ rfl (by simp [World.step])
  | pass nanos => exact emitted_error_iff_of_idle _ rfl (by simp [World.step])

end Noted

end World

/-- **Frames that handlers give up on.**  The cameras show injected frames only, and where frames
    wait in a hand-off handlers answer.  Let `h` give up on any frames, and let `h'` fail on those
    instead.  Then both runs of a schedule are answered alike, but that an injected frame on which
    `h` gives up is answered with the reason for that; the handlers are called with the same frames;
    and the runs end alike, but that a session of the first run has not counted a failure for each
    of its frames that were given up.  Only moments may differ otherwise. -/
theorem aborted_calls_are_failures {profiles : List CameraProfile} (runtimes : Nat)
    {sessions : List (Nat × Settings)} (host : σ) (now : Nat) {h h' : Handler σ}
    (hmanual : ∀ p ∈ profiles, p.stream = .manual)
    (hanswers : ∀ s ∈ sessions, s.2.delivery = .queued → h.AnswersAt s.1)
    (hh : h'.Tames h) (events : List Event) :
    let w := World.fresh profiles runtimes sessions (host, []) now
    let v := w.run h.noting events
    let v' := w.run h'.noting events
    (w.responses h'.noting events).map Response.gist =
        (w.responses h.noting events).map (fun r => r.pardoned.gist) ∧
      (∀ (before : List Event) (e : Event) (after : List Event) (reason : Abort),
        events = before ++ e :: after →
        let u := w.run h.noting before
        (u.step h.noting e).1 = .emitted (.error reason) ↔
          ∃ r d, (u.step h.noting e).2.host.2 = u.host.2 ++ [(r, d)] ∧
            (h r d u.host.1).reply = .aborted reason) ∧
      v'.host = v.host ∧ v'.relay.cameras = v.relay.cameras ∧
      v'.relay.channels = v.relay.channels ∧ v'.relay.runtimes = v.relay.runtimes ∧
      v'.relay.attachments = v.relay.attachments ∧ v'.closing = v.closing ∧
      v'.relay.sessions.length = v.relay.sessions.length ∧
      ∀ (i : Nat) (s : Session), v.relay.sessions[i]? = some s → ∃ timing : TimingLog,
        timing.gist = s.timing.gist ∧
        v'.relay.sessions[i]? = some
          { s with
            timing := timing
            stats := { s.stats with
              handlerFailures := s.stats.handlerFailures + w.abandoned h.noting i events } } := by
  intro w v v'
  -- Only injections can be given up on: there are no sources, and queued handlers answer.
  have hplain : w.Plain h.noting := World.plain_fresh runtimes (host, []) now hmanual
    fun s hs hqueued d t reason => hanswers s hs hqueued d t.1 reason
  have htrails : w.Trails (fun _ => 0) w := World.trails_fresh profiles runtimes sessions _ now
  obtain ⟨hresponses, -, hend⟩ := htrails.run hh.noting hplain events
  refine ⟨hresponses, ?_, hend.host, hend.relay.cameras, hend.relay.channels, hend.relay.runtimes,
    hend.relay.attachments, hend.closing, hend.relay.length_sessions, ?_⟩
  · intro before e after reason _ u
    obtain ⟨-, hu, hbefore⟩ := htrails.run hh.noting hplain before
    exact hu.emitted_error_iff hbefore.source? e reason
  · intro i s hs
    -- The two sessions are related one by one; the relation says which numbers may differ.
    have hrel := hend.relay.each i
    rw [show (w.run h.noting events).relay.sessions[i]? = some s from hs] at hrel
    change ∃ timing : TimingLog, _ ∧ (w.run h'.noting events).relay.sessions[i]? = _
    generalize (w.run h'.noting events).relay.sessions[i]? = s' at hrel ⊢
    cases hrel with
    | some hs' =>
      obtain ⟨timing, gist, still⟩ := hs'
      rw [Nat.zero_add]
      exact ⟨timing, gist, rfl⟩

/-- Twice a frame is given up on, in two openings of a session: the injection is told the reason,
    and what is delivered afterwards is timed and answered as if the handler had failed, with two
    failures less in the counts. -/
theorem aborted_calls_are_failures_reopened :
    let profiles : List CameraProfile := [{ serial := "A", fd := 3 }]
    let sessions : List (Nat × Settings) := [(0, { maxPoints := 2 })]
    let gaveUp : Abort := .handler "too near"
    let h : Handler Unit := fun _ d host =>
      if d.pointCount = 1 then { reply := .aborted gaveUp, host := host }
      else { reply := .accepted, host := host, elapsed := 3 }
    let h' : Handler Unit := fun _ d host =>
      if d.pointCount = 1 then { reply := .failed "too near", host := host, elapsed := 5 }
      else { reply := .accepted, host := host, elapsed := 4 }
    let one : Event := .emit "W" 0 [⟨1, 2, 3, 0, 0, 0⟩]
    let two : Event := .emit "W" 0 [⟨1, 2, 3, 0, 0, 0⟩, ⟨4, 5, 6, 0, 0, 0⟩]
    let events : List Event :=
      [.operate 0 (.openCamera ⟨3⟩ 5 64), .operate 0 (.start true), one, two,
        .operate 0 .stop, .beginClose 0, .endClose 0, .operate 0 (.openCamera ⟨3⟩ 5 64),
        .operate 0 (.start false), one, two]
    let w := World.fresh profiles 1 sessions ((), []) 0
    h'.Tames h ∧
      (w.responses h.noting events).drop 2 =
        [.emitted (.error gaveUp), .emitted (.ok true),
          .answered (.samples (.ok [⟨0, 3⟩])), .done, .done, .answered (.unit (.ok ())),
          .answered (.unit (.ok ())), .emitted (.error gaveUp), .emitted (.ok true)] ∧
      (w.responses h'.noting events).map Response.gist =
        (w.responses h.noting events).map (fun r => r.pardoned.gist) ∧
      w.abandoned h.noting 0 events = 2 ∧
      ((w.run h.noting events).relay.session 0).stats = { delivered := 2 } ∧
      ((w.run h'.noting events).relay.session 0).stats =
        { delivered := 2, handlerFailures := 2 } := by
  intro profiles sessions gaveUp h h' one two events w
  have hh : h'.Tames h := by
    refine ⟨?_, ?_, ?_⟩
    · intro r d s
      by_cases hone : d.pointCount = 1 <;> simp [h, h', hone]
    · intro r d s hanswered
      simp only [h, h'] at hanswered ⊢
      split
      · next hone => simp [hone] at hanswered
      · rfl
    · intro r d s reason habort
      by_cases hone : d.pointCount = 1
      · exact ⟨"too near", by simp [h', hone]⟩
      · simp [h, hone] at habort
  have hsynchronous : ∀ s ∈ sessions, s.2.delivery ≠ .queued := by decide
  have hmatch := aborted_calls_are_failures 1 () 0
    (by decide : ∀ p ∈ profiles, p.stream = .manual)
    (fun s hs hqueued => absurd hqueued (hsynchronous s hs)) hh events
  rw [show World.fresh profiles 1 sessions ((), []) 0 = w from rfl] at hmatch
  obtain ⟨hresponses, -, -, -, -, -, -, -, -, hends⟩ := hmatch
  have habandoned : w.abandoned h.noting 0 events = 2 := by decide +kernel
  have hlt : 0 < (w.run h.noting events).relay.sessions.length := by decide +kernel
  have hs := List.getElem?_eq_getElem hlt
  obtain ⟨timing, -, hsession⟩ := hends 0 _ hs
  have hstats : ((w.run h.noting events).relay.session 0).stats = { delivered := 2 } := by
    decide +kernel
  refine ⟨hh, by decide +kernel, hresponses, habandoned, hstats, ?_⟩
  rw [Relay.session_eq hsession]
  rw [Relay.session_eq hs] at hstats
  show Stats.owing (w.abandoned h.noting 0 events) _ = _
  rw [hstats, habandoned]
  rfl

end DepthRelay
