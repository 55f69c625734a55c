import DepthRelay.Proofs.Closing
import DepthRelay.Proofs.FailedOperations
import DepthRelay.Proofs.InertChanges
import DepthRelay.Proofs.QueuedDelivery

namespace DepthRelay

/-!
# Stopping before closing

Closing a session does all that stopping does, so that it makes no difference in the end whether the
session has been stopped before, whatever came of that.

* `Session.vacated`, `Relay.vacated` — without all that a session loses when it is closed.
* `Live.dispatch_vacated`, `Relay.vacated_stop`, `Relay.vacated_beginClose` — the frames that wait
  are dispatched alike where that is lost already, and neither stopping nor the first part of
  closing takes anything more.
* `World.Along` — one world comes after another, on the way to the end of closing.
* `close_subsumes_stop` — worlds that a session has been closed in, stopped before or not.
-/

variable {σ : Type}

/-! ### What closing takes -/

/-- The session as it is when its camera is given back, but for the channel: it is closed, its frame
    source has ended, and there is nothing in its log. -/
def Session.vacated (s : Session) : Session :=
  { s with
    state := .closed
    timing := {}
    camera := s.camera.map fun o => { o with device := { o.device with source := none } } }

theorem Session.inert_vacated (n : Nat) : Inert n (fun _ => none) vacated where
  counted _ _ := rfl
  begin? _ _ := rfl
  timed _ _ _ := rfl
  unknown := rfl

/-- A session goes on to hold what it holds. -/
theorem Session.inert_camera (held : Option OpenCamera) :
    Inert 0 id fun s => { s with camera := held } where
  counted _ _ := rfl
  begin? _ _ := rfl
  timed _ _ _ := rfl
  unknown := rfl

namespace Relay

/-- The relay once the session of the channel `k` has lost its run, the camera at place `p`, which
    it holds, and its frame source, and the hand-off is closed; meanwhile the clock has gone on. -/
def vacated (k p n : Nat) (w : Relay) : Relay :=
  (w.altered k p n Camera.release Handoff.close Session.vacated).exitSource
    (w.session (w.channel k).session).source?

/-- To vacate later is to vacate at a later time. -/
theorem vacated_later (k p m n : Nat) (w : Relay) :
    (w.later m).vacated k p n = w.vacated k p (n + m) := by
  have hnow : w.now + m + n = w.now + (n + m) := by omega
  unfold vacated altered
  rw [← hnow]
  rfl

/-- A change that keeps what is held. -/
theorem altered_camera (k : Nat) (w : Relay) :
    w.altered k 0 0 id id
      (fun s => { s with camera := (w.session (w.channel k).session).camera }) = w := by
  have hchannels : (fun x : Channel => { x with handoff := x.handoff.map id }) = id := by
    funext x
    rw [Option.map_id]
    rfl
  have hsessions : w.modifySession (w.channel k).session (fun s =>
      { s with camera := (w.session (w.channel k).session).camera }) =
        w.modifySession (w.channel k).session id := by
    refine modifySession_congr _ fun s hs => ?_
    rw [session_eq hs]
    rfl
  unfold modifySession at hsessions
  rw [List.modify_id] at hsessions
  unfold altered
  rw [hchannels, List.modify_id, List.modify_id]
  exact hsessions

end Relay

namespace Live

variable (h : Handler σ) (k : Nat) (l : Live σ)

theorem session_dispatch :
    ((l.dispatch h k).relay.channel k).session = (l.relay.channel k).session :=
  congrArg Wiring.session (Relay.wiring_of_standing (standing_dispatch [] h l k) k)

/-- A dispatch thread takes nothing from the session. -/
theorem camera_dispatch :
    ((l.dispatch h k).relay.session (l.relay.channel k).session).camera =
      (l.relay.session (l.relay.channel k).session).camera := by
  -- That the session gets what it holds is an inert change.  It changes nothing before the turn of
  -- the thread, and so nothing afterwards.
  generalize hheld : (l.relay.session (l.relay.channel k).session).camera = held
  generalize hf : Relay.altered k 0 0 id id (fun s => { s with camera := held }) = f
  have hbefore : f l.relay = l.relay := by
    rw [← hf, ← hheld]
    exact l.relay.altered_camera k
  have hafter : f (l.dispatch h k).relay = (l.dispatch h k).relay := by
    have hinert := (hf ▸ Relay.inert_altered Handoff.inert_id (Session.inert_camera held)).dispatch
      h l
    unfold mapRelay at hinert
    rw [hbefore] at hinert
    exact (congrArg Live.relay hinert).symm
  have hsession := session_dispatch h k l
  have hlength : (l.dispatch h k).relay.sessions.length = l.relay.sessions.length := by
    have hsame := congrArg Standing.sessions (standing_dispatch [] h l k)
    simpa [Relay.standing] using congrArg List.length hsame
  generalize (l.dispatch h k).relay = v at hafter hsession hlength
  by_cases hi : (l.relay.channel k).session < l.relay.sessions.length
  · obtain ⟨t, ht⟩ : ∃ t, v.sessions[(l.relay.channel k).session]? = some t :=
      ⟨_, List.getElem?_eq_getElem (hlength ▸ hi)⟩
    have hchanged : (f v).sessions[(l.relay.channel k).session]? =
        some { t with camera := held } := by
      rw [← hf, ← hsession]
      exact getElem?_modify_of_some (hsession ▸ ht)
    rw [hafter, ht] at hchanged
    rw [Relay.session_eq ht]
    exact congrArg Session.camera (Option.some.inj hchanged)
  · rw [← hheld]
    unfold Relay.session
    rw [List.getD_eq_getElem?_getD, List.getD_eq_getElem?_getD,
      List.getElem?_eq_none (by omega), List.getElem?_eq_none (by omega)]

/-- **Frames that wait are dispatched alike** where the session has lost its run already. -/
theorem dispatch_vacated (p n : Nat) :
    (l.mapRelay (Relay.vacated k p n)).dispatch h k =
      (l.dispatch h k).mapRelay (Relay.vacated k p n) := by
  -- The frame source that ends is the same before the turn and afterwards.
  have hsource : ((l.dispatch h k).relay.session
      ((l.dispatch h k).relay.channel k).session).source? =
        (l.relay.session (l.relay.channel k).session).source? := by
    unfold Session.source?
    rw [session_dispatch, camera_dispatch]
  have haltered := Relay.inert_altered (k := k) (p := p) (a := Camera.release)
    Handoff.inert_close (Session.inert_vacated n)
  unfold mapRelay Relay.vacated
  rw [hsource]
  cases (l.relay.session (l.relay.channel k).session).source? with
  | none => exact haltered.dispatch h l
  | some source =>
    exact ((Relay.inert_exitThread (u := .source source.run) (by simp)).comp haltered).dispatch h l

end Live

/-! ### What stopping and closing take -/

/-- The session with an empty log. -/
def Session.logless (s : Session) : Session := { s with timing := {} }

namespace Relay

variable {w : Relay} {i : Nat} {s : Session} {o : OpenCamera} {c : Camera Nat}

/-- What is vacated in a relay, piece by piece. -/
theorem vacated_eq (hs : w.sessions[i]? = some s) (ho : s.camera = some o)
    (hc : w.cameras[o.device.camera]? = some c) (hi : (w.channel o.channel).session = i) (n : Nat) :
    w.vacated o.channel o.device.camera n =
      (((w.later n).update i s.vacated o.device.camera c.release).modifyChannel o.channel
        fun x => { x with handoff := x.handoff.map Handoff.close }).exitSource o.device.source := by
  have hsource : s.source? = o.device.source := by simp [Session.source?, ho]
  unfold vacated altered
  rw [hi, session_eq hs, hsource, modify_of_getElem? _ hs, modify_of_getElem? _ hc]
  rfl

/-- Changes of the session and its camera do not show if both end up the same, and if the frame
    source has ended whenever the session has lost it. -/
theorem vacated_update (hs : w.sessions[i]? = some s) (ho : s.camera = some o)
    (hc : w.cameras[o.device.camera]? = some c) (hi : (w.channel o.channel).session = i)
    {s' : Session} {source : Option Source} {c' : Camera Nat} {ended : Option Source}
    (ho' : s'.camera = some { o with device := { o.device with source } })
    (hs' : s'.vacated = s.vacated) (hc' : c'.release = c.release)
    (hended : source = none ∧ ended = o.device.source ∨ source = o.device.source ∧ ended = none)
    (n : Nat) :
    ((w.exitSource ended).update i s' o.device.camera c').vacated o.channel o.device.camera n =
      w.vacated o.channel o.device.camera n := by
  have hw := vacated_eq hs ho hc hi n
  have hv := vacated_eq (w := (w.exitSource ended).update i s' o.device.camera c')
    (o := { o with device := { o.device with source } })
    (getElem?_set_of_some (by rw [sessions_exitSource]; exact hs)) ho'
    (getElem?_set_of_some (by rw [cameras_exitSource]; exact hc))
    (by rw [channel_of_channels (v := update ..) (channels_exitSource _ w)]; exact hi) n
  dsimp only at hv
  rw [hw, hv, hs', hc']
  -- The frame source ends once: in the change, or else when the rest is lost.
  rcases hended with ⟨rfl, rfl⟩ | ⟨rfl, rfl⟩
  · cases o.device.source <;> simp [exitSource, later, update, exitThread, modifyChannel]
  · cases o.device.source <;> simp [exitSource, later, update, exitThread, modifyChannel]

/-- **Stopping takes nothing** that closing does not take, whether it fails or not. -/
theorem vacated_stop (hs : w.sessions[i]? = some s) (ho : s.camera = some o)
    (hc : w.cameras[o.device.camera]? = some c) (hi : (w.channel o.channel).session = i) (n : Nat) :
    (w.stop i).2.vacated o.channel o.device.camera n =
      w.vacated o.channel o.device.camera n := by
  by_cases hstate : s.state = .capturing
  · rw [stop_eq hs ho hc hstate]
    cases c.obstacle? .stopCapture with
    | some e => rfl
    | none =>
      dsimp only [ended]
      rw [exitSource_update]
      refine vacated_update hs ho hc hi ?held ?_ ?_ (.inl ⟨rfl, rfl⟩) n
      case held => rfl
      · simp [Session.vacated, ho]
      · rfl
  · rw [stop_of_ne hs hstate]

/-- Closing the hand-off a second time changes nothing. -/
theorem vacated_closeHandoff (k p n : Nat) (w : Relay) :
    (w.modifyChannel k fun x => { x with handoff := x.handoff.map Handoff.close }).vacated k p n =
      w.vacated k p n := by
  have htwice : (fun x : Channel => { x with handoff := x.handoff.map Handoff.close }) ∘
      (fun x : Channel => { x with handoff := x.handoff.map Handoff.close }) =
        fun x : Channel => { x with handoff := x.handoff.map Handoff.close } := by
    funext x
    cases hq : x.handoff <;> simp [hq, Handoff.close]
  unfold vacated altered
  rw [session_modifyHandoff]
  unfold modifyChannel
  dsimp only
  rw [List.modify_modify_eq, htwice]
  rfl

/-- **Nor does the first part of closing.** -/
theorem vacated_beginClose (hs : w.sessions[i]? = some s) (ho : s.camera = some o)
    (hc : w.cameras[o.device.camera]? = some c) (hi : (w.channel o.channel).session = i) (n : Nat) :
    (w.beginClose i).vacated o.channel o.device.camera n =
      w.vacated o.channel o.device.camera n := by
  rw [beginClose_eq hs ho hc, vacated_closeHandoff]
  have hheld : (halted s o c).camera = some { o with
      device := { o.device with source := if stops s c then none else o.device.source } } := rfl
  refine vacated_update hs ho hc hi hheld ?_ ?_ ?_ n
  · simp [Session.vacated, halted, ho]
  · rfl
  · cases stops s c with
    | true => exact .inl ⟨rfl, rfl⟩
    | false => exact .inr ⟨rfl, rfl⟩

/-- What the second part of closing makes of a relay that has lost all the rest. -/
def left (k i : Nat) (w : Relay) : Relay :=
  ((w.exitThread (.dispatch k)).modifySession i Session.closed).modifyRuntime
    (w.session i).runtime (Runtime.retract (w.channel k).view)

/-- A hand-off that accepts nothing is closed already. -/
theorem closeHandoff_of_shut {k : Nat} (hshut : (w.channel k).Shut) :
    (w.modifyChannel k fun x => { x with handoff := x.handoff.map Handoff.close }) = w := by
  unfold modifyChannel
  cases hx : w.channels[k]? with
  | none => rw [modify_of_getElem?_eq_none _ hx]
  | some x =>
    have hsame : ({ x with handoff := x.handoff.map Handoff.close } : Channel) = x := by
      rw [channel_eq hx] at hshut
      cases hq : x.handoff with
      | none => rw [Option.map_none, ← hq]
      | some q =>
        have hclosed : q.close = q := by
          unfold Handoff.close
          rw [← hshut q hq]
        rw [Option.map_some, hclosed, ← hq]
    rw [modify_of_getElem? _ hx, hsame, set_of_getElem? hx]

/-- **The second part of closing** ends with what is left, but for the log of the last run. -/
theorem endClose_logless (hs : w.sessions[i]? = some s) (ho : s.camera = some o)
    (hc : w.cameras[o.device.camera]? = some c) (hi : (w.channel o.channel).session = i)
    (hshut : (w.channel o.channel).Shut) :
    (w.endClose i).modifySession i Session.logless =
      (w.vacated o.channel o.device.camera 0).left o.channel i := by
  have hvacated : w.vacated o.channel o.device.camera 0 =
      (w.exitSource o.device.source).update i s.vacated o.device.camera c.release := by
    rw [vacated_eq hs ho hc hi, ← exitSource_update]
    -- The hand-off has been closed, so that to close it again changes nothing.
    refine congrArg (exitSource o.device.source) ?_
    exact congrArg (update i s.vacated o.device.camera c.release) (closeHandoff_of_shut hshut)
  -- The two threads end in either order.
  have hended : (w.exitThread (.dispatch o.channel)).exitSource o.device.source =
      (w.exitSource o.device.source).exitThread (.dispatch o.channel) := by
    cases o.device.source with
    | none => rfl
    | some source => exact exitThread_comm w
  have hview : (w.channel o.channel).view =
      ((w.exitSource o.device.source).channel o.channel).view := by
    rw [channel_of_channels (channels_exitSource _ w)]
  rw [hvacated, endClose_eq hs ho hc, hended, hview]
  have hs' : (w.exitSource o.device.source).sessions[i]? = some s := by
    rw [sessions_exitSource]
    exact hs
  generalize w.exitSource o.device.source = u at hs'
  have hsession : (u.update i s.vacated o.device.camera c.release).session i = s.vacated :=
    session_eq (getElem?_set_of_some hs')
  -- Without its log the session is as closed either way.
  have hsessions : (u.sessions.set i s.closed).modify i Session.logless =
      (u.sessions.set i s.vacated).modify i Session.closed := by
    rw [modify_of_getElem? _ (getElem?_set_of_some hs'), modify_of_getElem? _
      (getElem?_set_of_some hs'), List.set_set, List.set_set]
    rfl
  unfold left
  rw [hsession]
  unfold modifySession
  exact congrArg (fun sessions => { (((u.exitThread (.dispatch o.channel)).update i s.closed
    o.device.camera c.release).modifyRuntime s.runtime
      (Runtime.retract (u.channel o.channel).view)) with sessions := sessions }) hsessions

end Relay

/-! ### Turns of the dispatch thread -/

/-- Nothing happens but that the dispatch thread of the channel `k` has a turn, or time passes. -/
def Event.Meanwhile (k : Nat) (e : Event) : Prop := e = .dispatch k ∨ ∃ nanos, e = .pass nanos

/-- Nanoseconds that pass in a step by itself. -/
def Event.nanos : Event → Nat
  | .pass nanos => nanos
  | _ => 0

namespace Live

variable (h : Handler σ) (k : Nat) (l : Live σ)

/-- Frames are dispatched in two goes as in one. -/
theorem dispatchMany_add (m n : Nat) :
    l.dispatchMany h k (m + n) = (l.dispatchMany h k m).dispatchMany h k n := by
  induction m generalizing l with
  | zero => rw [Nat.zero_add]; rfl
  | succ m ih =>
    rw [Nat.succ_add]
    exact ih (l.dispatch h k)

/-- A dispatch thread for which no frame waits does nothing. -/
theorem dispatchMany_of_idle (hidle : (l.relay.lane k).1 = []) (n : Nat) :
    l.dispatchMany h k n = l := by
  have hdispatch : l.dispatch h k = l := by
    unfold dispatch
    cases htake : l.relay.takeQueued? k with
    | none => rfl
    | some taken =>
      obtain ⟨q, rest, hq, hqueue, -⟩ := Relay.takeQueued?_eq_some htake
      rw [Relay.lane, Channel.lane_of_some hq, hqueue] at hidle
      exact absurd hidle (by simp)
  induction n with
  | zero => rfl
  | succ n ih =>
    show (l.dispatch h k).dispatchMany h k n = l
    rw [hdispatch]
    exact ih

/-- **The frames that wait are dispatched alike** where a session is vacated. -/
theorem dispatchMany_vacated (p n turns : Nat) :
    (l.mapRelay (Relay.vacated k p n)).dispatchMany h k turns =
      (l.dispatchMany h k turns).mapRelay (Relay.vacated k p n) := by
  induction turns generalizing l with
  | zero => rfl
  | succ turns ih =>
    show ((l.mapRelay _).dispatch h k).dispatchMany h k turns = _
    rw [dispatch_vacated]
    exact ih (l.dispatch h k)

end Live

namespace World

/-- The world `v` comes after `w`, and but for what closing takes, the dispatch thread of the
    channel `k` has had so many turns in between, and so much time has passed. -/
structure Along (h : Handler σ) (p k turns nanos : Nat) (w v : World σ) : Prop where
  lane : (v.relay.lane k).1 = (w.relay.lane k).1.drop turns
  vacated : ∀ n, v.toLive.mapRelay (Relay.vacated k p n) =
    (w.toLive.mapRelay (Relay.vacated k p (n + nanos))).dispatchMany h k turns

variable {h : Handler σ} {u v w : World σ} {i p k turns turns' nanos nanos' : Nat} {e : Event}

/-- One stretch after another. -/
theorem Along.trans (hwv : Along h p k turns nanos w v) (hvu : Along h p k turns' nanos' v u) :
    Along h p k (turns + turns') (nanos + nanos') w u where
  lane := by rw [hvu.lane, hwv.lane, List.drop_drop]
  vacated n := by
    rw [hvu.vacated, hwv.vacated, Live.dispatchMany_add, Nat.add_assoc, Nat.add_comm nanos']

/-- A step in which no frame is injected lets the frames that wait go on waiting, but for one that
    the dispatch thread delivers. -/
theorem Serving.lane_quiet (hw : w.Serving) (hreturns : h.Returns) (hquiet : w.injected? e = none)
    (k : Nat) :
    ((w.step h e).2.relay.lane k).1 = (w.relay.lane k).1.drop ([e].count (.dispatch k)) := by
  have harrived : w.arrived? e = none := by simp [arrived?, hquiet]
  have hkept : w.kept? e = none := by simp [kept?, harrived]
  have hdelivered : onChannel k (w.delivered? e) =
      (w.relay.lane k).1.take ([e].count (.dispatch k)) := by
    by_cases he : e = .dispatch k
    · subst he
      rw [hw.delivered?_dispatch, List.count_singleton_self]
    · rw [List.count_singleton, if_neg (by simpa using he), List.take_zero]
      refine List.eq_nil_iff_forall_not_mem.mpr fun points hmem => ?_
      have hframe := mem_onChannel.mp hmem
      unfold delivered? at hframe
      split at hframe
      · obtain ⟨_, -, hplace⟩ := Option.map_eq_some_iff.mp hframe
        exact he (congrArg Event.dispatch (congrArg Prod.fst hplace))
      · rw [harrived] at hframe
        exact absurd hframe (by simp)
  rcases step_lane h e hw.custody k with ⟨-, hqueue, -⟩ | ⟨hlost, -⟩
  · rw [hkept, onChannel_none, List.append_nil, hdelivered] at hqueue
    exact List.append_cancel_left (hqueue.symm.trans (List.take_append_drop _ _).symm)
  · -- A hand-off loses what waits only with its thread.
    exact absurd hlost ((hw.step hreturns e).fed.lane_ne_lost k)

/-- Once nothing waits, further turns make no difference. -/
theorem Serving.dispatchMany_eq (hw : w.Serving) (hreturns : h.Returns)
    (hturns : (w.relay.lane k).1.length ≤ turns) (hturns' : (w.relay.lane k).1.length ≤ turns') :
    w.toLive.dispatchMany h k turns = w.toLive.dispatchMany h k turns' := by
  have hidle (hzero : (w.relay.lane k).1.length ≤ 0) : (w.relay.lane k).1 = [] :=
    List.length_eq_zero_iff.mp (Nat.le_zero.mp hzero)
  induction turns generalizing w turns' with
  | zero => exact (Live.dispatchMany_of_idle h k _ (hidle hturns) turns').symm
  | succ turns ih =>
    cases turns' with
    | zero => exact Live.dispatchMany_of_idle h k _ (hidle hturns') (turns + 1)
    | succ turns' =>
      -- After one turn on either side, one frame less waits.
      have hlane := hw.lane_quiet (e := .dispatch k) hreturns rfl k
      rw [List.count_singleton_self] at hlane
      refine ih (w := (w.step h (.dispatch k)).2) (hw.step hreturns _) ?_ ?_ fun hzero => ?_
      · rw [hlane, List.length_drop]
        omega
      · rw [hlane, List.length_drop]
        omega
      · exact List.length_eq_zero_iff.mp (Nat.le_zero.mp hzero)

/-! ### The way to the end of closing -/

/-- The session at place `i` takes calls and holds the camera at place `p`, with the channel `k`. -/
structure Seated (i p k : Nat) (w : World σ) : Prop where
  free : i ∉ w.closing
  held : ∃ s o, w.relay.sessions[i]? = some s ∧ s.camera = some o ∧ o.device.camera = p ∧
    o.channel = k

theorem Seated.step (hw : w.Seated i p k) (hcustody : Custody w.standing)
    (hclosing : (w.step h e).2.closing = w.closing) : (w.step h e).2.Seated i p k :=
  ⟨hclosing ▸ hw.free, held_step hcustody hw.held fun hi => absurd hi hw.free⟩

/-- A session that is seated, with its camera and its channel. -/
theorem Seated.held_eq (hw : w.Seated i p k) (hcustody : Custody w.standing) :
    ∃ s o c, w.relay.sessions[i]? = some s ∧ s.camera = some o ∧
      w.relay.cameras[o.device.camera]? = some c ∧ (w.relay.channel o.channel).session = i ∧
      o.device.camera = p ∧ o.channel = k := by
  obtain ⟨s, o, hs, ho, hp, hk⟩ := hw.held
  obtain ⟨c, hc⟩ := (Relay.of_custody hcustody hs).2 o ho
  have hchannel : s.channel? = some o.channel := by simp [Session.channel?, ho]
  exact ⟨s, o, c, hs, ho, hc, (Relay.session_of_channel? hcustody hs hchannel).2, hp, hk⟩

/-- A step meanwhile goes on with the frames that wait, and with nothing else of the session. -/
theorem Serving.along_meanwhile (hw : w.Serving) (hreturns : h.Returns) (p : Nat)
    (he : e.Meanwhile k) :
    Along h p k ([e].count (.dispatch k)) e.nanos w (w.step h e).2 where
  lane := by
    refine hw.lane_quiet hreturns ?_ k
    rcases he with rfl | ⟨nanos, rfl⟩ <;> rfl
  vacated n := by
    rcases he with rfl | ⟨nanos, rfl⟩
    · rw [List.count_singleton_self]
      exact (Live.dispatch_vacated h k w.toLive p n).symm
    · rw [List.count_singleton, if_neg (by simp)]
      exact congrArg (Live.mk · w.host) (Relay.vacated_later k p nanos n w.relay)

/-- So do any number of them. -/
theorem Serving.along_run (hw : w.Serving) (hreturns : h.Returns) (p : Nat) (during : List Event)
    (hduring : ∀ e ∈ during, e.Meanwhile k) :
    Along h p k (during.count (.dispatch k)) (during.map Event.nanos).sum w (w.run h during) := by
  induction during generalizing w with
  | nil => exact ⟨rfl, fun n => rfl⟩
  | cons e rest ih =>
    have hstep := hw.along_meanwhile hreturns p (hduring e List.mem_cons_self)
    have hrest := ih (hw.step hreturns e) fun e' he' => hduring e' (List.mem_cons_of_mem e he')
    have hcount : (e :: rest).count (.dispatch k) =
        [e].count (.dispatch k) + rest.count (.dispatch k) := by
      rw [← List.count_append]
      rfl
    rw [hcount, List.map_cons, List.sum_cons]
    exact hstep.trans hrest

/-- Steps meanwhile close nothing. -/
theorem closing_run (w : World σ) (during : List Event)
    (hduring : ∀ e ∈ during, e.Meanwhile k) : (w.run h during).closing = w.closing := by
  induction during generalizing w with
  | nil => rfl
  | cons e rest ih =>
    have hclosing : (w.step h e).2.closing = w.closing := by
      rcases hduring e List.mem_cons_self with rfl | ⟨nanos, rfl⟩ <;> rfl
    exact (ih _ fun e' he' => hduring e' (List.mem_cons_of_mem e he')).trans hclosing

/-- A session stays seated meanwhile. -/
theorem Serving.seated_run (hw : w.Serving) (hreturns : h.Returns) (hseated : w.Seated i p k)
    (during : List Event) (hduring : ∀ e ∈ during, e.Meanwhile k) :
    (w.run h during).Seated i p k := by
  induction during generalizing w with
  | nil => exact hseated
  | cons e rest ih =>
    have hclosing : (w.step h e).2.closing = w.closing := by
      rcases hduring e List.mem_cons_self with rfl | ⟨nanos, rfl⟩ <;> rfl
    exact ih (hw.step hreturns e) (hseated.step hw.custody hclosing)
      fun e' he' => hduring e' (List.mem_cons_of_mem e he')

/-- **Stopping** takes nothing that closing does not take. -/
theorem Serving.along_stop (hw : w.Serving) (hreturns : h.Returns) (hseated : w.Seated i p k) :
    Along h p k 0 0 w (w.step h (.operate i .stop)).2 ∧
      (w.step h (.operate i .stop)).2.closing = w.closing := by
  obtain ⟨s, o, c, hs, ho, hc, hi, rfl, rfl⟩ := hseated.held_eq hw.custody
  have hready : w.ready i = true := by
    simp [ready, (List.getElem?_eq_some_iff.mp hs).1, hseated.free]
  refine ⟨⟨hw.lane_quiet hreturns rfl _, fun n => ?_⟩, ?_⟩
  · rw [step_operate hready]
    exact congrArg (Live.mk · w.host) (Relay.vacated_stop hs ho hc hi n)
  · rw [step_operate hready]
    rfl

/-- **The first part of closing** takes nothing that is not lost in the end. -/
theorem Serving.along_beginClose (hw : w.Serving) (hreturns : h.Returns)
    (hseated : w.Seated i p k) :
    Along h p k 0 0 w (w.step h (.beginClose i)).2 ∧
      (w.step h (.beginClose i)).2.Draining i p k ∧
      (w.step h (.beginClose i)).2.closing = i :: w.closing := by
  obtain ⟨s, o, c, hs, ho, hc, hi, rfl, rfl⟩ := hseated.held_eq hw.custody
  refine ⟨⟨hw.lane_quiet hreturns rfl _, fun n => ?_⟩,
    (draining_of_beginClose hw.custody hs hseated.free ho).1, ?_⟩
  · rw [step_beginClose_of_held hs hseated.free ho]
    exact congrArg (Live.mk · w.host) (Relay.vacated_beginClose hs ho hc hi n)
  · rw [step_beginClose_of_held hs hseated.free ho]

/-- **The way to the end of closing**, from the time when the session still takes calls. -/
theorem Serving.along_close (hw : w.Serving) (hreturns : h.Returns) (hseated : w.Seated i p k)
    (before after : List Event) (hbefore : ∀ e ∈ before, e.Meanwhile k)
    (hafter : ∀ e ∈ after, e.Meanwhile k) :
    let v := w.run h (before ++ .beginClose i :: after)
    Along h p k (before.count (.dispatch k) + after.count (.dispatch k))
        ((before.map Event.nanos).sum + (after.map Event.nanos).sum) w v ∧
      v.Serving ∧ v.Draining i p k ∧ v.closing = i :: w.closing := by
  intro v
  have hclosable := hw.seated_run hreturns hseated before hbefore
  have hserving := hw.run hreturns before
  obtain ⟨hbegin, hdraining, hclosing⟩ := hserving.along_beginClose hreturns hclosable
  have hwaiting := hserving.step hreturns (.beginClose i)
  have hv : v = ((w.run h before).step h (.beginClose i)).2.run h after := run_append h _ _ w
  have hduring : .endClose i ∉ after := fun hmem => by
    rcases hafter _ hmem with he | ⟨nanos, he⟩ <;> exact absurd he (by simp)
  rw [hv]
  have hrest := hwaiting.along_run hreturns p after hafter
  have halong := ((hw.along_run hreturns p before hbefore).trans hbegin).trans hrest
  rw [Nat.add_zero, Nat.add_zero] at halong
  refine ⟨halong, hwaiting.run hreturns after,
    (hdraining.run hwaiting hreturns after hduring).1, ?_⟩
  rw [closing_run _ after hafter, hclosing, closing_run w before hbefore]

/-- The same way with a stop on it. -/
theorem Serving.along_stop_close (hw : w.Serving) (hreturns : h.Returns)
    (hseated : w.Seated i p k) (before between after : List Event)
    (hbefore : ∀ e ∈ before, e.Meanwhile k) (hbetween : ∀ e ∈ between, e.Meanwhile k)
    (hafter : ∀ e ∈ after, e.Meanwhile k) :
    let v := w.run h (before ++ .operate i .stop :: (between ++ .beginClose i :: after))
    Along h p k (before.count (.dispatch k) +
          (between.count (.dispatch k) + after.count (.dispatch k)))
        ((before.map Event.nanos).sum +
          ((between.map Event.nanos).sum + (after.map Event.nanos).sum)) w v ∧
      v.Serving ∧ v.Draining i p k ∧ v.closing = i :: w.closing := by
  intro v
  have hstoppable := hw.seated_run hreturns hseated before hbefore
  have hserving := hw.run hreturns before
  obtain ⟨hstop, hsame⟩ := hserving.along_stop hreturns hstoppable
  obtain ⟨hclose, hv_serving, hdraining, hclosing⟩ :=
    (hserving.step hreturns (.operate i .stop)).along_close hreturns
      (hstoppable.step hserving.custody hsame) between after hbetween hafter
  have halong := ((hw.along_run hreturns p before hbefore).trans hstop).trans hclose
  rw [Nat.add_zero, Nat.add_zero] at halong
  have hv : v = ((w.run h before).step h (.operate i .stop)).2.run h
      (between ++ .beginClose i :: after) := run_append h _ _ w
  rw [hv]
  exact ⟨halong, hv_serving, hdraining, by rw [hclosing, hsame, closing_run w before hbefore]⟩

/-! ### The end of closing -/

/-- The world with the log of a session emptied. -/
def logless (i : Nat) (w : World σ) : World σ :=
  w.setRelay (w.relay.modifySession i Session.logless)

/-- **The end of closing** comes once nothing waits, and leaves what all ways to it lead to. -/
theorem Draining.endClose_logless (hw : w.Draining i p k) (hserving : w.Serving)
    (hdone : (w.step h (.endClose i)).1 = .done) :
    (w.step h (.endClose i)).2.logless i =
      { toLive := (w.toLive.mapRelay (Relay.vacated k p 0)).mapRelay (Relay.left k i)
        closing := w.closing.filter (· ≠ i) } := by
  obtain ⟨s, o, hs, ho, rfl, rfl⟩ := hw.held
  obtain ⟨c, hc⟩ := (Relay.of_custody hserving.custody hs).2 o ho
  have hi := (hw.channel_eq_some hserving.custody).2
  rw [(step_endClose_of_done hdone).2]
  exact congrArg (fun v : Relay => ({ w.setRelay v with
    closing := w.closing.filter (· ≠ i) } : World σ)) (Relay.endClose_logless hs ho hc hi hw.shut)

/-- **All ways to the end of closing lead to the same world**, but for the log of the last run. -/
theorem Along.endClose (hw : w.Serving) (hreturns : h.Returns)
    (hu : Along h p k turns nanos w u) (hv : Along h p k turns' nanos w v)
    (hturns : (w.relay.lane k).1.length ≤ turns) (hturns' : (w.relay.lane k).1.length ≤ turns')
    (hu_serving : u.Serving) (hv_serving : v.Serving) (hu_draining : u.Draining i p k)
    (hv_draining : v.Draining i p k) (hclosing : u.closing = v.closing) :
    (u.step h (.endClose i)).1 = .done ∧ (v.step h (.endClose i)).1 = .done ∧
      (u.step h (.endClose i)).2.logless i = (v.step h (.endClose i)).2.logless i := by
  have hu_done : (u.step h (.endClose i)).1 = .done := by
    rw [hu_draining.endClose_iff hu_serving, hu.lane, List.drop_eq_nil_iff]
    exact hturns
  have hv_done : (v.step h (.endClose i)).1 = .done := by
    rw [hv_draining.endClose_iff hv_serving, hv.lane, List.drop_eq_nil_iff]
    exact hturns'
  refine ⟨hu_done, hv_done, ?_⟩
  rw [hu_draining.endClose_logless hu_serving hu_done,
    hv_draining.endClose_logless hv_serving hv_done, hu.vacated, hv.vacated,
    Live.dispatchMany_vacated, Live.dispatchMany_vacated,
    hw.dispatchMany_eq hreturns hturns hturns', hclosing]

/-- The session at place `i` takes calls and holds no camera. -/
structure Retired (i : Nat) (w : World σ) : Prop where
  custody : Custody w.standing
  present : i < w.relay.sessions.length
  free : i ∉ w.closing
  camera : (w.relay.session i).camera = none

/-- **At the end of closing** nothing of the session is left. -/
theorem Draining.retired (hw : w.Draining i p k) (hserving : w.Serving) (hreturns : h.Returns)
    (hdone : (w.step h (.endClose i)).1 = .done) : (w.step h (.endClose i)).2.Retired i := by
  obtain ⟨s, o, hs, -⟩ := hw.held
  obtain ⟨hfree, hclosed⟩ := hw.closedOff hserving.custody hdone
  refine ⟨(hserving.step hreturns _).custody, ?_, hfree, hclosed.closed.2⟩
  rw [length_sessions_step h hserving.custody]
  exact (List.getElem?_eq_some_iff.mp hs).1

/-- A retired session is closed. -/
theorem Retired.state (hw : w.Retired i) : (w.relay.session i).state = .closed := by
  have hs := List.getElem?_eq_getElem hw.present
  have hcamera := hw.camera
  rw [Relay.session_eq hs] at hcamera ⊢
  exact (Relay.of_custody hw.custody hs).1.mpr hcamera

/-- There is nothing to stop, -/
theorem Retired.step_stop (hw : w.Retired i) : (w.step h (.operate i .stop)).2 = w := by
  have hs := List.getElem?_eq_getElem hw.present
  have hstate := hw.state
  rw [Relay.session_eq hs] at hstate
  have hready : w.ready i = true := by simp [ready, hw.present, hw.free]
  have hstop := Relay.stop_of_ne hs (by simp [hstate])
  rw [step_operate hready]
  exact congrArg w.setRelay (congrArg Prod.snd hstop)

/-- and nothing to close. -/
theorem Retired.step_beginClose (hw : w.Retired i) : w.step h (.beginClose i) = (.done, w) := by
  have hready : w.ready i = true := by simp [ready, hw.present, hw.free]
  unfold step
  dsimp only
  rw [if_pos hready, if_neg (by simp [hw.camera])]

/-- What is left in the log of its last run cannot be seen. -/
theorem Retired.blurred_logless (hw : w.Retired i) : (w.logless i).blurred = w.blurred := by
  have hsessions : (w.relay.sessions.modify i Session.logless).map Session.blurred =
      w.relay.sessions.map Session.blurred := by
    refine map_modify_of_eq fun s hs => ?_
    -- Logs are on in runs only, and a log that is off is blurred to nothing.
    have hoff : s.timing.enabled = false := by
      cases hon : s.timing.enabled with
      | false => rfl
      | true =>
        have hcapturing := hw.custody.timed i s.standing (Relay.session_standing hs) hon
        have hstate := hw.state
        rw [Relay.session_eq hs] at hstate
        exact absurd (hstate.symm.trans hcapturing) (by decide)
    unfold Session.blurred Session.logless TimingLog.blurred
    simp [hoff]
  unfold blurred Live.blurred Relay.blurred
  rw [← hsessions]
  rfl

/-- The session at place `i` has been closed in both worlds, and nobody can tell which is which. -/
structure ClosedAlike (h : Handler σ) (i : Nat) (u v : World σ) : Prop where
  closed : (u.relay.session i).state = .closed ∧ (v.relay.session i).state = .closed
  /-- They are the same but for what is left in the session's log. -/
  same : u.logless i = v.logless i
  /-- Closing the session again changes nothing. -/
  again : u.step h (.beginClose i) = (.done, u) ∧ v.step h (.beginClose i) = (.done, v)
  /-- Everything that follows is answered alike and looks alike, and hosts have seen the same. -/
  later : ∀ events, u.responses h events = v.responses h events ∧
    (u.run h events).sight = (v.run h events).sight ∧
    (u.run h events).relay.runtimes = (v.run h events).relay.runtimes

/-- Sessions that nothing is left of are closed alike. -/
theorem Retired.closedAlike (hu : u.Retired i) (hv : v.Retired i)
    (hsame : u.logless i = v.logless i) : ClosedAlike h i u v := by
  refine ⟨⟨hu.state, hv.state⟩, hsame, ⟨hu.step_beginClose, hv.step_beginClose⟩, fun events => ?_⟩
  have halike : u.blurred = v.blurred := by
    rw [← hu.blurred_logless, ← hv.blurred_logless, hsame]
  obtain ⟨hresponses, hafter⟩ := run_of_blurred h events hu.custody hv.custody halike
  refine ⟨hresponses, ?_, ?_⟩
  · rw [← sight_blurred, hafter, sight_blurred]
  · show (u.run h events).blurred.relay.runtimes = (v.run h events).blurred.relay.runtimes
    rw [hafter]

end World

/-- **Closing does what stopping does.**  After every schedule, whatever has failed in its course,
    let a caller stop a session that takes calls, with or without success, and then close it; or let
    the caller close it right away.  Meanwhile the dispatch thread has its turns at any time, and
    enough of them, and the same time passes.  If the session holds a camera, both ways come to the
    end of closing, and to the same world, but for what is left in the session's log: sessions,
    cameras, buffers that are exposed, counts, deliveries, attaches and detaches are the same.
    Closing the session again changes nothing, and everything that follows is answered alike,
    samples of later runs included.  If it holds no camera, neither call does anything. -/
theorem close_subsumes_stop (profiles : List CameraProfile) (runtimes : Nat)
    (sessions : List (Nat × Settings)) (host : σ) (now : Nat) (h : Handler σ)
    (hreturns : h.Returns) (before : List Event) (i : Nat) :
    let w := (World.fresh profiles runtimes sessions (host, []) now).run h.noting before
    ∀ s, w.relay.sessions[i]? = some s → i ∉ w.closing →
      (s.camera = none → (w.step h.noting (.operate i .stop)).2 = w ∧
        w.step h.noting (.beginClose i) = (.done, w)) ∧
      ∀ o, s.camera = some o → ∀ first between last early late : List Event,
        let k := o.channel
        let waiting := (w.relay.lane k).1.length
        let stopped := w.run h.noting
          (first ++ .operate i .stop :: (between ++ .beginClose i :: last))
        let alone := w.run h.noting (early ++ .beginClose i :: late)
        (∀ e ∈ first ++ (between ++ last) ++ (early ++ late), e.Meanwhile k) →
        ((first ++ (between ++ last)).map Event.nanos).sum =
          ((early ++ late).map Event.nanos).sum →
        waiting ≤ (first ++ (between ++ last)).count (.dispatch k) →
        waiting ≤ (early ++ late).count (.dispatch k) →
        (stopped.step h.noting (.endClose i)).1 = .done ∧
          (alone.step h.noting (.endClose i)).1 = .done ∧
          World.ClosedAlike h.noting i (stopped.step h.noting (.endClose i)).2
            (alone.step h.noting (.endClose i)).2 := by
  intro w s hs hfree
  have hnoting : h.noting.Returns := hreturns.noting
  have hserving : w.Serving :=
    (World.serving_fresh profiles runtimes sessions (host, []) now).run hnoting before
  constructor
  · -- Without a camera both ways do nothing.
    intro hnone
    have hretired : w.Retired i := ⟨hserving.custody, (List.getElem?_eq_some_iff.mp hs).1, hfree,
      by rw [Relay.session_eq hs, hnone]⟩
    exact ⟨hretired.step_stop, hretired.step_beginClose⟩
  · intro o ho first between last early late k waiting stopped alone hmeanwhile htime hturns hturns'
    -- With one, either way leads through the same frames: first each along its schedule, then both
    -- to the end.
    have hseated : w.Seated i o.device.camera k := ⟨hfree, s, o, hs, ho, rfl, rfl⟩
    simp only [List.mem_append] at hmeanwhile
    obtain ⟨hstopped, hu, hdraining, hclosing⟩ := hserving.along_stop_close hnoting hseated
      first between last (fun e he => hmeanwhile e (by simp [he]))
      (fun e he => hmeanwhile e (by simp [he])) fun e he => hmeanwhile e (by simp [he])
    obtain ⟨halone, hv, hdraining', hclosing'⟩ := hserving.along_close hnoting hseated
      early late (fun e he => hmeanwhile e (by simp [he]))
      fun e he => hmeanwhile e (by simp [he])
    simp only [List.map_append, List.sum_append] at htime
    simp only [List.count_append] at hturns hturns'
    rw [htime] at hstopped
    obtain ⟨hdone, hdone', hsame⟩ := hstopped.endClose hserving hnoting halone hturns hturns' hu hv
      hdraining hdraining' (hclosing.trans hclosing'.symm)
    exact ⟨hdone, hdone', (hdraining.retired hu hnoting hdone).closedAlike
      (hdraining'.retired hv hnoting hdone') hsame⟩

/-- Two frames of a timed run wait.  One is dispatched before the session is stopped, which hands
    its sample over; or before the session is closed, which leaves the sample in the log. -/
theorem close_subsumes_stop_leftover :
    let queued : Settings := { maxPoints := 2, delivery := .queued, handoffDepth := 2 }
    let start : World (Unit × List (Nat × Delivery)) :=
      World.fresh [{ serial := "A", fd := 3 }] 1 [(0, queued)] ((), []) 0
    let before : List Event :=
      [.operate 0 (.openCamera ⟨3⟩ 5 64), .operate 0 (.start true), .emit "W" 0 [default],
        .pass 7, .emit "W" 0 []]
    let w := start.run Handler.accepting.noting before
    let stopped := w.run Handler.accepting.noting
      ([Event.dispatch 0] ++ Event.operate 0 .stop ::
        ([Event.pass 9] ++ Event.beginClose 0 :: [.dispatch 0]))
    let alone := w.run Handler.accepting.noting
      ([Event.dispatch 0, .pass 9] ++ Event.beginClose 0 :: [.dispatch 0])
    let u := (stopped.step Handler.accepting.noting (.endClose 0)).2
    let v := (alone.step Handler.accepting.noting (.endClose 0)).2
    World.ClosedAlike Handler.accepting.noting 0 u v ∧
      (u.relay.session 0).timing.size = 0 ∧ (v.relay.session 0).timing.size = 1 ∧
      u.host.2.map Prod.fst = [0, 0] := by
  intro queued start before w stopped alone u v
  have hreturns : Handler.accepting.Returns := by
    intro r d host reason
    simp [Handler.accepting]
  have hlt : 0 < w.relay.sessions.length := by decide
  have hs := List.getElem?_eq_getElem hlt
  have hheld : (w.relay.session 0).camera.map OpenCamera.channel = some 0 := by decide
  rw [Relay.session_eq hs] at hheld
  obtain ⟨o, ho, hk⟩ := Option.map_eq_some_iff.mp hheld
  have hclose := close_subsumes_stop [{ serial := "A", fd := 3 }] 1 [(0, queued)] () 0
    Handler.accepting hreturns before 0
  rw [show World.fresh _ 1 _ ((), []) 0 = start from rfl,
    show World.run _ before start = w from rfl] at hclose
  have halike := (hclose _ hs (by decide)).2 o ho [.dispatch 0] [.pass 9] [.dispatch 0]
    [.dispatch 0, .pass 9] [.dispatch 0]
  rw [hk] at halike
  exact ⟨(halike (by simp [Event.Meanwhile]) (by decide) (by decide) (by decide)).2.2,
    by decide, by decide, by decide⟩

end DepthRelay
