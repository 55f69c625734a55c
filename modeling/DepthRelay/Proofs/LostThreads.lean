import DepthRelay.Proofs.AbandonedFrames
import DepthRelay.Proofs.AttachedThreads

namespace DepthRelay

/-!
# Dispatch threads that are lost

A dispatch thread is lost in the one step in which the handler gives up on the frame that the thread
delivers, and its hand-off is left without a thread.

* `Handoff.Moved`, `Handoff.Stocked` — what a step can do to a hand-off, and how many slots it has
  in between.
* `World.Stirs`, `World.step_stirs` — what a step can do to all hand-offs, whatever handlers do.
* `Live.dispatch_turnout` — a dispatch thread is lost with its frame, or lives on.
-/

variable {σ : Type}

/-! ### One hand-off -/

/-- What a step can do to a hand-off, closing it apart. -/
inductive Handoff.Moved (q : Handoff) : Handoff → Prop
  | left (points : List Point) : Moved q (q.submit points).2
  | dispatched (points : List Point) (q' : Handoff) (taken : q.take? = some (points, q')) :
      Moved q q'.complete
  /-- The thread is lost with its frame. -/
  | lost (points : List Point) (q' : Handoff) (taken : q.take? = some (points, q')) :
      Moved q q'.crash

/-- A hand-off with so many slots between two steps, when the sink has no frame. -/
structure Handoff.Stocked (depth : Nat) (q : Handoff) : Prop where
  size : q.depth = depth
  resting : q.sinking = false
  fits : q.queue.length ≤ depth
  /-- As long as frames are accepted and dispatched, every slot is free or has a frame that
      waits. -/
  slots : q.accepting = true → q.alive = true → q.free + q.queue.length = depth

namespace Handoff

variable {depth : Nat} {q q' : Handoff}

theorem stocked_ofDepth (depth : Nat) : (ofDepth depth).Stocked depth :=
  ⟨rfl, rfl, Nat.zero_le _, fun _ _ => Nat.add_zero depth⟩

/-- A hand-off holds no more than its depth, whatever is submitted. -/
theorem Stocked.submit (hq : q.Stocked depth) (points : List Point) :
    (q.submit points).2.Stocked depth := by
  have hsize := hq.size
  have hfits := hq.fits
  have hslots := hq.slots
  unfold Handoff.submit claim?
  by_cases hfree : q.free = 0
  · rw [if_pos hfree]
    exact hq
  · rw [if_neg hfree]
    dsimp only
    unfold enqueue
    dsimp only
    by_cases hroom : (q.accepting && q.alive && decide (q.queue.length < q.depth)) = true
    · rw [if_pos hroom]
      simp only [Bool.and_eq_true, decide_eq_true_eq] at hroom
      refine ⟨hsize, hq.resting, ?_, fun haccepting halive => ?_⟩
      · rw [List.length_append, List.length_singleton]
        omega
      · have hsum := hslots haccepting halive
        simp only [List.length_append, List.length_singleton]
        omega
    · rw [if_neg hroom]
      refine ⟨hsize, hq.resting, hfits, fun (haccepting : q.accepting = true) halive => ?_⟩
      -- A slot that is free leaves room in the queue.
      have hsum := hslots haccepting halive
      have hfull : ¬q.queue.length < q.depth := fun hlt =>
        hroom (by simp [haccepting, show q.alive = true from halive, hlt])
      omega

theorem Stocked.close (hq : q.Stocked depth) : q.close.Stocked depth :=
  ⟨hq.size, hq.resting, hq.fits, fun haccepting => absurd haccepting (by simp [Handoff.close])⟩

/-- Nor does it when its thread goes on or is lost. -/
theorem Moved.stocked (hmoved : q.Moved q') (hq : q.Stocked depth) : q'.Stocked depth := by
  cases hmoved with
  | left points => exact hq.submit points
  | dispatched points q' taken =>
    obtain ⟨-, rest, hqueue, rfl⟩ := of_take? taken
    have hfits := hq.fits
    have hslots := hq.slots
    rw [hqueue, List.length_cons] at hfits hslots
    refine ⟨hq.size, rfl, Nat.le_of_succ_le hfits, fun haccepting halive => ?_⟩
    have hsum := hslots haccepting halive
    show q.free + 1 + rest.length = depth
    omega
  | lost points q' taken =>
    obtain ⟨-, rest, -, rfl⟩ := of_take? taken
    exact ⟨hq.size, rfl, Nat.zero_le _, fun _ halive => absurd halive (by simp [crash])⟩

/-- A hand-off that has moved accepts frames if it did before. -/
theorem Moved.accepting (hmoved : q.Moved q') : q'.accepting = q.accepting := by
  cases hmoved with
  | left points => exact (submit_kept points q).1
  | dispatched points q' taken | lost points q' taken =>
    obtain ⟨-, rest, -, rfl⟩ := of_take? taken
    rfl

/-- **A frame is kept as long as there is a slot.** -/
theorem Stocked.submit_iff (hq : q.Stocked depth) (haccepting : q.accepting = true)
    (halive : q.alive = true) (points : List Point) :
    (q.submit points).1 = .queued ↔ q.queue.length < depth := by
  have hsize := hq.size
  have hsum := hq.slots haccepting halive
  unfold Handoff.submit claim?
  by_cases hfree : q.free = 0
  · rw [if_pos hfree]
    simp only [reduceCtorEq, false_iff]
    omega
  · rw [if_neg hfree]
    dsimp only
    unfold enqueue
    have hroom : q.queue.length < depth := by omega
    simp [haccepting, halive, hsize, hroom]

end Handoff

/-! ### All hand-offs -/

namespace Relay

/-- The hand-offs of all channels. -/
def handoffs (w : Relay) : List (Option Handoff) := w.channels.map Channel.handoff

variable {v w : Relay} {k : Nat} {q : Handoff}

/-- The hand-offs, by the places of their channels. -/
theorem mem_handoffs : w.handoffs[k]? = some (some q) ↔ (w.channel k).handoff = some q := by
  constructor
  · intro h
    obtain ⟨x, hx, hq⟩ := List.getElem?_map .. ▸ h |> Option.map_eq_some_iff.mp
    rw [channel_eq hx, hq]
  · intro h
    simp [handoffs, getElem?_of_handoff h, h]

theorem handoffs_of_channels (h : v.channels = w.channels) : v.handoffs = w.handoffs :=
  congrArg (List.map Channel.handoff) h

/-- A hand-off that is replaced. -/
theorem handoffs_set {f : Channel → Channel} {q' : Handoff}
    (hq : (w.channel k).handoff = some q) (hf : (f (w.channel k)).handoff = some q')
    (h : v.channels = w.channels.modify k f) : v.handoffs = w.handoffs.set k (some q') := by
  unfold handoffs
  rw [h, modify_of_getElem? f (getElem?_of_handoff hq), List.map_set, hf]

end Relay

/-- What a step can do to the hand-offs that are there, closing them apart. -/
inductive Stirred (before : List (Option Handoff)) : List (Option Handoff) → Prop
  | same : Stirred before before
  | moved (k : Nat) (q q' : Handoff) (queued : before[k]? = some (some q)) (moved : q.Moved q') :
      Stirred before (before.set k (some q'))

theorem Stirred.of_eq {before after : List (Option Handoff)} (h : after = before) :
    Stirred before after := h ▸ .same

/-- What has become of a hand-off. -/
theorem Stirred.origin {before after : List (Option Handoff)} (h : Stirred before after) {k : Nat}
    {q' : Handoff} (hq : after[k]? = some (some q')) :
    ∃ q, before[k]? = some (some q) ∧ (q' = q ∨ q.Moved q') := by
  cases h with
  | same => exact ⟨q', hq, .inl rfl⟩
  | moved j q q'' queued moved =>
    rcases getElem?_set_cases hq with ⟨rfl, hsame⟩ | ⟨-, hq⟩
    · obtain rfl := Option.some.inj hsame
      exact ⟨q, queued, .inr moved⟩
    · exact ⟨q', hq, .inl rfl⟩

namespace Live

variable {h : Handler σ} {l : Live σ}

/-- **An injected frame** moves one hand-off at most. -/
theorem emit_stirred (h : Handler σ) (l : Live σ) (t : ThreadId) (p : Nat) (points : List Point) :
    Stirred l.relay.handoffs (l.emit h t p points).2.relay.handoffs := by
  unfold emit
  cases hk : l.relay.listener? p with
  | none =>
    rw [Relay.offer_of_none hk]
    exact .same
  | some k =>
    obtain ⟨v, hoffer, -, hchannels, -⟩ := Relay.offer_books points hk
    have hchannel := Relay.channel_of_channels hchannels k
    rw [hoffer]
    dsimp only
    rw [hchannel]
    cases hq : (l.relay.channel k).handoff with
    | some q =>
      have hsubmit : (v.submit k q points).channels =
          l.relay.channels.modify k fun x => { x with handoff := some (q.submit points).2 } := by
        rw [← hchannels]
        unfold Relay.submit
        rcases q.submit points with ⟨_ | _, q'⟩ <;> rfl
      show Stirred _ (v.submit k q points).handoffs
      rw [Relay.handoffs_set hq rfl hsubmit]
      exact .moved k q _ (Relay.mem_handoffs.mpr hq) (.left points)
    | none =>
      have hkept := (deliver_passage h (l.withRelay v) t k points).2
      dsimp only
      generalize (l.withRelay v).deliver h t k points = result at hkept ⊢
      obtain ⟨_ | _, m⟩ := result <;>
        exact .of_eq (hkept.trans (Relay.handoffs_of_channels hchannels))

/-- How the turn of a dispatch thread can end: the thread is lost with the frame that the handler
    gives up on, or lives on to the next one. -/
inductive Turnout (h : Handler σ) (l : Live σ) (k : Nat) (points : List Point) (q' : Handoff) :
    Live σ → Prop
  | lost (d : Delivery) (reason : Abort) (v : Live σ)
      (host : v.host = (h (l.relay.channel k).binding.runtime d l.host).host)
      (reply : (h (l.relay.channel k).binding.runtime d l.host).reply = .aborted reason)
      (handoffs : v.relay.handoffs = l.relay.handoffs.set k (some q'.crash)) :
      Turnout h l k points q' v
  | unasked (v : Live σ) (host : v.host = l.host)
      (handoffs : v.relay.handoffs = l.relay.handoffs.set k (some q'.complete)) :
      Turnout h l k points q' v
  | answered (d : Delivery) (v : Live σ)
      (host : v.host = (h (l.relay.channel k).binding.runtime d l.host).host)
      (reply : ∀ reason, (h (l.relay.channel k).binding.runtime d l.host).reply ≠ .aborted reason)
      (handoffs : v.relay.handoffs = l.relay.handoffs.set k (some q'.complete)) :
      Turnout h l k points q' v

/-- **A dispatch thread is lost if and only if the handler gives up.** -/
theorem dispatch_turnout (h : Handler σ) {k : Nat} {points : List Point} {v : Relay}
    (htake : l.relay.takeQueued? k = some (points, v)) :
    ∃ q q', (l.relay.channel k).handoff = some q ∧ q.take? = some (points, q') ∧
      Turnout h l k points q' (l.dispatch h k) := by
  obtain ⟨⟨points', q'⟩, hq', hv⟩ := Option.map_eq_some_iff.mp htake
  obtain ⟨rfl, rfl⟩ := Prod.mk.inj hv
  obtain ⟨q, hq, htaken⟩ := Option.bind_eq_some_iff.mp hq'
  refine ⟨q, q', hq, htaken, ?_⟩
  generalize hv : (l.relay.modifyChannel k fun x => { x with handoff := some q' }) = v at htake
  have hlt := (List.getElem?_eq_some_iff.mp (Relay.getElem?_of_handoff hq)).1
  have hv_handoffs : v.handoffs = l.relay.handoffs.set k (some q') := by
    rw [← hv]
    exact Relay.handoffs_set hq rfl rfl
  have hbinding : (v.channel k).binding = (l.relay.channel k).binding := by
    rw [← hv, Relay.channel_modifyChannel k _ l.relay hlt]
  have hkept := (deliver_passage h (l.withRelay v) (.dispatch k) k points').2
  have hasked := deliver_asked h (l.withRelay v) (.dispatch k) k points'
  rw [show ((l.withRelay v).relay.channel k).binding = _ from hbinding] at hasked
  unfold dispatch
  rw [htake]
  dsimp only
  generalize (l.withRelay v).deliver h (.dispatch k) k points' = result at hkept hasked ⊢
  obtain ⟨answer, m⟩ := result
  -- Afterwards the hand-off is what it is made into once more.
  have hend (g : Handoff → Handoff) (u : Relay) (hu : u.channels = m.relay.channels.modify k
      fun x => { x with handoff := x.handoff.map g }) :
      u.handoffs = l.relay.handoffs.set k (some (g q')) := by
    have hm : m.relay.handoffs = l.relay.handoffs.set k (some q') := hkept.trans hv_handoffs
    have hmq : (m.relay.channel k).handoff = some q' := by
      refine Relay.mem_handoffs.mp ?_
      rw [hm]
      exact getElem?_set_of_some (Relay.mem_handoffs.mpr hq)
    have hset : u.handoffs = m.relay.handoffs.set k (some (g q')) :=
      Relay.handoffs_set hmq (by simp [hmq]) hu
    rw [hset, hm, List.set_set]
  cases hasked with
  | not a host => exact .unasked _ host (hend .complete _ rfl)
  | answered a d host reply => exact .answered d _ host reply (hend .complete _ rfl)
  | aborted reason d host reply => exact .lost d reason _ host reply (hend .crash _ rfl)

/-- **A dispatch thread** moves its own hand-off only. -/
theorem dispatch_stirred (h : Handler σ) (l : Live σ) (k : Nat) :
    Stirred l.relay.handoffs (l.dispatch h k).relay.handoffs := by
  cases htake : l.relay.takeQueued? k with
  | none =>
    unfold dispatch
    rw [htake]
    exact .same
  | some taken =>
    obtain ⟨q, q', hq, htaken, hturnout⟩ := dispatch_turnout h htake
    have hqueued := Relay.mem_handoffs.mpr hq
    cases hturnout with
    | lost _ _ _ _ _ handoffs =>
      rw [handoffs]
      exact .moved k q _ hqueued (.lost _ q' htaken)
    | unasked _ _ handoffs | answered _ _ _ _ handoffs =>
      rw [handoffs]
      exact .moved k q _ hqueued (.dispatched _ q' htaken)

/-- **A frame of a source** moves one hand-off at most. -/
theorem wake_stirred (h : Handler σ) (l : Live σ) (i : Nat) (source : Source) :
    Stirred l.relay.handoffs (l.wake h i source).relay.handoffs := by
  have hsame := Relay.handoffs_of_channels (Relay.channels_wakeSource i source l.relay)
  unfold wake
  generalize l.relay.wakeSource i source = result at hsame ⊢
  obtain ⟨_ | ⟨p, points⟩, v⟩ := result
  · exact .of_eq hsame
  · have hemit := emit_stirred h (l.withRelay v) (.source source.run) p points
    rw [show (l.withRelay v).relay.handoffs = _ from hsame] at hemit
    dsimp only
    generalize (l.withRelay v).emit h (.source source.run) p points = result at hemit ⊢
    obtain ⟨_ | _, m⟩ := result
    · show Stirred _ (m.relay.crashSource source.run).handoffs
      rw [Relay.handoffs_of_channels (Relay.channels_crashSource source.run m.relay)]
      exact hemit
    · exact hemit

end Live

/-! ### Any step -/

/-- What a step can do to hand-offs. -/
inductive World.Stirs (w v : World σ) : Prop
  | kept (stirred : Stirred w.relay.handoffs v.relay.handoffs)
  | shut (i : Nat) (s : Session) (o : OpenCamera) (session : w.relay.sessions[i]? = some s)
      (held : s.camera = some o) (closing : v.closing = i :: w.closing)
      (handoffs : v.relay.handoffs = w.relay.handoffs.modify o.channel (Option.map Handoff.close)) :
      Stirs w v
  | opened (i : Nat) (b : FrameBuffer) (present : i < w.relay.sessions.length)
      (channels : v.relay.channels = w.relay.channels ++ [w.relay.newChannel i b]) : Stirs w v

namespace World

variable {w : World σ}

/-- **What a step can do** to hand-offs, whatever handlers do. -/
theorem step_stirs (h : Handler σ) (hcustody : Custody w.standing) (e : Event) :
    Stirs w (w.step h e).2 := by
  cases e with
  | operate i op =>
    rcases w.step_operate_cases h i op with hsame | ⟨hi, -, hafter⟩
    · rw [hsame]
      exact .kept .same
    · rw [hafter]
      -- An operation changes hand-offs only by opening a camera.
      rcases Relay.perform_channels op hcustody (List.getElem?_eq_getElem hi) with
        hsame | ⟨-, -, -, b, -, -, -, hnew⟩
      · exact .kept (.of_eq (Relay.handoffs_of_channels hsame))
      · exact .opened i b hi hnew
  | beginClose i =>
    rcases step_beginClose_cases h hcustody i with hsame | ⟨s, o, c, hs, ho, hc, hafter⟩
    · rw [hsame]
      exact .kept .same
    · rw [hafter]
      refine .shut i s o hs ho rfl ?_
      show (w.relay.beginClose i).handoffs = _
      rw [Relay.beginClose_eq hs ho hc]
      -- To end the source leaves the channels alone, and then the hand-off is closed.
      show (((w.relay.exitSource _).channels).modify _ _).map _ = _
      rw [Relay.channels_exitSource]
      exact map_modify_of_comm fun _ => rfl
  | endClose i =>
    rcases step_endClose_cases h hcustody i with hsame | ⟨-, -, s, o, c, hs, ho, hc, hafter⟩
    · rw [hsame]
      exact .kept .same
    · rw [hafter]
      refine .kept (.of_eq (Relay.handoffs_of_channels ?_))
      show (w.relay.endClose i).channels = _
      rw [Relay.endClose_eq hs ho hc]
      exact Relay.channels_exitSource _ _
  | emit worker p points => exact .kept (Live.emit_stirred h w.toLive (.worker worker) p points)
  | dispatch k => exact .kept (Live.dispatch_stirred h w.toLive k)
  | wake i =>
    rcases w.step_wake_cases h i with hsame | ⟨source, hafter⟩
    · rw [hsame]
      exact .kept .same
    · rw [hafter]
      exact .kept (Live.wake_stirred h w.toLive i source)
  | _ => exact .kept .same

end World

end DepthRelay
