import DepthRelay.Proofs.Checks
import DepthRelay.Proofs.DeviceObjects
import DepthRelay.Proofs.FullFrames
import DepthRelay.Proofs.HandoffSteps

namespace DepthRelay

/-!
# Runs that never give up

Whatever callers, drivers and workers do, no computation of a relay gives up: it would end the
thread that it happens on, be it that of a caller, a frame source or a dispatch thread.

* `Live.deliverChecked`, …, `World.stepChecked` — the steps of a relay on words and with bounds.
* `Relay.Sized`, `World.Sane` — what is true of all buffers and cameras, and what steps rely on.
* `World.Sane.stepChecked_eq`, `World.Sane.playChecked_eq` — no step gives up, nor does a run.
* `DeviceBench.Fitting.runChecked_eq` — neither does a run with device objects alone.
* `runs_never_give_up` — both, with what deliveries say about their bytes.
-/

variable {σ : Type}

/-! ### Steps with checks -/

/-- A synthetic frame, with the product of its sides in a word of 32 bits. -/
def CameraProfile.pointsChecked (p : CameraProfile) (phase : Nat) : Except Panic (List Point) :=
  (p.syntheticPoints phase).mapError .aborted

/-- What an operation computes with words: opening makes a buffer, and starting may divide a second
    by the rate of a use case. -/
def Operation.performChecked (i : Nat) (op : Operation) (w : Relay) :
    Except Panic (Operation.Result × Relay) := do
  match op with
  | .openCamera _ _ address =>
    discard (FrameBuffer.ofCapacityChecked address (w.session i).settings.maxPoints.toNat)
  | .start _ =>
    let camera := (w.session i).camera.bind fun o => w.cameras[o.device.camera]?
    discard (Source.startChecked w.nextRun w.now (camera.bind Camera.useCase) none)
  | _ => pure ()
  return op.perform i w

namespace Live

/-- `Live.deliver` with all checks, for a handler that looks at the bytes of the frame. -/
def deliverChecked (h : Handler σ) (t : ThreadId) (k : Nat) (points : List Point) (l : Live σ) :
    Except Panic (Live σ) :=
  match l.relay.begin t k with
  | (none, w) => .ok (l.withRelay w)
  | (some ticket, w) => do
    match ← w.publishChecked k points with
    | (none, w) => return l.withRelay w
    | (some d, w) =>
      discard d.bytesChecked
      match (l.withRelay w).handle h ticket d with
      | (.ok (), l) => return l
      | (.error a, _) => throw (.aborted a)

def emitChecked (h : Handler σ) (t : ThreadId) (camera : Nat) (points : List Point) (l : Live σ) :
    Except Panic (Bool × Live σ) :=
  match l.relay.offer camera points with
  | (none, w) => .ok (false, l.withRelay w)
  | (some k, w) =>
    match (w.channel k).handoff with
    | some q => .ok (true, l.withRelay (w.submit k q points))
    | none => (fun l => (true, l)) <$> (l.withRelay w).deliverChecked h t k points

/-- `Live.dispatch` with all checks; a thread that gives up is an error. -/
def dispatchChecked (h : Handler σ) (k : Nat) (l : Live σ) : Except Panic (Live σ) :=
  match l.relay.takeQueued? k with
  | none => .ok l
  | some (points, w) =>
    (fun l => l.withRelay (l.relay.completeQueued k)) <$>
      (l.withRelay w).deliverChecked h (.dispatch k) k points

end Live

/-- `Relay.wakeSource` with all checks; a thread that gives up is an error. -/
def Relay.wakeSourceChecked (i : Nat) (source : Source) (w : Relay) :
    Except Panic (Option (Nat × List Point) × Relay) :=
  let w := { w with now := max w.now source.due }
  let camera := ((w.session i).camera.map (·.device.camera)).getD 0
  match source.wake with
  | none => .ok (none, w.endSource i source.run)
  | some (phase, next) =>
    match w.cameras[camera]? with
    | none => .ok (none, w.endSource i source.run)
    | some c =>
      (fun points => (some (camera, points), w.setSource i (some next))) <$>
        c.profile.pointsChecked phase

def Live.wakeChecked (h : Handler σ) (i : Nat) (source : Source) (l : Live σ) :
    Except Panic (Live σ) := do
  match ← l.relay.wakeSourceChecked i source with
  | (none, w) => return l.withRelay w
  | (some (camera, points), w) =>
    Prod.snd <$> (l.withRelay w).emitChecked h (.source source.run) camera points

/-- One step of somebody, who may also inject a synthetic frame. -/
inductive Input
  | event (e : Event)
  /-- The phase of the frame is the number of frames so far. -/
  | emitSynthetic (worker : String) (camera : Nat)

namespace World

/-- `World.step` with all checks. -/
def stepChecked (h : Handler σ) (e : Event) (w : World σ) : Except Panic (Response × World σ) :=
  match e with
  | .operate i op =>
    if w.ready i then
      (fun (r, v) => (.answered r, w.setRelay v)) <$> op.performChecked i w.relay
    else .ok (.unavailable, w)
  | .emit worker camera points =>
    (fun (heard, l) => (.emitted (.ok heard), { w with toLive := l })) <$>
      w.toLive.emitChecked h (.worker worker) camera points
  | .dispatch k => (fun l => (.done, { w with toLive := l })) <$> w.toLive.dispatchChecked h k
  | .wake i =>
    match (w.relay.session i).source? with
    | none => .ok (.unavailable, w)
    | some source =>
      (fun l => (.done, { w with toLive := l })) <$> w.toLive.wakeChecked h i source
  | e => .ok (w.step h e)

/-- One input. -/
def perform (h : Handler σ) (d : Input) (w : World σ) : Response × World σ :=
  match d with
  | .event e => w.step h e
  | .emitSynthetic worker camera =>
    match w.relay.cameras[camera]? with
    | none => (.unavailable, w)
    | some c =>
      match c.profile.syntheticPoints c.emitted with
      | .error a => (.emitted (.error a), w)
      | .ok points => w.step h (.emit worker camera points)

/-- One input with all checks. -/
def performChecked (h : Handler σ) (d : Input) (w : World σ) : Except Panic (Response × World σ) :=
  match d with
  | .event e => w.stepChecked h e
  | .emitSynthetic worker camera =>
    match w.relay.cameras[camera]? with
    | none => .ok (.unavailable, w)
    | some c => do
      let points ← c.profile.pointsChecked c.emitted
      w.stepChecked h (.emit worker camera points)

/-- The responses to inputs in sequence, and the world after them. -/
def play (h : Handler σ) : List Input → World σ → List Response × World σ
  | [], w => ([], w)
  | d :: ds, w =>
    let (r, w) := w.perform h d
    let (rs, w) := play h ds w
    (r :: rs, w)

/-- The same with all checks. -/
def playChecked (h : Handler σ) : List Input → World σ → Except Panic (List Response × World σ)
  | [], w => .ok ([], w)
  | d :: ds, w => do
    let (r, w) ← w.performChecked h d
    let (rs, w) ← playChecked h ds w
    return (r :: rs, w)

end World

/-! ### What steps rely on -/

/-- A camera whose size fits 32 bits can always produce a frame. -/
theorem CameraProfile.pointsChecked_eq {p : CameraProfile} (h : p.size < UInt32.size)
    (phase : Nat) : ∃ points, p.pointsChecked phase = .ok points ∧
      p.syntheticPoints phase = .ok points := by
  obtain ⟨points, hpoints, -⟩ := p.syntheticPoints_ok h phase
  refine ⟨points, ?_, hpoints⟩
  unfold pointsChecked
  rw [hpoints]
  rfl

/-- **Operations never give up.** -/
theorem Operation.performChecked_eq (i : Nat) (op : Operation) (w : Relay) :
    op.performChecked i w = .ok (op.perform i w) := by
  unfold performChecked
  cases op with
  | openCamera d key address =>
    dsimp only
    rw [FrameBuffer.ofCapacityChecked_eq]
    rfl
  | start timing =>
    dsimp only
    rw [Source.startChecked_eq]
    rfl
  | _ => rfl

/-- All buffers are within their limits. -/
def Relay.Sized (w : Relay) : Prop := ∀ x ∈ w.channels, x.buffer.Sized

namespace Relay

variable {v w : Relay}

/-- Only channels have buffers. -/
theorem Sized.congr (hw : w.Sized) (h : v.channels = w.channels) : v.Sized := by
  unfold Sized
  rw [h]
  exact hw

/-- So is the buffer of a channel that is not there. -/
theorem Sized.channel (hw : w.Sized) (k : Nat) : (w.channel k).buffer.Sized := by
  unfold Relay.channel
  rw [List.getD_eq_getElem?_getD]
  cases hk : w.channels[k]? with
  | none => exact ⟨Nat.zero_le _, Nat.zero_le _⟩
  | some x => exact hw x (List.mem_of_getElem? hk)

/-- Buffers stay as large as they should be if the one that changes does. -/
theorem Sized.modifyChannel (hw : w.Sized) (k : Nat) {f : Channel → Channel}
    (hf : ∀ x, x.buffer.Sized → (f x).buffer.Sized) : (w.modifyChannel k f).Sized := by
  intro x hx
  obtain ⟨j, hj⟩ := List.mem_iff_getElem?.mp hx
  obtain ⟨y, hy, ⟨-, hsame⟩ | ⟨-, hchanged⟩⟩ := of_getElem?_modify hj
  · exact hsame ▸ hw y (List.mem_of_getElem? hy)
  · exact hchanged ▸ hf y (hw y (List.mem_of_getElem? hy))

end Relay

namespace Live

variable {h : Handler σ} {l : Live σ}

/-- A delivery leaves buffers as large as they should be. -/
theorem sized_deliver (hl : l.relay.Sized) (t : ThreadId) (k : Nat) (points : List Point) :
    (l.deliver h t k points).2.relay.Sized := by
  rcases deliver_cases h l t k points with ⟨hchannels, -⟩ | ⟨d, written, x, hpublish, hchannels, -⟩
  · exact hl.congr hchannels
  · obtain ⟨hx, -⟩ := Channel.bytesChecked_of_publish (hl.channel k) hpublish
    exact (hl.modifyChannel k fun _ _ => hx).congr hchannels

/-- **A delivery never gives up**, if its handler returns. -/
theorem deliverChecked_eq (hreturns : h.Returns) (hl : l.relay.Sized) (t : ThreadId) (k : Nat)
    (points : List Point) : l.deliverChecked h t k points = .ok (l.deliver h t k points).2 := by
  have hchannel := Relay.channel_of_channels (Relay.channels_begin t k l.relay) k
  have hok := deliver_ok h l hreturns t k points
  unfold deliverChecked
  unfold deliver at hok ⊢
  generalize l.relay.begin t k = begun at hchannel hok ⊢
  obtain ⟨ticket?, w⟩ := begun
  dsimp only at hchannel
  cases ticket? with
  | none => rfl
  | some ticket =>
    dsimp only at hok ⊢
    rw [Relay.publishChecked_eq]
    -- To begin a delivery changes hosts and counts only, so the buffer is still a sized one.
    unfold Relay.publish at hok ⊢
    rw [hchannel] at hok ⊢
    cases hpublish : (l.relay.channel k).publish points with
    | error e => rfl
    | ok published =>
      obtain ⟨d, written, x⟩ := published
      obtain ⟨-, bytes, hbytes, -⟩ := Channel.bytesChecked_of_publish (hl.channel k) hpublish
      rw [hpublish] at hok
      dsimp only [bind, Except.bind] at hok ⊢
      rw [hbytes]
      dsimp only [discard, Functor.discard, Functor.mapConst, Function.comp] at hok ⊢
      generalize Live.handle h ticket d _ = handled at hok ⊢
      obtain ⟨answer, l'⟩ := handled
      dsimp only at hok
      subst hok
      rfl

/-- **An injected frame** is delivered without giving up. -/
theorem emitChecked_eq (hreturns : h.Returns) (hl : l.relay.Sized) (t : ThreadId) (p : Nat)
    (points : List Point) :
    ∃ heard, (l.emit h t p points).1 = .ok heard ∧
      l.emitChecked h t p points = .ok (heard, (l.emit h t p points).2) := by
  unfold emitChecked
  rw [emit_eq hreturns]
  cases hk : l.relay.listener? p with
  | none =>
    rw [Relay.offer_of_none hk]
    exact ⟨false, rfl, rfl⟩
  | some k =>
    rw [Relay.offer_of_listener points hk]
    refine ⟨true, rfl, ?_⟩
    dsimp only
    rw [show (l.relay.noteEmitted p).channel k = l.relay.channel k from rfl]
    cases (l.relay.channel k).handoff with
    | some q => rfl
    | none =>
      have hdeliver := deliverChecked_eq (l := l.withRelay (l.relay.noteEmitted p)) hreturns hl t k
        points
      dsimp only
      rw [hdeliver]
      rfl

/-- An injected frame leaves buffers as large as they are. -/
theorem sized_emit (hreturns : h.Returns) (hl : l.relay.Sized) (t : ThreadId) (p : Nat)
    (points : List Point) : (l.emit h t p points).2.relay.Sized := by
  rw [emit_eq hreturns]
  cases l.relay.listener? p with
  | none => exact hl
  | some k =>
    have hnoted : (l.relay.noteEmitted p).Sized := hl
    dsimp only
    cases (l.relay.channel k).handoff with
    | none => exact sized_deliver (l := l.withRelay _) hnoted t k points
    | some q =>
      show ((l.relay.noteEmitted p).submit k q points).Sized
      unfold Relay.submit
      rcases q.submit points with ⟨_ | _, q'⟩
      · exact hnoted.modifyChannel k fun _ hx => hx
      · exact hnoted.modifyChannel k fun _ hx => hx

/-- **A dispatch thread** goes on without giving up. -/
theorem dispatchChecked_eq (hreturns : h.Returns) (hl : l.relay.Sized) (k : Nat) :
    l.dispatchChecked h k = .ok (l.dispatch h k) ∧ (l.dispatch h k).relay.Sized := by
  unfold dispatchChecked
  rw [dispatch_eq hreturns]
  cases htake : l.relay.takeQueued? k with
  | none => exact ⟨rfl, hl⟩
  | some taken =>
    obtain ⟨points, v⟩ := taken
    -- A frame is taken out of the hand-off, which the buffer does not notice.
    have hv : v.Sized := by
      obtain ⟨⟨points', q'⟩, -, hv⟩ := Option.map_eq_some_iff.mp htake
      rw [← (Prod.mk.inj hv).2]
      exact hl.modifyChannel k fun _ hx => hx
    dsimp only
    rw [deliverChecked_eq (l := l.withRelay v) hreturns hv]
    exact ⟨rfl, (sized_deliver (l := l.withRelay v) hv _ k _).modifyChannel k fun _ hx => hx⟩

/-- The cameras' frames fit. -/
theorem wakeSourceChecked_eq {w : Relay} (hw : ∀ c ∈ w.cameras, c.profile.size < UInt32.size)
    (i : Nat) (source : Source) : w.wakeSourceChecked i source = .ok (w.wakeSource i source) := by
  unfold Relay.wakeSourceChecked Relay.wakeSource
  dsimp only
  cases source.wake with
  | none => rfl
  | some next =>
    dsimp only
    split
    · next hc => simp only [hc]
    · next c hc =>
      obtain ⟨points, hchecked, hpoints⟩ :=
        CameraProfile.pointsChecked_eq (hw c (List.mem_of_getElem? hc)) next.1
      simp only [hc, hchecked, hpoints]
      rfl

/-- **A frame source** goes on without giving up, if its camera has fewer pixels than 32 bits can
    count. -/
theorem wakeChecked_eq (hreturns : h.Returns) (hl : l.relay.Sized)
    (hcameras : ∀ c ∈ l.relay.cameras, c.profile.size < UInt32.size) (i : Nat) (source : Source) :
    l.wakeChecked h i source = .ok (l.wake h i source) ∧ (l.wake h i source).relay.Sized := by
  have hchannels := Relay.channels_wakeSource i source l.relay
  unfold wakeChecked
  rw [wakeSourceChecked_eq hcameras, wake_eq hreturns]
  generalize l.relay.wakeSource i source = result at hchannels
  obtain ⟨frame, v⟩ := result
  have hv : v.Sized := hl.congr hchannels
  cases frame with
  | none => exact ⟨rfl, hv⟩
  | some frame =>
    obtain ⟨p, points⟩ := frame
    obtain ⟨heard, -, hemit⟩ := emitChecked_eq (l := l.withRelay v) hreturns hv
      (.source source.run) p points
    refine ⟨?_, sized_emit (l := l.withRelay v) hreturns hv _ p points⟩
    dsimp only [bind, Except.bind]
    rw [hemit]
    rfl

end Live

namespace World

variable {h : Handler σ} {w : World σ}

/-- A world in which nothing gives up. -/
structure Sane (w : World σ) : Prop where
  serving : w.Serving
  sized : w.relay.Sized
  fits : ∀ c ∈ w.relay.cameras, c.profile.size < UInt32.size

/-- **A step** is made without giving up. -/
theorem Sane.stepChecked_eq (hw : w.Sane) (hreturns : h.Returns) (e : Event) :
    w.stepChecked h e = .ok (w.step h e) := by
  cases e with
  | operate i op =>
    unfold stepChecked step
    dsimp only
    rw [Operation.performChecked_eq]
    split <;> rfl
  | emit worker camera points =>
    obtain ⟨heard, hanswer, hemit⟩ :=
      Live.emitChecked_eq (l := w.toLive) hreturns hw.sized (.worker worker) camera points
    unfold stepChecked step
    dsimp only
    rw [hemit, hanswer]
    rfl
  | dispatch k =>
    unfold stepChecked step
    dsimp only
    rw [(Live.dispatchChecked_eq (l := w.toLive) hreturns hw.sized k).1]
    rfl
  | wake i =>
    unfold stepChecked step
    dsimp only
    cases (w.relay.session i).source? with
    | none => rfl
    | some source =>
      dsimp only
      rw [(Live.wakeChecked_eq (l := w.toLive) hreturns hw.sized hw.fits i source).1]
      rfl
  | _ => rfl

/-- A step leaves buffers as large as they should be. -/
theorem Sane.sized_step (hw : w.Sane) (hreturns : h.Returns) (e : Event) :
    (w.step h e).2.relay.Sized := by
  have hcustody := hw.serving.custody
  cases e with
  | operate i op =>
    rcases w.step_operate_cases h i op with hsame | ⟨hi, -, hafter⟩
    · rw [hsame]
      exact hw.sized
    · rw [hafter]
      show (op.perform i w.relay).2.Sized
      rcases Relay.perform_channels op hcustody (List.getElem?_eq_getElem hi) with
        hsame | ⟨-, -, address, b, -, -, hroom, hnew⟩
      · exact hw.sized.congr hsame
      · -- An opening is the only operation that makes a buffer, and it looks at the limit first.
        obtain ⟨hlimit, rfl⟩ := FrameBuffer.ofCapacity_eq_ok.mp hroom
        intro x hx
        rw [hnew] at hx
        rcases List.mem_append.mp hx with hold | hnew
        · exact hw.sized x hold
        · rw [List.mem_singleton.mp hnew]
          exact FrameBuffer.sized_zeros address hlimit
  | beginClose i =>
    rcases step_beginClose_cases h hcustody i with hsame | ⟨s, o, c, hs, ho, hc, hafter⟩
    · rw [hsame]
      exact hw.sized
    · rw [hafter]
      show (w.relay.beginClose i).Sized
      rw [Relay.beginClose_eq hs ho hc]
      refine Relay.Sized.modifyChannel ?_ _ fun _ hx => hx
      exact hw.sized.congr (Relay.channels_exitSource _ _)
  | endClose i =>
    rcases step_endClose_cases h hcustody i with hsame | ⟨-, -, s, o, c, hs, ho, hc, hafter⟩
    · rw [hsame]
      exact hw.sized
    · rw [hafter]
      show (w.relay.endClose i).Sized
      rw [Relay.endClose_eq hs ho hc]
      exact hw.sized.congr (Relay.channels_exitSource _ _)
  | emit worker camera points =>
    exact Live.sized_emit (l := w.toLive) hreturns hw.sized (.worker worker) camera points
  | dispatch k => exact (Live.dispatchChecked_eq (l := w.toLive) hreturns hw.sized k).2
  | wake i =>
    rcases w.step_wake_cases h i with hsame | ⟨source, hafter⟩
    · rw [hsame]
      exact hw.sized
    · rw [hafter]
      exact (Live.wakeChecked_eq (l := w.toLive) hreturns hw.sized hw.fits i source).2
  | fail | clearFaults | disableAttach | refuseBuffers | exitWorker | pass => exact hw.sized

/-- **What no step gives up on stays so** after the step. -/
theorem Sane.step (hw : w.Sane) (hreturns : h.Returns) (e : Event) : (w.step h e).2.Sane where
  serving := hw.serving.step hreturns e
  sized := hw.sized_step hreturns e
  fits := by
    -- The size is in the profile of a camera, which never changes.
    have hprofiles := profiles_step h e hw.serving.custody
    intro c hc
    obtain ⟨c', hc', hsame⟩ := List.mem_map.mp (hprofiles ▸ List.mem_map_of_mem hc)
    exact hsame ▸ hw.fits c' hc'

/-- An input is a step, or nothing happens. -/
theorem perform_cases (a : Input) :
    (w.perform h a).2 = w ∨ ∃ e, (w.perform h a).2 = (w.step h e).2 := by
  cases a with
  | event e => exact .inr ⟨e, rfl⟩
  | emitSynthetic worker camera =>
    unfold perform
    dsimp only
    split
    · exact .inl rfl
    · split
      · exact .inl rfl
      · exact .inr ⟨_, rfl⟩

/-- The same after an input. -/
theorem Sane.perform (hw : w.Sane) (hreturns : h.Returns) (a : Input) :
    (w.perform h a).2.Sane := by
  rcases perform_cases (w := w) (h := h) a with hsame | ⟨e, hstep⟩
  · rw [hsame]
    exact hw
  · rw [hstep]
    exact hw.step hreturns e

/-- **No input makes anything give up.** -/
theorem Sane.performChecked_eq (hw : w.Sane) (hreturns : h.Returns) (a : Input) :
    w.performChecked h a = .ok (w.perform h a) := by
  cases a with
  | event e => exact hw.stepChecked_eq hreturns e
  | emitSynthetic worker camera =>
    unfold performChecked World.perform
    cases hc : w.relay.cameras[camera]? with
    | none => simp only [hc]
    | some c =>
      obtain ⟨points, hchecked, hpoints⟩ :=
        CameraProfile.pointsChecked_eq (hw.fits c (List.mem_of_getElem? hc)) c.emitted
      simp only [hc, hchecked, hpoints, bind, Except.bind]
      exact hw.stepChecked_eq hreturns _

/-- **No run gives up.** -/
theorem Sane.playChecked_eq (hw : w.Sane) (hreturns : h.Returns) (inputs : List Input) :
    w.playChecked h inputs = .ok (w.play h inputs) ∧ (w.play h inputs).2.Sane := by
  induction inputs generalizing w with
  | nil => exact ⟨rfl, hw⟩
  | cons a as ih =>
    -- The world is sane again after the first input, whatever it was.
    obtain ⟨hrest, hsane⟩ := ih (hw.perform hreturns a)
    refine ⟨?_, hsane⟩
    unfold playChecked
    rw [hw.performChecked_eq hreturns]
    dsimp only [bind, Except.bind]
    rw [hrest]
    rfl

/-- A worker always gets an answer. -/
theorem Sane.step_ok (hw : w.Sane) (hreturns : h.Returns) (e : Event) (reason : Abort) :
    (w.step h e).1 ≠ .emitted (.error reason) := by
  cases e with
  | emit worker camera points =>
    obtain ⟨heard, hanswer, -⟩ :=
      Live.emitChecked_eq (l := w.toLive) hreturns hw.sized (.worker worker) camera points
    show Response.emitted (w.toLive.emit h (.worker worker) camera points).1 ≠ _
    rw [hanswer]
    simp
  | operate i op | beginClose i | endClose i | wake i =>
    unfold World.step
    dsimp only
    repeat' split
    all_goals simp
  | _ => simp [World.step]

/-- An input is not answered with a reason for giving up. -/
theorem Sane.perform_ok (hw : w.Sane) (hreturns : h.Returns) (a : Input) (reason : Abort) :
    (w.perform h a).1 ≠ .emitted (.error reason) := by
  cases a with
  | event e => exact hw.step_ok hreturns e reason
  | emitSynthetic worker camera =>
    unfold World.perform
    cases hc : w.relay.cameras[camera]? with
    | none => simp [hc]
    | some c =>
      obtain ⟨points, -, hpoints⟩ :=
        CameraProfile.pointsChecked_eq (hw.fits c (List.mem_of_getElem? hc)) c.emitted
      simp only [hc, hpoints]
      exact hw.step_ok hreturns _ reason

/-- No worker is told that a frame of its has ended without an answer. -/
theorem Sane.emitted_ok (hw : w.Sane) (hreturns : h.Returns) (inputs : List Input)
    (reason : Abort) : .emitted (.error reason) ∉ (w.play h inputs).1 := by
  induction inputs generalizing w with
  | nil => exact List.not_mem_nil
  | cons a as ih =>
    intro hmem
    rcases List.mem_cons.mp hmem with hnow | hlater
    · exact hw.perform_ok hreturns a reason hnow.symm
    · exact ih (hw.perform hreturns a) hlater

/-- Nothing is there to give up on at the start, if all cameras are small enough. -/
theorem sane_fresh (profiles : List CameraProfile) (runtimes : Nat)
    (sessions : List (Nat × Settings)) (host : σ) (now : Nat)
    (hsize : ∀ p ∈ profiles, p.size < UInt32.size) :
    (fresh profiles runtimes sessions host now).Sane where
  serving := serving_fresh profiles runtimes sessions host now
  sized := fun _ hnone => absurd hnone List.not_mem_nil
  fits := by
    intro c hc
    obtain ⟨p, hp, rfl⟩ := List.mem_map.mp hc
    exact hsize p hp

end World

/-! ### Device objects alone -/

namespace Bench.DeviceBench

/-- `DeviceBench.wakeSource` with all checks; a thread that gives up is an error. -/
def wakeSourceChecked (name : String) (d : Device) (s : Source) (b : DeviceBench) :
    Except Panic DeviceBench :=
  let b := { b with now := max b.now s.due }
  match s.wake with
  | none => .ok (b.setDevice name { d with source := none })
  | some (phase, s) =>
    match b.cameras[d.camera]? with
    | none => .ok (b.setDevice name { d with source := none })
    | some c =>
      (fun points => ((b.setDevice name { d with source := some s }).emitAt d.camera points).2) <$>
        c.profile.pointsChecked phase

/-- `DeviceBench.perform` with all checks. -/
def performChecked (b : DeviceBench) : Act → Except Panic DeviceBench
  | .call name .start => do
    let camera := (b.devices.lookup name).bind fun d => b.cameras[d.camera]?
    discard (Source.startChecked b.nextRun b.now (camera.bind Camera.useCase) none)
    return b.perform (.call name .start)
  | .emitSynthetic serial =>
    match place? b.cameras serial with
    | none => .ok b
    | some i =>
      match b.cameras[i]? with
      | none => .ok b
      | some c => (fun points => (b.emitAt i points).2) <$> c.profile.pointsChecked c.emitted
  | .wake =>
    match b.nextSource? with
    | none => .ok b
    | some (name, d, s) => b.wakeSourceChecked name d s
  | a => .ok (b.perform a)

/-- `DeviceBench.run` with all checks. -/
def runChecked (b : DeviceBench) : List Act → Except Panic DeviceBench
  | [] => .ok b
  | a :: as => do
    let b ← b.performChecked a
    b.runChecked as

variable {b : DeviceBench}

/-- The cameras of a bench stay as many. -/
theorem length_cameras_perform (a : Act) : (b.perform a).cameras.length = b.cameras.length := by
  have hheard (hears : Hears a b) : (b.perform a).cameras.length = b.cameras.length := by
    rw [hears.cameras]
    cases b.callIn? a <;> simp [heard, setRecorder]
  cases a with
  | create name serial =>
    simp only [perform, create]
    split
    · rfl
    · split
      · rfl
      · cases b.devices.lookup name <;> simp [setDevice, released]
  | drop name =>
    simp only [perform, drop]
    cases b.devices.lookup name <;> simp [released]
  | call name k =>
    have h := k.attended name b
    show (k.perform name b).2.cameras.length = _
    generalize k.perform name b = p at h ⊢
    cases h <;> simp [setDevice]
  | fail serial | clearFaults serial =>
    simp only [perform, atSerial]
    cases place? b.cameras serial <;> simp
  | emit serial points => exact hheard (hears_emit serial points b)
  | emitSynthetic serial => exact hheard (hears_emitSynthetic serial b)
  | wake => exact hheard (hears_wake b)

/-- All cameras can always produce a frame. -/
def Fitting (b : DeviceBench) : Prop := ∀ c ∈ b.cameras, c.profile.size < UInt32.size

/-- The sizes of the cameras stay as they are. -/
theorem Fitting.perform (hb : b.Fitting) (a : Act) : (b.perform a).Fitting := by
  intro c hc
  -- The camera is one of those before the act, with the same profile.
  obtain ⟨i, hi⟩ := List.mem_iff_getElem?.mp hc
  have hlt := (List.getElem?_eq_some_iff.mp hi).1
  rw [length_cameras_perform] at hlt
  obtain ⟨c', hc', hmoved⟩ := perform_camera a (List.getElem?_eq_getElem hlt)
  obtain rfl := Option.some.inj (hc'.symm.trans hi)
  rw [hmoved.profile]
  exact hb _ (List.getElem_mem hlt)

/-- A source on a bench goes on without giving up. -/
theorem Fitting.wakeSourceChecked_eq (hb : b.Fitting) (name : String) (d : Device) (s : Source) :
    b.wakeSourceChecked name d s = .ok (b.wakeSource name d s) := by
  unfold wakeSourceChecked wakeSource
  dsimp only
  cases s.wake with
  | none => rfl
  | some next =>
    dsimp only
    split
    · next hc => simp only [hc]
    · next c hc =>
      obtain ⟨points, hchecked, hpoints⟩ :=
        CameraProfile.pointsChecked_eq (hb c (List.mem_of_getElem? hc)) next.1
      simp only [hc, hchecked, hpoints]
      rfl

/-- **An act** on a bench is done without giving up. -/
theorem Fitting.performChecked_eq (hb : b.Fitting) (a : Act) :
    b.performChecked a = .ok (b.perform a) := by
  unfold performChecked
  split
  · dsimp only
    rw [Source.startChecked_eq]
    rfl
  · next serial =>
    unfold DeviceBench.perform emitSynthetic
    dsimp only
    cases hi : place? b.cameras serial with
    | none => rfl
    | some i =>
      dsimp only
      cases hc : b.cameras[i]? with
      | none => rfl
      | some c =>
        obtain ⟨points, hchecked, hpoints⟩ :=
          CameraProfile.pointsChecked_eq (hb c (List.mem_of_getElem? hc)) c.emitted
        dsimp only
        rw [hchecked, hpoints]
        rfl
  · unfold DeviceBench.perform
    dsimp only
    cases b.nextSource? with
    | none => rfl
    | some x => exact hb.wakeSourceChecked_eq _ _ _
  · rfl

/-- **No run with device objects gives up.** -/
theorem Fitting.runChecked_eq (hb : b.Fitting) (acts : List Act) :
    b.runChecked acts = .ok (b.run acts) := by
  induction acts generalizing b with
  | nil => rfl
  | cons a as ih =>
    unfold runChecked
    rw [hb.performChecked_eq]
    exact ih (hb.perform a)

end Bench.DeviceBench

/-! ### Runs -/

/-- **Nothing gives up.**  Cameras whose size fits 32 bits, sessions with any settings and handlers
    that return can be used in any way: no check fails, on whichever thread it is made, so that no
    worker goes without an answer and no dispatch thread ends; buffers are written and read within
    their bounds, and whatever is delivered holds the bytes of its frame.  Device objects that are
    used alone do not give up, either.  What any delivery says about its bytes is told as well. -/
theorem runs_never_give_up {h : Handler σ} (hreturns : h.Returns) {profiles : List CameraProfile}
    (hsize : ∀ p ∈ profiles, p.size < UInt32.size) (runtimes : Nat)
    (sessions : List (Nat × Settings)) (host : σ) (now : Nat) (inputs : List Input)
    (acts : List Bench.Act) :
    let start := World.fresh profiles runtimes sessions host now
    let bench := Bench.DeviceBench.fresh profiles now
    start.playChecked h inputs = .ok (start.play h inputs) ∧
      (∀ reason, .emitted (.error reason) ∉ (start.play h inputs).1) ∧
      (∀ x ∈ (start.play h inputs).2.relay.channels,
        (∀ q, x.handoff = some q → q.alive = true) ∧
        x.buffer.frameChecked = .ok x.buffer.frame ∧
        ∀ points, x.publishChecked points = .ok (x.publish points) ∧
          ∀ d written y, x.publish points = .ok (d, written, y) →
            ∃ bytes, d.bytesChecked = .ok bytes ∧ d.frameBytes = .ok bytes) ∧
      bench.runChecked acts = .ok (bench.run acts) ∧
      (∀ run now useCase limit,
        Source.startChecked run now useCase limit = .ok (.start run now useCase limit)) ∧
      ∀ d : Delivery,
        ((∃ e, d.frameBytes = .error e) ↔ UInt64.size ≤ d.pointCount * Sensor.bytesPerPoint) ∧
        (d.pointCount * Sensor.bytesPerPoint < UInt64.size → ∃ bytes, d.frameBytes = .ok bytes ∧
          bytes.size = min (d.pointCount * Sensor.bytesPerPoint) d.data.size ∧
          bytes.data.toList = d.data.data.toList.take bytes.size) := by
  intro start bench
  have hstart := World.sane_fresh profiles runtimes sessions host now hsize
  obtain ⟨hplay, hover⟩ := hstart.playChecked_eq hreturns inputs
  -- The bench starts with the same cameras.
  have hbench : bench.Fitting := by
    intro c hc
    obtain ⟨p, hp, rfl⟩ := List.mem_map.mp hc
    exact hsize p hp
  refine ⟨hplay, hstart.emitted_ok hreturns inputs, ?_, hbench.runChecked_eq acts,
    Source.startChecked_eq, Delivery.frameBytes_total⟩
  intro x hx
  obtain ⟨k, hk⟩ := List.mem_iff_getElem?.mp hx
  refine ⟨fun q hq => ?_, (hover.sized x hx).frameChecked_eq, fun points => ⟨?_, ?_⟩⟩
  · -- The dispatch threads are alive, since the handler never gives up.
    exact hover.serving.fed.alive (Relay.channel_eq hk ▸ hq)
  · exact x.publishChecked_eq points
  · intro d written y hpublish
    exact (Channel.bytesChecked_of_publish (hover.sized x hx) hpublish).2

/-- A camera with two pixels injects a synthetic frame into a buffer for one point. -/
theorem runs_never_give_up_two_pixels :
    let camera : CameraProfile := { serial := "a", fd := 3, width := 2, height := 1 }
    let settings : Settings := { maxPoints := 1, overflowPolicy := .truncate }
    let start := World.fresh [camera] 1 [(0, settings)] () 0
    let inputs : List Input := [.event (.operate 0 (.openCamera ⟨3⟩ 5 1)),
      .event (.operate 0 (.start false)), .emitSynthetic "worker" 0]
    Handler.accepting.Returns ∧ (∀ p ∈ [camera], p.size < UInt32.size) ∧
      start.playChecked .accepting inputs = .ok (start.play .accepting inputs) ∧
      (start.play .accepting inputs).1.getLast? = some (.emitted (.ok true)) := by
  intro camera settings start inputs
  have hreturns : Handler.accepting.Returns := fun _ _ _ _ => by simp [Handler.accepting]
  have hsize : ∀ p ∈ [camera], p.size < UInt32.size := by decide
  exact ⟨hreturns, hsize,
    (runs_never_give_up hreturns hsize 1 [(0, settings)] () 0 inputs []).1, by decide +kernel⟩

end DepthRelay
