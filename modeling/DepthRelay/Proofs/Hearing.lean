import DepthRelay.Proofs.Outcomes

namespace DepthRelay

/-!
# What answers leave behind

A frame that the handler accepts is counted in one place and timed in another.  All that threads
that deliver do to either is told here, stage by stage, for any session.

* `Tempo` — the count and the log of a session; `Tempo.accept`, `Tempo.acceptAll`.
* `Relay.marks` — the tempos of all sessions, and what hosts have left over.
* `Hearing` — everything that a thread that delivers can do to them.
* `World.step_hearing` — so does each step that no caller takes.
-/

variable {σ : Type}

/-! ### What answers leave behind -/

/-- How many frames of a session have been accepted, and its timing log. -/
structure Tempo where
  delivered : Nat
  log : TimingLog
  deriving DecidableEq, Repr

/-- One more frame is accepted. -/
def Tempo.accept (span : TimingSample) (t : Tempo) : Tempo where
  delivered := t.delivered + 1
  log := t.log.record span

/-- The tempo after all frames with these spans were accepted. -/
def Tempo.acceptAll (spans : List TimingSample) (t : Tempo) : Tempo :=
  spans.foldl (fun t x => t.accept x) t

/-- Samples are accepted one after the other, and count as delivered. -/
theorem Tempo.acceptAll_eq (spans : List TimingSample) (t : Tempo) :
    t.acceptAll spans =
      { delivered := t.delivered + spans.length
        log := { t.log with
          samples := if t.log.enabled then t.log.samples ++ spans else t.log.samples } } := by
  induction spans generalizing t with
  | nil => simp [acceptAll]
  | cons x spans ih =>
    show (t.accept x).acceptAll spans = _
    rw [ih]
    unfold accept TimingLog.record
    cases hon : t.log.enabled <;> simp [hon] <;> omega

namespace Session

def tempo (s : Session) : Tempo where
  delivered := s.stats.delivered
  log := s.timing

/-- What the reply for a frame that arrived at `start` does to count and log. -/
theorem tempo_answer (reply : Reply) (start stop : Moment) (s : Session) :
    (s.answer reply (s.timing.begin? start) stop).tempo =
      if reply = .accepted then s.tempo.accept ⟨start, stop⟩ else s.tempo := by
  cases reply with
  | accepted =>
    rw [if_pos rfl]
    unfold answer tempo Tempo.accept TimingLog.begin?
    cases hon : s.timing.enabled with
    | false => simp [TimingLog.record, hon, Stats.noteDelivered]
    | true => simp [Stats.noteDelivered]
  | failed text | aborted reason => rfl

end Session

namespace Relay

/-- The tempos of all sessions, and the failures that hosts have left over. -/
def marks (w : Relay) : List Tempo × List (List (Handle × String)) :=
  (w.sessions.map Session.tempo, w.runtimes.map Runtime.pending)

/-- No host has a failure left over. -/
def Tidy (w : Relay) : Prop := ∀ r ∈ w.runtimes, r.pending = []

variable {v w : Relay}

/-- A relay with the same failures left over is as tidy. -/
theorem Tidy.of_marks (hw : w.Tidy) (h : v.marks.2 = w.marks.2) : v.Tidy := by
  intro r hr
  have hmem : r.pending ∈ w.marks.2 := h ▸ List.mem_map_of_mem hr
  obtain ⟨r', hr', hsame⟩ := List.mem_map.mp hmem
  rw [← hsame]
  exact hw r' hr'

/-- A change of the tempo of a session, in the marks. -/
theorem marks_modifySession (i : Nat) {f : Session → Session} {g : Tempo → Tempo}
    (h : ∀ s, (f s).tempo = g s.tempo) (w : Relay) :
    (w.modifySession i f).marks = (w.marks.1.modify i g, w.marks.2) := by
  unfold marks modifySession
  simp only [map_modify_of_comm h]

/-- A change that neither count nor log sees. -/
theorem marks_modifySession_of_eq (i : Nat) (f : Session → Session)
    (h : ∀ s, (f s).tempo = s.tempo) (w : Relay) : (w.modifySession i f).marks = w.marks := by
  unfold marks modifySession
  rw [map_modify_of_eq fun s _ => h s]

theorem marks_count (k : Nat) (f : Stats → Stats) (h : ∀ s, (f s).delivered = s.delivered)
    (w : Relay) : (w.count k f).marks = w.marks := by
  refine marks_modifySession_of_eq _ _ ?_ w
  intro s
  simp [Session.tempo, h]

/-- A change of a host that leaves the marks as they are. -/
theorem marks_modifyRuntime (r : Nat) {f : Runtime → Runtime}
    (h : ∀ x, w.runtimes[r]? = some x → (f x).pending = x.pending) :
    (w.modifyRuntime r f).marks = w.marks := by
  unfold marks modifyRuntime
  rw [map_modify_of_eq h]

theorem marks_exitThread (t : ThreadId) (w : Relay) : (w.exitThread t).marks = w.marks := by
  unfold marks
  rw [exitThread_eq]
  simp only [map_exit (f := Runtime.pending) fun _ => rfl]

theorem marks_exitSource (source : Option Source) (w : Relay) :
    (w.exitSource source).marks = w.marks := by
  cases source with
  | none => rfl
  | some s => exact marks_exitThread (.source s.run) w

/-- What is seen of a session after a change that leaves no mark. -/
theorem tempo_of_marks (h : v.marks = w.marks) (i : Nat) : (v.session i).tempo = (w.session i).tempo :=
  getD_of_map_eq (congrArg Prod.fst h) i default

/-! ### The stages of a delivery -/

/-- A thread that gets a handle has noted the time, if the session is timed. -/
theorem marks_begin (t : ThreadId) (k : Nat) (w : Relay) :
    (w.begin t k).2.marks = w.marks ∧ (w.begin t k).2.now = w.now ∧
      ∀ ticket, (w.begin t k).1 = some ticket → ticket.channel = k ∧
        ticket.started = (w.session (w.channel k).session).timing.begin? w.now := by
  have hattach := map_attach (f := Runtime.pending) (fun _ _ _ _ => rfl) t (w.channel k).binding
    w.attachments w.runtimes
  unfold begin
  dsimp only
  generalize w.attachments.attach t (w.channel k).binding w.runtimes = result at hattach ⊢
  obtain ⟨handle, as, runtimes⟩ := result
  have hmarks : ({ w with attachments := as, runtimes := runtimes } : Relay).marks = w.marks := by
    unfold marks
    dsimp only at hattach ⊢
    rw [hattach]
  cases handle with
  | none => exact ⟨(marks_count k Stats.noteAttachFailure (fun _ => rfl) _).trans hmarks, rfl, by simp⟩
  | some handle =>
    refine ⟨hmarks, rfl, ?_⟩
    rintro ticket hticket
    obtain rfl := Option.some.inj hticket
    exact ⟨rfl, rfl⟩

/-- To publish a frame leaves the marks of a relay, and does not take time. -/
theorem marks_publish (k : Nat) (points : List Point) (w : Relay) :
    (w.publish k points).2.marks = w.marks ∧ (w.publish k points).2.now = w.now := by
  have hwritten (cut : Nat) (s : Stats) : (s.noteWritten cut).delivered = s.delivered := by
    unfold Stats.noteWritten
    split <;> rfl
  unfold publish
  cases (w.channel k).publish points with
  | error e => exact ⟨marks_count k Stats.noteOverflow (fun _ => rfl) w, rfl⟩
  | ok result =>
    obtain ⟨d, written, x⟩ := result
    exact ⟨marks_count k _ (hwritten _) _, rfl⟩

/-- A call that could not be made is not taken for an accepted frame. -/
theorem marks_conclude_error (t : Ticket) (e : HostError) (hw : w.Tidy) :
    (w.conclude t (.error e)).marks = w.marks := by
  unfold conclude
  dsimp only
  have hruntime := marks_modifyRuntime (w := w) (w.channel t.channel).binding.runtime
    (f := fun _ =>
      ((w.runtime (w.channel t.channel).binding.runtime).conclude (.error e) t.handle).2) (by
        intro x hx
        have hnone : x.pending = [] := hw x (List.mem_of_getElem? hx)
        rw [runtime_eq hx]
        simp [Runtime.conclude_eq, hnone])
  cases houtcome :
      ((w.runtime (w.channel t.channel).binding.runtime).conclude (.error e) t.handle).1 with
  | delivered => exact absurd houtcome (conclude_error e t.handle _)
  | failed text => exact (marks_count _ Stats.noteHandlerFailure (fun _ => rfl) _).trans hruntime

/-! ### Cameras, hand-offs and frame sources -/

/-- To submit a frame leaves them, too. -/
theorem marks_submit (k : Nat) (q : Handoff) (points : List Point) (w : Relay) :
    (w.submit k q points).marks = w.marks := by
  unfold submit
  cases q.submit points with
  | mk status q' =>
    cases status with
    | queued => rfl
    | dropped => exact marks_count k Stats.noteBackpressure (fun _ => rfl) _

/-- A frame source leaves them, and takes the time until its frame is due. -/
theorem marks_wakeSource (i : Nat) (source : Source) (w : Relay) :
    (w.wakeSource i source).2.marks = w.marks ∧
      (w.wakeSource i source).2.now = max w.now source.due := by
  have hset (source : Option Source) (w : Relay) : (w.setSource i source).marks = w.marks := by
    refine marks_modifySession_of_eq i _ ?_ w
    intro s
    rfl
  have hend (run : Nat) (w : Relay) : (w.endSource i run).marks = w.marks :=
    (marks_exitThread _ _).trans (hset none w)
  unfold wakeSource
  dsimp only
  split
  · split
    · exact ⟨hset _ _, rfl⟩
    · exact ⟨hend _ _, rfl⟩
  · exact ⟨hend _ _, rfl⟩

end Relay

/-! ### Threads that deliver -/

/-- Everything that a thread that delivers can do to counts and logs.  The frame that is delivered
    is named, if there is one, and its delivery begins at `start`. -/
inductive Hearing (h : Handler σ) (start : Nat) (l v : Live σ) : Option (Nat × List Point) → Prop
  | unasked (frame? : Option (Nat × List Point)) (host : v.host = l.host)
      (marks : v.relay.marks = l.relay.marks) : Hearing h start l v frame?
  /-- The handler has been asked, and only a frame that it accepts is counted and timed. -/
  | asked (k : Nat) (points : List Point) (d : Delivery) (a : Answer σ)
      (answer : a = h (l.relay.channel k).binding.runtime d l.host) (host : v.host = a.host)
      (clock : start ≤ v.relay.now)
      (marks : v.relay.marks =
        if a.reply = .accepted then
          (l.relay.marks.1.modify (l.relay.channel k).session
            (Tempo.accept ⟨start, v.relay.now⟩), l.relay.marks.2)
        else l.relay.marks) :
      Hearing h start l v (some (k, points))

namespace Hearing

variable {h : Handler σ} {start : Nat} {l l' v v' : Live σ} {frame? : Option (Nat × List Point)}

/-- What has happened before left no mark, and rewired no channel. -/
theorem congr (hhearing : Hearing h start l' v frame?) (hhost : l'.host = l.host)
    (hmarks : l'.relay.marks = l.relay.marks)
    (hwiring : ∀ k, (l'.relay.channel k).wiring = (l.relay.channel k).wiring) :
    Hearing h start l v frame? := by
  cases hhearing with
  | unasked _ host marks => exact .unasked _ (host.trans hhost) (marks.trans hmarks)
  | asked k points d a answer host clock marks =>
    have hsession : (l'.relay.channel k).session = (l.relay.channel k).session :=
      congrArg Wiring.session (hwiring k)
    have hbinding : (l'.relay.channel k).binding = (l.relay.channel k).binding :=
      congrArg Wiring.binding (hwiring k)
    rw [hsession, hmarks] at marks
    rw [hbinding, hhost] at answer
    exact .asked k points d a answer host clock marks

/-- What happens afterwards leaves no mark and takes no time. -/
theorem trans (hhearing : Hearing h start l v frame?) (hhost : v'.host = v.host)
    (hmarks : v'.relay.marks = v.relay.marks) (hnow : v'.relay.now = v.relay.now) :
    Hearing h start l v' frame? := by
  cases hhearing with
  | unasked _ host marks => exact .unasked _ (hhost.trans host) (hmarks.trans marks)
  | asked k points d a answer host clock marks =>
    rw [← hnow] at clock marks
    exact .asked k points d a answer (hhost.trans host) clock (hmarks.trans marks)

/-- Failures are never left over. -/
theorem tidy (hhearing : Hearing h start l v frame?) (htidy : l.relay.Tidy) : v.relay.Tidy := by
  refine htidy.of_marks ?_
  cases hhearing with
  | unasked _ host marks => rw [marks]
  | asked k points d a answer host clock marks =>
    rw [marks]
    split <;> rfl

end Hearing

namespace Live

variable {h : Handler σ} {l : Live σ} {k : Nat}

/-- The call of the handler for a frame in the buffer, for which a thread has noted the time. -/
theorem handle_hearing (hreturns : h.Returns) (htidy : l.relay.Tidy) (points : List Point)
    {t : Ticket} {d : Delivery} {start : Nat} (hclock : start ≤ l.relay.now)
    (hstarted : t.started =
      (l.relay.session (l.relay.channel t.channel).session).timing.begin? start) :
    Hearing h start l (l.handle h t d).2 (some (t.channel, points)) := by
  rcases Relay.books_enter l.relay t.channel d with ⟨-, hrefused⟩ | ⟨hseen, -, -⟩
  · refine .unasked _ ?_ ?_
    · unfold handle
      rw [hrefused]
      rfl
    · unfold handle
      rw [hrefused]
      exact Relay.marks_conclude_error t .noBuffer htidy
  · -- A host that sees a buffer is there.
    obtain ⟨r, hr⟩ : ∃ r, l.relay.runtimes[(l.relay.channel t.channel).binding.runtime]? =
        some r := by
      cases hr : l.relay.runtimes[(l.relay.channel t.channel).binding.runtime]? with
      | some r => exact ⟨r, rfl⟩
      | none =>
        unfold Relay.runtime at hseen
        rw [List.getD_eq_getElem?_getD, hr] at hseen
        exact absurd hseen (by simp [Runtime.isExposed, default, instInhabitedRuntime.default])
    rw [Relay.runtime_eq hr] at hseen
    rw [handle_eq hreturns hr hseen (htidy r (List.mem_of_getElem? hr))]
    refine .asked t.channel points d _ rfl rfl ?_ ?_
    · exact Nat.le_trans hclock (Nat.le_add_right _ _)
    · dsimp only
      generalize h (l.relay.channel t.channel).binding.runtime d l.host = a
      -- The span that is noted is the one of the session's own log.
      rw [Relay.modifySession_congr (l.relay.channel t.channel).session
        (g := fun s => s.answer a.reply (s.timing.begin? start) (l.relay.now + a.elapsed : Nat)) (by
          intro s hs
          have hs' : l.relay.session (l.relay.channel t.channel).session = s := Relay.session_eq hs
          rw [hstarted, hs'])]
      have hcalled := Relay.marks_modifyRuntime
        (w := { l.relay with now := l.relay.now + a.elapsed })
        (l.relay.channel t.channel).binding.runtime
        (f := fun _ => { r with invocations := r.invocations + 1 }) (by
          intro x hx
          obtain rfl := Option.some.inj (hr.symm.trans hx)
          rfl)
      by_cases haccepted : a.reply = .accepted
      · rw [if_pos haccepted, Relay.marks_modifySession _ (g := Tempo.accept
          ⟨start, (l.relay.now + a.elapsed : Nat)⟩), hcalled]
        · rfl
        · intro s
          rw [Session.tempo_answer, if_pos haccepted]
      · rw [if_neg haccepted, Relay.marks_modifySession_of_eq, hcalled]
        · rfl
        · intro s
          rw [Session.tempo_answer, if_neg haccepted]

/-- **A delivery** begins at once. -/
theorem deliver_hearing (hreturns : h.Returns) (htidy : l.relay.Tidy) (t : ThreadId) (k : Nat)
    (points : List Point) :
    Hearing h l.relay.now l (l.deliver h t k points).2 (some (k, points)) := by
  obtain ⟨hmarks, hnow, hticket⟩ := Relay.marks_begin t k l.relay
  have hstanding := Relay.standing_begin [] l.relay t k
  unfold deliver
  generalize l.relay.begin t k = result at hmarks hnow hticket hstanding ⊢
  obtain ⟨ticket?, w⟩ := result
  dsimp only at hmarks hnow hstanding
  cases ticket? with
  | none => exact .unasked _ rfl hmarks
  | some ticket =>
    obtain ⟨rfl, hstarted⟩ := hticket ticket rfl
    obtain ⟨hmarks', hnow'⟩ := Relay.marks_publish ticket.channel points w
    have hstanding' := (Relay.standing_publish [] w ticket.channel points).trans hstanding
    dsimp only
    generalize w.publish ticket.channel points = result at hmarks' hnow' hstanding' ⊢
    obtain ⟨d?, v⟩ := result
    dsimp only at hmarks' hnow' hstanding'
    cases d? with
    | none => exact .unasked _ rfl (hmarks'.trans hmarks)
    | some d =>
      have hv : v.marks = l.relay.marks := hmarks'.trans hmarks
      -- Neither attaching nor publishing has touched the log for which the time was noted.
      have hwiring := Relay.wiring_of_standing hstanding'
      have hsession : (v.channel ticket.channel).session =
          (l.relay.channel ticket.channel).session :=
        congrArg Wiring.session (hwiring ticket.channel)
      have htiming : (v.session (v.channel ticket.channel).session).timing =
          (l.relay.session (l.relay.channel ticket.channel).session).timing := by
        rw [hsession]
        exact congrArg Tempo.log (Relay.tempo_of_marks hv _)
      have hheard : Hearing h l.relay.now (l.withRelay v)
          ((l.withRelay v).handle h ticket d).2 (some (ticket.channel, points)) := by
        refine handle_hearing hreturns ?_ points ?_ ?_
        · exact htidy.of_marks (congrArg Prod.snd hv)
        · exact Nat.le_of_eq (hnow'.trans hnow).symm
        · rw [hstarted]
          exact congrArg (TimingLog.begin? _) htiming.symm
      exact hheard.congr rfl hv hwiring

/-- An injected frame. -/
theorem emit_hearing (hreturns : h.Returns) (htidy : l.relay.Tidy) (t : ThreadId) (p : Nat)
    (points : List Point) :
    Hearing h l.relay.now l (l.emit h t p points).2
      (((l.relay.listener? p).map fun k => (k, points)).filter fun (k, _) =>
        (l.relay.channel k).handoff.isNone) := by
  rw [emit_eq hreturns]
  cases hk : l.relay.listener? p with
  | none => exact .unasked _ rfl rfl
  | some k =>
    dsimp only [Option.map_some]
    cases hq : (l.relay.channel k).handoff with
    | some q => exact .unasked _ rfl (Relay.marks_submit k q points (l.relay.noteEmitted p))
    | none =>
      have hframe : (some (k, points)).filter
          (fun (x : Nat × List Point) => (l.relay.channel x.1).handoff.isNone) =
          some (k, points) := by
        simp [hq]
      rw [hframe]
      have hdelivered :=
        deliver_hearing (l := l.withRelay (l.relay.noteEmitted p)) hreturns htidy t k points
      exact hdelivered.congr rfl rfl fun _ => rfl

/-- A dispatch thread. -/
theorem dispatch_hearing (hreturns : h.Returns) (htidy : l.relay.Tidy) (k : Nat) :
    Hearing h l.relay.now l (l.dispatch h k)
      ((l.relay.takeQueued? k).map fun (points, _) => (k, points)) := by
  rw [dispatch_eq hreturns]
  cases htake : l.relay.takeQueued? k with
  | none => exact .unasked _ rfl rfl
  | some taken =>
    obtain ⟨points, v⟩ := taken
    have hwiring := Relay.wiring_of_standing (Relay.standing_takeQueued? [] l.relay htake)
    obtain ⟨hmarks, hnow⟩ : v.marks = l.relay.marks ∧ v.now = l.relay.now := by
      obtain ⟨q, rest, -, -, rfl⟩ := Relay.takeQueued?_eq_some htake
      exact ⟨rfl, rfl⟩
    have hdelivered := deliver_hearing (l := l.withRelay v) hreturns
      (htidy.of_marks (congrArg Prod.snd hmarks)) (.dispatch k) k points
    rw [← hnow]
    exact (hdelivered.congr (l := l) rfl hmarks hwiring).trans rfl rfl rfl

end Live

namespace World

variable {h : Handler σ} {w : World σ} {e : Event} {i : Nat}

/-- When the frame of a step arrives, if it brings one. -/
def arrival (e : Event) (w : World σ) : Nat :=
  match e with
  | .wake i => max w.relay.now ((w.relay.session i).source?.elim 0 Source.due)
  | _ => w.relay.now

/-- **What a step can do** to counts and logs if no caller takes it. -/
theorem step_hearing (hreturns : h.Returns) (htidy : w.relay.Tidy) (hcaller : e.caller? = none) :
    Hearing h (w.arrival e) w.toLive (w.step h e).2.toLive (w.delivered? e) := by
  cases e with
  -- The caller's events are ruled out.
  | operate j op | beginClose j | endClose j => exact absurd hcaller (by simp [Event.caller?])
  | emit worker p points =>
    exact Live.emit_hearing (l := w.toLive) hreturns htidy (.worker worker) p points
  | dispatch k => exact Live.dispatch_hearing (l := w.toLive) hreturns htidy k
  | wake j =>
    unfold step
    dsimp only
    cases hsource : (w.relay.session j).source? with
    | none => exact .unasked _ rfl rfl
    | some source =>
      obtain ⟨hmarks, hnow⟩ := Relay.marks_wakeSource j source w.relay
      have harrival : w.arrival (.wake j) = max w.relay.now source.due := by
        simp [arrival, hsource]
      show Hearing h _ _ (w.toLive.wake h j source) _
      rw [Live.wake_eq hreturns, harrival]
      cases hwake : w.relay.wakeSource j source with
      | mk produced v =>
        -- Up to its frame the source changes nothing that is marked.
        rw [hwake] at hmarks hnow
        cases produced with
        | none => exact .unasked _ rfl hmarks
        | some frame =>
          obtain ⟨p, points⟩ := frame
          obtain ⟨-, -, hchannels, -⟩ := Relay.wakeSource_some hwake
          have hheard := Live.emit_hearing (l := w.toLive.withRelay v) hreturns
            (htidy.of_marks (congrArg Prod.snd hmarks)) (.source source.run) p points
          rw [(frame_of_wakeSource hsource hwake).2, ← hnow]
          refine hheard.congr rfl hmarks fun k => ?_
          exact congrArg Channel.wiring (Relay.channel_of_channels hchannels k)
  | fail camera op s => exact .unasked _ rfl rfl
  | clearFaults camera => exact .unasked _ rfl rfl
  | disableAttach r on => exact .unasked _ rfl (Relay.marks_modifyRuntime r fun _ _ => rfl)
  | refuseBuffers r fault => exact .unasked _ rfl (Relay.marks_modifyRuntime r fun _ _ => rfl)
  | exitWorker worker => exact .unasked _ rfl (Relay.marks_exitThread (.worker worker) w.relay)
  | pass nanos => exact .unasked _ rfl rfl

end World

end DepthRelay
