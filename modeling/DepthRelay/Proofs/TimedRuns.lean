import DepthRelay.Proofs.Hearing
import DepthRelay.Proofs.TimingHistory

namespace DepthRelay

/-!
# The timing of runs

In the course of a run, the count of accepted frames and the log of their spans keep together,
whatever else happens to the session, its host and its camera.

* `World.Handling` — everything that a caller can do; `World.step_of_caller`.
* `World.begins`, `World.startless` — where runs begin, and schedules in which none does.
* `World.step_within` — a step within a run; `World.run_within` — a stretch of a run.
* `samples_match_delivered` — what a stop hands over.
-/

variable {σ : Type}

/-! ### Steps of callers -/

namespace Relay

variable {w : Relay} {closing : List Nat} {i : Nat} {s : Session} {o : OpenCamera} {c : Camera Nat}

theorem sessions_exitSource (source : Option Source) (w : Relay) :
    (w.exitSource source).sessions = w.sessions := by
  cases source <;> rfl

/-- **An operation within a run** changes the session only by ending the run: otherwise it begins
    one, or leaves the session as it is. -/
theorem perform_sessions (op : Operation) (hcustody : Custody (w.standing closing))
    (hs : w.sessions[i]? = some s) :
    ∃ t, (op.perform i w).2.sessions = w.sessions.set i t ∧
      (t = s ∨ t.state = .opened ∨
        (∃ on, op = .start on) ∧ (op.perform i w).1.failed = false) := by
  obtain ⟨hclosed, hfound⟩ := of_custody hcustody hs
  have hcases := perform_cases op hs hclosed hfound
  generalize op.perform i w = result at hcases ⊢
  obtain ⟨answer, v⟩ := result
  dsimp only at hcases ⊢
  generalize answer.failed = failed at hcases ⊢
  cases hcases with
  | idle op failed => exact ⟨s, (set_of_getElem? hs).symm, .inl rfl⟩
  | undone d key address p c c' target found residue closed =>
    exact ⟨s, (set_of_getElem? hs).symm, .inl rfl⟩
  | opened d key address p c rate b r target found closed still rated room exposed =>
    exact ⟨_, rfl, .inr (.inl rfl)⟩
  | unstarted timing o c held found state => exact ⟨_, rfl, .inr (.inl state)⟩
  | started timing o c held found state => exact ⟨_, rfl, .inr (.inr ⟨⟨timing, rfl⟩, rfl⟩)⟩
  | stopped o c held found state => exact ⟨_, sessions_exitSource _ _, .inr (.inl rfl)⟩
  | exposed o c held found => exact ⟨s, rfl, .inl rfl⟩

/-- Operations leave no failure over. -/
theorem tidy_perform (op : Operation) (hcustody : Custody (w.standing closing))
    (hs : w.sessions[i]? = some s) (htidy : w.Tidy) : (op.perform i w).2.Tidy := by
  obtain ⟨hclosed, hfound⟩ := of_custody hcustody hs
  have hcases := perform_cases op hs hclosed hfound
  generalize op.perform i w = result at hcases ⊢
  obtain ⟨answer, v⟩ := result
  dsimp only at hcases ⊢
  generalize answer.failed = failed at hcases
  cases hcases with
  | opened d key address p c rate b r target found closed still rated room exposed =>
    unfold opened
    rw [session_eq hs]
    intro x hx
    obtain ⟨j, hj⟩ := List.mem_iff_getElem?.mp hx
    rcases getElem?_set_cases hj with ⟨rfl, rfl⟩ | ⟨-, hj⟩
    · -- The host that has got one more buffer to see.
      have hlt := (List.getElem?_eq_some_iff.mp hj).1
      rw [List.length_set] at hlt
      rw [runtime_eq (List.getElem?_eq_getElem hlt)] at exposed
      exact (Runtime.pending_expose exposed).trans (htidy _ (List.getElem_mem hlt))
    · exact htidy x (List.mem_of_getElem? hj)
  | stopped o c held found state =>
    exact Tidy.of_marks (w := w.update ..) htidy (congrArg Prod.snd (marks_exitSource _ _))
  | _ => exact htidy

/-- The beginning of a close leaves the relay tidy. -/
theorem tidy_beginClose (hs : w.sessions[i]? = some s) (ho : s.camera = some o)
    (hc : w.cameras[o.device.camera]? = some c) (htidy : w.Tidy) : (w.beginClose i).Tidy := by
  rw [beginClose_eq hs ho hc]
  have hended := marks_exitSource (if stops s c then o.device.source else none) w
  exact htidy.of_marks (v := w.exitSource _) (congrArg Prod.snd hended)

/-- The end of a close leaves the relay tidy. -/
theorem tidy_endClose (hs : w.sessions[i]? = some s) (ho : s.camera = some o)
    (hc : w.cameras[o.device.camera]? = some c) (htidy : w.Tidy) : (w.endClose i).Tidy := by
  rw [endClose_eq hs ho hc]
  generalize hv : (w.exitThread (.dispatch o.channel)).exitSource o.device.source = v
  have hended : v.marks = w.marks := by
    rw [← hv]
    exact (marks_exitSource _ _).trans (marks_exitThread _ w)
  have htidy' : (v.update i s.closed o.device.camera c.release).Tidy :=
    htidy.of_marks (v := v) (congrArg Prod.snd hended)
  exact htidy'.of_marks (congrArg Prod.snd (marks_modifyRuntime s.runtime fun _ _ => rfl))

end Relay

namespace World

variable (h : Handler σ) {w : World σ} {e : Event} {i j : Nat}

/-- The step is a start of the session at place `i` that succeeds. -/
def begins (i : Nat) (e : Event) (w : World σ) : Bool :=
  match e, (w.step h e).1 with
  | .operate j (.start _), .answered (.unit (.ok ())) => decide (j = i)
  | _, _ => false

/-- No start of the session at place `i` succeeds in the course of a schedule. -/
def startless (i : Nat) : List Event → World σ → Bool
  | [], _ => true
  | e :: es, w => !w.begins h i e && startless i es (w.step h e).2

/-- A start that does not fail begins a run. -/
theorem begins_of_not_failed {on : Bool} (hready : w.ready i = true)
    (hok : ((Operation.start on).perform i w.relay).1.failed = false) :
    w.begins h i (.operate i (.start on)) = true := by
  have hstep : (w.step h (.operate i (.start on))).1 =
      .answered ((Operation.start on).perform i w.relay).1 := by
    unfold step
    dsimp only
    rw [if_pos hready]
  have hunit : ((Operation.start on).perform i w.relay).1 =
      .unit (w.relay.start on i).1 := rfl
  unfold begins
  rw [hstep, hunit]
  rw [hunit] at hok
  cases hanswer : (w.relay.start on i).1 with
  | ok _ => simp
  | error e =>
    rw [hanswer] at hok
    exact absurd hok (by simp [Operation.Result.failed])

/-- Everything that a caller can do who acts upon the session at place `j`. -/
inductive Handling (j : Nat) (e : Event) (w v : World σ) : Prop
  | idle (sessions : v.relay.sessions = w.relay.sessions) (closing : v.closing = w.closing) :
      Handling j e w v
  /-- The session is another afterwards, and captures only if it is being closed or has just
      begun to. -/
  | changed (t : Session) (sessions : v.relay.sessions = w.relay.sessions.set j t)
      (begun : t.state = .capturing → j ∈ v.closing ∨ w.begins h j e = true)
      (closing : ∀ i, i ≠ j → i ∈ w.closing → i ∈ v.closing) : Handling j e w v

/-- **What a caller can do**: no handler is asked, and no failure is left over. -/
theorem step_of_caller (hcustody : Custody w.standing) (hcaller : e.caller? = some j) :
    (w.step h e).2.host = w.host ∧ (w.relay.Tidy → (w.step h e).2.relay.Tidy) ∧
      w.Handling h j e (w.step h e).2 := by
  cases e with
  | operate i op =>
    obtain rfl : i = j := Option.some.inj hcaller
    rcases w.step_operate_cases h i op with hsame | ⟨hi, hfree, hafter⟩
    · rw [hsame]
      exact ⟨rfl, id, .idle rfl rfl⟩
    · have hs := List.getElem?_eq_getElem hi
      have htidy := Relay.tidy_perform op hcustody hs
      obtain ⟨t, ht, hcases⟩ := Relay.perform_sessions op hcustody hs
      rw [hafter]
      refine ⟨rfl, htidy, ?_⟩
      -- An operation leaves the tempo alone, opens, or starts, which is when a run begins.
      rcases hcases with rfl | hopened | ⟨⟨on, rfl⟩, hok⟩
      · exact .idle (ht.trans (set_of_getElem? hs)) rfl
      · exact .changed t ht (fun hcapturing => absurd (hopened.symm.trans hcapturing) (by simp))
          fun _ _ hclosing => hclosing
      · have hready : w.ready i = true := by simp [ready, hi, hfree]
        exact .changed t ht (fun _ => .inr (begins_of_not_failed h hready hok))
          fun _ _ hclosing => hclosing
  | beginClose i =>
    obtain rfl : i = j := Option.some.inj hcaller
    rcases step_beginClose_cases h hcustody i with hsame | ⟨s, o, c, hs, ho, hc, hafter⟩
    · rw [hsame]
      exact ⟨rfl, id, .idle rfl rfl⟩
    · rw [hafter]
      refine ⟨rfl, Relay.tidy_beginClose hs ho hc, .changed (Relay.halted s o c) ?_ ?_ ?_⟩
      · show (w.relay.beginClose i).sessions = _
        rw [Relay.beginClose_eq hs ho hc]
        exact congrArg (List.set · i _) (Relay.sessions_exitSource _ w.relay)
      · exact fun _ => .inl List.mem_cons_self
      · exact fun _ _ hclosing => List.mem_cons_of_mem _ hclosing
  | endClose i =>
    obtain rfl : i = j := Option.some.inj hcaller
    rcases step_endClose_cases h hcustody i with hsame | ⟨-, -, s, o, c, hs, ho, hc, hafter⟩
    · rw [hsame]
      exact ⟨rfl, id, .idle rfl rfl⟩
    · rw [hafter]
      refine ⟨rfl, Relay.tidy_endClose hs ho hc, .changed s.closed ?_ ?_ ?_⟩
      · show (w.relay.endClose i).sessions = _
        rw [Relay.endClose_eq hs ho hc]
        exact congrArg (List.set · i _) (Relay.sessions_exitSource _ (w.relay.exitThread _))
      · exact fun hcapturing => absurd hcapturing (by simp [Session.closed])
      · exact fun k hk hclosing => List.mem_filter.mpr ⟨hclosing, by simpa using hk⟩
  -- The other events have no caller.
  | _ => exact absurd hcaller (by simp [Event.caller?])

/-- Failures are never left over. -/
theorem tidy_step (hreturns : h.Returns) (hcustody : Custody w.standing) (htidy : w.relay.Tidy)
    (e : Event) : (w.step h e).2.relay.Tidy := by
  cases hcaller : e.caller? with
  | none => exact (step_hearing hreturns htidy hcaller).tidy htidy
  | some j => exact (step_of_caller h hcustody hcaller).2.1 htidy

/-- **A run** leaves it tidy. -/
theorem tidy_run (hreturns : h.Returns) (events : List Event) (hcustody : Custody w.standing)
    (htidy : w.relay.Tidy) : (w.run h events).relay.Tidy := by
  induction events generalizing w with
  | nil => exact htidy
  | cons e events ih =>
    exact ih (hcustody.shift (step_shift h e hcustody)) (tidy_step h hreturns hcustody htidy e)

/-- At the start nothing is left over. -/
theorem tidy_fresh (profiles : List CameraProfile) (runtimes : Nat)
    (sessions : List (Nat × Settings)) (host : σ) (now : Nat) :
    (fresh profiles runtimes sessions host now).relay.Tidy := by
  intro r hr
  rw [List.eq_of_mem_replicate hr]

end World

/-! ### Within a run -/

/-- What a step within a run does to the tempo `t` of the session at place `i`. -/
inductive Beat (h : Handler σ) (i start : Nat) (l v : Live σ) (t t' : Tempo) :
    Option (Nat × List Point) → Prop
  | quiet (frame? : Option (Nat × List Point)) (host : v.host = l.host) (same : t' = t) :
      Beat h i start l v t t' frame?
  | heard (k : Nat) (points : List Point) (d : Delivery) (a : Answer σ)
      (answer : a = h (l.relay.channel k).binding.runtime d l.host) (host : v.host = a.host)
      (clock : start ≤ v.relay.now)
      (tempo : t' = if a.reply = .accepted ∧ (l.relay.channel k).session = i then
        t.accept ⟨start, v.relay.now⟩ else t) :
      Beat h i start l v t t' (some (k, points))

/-- The tempo of one of the sessions. -/
theorem Hearing.beat {h : Handler σ} {start i : Nat} {l v : Live σ}
    {frame? : Option (Nat × List Point)} {s s' : Session}
    (hhearing : Hearing h start l v frame?) (hs : l.relay.sessions[i]? = some s)
    (hs' : v.relay.sessions[i]? = some s') : Beat h i start l v s.tempo s'.tempo frame? := by
  have hbefore : l.relay.marks.1[i]? = some s.tempo := by simp [Relay.marks, hs]
  have hafter : v.relay.marks.1[i]? = some s'.tempo := by simp [Relay.marks, hs']
  cases hhearing with
  | unasked _ host marks =>
    rw [marks, hbefore] at hafter
    exact .quiet _ host (Option.some.inj hafter).symm
  | asked k points d a answer host clock marks =>
    refine .heard k points d a answer host clock ?_
    by_cases haccepted : a.reply = .accepted
    · rw [marks, if_pos haccepted] at hafter
      simp only [List.getElem?_modify, hbefore, Option.map_eq_map, Option.map_some,
        Option.some.injEq] at hafter
      simp only [haccepted, true_and]
      exact hafter.symm
    · rw [marks, if_neg haccepted, hbefore] at hafter
      rw [if_neg (by simp [haccepted])]
      exact (Option.some.inj hafter).symm

namespace World

variable {h : Handler σ} {w : World σ} {i : Nat} {s' : Session}

/-- **A step within a run.**  If a session captures after a step that has not begun to close it and
    is not the start of its run, it has captured before, and only its tempo may be another. -/
theorem step_within (hreturns : h.Returns) (hcustody : Custody w.standing) (htidy : w.relay.Tidy)
    {e : Event} (hs' : (w.step h e).2.relay.sessions[i]? = some s')
    (hstate : s'.state = .capturing) (hfree : i ∉ (w.step h e).2.closing)
    (hwithin : w.begins h i e = false) :
    i ∉ w.closing ∧ ∃ s, w.relay.sessions[i]? = some s ∧ s.standing = s'.standing ∧
      Beat h i (w.arrival e) w.toLive (w.step h e).2.toLive s.tempo s'.tempo
        (w.delivered? e) := by
  cases hcaller : e.caller? with
  -- Somebody else's step: what stands does not change, and the rest is a matter of hearing.
  | none =>
    have hstanding := standing_step h (w := w) hcaller
    have hclosing : (w.step h e).2.closing = w.closing := congrArg Standing.closing hstanding
    have hsessions : (w.step h e).2.relay.sessions.map Session.standing =
        w.relay.sessions.map Session.standing := congrArg Standing.sessions hstanding
    obtain ⟨s, hs, hsame⟩ := getElem?_of_map_eq hsessions.symm hs'
    rw [hclosing] at hfree
    exact ⟨hfree, s, hs, hsame, (step_hearing hreturns htidy hcaller).beat hs hs'⟩
  | some j =>
    obtain ⟨hhost, -, hhandling⟩ := step_of_caller h hcustody hcaller
    cases hhandling with
    | idle sessions closing =>
      rw [sessions] at hs'
      rw [closing] at hfree
      exact ⟨hfree, s', hs', rfl, .quiet _ hhost rfl⟩
    | changed t sessions begun closing =>
      rw [sessions] at hs'
      rcases getElem?_set_cases hs' with ⟨rfl, rfl⟩ | ⟨hij, hs⟩
      · -- The session itself has changed: it would be closing, or a run would begin.
        rcases begun hstate with hclosing | hbegins
        · exact absurd hclosing hfree
        · exact absurd (hbegins.symm.trans hwithin) (by simp)
      · exact ⟨fun hclosing => hfree (closing i hij hclosing), s', hs, rfl,
          .quiet _ hhost rfl⟩

/-- **A stretch of a run**: the frames that were accepted are the ones that the log has got. -/
theorem run_within (hreturns : h.Returns) (events : List Event) (hcustody : Custody w.standing)
    (htidy : w.relay.Tidy) (hs' : (w.run h events).relay.sessions[i]? = some s')
    (hstate : s'.state = .capturing) (hfree : i ∉ (w.run h events).closing)
    (hwithin : w.startless h i events = true) :
    i ∉ w.closing ∧ ∃ s spans, w.relay.sessions[i]? = some s ∧ s.standing = s'.standing ∧
      s'.tempo = s.tempo.acceptAll spans ∧ ∀ x ∈ spans, x.start ≤ x.stop := by
  induction events generalizing w with
  | nil => exact ⟨hfree, s', [], hs', rfl, rfl, by simp⟩
  | cons e events ih =>
    simp only [startless, Bool.and_eq_true, Bool.not_eq_true'] at hwithin
    obtain ⟨hfree₁, s₁, spans, hs₁, hsame₁, htempo, hspans⟩ :=
      ih (hcustody.shift (step_shift h e hcustody)) (tidy_step h hreturns hcustody htidy e) hs'
        hfree hwithin.2
    have hstate₁ : s₁.state = .capturing := (congrArg Session.state hsame₁).trans hstate
    obtain ⟨hfree₀, s, hs, hsame, hbeat⟩ :=
      step_within hreturns hcustody htidy hs₁ hstate₁ hfree₁ hwithin.1
    -- The step has added one span, or none.
    obtain ⟨more, hmore, hmore'⟩ : ∃ more, s₁.tempo = s.tempo.acceptAll more ∧
        ∀ x ∈ more, x.start ≤ x.stop := by
      generalize w.delivered? e = frame? at hbeat
      cases hbeat with
      | quiet _ host same => exact ⟨[], same, by simp⟩
      | heard k points d a answer host clock tempo =>
        split at tempo
        · exact ⟨[_], tempo, by simpa using clock⟩
        · exact ⟨[], tempo, by simp⟩
    refine ⟨hfree₀, s, more ++ spans, hs, hsame.trans hsame₁, ?_, ?_⟩
    · rw [htempo, hmore]
      exact List.foldl_append.symm
    · exact fun x hx => (List.mem_append.mp hx).elim (hmore' x) (hspans x)

/-! ### The two ends of a run -/

/-- A run begins: the log is a fresh one, or off. -/
theorem of_begun (hcustody : Custody w.standing) {on : Bool}
    (hbegun : (w.step h (.operate i (.start on))).1 = .answered (.unit (.ok ()))) :
    ∃ s t, w.relay.sessions[i]? = some s ∧
      (w.step h (.operate i (.start on))).2.relay.sessions[i]? = some t ∧
      t.tempo = ⟨s.stats.delivered, s.timing.setEnabled on⟩ ∧
      t.standing = { s.standing with state := .capturing, timing := { enabled := on } } := by
  unfold step at hbegun ⊢
  dsimp only at hbegun ⊢
  by_cases hready : w.ready i
  · rw [if_pos hready] at hbegun ⊢
    have hanswer : (w.relay.start on i).1 = .ok () := by
      simpa [Operation.perform] using hbegun
    show ∃ s t, _ ∧ (w.relay.start on i).2.sessions[i]? = some t ∧ _
    obtain ⟨s, hs⟩ : ∃ s, w.relay.sessions[i]? = some s :=
      ⟨_, List.getElem?_eq_getElem (of_ready hready).1⟩
    obtain ⟨hclosed, hfound⟩ := Relay.of_custody hcustody hs
    by_cases hstate : s.state = .opened
    · obtain ⟨o, ho⟩ : ∃ o, s.camera = some o := by
        refine Option.ne_none_iff_exists'.mp fun hnone => ?_
        exact absurd (hclosed.mpr hnone) (by simp [hstate])
      obtain ⟨c, hc⟩ := hfound o ho
      rw [Relay.start_eq on hs ho hc hstate] at hanswer ⊢
      -- Only a driver that refuses nothing begins a run.
      cases hrefusal : (c.obstacle? .startCapture).or
          (if c.capturing then some .logicError else none) with
      | some e =>
        rw [hrefusal] at hanswer
        exact absurd hanswer (by simp [Relay.ended])
      | none =>
        refine ⟨s, _, hs, getElem?_set_of_some hs, rfl, ?_⟩
        simp [Session.standing, ho, OpenCamera.standing, TimingLog.setEnabled]
    · rw [Relay.start_of_ne on hs hstate] at hanswer
      exact absurd hanswer (by simp)
  · rw [if_neg hready] at hbegun
    exact absurd hbegun (by simp)

/-- A run ends: its samples are handed over. -/
theorem of_stopped (hcustody : Custody w.standing) {l : List TimingSample}
    (hstopped : (w.step h (.operate i .stop)).1 = .answered (.samples (.ok l))) :
    i ∉ w.closing ∧ ∃ s t, w.relay.sessions[i]? = some s ∧ s.state = .capturing ∧
      l = s.timing.harvest ∧ (w.step h (.operate i .stop)).2.relay.sessions[i]? = some t ∧
      t.tempo = ⟨s.stats.delivered, s.timing.harvested⟩ := by
  unfold step at hstopped ⊢
  dsimp only at hstopped ⊢
  by_cases hready : w.ready i
  · rw [if_pos hready] at hstopped ⊢
    have hanswer : (w.relay.stop i).1 = .ok l := by
      simpa [Operation.perform] using hstopped
    refine ⟨(of_ready hready).2, ?_⟩
    show ∃ s t, _ ∧ _ ∧ _ ∧ (w.relay.stop i).2.sessions[i]? = some t ∧ _
    obtain ⟨s, hs⟩ : ∃ s, w.relay.sessions[i]? = some s :=
      ⟨_, List.getElem?_eq_getElem (of_ready hready).1⟩
    obtain ⟨hclosed, hfound⟩ := Relay.of_custody hcustody hs
    -- Only a session that captures has samples to give away.
    by_cases hstate : s.state = .capturing
    · obtain ⟨o, ho⟩ : ∃ o, s.camera = some o := by
        refine Option.ne_none_iff_exists'.mp fun hnone => ?_
        exact absurd (hclosed.mpr hnone) (by simp [hstate])
      obtain ⟨c, hc⟩ := hfound o ho
      rw [Relay.stop_eq hs ho hc hstate] at hanswer ⊢
      -- The driver must have agreed, since a refusal is not an answer with samples.
      cases hrefusal : c.obstacle? .stopCapture with
      | some e =>
        rw [hrefusal] at hanswer
        exact absurd hanswer (by simp [Relay.ended])
      | none =>
        rw [hrefusal] at hanswer
        have hl : l = s.timing.harvest := (Except.ok.inj hanswer).symm
        exact ⟨s, _, hs, hstate, hl,
          (congrArg (fun sessions => sessions[i]?) (Relay.sessions_exitSource _ _)).trans
            (getElem?_set_of_some hs), rfl⟩
    · rw [Relay.stop_of_ne hs hstate] at hanswer
      exact absurd hanswer (by simp)
  · rw [if_neg hready] at hstopped
    exact absurd hstopped (by simp)

end World

/-- **The samples of a run match the count of accepted frames.**  Let a session begin a run and be
    stopped later, with any steps of anybody in between and before, but no other start of the
    session that succeeds.  If the run is timed, there are as many samples as frames were accepted
    in its course, none ends before it starts, they come in order of their starts, and the log is
    empty and off afterwards.  A run that is not timed has none, whatever the log holds. -/
theorem samples_match_delivered (profiles : List CameraProfile) (runtimes : Nat)
    (sessions : List (Nat × Settings)) (host : σ) (now : Nat) (h : Handler σ)
    (before events : List Event) (i : Nat) (on : Bool) (l : List TimingSample) :
    let w := (World.fresh profiles runtimes sessions host now).run h before
    let begun := w.step h (.operate i (.start on))
    let stopped := (begun.2.run h events).step h (.operate i .stop)
    h.Returns → begun.1 = .answered (.unit (.ok ())) → begun.2.startless h i events = true →
      stopped.1 = .answered (.samples (.ok l)) →
      (on = true →
        (begun.2.relay.session i).stats.delivered + l.length =
            (stopped.2.relay.session i).stats.delivered ∧
          (∀ x ∈ l, x.start ≤ x.stop) ∧ l.Pairwise (·.start ≤ ·.start) ∧
          (stopped.2.relay.session i).timing = {}) ∧
      (on = false → l = []) := by
  intro w begun stopped hreturns hbegun hwithin hstopped
  have hcustody : Custody w.standing :=
    World.custody_run h before (World.custody_fresh profiles runtimes sessions host now)
  have htidy : w.relay.Tidy := World.tidy_run h hreturns before
    (World.custody_fresh profiles runtimes sessions host now)
    (World.tidy_fresh profiles runtimes sessions host now)
  have hcustody₁ : Custody begun.2.standing := hcustody.shift (w.step_shift h _ hcustody)
  have htidy₁ : begun.2.relay.Tidy := World.tidy_step h hreturns hcustody htidy _
  obtain ⟨s, t, -, ht, htempo, -⟩ := World.of_begun hcustody hbegun
  obtain ⟨hfree, s', t', hs', hstate, rfl, ht', htempo'⟩ :=
    World.of_stopped (World.custody_run h events hcustody₁) hstopped
  obtain ⟨-, u, spans, hu, -, hrun, hspans⟩ :=
    World.run_within hreturns events hcustody₁ htidy₁ hs' hstate hfree hwithin
  obtain rfl : t = u := Option.some.inj (ht.symm.trans hu)
  -- The log at the stop holds what it held when the run had begun, and the spans of the run.
  rw [htempo, Tempo.acceptAll_eq] at hrun
  have hdelivered : s'.stats.delivered = s.stats.delivered + spans.length :=
    congrArg Tempo.delivered hrun
  have hlog := congrArg Tempo.log hrun
  dsimp only [Session.tempo] at hlog
  have hbefore : (begun.2.relay.session i).stats.delivered = s.stats.delivered := by
    rw [Relay.session_eq ht]
    exact congrArg Tempo.delivered htempo
  have hafter : (stopped.2.relay.session i).tempo = ⟨s'.stats.delivered, s'.timing.harvested⟩ := by
    rw [Relay.session_eq ht']
    exact htempo'
  constructor
  · rintro rfl
    have hlog' : s'.timing = { enabled := true, samples := spans } := by
      rw [hlog]
      simp [TimingLog.setEnabled]
    have hharvest : s'.timing.harvest = s'.timing.ordered := by
      simp [TimingLog.harvest, hlog']
    refine ⟨?_, ?_, ?_, ?_⟩
    · have hcount := congrArg Tempo.delivered hafter
      dsimp only [Session.tempo] at hcount
      rw [hbefore, hcount, hdelivered, hharvest, hlog']
      simp [TimingLog.ordered]
    · intro x hx
      rw [hharvest, hlog'] at hx
      exact hspans x (List.mem_mergeSort.mp hx)
    · rw [hharvest]
      exact s'.timing.pairwise_ordered
    · refine (congrArg Tempo.log hafter).trans ?_
      simp [TimingLog.harvested, hlog']
  · rintro rfl
    simp [TimingLog.harvest, hlog, TimingLog.setEnabled]

/-- A timed run is ended by closing, which leaves its sample in the log.  In the next one a frame is
    refused for its size, the driver refuses to stop once, and one frame is accepted. -/
theorem samples_match_delivered_reopened :
    let profiles : List CameraProfile := [{ serial := "A", fd := 3 }]
    let h : Handler Unit := fun _ _ host => { reply := .accepted, host := host, elapsed := 3 }
    let frame : Event := .emit "W" 0 [⟨1, 2, 3, 0, 0, 0⟩]
    let before : List Event :=
      [.operate 0 (.openCamera ⟨3⟩ 5 64), .operate 0 (.start true), frame, .dispatch 0,
        .beginClose 0, .endClose 0, .operate 0 (.openCamera ⟨3⟩ 5 64)]
    let events : List Event :=
      [.emit "W" 0 [⟨1, 2, 3, 0, 0, 0⟩, ⟨4, 5, 6, 0, 0, 0⟩], frame, .fail 0 .stopCapture .deviceIsBusy,
        .operate 0 .stop, .dispatch 1, .clearFaults 0, .dispatch 1]
    let sessions : List (Nat × Settings) := [(0, { maxPoints := 1, delivery := .queued })]
    let w := (World.fresh profiles 1 sessions () 0).run h before
    let begun := w.step h (.operate 0 (.start true))
    let stopped := (begun.2.run h events).step h (.operate 0 .stop)
    (w.relay.session 0).timing.samples = [⟨0, 3⟩] ∧
      stopped.1 = .answered (.samples (.ok [⟨3, 6⟩])) ∧
      (begun.2.relay.session 0).stats.delivered = 1 ∧
      (stopped.2.relay.session 0).stats.delivered = 2 ∧
      (stopped.2.relay.session 0).timing = {} := by
  intro profiles h frame before events sessions
  have hreturns : h.Returns := by simp [Handler.Returns, h]
  have hmatch := samples_match_delivered profiles 1 sessions () 0 h before events 0 true [⟨3, 6⟩]
    hreturns (by decide +kernel) (by decide +kernel) (by decide +kernel)
  refine ⟨?_, ?_, ?_, ?_, (hmatch.1 rfl).2.2.2⟩
  all_goals decide +kernel

end DepthRelay
