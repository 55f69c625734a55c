import DepthRelay.Command.Output
import DepthRelay.Proofs.CaptureReports

namespace DepthRelay

/-!
# What a capture run prints

A capture run prints what it has counted when its session is closed, whatever its frame source and
its dispatch thread have done until then.

* `closingLines` — the lines that a report ends with; `summary_eq` says that they are printed.
* `Course.report` — what a course leads the command to report.
* `Live.Drifts` — what threads and time do while the command waits, as a schedule.
* `capture_course` — the output of the command is the report of a course.
* `capture_report_adds_up` — the numbers that are printed agree with each other, with the settings
  and with the frames that the camera has emitted.
-/

variable {σ : Type}

/-! ### The text of a report -/

namespace Command

/-- Lines, each with its end. -/
def unlines (lines : List String) : String := String.join (lines.map (· ++ "\n"))

theorem unlines_nil : unlines [] = "" := rfl

theorem unlines_cons (line : String) (lines : List String) :
    unlines (line :: lines) = line ++ "\n" ++ unlines lines := String.join_cons

/-- One of the counts, on a line of its own. -/
def countLine (name : String) (n : Nat) : String := s!"  \"{name}\": {n}"

/-- The lines of the document with the counts. -/
def countLines (stats : Stats) : List String :=
  ["\x7b",
    countLine "delivered" stats.delivered ++ ",",
    countLine "attach_failures" stats.attachFailures ++ ",",
    countLine "handler_failures" stats.handlerFailures ++ ",",
    countLine "overflow_rejects" stats.overflowRejects ++ ",",
    countLine "truncated_frames" stats.truncatedFrames ++ ",",
    countLine "backpressure_drops" stats.backpressureDrops,
    "\x7d"]

/-- The lines that a report ends with. -/
def closingLines (points : Nat) (stats : Stats) : List String :=
  s!"Points delivered: {points}" :: countLines stats

/-- A member of the document is a line, if its key needs no escapes. -/
theorem ofList_member {key : String} (hplain : key.toList.flatMap Json.escape = key.toList)
    (n : Nat) : String.ofList (Json.member key (Json.number n)) = countLine key n := by
  have htext : ∀ s : String, toString s = s := fun _ => rfl
  apply String.toList_inj.mp
  unfold Json.member Json.quote
  rw [hplain]
  simp [countLine, Json.number, htext]

/-- The document with the counts, line by line. -/
theorem counts_eq (stats : Stats) :
    CaptureReport.counts stats ++ "\n" = unlines (countLines stats) := by
  have hopen : String.ofList ['{', '\n'] = "\x7b" ++ "\n" := by decide
  have hnext : String.ofList [',', '\n'] = "," ++ "\n" := by decide
  have hclose : String.ofList ['\n', '}'] = "\n" ++ "\x7d" := by decide
  unfold CaptureReport.counts Json.object
  simp only [Json.members, String.ofList_append, hopen, hnext, hclose]
  rw [ofList_member (by decide), ofList_member (by decide), ofList_member (by decide),
    ofList_member (by decide), ofList_member (by decide), ofList_member (by decide)]
  simp only [countLines, unlines_cons, unlines_nil, String.append_assoc, String.append_empty]

/-- **What a report ends with**: an empty line, that about the timing if there was any, the number
    of points, and the counts. -/
theorem summary_eq (r : CaptureReport) :
    r.summary = "\n" ++ (r.samples.map CaptureReport.timingLine).getD "" ++
      unlines (closingLines r.points r.stats) := by
  have hline : s!"Points delivered: {r.points}\n" = s!"Points delivered: {r.points}" ++ "\n" := rfl
  unfold CaptureReport.summary closingLines
  rw [hline, unlines_cons, ← counts_eq]
  simp only [String.append_assoc]

/-- Of its camera a report shows nothing that the frame source changes. -/
theorem printCapture_camera {r : CaptureReport} {camera : Option OpenCamera}
    (hcamera : camera.map OpenCamera.standing = r.camera.map OpenCamera.standing) :
    Invocation.printCapture { r with camera } = Invocation.printCapture r := by
  have hopening : CaptureReport.opening { r with camera } = r.opening := by
    unfold CaptureReport.opening
    cases camera with
    | none =>
      rw [Option.map_eq_none_iff.mp hcamera.symm]
    | some u =>
      obtain ⟨u', hu', hsame⟩ := Option.map_eq_some_iff.mp hcamera.symm
      rw [hu']
      dsimp only
      rw [show u.serial = u'.serial from (congrArg OpenCamera.serial hsame).symm,
        show u.rate = u'.rate from (congrArg OpenCamera.rate hsame).symm]
  unfold Invocation.printCapture
  rw [hopening]
  rfl

end Command

/-! ### What the command lets other threads do -/

/-- Frame sources, dispatch threads and time can lead from the one to the other. -/
def Live.Drifts (h : Handler σ) (l l' : Live σ) : Prop :=
  ∃ events : List Event, (∀ e ∈ events, e.ambient = true) ∧
    ∀ closing, World.run h events { toLive := l, closing := closing } =
      { toLive := l', closing := closing }

namespace Live

variable {h : Handler σ} {l l' l'' : Live σ}

theorem Drifts.refl (l : Live σ) : l.Drifts h l := ⟨[], by simp, fun _ => rfl⟩

/-- One schedule after the other. -/
theorem Drifts.trans (hfirst : l.Drifts h l') (hlast : l'.Drifts h l'') : l.Drifts h l'' := by
  obtain ⟨es, hes, hrun⟩ := hfirst
  obtain ⟨fs, hfs, hrun'⟩ := hlast
  refine ⟨es ++ fs, fun e he => (List.mem_append.mp he).elim (hes e) (hfs e), fun closing => ?_⟩
  rw [World.run_append, hrun, hrun']

/-- Dispatch threads that go on are a schedule. -/
theorem drifts_dispatchMany (k n : Nat) (l : Live σ) : l.Drifts h (l.dispatchMany h k n) := by
  induction n generalizing l with
  | zero => exact .refl l
  | succ n ih => exact .trans ⟨[.dispatch k], by simp [Event.ambient], fun _ => rfl⟩ (ih _)

/-- So are all of them, until nothing waits. -/
theorem drifts_drainAll (l : Live σ) : l.Drifts h (l.drainAll h) := by
  unfold drainAll
  induction List.range l.relay.channels.length generalizing l with
  | nil => exact .refl l
  | cons k ks ih => exact .trans (drifts_dispatchMany k _ l) (ih _)

/-- A choice among the elements of a list, or what was chosen before. -/
theorem mem_of_foldl_choice {α : Type} {choose : Option α → α → Option α}
    (hchoose : ∀ best a, choose best a = some a ∨ choose best a = best) {xs : List α}
    {best : Option α} {x : α} (h : xs.foldl choose best = some x) : best = some x ∨ x ∈ xs := by
  induction xs generalizing best with
  | nil => exact .inl h
  | cons a xs ih =>
    rcases ih h with hbest | hmem
    · rcases hchoose best a with hnew | hold
      · obtain rfl := Option.some.inj (hnew.symm.trans hbest)
        exact .inr List.mem_cons_self
      · exact .inl (hold.symm.trans hbest)
    · exact .inr (List.mem_cons_of_mem a hmem)

/-- The source that is due next is one of a session. -/
theorem source?_of_nextSource? {w : Relay} {i : Nat} {source : Source}
    (hnext : w.nextSource? = some (i, source)) : (w.session i).source? = some source := by
  unfold Relay.nextSource? at hnext
  have hmem := (mem_of_foldl_choice (fun best a => by
    cases best with
    | none => exact .inl rfl
    | some y =>
      dsimp only
      split
      · exact .inl rfl
      · exact .inr rfl) hnext).resolve_left (by simp)
  obtain ⟨⟨s, j⟩, hs, hsource⟩ := List.mem_filterMap.mp hmem
  obtain ⟨source', hsource', hsame⟩ := Option.map_eq_some_iff.mp hsource
  obtain ⟨rfl, rfl⟩ := Prod.mk.inj hsame
  rw [Relay.session_eq (List.mk_mem_zipIdx_iff_getElem?.mp hs), hsource']

/-- A frame source that wakes up is a schedule of one event. -/
theorem drifts_wake {i : Nat} {source : Source}
    (hsource : (l.relay.session i).source? = some source) : l.Drifts h (l.wake h i source) := by
  refine ⟨[.wake i], by simp [Event.ambient], fun closing => ?_⟩
  show (World.step h (.wake i) { toLive := l, closing := closing }).2 = _
  unfold World.step
  dsimp only
  rw [hsource]

/-- So is time in which no source wakes up. -/
theorem drifts_pass (l : Live σ) (stop : Nat) :
    l.Drifts h (l.withRelay { l.relay with now := max l.relay.now stop }) := by
  refine ⟨[.pass (stop - l.relay.now)], by simp [Event.ambient], fun closing => ?_⟩
  have hnow : l.relay.now + (stop - l.relay.now) = max l.relay.now stop := by omega
  show World.mk (l.withRelay { l.relay with now := _ }) closing = _
  rw [hnow]

/-- **Time that is let pass** is a schedule of frame sources and dispatch threads. -/
theorem drifts_runTo (stop fuel : Nat) (l : Live σ) : l.Drifts h (l.runTo h stop fuel) := by
  induction fuel generalizing l with
  | zero => exact .refl l
  | succ fuel ih =>
    unfold runTo
    cases hnext : l.relay.nextSource? with
    | none => exact drifts_pass l stop
    | some x =>
      obtain ⟨i, source⟩ := x
      dsimp only
      split
      · exact .trans (drifts_wake (source?_of_nextSource? hnext))
          (.trans (drifts_drainAll _) (ih _))
      · exact drifts_pass l stop

end Live

namespace Command

/-- **Watching for the limit** is a schedule of frame sources and dispatch threads. -/
theorem drifts_watch (frames : Option UInt64) (n : Nat) (l : Live Nat) :
    l.Drifts countPoints (watch frames n l).2 := by
  induction n generalizing l with
  | zero => exact .refl l
  | succ n ih =>
    unfold watch
    split
    · exact .refl l
    · exact .trans (Live.drifts_runTo _ _ l) (ih _)

variable {o : CaptureOptions} {settings : Settings}

/-! ### The calls of the command -/

/-- The opening of the command, as a step in the world of its session. -/
theorem opening_succeeds (now : Nat) (hvalid : settings.validate = .ok ())
    (hrate : (FrameRate.ofKey? (o.rate.getD settings.frameRate)).isSome = true) :
    succeed ((World.solo [o.camera] (o.apply settings) 0 now).relay.openSession
      CaptureOptions.descriptor (o.rate.getD settings.frameRate) 1 0) =
        .ok ((), (o.opened settings now).relay) ∧ (o.opened settings now).host = 0 ∧
      (o.opened settings now).relay.cameras.map Camera.profile = [o.camera] := by
  have hprofiles : (o.opened settings now).relay.cameras.map Camera.profile = [o.camera] :=
    World.profiles_step countPoints _ (World.custody_fresh ..)
  refine (and_assoc.mp ⟨?_, hprofiles⟩)
  generalize hw : World.solo [o.camera] (o.apply settings) 0 now = w
  have hstep : w.step countPoints (.operate 0 (.openCamera CaptureOptions.descriptor
      (o.rate.getD settings.frameRate) 1)) = (.answered (.unit (w.relay.openSession
        CaptureOptions.descriptor (o.rate.getD settings.frameRate) 1 0).1),
      w.setRelay (w.relay.openSession CaptureOptions.descriptor
        (o.rate.getD settings.frameRate) 1 0).2) :=
    World.step_operate (by rw [← hw]; rfl)
  have hanswer := (congrArg Prod.fst hstep).symm.trans
    (hw ▸ opens countPoints 0 now hvalid hrate)
  have hopened : o.opened settings now = w.setRelay (w.relay.openSession
      CaptureOptions.descriptor (o.rate.getD settings.frameRate) 1 0).2 := by
    unfold CaptureOptions.opened
    rw [hw, hstep]
  rw [hopened]
  refine ⟨succeed_eq (Operation.Result.unit.inj (Response.answered.inj hanswer)), ?_⟩
  rw [← hw]
  rfl

/-- The sizes that the command asks for are those of its camera. -/
theorem sizes_eq {w : World Nat} {state : SessionState} (hw : w.Undisturbed settings state)
    (hopen : state ≠ .closed) (hprofiles : w.relay.cameras.map Camera.profile = [o.camera]) :
    (w.relay.maxWidth 0).1 = .ok o.camera.width ∧
      (w.relay.maxHeight 0).1 = .ok o.camera.height := by
  obtain ⟨-, s, u, c, hs, -, -, hu, hc, hclear, -⟩ := hw.held hopen
  have hprofile : c.profile = o.camera := by
    have hmem := List.mem_map_of_mem (f := Camera.profile) (List.mem_of_getElem? hc)
    rw [hprofiles] at hmem
    exact List.mem_singleton.mp hmem
  rw [Relay.maxWidth_eq hs hu hc, Relay.maxHeight_eq hs hu hc, hclear, hclear, hprofile]
  exact ⟨rfl, rfl⟩

/-- The dispatch thread of the session goes on as long as the session is open. -/
theorem CaptureOptions.serving_opened (o : CaptureOptions) (settings : Settings) (now : Nat) :
    (o.opened settings now).Serving :=
  (World.serving_fresh [o.camera] 1 [(0, o.apply settings)] 0 now).step countPoints_returns _

/-- The steps in which a session closes whose hand-off `k` holds `n` frames. -/
def closingEvents (k n : Nat) : List Event :=
  (.beginClose 0 :: List.replicate n (.dispatch k)) ++ [.endClose 0]

theorem closingEvents_calls (k n : Nat) :
    (closingEvents k n).filter (!·.ambient) = [.beginClose 0, .endClose 0] := by
  simp [closingEvents, Event.ambient]

/-- The closing of the command, as steps of the caller and of the dispatch thread. -/
theorem closing_course {w : World Nat} (hw : w.Undisturbed settings .opened)
    (hserving : w.Serving) {k n : Nat} (hk : (w.relay.session 0).channel? = some k)
    (hn : (w.relay.lane k).1.length = n) :
    (w.run countPoints (closingEvents k n)).toLive = w.toLive.close countPoints 0 ∧
      ((w.run countPoints (closingEvents k n)).relay.session 0).state = .closed := by
  obtain ⟨-, s, u, -, hs, -, -, hu, -⟩ := hw.held (by simp)
  rw [Relay.session_eq hs] at hk
  obtain rfl : u.channel = k := by
    obtain ⟨u', hu', hsame⟩ := Option.map_eq_some_iff.mp hk
    obtain rfl := Option.some.inj (hu.symm.trans hu')
    exact hsame
  have hfree : 0 ∉ w.closing := by simp [hw.free]
  obtain ⟨hdone, hclose⟩ := hserving.close_eq countPoints_returns hs hfree hu
  rw [hn] at hdone hclose
  unfold closingEvents
  rw [World.run_append]
  refine ⟨hclose, ?_⟩
  have hdraining := (hserving.drained countPoints_returns hs hfree hu
    (List.replicate n (.dispatch u.channel)) (by simp)).2.1
  exact (hdraining.closedOff (hserving.run countPoints_returns _).custody hdone).2.closed.1

/-- What the command does with a session that captures: other threads go on while it waits, it stops
    the session and closes it. -/
theorem waiting_course {w : World Nat} (hw : w.Undisturbed settings .capturing)
    (hvalid : settings.validate = .ok ()) (hserving : w.Serving) (frames : Option UInt64)
    (n : Nat) :
    ∃ meanwhile after : List Event, meanwhile.filter (!·.ambient) = [] ∧
      after.filter (!·.ambient) = [.beginClose 0, .endClose 0] ∧
      ∃ samples v, succeed ((watch frames n w.toLive).2.relay.stop 0) = .ok (samples, v) ∧
        let waited := w.run countPoints meanwhile
        let last := (waited.step countPoints (.operate 0 .stop)).2.run countPoints after
        (waited.step countPoints (.operate 0 .stop)).1 = .answered (.samples (.ok samples)) ∧
        last.toLive = ((watch frames n w.toLive).2.withRelay v).close countPoints 0 ∧
        (last.relay.session 0).state = .closed := by
  obtain ⟨es, hes, hrun⟩ := drifts_watch frames n w.toLive
  have hwait : (w.run countPoints es).toLive = (watch frames n w.toLive).2 :=
    congrArg World.toLive (hrun w.closing)
  have hnone : es.filter (!·.ambient) = [] := by simpa using hes
  have hwaited := hw.run hvalid countPoints_returns es [] hnone rfl
  obtain ⟨⟨samples, hstop, hanswer⟩, hkept, hstopped⟩ :=
    call_succeeds hwaited hvalid .stop (Relay.stop 0) rfl (fun _ => rfl) rfl
  obtain ⟨-, s, u, -, hs, -, -, hu, -⟩ := hstopped.held (by simp)
  have hchannel : (((w.run countPoints es).step countPoints (.operate 0 .stop)).2.relay.session
      0).channel? = some u.channel := by
    rw [Relay.session_eq hs]
    exact congrArg (Option.map OpenCamera.channel) hu
  obtain ⟨hclose, hclosed⟩ := closing_course hstopped
    ((hserving.run countPoints_returns es).step countPoints_returns _) hchannel rfl
  refine ⟨es, _, hnone, closingEvents_calls _ _, samples, _, hwait ▸ hstop, hanswer, ?_, hclosed⟩
  rw [hclose, ← hwait]
  unfold Live.withRelay
  rw [← hkept.host]

/-! ### Reports of courses -/

/-- The course in which the command asks everything without a pause. -/
def CaptureOptions.course (o : CaptureOptions) (meanwhile after : List Event)
    (hmeanwhile : meanwhile.filter (!·.ambient) = [])
    (hends : after.filter (!·.ambient) = [.beginClose 0, .endClose 0]) : Course o where
  before := o.requests.map (.operate 0) ++ meanwhile
  after := after
  asks := by
    rw [List.filter_append, hmeanwhile, List.append_nil]
    rfl
  ends := hends

namespace Course

variable (x : Course o) (settings : Settings) (now : Nat)

/-- What a course leads the command to report, if it has counted `progress` at its looks. -/
def report (progress : List Nat) : CaptureReport where
  width := o.camera.width
  height := o.camera.height
  camera := ((o.opened settings now).relay.session 0).camera
  progress := progress
  samples := if o.timing then some (x.samples settings now) else none
  points := (x.finished settings now).host
  stats := ((x.finished settings now).relay.session 0).stats

/-- **What is printed of a course.** -/
theorem text_printCapture (progress : List Nat) :
    (Invocation.printCapture (x.report settings now progress)).text =
      (x.report settings now progress).opening ++
        String.join (progress.map CaptureReport.look) ++ "\n" ++
        (if o.timing then CaptureReport.timingLine (x.samples settings now) else "") ++
        unlines (closingLines (x.finished settings now).host
          ((x.finished settings now).relay.session 0).stats) := by
  have htiming : ((x.report settings now progress).samples.map CaptureReport.timingLine).getD "" =
      if o.timing then CaptureReport.timingLine (x.samples settings now) else "" := by
    unfold report
    cases o.timing <;> rfl
  unfold Invocation.printCapture Output.text
  dsimp only
  rw [summary_eq, htiming]
  simp only [String.append_assoc]
  rfl

/-- A course ends with a closed session if the dispatch thread is given its time. -/
theorem closes (hvalid : settings.validate = .ok ())
    (hrate : (FrameRate.ofKey? (o.rate.getD settings.frameRate)).isSome = true) {k n : Nat}
    (hk : ((x.stopped settings now).relay.session 0).channel? = some k)
    (hn : ((x.stopped settings now).relay.lane k).1.length = n)
    (hafter : x.after = closingEvents k n) :
    ((x.finished settings now).relay.session 0).state = .closed := by
  have hserving := ((o.serving_opened settings now).run countPoints_returns x.before).step
    countPoints_returns (.operate 0 .stop)
  unfold finished
  rw [hafter]
  exact (closing_course (x.stops now hvalid hrate).2.1 hserving hk hn).2

end Course

/-- When the command has started its session. -/
def CaptureOptions.started (o : CaptureOptions) (settings : Settings) (now : Nat) : World Nat :=
  (o.opened settings now).run countPoints (o.requests.map (.operate 0))

/-- **What the command asks before it waits is granted**, and it goes on with a session that
    captures. -/
theorem capture_eq (now : Nat) (hvalid : settings.validate = .ok ())
    (hrate : (FrameRate.ofKey? (o.rate.getD settings.frameRate)).isSome = true) :
    let w := o.started settings now
    let looks := watch o.frames (looksPerSecond * o.seconds.toNat) w.toLive
    (capture o settings now = do
      let (samples, v) ← succeed (looks.2.relay.stop 0)
      let l := (looks.2.withRelay v).close countPoints 0
      return {
        width := o.camera.width, height := o.camera.height
        camera := (w.relay.session 0).camera
        progress := looks.1
        samples := if o.timing then some samples else none
        points := l.host
        stats := (l.relay.session 0).stats }) ∧
      Kept (o.opened settings now) w ∧ w.Undisturbed (o.apply settings) .capturing ∧
      w.Serving := by
  have hsettings := validate_apply (o := o) hvalid
  have hadd : (o.relay now).addSession 0 (o.apply settings) =
      .ok (World.solo [o.camera] (o.apply settings) 0 now).relay :=
    World.addSession_solo [o.camera] (o.apply settings) 0 now hsettings
  let x := o.course [] (closingEvents 0 0) rfl rfl
  -- The calls of the command in turn: each succeeds, and leaves an undisturbed session.
  obtain ⟨h₀, hhost, hprofiles⟩ := opening_succeeds now hvalid hrate
  have hu₀ := x.undisturbed_opened now hvalid hrate countPoints 0
  rw [Course.episode_opened] at hu₀
  obtain ⟨⟨_, h₁, -⟩, hkept₁, hu₁⟩ :=
    call_succeeds hu₀ hsettings .setExposure (Relay.setExposure 0) rfl (fun _ => rfl) rfl
  obtain ⟨⟨width, h₂, -⟩, hkept₂, hu₂⟩ :=
    call_succeeds hu₁ hsettings .maxWidth (Relay.maxWidth 0) rfl (fun _ => rfl) rfl
  obtain ⟨⟨height, h₃, -⟩, hkept₃, hu₃⟩ :=
    call_succeeds hu₂ hsettings .maxHeight (Relay.maxHeight 0) rfl (fun _ => rfl) rfl
  obtain ⟨⟨_, h₄, -⟩, hkept₄, hu₄⟩ :=
    call_succeeds hu₃ hsettings (.start o.timing) (Relay.start o.timing 0) rfl (fun _ => rfl) rfl
  have hwidth : width = o.camera.width := by
    have hsize := (sizes_eq hu₁ (by simp) (hkept₁.profiles.trans hprofiles)).1
    exact congrArg Prod.fst (Except.ok.inj (h₂.symm.trans (succeed_eq hsize)))
  have hheight : height = o.camera.height := by
    have hsize := (sizes_eq hu₂ (by simp) ((hkept₁.trans hkept₂).profiles.trans hprofiles)).2
    exact congrArg Prod.fst (Except.ok.inj (h₃.symm.trans (succeed_eq hsize)))
  generalize hstarted : (World.step countPoints (.operate 0 (.start o.timing)) _).2 = w
    at h₄ hkept₄ hu₄
  obtain rfl : o.started settings now = w := by
    rw [← hstarted]
    rfl
  have hkept := ((hkept₁.trans hkept₂).trans hkept₃).trans hkept₄
  have hserving : (o.started settings now).Serving :=
    (o.serving_opened settings now).run countPoints_returns _
  have hlive : (⟨(o.started settings now).relay, 0⟩ : Live Nat) =
      (o.started settings now).toLive := by
    rw [show 0 = (o.started settings now).host from (hkept.host.trans hhost).symm]
  refine ⟨?_, hkept, hu₄, hserving⟩
  unfold capture
  simp only [hadd, h₀, h₁, h₂, h₃, h₄, hwidth, hheight, hlive, bind, Except.bind, pure, Except.pure]

/-- **The command reports the numbers of a course.** -/
theorem capture_course (now : Nat) (hvalid : settings.validate = .ok ())
    (hrate : (FrameRate.ofKey? (o.rate.getD settings.frameRate)).isSome = true) :
    ∃ (x : Course o) (progress : List Nat),
      ((x.finished settings now).relay.session 0).state = .closed ∧
        capture o settings now = .ok
          { x.report settings now progress with
            camera := ((o.started settings now).relay.session 0).camera } := by
  obtain ⟨hcapture, -, hstarted, hserving⟩ := capture_eq (o := o) now hvalid hrate
  obtain ⟨es, after, hnone, hends, samples, v, hstop, hanswer, hlast, hclosed⟩ :=
    waiting_course hstarted (validate_apply hvalid) hserving o.frames
      (looksPerSecond * o.seconds.toNat)
  -- The command has only taken steps of a course.
  let x := o.course es after hnone hends
  have hwaited : x.waited settings now = (o.started settings now).run countPoints es :=
    World.run_append countPoints _ _ _
  have hfinished : x.finished settings now =
      (((o.started settings now).run countPoints es).step countPoints
        (.operate 0 .stop)).2.run countPoints after := by
    rw [← hwaited]
    rfl
  have hsamples : x.samples settings now = samples := by
    have hok := (x.stops now hvalid hrate).1
    rw [hwaited, hanswer] at hok
    exact (Except.ok.inj (Operation.Result.samples.inj (Response.answered.inj hok))).symm
  rw [← hfinished] at hlast hclosed
  refine ⟨x, (watch o.frames (looksPerSecond * o.seconds.toNat) (o.started settings now).toLive).1,
    hclosed, ?_⟩
  rw [hcapture, hstop]
  unfold Course.report
  rw [hsamples, show (x.finished settings now).host = _ from congrArg Live.host hlast,
    show (x.finished settings now).relay = _ from congrArg Live.relay hlast]
  rfl

/-- **The report of a capture adds up.**  With settings that load and a supported rate, a capture
    stops its session without an error, whatever the frame source and the dispatch thread do.  What
    is printed once the session is closed ends with the number of points and the counts, and these
    agree.  The command prints the report of such a course. -/
theorem capture_report_adds_up {i : Invocation} {l : Location} (directory : Option String)
    (now : Nat) (htask : i.task = .capture o) (hload : Settings.load l = .ok settings)
    (hrate : (FrameRate.ofKey? (o.rate.getD settings.frameRate)).isSome = true) :
    (∀ x : Course o,
      ((x.waited settings now).step countPoints (.operate 0 .stop)).1 =
        .answered (.samples (.ok (x.samples settings now))) ∧
      (((x.finished settings now).relay.session 0).state = .closed →
        let points := (x.finished settings now).host
        let stats := ((x.finished settings now).relay.session 0).stats
        AddsUp (o.apply settings) (x.emitted settings now) points stats ∧
        ∀ progress, (Invocation.printCapture (x.report settings now progress)).text =
          (x.report settings now progress).opening ++
            String.join (progress.map CaptureReport.look) ++ "\n" ++
            (if o.timing then CaptureReport.timingLine (x.samples settings now) else "") ++
            unlines (closingLines points stats))) ∧
    ∃ (x : Course o) (progress : List Nat),
      ((x.finished settings now).relay.session 0).state = .closed ∧
        i.run directory l now = Invocation.printCapture (x.report settings now progress) := by
  have hvalid := Settings.validate_of_load hload
  -- For any course: the stop succeeds, the numbers agree, and they are what is printed.
  refine ⟨fun x => ⟨(x.stops now hvalid hrate).1, fun hclosed =>
    ⟨x.addsUp now hvalid hrate hclosed, x.text_printCapture settings now⟩⟩, ?_⟩
  -- The run of the command is one of these courses, up to the camera that the report was begun
  -- with.
  obtain ⟨x, progress, hclosed, hcapture⟩ := capture_course (o := o) now hvalid hrate
  obtain ⟨-, hkept, -⟩ := capture_eq (o := o) now hvalid hrate
  refine ⟨x, progress, hclosed, ?_⟩
  unfold Invocation.run
  rw [htask, hload]
  dsimp only
  rw [hcapture]
  refine printCapture_camera ?_
  unfold Course.report
  dsimp only
  rw [hkept.camera]

/-- Five frames are emitted before the stop, at a hand-off with room for four: one is dropped, and
    those that wait are delivered while the session closes. -/
theorem capture_report_adds_up_queued :
    let o : CaptureOptions := { rate := some 5, queued := true }
    let x : Course o := o.course (List.replicate 5 (.wake 0)) (closingEvents 0 4) rfl rfl
    Settings.load .absent = .ok {} ∧ (FrameRate.ofKey? (o.rate.getD 0)).isSome = true ∧
      ((x.finished {} 0).relay.session 0).state = .closed ∧ x.emitted {} 0 = 5 ∧
      (Invocation.printCapture (x.report {} 0 [0, 0])).text =
        "Sensor: 224x171\nCamera: sim-0001 (5 fps, 2000 points)\n\n" ++
        "Capturing... (press Ctrl+C to stop early)\n" ++ "\rFrames: 0\rFrames: 0\n" ++
        "Points delivered: 153216\n\x7b\n" ++
        "  \"delivered\": 4,\n  \"attach_failures\": 0,\n  \"handler_failures\": 0,\n" ++
        "  \"overflow_rejects\": 0,\n  \"truncated_frames\": 0,\n" ++
        "  \"backpressure_drops\": 1\n\x7d\n" ∧
      ∃ (y : Course o) (progress : List Nat),
        ((y.finished {} 0).relay.session 0).state = .closed ∧
          (Invocation.mk none (.capture o)).run none .absent 0 =
            Invocation.printCapture (y.report {} 0 progress) := by
  intro o x
  have hvalid : Settings.validate {} = .ok () := rfl
  have hrate : (FrameRate.ofKey? (o.rate.getD 0)).isSome = true := by decide
  have hclosed : ((x.finished {} 0).relay.session 0).state = .closed :=
    x.closes {} 0 hvalid hrate (k := 0) (n := 4) (by decide +kernel) (by decide +kernel) rfl
  have hemitted : x.emitted {} 0 = 5 := by decide +kernel
  have hopening : (x.report {} 0 [0, 0]).opening =
      "Sensor: 224x171\nCamera: sim-0001 (5 fps, 2000 points)\n\n" ++
        "Capturing... (press Ctrl+C to stop early)\n" := by decide +kernel
  obtain ⟨hcourses, hrun⟩ := capture_report_adds_up
    (i := Invocation.mk none (.capture o)) (l := .absent) none 0 rfl rfl hrate
  refine ⟨rfl, hrate, hclosed, hemitted, ?_, hrun⟩
  obtain ⟨haddsUp, htext⟩ := (hcourses x).2 hclosed
  -- What has been dropped is settled at the stop, and the rest follows from the sums.
  have hdrops : ((x.finished {} 0).relay.session 0).stats.backpressureDrops = 1 :=
    ((x.stops 0 hvalid hrate).2.2.drops 0).trans (by decide +kernel)
  rw [htext, hopening]
  rw [hemitted] at haddsUp
  generalize ((x.finished {} 0).relay.session 0).stats = stats at haddsUp hdrops
  have hstats : stats = { delivered := 4, backpressureDrops := 1 } := by
    obtain ⟨hframes, hattached, hhandled, -, hwhole, -⟩ := haddsUp
    obtain ⟨hrejected, htruncated⟩ := hwhole rfl
    obtain ⟨delivered, attach, handler, rejects, truncated, drops⟩ := stats
    dsimp only at hframes hattached hhandled hrejected htruncated hdrops
    simp only [Stats.mk.injEq]
    omega
  rw [haddsUp.points, hstats]
  decide +kernel

end Command

end DepthRelay
