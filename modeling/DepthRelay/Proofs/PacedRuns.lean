import DepthRelay.Proofs.PacedSteps

namespace DepthRelay

/-!
# Runs of a paced camera

Each run of a paced camera has a frame source of its own.  Whatever steps of the source, of the
caller and of everybody else come in between, the source keeps to the limit, and no frame of a run
comes after its end.

* `Pacing.Sound` — what holds of a session with its sources between two steps.
* `Sound.thread`, `Sound.openCamera`, `Sound.start`, `Sound.stop`, `Sound.close`, `Sound.proceed` —
  its preservation, move by move; `Sound.step`, `Sound.run` — by a step and by any number of them.
* `Pacing.Received` — steps with what the listener gets in their course; `hear_of_received` says
  that it gets it by `Live.hear`, and `Received.handedOn` that it is what has been handed over.
* `paced_runs` — the limit, the numbers and the end of each run.
-/

variable {σ : Type}

namespace Pacing

/-- The session at place `i` and its sources, on the camera at place `p` with this profile and a
    limit of `n` frames, after what is noted. -/
def Sound (i p n : Nat) (profile : CameraProfile) (notes : List Note) (x : Pacing σ) : Prop :=
  ∃ s, x.live.relay.scene? i p = some s ∧
    Regular p n profile notes s x.live.relay.nextRun x.runners x.caller

section

variable {h : Handler σ} {i p n : Nat} {profile : CameraProfile} {notes : List Note}
  {x y : Pacing σ} {note : Option Note} {s : Scene}

/-- What goes on elsewhere does not matter. -/
theorem Sound.elsewhere (hx : Sound i p n profile notes x) (l : Live σ)
    (hscene : l.relay.scene? i p = x.live.relay.scene? i p)
    (hlater : x.live.relay.nextRun ≤ l.relay.nextRun) :
    Sound i p n profile notes { x with live := l } := by
  obtain ⟨s, hs, hregular⟩ := hx
  exact ⟨s, hscene.trans hs, hregular.unnoted (.refl _) rfl hregular.place hregular.fits rfl
    hlater (fun run r hr => (hregular.crew run r hr).owned)
    fun hidle hstate => ⟨hidle, hstate⟩⟩

/-- **A step of a source.** -/
theorem Sound.thread (hreturns : h.Returns) (hsize : profile.size < UInt32.size)
    (hx : Sound i p n profile notes x) {run : Nat} {r r' : Runner} {l : Live σ}
    (hr : x.runners run = some r) (hstep : r.step? h i p x.live = some (note, r', l)) :
    Sound i p n profile (notes ++ note.toList) (x.advance run r' l) := by
  obtain ⟨s, hs, hregular⟩ := hx
  have halive : r.stage ≠ .finished := by
    intro hfinished
    simp [Runner.step?, hfinished] at hstep
  obtain ⟨s', hs', hnext, hmoved⟩ :=
    Runner.moved_of_step? hreturns (hregular.profile_eq ▸ hsize) hs hstep
  have hadvance := hregular.advance hr halive hmoved
  rw [← hnext] at hadvance
  exact ⟨s', hs', hadvance⟩

/-- **An opening**, which only a closed session makes. -/
theorem Sound.openCamera (hx : Sound i p n profile notes x) (hidle : x.caller = .idle)
    {d : Descriptor} (htarget : (x.live.relay.target? d).all (· == p) = true) (key : UInt32)
    (address : Nat) :
    Sound i p n profile notes (x.setRelay (x.live.relay.openSession d key address i).2) := by
  obtain ⟨s, hs, hregular⟩ := hx
  obtain ⟨t, c, ht, hc, hof⟩ := Relay.scene?_eq_some.mp hs
  have hcases := Relay.openSession_cases d key address i x.live.relay
  generalize x.live.relay.openSession d key address i = result at hcases ⊢
  obtain ⟨answer, w⟩ := result
  have hsettled := hregular.fits.settled hidle
  have hsession : x.live.relay.session i = t := Relay.session_eq ht
  -- Only a closed session opens a camera, so there is neither a source nor a run.
  have hcall (s' : Scene) (hprofile : s'.profile = s.profile)
      (hplace : ∀ o, s'.held = some o → o.device.camera = p) (hfits : Settled s')
      (hemitted : s'.emitted = s.emitted) (hclosed : t.state = .closed) :
      Regular p n profile notes s' x.live.relay.nextRun x.runners x.caller := by
    have hstate : s.state = .closed := hof ▸ hclosed
    have hended {run : Nat} {r : Runner} (hr : x.runners run = some r) : r.stage = .finished :=
      hregular.ended_of_idle hidle (by simp [hstate]) hr
    refine hregular.unnoted (.refl _) hprofile hplace ?_ hemitted (Nat.le_refl _)
      (fun run r hr halive => absurd (hended hr) halive) fun _ h => absurd h (by simp [hstate])
    rw [hidle]
    exact hfits
  cases hcases with
  | refused e => exact ⟨s, hs, hregular⟩
  | undone e q c₀ c' target found residue closed =>
    rw [target, Option.all_some, beq_iff_eq] at htarget
    subst htarget
    obtain rfl := Option.some.inj (hc.symm.trans found)
    rw [hsession] at closed
    have hheld : t.camera = none := by
      have h := hsettled.closed_iff.mp (hof ▸ closed)
      rwa [← hof] at h
    -- Only the choices of a device object may remain.
    have hprofile : c'.blank.profile = c.blank.release.profile := congrArg Camera.profile residue
    have hemitted : c'.blank.emitted = c.blank.release.emitted := congrArg Camera.emitted residue
    have hsilent : c'.blank.capturing = c.blank.release.capturing :=
      congrArg Camera.capturing residue
    refine ⟨Scene.of t c', Relay.scene?_eq_some.mpr ⟨t, c', ht, getElem?_set_of_some hc, rfl⟩,
      hcall _ (hof ▸ hprofile) (fun o ho => absurd ho (by simp [Scene.of, hheld])) ?_
        (hof ▸ hemitted) closed⟩
    refine ⟨by simp [Scene.of, closed, hheld], ?_, fun h => absurd closed h,
      fun _ => by simp [Scene.source?, Scene.of, hheld]⟩
    rw [show (Scene.of t c').capturing = false from hsilent]
    simp [Scene.of, closed]
  | done q c₀ rate b r target found closed idle =>
    rw [target, Option.all_some, beq_iff_eq] at htarget
    subst htarget
    obtain rfl := Option.some.inj (hc.symm.trans found)
    rw [hsession] at closed
    refine ⟨_, Relay.scene?_eq_some.mpr
      ⟨_, _, getElem?_set_of_some ht, getElem?_set_of_some hc, rfl⟩,
      hcall _ (hof ▸ rfl) (fun o ho => Option.some.inj ho ▸ rfl) ?_ (hof ▸ rfl) closed⟩
    refine ⟨by simp [Scene.of], ?_, fun _ => rfl, fun _ => rfl⟩
    simp [Scene.of, Session.prepared, idle]

/-- **A start** brings a source with the limit of the camera, if it succeeds. -/
theorem Sound.start (hstream : profile.stream = .paced (some n))
    (hx : Sound i p n profile notes x) (hidle : x.caller = .idle) (timing : Bool) :
    Sound i p n profile (notes ++ (x.start i timing).1.toList) (x.start i timing).2 := by
  obtain ⟨s, hs, hregular⟩ := hx
  obtain ⟨t, c, ht, hc, hof⟩ := Relay.scene?_eq_some.mp hs
  have hsettled := hregular.fits.settled hidle
  unfold Pacing.start
  by_cases hstate : t.state = .opened
  · obtain ⟨o, ho⟩ : ∃ o, t.camera = some o := by
      refine Option.ne_none_iff_exists'.mp fun hnone => ?_
      have hclosed : t.state = .closed := by
        have h := hsettled.closed_iff.mpr (hof ▸ hnone)
        rwa [← hof] at h
      exact absurd hclosed (by simp [hstate])
    have hplace : o.device.camera = p := hregular.place o (hof ▸ ho)
    subst hplace
    rw [Relay.start_eq timing ht ho hc hstate]
    cases (c.obstacle? .startCapture).or (if c.capturing then some .logicError else none) with
    | some e =>
      simp only [Relay.ended, Option.toList_none, List.append_nil]
      exact ⟨s, Relay.scene?_eq_some.mpr
        ⟨_, c, getElem?_set_of_some ht, getElem?_set_of_some hc, hof⟩, hregular⟩
    | none =>
      -- The camera is a paced one, so the start brings a source, with the limit and no frames yet.
      have hprofile : c.profile = profile := by
        rw [← hregular.profile_eq, ← hof]
        rfl
      obtain ⟨source, hsource, hrun, hlimit, hproduced⟩ : ∃ source : Source,
          x.live.relay.sourceOfRun c o = some source ∧ source.run = x.live.relay.nextRun ∧
            source.limit = some n ∧ source.produced = 0 := by
        rw [Relay.sourceOfRun, hprofile, hstream]
        exact ⟨_, rfl, rfl, rfl, rfl⟩
      rw [hidle] at hregular
      have hstarted := hregular.start (hof ▸ hstate) hrun hlimit hproduced
      simp only [Relay.ended, hsource]
      rw [show (Relay.session i { x.live.relay.update i _ o.device.camera _ with
        nextRun := x.live.relay.nextRun + 1 }).source? = some source by
          rw [Relay.session_eq (getElem?_set_of_some ht)]; rfl]
      refine ⟨{ s.withSource (some source) with state := .capturing, capturing := true },
        Relay.scene?_eq_some.mpr
          ⟨_, _, getElem?_set_of_some ht, getElem?_set_of_some hc, ?_⟩, ?_⟩
      · rw [← hof]
        simp [Scene.of, Scene.withSource, ho]
      · show Regular _ _ _ _ _ _ _ x.caller
        rw [hidle]
        exact hstarted
  · rw [Relay.start_of_ne timing ht hstate]
    simpa using ⟨s, hs, hregular⟩

/-- A camera that does not refuse stops to capture. -/
theorem silence?_eq_some {e : Ending} (h : x.silence? p e = some y) :
    ∃ c, x.live.relay.cameras[p]? = some c ∧
      y = { x.setRelay { x.live.relay with
          cameras := x.live.relay.cameras.set p { c with capturing := false } } with
        caller := .silenced e } := by
  unfold silence? at h
  cases hc : x.live.relay.cameras[p]? with
  | none => simp [hc] at h
  | some c =>
    refine ⟨c, rfl, ?_⟩
    simp only [hc, Camera.stopCapture_eq] at h
    cases hobstacle : c.obstacle? .stopCapture with
    | some e => simp [hobstacle, Camera.ended] at h
    | none =>
      simp only [hobstacle, Camera.ended, Option.some.injEq] at h
      exact h.symm

/-- The end of a run begins. -/
theorem Sound.silence (hx : Sound i p n profile notes x) (hidle : x.caller = .idle)
    (hstate : (x.live.relay.session i).state = .capturing) {e : Ending}
    (h : x.silence? p e = some y) :
    Sound i p n profile (notes ++ (some Note.ending).toList) y := by
  obtain ⟨s, hs, hregular⟩ := hx
  obtain ⟨t, c, ht, hc, hof⟩ := Relay.scene?_eq_some.mp hs
  obtain ⟨c', hc', rfl⟩ := silence?_eq_some h
  obtain rfl := Option.some.inj (hc.symm.trans hc')
  have hsettled := hregular.fits.settled hidle
  rw [Relay.session_eq ht] at hstate
  have hopen : s.state ≠ .closed := by simp [← hof, Scene.of, hstate]
  have hheld : s.held.isSome = true := by
    rw [Option.isSome_iff_ne_none]
    exact fun hnone => hopen (hsettled.closed_iff.mpr hnone)
  refine ⟨{ s with capturing := false }, Relay.scene?_eq_some.mpr
    ⟨t, _, ht, getElem?_set_of_some hc, hof ▸ rfl⟩, ?_⟩
  exact hregular.call (.refl _) rfl hregular.place ⟨hheld, fun _ => ⟨rfl, hsettled.heard hopen⟩⟩
    rfl (Nat.le_refl _) (hregular.kept (by simp [hidle]) rfl) rfl (fun h => absurd rfl h)
    (by simp [Note.returned])

/-- **A stop** begins to end the run if the driver does not refuse it. -/
theorem Sound.stop (hx : Sound i p n profile notes x) (hidle : x.caller = .idle)
    (h : x.call? i p .stop = some (note, y)) : Sound i p n profile (notes ++ note.toList) y := by
  unfold call? at h
  dsimp only at h
  split at h
  · next hstate =>
    cases hsilence : x.silence? p .stop with
    | some z =>
      obtain ⟨rfl, rfl⟩ := by simpa [hsilence] using h
      exact hx.silence hidle hstate hsilence
    | none =>
      obtain ⟨rfl, rfl⟩ := by simpa [hsilence] using h
      simpa using hx
  · obtain ⟨rfl, rfl⟩ := by simpa using h
    simpa using hx

/-- **A close** begins to end the run, if there is anything to close. -/
theorem Sound.close (hx : Sound i p n profile notes x) (hidle : x.caller = .idle)
    (h : x.call? i p .close = some (note, y)) : Sound i p n profile (notes ++ note.toList) y := by
  obtain ⟨s, hs, hregular⟩ := id hx
  obtain ⟨t, c, ht, -, hof⟩ := Relay.scene?_eq_some.mp hs
  have hsettled := hregular.fits.settled hidle
  have hcamera : (x.live.relay.session i).camera = s.held := by
    rw [Relay.session_eq ht, ← hof]
    rfl
  unfold call? at h
  dsimp only at h
  rw [hcamera] at h
  split at h
  · next hnone =>
    -- Closing a closed session does nothing.
    obtain ⟨rfl, rfl⟩ := by simpa using h
    have hclosed : s.state = .closed := hsettled.closed_iff.mpr (by simpa using hnone)
    have hended {run : Nat} {r : Runner} (hr : x.runners run = some r) : r.stage = .finished :=
      hregular.ended_of_idle hidle (by simp [hclosed]) hr
    exact ⟨s, hs, hregular.call (.refl _) rfl hregular.place hregular.fits rfl (Nat.le_refl _)
      (fun run r hr => (hregular.crew run r hr).owned) rfl
      (fun _ _ h => absurd h (by simp [hclosed])) fun _ _ _ => hended⟩
  · next hsome =>
    have hunhearing : Sound i p n profile (notes ++ (some Note.ending).toList)
        { x with caller := .unhearing } :=
      ⟨s, hs, hregular.call (.refl _) rfl hregular.place
        (show s.held.isSome = true by simpa [Option.isSome_iff_ne_none] using hsome) rfl
        (Nat.le_refl _) (hregular.kept (by simp [hidle]) rfl) rfl (fun h => absurd rfl h)
        (by simp [Note.returned])⟩
    split at h
    · next hstate =>
      cases hsilence : x.silence? p .close with
      | some z =>
        obtain ⟨rfl, rfl⟩ := by simpa [hsilence] using h
        exact hx.silence hidle hstate hsilence
      | none =>
        obtain ⟨rfl, rfl⟩ := by simpa [hsilence] using h
        exact hunhearing
    · obtain ⟨rfl, rfl⟩ := by simpa using h
      exact hunhearing

/-- The end of a run is over: no source runs any more. -/
theorem Sound.finish {e : Ending} (hs : x.live.relay.scene? i p = some s)
    (hregular : Regular p n profile notes s x.live.relay.nextRun x.runners x.caller)
    (hcaller : x.caller ≠ .idle) (hfits : e.Fits s) (hsource : s.source? = none)
    (hended : ∀ run r, x.runners run = some r → r.stage = .finished) :
    Sound i p n profile (notes ++ (x.finish i e).1.toList) (x.finish i e).2 := by
  obtain ⟨t, c, ht, hc, hof⟩ := Relay.scene?_eq_some.mp hs
  obtain ⟨hheld, hstop⟩ := hfits
  obtain ⟨o, ho⟩ := Option.isSome_iff_exists.mp hheld
  have hcall (s' : Scene) (caller' : Phase) (note : Option Note) (hprofile : s'.profile = s.profile)
      (hplace : ∀ o, s'.held = some o → o.device.camera = p) (hfits : caller'.Fits s')
      (hemitted : s'.emitted = s.emitted) (hnote : note.bind Note.run? = none) :
      Regular p n profile (notes ++ note.toList) s' x.live.relay.nextRun x.runners caller' :=
    hregular.call (.refl _) hprofile hplace hfits hemitted (Nat.le_refl _)
      (fun run r hr halive => absurd (hended run r hr) halive) hnote
      (fun _ hidle => absurd hidle hcaller) fun _ => hended
  cases e with
  | stop =>
    -- The session is as before the start, and can be started again.
    obtain ⟨hsilent, hheard⟩ := hstop rfl
    refine ⟨{ s with state := .opened }, ?_,
      hcall _ .idle (some .stopped) rfl hregular.place ?_ rfl rfl⟩
    · refine Relay.scene?_eq_some.mpr ⟨_, c, getElem?_modify_of_some ht, hc, ?_⟩
      rw [Session.endTiming_eq, ← hof]
      rfl
    · exact ⟨by simp [ho], by simp [hsilent], fun _ => hheard, fun _ => hsource⟩
  | close => exact ⟨s, hs, hcall s .unhearing none rfl hregular.place hheld rfl rfl⟩
  | drop =>
    have hplace := hregular.place o ho
    subst hplace
    have ho' : t.camera = some o := by
      rw [← hof] at ho
      exact ho
    have hnone : o.device.source = none := by simpa [Scene.source?, ho] using hsource
    unfold Pacing.finish Sound
    dsimp only
    rw [Relay.endClose_eq ht ho' hc, hnone]
    refine ⟨{ s with state := .closed, held := none, listener := none, capturing := false }, ?_,
      hcall _ .idle (some .closed) rfl (fun _ h => absurd h (by simp)) ?_ rfl rfl⟩
    · exact Relay.scene?_eq_some.mpr ⟨_, _, getElem?_set_of_some ht, getElem?_set_of_some hc,
        hof ▸ rfl⟩
    · exact ⟨by simp, by simp, fun h => absurd rfl h, fun _ => rfl⟩

/-- The device object gives up its source. -/
theorem Sound.tell {e : Ending} {source : Source} (hx : Sound i p n profile notes x)
    (hcaller : x.caller = .silenced e) (hsource : (x.live.relay.session i).source? = some source) :
    Sound i p n profile notes (x.tell i source.run e) := by
  obtain ⟨s, hs, hregular⟩ := hx
  rw [Relay.source?_of_scene? hs] at hsource
  have hfits : e.Fits s := by
    have h := hregular.fits
    rwa [hcaller] at h
  refine ⟨s.withSource none, Relay.scene?_setSource hs none, hregular.unnoted ?alike rfl ?place
    ⟨Scene.source?_withSource (Scene.held_of_source? hsource) none, ?fits⟩ rfl (Nat.le_refl _)
    ?owned fun hidle => absurd (hidle.symm.trans hcaller) (by simp)⟩
  case alike =>
    intro run
    by_cases hrun : run = source.run
    · subst hrun
      cases h : x.runners source.run <;> simp [Pacing.tell, h, Runner.tell]
    · simp [Pacing.tell, Function.update_of_ne hrun]
  case place =>
    intro o ho
    obtain ⟨o', ho', rfl⟩ := Option.map_eq_some_iff.mp ho
    exact hregular.place o' ho'
  case fits => exact ⟨by simpa [Scene.withSource] using hfits.1, hfits.2⟩
  case owned =>
    intro run r hr halive
    change Function.update x.runners source.run _ run = some r at hr
    -- The one source that runs is the one that is told.
    have hrun : run = source.run := by
      refine by_contra fun hne => ?_
      rw [Function.update_of_ne hne] at hr
      have hheld := (hregular.held (fun _ _ h => by simp [hcaller] at h) hr halive).1
      obtain rfl := Option.some.inj (hsource.symm.trans hheld)
      exact hne (hregular.crew run r hr).run_eq.symm
    subst hrun
    rw [Function.update_self] at hr
    obtain ⟨r₀, -, rfl⟩ := Option.map_eq_some_iff.mp hr
    exact .inr ⟨rfl, e, rfl⟩

/-- The caller goes on. -/
theorem Sound.proceed (hx : Sound i p n profile notes x) (h : x.proceed? i p = some (note, y)) :
    Sound i p n profile (notes ++ note.toList) y := by
  obtain ⟨s, hs, hregular⟩ := id hx
  obtain ⟨t, c, ht, hc, hof⟩ := Relay.scene?_eq_some.mp hs
  have hfits := hregular.fits
  unfold proceed? at h
  cases hcaller : x.caller with
  | idle => simp [hcaller] at h
  | silenced e =>
    rw [hcaller] at hfits
    simp only [hcaller] at h
    cases hsource : (x.live.relay.session i).source? with
    | some source =>
      obtain ⟨rfl, rfl⟩ := by simpa [hsource] using h
      simpa using hx.tell hcaller hsource
    | none =>
      -- There is no source to wait for, so the caller returns at once.
      simp only [hsource, Option.some.injEq] at h
      rw [Relay.source?_of_scene? hs] at hsource
      have hfinish := Sound.finish (e := e) hs hregular (by simp [hcaller]) hfits hsource
        fun run r => hregular.ended hsource fun _ _ _ h => absurd (hcaller.symm.trans h) (by simp)
      rwa [h] at hfinish
  | joining e run =>
    rw [hcaller] at hfits
    simp only [hcaller] at h
    cases hr : x.runners run with
    | none => simp [hr] at h
    | some r =>
      obtain ⟨source, stage, told⟩ := r
      cases stage with
      | finished =>
        -- Only this thread was waited for, and it is through.
        simp only [hr, Option.some.injEq] at h
        have hwaited (e' : Ending) (run' : Nat) (r : Runner)
            (hjoining : x.caller = .joining e' run') (hr' : x.runners run' = some r) :
            r.stage = .finished := by
          obtain ⟨-, rfl⟩ := Phase.joining.inj (hcaller.symm.trans hjoining)
          exact Option.some.inj (hr.symm.trans hr') ▸ rfl
        have hfinish := Sound.finish (e := e) hs hregular (by simp [hcaller]) hfits.2 hfits.1
          fun run r => hregular.ended hfits.1 hwaited
        rwa [h] at hfinish
      | _ => simp [hr] at h
  | unhearing =>
    rw [hcaller] at hfits
    obtain ⟨rfl, rfl⟩ := by simpa [hcaller] using h
    rw [Option.toList_none, List.append_nil]
    refine ⟨{ s with listener := none }, Relay.scene?_eq_some.mpr
      ⟨_, _, getElem?_modify_of_some ht, getElem?_modify_of_some hc, ?_⟩,
      hregular.goOn (by simp [hcaller]) (by simp [hcaller]) rfl rfl hfits rfl⟩
    rw [← hof]
    split <;> rfl
  | shutting =>
    rw [hcaller] at hfits
    simp only [hcaller] at h
    cases ho : (x.live.relay.session i).camera with
    | none => simp [ho] at h
    | some o =>
      obtain ⟨rfl, rfl⟩ := by simpa [ho] using h
      rw [Option.toList_none, List.append_nil]
      exact ⟨s, hs, hregular.goOn (by simp [hcaller]) (by simp [hcaller]) rfl rfl hfits rfl⟩
  | draining =>
    rw [hcaller] at hfits
    simp only [hcaller] at h
    split at h
    · obtain ⟨rfl, rfl⟩ := by simpa using h
      rw [Option.toList_none, List.append_nil]
      exact ⟨{ s with capturing := false }, Relay.scene?_eq_some.mpr
        ⟨t, _, ht, getElem?_modify_of_some hc, hof ▸ rfl⟩,
        hregular.goOn (by simp [hcaller]) (by simp [hcaller]) rfl rfl
          ⟨hfits, fun h => absurd h (by simp)⟩ rfl⟩
    · exact absurd h (by simp)

/-- **A step.** -/
theorem Sound.step (hreturns : h.Returns) (hstream : profile.stream = .paced (some n))
    (hsize : profile.size < UInt32.size) (hx : Sound i p n profile notes x)
    (hstep : Step h i p x note y) : Sound i p n profile (notes ++ note.toList) y := by
  cases hstep with
  | elsewhere l scene later => simpa using hx.elsewhere l scene later
  | move m hstep =>
    cases m with
    | thread run =>
      simp only [step?, Option.bind_eq_some_iff, Option.map_eq_some_iff] at hstep
      obtain ⟨r, hr, result, hstep, hy⟩ := hstep
      obtain ⟨rfl, rfl⟩ := Prod.mk.inj hy
      exact hx.thread hreturns hsize hr hstep
    | proceed => exact hx.proceed hstep
    | call c =>
      unfold step? at hstep
      dsimp only at hstep
      split at hstep
      · -- Calls are made by a caller who has nothing else to do.
        next hidle =>
        cases c with
        | openCamera d key address =>
          unfold call? at hstep
          dsimp only at hstep
          split at hstep
          · next htarget =>
            obtain ⟨rfl, rfl⟩ := by simpa using hstep
            simpa using hx.openCamera hidle htarget key address
          · exact absurd hstep (by simp)
        | start timing =>
          have hstarted := hx.start hstream hidle timing
          rwa [show x.start i timing = (note, y) from Option.some.inj hstep] at hstarted
        | stop => exact hx.stop hidle hstep
        | close => exact hx.close hidle hstep
      · exact absurd hstep (by simp)

/-- **Any number of steps.** -/
theorem Sound.run (hreturns : h.Returns) (hstream : profile.stream = .paced (some n))
    (hsize : profile.size < UInt32.size) (hx : Sound i p n profile [] x)
    (hrun : Run h i p x notes y) : Sound i p n profile notes y := by
  induction hrun with
  | refl => exact hx
  | step _ last ih => exact ih.step hreturns hstream hsize last

/-- The session is closed, the camera with this profile does not capture, and no source has been
    started. -/
structure AtRest (i p : Nat) (profile : CameraProfile) (x : Pacing σ) : Prop where
  session : ∃ t, x.live.relay.sessions[i]? = some t ∧ t.state = .closed ∧ t.camera = none
  camera : ∃ c, x.live.relay.cameras[p]? = some c ∧ c.profile = profile ∧ c.capturing = false
  runners : ∀ run, x.runners run = none
  caller : x.caller = .idle

/-- Nothing has happened yet, so nothing is to be shown. -/
theorem AtRest.sound (hx : x.AtRest i p profile) (n : Nat) : Sound i p n profile [] x := by
  obtain ⟨t, ht, hstate, hcamera⟩ := hx.session
  obtain ⟨c, hc, hprofile, hsilent⟩ := hx.camera
  have hnone {run : Nat} {r : Runner} : x.runners run ≠ some r := by simp [hx.runners run]
  refine ⟨Scene.of t c, Relay.scene?_eq_some.mpr ⟨t, c, ht, hc, rfl⟩, ?_⟩
  exact
    { profile_eq := hprofile
      place := fun o ho => absurd ho (by simp [Scene.of, hcamera])
      fits := by
        rw [hx.caller]
        exact ⟨by simp [Scene.of, hstate, hcamera], by simp [Scene.of, hstate, hsilent],
          fun h => absurd hstate h, fun _ => by simp [Scene.source?, Scene.of, hcamera]⟩
      crew := fun _ _ hr => absurd hr hnone
      latest := fun _ _ hr => absurd hr hnone
      recorded := fun _ hm => absurd hm List.not_mem_nil
      ordered := List.Pairwise.nil
      clean := fun _ ⟨_, _, hnotes, _⟩ => absurd hnotes (by simp)
      retired := fun _ ⟨_, _, _, hnotes, _⟩ => absurd hnotes (by simp)
      silent := fun _ _ _ _ hnotes => absurd hnotes (by simp) }

/-! ### What the listener gets -/

/-- The frame that the source with an identity has handed over, until the listener has it. -/
def served (run : Nat) (x : Pacing σ) : List (List Point) :=
  (x.runners run).elim [] fun r => r.stage.served

/-- The frame that the listener gets by a move, with the source that it comes from. -/
def received (m : Move) (x : Pacing σ) : List (Nat × List Point) :=
  match m with
  | .thread run => (x.served run).map (run, ·)
  | .call _ | .proceed => []

/-- Any number of steps, with what is noted in the course of them and what the listener gets. -/
inductive Received (h : Handler σ) (i p : Nat) (x : Pacing σ) :
    List Note → List (Nat × List Point) → Pacing σ → Prop
  | refl : Received h i p x [] [] x
  | move {notes : List Note} {got : List (Nat × List Point)} {y : Pacing σ} {note : Option Note}
      {z : Pacing σ} (before : Received h i p x notes got y) (m : Move)
      (hstep : y.step? h i p m = some (note, z)) :
      Received h i p x (notes ++ note.toList) (got ++ y.received m) z
  | elsewhere {notes : List Note} {got : List (Nat × List Point)} {y : Pacing σ}
      (before : Received h i p x notes got y) (l : Live σ)
      (scene : l.relay.scene? i p = y.live.relay.scene? i p)
      (later : y.live.relay.nextRun ≤ l.relay.nextRun) :
      Received h i p x notes got { y with live := l }

/-- Receipts are kept along a run. -/
theorem Received.run {got : List (Nat × List Point)} (hgot : Received h i p x notes got y) :
    Run h i p x notes y := by
  induction hgot with
  | refl => exact .refl
  | move _ m hstep ih => exact ih.step (.move m hstep)
  | elsewhere _ l scene later ih => simpa using ih.step (.elsewhere l scene later)

/-- Every run shows what the listener gets in its course. -/
theorem Run.received (hrun : Run h i p x notes y) : ∃ got, Received h i p x notes got y := by
  induction hrun with
  | refl => exact ⟨[], .refl⟩
  | step _ last ih =>
    obtain ⟨got, hgot⟩ := ih
    cases last with
    | move m hstep => exact ⟨_, hgot.move m hstep⟩
    | elsewhere l scene later => exact ⟨got, by simpa using hgot.elsewhere l scene later⟩

/-- What is on its way to the listener is the frame of a source that serves it. -/
theorem mem_served {run : Nat} {points : List Point} (h : points ∈ x.served run) :
    ∃ r k, x.runners run = some r ∧ r.stage = .serving k points := by
  unfold served at h
  cases hr : x.runners run with
  | none =>
    rw [hr] at h
    exact absurd h List.not_mem_nil
  | some r =>
    rw [hr, Option.elim_some] at h
    cases hstage : r.stage with
    | serving k points' =>
      rw [hstage] at h
      obtain rfl := List.mem_singleton.mp h
      exact ⟨r, k, rfl, hstage⟩
    | _ =>
      rw [hstage] at h
      exact absurd h List.not_mem_nil

/-- **The listener gets a frame** in the step that follows its handing over. -/
theorem hear_of_received (hreturns : h.Returns) {m : Move} {run : Nat} {points : List Point}
    (hgot : (run, points) ∈ x.received m) (hstep : x.step? h i p m = some (note, y)) :
    ∃ r k, x.runners run = some r ∧ r.stage = .serving k points ∧ note = none ∧
      y.live = (x.live.hear h (.source r.source.run) k points).2 := by
  cases m with
  | call c => exact absurd hgot List.not_mem_nil
  | proceed => exact absurd hgot List.not_mem_nil
  | thread run' =>
    obtain ⟨_, hmem, heq⟩ := List.mem_map.mp hgot
    obtain ⟨rfl, rfl⟩ := Prod.mk.inj heq
    obtain ⟨r, k, hr, hstage⟩ := mem_served hmem
    simp only [step?, hr, Option.bind_some, Runner.step?_serving hreturns i p hstage,
      Option.map_some, Option.some.injEq, Prod.mk.injEq] at hstep
    obtain ⟨rfl, rfl⟩ := hstep
    exact ⟨r, k, hr, hstage, rfl, rfl⟩

/-- One source has changed, and serves what it serves now. -/
theorem served_of_update {run' : Nat} (r? : Option Runner)
    (hy : y.runners = Function.update x.runners run' r?) (run : Nat) :
    y.served run = if run = run' then r?.elim [] fun r => r.stage.served else x.served run := by
  unfold served
  rw [hy, Function.update_apply]
  split <;> rfl

/-- The listener has got what was handed over in a run, in this order; the last frame may still be
    on its way. -/
def HandedOn (run : Nat) (notes : List Note) (got : List (Nat × List Point)) (x : Pacing σ) :
    Prop :=
  (frames run notes).map (·.points) = (got.filter (·.1 = run)).map (·.2) ++ x.served run

section

variable {got : List (Nat × List Point)} {run : Nat}

/-- Nothing is handed over, and the listener gets nothing. -/
theorem HandedOn.quiet (hx : HandedOn run notes got x)
    (hquiet : frames run note.toList = [] ∧ y.served run = x.served run) :
    HandedOn run (notes ++ note.toList) (got ++ []) y := by
  unfold HandedOn
  rw [frames_append, hquiet.1, hquiet.2, List.append_nil, List.append_nil]
  exact hx

/-- A source goes on: the listener gets what was on its way, and what is noted is on its way. -/
theorem HandedOn.advance (hx : HandedOn run notes got x) {r r' : Runner} {s' : Scene}
    (hr : x.runners r.source.run = some r) (hmoved : r.Moved s note s' r') (l : Live σ) :
    HandedOn run (notes ++ note.toList) (got ++ x.received (.thread r.source.run))
      (x.advance r.source.run r' l) := by
  have hserved : x.served r.source.run = r.stage.served := by
    unfold served
    rw [hr]
    rfl
  have hafter : (x.advance r.source.run r' l).served run =
      if run = r.source.run then r'.stage.served else x.served run :=
    served_of_update (some r') rfl run
  have hreceived : x.received (.thread r.source.run) = r.stage.served.map (r.source.run, ·) :=
    congrArg (List.map _) hserved
  unfold HandedOn at hx ⊢
  rw [frames_append, List.map_append, List.filter_append, List.map_append, hx, hafter, hreceived]
  by_cases hrun : run = r.source.run
  · subst hrun
    rw [if_pos rfl, hmoved.served, hserved]
    simp [List.filter_map, Function.comp_def]
  · rw [if_neg hrun]
    have hnone : frames run note.toList = [] :=
      (hmoved.frames_of_ne hrun : frames run ([] ++ note.toList) = frames run [])
    simp [hnone, List.filter_map, Function.comp_def, Ne.symm hrun]

end

end

end Pacing

/-! ### The end result -/

end DepthRelay
