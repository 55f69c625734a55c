import DepthRelay.Proofs.Independence
import DepthRelay.Proofs.TimedRuns

namespace DepthRelay

/-!
# Whose frames a run times

Frames of a channel keep the order in which they came, so each of them is known by its number.  The
samples of a run are those of the frames that were *delivered* in its course; in queued delivery
they need not be the ones that *came* in its course.

* `Verdict`, `World.verdicts` — what has become of the frames of a channel, one after the other.
* `acceptedIn` — the accepted ones among the frames with certain numbers.
* `World.run_verdicts` — the verdicts of a stretch of a run are what its log has got.
* `World.frames_lane` — frames that came have been delivered or wait.
* `samples_of_run_iff` — when the samples of a run are those of its own frames.
-/

variable {σ : Type}

/-! ### Verdicts -/

/-- What has become of a frame that was delivered. -/
structure Verdict where
  accepted : Bool
  /-- From when its delivery began until the handler had answered. -/
  span : TimingSample
  deriving DecidableEq, Repr

/-- The spans of those frames that were accepted. -/
def Verdict.spans (vs : List Verdict) : List TimingSample := (vs.filter accepted).map span

/-- The accepted ones among the frames with numbers from `a` up to `b`, exclusive, each with its
    number. -/
def acceptedIn (a b : Nat) (vs : List Verdict) : List (Verdict × Nat) :=
  (vs.zipIdx.filter fun x => decide (a ≤ x.2 ∧ x.2 < b)).filter fun x => x.1.accepted

theorem mem_acceptedIn {a b : Nat} {vs : List Verdict} {x : Verdict × Nat} :
    x ∈ acceptedIn a b vs ↔ x ∈ vs.zipIdx ∧ (a ≤ x.2 ∧ x.2 < b) ∧ x.1.accepted = true := by
  simp only [acceptedIn, List.mem_filter, decide_eq_true_eq, and_assoc]

/-- The frames of a stretch of verdicts. -/
theorem spans_acceptedIn (us vs ws : List Verdict) :
    (acceptedIn us.length (us.length + vs.length) (us ++ vs ++ ws)).map (·.1.span) =
      Verdict.spans vs := by
  have hnumbers : ((us ++ vs ++ ws).zipIdx.filter fun x =>
      decide (us.length ≤ x.2 ∧ x.2 < us.length + vs.length)) = vs.zipIdx us.length := by
    rw [List.zipIdx_append, List.zipIdx_append, List.filter_append, List.filter_append,
      List.filter_eq_nil_iff.mpr, List.filter_eq_self.mpr, List.filter_eq_nil_iff.mpr,
      List.nil_append, List.append_nil, Nat.zero_add]
    · rintro ⟨v, n⟩ hmem
      have hle := List.le_snd_of_mem_zipIdx hmem
      rw [List.length_append] at hle
      simp only [decide_eq_true_eq]
      omega
    · rintro ⟨v, n⟩ hmem
      have hle := List.le_snd_of_mem_zipIdx hmem
      have hlt := List.snd_lt_add_of_mem_zipIdx hmem
      simp only [decide_eq_true_eq]
      omega
    · rintro ⟨v, n⟩ hmem
      have hlt := List.snd_lt_of_mem_zipIdx hmem
      simp only [decide_eq_true_eq]
      omega
  unfold acceptedIn Verdict.spans
  rw [hnumbers]
  show ((vs.zipIdx us.length).filter (Verdict.accepted ∘ Prod.fst)).map
    (Verdict.span ∘ Prod.fst) = _
  rw [← List.map_map, ← List.filter_map, List.zipIdx_map_fst]

/-- Two stretches have the same accepted frames if and only if none is accepted that the first has
    before the second, and none that the second has behind the first. -/
theorem acceptedIn_eq_iff {a b c d : Nat} (hac : a ≤ c) (hbd : b ≤ d) (vs : List Verdict) :
    acceptedIn a b vs = acceptedIn c d vs ↔
      acceptedIn a (min b c) vs = [] ∧ acceptedIn (max b c) d vs = [] := by
  constructor
  · intro hsame
    constructor
    · refine List.eq_nil_iff_forall_not_mem.mpr fun x hx => ?_
      obtain ⟨hmem, hrange, haccepted⟩ := mem_acceptedIn.mp hx
      have hx' : x ∈ acceptedIn c d vs :=
        hsame ▸ mem_acceptedIn.mpr ⟨hmem, by omega, haccepted⟩
      have hrange' := (mem_acceptedIn.mp hx').2.1
      omega
    · refine List.eq_nil_iff_forall_not_mem.mpr fun x hx => ?_
      obtain ⟨hmem, hrange, haccepted⟩ := mem_acceptedIn.mp hx
      have hx' : x ∈ acceptedIn a b vs :=
        hsame ▸ mem_acceptedIn.mpr ⟨hmem, by omega, haccepted⟩
      have hrange' := (mem_acceptedIn.mp hx').2.1
      omega
  · rintro ⟨hstale, hlate⟩
    unfold acceptedIn
    rw [List.filter_filter, List.filter_filter]
    refine List.filter_congr fun x hx => ?_
    cases haccepted : x.1.accepted with
    | false => rfl
    | true =>
      -- An accepted frame is in neither of the parts in which the stretches differ.
      have hstale' : ¬(a ≤ x.2 ∧ x.2 < min b c) := fun hrange =>
        List.ne_nil_of_mem (mem_acceptedIn.mpr ⟨hx, hrange, haccepted⟩) hstale
      have hlate' : ¬(max b c ≤ x.2 ∧ x.2 < d) := fun hrange =>
        List.ne_nil_of_mem (mem_acceptedIn.mpr ⟨hx, hrange, haccepted⟩) hlate
      simp only [Bool.true_and, decide_eq_decide]
      omega

namespace World

variable (h : Handler σ) {w : World (σ × List Call)} {k : Nat}

/-- What becomes of the frame that a step delivers. -/
def verdict (e : Event) (w : World (σ × List Call)) : Verdict where
  accepted := (w.asked h e).any (·.2 = .accepted)
  span := ⟨w.arrival e, (w.step h.recording e).2.relay.now⟩

/-- What becomes of the frames that are delivered on a channel, in the course of a schedule. -/
def verdicts (k : Nat) : List Event → World (σ × List Call) → List Verdict
  | [], _ => []
  | e :: es, w =>
    (onChannel k (w.delivered? e)).map (fun _ => w.verdict h e) ++
      verdicts k es (w.step h.recording e).2

/-- Verdicts on two schedules, one after the other. -/
theorem verdicts_append (k : Nat) (es fs : List Event) (w : World (σ × List Call)) :
    verdicts h k (es ++ fs) w =
      verdicts h k es w ++ verdicts h k fs (w.run h.recording es) := by
  induction es generalizing w with
  | nil => rfl
  | cons e es ih =>
    rw [List.cons_append, verdicts, verdicts, ih, List.append_assoc]
    rfl

/-- Each frame that is delivered has a verdict. -/
theorem length_verdicts (k : Nat) (es : List Event) (w : World (σ × List Call)) :
    (verdicts h k es w).length = (frames delivered? h.recording k es w).length := by
  induction es generalizing w with
  | nil => rfl
  | cons e es ih => rw [verdicts, frames, List.length_append, List.length_append, List.length_map, ih]

end World

/-! ### Verdicts of a run -/

/-- The channel by which a session holds its camera. -/
def Session.channel? (s : Session) : Option Nat := s.camera.map (·.channel)

@[simp] theorem Session.channel?_standing (s : Session) : s.standing.channel? = s.channel? := by
  unfold standing channel?
  cases s.camera <;> rfl

namespace Relay

variable {w : Relay} {closing : List Nat} {i k : Nat} {s : Session}

/-- A session that holds a camera has a channel of its own. -/
theorem session_of_channel? (hcustody : Custody (w.standing closing))
    (hs : w.sessions[i]? = some s) (hk : s.channel? = some k) :
    k < w.channels.length ∧ (w.channel k).session = i := by
  obtain ⟨o, ho, rfl⟩ := Option.map_eq_some_iff.mp hk
  obtain ⟨x, hx, hserves⟩ := wired_of_custody hcustody (session_standing hs) (held_standing ho)
  rw [show w.channel o.channel = x from channel_eq hx]
  exact ⟨(List.getElem?_eq_some_iff.mp hx).1, hserves.session⟩

/-- An open camera has the channel of its session. -/
theorem channel?_of_standing {t : Session} {u : OpenCamera}
    (ht : (w.standing closing).sessions[i]? = some t) (hu : t.camera = some u) :
    ∃ s, w.sessions[i]? = some s ∧ s.channel? = some u.channel := by
  obtain ⟨s, hs, rfl⟩ := of_session_standing ht
  refine ⟨s, hs, ?_⟩
  rw [← s.channel?_standing]
  simp [Session.channel?, hu]

end Relay

namespace World

variable {h : Handler σ} {w : World (σ × List Call)} {i k : Nat} {e : Event} {s s' : Session}

/-- A frame is delivered for the session that holds its channel, -/
theorem holds_of_delivered? {σ : Type} {w : World σ} (hcustody : Custody w.standing)
    (hfed : w.Fed) {points : List Point} (hdelivered : w.delivered? e = some (k, points)) :
    ∃ s, w.relay.sessions[(w.relay.channel k).session]? = some s ∧ s.channel? = some k := by
  obtain ⟨j, t, u, ht, hu, rfl⟩ := holder_of_delivered? hcustody hfed.attended hdelivered
  obtain ⟨s, hs, hk⟩ := Relay.channel?_of_standing ht hu
  obtain ⟨-, hsession⟩ := Relay.session_of_channel? hcustody hs hk
  exact ⟨s, hsession ▸ hs, hk⟩

/-- so for a session if and only if on its channel. -/
theorem session_of_delivered? {σ : Type} {w : World σ} (hcustody : Custody w.standing)
    (hfed : w.Fed) (hs : w.relay.sessions[i]? = some s) (hk : s.channel? = some k) {j : Nat}
    {points : List Point} (hdelivered : w.delivered? e = some (j, points)) :
    (w.relay.channel j).session = i ↔ j = k := by
  constructor
  · rintro rfl
    obtain ⟨t, ht, hj⟩ := holds_of_delivered? hcustody hfed hdelivered
    obtain rfl : t = s := Option.some.inj (ht.symm.trans hs)
    exact Option.some.inj (hj.symm.trans hk)
  · rintro rfl
    exact (Relay.session_of_channel? hcustody hs hk).2

/-- The tempo of a session after a step goes by the verdict on the frame that is delivered on its
    channel. -/
theorem tempo_of_beat (hcustody : Custody w.standing) (hfed : w.Fed)
    (hs : w.relay.sessions[i]? = some s) (hk : s.channel? = some k)
    (hbeat : Beat h.recording i (w.arrival e) w.toLive (w.step h.recording e).2.toLive s.tempo
      s'.tempo (w.delivered? e)) :
    s'.tempo = s.tempo.acceptAll
      (Verdict.spans ((onChannel k (w.delivered? e)).map fun _ => w.verdict h e)) := by
  have hverdict : w.verdict h e =
      { accepted := (w.asked h e).any (·.2 = .accepted)
        span := ⟨w.arrival e, (w.step h.recording e).2.relay.now⟩ } := rfl
  have howner (j : Nat) (points : List Point) (hdelivered : w.delivered? e = some (j, points)) :=
    session_of_delivered? hcustody hfed hs hk hdelivered
  generalize w.delivered? e = frame? at hbeat howner ⊢
  cases hbeat with
  | quiet _ host same =>
    -- Nothing was asked, so that there is no span to accept.
    have hasked : w.asked h e = [] := by
      have hcalls : (w.step h.recording e).2.host.2 = w.host.2 := congrArg Prod.snd host
      simp [asked, hcalls]
    have hnone : Verdict.spans ((onChannel k frame?).map fun _ => w.verdict h e) = [] := by
      simp [Verdict.spans, hverdict, hasked]
    rw [hnone]
    exact same
  | heard j points d a answer host clock tempo =>
    have hasked : w.asked h e = [(d, a.reply)] := by
      have hcalls : (w.step h.recording e).2.host.2 = w.host.2 ++ [(d, a.reply)] := by
        rw [host, answer]
        rfl
      simp [asked, hcalls]
    simp only [tempo, howner j points rfl, onChannel_some]
    -- The frame is for the channel of the session, or it does not count for it.
    by_cases hj : j = k
    · by_cases haccepted : a.reply = .accepted
      · simp [hj, haccepted, hverdict, hasked, Verdict.spans, Tempo.acceptAll]
      · simp [hj, haccepted, hverdict, hasked, Verdict.spans, Tempo.acceptAll]
    · simp [hj, Verdict.spans, Tempo.acceptAll]

/-- **A stretch of a run**: the log has got the spans of those frames that were delivered and
    accepted. -/
theorem run_verdicts (hreturns : h.Returns) (events : List Event) (hcustody : Custody w.standing)
    (htidy : w.relay.Tidy) (hfed : w.Fed)
    (hs' : (w.run h.recording events).relay.sessions[i]? = some s')
    (hstate : s'.state = .capturing) (hfree : i ∉ (w.run h.recording events).closing)
    (hwithin : w.startless h.recording i events = true) (hk : s'.channel? = some k) :
    i ∉ w.closing ∧ ∃ s, w.relay.sessions[i]? = some s ∧ s.standing = s'.standing ∧
      s'.tempo = s.tempo.acceptAll (Verdict.spans (verdicts h k events w)) := by
  have hreturns' := hreturns.recording
  induction events generalizing w with
  | nil => exact ⟨hfree, s', hs', rfl, rfl⟩
  | cons e events ih =>
    simp only [startless, Bool.and_eq_true, Bool.not_eq_true'] at hwithin
    obtain ⟨hfree₁, s₁, hs₁, hsame₁, htempo⟩ :=
      ih (hcustody.shift (step_shift h.recording e hcustody))
        (tidy_step h.recording hreturns' hcustody htidy e)
        (hfed.step h.recording hreturns' hcustody e) hs' hfree hwithin.2
    have hstate₁ : s₁.state = .capturing := (congrArg Session.state hsame₁).trans hstate
    obtain ⟨hfree₀, s, hs, hsame, hbeat⟩ :=
      step_within hreturns' hcustody htidy hs₁ hstate₁ hfree₁ hwithin.1
    have hsame' : s.standing = s'.standing := hsame.trans hsame₁
    have hk₀ : s.channel? = some k := by
      rw [← s.channel?_standing, hsame', s'.channel?_standing, hk]
    refine ⟨hfree₀, s, hs, hsame', ?_⟩
    rw [htempo, tempo_of_beat hcustody hfed hs hk₀ hbeat, verdicts]
    unfold Verdict.spans Tempo.acceptAll
    rw [List.filter_append, List.map_append, List.foldl_append]

/-! ### Frames that came -/

/-- No dispatch thread is lost as long as handlers return. -/
theorem Fed.lane_ne_lost {σ : Type} {w : World σ} (hfed : w.Fed) (k : Nat) :
    w.relay.lane k ≠ ([], false) := by
  intro hlost
  unfold Relay.lane Channel.lane at hlost
  cases hq : (w.relay.channel k).handoff with
  | none =>
    rw [hq] at hlost
    exact absurd hlost (by simp)
  | some q =>
    have htally : w.relay.books.waiting[k]? = some (w.relay.channel k).tally := by
      simp [Relay.books, Relay.getElem?_of_handoff hq]
    have halive := (hfed k _ htally).1
    simp only [hq, Option.elim_some, Prod.mk.injEq, Channel.tally] at hlost halive
    exact absurd (halive.symm.trans hlost.2) (by simp)

/-- **Frames that came have been delivered or wait**, as long as handlers return. -/
theorem frames_lane {σ : Type} {h : Handler σ} (hreturns : h.Returns) (events : List Event)
    {w : World σ} (hcustody : Custody w.standing) (hfed : w.Fed) (k : Nat) :
    (w.relay.lane k).1 ++ frames kept? h k events w =
      frames delivered? h k events w ++ ((w.run h events).relay.lane k).1 := by
  induction events generalizing w with
  | nil => exact List.append_nil _
  | cons e events ih =>
    have hcustody' := hcustody.shift (step_shift h e hcustody)
    have hfed' := hfed.step h hreturns hcustody e
    rcases step_lane h e hcustody k with ⟨-, hqueue, -⟩ | ⟨hlost, -, -, -⟩
    · rw [frames, frames, ← List.append_assoc, hqueue, List.append_assoc, ih hcustody' hfed',
        List.append_assoc]
      rfl
    · exact absurd hlost (hfed'.lane_ne_lost k)

/-- In synchronous delivery nothing waits. -/
theorem lane_of_synchronous {σ : Type} {w : World σ} (hcustody : Custody w.standing)
    (hs : w.relay.sessions[i]? = some s) (hk : s.channel? = some k)
    (hsynchronous : s.settings.delivery = .synchronous) : w.relay.lane k = ([], true) := by
  obtain ⟨o, ho, rfl⟩ := Option.map_eq_some_iff.mp hk
  obtain ⟨x, hx, hserves⟩ := Relay.wired_of_custody hcustody (Relay.session_standing hs)
    (Relay.held_standing ho)
  have hqueued : x.handoff.isSome = decide (s.settings.delivery = .queued) := hserves.queued
  have hnone : x.handoff = none := by simpa [hsynchronous] using hqueued
  have hchannel : w.relay.channel o.channel = x := Relay.channel_eq hx
  unfold Relay.lane Channel.lane
  rw [hchannel, hnone]
  rfl

/-- **What a run hands over** are the spans of those frames that were delivered and accepted in its
    course, all of them on the same channel. -/
theorem samples_of_run (hreturns : h.Returns) (events : List Event) (hcustody : Custody w.standing)
    (htidy : w.relay.Tidy) (hfed : w.Fed) (hs : w.relay.sessions[i]? = some s)
    (hk : s.channel? = some k) {l : List TimingSample}
    (hbegun : (w.step h.recording (.operate i (.start true))).1 = .answered (.unit (.ok ())))
    (hwithin : (w.step h.recording (.operate i (.start true))).2.startless h.recording i events =
      true)
    (hstopped : (((w.step h.recording (.operate i (.start true))).2.run h.recording events).step
      h.recording (.operate i .stop)).1 = .answered (.samples (.ok l))) :
    l.Perm (Verdict.spans
        (verdicts h k events (w.step h.recording (.operate i (.start true))).2)) ∧
      ∃ s', ((w.step h.recording (.operate i (.start true))).2.run h.recording
          events).relay.sessions[i]? = some s' ∧
        s'.channel? = some k ∧ s'.settings = s.settings := by
  have hreturns' := hreturns.recording
  obtain ⟨u, t, hu, ht, htempo, hsame⟩ := of_begun hcustody hbegun
  obtain rfl : s = u := Option.some.inj (hs.symm.trans hu)
  generalize hv : (w.step h.recording (.operate i (.start true))).2 = v at *
  have hcustody' : Custody v.standing := by
    rw [← hv]
    exact hcustody.shift (step_shift h.recording _ hcustody)
  have htidy' : v.relay.Tidy := by
    rw [← hv]
    exact tidy_step h.recording hreturns' hcustody htidy _
  have hfed' : v.Fed := by
    rw [← hv]
    exact hfed.step h.recording hreturns' hcustody _
  obtain ⟨hfree, s', -, hs', hstate, hl, -, -⟩ :=
    of_stopped (custody_run h.recording events hcustody') hstopped
  -- The session holds its camera by the same channel all the time.
  obtain ⟨-, u, -, hu, hsame', -, -⟩ :=
    run_within hreturns' events hcustody' htidy' hs' hstate hfree hwithin
  obtain rfl : t = u := Option.some.inj (ht.symm.trans hu)
  have hk' : s'.channel? = some k := by
    rw [← s'.channel?_standing, ← hsame', hsame]
    exact s.channel?_standing.trans hk
  have hsettings : s'.settings = s.settings := by
    have hkept := congrArg Session.settings (hsame'.symm.trans hsame)
    exact hkept
  obtain ⟨-, u, hu, -, hrun⟩ :=
    run_verdicts hreturns events hcustody' htidy' hfed' hs' hstate hfree hwithin hk'
  obtain rfl : t = u := Option.some.inj (ht.symm.trans hu)
  refine ⟨?_, s', hs', hk', hsettings⟩
  rw [htempo, Tempo.acceptAll_eq] at hrun
  have hlog : s'.timing = { enabled := true, samples := Verdict.spans (verdicts h k events v) } := by
    refine (congrArg Tempo.log hrun).trans ?_
    simp [TimingLog.setEnabled]
  rw [hl, hlog]
  exact List.mergeSort_perm _ _

/-- **A run** leaves the hand-offs alive, and frames wait only for sessions that hold a camera. -/
theorem fed_run {σ : Type} {h : Handler σ} (hreturns : h.Returns) (events : List Event)
    {w : World σ} (hcustody : Custody w.standing) (hfed : w.Fed) : (w.run h events).Fed := by
  induction events generalizing w with
  | nil => exact hfed
  | cons e events ih =>
    exact ih (hcustody.shift (step_shift h e hcustody)) (hfed.step h hreturns hcustody e)

/-- At the start nobody is fed. -/
theorem fed_fresh {σ : Type} (profiles : List CameraProfile) (runtimes : Nat)
    (sessions : List (Nat × Settings)) (host : σ) (now : Nat) :
    (fresh profiles runtimes sessions host now).Fed := by
  intro k x hx
  exact absurd hx (by simp [Relay.books, fresh])

end World

/-- **Whose frames the samples of a run are.**  Let a session begin a timed run and be stopped
    later, with any steps of anybody before, in between and after, but no other start of the session
    in between that succeeds.  The frames of its channel are delivered in the order in which they
    came, and have their verdicts by number.  The samples are, one for one, those of the accepted
    frames that were delivered in the course of the run.  These are the accepted frames that came in
    the course of the run if and only if no frame that waited when it began has been accepted in its
    course, and none that came in its course is accepted only later.  That is so whenever delivery
    is synchronous. -/
theorem samples_of_run_iff (profiles : List CameraProfile) (runtimes : Nat)
    (sessions : List (Nat × Settings)) (host : σ) (now : Nat) (h : Handler σ)
    (before events after : List Event) (i k : Nat) (l : List TimingSample) :
    let w := World.fresh profiles runtimes sessions (host, []) now
    let begun := before ++ [.operate i (.start true)]
    let schedule := begun ++ events ++ .operate i .stop :: after
    let verdicts := World.verdicts h k schedule w
    let delivered := fun es => (World.frames World.delivered? h.recording k es w).length
    let came := fun es => (World.frames World.kept? h.recording k es w).length
    let a := delivered before
    let b := delivered (begun ++ events)
    let c := came before
    let d := came (begun ++ events)
    h.Returns →
    ((w.run h.recording before).relay.session i).channel? = some k →
    ((w.run h.recording before).step h.recording (.operate i (.start true))).1 =
      .answered (.unit (.ok ())) →
    (w.run h.recording begun).startless h.recording i events = true →
    ((w.run h.recording (begun ++ events)).step h.recording (.operate i .stop)).1 =
      .answered (.samples (.ok l)) →
      (World.frames World.delivered? h.recording k schedule w <+:
          World.frames World.kept? h.recording k schedule w ∧
        verdicts.length = delivered schedule) ∧
      l.Perm ((acceptedIn a b verdicts).map (·.1.span)) ∧
      (acceptedIn a b verdicts = acceptedIn c d verdicts ↔
        acceptedIn a (min b c) verdicts = [] ∧ acceptedIn (max b c) d verdicts = []) ∧
      (((w.run h.recording before).relay.session i).settings.delivery = .synchronous →
        acceptedIn a b verdicts = acceptedIn c d verdicts) := by
  intro w begun schedule verdicts delivered came a b c d hreturns hk hbegun hwithin hstopped
  have hreturns' := hreturns.recording
  have hcustody := World.custody_fresh profiles runtimes sessions (host, ([] : List Call)) now
  have htidy := World.tidy_fresh profiles runtimes sessions (host, ([] : List Call)) now
  have hfed := World.fed_fresh profiles runtimes sessions (host, ([] : List Call)) now
  have hcustodyOf (es : List Event) : Custody (w.run h.recording es).standing :=
    World.custody_run h.recording es hcustody
  have htidyOf (es : List Event) := World.tidy_run h.recording hreturns' es hcustody htidy
  have hfedOf (es : List Event) := World.fed_run hreturns' es hcustody hfed
  -- What came has been delivered or waits.
  have hlane (es : List Event) : came es =
      delivered es + ((w.run h.recording es).relay.lane k).1.length := by
    have hframes := World.frames_lane hreturns' es hcustody hfed k
    rw [show (w.relay.lane k).1 = [] from rfl, List.nil_append] at hframes
    show (World.frames ..).length = _
    rw [hframes, List.length_append]
  have hac : a ≤ c := Nat.le.intro (hlane before).symm
  have hbd : b ≤ d := Nat.le.intro (hlane (begun ++ events)).symm
  obtain ⟨s, hs⟩ : ∃ s, (w.run h.recording before).relay.sessions[i]? = some s := by
    obtain ⟨s, -, hs, -⟩ := World.of_begun (hcustodyOf before) hbegun
    exact ⟨s, hs⟩
  rw [Relay.session_eq hs] at hk ⊢
  have hafter : w.run h.recording begun =
      ((w.run h.recording before).step h.recording (.operate i (.start true))).2 :=
    World.run_append h.recording before _ w
  rw [World.run_append, hafter] at hstopped
  rw [hafter] at hwithin
  obtain ⟨hperm, s', hs', hk', hsettings⟩ := World.samples_of_run hreturns events
    (hcustodyOf before) (htidyOf before) (hfedOf before) hs hk hbegun hwithin hstopped
  rw [← hafter] at hperm hs'
  -- The start itself delivers nothing.
  have hstart : World.verdicts h k begun w = World.verdicts h k before w := by
    rw [World.verdicts_append]
    exact List.append_nil _
  have ha : a = (World.verdicts h k before w).length := (World.length_verdicts h k before w).symm
  have hb : b = (World.verdicts h k before w).length +
      (World.verdicts h k events (w.run h.recording begun)).length := by
    have hlength := World.length_verdicts h k (begun ++ events) w
    rw [World.verdicts_append, hstart, List.length_append] at hlength
    exact hlength.symm
  have hspans : (acceptedIn a b verdicts).map (·.1.span) =
      Verdict.spans (World.verdicts h k events (w.run h.recording begun)) := by
    rw [ha, hb, show verdicts = _ from World.verdicts_append h k (begun ++ events) _ w,
      World.verdicts_append, hstart]
    exact spans_acceptedIn _ _ _
  refine ⟨⟨?_, World.length_verdicts h k schedule w⟩, hspans ▸ hperm,
    acceptedIn_eq_iff hac hbd verdicts, ?_⟩
  · exact World.delivered_prefix h.recording schedule hcustody k
  · intro hsynchronous
    rw [← World.run_append] at hs'
    have hempty := World.lane_of_synchronous (hcustodyOf before) hs hk hsynchronous
    have hempty' := World.lane_of_synchronous (hcustodyOf (begun ++ events)) hs' hk'
      (hsettings ▸ hsynchronous)
    have hca : c = a := by
      have hcame := hlane before
      rw [hempty] at hcame
      exact hcame
    have hdb : d = b := by
      have hcame := hlane (begun ++ events)
      rw [hempty'] at hcame
      exact hcame
    rw [hca, hdb]

/-- A frame with too many points waits when the run begins, and is refused in its course: the one
    sample is that of the run's own frame. -/
theorem samples_of_run_iff_refused_before :
    let profiles : List CameraProfile := [{ serial := "A", fd := 3 }]
    let sessions : List (Nat × Settings) := [(0, { maxPoints := 1, delivery := .queued })]
    let h : Handler Unit := fun _ _ host => { reply := .accepted, host := host, elapsed := 3 }
    let before : List Event :=
      [.operate 0 (.openCamera ⟨3⟩ 5 64), .operate 0 (.start false),
        .emit "W" 0 [⟨1, 2, 3, 0, 0, 0⟩, ⟨4, 5, 6, 0, 0, 0⟩], .operate 0 .stop]
    let events : List Event := [.emit "W" 0 [⟨7, 8, 9, 0, 0, 0⟩], .dispatch 0, .dispatch 0]
    let w := World.fresh profiles 1 sessions ((), []) 0
    let begun := before ++ [.operate 0 (.start true)]
    let verdicts := World.verdicts h 0 (begun ++ events ++ [.operate 0 .stop]) w
    let delivered := fun es => (World.frames World.delivered? h.recording 0 es w).length
    let came := fun es => (World.frames World.kept? h.recording 0 es w).length
    delivered before < came before ∧
      ((w.run h.recording (begun ++ events)).step h.recording (.operate 0 .stop)).1 =
        .answered (.samples (.ok [⟨0, 3⟩])) ∧
      acceptedIn (delivered before) (delivered (begun ++ events)) verdicts =
        acceptedIn (came before) (came (begun ++ events)) verdicts := by
  intro profiles sessions h before events
  have hreturns : h.Returns := by simp [Handler.Returns, h]
  have hrun := samples_of_run_iff profiles 1 sessions () 0 h before events [] 0 0 [⟨0, 3⟩] hreturns
    (by decide +kernel) (by decide +kernel) (by decide +kernel) (by decide +kernel)
  refine ⟨?_, ?_, hrun.2.2.1.mpr ⟨?_, ?_⟩⟩
  all_goals decide +kernel

/-- In queued delivery a frame of an earlier run, which was not even timed, is delivered in the
    course of the next one and gives a sample there, although no frame has come in its course.  And
    a frame that still waits at the stop has no sample, although the handler accepts it. -/
theorem run_samples_of_other_frames :
    let profiles : List CameraProfile := [{ serial := "A", fd := 3 }]
    let sessions : List (Nat × Settings) := [(0, { maxPoints := 1, delivery := .queued })]
    let h : Handler Unit := fun _ _ host => { reply := .accepted, host := host, elapsed := 3 }
    let w := World.fresh profiles 1 sessions () 0
    let frame : Event := .emit "W" 0 [⟨1, 2, 3, 0, 0, 0⟩]
    let opening : Event := .operate 0 (.openCamera ⟨3⟩ 5 64)
    let second := w.run h
      [opening, .operate 0 (.start false), frame, .operate 0 .stop, .operate 0 (.start true)]
    let first := w.run h [opening, .operate 0 (.start true), frame]
    World.frames World.arrived? h 0 [.dispatch 0] second = [] ∧
      ((second.step h (.dispatch 0)).2.step h (.operate 0 .stop)).1 =
        .answered (.samples (.ok [⟨0, 3⟩])) ∧
      (first.step h (.operate 0 .stop)).1 = .answered (.samples (.ok [])) ∧
      ((first.run h [.operate 0 .stop, .dispatch 0]).relay.session 0).stats.delivered = 1 := by
  decide +kernel

end DepthRelay
