import DepthRelay.Proofs.ShareSteps

namespace DepthRelay

/-!
# Sessions do not interfere

Sessions with cameras of their own, on hosts that they may share, come out as if each had been
alone: the steps that concern a session, taken without all the others, are answered in the same way
and show its handler the same frames.

* `Handler.recording`, `World.calls` — what the handlers are asked in the course of a schedule.
* `World.part` — the part of a run that concerns one session, as *deeds*; its events, with channels
  numbered as they are when the others are gone, are a schedule of their own.
* `Shift.news` — what a step does to the channels of a session.
* `Abreast` — two worlds with the same share, the session being alone in one of them.
* `session_independence` — the two runs.
-/

variable {σ : Type}

/-! ### What the handlers are asked -/

/-- The same handlers, which also note every call with their reply. -/
def Handler.recording (h : Handler σ) : Handler (σ × List Call) :=
  fun r d (s, calls) =>
    let a := h r d s
    { reply := a.reply, host := (a.host, calls ++ [(d, a.reply)]), elapsed := a.elapsed }

theorem Handler.Returns.recording {h : Handler σ} (hreturns : h.Returns) : h.recording.Returns :=
  fun r d s reason => hreturns r d s.1 reason

/-- Replies that go by the deliveries so far, over two stretches. -/
theorem answers_append {answer : List Seen → Seen → Reply} {seen : List Seen} {xs ys : List Call} :
    Answers answer seen (xs ++ ys) ↔
      Answers answer seen xs ∧ Answers answer (seen ++ seenIn xs) ys := by
  induction xs generalizing seen with
  | nil => simp [Answers, seenIn]
  | cons c xs ih =>
    simp only [List.cons_append, Answers, ih, and_assoc]
    rw [show seen ++ seenIn (c :: xs) = seen ++ [c.1.seen] ++ seenIn xs by simp [seenIn]]

instance decidableAnswers (answer : List Seen → Seen → Reply) :
    (seen : List Seen) → (calls : List Call) → Decidable (Answers answer seen calls)
  | _, [] => .isTrue trivial
  | seen, c :: calls =>
    have := decidableAnswers answer (seen ++ [c.1.seen]) calls
    inferInstanceAs (Decidable (c.2 = answer seen c.1.seen ∧ _))

theorem seenIn_append (xs ys : List Call) : seenIn (xs ++ ys) = seenIn xs ++ seenIn ys :=
  List.map_append

namespace Live

variable {h : Handler σ} {l : Live (σ × List Call)} {k : Nat}

/-- A delivery makes the call that comes with it, and no other. -/
theorem calls_deliver (hreturns : h.Returns) (hclear : l.relay.Clear k) (t : ThreadId)
    (points : List Point) :
    (l.deliver h.recording t k points).2.host.2 =
      l.host.2 ++ l.asked h.recording (some (k, points)) := by
  obtain ⟨as, runtimes, -, hafter⟩ := deliver_eq hreturns.recording hclear t points
  rw [hafter]
  unfold asked
  dsimp only
  cases (l.relay.channel k).publish points with
  | error e => exact (List.append_nil _).symm
  | ok result => rfl

/-- **An injected frame** adds the calls that its delivery makes. -/
theorem calls_emit (hreturns : h.Returns) {p : Nat} {points : List Point}
    (hclear : ∀ k, l.relay.direct? p points = some (k, points) → l.relay.Clear k) (t : ThreadId) :
    (l.emit h.recording t p points).2.host.2 =
      l.host.2 ++ l.asked h.recording (l.relay.direct? p points) := by
  rw [emit_eq hreturns.recording]
  cases hk : l.relay.listener? p with
  | none =>
    rw [show l.relay.direct? p points = none by simp [Relay.direct?, hk]]
    exact (List.append_nil _).symm
  | some k =>
    have hdirect := Relay.direct?_of_listener hk points
    dsimp only
    cases hq : (l.relay.channel k).handoff with
    | none =>
      rw [hq, Option.isNone_none, if_pos rfl] at hdirect
      rw [hdirect]
      exact calls_deliver (l := l.withRelay (l.relay.noteEmitted p)) hreturns (hclear k hdirect) t
        points
    | some q =>
      rw [hq, Option.isNone_some, if_neg (by simp)] at hdirect
      rw [hdirect]
      exact (List.append_nil _).symm

/-- **A dispatch thread** adds those for the frame that it takes out. -/
theorem calls_dispatch (hreturns : h.Returns)
    (hclear : ∀ points, l.relay.queued? k = some (k, points) → l.relay.Clear k) :
    (l.dispatch h.recording k).host.2 =
      l.host.2 ++ l.asked h.recording (l.relay.queued? k) := by
  rw [dispatch_eq hreturns.recording]
  unfold Relay.queued? at *
  cases htake : l.relay.takeQueued? k with
  | none => exact (List.append_nil _).symm
  | some taken =>
    obtain ⟨points, v⟩ := taken
    have hclear' := (hclear points (by rw [htake]; rfl)).takeQueued? htake
    obtain ⟨q, rest, hq, -, hv⟩ := Relay.takeQueued?_eq_some htake
    have hk := (List.getElem?_eq_some_iff.mp (Relay.getElem?_of_handoff hq)).1
    have hasked := asked_setHandoff (h := h.recording) hk _ points hv
    dsimp only [Option.map_some]
    rw [← hasked]
    exact calls_deliver (l := l.withRelay v) hreturns hclear' (.dispatch k) points

/-- **A frame source** adds those for its own frame. -/
theorem calls_wake (hreturns : h.Returns) {i : Nat} {source : Source}
    {frame? : Option (Nat × List Point)}
    (hframe : frame? = (l.relay.wakeSource i source).1.bind fun (p, points) =>
      l.relay.direct? p points)
    (hclear : ∀ k points, frame? = some (k, points) → l.relay.Clear k) :
    (l.wake h.recording i source).host.2 = l.host.2 ++ l.asked h.recording frame? := by
  rw [wake_eq hreturns.recording]
  cases hwake : l.relay.wakeSource i source with
  | mk produced v =>
    rw [hwake] at hframe
    cases produced with
    | none =>
      subst hframe
      exact (List.append_nil _).symm
    | some frame =>
      obtain ⟨p, points⟩ := frame
      obtain ⟨-, hcameras, hchannels, hruntimes⟩ := Relay.wakeSource_some hwake
      -- The frame finds what it would have found before the source woke up.
      have hdirect : v.direct? p points = l.relay.direct? p points := by
        unfold Relay.direct? Relay.listener? Relay.channel
        rw [hcameras, hchannels]
      have hasked : (l.withRelay v).asked h.recording frame? = l.asked h.recording frame? := by
        unfold asked withRelay
        simp only [Relay.channel_of_channels hchannels]
      subst hframe
      dsimp only [Option.bind_some] at hclear hasked ⊢
      rw [← hdirect] at hclear hasked ⊢
      rw [← hasked]
      exact calls_emit (l := l.withRelay v) hreturns
        (fun k hk => (hclear k points hk).congr hchannels hruntimes) _

end Live

namespace World

variable {h : Handler σ} {w v : World (σ × List Call)} {owner : Nat → Nat}
  {profiles : List CameraProfile} {i : Nat} {e : Event}

variable (h) in
/-- What the handlers are asked in one step. -/
def asked (e : Event) (w : World (σ × List Call)) : List Call :=
  (w.step h.recording e).2.host.2.drop w.host.2.length

variable (h) in
/-- What the handlers are asked in the course of a schedule. -/
def calls : List Event → World (σ × List Call) → List Call
  | [], _ => []
  | e :: es, w => w.asked h e ++ calls es (w.step h.recording e).2

/-- **A step calls a handler only for the frame that it delivers.** -/
theorem Settled.asked_eq (hw : w.Settled owner profiles) (hreturns : h.Returns) (e : Event) :
    w.asked h e = w.toLive.asked h.recording (w.delivered? e) := by
  -- It is enough to say what is noted down, since asking is reading that log.
  suffices hlog : (w.step h.recording e).2.host.2 =
      w.host.2 ++ w.toLive.asked h.recording (w.delivered? e) by
    unfold asked
    rw [hlog, List.drop_left]
  -- Most steps neither call the handler nor deliver anything.
  have hquiet (hhost : (w.step h.recording e).2.host = w.host) (hnone : w.delivered? e = none) :
      (w.step h.recording e).2.host.2 =
        w.host.2 ++ w.toLive.asked h.recording (w.delivered? e) := by
    rw [hhost, hnone]
    exact (List.append_nil _).symm
  cases e with
  | operate j op =>
    refine hquiet ?_ rfl
    rcases w.step_operate_cases h.recording j op with hsame | ⟨-, -, hafter⟩
    · rw [hsame]
    · rw [hafter]
      rfl
  | beginClose j =>
    refine hquiet ?_ rfl
    rcases step_beginClose_cases h.recording hw.custody j with hsame | ⟨_, _, _, -, -, -, hafter⟩
    · rw [hsame]
    · rw [hafter]
      rfl
  | endClose j =>
    refine hquiet ?_ rfl
    rcases step_endClose_cases h.recording hw.custody j with
      hsame | ⟨-, -, _, _, _, -, -, -, hafter⟩
    · rw [hsame]
    · rw [hafter]
      rfl
  | emit worker p points =>
    exact Live.calls_emit (l := w.toLive) hreturns
      (fun k hk => hw.clear (e := .emit worker p points) hk) (.worker worker)
  | dispatch k =>
    exact Live.calls_dispatch (l := w.toLive) hreturns
      fun points hk => hw.clear (e := .dispatch k) hk
  | wake j =>
    cases hsource : (w.relay.session j).source? with
    | none =>
      refine hquiet ?_ (by simp [delivered?, arrived?, injected?, hsource])
      unfold World.step
      dsimp only
      rw [hsource]
    | some source =>
      have hframe := delivered?_wake hsource
      unfold World.step
      dsimp only
      rw [hsource]
      exact Live.calls_wake (l := w.toLive) hreturns hframe fun k points hk => hw.clear hk
  | _ => exact hquiet rfl rfl

end World

/-! ### The part of a session in a run -/

/-- The number of a channel among those of the session at place `i`. -/
def Relay.rank (i k : Nat) (w : Relay) : Nat := (w.channels.take k).countP (·.session = i)

/-- The event as it is when the session at place `i` is alone: channels are numbered without those
    of others. -/
def Event.alone (i : Nat) (w : Relay) : Event → Event
  | .dispatch k => .dispatch (w.rank i k)
  | e => e

/-- One step of a run that concerns a session. -/
structure Deed where
  /-- The event, as it is when the session is alone. -/
  event : Event
  response : Response
  calls : List Call

/-- The part of a run that concerns the session at place `i`. -/
def World.part (h : Handler σ) (owner : Nat → Nat) (i : Nat) :
    List Event → World (σ × List Call) → List Deed
  | [], _ => []
  | e :: es, w =>
    let rest := part h owner i es (w.step h.recording e).2
    if e.concerns owner i w then
      { event := e.alone i w.relay, response := (w.step h.recording e).1, calls := w.asked h e } ::
        rest
    else rest

/-! ### Channels of a session -/

namespace Shift

variable {reaches : Nat → Nat → Prop} {st st' : Standing} {i : Nat} {t t' : Session}

/-- **What a step does to the channels of a session.**  The session gets a channel, and holds a
    camera by it; or it gets none, and holds nothing new. -/
theorem news (h : Shift reaches st st') (hcustody : Custody st) (ht : st.sessions[i]? = some t)
    (ht' : st'.sessions[i]? = some t') :
    (t.camera = none ∧ ∃ x : Wiring, x.session = i ∧ st'.channels = st.channels ++ [x] ∧
        ∃ o, t'.camera = some o ∧ o.channel = st.channels.length) ∨
      ((st'.channels = st.channels ∨
          ∃ x : Wiring, x.session ≠ i ∧ st'.channels = st.channels ++ [x]) ∧
        ∀ o, t'.camera = some o → t.camera = some o) := by
  have hheld (hsame : st'.channels = st.channels) (o : OpenCamera) (ho : t'.camera = some o) :
      t.camera = some o := by
    rcases h.camera_before ht' ho with ⟨u, hu, hu'⟩ | ⟨-, -, x, hnew, -⟩
    · obtain rfl := Option.some.inj (ht.symm.trans hu)
      exact hu'
    · rw [hsame] at hnew
      exact absurd hnew (by simp)
  cases h with
  | opened j p s c rate x reach session closed found quiet serves =>
    by_cases hj : j = i
    · subst hj
      obtain rfl : s = t := Option.some.inj (session.symm.trans ht)
      obtain rfl := Option.some.inj (ht'.symm.trans (getElem?_set_of_some session))
      exact .inl ⟨(hcustody.closed j s session).mp closed, x, serves.session, rfl, _, rfl, rfl⟩
    · -- Another session has opened a camera.
      obtain rfl : t = t' :=
        Option.some.inj (ht.symm.trans ((List.getElem?_set_ne hj).symm.trans ht'))
      refine .inr ⟨.inr ⟨x, ?_, rfl⟩, fun o ho => ho⟩
      rw [serves.session]
      exact hj
  | _ => exact .inr ⟨.inl rfl, hheld rfl⟩

/-- A new channel belongs to the session whose opening the step is. -/
theorem opener (h : Shift reaches st st') {x : Wiring} (hnew : st'.channels = st.channels ++ [x]) :
    ∃ p, reaches x.session p := by
  cases h with
  | opened j p s c rate y reach session closed found quiet serves =>
    have hxy := List.singleton_inj.mp (List.append_cancel_left hnew)
    rw [← hxy, serves.session]
    exact ⟨p, reach⟩
  | _ => exact absurd hnew (by simp [Standing.update])

end Shift

namespace Standing

variable {st st' : Standing} {i : Nat}

/-- The number of a channel among those of the session at place `i`. -/
def rank (i k : Nat) (st : Standing) : Nat := (st.channels.take k).countP (·.session = i)

/-- How many channels the session has had, and the number of the one by which it holds a camera. -/
def numbering (i : Nat) (st : Standing) : Nat × Option Nat :=
  (st.rank i st.channels.length,
    (st.sessions[i]?.bind Session.camera).map fun o => st.rank i o.channel)

/-- The numbers once a step has been taken: the session held a camera before, or holds one after. -/
def renumber (before after : Bool) (n : Nat × Option Nat) : Nat × Option Nat :=
  if after then if before then n else (n.1 + 1, some n.1) else (n.1, none)

/-- One more channel changes no number of the others. -/
theorem rank_append {x : Wiring} (hnew : st'.channels = st.channels ++ [x]) {k : Nat}
    (hk : k ≤ st.channels.length) : st'.rank i k = st.rank i k := by
  unfold rank
  rw [hnew, List.take_append_of_le_length hk]

/-- One channel more counts for its own session. -/
theorem rank_length_append {x : Wiring} (hnew : st'.channels = st.channels ++ [x]) :
    st'.rank i st'.channels.length =
      st.rank i st.channels.length + if x.session = i then 1 else 0 := by
  unfold rank
  rw [hnew, List.take_length, List.take_length, List.countP_append, List.countP_singleton]
  simp

/-- Without other sessions, channels keep their numbers. -/
theorem rank_of_sole (hsole : ∀ x ∈ st.channels, x.session = i) {k : Nat}
    (hk : k ≤ st.channels.length) : st.rank i k = k := by
  unfold rank
  rw [List.countP_eq_length.mpr, List.length_take, Nat.min_eq_left hk]
  intro x hx
  simpa using hsole x (List.mem_of_mem_take hx)

end Standing

/-- **A step changes the numbers of a session as far as the session sees the step.** -/
theorem Shift.numbering_eq {reaches : Nat → Nat → Prop} {st st' : Standing} {i : Nat}
    {t t' : Session} (h : Shift reaches st st') (hcustody : Custody st)
    (ht : st.sessions[i]? = some t) (ht' : st'.sessions[i]? = some t') :
    st'.numbering i =
      Standing.renumber t.camera.isSome t'.camera.isSome (st.numbering i) := by
  unfold Standing.numbering Standing.renumber
  rw [ht, ht', Option.bind_some, Option.bind_some]
  rcases h.news hcustody ht ht' with
    ⟨hnone, x, hx, hnew, o, ho, hchannel⟩ | ⟨hchannels, hheld⟩
  · -- A channel more for this session: its number is the next one.
    have hrank := Standing.rank_append (i := i) hnew (Nat.le_refl _)
    have htotal := Standing.rank_length_append (i := i) hnew
    rw [if_pos hx] at htotal
    rw [hnone, ho, htotal, Option.map_some, hchannel, hrank]
    rfl
  · -- Otherwise its channels are the same, and so is their numbering.
    have htotal : st'.rank i st'.channels.length = st.rank i st.channels.length := by
      rcases hchannels with hsame | ⟨x, hx, hnew⟩
      · unfold Standing.rank
        rw [hsame]
      · rw [Standing.rank_length_append hnew, if_neg hx, Nat.add_zero]
    rw [htotal]
    cases ho' : t'.camera with
    | none => rfl
    | some o =>
      have ho := hheld o ho'
      obtain ⟨y, hy, -⟩ := hcustody.wired i t o ht ho
      have hk := (List.getElem?_eq_some_iff.mp hy).1
      rw [ho, Option.map_some]
      have hrank : st'.rank i o.channel = st.rank i o.channel := by
        rcases hchannels with hsame | ⟨x, -, hnew⟩
        · unfold Standing.rank
          rw [hsame]
        · exact Standing.rank_append hnew (Nat.le_of_lt hk)
      rw [hrank]
      rfl

/-- The place of a channel among those of its session can be told from what stands. -/
theorem Relay.rank_standing (closing : List Nat) (i k : Nat) (w : Relay) :
    (w.standing closing).rank i k = w.rank i k := by
  unfold Standing.rank rank standing
  rw [← List.map_take, List.countP_map]
  rfl

namespace World

variable {h : Handler σ} {w v : World (σ × List Call)} {owner : Nat → Nat}
  {profiles : List CameraProfile} {i : Nat} {seen seen' : List Seen} {e : Event}

/-- Whether a session holds a camera can be told from its share. -/
theorem isSome_of_share (hshare : v.share owner i seen = w.share owner i seen') :
    (v.relay.session i).camera.isSome = (w.relay.session i).camera.isSome := by
  have hcamera := congrArg (fun S => S.session.camera.isSome) hshare
  simpa [World.share, Relay.share, Session.gist] using hcamera

/-- A step changes the numbers of a session as far as its share shows. -/
theorem Settled.numbering_step (hw : w.Settled owner profiles) (hi : i < w.relay.sessions.length)
    (h : Handler (σ × List Call)) (e : Event) :
    (w.step h e).2.standing.numbering i =
      Standing.renumber (w.relay.session i).camera.isSome
        ((w.step h e).2.relay.session i).camera.isSome (w.standing.numbering i) := by
  have hshift := w.step_shift h e hw.custody
  have hs := List.getElem?_eq_getElem hi
  have ht : w.standing.sessions[i]? = some _ := Relay.session_standing hs
  obtain ⟨t', ht', -⟩ := hshift.session_after ht
  rw [hshift.numbering_eq hw.custody ht ht']
  obtain ⟨s', hs', rfl⟩ := Option.map_eq_some_iff.mp ((List.getElem?_map).symm.trans ht')
  rw [Relay.session_eq hs, Relay.session_eq hs']
  simp [Session.standing]

/-- A session that holds nothing has no number to lose. -/
theorem renumber_self {s : Session} (hs : w.relay.sessions[i]? = some s) :
    Standing.renumber s.camera.isSome s.camera.isSome (w.standing.numbering i) =
      w.standing.numbering i := by
  have ht : w.standing.sessions[i]? = some s.standing := Relay.session_standing hs
  unfold Standing.renumber Standing.numbering
  rw [ht, Option.bind_some]
  unfold Session.standing
  cases s.camera <;> rfl

end World

/-- Alone, a step does the same to the session. -/
theorem Share.step_alone (profiles : List CameraProfile) (answer : List Seen → Seen → Reply)
    (i : Nat) (e : Event) (w : Relay) (S : Share) :
    S.step profiles answer i (e.alone i w) = S.step profiles answer i e := by
  cases e <;> rfl

/-! ### Two worlds with the same share -/

/-- The session at place `i`, whose handler has seen the deliveries `seen`, has the same share of
    the worlds `w` and `v`; in `v` no other session ever had a camera. -/
structure Abreast (owner : Nat → Nat) (profiles : List CameraProfile) (i : Nat) (seen : List Seen)
    (w v : World (σ × List Call)) : Prop where
  among : w.Settled owner profiles
  alone : v.Settled owner profiles
  sole : ∀ x ∈ v.standing.channels, x.session = i
  present : i < w.relay.sessions.length
  present' : i < v.relay.sessions.length
  share : v.share owner i seen = w.share owner i seen
  numbering : v.standing.numbering i = w.standing.numbering i

namespace Abreast

variable {h : Handler σ} {w v : World (σ × List Call)} {owner : Nat → Nat}
  {profiles : List CameraProfile} {i : Nat} {seen : List Seen} {e : Event}
  {answer : List Seen → Seen → Reply}

/-- The session is the same but for moments and identities. -/
theorem gist (hwv : Abreast owner profiles i seen w v) :
    (v.relay.session i).gist = (w.relay.session i).gist := congrArg Share.session hwv.share

/-- **A step that does not concern the session** is not taken where the session is alone. -/
theorem step_other (hwv : Abreast owner profiles i seen w v) (hreturns : h.Returns)
    (hattach : ∀ r, e ≠ .disableAttach r true)
    (hown : ∀ j p, e.Reaches w.relay j p → owner p = j) (hdisjoint : e.disjoint w = true)
    (hconcerns : e.concerns owner i w = false) :
    Abreast owner profiles i seen (w.step h.recording e).2 v := by
  have hs := List.getElem?_eq_getElem hwv.present
  have hunshared : (w.step h.recording e).2.share owner i seen = w.share owner i seen :=
    hwv.among.step_unshared hreturns.recording hs hconcerns
  refine ⟨hwv.among.step hreturns.recording hattach hown hdisjoint, hwv.alone, hwv.sole, ?_,
    hwv.present', hwv.share.trans hunshared.symm, ?_⟩
  · rw [World.length_sessions_step h.recording hwv.among.custody]
    exact hwv.present
  · rw [hwv.among.numbering_step hwv.present, World.isSome_of_share hunshared, hwv.numbering,
      Relay.session_eq hs, World.renumber_self hs]

/-! #### The step where the session is alone -/

/-- Where the session is alone, nobody else holds a camera. -/
theorem holder (hwv : Abreast owner profiles i seen w v) {j : Nat} {t : Session} {o : OpenCamera}
    (ht : v.relay.sessions[j]? = some t) (ho : t.camera = some o) : j = i := by
  obtain ⟨x, hx, hserves⟩ := hwv.alone.custody.wired j t.standing o.standing
    (Relay.session_standing ht) (Relay.held_standing ho)
  exact hserves.session.symm.trans (hwv.sole x (List.mem_of_getElem? hx))

/-- The channel of the session is known by its number. -/
theorem channel_alone (hwv : Abreast owner profiles i seen w v) {o : OpenCamera}
    (ho : (w.relay.session i).camera = some o) :
    ∃ o', (v.relay.session i).camera = some o' ∧ o'.channel = w.relay.rank i o.channel := by
  have hsome := World.isSome_of_share hwv.share
  rw [ho, Option.isSome_some, Option.isSome_iff_exists] at hsome
  obtain ⟨o', ho'⟩ := hsome
  have hs := List.getElem?_eq_getElem hwv.present
  have hs' := List.getElem?_eq_getElem hwv.present'
  have ht : w.standing.sessions[i]? = some _ := Relay.session_standing hs
  have ht' : v.standing.sessions[i]? = some _ := Relay.session_standing hs'
  rw [Relay.session_eq hs] at ho
  rw [Relay.session_eq hs'] at ho' ⊢
  refine ⟨o', ho', ?_⟩
  obtain ⟨x, hx, -⟩ := hwv.alone.custody.wired i _ _ ht' (Relay.held_standing ho')
  have hnumber := congrArg Prod.snd hwv.numbering
  unfold Standing.numbering at hnumber
  dsimp only at hnumber
  rw [ht, ht', Option.bind_some, Option.bind_some, Relay.held_standing ho,
    Relay.held_standing ho', Option.map_some, Option.map_some] at hnumber
  have hrank := Option.some.inj hnumber
  rw [Standing.rank_of_sole hwv.sole (Nat.le_of_lt (List.getElem?_eq_some_iff.mp hx).1)] at hrank
  exact hrank.trans (Relay.rank_standing _ i o.channel w.relay)

/-- What concerns a session in the whole concerns it when it is alone. -/
theorem concerns_alone (hwv : Abreast owner profiles i seen w v)
    (hconcerns : e.concerns owner i w = true) :
    (e.alone i w.relay).concerns owner i v = true := by
  cases e with
  | dispatch k =>
    obtain ⟨o, ho, hk⟩ := (Option.any_eq_true ..).mp hconcerns
    obtain rfl : o.channel = k := of_decide_eq_true hk
    obtain ⟨o', ho', hchannel⟩ := hwv.channel_alone ho
    simp [Event.alone, Event.concerns, ho', hchannel]
  | refuseBuffers r fault =>
    have hruntime : (v.relay.session i).runtime = (w.relay.session i).runtime := by
      have hgist := congrArg Session.runtime hwv.gist
      exact hgist
    simp only [Event.alone, Event.concerns, hruntime] at hconcerns ⊢
    exact hconcerns
  | _ => exact hconcerns

/-- **Alone** a session reaches no more than its own cameras. -/
theorem reaches_alone (hwv : Abreast owner profiles i seen w v)
    (hown : ∀ j p, e.Reaches w.relay j p → owner p = j) (hconcerns : e.concerns owner i w = true)
    {j p : Nat} (hreach : (e.alone i w.relay).Reaches v.relay j p) : j = i ∧ owner p = j := by
  obtain ⟨-, d, key, address, he, htarget⟩ := hreach
  have hprofiles := hwv.alone.profiles.trans hwv.among.profiles.symm
  rw [World.target?_of_profiles hprofiles d] at htarget
  cases e with
  | operate k op =>
    obtain ⟨rfl, rfl⟩ := Event.operate.inj he
    obtain rfl : k = i := of_decide_eq_true hconcerns
    exact ⟨rfl, hown k p ⟨hwv.present, d, key, address, rfl, htarget⟩⟩
  | _ => exact absurd he (by simp [Event.alone])

/-- Alone it finds a new address as free as in the whole. -/
theorem disjoint_alone (hwv : Abreast owner profiles i seen w v)
    (hconcerns : e.concerns owner i w = true) : (e.alone i w.relay).disjoint v = true := by
  cases e with
  | operate k op =>
    obtain rfl : k = i := of_decide_eq_true hconcerns
    cases op with
    | openCamera d key address =>
      refine List.all_eq_true.mpr ?_
      rintro ⟨t, j⟩ ht
      cases ho : t.camera with
      | none => simp [ho]
      | some o =>
        have hj := hwv.holder (List.mk_mem_zipIdx_iff_getElem?.mp ht) ho
        simp [hj]
    | _ => rfl
  | _ => rfl

/-- Where the session is alone, all channels are its own. -/
theorem sole_step (hwv : Abreast owner profiles i seen w v)
    (hown : ∀ j p, e.Reaches w.relay j p → owner p = j)
    (hconcerns : e.concerns owner i w = true) :
    ∀ x ∈ (v.step h.recording (e.alone i w.relay)).2.standing.channels, x.session = i := by
  intro x hx
  have hshift := v.step_shift h.recording (e.alone i w.relay) hwv.alone.custody
  rcases hshift.channels with hsame | ⟨-, -, y, -, -, hnew⟩
  · exact hwv.sole x (hsame ▸ hx)
  · rw [hnew] at hx
    rcases List.mem_append.mp hx with hx | hx
    · exact hwv.sole x hx
    · obtain rfl := List.mem_singleton.mp hx
      obtain ⟨p, hreach⟩ := hshift.opener hnew
      exact (hwv.reaches_alone hown hconcerns hreach).1

/-- **A step that concerns the session** is answered in the same way where the session is alone,
    and shows the handler the same. -/
theorem step_own (hwv : Abreast owner profiles i seen w v) (hreturns : h.Returns)
    (hattach : ∀ r, e ≠ .disableAttach r true)
    (hown : ∀ j p, e.Reaches w.relay j p → owner p = j) (hdisjoint : e.disjoint w = true)
    (hconcerns : e.concerns owner i w = true) (hanswers : Answers answer seen (w.asked h e))
    (halone : Answers answer seen (v.asked h (e.alone i w.relay))) :
    (v.step h.recording (e.alone i w.relay)).1.gist = (w.step h.recording e).1.gist ∧
      seenIn (v.asked h (e.alone i w.relay)) = seenIn (w.asked h e) ∧
      Abreast owner profiles i (seen ++ seenIn (w.asked h e)) (w.step h.recording e).2
        (v.step h.recording (e.alone i w.relay)).2 := by
  have hs := List.getElem?_eq_getElem hwv.present
  have hs' := List.getElem?_eq_getElem hwv.present'
  have hown' : ∀ j p, (e.alone i w.relay).Reaches v.relay j p → owner p = j :=
    fun j p hreach => (hwv.reaches_alone hown hconcerns hreach).2
  have hattach' : ∀ r, e.alone i w.relay ≠ .disableAttach r true := by
    intro r
    cases e with
    | dispatch k => simp [Event.alone]
    | _ => exact hattach r
  have hconcerns' := hwv.concerns_alone hconcerns
  have hsettled := hwv.among.step hreturns.recording hattach hown hdisjoint
  have hsettled' := hwv.alone.step hreturns.recording hattach' hown' (hwv.disjoint_alone hconcerns)
  have hsole := hwv.sole_step (h := h) hown hconcerns
  -- Both steps are the same step of the share.
  rw [hwv.among.asked_eq hreturns] at hanswers ⊢
  rw [hwv.alone.asked_eq hreturns] at halone ⊢
  obtain ⟨hresponse, hshare⟩ :=
    hwv.among.step_share hreturns.recording hs hown hconcerns hanswers
  obtain ⟨hresponse', hshare'⟩ :=
    hwv.alone.step_share hreturns.recording hs' hown' hconcerns' halone
  rw [hwv.share, Share.step_alone] at hresponse' hshare'
  have hsame := hshare'.trans hshare.symm
  have hseen := List.append_cancel_left (congrArg Share.seen hsame)
  rw [hseen] at hsame
  refine ⟨hresponse'.trans hresponse.symm, hseen, hsettled, hsettled', hsole, ?_, ?_, hsame, ?_⟩
  · rw [World.length_sessions_step h.recording hwv.among.custody]
    exact hwv.present
  · rw [World.length_sessions_step h.recording hwv.alone.custody]
    exact hwv.present'
  · rw [hwv.among.numbering_step hwv.present, hwv.alone.numbering_step hwv.present', hwv.numbering,
      World.isSome_of_share hsame, World.isSome_of_share hwv.share]

end Abreast

/-! ### The two runs -/

/-- Two worlds that are abreast stay abreast, whatever others do in one of them. -/
theorem Abreast.run {h : Handler σ} {w v : World (σ × List Call)} {owner : Nat → Nat}
    {profiles : List CameraProfile} {i : Nat} {seen : List Seen}
    {answer : List Seen → Seen → Reply} {events : List Event}
    (hwv : Abreast owner profiles i seen w v) (hreturns : h.Returns)
    (hattach : ∀ r, Event.disableAttach r true ∉ events)
    (hown : ∀ j d key address p, Event.operate j (.openCamera d key address) ∈ events →
      w.relay.target? d = some p → owner p = j)
    (hdisjoint : World.disjoint h.recording events w = true)
    (hanswers : Answers answer seen ((w.part h owner i events).flatMap Deed.calls))
    (halone : Answers answer seen (v.calls h ((w.part h owner i events).map Deed.event))) :
    let part := w.part h owner i events
    let alone := part.map Deed.event
    (v.responses h.recording alone).map Response.gist = part.map (·.response.gist) ∧
      seenIn (v.calls h alone) = seenIn (part.flatMap Deed.calls) ∧
      Abreast owner profiles i (seen ++ seenIn (part.flatMap Deed.calls))
        (w.run h.recording events) (v.run h.recording alone) := by
  induction events generalizing w v seen with
  | nil =>
    refine ⟨rfl, rfl, ?_⟩
    show Abreast owner profiles i (seen ++ []) w v
    rw [List.append_nil]
    exact hwv
  | cons e events ih =>
    obtain ⟨hfirst, hrest⟩ := (Bool.and_eq_true ..).mp hdisjoint
    have hattach' : ∀ r, e ≠ .disableAttach r true := fun r he => hattach r (by simp [he])
    have hreach : ∀ j p, e.Reaches w.relay j p → owner p = j := by
      rintro j p ⟨-, d, key, address, rfl, htarget⟩
      exact hown j d key address p List.mem_cons_self htarget
    have hlater : ∀ r, Event.disableAttach r true ∉ events :=
      fun r hr => hattach r (List.mem_cons_of_mem e hr)
    -- What an opening goes for does not change.
    have hstays : ∀ j d key address p, Event.operate j (.openCamera d key address) ∈ events →
        (w.step h.recording e).2.relay.target? d = some p → owner p = j := by
      intro j d key address p hmem htarget
      have hsettled := hwv.among.step hreturns.recording hattach' hreach hfirst
      rw [World.target?_of_profiles (hsettled.profiles.trans hwv.among.profiles.symm)] at htarget
      exact hown j d key address p (List.mem_cons_of_mem e hmem) htarget
    cases hconcerns : e.concerns owner i w with
    | false =>
      have hnext := hwv.step_other hreturns hattach' hreach hfirst hconcerns
      have hpart : w.part h owner i (e :: events) =
          (w.step h.recording e).2.part h owner i events := by
        rw [World.part, hconcerns]
        rfl
      rw [hpart] at hanswers halone ⊢
      exact ih hnext hlater hstays hrest hanswers halone
    | true =>
      have hpart : w.part h owner i (e :: events) =
          { event := e.alone i w.relay, response := (w.step h.recording e).1,
            calls := w.asked h e } :: (w.step h.recording e).2.part h owner i events := by
        rw [World.part, hconcerns]
        rfl
      rw [hpart] at hanswers halone ⊢
      rw [List.flatMap_cons, answers_append] at hanswers
      rw [List.map_cons, World.calls, answers_append] at halone
      obtain ⟨hresponse, hseen, hnext⟩ :=
        hwv.step_own hreturns hattach' hreach hfirst hconcerns hanswers.1 halone.1
      rw [hseen] at halone
      obtain ⟨hresponses, hcalls, hend⟩ := ih hnext hlater hstays hrest hanswers.2 halone.2
      refine ⟨?_, ?_, ?_⟩
      · exact congrArg₂ List.cons hresponse hresponses
      · rw [List.map_cons, World.calls, seenIn_append, List.flatMap_cons, seenIn_append, hseen,
          hcalls]
      · rw [List.flatMap_cons, seenIn_append, ← List.append_assoc]
        exact hend

/-- Where runs start, every session is abreast of itself. -/
theorem abreast_fresh {owner : Nat → Nat} (profiles : List CameraProfile) (runtimes : Nat)
    (sessions : List (Nat × Settings)) (host : σ) (now : Nat) {i : Nat}
    (hvalid : ∀ r settings, (r, settings) ∈ sessions →
      r < runtimes ∧ settings.validate = .ok ()) (hi : i < sessions.length) :
    Abreast owner profiles i [] (World.fresh profiles runtimes sessions (host, []) now)
      (World.fresh profiles runtimes sessions (host, []) now) where
  among := World.settled_fresh profiles runtimes sessions (host, []) now hvalid
  alone := World.settled_fresh profiles runtimes sessions (host, []) now hvalid
  sole := fun x hx => absurd hx (by simp [World.standing, Relay.standing, World.fresh])
  present := by simpa [World.fresh] using hi
  present' := by simpa [World.fresh] using hi
  share := rfl
  numbering := rfl

/-- **Sessions do not interfere.**  Let any number of sessions have cameras of their own, on any
    number of hosts that let threads attach, and let their handlers go by what they have seen of a
    session.  Whatever the others do, a session comes out as if only the steps that concern it had
    been taken: each of them is answered in the same way, the handler sees the same deliveries, and
    the session ends in the same state, with the same counts and as many timing samples. -/
theorem session_independence (profiles : List CameraProfile) (runtimes : Nat)
    (sessions : List (Nat × Settings)) (host : σ) (now : Nat) (h : Handler σ) (events : List Event)
    (owner : Nat → Nat) (i : Nat) (answer : List Seen → Seen → Reply) (hreturns : h.Returns)
    (hvalid : ∀ r settings, (r, settings) ∈ sessions → r < runtimes ∧ settings.validate = .ok ())
    (hi : i < sessions.length) (hattach : ∀ r, Event.disableAttach r true ∉ events)
    (hown : ∀ j d key address p, Event.operate j (.openCamera d key address) ∈ events →
      (World.fresh profiles runtimes sessions host now).relay.target? d = some p → owner p = j) :
    let start := World.fresh profiles runtimes sessions (host, []) now
    let part := start.part h owner i events
    let alone := part.map Deed.event
    World.disjoint h.recording events start = true →
      Answers answer [] (part.flatMap Deed.calls) → Answers answer [] (start.calls h alone) →
        (start.responses h.recording alone).map Response.gist = part.map (·.response.gist) ∧
          seenIn (start.calls h alone) = seenIn (part.flatMap Deed.calls) ∧
          let s := (start.run h.recording events).relay.session i
          let s' := (start.run h.recording alone).relay.session i
          s'.state = s.state ∧ s'.stats = s.stats ∧
            s'.timing.samples.length = s.timing.samples.length := by
  intro start part alone hdisjoint hanswers halone
  have hstart : Abreast owner profiles i [] start start :=
    abreast_fresh profiles runtimes sessions host now hvalid hi
  obtain ⟨hresponses, hseen, hend⟩ :=
    hstart.run hreturns hattach hown hdisjoint hanswers halone
  refine ⟨hresponses, hseen, ?_⟩
  -- The two sessions have the same gist, and the rest is read off it.
  have hgist := hend.gist
  refine ⟨?_, ?_, ?_⟩
  · have hstate := congrArg Session.state hgist
    exact hstate
  · have hstats := congrArg Session.stats hgist
    exact hstats
  · have hsamples := congrArg (fun s => s.timing.samples.length) hgist
    simpa [Session.gist, TimingLog.gist] using hsamples

/-- Two sessions share a host and a worker.  The first one fails to stop, is closed with a frame in
    its hand-off and opens its camera again, by the third channel of the relay, which is its second
    one; the handler fails on every other frame. -/
theorem session_independence_reopened :
    let profiles : List CameraProfile := [{ serial := "A", fd := 3 }, { serial := "B", fd := 4 }]
    let sessions : List (Nat × Settings) :=
      [(0, { maxPoints := 2, delivery := .queued, overflowPolicy := .truncate }),
        (0, { maxPoints := 1, delivery := .synchronous })]
    let h : Handler Nat := fun _ d n =>
      { reply := if d.sequence % 2 = 1 then .failed "odd" else .accepted
        host := n + 1
        elapsed := 5 }
    let points : List Point := [⟨1, 2, 3, 0, 0, 0⟩, ⟨4, 5, 6, 0, 0, 0⟩, ⟨7, 8, 9, 0, 0, 0⟩]
    let events : List Event :=
      [.operate 1 (.openCamera ⟨4⟩ 5 96), .operate 0 (.openCamera ⟨3⟩ 5 64),
        .operate 1 (.start true), .operate 0 (.start true), .emit "W" 0 points,
        .emit "W" 1 [⟨1, 2, 3, 0, 0, 0⟩], .emit "W" 1 points, .fail 0 .stopCapture .deviceIsBusy,
        .emit "V" 0 [], .dispatch 1, .operate 0 .stop, .operate 1 .stop, .beginClose 0, .dispatch 1,
        .endClose 0, .clearFaults 0, .operate 1 (.start false),
        .operate 0 (.openCamera ⟨3⟩ 5 64), .operate 0 (.start true), .emit "W" 0 points,
        .emit "W" 1 [], .dispatch 2, .operate 0 .stop]
    let start := World.fresh profiles 1 sessions (0, []) 0
    let part := start.part h id 0 events
    let alone := part.map Deed.event
    alone =
        [.operate 0 (.openCamera ⟨3⟩ 5 64), .operate 0 (.start true), .emit "W" 0 points,
          .fail 0 .stopCapture .deviceIsBusy, .emit "V" 0 [], .dispatch 0, .operate 0 .stop,
          .beginClose 0, .dispatch 0, .endClose 0, .clearFaults 0,
          .operate 0 (.openCamera ⟨3⟩ 5 64), .operate 0 (.start true), .emit "W" 0 points,
          .dispatch 1, .operate 0 .stop] ∧
      (start.responses h.recording alone).map Response.gist = part.map (·.response.gist) ∧
      seenIn (start.calls h alone) = seenIn (part.flatMap Deed.calls) ∧
      ((start.run h.recording alone).relay.session 0).stats =
        { delivered := 2, handlerFailures := 1, truncatedFrames := 2 } := by
  intro profiles sessions h points events start part alone
  have hreturns : h.Returns := by
    intro r d n reason
    show (if d.sequence % 2 = 1 then Reply.failed "odd" else .accepted) ≠ .aborted reason
    split <;> simp
  have hown : ∀ j d key address p, Event.operate j (.openCamera d key address) ∈ events →
      (World.fresh profiles 1 sessions 0 0).relay.target? d = some p → id p = j := by
    intro j d key address p hmem htarget
    simp only [events, List.mem_cons, Event.operate.injEq, Operation.openCamera.injEq,
      List.not_mem_nil, or_false, reduceCtorEq, and_false, false_or] at hmem
    have hA : (World.fresh profiles 1 sessions 0 0).relay.target? ⟨3⟩ = some 0 := by decide
    have hB : (World.fresh profiles 1 sessions 0 0).relay.target? ⟨4⟩ = some 1 := by decide
    rcases hmem with ⟨rfl, rfl, -⟩ | ⟨rfl, rfl, -⟩ | ⟨rfl, rfl, -⟩
    · exact (Option.some.inj (htarget.symm.trans hB))
    · exact (Option.some.inj (htarget.symm.trans hA))
    · exact (Option.some.inj (htarget.symm.trans hA))
  have hvalid : ∀ r settings, (r, settings) ∈ sessions → r < 1 ∧ settings.validate = .ok () := by
    intro r settings hmem
    simp only [sessions, List.mem_cons, List.not_mem_nil, or_false, Prod.mk.injEq] at hmem
    rcases hmem with ⟨rfl, rfl⟩ | ⟨rfl, rfl⟩ <;> exact ⟨by decide, rfl⟩
  have hindependent := session_independence profiles 1 sessions 0 0 h events id 0
    (fun _ d => if d.2.2 % 2 = 1 then .failed "odd" else .accepted) hreturns hvalid (by decide)
    (by simp [events]) hown (by decide +kernel) (by decide +kernel) (by decide +kernel)
  exact ⟨by decide +kernel, hindependent.1, hindependent.2.1, by decide +kernel⟩

end DepthRelay
