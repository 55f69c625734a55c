import DepthRelay.Proofs.Share

namespace DepthRelay

/-!
# Deliveries in a share

What a delivery does to the share of the session that it is for, and that it does nothing to the
share of another session.

* `Call`, `Answers` — what a handler is asked and replies, and that it goes by what it has seen.
* `Live.asked` — the call that comes with a delivery.
* `Live.deliver_share`, `Live.emit_share`, `Live.dispatch_share`, `Live.wake_share` — the threads
  that deliver, for the session itself.
* `Live.deliver_unshared` and its like — the same threads, for others.
-/

variable {σ : Type}

/-! ### Calls of a handler -/

/-- What a handler was asked, and what it replied. -/
abbrev Call := Delivery × Reply

/-- What the handler has seen in the calls. -/
def seenIn (calls : List Call) : List Seen := calls.map fun c => c.1.seen

/-- After the deliveries `seen`, the replies go by the deliveries so far as `answer` says. -/
def Answers (answer : List Seen → Seen → Reply) : List Seen → List Call → Prop
  | _, [] => True
  | seen, c :: calls => c.2 = answer seen c.1.seen ∧ Answers answer (seen ++ [c.1.seen]) calls

/-- The frame of the camera at a place that is delivered at once, with the place of the channel. -/
def Relay.direct? (p : Nat) (points : List Point) (w : Relay) : Option (Nat × List Point) :=
  ((w.listener? p).map fun k => (k, points)).filter fun (k, _) => (w.channel k).handoff.isNone

/-- A frame is delivered at once if there is no hand-off. -/
theorem Relay.direct?_of_listener {p k : Nat} {w : Relay} (hk : w.listener? p = some k)
    (points : List Point) :
    w.direct? p points = if (w.channel k).handoff.isNone then some (k, points) else none := by
  unfold direct?
  rw [hk, Option.map_some, Option.filter_some]

/-- The frame that the dispatch thread of a channel takes, with the place of the channel. -/
def Relay.queued? (k : Nat) (w : Relay) : Option (Nat × List Point) :=
  (w.takeQueued? k).map fun (points, _) => (k, points)

/-- The call that comes with the delivery of a frame on a channel, if there is one. -/
def Live.asked (h : Handler σ) (frame? : Option (Nat × List Point)) (l : Live σ) : List Call :=
  match frame? with
  | none => []
  | some (k, points) =>
    match (l.relay.channel k).publish points with
    | .error _ => []
    | .ok (d, _, _) => [(d, (h (l.relay.channel k).binding.runtime d l.host).reply)]

/-- Which channel a session holds can be told from what stands. -/
theorem Relay.held_of_standing {closing : List Nat} {v w : Relay}
    (h : v.standing closing = w.standing closing) (i : Nat) :
    (v.session i).camera.map OpenCamera.channel = (w.session i).camera.map OpenCamera.channel := by
  have hsame : (v.session i).standing = (w.session i).standing :=
    getD_of_map_eq (congrArg Standing.sessions h) i default
  have hstanding (s : Session) :
      s.standing.camera.map OpenCamera.channel = s.camera.map OpenCamera.channel := by
    unfold Session.standing
    cases s.camera <;> rfl
  rw [← hstanding, hsame, hstanding]

/-- Frames change neither the host nor the camera of a session. -/
theorem Session.receive_kept (cut : Nat) (reply : Reply) (start stop : Moment) (s : Session) :
    (s.receive cut reply start stop).runtime = s.runtime ∧
      (s.receive cut reply start stop).camera = s.camera := by
  cases reply <;> exact ⟨rfl, rfl⟩

namespace Relay.Poised

variable {w : Relay} {i : Nat} {own : Nat → Bool} {closing : Bool} {seen : List Seen} {s : Session}
  {profiles : List CameraProfile}

/-- The share hears of frames of its camera while it captures and is not being closed. -/
theorem hears_share (hw : w.Poised profiles i own closing s) (p : Nat) :
    (w.share i own closing seen).hears p = true ↔
      closing = false ∧ s.state = .capturing ∧ s.place? = some p := by
  have hplace : s.gist.place? = s.place? := by
    unfold Session.place? Session.gist
    cases s.camera <;> rfl
  unfold Share.hears
  rw [session_share hw.present, hplace, show s.gist.state = s.state from rfl]
  simp [share, and_assoc]

variable (seen) in
/-- Frames of a camera of the session are for the session, as long as it captures. -/
theorem listener?_eq (hw : w.Poised profiles i own closing s) {p : Nat} (hown : own p = true) :
    w.listener? p =
      if (w.share i own closing seen).hears p then s.camera.map OpenCamera.channel else none := by
  by_cases hhears : (w.share i own closing seen).hears p = true
  · obtain ⟨rfl, hstate, hplace⟩ := (hw.hears_share p).mp hhears
    obtain ⟨o, ho, rfl⟩ := Option.map_eq_some_iff.mp hplace
    obtain ⟨-, c, x, he⟩ := hw.engaged o ho
    rw [if_pos hhears, ho]
    exact listener?_eq_some.mpr ⟨c, he.found, (he.following rfl).mpr hstate, he.listener⟩
  · rw [if_neg hhears]
    cases hk : w.listener? p with
    | none => rfl
    | some k =>
      -- Whoever listens is the session itself, which then captures.
      obtain ⟨c, hc, hcapturing, hlistener⟩ := listener?_eq_some.mp hk
      have hplace := hw.heard p c hown hc (by simp [hlistener])
      obtain ⟨o, ho, rfl⟩ := Option.map_eq_some_iff.mp hplace
      obtain ⟨-, d, x, he⟩ := hw.engaged o ho
      obtain rfl : c = d := Option.some.inj (hc.symm.trans he.found)
      have hopen : closing = false := by
        cases closing with
        | false => rfl
        | true => exact absurd (hlistener.symm.trans he.listener) (by simp)
      exact absurd
        ((hw.hears_share _).mpr ⟨hopen, (he.following hopen).mp hcapturing, hplace⟩) hhears

end Relay.Poised

namespace Live

variable {h : Handler σ} {l : Live σ} {i : Nat} {own : Nat → Bool} {closing : Bool}
  {seen : List Seen} {s : Session} {o : OpenCamera} {x : Channel}
  {profiles : List CameraProfile} {answer : List Seen → Seen → Reply}

/-! ### For the session itself -/

variable (own closing) in
/-- **A delivery, in the share.** -/
theorem deliver_share (hreturns : h.Returns) (hs : l.relay.sessions[i]? = some s)
    (ho : s.camera = some o) (hx : l.relay.channels[o.channel]? = some x) (hbelongs : x.session = i)
    (hclear : l.relay.Clear o.channel) (t : ThreadId)
    (points : List Point)
    (hanswers : Answers answer seen (l.asked h (some (o.channel, points)))) :
    (l.deliver h t o.channel points).2.relay.share i own closing
        (seen ++ seenIn (l.asked h (some (o.channel, points)))) =
      (l.relay.share i own closing seen).deliver answer points := by
  obtain ⟨as, runtimes, hfaces, hafter⟩ := deliver_eq hreturns hclear t points
  have hchannel : l.relay.channel o.channel = x := Relay.channel_eq hx
  have hshared : (l.relay.share i own closing seen).channel = x := by
    unfold Relay.share
    rw [Relay.session_eq hs, ho]
    exact hchannel
  rw [hafter]
  unfold asked at hanswers ⊢
  unfold Share.deliver
  dsimp only at hanswers ⊢
  rw [hshared]
  rw [hchannel] at hanswers ⊢
  -- Threads, hosts and the time are not in the share.
  have hshare (now : Nat) (seen : List Seen) : ({ l.relay with
      attachments := as, runtimes := runtimes, now := now } : Relay).share i own closing seen =
      l.relay.share i own closing seen := Relay.share_of_faces rfl hfaces _ _ _
  cases hpublish : x.publish points with
  | error e =>
    dsimp only [Live.withRelay]
    specialize hshare l.relay.now
    have hbelongs : (Relay.channel o.channel
        { l.relay with attachments := as, runtimes := runtimes }).session = i := by
      rw [← hbelongs, ← hchannel]
      rfl
    generalize hv : ({ l.relay with attachments := as, runtimes := runtimes } : Relay) = v
      at hshare hbelongs ⊢
    have hs : v.sessions[i]? = some s := hv ▸ hs
    show (v.count o.channel Stats.noteOverflow).share i own closing (seen ++ []) = _
    unfold Relay.count
    rw [List.append_nil, hbelongs, Relay.share_modifySession
      (g := fun s => { s with stats := s.stats.noteOverflow }) hs (by rfl) (by rfl) (by rfl), hshare]
    rfl
  | ok result =>
    obtain ⟨d, written, y⟩ := result
    rw [hpublish] at hanswers
    obtain ⟨hreply, -⟩ := hanswers
    dsimp only at hreply ⊢
    rw [hbelongs, hreply]
    specialize hshare (l.relay.now + (h x.binding.runtime d l.host).elapsed)
    generalize (l.relay.now + (h x.binding.runtime d l.host).elapsed) = now at hshare ⊢
    generalize hv : ({ l.relay with attachments := as, runtimes := runtimes, now := now } : Relay) =
      v at hshare ⊢
    have hs : v.sessions[i]? = some s := hv ▸ hs
    have hk : o.channel < v.channels.length := hv ▸ (List.getElem?_eq_some_iff.mp hx).1
    have hheld : (v.session i).camera.map OpenCamera.channel = some o.channel := by
      rw [Relay.session_eq hs, ho]
      rfl
    show (Relay.modifySession i _ (v.modifyChannel o.channel fun _ => y)).share i own closing
      (seen ++ [d.seen]) = _
    obtain ⟨hruntime, hcamera⟩ := s.receive_kept written.truncated (answer seen d.seen)
      l.relay.now now
    rw [Relay.share_modifySession (w := v.modifyChannel o.channel fun _ => y)
      (g := fun s => s.receive written.truncated (answer seen d.seen) 0 0) hs
      (Session.gist_receive _ _ _ _ s) hruntime (by rw [hcamera]),
      Relay.share_modifyChannel hheld hk, hshare]
    rfl

variable (own closing seen) in
/-- A frame is left in the hand-off, or dropped. -/
theorem submit_share {w : Relay} (hs : w.sessions[i]? = some s) (ho : s.camera = some o)
    (hx : w.channels[o.channel]? = some x) (hbelongs : x.session = i) (q : Handoff)
    (points : List Point) :
    (w.submit o.channel q points).share i own closing seen =
      match q.submit points with
      | (.queued, q) => (w.share i own closing seen).setHandoff (some q)
      | (.dropped, q) =>
        ((w.share i own closing seen).setHandoff (some q)).count Stats.noteBackpressure := by
  have hk := (List.getElem?_eq_some_iff.mp hx).1
  have hheld : (w.session i).camera.map OpenCamera.channel = some o.channel := by
    rw [Relay.session_eq hs, ho]
    rfl
  have hleft (q : Handoff) :
      (w.modifyChannel o.channel fun x => { x with handoff := some q }).share i own closing seen =
        (w.share i own closing seen).setHandoff (some q) := Relay.share_modifyChannel hheld hk _
  unfold Relay.submit
  cases q.submit points with
  | mk status q' =>
    -- The hand-off keeps the frame, or the session counts it as dropped.
    cases status with
    | queued => exact hleft q'
    | dropped =>
      have hsession : ((w.modifyChannel o.channel fun x =>
          { x with handoff := some q' }).channel o.channel).session = i := by
        rw [Relay.channel_modifyChannel _ _ _ hk, Relay.channel_eq hx]
        exact hbelongs
      dsimp only
      unfold Relay.count
      rw [hsession, Relay.share_modifySession
        (w := w.modifyChannel o.channel fun x => { x with handoff := some q' })
        (g := fun s => { s with stats := s.stats.noteBackpressure }) hs (by rfl) (by rfl) (by rfl),
        hleft]
      rfl

/-- A frame of a camera of the session, in the share. -/
theorem emit_share (hreturns : h.Returns) (hw : l.relay.Poised profiles i own closing s) {p : Nat}
    (hown : own p = true) (t : ThreadId) (points : List Point)
    (hclear : ∀ k, l.relay.direct? p points = some (k, points) → l.relay.Clear k)
    (hanswers : Answers answer seen (l.asked h (l.relay.direct? p points))) :
    (l.emit h t p points).1 = .ok ((l.relay.share i own closing seen).hears p) ∧
      (l.emit h t p points).2.relay.share i own closing
          (seen ++ seenIn (l.asked h (l.relay.direct? p points))) =
        (l.relay.share i own closing seen).emit answer p points := by
  have hlistener := hw.listener?_eq seen hown
  rw [emit_eq hreturns]
  unfold Share.emit
  cases hhears : (l.relay.share i own closing seen).hears p with
  | false =>
    rw [hhears, if_neg (by simp)] at hlistener
    have hdirect : l.relay.direct? p points = none := by simp [Relay.direct?, hlistener]
    rw [hdirect, hlistener, if_neg (by simp)]
    refine ⟨rfl, ?_⟩
    show l.relay.share i own closing (seen ++ []) = _
    rw [List.append_nil]
  | true =>
    obtain ⟨-, -, hplace⟩ := (hw.hears_share p).mp hhears
    obtain ⟨o, ho, -⟩ := Option.map_eq_some_iff.mp hplace
    obtain ⟨-, c, x, he⟩ := hw.engaged o ho
    have hchannel : l.relay.channel o.channel = x := Relay.channel_eq he.wired
    have hshared : (l.relay.share i own closing seen).channel = x := by
      unfold Relay.share
      rw [Relay.session_eq hw.present, ho]
      exact hchannel
    rw [hhears, if_pos rfl, ho, Option.map_some] at hlistener
    have hdirect := Relay.direct?_of_listener hlistener points
    rw [hlistener, if_pos rfl, hshared]
    refine ⟨rfl, ?_⟩
    -- The camera counts the frame, which is not in the share.
    have hnoted (seen : List Seen) : (l.relay.noteEmitted p).share i own closing seen =
        l.relay.share i own closing seen := by
      refine Relay.share_congr rfl rfl ?_ rfl
      exact map_modify_of_eq fun _ _ => rfl
    dsimp only
    rw [hchannel] at hdirect ⊢
    cases hq : x.handoff with
    | none =>
      rw [hq, Option.isNone_none, if_pos rfl] at hdirect
      rw [hdirect] at hclear hanswers ⊢
      have hdeliver := deliver_share own closing
        (l := l.withRelay (l.relay.noteEmitted p)) hreturns hw.present ho he.wired he.belongs
        (hclear o.channel rfl) t points hanswers
      exact hdeliver.trans (congrArg (Share.deliver answer points) (hnoted seen))
    | some q =>
      rw [hq, Option.isNone_some, if_neg (by simp)] at hdirect
      rw [hdirect]
      have hsubmit := submit_share own closing seen
        (w := l.relay.noteEmitted p) hw.present ho he.wired he.belongs q points
      rw [hnoted] at hsubmit
      show ((l.relay.noteEmitted p).submit o.channel q points).share i own closing (seen ++ []) = _
      rw [List.append_nil]
      exact hsubmit

/-- A frame is asked about in the same way, wherever the hand-off is. -/
theorem asked_setHandoff {w : Relay} {k : Nat} (hk : k < l.relay.channels.length)
    (q : Option Handoff) (points : List Point)
    (hw : w = l.relay.modifyChannel k fun x => { x with handoff := q }) :
    (l.withRelay w).asked h (some (k, points)) = l.asked h (some (k, points)) := by
  subst hw
  unfold asked Channel.publish
  dsimp only [withRelay]
  rw [Relay.channel_modifyChannel _ _ _ hk]
  dsimp only
  cases (l.relay.channel k).buffer.write points (l.relay.channel k).policy <;> rfl

/-- **The dispatch thread of a session, in the share.** -/
theorem dispatch_share (hreturns : h.Returns) (hs : l.relay.sessions[i]? = some s)
    (ho : s.camera = some o) (hx : l.relay.channels[o.channel]? = some x) (hbelongs : x.session = i)
    (hclear : ∀ points, l.relay.queued? o.channel = some (o.channel, points) →
      l.relay.Clear o.channel)
    (hanswers : Answers answer seen (l.asked h (l.relay.queued? o.channel))) :
    (l.dispatch h o.channel).relay.share i own closing
        (seen ++ seenIn (l.asked h (l.relay.queued? o.channel))) =
      (l.relay.share i own closing seen).dispatch answer := by
  have hchannel : l.relay.channel o.channel = x := Relay.channel_eq hx
  have hshared : (l.relay.share i own closing seen).channel = x := by
    unfold Relay.share
    rw [Relay.session_eq hs, ho]
    exact hchannel
  have hk := (List.getElem?_eq_some_iff.mp hx).1
  rw [dispatch_eq hreturns]
  unfold Relay.queued? Relay.takeQueued? at *
  unfold Share.dispatch
  rw [hshared]
  rw [hchannel] at hclear hanswers ⊢
  cases htake : x.handoff.bind Handoff.take? with
  | none =>
    show l.relay.share i own closing (seen ++ []) = _
    rw [List.append_nil]
  | some taken =>
    obtain ⟨points, q⟩ := taken
    rw [htake] at hclear hanswers
    dsimp only [Option.map_some] at hclear hanswers ⊢
    have htaken : l.relay.takeQueued? o.channel = some (points,
        l.relay.modifyChannel o.channel fun c => { c with handoff := some q }) := by
      unfold Relay.takeQueued?
      rw [hchannel, htake]
      rfl
    have hclear' := (hclear points rfl).takeQueued? htaken
    have hasked := asked_setHandoff (h := h) hk (some q) points rfl
    have hheld : (l.relay.session i).camera.map OpenCamera.channel = some o.channel := by
      rw [Relay.session_eq hs, ho]
      rfl
    have hset : (l.relay.modifyChannel o.channel fun c => { c with handoff := some q }).share i own
        closing seen = (l.relay.share i own closing seen).setHandoff (some q) :=
      Relay.share_modifyChannel hheld hk _
    have hx' : (l.relay.modifyChannel o.channel
        fun c => { c with handoff := some q }).channels[o.channel]? =
        some { x with handoff := some q } := getElem?_modify_of_some hx
    have hs' : (l.relay.modifyChannel o.channel
        fun c => { c with handoff := some q }).sessions[i]? = some s := hs
    generalize l.relay.modifyChannel o.channel (fun c => { c with handoff := some q }) = v
      at hclear' hasked hset hx' hs' ⊢
    rw [← hasked] at hanswers ⊢
    have hdeliver := deliver_share own closing (l := l.withRelay v) hreturns
      hs' ho hx' hbelongs hclear' (.dispatch o.channel) points hanswers
    have hstanding := standing_deliver [] h (l.withRelay v) (.dispatch o.channel) o.channel points
    generalize ((l.withRelay v).deliver h (.dispatch o.channel) o.channel points).2 = u
      at hdeliver hstanding ⊢
    -- The session still holds the channel, whose hand-off gets its slot back.
    have hheld' : (u.relay.session i).camera.map OpenCamera.channel = some o.channel := by
      rw [Relay.held_of_standing hstanding]
      show (v.session i).camera.map OpenCamera.channel = some o.channel
      rw [Relay.session_eq hs', ho]
      rfl
    have hk' : o.channel < u.relay.channels.length := by
      rw [Relay.length_channels_of_standing hstanding]
      exact (List.getElem?_eq_some_iff.mp hx').1
    show (u.relay.modifyChannel o.channel _).share i own closing _ = _
    rw [Relay.share_modifyChannel hheld' hk', hdeliver]
    show Share.setHandoff _ _ = _
    rw [show (l.withRelay v).relay = v from rfl, hset]

/-! #### Frame sources -/

end Live

/-- A source does the same whatever time it is. -/
theorem Source.wake_gist (source : Source) :
    source.gist.wake.map (fun (phase, next) => (phase, next.gist)) =
      source.wake.map fun (phase, next) => (phase, next.gist) := by
  unfold wake
  rw [show source.gist.limit = source.limit from rfl,
    show source.gist.produced = source.produced from rfl]
  split <;> rfl

namespace Relay

variable {v w : Relay} {i : Nat} {own : Nat → Bool} {closing : Bool} {seen : List Seen}
  {s : Session} {profiles : List CameraProfile} {answer : List Seen → Seen → Reply}

/-- A source that is set can be seen in the share, by its gist. -/
theorem setSource_share (hs : w.sessions[i]? = some s) (source : Option Source) :
    (w.setSource i source).share i own closing seen =
      (w.share i own closing seen).setSource (source.map Source.gist) := by
  unfold setSource
  rw [share_modifySession (g := fun s => { s with
    camera := s.camera.map fun o =>
      { o with device := { o.device with source := source.map Source.gist } } }) hs ?_ rfl ?_]
  · rfl
  · unfold Session.gist
    cases s.camera <;> rfl
  · cases s.camera <;> rfl

/-- A session that gets another frame source is still poised. -/
theorem Poised.setSource (hw : w.Poised profiles i own closing s) (source : Option Source)
    (hsessions : v.sessions = (w.setSource i source).sessions) (hcameras : v.cameras = w.cameras)
    (hchannels : v.channels = w.channels) :
    v.Poised profiles i own closing
      { s with
        camera := s.camera.map fun o => { o with device := { o.device with source } } } where
  present := by
    rw [hsessions]
    exact getElem?_modify_of_some hw.present
  profiles := by
    rw [hcameras]
    exact hw.profiles
  closed := by
    rw [Option.map_eq_none_iff]
    exact hw.closed
  engaged := by
    intro o' ho'
    obtain ⟨o, ho, rfl⟩ := Option.map_eq_some_iff.mp ho'
    obtain ⟨hown, c, x, he⟩ := hw.engaged o ho
    refine ⟨hown, c, x, ?_, ?_, he.belongs, he.initialized, he.useCase, he.mode, he.listener,
      he.following⟩
    · rw [hcameras]
      exact he.found
    · rw [hchannels]
      exact he.wired
  heard := by
    intro p c hown hc hlistener
    rw [hcameras] at hc
    rw [← hw.heard p c hown hc hlistener]
    unfold Session.place?
    cases s.camera <;> rfl

variable (seen answer) in
/-- **A frame source that wakes up, in the share**: it ends, or produces a frame of the camera. -/
theorem wakeSource_share (hw : w.Poised profiles i own closing s) {source : Source}
    (hsource : s.source? = some source) :
    (∃ v, w.wakeSource i source = (none, v) ∧
        v.share i own closing seen =
          (w.share i own closing seen).wake profiles answer source.gist) ∨
      ∃ p points next v, w.wakeSource i source = (some (p, points), v) ∧ own p = true ∧
        v.sessions = (w.setSource i (some next)).sessions ∧
        v.share i own closing seen = (w.share i own closing seen).setSource (some next.gist) ∧
        (w.share i own closing seen).wake profiles answer source.gist =
          ((w.share i own closing seen).setSource (some next.gist)).emit answer p points := by
  obtain ⟨o, ho, -⟩ := Option.bind_eq_some_iff.mp hsource
  obtain ⟨hown, c, x, he⟩ := hw.engaged o ho
  have hs := hw.present
  have hplace (now : Nat) : ((session i { w with now := now }).camera.map
      (·.device.camera)).getD 0 = o.device.camera := by
    rw [show session i { w with now := now } = s from session_eq hs, ho]
    rfl
  have hplace' : (w.share i own closing seen).session.place?.getD 0 = o.device.camera := by
    rw [Poised.session_share hs]
    simp [Session.place?, Session.gist, ho, OpenCamera.gist]
  have hprofile : profiles[o.device.camera]? = some c.profile := by
    rw [← hw.profiles]
    simp [he.found]
  -- A source that ends leaves nothing behind.
  have hended (now run : Nat) : (({ w with now := now } : Relay).endSource i run).share i own
      closing seen = (w.share i own closing seen).setSource none := by
    unfold endSource
    rw [share_exitThread]
    exact setSource_share (w := { w with now := now }) hs none
  have hgist := source.wake_gist
  unfold wakeSource Share.wake
  dsimp only
  rw [hplace, hplace', he.found, hprofile]
  cases hwake : source.wake with
  | none =>
    rw [hwake, Option.map_none, Option.map_eq_none_iff] at hgist
    rw [hgist]
    exact .inl ⟨_, rfl, hended _ _⟩
  | some produced =>
    obtain ⟨phase, next⟩ := produced
    rw [hwake, Option.map_some] at hgist
    obtain ⟨⟨phase', next'⟩, hnext, hsame⟩ := Option.map_eq_some_iff.mp hgist
    obtain ⟨rfl, hnextGist⟩ := Prod.mk.inj hsame
    rw [hnext]
    dsimp only at hnextGist ⊢
    rw [hnextGist]
    cases c.profile.syntheticPoints phase' with
    | error e => exact .inl ⟨_, rfl, hended _ _⟩
    | ok points =>
      refine .inr ⟨_, points, next, _, rfl, hown, rfl, ?_, rfl⟩
      exact setSource_share (w := { w with now := max w.now source.due }) hs (some next)

end Relay

/-- **A frame source of the session, in the share.** -/
theorem Live.wake_share {h : Handler σ} {l : Live σ} {i : Nat} {own : Nat → Bool} {closing : Bool}
    {seen : List Seen} {s : Session} {profiles : List CameraProfile}
    {answer : List Seen → Seen → Reply} (hreturns : h.Returns)
    (hw : l.relay.Poised profiles i own closing s) {source : Source}
    (hsource : s.source? = some source) {frame? : Option (Nat × List Point)}
    (hframe : frame? = (l.relay.wakeSource i source).1.bind fun (p, points) =>
      l.relay.direct? p points)
    (hclear : ∀ k points, frame? = some (k, points) → l.relay.Clear k)
    (hanswers : Answers answer seen (l.asked h frame?)) :
    (l.wake h i source).relay.share i own closing (seen ++ seenIn (l.asked h frame?)) =
      (l.relay.share i own closing seen).wake profiles answer source.gist := by
  rw [wake_eq hreturns]
  rcases Relay.wakeSource_share seen answer hw hsource with
    ⟨v, hwake, hshare⟩ | ⟨p, points, next, v, hwake, hown, hsessions, hshare, hwoken⟩
  · rw [hwake] at hframe ⊢
    subst hframe
    show v.share i own closing (seen ++ []) = _
    rw [List.append_nil, hshare]
  · rw [hwake] at hframe ⊢
    obtain ⟨-, hcameras, hchannels, hruntimes⟩ := Relay.wakeSource_some hwake
    have hpoised := hw.setSource (some next) hsessions hcameras hchannels
    -- The frame finds what it would have found before the source woke up.
    have hdirect : v.direct? p points = l.relay.direct? p points := by
      unfold Relay.direct? Relay.listener? Relay.channel
      rw [hcameras, hchannels]
    have hasked : (l.withRelay v).asked h frame? = l.asked h frame? := by
      unfold Live.asked Live.withRelay
      simp only [Relay.channel_of_channels hchannels]
    subst hframe
    dsimp only [Option.bind_some] at hclear hanswers hasked ⊢
    rw [← hdirect] at hclear hanswers hasked ⊢
    rw [← hasked] at hanswers ⊢
    obtain ⟨-, hemit⟩ := emit_share (l := l.withRelay v) hreturns hpoised hown
      (.source source.run) points
      (fun k hk => (hclear k points hk).congr hchannels hruntimes) hanswers
    rw [hwoken]
    exact hemit.trans (congrArg (Share.emit answer p points) hshare)

/-! ### For others -/

/-- The channel at place `k` is not one of the session at place `i`. -/
structure Relay.Foreign (i k : Nat) (w : Relay) : Prop where
  session : (w.channel k).session ≠ i
  held : (w.session i).camera.map OpenCamera.channel ≠ some k

/-- Whose a channel is can be told from what stands. -/
theorem Relay.Foreign.of_standing {closing : List Nat} {v w : Relay} {i k : Nat}
    (hw : w.Foreign i k) (h : v.standing closing = w.standing closing) : v.Foreign i k where
  session := by
    have hsession := congrArg Wiring.session (wiring_of_standing h k)
    exact fun heq => hw.session (hsession.symm.trans heq)
  held := by
    rw [held_of_standing h]
    exact hw.held

namespace Live

variable {h : Handler σ} {l : Live σ} {i j k : Nat} {own : Nat → Bool} {closing : Bool}
  {seen : List Seen}

variable (own closing seen) in
/-- **A delivery for another session** is not in the share. -/
theorem deliver_unshared (hreturns : h.Returns) (hforeign : l.relay.Foreign i k)
    (hclear : l.relay.Clear k) (t : ThreadId) (points : List Point) :
    (l.deliver h t k points).2.relay.share i own closing seen =
      l.relay.share i own closing seen := by
  obtain ⟨as, runtimes, hfaces, hafter⟩ := deliver_eq hreturns hclear t points
  have hshare (now : Nat) : ({ l.relay with
      attachments := as, runtimes := runtimes, now := now } : Relay).share i own closing seen =
      l.relay.share i own closing seen := Relay.share_of_faces rfl hfaces _ _ _
  rw [hafter]
  cases (l.relay.channel k).publish points with
  | error e =>
    exact (Relay.share_modifySession_of_ne hforeign.session _).trans (hshare l.relay.now)
  | ok result =>
    obtain ⟨d, written, y⟩ := result
    refine (Relay.share_modifySession_of_ne hforeign.session _).trans ?_
    refine (Relay.share_modifyChannel_of_ne ?_ _).trans (hshare _)
    exact hforeign.held

/-- A frame that is submitted to such a channel does not matter to the share. -/
theorem submit_unshared {w : Relay} (hforeign : w.Foreign i k) {q : Handoff}
    (hq : (w.channel k).handoff = some q) (points : List Point) :
    (w.submit k q points).share i own closing seen = w.share i own closing seen := by
  have hleft (q' : Handoff) : (w.modifyChannel k fun x => { x with handoff := some q' }).share i own
      closing seen = w.share i own closing seen :=
    Relay.share_modifyChannel_of_ne hforeign.held _
  unfold Relay.submit
  cases q.submit points with
  | mk status q' =>
    cases status with
    | queued => exact hleft q'
    | dropped =>
      refine (Relay.share_modifySession_of_ne ?_ _).trans (hleft q')
      have hk := (List.getElem?_eq_some_iff.mp (Relay.getElem?_of_handoff hq)).1
      rw [Relay.channel_modifyChannel _ _ _ hk]
      exact hforeign.session

/-- A frame of a camera to which others listen. -/
theorem emit_unshared (hreturns : h.Returns) {p : Nat} (points : List Point)
    (hforeign : ∀ k, l.relay.listener? p = some k → l.relay.Foreign i k)
    (hclear : ∀ k, l.relay.direct? p points = some (k, points) → l.relay.Clear k) (t : ThreadId) :
    (l.emit h t p points).2.relay.share i own closing seen = l.relay.share i own closing seen := by
  rw [emit_eq hreturns]
  cases hk : l.relay.listener? p with
  | none => rfl
  | some k =>
    have hdirect := Relay.direct?_of_listener hk points
    have hnoted : (l.relay.noteEmitted p).share i own closing seen =
        l.relay.share i own closing seen := by
      refine Relay.share_congr rfl rfl ?_ rfl
      exact map_modify_of_eq fun _ _ => rfl
    have hforeign' : (l.relay.noteEmitted p).Foreign i k :=
      ⟨(hforeign k hk).session, (hforeign k hk).held⟩
    dsimp only
    cases hq : (l.relay.channel k).handoff with
    | none =>
      rw [hq, Option.isNone_none, if_pos rfl] at hdirect
      exact (deliver_unshared own closing seen (l := l.withRelay (l.relay.noteEmitted p)) hreturns
        hforeign' (hclear k hdirect) t points).trans hnoted
    | some q => exact (submit_unshared hforeign' hq points).trans hnoted

/-- The dispatch thread of another session. -/
theorem dispatch_unshared (hreturns : h.Returns)
    (hqueued : ∀ points, l.relay.queued? k = some (k, points) →
      l.relay.Foreign i k ∧ l.relay.Clear k) :
    (l.dispatch h k).relay.share i own closing seen = l.relay.share i own closing seen := by
  rw [dispatch_eq hreturns]
  cases htake : l.relay.takeQueued? k with
  | none => rfl
  | some taken =>
    obtain ⟨points, v⟩ := taken
    obtain ⟨hforeign, hclear⟩ := hqueued points (by simp [Relay.queued?, htake])
    have hforeign' := hforeign.of_standing (Relay.standing_takeQueued? [] l.relay htake)
    have hdeliver := deliver_unshared own closing seen
      (l := l.withRelay v) hreturns hforeign' (hclear.takeQueued? htake) (.dispatch k) points
    have hstanding := standing_deliver [] h (l.withRelay v) (.dispatch k) k points
    obtain ⟨q, rest, -, -, rfl⟩ := Relay.takeQueued?_eq_some htake
    dsimp only
    refine (Relay.share_modifyChannel_of_ne (hforeign'.of_standing hstanding).held _).trans ?_
    exact hdeliver.trans (Relay.share_modifyChannel_of_ne hforeign.held _)

/-- A frame source of another session. -/
theorem wake_unshared (hreturns : h.Returns) (hj : j ≠ i) (source : Source)
    (hforeign : ∀ p points k, (l.relay.wakeSource j source).1 = some (p, points) →
      l.relay.listener? p = some k → l.relay.Foreign i k)
    (hclear : ∀ k points, (l.relay.wakeSource j source).1.bind
      (fun (p, points) => l.relay.direct? p points) = some (k, points) → l.relay.Clear k) :
    (l.wake h j source).relay.share i own closing seen = l.relay.share i own closing seen := by
  -- First the source: it belongs to another session, whether it goes on or ends.
  have hwoken : (l.relay.wakeSource j source).2.share i own closing seen =
      l.relay.share i own closing seen := by
    have hset (now : Nat) (source : Option Source) :
        (({ l.relay with now := now } : Relay).setSource j source).share i own closing seen =
          l.relay.share i own closing seen := Relay.share_modifySession_of_ne hj _
    have hended (now run : Nat) :
        (({ l.relay with now := now } : Relay).endSource j run).share i own closing seen =
          l.relay.share i own closing seen := (Relay.share_exitThread _).trans (hset now none)
    unfold Relay.wakeSource
    dsimp only
    split
    · split
      · exact hset _ _
      · exact hended _ _
    · exact hended _ _
  have hstanding := Relay.standing_wakeSource [] l.relay j source
  rw [wake_eq hreturns]
  cases hwake : l.relay.wakeSource j source with
  | mk produced v =>
    rw [hwake] at hforeign hclear hwoken hstanding
    cases produced with
    | none => exact hwoken
    | some frame =>
      obtain ⟨p, points⟩ := frame
      -- Then its frame, which finds listener and channel as they were.
      obtain ⟨-, hcameras, hchannels, hruntimes⟩ := Relay.wakeSource_some hwake
      have hlistener : v.listener? p = l.relay.listener? p :=
        Relay.listener?_of_cameras hcameras p
      have hdirect : v.direct? p points = l.relay.direct? p points := by
        unfold Relay.direct? Relay.channel
        rw [hlistener, hchannels]
      refine (emit_unshared (l := l.withRelay v) hreturns points ?_ ?_ _).trans hwoken
      · intro k hk
        exact (hforeign p points k rfl (hlistener ▸ hk)).of_standing hstanding
      · intro k hk
        exact (hclear k points (hdirect.symm.trans hk)).congr hchannels hruntimes

end Live

end DepthRelay
