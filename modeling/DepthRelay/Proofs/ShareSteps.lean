import DepthRelay.Proofs.Apart
import DepthRelay.Proofs.ShareDeliveries

namespace DepthRelay

/-!
# Steps of a world in a share

In a world of sessions with cameras of their own, a step either concerns a session, and then it is a
step of the session on its own, or it does nothing to the session's share.

* `Event.concerns` — the steps that concern a session.
* `World.Settled.poised` — such a session has its cameras for itself.
* `World.Settled.step_share`, `World.Settled.step_unshared` — steps that concern the session, and
  others.
-/

variable {σ : Type}

/-- Whether an event concerns the session at place `i`: its operations, its threads, its cameras,
    and what its host says to new buffers. -/
def Event.concerns (owner : Nat → Nat) (i : Nat) (e : Event) (w : World σ) : Bool :=
  match e with
  | .operate j _ | .beginClose j | .endClose j | .wake j => j = i
  | .emit _ p _ | .fail p _ _ | .clearFaults p => owner p = i
  | .dispatch k => (w.relay.session i).camera.any fun o => o.channel = k
  | .refuseBuffers r _ => r = (w.relay.session i).runtime
  | .disableAttach _ _ | .exitWorker _ | .pass _ => false

namespace World

/-- The share of the session at place `i`, whose cameras are those that it owns. -/
def share (owner : Nat → Nat) (i : Nat) (seen : List Seen) (w : World σ) : Share :=
  w.relay.share i (fun p => owner p = i) (w.closing.contains i) seen

variable {w : World σ} {owner : Nat → Nat} {profiles : List CameraProfile} {h : Handler σ}
  {i : Nat} {s : Session} {seen : List Seen} {answer : List Seen → Seen → Reply} {e : Event}

/-! ### Who has what for itself -/

/-- **A session that is apart from the others has its cameras for itself.** -/
theorem Settled.poised (hw : w.Settled owner profiles) (hs : w.relay.sessions[i]? = some s) :
    w.relay.Poised profiles i (fun p => owner p = i) (w.closing.contains i) s where
  present := hs
  profiles := hw.profiles
  closed := (Relay.of_custody hw.custody hs).1
  engaged := by
    intro o ho
    have hs' : w.standing.sessions[i]? = some s.standing := Relay.session_standing hs
    have ho' := Relay.held_standing ho
    have hholds : w.standing.Holds i o.device.camera := ⟨_, _, hs', ho', rfl⟩
    obtain ⟨d, hd, -⟩ := hw.custody.found i s.standing o.standing hs' ho'
    obtain ⟨hinitialized, huse, hmode⟩ := hw.attuned.configured i _ _ d hs' ho' hd
    obtain ⟨x, hx, hserves⟩ := Relay.wired_of_custody hw.custody hs' ho'
    have hfollowing (hi : i ∉ w.closing) := hw.attuned.following i _ _ d hi hs' ho' hd
    obtain ⟨c, hc, rfl⟩ := Relay.of_camera_standing hd
    refine ⟨by simpa using hw.apart.owned i _ hholds, c, x, hc, hx, hserves.session, hinitialized,
      huse, hmode, ?_, ?_⟩
    · by_cases hi : i ∈ w.closing
      · rw [if_pos (by simpa using hi)]
        cases hlistener : c.listener with
        | none => rfl
        | some k =>
          -- Nobody who is being closed listens, and nobody else holds the camera.
          obtain ⟨j, t, u, ht, hu, hp, -, hj⟩ := hw.custody.heard _ k c.standing hd hlistener
          obtain rfl : j = i := hw.attuned.sole j i o.device.camera ⟨t, u, ht, hu, hp⟩ hholds
          exact absurd hi hj
      · rw [if_neg (by simpa using hi)]
        exact (hfollowing hi).1
    · intro hopen
      have hi : i ∉ w.closing := by simpa using hopen
      exact (hfollowing hi).2
  heard := by
    intro p c hown hc hlistener
    obtain ⟨k, hk⟩ := Option.ne_none_iff_exists'.mp hlistener
    obtain ⟨j, t, u, ht, hu, rfl, -, -⟩ :=
      hw.custody.heard p k c.standing (Relay.camera_standing hc) hk
    have hj := hw.apart.owned j _ ⟨t, u, ht, hu, rfl⟩
    obtain rfl : i = j := (of_decide_eq_true hown).symm.trans hj
    obtain ⟨t', u', ht', hu', hp⟩ := Relay.holds_standing.mp ⟨t, u, ht, hu, rfl⟩
    obtain rfl : s = t' := Option.some.inj (hs.symm.trans ht')
    rw [← hp]
    simp [Session.place?, hu']

/-- Frames of a camera are for its owner. -/
theorem Settled.session_of_listener? (hw : w.Settled owner profiles) {p k : Nat}
    (hk : w.relay.listener? p = some k) : (w.relay.channel k).session = owner p := by
  obtain ⟨j, t, u, ht, hu, rfl, rfl, -⟩ := Relay.heard_of_custody hw.custody hk
  obtain ⟨x, hx, hserves⟩ := Relay.wired_of_custody hw.custody ht hu
  rw [hw.apart.owned j _ ⟨t, u, ht, hu, rfl⟩, Relay.channel_eq hx]
  exact hserves.session

/-- What a session holds belongs to it. -/
theorem Settled.session_of_held (hw : w.Settled owner profiles) {k : Nat}
    (hheld : (w.relay.session i).camera.map OpenCamera.channel = some k) :
    (w.relay.channel k).session = i := by
  obtain ⟨o, ho, rfl⟩ := Option.map_eq_some_iff.mp hheld
  cases hs : w.relay.sessions[i]? with
  | none =>
    rw [Relay.session, List.getD_eq_getElem?_getD, hs] at ho
    exact absurd ho (by simp [default, instInhabitedSession.default])
  | some s =>
    rw [Relay.session_eq hs] at ho
    obtain ⟨-, c, x, he⟩ := (hw.poised hs).engaged o ho
    rw [Relay.channel_eq he.wired]
    exact he.belongs

/-- A channel of another session is foreign. -/
theorem Settled.foreign (hw : w.Settled owner profiles) {k : Nat}
    (hk : (w.relay.channel k).session ≠ i) : w.relay.Foreign i k where
  session := hk
  held := fun hheld => hk (hw.session_of_held hheld)

/-! ### Frames that are delivered -/

variable (w) in
theorem delivered?_emit (worker : String) (p : Nat) (points : List Point) :
    w.delivered? (.emit worker p points) = w.relay.direct? p points := rfl

/-- What a frame source delivers is the frame of the source. -/
theorem delivered?_wake {j : Nat} {source : Source}
    (hsource : (w.relay.session j).source? = some source) :
    w.delivered? (.wake j) =
      (w.relay.wakeSource j source).1.bind fun (p, points) => w.relay.direct? p points := by
  unfold delivered? arrived? injected?
  dsimp only
  rw [hsource, Option.bind_some]
  cases (w.relay.wakeSource j source).1 <;> rfl

/-- The source of a session that is awake produces frames of a camera of the session. -/
theorem Settled.owner_of_wakeSource (hw : w.Settled owner profiles) {j p : Nat} {source : Source}
    {points : List Point} (hsource : (w.relay.session j).source? = some source)
    (hwake : (w.relay.wakeSource j source).1 = some (p, points)) : owner p = j := by
  cases hs : w.relay.sessions[j]? with
  | none =>
    rw [Relay.session, List.getD_eq_getElem?_getD, hs] at hsource
    exact absurd hsource (by simp [Session.source?, default, instInhabitedSession.default])
  | some s =>
    rw [Relay.session_eq hs] at hsource
    rcases Relay.wakeSource_share [] (fun _ _ => .accepted) (hw.poised hs)
      hsource with ⟨v, hnone, -⟩ | ⟨p', points', next, v, hsome, hown, -⟩
    · rw [hnone] at hwake
      exact absurd hwake (by simp)
    · rw [hsome] at hwake
      obtain ⟨rfl, -⟩ := Prod.mk.inj (Option.some.inj hwake)
      exact of_decide_eq_true hown

/-- A frame that is delivered at once has found a listener. -/
theorem listener?_of_direct? {v : Relay} {p k : Nat} {points points' : List Point}
    (hdirect : v.direct? p points = some (k, points')) : v.listener? p = some k := by
  unfold Relay.direct? at hdirect
  obtain ⟨hmap, -⟩ := Option.filter_eq_some_iff.mp hdirect
  obtain ⟨k', hk, hkeq⟩ := Option.map_eq_some_iff.mp hmap
  rw [hk, (Prod.mk.inj hkeq).1]

/-- A frame is delivered in a step that concerns the session that it is for, and in no other. -/
theorem Settled.concerns_of_delivered? (hw : w.Settled owner profiles) {k : Nat}
    {points : List Point} (hdelivered : w.delivered? e = some (k, points)) :
    e.concerns owner i w = true ↔ (w.relay.channel k).session = i := by
  have hshows := hw.shows_of_delivered? hdelivered
  cases e with
  | emit worker p points' =>
    have hk := listener?_of_direct? (hdelivered.symm.trans (delivered?_emit w worker p points')).symm
    rw [hw.session_of_listener? hk]
    exact decide_eq_true_iff
  | dispatch k' =>
    obtain ⟨⟨_, _⟩, -, hkeq⟩ := Option.map_eq_some_iff.mp hdelivered
    obtain rfl : k' = k := congrArg Prod.fst hkeq
    constructor
    · intro hheld
      apply hw.session_of_held
      cases ho : (w.relay.session i).camera with
      | none => simp [Event.concerns, ho] at hheld
      | some o => simpa [Event.concerns, ho] using hheld
    · intro hsession
      obtain ⟨j, s, o, x, hs, ho, rfl, hx, rfl, -⟩ := hshows
      rw [Relay.channel_eq hx] at hsession
      rw [Event.concerns, ← hsession, Relay.session_eq hs, ho]
      simp
  | wake j =>
    cases hsource : (w.relay.session j).source? with
    | none =>
      exact absurd hdelivered (by simp [delivered?, arrived?, injected?, hsource])
    | some source =>
      rw [delivered?_wake hsource] at hdelivered
      obtain ⟨⟨p, points'⟩, hwake, hdirect⟩ := Option.bind_eq_some_iff.mp hdelivered
      rw [hw.session_of_listener? (listener?_of_direct? hdirect),
        hw.owner_of_wakeSource hsource hwake]
      exact decide_eq_true_iff
  | _ => exact absurd hdelivered (by simp [delivered?, arrived?, injected?])

/-! ### Steps of the session -/

/-- A session that is there is ready unless it is being closed. -/
theorem ready_of_free (hs : w.relay.sessions[i]? = some s) :
    w.ready i = !w.closing.contains i := by
  have hi := (List.getElem?_eq_some_iff.mp hs).1
  simp [ready, hi]

/-- A camera that the session could open is its own, and idle. -/
theorem Settled.free_of_target (hw : w.Settled owner profiles) (hs : w.relay.sessions[i]? = some s)
    {op : Operation} (hown : ∀ j p, (Event.operate i op).Reaches w.relay j p → owner p = j)
    {d : Descriptor} {key : UInt32} {address p : Nat} {c : Camera Nat}
    (hop : op = .openCamera d key address) (hclosed : s.state = .closed)
    (htarget : w.relay.target? d = some p) (hc : w.relay.cameras[p]? = some c) :
    decide (owner p = i) = true ∧ c.capturing = false := by
  have hi := (List.getElem?_eq_some_iff.mp hs).1
  have howner : owner p = i := hown i p ⟨hi, d, key, address, by rw [hop], htarget⟩
  refine ⟨decide_eq_true howner, ?_⟩
  refine (Relay.idle_of_not_holds hw.custody hc ?_).2.1
  intro j hj
  -- Only the session could hold the camera, and it is closed.
  have hji := (hw.apart.owned j p (Relay.holds_standing.mpr hj)).symm.trans howner
  exact hw.custody.not_holds (Relay.session_standing hs) hclosed (Relay.holds_standing.mpr hj) hji

/-- **An operation**, in the share of its session. -/
theorem Settled.operate_share (hw : w.Settled owner profiles) (hs : w.relay.sessions[i]? = some s)
    (op : Operation) (hown : ∀ j p, (Event.operate i op).Reaches w.relay j p → owner p = j) :
    (w.step h (.operate i op)).1.gist =
        ((w.share owner i seen).step profiles answer i (.operate i op)).1 ∧
      (w.step h (.operate i op)).2.share owner i seen =
        ((w.share owner i seen).step profiles answer i (.operate i op)).2 := by
  have hpoised := hw.poised hs
  have hready := ready_of_free hs
  unfold World.step Share.step
  dsimp only
  rw [show (w.share owner i seen).closing = w.closing.contains i from rfl, hready]
  cases hclosing : w.closing.contains i with
  | true => exact ⟨rfl, rfl⟩
  | false =>
    rw [hclosing] at hpoised
    obtain ⟨hanswer, hafter⟩ := hpoised.perform_share seen op fun d key address p c =>
      hw.free_of_target hs hown
    have hshare : w.share owner i seen =
        w.relay.share i (fun p => owner p = i) false seen := by
      unfold share
      rw [hclosing]
    rw [Bool.not_false, if_pos rfl, if_neg (by simp), hshare]
    refine ⟨congrArg Response.answered hanswer, ?_⟩
    show (op.perform i w.relay).2.share i _ (w.closing.contains i) seen = _
    rw [hclosing]
    exact hafter

/-- **The beginning of a close**, in the share. -/
theorem Settled.beginClose_share (hw : w.Settled owner profiles)
    (hs : w.relay.sessions[i]? = some s) :
    (w.step h (.beginClose i)).1.gist =
        ((w.share owner i seen).step profiles answer i (.beginClose i)).1 ∧
      (w.step h (.beginClose i)).2.share owner i seen =
        ((w.share owner i seen).step profiles answer i (.beginClose i)).2 := by
  have hpoised := hw.poised hs
  have hready := ready_of_free hs
  unfold World.step Share.step
  dsimp only
  rw [show (w.share owner i seen).closing = w.closing.contains i from rfl, hready]
  cases hclosing : w.closing.contains i with
  | true => exact ⟨rfl, rfl⟩
  | false =>
    rw [hclosing] at hpoised
    have hshare : w.share owner i seen =
        w.relay.share i (fun p => owner p = i) false seen := by
      unfold share
      rw [hclosing]
    rw [Bool.not_false, Relay.session_eq hs, if_pos rfl, if_neg Bool.false_ne_true, hshare]
    -- A session without a camera closes at once, and its share knows that it has none.
    cases ho : s.camera with
    | none =>
      rw [Option.isSome_none, if_neg (by simp)]
      refine ⟨rfl, hshare.trans ?_⟩
      unfold Share.beginClose
      rw [Relay.Poised.session_share hs]
      simp [Session.gist, ho]
    -- From here on the session is being closed, in the share as well.
    | some o =>
      rw [Option.isSome_some, if_pos rfl]
      refine ⟨rfl, ?_⟩
      show (w.relay.beginClose i).share i _ ((i :: w.closing).contains i) seen = _
      rw [show (i :: w.closing).contains i = true by simp]
      exact hpoised.beginClose_share ho

/-- **Its end**, in the share. -/
theorem Settled.endClose_share (hw : w.Settled owner profiles)
    (hs : w.relay.sessions[i]? = some s) :
    (w.step h (.endClose i)).1.gist =
        ((w.share owner i seen).step profiles answer i (.endClose i)).1 ∧
      (w.step h (.endClose i)).2.share owner i seen =
        ((w.share owner i seen).step profiles answer i (.endClose i)).2 := by
  have hpoised := hw.poised hs
  have hdispatched : (w.share owner i seen).dispatched = w.dispatched i := by
    unfold Share.dispatched dispatched share Relay.share
    dsimp only
    cases (w.relay.session i).camera <;> rfl
  unfold World.step Share.step
  dsimp only
  rw [show (w.share owner i seen).closing = w.closing.contains i from rfl, hdispatched]
  cases hclosing : w.closing.contains i with
  | false => exact ⟨rfl, rfl⟩
  | true =>
    cases w.dispatched i with
    | false => exact ⟨rfl, rfl⟩
    | true =>
      rw [hclosing] at hpoised
      have hshare : w.share owner i seen =
          w.relay.share i (fun p => owner p = i) true seen := by
        unfold share
        rw [hclosing]
      rw [Bool.and_true, if_pos rfl, hshare]
      refine ⟨rfl, ?_⟩
      -- Who is being closed holds a camera.
      have hi : i ∈ w.closing := by simpa using hclosing
      obtain ⟨p, hp⟩ := hw.custody.closing i hi
      obtain ⟨t, o, ht, ho, -⟩ := Relay.holds_standing.mp hp
      obtain rfl : s = t := Option.some.inj (hs.symm.trans ht)
      show (w.relay.endClose i).share i _ ((w.closing.filter (· ≠ i)).contains i) seen = _
      rw [show (w.closing.filter (· ≠ i)).contains i = false by simp]
      exact hpoised.endClose_share ho

/-- **A step that concerns a session is a step of the session on its own.** -/
theorem Settled.step_share (hw : w.Settled owner profiles) (hreturns : h.Returns)
    (hs : w.relay.sessions[i]? = some s) (hown : ∀ j p, e.Reaches w.relay j p → owner p = j)
    (hconcerns : e.concerns owner i w = true)
    (hanswers : Answers answer seen (w.toLive.asked h (w.delivered? e))) :
    (w.step h e).1.gist = ((w.share owner i seen).step profiles answer i e).1 ∧
      (w.step h e).2.share owner i (seen ++ seenIn (w.toLive.asked h (w.delivered? e))) =
        ((w.share owner i seen).step profiles answer i e).2 := by
  have hpoised := hw.poised hs
  -- Most steps tell the handler nothing.
  have hsilent (hnone : w.delivered? e = none) :
      seen ++ seenIn (w.toLive.asked h (w.delivered? e)) = seen := by
    rw [hnone]
    exact List.append_nil seen
  cases e with
  | operate j op =>
    obtain rfl : j = i := of_decide_eq_true hconcerns
    rw [hsilent rfl]
    exact hw.operate_share hs op hown
  | beginClose j =>
    obtain rfl : j = i := of_decide_eq_true hconcerns
    rw [hsilent rfl]
    exact hw.beginClose_share hs
  | endClose j =>
    obtain rfl : j = i := of_decide_eq_true hconcerns
    rw [hsilent rfl]
    exact hw.endClose_share hs
  | emit worker p points =>
    have hemit := Live.emit_share (l := w.toLive) hreturns hpoised (p := p) hconcerns
      (.worker worker) points (fun k hk => hw.clear (e := .emit worker p points) hk) hanswers
    exact ⟨congrArg Response.emitted hemit.1, hemit.2⟩
  | dispatch k =>
    cases ho : s.camera with
    | none => simp [Event.concerns, Relay.session_eq hs, ho] at hconcerns
    | some o =>
      obtain ⟨-, c, x, he⟩ := hpoised.engaged o ho
      obtain rfl : o.channel = k := by
        simpa [Event.concerns, Relay.session_eq hs, ho] using hconcerns
      exact ⟨rfl, Live.dispatch_share (l := w.toLive) hreturns hs ho he.wired he.belongs
        (fun points hk => hw.clear (e := .dispatch o.channel) hk) hanswers⟩
  | wake j =>
    obtain rfl : j = i := of_decide_eq_true hconcerns
    have hsource : (w.share owner j seen).session.source? = s.source?.map Source.gist := by
      unfold share
      rw [Relay.Poised.session_share hs]
      unfold Session.source? Session.gist OpenCamera.gist
      cases s.camera <;> rfl
    unfold World.step Share.step
    dsimp only
    rw [Relay.session_eq hs, hsource]
    cases hawake : s.source? with
    | none =>
      rw [hsilent (by simp [delivered?, arrived?, injected?, Relay.session_eq hs, hawake])]
      exact ⟨rfl, rfl⟩
    | some source =>
      have hframe := delivered?_wake (w := w) (by rw [Relay.session_eq hs, hawake])
      exact ⟨rfl, Live.wake_share (l := w.toLive) hreturns hpoised hawake hframe
        (fun k points hk => hw.clear hk) hanswers⟩
  | fail p op status =>
    rw [hsilent rfl]
    exact ⟨rfl, Relay.modifyCamera_share hw.profiles hconcerns (f := Camera.fail op status)
      (g := fun faults => (op, status) :: faults.filter (·.1 ≠ op)) fun _ => rfl⟩
  | clearFaults p =>
    rw [hsilent rfl]
    exact ⟨rfl, Relay.modifyCamera_share hw.profiles hconcerns (f := Camera.clearFaults)
      (g := fun _ => []) fun _ => rfl⟩
  | refuseBuffers r fault =>
    rw [hsilent rfl]
    obtain rfl : r = s.runtime := by
      simpa [Event.concerns, Relay.session_eq hs] using hconcerns
    have hhosted := hw.apart.hosted i s.standing (Relay.session_standing hs)
    simp only [standing, Relay.standing, List.length_map] at hhosted
    exact ⟨rfl, Relay.refuseBuffers_share hs hhosted fault⟩
  | _ => exact absurd hconcerns (by simp [Event.concerns])

end World

/-! ### Steps of others -/

namespace Relay

variable {w : Relay} {closing : List Nat} {i j p : Nat} {own : Nat → Bool} {shut : Bool}
  {seen : List Seen} {s s' : Session} {o : OpenCamera} {c c' : Camera Nat}

/-- Another session that is set leaves this one as it was. -/
theorem session_of_set {v : Relay} {t : Session} (hj : j ≠ i)
    (h : v.sessions = w.sessions.set j t) :
    v.session i = w.session i := by
  unfold session
  rw [h, List.getD_eq_getElem?_getD, List.getD_eq_getElem?_getD, List.getElem?_set_ne hj]

/-- Another session changes and works on a camera. -/
theorem update_unshared (hj : j ≠ i) (hc : w.cameras[p]? = some c) (hfaults : c'.faults = c.faults) :
    (w.update j s' p c').share i own shut seen = w.share i own shut seen :=
  share_congr (session_of_set hj rfl) rfl (map_set_of_eq hc hfaults) rfl

/-- Another session opens a camera; the channel of the session keeps its place. -/
theorem opened_unshared {b : FrameBuffer} {r : Runtime} (hj : j ≠ i) (hs : w.sessions[j]? = some s)
    (hc : w.cameras[p]? = some c) (hexposed : (w.runtime s.runtime).expose b.view = .ok r)
    (hheld : ∀ o, (w.session i).camera = some o → o.channel < w.channels.length)
    (rate : FrameRate) :
    (w.opened j p c rate b r).share i own shut seen = w.share i own shut seen := by
  refine share_kept (session_of_set hj rfl) ?_ ?_ ?_
  · intro o ho
    unfold channel opened
    rw [List.getD_eq_getElem?_getD, List.getD_eq_getElem?_getD,
      List.getElem?_append_left (hheld o ho)]
  · intro q _
    rw [show (w.opened j p c rate b r).cameras.map Camera.faults = w.cameras.map Camera.faults from
      map_set_of_eq hc rfl]
  · rw [← exposeFaults_set hexposed, ← session_eq hs]
    rfl

/-- **An operation of another session** is not in the share. -/
theorem perform_unshared (hcustody : Custody (w.standing closing)) (hj : j ≠ i)
    (hs : w.sessions[j]? = some s)
    (hheld : ∀ o, (w.session i).camera = some o → o.channel < w.channels.length) (op : Operation) :
    (op.perform j w).2.share i own shut seen = w.share i own shut seen := by
  obtain ⟨hclosed, hfound⟩ := of_custody hcustody hs
  have hcases := perform_cases op hs hclosed hfound
  generalize (op.perform j w).2 = v at hcases ⊢
  generalize (op.perform j w).1.failed = failed at hcases
  cases hcases with
  | idle => rfl
  | undone d key address p c c' target found residue =>
    exact Poised.residue_share found residue
  | opened d key address p c rate b r target found closed still rated room exposed =>
    exact opened_unshared hj hs found exposed hheld rate
  | unstarted timing o c held found => exact update_unshared hj found rfl
  | started timing o c held found => exact update_unshared hj found rfl
  | stopped o c held found =>
    rw [share_exitSource]
    exact update_unshared hj found rfl
  | exposed o c held found => exact update_unshared hj found rfl

/-- Another session that begins to close does not matter to the share. -/
theorem beginClose_unshared (hj : j ≠ i) (hs : w.sessions[j]? = some s) (ho : s.camera = some o)
    (hc : w.cameras[o.device.camera]? = some c) (hforeign : w.Foreign i o.channel) :
    (w.beginClose j).share i own shut seen = w.share i own shut seen := by
  rw [beginClose_eq hs ho hc, ← exitSource_update]
  have hsource : ((w.update j (halted s o c) o.device.camera (quiet s c)).exitSource
      (if stops s c then o.device.source else none)).share i own shut seen =
      w.share i own shut seen := by
    rw [share_exitSource]
    exact update_unshared hj hc rfl
  refine (share_modifyChannel_of_ne ?_ _).trans hsource
  -- The session holds another channel, before and after.
  have hsession : ((w.update j (halted s o c) o.device.camera (quiet s c)).exitSource
      (if stops s c then o.device.source else none)).session i = w.session i := by
    refine session_of_set (t := halted s o c) hj ?_
    cases (if stops s c then o.device.source else none) <;> rfl
  rw [hsession]
  exact hforeign.held

/-- Nor does one that ends closing. -/
theorem endClose_unshared (hj : j ≠ i) (hs : w.sessions[j]? = some s) (ho : s.camera = some o)
    (hc : w.cameras[o.device.camera]? = some c) :
    (w.endClose j).share i own shut seen = w.share i own shut seen := by
  rw [endClose_eq hs ho hc, ← exitSource_update]
  have hthreads : (((w.exitThread (.dispatch o.channel)).update j s.closed o.device.camera
      c.release).exitSource o.device.source).share i own shut seen = w.share i own shut seen := by
    rw [share_exitSource]
    exact (share_exitThread (w := w.update j s.closed o.device.camera c.release) _).trans
      (update_unshared hj hc rfl)
  rw [← hthreads]
  refine share_congr rfl rfl rfl ?_
  exact map_modify_of_eq fun _ _ => rfl

/-- The faults of a camera of another session. -/
theorem modifyCamera_unshared (hp : own p = false) (f : Camera Nat → Camera Nat) :
    (w.modifyCamera p f).share i own shut seen = w.share i own shut seen := by
  refine share_kept rfl (fun _ _ => rfl) ?_ rfl
  intro q hq
  have hne : p ≠ q := by
    rintro rfl
    exact absurd (hq.symm.trans hp) (by simp)
  unfold modifyCamera
  rw [List.getD_eq_getElem?_getD, List.getD_eq_getElem?_getD, List.getElem?_map,
    List.getElem?_map, List.getElem?_modify_ne _ _ hne]

/-- What another host says to new buffers. -/
theorem refuseBuffers_unshared {r : Nat} (hr : r ≠ (w.session i).runtime)
    (fault : Option HostError) :
    (w.modifyRuntime r fun x => { x with exposeFault := fault }).share i own shut seen =
      w.share i own shut seen := by
  refine share_kept rfl (fun _ _ => rfl) (fun _ _ => rfl) ?_
  unfold modifyRuntime
  rw [List.getD_eq_getElem?_getD, List.getD_eq_getElem?_getD, List.getElem?_map,
    List.getElem?_map, List.getElem?_modify_ne _ _ hr]

end Relay

/-- **A step that does not concern a session does nothing to its share.** -/
theorem World.Settled.step_unshared {w : World σ} {owner : Nat → Nat}
    {profiles : List CameraProfile} {h : Handler σ} {i : Nat} {s : Session} {seen : List Seen}
    {e : Event} (hw : w.Settled owner profiles) (hreturns : h.Returns)
    (hs : w.relay.sessions[i]? = some s) (hconcerns : e.concerns owner i w = false) :
    (w.step h e).2.share owner i seen = w.share owner i seen := by
  -- A frame that the step delivers is for another session, or the step would concern this one.
  have hforeign {k : Nat} {points : List Point} (hdelivered : w.delivered? e = some (k, points)) :
      w.relay.Foreign i k := by
    apply hw.foreign
    intro hsession
    rw [(hw.concerns_of_delivered? hdelivered).mpr hsession] at hconcerns
    exact absurd hconcerns (by simp)
  cases e with
  | operate j op =>
    have hj : j ≠ i := of_decide_eq_false hconcerns
    rcases w.step_operate_cases h j op with hsame | ⟨hlt, -, hafter⟩
    · rw [hsame]
    · rw [hafter]
      refine Relay.perform_unshared hw.custody hj (List.getElem?_eq_getElem hlt) ?_ op
      intro o ho
      rw [Relay.session_eq hs] at ho
      obtain ⟨-, c, x, he⟩ := (hw.poised hs).engaged o ho
      exact (List.getElem?_eq_some_iff.mp he.wired).1
  | beginClose j =>
    have hj : j ≠ i := of_decide_eq_false hconcerns
    rcases step_beginClose_cases h hw.custody j with hsame | ⟨t, o, c, ht, ho, hc, hafter⟩
    · rw [hsame]
    · rw [hafter]
      show (w.relay.beginClose j).share i _ ((j :: w.closing).contains i) seen = _
      rw [show (j :: w.closing).contains i = w.closing.contains i by simp [Ne.symm hj]]
      refine Relay.beginClose_unshared hj ht ho hc (hw.foreign ?_)
      rw [hw.session_of_held (i := j) (by rw [Relay.session_eq ht, ho]; rfl)]
      exact hj
  | endClose j =>
    have hj : j ≠ i := of_decide_eq_false hconcerns
    rcases step_endClose_cases h hw.custody j with hsame | ⟨-, -, t, o, c, ht, ho, hc, hafter⟩
    · rw [hsame]
    · rw [hafter]
      show (w.relay.endClose j).share i _ ((w.closing.filter (· ≠ j)).contains i) seen = _
      rw [show (w.closing.filter (· ≠ j)).contains i = w.closing.contains i by
        simp [Ne.symm hj]]
      exact Relay.endClose_unshared hj ht ho hc
  | emit worker p points =>
    refine Live.emit_unshared (l := w.toLive) hreturns points ?_ ?_ (.worker worker)
    · intro k hk
      apply hw.foreign
      rw [hw.session_of_listener? hk]
      exact of_decide_eq_false hconcerns
    · intro k hk
      exact hw.clear (e := .emit worker p points) hk
  | dispatch k =>
    refine Live.dispatch_unshared (l := w.toLive) hreturns ?_
    intro points hk
    exact ⟨hforeign hk, hw.clear (e := .dispatch k) hk⟩
  | wake j =>
    have hj : j ≠ i := of_decide_eq_false hconcerns
    unfold World.step
    dsimp only
    cases hsource : (w.relay.session j).source? with
    | none => rfl
    | some source =>
      have hframe := World.delivered?_wake hsource
      refine Live.wake_unshared (l := w.toLive) hreturns hj source ?_ ?_
      · intro p points k hwake hk
        apply hw.foreign
        rw [hw.session_of_listener? hk, hw.owner_of_wakeSource hsource hwake]
        exact hj
      · intro k points hk
        exact hw.clear (hframe.trans hk)
  | fail p op status => exact Relay.modifyCamera_unshared hconcerns _
  | clearFaults p => exact Relay.modifyCamera_unshared hconcerns _
  | disableAttach r on =>
    refine Relay.share_congr rfl rfl rfl ?_
    exact map_modify_of_eq fun _ _ => rfl
  | refuseBuffers r fault =>
    exact Relay.refuseBuffers_unshared (of_decide_eq_false hconcerns) fault
  | exitWorker worker => exact Relay.share_exitThread (.worker worker)
  | pass nanos => rfl

end DepthRelay
