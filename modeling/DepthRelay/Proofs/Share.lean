import DepthRelay.Proofs.Outcomes
import Mathlib.Logic.Function.Basic

namespace DepthRelay

/-!
# A session on its own

What one session has of a relay is its *share*: the session, the channel of the opening, the faults
of its cameras, and what its host says to new buffers.  A share is enough to tell what becomes of
the session in the steps that concern it.

* `Session.gist`, `Response.gist` — without moments, identities of threads and places of channels.
* `Share` — the share of a session; `Share.step` is a step of a session on its own.
* `Relay.share` — what a session has of a relay.
-/

/-! ### Without moments and identities -/

/-- The source without its identity and its clock. -/
def Source.gist (s : Source) : Source := { s with run := 0, due := 0 }

/-- The log with the samples of which only the number is known. -/
def TimingLog.gist (l : TimingLog) : TimingLog :=
  { l with samples := List.replicate l.samples.length ⟨0, 0⟩ }

/-- What a session holds, wherever its channel is. -/
def OpenCamera.gist (o : OpenCamera) : OpenCamera :=
  { o with
    channel := 0
    device := { o.device with source := o.device.source.map Source.gist } }

/-- The session without moments, the identity of its source and the place of its channel. -/
def Session.gist (s : Session) : Session :=
  { s with camera := s.camera.map OpenCamera.gist, timing := s.timing.gist }

/-- The result with samples of which only the number is known. -/
def Operation.Result.gist : Operation.Result → Operation.Result
  | .samples (.ok l) => .samples (.ok (List.replicate l.length ⟨0, 0⟩))
  | r => r

def Response.gist : Response → Response
  | .answered r => .answered r.gist
  | r => r

namespace TimingLog

theorem gist_setEnabled (on : Bool) (l : TimingLog) :
    (l.setEnabled on).gist = l.gist.setEnabled on := by
  cases on <;> rfl

/-- A sample is recorded without its moments. -/
theorem gist_record (s : TimingSample) (l : TimingLog) :
    (l.record s).gist = l.gist.record ⟨0, 0⟩ := by
  unfold record
  rw [show l.gist.enabled = l.enabled from rfl]
  by_cases hon : l.enabled
  · rw [if_pos hon, if_pos hon]
    simp [gist, List.replicate_succ']
  · rw [if_neg hon, if_neg hon]

theorem gist_harvested (l : TimingLog) : l.harvested.gist = l.gist.harvested := by
  unfold harvested gist
  cases l.enabled <;> rfl

theorem length_harvest_gist (l : TimingLog) : l.gist.harvest.length = l.harvest.length := by
  unfold harvest ordered gist
  cases l.enabled <;> simp

end TimingLog

/-- A reply for a frame, whenever it comes. -/
theorem Session.gist_receive (cut : Nat) (reply : Reply) (start stop : Moment) (s : Session) :
    (s.receive cut reply start stop).gist = s.gist.receive cut reply 0 0 := by
  unfold receive answer TimingLog.begin?
  cases reply with
  | accepted =>
    dsimp only
    rw [show s.gist.timing.enabled = s.timing.enabled from rfl]
    by_cases hon : s.timing.enabled
    · rw [if_pos hon, if_pos hon]
      unfold gist
      dsimp only [Option.elim_some]
      rw [TimingLog.gist_record]
    · rw [if_neg hon, if_neg hon]
      rfl
  | failed text => rfl
  | aborted reason => rfl

/-! ### Shares -/

/-- What one session has of a relay. -/
structure Share where
  session : Session
  /-- The channel of the opening, if the session holds a camera. -/
  channel : Channel
  /-- Faults of the cameras of the session. -/
  faults : Nat → List (DriverOp × Status)
  /-- Whether the session is being closed. -/
  closing : Bool
  /-- Why the host refuses buffers, if it does. -/
  refusal : Option HostError
  /-- What the handler has seen of the session's frames. -/
  seen : List Seen

namespace Share

section

variable (profiles : List CameraProfile) (answer : List Seen → Seen → Reply) (i : Nat)

/-! #### Operations -/

/-- A driver call that only asks. -/
def ask {α : Type} (operation : String) (op : DriverOp) (own : Option Status)
    (a : CameraProfile → α) (S : Share) : Except RelayError α :=
  match S.session.camera with
  | none => .error (.invalidState operation S.session.state)
  | some o =>
    match ((S.faults o.device.camera).lookup op).or own with
    | some e => .error (.device operation e)
    | none => .ok (a (profiles.getD o.device.camera default))

/-- Opens the camera at a place. -/
def openAt (p : Nat) (rate : FrameRate) (address : Nat) (S : Share) :
    Except RelayError Unit × Share :=
  let c : Camera Nat := { profile := profiles.getD p default, faults := S.faults p }
  let buffer := FrameBuffer.ofCapacity address S.session.settings.maxPoints.toNat
  match c.fault? .createCamera with
  | some e => (.error (.device "create the camera device" e), S)
  | none =>
    match Session.refusal? rate buffer c, buffer with
    | some e, _ => (.error e, S)
    | none, .error e => (.error e, S)
    | none, .ok b =>
      match S.refusal with
      | some e => (.error (.host e), S)
      | none =>
        (.ok (),
          { S with
            session := S.session.holding p 0 c.profile.serial rate
            channel :=
              { ({ sessions := [S.session] } : Relay).newChannel 0 b with session := i } })

/-- Opens the single camera behind a descriptor. -/
def openCamera (d : Descriptor) (key : UInt32) (address : Nat) (S : Share) :
    Except RelayError Unit × Share :=
  let cameras := profiles.map fun p => ({ profile := p } : Camera Nat)
  if S.session.state = .closed then
    match FrameRate.ofKey? key with
    | none => (.error (.unsupportedFrameRate key), S)
    | some rate =>
      match connected cameras d with
      | [] => (.error .noDevice, S)
      | [serial] =>
        match place? cameras serial with
        | none => (.error (.device "create the camera device" .disconnectedDevice), S)
        | some p => S.openAt profiles i p rate address
      | serials => (.error (.ambiguousDevice serials.length), S)
  else (.error (.invalidState "open" S.session.state), S)

/-- The frame source of a run that begins. -/
def sourceOfRun (o : OpenCamera) : Option Source :=
  match (profiles.getD o.device.camera default).stream with
  | .manual => o.device.source
  | .paced limit => some (Source.start 0 0 (some o.rate.useCase) limit).gist

def start (timing : Bool) (S : Share) : Except RelayError Unit × Share :=
  match S.session.state, S.session.camera with
  | .opened, some o =>
    match (S.faults o.device.camera).lookup .startCapture with
    | some e =>
      (.error (.device "start capture" e),
        { S with session := { S.session with
          timing := (S.session.timing.setEnabled timing).setEnabled false } })
    | none =>
      (.ok (),
        { S with session := { S.session with
          state := .capturing
          timing := S.session.timing.setEnabled timing
          camera := some
            { o with device := { o.device with source := sourceOfRun profiles o } } } })
  | state, _ => (.error (.invalidState "start capture" state), S)

def stop (S : Share) : Except RelayError (List TimingSample) × Share :=
  match S.session.state, S.session.camera with
  | .capturing, some o =>
    match (S.faults o.device.camera).lookup .stopCapture with
    | some e => (.error (.device "stop capture" e), S)
    | none =>
      (.ok S.session.timing.harvest,
        { S with session := { S.session with
          state := .opened
          timing := S.session.timing.harvested
          camera := some { o with device := { o.device with source := none } } } })
  | state, _ => (.error (.invalidState "stop capture" state), S)

/-- Carries out an operation. -/
def perform (op : Operation) (S : Share) : Operation.Result × Share :=
  match op with
  | .openCamera d key address => (S.openCamera profiles i d key address).map .unit id
  | .start timing => (S.start profiles timing).map .unit id
  | .stop => S.stop.map .samples id
  | .setExposure =>
    (.unit (S.ask profiles "set exposure time" .setExposureTime
      (if S.session.settings.exposureTime ≠ 0 &&
        S.session.settings.exposureTime ≤ Sensor.maxExposureTime
        then none else some .outOfBounds) fun _ => ()), S)
  | .maxWidth =>
    (.size (S.ask profiles "get max sensor width" .maxSensorWidth none CameraProfile.width), S)
  | .maxHeight =>
    (.size (S.ask profiles "get max sensor height" .maxSensorHeight none CameraProfile.height), S)

/-! #### Closing -/

def beginClose (S : Share) : Share :=
  match S.session.camera with
  | none => S
  | some o =>
    let stops := S.session.state = .capturing &&
      ((S.faults o.device.camera).lookup .stopCapture).isNone
    { S with
      session := { S.session with
        timing :=
          if S.session.state = .capturing then S.session.timing.setEnabled false
          else S.session.timing
        camera := some
          { o with device :=
            { o.device with source := if stops then none else o.device.source } } }
      channel := { S.channel with handoff := S.channel.handoff.map Handoff.close }
      closing := true }

/-- Whether closing has nothing left to wait for. -/
def dispatched (S : Share) : Bool := S.channel.handoff.all Handoff.finished

def endClose (S : Share) : Share :=
  { S with session := S.session.closed, channel := default, closing := false }

/-! #### Frames -/

/-- Whether frames of the camera at a place find the session. -/
def hears (p : Nat) (S : Share) : Bool :=
  !S.closing && decide (S.session.state = .capturing) && decide (S.session.place? = some p)

def count (f : Stats → Stats) (S : Share) : Share :=
  { S with session := { S.session with stats := f S.session.stats } }

def setHandoff (q : Option Handoff) (S : Share) : Share :=
  { S with channel := { S.channel with handoff := q } }

/-- A frame is delivered. -/
def deliver (points : List Point) (S : Share) : Share :=
  match S.channel.publish points with
  | .error _ => S.count Stats.noteOverflow
  | .ok (d, written, x) =>
    { S with
      session := S.session.receive written.truncated (answer S.seen d.seen) 0 0
      channel := x
      seen := S.seen ++ [d.seen] }

/-- A frame comes from the camera at a place. -/
def emit (p : Nat) (points : List Point) (S : Share) : Share :=
  if S.hears p then
    match S.channel.handoff with
    | none => S.deliver answer points
    | some q =>
      match q.submit points with
      | (.queued, q) => S.setHandoff (some q)
      | (.dropped, q) => (S.setHandoff (some q)).count Stats.noteBackpressure
  else S

/-- The dispatch thread delivers the next frame, if there is one. -/
def dispatch (S : Share) : Share :=
  match S.channel.handoff.bind Handoff.take? with
  | none => S
  | some (points, q) =>
    let S := (S.setHandoff (some q)).deliver answer points
    S.setHandoff (S.channel.handoff.map Handoff.complete)

def setSource (source : Option Source) (S : Share) : Share :=
  { S with session := { S.session with
    camera := S.session.camera.map fun o => { o with device := { o.device with source } } } }

/-- The frame source does its work. -/
def wake (source : Source) (S : Share) : Share :=
  let p := S.session.place?.getD 0
  match source.wake, profiles[p]? with
  | some (phase, source), some profile =>
    match profile.syntheticPoints phase with
    | .ok points => (S.setSource (some source.gist)).emit answer p points
    | .error _ => S.setSource none
  | _, _ => S.setSource none

/-! #### Steps -/

/-- The camera at a place gets other faults, if there is one. -/
def setFaults (p : Nat) (faults : List (DriverOp × Status)) (S : Share) : Share :=
  if p < profiles.length then { S with faults := Function.update S.faults p faults } else S

/-- **A step of a session on its own.** -/
def step (e : Event) (S : Share) : Response × Share :=
  match e with
  | .operate _ op =>
    if S.closing then (.unavailable, S)
    else (.answered (S.perform profiles i op).1.gist, (S.perform profiles i op).2)
  | .beginClose _ => if S.closing then (.unavailable, S) else (.done, S.beginClose)
  | .endClose _ =>
    if S.closing && S.dispatched then (.done, S.endClose) else (.unavailable, S)
  | .emit _ p points => (.emitted (.ok (S.hears p)), S.emit answer p points)
  | .dispatch _ => (.done, S.dispatch answer)
  | .wake _ =>
    match S.session.source? with
    | none => (.unavailable, S)
    | some source => (.done, S.wake profiles answer source)
  | .fail p op s => (.done, S.setFaults profiles p ((op, s) :: (S.faults p).filter (·.1 ≠ op)))
  | .clearFaults p => (.done, S.setFaults profiles p [])
  | .refuseBuffers _ fault => (.done, { S with refusal := fault })
  | _ => (.done, S)

end

end Share

/-! ### The share of a session in a relay -/

/-- What the session at place `i` has of a relay; `own` says which cameras are its own. -/
def Relay.share (i : Nat) (own : Nat → Bool) (closing : Bool) (seen : List Seen) (w : Relay) :
    Share where
  session := (w.session i).gist
  channel := (w.session i).camera.elim default fun o => w.channel o.channel
  faults := fun p => if own p then (w.cameras.map Camera.faults).getD p [] else []
  closing := closing
  refusal := (w.runtimes.map Runtime.exposeFault).getD (w.session i).runtime none
  seen := seen

namespace Relay

variable {i : Nat} {own : Nat → Bool} {closing : Bool} {seen : List Seen} {v w : Relay}

/-- What a share shows. -/
theorem share_kept (hsession : v.session i = w.session i)
    (hchannel : ∀ o, (w.session i).camera = some o → v.channel o.channel = w.channel o.channel)
    (hfaults : ∀ p, own p = true →
      (v.cameras.map Camera.faults).getD p [] = (w.cameras.map Camera.faults).getD p [])
    (hrefusal : (v.runtimes.map Runtime.exposeFault).getD (w.session i).runtime none =
      (w.runtimes.map Runtime.exposeFault).getD (w.session i).runtime none) :
    v.share i own closing seen = w.share i own closing seen := by
  have hsame : (fun p => if own p then (v.cameras.map Camera.faults).getD p [] else []) =
      fun p => if own p then (w.cameras.map Camera.faults).getD p [] else [] := by
    funext p
    by_cases hp : own p = true
    · rw [if_pos hp, if_pos hp, hfaults p hp]
    · rw [if_neg hp, if_neg hp]
  unfold share
  rw [hsession, hrefusal, hsame]
  cases ho : (w.session i).camera with
  | none => rfl
  | some o => rw [Option.elim_some, hchannel o ho, Option.elim_some]

/-- What a share does not show. -/
theorem share_congr (hsession : v.session i = w.session i) (hchannels : v.channels = w.channels)
    (hfaults : v.cameras.map Camera.faults = w.cameras.map Camera.faults)
    (hrefusals : v.runtimes.map Runtime.exposeFault = w.runtimes.map Runtime.exposeFault) :
    v.share i own closing seen = w.share i own closing seen :=
  share_kept hsession (fun o _ => channel_of_channels hchannels o.channel)
    (fun p _ => by rw [hfaults]) (by rw [hrefusals])

theorem share_nextRun (n : Nat) :
    ({ w with nextRun := n } : Relay).share i own closing seen = w.share i own closing seen := rfl

theorem share_exitThread (t : ThreadId) :
    (w.exitThread t).share i own closing seen = w.share i own closing seen := by
  rw [exitThread_eq]
  refine share_congr rfl rfl rfl ?_
  exact map_exit (fun _ => rfl) t w.attachments w.runtimes

theorem share_exitSource (source : Option Source) :
    (w.exitSource source).share i own closing seen = w.share i own closing seen := by
  cases source with
  | none => rfl
  | some s => exact share_exitThread (.source s.run)

/-- The session changes and works on a camera. -/
theorem share_update {s s' : Session} {p : Nat} {c c' : Camera Nat}
    (hs : w.sessions[i]? = some s) (hc : w.cameras[p]? = some c)
    (hruntime : s'.runtime = s.runtime)
    (hchannel : s'.camera.map OpenCamera.channel = s.camera.map OpenCamera.channel)
    (hfaults : c'.faults = c.faults) :
    (w.update i s' p c').share i own closing seen =
      { w.share i own closing seen with session := s'.gist } := by
  have hs' : (w.update i s' p c').session i = s' := session_eq (getElem?_set_of_some hs)
  have hkept : (w.update i s' p c').cameras.map Camera.faults = w.cameras.map Camera.faults :=
    map_set_of_eq hc hfaults
  have helim (t : Session) : (t.camera.elim default fun o => w.channel o.channel) =
      (t.camera.map OpenCamera.channel).elim default w.channel := by
    cases t.camera <;> rfl
  unfold share
  rw [hs', hkept, session_eq hs, hruntime, helim s, ← hchannel, ← helim s']
  rfl

/-- The channel of the session changes. -/
theorem share_modifyChannel {k : Nat}
    (hheld : (w.session i).camera.map OpenCamera.channel = some k) (hk : k < w.channels.length)
    (f : Channel → Channel) :
    (w.modifyChannel k f).share i own closing seen =
      { w.share i own closing seen with channel := f (w.share i own closing seen).channel } := by
  obtain ⟨o, ho, rfl⟩ := Option.map_eq_some_iff.mp hheld
  unfold share
  rw [session_modifyChannel, ho]
  dsimp only [Option.elim_some]
  rw [channel_modifyChannel _ _ _ hk]
  rfl

/-- The channel of another session changes. -/
theorem share_modifyChannel_of_ne {k : Nat}
    (hother : (w.session i).camera.map OpenCamera.channel ≠ some k) (f : Channel → Channel) :
    (w.modifyChannel k f).share i own closing seen = w.share i own closing seen := by
  unfold share
  rw [session_modifyChannel]
  cases ho : (w.session i).camera with
  | none => rfl
  | some o =>
    have hk : k ≠ o.channel := by
      rintro rfl
      exact hother (by simp [ho])
    dsimp only [Option.elim_some]
    rw [channel_modifyChannel_of_ne _ _ hk]
    rfl

/-- The session changes, and keeps its host and its channel. -/
theorem share_modifySession {s : Session} {f g : Session → Session}
    (hs : w.sessions[i]? = some s) (hgist : (f s).gist = g s.gist)
    (hruntime : (f s).runtime = s.runtime)
    (hchannel : (f s).camera.map OpenCamera.channel = s.camera.map OpenCamera.channel) :
    (w.modifySession i f).share i own closing seen =
      { w.share i own closing seen with session := g (w.share i own closing seen).session } := by
  have hlt := (List.getElem?_eq_some_iff.mp hs).1
  have helim (t : Session) : (t.camera.elim default fun o => w.channel o.channel) =
      (t.camera.map OpenCamera.channel).elim default w.channel := by
    cases t.camera <;> rfl
  unfold share
  rw [session_modifySession _ _ _ hlt, session_eq hs, ← hgist, hruntime]
  simp only [channel_modifySession]
  rw [helim, hchannel, ← helim]
  rfl

/-- Another session changes. -/
theorem share_modifySession_of_ne {j : Nat} (hj : j ≠ i) (f : Session → Session) :
    (w.modifySession j f).share i own closing seen = w.share i own closing seen := by
  unfold share
  rw [session_modifySession_of_ne f w hj]
  rfl

/-- What is not about sessions and channels, and not about why cameras and hosts refuse, is not in
    the share. -/
theorem share_of_faces {cameras : List (Camera Nat)} {runtimes : List Runtime}
    (hcameras : cameras.map Camera.faults = w.cameras.map Camera.faults)
    (hruntimes : runtimes.map Runtime.face = w.runtimes.map Runtime.face)
    (attachments : Attachments) (nextRun now : Nat) :
    ({ w with cameras, runtimes, attachments, nextRun, now } : Relay).share i own closing seen =
      w.share i own closing seen := by
  refine share_congr rfl rfl hcameras ?_
  have hfaults (rs : List Runtime) :
      rs.map Runtime.exposeFault = (rs.map Runtime.face).map fun f => f.2.2.2 := by
    simp [Runtime.face, Function.comp_def]
  rw [hfaults, hfaults, hruntimes]

/-- A host that exposes a buffer goes on to expose others, or not, as before. -/
theorem exposeFaults_set {n : Nat} {view : View} {r : Runtime}
    (hexposed : (w.runtime n).expose view = .ok r) :
    (w.runtimes.set n r).map Runtime.exposeFault = w.runtimes.map Runtime.exposeFault := by
  cases hn : w.runtimes[n]? with
  | none => rw [List.set_eq_of_length_le (by simpa using hn)]
  | some x =>
    refine map_set_of_eq hn ?_
    rw [runtime_eq hn] at hexposed
    obtain ⟨-, rfl⟩ := Runtime.expose_eq_ok.mp hexposed
    rfl

/-! ### A session that has its cameras for itself -/

/-- The session `s` at place `i` holds the camera `c`, whose frames go through the channel `x`. -/
structure Engaged (i : Nat) (closing : Bool) (s : Session) (o : OpenCamera) (c : Camera Nat)
    (x : Channel) (w : Relay) : Prop where
  found : w.cameras[o.device.camera]? = some c
  wired : w.channels[o.channel]? = some x
  belongs : x.session = i
  initialized : c.initialized = true
  useCase : c.useCase = some o.rate.useCase
  mode : c.exposureMode = .manual
  listener : c.listener = if closing then none else some o.channel
  following : closing = false → (c.capturing = true ↔ s.state = .capturing)

/-- The session `s` is at place `i`, and has the cameras in `own` for itself. -/
structure Poised (profiles : List CameraProfile) (i : Nat) (own : Nat → Bool) (closing : Bool)
    (s : Session) (w : Relay) : Prop where
  present : w.sessions[i]? = some s
  profiles : w.cameras.map Camera.profile = profiles
  closed : s.state = .closed ↔ s.camera = none
  engaged : ∀ o, s.camera = some o →
    own o.device.camera = true ∧ ∃ c x, w.Engaged i closing s o c x
  /-- Only the session listens to its cameras. -/
  heard : ∀ p c, own p = true → w.cameras[p]? = some c → c.listener ≠ none → s.place? = some p

/-- The share knows the faults of its own cameras. -/
theorem faults_share {p : Nat} {c : Camera Nat} (hown : own p = true)
    (hc : w.cameras[p]? = some c) :
    (w.share i own closing seen).faults p = c.faults := by
  unfold share
  dsimp only
  rw [if_pos hown]
  simp [List.getD_eq_getElem?_getD, hc]

/-- A call on the camera of an open session fails only if it is made to. -/
theorem Engaged.obstacle? {s : Session} {o : OpenCamera} {c : Camera Nat} {x : Channel}
    (he : w.Engaged i closing s o c x) (seen : List Seen) (hown : own o.device.camera = true)
    (op : DriverOp) :
    c.obstacle? op = ((w.share i own closing seen).faults o.device.camera).lookup op := by
  rw [Camera.obstacle?_of_initialized he.initialized, faults_share hown he.found]
  rfl

/-- A camera has the profile that is listed for its place. -/
theorem profile_of_map {profiles : List CameraProfile} {p : Nat} {c : Camera Nat}
    (hprofiles : w.cameras.map Camera.profile = profiles) (hc : w.cameras[p]? = some c) :
    profiles.getD p default = c.profile := by
  rw [← hprofiles]
  simp [List.getD_eq_getElem?_getD, hc]

namespace Poised

variable {profiles : List CameraProfile} {s : Session}

/-- The session of the share is the gist of the session. -/
theorem session_share (hs : w.sessions[i]? = some s) :
    (w.share i own closing seen).session = s.gist := by
  unfold share
  rw [session_eq hs]

variable (seen) in
/-- **A start**, in the share. -/
theorem start_share (hw : w.Poised profiles i own false s) (timing : Bool) :
    (w.start timing i).1 = ((w.share i own false seen).start profiles timing).1 ∧
      (w.start timing i).2.share i own false seen =
        ((w.share i own false seen).start profiles timing).2 := by
  have hsession : (w.share i own false seen).session = s.gist := session_share hw.present
  unfold Share.start
  by_cases hstate : s.state = .opened
  · -- A session that has been opened holds a camera, which is its own and does not capture.
    obtain ⟨o, ho⟩ := Option.ne_none_iff_exists'.mp fun hnone =>
      absurd (hw.closed.mpr hnone) (by simp [hstate])
    obtain ⟨hown, c, x, he⟩ := hw.engaged o ho
    have hidle : c.capturing = false := by
      have hfollowing := he.following rfl
      simpa [hstate] using hfollowing
    have hcamera : s.gist.camera = some o.gist := by simp [Session.gist, ho]
    have hsource : (w.sourceOfRun c o).map Source.gist = Share.sourceOfRun profiles o.gist := by
      unfold sourceOfRun Share.sourceOfRun
      rw [show o.gist.device.camera = o.device.camera from rfl,
        profile_of_map hw.profiles he.found]
      cases c.profile.stream with
      | manual => rfl
      | paced limit =>
        rw [he.useCase]
        rfl
    rw [start_eq timing hw.present ho he.found hstate, he.obstacle? seen hown, hidle,
      if_neg (by simp), Option.or_none, hsession, show s.gist.state = .opened from hstate, hcamera]
    dsimp only
    rw [show o.gist.device.camera = o.device.camera from rfl]
    cases ((w.share i own false seen).faults o.device.camera).lookup .startCapture with
    | some e =>
      dsimp only [ended]
      refine ⟨rfl, (share_update hw.present he.found (by rfl) (by rfl) (by rfl)).trans ?_⟩
      unfold Session.gist
      dsimp only
      rw [TimingLog.gist_setEnabled, TimingLog.gist_setEnabled]
    | none =>
      dsimp only [ended]
      rw [share_nextRun]
      refine ⟨rfl, (share_update hw.present he.found (by rfl) ?_ (by rfl)).trans ?_⟩
      · simp [ho]
      · unfold Session.gist OpenCamera.gist
        dsimp only [Option.map_some]
        rw [TimingLog.gist_setEnabled, hsource]
        rfl
  · rw [start_of_ne timing hw.present hstate, hsession]
    cases hs : s.state with
    | opened => exact absurd hs hstate
    | closed =>
      rw [show s.gist.state = .closed from hs]
      exact ⟨rfl, rfl⟩
    | capturing =>
      rw [show s.gist.state = .capturing from hs]
      exact ⟨rfl, rfl⟩

/-- **A stop**, in the share. -/
theorem stop_share (hw : w.Poised profiles i own false s) :
    Operation.Result.gist (.samples (w.stop i).1) =
        Operation.Result.gist (.samples (w.share i own false seen).stop.1) ∧
      (w.stop i).2.share i own false seen = (w.share i own false seen).stop.2 := by
  have hsession : (w.share i own false seen).session = s.gist := session_share hw.present
  unfold Share.stop
  by_cases hstate : s.state = .capturing
  · -- A session that captures holds a camera, which is its own.
    obtain ⟨o, ho⟩ := Option.ne_none_iff_exists'.mp fun hnone =>
      absurd (hw.closed.mpr hnone) (by simp [hstate])
    obtain ⟨hown, c, x, he⟩ := hw.engaged o ho
    have hcamera : s.gist.camera = some o.gist := by simp [Session.gist, ho]
    rw [stop_eq hw.present ho he.found hstate, he.obstacle? seen hown, hsession,
      show s.gist.state = .capturing from hstate, hcamera]
    dsimp only
    rw [show o.gist.device.camera = o.device.camera from rfl]
    cases ((w.share i own false seen).faults o.device.camera).lookup .stopCapture with
    | some e => exact ⟨rfl, rfl⟩
    | none =>
      dsimp only [ended]
      -- To the share only the number of samples is known, and that is the same.
      constructor
      · have hlength : s.gist.timing.harvest.length = s.timing.harvest.length :=
          TimingLog.length_harvest_gist s.timing
        simp only [Operation.Result.gist, hlength]
      · rw [share_exitSource]
        refine (share_update hw.present he.found (by rfl) ?_ (by rfl)).trans ?_
        · simp [ho]
        · unfold Session.gist OpenCamera.gist
          dsimp only [Option.map_some]
          rw [TimingLog.gist_harvested]
          rfl
  · rw [stop_of_ne hw.present hstate, hsession]
    cases hs : s.state with
    | capturing => exact absurd hs hstate
    | closed =>
      rw [show s.gist.state = .closed from hs]
      exact ⟨rfl, rfl⟩
    | opened =>
      rw [show s.gist.state = .opened from hs]
      exact ⟨rfl, rfl⟩

/-- A call that asks the camera and changes nothing that the share shows. -/
theorem ask_share {α : Type} (hw : w.Poised profiles i own false s) (operation : String)
    (op : DriverOp) (refusal : Option Status) (a : CameraProfile → α)
    {call : Except RelayError α × Relay}
    (hnone : s.camera = none → call = (.error (.invalidState operation s.state), w))
    (hsome : ∀ o c x, s.camera = some o → w.Engaged i false s o c x →
      ∃ after, call = ended operation ((c.obstacle? op).or refusal) (a c.profile) after w ∧
        after.share i own false seen = w.share i own false seen) :
    call.1 = (w.share i own false seen).ask profiles operation op refusal a ∧
      call.2.share i own false seen = w.share i own false seen := by
  unfold Share.ask
  rw [session_share hw.present]
  cases ho : s.camera with
  | none =>
    rw [show s.gist.camera = none by simp [Session.gist, ho], hnone ho]
    exact ⟨rfl, rfl⟩
  | some o =>
    obtain ⟨hown, c, x, he⟩ := hw.engaged o ho
    obtain ⟨after, hcall, hafter⟩ := hsome o c x ho he
    rw [show s.gist.camera = some o.gist by simp [Session.gist, ho], hcall,
      he.obstacle? seen hown, ← profile_of_map hw.profiles he.found]
    dsimp only
    rw [show o.gist.device.camera = o.device.camera from rfl]
    generalize (((w.share i own false seen).faults o.device.camera).lookup op).or refusal = refusal
    cases refusal with
    | some e => exact ⟨rfl, rfl⟩
    | none => exact ⟨rfl, hafter⟩

/-! #### Opening -/

/-- What is left of preparations in vain is not in the share. -/
theorem residue_share {p : Nat} {c c' : Camera Nat} (hc : w.cameras[p]? = some c)
    (hresidue : c'.blank = c.blank.release) :
    ({ w with cameras := w.cameras.set p c' } : Relay).share i own closing seen =
      w.share i own closing seen := by
  have hfaults : c'.blank.faults = c.blank.release.faults := congrArg Camera.faults hresidue
  exact share_congr rfl rfl (map_set_of_eq hc hfaults) rfl

variable (own closing seen) in
/-- The host's answer to a new buffer. -/
theorem expose_share (hs : w.sessions[i]? = some s) (v : View) :
    match (w.share i own closing seen).refusal with
    | some e => (w.runtime s.runtime).expose v = .error e
    | none => ∃ r, (w.runtime s.runtime).expose v = .ok r := by
  have hrefusal : (w.share i own closing seen).refusal = (w.runtime s.runtime).exposeFault := by
    unfold share runtime
    rw [session_eq hs, List.getD_eq_getElem?_getD, List.getD_eq_getElem?_getD, List.getElem?_map]
    cases w.runtimes[s.runtime]? <;> rfl
  rw [hrefusal]
  unfold Runtime.expose
  cases (w.runtime s.runtime).exposeFault with
  | some e => rfl
  | none => exact ⟨_, rfl⟩

/-- The session has opened a camera. -/
theorem opened_share {p : Nat} {c : Camera Nat} {b : FrameBuffer} {r : Runtime}
    (hs : w.sessions[i]? = some s) (hc : w.cameras[p]? = some c)
    (hexposed : (w.runtime s.runtime).expose b.view = .ok r) (rate : FrameRate) :
    (w.opened i p c rate b r).share i own closing seen =
      { w.share i own closing seen with
        session := s.gist.holding p 0 c.profile.serial rate
        channel := { ({ sessions := [s.gist] } : Relay).newChannel 0 b with session := i } } := by
  have hsession := session_eq hs
  have hafter : (w.opened i p c rate b r).session i =
      s.holding p w.channels.length c.profile.serial rate := by
    refine session_eq ?_
    rw [← hsession]
    exact getElem?_set_of_some hs
  have hchannel : (w.opened i p c rate b r).channel w.channels.length = w.newChannel i b :=
    channel_eq List.getElem?_concat_length
  have hfaults : (w.opened i p c rate b r).cameras.map Camera.faults =
      w.cameras.map Camera.faults := map_set_of_eq hc rfl
  have hrefusals : (w.opened i p c rate b r).runtimes.map Runtime.exposeFault =
      w.runtimes.map Runtime.exposeFault := by
    rw [← exposeFaults_set hexposed, ← hsession]
    rfl
  unfold share
  rw [hafter, hfaults, hrefusals, hsession]
  unfold Session.holding
  dsimp only [Option.elim_some]
  rw [hchannel]
  unfold newChannel
  rw [hsession]
  rfl

/-- An opening that goes for a camera, in the share. -/
theorem openAt_share (hw : w.Poised profiles i own false s) {p : Nat} {c : Camera Nat}
    (hc : w.cameras[p]? = some c) (hown : own p = true) (hidle : c.capturing = false)
    (rate : FrameRate) (address : Nat) :
    (w.openCamera p c rate address i).1 =
        ((w.share i own false seen).openAt profiles i p rate address).1 ∧
      (w.openCamera p c rate address i).2.share i own false seen =
        ((w.share i own false seen).openAt profiles i p rate address).2 := by
  obtain rfl : w.session i = s := session_eq hw.present
  have hsession : (w.share i own false seen).session = (w.session i).gist := session_share hw.present
  unfold openCamera Share.openAt
  dsimp only
  rw [profile_of_map hw.profiles hc, faults_share hown hc, hsession]
  rw [show (w.session i).gist.settings = (w.session i).settings from rfl]
  generalize FrameBuffer.ofCapacity address (w.session i).settings.maxPoints.toNat = buffer
  -- Whether the camera can be prepared depends on its profile and its faults, and on no run.
  have hrefusal : Session.refusal? rate buffer { profile := c.profile, faults := c.faults } =
      Session.refusal? rate buffer c := by
    unfold Session.refusal?
    rw [hidle]
    rfl
  rw [show Camera.fault? { profile := c.profile, faults := c.faults } .createCamera =
    c.fault? .createCamera from rfl, hrefusal]
  cases c.fault? .createCamera with
  | some e => exact ⟨rfl, rfl⟩
  | none =>
    have hends := Session.configure_ends rate w.channels.length buffer c
    unfold Session.Ends at hends
    dsimp only
    cases hr : Session.refusal? rate buffer c with
    | some e =>
      rw [hr] at hends
      obtain ⟨c', hconfigure, hresidue⟩ := hends
      rw [hconfigure]
      exact ⟨rfl, residue_share hc hresidue⟩
    | none =>
      rw [hr] at hends
      obtain ⟨b, c', hconfigure, hresidue, rfl, rfl⟩ := hends
      rw [hconfigure]
      dsimp only
      have hexpose := expose_share own false seen hw.present b.view
      cases hrefused : (w.share i own false seen).refusal with
      | some e =>
        rw [hrefused] at hexpose
        rw [hexpose]
        exact ⟨rfl, residue_share hc hresidue⟩
      | none =>
        rw [hrefused] at hexpose
        obtain ⟨r, hexposed⟩ := hexpose
        rw [hexposed]
        refine ⟨rfl, (opened_share hw.present hc hexposed rate).trans ?_⟩
        dsimp only
        rw [hrefused]

variable (seen) in
/-- **An opening, in the share.**  A camera that the session could open is its own, and idle. -/
theorem openCamera_share (hw : w.Poised profiles i own false s) (d : Descriptor) (key : UInt32)
    (address : Nat)
    (hfree : s.state = .closed → ∀ p c, w.target? d = some p → w.cameras[p]? = some c →
      own p = true ∧ c.capturing = false) :
    (w.openSession d key address i).1 =
        ((w.share i own false seen).openCamera profiles i d key address).1 ∧
      (w.openSession d key address i).2.share i own false seen =
        ((w.share i own false seen).openCamera profiles i d key address).2 := by
  have hsession : (w.share i own false seen).session = s.gist := session_share hw.present
  have hsame : (profiles.map fun p => ({ profile := p } : Camera Nat)).map Camera.profile =
      w.cameras.map Camera.profile := by
    simp [hw.profiles, Function.comp_def]
  unfold openSession Share.openCamera
  dsimp only
  rw [hsession, session_eq hw.present, World.connected_of_profiles hsame]
  simp only [World.place?_of_profiles hsame]
  rw [show s.gist.state = s.state from rfl]
  by_cases hclosed : s.state = .closed
  · rw [if_pos hclosed, if_pos hclosed]
    cases FrameRate.ofKey? key with
    | none => exact ⟨rfl, rfl⟩
    | some rate =>
      dsimp only
      cases hserials : connected w.cameras d with
      | nil => exact ⟨rfl, rfl⟩
      | cons serial rest =>
        cases rest with
        | cons _ _ => exact ⟨rfl, rfl⟩
        | nil =>
          dsimp only
          cases hp : place? w.cameras serial with
          | none => exact ⟨rfl, rfl⟩
          | some p =>
            -- The camera has been found by its serial, so it is there.
            obtain ⟨hlt, -⟩ := List.findIdx?_eq_some_iff_findIdx_eq.mp hp
            have hc := List.getElem?_eq_getElem hlt
            have htarget : w.target? d = some p := by simp [target?, hserials, hp]
            obtain ⟨hown, hidle⟩ := hfree hclosed p _ htarget hc
            rw [Option.bind_some, hc, Option.map_some]
            exact openAt_share hw hc hown hidle rate address
  · rw [if_neg hclosed, if_neg hclosed]
    exact ⟨rfl, rfl⟩

variable (seen) in
/-- The exposure time of a camera is not in the share. -/
theorem setExposure_share (hw : w.Poised profiles i own false s) :
    (w.setExposure i).1 = (w.share i own false seen).ask profiles "set exposure time"
        .setExposureTime (if s.settings.exposureTime ≠ 0 &&
          s.settings.exposureTime ≤ Sensor.maxExposureTime then none else some .outOfBounds)
        (fun _ => ()) ∧
      (w.setExposure i).2.share i own false seen = w.share i own false seen := by
  refine ask_share hw _ _ _ _ (fun ho => setExposure_of_camera_eq_none hw.present ho) ?_
  intro o c x ho he
  refine ⟨w.update i s o.device.camera { c with exposureTime := s.settings.exposureTime }, ?_, ?_⟩
  · -- The exposure mode of a camera that a session holds is never in the way.
    rw [setExposure_eq hw.present ho he.found, if_pos (by simp [he.mode]), Option.none_or]
  · rw [share_update hw.present he.found rfl rfl (by rfl), ← session_share hw.present]

variable (seen) in
/-- The width of the camera, in the share. -/
theorem maxWidth_share (hw : w.Poised profiles i own false s) :
    (w.maxWidth i).1 = (w.share i own false seen).ask profiles "get max sensor width"
        .maxSensorWidth none CameraProfile.width ∧
      (w.maxWidth i).2.share i own false seen = w.share i own false seen := by
  refine ask_share hw _ _ _ _ (fun ho => maxWidth_of_camera_eq_none hw.present ho) ?_
  intro o c x ho he
  refine ⟨w, ?_, rfl⟩
  rw [maxWidth_eq hw.present ho he.found, Option.or_none]

variable (seen) in
/-- The height of the camera, in the share. -/
theorem maxHeight_share (hw : w.Poised profiles i own false s) :
    (w.maxHeight i).1 = (w.share i own false seen).ask profiles "get max sensor height"
        .maxSensorHeight none CameraProfile.height ∧
      (w.maxHeight i).2.share i own false seen = w.share i own false seen := by
  refine ask_share hw _ _ _ _ (fun ho => maxHeight_of_camera_eq_none hw.present ho) ?_
  intro o c x ho he
  refine ⟨w, ?_, rfl⟩
  rw [maxHeight_eq hw.present ho he.found, Option.or_none]

variable (seen) in
/-- **An operation, in the share.** -/
theorem perform_share (hw : w.Poised profiles i own false s) (op : Operation)
    (hfree : ∀ d key address p c, op = .openCamera d key address → s.state = .closed →
      w.target? d = some p → w.cameras[p]? = some c → own p = true ∧ c.capturing = false) :
    (op.perform i w).1.gist = ((w.share i own false seen).perform profiles i op).1.gist ∧
      (op.perform i w).2.share i own false seen =
        ((w.share i own false seen).perform profiles i op).2 := by
  have hsession : (w.share i own false seen).session = s.gist := session_share hw.present
  unfold Operation.perform Share.perform
  cases op with
  | openCamera d key address =>
    obtain ⟨hanswer, hafter⟩ := openCamera_share seen hw d key address
      fun hclosed p c => hfree d key address p c rfl hclosed
    exact ⟨congrArg (fun r => Operation.Result.gist (.unit r)) hanswer, hafter⟩
  | start timing =>
    obtain ⟨hanswer, hafter⟩ := start_share seen hw timing
    exact ⟨congrArg (fun r => Operation.Result.gist (.unit r)) hanswer, hafter⟩
  | stop => exact stop_share hw
  | setExposure =>
    obtain ⟨hanswer, hafter⟩ := setExposure_share seen hw
    dsimp only
    rw [hsession]
    exact ⟨congrArg (fun r => Operation.Result.gist (.unit r)) hanswer, hafter⟩
  | maxWidth =>
    obtain ⟨hanswer, hafter⟩ := maxWidth_share seen hw
    exact ⟨congrArg (fun r => Operation.Result.gist (.size r)) hanswer, hafter⟩
  | maxHeight =>
    obtain ⟨hanswer, hafter⟩ := maxHeight_share seen hw
    exact ⟨congrArg (fun r => Operation.Result.gist (.size r)) hanswer, hafter⟩

/-! #### Closing -/

/-- **The first part of closing, in the share.** -/
theorem beginClose_share (hw : w.Poised profiles i own false s) {o : OpenCamera}
    (ho : s.camera = some o) :
    (w.beginClose i).share i own true seen = (w.share i own false seen).beginClose := by
  obtain ⟨hown, c, x, he⟩ := hw.engaged o ho
  have hstops : stops s c = (s.state = .capturing &&
      (((w.share i own false seen).faults o.device.camera).lookup .stopCapture).isNone) := by
    unfold stops
    rw [he.obstacle? seen hown]
  rw [beginClose_eq hw.present ho he.found]
  -- The end of the frame source is not in the share.
  have hsource : (w.exitSource (if stops s c then o.device.source else none)).share i own true
      seen = w.share i own true seen := share_exitSource _
  have hsame : (w.exitSource (if stops s c then o.device.source else none)).sessions = w.sessions ∧
      (w.exitSource (if stops s c then o.device.source else none)).cameras = w.cameras ∧
      (w.exitSource (if stops s c then o.device.source else none)).channels = w.channels := by
    cases (if stops s c then o.device.source else none) <;> exact ⟨rfl, rfl, rfl⟩
  generalize w.exitSource (if stops s c then o.device.source else none) = v at hsource hsame ⊢
  obtain ⟨hsessions, hcameras, hchannels⟩ := hsame
  have hs : v.sessions[i]? = some s := hsessions ▸ hw.present
  have hc : v.cameras[o.device.camera]? = some c := hcameras ▸ he.found
  have hx : v.channels[o.channel]? = some x := hchannels ▸ he.wired
  have hhalted : (v.update i (halted s o c) o.device.camera (quiet s c)).sessions[i]? =
      some (halted s o c) := getElem?_set_of_some hs
  have hheld : ((v.update i (halted s o c) o.device.camera (quiet s c)).session i).camera.map
      OpenCamera.channel = some o.channel := by
    rw [session_eq hhalted]
    rfl
  refine (share_modifyChannel hheld (List.getElem?_eq_some_iff.mp hx).1 _).trans ?_
  rw [share_update hs hc (by rfl) (by simp [halted, ho]) (by rfl), hsource]
  unfold Share.beginClose
  rw [session_share hw.present, show s.gist.camera = some o.gist by simp [Session.gist, ho]]
  dsimp only
  rw [show s.gist.state = s.state from rfl, show o.gist.device.camera = o.device.camera from rfl,
    ← hstops]
  unfold halted Session.gist
  dsimp only
  by_cases hstate : s.state = .capturing
  · rw [if_pos hstate, if_pos hstate]
    cases stops s c <;> rfl
  · rw [if_neg hstate, if_neg hstate]
    cases stops s c <;> rfl

/-- **The second part of closing, in the share.** -/
theorem endClose_share (hw : w.Poised profiles i own true s) {o : OpenCamera}
    (ho : s.camera = some o) :
    (w.endClose i).share i own false seen = (w.share i own true seen).endClose := by
  obtain ⟨hown, c, x, he⟩ := hw.engaged o ho
  rw [endClose_eq hw.present ho he.found]
  -- The ends of the dispatch thread and of the frame source are not in the share.
  have hthreads : ((w.exitThread (.dispatch o.channel)).exitSource o.device.source).share i own
      false seen = w.share i own false seen := by
    rw [share_exitSource, share_exitThread]
  have hsame : ((w.exitThread (.dispatch o.channel)).exitSource o.device.source).sessions =
      w.sessions := by
    cases o.device.source <;> rfl
  have hcameras : ((w.exitThread (.dispatch o.channel)).exitSource o.device.source).cameras =
      w.cameras := by
    rw [cameras_exitSource, cameras_exitThread]
  generalize (w.exitThread (.dispatch o.channel)).exitSource o.device.source = v
    at hthreads hsame hcameras ⊢
  have hs : v.sessions[i]? = some s := hsame ▸ hw.present
  have hc : v.cameras[o.device.camera]? = some c := hcameras ▸ he.found
  have hretracted : ((v.update i s.closed o.device.camera c.release).modifyRuntime s.runtime
      (Runtime.retract (w.channel o.channel).view)).share i own false seen =
      (v.update i s.closed o.device.camera c.release).share i own false seen :=
    share_congr rfl rfl rfl (map_modify_of_eq fun _ _ => rfl)
  rw [hretracted]
  have hclosed : (v.update i s.closed o.device.camera c.release).session i = s.closed :=
    session_eq (getElem?_set_of_some hs)
  have hfaults : (v.update i s.closed o.device.camera c.release).cameras.map Camera.faults =
      v.cameras.map Camera.faults := map_set_of_eq hc rfl
  have hafter : (v.update i s.closed o.device.camera c.release).share i own false seen =
      { v.share i own false seen with session := s.gist.closed, channel := default } := by
    unfold share
    rw [hclosed, hfaults, session_eq hs]
    rfl
  rw [hafter, hthreads, ← session_share hw.present]
  rfl

end Poised

/-! #### Faults -/

/-- A camera of the session is made to fail, or to work again. -/
theorem modifyCamera_share {profiles : List CameraProfile} {p : Nat}
    (hprofiles : w.cameras.map Camera.profile = profiles) (hown : own p = true)
    {f : Camera Nat → Camera Nat}
    {g : List (DriverOp × Status) → List (DriverOp × Status)}
    (hf : ∀ c, (f c).faults = g c.faults) :
    (w.modifyCamera p f).share i own closing seen =
      (w.share i own closing seen).setFaults profiles p
        (g ((w.share i own closing seen).faults p)) := by
  have hlength : profiles.length = w.cameras.length := by
    rw [← hprofiles, List.length_map]
  unfold Share.setFaults
  rw [hlength]
  by_cases hp : p < w.cameras.length
  · have hmap : (w.modifyCamera p f).cameras.map Camera.faults =
        (w.cameras.map Camera.faults).modify p g := map_modify_of_comm hf
    rw [if_pos hp, faults_share hown (List.getElem?_eq_getElem hp)]
    unfold share
    rw [hmap]
    refine congrArg (Share.mk _ _ · _ _ _) ?_
    funext q
    by_cases hq : q = p
    · subst hq
      simp [Function.update_self, hown, List.getD_eq_getElem?_getD, hp]
    · rw [Function.update_of_ne hq]
      dsimp only
      rw [List.getD_eq_getElem?_getD, List.getD_eq_getElem?_getD,
        List.getElem?_modify_ne _ _ (Ne.symm hq)]
  · rw [if_neg hp]
    unfold modifyCamera
    rw [modify_of_getElem?_eq_none f (by simpa using hp)]

/-- The host of the session begins to refuse buffers, or stops to. -/
theorem refuseBuffers_share {s : Session} (hs : w.sessions[i]? = some s)
    (hhosted : s.runtime < w.runtimes.length) (fault : Option HostError) :
    (w.modifyRuntime s.runtime fun r => { r with exposeFault := fault }).share i own closing seen =
      { w.share i own closing seen with refusal := fault } := by
  unfold share
  rw [session_modifyRuntime, session_eq hs]
  refine congrArg (Share.mk _ _ _ _ · _) ?_
  simp [modifyRuntime, List.getD_eq_getElem?_getD, hhosted]

end Relay

end DepthRelay
