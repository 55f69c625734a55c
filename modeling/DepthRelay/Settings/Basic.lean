import DepthRelay.FrameBuffer
import DepthRelay.FrameRate

namespace DepthRelay

/-!
# Settings

What a user can configure, with defaults and limits.

* `Settings` — the seven settings; `Settings.Field` names them as files do.
* `Settings.validate` — the first limit that is violated, in the order rate, points, exposure,
  depth.
-/

/-- Where the host's handler runs. -/
inductive DeliveryMode
  /-- On the driver's thread, which waits for it. -/
  | synchronous
  /-- On a dispatch thread, fed through a bounded hand-off. -/
  | queued
  deriving DecidableEq, Repr, Inhabited

/-- Name that threads get when they attach to a host, unless configured. -/
def defaultAttachName : String := "depth-bridge"

/-- Name that dispatch threads get when they attach to a host. -/
def dispatchThreadName : String := "depth-bridge-dispatch"

/-- Frames that fit the hand-off, unless configured. -/
def defaultHandoffDepth : UInt64 := 4

/-- The settings of a session. -/
structure Settings where
  /-- Key of the frame rate to use when none is asked for. -/
  frameRate : UInt32 := defaultRate.key
  /-- Manual exposure time, in microseconds. -/
  exposureTime : UInt32 := Sensor.defaultExposureTime
  /-- Points that the frame buffer holds. -/
  maxPoints : UInt64 := UInt64.ofNat Sensor.maxPoints
  overflowPolicy : OverflowPolicy := .reject
  delivery : DeliveryMode := .synchronous
  /-- Frames that fit the hand-off of queued delivery. -/
  handoffDepth : UInt64 := defaultHandoffDepth
  /-- Name that driver threads get when they attach to a host. -/
  attachName : String := defaultAttachName
  deriving DecidableEq, Repr, Inhabited

namespace Settings

/-- The settings by name. -/
inductive Field
  | frameRate
  | exposureTime
  | maxPoints
  | overflowPolicy
  | delivery
  | handoffDepth
  | attachName
  deriving DecidableEq, Repr

namespace Field

/-- All fields in the order in which they are written. -/
def all : List Field :=
  [frameRate, exposureTime, maxPoints, overflowPolicy, delivery, handoffDepth, attachName]

/-- The field's name in files. -/
def name : Field → String
  | frameRate => "frame_rate"
  | exposureTime => "exposure_time_us"
  | maxPoints => "max_points"
  | overflowPolicy => "overflow_policy"
  | delivery => "delivery"
  | handoffDepth => "handoff_depth"
  | attachName => "attach_thread_name"

/-- The field with a given name. -/
def ofName? (key : List Char) : Option Field := all.find? fun f => f.name.toList == key

@[simp] theorem ofName?_name (f : Field) : ofName? f.name.toList = some f := by
  cases f <;> decide

end Field

/-- Names of the overflow policies in files. -/
def policyNames : List (String × OverflowPolicy) := [("reject", .reject), ("truncate", .truncate)]

/-- Names of the delivery modes in files. -/
def deliveryNames : List (String × DeliveryMode) :=
  [("synchronous", .synchronous), ("queued", .queued)]

/-! ### Limits -/

/-- Limits that settings can violate. -/
inductive Invalid
  | frameRate (key : UInt32)
  | maxPoints (count : UInt64)
  | exposureTime (micros : UInt32)
  | handoffDepth
  deriving DecidableEq, Repr

/-- The wording of a violated limit. -/
def Invalid.message : Invalid → String
  | frameRate key => s!"unsupported frame_rate {key}"
  | maxPoints count => s!"max_points {count} outside 1..={Sensor.maxPoints}"
  | exposureTime micros => s!"exposure_time_us {micros} outside 1..={Sensor.maxExposureTime}"
  | handoffDepth => "handoff_depth must be positive"

/-- The first violated limit, if there is one. -/
def invalid? (s : Settings) : Option Invalid :=
  if (FrameRate.ofKey? s.frameRate).isNone then some (.frameRate s.frameRate)
  else if s.maxPoints = 0 ∨ s.maxPoints.toNat > Sensor.maxPoints then some (.maxPoints s.maxPoints)
  else if s.exposureTime = 0 ∨ s.exposureTime > Sensor.maxExposureTime then
    some (.exposureTime s.exposureTime)
  else if s.handoffDepth = 0 then some .handoffDepth
  else none

/-- Refuses settings outside the limits. -/
def validate (s : Settings) : Except RelayError Unit :=
  match s.invalid? with
  | none => .ok ()
  | some i => .error (.config i.message)

/-- What valid settings ask of sensors and hosts is within the limits. -/
theorem bounds_of_validate {s : Settings} (h : s.validate = .ok ()) :
    (s.maxPoints ≠ 0 ∧ s.maxPoints.toNat ≤ Sensor.maxPoints) ∧
      s.exposureTime ≠ 0 ∧ s.exposureTime ≤ Sensor.maxExposureTime := by
  unfold validate at h
  cases hinvalid : s.invalid? with
  | some i =>
    rw [hinvalid] at h
    exact absurd h (by simp)
  | none =>
    unfold invalid? at hinvalid
    split at hinvalid
    · exact absurd hinvalid (by simp)
    · split at hinvalid
      · exact absurd hinvalid (by simp)
      · next hpoints =>
        split at hinvalid
        · exact absurd hinvalid (by simp)
        · next hexposure =>
          obtain ⟨hroom, hpoints⟩ := not_or.mp hpoints
          obtain ⟨hexposed, hexposure⟩ := not_or.mp hexposure
          exact ⟨⟨hroom, Nat.le_of_not_lt hpoints⟩, hexposed, UInt32.not_lt.mp hexposure⟩

end Settings

end DepthRelay
