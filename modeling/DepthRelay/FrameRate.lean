import DepthRelay.Text.Numeral

namespace DepthRelay

/-!
# Frame rates and use cases

A session is opened at one of three frame rates.  Each selects a *use case*, a named operating
mode of the camera, whose name also carries the frames per second.

* `FrameRate.ofKey?` — the rate with a given numeric key; keys outside the table have none.
* `useCaseFps?` — the frames per second that a use-case name carries.
-/

/-- The supported frame rates. -/
inductive FrameRate
  | fps5
  | fps10
  | fps15
  deriving DecidableEq, Repr, Inhabited

namespace FrameRate

/-- All rates, the slowest first. -/
def all : List FrameRate := [fps5, fps10, fps15]

/-- Frames per second; also the key by which a rate is asked for. -/
def key : FrameRate → UInt32
  | fps5 => 5
  | fps10 => 10
  | fps15 => 15

/-- The rate with key `k`. -/
def ofKey? (k : UInt32) : Option FrameRate := all.find? (·.key == k)

@[simp] theorem ofKey?_key (r : FrameRate) : ofKey? r.key = some r := by cases r <;> rfl

/-- The use case that a rate selects. -/
def useCase : FrameRate → String
  | fps5 => "MODE_9_5FPS_2000"
  | fps10 => "MODE_9_10FPS_1000"
  | fps15 => "MODE_9_15FPS_700"

/-- One line about a rate for listings. -/
def description : FrameRate → String
  | fps5 => "5 fps, 2000 points"
  | fps10 => "10 fps, 1000 points"
  | fps15 => "15 fps, 700 points"

/-- The rate as it is shown to a user. -/
def text (r : FrameRate) : String := s!"{r.key} fps"

end FrameRate

/-- The rate that is used when none is asked for. -/
def defaultRate : FrameRate := .fps5

/-! ### Use cases -/

/-- Frames per second in a use-case name: the number before `FPS` in the first part, between
    underscores, that ends in `FPS`.  Later parts are not looked at, so a first part whose number
    is malformed or needs more than 32 bits leaves the name without one. -/
def useCaseFps? (name : String) : Option UInt32 :=
  ((Text.parts '_' name.toList).findSome? (Text.stem? ['F', 'P', 'S'])).bind fun n =>
    (Text.unsigned? UInt32.size n).map UInt32.ofNat

/-- The use cases that a simulated camera offers unless told otherwise. -/
def standardUseCases : List String :=
  FrameRate.all.map FrameRate.useCase ++ ["MODE_9_25FPS_450", "MODE_5_35FPS_600", "MODE_5_45FPS_500"]

end DepthRelay
