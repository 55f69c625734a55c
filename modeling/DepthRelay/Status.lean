namespace DepthRelay

/-!
# Driver status codes

The closed set of codes that a camera driver reports.  `success` is never the outcome of a failing
call; it stands in the table because the driver's own listings have it.
-/

/-- A status that the driver can report. -/
inductive Status
  | success
  | runtimeError
  | disconnectedDevice
  | invalidValue
  | timeout
  | logicError
  | notImplemented
  | outOfBounds
  | resourceError
  | fileNotFound
  | couldNotOpen
  | dataNotFound
  | deviceIsBusy
  | wrongDataFormatFound
  | usecaseNotSupported
  | frameDropped
  | noUseCasesForDevice
  | deviceNotInitialized
  | calibrationDataError
  | insufficientPrivileges
  | unknown
  deriving DecidableEq, Repr, Inhabited

namespace Status

/-- All codes, in numeric order. -/
def all : List Status :=
  [success, runtimeError, disconnectedDevice, invalidValue, timeout, logicError, notImplemented,
    outOfBounds, resourceError, fileNotFound, couldNotOpen, dataNotFound, deviceIsBusy,
    wrongDataFormatFound, usecaseNotSupported, frameDropped, noUseCasesForDevice,
    deviceNotInitialized, calibrationDataError, insufficientPrivileges, unknown]

/-- The numeric code. -/
def code : Status → Nat
  | success => 0
  | runtimeError => 1024
  | disconnectedDevice => 1026
  | invalidValue => 1027
  | timeout => 1028
  | logicError => 2048
  | notImplemented => 2049
  | outOfBounds => 2050
  | resourceError => 4096
  | fileNotFound => 4097
  | couldNotOpen => 4098
  | dataNotFound => 4099
  | deviceIsBusy => 4100
  | wrongDataFormatFound => 4101
  | usecaseNotSupported => 5001
  | frameDropped => 5002
  | noUseCasesForDevice => 5003
  | deviceNotInitialized => 5004
  | calibrationDataError => 5005
  | insufficientPrivileges => 5006
  | unknown => 2147483647

/-- The name that listings and messages use. -/
def name : Status → String
  | success => "Success"
  | runtimeError => "RuntimeError"
  | disconnectedDevice => "DisconnectedDevice"
  | invalidValue => "InvalidValue"
  | timeout => "Timeout"
  | logicError => "LogicError"
  | notImplemented => "NotImplemented"
  | outOfBounds => "OutOfBounds"
  | resourceError => "ResourceError"
  | fileNotFound => "FileNotFound"
  | couldNotOpen => "CouldNotOpen"
  | dataNotFound => "DataNotFound"
  | deviceIsBusy => "DeviceIsBusy"
  | wrongDataFormatFound => "WrongDataFormatFound"
  | usecaseNotSupported => "UsecaseNotSupported"
  | frameDropped => "FrameDropped"
  | noUseCasesForDevice => "NoUseCasesForDevice"
  | deviceNotInitialized => "DeviceNotInitialized"
  | calibrationDataError => "CalibrationDataError"
  | insufficientPrivileges => "InsufficientPrivileges"
  | unknown => "Unknown"

/-- The status with a given name. -/
def ofName? (s : String) : Option Status := all.find? (·.name == s)

@[simp] theorem ofName?_name (s : Status) : ofName? s.name = some s := by cases s <;> decide

/-- Whether a code means that the call succeeded. -/
def isSuccess (s : Status) : Bool := s == success

/-- A status as messages show it. -/
def text (s : Status) : String := s!"{s.name} (code {s.code})"

end Status

end DepthRelay
