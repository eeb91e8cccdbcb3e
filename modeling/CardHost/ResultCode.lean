import CardHost.Named

/-!
# Result Codes

The codes a client sees, both as the synchronous answer to a call and inside
the completion message that follows. Each has a number and a symbolic name,
and is shown to people as the name with the number behind it.

## Main definitions

* `ResultCode`: The codes.
* `ResultCode.value`: The number of a code.
* `ResultCode.text`: The name and number as shown.
-/

namespace CardHost

/-- The outcome of a call or a request. -/
inductive ResultCode where
  /-- The operation completed. -/
  | success
  /-- The request was cancelled. -/
  | canceled
  /-- The device is not ready. -/
  | devNotReady
  /-- The device failed. -/
  | hardwareError
  /-- The provider is in an inconsistent state. -/
  | internalError
  /-- The service class has no such information category. -/
  | invalidCategory
  /-- The service class has no such command. -/
  | invalidCommand
  /-- The set of event classes has an unknown member. -/
  | invalidEventClass
  /-- The service handle names no open session. -/
  | invalidHService
  /-- The window handle is not valid. -/
  | invalidHwnd
  /-- The request id cannot be used, or names no pending request. -/
  | invalidReqId
  /-- The card is locked by someone else. -/
  | locked
  /-- The session holds no lock. -/
  | notLocked
  /-- Sessions are still open. -/
  | notOkToUnload
  /-- The window was not subscribed. -/
  | notRegistered
  /-- The time allowed ran out. -/
  | timeout
  /-- A category of the class that this provider lacks. -/
  | unsuppCategory
  /-- A command of the class that this provider lacks. -/
  | unsuppCommand
  /-- The data of the command is malformed. -/
  | invalidData
  /-- The reader is gone. -/
  | connectionLost
  /-- There is no card in the reader. -/
  | noMedia
  /-- The card cannot be read. -/
  | invalidMedia
  /-- The chip protocol is not supported. -/
  | protocolNotSupp
  /-- The card did not answer to reset. -/
  | atrNotObtained
  deriving DecidableEq, Repr, Inhabited

namespace ResultCode

/-- The number of a code. -/
def value : ResultCode → Int
  | success => 0
  | canceled => -4
  | devNotReady => -13
  | hardwareError => -14
  | internalError => -15
  | invalidCategory => -19
  | invalidCommand => -20
  | invalidEventClass => -21
  | invalidHService => -22
  | invalidHwnd => -24
  | invalidReqId => -27
  | locked => -32
  | notLocked => -37
  | notOkToUnload => -38
  | notRegistered => -40
  | timeout => -48
  | unsuppCategory => -49
  | unsuppCommand => -50
  | invalidData => -52
  | connectionLost => -54
  | noMedia => -201
  | invalidMedia => -205
  | protocolNotSupp => -211
  | atrNotObtained => -212

/-- The symbolic name of a code. -/
def symbol : ResultCode → String
  | success => "WFS_SUCCESS"
  | canceled => "WFS_ERR_CANCELED"
  | devNotReady => "WFS_ERR_DEV_NOT_READY"
  | hardwareError => "WFS_ERR_HARDWARE_ERROR"
  | internalError => "WFS_ERR_INTERNAL_ERROR"
  | invalidCategory => "WFS_ERR_INVALID_CATEGORY"
  | invalidCommand => "WFS_ERR_INVALID_COMMAND"
  | invalidEventClass => "WFS_ERR_INVALID_EVENT_CLASS"
  | invalidHService => "WFS_ERR_INVALID_HSERVICE"
  | invalidHwnd => "WFS_ERR_INVALID_HWND"
  | invalidReqId => "WFS_ERR_INVALID_REQ_ID"
  | locked => "WFS_ERR_LOCKED"
  | notLocked => "WFS_ERR_NOT_LOCKED"
  | notOkToUnload => "WFS_ERR_NOT_OK_TO_UNLOAD"
  | notRegistered => "WFS_ERR_NOT_REGISTERED"
  | timeout => "WFS_ERR_TIMEOUT"
  | unsuppCategory => "WFS_ERR_UNSUPP_CATEGORY"
  | unsuppCommand => "WFS_ERR_UNSUPP_COMMAND"
  | invalidData => "WFS_ERR_INVALID_DATA"
  | connectionLost => "WFS_ERR_CONNECTION_LOST"
  | noMedia => "WFS_ERR_IDC_NOMEDIA"
  | invalidMedia => "WFS_ERR_IDC_INVALIDMEDIA"
  | protocolNotSupp => "WFS_ERR_IDC_PROTOCOLNOTSUPP"
  | atrNotObtained => "WFS_ERR_IDC_ATRNOTOBTAINED"

/-- A code as shown to people, `NAME (number)`. -/
def text (code : ResultCode) : String := s!"{code.symbol} ({code.value})"

/-- Whether the code signals success. -/
def isSuccess (code : ResultCode) : Bool := code == success

/-- Every code, in order of falling number. -/
def all : List ResultCode :=
  [success, canceled, devNotReady, hardwareError, internalError, invalidCategory,
   invalidCommand, invalidEventClass, invalidHService, invalidHwnd, invalidReqId, locked,
   notLocked, notOkToUnload, notRegistered, timeout, unsuppCategory, unsuppCommand,
   invalidData, connectionLost, noMedia, invalidMedia, protocolNotSupp, atrNotObtained]

/-- The plain name of a code. -/
def name : ResultCode → String
  | success => "Success"
  | canceled => "Canceled"
  | devNotReady => "DevNotReady"
  | hardwareError => "HardwareError"
  | internalError => "InternalError"
  | invalidCategory => "InvalidCategory"
  | invalidCommand => "InvalidCommand"
  | invalidEventClass => "InvalidEventClass"
  | invalidHService => "InvalidHService"
  | invalidHwnd => "InvalidHwnd"
  | invalidReqId => "InvalidReqId"
  | locked => "Locked"
  | notLocked => "NotLocked"
  | notOkToUnload => "NotOkToUnload"
  | notRegistered => "NotRegistered"
  | timeout => "Timeout"
  | unsuppCategory => "UnsuppCategory"
  | unsuppCommand => "UnsuppCommand"
  | invalidData => "InvalidData"
  | connectionLost => "ConnectionLost"
  | noMedia => "NoMedia"
  | invalidMedia => "InvalidMedia"
  | protocolNotSupp => "ProtocolNotSupp"
  | atrNotObtained => "AtrNotObtained"

instance : Named ResultCode := ⟨all, name⟩

theorem mem_all (code : ResultCode) : code ∈ all := by
  cases code <;> decide

end ResultCode

end CardHost
