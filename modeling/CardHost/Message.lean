import CardHost.Handle
import CardHost.Idc.CardData
import CardHost.Idc.Status
import CardHost.ResultCode

/-!
# Messages

What is posted to client windows. A message either completes a request or
reports an event. Completions belong to exactly one request and have no event
class; events go to whoever subscribed to their class.

## Main definitions

* `EventClass`: Sets of event classes.
* `MessageKind`: The kinds of message, each with its event class if any.
* `EventId`: What an event reports.
* `Payload`: The data of a message.
* `Message`: A message, with `Message.completion` and `Message.event` to build
  one.
-/

namespace CardHost

/-- Sets of event classes. -/
abbrev EventClass := BitVec 32

namespace EventClass

def service : EventClass := 0x1#32

def user : EventClass := 0x2#32

def system : EventClass := 0x4#32

def execute : EventClass := 0x8#32

/-- All classes together. -/
def all : EventClass := 0xF#32

/-- The set with the given bits, if every bit is a class. -/
def ofBits? (bits : BitVec 32) : Option EventClass :=
  if Bits.contains all bits then some bits else none

/-- The set to act on: no class at all stands for every class. -/
def orAll (classes : EventClass) : EventClass := if classes = 0#32 then all else classes

end EventClass

/-- The kinds of message. -/
inductive MessageKind where
  | openComplete
  | closeComplete
  | lockComplete
  | unlockComplete
  | registerComplete
  | deregisterComplete
  | getInfoComplete
  | executeComplete
  | executeEvent
  | serviceEvent
  | userEvent
  | systemEvent
  deriving DecidableEq, Repr, Inhabited

namespace MessageKind

/-- The first message number free for applications. -/
def base : Nat := 0x400

/-- The number of a kind. -/
def number : MessageKind → Nat
  | openComplete => base + 1
  | closeComplete => base + 2
  | lockComplete => base + 3
  | unlockComplete => base + 4
  | registerComplete => base + 5
  | deregisterComplete => base + 6
  | getInfoComplete => base + 7
  | executeComplete => base + 8
  | executeEvent => base + 20
  | serviceEvent => base + 21
  | userEvent => base + 22
  | systemEvent => base + 23

/-- The name of a kind. -/
def name : MessageKind → String
  | openComplete => "OpenComplete"
  | closeComplete => "CloseComplete"
  | lockComplete => "LockComplete"
  | unlockComplete => "UnlockComplete"
  | registerComplete => "RegisterComplete"
  | deregisterComplete => "DeregisterComplete"
  | getInfoComplete => "GetInfoComplete"
  | executeComplete => "ExecuteComplete"
  | executeEvent => "ExecuteEvent"
  | serviceEvent => "ServiceEvent"
  | userEvent => "UserEvent"
  | systemEvent => "SystemEvent"

/-- The class of an event, `none` for a completion. -/
def eventClass : MessageKind → Option EventClass
  | executeEvent => some EventClass.execute
  | serviceEvent => some EventClass.service
  | userEvent => some EventClass.user
  | systemEvent => some EventClass.system
  | _ => none

/-- Every kind. -/
def all : List MessageKind :=
  [openComplete, closeComplete, lockComplete, unlockComplete, registerComplete,
   deregisterComplete, getInfoComplete, executeComplete, executeEvent, serviceEvent, userEvent,
   systemEvent]

instance : Named MessageKind := ⟨all, name⟩

end MessageKind

/-- What an event reports. -/
inductive EventId where
  /-- The device status changed. -/
  | deviceStatus
  /-- A card was inserted while a read waited for it. -/
  | mediaInserted
  /-- The card was taken out. -/
  | mediaRemoved
  /-- A card was found during a reset. -/
  | mediaDetected
  deriving DecidableEq, Repr, Inhabited

/-- The number of an event. -/
def EventId.number : EventId → UInt32
  | deviceStatus => 4
  | mediaInserted => 203
  | mediaRemoved => 204
  | mediaDetected => 209

/-- The name of an event. -/
def EventId.name : EventId → String
  | deviceStatus => "DeviceStatus"
  | mediaInserted => "MediaInserted"
  | mediaRemoved => "MediaRemoved"
  | mediaDetected => "MediaDetected"

instance : Named EventId :=
  ⟨[.deviceStatus, .mediaInserted, .mediaRemoved, .mediaDetected], EventId.name⟩

/-- The data of a message. -/
inductive Payload where
  | none
  /-- Answer to a read. -/
  | cardData (data : List CardData)
  /-- Answer of the chip. -/
  | chipIo (io : ChipIo)
  /-- Answer to reset after a power change. -/
  | chipPower (atr : Bytes)
  /-- Answer to a status query. -/
  | status (status : IdcStatus)
  /-- Answer to a capabilities query. -/
  | caps (caps : IdcCaps)
  /-- A reader changed its state. -/
  | deviceStatus (reader : String) (state : DeviceState)
  /-- Where a card was found. -/
  | mediaDetected (position : UInt16)
  deriving DecidableEq, Repr

/-- A message to a client window. -/
structure Message where
  kind : MessageKind
  /-- Session the message is about. -/
  service : ServiceHandle
  /-- Request it belongs to, zero for an event nobody asked for. -/
  request : RequestId
  result : ResultCode
  /-- Command number, information category or event number. -/
  code : UInt32
  payload : Payload
  deriving DecidableEq, Repr

namespace Message

/-- Completion of a request. -/
def completion (kind : MessageKind) (key : RequestKey) (code : UInt32) (result : ResultCode)
    (payload : Payload) : Message :=
  { kind, service := key.service, request := key.request, result, code, payload }

/-- Report of an event. -/
def event (kind : MessageKind) (key : RequestKey) (id : EventId) (payload : Payload) : Message :=
  completion kind key id.number .success payload

/-- Whether the message reports the given event. -/
def isEvent (message : Message) (id : EventId) : Bool :=
  message.kind.eventClass.isSome && message.code == id.number

/-- Whether the message completes a request. -/
def isCompletion (message : Message) : Bool := message.kind.eventClass.isNone

/-- The request a message names. -/
def key (message : Message) : RequestKey := ⟨message.service, message.request⟩

end Message

/-- A message on its way to a window. -/
structure Post where
  window : Window
  message : Message
  deriving DecidableEq, Repr

end CardHost
