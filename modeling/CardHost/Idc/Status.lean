import CardHost.Card
import CardHost.Idc.CardData

/-!
# Device Status and Capabilities

What a client learns when it asks an identification card device about itself.
A status is read off the state bits of the card: the first bit that applies
decides, from "a protocol is agreed" down to "there is no card".

## Main definitions

* `DeviceState`, `MediaState`, `ChipPowerState`: The three parts of a status.
* `IdcStatus`: The status, without a card or from the status of one.
* `ChipProtocols`: Chip protocols as a set.
* `IdcCaps`: The capabilities of a chip card reader.
* `ChipIo`: One exchange with the chip.
-/

namespace CardHost

/-- State of the device as a whole. -/
inductive DeviceState where
  | online
  | offline
  | powerOff
  | noDevice
  | hwError
  | userError
  | busy
  deriving DecidableEq, Repr, Inhabited

namespace DeviceState

/-- The number of a device state. -/
def number : DeviceState → Nat
  | online => 0
  | offline => 1
  | powerOff => 2
  | noDevice => 3
  | hwError => 4
  | userError => 5
  | busy => 6

/-- The name of a device state. -/
def name : DeviceState → String
  | online => "Online"
  | offline => "Offline"
  | powerOff => "PowerOff"
  | noDevice => "NoDevice"
  | hwError => "HwError"
  | userError => "UserError"
  | busy => "Busy"

/-- Every device state. -/
def all : List DeviceState := [online, offline, powerOff, noDevice, hwError, userError, busy]

instance : Named DeviceState := ⟨all, name⟩

end DeviceState

/-- Whether there is a card, as far as the device can tell. -/
inductive MediaState where
  | present
  | notPresent
  | jammed
  | notSupp
  | unknown
  | entering
  deriving DecidableEq, Repr

namespace MediaState

/-- The number of a media state. -/
def number : MediaState → Nat
  | present => 1
  | notPresent => 2
  | jammed => 3
  | notSupp => 4
  | unknown => 5
  | entering => 6

/-- The name of a media state. -/
def name : MediaState → String
  | present => "Present"
  | notPresent => "NotPresent"
  | jammed => "Jammed"
  | notSupp => "NotSupp"
  | unknown => "Unknown"
  | entering => "Entering"

end MediaState

/-- Power state of the chip. -/
inductive ChipPowerState where
  | online
  | poweredOff
  | busy
  | noDevice
  | hwError
  | noCard
  | notSupp
  | unknown
  deriving DecidableEq, Repr

namespace ChipPowerState

/-- The number of a chip power state. -/
def number : ChipPowerState → Nat
  | online => 0
  | poweredOff => 1
  | busy => 2
  | noDevice => 3
  | hwError => 4
  | noCard => 5
  | notSupp => 6
  | unknown => 7

/-- The name of a chip power state. -/
def name : ChipPowerState → String
  | online => "Online"
  | poweredOff => "PoweredOff"
  | busy => "Busy"
  | noDevice => "NoDevice"
  | hwError => "HwError"
  | noCard => "NoCard"
  | notSupp => "NotSupp"
  | unknown => "Unknown"

end ChipPowerState

/-- Answer to a status query. -/
structure IdcStatus where
  device : DeviceState
  media : MediaState
  chipPower : ChipPowerState
  /-- The device has a bin for retained cards. -/
  retainBin : Bool
  /-- The device has a security module. -/
  security : Bool
  /-- Cards retained so far. -/
  cards : Nat
  deriving DecidableEq, Repr

namespace IdcStatus

/-- Status of a device that has no card to speak of. -/
def withoutCard (device : DeviceState) : IdcStatus :=
  { device, media := .notPresent, chipPower := .noCard, retainBin := false, security := false,
    cards := 0 }

/-- Media and chip power read off the state bits of a card. -/
def mediaOf (state : CardState) : MediaState × ChipPowerState :=
  if Bits.contains state CardState.specific then (.present, .online)
  else if Bits.contains state CardState.negotiable then (.present, .unknown)
  else if Bits.contains state CardState.swallowed then (.entering, .poweredOff)
  else if Bits.contains state CardState.present then (.present, .poweredOff)
  else if Bits.contains state CardState.absent then (.notPresent, .noCard)
  else (.unknown, .unknown)

/-- Status of a device with an open card connection. -/
def ofCard (status : CardStatus) : IdcStatus :=
  { withoutCard .online with
    media := (mediaOf status.state).1
    chipPower := (mediaOf status.state).2 }

end IdcStatus

/-- Chip protocols as a set. -/
abbrev ChipProtocols := BitVec 16

namespace ChipProtocols

/-- The byte protocol. -/
def t0 : ChipProtocols := 0x1#16

/-- The block protocol. -/
def t1 : ChipProtocols := 0x2#16

/-- The set that holds the protocol agreed with a card; a raw exchange has no
    protocol. -/
def ofProtocol : Option Protocol → ChipProtocols
  | some .t0 => t0
  | some .t1 => t1
  | some .raw | none => 0#16

/-- The set with its protocol names. -/
def render (protocols : ChipProtocols) : String :=
  Bits.render [(t0, "T0"), (t1, "T1")] protocols

end ChipProtocols

/-- Answer to a capabilities query. -/
structure IdcCaps where
  /-- The card is dipped, not pulled in. -/
  dip : Bool
  /-- The device is part of another. -/
  compound : Bool
  readTracks : DataSources
  writeTracks : DataSources
  chipProtocols : ChipProtocols
  /-- Capacity of the bin for retained cards. -/
  cards : Nat
  /-- The device has a security module. -/
  security : Bool
  /-- The device can eject a card. -/
  eject : Bool
  /-- The chip can be powered on and off. -/
  chipPower : Bool
  deriving DecidableEq, Repr

/-- Capabilities of a chip card reader. -/
def IdcCaps.ofReader (canEject : Bool) : IdcCaps :=
  { dip := true, compound := false, readTracks := 0#16, writeTracks := 0#16,
    chipProtocols := ChipProtocols.t0 ||| ChipProtocols.t1, cards := 0, security := false,
    eject := canEject, chipPower := true }

/-- One exchange with the chip: the protocol used and the bytes. -/
structure ChipIo where
  protocol : ChipProtocols
  data : Bytes
  deriving DecidableEq, Repr

end CardHost
