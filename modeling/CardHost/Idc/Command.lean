import CardHost.HostError
import CardHost.Idc.CardData

/-!
# Commands

The commands of an identification card device and how they arrive: a code and
a buffer. Reads and power changes carry one little-endian word, an exchange
with the chip carries the command bytes themselves, and every other command
carries nothing.

`decode` reads a code and its buffer, and `Command.code` and `Command.data`
write them. Writing and reading back gives the command again, and reading
fails only where a word is called for and none fits.

## Main definitions

* `CommandCode`, `InfoCategory`, `PowerAction`: Numbers with a meaning.
* `Command`: A command to execute.
* `Command.decode`: The command in a code and a buffer.
* `Command.code`, `Command.data`: The code and the buffer of a command.
-/

namespace CardHost

/-- The commands of the device class. -/
inductive CommandCode where
  | readTrack
  | writeTrack
  | ejectCard
  | retainCard
  | resetCount
  | setKey
  | readRawData
  | writeRawData
  | chipIo
  | reset
  | chipPower
  | parseData
  deriving DecidableEq, Repr, Inhabited

namespace CommandCode

/-- The number of a command. -/
def number : CommandCode → UInt32
  | readTrack => 201
  | writeTrack => 202
  | ejectCard => 203
  | retainCard => 204
  | resetCount => 205
  | setKey => 206
  | readRawData => 207
  | writeRawData => 208
  | chipIo => 209
  | reset => 210
  | chipPower => 211
  | parseData => 212

/-- Every command, in order of number. -/
def all : List CommandCode :=
  [readTrack, writeTrack, ejectCard, retainCard, resetCount, setKey, readRawData, writeRawData,
   chipIo, reset, chipPower, parseData]

/-- The command with a number. -/
def ofNumber? (number : UInt32) : Option CommandCode := all.find? (·.number == number)

/-- The name of a command. -/
def name : CommandCode → String
  | readTrack => "ReadTrack"
  | writeTrack => "WriteTrack"
  | ejectCard => "EjectCard"
  | retainCard => "RetainCard"
  | resetCount => "ResetCount"
  | setKey => "SetKey"
  | readRawData => "ReadRawData"
  | writeRawData => "WriteRawData"
  | chipIo => "ChipIo"
  | reset => "Reset"
  | chipPower => "ChipPower"
  | parseData => "ParseData"

instance : Named CommandCode := ⟨all, name⟩

theorem ofNumber?_number (command : CommandCode) : ofNumber? command.number = some command := by
  cases command <;> rfl

theorem number_of_ofNumber? {code : UInt32} {command : CommandCode}
    (h : ofNumber? code = some command) : command.number = code := by
  have := List.find?_some h
  exact beq_iff_eq.mp this

end CommandCode

/-- What can be asked about the device. -/
inductive InfoCategory where
  | status
  | capabilities
  | formList
  | queryForm
  deriving DecidableEq, Repr, Inhabited

namespace InfoCategory

/-- The number of a category. -/
def number : InfoCategory → UInt32
  | status => 201
  | capabilities => 202
  | formList => 203
  | queryForm => 204

/-- Every category, in order of number. -/
def all : List InfoCategory := [status, capabilities, formList, queryForm]

/-- The category with a number. -/
def ofNumber? (number : UInt32) : Option InfoCategory := all.find? (·.number == number)

/-- The name of a category. -/
def name : InfoCategory → String
  | status => "Status"
  | capabilities => "Capabilities"
  | formList => "FormList"
  | queryForm => "QueryForm"

instance : Named InfoCategory := ⟨all, name⟩

end InfoCategory

/-- What to do with the power of the chip. -/
inductive PowerAction where
  /-- Power off and on again. -/
  | cold
  /-- Reset under power. -/
  | warm
  /-- Power off. -/
  | off
  deriving DecidableEq, Repr, Inhabited

namespace PowerAction

/-- The word that stands for an action. -/
def word : PowerAction → BitVec 16
  | cold => 0x2#16
  | warm => 0x4#16
  | off => 0x8#16

/-- Every action. -/
def all : List PowerAction := [cold, warm, off]

/-- The action a word stands for. -/
def ofWord? (word : BitVec 16) : Option PowerAction := all.find? (·.word == word)

/-- What the action does to the card when its connection is renewed. -/
def disposition : PowerAction → Disposition
  | cold => .unpower
  | warm => .reset
  | off => .leave

/-- The name of an action. -/
def name : PowerAction → String
  | cold => "Cold"
  | warm => "Warm"
  | off => "Off"

instance : Named PowerAction := ⟨all, name⟩

end PowerAction

/-- The little-endian word at the front of a buffer. -/
def wordOf? : Bytes → Option (BitVec 16)
  | low :: high :: _ => some (high.toBitVec ++ low.toBitVec)
  | _ => none

/-- A word as two bytes, low byte first. -/
def bytesOf (word : BitVec 16) : Bytes :=
  [⟨word.extractLsb' 0 8⟩, ⟨word.extractLsb' 8 8⟩]

/-- A command to execute. -/
inductive Command where
  /-- Wait for a card and read these sources. -/
  | readRawData (sources : DataSources)
  /-- Send a command to the chip. -/
  | chipIo (data : Bytes)
  /-- Change the power of the chip. -/
  | chipPower (action : PowerAction)
  /-- Reset the device. -/
  | reset
  /-- Eject the card. -/
  | ejectCard
  /-- A command of the class that this device cannot perform. -/
  | unsupported (code : CommandCode)
  /-- A number that names no command of the class. -/
  | unknown (code : UInt32)
  deriving DecidableEq, Repr

namespace Command

/-- The number reported back in the completion. -/
def code : Command → UInt32
  | readRawData _ => CommandCode.readRawData.number
  | chipIo _ => CommandCode.chipIo.number
  | chipPower _ => CommandCode.chipPower.number
  | reset => CommandCode.reset.number
  | ejectCard => CommandCode.ejectCard.number
  | unsupported code => code.number
  | unknown code => code

/-- The buffer that goes with the number. -/
def data : Command → Bytes
  | readRawData sources => bytesOf sources
  | chipIo data => data
  | chipPower action => bytesOf action.word
  | reset | ejectCard | unsupported _ | unknown _ => []

/-- The command in a number and its buffer. Sources that the device class does
    not define are dropped. -/
def decode (code : UInt32) (data : Bytes) : Except HostError Command :=
  match CommandCode.ofNumber? code with
  | none => .ok (unknown code)
  | some .readRawData =>
    match wordOf? data with
    | some word => .ok (readRawData (word &&& DataSources.all))
    | none => .error (.malformedCommand code)
  | some .chipIo => .ok (chipIo data)
  | some .chipPower =>
    match (wordOf? data).bind PowerAction.ofWord? with
    | some action => .ok (chipPower action)
    | none => .error (.malformedCommand code)
  | some .reset => .ok reset
  | some .ejectCard => .ok ejectCard
  | some other => .ok (unsupported other)

end Command

/-- A word survives being written and read. -/
theorem wordOf?_bytesOf (word : BitVec 16) (rest : Bytes) :
    wordOf? (bytesOf word ++ rest) = some word := by
  show some (word.extractLsb' 8 8 ++ word.extractLsb' 0 8) = some word
  rw [BitVec.extractLsb'_append_extractLsb'_eq_extractLsb' (by omega)]
  exact congrArg some (BitVec.extractLsb'_eq_self)

end CardHost
