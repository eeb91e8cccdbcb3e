import CardHost.Cli.Style
import CardHost.Hex
import CardHost.Message
import CardHost.Text.Record

/-!
# What the Command Line Shows

Messages and results as lines of text. A message is one line: its kind, the
request it belongs to, its code, how the request went, and then its data. A
list of values has one line for its title and one for each value.

## Main definitions

* `success`, `warning`, `resultCode`: Single remarks.
* `keyValueBox`: A list of values under a title.
* `messageLine`: A message in one line.
-/

namespace CardHost

/-- A status in words. -/
def IdcStatus.describe (status : IdcStatus) : String :=
  Text.record "IdcStatus"
    [("device", status.device.name), ("media", status.media.name),
     ("chip_power", status.chipPower.name),
     ("retain_bin_supported", Text.truth status.retainBin),
     ("security_supported", Text.truth status.security), ("cards", Nat.repr status.cards)]

/-- A set of data sources in words. -/
def DataSources.describe (sources : DataSources) : String :=
  "DataSources(" ++ sources.render ++ ")"

/-- A set of chip protocols in words. -/
def ChipProtocols.describe (protocols : ChipProtocols) : String :=
  "ChipProtocols(" ++ protocols.render ++ ")"

/-- Capabilities in words. -/
def IdcCaps.describe (caps : IdcCaps) : String :=
  Text.record "IdcCaps"
    [("dip", Text.truth caps.dip), ("compound", Text.truth caps.compound),
     ("read_tracks", DataSources.describe caps.readTracks),
     ("write_tracks", DataSources.describe caps.writeTracks),
     ("chip_protocols", ChipProtocols.describe caps.chipProtocols),
     ("cards", Nat.repr caps.cards), ("security", Text.truth caps.security),
     ("eject", Text.truth caps.eject), ("chip_power", Text.truth caps.chipPower)]

namespace Cli

/-- Say that something went well. -/
def success (styled : Bool) (text : String) : String := Style.success.apply styled text

/-- Say that something did not turn out as hoped. -/
def warning (styled : Bool) (text : String) : String := Style.warning.apply styled text

/-- A result code, by its looks good or bad. -/
def resultCode (styled : Bool) (code : ResultCode) : String :=
  (if code.isSuccess then Style.success else Style.failure).apply styled code.text

/-- A list of values under a title. -/
def keyValueBox (styled : Bool) (title : String) (items : List (String × String)) : String :=
  items.foldl
    (fun text item => text ++ "\n  " ++ Style.key.apply styled item.1 ++ ": " ++ item.2)
    (Style.title.apply styled title)

/-- One element of card data, after a blank. -/
def cardDataItem (data : CardData) : String :=
  " " ++ DataSources.describe data.source ++ "=" ++ data.status.name ++ ":" ++ Hex.encode data.data

/-- The data of a message, after a blank if there is any. -/
def payloadText : Payload → String
  | .none => ""
  | .cardData data => String.join (data.map cardDataItem)
  | .chipIo io => " " ++ Hex.encode io.data
  | .chipPower atr => " atr=" ++ Hex.encode atr
  | .status status => " " ++ status.describe
  | .caps caps => " " ++ caps.describe
  | .deviceStatus reader state => " " ++ reader ++ " " ++ state.name
  | .mediaDetected position => " position=" ++ Nat.repr position.toNat

/-- A message in one line. -/
def messageLine (styled : Bool) (message : Message) : String :=
  message.kind.name ++ " req=" ++ Nat.repr message.request.toNat ++ " code=" ++
    Nat.repr message.code.toNat ++ " " ++ resultCode styled message.result ++
    payloadText message.payload

end Cli

end CardHost
