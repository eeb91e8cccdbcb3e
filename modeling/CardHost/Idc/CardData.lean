import CardHost.Card

/-!
# Card Data

What a read request asks for and what it gets. The sources of an
identification card device are three magnetic tracks and the chip. A reader of
chip cards has no tracks, so every source but the chip is answered as not
supported, and the chip is answered with its answer to reset.

The list follows the request: one element per source asked for, in the fixed
order of the sources, and one last element for all bits that name no source.

## Main definitions

* `DataSources`: The sources asked for.
* `CardData`: One element of the answer.
* `CardData.read`: The answer to a request.

## Theorems

* `union_read_source`: The elements cover exactly the sources asked for.
-/

namespace CardHost

/-- Data sources of a read request. -/
abbrev DataSources := BitVec 16

namespace DataSources

/-- First magnetic track. -/
def track1 : DataSources := 0x1#16

/-- Second magnetic track. -/
def track2 : DataSources := 0x2#16

/-- Third magnetic track. -/
def track3 : DataSources := 0x4#16

/-- Answer to reset of the chip. -/
def chip : DataSources := 0x8#16

/-- The sources, in their fixed order. -/
def known : List DataSources := [track1, track2, track3, chip]

/-- All sources together. -/
def all : DataSources := Bits.union known

/-- The set with its source names. -/
def render (sources : DataSources) : String :=
  Bits.render [(track1, "TRACK1"), (track2, "TRACK2"), (track3, "TRACK3"), (chip, "CHIP")] sources

end DataSources

/-- How the read of one source went. -/
inductive DataStatus where
  /-- The data was read. -/
  | ok
  /-- The device has no such source. -/
  | sourceNotSupp
  /-- The source holds no data. -/
  | missing
  deriving DecidableEq, Repr, Inhabited

/-- The name of a data status. -/
def DataStatus.name : DataStatus → String
  | ok => "Ok"
  | sourceNotSupp => "SourceNotSupp"
  | missing => "Missing"

instance : Named DataStatus := ⟨[.ok, .sourceNotSupp, .missing], DataStatus.name⟩

/-- One element of the answer to a read request. -/
structure CardData where
  /-- Source the element is about. -/
  source : DataSources
  /-- How the read went. -/
  status : DataStatus
  /-- The data read. -/
  data : Bytes
  deriving DecidableEq, Repr

namespace CardData

/-- The element for one source of a card that answered to reset with `atr`. -/
def ofSource (atr : Bytes) (source : DataSources) : CardData :=
  if source = DataSources.chip then
    { source, status := if atr.isEmpty then .missing else .ok, data := atr }
  else
    { source, status := .sourceNotSupp, data := [] }

/-- The answer to a read of `sources` from a card that answered to reset with
    `atr`. -/
def read (sources : DataSources) (atr : Bytes) : List CardData :=
  (Bits.split DataSources.known sources).map (ofSource atr)

theorem ofSource_source (atr : Bytes) (source : DataSources) :
    (ofSource atr source).source = source := by
  unfold ofSource
  split <;> rfl

theorem union_read_source (sources : DataSources) (atr : Bytes) :
    Bits.union ((read sources atr).map CardData.source) = sources := by
  have h : CardData.source ∘ ofSource atr = id := funext (ofSource_source atr)
  rw [read, List.map_map, h, List.map_id, Bits.union_split]

end CardData

end CardHost
