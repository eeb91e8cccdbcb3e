import CardHost.Card
import CardHost.Reader.Flags

/-!
# Reader Snapshots

One entry of a wait over reader states: the state the wait starts from and the
state it reported. Every question about a card is asked of the pair, because
"a card was inserted" only means something relative to what was known before.

A card that was taken out and put back between two looks leaves the state bits
as they were, so the pair is asked for the counter too: a card that is present
on both sides with a different count is a replaced one, and a replacement is
an insertion as well.

The list of attached readers is watched through an entry of its own, a pseudo
reader with a reserved name.

## Main definitions

* `Snapshot`: Name, baseline, reported state and answer to reset.
* `Snapshot.record`, `Snapshot.recordAll`: Take in a report, or several.
* `Snapshot.adopt`: Make the report the baseline.
* `Snapshot.inserted`, `Snapshot.replaced`, `Snapshot.removed`: What the report
  says about the card.
* `ChangeKind`: Whether an entry is about a card or about the reader list.
-/

namespace CardHost

/-- What the change of an entry is about. -/
inductive ChangeKind where
  /-- A reader was attached or detached. -/
  | deviceList
  /-- The card in one reader. -/
  | card
  deriving DecidableEq, Repr, Inhabited

/-- The name of a kind of change. -/
def ChangeKind.name : ChangeKind → String
  | deviceList => "DeviceList"
  | card => "Card"

instance : Named ChangeKind := ⟨[.deviceList, .card], ChangeKind.name⟩

/-- State of one reader before and after a wait. -/
structure Snapshot where
  /-- Name of the reader. -/
  name : String
  /-- State the wait starts from. -/
  current : ReaderFlags
  /-- State the last wait reported. -/
  event : ReaderFlags
  /-- Answer to reset of the card in the reader. -/
  atr : Bytes
  deriving DecidableEq, Repr

namespace Snapshot

/-- Name of the pseudo reader that stands for the list of readers. -/
def listName : String := "\\\\?PnP?\\Notification"

/-- An entry with a known baseline and no report yet. -/
def ofBaseline (name : String) (current : ReaderFlags) : Snapshot :=
  { name, current, event := ReaderFlags.unaware, atr := [] }

/-- An entry for a reader of which nothing is known. -/
def unaware (name : String) : Snapshot := ofBaseline name ReaderFlags.unaware

/-- The entry for the list of readers. -/
def readerList : Snapshot := unaware listName

/-- Whether this is the entry for the list of readers. -/
def isReaderList (s : Snapshot) : Bool := s.name == listName

/-- What a change of this entry is about. -/
def kind (s : Snapshot) : ChangeKind := if s.isReaderList then .deviceList else .card

/-- Take in the outcome of a wait. -/
def record (s : Snapshot) (event : ReaderFlags) (atr : Bytes) : Snapshot :=
  { s with event, atr }

/-- Take in the outcome of a wait on several entries, in their order; an entry
    without a report stays as it is. -/
def recordAll : List Snapshot → List (ReaderFlags × Bytes) → List Snapshot
  | s :: rest, report :: reports => s.record report.1 report.2 :: recordAll rest reports
  | rest, _ => rest

/-- Make the reported state the baseline of the next wait. -/
def adopt (s : Snapshot) : Snapshot := { s with current := s.event }

/-- Whether the last wait reported a change. -/
def changed (s : Snapshot) : Bool := Bits.contains s.event ReaderFlags.changed

/-- State bits in which baseline and report differ. -/
def diff (s : Snapshot) : ReaderFlags :=
  Bits.without (s.current.state ^^^ s.event.state) ReaderFlags.changed

/-- Whether the report finds a card in the reader. -/
def present (s : Snapshot) : Bool := Bits.contains s.event ReaderFlags.present

/-- Whether the baseline had a card in the reader. -/
def wasPresent (s : Snapshot) : Bool := Bits.contains s.current ReaderFlags.present

/-- Whether another card is in the reader than in the baseline. -/
def replaced (s : Snapshot) : Bool :=
  s.changed && s.present && s.wasPresent && s.current.count != s.event.count

/-- Whether a card came into the reader. -/
def inserted (s : Snapshot) : Bool :=
  s.changed && s.present && (!s.wasPresent || s.replaced)

/-- Whether the card is gone from the reader. -/
def removed (s : Snapshot) : Bool := s.changed && s.wasPresent && !s.present

/-- Whether the reader is gone or its state cannot be had. -/
def unavailable (s : Snapshot) : Bool :=
  Bits.intersects s.event (ReaderFlags.unavailable ||| ReaderFlags.unknown)

/-- Counter of the last report. -/
def count (s : Snapshot) : BitVec 16 := s.event.count

/-- A replaced card is an inserted card. -/
theorem inserted_of_replaced (s : Snapshot) (h : s.replaced = true) : s.inserted = true := by
  have hc : s.changed = true ∧ s.present = true := by
    simp only [replaced, Bool.and_eq_true] at h
    exact ⟨h.1.1.1, h.1.1.2⟩
  simp only [inserted, hc.1, hc.2, h, Bool.or_true, Bool.and_true]

end Snapshot

end CardHost
