import CardHost.Bits
import CardHost.Named

/-!
# Cards

The vocabulary of a connection to one card: how it is shared, what happens to
the card when the connection is renewed or given up, the transmission protocol
and the status a connection reports.

## Main definitions

* `ShareMode`, `Disposition`, `Protocol`: Options of a connection.
* `CardState`: The state bits of a card.
* `CardStatus`: State, protocol and answer to reset.
-/

namespace CardHost

/-- A byte string, such as a command or an answer to reset. -/
abbrev Bytes := List UInt8

/-- Who else may use the card while a connection is open. -/
inductive ShareMode where
  | exclusive
  | shared
  deriving DecidableEq, Repr, Inhabited

/-- The name of a share mode. -/
def ShareMode.name : ShareMode → String
  | exclusive => "Exclusive"
  | shared => "Shared"

instance : Named ShareMode := ⟨[.exclusive, .shared], ShareMode.name⟩

/-- What is done to the card when a connection is renewed or given up. -/
inductive Disposition where
  /-- Leave the card as it is. -/
  | leave
  /-- Warm reset. -/
  | reset
  /-- Power the card down. -/
  | unpower
  /-- Eject the card. -/
  | eject
  deriving DecidableEq, Repr, Inhabited

/-- The name of a disposition. -/
def Disposition.name : Disposition → String
  | leave => "Leave"
  | reset => "Reset"
  | unpower => "Unpower"
  | eject => "Eject"

instance : Named Disposition := ⟨[.leave, .reset, .unpower, .eject], Disposition.name⟩

/-- Transmission protocol agreed with a card. -/
inductive Protocol where
  | t0
  | t1
  | raw
  deriving DecidableEq, Repr, Inhabited

/-- The name of a protocol. -/
def Protocol.name : Protocol → String
  | t0 => "T0"
  | t1 => "T1"
  | raw => "Raw"

instance : Named Protocol := ⟨[.t0, .t1, .raw], Protocol.name⟩

/-- State bits of a card. -/
abbrev CardState := BitVec 32

namespace CardState

/-- The state is not known. -/
def unknown : CardState := 0x01#32

/-- There is no card. -/
def absent : CardState := 0x02#32

/-- There is a card. -/
def present : CardState := 0x04#32

/-- The card is in position for use. -/
def swallowed : CardState := 0x08#32

/-- The card is powered. -/
def powered : CardState := 0x10#32

/-- The card awaits a choice of protocol. -/
def negotiable : CardState := 0x20#32

/-- A protocol has been agreed. -/
def specific : CardState := 0x40#32

/-- The bits with a name. -/
def known : List CardState :=
  [unknown, absent, present, swallowed, powered, negotiable, specific]

end CardState

/-- What an open connection tells about its card. -/
structure CardStatus where
  /-- State bits. -/
  state : CardState
  /-- Protocol in use, if any. -/
  protocol : Option Protocol
  /-- Answer to reset. -/
  atr : Bytes
  deriving DecidableEq, Repr, Inhabited

end CardHost
