import CardHost.Backend
import CardHost.Pcsc.Code

/-!
# The Functions of the Resource Manager

The functions a PC/SC resource manager offers, as a record over a state of its
own. Nothing is assumed about them: a function answers with a code, or with
values, and goes to a next state.

Whatever is passed to a function and whatever code it answers with is noted by
the caller, so the notes tell exactly what the resource manager was asked.
Options travel as numbers; the numbers are fixed here.

## Main definitions

* `Native`: The functions.
* `NativeNote`: A call and its code.
* `Native.call`: Make a call and note it.
* `shareNumber`, `dispositionNumber`, `protocolNumber`, `timeoutNumber`: The
  numbers of options.
-/

namespace CardHost

namespace Pcsc

/-- Handle of a context or a card. -/
abbrev Handle := Nat

/-- What a resource manager tells about a card. -/
structure NativeStatus where
  state : BitVec 32
  protocol : Option Protocol
  atr : Bytes
  deriving DecidableEq, Repr

/-- An entry of a wait as it is passed: a name and a baseline. -/
structure NativeEntry where
  name : String
  current : ReaderFlags
  deriving DecidableEq, Repr

/-- The number of a share mode. -/
def shareNumber : ShareMode → Nat
  | .exclusive => 1
  | .shared => 2

/-- The number of a disposition. -/
def dispositionNumber : Disposition → Nat
  | .leave => 0
  | .reset => 1
  | .unpower => 2
  | .eject => 3

/-- The name that the resource manager has for a disposition. -/
def dispositionName (d : Disposition) : String := d.name ++ "Card"

/-- The number of a protocol. -/
def protocolNumber : Protocol → Nat
  | .t0 => 1
  | .t1 => 2
  | .raw => 4

/-- Both chip protocols. -/
def anyProtocol : Nat := 3

/-- The scope of a user. -/
def userScope : Nat := 0

/-- The number that stands for no limit of time, and the greatest there is. -/
def infinite : Nat := 0xFFFFFFFF

/-- The number of a time allowed; what is too long for a number has no limit. -/
def timeoutNumber (timeout : Option Duration) : Nat := min (timeout.getD infinite) infinite

/-- The functions of a resource manager over a state `ν`. -/
structure Native (ν : Type) where
  establish : ν → Except Code Handle × ν
  releaseContext : Handle → ν → ν
  listReaders : Handle → ν → Except Code (List String) × ν
  /-- The reports of a wait, `none` while it goes on. The flag tells whether
      the time allowed is over. -/
  statusChange : Handle → Bool → List NativeEntry → ν →
    Option (Except Code (List (ReaderFlags × Bytes)) × ν)
  /-- Call off a wait; the flag tells whether one is under way. -/
  cancel : Handle → Bool → ν → Except Code Unit × ν
  connect : Handle → String → ShareMode → ν → Except Code (Handle × Option Protocol) × ν
  status : Handle → ν → Except Code NativeStatus × ν
  /-- Exchange a command; the number is the room for the answer. -/
  transmit : Handle → Protocol → Bytes → Nat → ν → Except Code Bytes × ν
  reconnect : Handle → ShareMode → Disposition → ν → Except Code (Option Protocol) × ν
  disconnect : Handle → Disposition → ν → Except Code Unit × ν

/-- A call and its code. -/
inductive NativeNote where
  | establish (code : Code)
  | releaseContext (context : Handle)
  | list (context : Handle) (answer : Except Code (List String))
  | wait (context : Handle) (timeout : Nat) (entries : List NativeEntry)
      (answer : Except Code (List ReaderFlags))
  | cancel (context : Handle) (code : Code)
  | connect (context : Handle) (reader : String) (mode : ShareMode) (code : Code)
  | status (card : Handle) (code : Code)
  | transmit (card : Handle) (protocol : Protocol) (data : Bytes) (room : Nat) (code : Code)
  | reconnect (card : Handle) (mode : ShareMode) (disposition : Disposition) (code : Code)
  | disconnect (card : Handle) (disposition : Disposition) (code : Code)

/-- The code of an answer. -/
def codeOf {α : Type} : Except Code α → Code
  | .ok _ => Code.success
  | .error code => code

/-- Make a call and note its code. -/
def noted {ν α : Type} (note : Code → NativeNote) (made : Except Code α × ν) :
    Reply ν NativeNote (Except Code α) :=
  ⟨made.1, made.2, [note (codeOf made.1)]⟩

/-- An answer with its cause in place of its code. -/
def caused {α : Type} (answer : Except Code α) : Except CardError α :=
  answer.mapError Code.error

@[simp] theorem caused_ok {α : Type} (a : α) : caused (.ok a) = .ok a := rfl

@[simp] theorem caused_error {α : Type} (code : Code) :
    caused (.error code : Except Code α) = .error code.error := rfl

end Pcsc

end CardHost
