import CardHost.Pcsc.Native
import CardHost.Text.Quoted
import CardHost.Text.Record

/-!
# Cards Over PC/SC

A connection to one card. The resource manager knows no lock: exclusive use is
a matter of the share mode, which changes when a connection is renewed. So
taking the card for exclusive use, giving it up, and resetting the card are
all the same call with different options, and every renewal but the first of
these goes back to the mode the connection was opened with.

A connection that fails in an exchange because the card is gone is given up on
the spot, and the card reset in case it is still there. Otherwise the card is
left as it is when the connection is given up; only if that fails is it reset.

## Main definitions

* `Card`: A connection.
* `Card.status`, `Card.transmit`, `Card.renew`: What can be done with it.
* `Card.release`: Give it up.
* `Card.Exchanged`, `Card.Renewed`, `Card.Released`: How these can go.

## Theorems

* `transmit_exchanged`, `renew_renewed`, `release_released`: They go like that.
-/

namespace CardHost

namespace Pcsc

/-- A connection to a card. -/
structure Card where
  /-- Handle of the connection, `none` once it was given up. -/
  handle : Option Handle
  /-- Protocol of the card when the connection was last renewed. -/
  protocol : Option Protocol
  reader : String
  /-- Share mode the connection was opened with. -/
  mode : ShareMode
  deriving DecidableEq, Repr

namespace Card

variable {ν : Type}

/-- A connection in words. -/
def describe (c : Card) : String :=
  Text.record "PcscCard"
    [("reader", Text.quote c.reader), ("connected", Text.truth c.handle.isSome),
     ("mode", c.mode.name)]

/-- How much room there is for the answer of a card. -/
def room : Nat := 264

/-- Ask for the status of the card. -/
def status (native : Native ν) (c : Card) (s : ν) :
    Reply ν NativeNote (Except CardError CardStatus × Card) :=
  match c.handle with
  | none => ⟨(.error .invalidHandle, c), s, []⟩
  | some handle =>
    let reply := noted (.status handle) (native.status handle s)
    let answer := (caused reply.value).map fun status : NativeStatus =>
      { state := status.state &&& Bits.union CardState.known
        protocol := status.protocol
        atr := status.atr : CardStatus }
    ⟨(answer, c), reply.state, reply.notes⟩

/-- Give a connection up, resetting the card. -/
def abandon (native : Native ν) (handle : Handle) (s : ν) : Reply ν NativeNote Unit :=
  let reply := noted (.disconnect handle .reset) (native.disconnect handle .reset s)
  ⟨(), reply.state, reply.notes⟩

/-- Whether an exchange that failed like this leaves nothing to connect to. -/
def isLost (e : CardError) : Bool := e == .removedCard || e == .invalidHandle

/-- Exchange a command with the card. -/
def transmit (native : Native ν) (command : Bytes) (c : Card) (s : ν) :
    Reply ν NativeNote (Except CardError Bytes × Card) :=
  match c.handle, c.protocol with
  | none, _ => ⟨(.error .invalidHandle, c), s, []⟩
  | some _, none => ⟨(.error (.other Code.protocolMismatch), c), s, []⟩
  | some handle, some protocol =>
    let reply := noted (.transmit handle protocol command room)
      (native.transmit handle protocol command room s)
    match caused reply.value with
    | .ok data => ⟨(.ok data, c), reply.state, reply.notes⟩
    | .error e =>
      if isLost e then
        let gone := abandon native handle reply.state
        ⟨(.error e, { c with handle := none }), gone.state, reply.notes ++ gone.notes⟩
      else ⟨(.error e, c), reply.state, reply.notes⟩

/-- Renew the connection in a share mode, treating the card as told. -/
def renew (native : Native ν) (mode : ShareMode) (disposition : Disposition) (c : Card) (s : ν) :
    Reply ν NativeNote (Except CardError Unit × Card) :=
  match c.handle with
  | none => ⟨(.error .invalidHandle, c), s, []⟩
  | some handle =>
    let reply := noted (.reconnect handle mode disposition)
      (native.reconnect handle mode disposition s)
    match caused reply.value with
    | .ok protocol => ⟨(.ok (), { c with protocol }), reply.state, reply.notes⟩
    | .error e => ⟨(.error e, c), reply.state, reply.notes⟩

/-- Take the card for exclusive use. -/
def lock (native : Native ν) (c : Card) (s : ν) :
    Reply ν NativeNote (Except CardError Unit × Card) :=
  c.renew native .exclusive .leave s

/-- Give up exclusive use. -/
def unlock (native : Native ν) (c : Card) (s : ν) :
    Reply ν NativeNote (Except CardError Unit × Card) :=
  c.renew native c.mode .leave s

/-- Renew the connection as it was opened. -/
def reconnect (native : Native ν) (disposition : Disposition) (c : Card) (s : ν) :
    Reply ν NativeNote (Except CardError Unit × Card) :=
  c.renew native c.mode disposition s

/-- Give the connection up and leave the card as it is, if that can be done. -/
def release (native : Native ν) (c : Card) (s : ν) : Reply ν NativeNote Unit :=
  match c.handle with
  | none => ⟨(), s, []⟩
  | some handle =>
    let reply := noted (.disconnect handle .leave) (native.disconnect handle .leave s)
    match reply.value with
    | .ok () => ⟨(), reply.state, reply.notes⟩
    | .error _ =>
      let gone := abandon native handle reply.state
      ⟨(), gone.state, reply.notes ++ gone.notes⟩

/-- How the exchange of a command can go. -/
inductive Exchanged (native : Native ν) (command : Bytes) (c : Card) (s : ν) :
    Reply ν NativeNote (Except CardError Bytes × Card) → Prop where
  | unconnected (hhandle : c.handle = none) :
      Exchanged native command c s ⟨(.error .invalidHandle, c), s, []⟩
  | mismatched {handle : Handle} (hhandle : c.handle = some handle)
      (hprotocol : c.protocol = none) :
      Exchanged native command c s ⟨(.error (.other Code.protocolMismatch), c), s, []⟩
  | answered {handle : Handle} {protocol : Protocol} {data : Bytes} {s' : ν}
      (hhandle : c.handle = some handle) (hprotocol : c.protocol = some protocol)
      (hmade : native.transmit handle protocol command room s = (.ok data, s')) :
      Exchanged native command c s
        ⟨(.ok data, c), s', [.transmit handle protocol command room Code.success]⟩
  | failed {handle : Handle} {protocol : Protocol} {code : Code} {s' : ν}
      (hhandle : c.handle = some handle) (hprotocol : c.protocol = some protocol)
      (hmade : native.transmit handle protocol command room s = (.error code, s'))
      (hkept : isLost (Code.error code) = false) :
      Exchanged native command c s
        ⟨(.error (Code.error code), c), s', [.transmit handle protocol command room code]⟩
  /-- The card is gone, and so the connection is given up. -/
  | lost {handle : Handle} {protocol : Protocol} {code : Code} {s' s'' : ν}
      {answer : Except Code Unit} (hhandle : c.handle = some handle)
      (hprotocol : c.protocol = some protocol)
      (hmade : native.transmit handle protocol command room s = (.error code, s'))
      (hlost : isLost (Code.error code) = true)
      (hgone : native.disconnect handle .reset s' = (answer, s'')) :
      Exchanged native command c s
        ⟨(.error (Code.error code), { c with handle := none }), s'',
          [.transmit handle protocol command room code,
            .disconnect handle .reset (codeOf answer)]⟩

theorem transmit_exchanged (native : Native ν) (command : Bytes) (c : Card) (s : ν) :
    Exchanged native command c s (c.transmit native command s) := by
  rcases c with ⟨_ | handle, _ | protocol, reader, mode⟩
  · exact .unconnected rfl
  · exact .unconnected rfl
  · exact .mismatched rfl rfl
  · rcases hmade : native.transmit handle protocol command room s with ⟨code | data, s'⟩
    · cases hlost : isLost (Code.error code) with
      | true =>
          rcases hgone : native.disconnect handle .reset s' with ⟨answer, s''⟩
          simp only [transmit, noted, hmade, caused_error, hlost, if_true, abandon, hgone]
          exact .lost rfl rfl hmade hlost hgone
      | false =>
          simp only [transmit, noted, hmade, caused_error, hlost, Bool.false_eq_true, if_false]
          exact .failed rfl rfl hmade hlost
    · simp only [transmit, noted, hmade, caused_ok]
      exact .answered rfl rfl hmade

/-- How the renewal of a connection can go. -/
inductive Renewed (native : Native ν) (mode : ShareMode) (disposition : Disposition) (c : Card)
    (s : ν) : Reply ν NativeNote (Except CardError Unit × Card) → Prop where
  | unconnected (hhandle : c.handle = none) :
      Renewed native mode disposition c s ⟨(.error .invalidHandle, c), s, []⟩
  | failed {handle : Handle} {code : Code} {s' : ν} (hhandle : c.handle = some handle)
      (hmade : native.reconnect handle mode disposition s = (.error code, s')) :
      Renewed native mode disposition c s
        ⟨(.error (Code.error code), c), s', [.reconnect handle mode disposition code]⟩
  | done {handle : Handle} {protocol : Option Protocol} {s' : ν} (hhandle : c.handle = some handle)
      (hmade : native.reconnect handle mode disposition s = (.ok protocol, s')) :
      Renewed native mode disposition c s
        ⟨(.ok (), { c with protocol }), s', [.reconnect handle mode disposition Code.success]⟩

theorem renew_renewed (native : Native ν) (mode : ShareMode) (disposition : Disposition)
    (c : Card) (s : ν) :
    Renewed native mode disposition c s (c.renew native mode disposition s) := by
  rcases c with ⟨_ | handle, former, reader, opened⟩
  · exact .unconnected rfl
  · rcases hmade : native.reconnect handle mode disposition s with ⟨code | protocol, s'⟩
    · simp only [renew, noted, hmade, caused_error]
      exact .failed rfl hmade
    · simp only [renew, noted, hmade, caused_ok]
      exact .done rfl hmade

/-- How giving a connection up can go. -/
inductive Released (native : Native ν) (c : Card) (s : ν) : Reply ν NativeNote Unit → Prop where
  | unconnected (hhandle : c.handle = none) : Released native c s ⟨(), s, []⟩
  | left {handle : Handle} {s' : ν} (hhandle : c.handle = some handle)
      (hmade : native.disconnect handle .leave s = (.ok (), s')) :
      Released native c s ⟨(), s', [.disconnect handle .leave Code.success]⟩
  /-- The card cannot be left as it is. -/
  | forced {handle : Handle} {code : Code} {s' s'' : ν} {answer : Except Code Unit}
      (hhandle : c.handle = some handle)
      (hmade : native.disconnect handle .leave s = (.error code, s'))
      (hgone : native.disconnect handle .reset s' = (answer, s'')) :
      Released native c s ⟨(), s'',
        [.disconnect handle .leave code, .disconnect handle .reset (codeOf answer)]⟩

theorem release_released (native : Native ν) (c : Card) (s : ν) :
    Released native c s (c.release native s) := by
  rcases hhandle : c.handle with _ | handle
  · simp only [release, hhandle]
    exact .unconnected hhandle
  · rcases hmade : native.disconnect handle .leave s with ⟨code | _, s'⟩
    · rcases hgone : native.disconnect handle .reset s' with ⟨answer, s''⟩
      simp only [release, hhandle, noted, hmade, abandon, hgone]
      exact .forced hhandle hmade hgone
    · simp only [release, hhandle, noted, hmade]
      exact .left hhandle hmade

end Card

end Pcsc

end CardHost
