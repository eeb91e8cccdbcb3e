/-!
# Handles

The labels by which clients, sessions and requests are told apart. They are
chosen outside the host and only ever compared.

## Main definitions

* `ServiceHandle`: An open session.
* `RequestId`: A request, unique within its session.
* `Window`: A client window that receives messages.
* `RequestKey`: A session and a request id together.
* `Call`: The session, window and request of a call.
-/

namespace CardHost

/-- Handle of an open session. -/
abbrev ServiceHandle := UInt16

/-- Request number chosen by the client. -/
abbrev RequestId := UInt32

/-- Client window that receives messages. -/
abbrev Window := UInt64

/-- Identity of a request: request numbers repeat across sessions. -/
structure RequestKey where
  service : ServiceHandle
  request : RequestId
  deriving DecidableEq, Repr

/-- A key as shown to people, `service:request`. -/
def RequestKey.text (key : RequestKey) : String := s!"{key.service}:{key.request}"

/-- Who calls: the session, the window that is told the outcome, and the
    number that the client gave the request. -/
structure Call where
  service : ServiceHandle
  window : Window
  request : RequestId
  deriving DecidableEq, Repr

/-- The identity of the request that a call makes. -/
def Call.key (call : Call) : RequestKey := ⟨call.service, call.request⟩

end CardHost
