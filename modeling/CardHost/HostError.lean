import CardHost.CardError
import CardHost.Handle

/-!
# Host Errors

Why the host turns a call down, as causes. The wording and the result code of
each cause are fixed here and nowhere else.

## Main definitions

* `HostError`: The causes.
* `HostError.result`: The code reported to clients.
* `HostError.message`: The cause in words.
-/

namespace CardHost

/-- Why the host turned something down. -/
inductive HostError where
  /-- A reader or card call failed. -/
  | card (cause : CardError)
  /-- A request with the same key is pending. -/
  | duplicateRequest (key : RequestKey)
  /-- The configuration has no logical service of this name. -/
  | unknownLogicalService (name : String)
  /-- The configuration could not be read. -/
  | badConfiguration
  /-- The handle names no open session. -/
  | unknownHandle (handle : ServiceHandle)
  /-- A session is already open under the handle. -/
  | handleInUse (handle : ServiceHandle)
  /-- Unlock of a session that holds no lock. -/
  | notLocked (handle : ServiceHandle)
  /-- The data of a command does not fit the command. -/
  | malformedCommand (code : UInt32)
  /-- The watch over the readers could not be started. -/
  | noWatcher (cause : String)
  deriving DecidableEq, Repr

namespace HostError

/-- The result code a client is told. -/
def result : HostError → ResultCode
  | card cause => cause.result
  | duplicateRequest _ => .invalidReqId
  | unknownLogicalService _ | badConfiguration => .internalError
  | unknownHandle _ => .invalidHService
  | handleInUse _ => .internalError
  | notLocked _ => .notLocked
  | malformedCommand _ => .invalidData
  | noWatcher _ => .internalError

/-- The error in words. -/
def message : HostError → String
  | card cause => cause.message
  | duplicateRequest key =>
    s!"request {key.request} is already pending for service {key.service}"
  | unknownLogicalService name => s!"logical service \x60{name}\x60 is not configured"
  | badConfiguration => "invalid configuration"
  | unknownHandle handle => s!"invalid service handle {handle}"
  | handleInUse handle => s!"service handle {handle} is already open"
  | notLocked handle => s!"service {handle} is not locked"
  | malformedCommand code => s!"malformed data for command {code}"
  | noWatcher cause => s!"failed to start reader monitor: {cause}"

/-- No failure is reported as a success. -/
theorem result_ne_success (e : HostError) : e.result ≠ .success := by
  cases e with
  | card cause => exact cause.result_ne_success
  | duplicateRequest | unknownLogicalService | badConfiguration | unknownHandle | handleInUse
  | notLocked | malformedCommand | noWatcher => exact ResultCode.noConfusion

end HostError

end CardHost
