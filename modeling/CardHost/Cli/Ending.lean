import CardHost.Clock
import CardHost.HostError

/-!
# How a Command Ends

A command ends well or with a cause that is shown, and in both cases with a
number for whoever started it. The one way to end that has no cause of its own
is a time to watch that goes past the end of the clock.

## Main definitions

* `Failure`: Why a command failed.
* `Ending`: How a command ended.
* `Ending.exitCode`, `Ending.error`: What is told outside.
-/

namespace CardHost

/-- A length of time in words: seconds with as many places as it takes. -/
def Duration.text (duration : Duration) : String :=
  let seconds := duration / Duration.second
  let rest := duration % Duration.second
  if seconds = 0 then if rest = 0 then "0ns" else Nat.repr rest ++ "ms"
  else
    let places := (Nat.toDigits 10 (Duration.second + rest)).drop 1
    let places := (places.reverse.dropWhile (· == '0')).reverse
    let fraction := if places.isEmpty then "" else "." ++ String.ofList places
    Nat.repr seconds ++ fraction ++ "s"

namespace Cli

/-- Why a command failed. -/
inductive Failure where
  /-- The host or a reader turned something down. -/
  | host (cause : HostError)
  /-- The session was not opened. -/
  | notOpened (logicalName : String) (result : ResultCode)
  /-- The status query was not accepted. -/
  | queryRejected (result : ResultCode)
  /-- The status query came to nothing. -/
  | queryFailed (result : ResultCode)
  /-- The read was not accepted. -/
  | readRejected (result : ResultCode)
  /-- The read brought no data of a chip. -/
  | noChipData
  /-- A request was not completed in time. -/
  | overdue (request : RequestId) (allowed : Duration)
  /-- No more messages can come. -/
  | queueClosed
  deriving DecidableEq, Repr

/-- A failure in words. -/
def Failure.message : Failure → String
  | host cause => cause.message
  | notOpened logicalName result => "failed to open " ++ logicalName ++ ": " ++ result.text
  | queryRejected result => "status query rejected: " ++ result.text
  | queryFailed result => "status query failed: " ++ result.text
  | readRejected result => "read rejected: " ++ result.text
  | noChipData => "no chip data in read result"
  | overdue request allowed =>
    "no completion for request " ++ Nat.repr request.toNat ++ " within " ++ allowed.text
  | queueClosed => "message queue closed"

/-- How a command ended. -/
inductive Ending where
  | done
  | failed (cause : Failure)
  /-- A time to watch went past the end of the clock. -/
  | overflow
  deriving DecidableEq, Repr

namespace Ending

/-- The number for whoever started the command. -/
def exitCode : Ending → Nat
  | done => 0
  | failed _ => 1
  | overflow => 101

/-- The cause that is shown, if there is one. -/
def error : Ending → Option String
  | failed cause => some cause.message
  | done | overflow => none

end Ending

/-- The number for arguments that make no sense. -/
def usageExitCode : Nat := 2

end Cli

end CardHost
