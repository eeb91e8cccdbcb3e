import CardHost.CardError

/-!
# Status Codes of the Resource Manager

The numbers in which a PC/SC resource manager tells how a call went, and the
causes they stand for. A cause of its own is given to the codes that the host
acts on; a service that was stopped counts as one that is not running, and
every other code is carried as it is.

## Main definitions

* `Code`: The numbers.
* `Code.error`: The cause that a code stands for.
* `Code.ofError`: The code that tells of a cause.

## Theorems

* `error_ofError`: A code made for a cause stands for that cause.
-/

namespace CardHost

namespace Pcsc

/-- Status code of a call; zero is success. -/
abbrev Code := UInt32

namespace Code

/-- The call succeeded. -/
def success : Code := 0

/-- The resource manager was stopped. -/
def serviceStopped : Code := 0x8010001E

/-- The answer does not fit the room that was left for it. -/
def insufficientBuffer : Code := 0x80100008

/-- The card and its user have no protocol in common. -/
def protocolMismatch : Code := 0x8010000F

/-- The code that tells of a cause. -/
def ofError : CardError → Code
  | .cancelled => 0x80100002
  | .invalidHandle => 0x80100003
  | .unknownReader => 0x80100009
  | .timeout => 0x8010000A
  | .sharingViolation => 0x8010000B
  | .noSmartcard => 0x8010000C
  | .commError => 0x80100013
  | .readerUnavailable => 0x80100017
  | .noService => 0x8010001D
  | .noReadersAvailable => 0x8010002E
  | .resetCard => 0x80100068
  | .removedCard => 0x80100069
  | .other code => code

/-- The causes that have a code of their own. -/
def causes : List CardError :=
  [.cancelled, .invalidHandle, .unknownReader, .timeout, .sharingViolation, .noSmartcard,
   .commError, .readerUnavailable, .noService, .noReadersAvailable, .resetCard, .removedCard]

/-- The cause that a code stands for. -/
def error (code : Code) : CardError :=
  if code = serviceStopped then .noService
  else (causes.find? fun cause => ofError cause == code).getD (.other code)

theorem error_ofError (cause : CardError) (h : cause ∈ causes) :
    error (ofError cause) = cause := by
  revert cause
  decide

end Code

end Pcsc

end CardHost
