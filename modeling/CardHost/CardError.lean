import CardHost.Hex
import CardHost.Named
import CardHost.ResultCode

/-!
# Card Errors

What can go wrong when a reader or a card is asked for something. The causes
are the ones a resource manager tells apart; every further status code is
carried as its number.

Two things are decided here about a cause: which result code a client is told,
and whether the connection it happened on is still worth keeping. The second
is what a session goes by when a call fails.

## Main definitions

* `CardError`: The causes.
* `CardError.result`: The code reported to clients.
* `CardError.dropsConnection`: The connection is useless afterwards.
* `CardError.message`: The cause in words.
-/

namespace CardHost

/-- Why a reader or card call failed. -/
inductive CardError where
  /-- The blocking call was cancelled. -/
  | cancelled
  /-- The time allowed for the call ran out. -/
  | timeout
  /-- The handle is not valid. -/
  | invalidHandle
  /-- The resource manager is not running. -/
  | noService
  /-- The reader is unavailable. -/
  | readerUnavailable
  /-- Someone else uses the card exclusively. -/
  | sharingViolation
  /-- Communication with the card broke down. -/
  | commError
  /-- There is no card in the reader. -/
  | noSmartcard
  /-- The card was taken out. -/
  | removedCard
  /-- The card was reset by someone else. -/
  | resetCard
  /-- No reader has this name. -/
  | unknownReader
  /-- No reader is attached at all. -/
  | noReadersAvailable
  /-- Any other status code. -/
  | other (code : UInt32)
  deriving DecidableEq, Repr, Inhabited

namespace CardError

/-- The result code a client is told for a failure. -/
def result : CardError → ResultCode
  | invalidHandle => .invalidHService
  | readerUnavailable | unknownReader => .connectionLost
  | sharingViolation => .locked
  | commError => .hardwareError
  | timeout => .timeout
  | cancelled => .canceled
  | noSmartcard | removedCard => .noMedia
  | noService | resetCard | noReadersAvailable | other _ => .internalError

/-- Whether the failure makes an open connection useless. -/
def dropsConnection : CardError → Bool
  | removedCard | resetCard | noSmartcard | readerUnavailable | unknownReader
  | invalidHandle => true
  | _ => false

/-- Whether the failure only says that there is no card to work with. -/
def isAbsence : CardError → Bool
  | noSmartcard | removedCard => true
  | _ => false

/-- The failure in words. -/
def message : CardError → String
  | cancelled => "Wait was cancelled"
  | timeout => "Timeout expired"
  | invalidHandle => "Invalid handle"
  | noService => "Resource manager is not running"
  | readerUnavailable => "Reader is unavailable"
  | sharingViolation => "Card is in use by another connection"
  | commError => "Communication error"
  | noSmartcard => "No card in reader"
  | removedCard => "Card was removed"
  | resetCard => "Card was reset"
  | unknownReader => "Unknown reader"
  | noReadersAvailable => "No readers available"
  | other code => "Resource manager error 0x" ++ Hex.padded 8 code.toNat

/-- The causes other than a bare status code. -/
def all : List CardError :=
  [cancelled, timeout, invalidHandle, noService, readerUnavailable, sharingViolation, commError,
   noSmartcard, removedCard, resetCard, unknownReader, noReadersAvailable]

/-- The name of a cause. -/
def name : CardError → String
  | cancelled => "Cancelled"
  | timeout => "Timeout"
  | invalidHandle => "InvalidHandle"
  | noService => "NoService"
  | readerUnavailable => "ReaderUnavailable"
  | sharingViolation => "SharingViolation"
  | commError => "CommError"
  | noSmartcard => "NoSmartcard"
  | removedCard => "RemovedCard"
  | resetCard => "ResetCard"
  | unknownReader => "UnknownReader"
  | noReadersAvailable => "NoReadersAvailable"
  | other _ => "Other"

instance : Named CardError := ⟨all, name⟩

/-- An absent card is reported as such, and the connection to it is dropped. -/
theorem result_of_isAbsence (e : CardError) (h : e.isAbsence = true) :
    e.result = .noMedia ∧ e.dropsConnection = true := by
  cases e <;> first | exact ⟨rfl, rfl⟩ | exact absurd h (by decide) | cases h

/-- No failure is reported as a success. -/
theorem result_ne_success (e : CardError) : e.result ≠ .success := by
  cases e <;> exact ResultCode.noConfusion

end CardError

end CardHost
