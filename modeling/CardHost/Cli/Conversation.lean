import CardHost.Cli.Arguments
import CardHost.Cli.Display
import CardHost.Cli.Ending
import CardHost.Provider

/-!
# A Command in Conversation with the Provider

A command that works with a logical service opens a session for it and then
makes one request. Between requests and their completions it waits for
messages. So a command is a conversation: what it waits for now, and what it
says and does when a message comes or when the time allowed is over.

Completions are told by the number of the request; every other message is shown
and the wait goes on. The time a command allows for a read is longer than the
time it gives the read itself, so the provider is the one to end a read that
finds no card.

## Main definitions

* `Conversation`: What a command waits for.
* `Turn`: What comes of a message.
* `Conversation.start`: Open the session.
* `Conversation.receive`: Take a message.
* `Conversation.expire`: The time allowed is over.
-/

namespace CardHost

namespace Cli

/-- What a command waits for. -/
inductive Aim where
  /-- The session to be opened for a task. -/
  | opening (logicalName : String) (task : Task)
  /-- The answer to the status query. -/
  | status
  /-- The card data. -/
  | card
  /-- The subscription to all events, to watch them for so many seconds. -/
  | subscription (seconds : UInt64)
  /-- The end of the time to watch. -/
  | events
  deriving DecidableEq, Repr

/-- A wait for messages. -/
structure Conversation where
  aim : Aim
  /-- The request whose completion is awaited. -/
  request : RequestId
  /-- The time allowed. -/
  allowed : Duration
  /-- When it is over, `none` if never. -/
  deadline : Option Instant
  deriving DecidableEq, Repr

/-- How a command goes on. -/
inductive Progress where
  | waiting (conversation : Conversation)
  | ended (ending : Ending)
  deriving DecidableEq, Repr

/-- What comes of a message: lines to show, and how the command goes on. -/
structure Turn (σ κ ε : Type) where
  lines : List String
  progress : Progress
  provider : Provider σ κ ε

namespace Conversation

variable {σ κ ε : Type}

/-- The handle of the only session. -/
def service : ServiceHandle := 1

/-- The time allowed for what the provider does at once. -/
def completionTime : Duration := 10 * Duration.second

/-- A call for the only session. -/
def call (window : Window) (request : RequestId) : Call := ⟨service, window, request⟩

/-- Wait for a completion. A time that goes past the end of the clock is never
    over. -/
def await (aim : Aim) (request : RequestId) (allowed : Duration) (now : Instant) : Conversation :=
  { aim, request, allowed, deadline := Clock.after? now allowed }

/-- Open the session. -/
def start (b : Backend σ κ ε) (window : Window) (logicalName : String) (task : Task)
    (now : Instant) (p : Provider σ κ ε) : Conversation × Provider σ κ ε :=
  let (_, p) := p.openSession b (call window 1) logicalName 0
  (await (.opening logicalName task) 1 completionTime now, p)

/-- Ask for the status of the device. -/
def askStatus (b : Backend σ κ ε) (window : Window) (request : RequestId) (now : Instant)
    (p : Provider σ κ ε) : Turn σ κ ε :=
  let (code, p) := p.getInfo b (call window request) InfoCategory.status.number
  if code.isSuccess then ⟨[], .waiting (await .status request completionTime now), p⟩
  else ⟨[], .ended (.failed (.queryRejected code)), p⟩

/-- How long a command waits for a read that is given some time itself. -/
def readTime (timeout : Option Duration) : Duration :=
  match timeout with
  | some timeout => timeout + completionTime
  | none => Duration.longest

/-- Ask for the data of a card. -/
def askCard (b : Backend σ κ ε) (window : Window) (request : RequestId) (timeout : UInt32)
    (now : Instant) (p : Provider σ κ ε) : Turn σ κ ε :=
  let timeout := Duration.allowed timeout
  let (code, p) := p.execute b (call window request) now timeout (.readRawData DataSources.chip)
  if code.isSuccess then
    ⟨["Waiting for a card..."], .waiting (await .card request (readTime timeout) now), p⟩
  else ⟨[], .ended (.failed (.readRejected code)), p⟩

/-- Subscribe to all events. -/
def askEvents (window : Window) (request : RequestId) (seconds : UInt64) (now : Instant)
    (p : Provider σ κ ε) : Turn σ κ ε :=
  let (_, p) := p.register (call window request) EventClass.all window
  ⟨[], .waiting (await (.subscription seconds) request completionTime now), p⟩

/-- Begin with the task, once the session is open. -/
def begin_ (b : Backend σ κ ε) (window : Window) (request : RequestId) (now : Instant)
    (p : Provider σ κ ε) : Task → Turn σ κ ε
  | .status => askStatus b window request now p
  | .waitCard timeout => askCard b window request timeout now p
  | .watch seconds => askEvents window request seconds now p

/-- Show a status. -/
def statusBox (styled : Bool) (status : IdcStatus) : String :=
  keyValueBox styled "Device status"
    [("Device", status.device.name), ("Media", status.media.name),
     ("Chip power", status.chipPower.name)]

/-- Show what came of a read. -/
def cardReport (styled : Bool) (message : Message) : List String × Ending :=
  match message.payload with
  | .cardData data =>
    match data.find? (·.source == DataSources.chip) with
    | some chip =>
      ([success styled "Card inserted",
        keyValueBox styled "Chip" [("ATR", Hex.encode chip.data)]], .done)
    | none => ([], .failed .noChipData)
  | _ =>
    ([warning styled "No card read:" ++ " " ++ resultCode styled message.result], .done)

/-- Watch events for some time, or fail if there is no such time. -/
def watch (seconds : UInt64) (request : RequestId) (now : Instant) : List String × Progress :=
  let allowed := seconds.toNat * Duration.second
  (["Watching events for " ++ Duration.text allowed ++ "..."],
   match Clock.after? now allowed with
   | some deadline => .waiting { aim := .events, request, allowed, deadline := some deadline }
   | none => .ended .overflow)

/-- Take the completion that was waited for. -/
def complete (b : Backend σ κ ε) (styled : Bool) (window : Window) (now : Instant)
    (c : Conversation) (message : Message) (p : Provider σ κ ε) : Turn σ κ ε :=
  match c.aim with
  | .opening logicalName task =>
    if message.result.isSuccess then begin_ b window (c.request + 1) now p task
    else ⟨[], .ended (.failed (.notOpened logicalName message.result)), p⟩
  | .status =>
    match message.payload with
    | .status status => ⟨[statusBox styled status], .ended .done, p⟩
    | _ => ⟨[], .ended (.failed (.queryFailed message.result)), p⟩
  | .card =>
    let (lines, ending) := cardReport styled message
    ⟨lines, .ended ending, p⟩
  | .subscription seconds =>
    let (lines, progress) := watch seconds c.request now
    ⟨lines, progress, p⟩
  | .events => ⟨[messageLine styled message], .waiting c, p⟩

/-- Whether a message is the completion that is waited for. While events are
    watched no completion is. -/
def isAwaited (c : Conversation) (message : Message) : Bool :=
  c.aim != .events && message.isCompletion && message.request == c.request

/-- Take a message. -/
def receive (b : Backend σ κ ε) (styled : Bool) (window : Window) (now : Instant)
    (c : Conversation) (message : Message) (p : Provider σ κ ε) : Turn σ κ ε :=
  if c.isAwaited message then complete b styled window now c message p
  else ⟨[messageLine styled message], .waiting c, p⟩

/-- Whether the time allowed is over. -/
def isOver (c : Conversation) (now : Instant) : Bool := c.deadline.any (· ≤ now)

/-- What the end of the time allowed means. -/
def expire (c : Conversation) : Ending :=
  match c.aim with
  | .events => .done
  | _ => .failed (.overdue c.request c.allowed)

end Conversation

end Cli

end CardHost
