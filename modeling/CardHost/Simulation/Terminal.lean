import CardHost.Cli.Conversation
import CardHost.Cli.Listing
import CardHost.Config.Load
import CardHost.Simulation.Native
import CardHost.WindowQueues

/-!
# A Terminal in the Hall

The command line over a hall of simulated readers, on a clock that moves only
when nothing else can. The command goes first: it takes messages as long as
there are any. When it has to wait, what is due in the hall happens, then the
watcher makes a step, then the time of the command may be over. If none of this
applies the clock moves on to the next moment at which something does.

## Main definitions

* `Terminal`: A command with its provider, hall and clock.
* `Terminal.run`: Go on until the command ends.
* `Report`: What a command leaves behind.
* `perform`: A whole command line.
-/

namespace CardHost

namespace Simulation

open Cli (Conversation Ending Failure Invocation Progress Request Task)
open Pcsc (NativeNote)

/-- What is told to whoever started a command. -/
structure Report where
  exitCode : Nat
  /-- What was shown, line by line. -/
  lines : List String
  /-- Why the command failed. -/
  error : Option String
  deriving DecidableEq, Repr

/-- A command at work. -/
structure Terminal where
  manager : Pcsc.Manager
  provider : Provider ManagedHall Pcsc.Card NativeNote
  queues : WindowQueues
  /-- The window of the command. -/
  window : Window
  clock : Instant
  /-- What is to happen in the hall, and when. -/
  happenings : List (Instant × Happening)
  lines : List String
  /-- Text stands out where it should. -/
  styled : Bool

namespace Terminal

/-- The calls to the readers and cards of the hall. -/
def backend (t : Terminal) : Backend ManagedHall Pcsc.Card NativeNote :=
  t.manager.backend ManagedHall.native

/-- Change the world of the provider. -/
def mapWorld (t : Terminal) (f : World ManagedHall NativeNote → World ManagedHall NativeNote) :
    Terminal :=
  let hub := t.provider.hub
  { t with provider := { t.provider with hub := { hub with world := f hub.world } } }

/-- Bring the messages that were posted to their windows. -/
def deliver (t : Terminal) : Terminal :=
  let queues := t.provider.hub.world.posts.foldl WindowQueues.post t.queues
  { t.mapWorld fun w => { w with log := [] } with queues }

/-- Show lines. -/
def show_ (t : Terminal) (lines : List String) : Terminal :=
  { t with lines := t.lines ++ lines.flatMap fun line => line.splitOn "\n" }

/-- When the watcher goes on by itself. -/
def watcherEnds (t : Terminal) : Option Instant :=
  match t.provider.watcher.phase with
  | .waiting _ ends _ | .pausing ends _ => some ends
  | .listing _ | .timing _ _ | .stopped => none

/-- The next moment at which anything can happen. -/
def nextMoment (t : Terminal) (c : Conversation) : Option Instant :=
  (c.deadline.toList ++ (t.happenings.head?.map Prod.fst).toList ++ t.watcherEnds.toList).min?

/-- Take a message. -/
def receive (t : Terminal) (c : Conversation) (message : Message) : Progress × Terminal :=
  let turn := c.receive t.backend t.styled t.window t.clock message t.provider
  (turn.progress, ({ t with provider := turn.provider }.show_ turn.lines).deliver)

/-- What happens while the command waits: one thing, the first that applies. -/
def pass (t : Terminal) (c : Conversation) : Progress × Terminal :=
  let idle : Progress × Terminal :=
    let (moved, provider) := t.provider.step t.backend t.clock
    let t := { t with provider }.deliver
    if moved then (.waiting c, t)
    else if c.isOver t.clock then (.ended c.expire, t)
    else
      let clock := max t.clock ((t.nextMoment c).getD t.clock)
      (.waiting c, { t with clock, provider := t.provider.tick clock })
  match t.happenings with
  | (at_, happening) :: rest =>
    if at_ ≤ t.clock then
      let t := t.mapWorld fun w => { w with hardware := w.hardware.happen happening }
      (.waiting c, { t with happenings := rest })
    else idle
  | [] => idle

/-- One step of the command, or of what happens while it waits. -/
def advance (t : Terminal) (c : Conversation) : Progress × Terminal :=
  match t.queues.receive t.window with
  | (.message message, queues) => { t with queues }.receive c message
  | (.empty, _) => t.pass c
  | (.disconnected, _) | (.noQueue, _) => (.ended (.failed .queueClosed), t)

/-- Go on until the command ends, so many steps at most. -/
def run : Nat → Conversation → Terminal → Option Ending × Terminal
  | 0, _, t => (none, t)
  | steps + 1, c, t =>
    match t.advance c with
    | (.ended ending, t) => (some ending, t)
    | (.waiting c, t) => run steps c t

/-- How many steps a command is given. A command that watches takes a few in
    each second of the clock. -/
def patience : Nat := 1_000_000_000_000

/-- What is told about a command that ended. -/
def report (t : Terminal) (ending : Ending) : Report :=
  ⟨ending.exitCode, t.lines, ending.error⟩

end Terminal

/-- What is told about a command that failed before it showed anything. -/
def failed (cause : HostError) : Report :=
  let ending := Ending.failed (.host cause)
  ⟨ending.exitCode, [], ending.error⟩

/-- Do something with a logical service. -/
def performTask (styled : Bool) (config : Config) (happenings : List (Instant × Happening))
    (logicalName : String) (task : Task) (hall : ManagedHall) : Report :=
  let made := Pcsc.Manager.establish ManagedHall.native hall
  match made.value with
  | .error e => failed (.card e)
  | .ok manager =>
    let (window, queues) := WindowQueues.none.openWindow
    let provider := Provider.start { hardware := made.state } config
    let t : Terminal :=
      { manager, provider, queues, window, clock := 0, happenings, lines := [], styled }
    let (c, provider) := Conversation.start t.backend window logicalName task t.clock provider
    match Terminal.run Terminal.patience c { t with provider }.deliver with
    | (some ending, t) => t.report ending
    | (none, t) => t.report .done

/-- List the readers. -/
def performList (hall : ManagedHall) : Report :=
  let made := Pcsc.Manager.establish ManagedHall.native hall
  let answer := do
    let manager ← made.value
    Cli.listing ManagedHall.native manager made.state
  match answer with
  | .error e => failed (.card e)
  | .ok lines => ⟨Ending.done.exitCode, lines.flatMap fun line => line.splitOn "\n", none⟩

/-- A whole command line: arguments, the files there are, variables of the
    environment, and the hall. Only a command for a logical service looks at
    the configuration, and it does so before anything else. -/
def perform (styled : Bool) (arguments : List String) (file : String → Option String)
    (environment : List (String × String)) (hall : Hall)
    (happenings : List (Instant × Happening)) : Report :=
  match Invocation.parse arguments with
  | none => ⟨Cli.usageExitCode, [], none⟩
  | some invocation =>
    match invocation.request with
    | .list => performList { hall }
    | .session logicalName task =>
      match Config.load (file invocation.config) environment with
      | .error _ => failed .badConfiguration
      | .ok config => performTask styled config happenings logicalName task { hall }

end Simulation

end CardHost
