import CardHost.Provider
import CardHost.Simulation.Backend

/-!
# Benches

A bench holds a part of the host together with a hall and a clock that moves
only when told to. There is one for a session on its own, one for a watcher
whose reports are written down, and one for a whole provider.

A watcher on a bench makes a call only when it is stepped. `settle` steps it
until it can go no further by itself, within a bound.

## Main definitions

* `WatchBench`: A watcher with a recording handler.
* `ProviderBench`: A provider with a clock.
* `SessionBench`: A session without a watcher.
-/

namespace CardHost

namespace Simulation

/-- How many steps settling takes at most. -/
def settleBound : Nat := 40

/-- Step until nothing moves, a bounded number of times. -/
def settleWith {α : Type} (step : α → Bool × α) : Nat → α → α
  | 0, a => a
  | bound + 1, a =>
    match step a with
    | (true, a) => settleWith step bound a
    | (false, a) => a

/-- A session with a hall. -/
structure SessionBench where
  session : Session Connection
  world : World Hall Note

/-- What a watcher on a bench calls, and what it reports. -/
inductive WatchEntry where
  | call (note : Note)
  | timeout (now : Instant)
  | change (kind : ChangeKind) (state : Snapshot)

/-- What a watcher on a bench acts on. -/
structure WatchSite where
  hall : Hall
  /-- What the handler answers when asked for the next deadline. -/
  timeout : Option Duration
  log : List WatchEntry := []

/-- A watcher with a recording handler. -/
structure WatchBench where
  watcher : Watcher
  site : WatchSite
  clock : Instant

namespace WatchSite

/-- Take in the reply to a call. -/
def take {α : Type} (reply : Reply Hall Note α) (site : WatchSite) : α × WatchSite :=
  (reply.value, { site with hall := reply.state, log := site.log ++ reply.notes.map .call })

/-- The site as a watcher sees it. -/
def surroundings : Surroundings WatchSite where
  list site := site.take (backend.list site.hall)
  wait poll site := (backend.wait poll site.hall).map fun reply => site.take reply
  cancel waiting site := (site.take (backend.cancel waiting site.hall)).2
  nextTimeout _ site := site.timeout
  onTimeout now site := { site with log := site.log ++ [.timeout now] }
  onChange state kind site := { site with log := site.log ++ [.change kind state] }

end WatchSite

namespace WatchBench

/-- A watcher that has done nothing yet. -/
def start (hall : Hall) (timeout : Option Duration) : WatchBench :=
  { watcher := Watcher.start, site := { hall, timeout }, clock := 0 }

/-- Let something happen in the hall. -/
def happen (bench : WatchBench) (h : Happening) : WatchBench :=
  { bench with site := { bench.site with hall := bench.site.hall.happen h } }

/-- Step the watcher. -/
def step (bench : WatchBench) : Bool × WatchBench :=
  let (moved, watcher, site) := bench.watcher.step WatchSite.surroundings bench.clock bench.site
  (moved, { bench with watcher, site })

/-- Step the watcher until it can go no further by itself. -/
def settle (bench : WatchBench) : WatchBench := settleWith step settleBound bench

/-- Let time pass. -/
def advance (bench : WatchBench) (duration : Duration) : WatchBench :=
  let clock := bench.clock + duration
  { bench with clock, watcher := bench.watcher.tick clock }

/-- Wake the watcher. -/
def wake (bench : WatchBench) (reason : WakeReason) : WatchBench :=
  let (watcher, site) := bench.watcher.wake WatchSite.surroundings reason bench.site
  { bench with watcher, site }

/-- Ask the watcher to end. -/
def close (bench : WatchBench) : WatchBench :=
  let (watcher, site) := bench.watcher.requestStop WatchSite.surroundings bench.site
  { bench with watcher, site }

/-- What was written down since the last time, and a bench with an empty log. -/
def drain (bench : WatchBench) : List WatchEntry × WatchBench :=
  (bench.site.log, { bench with site := { bench.site with log := [] } })

end WatchBench

/-- A provider with a clock. -/
structure ProviderBench where
  provider : Provider Hall Connection Note
  clock : Instant

namespace ProviderBench

/-- A provider that was just started. -/
def start (hall : Hall) (config : Config) : ProviderBench :=
  { provider := Provider.start { hardware := hall } config, clock := 0 }

/-- Go on with a provider after it was used. -/
def keep {α : Type} (bench : ProviderBench) (used : α × Provider Hall Connection Note) :
    α × ProviderBench :=
  (used.1, { bench with provider := used.2 })

/-- Change the world of the provider. -/
def mapWorld (bench : ProviderBench) (f : World Hall Note → World Hall Note) : ProviderBench :=
  let hub := bench.provider.hub
  { bench with provider := { bench.provider with hub := { hub with world := f hub.world } } }

/-- Let something happen in the hall. -/
def happen (bench : ProviderBench) (h : Happening) : ProviderBench :=
  bench.mapWorld fun w => { w with hardware := w.hardware.happen h }

/-- Step the watcher. -/
def step (bench : ProviderBench) : Bool × ProviderBench :=
  bench.keep (bench.provider.step backend bench.clock)

/-- Step the watcher until it can go no further by itself. -/
def settle (bench : ProviderBench) : ProviderBench := settleWith step settleBound bench

/-- Let time pass. -/
def advance (bench : ProviderBench) (duration : Duration) : ProviderBench :=
  let clock := bench.clock + duration
  { bench with clock, provider := bench.provider.tick clock }

/-- Hand a report to the hub without the watcher. -/
def dispatch (bench : ProviderBench) (state : Snapshot) (kind : ChangeKind) : ProviderBench :=
  let provider := bench.provider
  { bench with provider := { provider with hub := provider.hub.onChange backend state kind } }

/-- End the provider. -/
def close (bench : ProviderBench) : ProviderBench :=
  { bench with provider := bench.provider.shutDown backend }

/-- What was logged since the last time, and a bench with an empty log. -/
def drain (bench : ProviderBench) : List (LogEntry Note) × ProviderBench :=
  (bench.provider.hub.world.log, bench.mapWorld fun w => { w with log := [] })

end ProviderBench

end Simulation

end CardHost
