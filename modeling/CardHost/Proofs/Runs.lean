import CardHost.Proofs.Balance

/-!
# Runs of a Provider

Everything that can happen to a provider, in any order: clients call, the
watcher goes on, time passes, readers and cards change, and the provider begins
to end. Hardware is not made to behave. It may take any state between two events,
and the backend may answer its calls in any way.

A client that is answered with success is owed one message, and `run_balanced`
is the account of these debts over a whole run: for each call, completions
posted and requests that wait add up to the times it was accepted. At the end of
the provider nothing waits, so the debts are paid, each of them once.

## Main definitions

* `Event`: What can happen.
* `Provider.watch`: The watcher goes from one point to the next.
* `Provider.meet`, `Provider.run`: One event; a run of them.
* `History.accepted`: How often a call was accepted.

## Theorems

* `step_eq_watch`: The watcher's step is one or two of those counted here.
* `meet_keeps`, `run_keeps`: What events do to balances.
* `run_sound`: A run leaves the hub sound.
* `run_balanced`: Every accepted call is completed exactly once.
-/

namespace CardHost

variable {σ κ ε : Type}

/-- What can happen to a provider and its surroundings. -/
inductive Event (σ : Type) where
  /-- A client calls. -/
  | enter (now : Instant) (entry : Entry)
  /-- The watcher goes on. -/
  | watch (now : Instant)
  /-- Time has passed. -/
  | tick (now : Instant)
  /-- Readers and cards are in another state. -/
  | happen (hardware : σ)
  /-- The watcher is asked to end. -/
  | stop

/-- The calls that were made, with their answers. -/
abbrev History := List (Entry × ResultCode)

/-- How often a call was accepted with a completion to come. -/
def History.accepted (call : Call) (history : History) : Nat :=
  history.countP fun answered => answered.1.call? == some call && answered.2 == .success

namespace Provider

/-- The watcher goes from one point to the next. -/
def watch (b : Backend σ κ ε) (now : Instant) (p : Provider σ κ ε) : Provider σ κ ε :=
  let (_, watcher, hub) := p.watcher.step (Hub.surroundings b) now p.hub
  { p with watcher, hub }

/-- One event, with the answer to a call. -/
def meet (b : Backend σ κ ε) (event : Event σ) (p : Provider σ κ ε) :
    History × Provider σ κ ε :=
  match event with
  | .enter now entry =>
    let (code, p) := p.enter b now entry
    ([(entry, code)], p)
  | .watch now => ([], p.watch b now)
  | .tick now => ([], p.tick now)
  | .happen hardware =>
    ([], { p with hub := { p.hub with world := { p.hub.world with hardware } } })
  | .stop => ([], p.requestStop b)

/-- A run of events, with the answers to all calls. -/
def run (b : Backend σ κ ε) : List (Event σ) → Provider σ κ ε → History × Provider σ κ ε
  | [], p => ([], p)
  | event :: events, p =>
    let (history, p) := p.meet b event
    let (rest, p) := run b events p
    (history ++ rest, p)

variable (b : Backend σ κ ε)

/-- From one call of the watcher to the next there are one or two points. -/
theorem step_eq_watch (now : Instant) (p : Provider σ κ ε) :
    (p.step b now).2 = p.watch b now ∨ (p.step b now).2 = (p.watch b now).watch b now := by
  unfold step Watcher.stride watch
  rcases p.watcher.step (Hub.surroundings b) now p.hub with ⟨moved, watcher, hub⟩
  rcases hphase : watcher.phase with _ | _ | _ | _ | _
  · exact .inl (by simp only [hphase])
  · exact .inr (by simp only [hphase])
  · exact .inl (by simp only [hphase])
  · exact .inl (by simp only [hphase])
  · exact .inl (by simp only [hphase])

/-- One event keeps the hub sound, and adds to a balance what its answer
    promises. -/
theorem meet_keeps (event : Event σ) (p : Provider σ κ ε) (h : p.hub.Sound) :
    p.hub.Keeps (fun call => (p.meet b event).1.accepted call) (p.meet b event).2.hub := by
  cases event with
  | enter now entry =>
      refine ((enter_course b now entry p).keeps h).congr fun call => ?_
      rw [meet, History.accepted, List.countP_singleton, accepted]
      simp only [Bool.and_eq_true, beq_iff_eq]
  | watch now => exact step_keeps now p.watcher h
  | tick now => exact Hub.Keeps.refl h
  | happen hardware =>
      have hquiet : p.hub.Quiet (p.meet b (.happen hardware)).2.hub :=
        Hub.Quiet.of_silent rfl rfl rfl
      exact hquiet.keeps h
  | stop => exact (Hub.Quiet.call p.hub _).keeps h

/-- A run adds to a balance what its answers promise. -/
theorem run_keeps (events : List (Event σ)) (p : Provider σ κ ε) (h : p.hub.Sound) :
    p.hub.Keeps (fun call => (p.run b events).1.accepted call) (p.run b events).2.hub := by
  induction events generalizing p with
  | nil => exact Hub.Keeps.refl h
  | cons event events ih =>
      have hfirst := p.meet_keeps b event h
      refine (hfirst.trans (ih _ hfirst.sound)).congr fun call => ?_
      rw [run, History.accepted, History.accepted, History.accepted, List.countP_append]

/-- A run leaves the hub sound. -/
theorem run_sound (hardware : σ) (config : Config) (events : List (Event σ)) :
    ((start { hardware } config : Provider σ κ ε).run b events).2.hub.Sound :=
  ((start { hardware } config).run_keeps b events (Hub.sound_start _)).sound

/-- Every call that is accepted is completed exactly once. At any moment of any
    run its completions and the requests that wait for it add up to the times
    it was accepted; so a call that was never accepted is never completed, and
    at the end of the provider all that were accepted have been. -/
theorem run_balanced (hardware : σ) (config : Config) (events : List (Event σ)) (call : Call) :
    let (history, p) := (start { hardware } config : Provider σ κ ε).run b events
    call.completions p.hub.world.posts + call.waiting p.hub.pending.live =
        history.accepted call ∧
      (history.accepted call = 0 → call.completions p.hub.world.posts = 0) ∧
      call.completions (p.finish b).hub.world.posts = history.accepted call ∧
      call.completions (p.shutDown b).hub.world.posts = history.accepted call := by
  have hkeeps := (start { hardware } config : Provider σ κ ε).run_keeps b events
    (Hub.sound_start _)
  rcases hrun : (start { hardware } config : Provider σ κ ε).run b events with ⟨history, p⟩
  rw [hrun] at hkeeps
  have hbalance : p.hub.balance call = history.accepted call :=
    (hkeeps.balance call).trans (Nat.zero_add _)
  -- There are two ways to end, and in both the hub that closes is a sound one.
  have hend : ∀ hub : Hub σ κ ε, hub.Sound → hub.balance call = history.accepted call →
      call.completions (hub.close b).world.posts = history.accepted call := by
    intro hub hsound hbalance
    rcases hub.close_keeps b hsound with ⟨hclosed, hlive⟩
    have hclose := hclosed.balance call
    rw [Hub.balance, hlive, hbalance] at hclose
    exact hclose
  have hstopped : p.hub.Keeps (fun _ => 0) (p.requestStop b).hub :=
    (Hub.Quiet.call p.hub _).keeps hkeeps.sound
  refine ⟨hbalance, fun hnone => ?_, hend p.hub hkeeps.sound hbalance,
    hend _ hstopped.sound ((hstopped.balance call).trans hbalance)⟩
  rw [hnone] at hbalance
  exact Nat.eq_zero_of_add_eq_zero_right hbalance

end Provider

end CardHost
