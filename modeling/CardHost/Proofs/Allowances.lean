import CardHost.Proofs.Connections
import CardHost.Proofs.Scenes
import CardHost.Simulation.Terminal

/-!
# Times Allowed on a Finite Clock

A command allows so much time for what it waits for, and a read is given so much time by
whoever asks for it. In each case an instant is computed from the present one and a
length of time that may come from the command line, where any number is accepted. The
clock has an end, and so has a length of time. There are four places where such a sum is
made, and they are not alike in what they do when there is no such instant.

A wait for a completion has no end then. A read takes the 365 days of a read without a
time, or, within 365 days of the end of the clock, ends at once. Both are fine with any
clock reading and any number. To watch events for some time is not: there the sum is
made without looking, and the command ends in the middle of it. `times_allowed` has the
exact conditions, and that this is the only way for a command to end like that.

Two sums are of lengths of time only, and they stay below the longest there is because
the numbers of the command line are words of 32 and 64 bits. The time that a command
waits for a read is one of them, and it is longer than what the read is given; so it is
the read that ends first, whichever of the two had to do without an instant.

## Main definitions

* `Conversation.watches?`: The time for which events will be watched.
* `Conversation.Timed`: A wait that is over when the time allowed is.
* `Conversation.Follows`: What can come of a message.

## Theorems

* `deadlineOf_eq`: The deadline of a read.
* `readTime_outlasts`: A command waits longer for a read than the read itself.
* `watch_eq`: When there is no time to watch events until.
* `receive_follows`, `run_overflow`: One message; a whole command.
* `times_allowed`: All of this.
-/

namespace CardHost

variable {σ κ ε : Type}

theorem Duration.allowed_eq {timeout : UInt32} (h : timeout ≠ 0) :
    allowed timeout = some timeout.toNat := if_neg h

/-- No time that a client can allow is near 365 days. -/
theorem Duration.toNat_lt_indefinite (timeout : UInt32) : timeout.toNat < indefinite :=
  Nat.lt_trans timeout.toNat_lt (by decide)

namespace PendingRequest

/-- A read ends when its time is over. Without a time, or if the clock ends before, it
    ends after 365 days; and if the clock ends before that too, at once. -/
theorem deadlineOf_eq (now : Instant) (timeout : UInt32) :
    deadlineOf now (Duration.allowed timeout) =
      if timeout ≠ 0 ∧ now + timeout.toNat < Clock.limit then now + timeout.toNat
      else if now + Duration.indefinite < Clock.limit then now + Duration.indefinite
      else now := by
  have hlong : (Clock.after? now Duration.indefinite).getD now =
      if now + Duration.indefinite < Clock.limit then now + Duration.indefinite else now := by
    rw [Clock.after?]
    split <;> rfl
  rw [deadlineOf, hlong]
  by_cases hfits : timeout ≠ 0 ∧ now + timeout.toNat < Clock.limit
  · have hafter : Clock.after? now timeout.toNat = some (now + timeout.toNat) := if_pos hfits.2
    rw [if_pos hfits, Duration.allowed_eq hfits.1, Option.bind_some, hafter]
  · rw [if_neg hfits]
    by_cases hzero : timeout = 0
    · rw [Duration.allowed, if_pos hzero, Option.bind_none]
    · have hafter : Clock.after? now timeout.toNat = none := if_neg fun h => hfits ⟨hzero, h⟩
      rw [Duration.allowed_eq hzero, Option.bind_some, hafter]

/-- It ends before the clock does. -/
theorem deadlineOf_lt {now : Instant} (h : now < Clock.limit) (timeout : UInt32) :
    deadlineOf now (Duration.allowed timeout) < Clock.limit := by
  rw [deadlineOf_eq]
  split
  · next hfits => exact hfits.2
  · split
    · next hfits => exact hfits
    · exact h

/-- A read that is given some time ends by then. -/
theorem deadlineOf_le (now : Instant) {timeout : UInt32} (h : timeout ≠ 0) :
    deadlineOf now (Duration.allowed timeout) ≤ now + timeout.toNat := by
  have hshort := Nat.add_lt_add_left (Duration.toNat_lt_indefinite timeout) now
  rw [deadlineOf_eq]
  split
  · exact Nat.le_refl _
  · next hpast =>
      -- If the clock ends before the time is over, it ends before the 365 days are.
      rw [if_neg fun hfits => hpast ⟨h, Nat.lt_trans hshort hfits⟩]
      exact Nat.le_add_right _ _

end PendingRequest

/-- A read that is made to wait is the only request that becomes pending by it. -/
theorem Provider.execute_read_live {b : Backend σ κ ε} {p : Provider σ κ ε} {call : Call}
    {sources : DataSources} (h : p.hub.pending.Consistent) (now : Instant)
    (timeout : Option Duration) {r : PendingRequest}
    (hr : r ∈ (p.execute b call now timeout (.readRawData sources)).2.hub.pending.live) :
    r ∈ p.hub.pending.live ∨ r = call.readRequest now timeout sources := by
  rw [execute] at hr
  split at hr
  · exact .inl hr
  · next session _ =>
      simp only [readRawData] at hr
      split at hr
      · exact .inl hr
      · -- Whatever the attempt to read finds, it leaves the queue alone.
        have hpending : (p.readNow b sources session).2.hub.pending = p.hub.pending :=
          (readNow_calm sources session p).hub.pending
        rcases hread : p.readNow b sources session with ⟨_ | _, p'⟩ <;> rw [hread] at hr hpending
        · exact .inl (hpending ▸ hr)
        · have h' : p'.hub.pending.Consistent := hpending ▸ h
          rcases hkey : p'.hub.pending.contains call.key with _ | _
          · rcases enqueue_new (b := b) sources h' hkey now timeout with ⟨-, -, hqueued⟩
            rcases hqueued.mem_iff.mp hr with hnew | hold
            · exact .inr hnew
            · exact .inl (hpending ▸ hold)
          · simp only [enqueue_pending sources hkey now timeout] at hr
            exact .inl (hpending ▸ hr)

namespace Cli.Conversation

/-- The time for which events are going to be watched. -/
def watches? (c : Conversation) : Option UInt64 :=
  match c.aim with
  | .opening _ (.watch seconds) | .subscription seconds => some seconds
  | .opening _ .status | .opening _ (.waitCard _) | .status | .card | .events => none

/-- A wait that began at some moment is over when the time allowed is, or never if the
    clock ends before. -/
structure Timed (began : Instant) (c : Conversation) : Prop where
  allowed : c.allowed ≤ Duration.longest
  deadline : c.deadline = Clock.after? began c.allowed

variable {c : Conversation} {b : Backend σ κ ε} {began now t : Instant}

theorem await_timed (aim : Aim) (request : RequestId) {allowed : Duration}
    (hallowed : allowed ≤ Duration.longest) (now : Instant) :
    (await aim request allowed now).Timed now := ⟨hallowed, rfl⟩

theorem Timed.isOver_iff (h : c.Timed began) :
    c.isOver t = true ↔ began + c.allowed < Clock.limit ∧ began + c.allowed ≤ t := by
  rw [isOver, h.deadline, Clock.after?]
  split
  · next hfits =>
      exact ⟨fun hover => ⟨hfits, of_decide_eq_true hover⟩, fun hover => decide_eq_true hover.2⟩
  · next hpast => exact ⟨Bool.noConfusion, fun hover => absurd hover.1 hpast⟩

/-- The time that a command allows for a read is no longer than the longest. -/
theorem readTime_le (timeout : UInt32) :
    readTime (Duration.allowed timeout) ≤ Duration.longest := by
  have hshort := timeout.toNat_lt
  by_cases hzero : timeout = 0
  · rw [Duration.allowed, if_pos hzero]
    exact Nat.le_refl _
  · rw [Duration.allowed_eq hzero]
    refine Nat.le_trans (Nat.add_le_add_right (Nat.le_of_lt hshort) completionTime) ?_
    decide

theorem completionTime_le : completionTime ≤ Duration.longest := by decide

/-- Nor is the time to watch events. -/
theorem seconds_le (seconds : UInt64) : seconds.toNat * Duration.second ≤ Duration.longest := by
  have hseconds : seconds.toNat ≤ UInt64.size - 1 := Nat.le_pred_of_lt seconds.toNat_lt
  exact Nat.le_trans (Nat.mul_le_mul_right Duration.second hseconds) (by decide)

/-- A command that waits for a read allows so much time for it. -/
theorem askCard_waiting {window : Window} {request : RequestId} {timeout : UInt32}
    {p : Provider σ κ ε} (hwaits : (askCard b window request timeout now p).progress = .waiting c) :
    c = await .card request (readTime (Duration.allowed timeout)) now := by
  simp only [askCard] at hwaits
  split at hwaits
  · cases hwaits
    rfl
  · cases hwaits

theorem askCard_provider (b : Backend σ κ ε) (window : Window) (request : RequestId)
    (timeout : UInt32) (now : Instant) (p : Provider σ κ ε) :
    (askCard b window request timeout now p).provider =
      (p.execute b (call window request) now (Duration.allowed timeout)
        (.readRawData DataSources.chip)).2 := by
  simp only [askCard]
  split <;> rfl

/-- A read that is given some time ends before the command stops waiting for it, if the
    command begins to wait when the read has begun. -/
theorem readTime_outlasts {timeout : UInt32} (hfinite : timeout ≠ 0) (hbegan : began ≤ now)
    (aim : Aim) (request : RequestId)
    (hover : (await aim request (readTime (Duration.allowed timeout)) now).isOver t = true) :
    PendingRequest.deadlineOf began (Duration.allowed timeout) + completionTime ≤ t := by
  have hwait := ((await_timed aim request (readTime_le timeout) now).isOver_iff.mp hover).2
  have hread := PendingRequest.deadlineOf_le began hfinite
  have htime : readTime (Duration.allowed timeout) = timeout.toNat + completionTime := by
    rw [Duration.allowed_eq hfinite]
    rfl
  calc PendingRequest.deadlineOf began (Duration.allowed timeout) + completionTime
      ≤ began + timeout.toNat + completionTime := Nat.add_le_add_right hread completionTime
    _ ≤ now + timeout.toNat + completionTime :=
        Nat.add_le_add_right (Nat.add_le_add_right hbegan timeout.toNat) completionTime
    _ = now + readTime (Duration.allowed timeout) := by rw [htime, Nat.add_assoc]
    _ ≤ t := hwait

/-- To watch events for some time is to wait that long, if there is such an instant. -/
theorem watch_eq (seconds : UInt64) (request : RequestId) (now : Instant) :
    (watch seconds request now).2 =
      if now + seconds.toNat * Duration.second < Clock.limit then
        .waiting (await .events request (seconds.toNat * Duration.second) now)
      else .ended .overflow := by
  rw [watch, await]
  by_cases hfits : now + seconds.toNat * Duration.second < Clock.limit
  · have hafter : Clock.after? now (seconds.toNat * Duration.second) = some _ := if_pos hfits
    rw [if_pos hfits, hafter]
  · have hafter : Clock.after? now (seconds.toNat * Duration.second) = none := if_neg hfits
    rw [if_neg hfits, hafter]

/-- How a command can go on when a message comes. -/
inductive Follows (now : Instant) (c : Conversation) : Progress → Prop where
  /-- It goes on waiting. -/
  | same : Follows now c (.waiting c)
  /-- It waits for something else, from now on. -/
  | next {c' : Conversation} (htimed : c'.Timed now)
      (hwatches : ∀ seconds, c'.watches? = some seconds → c.watches? = some seconds) :
      Follows now c (.waiting c')
  /-- It ends as it should. -/
  | ended {ending : Ending} (hending : ending ≠ .overflow) : Follows now c (.ended ending)
  /-- There is no time to watch events until. -/
  | past {seconds : UInt64} (haim : c.aim = .subscription seconds)
      (hpast : Clock.limit ≤ now + seconds.toNat * Duration.second) :
      Follows now c (.ended .overflow)

theorem Follows.watch {seconds : UInt64} (haim : c.aim = .subscription seconds)
    (request : RequestId) (now : Instant) :
    Follows now c (Conversation.watch seconds request now).2 := by
  rw [watch_eq]
  split
  · exact .next (await_timed .events request (seconds_le seconds) now) fun _ hnone => nomatch hnone
  · next hpast => exact .past haim (Nat.le_of_not_lt hpast)

theorem begin_follows {logicalName : String} {task : Task}
    (haim : c.aim = .opening logicalName task)
    (b : Backend σ κ ε) (window : Window) (request : RequestId) (now : Instant)
    (p : Provider σ κ ε) : Follows now c (begin_ b window request now p task).progress := by
  cases task with
  | status =>
      simp only [begin_, askStatus]
      split
      · exact .next (await_timed .status request completionTime_le now) fun _ hnone => nomatch hnone
      · exact .ended Ending.noConfusion
  | waitCard timeout =>
      simp only [begin_, askCard]
      split
      · exact .next (await_timed .card request (readTime_le timeout) now)
          fun _ hnone => nomatch hnone
      · exact .ended Ending.noConfusion
  | watch seconds =>
      refine .next (await_timed (.subscription seconds) request completionTime_le now) ?_
      intro seconds' hwatches
      rw [watches?, haim]
      exact hwatches

theorem cardReport_ne_overflow (styled : Bool) (message : Message) :
    (cardReport styled message).2 ≠ .overflow := by
  rw [cardReport]
  split
  · split <;> exact Ending.noConfusion
  · exact Ending.noConfusion

theorem expire_ne_overflow (c : Conversation) : c.expire ≠ .overflow := by
  rw [expire]
  split <;> exact Ending.noConfusion

/-- A message changes nothing, or begins another wait, or ends the command, and that it
    does as it should unless there is no time to watch events until. -/
theorem receive_follows (b : Backend σ κ ε) (styled : Bool) (window : Window) (now : Instant)
    (c : Conversation) (message : Message) (p : Provider σ κ ε) :
    Follows now c (c.receive b styled window now message p).progress := by
  rw [receive]
  split
  · rw [complete.eq_def]
    split
    · next logicalName task haim =>
        split
        · exact begin_follows haim b window _ now p
        · exact .ended Ending.noConfusion
    · split
      · exact .ended Ending.noConfusion
      · exact .ended Ending.noConfusion
    · exact .ended (cardReport_ne_overflow styled message)
    · next seconds haim => exact .watch haim c.request now
    · exact .same
  · exact .same

end Cli.Conversation

namespace Simulation.Terminal

open Cli (Conversation Ending Progress)

variable {t t' : Terminal} {c c' : Conversation} {ending : Ending}

/-- While no message comes a command waits on, until the time allowed is over. -/
theorem pass_waits (t : Terminal) (c : Conversation) :
    (t.pass c).1 = .waiting c ∨ (t.pass c).1 = .ended c.expire ∧ (t.pass c).2.clock = t.clock := by
  have hidle : ∀ (moved : Bool) (t : Terminal) (clock : Instant),
      let result : Progress × Terminal :=
        if moved then (.waiting c, t)
        else if c.isOver t.clock then (.ended c.expire, t)
        else
          (.waiting c, { t with clock, provider := t.provider.tick clock })
      result.1 = .waiting c ∨ result.1 = .ended c.expire ∧ result.2.clock = t.clock := by
    intro moved t clock
    simp only
    split
    · exact .inl rfl
    · split
      · exact .inr ⟨rfl, rfl⟩
      · exact .inl rfl
  rw [pass]
  split
  · split
    · exact .inl rfl
    · exact hidle _ _ _
  · exact hidle _ _ _

/-- At a terminal nothing else happens to a command, and when it ends, it is no later. -/
theorem advance_follows (t : Terminal) (c : Conversation) :
    Conversation.Follows t.clock c (t.advance c).1 ∧
      ∀ ending, (t.advance c).1 = .ended ending → (t.advance c).2.clock = t.clock := by
  rw [advance]
  split
  · exact ⟨Conversation.receive_follows t.backend t.styled t.window t.clock c _ t.provider,
      fun _ _ => rfl⟩
  · rcases pass_waits t c with hwaits | ⟨hends, hclock⟩
    · rw [hwaits]
      exact ⟨.same, fun _ hending => nomatch hending⟩
    · rw [hends]
      exact ⟨.ended (Conversation.expire_ne_overflow c), fun _ _ => hclock⟩
  · exact ⟨.ended Ending.noConfusion, fun _ _ => rfl⟩
  · exact ⟨.ended Ending.noConfusion, fun _ _ => rfl⟩

/-- A command that ends in the middle was to watch events past the end of the clock. -/
theorem run_overflow (steps : Nat) (c : Conversation) (t : Terminal)
    (hrun : (run steps c t).1 = some .overflow) :
    ∃ seconds, c.watches? = some seconds ∧
      Clock.limit ≤ (run steps c t).2.clock + seconds.toNat * Duration.second := by
  induction steps generalizing c t with
  | zero => cases hrun
  | succ steps ih =>
      -- What it is to watch for does not change on the way, so whichever step it is that
      -- ends in the middle, it is the one to blame.
      rcases advance_follows t c with ⟨hfollows, hclock⟩
      rw [run] at hrun ⊢
      rcases hadvance : t.advance c with ⟨progress, t'⟩
      rw [hadvance] at hfollows hclock hrun
      cases hfollows with
      | same => exact ih c t' hrun
      | next _ hwatches =>
          rcases ih _ t' hrun with ⟨seconds, hseconds, hpast⟩
          exact ⟨seconds, hwatches seconds hseconds, hpast⟩
      | ended hending =>
          cases hrun
          exact absurd rfl hending
      | past haim hpast =>
          refine ⟨_, by rw [Conversation.watches?, haim], ?_⟩
          rw [← hclock _ rfl] at hpast
          exact hpast

end Simulation.Terminal

/-- Every time that a command allows is on the clock, or there is none, with one
    exception. A read ends by an instant that there is, whatever it is given. No length of
    time that a command computes is longer than the longest, whatever it is asked for.
    When a message comes the command waits as before, or for a time from now on that may
    never be over, or ends; and a wait is over when its time is, if the clock goes so far.
    A read that is given some time ends before the wait for it does, and by so much that
    its completion still comes in time. The exception is to watch events: if there is no
    instant at which that is over the command ends in the middle of it. At a terminal no
    other command ends like that. -/
theorem Cli.Conversation.times_allowed (b : Backend σ κ ε) (styled : Bool) (window : Window)
    (request : RequestId) (timeout : UInt32) (seconds : UInt64) {now : Instant}
    (hnow : now < Clock.limit) :
    let deadline := PendingRequest.deadlineOf now (Duration.allowed timeout)
    (deadline < Clock.limit ∧
      deadline =
        if timeout ≠ 0 ∧ now + timeout.toNat < Clock.limit then now + timeout.toNat
        else if now + Duration.indefinite < Clock.limit then now + Duration.indefinite
        else now) ∧
    readTime (Duration.allowed timeout) ≤ Duration.longest ∧
    seconds.toNat * Duration.second ≤ Duration.longest ∧
    (∀ logicalName task (p : Provider σ κ ε),
      (start b window logicalName task now p).1.Timed now) ∧
    (∀ (c : Conversation) message (p : Provider σ κ ε),
      Follows now c (c.receive b styled window now message p).progress) ∧
    (∀ (c : Conversation) t, c.Timed now →
      (c.isOver t = true ↔ now + c.allowed < Clock.limit ∧ now + c.allowed ≤ t)) ∧
    (timeout ≠ 0 → ∀ later, now ≤ later → ∀ t,
      (await .card request (readTime (Duration.allowed timeout)) later).isOver t = true →
        deadline + completionTime ≤ t) ∧
    (timeout ≠ 0 → ∀ (p : Provider σ κ ε) c, p.hub.pending.Consistent →
      let turn := askCard b window request timeout now p
      turn.progress = .waiting c → ∀ t, c.isOver t = true →
        ∀ r ∈ turn.provider.hub.pending.live,
          r ∈ p.hub.pending.live ∨ r.deadline + completionTime ≤ t) ∧
    (watch seconds request now).2 =
      (if now + seconds.toNat * Duration.second < Clock.limit then
        .waiting (await .events request (seconds.toNat * Duration.second) now)
      else .ended .overflow) ∧
    ∀ steps c (t : Simulation.Terminal), (t.run steps c).1 = some .overflow →
      ∃ seconds, c.watches? = some seconds ∧
        Clock.limit ≤ (t.run steps c).2.clock + seconds.toNat * Duration.second := by
  intro deadline
  refine ⟨⟨PendingRequest.deadlineOf_lt hnow timeout, PendingRequest.deadlineOf_eq now timeout⟩,
    readTime_le timeout, seconds_le seconds,
    fun logicalName task p => await_timed (.opening logicalName task) 1 completionTime_le now,
    fun c message p => receive_follows b styled window now c message p,
    fun c t htimed => htimed.isOver_iff,
    fun hfinite later hlater t hover => readTime_outlasts hfinite hlater .card request hover, ?_,
    watch_eq seconds request now, fun steps c t => Simulation.Terminal.run_overflow steps c t⟩
  intro hfinite p c hconsistent turn hwaits t hover r hr
  rw [askCard_waiting hwaits] at hover
  simp only [turn, askCard_provider] at hr
  refine (Provider.execute_read_live hconsistent now _ hr).imp_right ?_
  rintro rfl
  exact readTime_outlasts hfinite (Nat.le_refl now) .card request hover

namespace Simulation

open Cli (Ending Invocation)

/-- The most seconds that can be asked for. -/
def mostSeconds : UInt64 := 18446744073709551615

/-- A read for 100 milliseconds ends 10 seconds before the wait for it. The most seconds
    are too many to watch events for. -/
theorem times_allowed_hundred :
    let p := (((Provider.start { hardware := oneReader } (configuredTo "A") :
      Provider Hall Connection Note)).openSession backend ⟨1, 1, 1⟩ "L" 0).2
    let turn := Cli.Conversation.askCard backend 1 2 100 5 p
    let c := Cli.Conversation.await .card 2 10100 5
    5 < Clock.limit ∧ turn.progress = .waiting c ∧ c.isOver 10105 = true ∧
      (∀ r ∈ turn.provider.hub.pending.live, r.deadline + 10000 ≤ 10105) ∧
      turn.provider.hub.pending.live ≠ [] ∧
      (Cli.Conversation.watch mostSeconds 2 5).2 = .ended .overflow := by
  intro p turn c
  have hnow : 5 < Clock.limit := by decide
  have hwaits : turn.progress = .waiting c := rfl
  have hover : c.isOver 10105 = true := rfl
  rcases Cli.Conversation.times_allowed backend false 1 2 100 mostSeconds hnow with
    ⟨-, -, -, -, -, -, -, hends, hwatch, -⟩
  have hpending : p.hub.pending = .empty := rfl
  refine ⟨hnow, hwaits, hover, fun r hr => ?_, by decide +kernel, hwatch.trans (if_neg (by decide))⟩
  have hnone : r ∉ p.hub.pending.live := by
    rw [hpending]
    exact List.not_mem_nil
  exact (hends (by decide) p c (hpending ▸ RequestQueue.consistent_empty) hwaits 10105 hover r
    hr).resolve_left hnone

/-- That many seconds are accepted, and to watch events for so long ends the command in
    the middle of it, at once. -/
theorem watch_breaks_off :
    Invocation.parse ["watch", "L", "--seconds", "18446744073709551615"] =
      some ⟨"xfs-bridge.toml", false, .session "L" (.watch mostSeconds)⟩ ∧
    (performTask false (configuredTo "A") [] "L" (.watch mostSeconds)
      { hall := oneReader }).exitCode = Ending.overflow.exitCode :=
  ⟨by decide +kernel, rfl⟩

end Simulation

end CardHost
