import CardHost.Proofs.Callbacks
import CardHost.Proofs.Wakes

/-!
# No Wait Outlasts a Deadline

The watcher is the only timer, so a wait that lasts too long is a deadline that
is missed. When a wait begins it is given no more time than is left until any
deadline. From then on the deadlines may change under it, by calls that come
from anywhere, also from inside a completion. But each change that brings up an
earlier one counts up the epoch, and as long as the epoch stands no deadline is
earlier than all there were when the wait began.

`Timely` says this of a stage, and every move keeps it. A move either begins
the wait, which is where the time is computed, or it heeds the promise of
`Provider.Heeds` and leaves the wait alone.

## Main definitions

* `Stage.Timely`: The wait under way is short enough, or the epoch moved on.

## Theorems

* `timeoutOf_le`: A wait is given no more time than is left.
* `work_heeds`, `enter_heeds`, `watch_timely`: What the moves do.
* `move_timely`, `run_timely`: One move; a run of them.
* `wait_within_deadlines`: No wait outlasts a deadline it could know of.
-/

namespace CardHost

variable {σ κ ε : Type}

/-- A wait is given no more time than is left until any deadline, and never
    more than a slice. -/
theorem Watcher.timeoutOf_le {q : RequestQueue} (h : q.Consistent) (now : Instant) :
    timeoutOf (q.nextTimeout now) ≤ slice ∧
      ∀ r ∈ q.live, timeoutOf (q.nextTimeout now) ≤ Clock.left now r.deadline := by
  refine ⟨Nat.min_le_right _ _, fun r hr => ?_⟩
  rcases h.nextDeadline_le hr with ⟨deadline, hnext, hle⟩
  have hleft : timeoutOf (q.nextTimeout now) = min (Clock.left now deadline) slice := by
    rw [RequestQueue.nextTimeout, hnext]
    rfl
  rw [hleft]
  exact Nat.le_trans (Nat.min_le_left _ _) (Nat.sub_le_sub_right hle now)

namespace Stage

variable {b : Backend σ κ ε} {st st' : Stage σ κ ε}

/-- The wait under way is no longer than a slice, and as long as the epoch
    stands in which it began, no longer than was left then until any deadline
    there is now. -/
structure Timely (st : Stage σ κ ε) : Prop where
  consistent : st.provider.hub.pending.Consistent
  wait : ∀ timeout ends set, st.provider.watcher.phase = .waiting timeout ends set →
    ∃ began epoch, st.begun = some (began, epoch) ∧ ends = began + timeout ∧
      timeout ≤ Watcher.slice ∧ epoch ≤ st.provider.watcher.epoch ∧
      (st.provider.watcher.epoch = epoch →
        ∀ r ∈ st.provider.hub.pending.live, timeout ≤ Clock.left began r.deadline)

/-- Only the watcher begins a wait. -/
theorem work_begun (b : Backend σ κ ε) (st : Stage σ κ ε) : (st.work b).begun = st.begun := by
  rcases st with ⟨p, duties, begun⟩
  rcases duties with _ | ⟨_ | _ | _ | ⟨_ | _⟩ | _, duties⟩ <;> rfl

theorem remove_begun (handle : ServiceHandle) (call? : Option Call) (st : Stage σ κ ε) :
    (st.remove handle call?).begun = st.begun := by
  rw [remove]
  split <;> rfl

theorem enter_begun (b : Backend σ κ ε) (now : Instant) (entry : Entry) (st : Stage σ κ ε) :
    (st.enter b now entry).begun = st.begun := by
  cases entry with
  | closeSession call => exact remove_begun call.service (some call) st
  | cancelAsync handle request =>
      show (st.cancelAsync handle request).begun = st.begun
      rw [cancelAsync.eq_def]
      split <;> rfl
  | openSession | lock | unlock | register | deregister | getInfo | execute | executeRaw
  | setTraceLevel | unload | reload => rfl

/-- What brings up no earlier deadline without a wake leaves a wait timely. -/
theorem Timely.of_heeds (h : st.Timely) (hheeds : st.provider.Heeds st'.provider)
    (hbegun : st'.begun = st.begun) : st'.Timely := by
  refine ⟨hheeds.consistent, fun timeout ends set hphase => ?_⟩
  have hwaiting : st'.provider.watcher.isWaiting = true := by
    rw [Watcher.isWaiting, hphase]
  have hsame := hheeds.waiting hwaiting
  rcases h.wait timeout ends set (hsame ▸ hphase) with
    ⟨began, epoch, hbegan, hends, hslice, hle, hleft⟩
  have hgrown := hheeds.epoch
  refine ⟨began, epoch, hbegun.trans hbegan, hends, hslice, Nat.le_trans hle hgrown,
    fun hepoch r' hr' => ?_⟩
  -- The epoch did not move, so some request of then is due no later than this.
  rcases hheeds.later (by omega) r' hr' with ⟨r, hr, hdue⟩
  exact Nat.le_trans (hleft (by omega) r hr) (Nat.sub_le_sub_right hdue began)

theorem settle_heeds {s : Settled} {test : PendingRequest → Bool}
    {finish : PendingRequest → List Message} (hs : s.Ends st.provider.hub.pending test finish)
    (rest : List (Duty κ)) : st.provider.Heeds (st.settle s rest).provider :=
  Provider.detach_heeds hs st.provider.hub.sessions st.provider.hub.world

theorem change_heeds (h : st.provider.hub.pending.Consistent) (state : Snapshot)
    (kind : ChangeKind) : st.provider.Heeds (st.change b state kind).provider :=
  Provider.detach_heeds (RequestQueue.notifyChange_ends h _ state kind) _ _

theorem remove_heeds (h : st.provider.hub.pending.Consistent) (handle : ServiceHandle)
    (call? : Option Call) : st.provider.Heeds (st.remove handle call?).provider := by
  rw [remove]
  split
  · exact Provider.Heeds.refl h
  · exact Provider.detach_heeds (RequestQueue.cancelService_ends h handle) _ _

/-- No duty brings up an earlier deadline without a wake. -/
theorem work_heeds (h : st.provider.hub.pending.Consistent) :
    st.provider.Heeds (st.work b).provider := by
  rcases st with ⟨p, duties, begun⟩
  rcases duties with _ | ⟨_ | _ | ⟨session, call?⟩ | ⟨now | s⟩ | next, duties⟩
  · exact Provider.Heeds.refl h
  · exact Provider.Heeds.of_same h rfl rfl
  · exact (Provider.Heeds.refl h).wakeIf _
  · cases call? with
    | none => exact Provider.Heeds.of_same h rfl rfl
    | some call => exact Provider.Heeds.of_same h rfl rfl
  · exact settle_heeds (RequestQueue.expireDue_ends h now) []
  · exact change_heeds h s s.kind
  · exact Provider.go_heeds h rfl rfl

/-- Neither does a call, up to its first completion. -/
theorem enter_heeds (h : st.provider.hub.pending.Consistent) (now : Instant) (entry : Entry) :
    st.provider.Heeds (st.enter b now entry).provider := by
  have hwhole := (Provider.enter_course b now entry st.provider).heeds h
  cases entry with
  | closeSession call => exact remove_heeds h call.service (some call)
  | cancelAsync handle request =>
      show st.provider.Heeds (st.cancelAsync handle request).provider
      rw [cancelAsync.eq_def]
      split
      · exact Provider.Heeds.refl h
      · exact settle_heeds (RequestQueue.cancelService_ends h handle) _
      · exact settle_heeds (RequestQueue.cancel_ends h _) _
  | openSession | lock | unlock | register | deregister | getInfo | execute | executeRaw
  | setTraceLevel | unload | reload => exact hwhole

/-- The watcher heeds the promise too, but for the step that begins a wait. -/
theorem watch_timely (h : st.Timely) (now : Instant) :
    (st.watch b now).Timely ∧ st.provider.Later (st.watch b now).provider := by
  have hconsistent := h.consistent
  have hheeds : ∀ st' : Stage σ κ ε, st.provider.Heeds st'.provider → st'.begun = st.begun →
      st'.Timely ∧ st.provider.Later st'.provider := fun st' hst' hbegun =>
    ⟨h.of_heeds hst' hbegun, hst'.toLater⟩
  rcases hphase : st.provider.watcher.phase with list | ⟨epoch, set⟩ | ⟨timeout, ends, set⟩ | _ | _
  · simp only [watch, hphase]
    split
    · next names hub hcall =>
        have hpending := congrArg (fun answer => answer.2.pending) hcall
        exact hheeds _ (Provider.go_heeds hconsistent hpending.symm
          (rfl : _ = st.provider.watcher.go (.round (WaitSet.ofNames list names)))) rfl
    · next e hub hcall =>
        have hpending := congrArg (fun answer => answer.2.pending) hcall
        exact hheeds _ (Provider.Heeds.of_same hconsistent hpending.symm rfl) rfl
  · simp only [watch, hphase]
    by_cases hepoch : st.provider.watcher.epoch = epoch
    · -- A wait begins here, with its time taken from the queue as it is now.
      rw [if_pos hepoch]
      refine ⟨⟨hconsistent, fun timeout ends set' hwait => ?_⟩, ⟨Nat.le_refl _, fun _ r hr =>
        ⟨r, hr, Nat.le_refl _⟩⟩⟩
      cases hwait
      rcases Watcher.timeoutOf_le hconsistent now with ⟨hslice, hleft⟩
      exact ⟨now, epoch, rfl, rfl, hslice, Nat.le_of_eq hepoch.symm, fun _ => hleft⟩
    · -- Woken in between, the watcher goes round again before it waits.
      rw [if_neg hepoch]
      exact hheeds _ (Provider.go_heeds hconsistent rfl
        (rfl : _ = st.provider.watcher.go (.round set))) rfl
  · simp only [watch, hphase]
    split
    · exact ⟨h, Provider.Later.refl _⟩
    · next outcome hub hcall =>
        rcases Option.map_eq_some_iff.mp hcall with ⟨reply, -, hreply⟩
        have hpending := congrArg (fun answer => answer.2.pending) hreply
        split
        · exact hheeds _ (Provider.Heeds.of_idle hconsistent hpending.symm rfl rfl) rfl
        · exact hheeds _ (Provider.Heeds.of_idle hconsistent hpending.symm rfl rfl) rfl
  · simp only [watch, hphase]
    exact ⟨h, Provider.Later.refl _⟩
  · simp only [watch, hphase]
    exact ⟨h, Provider.Later.refl _⟩

/-- Every move keeps the wait timely, and brings up no earlier deadline without
    a wake. -/
theorem move_timely (h : st.Timely) (move : Move σ) :
    (st.move b move).Timely ∧ st.provider.Later (st.move b move).provider := by
  have hconsistent := h.consistent
  have hheeds : ∀ st' : Stage σ κ ε, st.provider.Heeds st'.provider → st'.begun = st.begun →
      st'.Timely ∧ st.provider.Later st'.provider := fun st' hst' hbegun =>
    ⟨h.of_heeds hst' hbegun, hst'.toLater⟩
  cases move with
  | work => exact hheeds _ (work_heeds hconsistent) (work_begun b st)
  | enter now entry =>
      exact hheeds _ (enter_heeds hconsistent now entry) (enter_begun b now entry st)
  | createSession handle settings =>
      exact hheeds _ (Provider.createSession_heeds hconsistent handle settings) rfl
  | removeSession handle =>
      exact hheeds _ (remove_heeds hconsistent handle none) (remove_begun handle none st)
  | addRequest request => exact hheeds _ (Provider.addRequest_heeds hconsistent request) rfl
  | cancelRequest key =>
      exact hheeds _ (settle_heeds (RequestQueue.cancel_ends hconsistent key) _) rfl
  | cancelService handle =>
      exact hheeds _ (settle_heeds (RequestQueue.cancelService_ends hconsistent handle) _) rfl
  | cancelAll => exact hheeds _ (settle_heeds (RequestQueue.cancelAll_ends hconsistent) _) rfl
  | change state kind => exact hheeds _ (change_heeds hconsistent state kind) rfl
  | watch now =>
      show (if st.duties.isEmpty then st.watch b now else st).Timely ∧
        st.provider.Later (if st.duties.isEmpty then st.watch b now else st).provider
      split
      · exact watch_timely h now
      · exact ⟨h, Provider.Later.refl _⟩
  | tick now => exact hheeds _ (Provider.tick_heeds hconsistent now) rfl
  | happen hardware => exact hheeds _ (Provider.Heeds.of_same hconsistent rfl rfl) rfl
  | stop => exact hheeds _ (Provider.requestStop_heeds hconsistent) rfl

theorem run_timely (h : st.Timely) (moves : List (Move σ)) :
    (st.run b moves).Timely ∧ st.provider.Later (st.run b moves).provider := by
  induction moves generalizing st with
  | nil => exact ⟨h, Provider.Later.refl _⟩
  | cons move moves ih =>
      rcases move_timely (b := b) h move with ⟨hmoved, hlater⟩
      rcases ih hmoved with ⟨hrun, hrest⟩
      exact ⟨hrun, hlater.trans hrest⟩

theorem start_timely (hardware : σ) (config : Config) :
    (start hardware config : Stage σ κ ε).Timely :=
  ⟨RequestQueue.consistent_empty, fun _ _ _ hphase => nomatch hphase⟩

/-- No wait outlasts a deadline that the watcher could know of. After any run,
    with calls from inside completions, a wait that is under way began at some
    time with no more than a slice to last; and if the epoch has not moved since
    then, it lasts no longer than was left until any deadline there is now.
    Whatever happens next, whoever has made the earliest deadline earlier, or
    has brought one up where there was none, has counted up the epoch. -/
theorem wait_within_deadlines (b : Backend σ κ ε) (hardware : σ) (config : Config)
    (moves more : List (Move σ)) :
    let st := (start hardware config : Stage σ κ ε).run b moves
    let st' := st.run b more
    (∀ timeout ends set, st.provider.watcher.phase = .waiting timeout ends set →
      ∃ began epoch, st.begun = some (began, epoch) ∧ ends = began + timeout ∧
        timeout ≤ Watcher.slice ∧ epoch ≤ st.provider.watcher.epoch ∧
        (st.provider.watcher.epoch = epoch →
          ∀ r ∈ st.provider.hub.pending.live, timeout ≤ Clock.left began r.deadline)) ∧
      st.provider.watcher.epoch ≤ st'.provider.watcher.epoch ∧
      (∀ deadline', st'.provider.hub.pending.nextDeadline = some deadline' →
        (∀ deadline, st.provider.hub.pending.nextDeadline = some deadline →
          deadline' < deadline) →
            st.provider.watcher.epoch < st'.provider.watcher.epoch) := by
  intro st st'
  rcases run_timely (b := b) (start_timely hardware config) moves with ⟨htimely, -⟩
  rcases run_timely (b := b) htimely more with ⟨htimely', hlater⟩
  refine ⟨htimely.wait, hlater.epoch, fun deadline' hnext hearlier => ?_⟩
  -- Had the epoch stayed, some deadline before was no later than this.
  by_cases hepoch : st'.provider.watcher.epoch = st.provider.watcher.epoch
  · rcases hlater.nextDeadline htimely.consistent htimely'.consistent hepoch hnext with
      ⟨deadline, hdeadline, hle⟩
    exact absurd (hearlier deadline hdeadline) (Nat.not_lt.mpr hle)
  · exact Nat.lt_of_le_of_ne hlater.epoch (Ne.symm hepoch)

end Stage

end CardHost
