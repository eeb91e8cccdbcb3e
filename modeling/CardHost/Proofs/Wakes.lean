import CardHost.Proofs.Entries
import CardHost.Proofs.Settling

/-!
# Who Has to Wake the Watcher

A wait is given as long as the earliest deadline allows, so it lasts too long as
soon as an earlier one comes up. `Later` is the promise that this does not
happen unnoticed: a provider that became another either counted up the epoch, or
has no deadline now that is earlier than all it had before. `Heeds` adds that
no wait began, which is true of everything but the one step that begins it.

Ending requests can only make the earliest deadline later, so nothing follows
from when, or whether, the watcher is woken because of it. The one place where
an earlier deadline comes up is the queuing of a request, and the flag that
`add` returns is exactly the question whether it did. Everything else on the
way of a call leaves queue and watcher alone.

## Main definitions

* `Provider.Later`: No earlier deadline without a wake.
* `Provider.Heeds`: And no wait that began.

## Theorems

* `settle_heeds`, `addRequest_heeds`, `createSession_heeds`,
  `removeSession_heeds`: What the parts of a call do.
* `Course.heeds`: What a call does.
* `go_heeds`, `tick_heeds`, `requestStop_heeds`: What becomes of the watcher.
* `Later.nextDeadline`: The promise in terms of the earliest deadline.
-/

namespace CardHost

variable {σ κ ε α : Type}

/-- Woken or not, a watcher that goes on after a call is in no wait, and in the
    epoch it was in. -/
theorem Watcher.go_spec (m : Watcher) (next : Next) :
    (m.go next).isWaiting = false ∧ (m.go next).epoch = m.epoch := by
  have hlisting : ∀ list, (m.enterListing list).isWaiting = false ∧
      (m.enterListing list).epoch = m.epoch := by
    intro list
    rw [enterListing]
    split <;> exact ⟨rfl, rfl⟩
  cases next with
  | listing list => exact hlisting list
  | round set =>
      rw [go, enterRound]
      split
      · exact ⟨rfl, rfl⟩
      · split
        · exact hlisting set.list
        · exact ⟨rfl, rfl⟩
  | pause now list =>
      rw [go, enterPause]
      split <;> exact ⟨rfl, rfl⟩

namespace Provider

variable {b : Backend σ κ ε} {p p' p'' : Provider σ κ ε}

/-- A provider became another, and unless the epoch was counted up no deadline
    came up that is earlier than all there were. -/
structure Later (p p' : Provider σ κ ε) : Prop where
  epoch : p.watcher.epoch ≤ p'.watcher.epoch
  /-- In the same epoch, for every deadline there was one no later. -/
  later : p'.watcher.epoch = p.watcher.epoch →
    ∀ r' ∈ p'.hub.pending.live, ∃ r ∈ p.hub.pending.live, r.deadline ≤ r'.deadline

/-- Besides, the indexes agree, and no wait began. -/
structure Heeds (p p' : Provider σ κ ε) : Prop extends p.Later p' where
  consistent : p'.hub.pending.Consistent
  waiting : p'.watcher.isWaiting = true → p'.watcher.phase = p.watcher.phase

theorem Later.refl (p : Provider σ κ ε) : p.Later p :=
  ⟨Nat.le_refl _, fun _ r hr => ⟨r, hr, Nat.le_refl _⟩⟩

theorem Later.trans (h : p.Later p') (h' : p'.Later p'') : p.Later p'' := by
  refine ⟨Nat.le_trans h.epoch h'.epoch, fun hepoch r'' hr'' => ?_⟩
  -- The epoch cannot have been counted up in between and come back.
  have hbetween := h.epoch
  have hafter := h'.epoch
  rcases h'.later (by omega) r'' hr'' with ⟨r', hr', hle'⟩
  rcases h.later (by omega) r' hr' with ⟨r, hr, hle⟩
  exact ⟨r, hr, Nat.le_trans hle hle'⟩

theorem Heeds.trans (h : p.Heeds p') (h' : p'.Heeds p'') : p.Heeds p'' := by
  refine ⟨h.toLater.trans h'.toLater, h'.consistent, fun hwait => ?_⟩
  -- A wait after both changes is the one in between, and so the one before.
  have hphase := h'.waiting hwait
  have hwaiting : p'.watcher.isWaiting = true := by
    rw [Watcher.isWaiting, ← hphase]
    exact hwait
  rw [hphase, h.waiting hwaiting]

/-- A change that leaves queue and watcher alone. -/
theorem Heeds.of_same (h : p.hub.pending.Consistent) (hpending : p'.hub.pending = p.hub.pending)
    (hwatcher : p'.watcher = p.watcher) : p.Heeds p' := by
  refine ⟨⟨Nat.le_of_eq (congrArg Watcher.epoch hwatcher.symm), fun _ r' hr' => ?_⟩,
    hpending ▸ h, fun _ => congrArg Watcher.phase hwatcher⟩
  rw [hpending] at hr'
  exact ⟨r', hr', Nat.le_refl _⟩

/-- A change that leaves the queue alone and the watcher in no wait. -/
theorem Heeds.of_idle (h : p.hub.pending.Consistent) (hpending : p'.hub.pending = p.hub.pending)
    (hepoch : p'.watcher.epoch = p.watcher.epoch) (hidle : p'.watcher.isWaiting = false) :
    p.Heeds p' := by
  refine ⟨⟨Nat.le_of_eq hepoch.symm, fun _ r' hr' => ?_⟩, hpending ▸ h, fun hwait => ?_⟩
  · rw [hpending] at hr'
    exact ⟨r', hr', Nat.le_refl _⟩
  · rw [hidle] at hwait
    cases hwait

theorem Heeds.refl (h : p.hub.pending.Consistent) : p.Heeds p := of_same h rfl rfl

theorem Calm.heeds (hcalm : p.Calm p') (h : p.hub.pending.Consistent) : p.Heeds p' :=
  Heeds.of_same h hcalm.hub.pending hcalm.watcher

/-- After a wake nothing is left to ask. -/
theorem Heeds.wake (h : p.Heeds p') (reason : WakeReason) : p.Heeds (p'.wake b reason) := by
  have hwoken : p.watcher.epoch < (p'.wake b reason).watcher.epoch := Nat.lt_succ_of_le h.epoch
  exact ⟨⟨Nat.le_of_lt hwoken, fun hepoch => absurd hepoch (Nat.ne_of_gt hwoken)⟩, h.consistent,
    h.waiting⟩

theorem Heeds.wakeIf (h : p.Heeds p') (cause : Bool) : p.Heeds (p'.wakeIf b cause) := by
  rw [Provider.wakeIf]
  split
  · exact h.wake .deadline
  · exact h

/-- A watcher that is to end is out of any wait it was given too long. -/
theorem requestStop_heeds (h : p.hub.pending.Consistent) : p.Heeds (p.requestStop b) := by
  refine ⟨⟨Nat.le_succ _, fun hepoch => absurd hepoch (Nat.succ_ne_self _)⟩, h, fun hwait => ?_⟩
  rcases p with ⟨hub, ⟨phase, stop, resync, epoch⟩, config⟩
  -- Only a pause is cut short, and its end is no wait.
  cases phase with
  | pausing ends list => cases hwait
  | listing | timing | waiting | stopped => rfl

/-- Ending requests brings up no deadline. -/
theorem detach_heeds {s : Settled} {test : PendingRequest → Bool}
    {finish : PendingRequest → List Message} (hs : s.Ends p.hub.pending test finish)
    (sessions : List (Session κ)) (world : World σ ε) :
    p.Heeds { p with hub := { sessions, pending := s.queue, world } } := by
  refine ⟨⟨Nat.le_refl _, fun _ r' hr' => ?_⟩, hs.consistent, fun _ => rfl⟩
  have hlive : r' ∈ s.queue.live := hr'
  rw [hs.live] at hlive
  exact ⟨r', List.mem_of_mem_filter hlive, Nat.le_refl _⟩

theorem settle_heeds {s : Settled} {test : PendingRequest → Bool}
    {finish : PendingRequest → List Message} (hs : s.Ends p.hub.pending test finish) :
    p.Heeds (p.settle b s) :=
  (detach_heeds hs p.hub.sessions (p.hub.world.post s.posts)).wakeIf _

/-- A request that is queued without a wake is due no earlier than another. -/
theorem addRequest_heeds (h : p.hub.pending.Consistent) (r : PendingRequest) :
    p.Heeds (p.addRequest b r).2 := by
  rw [addRequest]
  rcases hkey : p.hub.pending.contains r.key with _ | _
  · rcases h.add_new hkey with ⟨q, hadd, hlive, hconsistent⟩
    rw [hadd]
    rcases hnearest : (p.hub.pending.live.all fun x => r.deadline < x.deadline) with _ | _
    · -- Some request is due no later than the new one, so it will do for both.
      rcases List.all_eq_false.mp hnearest with ⟨x, hx, hle⟩
      refine ⟨⟨Nat.le_refl _, fun _ r' hr' => ?_⟩, hconsistent, fun _ => rfl⟩
      have hmem : r' ∈ q.live := hr'
      rw [hlive, (enterBy_perm _ _ _).mem_iff, List.mem_cons] at hmem
      rcases hmem with rfl | hmem
      · exact ⟨x, hx, Nat.not_lt.mp fun hlt => hle (decide_eq_true hlt)⟩
      · exact ⟨r', hmem, Nat.le_refl _⟩
    · exact ⟨⟨Nat.le_succ _, fun hepoch => absurd hepoch (Nat.succ_ne_self _)⟩, hconsistent,
        fun _ => rfl⟩
  · rw [RequestQueue.add_pending hkey]
    exact Heeds.refl h

theorem createSession_heeds (h : p.hub.pending.Consistent) (handle : ServiceHandle)
    (settings : Settings) : p.Heeds (p.createSession b handle settings).2 := by
  rw [createSession]
  split
  · exact Heeds.refl h
  · refine Heeds.wake ?_ .resync
    exact Heeds.of_same h rfl rfl

theorem removeSession_heeds (h : p.hub.pending.Consistent) (handle : ServiceHandle) :
    p.Heeds (p.removeSession b handle).2 := by
  rw [removeSession]
  split
  · exact Heeds.refl h
  · have hsettled := (detach_heeds (RequestQueue.cancelService_ends h handle)
      (p.hub.sessions.filter (·.handle != handle))
      (p.hub.world.post (p.hub.pending.cancelService handle).posts)).wakeIf (b := b)
        ((p.hub.pending.cancelService handle).count != 0)
    exact hsettled.trans (Heeds.of_same hsettled.consistent rfl rfl)

theorem complete_heeds (h : p.hub.pending.Consistent) (kind : MessageKind) (call : Call)
    (code : UInt32) (result : ResultCode) (payload : Payload) :
    p.Heeds (p.complete kind call code result payload) := Heeds.of_same h rfl rfl

/-- No call brings up an earlier deadline without a wake. -/
theorem Course.heeds {call? : Option Call} {result : ResultCode × Provider σ κ ε}
    (hcourse : Course b call? p result) (h : p.hub.pending.Consistent) : p.Heeds result.2 := by
  have hcompleted : ∀ {p' : Provider σ κ ε} {call : Call} {kind : MessageKind}
      (code : UInt32) (result : ResultCode) (payload : Payload), p.Heeds p' →
        p.Heeds (p'.complete kind call code result payload) :=
    fun code result payload hp' => hp'.trans (complete_heeds hp'.consistent _ _ code result payload)
  cases hcourse with
  | refused hcode hcalm => exact hcalm.heeds h
  | done hcall hcalm => exact hcalm.heeds h
  | completed hcall hkind hcalm => exact hcompleted _ _ _ (hcalm.heeds h)
  | opened hcall settings hnew => exact hcompleted _ _ _ (createSession_heeds h _ settings)
  | closed hcall hopen => exact hcompleted _ _ _ (removeSession_heeds h _)
  | queued hcall hcalm hopen now timeout sources hadd =>
      have hadded := congrArg Prod.snd hadd
      rw [← hadded]
      exact (hcalm.heeds h).trans (addRequest_heeds (hcalm.heeds h).consistent _)
  | calledOff hcall hsettled code =>
      rcases hsettled with ⟨key, rfl⟩ | ⟨handle, rfl⟩
      · exact settle_heeds (RequestQueue.cancel_ends h key)
      · exact settle_heeds (RequestQueue.cancelService_ends h handle)

/-- A watcher that goes on after a call begins no wait. -/
theorem go_heeds (h : p.hub.pending.Consistent) (hpending : p'.hub.pending = p.hub.pending)
    {next : Next} (hwatcher : p'.watcher = p.watcher.go next) : p.Heeds p' := by
  rcases p.watcher.go_spec next with ⟨hidle, hepoch⟩
  rw [← hwatcher] at hidle hepoch
  exact Heeds.of_idle h hpending hepoch hidle

/-- The end of a pause begins no wait. -/
theorem tick_heeds (h : p.hub.pending.Consistent) (now : Instant) : p.Heeds (p.tick now) := by
  have htick : p.watcher.tick now = p.watcher ∨
      ∃ list, p.watcher.tick now = p.watcher.go (.listing list) := by
    unfold Watcher.tick
    split
    · next ends list _ =>
        split
        · exact .inr ⟨list, rfl⟩
        · exact .inl rfl
    · exact .inl rfl
  rcases htick with hsame | ⟨list, hgone⟩
  · exact Heeds.of_same h rfl hsame
  · exact go_heeds h rfl hgone

/-- In the same epoch the earliest deadline does not become earlier, and none
    comes up where there was none. -/
theorem Later.nextDeadline (h : p.Later p') (hconsistent : p.hub.pending.Consistent)
    (hconsistent' : p'.hub.pending.Consistent) (hepoch : p'.watcher.epoch = p.watcher.epoch)
    {deadline' : Instant} (hnext : p'.hub.pending.nextDeadline = some deadline') :
    ∃ deadline, p.hub.pending.nextDeadline = some deadline ∧ deadline ≤ deadline' := by
  rw [hconsistent'.nextDeadline_eq, List.min?_eq_some_iff] at hnext
  rcases List.mem_map.mp hnext.1 with ⟨r', hr', hdeadline'⟩
  rcases h.later hepoch r' hr' with ⟨r, hr, hle⟩
  rcases hconsistent.nextDeadline_le hr with ⟨deadline, hdeadline, hleast⟩
  exact ⟨deadline, hdeadline, hdeadline' ▸ Nat.le_trans hleast hle⟩

end Provider

end CardHost
