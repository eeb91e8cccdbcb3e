import CardHost.Proofs.Entries

/-!
# What Clients Do to the Watcher

Clients work on the hub, and of the watcher they touch nothing but its flags.
Whatever they call, it stays at the point where it stood, the request to list
the readers afresh is not withdrawn, and raising that request counts up the
epoch. `Nudges` says so of a provider that became another.

The last part of it is what an open session relies on: a handle that is new in
the table comes with the request to list the readers afresh. There is one call
that adds a handle, and it raises the flag before it returns.

## Main definitions

* `Provider.Nudges`: A change that leaves the watcher where it stood.

## Theorems

* `Calm.nudges`, `Nudges.wake`, `settle_nudges`, `createSession_nudges`,
  `removeSession_nudges`, `addRequest_nudges`: What the parts of a call do.
* `Course.nudges`: What a call does.
-/

namespace CardHost

variable {σ κ ε : Type}

namespace Provider

variable {b : Backend σ κ ε} {p p' p'' : Provider σ κ ε}

/-- A provider became another, and the watcher stayed where it stood. -/
structure Nudges (p p' : Provider σ κ ε) : Prop where
  phase : p'.watcher.phase = p.watcher.phase
  epoch : p.watcher.epoch ≤ p'.watcher.epoch
  /-- The request to list the readers afresh is not withdrawn. -/
  resync : p.watcher.resync = true → p'.watcher.resync = true
  /-- The request is not raised without a change of epoch. -/
  same : p'.watcher.epoch = p.watcher.epoch → p'.watcher.resync = p.watcher.resync
  /-- A session that was opened has raised it. -/
  opened : ∀ handle ∈ p'.hub.handles, handle ∉ p.hub.handles → p'.watcher.resync = true

/-- A change that leaves the watcher alone and opens no session. -/
theorem Nudges.of_same (hwatcher : p'.watcher = p.watcher)
    (hhandles : ∀ handle ∈ p'.hub.handles, handle ∈ p.hub.handles) : p.Nudges p' where
  phase := congrArg Watcher.phase hwatcher
  epoch := Nat.le_of_eq (congrArg Watcher.epoch hwatcher.symm)
  resync h := (congrArg Watcher.resync hwatcher).trans h
  same _ := congrArg Watcher.resync hwatcher
  opened handle hmem hnew := absurd (hhandles handle hmem) hnew

theorem Nudges.refl (p : Provider σ κ ε) : p.Nudges p := of_same rfl fun _ h => h

theorem Nudges.trans (h : p.Nudges p') (h' : p'.Nudges p'') : p.Nudges p'' where
  phase := h'.phase.trans h.phase
  epoch := Nat.le_trans h.epoch h'.epoch
  resync hresync := h'.resync (h.resync hresync)
  same hepoch := by
    -- The epoch cannot have been counted up in between and come back.
    have hbefore := h.epoch
    have hafter := h'.epoch
    rw [h'.same (by omega), h.same (by omega)]
  opened handle hmem hnew := by
    by_cases hbetween : handle ∈ p'.hub.handles
    · exact h'.resync (h.opened handle hbetween hnew)
    · exact h'.opened handle hmem hbetween

theorem Calm.nudges (h : p.Calm p') : p.Nudges p' :=
  Nudges.of_same h.watcher fun _ hmem => h.hub.handles ▸ hmem

/-- A wake leaves nobody worse off. -/
theorem Nudges.wake (h : p.Nudges p') (reason : WakeReason) : p.Nudges (p'.wake b reason) where
  phase := h.phase
  epoch := Nat.le_succ_of_le h.epoch
  resync hresync := by
    show (p'.watcher.resync || reason == .resync) = true
    rw [h.resync hresync, Bool.true_or]
  same hepoch := by
    have hgrown : p.watcher.epoch < p'.watcher.epoch + 1 := Nat.lt_succ_of_le h.epoch
    exact absurd hepoch (Nat.ne_of_gt hgrown)
  opened handle hmem hnew := by
    show (p'.watcher.resync || reason == .resync) = true
    rw [h.opened handle hmem hnew, Bool.true_or]

theorem Nudges.wakeIf (h : p.Nudges p') (cause : Bool) : p.Nudges (p'.wakeIf b cause) := by
  rw [Provider.wakeIf]
  split
  · exact h.wake .deadline
  · exact h

theorem settle_nudges (s : Settled) : p.Nudges (p.settle b s) := by
  refine Nudges.wakeIf ?_ _
  exact Nudges.of_same rfl fun _ h => h

theorem createSession_nudges (handle : ServiceHandle) (settings : Settings) :
    p.Nudges (p.createSession b handle settings).2 := by
  rw [createSession]
  split
  · exact Nudges.refl p
  · -- Whoever is new in the table, the wake that follows is for them.
    refine ⟨rfl, Nat.le_succ _, fun _ => Bool.or_true _, fun hepoch => ?_,
      fun _ _ _ => Bool.or_true _⟩
    exact absurd hepoch (Nat.succ_ne_self _)

theorem removeSession_nudges (handle : ServiceHandle) :
    p.Nudges (p.removeSession b handle).2 := by
  rw [removeSession]
  split
  · exact Nudges.refl p
  · have hfiltered : p.Nudges { p with hub :=
        { p.hub with sessions := p.hub.sessions.filter (·.handle != handle) } } :=
      Nudges.of_same rfl fun other hother =>
        (List.filter_sublist.map Session.handle).subset hother
    have hsettled := hfiltered.trans (settle_nudges (b := b) (p.hub.pending.cancelService handle))
    exact hsettled.trans (Nudges.of_same rfl fun _ h => h)

theorem addRequest_nudges (r : PendingRequest) : p.Nudges (p.addRequest b r).2 := by
  rw [addRequest]
  split
  · exact Nudges.refl p
  · refine Nudges.wakeIf ?_ _
    exact Nudges.of_same rfl fun _ h => h

/-- No call moves the watcher, and one that opens a session has the readers
    listed afresh. -/
theorem Course.nudges {call? : Option Call} {result : ResultCode × Provider σ κ ε}
    (hcourse : Course b call? p result) : p.Nudges result.2 := by
  have hcompleted : ∀ {p' : Provider σ κ ε} {call : Call} {kind : MessageKind}
      (code : UInt32) (result : ResultCode) (payload : Payload), p.Nudges p' →
        p.Nudges (p'.complete kind call code result payload) :=
    fun _ _ _ hp' => hp'.trans (Nudges.of_same rfl fun _ h => h)
  cases hcourse with
  | refused hcode hcalm => exact hcalm.nudges
  | done hcall hcalm => exact hcalm.nudges
  | completed hcall hkind hcalm => exact hcompleted _ _ _ hcalm.nudges
  | opened hcall settings hnew => exact hcompleted _ _ _ (createSession_nudges _ settings)
  | closed hcall hopen => exact hcompleted _ _ _ (removeSession_nudges _)
  | queued hcall hcalm hopen now timeout sources hadd =>
      rw [← congrArg Prod.snd hadd]
      exact hcalm.nudges.trans (addRequest_nudges _)
  | calledOff hcall hsettled code => exact settle_nudges _

end Provider

end CardHost
