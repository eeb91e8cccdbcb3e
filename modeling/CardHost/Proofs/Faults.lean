import CardHost.Proofs.Operations
import CardHost.Proofs.Scenes

/-!
# Connection and Lock After a Failure

Seven operations work with the card, and each makes one or two calls on it. What a
failure of one of these calls does to the connection and to the lock is decided
partly where all calls go through and partly by the operation itself, before or after
that. Two of the operations tell their client of success where a call failed, and one
clears the lock flag whatever the answer.

`Access.Fails` lists the calls: which operation makes which one, on what session, and
what made the second call of an operation happen at all. It speaks of the backend's
answers only. `fails_iff` says that the list is complete, since an operation that used
the card and failed is one of whose calls failed. From there every operation takes the
same way, and `ask_of_fault` has what is left of the session.

A connection that is refused changes nothing. That the session is unlocked then is due
to the invariant that a lock is on a connection, and not to the attempt.

## Main definitions

* `Session.Access.Fails`: A call of an operation fails on a connection.
* `Session.Access.Fault`: It fails on the connection that the session has or gets.

## Theorems

* `fails_iff`: What fails of an operation are its calls.
* `ask_of_fault`: The session after such a failure.
* `ask_of_refused`: The session after an attempt to connect.
* `status_of_fault`, `reset_of_fault`: The answers that hide a failure.
* `run_after_fault`: All of this after any run of a session.
-/

namespace CardHost

namespace Session

variable {σ κ ε α : Type} {b : Backend σ κ ε} {s : Session κ} {w w' : World σ ε} {card : κ}
  {e : CardError}

namespace Access

variable {access : Access}

/-- On a connection, a call that an operation makes fails. -/
inductive Fails (b : Backend σ κ ε) (s : Session κ) (card : κ) (hardware : σ) :
    Access → CardError → Prop where
  | lock {e : CardError} (hfree : s.locked = false)
      (hcall : (b.lock card hardware).value.1 = .error e) : Fails b s card hardware .lock e
  | unlock {e : CardError} (hlocked : s.locked = true)
      (hcall : (b.unlock card hardware).value.1 = .error e) : Fails b s card hardware .unlock e
  | status {e : CardError} (hthere : s.observed.available = true)
      (hbound : s.binding.isBound = true)
      (hcall : (b.status card hardware).value.1 = .error e) : Fails b s card hardware .status e
  | read {e : CardError} (sources : DataSources)
      (hcall : (b.status card hardware).value.1 = .error e) :
      Fails b s card hardware (.read sources) e
  /-- The protocol cannot be had, for which a command is made to fit. -/
  | protocol {e : CardError} (command : Bytes)
      (hcall : (b.status card hardware).value.1 = .error e) :
      Fails b s card hardware (.chipIo command) e
  /-- The command is not exchanged. -/
  | transmit {e : CardError} {status : CardStatus} {card' : κ} (command : Bytes)
      (hstatus : (b.status card hardware).value = (.ok status, card'))
      (hcall : (b.transmit (corrected s.settings.workarounds status.protocol command) card'
        (b.status card hardware).state).value.1 = .error e) :
      Fails b s card hardware (.chipIo command) e
  | chipPower {e : CardError} (action : PowerAction)
      (hcall : (b.reconnect action.disposition card hardware).value.1 = .error e) :
      Fails b s card hardware (.chipPower action) e
  /-- The chip has power, but its answer to reset cannot be had. -/
  | answer {e : CardError} {action : PowerAction} {card' : κ} (hpower : action ≠ .off)
      (hreconnect : (b.reconnect action.disposition card hardware).value = (.ok (), card'))
      (hcall : (b.status card' (b.reconnect action.disposition card hardware).state).value.1 =
        .error e) : Fails b s card hardware (.chipPower action) e
  | reset {e : CardError} (hbound : s.binding.isBound = true)
      (hcall : (b.reconnect .reset card hardware).value.1 = .error e) :
      Fails b s card hardware .reset e

/-- A call that an operation makes fails, on the connection of the session or on
    the one that is opened for it. -/
def Fault (b : Backend σ κ ε) (s : Session κ) (w : World σ ε) (access : Access)
    (e : CardError) : Prop :=
  ∃ card w', s.connect b w = (.ok card, w') ∧ Fails b s card w'.hardware access e

theorem map_eq_error_iff {answer : Except CardError α} {β : Type} {f : α → β} :
    answer.map f = .error e ↔ answer = .error e := by
  cases answer <;> simp only [Except.map, Except.error.injEq, reduceCtorEq]

theorem mute_error_iff {use : CardUse σ κ ε α} :
    (CardUse.mute use card w).1.1 = .error e ↔ (use card w).1.1 = .error e := map_eq_error_iff

/-- An exchange fails with the one or the other of its calls. -/
theorem exchange_error_iff {workarounds : Workarounds} {command : Bytes} :
    (CardUse.exchange b workarounds command card w).1.1 = .error e ↔
      (b.status card w.hardware).value.1 = .error e ∨
        ∃ status card', (b.status card w.hardware).value = (.ok status, card') ∧
          (b.transmit (corrected workarounds status.protocol command) card'
            (b.status card w.hardware).state).value.1 = .error e := by
  rcases hvalue : (b.status card w.hardware).value with ⟨e' | status, card'⟩
  · rw [CardUse.exchange, World.call_of_value hvalue]
    simp only [Except.error.injEq, Prod.mk.injEq, reduceCtorEq, false_and, exists_false, or_false]
  · rw [CardUse.exchange, World.call_of_value hvalue]
    simp only [map_eq_error_iff, reduceCtorEq, Prod.mk.injEq, Except.ok.injEq, false_or]
    constructor
    · exact fun hfails => ⟨status, card', ⟨rfl, rfl⟩, hfails⟩
    · rintro ⟨_, _, ⟨rfl, rfl⟩, hfails⟩
      exact hfails

/-- So does a change of power. -/
theorem power_error_iff {action : PowerAction} :
    (CardUse.power b action card w).1.1 = .error e ↔
      (b.reconnect action.disposition card w.hardware).value.1 = .error e ∨
        action ≠ .off ∧ ∃ card',
          (b.reconnect action.disposition card w.hardware).value = (.ok (), card') ∧
            (b.status card' (b.reconnect action.disposition card w.hardware).state).value.1 =
              .error e := by
  rcases hvalue : (b.reconnect action.disposition card w.hardware).value with ⟨e' | _, card'⟩
  · rw [CardUse.power, World.call_of_value hvalue]
    simp only [Except.error.injEq, Prod.mk.injEq, reduceCtorEq, false_and, exists_false, and_false,
      or_false]
  · rw [CardUse.power, World.call_of_value hvalue]
    simp only [reduceCtorEq, Prod.mk.injEq, true_and, false_or, exists_eq_left']
    -- Without power there is nothing to ask for, and the call cannot fail any more.
    cases action with
    | off => simp only [reduceCtorEq, ne_eq, not_true_eq_false, false_and]
    | cold | warm =>
        simp only [map_eq_error_iff, ne_eq, reduceCtorEq, not_false_eq_true, true_and]
        rfl

/-- What fails of an operation are the calls on the list. -/
theorem fails_iff : Fails b s card w.hardware access e ↔
    ∃ use, access.use b s = some use ∧ (use card w).1.1 = .error e := by
  constructor
  · intro hfails
    cases hfails with
    | lock hfree hcall => exact ⟨_, by rw [use, hfree, if_neg Bool.false_ne_true], hcall⟩
    | unlock hlocked hcall => exact ⟨_, by rw [use, hlocked, if_pos rfl], hcall⟩
    | status hthere hbound hcall =>
        refine ⟨CardUse.mute fun card => World.call (b.status card), ?_, mute_error_iff.mpr hcall⟩
        rw [use, hthere, hbound, Bool.and_self, if_pos rfl]
    | read sources hcall => exact ⟨_, rfl, mute_error_iff.mpr hcall⟩
    | protocol command hcall =>
        exact ⟨_, rfl, mute_error_iff.mpr (exchange_error_iff.mpr (.inl hcall))⟩
    | transmit command hstatus hcall =>
        exact ⟨_, rfl, mute_error_iff.mpr
          (exchange_error_iff.mpr (.inr ⟨_, _, hstatus, hcall⟩))⟩
    | chipPower action hcall =>
        exact ⟨_, rfl, mute_error_iff.mpr (power_error_iff.mpr (.inl hcall))⟩
    | answer hpower hreconnect hcall =>
        exact ⟨_, rfl, mute_error_iff.mpr
          (power_error_iff.mpr (.inr ⟨hpower, _, hreconnect, hcall⟩))⟩
    | reset hbound hcall => exact ⟨_, by rw [use, hbound, if_pos rfl], hcall⟩
  · rintro ⟨use, huse, hfailed⟩
    cases uses_of_use huse with
    | lock hfree => exact .lock hfree hfailed
    | unlock hlocked => exact .unlock hlocked hfailed
    | status hbound =>
        rw [Access.use] at huse
        split at huse
        · next hready =>
            exact .status (Bool.and_eq_true _ _ ▸ hready).1 hbound (mute_error_iff.mp hfailed)
        · cases huse
    | read sources => exact .read sources (mute_error_iff.mp hfailed)
    | chipIo command =>
        rcases exchange_error_iff.mp (mute_error_iff.mp hfailed) with hcall | ⟨_, _, hstatus, hcall⟩
        · exact .protocol command hcall
        · exact .transmit command hstatus hcall
    | chipPower action =>
        rcases power_error_iff.mp (mute_error_iff.mp hfailed) with
          hcall | ⟨hpower, _, hreconnect, hcall⟩
        · exact .chipPower action hcall
        · exact .answer hpower hreconnect hcall
    | reset hbound => exact .reset hbound hfailed

/-- After a failure the lock flag is as before, but for the operation that clears
    it in any case. -/
theorem lockedAfter_error {access : Access} (hother : access ≠ .unlock) (e : CardError)
    (locked : Bool) : access.lockedAfter (.error e) locked = locked := by
  cases access with
  | unlock => exact absurd rfl hother
  | lock | status | read | chipIo | chipPower | reset => rfl

theorem lockedAfter_false (access : Access) (e : CardError) :
    access.lockedAfter (.error e) false = false := by
  cases access <;> rfl

end Access

/-- A call that an operation makes fails: the connection ends, and the lock with it,
    if it is of no more use, and else both are as before, but that giving up the
    lock gives it up. -/
theorem ask_of_fault {access : Access} (hfault : access.Fault b s w e) :
    (e.dropsConnection = true → (s.ask b access w).1.card = none ∧
        (s.ask b access w).1.locked = false) ∧
      (e.dropsConnection = false → (s.ask b access w).1.card.isSome = true ∧
        (access ≠ .unlock → (s.ask b access w).1.locked = s.locked) ∧
        (access = .unlock → (s.ask b access w).1.locked = false)) := by
  rcases hfault with ⟨card, w', hconnect, hfails⟩
  rcases Access.fails_iff.mp hfails with ⟨use, huse, hfailed⟩
  rcases hused : use card w' with ⟨⟨answer, card'⟩, w''⟩
  rw [hused] at hfailed
  rw [show answer = .error e from hfailed] at hused
  rw [ask_eq, huse]
  simp only [withCard_of_error hconnect hused]
  cases hdrops : e.dropsConnection with
  | true =>
      exact ⟨fun _ => ⟨rfl, Access.lockedAfter_false access e⟩, fun hkept => (nomatch hkept)⟩
  | false =>
      refine ⟨fun hdropped => (nomatch hdropped),
        fun _ => ⟨rfl, fun hother => ?_, fun hunlock => ?_⟩⟩
      · exact Access.lockedAfter_error hother e s.locked
      · rw [hunlock]
        rfl

/-- An attempt to connect fails: the session was neither connected nor locked before,
    and is neither after it. -/
theorem ask_of_refused (h : s.Anchored) (access : Access)
    (hrefused : s.connect b w = (.error e, w')) :
    (s.ask b access w).1.card = none ∧ (s.ask b access w).1.locked = false := by
  have hcard : s.card = none := by
    rcases hcard : s.card with _ | card
    · rfl
    · rw [connect, hcard] at hrefused
      cases hrefused
  -- Without a connection there is no lock to be left over.
  have hlocked : s.locked = false := by
    refine Bool.eq_false_iff.mpr fun hlocked => ?_
    have hopen := h.locked hlocked
    rw [hcard] at hopen
    cases hopen
  rw [ask_eq]
  rcases access.use b s with _ | use
  · exact ⟨hcard, hlocked⟩
  · simp only [withCard_of_unconnected hrefused, hlocked]
    exact ⟨hcard, Access.lockedAfter_false access e⟩

/-- The status hides that there is no card, and no other failure. -/
theorem status_of_fault (hfault : Access.status.Fault b s w e) :
    (s.status b w).1 = if e.isAbsence then .ok (IdcStatus.withoutCard .online) else .error e := by
  rcases hfault with ⟨card, w', hconnect, hfails⟩
  obtain ⟨hthere, hbound, hcall⟩ : s.observed.available = true ∧ s.binding.isBound = true ∧
      (b.status card w'.hardware).value.1 = .error e := by
    cases hfails with
    | status hthere hbound hcall => exact ⟨hthere, hbound, hcall⟩
  rcases hvalue : (b.status card w'.hardware).value with ⟨answer, card'⟩
  rw [hvalue] at hcall
  cases hcall
  simp only [status, hthere, hbound, Bool.not_true, Bool.false_eq_true, if_false]
  have hwith : s.withCard b (fun card => World.call (b.status card)) w = _ :=
    withCard_of_error hconnect (World.call_of_value hvalue)
  rw [hwith]
  split <;> rfl

/-- So does a reset. -/
theorem reset_of_fault (hfault : Access.reset.Fault b s w e) :
    (s.reset b w).1 = if e.isAbsence then .ok false else .error e := by
  rcases hfault with ⟨card, w', hconnect, hfails⟩
  obtain ⟨hbound, hcall⟩ : s.binding.isBound = true ∧
      (b.reconnect .reset card w'.hardware).value.1 = .error e := by
    cases hfails with
    | reset hbound hcall => exact ⟨hbound, hcall⟩
  rcases hvalue : (b.reconnect .reset card w'.hardware).value with ⟨answer, card'⟩
  rw [hvalue] at hcall
  cases hcall
  simp only [reset, hbound, Bool.not_true, Bool.false_eq_true, if_false]
  have hwith : s.withCard b (fun card => World.call (b.reconnect .reset card)) w = _ :=
    withCard_of_error hconnect (World.call_of_value hvalue)
  rw [hwith]
  cases e.dropsConnection <;> rfl

/-- Connection and lock after a failure, at any moment of any run of a session. A
    session that is locked is connected. When a call to the card fails, the session is
    neither connected nor locked any more if the failure makes the connection useless,
    and also if the operation hides the failure from its client; with any other failure
    it stays connected, and the lock is as it was unless it was to be given up. When
    an attempt to connect fails, the session is neither connected nor locked. -/
theorem run_after_fault (b : Backend σ κ ε) (handle : ServiceHandle) (settings : Settings)
    (world : World σ ε) (incidents : List (Incident σ)) :
    let (s, w) := run b incidents (start handle settings, world)
    (s.locked = true → s.card.isSome = true) ∧
      (∀ access e, access.Fault b s w e →
        let s' := (s.ask b access w).1
        (e.dropsConnection = true → s'.card = none ∧ s'.locked = false) ∧
          (e.dropsConnection = false → s'.card.isSome = true ∧
            (access ≠ .unlock → s'.locked = s.locked) ∧
            (access = .unlock → s'.locked = false))) ∧
      (∀ e, e.isAbsence = true → e.dropsConnection = true ∧
        (Access.status.Fault b s w e →
          (s.status b w).1 = .ok (IdcStatus.withoutCard .online)) ∧
        (Access.reset.Fault b s w e → (s.reset b w).1 = .ok false)) ∧
      ∀ access e w', s.connect b w = (.error e, w') →
        (s.ask b access w).1.card = none ∧ (s.ask b access w).1.locked = false := by
  have hanchored := run_anchored (b := b) (p := (start handle settings, world))
    (start_anchored handle settings) incidents
  rcases hrun : run b incidents (start handle settings, world) with ⟨s, w⟩
  rw [hrun] at hanchored
  refine ⟨hanchored.locked, fun access e => ask_of_fault, fun e habsent => ⟨?_, ?_, ?_⟩,
    fun access e w' => ask_of_refused hanchored access⟩
  · exact (e.result_of_isAbsence habsent).2
  · intro hfault
    rw [status_of_fault hfault, if_pos habsent]
  · intro hfault
    rw [reset_of_fault hfault, if_pos habsent]

end Session

namespace Simulation

/-- A card is locked, and then taken out of its reader. -/
def lockedAway : List (Session.Incident Hall) :=
  [.done (.ask .lock), .happened oneReader]

/-- The status that is asked for after that is answered as if nothing had failed, and
    leaves the session without connection and lock. -/
theorem run_after_fault_lockedAway :
    let world : World Hall Note :=
      { hardware :=
          { readers := [⟨"A", some ⟨1, [0x3b, 0x8f], none, 0#32⟩, 0#32, 1#16⟩], cards := 1 } }
    let (s, w) := Session.run backend lockedAway (Session.start 1 (settingsFor "A"), world)
    s.locked = true ∧ Session.Access.status.Fault backend s w .removedCard ∧
      (s.status backend w).1 = .ok (IdcStatus.withoutCard .online) ∧
      (s.ask backend .status w).1.card = none ∧ (s.ask backend .status w).1.locked = false := by
  intro world
  have hrun := Session.run_after_fault backend 1 (settingsFor "A") world lockedAway
  have hfault : Session.Access.status.Fault backend
      (Session.run backend lockedAway (Session.start 1 (settingsFor "A"), world)).1
      (Session.run backend lockedAway (Session.start 1 (settingsFor "A"), world)).2
      .removedCard :=
    ⟨_, _, rfl, .status rfl rfl rfl⟩
  exact ⟨rfl, hfault, (hrun.2.2.1 .removedCard rfl).2.1 hfault, (hrun.2.1 .status _ hfault).1 rfl⟩

end Simulation

end CardHost
