import CardHost.Proofs.Connections

/-!
# The Operations of a Session

Seven operations use the card, and all seven in one way. They give up early, or
they use the connection, opening it first if there is none; after that the lock
flag may change, and a reset reports the card that it found. `ask_eq` says so,
and whatever is to be shown of these operations is shown of that shape: only
`Access.use` still tells them apart.

The other things that happen to a session are few. Its configuration is read
again, a window subscribes, its connection is given up, a report is handed to
it. `Incident` has them all as data, together with the hardware changing behind
the session's back, so that a run of a session is a list of incidents.

## Main definitions

* `Session.Access`: The operations that use the card, and `ask` one.
* `Session.Access.use`: What an operation does with the card.
* `Session.Operation`, `Session.perform`: All that can be done with a session.
* `Session.Incident`, `Session.run`: What can happen to a session.

## Theorems

* `withCard_outcome`: How a use of the card can go.
* `ask_eq`: The one shape of the operations that use the card.
* `uses_of_use`: What such an operation does with it, case by case.
* `use_posts`, `withCard_posts`: They post nothing in between.
* `ask_alike`: What they change of a session.
* `notify_kept`, `notify_observed`: What a report does to one.
* `perform_anchored`, `run_anchored`: A lock is on a connection, and a connection
  is to a reader.
-/

namespace CardHost

variable {σ κ ε α : Type}

theorem World.calls_post (posts : List Post) (w : World σ ε) : (w.post posts).calls = w.calls := by
  simp only [World.calls, World.post, List.filterMap_append, List.filterMap_map]
  exact (congrArg _ (List.filterMap_eq_nil_iff.mpr fun _ _ => rfl)).trans (List.append_nil _)

theorem World.calls_call (f : σ → Reply σ ε α) (w : World σ ε) :
    (w.call f).2.calls = w.calls ++ (f w.hardware).notes := by
  simp only [World.calls, World.call, List.filterMap_append, List.filterMap_map]
  exact congrArg _ List.filterMap_some

/-- What a report says of its reader. -/
def Observed.ofReport (state : Snapshot) : Observed := ⟨state.present, !state.unavailable⟩

/-- What a call of an operation does with a card. -/
abbrev CardUse (σ κ ε α : Type) := κ → World σ ε → (Except CardError α × κ) × World σ ε

namespace CardUse

/-- A use whose answer nobody looks at. -/
def mute (use : CardUse σ κ ε α) : CardUse σ κ ε Unit := fun card w =>
  (((use card w).1.1.map fun _ => (), (use card w).1.2), (use card w).2)

/-- Exchange a command, in the form that suits the protocol. -/
def exchange (b : Backend σ κ ε) (workarounds : Workarounds) (command : Bytes) :
    CardUse σ κ ε ChipIo := fun card w =>
  match w.call (b.status card) with
  | ((.error e, card), w) => ((.error e, card), w)
  | ((.ok status, card), w) =>
    let sent := Session.corrected workarounds status.protocol command
    let ((answer, card), w) := w.call (b.transmit sent card)
    ((answer.map fun data => ⟨ChipProtocols.ofProtocol status.protocol, data⟩, card), w)

/-- Change the power of the chip, and ask for its answer to reset. -/
def power (b : Backend σ κ ε) (action : PowerAction) : CardUse σ κ ε Bytes := fun card w =>
  match w.call (b.reconnect action.disposition card) with
  | ((.error e, card), w) => ((.error e, card), w)
  | ((.ok (), card), w) =>
    match action with
    | .off => ((.ok [], card), w)
    | .cold | .warm =>
      let ((answer, card), w) := w.call (b.status card)
      ((answer.map CardStatus.atr, card), w)

variable {b : Backend σ κ ε}

theorem exchange_posts {workarounds : Workarounds} {command : Bytes} (card : κ) (w : World σ ε) :
    (exchange b workarounds command card w).2.posts = w.posts := by
  have hstatus := World.posts_call (b.status card) w
  rw [exchange]
  rcases hcall : w.call (b.status card) with ⟨⟨e | status, card'⟩, w'⟩
  · rw [hcall] at hstatus
    exact hstatus
  · rw [hcall] at hstatus
    exact (World.posts_call _ _).trans hstatus

theorem power_posts {action : PowerAction} (card : κ) (w : World σ ε) :
    (power b action card w).2.posts = w.posts := by
  have hreconnect := World.posts_call (b.reconnect action.disposition card) w
  rw [power]
  rcases hcall : w.call (b.reconnect action.disposition card) with ⟨⟨e | _, card'⟩, w'⟩
  · rw [hcall] at hreconnect
    exact hreconnect
  · rw [hcall] at hreconnect
    cases action
    · exact (World.posts_call _ _).trans hreconnect
    · exact (World.posts_call _ _).trans hreconnect
    · exact hreconnect

end CardUse

namespace Session

/-- The operations that use the card. -/
inductive Access where
  | lock
  | unlock
  | status
  | read (sources : DataSources)
  | chipIo (command : Bytes)
  | chipPower (action : PowerAction)
  | reset

/-- Carry out an operation that uses the card. -/
def ask (b : Backend σ κ ε) (access : Access) (s : Session κ) (w : World σ ε) :
    Session κ × World σ ε :=
  match access with
  | .lock => (s.lock b w).2
  | .unlock => (s.unlock b w).2
  | .status => (s.status b w).2
  | .read sources => (s.read b sources w).2
  | .chipIo command => (s.chipIo b command w).2
  | .chipPower action => (s.chipPower b action w).2
  | .reset => (s.reset b w).2

namespace Access

/-- What an operation does with the card, unless it gives up before that. -/
def use (b : Backend σ κ ε) (s : Session κ) : Access → Option (CardUse σ κ ε Unit)
  | lock => if s.locked then none else some fun card => World.call (b.lock card)
  | unlock => if s.locked then some fun card => World.call (b.unlock card) else none
  | status =>
    if s.observed.available && s.binding.isBound then
      some (CardUse.mute fun card => World.call (b.status card))
    else none
  | read _ => some (CardUse.mute fun card => World.call (b.status card))
  | chipIo command => some (CardUse.mute (CardUse.exchange b s.settings.workarounds command))
  | chipPower action => some (CardUse.mute (CardUse.power b action))
  | reset =>
    if s.binding.isBound then some fun card => World.call (b.reconnect .reset card) else none

/-- The uses there are, each with what holds of a session that makes it. -/
inductive Uses (b : Backend σ κ ε) (s : Session κ) : Access → CardUse σ κ ε Unit → Prop where
  | lock (hlocked : s.locked = false) : Uses b s .lock fun card => World.call (b.lock card)
  | unlock (hlocked : s.locked = true) : Uses b s .unlock fun card => World.call (b.unlock card)
  | status (hbound : s.binding.isBound = true) :
      Uses b s .status (CardUse.mute fun card => World.call (b.status card))
  | read (sources : DataSources) :
      Uses b s (.read sources) (CardUse.mute fun card => World.call (b.status card))
  | chipIo (command : Bytes) :
      Uses b s (.chipIo command) (CardUse.mute (CardUse.exchange b s.settings.workarounds command))
  | chipPower (action : PowerAction) :
      Uses b s (.chipPower action) (CardUse.mute (CardUse.power b action))
  | reset (hbound : s.binding.isBound = true) :
      Uses b s .reset fun card => World.call (b.reconnect .reset card)

theorem uses_of_use {b : Backend σ κ ε} {s : Session κ} {access : Access}
    {use : CardUse σ κ ε Unit} (huse : access.use b s = some use) : access.Uses b s use := by
  cases access with
  | lock =>
      rw [Access.use] at huse
      split at huse
      · cases huse
      · next hlocked =>
          cases huse
          exact .lock (Bool.eq_false_iff.mpr hlocked)
  | unlock =>
      rw [Access.use] at huse
      split at huse
      · next hlocked =>
          cases huse
          exact .unlock hlocked
      · cases huse
  | status =>
      rw [Access.use] at huse
      split at huse
      · next hready =>
          cases huse
          exact .status (Bool.and_eq_true _ _ ▸ hready).2
      · cases huse
  | read sources =>
      cases huse
      exact .read sources
  | chipIo command =>
      cases huse
      exact .chipIo command
  | chipPower action =>
      cases huse
      exact .chipPower action
  | reset =>
      rw [Access.use] at huse
      split at huse
      · next hbound =>
          cases huse
          exact .reset hbound
      · cases huse

/-- The lock flag after an operation that used the card. -/
def lockedAfter (access : Access) (answer : Except CardError Unit) (locked : Bool) : Bool :=
  match access, answer with
  | lock, .ok () => true
  | unlock, _ => false
  | _, _ => locked

/-- What an operation reports after it used the card. -/
def reported (access : Access) (answer : Except CardError Unit) (s : Session κ)
    (w : World σ ε) : World σ ε :=
  match access, answer with
  | reset, .ok () => s.report .serviceEvent .mediaDetected (.mediaDetected readPosition) w
  | _, _ => w

end Access

variable {b : Backend σ κ ε} {s : Session κ} {w : World σ ε}

/-- How a use of the card can go. -/
inductive Outcome (b : Backend σ κ ε) (use : CardUse σ κ ε α) (s : Session κ) (w : World σ ε) :
    Except CardError α → Session κ → World σ ε → Prop where
  /-- There is no connection, and none can be had. -/
  | refused {e : CardError} {w' : World σ ε} (hcard : s.card = none)
      (hconnect : s.connect b w = (.error e, w')) : Outcome b use s w (.error e) s w'
  /-- It succeeds. -/
  | served {card card' : κ} {w' w'' : World σ ε} {a : α}
      (hconnect : s.connect b w = (.ok card, w')) (huse : use card w' = ((.ok a, card'), w'')) :
      Outcome b use s w (.ok a) { s with card := some card' } w''
  /-- It fails, and the connection is kept. -/
  | failed {card card' : κ} {w' w'' : World σ ε} {e : CardError}
      (hconnect : s.connect b w = (.ok card, w')) (huse : use card w' = ((.error e, card'), w''))
      (hkept : e.dropsConnection = false) :
      Outcome b use s w (.error e) { s with card := some card' } w''
  /-- It fails, and the connection is given up. -/
  | dropped {card card' : κ} {w' w'' : World σ ε} {e : CardError}
      (hconnect : s.connect b w = (.ok card, w')) (huse : use card w' = ((.error e, card'), w''))
      (hdrops : e.dropsConnection = true) :
      Outcome b use s w (.error e) { s with card := none, locked := false }
        (w''.call (b.release card')).2

theorem withCard_outcome (b : Backend σ κ ε) (use : CardUse σ κ ε α) (s : Session κ)
    (w : World σ ε) :
    Outcome b use s w (s.withCard b use w).1 (s.withCard b use w).2.1 (s.withCard b use w).2.2 := by
  rcases hconnect : s.connect b w with ⟨e | card, w'⟩
  · have hcard : s.card = none := by
      rcases hcard : s.card with _ | card
      · rfl
      · rw [connect, hcard] at hconnect
        cases hconnect
    rw [withCard_of_unconnected hconnect]
    exact .refused hcard hconnect
  · rcases huse : use card w' with ⟨⟨e | a, card'⟩, w''⟩
    · rw [withCard_of_error hconnect huse]
      by_cases hdrops : e.dropsConnection = true
      · rw [if_pos hdrops]
        exact .dropped hconnect huse hdrops
      · rw [if_neg hdrops]
        exact .failed hconnect huse (Bool.eq_false_iff.mpr hdrops)
    · rw [withCard_of_ok hconnect huse]
      exact .served hconnect huse

theorem withCard_mute (b : Backend σ κ ε) (use : CardUse σ κ ε α) (s : Session κ)
    (w : World σ ε) :
    s.withCard b (CardUse.mute use) w =
      ((s.withCard b use w).1.map fun _ => (), (s.withCard b use w).2) := by
  rcases hconnect : s.connect b w with ⟨e | card, w'⟩
  · rw [withCard_of_unconnected hconnect, withCard_of_unconnected hconnect]
    rfl
  · rcases huse : use card w' with ⟨⟨e | a, card'⟩, w''⟩
    · have hmute : CardUse.mute use card w' = ((.error e, card'), w'') := by
        simp only [CardUse.mute, huse, Except.map]
      rw [withCard_of_error hconnect huse, withCard_of_error hconnect hmute]
      by_cases hdrops : e.dropsConnection = true
      · rw [if_pos hdrops, if_pos hdrops]
        rfl
      · rw [if_neg hdrops, if_neg hdrops]
        rfl
    · have hmute : CardUse.mute use card w' = ((.ok (), card'), w'') := by
        simp only [CardUse.mute, huse, Except.map]
      rw [withCard_of_ok hconnect huse, withCard_of_ok hconnect hmute]
      rfl

/-- The operations that use the card give up early, or use it, set the lock flag
    and report what they found. -/
theorem ask_eq (b : Backend σ κ ε) (access : Access) (s : Session κ) (w : World σ ε) :
    s.ask b access w =
      match access.use b s with
      | none => (s, w)
      | some use =>
        let r := s.withCard b use w
        ({ r.2.1 with locked := access.lockedAfter r.1 r.2.1.locked },
          access.reported r.1 r.2.1 r.2.2) := by
  cases access with
  | lock =>
      simp only [ask, lock, Access.use]
      by_cases hlocked : s.locked = true
      · rw [if_pos hlocked, if_pos hlocked]
      · simp only [if_neg hlocked]
        rcases s.withCard b (fun card => World.call (b.lock card)) w with ⟨e | _, s', w'⟩ <;> rfl
  | unlock =>
      simp only [ask, unlock, Access.use]
      by_cases hlocked : s.locked = true
      · rw [if_pos hlocked, if_pos hlocked]
        rfl
      · rw [if_neg hlocked, if_neg hlocked]
  | status =>
      simp only [ask, status, Access.use]
      rcases havailable : s.observed.available with _ | _
      · rfl
      · rcases hbound : s.binding.isBound with _ | _
        · rfl
        · simp only [Bool.not_true, Bool.false_eq_true, if_false, Bool.and_self, if_true,
            withCard_mute]
          rfl
  | read sources =>
      simp only [ask, read, Access.use, withCard_mute]
      rfl
  | chipIo command =>
      simp only [Access.use, withCard_mute]
      rfl
  | chipPower action =>
      simp only [Access.use, withCard_mute]
      rfl
  | reset =>
      simp only [ask, reset, Access.use]
      rcases hbound : s.binding.isBound with _ | _
      · rfl
      · simp only [Bool.not_true, Bool.false_eq_true, if_false, if_true]
        rcases s.withCard b (fun card => World.call (b.reconnect .reset card)) w with
          ⟨e | _, s', w'⟩ <;> rfl

/-- A report is no call. -/
theorem reported_calls (access : Access) (answer : Except CardError Unit) (s : Session κ)
    (w : World σ ε) : (access.reported answer s w).calls = w.calls := by
  rw [Access.reported.eq_def]
  split
  · exact World.calls_post _ w
  · rfl

/-- No use of the card posts anything. -/
theorem use_posts {access : Access} {use : CardUse σ κ ε Unit}
    (huse : access.use b s = some use) (card : κ) (w : World σ ε) :
    (use card w).2.posts = w.posts := by
  cases Access.uses_of_use huse with
  | lock | unlock | status | read | reset => exact World.posts_call _ w
  | chipIo command => exact CardUse.exchange_posts card w
  | chipPower action => exact CardUse.power_posts card w

/-- Nor does a use of the card as a whole. -/
theorem withCard_posts {use : CardUse σ κ ε α}
    (huse : ∀ card w, (use card w).2.posts = w.posts) (s : Session κ) (w : World σ ε) :
    (s.withCard b use w).2.2.posts = w.posts := by
  have hconnect := connect_posts (b := b) s w
  have houtcome := withCard_outcome b use s w
  generalize s.withCard b use w = r at houtcome ⊢
  rcases r with ⟨answer, s', w'⟩
  cases houtcome with
  | refused _ hrefused =>
      rw [hrefused] at hconnect
      exact hconnect
  | @served card _ w₁ _ _ hconnected hused =>
      rw [hconnected] at hconnect
      have hposts := huse card w₁
      rw [hused] at hposts
      exact hposts.trans hconnect
  | @failed card _ w₁ _ _ hconnected hused _ =>
      rw [hconnected] at hconnect
      have hposts := huse card w₁
      rw [hused] at hposts
      exact hposts.trans hconnect
  | @dropped card _ w₁ _ _ hconnected hused _ =>
      rw [hconnected] at hconnect
      have hposts := huse card w₁
      rw [hused] at hposts
      exact (World.posts_call _ _).trans (hposts.trans hconnect)

/-- What a use of the card changes of a session. -/
theorem withCard_alike (b : Backend σ κ ε) (use : CardUse σ κ ε α) (s : Session κ)
    (w : World σ ε) :
    ∃ card locked, (s.withCard b use w).2.1 = { s with card, locked } := by
  have houtcome := withCard_outcome b use s w
  generalize s.withCard b use w = r at houtcome ⊢
  rcases r with ⟨answer, s', w'⟩
  cases houtcome with
  | refused | served | failed => exact ⟨_, _, rfl⟩
  | dropped => exact ⟨none, false, rfl⟩

/-- A connection after a use of the card is one that was used. -/
theorem withCard_card {use : CardUse σ κ ε α} {card' : κ}
    (hcard : (s.withCard b use w).2.1.card = some card') :
    ∃ card w', s.connect b w = (.ok card, w') ∧ (use card w').1.2 = card' := by
  have houtcome := withCard_outcome b use s w
  generalize s.withCard b use w = r at houtcome hcard
  rcases r with ⟨answer, s', w'⟩
  cases houtcome with
  | refused hnone => exact nomatch hnone.symm.trans hcard
  | @served card _ w₁ _ _ hconnect huse =>
      cases hcard
      exact ⟨card, w₁, hconnect, congrArg (·.1.2) huse⟩
  | @failed card _ w₁ _ _ hconnect huse =>
      cases hcard
      exact ⟨card, w₁, hconnect, congrArg (·.1.2) huse⟩
  | dropped => cases hcard

/-- What an operation that uses the card changes of a session. -/
theorem ask_alike (b : Backend σ κ ε) (access : Access) (s : Session κ) (w : World σ ε) :
    ∃ card locked, (s.ask b access w).1 = { s with card, locked } := by
  rw [ask_eq]
  rcases access.use b s with _ | use
  · exact ⟨s.card, s.locked, rfl⟩
  · rcases withCard_alike b use s w with ⟨card, locked, hsame⟩
    simp only [hsame]
    exact ⟨card, _, rfl⟩

theorem ask_binding (access : Access) : (s.ask b access w).1.binding = s.binding := by
  rcases ask_alike b access s w with ⟨card, locked, hsame⟩
  rw [hsame]

theorem ask_observed (access : Access) : (s.ask b access w).1.observed = s.observed := by
  rcases ask_alike b access s w with ⟨card, locked, hsame⟩
  rw [hsame]

/-- A failure locks nothing. -/
theorem Access.locked_of_lockedAfter_error {access : Access} {e : CardError} {locked : Bool}
    (h : access.lockedAfter (.error e) locked = true) : locked = true := by
  cases access with
  | unlock => cases h
  | lock | status | read | chipIo | chipPower | reset => exact h

/-- A session that is locked has a connection. -/
theorem ask_locked (hlocked : s.locked = true → s.card.isSome = true) (access : Access)
    (h : (s.ask b access w).1.locked = true) : (s.ask b access w).1.card.isSome = true := by
  rw [ask_eq] at h ⊢
  rcases huse : access.use b s with _ | use
  · rw [huse] at h
    exact hlocked h
  · rw [huse] at h
    have houtcome := withCard_outcome b use s w
    simp only at h ⊢
    generalize s.withCard b use w = r at houtcome h ⊢
    rcases r with ⟨answer, s', w'⟩
    cases houtcome with
    | refused => exact hlocked (Access.locked_of_lockedAfter_error h)
    | served | failed => rfl
    | dropped =>
        -- The lock was given up with the connection, and a failure sets none.
        cases Access.locked_of_lockedAfter_error h

/-- A connection after an operation comes from one that the session had or got. -/
theorem ask_card {access : Access} {card' : κ}
    (hcard : (s.ask b access w).1.card = some card') :
    s.card = some card' ∨ ∃ use card w', access.use b s = some use ∧
      s.connect b w = (.ok card, w') ∧ (use card w').1.2 = card' := by
  rw [ask_eq] at hcard
  rcases huse : access.use b s with _ | use
  · rw [huse] at hcard
    exact .inl hcard
  · rw [huse] at hcard
    rcases (withCard_card hcard : ∃ card w', s.connect b w = (.ok card, w') ∧
      (use card w').1.2 = card') with ⟨card, w', hconnect, hused⟩
    exact .inr ⟨use, card, w', rfl, hconnect, hused⟩

/-- A report keeps the connection and calls nobody, or gives it up, and the lock
    with it. -/
theorem notify_kept (b : Backend σ κ ε) (state : Snapshot) (s : Session κ) (w : World σ ε) :
    let r := s.notify b state .card w
    r.1.binding = (s.informed state).binding ∧
      (r.1.card = s.card ∧ r.1.locked = s.locked ∧ r.2.calls = w.calls ∨
        r.1.card = none ∧ r.1.locked = false) := by
  have hinformed : (s.informed state).card = s.card ∧ (s.informed state).locked = s.locked := by
    rw [informed]
    split <;> exact ⟨rfl, rfl⟩
  -- Availability comes first, and is a matter of what was seen only.
  have hnoted : (∃ observed, ((s.informed state).noteAvailability state w).1 =
      { s.informed state with observed }) ∧
        ((s.informed state).noteAvailability state w).2.calls = w.calls := by
    rw [noteAvailability]
    split
    · exact ⟨⟨_, rfl⟩, rfl⟩
    · exact ⟨⟨_, rfl⟩, World.calls_post _ w⟩
  rw [notify_card_eq]
  split
  · rcases hnoted with ⟨⟨observed, hnoted⟩, hcalls⟩
    rw [notePresence, hnoted]
    cases hgone : observed.present && (!state.present || state.replaced) with
    | true => exact ⟨rfl, .inr ⟨rfl, rfl⟩⟩
    | false => exact ⟨rfl, .inl ⟨hinformed.1, hinformed.2, hcalls⟩⟩
  · exact ⟨rfl, .inl ⟨hinformed.1, hinformed.2, rfl⟩⟩

/-- What a session has seen once it took in a report of its reader. -/
theorem notify_observed (b : Backend σ κ ε) {state : Snapshot}
    (hbound : (s.informed state).binding.isBoundTo state.name = true) (w : World σ ε) :
    (s.notify b state .card w).1.observed = Observed.ofReport state := by
  have havailable : ((s.informed state).noteAvailability state w).1.observed.available =
      !state.unavailable := by
    rw [noteAvailability]
    split
    · next hsame => exact hsame.symm
    · rfl
  rw [notify_card_eq, if_pos hbound, notePresence]
  by_cases hgone : (((s.informed state).noteAvailability state w).1.observed.present &&
      (!state.present || state.replaced)) = true
  · rw [if_pos hgone]
    exact congrArg (Observed.mk _) havailable
  · rw [if_neg hgone]
    exact congrArg (Observed.mk _) havailable

/-- All that can be done with a session. -/
inductive Operation where
  | reread (config : Config)
  | setTraceLevel (level : UInt32)
  | register (window : Window) (classes : EventClass)
  | deregister (window : Option Window) (classes : EventClass)
  | ask (access : Access)
  | disconnect
  | notify (state : Snapshot) (kind : ChangeKind)

/-- Do something with a session. -/
def perform (b : Backend σ κ ε) (operation : Operation) (s : Session κ) (w : World σ ε) :
    Session κ × World σ ε :=
  match operation with
  | .reread config => (s.reread config, w)
  | .setTraceLevel level => (s.setTraceLevel level, w)
  | .register window classes => (s.register window classes, w)
  | .deregister window classes => ((s.deregister window classes).2, w)
  | .ask access => s.ask b access w
  | .disconnect => s.disconnect b w
  | .notify state kind => s.notify b state kind w

/-- What can happen to a session. -/
inductive Incident (σ : Type) where
  /-- Something is done with it. -/
  | done (operation : Operation)
  /-- Readers and cards are in another state. -/
  | happened (hardware : σ)

/-- Let something happen to a session. -/
def meet (b : Backend σ κ ε) (p : Session κ × World σ ε) : Incident σ → Session κ × World σ ε
  | .done operation => p.1.perform b operation p.2
  | .happened hardware => (p.1, { p.2 with hardware })

/-- A run of incidents. -/
def run (b : Backend σ κ ε) (incidents : List (Incident σ)) (p : Session κ × World σ ε) :
    Session κ × World σ ε :=
  incidents.foldl (meet b) p

theorem run_concat (incidents : List (Incident σ)) (incident : Incident σ)
    (p : Session κ × World σ ε) :
    run b (incidents ++ [incident]) p = meet b (run b incidents p) incident := by
  rw [run, List.foldl_append]
  rfl

/-- A lock is on a connection, and a connection is to the reader of a binding. -/
structure Anchored (s : Session κ) : Prop where
  locked : s.locked = true → s.card.isSome = true
  bound : s.card.isSome = true → s.binding.isBound = true

theorem start_anchored (handle : ServiceHandle) (settings : Settings) :
    (start handle settings : Session κ).Anchored :=
  ⟨fun h => (nomatch h), fun h => (nomatch h)⟩

/-- A session gets a connection only if it is bound. -/
theorem bound_of_connect (h : s.Anchored) {card : κ} {w' : World σ ε}
    (hconnect : s.connect b w = (.ok card, w')) : s.binding.isBound = true := by
  rw [connect] at hconnect
  split at hconnect
  · next hcard =>
      refine h.bound ?_
      rw [hcard]
      rfl
  · split at hconnect
    · cases hconnect
    · next reader hreader =>
        rw [Binding.isBound, hreader]
        rfl

theorem ask_anchored (h : s.Anchored) (access : Access) : (s.ask b access w).1.Anchored := by
  refine ⟨ask_locked h.locked access, fun hcard => ?_⟩
  rw [ask_binding]
  rcases Option.isSome_iff_exists.mp hcard with ⟨card', hcard'⟩
  rcases ask_card hcard' with hsame | ⟨_, _, _, _, hconnect, _⟩
  · exact h.bound (by rw [hsame]; rfl)
  · exact bound_of_connect h hconnect

theorem perform_anchored (h : s.Anchored) (operation : Operation) :
    (s.perform b operation w).1.Anchored := by
  cases operation with
  | reread config => exact ⟨h.locked, fun hcard => Binding.isBound_rebind _ _ (h.bound hcard)⟩
  | setTraceLevel | register | deregister => exact ⟨h.locked, h.bound⟩
  | ask access => exact ask_anchored h access
  | disconnect => exact ⟨fun hlocked => (nomatch hlocked), fun hcard => (nomatch hcard)⟩
  | notify state kind =>
      cases kind with
      | deviceList => exact h
      | card =>
          rcases notify_kept b state s w with ⟨hbinding, ⟨hcard, hlocked, -⟩ | ⟨hcard, hlocked⟩⟩
          · refine ⟨fun hafter => ?_, fun hafter => ?_⟩
            · exact (congrArg Option.isSome hcard).trans (h.locked (hlocked.symm.trans hafter))
            · -- It had the connection before, so it was bound, and a report does not move it.
              have hbound := h.bound ((congrArg Option.isSome hcard).symm.trans hafter)
              rw [perform, hbinding, informed_of_isBound hbound]
              exact hbound
          · exact ⟨fun hafter => (nomatch hlocked.symm.trans hafter),
              fun hafter => (nomatch (congrArg Option.isSome hcard).symm.trans hafter)⟩

theorem run_anchored {p : Session κ × World σ ε} (h : p.1.Anchored)
    (incidents : List (Incident σ)) : (run b incidents p).1.Anchored := by
  induction incidents generalizing p with
  | nil => exact h
  | cons incident rest ih =>
      refine ih (p := meet b p incident) ?_
      cases incident with
      | done operation => exact perform_anchored h operation
      | happened hardware => exact h

end Session

end CardHost
