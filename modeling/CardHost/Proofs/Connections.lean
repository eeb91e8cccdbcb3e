import CardHost.Proofs.Changes
import CardHost.Simulation.Backend

/-!
# What a Read Finds

A read looks at the card through the connection of its session, or through a new
one if there is none. What it looks at is the present state of the hardware, and
whatever it says is a function of that: `Session.look`. The two ways of looking
need not agree. A connection belongs to the card it was made for, and finds no
card once that is gone, while a new one finds whatever card is there.

Besides, this module follows sessions and hardware through what happens to them
in a read and in a report. A report keeps the connection of a session or ends
it, and all it does to the hardware is to give up connections.

## Main definitions

* `Backend.look`: What a new connection finds.
* `Session.look`: What a session finds.
* `Provider.Queued`: A request was queued.

## Theorems

* `read_spec`: A read, in terms of that.
* `notify_connection`, `notify_hardware`: What a report does to a connection.
* `mem_notifySessions`, `session?_informed`, `informed_hardware`: A report and
  the open sessions.
* `readNow_fst`, `readNow_snd`: The attempt to read at once.
* `enqueue_new`, `enqueue_pending`: What comes after it, if there is no card.
* `Simulation.look_eq`, `Simulation.status_eq`: What there is to find in a hall.
-/

namespace CardHost

variable {σ κ ε α : Type}

/-- What a new connection to the card in a reader finds, and the state of the
    hardware after that. -/
def Backend.look (b : Backend σ κ ε) (reader : String) (mode : ShareMode) (hardware : σ) :
    Except CardError CardStatus × σ :=
  let connected := b.connect reader mode hardware
  match connected.value with
  | .error e => (.error e, connected.state)
  | .ok card =>
    let reply := b.status card connected.state
    (reply.value.1, reply.state)

/-- The request of a read that is made to wait. -/
def Call.readRequest (call : Call) (now : Instant) (timeout : Option Duration)
    (sources : DataSources) : PendingRequest :=
  PendingRequest.waitForCard call.key call.window now timeout sources (Hub.target call.service)

theorem Binding.isBound_of_isBoundTo {binding : Binding} {name : String}
    (h : binding.isBoundTo name = true) : binding.isBound = true := by
  rw [isBound, beq_iff_eq.mp h]
  rfl

namespace Session

variable {b : Backend σ κ ε}

/-- What a session finds, through its connection or through a new one. -/
def look (b : Backend σ κ ε) (s : Session κ) (hardware : σ) :
    Except CardError CardStatus × σ :=
  match s.card with
  | some card =>
    let reply := b.status card hardware
    (reply.value.1, reply.state)
  | none =>
    match s.binding.reader with
    | none => (.error .noSmartcard, hardware)
    | some reader => b.look reader s.settings.shareMode hardware

section withCard

variable {use : κ → World σ ε → (Except CardError α × κ) × World σ ε} {s : Session κ}
  {w w' w'' : World σ ε} {card card' : κ}

theorem withCard_of_unconnected {e : CardError} (hconnect : s.connect b w = (.error e, w')) :
    s.withCard b use w = (.error e, s, w') := by
  rw [withCard, hconnect]

theorem withCard_of_ok {a : α} (hconnect : s.connect b w = (.ok card, w'))
    (huse : use card w' = ((.ok a, card'), w'')) :
    s.withCard b use w = (.ok a, { s with card := some card' }, w'') := by
  rw [withCard, hconnect]
  simp only [huse]

theorem withCard_of_error {e : CardError} (hconnect : s.connect b w = (.ok card, w'))
    (huse : use card w' = ((.error e, card'), w'')) :
    s.withCard b use w =
      if e.dropsConnection then (.error e, { s with card := some card' }.disconnect b w'')
      else (.error e, { s with card := some card' }, w'') := by
  rw [withCard, hconnect]
  simp only [huse]

end withCard

/-- A read on a session that is connected. -/
theorem read_connected (sources : DataSources) {s : Session κ} {w w' : World σ ε} {card : κ}
    (hconnect : s.connect b w = (.ok card, w')) :
    let reply := b.status card w'.hardware
    (s.read b sources w).1 = reply.value.1.map (fun status => CardData.read sources status.atr) ∧
      ((s.read b sources w).2.2.hardware = reply.state ∨
        ∃ card, (s.read b sources w).2.2.hardware = (b.release card reply.state).state) ∧
      ∀ e, reply.value.1 = .error e → e.dropsConnection = true →
        (s.read b sources w).2.1.card = none := by
  intro reply
  rcases hvalue : reply.value with ⟨e | status, card'⟩
  · rw [read, withCard_of_error hconnect (World.call_of_value hvalue)]
    cases hdrops : e.dropsConnection with
    | false =>
        rw [if_neg Bool.false_ne_true]
        refine ⟨rfl, .inl rfl, fun e' he' hdrops' => ?_⟩
        cases he'
        rw [hdrops] at hdrops'
        cases hdrops'
    | true =>
        rw [if_pos rfl]
        exact ⟨rfl, .inr ⟨card', rfl⟩, fun _ _ _ => rfl⟩
  · rw [read, withCard_of_ok hconnect (World.call_of_value hvalue)]
    exact ⟨rfl, .inl rfl, nofun⟩

/-- A read says what the session finds, and gives up a connection that is of no
    more use. -/
theorem read_spec (sources : DataSources) (s : Session κ) (w : World σ ε) :
    let found := s.look b w.hardware
    (s.read b sources w).1 = found.1.map (fun status => CardData.read sources status.atr) ∧
      ((s.read b sources w).2.2.hardware = found.2 ∨
        ∃ card, (s.read b sources w).2.2.hardware = (b.release card found.2).state) ∧
      ∀ e, found.1 = .error e → e.dropsConnection = true →
        (s.read b sources w).2.1.card = none := by
  -- Without a connection one is made first, and that is all that a read adds.
  rcases hcard : s.card with _ | card
  · rcases hreader : s.binding.reader with _ | reader
    · have hconnect : s.connect b w = (.error .noSmartcard, w) := by
        simp only [connect, hcard, hreader]
      simp only [look, hcard, hreader]
      rw [read, withCard_of_unconnected hconnect]
      exact ⟨rfl, .inl rfl, fun _ _ _ => hcard⟩
    · have hconnect : s.connect b w = w.call (b.connect reader s.settings.shareMode) := by
        simp only [connect, hcard, hreader]
      simp only [look, hcard, hreader, Backend.look]
      rcases hvalue : (b.connect reader s.settings.shareMode w.hardware).value with e | card
      · have hfailed : s.connect b w =
            (.error e, (w.call (b.connect reader s.settings.shareMode)).2) :=
          hconnect.trans (World.call_of_value hvalue)
        rw [read, withCard_of_unconnected hfailed]
        exact ⟨rfl, .inl rfl, fun _ _ _ => hcard⟩
      · exact read_connected sources (hconnect.trans (World.call_of_value hvalue))
  · have hconnect : s.connect b w = (.ok card, w) := by simp only [connect, hcard]
    simp only [look, hcard]
    exact read_connected sources hconnect

/-- A session that is bound stays with its reader. -/
theorem informed_of_isBound {s : Session κ} (hbound : s.binding.isBound = true)
    (state : Snapshot) : s.informed state = s := by
  rcases s with ⟨handle, settings, ⟨reader⟩, card, subscriptions, observed, locked⟩
  rcases Option.isSome_iff_exists.mp hbound with ⟨name, hname⟩
  cases hname
  rw [informed]
  split <;> rfl

/-- A report about a card, in terms of the binding that it leaves. -/
theorem notify_card_eq (b : Backend σ κ ε) (state : Snapshot) (s : Session κ) (w : World σ ε) :
    s.notify b state .card w =
      if (s.informed state).binding.isBoundTo state.name then
        ((s.informed state).noteAvailability state w).1.notePresence b state
          ((s.informed state).noteAvailability state w).2
      else (s.informed state, w) := rfl

/-- What a report about its reader does to the connection of a session: it ends
    if the card it saw before is gone or was replaced. -/
theorem notify_connection (b : Backend σ κ ε) {s : Session κ} {state : Snapshot}
    (hbound : s.binding.isBoundTo state.name = true) (w : World σ ε) :
    (s.notify b state .card w).1.card =
      if s.observed.present && (!state.present || state.replaced) then none else s.card := by
  have hinformed := informed_of_isBound (Binding.isBound_of_isBoundTo hbound) state
  have hnoted : (s.noteAvailability state w).1.card = s.card ∧
      (s.noteAvailability state w).1.observed.present = s.observed.present := by
    rw [noteAvailability]
    split <;> exact ⟨rfl, rfl⟩
  rw [notify_card_eq, hinformed, if_pos hbound, notePresence, hnoted.2]
  by_cases hgone : (s.observed.present && (!state.present || state.replaced)) = true
  · rw [if_pos hgone, if_pos hgone]
    rfl
  · rw [if_neg hgone, if_neg hgone]
    exact hnoted.1

theorem disconnect_hardware (b : Backend σ κ ε) (s : Session κ) (w : World σ ε) :
    (s.disconnect b w).2.hardware = w.hardware ∨
      ∃ card, (s.disconnect b w).2.hardware = (b.release card w.hardware).state := by
  rw [disconnect]
  rcases s.card with _ | card
  · exact .inl rfl
  · exact .inr ⟨card, rfl⟩

/-- All a report does to the hardware is to give up a connection. -/
theorem notify_hardware (b : Backend σ κ ε) (s : Session κ) (state : Snapshot) (w : World σ ε) :
    (s.notify b state .card w).2.hardware = w.hardware ∨
      ∃ card, (s.notify b state .card w).2.hardware = (b.release card w.hardware).state := by
  have hnoted : ∀ s : Session κ, (s.noteAvailability state w).2.hardware = w.hardware := by
    intro s
    rw [noteAvailability]
    split <;> rfl
  have hpresence : ∀ (s : Session κ) (w' : World σ ε), w'.hardware = w.hardware →
      (s.notePresence b state w').2.hardware = w.hardware ∨
        ∃ card, (s.notePresence b state w').2.hardware = (b.release card w.hardware).state := by
    intro s w' hsame
    rw [notePresence]
    by_cases hgone : (s.observed.present && (!state.present || state.replaced)) = true
    · rw [if_pos hgone]
      have hdisconnect := s.disconnect_hardware b w'
      rw [hsame] at hdisconnect
      exact hdisconnect
    · rw [if_neg hgone]
      exact .inl hsame
  rw [notify_card_eq]
  split
  · exact hpresence _ _ (hnoted _)
  · exact .inl rfl

end Session

namespace Hub

variable {hub : Hub σ κ ε} {handle : ServiceHandle} {session : Session κ} {state : Snapshot}

/-- After a report a session is one of the open ones, handed the report. -/
theorem mem_notifySessions (b : Backend σ κ ε) {sessions : List (Session κ)} {w : World σ ε}
    (h : session ∈ (notifySessions b state .card sessions w).1) :
    ∃ other ∈ sessions, ∃ w', session = (other.notify b state .card w').1 := by
  induction sessions generalizing w with
  | nil => cases h
  | cons first rest ih =>
      rw [notifySessions] at h
      rcases List.mem_cons.mp h with hfirst | hrest
      · exact ⟨first, List.mem_cons_self, w, hfirst⟩
      · rcases ih hrest with ⟨other, hother, hnotify⟩
        exact ⟨other, List.mem_cons_of_mem _ hother, hnotify⟩

/-- The session under a handle is there after a report, handed the report. -/
theorem session?_informed (b : Backend σ κ ε) (state : Snapshot)
    (h : hub.session? handle = some session) :
    ∃ w, (hub.informed b state .card).session? handle =
      some (session.notify b state .card w).1 := by
  have hall : ∀ (sessions : List (Session κ)) (w : World σ ε),
      sessions.find? (·.handle == handle) = some session →
        ∃ w', (notifySessions b state .card sessions w).1.find? (·.handle == handle) =
          some (session.notify b state .card w').1 := by
    intro sessions
    induction sessions with
    | nil => exact fun w h => nomatch h
    | cons first rest ih =>
        intro w h
        -- A report leaves the handle alone, so the same session is found.
        have hhandle : (first.notify b state .card w).1.handle = first.handle :=
          (first.notify_card state w).handle.trans (first.informed_handle state)
        rw [notifySessions]
        rw [List.find?_cons] at h ⊢
        rw [hhandle]
        cases hfirst : first.handle == handle with
        | true =>
            rw [hfirst] at h
            cases h
            exact ⟨w, rfl⟩
        | false =>
            rw [hfirst] at h
            exact ih _ h
  exact hall hub.sessions hub.world h

/-- What the giving up of connections keeps of the hardware, a report keeps. -/
theorem informed_hardware (b : Backend σ κ ε) {P : σ → Prop}
    (hrelease : ∀ card hardware, P hardware → P (b.release card hardware).state)
    (h : P hub.world.hardware) : P (hub.informed b state .card).world.hardware := by
  have hall : ∀ (sessions : List (Session κ)) (w : World σ ε), P w.hardware →
      P (notifySessions b state .card sessions w).2.hardware := by
    intro sessions
    induction sessions with
    | nil => exact fun w h => h
    | cons first rest ih =>
        intro w h
        rw [notifySessions]
        refine ih _ ?_
        rcases first.notify_hardware b state w with hsame | ⟨card, hreleased⟩
        · rw [hsame]
          exact h
        · rw [hreleased]
          exact hrelease card _ h
  exact hall hub.sessions hub.world h

/-- A session that is put in the place of another is found where that was. -/
theorem session?_replace_eq (hub : Hub σ κ ε) (session : Session κ) (handle : ServiceHandle) :
    (hub.replace session).session? handle =
      (hub.session? handle).map fun s => if s.handle = session.handle then session else s := by
  have htest : ((fun s : Session κ => s.handle == handle) ∘
      fun s => if s.handle = session.handle then session else s) =
        fun s => s.handle == handle := by
    funext s
    rw [Function.comp_apply]
    split
    · next hother => rw [hother]
    · rfl
  rw [session?, replace, List.find?_map, htest]
  rfl

theorem session?_replace (h : hub.session? handle = some session) {session' : Session κ}
    (hsame : session'.handle = handle) :
    (hub.replace session').session? handle = some session' := by
  have hhandle : session.handle = session'.handle :=
    (mem_handles_of_session? h).2.trans hsame.symm
  rw [session?_replace_eq, h, Option.map_some, if_pos hhandle]

end Hub

namespace Provider

variable {b : Backend σ κ ε} (sources : DataSources) {session : Session κ} {p : Provider σ κ ε}

/-- What an attempt to read comes to, in terms of what the session finds. -/
def Attempt.ofFound (sources : DataSources) : Except CardError CardStatus → Attempt
  | .ok status => .ended .success (.cardData (CardData.read sources status.atr))
  | .error e => if e.isAbsence then .noCard else .ended e.result .none

/-- The attempt to read at once finds what the session finds. -/
theorem readNow_fst (hbound : session.binding.isBound = true) :
    (p.readNow b sources session).1 =
      Attempt.ofFound sources (session.look b p.hub.world.hardware).1 := by
  have hread := (session.read_spec (b := b) sources p.hub.world).1
  rw [readNow, if_pos hbound, onSession]
  rcases hfound : (session.look b p.hub.world.hardware).1 with e | status
  · rw [hfound] at hread
    simp only [hread]
    rfl
  · rw [hfound] at hread
    simp only [hread]
    rfl

theorem readNow_snd (hbound : session.binding.isBound = true) :
    (p.readNow b sources session).2 = (p.onSession (Session.read b sources) session).2 := by
  rw [readNow, if_pos hbound, onSession]
  rcases session.read b sources p.hub.world with ⟨e | data, session', world⟩ <;> rfl

/-- What the giving up of connections keeps of the hardware, an attempt keeps if
    looking at the card does. -/
theorem readNow_hardware {P : σ → Prop}
    (hrelease : ∀ card hardware, P hardware → P (b.release card hardware).state)
    (hbound : session.binding.isBound = true)
    (hlook : P (session.look b p.hub.world.hardware).2) :
    P (p.readNow b sources session).2.hub.world.hardware := by
  rw [readNow_snd sources hbound]
  show P (session.read b sources p.hub.world).2.2.hardware
  rcases (session.read_spec (b := b) sources p.hub.world).2.1 with hsame | ⟨card, hreleased⟩
  · rw [hsame]
    exact hlook
  · rw [hreleased]
    exact hrelease card _ hlook

/-- An attempt leaves the session under its handle, with its binding. -/
theorem readNow_session? {handle : ServiceHandle}
    (h : p.hub.session? handle = some session) :
    ∃ session', (p.readNow b sources session).2.hub.session? handle = some session' ∧
      session'.binding = session.binding := by
  by_cases hbound : session.binding.isBound = true
  · have hdiscreet := session.read_discreet (b := b) sources p.hub.world
    have hsame := hdiscreet.handle.trans (Hub.mem_handles_of_session? h).2
    rw [readNow_snd sources hbound]
    refine ⟨(session.read b sources p.hub.world).2.1, ?_, hdiscreet.binding⟩
    have hthere : Hub.session? { p.hub with world := (session.read b sources p.hub.world).2.2 }
      handle = some session := h
    exact Hub.session?_replace hthere hsame
  · rw [readNow, if_neg hbound]
    exact ⟨session, h, rfl⟩

section enqueue

variable {r : PendingRequest} {call : Call} {p' : Provider σ κ ε}

/-- A request was queued. Of a wait it may have had to call off, only the
    hardware has anything to show. -/
structure Queued (b : Backend σ κ ε) (r : PendingRequest) (p p' : Provider σ κ ε) : Prop where
  live : p'.hub.pending.live = enterBy PendingRequest.deadline r p.hub.pending.live
  consistent : p'.hub.pending.Consistent
  sessions : p'.hub.sessions = p.hub.sessions
  posts : p'.hub.world.posts = p.hub.world.posts
  hardware : p'.hub.world.hardware = p.hub.world.hardware ∨
    ∃ waiting, p'.hub.world.hardware = (b.cancel waiting p.hub.world.hardware).state

theorem Queued.mem_iff (h : Queued b r p p') {x : PendingRequest} :
    x ∈ p'.hub.pending.live ↔ x = r ∨ x ∈ p.hub.pending.live := by
  rw [h.live, (enterBy_perm _ _ _).mem_iff, List.mem_cons]

theorem addRequest_new (h : p.hub.pending.Consistent)
    (hnew : p.hub.pending.contains r.key = false) :
    ∃ p', p.addRequest b r = (.ok (), p') ∧ Queued b r p p' := by
  rcases h.add_new hnew with ⟨q, hq, hlive, hconsistent⟩
  rw [addRequest, hq]
  refine ⟨_, rfl, ?_⟩
  simp only [wakeIf]
  split
  · -- The nearest deadline is a new one, and the wait that is under way is called off.
    exact ⟨hlive, hconsistent, rfl, World.posts_call _ _, .inr ⟨_, rfl⟩⟩
  · exact ⟨hlive, hconsistent, rfl, rfl, .inl rfl⟩

theorem enqueue_new (h : p.hub.pending.Consistent)
    (hnew : p.hub.pending.contains call.key = false) (now : Instant) (timeout : Option Duration) :
    let r := call.readRequest now timeout sources
    (p.enqueue b call now timeout sources).1 = .success ∧
      p.addRequest b r = (.ok (), (p.enqueue b call now timeout sources).2) ∧
      Queued b r p (p.enqueue b call now timeout sources).2 := by
  intro r
  rcases addRequest_new (b := b) (r := r) h hnew with ⟨p', hadd, hqueued⟩
  have henqueue : p.enqueue b call now timeout sources = (.success, p') := by
    simp only [r, Call.readRequest] at hadd
    rw [enqueue, hadd]
  rw [henqueue]
  exact ⟨rfl, hadd, hqueued⟩

/-- A request under a key that is in use is refused. -/
theorem enqueue_pending (hkey : p.hub.pending.contains call.key = true) (now : Instant)
    (timeout : Option Duration) : (p.enqueue b call now timeout sources).2 = p := by
  rw [enqueue, addRequest, RequestQueue.add_pending hkey]

end enqueue

end Provider

namespace Simulation

variable {hall : Hall}

theorem attempt_of_nil {α : Type} (h : hall.failures = []) (kind : CallKind)
    (go : Hall → Except CardError α × Hall) : hall.attempt kind go = go hall := by
  rw [Hall.attempt, Hall.takeFailure, h]
  rfl

/-- The status of a card is that of the card the connection was made for. -/
theorem status_eq (h : hall.failures = []) (c : Connection) :
    ((backend.status c hall).value.1, (backend.status c hall).state) =
      ((hall.card? c.reader c.card).map fun card => ⟨card.state, card.protocol, card.atr⟩,
        hall) := by
  simp only [backend, cardCall, attempt_of_nil h]
  rcases hall.card? c.reader c.card with e | card <;> rfl

theorem card?_of_cardIn {reader : String} {card : Card} (h : hall.cardIn reader = .ok card) :
    hall.card? reader card.number = .ok card := by
  rw [Hall.cardIn] at h
  rw [Hall.card?]
  rcases hreader : hall.reader? reader with _ | r
  · rw [hreader] at h
    cases h
  · rw [hreader] at h
    rcases hthere : r.card with _ | found
    · simp only [hthere] at h
      cases h
    · simp only [hthere] at h ⊢
      cases h
      exact if_pos rfl

/-- A new connection finds the card that is in the reader. -/
theorem look_eq (h : hall.failures = []) (reader : String) (mode : ShareMode) :
    backend.look reader mode hall =
      ((hall.cardIn reader).map fun card => ⟨card.state, card.protocol, card.atr⟩, hall) := by
  have hconnect : (backend.connect reader mode hall).value =
      (hall.cardIn reader).map fun card => ⟨reader, card.number⟩ := by
    simp only [backend, noted, attempt_of_nil h]
  have hstate : (backend.connect reader mode hall).state = hall := by
    simp only [backend, noted, attempt_of_nil h]
  rw [Backend.look]
  simp only [hconnect, hstate]
  rcases hfound : hall.cardIn reader with e | card
  · rfl
  · -- The connection is for the card that is there now, so its status is at hand.
    have hstatus := status_eq h ⟨reader, card.number⟩
    rw [card?_of_cardIn hfound] at hstatus
    exact hstatus

end Simulation

end CardHost
