import CardHost.Pcsc.Manager
import CardHost.Proofs.Operations
import CardHost.Proofs.Scenes
import Mathlib.Data.List.Induction

/-!
# What a Session Knows of Its Reader

A session keeps three things that it has from a reader: the connection to a card
in it, the lock on that card, and what was last seen there. All three are taken
from the reader that the session is bound to, and a report that the card is gone
ends the first two. Nothing ends them when the binding itself moves.

There is one way for a binding to move from reader to reader, a configuration
that names another one. If the session has a connection then, or was told of its
reader before, it goes on with what it has: the connection is used in the place
of one to the new reader, and the lock and the old sight stay. A session that
has neither moves without harm. `run_belongs` says both, over every run.

## Main definitions

* `Backend.Places`: Which reader a connection is to.
* `Session.Account`: A session, with the last report that it took in.
* `Session.Account.Belongs`: Whatever it has is from the reader it is bound to.
* `Session.Account.Carries`: A new configuration moves it with something in hand.

## Theorems

* `meet_belongs`, `not_belongs_of_carries`: One incident.
* `run_belongs`: What a session has is from its reader, unless it was moved with
  something in hand.
* `Pcsc.Manager.places`, `Simulation.places`: Backends whose connections are to
  a reader.
* `Simulation.moved_session_reads_left_reader`: A session that was moved.
-/

namespace CardHost

variable {σ κ ε : Type}

/-- Every connection is to the reader it was asked for, whatever is done with
    it. -/
structure Backend.Places (b : Backend σ κ ε) (place : κ → String) : Prop where
  connect : ∀ {reader mode hardware card},
    (b.connect reader mode hardware).value = .ok card → place card = reader
  status : ∀ card hardware, place (b.status card hardware).value.2 = place card
  transmit : ∀ command card hardware,
    place (b.transmit command card hardware).value.2 = place card
  lock : ∀ card hardware, place (b.lock card hardware).value.2 = place card
  unlock : ∀ card hardware, place (b.unlock card hardware).value.2 = place card
  reconnect : ∀ disposition card hardware,
    place (b.reconnect disposition card hardware).value.2 = place card

namespace CardUse

variable {b : Backend σ κ ε} {place : κ → String}

theorem exchange_place (h : b.Places place) (workarounds : Workarounds) (command : Bytes)
    (card : κ) (w : World σ ε) :
    place (exchange b workarounds command card w).1.2 = place card := by
  have hstatus : place (w.call (b.status card)).1.2 = place card := h.status card w.hardware
  rw [exchange]
  rcases hcall : w.call (b.status card) with ⟨⟨e | status, card'⟩, w'⟩
  · rw [hcall] at hstatus
    exact hstatus
  · rw [hcall] at hstatus
    exact (h.transmit _ card' w'.hardware).trans hstatus

theorem power_place (h : b.Places place) (action : PowerAction) (card : κ) (w : World σ ε) :
    place (power b action card w).1.2 = place card := by
  have hreconnect : place (w.call (b.reconnect action.disposition card)).1.2 = place card :=
    h.reconnect action.disposition card w.hardware
  rw [power]
  rcases hcall : w.call (b.reconnect action.disposition card) with ⟨⟨e | _, card'⟩, w'⟩
  · rw [hcall] at hreconnect
    exact hreconnect
  · rw [hcall] at hreconnect
    cases action
    · exact (h.status card' w'.hardware).trans hreconnect
    · exact (h.status card' w'.hardware).trans hreconnect
    · exact hreconnect

end CardUse

namespace Session

variable {b : Backend σ κ ε} {place : κ → String} {s : Session κ} {w : World σ ε}

/-- No use of the card moves a connection. -/
theorem use_place (h : b.Places place) {access : Access} {use : CardUse σ κ ε Unit}
    (huse : access.use b s = some use) (card : κ) (w : World σ ε) :
    place (use card w).1.2 = place card := by
  cases Access.uses_of_use huse with
  | lock => exact h.lock card w.hardware
  | unlock => exact h.unlock card w.hardware
  | status | read => exact h.status card w.hardware
  | chipIo command => exact CardUse.exchange_place h _ command card w
  | chipPower action => exact CardUse.power_place h action card w
  | reset => exact h.reconnect .reset card w.hardware

/-- A connection that a session gets is the one it has, or a new one to the
    reader it is bound to. -/
theorem connect_place (h : b.Places place) {card : κ} {w' : World σ ε}
    (hconnect : s.connect b w = (.ok card, w')) :
    s.card = some card ∨ s.binding.reader = some (place card) := by
  rw [connect] at hconnect
  split at hconnect
  · next hcard =>
      cases hconnect
      exact .inl hcard
  · split at hconnect
    · cases hconnect
    · next reader hreader =>
        exact .inr (hreader.trans (congrArg some (h.connect (congrArg Prod.fst hconnect)).symm))

/-- A connection after an operation is to where one was before, or to the reader
    that the session is bound to. -/
theorem ask_place (h : b.Places place) (access : Access) {card' : κ}
    (hcard : (s.ask b access w).1.card = some card') :
    (∃ card, s.card = some card ∧ place card' = place card) ∨
      s.binding.reader = some (place card') := by
  rcases ask_card hcard with hsame | ⟨use, card, w', huse, hconnect, hused⟩
  · exact .inl ⟨card', hsame, rfl⟩
  · have hplace : place card' = place card := hused ▸ use_place h huse card w'
    rcases connect_place h hconnect with hsame | hbound
    · exact .inl ⟨card, hsame, hplace⟩
    · exact .inr (hplace ▸ hbound)

/-- A session with its world, and the last report that it took in. -/
structure Account (σ κ ε : Type) where
  session : Session κ
  world : World σ ε
  last : Option Snapshot

namespace Account

/-- A session that was just opened. -/
def start (handle : ServiceHandle) (settings : Settings) (world : World σ ε) : Account σ κ ε :=
  { session := Session.start handle settings, world, last := none }

/-- The last report taken in, after an incident: a report of the reader that the
    session is then bound to replaces it. -/
def lastAfter (a : Account σ κ ε) : Incident σ → Option Snapshot
  | .done (.notify state .card) =>
    if (a.session.informed state).binding.isBoundTo state.name then some state else a.last
  | _ => a.last

/-- Let something happen. -/
def meet (b : Backend σ κ ε) (a : Account σ κ ε) (incident : Incident σ) : Account σ κ ε :=
  let p := Session.meet b (a.session, a.world) incident
  { session := p.1, world := p.2, last := a.lastAfter incident }

/-- A run of incidents. -/
def run (b : Backend σ κ ε) (incidents : List (Incident σ)) (a : Account σ κ ε) :
    Account σ κ ε :=
  incidents.foldl (meet b) a

/-- Connection and sight are of the reader that the session is bound to. -/
structure Belongs (place : κ → String) (a : Account σ κ ε) : Prop where
  card : ∀ card, a.session.card = some card → a.session.binding.reader = some (place card)
  last : ∀ state, a.last = some state → a.session.binding.reader = some state.name

/-- The session has seen what it was told last. -/
def Seen (a : Account σ κ ε) : Prop :=
  a.session.observed = (a.last.map Observed.ofReport).getD ⟨false, true⟩

/-- A configuration moves the session, and it has a connection or was told of
    its reader before. -/
def Carries (config : Config) (a : Account σ κ ε) : Prop :=
  (a.session.reread config).binding ≠ a.session.binding ∧
    (a.session.card.isSome = true ∨ a.last.isSome = true)

variable {a : Account σ κ ε}

theorem meet_seen (h : a.Seen) (incident : Incident σ) : (a.meet b incident).Seen := by
  cases incident with
  | happened hardware => exact h
  | done operation =>
      cases operation with
      | ask access => exact (ask_observed access).trans h
      | reread | setTraceLevel | register | deregister | disconnect => exact h
      | notify state kind =>
          cases kind with
          | deviceList => exact h
          | card =>
              by_cases hbound : (a.session.informed state).binding.isBoundTo state.name = true
              · refine (notify_observed b hbound a.world).trans ?_
                rw [meet, lastAfter, if_pos hbound]
                rfl
              · -- A report of another reader may bind the session, and shows it nothing.
                have hsame : (a.session.notify b state .card a.world).1 =
                    a.session.informed state := by rw [notify_card_eq, if_neg hbound]
                have hobserved : (a.session.informed state).observed = a.session.observed := by
                  rw [informed]
                  split <;> rfl
                show (a.session.notify b state .card a.world).1.observed = _
                rw [hsame, meet, lastAfter, if_neg hbound]
                exact hobserved.trans h

/-- A session that is bound to a reader stays there, whatever it is told. -/
theorem informed_binding {reader : String} (hreader : a.session.binding.reader = some reader)
    (state : Snapshot) : (a.session.informed state).binding = a.session.binding :=
  congrArg Session.binding
    (informed_of_isBound (show a.session.binding.reader.isSome = true by rw [hreader]; rfl) state)

/-- Only a configuration can put a session at odds with what it has. -/
theorem meet_belongs (hplaces : b.Places place) (h : a.Belongs place) (incident : Incident σ)
    (hstays : ∀ config, incident = .done (.reread config) → ¬ a.Carries config) :
    (a.meet b incident).Belongs place := by
  cases incident with
  | happened hardware => exact ⟨h.card, h.last⟩
  | done operation =>
      cases operation with
      | reread config =>
          by_cases hsame : (a.session.reread config).binding = a.session.binding
          · have hreader : (a.session.reread config).binding.reader = a.session.binding.reader :=
              congrArg Binding.reader hsame
            exact ⟨fun card hcard => hreader.trans (h.card card hcard),
              fun state hlast => hreader.trans (h.last state hlast)⟩
          · -- It moves with nothing in hand, so there is nothing to be at odds with.
            have hempty := not_or.mp fun hheld => hstays config rfl ⟨hsame, hheld⟩
            exact ⟨fun card hcard => absurd (congrArg Option.isSome hcard) hempty.1,
              fun state hlast => absurd (congrArg Option.isSome hlast) hempty.2⟩
      | setTraceLevel level => exact ⟨h.card, h.last⟩
      | register window classes => exact ⟨h.card, h.last⟩
      | deregister window classes => exact ⟨h.card, h.last⟩
      | ask access =>
          have hbinding : (a.meet b (.done (.ask access))).session.binding = a.session.binding :=
            ask_binding access
          refine ⟨fun card hcard => ?_, fun state hlast => hbinding ▸ h.last state hlast⟩
          rw [hbinding]
          rcases ask_place hplaces access hcard with ⟨before, hbefore, hplace⟩ | hbound
          · exact hplace ▸ h.card before hbefore
          · exact hbound
      | disconnect => exact ⟨fun card hcard => (nomatch hcard), h.last⟩
      | notify state kind =>
          cases kind with
          | deviceList => exact ⟨h.card, h.last⟩
          | card =>
              rcases notify_kept b state a.session a.world with ⟨hbinding, hkept⟩
              -- Whoever has something in hand is bound, and stays where it is.
              have hreader : ∀ {reader : String}, a.session.binding.reader = some reader →
                  (a.meet b (.done (.notify state .card))).session.binding.reader =
                    some reader := fun hreader =>
                (congrArg Binding.reader (hbinding.trans (informed_binding hreader state))).trans
                  hreader
              constructor
              · intro card hcard
                rcases hkept with ⟨hsame, -, -⟩ | ⟨hnone, -⟩
                · exact hreader (h.card card (hsame.symm.trans hcard))
                · cases hnone.symm.trans hcard
              · intro last hlast
                rw [meet, lastAfter] at hlast
                split at hlast
                · next hbound =>
                    cases hlast
                    exact (congrArg Binding.reader hbinding).trans (beq_iff_eq.mp hbound)
                · exact hreader (h.last last hlast)

/-- A move with something in hand does. -/
theorem not_belongs_of_carries {config : Config} (h : a.Belongs place)
    (hcarries : a.Carries config) :
    ¬ (a.meet b (.done (.reread config))).Belongs place := by
  intro hafter
  refine hcarries.1 ?_
  have hreader : ∀ {reader : String}, a.session.binding.reader = some reader →
      (a.session.reread config).binding.reader = some reader →
        (a.session.reread config).binding = a.session.binding := fun hbefore hafter =>
    congrArg Binding.mk (hafter.trans hbefore.symm)
  rcases hcarries.2 with hheld | hheld
  · rcases Option.isSome_iff_exists.mp hheld with ⟨card, hcard⟩
    exact hreader (h.card card hcard) (hafter.card card hcard)
  · rcases Option.isSome_iff_exists.mp hheld with ⟨state, hlast⟩
    exact hreader (h.last state hlast) (hafter.last state hlast)

theorem run_concat (incidents : List (Incident σ)) (incident : Incident σ) (a : Account σ κ ε) :
    run b (incidents ++ [incident]) a = (run b incidents a).meet b incident := by
  rw [run, List.foldl_append]
  rfl

/-- An account is of the run. -/
theorem run_eq (incidents : List (Incident σ)) (a : Account σ κ ε) :
    ((run b incidents a).session, (run b incidents a).world) =
      Session.run b incidents (a.session, a.world) := by
  induction incidents generalizing a with
  | nil => rfl
  | cons incident rest ih => exact ih (a.meet b incident)

theorem run_seen (h : a.Seen) (incidents : List (Incident σ)) : (run b incidents a).Seen := by
  induction incidents generalizing a with
  | nil => exact h
  | cons incident rest ih => exact ih (meet_seen h incident)

theorem run_belongs_of_stays (hplaces : b.Places place) (h : a.Belongs place)
    (incidents : List (Incident σ))
    (hstays : ∀ before config after, incidents = before ++ .done (.reread config) :: after →
      ¬ (run b before a).Carries config) : (run b incidents a).Belongs place := by
  -- From the end, for the hypothesis is about what was reached before each incident.
  induction incidents using List.reverseRecOn with
  | nil => exact h
  | append_singleton before incident ih =>
      rw [run_concat]
      refine meet_belongs hplaces (ih fun earlier config after hsplit => ?_) incident
        fun config hreread => ?_
      · refine hstays earlier config (after ++ [incident]) ?_
        rw [hsplit, List.append_assoc, List.cons_append]
      · exact hstays before config [] (by rw [hreread])

theorem start_seen (handle : ServiceHandle) (settings : Settings) (w : World σ ε) :
    (start handle settings w : Account σ κ ε).Seen := rfl

theorem start_belongs (handle : ServiceHandle) (settings : Settings) (w : World σ ε) :
    (start handle settings w).Belongs place :=
  ⟨fun _ hcard => (nomatch hcard), fun _ hlast => (nomatch hlast)⟩

/-- What a session has belongs to the reader it is bound to, the connection it
    is about to use included, unless a configuration moved it with a connection
    or a sight in hand; and then it does not. -/
theorem run_belongs (hplaces : b.Places place) (handle : ServiceHandle) (settings : Settings)
    (w : World σ ε) (incidents : List (Incident σ)) :
    let reached := fun incidents => run b incidents (start handle settings w)
    let a := reached incidents
    (a.session, a.world) = Session.run b incidents (Session.start handle settings, w) ∧
    (a.session.locked = true → a.session.card.isSome = true) ∧
    a.session.observed = (a.last.map Observed.ofReport).getD ⟨false, true⟩ ∧
    ((∀ before config after, incidents = before ++ .done (.reread config) :: after →
        ¬ (reached before).Carries config) →
      a.Belongs place ∧ ∀ w card w', a.session.connect b w = (.ok card, w') →
        a.session.binding.reader = some (place card)) ∧
    ∀ config, a.Belongs place →
      ((a.meet b (.done (.reread config))).Belongs place ↔ ¬ a.Carries config) := by
  intro reached a
  have hrun : (a.session, a.world) = Session.run b incidents (Session.start handle settings, w) :=
    run_eq incidents (start handle settings w)
  have hanchored : (Session.run b incidents (Session.start handle settings, w)).1.Anchored :=
    run_anchored (start_anchored handle settings) incidents
  rw [← hrun] at hanchored
  refine ⟨hrun, hanchored.locked, run_seen (start_seen handle settings w) incidents,
    fun hstays => ?_, fun config h => ?_⟩
  · have hbelongs : a.Belongs place := run_belongs_of_stays hplaces
      (start_belongs handle settings w) incidents hstays
    refine ⟨hbelongs, fun w card w' hconnect => ?_⟩
    rcases connect_place hplaces hconnect with hsame | hbound
    · exact hbelongs.card card hsame
    · exact hbound
  · refine ⟨fun hafter hcarries => not_belongs_of_carries h hcarries hafter, fun hstays => ?_⟩
    refine meet_belongs hplaces h _ fun other hreread => ?_
    cases hreread
    exact hstays

end Account

end Session

namespace Pcsc

variable {ν : Type} (native : Native ν)

theorem Card.renew_reader (mode : ShareMode) (disposition : Disposition) (c : Card) (state : ν) :
    (c.renew native mode disposition state).value.2.reader = c.reader := by
  have hrenewed := c.renew_renewed native mode disposition state
  generalize c.renew native mode disposition state = reply at hrenewed ⊢
  cases hrenewed <;> rfl

/-- A connection over a resource manager is to the reader it was asked for. -/
theorem Manager.places (m : Manager) : (m.backend native).Places Card.reader where
  connect {reader mode state card} h := by
    have hvalue : (m.connect native reader mode state).value = .ok card := h
    have hconnected := m.connect_connected native reader mode state
    generalize m.connect native reader mode state = reply at hvalue hconnected
    cases hconnected with
    | unpassable | refused => cases hvalue
    | granted =>
        cases hvalue
        rfl
  status c state := by
    simp only [Manager.backend, Card.status]
    split <;> rfl
  transmit command c state := by
    show (c.transmit native command state).value.2.reader = c.reader
    have hexchanged := c.transmit_exchanged native command state
    generalize c.transmit native command state = reply at hexchanged ⊢
    cases hexchanged <;> rfl
  lock c state := c.renew_reader native _ _ state
  unlock c state := c.renew_reader native _ _ state
  reconnect disposition c state := c.renew_reader native _ _ state

end Pcsc

namespace Simulation

/-- A connection in a hall is to the reader it was asked for. -/
theorem places : backend.Places Connection.reader where
  connect {reader mode hall card} h := by
    simp only [backend, noted, Hall.attempt] at h
    split at h
    · cases h
    · next hall' _ =>
        rcases hfound : hall'.cardIn reader with e | found
        · rw [hfound] at h
          cases h
        · rw [hfound] at h
          cases h
          rfl
  status _ _ := rfl
  transmit _ _ _ := rfl
  lock _ _ := rfl
  unlock _ _ := rfl
  reconnect _ _ _ := rfl

/-- Two readers, and a card in the first. -/
def cardInFirst : World Hall Note :=
  { hardware :=
      { readers := [⟨"A", some ⟨1, [0x3b, 0x8f], none, 0#32⟩, 0#32, 1#16⟩, ⟨"B", none, 0#32, 0#16⟩]
        cards := 1 } }

open Session (Account)

/-- A service without a reader is told of a card, takes its reader, is configured
    to work with that very reader, and reads the card. -/
def settling : List (Session.Incident Hall) :=
  [.done (.notify ⟨"A", 0#32, 0x10022#32, [0x3b, 0x8f]⟩ .card),
   .done (.reread (configuredTo "A")), .done (.ask (.read 8#16))]

/-- The configuration names the reader that the session has, so it moves nothing. -/
theorem run_belongs_settling :
    let a := Account.run backend settling
      (Account.start 1 (Settings.ofProvider "L" "p" {}) cardInFirst)
    a.session.binding.reader = some "A" ∧ a.session.card = some ⟨"A", 1⟩ ∧
      a.last.isSome = true ∧ a.Belongs Connection.reader := by
  intro a
  refine ⟨by decide, by decide, by decide, ?_⟩
  refine ((Account.run_belongs places 1 (Settings.ofProvider "L" "p" {}) cardInFirst
    settling).2.2.2.1 fun before config after hsplit hcarries => ?_).1
  rcases before with _ | ⟨first, _ | ⟨second, _ | ⟨third, rest⟩⟩⟩
  · cases hsplit
  · cases hsplit
    exact hcarries.1 (by decide)
  · cases hsplit
  · cases rest <;> cases hsplit

/-- A session that holds a card is configured to work with another reader. It
    stays locked, and reads and answers from the card in the reader it left,
    while the reader it is bound to is empty. -/
theorem moved_session_reads_left_reader :
    let a := Account.run backend
      [.done (.ask .lock), .done (.reread (configuredTo "B"))]
      (Account.start 1 (settingsFor "A") cardInFirst)
    a.session.binding.reader = some "B" ∧ a.session.card = some ⟨"A", 1⟩ ∧
      a.session.locked = true ∧
      (a.session.status backend a.world).1 = .ok (IdcStatus.ofCard ⟨0#32, none, [0x3b, 0x8f]⟩) ∧
      (a.session.read backend 8#16 a.world).1 =
        .ok (CardData.read 8#16 [0x3b, 0x8f]) ∧
      (a.session.chipIo backend [0x00, 0xa4] a.world).1 =
        .ok ⟨ChipProtocols.ofProtocol none, [0x90, 0x00]⟩ ∧
      (backend.look "B" .shared a.world.hardware).1 = .error .noSmartcard := by
  decide

end Simulation

end CardHost
