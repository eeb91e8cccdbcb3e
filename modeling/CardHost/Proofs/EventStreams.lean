import CardHost.Proofs.Rebinding
import CardHost.Proofs.Sightings

/-!
# The Events of a Session

A client that follows the events of a session draws conclusions from their order.
After a device went away it waits for it to come back, and a second message that it
went away would have it give up something that it does not have. A card that is
removed must have been there before. Neither is stated anywhere in the events: all
there is are two bits that the session remembers, and a binding that may come about
in the middle.

What a session has seen is the last report that it took in, so the events of a
session are a function of the reports that it takes in, one after the other.
`noticed` is this function for one report, and `noticedAll` for many. It says nothing
of sessions, clients or readers, and whatever order there is in the events is shown of
it alone. `notify_posts` makes the connection.

## Main definitions

* `Snapshot.turns`, `Snapshot.vacates`: What a report has to say after the one before.
* `noticed`, `noticedAll`: The events of a report; of many.
* `Account.taken?`, `Account.takenIn`: The reports that a session takes in.
* `Message.deviceState?`: The state of the device that a message tells of.

## Theorems

* `notify_posts`, `notify_vacated`: A report of the reader of a session.
* `notify_passed`: Any other report.
* `deviceStates_alternate`: The device goes away and comes back in turn.
* `present_of_vacates`: Who is told twice that a card was removed.
* `last_eq`, `run_last`: What a session goes by is the last report it took in.
* `events_in_order`: Every run.
-/

namespace CardHost

variable {σ κ ε : Type}

namespace Snapshot

/-- Whether the reader came or went since the report before. At first it counts as
    there. -/
def turns (last : Option Snapshot) (state : Snapshot) : Bool :=
  state.unavailable != last.any unavailable

/-- Whether a card was there in the report before and is gone now, be it for good or
    for another card. -/
def vacates (last : Option Snapshot) (state : Snapshot) : Bool :=
  last.any present && (!state.present || state.replaced)

end Snapshot

/-- What a report says of the device. -/
def DeviceState.ofUnavailable (unavailable : Bool) : DeviceState :=
  if unavailable then noDevice else online

/-- The state of the device that a message tells of. -/
def Message.deviceState? (message : Message) : Option DeviceState :=
  match message.payload with
  | .deviceStatus _ state => some state
  | _ => none

/-- What a session has to tell by a report of its reader, given the one before. -/
def noticed (handle : ServiceHandle) (last : Option Snapshot) (state : Snapshot) : List Message :=
  (if Snapshot.turns last state then
    [Message.event .systemEvent ⟨handle, 0⟩ .deviceStatus
      (.deviceStatus state.name (DeviceState.ofUnavailable state.unavailable))] else []) ++
  if Snapshot.vacates last state then
    [Message.event .serviceEvent ⟨handle, 0⟩ .mediaRemoved .none] else []

/-- What it has to tell by one report after the other. -/
def noticedAll (handle : ServiceHandle) : Option Snapshot → List Snapshot → List Message
  | _, [] => []
  | last, state :: states => noticed handle last state ++ noticedAll handle (some state) states

section stream

variable {handle : ServiceHandle} {last : Option Snapshot} {state : Snapshot}

theorem noticedAll_concat (handle : ServiceHandle) (last : Option Snapshot)
    (states : List Snapshot) (state : Snapshot) :
    noticedAll handle last (states ++ [state]) =
      noticedAll handle last states ++ noticed handle (states.getLast?.or last) state := by
  induction states generalizing last with
  | nil => exact List.append_nil _
  | cons first states ih =>
      rw [List.cons_append, noticedAll, noticedAll, ih, List.append_assoc, List.getLast?_cons]
      cases states.getLast? <;> rfl

theorem deviceStates_noticed (handle : ServiceHandle) (last : Option Snapshot) (state : Snapshot) :
    (noticed handle last state).filterMap Message.deviceState? =
      if Snapshot.turns last state then [DeviceState.ofUnavailable state.unavailable] else [] := by
  rw [noticed, List.filterMap_append]
  cases Snapshot.turns last state <;> cases Snapshot.vacates last state <;> rfl

/-- The device goes away and comes back in turn, beginning with what it was not. -/
theorem deviceStates_alternate (handle : ServiceHandle) (last : Option Snapshot)
    (states : List Snapshot) (i : Nat) {device : DeviceState}
    (h : ((noticedAll handle last states).filterMap Message.deviceState?)[i]? = some device) :
    device = DeviceState.ofUnavailable (last.any Snapshot.unavailable ^^ i % 2 == 0) := by
  induction states generalizing last i with
  | nil => cases h
  | cons state states ih =>
      rw [noticedAll, List.filterMap_append, deviceStates_noticed] at h
      cases hturns : Snapshot.turns last state with
      | false =>
          -- Nothing is told, and the next report finds the device as this one does.
          have hsame : state.unavailable = last.any Snapshot.unavailable := by
            rw [Snapshot.turns, bne_eq_false_iff_eq] at hturns
            exact hturns
          rw [hturns] at h
          exact hsame ▸ ih (some state) i h
      | true =>
          have hother : state.unavailable = !last.any Snapshot.unavailable := by
            rw [Snapshot.turns, bne_iff_ne] at hturns
            exact Bool.eq_not_of_ne hturns
          rw [hturns] at h
          cases i with
          | zero =>
              cases h
              rw [hother]
              exact congrArg DeviceState.ofUnavailable (Bool.xor_true _).symm
          | succ i =>
              -- What comes after the first is told to someone who knows the device as it
              -- is now, so the parity of its place is the other one.
              have hrest := ih (some state) i h
              have hstep : ((i + 1) % 2 == 0) = !(i % 2 == 0) := by
                rcases Nat.mod_two_eq_zero_or_one i with hi | hi
                · rw [hi, Nat.add_mod, hi]
                  rfl
                · rw [hi, Nat.add_mod, hi]
                  rfl
              rw [hrest, hstep]
              show DeviceState.ofUnavailable (state.unavailable ^^ _) = _
              rw [hother, Bool.not_xor, Bool.xor_not]

/-- Whoever is told that a card was removed, and told so again, was shown a card in
    between. -/
theorem present_of_vacates {between : List Snapshot} {state' : Snapshot}
    (h : Snapshot.vacates (state :: between).getLast? state' = true) :
    ∃ shown ∈ state :: between, shown.present = true := by
  rw [Snapshot.vacates, Bool.and_eq_true, Option.any_eq_true] at h
  rcases h.1 with ⟨shown, hshown, hpresent⟩
  exact ⟨shown, List.mem_of_getLast? hshown, hpresent⟩

end stream

namespace Session

variable {b : Backend σ κ ε} {s : Session κ} {w : World σ ε} {state : Snapshot}

/-- Whether a session takes in a report about a card: it is that of the reader which
    it is bound to, or one that binds it. -/
def takes (s : Session κ) (state : Snapshot) : Bool :=
  s.binding.isBoundTo state.name || !s.binding.isBound && state.inserted

theorem takes_eq (s : Session κ) (state : Snapshot) :
    s.takes state = (s.informed state).binding.isBoundTo state.name := by
  rw [takes]
  cases hreader : s.binding.reader with
  | some reader =>
      have hbound : s.binding.isBound = true := by
        rw [Binding.isBound, hreader]
        rfl
      rw [informed_of_isBound hbound, hbound]
      exact Bool.or_false _
  | none =>
      rw [informed]
      cases state.inserted <;>
        simp [Binding.isBoundTo, Binding.isBound, Binding.bind, hreader]

/-- What is seen after a report, or before there was one. -/
theorem seen_of_last (last : Option Snapshot) :
    ((last.map Observed.ofReport).getD ⟨false, true⟩).present = last.any Snapshot.present ∧
      ((last.map Observed.ofReport).getD ⟨false, true⟩).available =
        !last.any Snapshot.unavailable := by
  cases last <;> exact ⟨rfl, rfl⟩

theorem noteAvailability_posts (state : Snapshot) (s : Session κ) (w : World σ ε) :
    (s.noteAvailability state w).2.posts = w.posts ++
      if (!state.unavailable) = s.observed.available then []
      else s.subscriptions.posts (s.eventMessage .systemEvent .deviceStatus
        (.deviceStatus state.name (if !state.unavailable then .online else .noDevice))) := by
  rw [noteAvailability]
  by_cases hsame : (!state.unavailable) = s.observed.available
  · rw [if_pos hsame, if_pos hsame, List.append_nil]
  · rw [if_neg hsame, if_neg hsame]
    exact World.posts_post _ w

theorem notePresence_posts (b : Backend σ κ ε) (state : Snapshot) (s : Session κ)
    (w : World σ ε) :
    (s.notePresence b state w).2.posts = w.posts ++
      if s.observed.present && (!state.present || state.replaced) then
        s.subscriptions.posts (s.eventMessage .serviceEvent .mediaRemoved .none)
      else [] := by
  rw [notePresence]
  by_cases hgone : (s.observed.present && (!state.present || state.replaced)) = true
  · rw [if_pos hgone, if_pos hgone]
    exact (World.posts_post _ _).trans (congrArg (· ++ _) (disconnect_posts b s w))
  · rw [if_neg hgone, if_neg hgone, List.append_nil]

/-- A session that was last shown something tells what a report of its reader has to
    say after that. -/
theorem notify_posts {last : Option Snapshot}
    (hseen : s.observed = (last.map Observed.ofReport).getD ⟨false, true⟩)
    (htakes : s.takes state = true) :
    (s.notify b state .card w).2.posts = w.posts ++
      (noticed s.handle last state).flatMap s.subscriptions.posts := by
  have hinformed : (s.informed state).handle = s.handle ∧
      (s.informed state).subscriptions = s.subscriptions ∧
        (s.informed state).observed = s.observed := by
    rw [informed]
    split <;> exact ⟨rfl, rfl, rfl⟩
  have hnoted : ∃ available, ((s.informed state).noteAvailability state w).1 =
      { s.informed state with observed := { (s.informed state).observed with available } } := by
    rw [noteAvailability]
    split <;> exact ⟨_, rfl⟩
  rcases hinformed with ⟨hhandle, hsubscriptions, hobserved⟩
  rcases hnoted with ⟨available, hnoted⟩
  rw [takes_eq] at htakes
  rw [notify_card_eq, if_pos htakes, notePresence_posts, noteAvailability_posts, hnoted]
  simp only [eventMessage, hhandle, hsubscriptions, hobserved, hseen, List.append_assoc]
  -- What was seen are the two bits that the last report gives.
  refine congrArg (w.posts ++ ·) ?_
  rw [noticed, List.flatMap_append]
  refine congrArg₂ (· ++ ·) ?_ ?_
  · rw [(seen_of_last last).2]
    cases hturns : Snapshot.turns last state with
    | false => exact if_pos (congrArg not (bne_eq_false_iff_eq.mp hturns))
    | true =>
        rw [if_neg fun hsame => bne_iff_ne.mp hturns (Bool.not_inj hsame),
          DeviceState.ofUnavailable]
        cases state.unavailable <;> exact (List.append_nil _).symm
  · rw [(seen_of_last last).1]
    cases hvacates : Snapshot.vacates last state with
    | false => exact if_neg (Bool.eq_false_iff.mp hvacates)
    | true => exact (if_pos hvacates).trans (List.append_nil _).symm

/-- A card that is gone takes the connection and the lock with it. -/
theorem notify_vacated {last : Option Snapshot}
    (hseen : s.observed = (last.map Observed.ofReport).getD ⟨false, true⟩)
    (htakes : s.takes state = true) (hvacates : Snapshot.vacates last state = true) :
    (s.notify b state .card w).1.card = none ∧ (s.notify b state .card w).1.locked = false := by
  have hpresent : ((s.informed state).noteAvailability state w).1.observed.present =
      last.any Snapshot.present := by
    have hobserved : (s.informed state).observed = s.observed := by
      rw [informed]
      split <;> rfl
    have hnoted : ((s.informed state).noteAvailability state w).1.observed.present =
        (s.informed state).observed.present := by
      rw [noteAvailability]
      split <;> rfl
    rw [hnoted, hobserved, hseen]
    exact (seen_of_last last).1
  rw [takes_eq] at htakes
  rw [Snapshot.vacates] at hvacates
  rw [notify_card_eq, if_pos htakes, notePresence, hpresent]
  rw [if_pos hvacates]
  exact ⟨rfl, rfl⟩

/-- Any other report leaves a session as it is, and has it tell nothing. -/
theorem notify_passed (h : s.takes state = false) : s.notify b state .card w = (s, w) := by
  have hsame : s.informed state = s := by
    cases hreader : s.binding.reader with
    | some reader => exact informed_of_isBound (by rw [Binding.isBound, hreader]; rfl) state
    | none =>
        -- A session without a reader would have been bound by a card that came in.
        have hinserted : state.inserted = false := by
          simpa [takes, Binding.isBoundTo, Binding.isBound, hreader] using h
        rw [informed, hinserted]
        exact if_neg Bool.false_ne_true
  rw [takes_eq] at h
  rw [notify_card_eq, if_neg (Bool.eq_false_iff.mp h), hsame]

namespace Account

variable {a : Account σ κ ε} {incident : Incident σ}

/-- The report that a session takes in, if it does. -/
def taken? (a : Account σ κ ε) : Incident σ → Option Snapshot
  | .done (.notify state .card) => if a.session.takes state then some state else none
  | _ => none

/-- The reports that a session takes in in a run. -/
def takenIn (b : Backend σ κ ε) : List (Incident σ) → Account σ κ ε → List Snapshot
  | [], _ => []
  | incident :: incidents, a =>
    (a.taken? incident).toList ++ takenIn b incidents (a.meet b incident)

theorem last_eq (a : Account σ κ ε) (incident : Incident σ) :
    (a.meet b incident).last = (a.taken? incident).or a.last := by
  show a.lastAfter incident = _
  cases incident with
  | happened => rfl
  | done operation =>
      cases operation with
      | notify state kind =>
          cases kind with
          | deviceList => rfl
          | card =>
              rw [lastAfter, taken?, takes_eq]
              split <;> rfl
      | reread | setTraceLevel | register | deregister | ask | disconnect => rfl

/-- What a session goes by is the last report that it took in. -/
theorem run_last (a : Account σ κ ε) (incidents : List (Incident σ)) :
    (run b incidents a).last = (a.takenIn b incidents).getLast?.or a.last := by
  induction incidents generalizing a with
  | nil => rfl
  | cons incident incidents ih =>
      show (run b incidents (a.meet b incident)).last = _
      rw [ih, last_eq, takenIn, List.getLast?_append, Option.or_assoc]
      cases a.taken? incident <;> rfl

theorem takenIn_concat (a : Account σ κ ε) (incidents : List (Incident σ))
    (incident : Incident σ) :
    a.takenIn b (incidents ++ [incident]) =
      a.takenIn b incidents ++ ((run b incidents a).taken? incident).toList := by
  induction incidents generalizing a with
  | nil => exact List.append_nil _
  | cons first incidents ih =>
      rw [List.cons_append, takenIn, takenIn, ih, List.append_assoc]
      rfl

theorem taken_report {state : Snapshot} (h : a.taken? incident = some state) :
    incident = .done (.notify state .card) ∧ a.session.takes state = true := by
  rw [taken?.eq_def] at h
  split at h
  · split at h
    · next htakes =>
        cases h
        exact ⟨rfl, htakes⟩
    · cases h
  · cases h

theorem run_handle (a : Account σ κ ε) (incidents : List (Incident σ)) :
    (run b incidents a).session.handle = a.session.handle := by
  induction incidents generalizing a with
  | nil => rfl
  | cons incident incidents ih =>
      refine (ih (a.meet b incident)).trans ?_
      cases incident with
      | done operation => exact perform_handle operation
      | happened => rfl

theorem run_ascending (h : a.session.subscriptions.Ascending) (incidents : List (Incident σ)) :
    (run b incidents a).session.subscriptions.Ascending := by
  induction incidents generalizing a with
  | nil => exact h
  | cons incident incidents ih =>
      refine ih (a := a.meet b incident) ?_
      cases incident with
      | done operation => exact perform_ascending h operation
      | happened => exact h

/-- A report that the session takes in. -/
theorem meet_taken (h : a.Seen) {state : Snapshot} (htaken : a.taken? incident = some state) :
    (a.meet b incident).world.posts = a.world.posts ++
        (noticed a.session.handle a.last state).flatMap a.session.subscriptions.posts ∧
      (Snapshot.vacates a.last state = true →
        (a.meet b incident).session.card = none ∧ (a.meet b incident).session.locked = false) := by
  rcases taken_report htaken with ⟨rfl, htakes⟩
  exact ⟨notify_posts h htakes, notify_vacated h htakes⟩

/-- Whatever else happens tells nothing of the reader, and a report that is not taken in
    changes nothing. -/
theorem meet_untaken (htaken : a.taken? incident = none) :
    (∀ state kind, incident = .done (.notify state kind) → a.meet b incident = a) ∧
      ∀ id : EventId, id.isSighting = true →
        (a.meet b incident).world.eventsOf a.session.handle id =
          a.world.eventsOf a.session.handle id := by
  have hpassed : ∀ state kind, incident = .done (.notify state kind) →
      a.meet b incident = a := by
    rintro state kind rfl
    have hlast := last_eq (b := b) a (.done (.notify state kind))
    rw [htaken, Option.none_or] at hlast
    cases kind with
    | deviceList => rfl
    | card =>
        have htakes : a.session.takes state = false := by
          rw [taken?] at htaken
          exact Bool.eq_false_iff.mpr fun htakes => by cases (if_pos htakes).symm.trans htaken
        have hnotify : Session.meet b (a.session, a.world) (.done (.notify state .card)) =
            (a.session, a.world) := notify_passed htakes
        rw [meet, hnotify]
        exact congrArg (Account.mk a.session a.world) hlast
  refine ⟨hpassed, fun id hid => ?_⟩
  cases incident with
  | happened => rfl
  | done operation =>
      cases operation with
      | notify state kind => rw [hpassed state kind rfl]
      | reread | setTraceLevel | register | deregister | ask | disconnect =>
          exact perform_events rfl hid

/-- A session that is bound stays with its reader unless its configuration is read
    again. -/
theorem meet_reader {reader : String} (hreader : a.session.binding.reader = some reader)
    (hkept : ∀ config, incident ≠ .done (.reread config)) :
    (a.meet b incident).session.binding.reader = some reader := by
  cases incident with
  | happened => exact hreader
  | done operation =>
      cases operation with
      | reread config => exact absurd rfl (hkept config)
      | setTraceLevel | register | deregister | disconnect => exact hreader
      | ask access => exact (congrArg Binding.reader (ask_binding access)).trans hreader
      | notify state kind =>
          cases kind with
          | deviceList => exact hreader
          | card =>
              have hbinding := (notify_kept b state a.session a.world).1
              have hsame := hbinding.trans (informed_binding hreader state)
              exact (congrArg Binding.reader hsame).trans hreader

theorem run_reader {reader : String} (hreader : a.session.binding.reader = some reader)
    {incidents : List (Incident σ)} (hkept : ∀ config, .done (.reread config) ∉ incidents) :
    (run b incidents a).session.binding.reader = some reader := by
  induction incidents generalizing a with
  | nil => exact hreader
  | cons incident incidents ih =>
      refine ih (meet_reader hreader fun config heq => hkept config ?_) fun config hmem => ?_
      · exact heq ▸ List.mem_cons_self
      · exact hkept config (List.mem_cons_of_mem _ hmem)

/-- So all that it takes in is of one reader. -/
theorem run_taken {incidents : List (Incident σ)}
    (hkept : ∀ config, .done (.reread config) ∉ incidents) {state : Snapshot}
    (hstate : state ∈ a.takenIn b incidents) :
    (run b incidents a).session.binding.reader = some state.name := by
  induction incidents generalizing a with
  | nil => cases hstate
  | cons incident incidents ih =>
      have hrest : ∀ config, .done (.reread config) ∉ incidents := fun config hmem =>
        hkept config (List.mem_cons_of_mem _ hmem)
      rcases List.mem_append.mp hstate with htaken | hlater
      · -- A session that was not bound is so by the report that it takes in.
        rcases taken_report (Option.mem_toList.mp htaken) with ⟨rfl, htakes⟩
        refine run_reader (a := a.meet b (.done (.notify state .card))) ?_ hrest
        have hbinding := (notify_kept b state a.session a.world).1
        rw [takes_eq] at htakes
        exact (congrArg Binding.reader hbinding).trans (beq_iff_eq.mp htakes)
      · exact ih hrest hlater

/-- The events of a session are in order. After any run, whatever happens next: if it
    is a report that the session takes in, the session posts what the report has to say
    after the one that it took in before, and nothing else. Each of these messages goes
    once to every window whose mask has the class of the event, and to no other. If by
    that a card was removed, it is left without a connection and without a lock.
    Any other report changes nothing, and nothing else that happens tells of the reader.
    All that it was told of the device in the run is that it went away, came back, and
    so on in turn. Where a card was removed, one was shown since any report before. And
    all it takes in is of one reader, unless its configuration is read again. -/
theorem events_in_order (b : Backend σ κ ε) (handle : ServiceHandle) (settings : Settings)
    (w : World σ ε) (incidents : List (Incident σ)) :
    let begun : Account σ κ ε := start handle settings w
    let a := run b incidents begun
    let taken := begun.takenIn b incidents
    (∀ incident state, a.taken? incident = some state →
      let a' := a.meet b incident
      let fresh := noticed handle taken.getLast? state
      a'.world.posts = a.world.posts ++ fresh.flatMap a.session.subscriptions.posts ∧
        (∀ message ∈ fresh,
          a.session.subscriptions.Tells message (a.session.subscriptions.posts message)) ∧
        noticedAll handle none (begun.takenIn b (incidents ++ [incident])) =
          noticedAll handle none taken ++ fresh ∧
        (Snapshot.vacates taken.getLast? state = true →
          a'.session.card = none ∧ a'.session.locked = false)) ∧
      (∀ incident, a.taken? incident = none →
        (∀ state kind, incident = .done (.notify state kind) → a.meet b incident = a) ∧
          ∀ id : EventId, id.isSighting = true →
            (a.meet b incident).world.eventsOf handle id = a.world.eventsOf handle id) ∧
      (∀ i device,
        ((noticedAll handle none taken).filterMap Message.deviceState?)[i]? = some device →
          device = if i % 2 = 0 then .noDevice else .online) ∧
      (∀ earlier state between state' later,
        taken = earlier ++ state :: between ++ state' :: later →
          Snapshot.vacates (earlier ++ state :: between).getLast? state' = true →
            ∃ shown ∈ state :: between, shown.present = true) ∧
      ((∀ config, .done (.reread config) ∉ incidents) →
        ∀ state ∈ taken, a.session.binding.reader = some state.name) := by
  intro begun a taken
  have hseen : a.Seen := run_seen (start_seen handle settings w) incidents
  have hhandle : a.session.handle = handle := run_handle begun incidents
  have hlast : a.last = taken.getLast? :=
    (run_last (b := b) begun incidents).trans (Option.or_none ..)
  refine ⟨fun incident state htaken => ?_, fun incident htaken => ?_, fun i device hdevice => ?_,
    fun earlier state between state' later _ hvacates => ?_, fun hkept state => run_taken hkept⟩
  · rcases meet_taken hseen htaken with ⟨hposts, hvacated⟩
    rw [hlast, hhandle] at hposts
    rw [hlast] at hvacated
    have htells := (run_ascending (b := b) (a := begun) List.Pairwise.nil incidents).tells
    refine ⟨hposts, fun message _ => htells message, ?_, hvacated⟩
    rw [takenIn_concat, htaken, Option.toList_some, noticedAll_concat, Option.or_none]
  · rw [← hhandle]
    exact meet_untaken htaken
  · rw [deviceStates_alternate handle none taken i hdevice]
    show DeviceState.ofUnavailable (false ^^ i % 2 == 0) = _
    rcases Nat.mod_two_eq_zero_or_one i with hi | hi <;> rw [hi] <;> rfl
  · refine present_of_vacates (Eq.trans (congrArg (Snapshot.vacates · state') ?_) hvacates)
    rw [List.getLast?_append, List.getLast?_cons]
    rfl

/-- A reader goes away with its card and comes back with one, which is swapped then. -/
example :
    (noticedAll 1 none [⟨"A", 0#32, 0x00010022#32, []⟩, ⟨"A", 0x00010022#32, 0x0001000A#32, []⟩,
      ⟨"A", 0x0001000A#32, 0x00010022#32, []⟩, ⟨"A", 0x00010022#32, 0x00030022#32, []⟩]).map
        (fun message => (message.code, message.deviceState?)) =
      [(EventId.deviceStatus.number, some .noDevice), (EventId.mediaRemoved.number, none),
       (EventId.deviceStatus.number, some .online), (EventId.mediaRemoved.number, none)] := by
  decide

end Account

end Session

end CardHost
