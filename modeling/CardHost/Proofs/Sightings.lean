import CardHost.Proofs.Operations
import CardHost.Proofs.Entries

/-!
# Who Sees a Reader Change

What a session has seen of its reader, and the events that report it, have one
source: reports that are handed to the session. Nothing else that can be done
with a session has it look, and no call of a client has anything to say about a
reader. So whoever wants to know what a session posted of its reader has to look
at the reports alone.

`Attends` says of a change of the hub that it handed no report to anyone: every
session is as it was, or opened anew, or one operation was done with it that is
no report. The calls of clients are of this kind. A report in the hub reaches
one session after the other, and since each posts in its own name, what becomes
of a session does not depend on the others.

## Main definitions

* `EventId.isSighting`, `World.eventsOf`: Events that report what was seen.
* `MessageKind.AskedIn`: A mask has the class of an event.
* `Subscriptions.Tells`: Whoever asked for an event is told, once, and nobody else.
* `Session.sighted`: What a session posts by a report.
* `Session.Tended`: What becomes of a session that is handed no report.
* `Hub.Attends`: A change of the hub that hands no report to anyone.

## Theorems

* `Ascending.nodup_recipients`: Nobody is told twice.
* `Ascending.tells`: Who gets the messages of an event.
* `perform_observed`, `perform_events`: Operations other than reports.
* `notify_sighted`: A report.
* `informed_seen`: A report in the hub.
* `execute_attends`, `openSession_attends`: Calls.
-/

namespace CardHost

variable {σ κ ε α : Type}

/-- An event that reports what was seen of a reader. -/
def EventId.isSighting : EventId → Bool
  | deviceStatus | mediaRemoved => true
  | mediaInserted | mediaDetected => false

theorem EventId.number_inj {id id' : EventId} (h : id.number = id'.number) : id = id' := by
  cases id <;> cases id' <;> first | rfl | exact absurd h (by decide)

namespace World

/-- The events of one kind that a session posted so far, oldest first. -/
def eventsOf (handle : ServiceHandle) (id : EventId) (w : World σ ε) : List Post :=
  w.posts.filter fun post => post.message.service == handle && post.message.isEvent id

variable {handle : ServiceHandle} {id : EventId} {w w' : World σ ε} {posts : List Post}

theorem eventsOf_congr (h : w'.posts = w.posts) : w'.eventsOf handle id = w.eventsOf handle id := by
  rw [eventsOf, h, eventsOf]

theorem eventsOf_post (posts : List Post) (w : World σ ε) :
    (w.post posts).eventsOf handle id = w.eventsOf handle id ++
      posts.filter fun post => post.message.service == handle && post.message.isEvent id := by
  rw [eventsOf, posts_post, List.filter_append, eventsOf]

/-- Posts that are no such events. -/
theorem eventsOf_post_other (h : ∀ post ∈ posts, post.message.isEvent id = false) :
    (w.post posts).eventsOf handle id = w.eventsOf handle id := by
  rw [eventsOf_post, List.filter_eq_nil_iff.mpr, List.append_nil]
  intro post hpost
  rw [h post hpost, Bool.and_false]
  exact Bool.false_ne_true

end World

theorem Message.isEvent_completion {kind : MessageKind} (hkind : kind.eventClass = none)
    (key : RequestKey) (code : UInt32) (result : ResultCode) (payload : Payload) (id : EventId) :
    (completion kind key code result payload).isEvent id = false := by
  rw [isEvent, completion, hkind]
  rfl

theorem Message.isEvent_event {kind : MessageKind} (key : RequestKey) {id id' : EventId}
    (h : id' ≠ id) (payload : Payload) : (event kind key id payload).isEvent id' = false := by
  have hcode : ((event kind key id payload).code == id'.number) = false :=
    beq_eq_false_iff_ne.mpr fun heq => h (EventId.number_inj heq).symm
  rw [isEvent, hcode, Bool.and_false]

/-- Whether a mask has the class of an event. Completions have none. -/
def MessageKind.AskedIn (mask : BitVec 32) : MessageKind → Prop
  | serviceEvent => mask &&& 0x1#32 = 0x1#32
  | userEvent => mask &&& 0x2#32 = 0x2#32
  | systemEvent => mask &&& 0x4#32 = 0x4#32
  | executeEvent => mask &&& 0x8#32 = 0x8#32
  | openComplete | closeComplete | lockComplete | unlockComplete | registerComplete
  | deregisterComplete | getInfoComplete | executeComplete => False

theorem MessageKind.askedIn_iff (kind : MessageKind) (mask : EventClass) :
    kind.AskedIn mask ↔
      ∃ eventClass, kind.eventClass = some eventClass ∧ Bits.contains mask eventClass = true := by
  cases kind with
  | serviceEvent | userEvent | systemEvent | executeEvent =>
      exact ⟨fun h => ⟨_, rfl, beq_iff_eq.mpr h⟩, fun ⟨_, rfl, h⟩ => beq_iff_eq.mp h⟩
  | openComplete | closeComplete | lockComplete | unlockComplete | registerComplete
  | deregisterComplete | getInfoComplete | executeComplete =>
      exact ⟨False.elim, fun ⟨_, h, _⟩ => nomatch h⟩

namespace Subscriptions

/-- Every window that asked for an event by its mask is told of it, once, and no other
    is told anything. -/
structure Tells (table : Subscriptions) (message : Message) (told : List Post) : Prop where
  all : ∀ window mask, (window, mask) ∈ table → message.kind.AskedIn mask →
    ⟨window, message⟩ ∈ told
  only : ∀ post ∈ told, post.message = message ∧
    ∃ mask, (post.window, mask) ∈ table ∧ message.kind.AskedIn mask
  once : (told.map Post.window).Nodup

/-- Entries are in the order of their windows, one per window. -/
def Ascending (table : Subscriptions) : Prop := (table.map Prod.fst).Pairwise (· < ·)

variable {table : Subscriptions}

theorem mem_widen {window other : Window} {classes : EventClass}
    (h : other ∈ (widen window classes table).map Prod.fst) :
    other = window ∨ other ∈ table.map Prod.fst := by
  induction table with
  | nil => exact .inl (List.mem_singleton.mp h)
  | cons first rest ih =>
      rw [widen] at h
      split at h
      · exact List.mem_cons.mp h
      · split at h
        · exact .inr h
        · rcases List.mem_cons.mp h with hfirst | hrest
          · exact .inr (List.mem_cons.mpr (.inl hfirst))
          · exact (ih hrest).imp_right (List.mem_cons_of_mem _)

theorem Ascending.widen (h : table.Ascending) (window : Window) (classes : EventClass) :
    Ascending (Subscriptions.widen window classes table) := by
  induction table with
  | nil => exact List.pairwise_singleton _ _
  | cons first rest ih =>
      have hrest := List.pairwise_cons.mp h
      rw [Subscriptions.widen]
      split
      · next hless =>
          refine List.pairwise_cons.mpr ⟨fun other hother => ?_, h⟩
          rcases List.mem_cons.mp hother with rfl | hother
          · exact hless
          · exact UInt64.lt_trans hless (hrest.1 other hother)
      · split
        · exact h
        · next hnot hother =>
            -- The window goes further down, so the first stays the first.
            refine List.pairwise_cons.mpr ⟨fun other hmem => ?_, ih hrest.2⟩
            rcases mem_widen hmem with rfl | hmem
            · exact UInt64.lt_of_le_of_ne (UInt64.not_lt.mp hnot) (Ne.symm hother)
            · exact hrest.1 other hmem

theorem Ascending.remove (h : table.Ascending) (target : Option Window) (classes : EventClass) :
    Ascending (table.remove target classes).2 := by
  have hkept : ∀ (f : Window × EventClass → Option (Window × EventClass)),
      (∀ entry entry', f entry = some entry' → entry'.1 = entry.1) →
        ((table.filterMap f).map Prod.fst).Sublist (table.map Prod.fst) := by
    intro f hf
    clear h
    induction table with
    | nil => exact List.Sublist.refl _
    | cons first rest ih =>
        rw [List.filterMap_cons]
        split
        · exact ih.cons _
        · next entry' hentry =>
            rw [List.map_cons, List.map_cons, hf first entry' hentry]
            exact ih.cons_cons _
  refine List.Pairwise.sublist (hkept _ fun entry entry' hentry => ?_) h
  simp only at hentry
  split at hentry
  · split at hentry <;> cases hentry
    rfl
  · cases hentry
    rfl

/-- All that an event has posted is its message, which is then no completion. -/
theorem message_of_mem_posts {message : Message} {post : Post} (h : post ∈ table.posts message) :
    post.message = message ∧ message.kind.eventClass.isSome = true := by
  rw [posts] at h
  split at h
  · cases h
  · next eventClass hclass =>
      rcases List.mem_map.mp h with ⟨window, -, rfl⟩
      exact ⟨rfl, by rw [hclass]; rfl⟩

/-- Nobody is told twice. -/
theorem Ascending.nodup_recipients (h : table.Ascending) (eventClass : EventClass) :
    (table.recipients eventClass).Nodup :=
  (h.sublist (List.filter_sublist.map _)).imp UInt64.ne_of_lt

theorem mem_recipients {window : Window} {eventClass : EventClass} :
    window ∈ table.recipients eventClass ↔
      ∃ mask, (window, mask) ∈ table ∧ Bits.contains mask eventClass = true := by
  simp only [recipients, List.mem_map, List.mem_filter, Prod.exists, exists_and_right,
    exists_eq_right]

/-- An event is posted to those who asked for it. -/
theorem Ascending.tells (h : table.Ascending) (message : Message) :
    table.Tells message (table.posts message) := by
  have hasked := message.kind.askedIn_iff
  rw [posts]
  split
  · next hclass =>
      -- Nobody can ask for a completion.
      refine ⟨fun window mask _ hmask => ?_, fun post hpost => ?_, List.Pairwise.nil⟩
      · rcases (hasked mask).mp hmask with ⟨eventClass, hsome, -⟩
        cases hclass.symm.trans hsome
      · cases hpost
  · next eventClass hclass =>
      refine ⟨fun window mask hmem hmask => ?_, fun post hpost => ?_, ?_⟩
      · rcases (hasked mask).mp hmask with ⟨_, hsome, hcontains⟩
        cases hclass.symm.trans hsome
        exact List.mem_map_of_mem (mem_recipients.mpr ⟨mask, hmem, hcontains⟩)
      · rcases List.mem_map.mp hpost with ⟨window, hwindow, rfl⟩
        rcases mem_recipients.mp hwindow with ⟨mask, hmem, hcontains⟩
        exact ⟨rfl, mask, hmem, (hasked mask).mpr ⟨eventClass, hclass, hcontains⟩⟩
      · rw [List.map_map]
        exact (List.map_id _).symm ▸ h.nodup_recipients eventClass

end Subscriptions

namespace Session

variable {b : Backend σ κ ε} {s s' : Session κ} {w : World σ ε} {handle : ServiceHandle}
  {id : EventId} {operation : Operation} {state : Snapshot}

/-- Whether it is a report that is handed to the session. -/
def Operation.isReport : Operation → Bool
  | notify .. => true
  | reread _ | setTraceLevel _ | register .. | deregister .. | ask _ | disconnect => false

theorem report_other {kind : MessageKind} {id' : EventId} (payload : Payload) (hid : id ≠ id') :
    (s.report kind id' payload w).eventsOf handle id = w.eventsOf handle id := by
  refine World.eventsOf_post_other fun post hpost => ?_
  rw [(Subscriptions.message_of_mem_posts hpost).1]
  exact Message.isEvent_event _ hid _

/-- What a session reports are events of its own. -/
theorem report_own (kind : MessageKind) (payload : Payload) :
    (s.report kind id payload w).eventsOf s.handle id = w.eventsOf s.handle id ++
      s.subscriptions.posts (s.eventMessage kind id payload) := by
  rw [report, World.eventsOf_post, List.filter_eq_self.mpr]
  intro post hpost
  rcases Subscriptions.message_of_mem_posts hpost with ⟨hmessage, hclass⟩
  have hkind : kind.eventClass.isSome = true := hclass
  rw [hmessage, eventMessage, Message.isEvent, Message.event, Message.completion, hkind,
    beq_self_eq_true, beq_self_eq_true]
  rfl

theorem disconnect_posts (b : Backend σ κ ε) (s : Session κ) (w : World σ ε) :
    (s.disconnect b w).2.posts = w.posts := by
  rw [disconnect]
  split
  · exact World.posts_call _ w
  · rfl

theorem perform_handle (operation : Operation) :
    (s.perform b operation w).1.handle = s.handle := by
  cases operation with
  | reread | setTraceLevel | register | deregister | disconnect => rfl
  | ask access =>
      rcases ask_alike b access s w with ⟨card, locked, hsame⟩
      rw [perform, hsame]
  | notify state kind => exact notify_handle b state kind s w

/-- Only a report shows a session anything. -/
theorem perform_observed (h : operation.isReport = false) :
    (s.perform b operation w).1.observed = s.observed := by
  cases operation with
  | reread | setTraceLevel | register | deregister | disconnect => rfl
  | ask access => exact ask_observed access
  | notify => cases h

/-- A reset reports the card that it found, and nothing that was seen. -/
theorem ask_events (access : Access) (hid : id.isSighting = true) :
    (s.ask b access w).2.eventsOf handle id = w.eventsOf handle id := by
  rw [ask_eq]
  rcases huse : access.use b s with _ | use
  · rfl
  · have hposts := withCard_posts (b := b) (use_posts huse) s w
    refine Eq.trans ?_ (World.eventsOf_congr hposts)
    simp only [Access.reported.eq_def]
    split
    · exact report_other _ fun heq => (by rw [heq] at hid; cases hid)
    · rfl

/-- And only a report has it say so. -/
theorem perform_events (h : operation.isReport = false) (hid : id.isSighting = true) :
    (s.perform b operation w).2.eventsOf handle id = w.eventsOf handle id := by
  cases operation with
  | reread | setTraceLevel | register | deregister => rfl
  | ask access => exact ask_events access hid
  | disconnect => exact World.eventsOf_congr (disconnect_posts b s w)
  | notify => cases h

theorem perform_ascending (h : s.subscriptions.Ascending) (operation : Operation) :
    (s.perform b operation w).1.subscriptions.Ascending := by
  cases operation with
  | reread | setTraceLevel | disconnect => exact h
  | register window classes => exact h.widen window _
  | deregister window classes => exact h.remove window classes
  | ask access =>
      rcases ask_alike b access s w with ⟨card, locked, hsame⟩
      exact (congrArg subscriptions hsame) ▸ h
  | notify state kind =>
      cases kind with
      | deviceList => exact h
      | card =>
          rcases (s.notify_card (b := b) state w).same with ⟨card, observed, locked, hsame⟩
          have hinformed : (s.informed state).subscriptions = s.subscriptions := by
            rw [informed]
            split <;> rfl
          exact (congrArg subscriptions hsame).trans hinformed ▸ h

/-- What a session posts by a report of its reader. -/
def sighted (state : Snapshot) (s : Session κ) : EventId → List Post
  | .deviceStatus =>
    let available := !state.unavailable
    if available = s.observed.available then []
    else
      s.subscriptions.posts (s.eventMessage .systemEvent .deviceStatus
        (.deviceStatus state.name (if available then .online else .noDevice)))
  | .mediaRemoved =>
    if s.observed.present && (!state.present || state.replaced) then
      s.subscriptions.posts (s.eventMessage .serviceEvent .mediaRemoved .none)
    else []
  | .mediaInserted | .mediaDetected => []

theorem noteAvailability_events (id : EventId) (state : Snapshot) (s : Session κ) (w : World σ ε) :
    (s.noteAvailability state w).2.eventsOf s.handle id = w.eventsOf s.handle id ++
      if id = .deviceStatus then s.sighted state id else [] := by
  rw [noteAvailability]
  by_cases hsame : (!state.unavailable) = s.observed.available
  · by_cases hid : id = .deviceStatus
    · rw [if_pos hsame, if_pos hid, hid, sighted, if_pos hsame, List.append_nil]
    · rw [if_pos hsame, if_neg hid, List.append_nil]
  · by_cases hid : id = .deviceStatus
    · subst hid
      rw [if_neg hsame, if_pos rfl, sighted, if_neg hsame]
      exact report_own _ _
    · rw [if_neg hsame, if_neg hid, List.append_nil]
      exact report_other _ hid

theorem notePresence_events (id : EventId) (state : Snapshot) (s : Session κ) (w : World σ ε) :
    (s.notePresence b state w).2.eventsOf s.handle id = w.eventsOf s.handle id ++
      if id = .mediaRemoved then s.sighted state id else [] := by
  have hgiven : (s.disconnect b w).2.eventsOf s.handle id = w.eventsOf s.handle id :=
    World.eventsOf_congr (disconnect_posts b s w)
  rw [notePresence]
  by_cases hgone : (s.observed.present && (!state.present || state.replaced)) = true
  · by_cases hid : id = .mediaRemoved
    · subst hid
      rw [if_pos hgone, if_pos rfl, sighted, if_pos hgone, ← hgiven]
      exact report_own _ _
    · rw [if_pos hgone, if_neg hid, List.append_nil, ← hgiven]
      exact report_other _ hid
  · by_cases hid : id = .mediaRemoved
    · rw [if_neg hgone, if_pos hid, hid, sighted, if_neg hgone, List.append_nil]
    · rw [if_neg hgone, if_neg hid, List.append_nil]

/-- A report of its reader has a session post what it sees by it. -/
theorem notify_sighted (hbound : s.binding.isBoundTo state.name = true) (id : EventId) :
    (s.notify b state .card w).2.eventsOf s.handle id =
      w.eventsOf s.handle id ++ s.sighted state id := by
  have hinformed := informed_of_isBound (Binding.isBound_of_isBoundTo hbound) state
  have hnoted : ∃ available, (s.noteAvailability state w).1 =
      { s with observed := { s.observed with available } } := by
    rw [noteAvailability]
    split <;> exact ⟨_, rfl⟩
  rcases hnoted with ⟨available, hnoted⟩
  -- The presence is noted second, by a session that differs in what it has seen only.
  have hpresence := notePresence_events (b := b) id state (s.noteAvailability state w).1
    (s.noteAvailability state w).2
  rw [hnoted] at hpresence
  rw [notify_card_eq, hinformed, if_pos hbound, hnoted]
  refine (hpresence.trans (congrArg (· ++ _) (noteAvailability_events id state s w))).trans ?_
  cases id with
  | deviceStatus => exact List.append_nil _
  | mediaRemoved => exact congrArg (· ++ _) (List.append_nil _)
  | mediaInserted | mediaDetected => exact List.append_nil _

/-- A report has a session post nothing in the name of others. -/
theorem notify_events_other (b : Backend σ κ ε) (state : Snapshot) (w : World σ ε)
    (h : handle ≠ s.handle) :
    (s.notify b state .card w).2.eventsOf handle id = w.eventsOf handle id := by
  rcases (s.notify_card (b := b) state w).posts with ⟨posts, hposts, hreports⟩
  rw [World.eventsOf, hposts, List.filter_append]
  refine (congrArg (_ ++ ·) (List.filter_eq_nil_iff.mpr fun post hpost => ?_)).trans
    (List.append_nil _)
  have hservice : post.message.service = s.handle :=
    (hreports post hpost).2.trans (s.informed_handle state)
  rw [hservice, beq_eq_false_iff_ne.mpr (Ne.symm h)]
  exact Bool.false_ne_true

/-- What becomes of a session that is handed no report: it stays as it is, or
    something else is done with it. -/
def Tended (b : Backend σ κ ε) (s s' : Session κ) : Prop :=
  s' = s ∨ ∃ (operation : Operation) (w : World σ ε), operation.isReport = false ∧
    s' = (s.perform b operation w).1

theorem Tended.observed (h : s.Tended b s') : s'.observed = s.observed := by
  rcases h with rfl | ⟨operation, w, hother, rfl⟩
  · rfl
  · exact perform_observed hother

theorem Tended.ascending (h : s.Tended b s') (hs : s.subscriptions.Ascending) :
    s'.subscriptions.Ascending := by
  rcases h with rfl | ⟨operation, w, -, rfl⟩
  · exact hs
  · exact perform_ascending hs operation

end Session

namespace Hub

variable {b : Backend σ κ ε} {hub hub' hub'' : Hub σ κ ε} {handle : ServiceHandle}
  {s session : Session κ}

/-- A hub became another, and no session was handed a report. -/
structure Attends (b : Backend σ κ ε) (hub hub' : Hub σ κ ε) : Prop where
  ascending : hub.handles.Pairwise (· < ·) → hub'.handles.Pairwise (· < ·)
  session : ∀ handle s', hub'.session? handle = some s' →
    (hub.session? handle = none ∧ ∃ settings, s' = Session.start handle settings) ∨
      ∃ s, hub.session? handle = some s ∧ s.Tended b s'
  events : ∀ handle id, id.isSighting = true →
    hub'.world.eventsOf handle id = hub.world.eventsOf handle id

theorem Attends.refl (b : Backend σ κ ε) (hub : Hub σ κ ε) : hub.Attends b hub :=
  ⟨fun h => h, fun _ s' hs' => .inr ⟨s', hs', .inl rfl⟩, fun _ _ _ => rfl⟩

/-- What is done besides concerns no session, and reports nothing that was seen. -/
theorem Attends.congr (h : hub.Attends b hub') (hsessions : hub''.sessions = hub'.sessions)
    (hevents : ∀ handle id, id.isSighting = true →
      hub''.world.eventsOf handle id = hub'.world.eventsOf handle id) : hub.Attends b hub'' := by
  refine ⟨fun hascending => ?_, fun handle s' hs' => ?_, fun handle id hid => ?_⟩
  · rw [handles, hsessions]
    exact h.ascending hascending
  · rw [session?, hsessions] at hs'
    exact h.session handle s' hs'
  · exact (hevents handle id hid).trans (h.events handle id hid)

/-- A change that leaves sessions and posts as they are. -/
theorem Attends.of_same (b : Backend σ κ ε) (hsessions : hub'.sessions = hub.sessions)
    (hposts : hub'.world.posts = hub.world.posts) : hub.Attends b hub' :=
  (Attends.refl b hub).congr hsessions fun _ _ _ => World.eventsOf_congr hposts

theorem session?_replace_other (hother : handle ≠ session.handle) :
    (hub.replace session).session? handle = hub.session? handle := by
  rw [session?_replace_eq]
  rcases hfound : hub.session? handle with _ | found
  · rfl
  · have hhandle : found.handle = handle := (mem_handles_of_session? hfound).2
    rw [Option.map_some, if_neg (hhandle ▸ hother)]

theorem session?_insert_other (hother : handle ≠ session.handle) (sessions : List (Session κ)) :
    (insertSession session sessions).find? (·.handle == handle) =
      sessions.find? (·.handle == handle) := by
  have hpassed : (session.handle == handle) = false := beq_eq_false_iff_ne.mpr (Ne.symm hother)
  induction sessions with
  | nil => rw [insertSession, List.find?_cons, hpassed]
  | cons first rest ih =>
      rw [insertSession]
      split
      · rw [List.find?_cons, hpassed]
      · rw [List.find?_cons, List.find?_cons, ih]

/-- A session is put in under a handle that is free. -/
theorem session?_insert (hfree : hub.session? session.handle = none) :
    session? { hub with sessions := insertSession session hub.sessions } session.handle =
      some session := by
  have hperm := insertSession_perm session hub.sessions
  have hmem : session.handle ∈
      handles { hub with sessions := insertSession session hub.sessions } :=
    List.mem_map_of_mem (hperm.mem_iff.mpr List.mem_cons_self)
  rcases session?_of_mem_handles hmem with ⟨found, hfound⟩
  rcases mem_handles_of_session? hfound with ⟨hfoundMem, hhandle⟩
  -- It is none of those that were there before.
  rcases List.mem_cons.mp (hperm.mem_iff.mp hfoundMem) with rfl | hold
  · exact hfound
  · exact absurd (hhandle ▸ List.mem_map_of_mem hold) (session?_eq_none_iff.mp hfree)

/-- Something is done with one session. -/
theorem replace_attends (hopen : hub.session? handle = some s) (operation : Session.Operation)
    (hother : operation.isReport = false) :
    hub.Attends b ({ hub with world := (s.perform b operation hub.world).2 }.replace
      (s.perform b operation hub.world).1) := by
  have hhandle : (s.perform b operation hub.world).1.handle = handle :=
    (Session.perform_handle operation).trans (mem_handles_of_session? hopen).2
  refine ⟨fun hascending => ?_, fun handle' s' hs' => .inr ?_, fun handle' id hid =>
    Session.perform_events hother hid⟩
  · rw [replace_handles]
    exact hascending
  · by_cases hsame : handle' = handle
    · subst hsame
      have hthere : session? { hub with world := (s.perform b operation hub.world).2 } handle' =
        some s := hopen
      cases (session?_replace hthere hhandle).symm.trans hs'
      exact ⟨s, hopen, .inr ⟨operation, hub.world, hother, rfl⟩⟩
    · rw [session?_replace_other (hhandle ▸ hsame)] at hs'
      exact ⟨s', hs', .inl rfl⟩

theorem reload_attends (b : Backend σ κ ε) (config : Config) (hub : Hub σ κ ε) :
    hub.Attends b { hub with sessions := hub.sessions.map (·.reread config) } := by
  refine ⟨fun hascending => ?_, fun handle s' hs' => .inr ?_, fun _ _ _ => rfl⟩
  · rw [handles, List.map_map]
    exact hascending
  · rw [session?, List.find?_map] at hs'
    rcases Option.map_eq_some_iff.mp hs' with ⟨s, hs, rfl⟩
    exact ⟨s, hs, .inr ⟨.reread config, hub.world, rfl, rfl⟩⟩

theorem insert_attends (b : Backend σ κ ε) (hfree : hub.session? handle = none)
    (settings : Settings) :
    hub.Attends b
      { hub with sessions := insertSession (Session.start handle settings) hub.sessions } := by
  refine ⟨fun hascending =>
    insertSession_ascending _ _ hascending (session?_eq_none_iff.mp hfree),
    fun handle' s' hs' => ?_, fun _ _ _ => rfl⟩
  by_cases hsame : handle' = handle
  · subst hsame
    have hfree' : hub.session? (Session.start handle' settings : Session κ).handle = none := hfree
    cases (session?_insert hfree').symm.trans hs'
    exact .inl ⟨hfree, settings, rfl⟩
  · have hother : handle' ≠ (Session.start handle settings : Session κ).handle := hsame
    rw [session?, session?_insert_other hother] at hs'
    exact .inr ⟨s', hs', .inl rfl⟩

theorem filter_attends (b : Backend σ κ ε) (handle : ServiceHandle) (hub : Hub σ κ ε) :
    hub.Attends b { hub with sessions := hub.sessions.filter (·.handle != handle) } := by
  refine ⟨fun hascending => hascending.sublist (List.filter_sublist.map _),
    fun handle' s' hs' => .inr ⟨s', ?_, .inl rfl⟩, fun _ _ _ => rfl⟩
  rcases mem_handles_of_session? hs' with ⟨hmem, hhandle⟩
  -- A session that is found there is not the one that was taken out.
  have hother : handle' ≠ handle := by
    rw [← hhandle]
    exact bne_iff_ne.mp (List.mem_filter.mp hmem).2
  rw [session?, List.find?_filter] at hs'
  refine Eq.trans (congrArg (hub.sessions.find? ·) ?_) hs'
  funext s
  by_cases hfound : s.handle = handle'
  · rw [hfound, beq_self_eq_true, bne_iff_ne.mpr hother]
    rfl
  · rw [beq_eq_false_iff_ne.mpr hfound]
    exact (decide_eq_false fun h => Bool.false_ne_true h.2).symm

/-- What a report does to a session and its events. The sessions before it and
    after it post in their own names. -/
theorem informed_seen (b : Backend σ κ ε) (hascending : hub.handles.Pairwise (· < ·))
    (hopen : hub.session? handle = some s) (state : Snapshot) :
    ∃ w : World σ ε, (∀ id, w.eventsOf handle id = hub.world.eventsOf handle id) ∧
      (hub.informed b state .card).session? handle = some (s.notify b state .card w).1 ∧
      ∀ id, (hub.informed b state .card).world.eventsOf handle id =
        (s.notify b state .card w).2.eventsOf handle id := by
  have hpassed : ∀ (sessions : List (Session κ)) (w : World σ ε) (id : EventId),
      handle ∉ sessions.map Session.handle →
        (notifySessions b state .card sessions w).2.eventsOf handle id = w.eventsOf handle id := by
    intro sessions
    induction sessions with
    | nil => exact fun _ _ _ => rfl
    | cons first rest ih =>
        intro w id hnot
        rw [List.map_cons, List.mem_cons, not_or] at hnot
        exact (ih _ id hnot.2).trans (Session.notify_events_other b state w hnot.1)
  -- By induction on the sessions that are still to be handed the report.
  have hall : ∀ (sessions : List (Session κ)) (w : World σ ε),
      (sessions.map Session.handle).Pairwise (· < ·) →
        sessions.find? (·.handle == handle) = some s →
          ∃ w', (∀ id, w'.eventsOf handle id = w.eventsOf handle id) ∧
            (notifySessions b state .card sessions w).1.find? (·.handle == handle) =
              some (s.notify b state .card w').1 ∧
            ∀ id, (notifySessions b state .card sessions w).2.eventsOf handle id =
              (s.notify b state .card w').2.eventsOf handle id := by
    intro sessions
    induction sessions with
    | nil => exact fun _ _ h => nomatch h
    | cons first rest ih =>
        intro w hascending hfound
        rcases List.pairwise_cons.mp hascending with ⟨hfirst, hrest⟩
        have hhandle : (first.notify b state .card w).1.handle = first.handle :=
          (first.notify_card state w).handle.trans (first.informed_handle state)
        rw [notifySessions]
        rw [List.find?_cons] at hfound ⊢
        rw [hhandle]
        cases hmatch : first.handle == handle with
        | true =>
            rw [hmatch] at hfound
            cases hfound
            refine ⟨w, fun _ => rfl, rfl, fun id => hpassed rest _ id fun hmem => ?_⟩
            -- Handles ascend, so no other session has this one.
            exact UInt16.lt_irrefl handle (beq_iff_eq.mp hmatch ▸ hfirst handle hmem)
        | false =>
            rw [hmatch] at hfound
            rcases ih (first.notify b state .card w).2 hrest hfound with
              ⟨w', hbefore, hthere, hafter⟩
            refine ⟨w', fun id => (hbefore id).trans ?_, hthere, hafter⟩
            exact Session.notify_events_other b state w
              (Ne.symm (beq_eq_false_iff_ne.mp hmatch))
  exact hall hub.sessions hub.world hascending hopen

end Hub

namespace Provider

variable {b : Backend σ κ ε} {p p' : Provider σ κ ε} {handle : ServiceHandle} {session : Session κ}

/-- A call uses the card of a session. -/
theorem onSession_attends (hopen : p.hub.session? handle = some session)
    {use : Session κ → World σ ε → α × Session κ × World σ ε} (access : Session.Access)
    (huse : (use session p.hub.world).2 = session.ask b access p.hub.world) :
    p.hub.Attends b (p.onSession use session).2.hub := by
  have hreplaced := Hub.replace_attends (b := b) hopen (.ask access) rfl
  rw [Session.perform, ← huse] at hreplaced
  exact hreplaced

theorem complete_attends (h : p.hub.Attends b p'.hub) {kind : MessageKind}
    (hkind : kind.eventClass = none) (call : Call) (code : UInt32) (result : ResultCode)
    (payload : Payload) : p.hub.Attends b (p'.complete kind call code result payload).hub := by
  refine h.congr rfl fun handle id _ => World.eventsOf_post_other fun post hpost => ?_
  rw [List.mem_singleton.mp hpost]
  exact Message.isEvent_completion hkind _ _ _ _ id

theorem wakeIf_attends (h : p.hub.Attends b p'.hub) (cause : Bool) :
    p.hub.Attends b (p'.wakeIf b cause).hub := by
  rw [wakeIf]
  split
  · exact h.congr rfl fun _ _ _ => World.eventsOf_congr (World.posts_call _ _)
  · exact h

theorem addRequest_attends (h : p.hub.Attends b p'.hub) (r : PendingRequest) :
    p.hub.Attends b (p'.addRequest b r).2.hub := by
  rw [addRequest]
  split
  · exact h
  · refine wakeIf_attends ?_ _
    exact h.congr rfl fun _ _ _ => rfl

theorem createSession_attends (b : Backend σ κ ε) (handle : ServiceHandle) (settings : Settings)
    (p : Provider σ κ ε) : p.hub.Attends b (p.createSession b handle settings).2.hub := by
  rw [createSession]
  split
  · exact Hub.Attends.refl b p.hub
  · next hfree =>
      exact (Hub.insert_attends b hfree settings).congr rfl fun _ _ _ =>
        World.eventsOf_congr (World.posts_call _ _)

theorem readNow_attends (hopen : p.hub.session? handle = some session) (sources : DataSources) :
    p.hub.Attends b (p.readNow b sources session).2.hub := by
  by_cases hbound : session.binding.isBound = true
  · rw [readNow_snd sources hbound]
    exact onSession_attends hopen (.read sources) rfl
  · rw [readNow, if_neg hbound]
    exact Hub.Attends.refl b p.hub

theorem readRawData_attends {call : Call} (hopen : p.hub.session? call.service = some session)
    (now : Instant) (timeout : Option Duration) (sources : DataSources) :
    p.hub.Attends b (p.readRawData b call now timeout sources session).2.hub := by
  have hread := readNow_attends (b := b) hopen sources
  simp only [readRawData]
  split
  · exact complete_attends (Hub.Attends.refl b p.hub) rfl _ _ _ _
  · rcases hattempt : p.readNow b sources session with ⟨_ | _, p'⟩
    · rw [hattempt] at hread
      exact complete_attends hread rfl _ _ _ _
    · rw [hattempt] at hread
      have hqueued := addRequest_attends hread (call.readRequest now timeout sources)
      simp only [enqueue]
      rw [Call.readRequest] at hqueued
      split
      · next hadd =>
          rw [hadd] at hqueued
          exact hqueued
      · next hadd =>
          rw [hadd] at hqueued
          exact hqueued

theorem execute_attends (call : Call) (now : Instant) (timeout : Option Duration)
    (command : Command) (p : Provider σ κ ε) :
    p.hub.Attends b (p.execute b call now timeout command).2.hub := by
  have hsame := Hub.Attends.refl b p.hub
  rw [execute]
  split
  · exact hsame
  · next session hopen =>
      cases command with
      | readRawData sources => exact readRawData_attends hopen now timeout sources
      | chipIo data =>
          exact complete_attends (onSession_attends hopen (.chipIo data) rfl) rfl _ _ _ _
      | chipPower action =>
          exact complete_attends (onSession_attends hopen (.chipPower action) rfl) rfl _ _ _ _
      | reset => exact complete_attends (onSession_attends hopen .reset rfl) rfl _ _ _ _
      | ejectCard => exact complete_attends hsame rfl _ _ _ _
      | unsupported code => exact hsame
      | unknown code => exact hsame

theorem openSession_attends (call : Call) (logicalName : String) (traceLevel : UInt32)
    (p : Provider σ κ ε) : p.hub.Attends b (p.openSession b call logicalName traceLevel).2.hub := by
  rw [openSession]
  rcases Settings.resolve p.config logicalName with e | settings
  · exact complete_attends (Hub.Attends.refl b p.hub) rfl _ _ _ _
  · have hcreated := createSession_attends b call.service
      (if traceLevel = 0 then settings else { settings with traceLevel }) p
    simp only
    split
    · next hcall =>
        rw [hcall] at hcreated
        exact complete_attends hcreated rfl _ _ _ _
    · next hcall =>
        rw [hcall] at hcreated
        exact complete_attends hcreated rfl _ _ _ _

end Provider

end CardHost
