import CardHost.Proofs.Runs
import CardHost.Proofs.Sightings

/-!
# What Is Added to the Log

The log holds every call to readers and cards and every message that was posted,
in one order. Who wants to know that something is not in it, be it a message in
the name of a session or a call of some kind, has to go through all that can
happen. `World.Adds` is this question once and for all: a log grew, and whatever
was added passes a test.

Two facts make the test pass for all calls of clients. The listing of the readers
and the wait for a change are made by the watcher only, so the notes of the other
calls to the backend are all there is to look at: `Backend.Notes`. And a call
that is about a session posts in the name of that session and of no other, so it
is enough that messages in its name pass.

## Main definitions

* `World.Adds`: A log grew by entries that pass a test.
* `Backend.Notes`: The notes of all calls but listing and waiting pass a test.
* `Entry.handle?`, `Event.handle?`: The session that a client calls for.

## Theorems

* `ask_adds`, `notify_adds`: What is done with a session.
* `Settled.Ends.service_of_mem`: What is posted when requests end.
* `enter_adds`: Calls of clients.
* `watch_adds`: A step of the watcher.
* `meet_adds`: Any event.
-/

namespace CardHost

variable {σ κ ε α : Type}

/-- A log grew by entries that pass a test. -/
def World.Adds (Q : LogEntry ε → Prop) (w w' : World σ ε) : Prop :=
  ∃ more, w'.log = w.log ++ more ∧ ∀ entry ∈ more, Q entry

/-- The notes of all calls pass a test, but for those that only the watcher
    makes. -/
structure Backend.Notes (b : Backend σ κ ε) (Q : ε → Prop) : Prop where
  cancel : ∀ waiting hardware, ∀ note ∈ (b.cancel waiting hardware).notes, Q note
  connect : ∀ reader mode hardware, ∀ note ∈ (b.connect reader mode hardware).notes, Q note
  status : ∀ card hardware, ∀ note ∈ (b.status card hardware).notes, Q note
  transmit : ∀ data card hardware, ∀ note ∈ (b.transmit data card hardware).notes, Q note
  lock : ∀ card hardware, ∀ note ∈ (b.lock card hardware).notes, Q note
  unlock : ∀ card hardware, ∀ note ∈ (b.unlock card hardware).notes, Q note
  reconnect : ∀ way card hardware, ∀ note ∈ (b.reconnect way card hardware).notes, Q note
  release : ∀ card hardware, ∀ note ∈ (b.release card hardware).notes, Q note

/-- The session that an entry point is about. -/
def Entry.handle? : Entry → Option ServiceHandle
  | openSession call _ _ | closeSession call | lock call | unlock call | register call _ _
  | deregister call _ _ | getInfo call _ | execute call _ _ | executeRaw call _ _ _ =>
    some call.service
  | cancelAsync handle _ | setTraceLevel handle _ => some handle
  | unload | reload _ => none

/-- The session that a client calls for, if it does. -/
def Event.handle? : Event σ → Option ServiceHandle
  | enter _ entry => entry.handle?
  | watch _ | tick _ | happen _ | stop => none

variable {Q : LogEntry ε → Prop} {b : Backend σ κ ε}

theorem Backend.Notes.of_forall {Q : ε → Prop} (h : ∀ note, Q note) : b.Notes Q where
  cancel _ _ note _ := h note
  connect _ _ _ note _ := h note
  status _ _ note _ := h note
  transmit _ _ _ note _ := h note
  lock _ _ note _ := h note
  unlock _ _ note _ := h note
  reconnect _ _ _ note _ := h note
  release _ _ note _ := h note

namespace World.Adds

variable {w w' w'' : World σ ε}

theorem of_same (h : w'.log = w.log) : w.Adds Q w' :=
  ⟨[], h.trans (List.append_nil _).symm, fun _ hentry => absurd hentry List.not_mem_nil⟩

theorem refl (w : World σ ε) : w.Adds Q w := of_same rfl

theorem trans (h : w.Adds Q w') (h' : w'.Adds Q w'') : w.Adds Q w'' := by
  rcases h with ⟨more, hmore, hpass⟩
  rcases h' with ⟨more', hmore', hpass'⟩
  refine ⟨more ++ more', by rw [hmore', hmore, List.append_assoc], fun entry hentry => ?_⟩
  exact (List.mem_append.mp hentry).elim (hpass entry) (hpass' entry)

theorem call (h : w.Adds Q w') {f : σ → Reply σ ε α}
    (hnotes : ∀ note ∈ (f w'.hardware).notes, Q (.call note)) : w.Adds Q (w'.call f).2 := by
  refine h.trans ⟨_, rfl, fun entry hentry => ?_⟩
  rcases List.mem_map.mp hentry with ⟨note, hnote, rfl⟩
  exact hnotes note hnote

theorem post (h : w.Adds Q w') {posts : List Post} (hposts : ∀ post ∈ posts, Q (.post post)) :
    w.Adds Q (w'.post posts) := by
  refine h.trans ⟨_, rfl, fun entry hentry => ?_⟩
  rcases List.mem_map.mp hentry with ⟨post, hpost, rfl⟩
  exact hposts post hpost

/-- Of the messages that were posted, the new ones pass. -/
theorem posts (h : w.Adds Q w') :
    ∃ more, w'.posts = w.posts ++ more ∧ ∀ post ∈ more, Q (.post post) := by
  rcases h with ⟨more, hmore, hpass⟩
  refine ⟨(⟨w.hardware, more⟩ : World σ ε).posts, ?_, fun post hpost => ?_⟩
  · simp only [World.posts, hmore, List.filterMap_append]
  · rcases List.mem_filterMap.mp hpost with ⟨entry, hentry, hsome⟩
    cases entry with
    | call note => cases hsome
    | post post =>
        cases hsome
        exact hpass _ hentry

/-- So do the notes of the calls that were made. -/
theorem calls (h : w.Adds Q w') :
    ∃ more, w'.calls = w.calls ++ more ∧ ∀ note ∈ more, Q (.call note) := by
  rcases h with ⟨more, hmore, hpass⟩
  refine ⟨(⟨w.hardware, more⟩ : World σ ε).calls, ?_, fun note hnote => ?_⟩
  · simp only [World.calls, hmore, List.filterMap_append]
  · rcases List.mem_filterMap.mp hnote with ⟨entry, hentry, hsome⟩
    cases entry with
    | post post => cases hsome
    | call note =>
        cases hsome
        exact hpass _ hentry

end World.Adds

namespace CardUse

variable (hnotes : b.Notes fun note => Q (.call note))
include hnotes

theorem exchange_adds (workarounds : Workarounds) (command : Bytes) (card : κ) (w : World σ ε) :
    w.Adds Q (exchange b workarounds command card w).2 := by
  have hstatus := (World.Adds.refl w).call (hnotes.status card w.hardware)
  rw [exchange]
  rcases hcall : w.call (b.status card) with ⟨⟨e | status, card'⟩, w'⟩
  · rw [hcall] at hstatus
    exact hstatus
  · rw [hcall] at hstatus
    exact hstatus.call (hnotes.transmit _ card' w'.hardware)

theorem power_adds (action : PowerAction) (card : κ) (w : World σ ε) :
    w.Adds Q (power b action card w).2 := by
  have hreconnect := (World.Adds.refl w).call (hnotes.reconnect action.disposition card w.hardware)
  rw [power]
  rcases hcall : w.call (b.reconnect action.disposition card) with ⟨⟨e | _, card'⟩, w'⟩
  · rw [hcall] at hreconnect
    exact hreconnect
  · rw [hcall] at hreconnect
    cases action with
    | cold | warm => exact hreconnect.call (hnotes.status card' w'.hardware)
    | off => exact hreconnect

end CardUse

namespace Session

variable {s : Session κ}

section notes

variable (hnotes : b.Notes fun note => Q (.call note))
include hnotes

theorem disconnect_adds (s : Session κ) (w : World σ ε) : w.Adds Q (s.disconnect b w).2 := by
  rw [disconnect]
  rcases s.card with _ | card
  · exact World.Adds.refl w
  · exact (World.Adds.refl w).call (hnotes.release card w.hardware)

theorem connect_adds (s : Session κ) (w : World σ ε) : w.Adds Q (s.connect b w).2 := by
  rw [connect]
  split
  · exact World.Adds.refl w
  · split
    · exact World.Adds.refl w
    · next reader _ =>
        exact (World.Adds.refl w).call (hnotes.connect reader s.settings.shareMode w.hardware)

theorem use_adds {access : Access} {use : CardUse σ κ ε Unit} (huse : access.use b s = some use)
    (card : κ) (w : World σ ε) : w.Adds Q (use card w).2 := by
  have hsame := World.Adds.refl (Q := Q) w
  cases Access.uses_of_use huse with
  | lock => exact hsame.call (hnotes.lock card w.hardware)
  | unlock => exact hsame.call (hnotes.unlock card w.hardware)
  | status | read => exact hsame.call (hnotes.status card w.hardware)
  | chipIo command => exact CardUse.exchange_adds hnotes _ command card w
  | chipPower action => exact CardUse.power_adds hnotes action card w
  | reset => exact hsame.call (hnotes.reconnect .reset card w.hardware)

/-- Whatever is done with the card comes after the connection to it. -/
theorem withCard_adds_connect {use : CardUse σ κ ε α}
    (huse : ∀ card (w : World σ ε), w.Adds Q (use card w).2) (s : Session κ) (w : World σ ε) :
    (s.connect b w).2.Adds Q (s.withCard b use w).2.2 := by
  have houtcome := withCard_outcome b use s w
  generalize s.withCard b use w = r at houtcome ⊢
  rcases r with ⟨answer, s', w'⟩
  cases houtcome with
  | refused _ hrefused =>
      rw [hrefused]
      exact World.Adds.refl _
  | @served card _ w₁ _ _ hconnected hused =>
      rw [hconnected]
      exact congrArg Prod.snd hused ▸ huse card w₁
  | @failed card _ w₁ _ _ hconnected hused =>
      rw [hconnected]
      exact congrArg Prod.snd hused ▸ huse card w₁
  | @dropped card card' w₁ w₂ _ hconnected hused =>
      rw [hconnected]
      have hdone := huse card w₁
      rw [hused] at hdone
      exact hdone.call (hnotes.release card' w₂.hardware)

theorem withCard_adds {use : CardUse σ κ ε α}
    (huse : ∀ card (w : World σ ε), w.Adds Q (use card w).2) (s : Session κ) (w : World σ ε) :
    w.Adds Q (s.withCard b use w).2.2 :=
  (connect_adds hnotes s w).trans (withCard_adds_connect hnotes huse s w)

end notes

theorem report_adds (hown : ∀ post, post.message.service = s.handle → Q (.post post))
    (kind : MessageKind) (id : EventId) (payload : Payload) (w : World σ ε) :
    w.Adds Q (s.report kind id payload w) := by
  refine (World.Adds.refl w).post fun post hpost => hown post ?_
  rw [(Subscriptions.message_of_mem_posts hpost).1]
  rfl

/-- A session that uses its card posts in its own name, if at all. -/
theorem ask_adds (hnotes : b.Notes fun note => Q (.call note))
    (hown : ∀ post, post.message.service = s.handle → Q (.post post)) (access : Access)
    (w : World σ ε) : w.Adds Q (s.ask b access w).2 := by
  rw [ask_eq]
  rcases huse : access.use b s with _ | use
  · exact World.Adds.refl w
  · have hused := withCard_adds hnotes (use_adds hnotes huse) s w
    rcases withCard_alike b use s w with ⟨card, locked, hsame⟩
    simp only [Access.reported.eq_def, hsame]
    split
    · exact hused.trans (report_adds hown _ _ _ _)
    · exact hused

/-- So does one that takes in a report. -/
theorem notify_adds (hnotes : b.Notes fun note => Q (.call note))
    (hown : ∀ post, post.message.service = s.handle → Q (.post post)) (state : Snapshot)
    (kind : ChangeKind) (w : World σ ε) : w.Adds Q (s.notify b state kind w).2 := by
  have hnoted : ∀ s' : Session κ, s'.handle = s.handle →
      w.Adds Q (s'.noteAvailability state w).2 ∧
        (s'.noteAvailability state w).1.handle = s.handle := by
    intro s' hs'
    rw [noteAvailability]
    split
    · exact ⟨World.Adds.refl w, hs'⟩
    · exact ⟨report_adds (hs' ▸ hown) _ _ _ w, hs'⟩
  have hpresence : ∀ (s' : Session κ) (w' : World σ ε), s'.handle = s.handle →
      w'.Adds Q (s'.notePresence b state w').2 := by
    intro s' w' hs'
    rw [notePresence]
    by_cases hgone : (s'.observed.present && (!state.present || state.replaced)) = true
    · rw [if_pos hgone]
      exact (disconnect_adds hnotes s' w').trans
        (report_adds (s := (s'.disconnect b w').1) (hs' ▸ hown) _ _ _ _)
    · rw [if_neg hgone]
      exact World.Adds.refl w'
  cases kind with
  | deviceList => exact World.Adds.refl w
  | card =>
      rw [notify_card_eq]
      split
      · rcases hnoted (s.informed state) (s.informed_handle state) with ⟨hadds, hhandle⟩
        exact hadds.trans (hpresence _ _ hhandle)
      · exact World.Adds.refl w

end Session

/-- A request that is called off is told so in the name of its session. -/
theorem PendingRequest.canceled_service (r : PendingRequest) :
    ∀ message ∈ r.canceled, message.service = r.key.service := by
  intro message hmessage
  rw [List.mem_singleton.mp hmessage]
  rfl

/-- So is one that has expired. -/
theorem PendingRequest.expired_service (r : PendingRequest) :
    ∀ message ∈ r.expired, message.service = r.key.service := by
  intro message hmessage
  rw [List.mem_singleton.mp hmessage]
  rfl

/-- So is one that is served. -/
theorem PendingRequest.served_service (atr : Bytes) (r : PendingRequest) :
    ∀ message ∈ r.served atr, message.service = r.key.service := by
  intro message hmessage
  rcases List.mem_cons.mp hmessage with rfl | hmessage
  · rfl
  · rw [List.mem_singleton.mp hmessage]
    rfl

/-- Whatever is posted when requests end is in the name of one of them. -/
theorem Settled.Ends.service_of_mem {s : Settled} {q : RequestQueue} {p : PendingRequest → Bool}
    {finish : PendingRequest → List Message} (hs : s.Ends q p finish)
    (hfinish : ∀ r, ∀ message ∈ finish r, message.service = r.key.service) {post : Post}
    (hpost : post ∈ s.posts) :
    ∃ r ∈ q.live, p r = true ∧ post.message.service = r.key.service := by
  rw [hs.posts] at hpost
  rcases List.mem_flatMap.mp hpost with ⟨r, hr, hpost⟩
  rcases List.mem_map.mp hpost with ⟨message, hmessage, rfl⟩
  rcases List.mem_filter.mp hr with ⟨hlive, htest⟩
  exact ⟨r, hlive, htest, hfinish r message hmessage⟩

/-- What the sessions post by a report is in their own names. -/
theorem Hub.informed_adds (hnotes : b.Notes fun note => Q (.call note)) {hub : Hub σ κ ε}
    (hown : ∀ post, post.message.service ∈ hub.handles → Q (.post post)) (state : Snapshot)
    (kind : ChangeKind) : hub.world.Adds Q (hub.informed b state kind).world := by
  have hall : ∀ (sessions : List (Session κ)) (w : World σ ε),
      (∀ post, post.message.service ∈ sessions.map Session.handle → Q (.post post)) →
        w.Adds Q (notifySessions b state kind sessions w).2 := by
    intro sessions
    induction sessions with
    | nil => exact fun w _ => World.Adds.refl w
    | cons first rest ih =>
        intro w hown
        have hfirst := Session.notify_adds (s := first) hnotes (fun post hpost =>
          hown post (List.mem_cons.mpr (.inl hpost))) state kind w
        exact hfirst.trans (ih _ fun post hpost => hown post (List.mem_cons_of_mem _ hpost))
  exact hall hub.sessions hub.world hown

namespace Provider

variable {p p' : Provider σ κ ε} {handle : ServiceHandle} {session : Session κ}

/-- A session is used, and posts in its own name. -/
theorem onSession_adds (hnotes : b.Notes fun note => Q (.call note))
    (hown : ∀ post, post.message.service = handle → Q (.post post))
    (hopen : p.hub.session? handle = some session)
    {use : Session κ → World σ ε → α × Session κ × World σ ε} (access : Session.Access)
    (huse : (use session p.hub.world).2 = session.ask b access p.hub.world) :
    p.hub.world.Adds Q (p.onSession use session).2.hub.world := by
  have hhandle := (Hub.mem_handles_of_session? hopen).2
  have hasked := Session.ask_adds hnotes (hhandle.symm ▸ hown) access p.hub.world
  rw [← huse] at hasked
  exact hasked

theorem complete_adds {w : World σ ε} {call : Call}
    (hown : ∀ post, post.message.service = call.service → Q (.post post))
    (h : w.Adds Q p.hub.world) (kind : MessageKind) (code : UInt32) (result : ResultCode)
    (payload : Payload) : w.Adds Q (p.complete kind call code result payload).hub.world := by
  refine h.post fun post hpost => hown post ?_
  rw [List.mem_singleton.mp hpost]
  rfl

section notes

variable (hnotes : b.Notes fun note => Q (.call note))
include hnotes

theorem wake_adds {w : World σ ε} (h : w.Adds Q p.hub.world) (reason : WakeReason) :
    w.Adds Q (p.wake b reason).hub.world := h.call (hnotes.cancel _ _)

theorem wakeIf_adds {w : World σ ε} (h : w.Adds Q p.hub.world) (cause : Bool) :
    w.Adds Q (p.wakeIf b cause).hub.world := by
  rw [wakeIf]
  split
  · exact wake_adds hnotes h .deadline
  · exact h

theorem addRequest_adds {w : World σ ε} (h : w.Adds Q p.hub.world) (r : PendingRequest) :
    w.Adds Q (p.addRequest b r).2.hub.world := by
  rw [addRequest]
  split
  · exact h
  · refine wakeIf_adds hnotes ?_ _
    exact h

theorem createSession_adds (handle : ServiceHandle) (settings : Settings)
    (p : Provider σ κ ε) :
    p.hub.world.Adds Q (p.createSession b handle settings).2.hub.world := by
  rw [createSession]
  split
  · exact World.Adds.refl p.hub.world
  · exact wake_adds (p := { p with hub := { p.hub with sessions := _ } }) hnotes
      (World.Adds.refl p.hub.world) .resync

/-- Requests are ended, and what is posted for them is in their names. -/
theorem settle_adds {s : Settled} {test : PendingRequest → Bool}
    {finish : PendingRequest → List Message} (hs : s.Ends p.hub.pending test finish)
    (hfinish : ∀ r, ∀ message ∈ finish r, message.service = r.key.service)
    (hown : ∀ r ∈ p.hub.pending.live, test r = true →
      ∀ post, post.message.service = r.key.service → Q (.post post)) :
    p.hub.world.Adds Q (p.settle b s).hub.world := by
  refine wakeIf_adds (p := { p with hub := p.hub.settle s }) hnotes ?_ _
  refine (World.Adds.refl p.hub.world).post fun post hpost => ?_
  rcases hs.service_of_mem hfinish hpost with ⟨r, hr, htest, hservice⟩
  exact hown r hr htest post hservice

theorem removeSession_adds (h : p.hub.pending.Consistent)
    (hown : ∀ post, post.message.service = handle → Q (.post post)) :
    p.hub.world.Adds Q (p.removeSession b handle).2.hub.world := by
  rw [removeSession]
  split
  · exact World.Adds.refl p.hub.world
  · next session _ =>
      have hsettled := settle_adds hnotes
        (p := { p with hub :=
          { p.hub with sessions := p.hub.sessions.filter (·.handle != handle) } })
        (RequestQueue.cancelService_ends h handle) PendingRequest.canceled_service
        fun r _ htest => (beq_iff_eq.mp htest).symm ▸ hown
      exact hsettled.trans (Session.disconnect_adds hnotes session _)

end notes

section session

variable {call : Call} (hnotes : b.Notes fun note => Q (.call note))
  (hown : ∀ post, post.message.service = call.service → Q (.post post))
include hnotes hown

theorem readNow_adds (hopen : p.hub.session? call.service = some session)
    (sources : DataSources) :
    p.hub.world.Adds Q (p.readNow b sources session).2.hub.world := by
  by_cases hbound : session.binding.isBound = true
  · rw [readNow_snd sources hbound]
    exact onSession_adds hnotes hown hopen (.read sources) rfl
  · rw [readNow, if_neg hbound]
    exact World.Adds.refl p.hub.world

theorem readRawData_adds (hopen : p.hub.session? call.service = some session) (now : Instant)
    (timeout : Option Duration) (sources : DataSources) :
    p.hub.world.Adds Q (p.readRawData b call now timeout sources session).2.hub.world := by
  have hread := readNow_adds hnotes hown hopen sources
  simp only [readRawData]
  split
  · exact complete_adds hown (World.Adds.refl p.hub.world) _ _ _ _
  · rcases hattempt : p.readNow b sources session with ⟨_ | _, p'⟩
    · rw [hattempt] at hread
      exact complete_adds hown hread _ _ _ _
    · rw [hattempt] at hread
      have hqueued := addRequest_adds hnotes hread (call.readRequest now timeout sources)
      simp only [enqueue]
      rw [Call.readRequest] at hqueued
      split
      · next hadd =>
          rw [hadd] at hqueued
          exact hqueued
      · next hadd =>
          rw [hadd] at hqueued
          exact hqueued

theorem execute_adds (now : Instant) (timeout : Option Duration) (command : Command)
    (p : Provider σ κ ε) :
    p.hub.world.Adds Q (p.execute b call now timeout command).2.hub.world := by
  have hsame := World.Adds.refl (Q := Q) p.hub.world
  rw [execute]
  split
  · exact hsame
  · next session hopen =>
      cases command with
      | readRawData sources => exact readRawData_adds hnotes hown hopen now timeout sources
      | chipIo data =>
          exact complete_adds hown (onSession_adds hnotes hown hopen (.chipIo data) rfl) _ _ _ _
      | chipPower action =>
          exact complete_adds hown (onSession_adds hnotes hown hopen (.chipPower action) rfl)
            _ _ _ _
      | reset => exact complete_adds hown (onSession_adds hnotes hown hopen .reset rfl) _ _ _ _
      | ejectCard => exact complete_adds hown hsame _ _ _ _
      | unsupported code => exact hsame
      | unknown code => exact hsame

theorem openSession_adds (logicalName : String) (traceLevel : UInt32) (p : Provider σ κ ε) :
    p.hub.world.Adds Q (p.openSession b call logicalName traceLevel).2.hub.world := by
  rw [openSession]
  rcases Settings.resolve p.config logicalName with e | settings
  · exact complete_adds hown (World.Adds.refl p.hub.world) _ _ _ _
  · have hcreated := createSession_adds hnotes call.service
      (if traceLevel = 0 then settings else { settings with traceLevel }) p
    simp only
    split
    · next hcall =>
        rw [hcall] at hcreated
        exact complete_adds hown hcreated _ _ _ _
    · next hcall =>
        rw [hcall] at hcreated
        exact complete_adds hown hcreated _ _ _ _

theorem closeSession_adds (h : p.hub.pending.Consistent) :
    p.hub.world.Adds Q (p.closeSession b call).2.hub.world := by
  have hremoved := removeSession_adds hnotes h hown
  rw [closeSession]
  split
  · next hcall =>
      rw [hcall] at hremoved
      exact hremoved
  · next hcall =>
      rw [hcall] at hremoved
      exact complete_adds hown hremoved _ _ _ _

end session

/-- A call that is about a session posts in its name, and calls neither for a
    list of the readers nor for a wait. -/
theorem enter_adds (hnotes : b.Notes fun note => Q (.call note)) {entry : Entry}
    (hown : ∀ post, entry.handle? = some post.message.service → Q (.post post)) (now : Instant)
    (h : p.hub.pending.Consistent) : p.hub.world.Adds Q (p.enter b now entry).2.hub.world := by
  have hsame := World.Adds.refl (Q := Q) p.hub.world
  have hnamed : ∀ {handle}, entry.handle? = some handle →
      ∀ post, post.message.service = handle → Q (.post post) :=
    fun hhandle post hpost => hown post (hhandle.trans (congrArg some hpost.symm))
  cases entry with
  | openSession call logicalName traceLevel =>
      exact openSession_adds hnotes (hnamed rfl) logicalName traceLevel p
  | closeSession call => exact closeSession_adds hnotes (hnamed rfl) h
  | lock call =>
      rw [enter, lock]
      split
      · exact hsame
      · next session hopen =>
          exact complete_adds (hnamed rfl) (onSession_adds hnotes (hnamed rfl) hopen .lock rfl)
            _ _ _ _
  | unlock call =>
      rw [enter, unlock]
      split
      · exact hsame
      · next session hopen =>
          exact complete_adds (hnamed rfl) (onSession_adds hnotes (hnamed rfl) hopen .unlock rfl)
            _ _ _ _
  | register call classes window =>
      rw [enter, register]
      split
      · exact hsame
      · split
        · exact hsame
        · exact complete_adds (p := { p with hub := p.hub.replace _ }) (hnamed rfl) hsame _ _ _ _
  | deregister call classes window =>
      rw [enter, deregister]
      split
      · exact hsame
      · split
        · exact hsame
        · exact complete_adds (p := { p with hub := p.hub.replace _ }) (hnamed rfl) hsame _ _ _ _
  | getInfo call category =>
      rw [enter, getInfo]
      split
      · exact hsame
      · next session hopen =>
          split
          · exact hsame
          · exact hsame
          · exact hsame
          · exact complete_adds (hnamed rfl) hsame _ _ _ _
          · exact complete_adds (hnamed rfl) (onSession_adds hnotes (hnamed rfl) hopen .status rfl)
              _ _ _ _
  | execute call timeout command => exact execute_adds hnotes (hnamed rfl) now timeout command p
  | executeRaw call timeout code data =>
      rw [enter, executeRaw]
      split
      · exact hsame
      · split
        · exact execute_adds hnotes (hnamed rfl) now timeout _ p
        · exact hsame
  | cancelAsync handle request =>
      rw [enter, cancelAsync.eq_def]
      split
      · exact hsame
      · cases request with
        | none =>
            exact settle_adds hnotes (RequestQueue.cancelService_ends h handle)
              PendingRequest.canceled_service fun r _ htest =>
                (beq_iff_eq.mp htest).symm ▸ hnamed rfl
        | some id =>
            refine settle_adds hnotes (RequestQueue.cancel_ends h ⟨handle, id⟩)
              PendingRequest.canceled_service fun r _ htest => ?_
            rw [beq_iff_eq.mp htest]
            exact hnamed rfl
  | setTraceLevel handle level =>
      rw [enter, setTraceLevel]
      split <;> exact hsame
  | unload | reload => exact hsame

/-- The watcher has sessions and requests post in their names, and opens and
    closes no session. -/
theorem watch_adds (hcalls : ∀ note, Q (.call note)) (h : p.hub.Sound)
    (hown : ∀ post, post.message.service ∈ p.hub.handles → Q (.post post)) (now : Instant) :
    p.hub.world.Adds Q (p.watch b now).hub.world ∧ (p.watch b now).hub.handles = p.hub.handles := by
  have hended : ∀ {hub : Hub σ κ ε} {s : Settled} {test : PendingRequest → Bool}
      {finish : PendingRequest → List Message}, hub.Sound → hub.handles = p.hub.handles →
        s.Ends hub.pending test finish →
          (∀ r, ∀ message ∈ finish r, message.service = r.key.service) →
            p.hub.world.Adds Q hub.world → p.hub.world.Adds Q (hub.settle s).world := by
    intro hub s test finish hsound hhandles hs hfinish hadds
    refine hadds.post fun post hpost => hown post ?_
    rcases hs.service_of_mem hfinish hpost with ⟨r, hr, -, hservice⟩
    rw [hservice, ← hhandles]
    exact (hsound.owned r hr).2
  let P : Hub σ κ ε → Prop := fun hub =>
    hub.Sound ∧ hub.handles = p.hub.handles ∧ p.hub.world.Adds Q hub.world
  have hstep : P (p.watcher.step (Hub.surroundings b) now p.hub).2.2 := by
    refine Watcher.step_preserves (P := P) ?_ ?_ ?_ now p.watcher p.hub
      ⟨h, rfl, World.Adds.refl p.hub.world⟩
    · rintro hub ⟨hsound, hhandles, hadds⟩
      exact ⟨((Hub.Quiet.call hub b.list).keeps hsound).sound, hhandles,
        hadds.call fun note _ => hcalls note⟩
    · rintro poll hub outcome hub' hcall ⟨hsound, hhandles, hadds⟩
      rcases Option.map_eq_some_iff.mp hcall with ⟨reply, -, hreply⟩
      cases hreply
      exact ⟨((Hub.Quiet.call hub fun _ => reply).keeps hsound).sound, hhandles,
        hadds.call (f := fun _ => reply) fun note _ => hcalls note⟩
    · rintro (now | s) hub ⟨hsound, hhandles, hadds⟩
      · exact ⟨(hub.onTimeout_keeps now hsound).sound, hhandles, hended hsound hhandles
          (RequestQueue.expireDue_ends hsound.consistent now) PendingRequest.expired_service hadds⟩
      · -- The sessions are told first, and the requests are those of before.
        have hquiet := hub.informed_quiet b s s.kind
        have hinformed := (hquiet.keeps hsound).sound
        have hthere := hquiet.handles.trans hhandles
        refine ⟨(hub.onChange_keeps b s s.kind hsound).sound, hthere, hended hinformed hthere
          (RequestQueue.notifyChange_ends hinformed.consistent _ s s.kind)
          (PendingRequest.served_service s.atr) ?_⟩
        exact hadds.trans (Hub.informed_adds (Backend.Notes.of_forall hcalls)
          (fun post hpost => hown post (hhandles ▸ hpost)) s s.kind)
  exact ⟨hstep.2.2, hstep.2.1⟩

/-- Whatever is posted in an event is in the name of an open session, or of the
    one that is called. -/
theorem meet_adds (hcalls : ∀ note, Q (.call note)) (h : p.hub.Sound) (event : Event σ)
    (hopen : ∀ post, post.message.service ∈ p.hub.handles → Q (.post post))
    (hcalled : ∀ post, event.handle? = some post.message.service → Q (.post post)) :
    p.hub.world.Adds Q (p.meet b event).2.hub.world := by
  cases event with
  | enter now entry =>
      exact enter_adds (Backend.Notes.of_forall hcalls) hcalled now h.consistent
  | watch now => exact (watch_adds hcalls h hopen now).1
  | tick | happen => exact World.Adds.of_same rfl
  | stop => exact (World.Adds.refl p.hub.world).call fun note _ => hcalls note

end Provider

end CardHost
