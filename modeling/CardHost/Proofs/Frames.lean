import CardHost.Proofs.Closings
import CardHost.Proofs.Waits
import Mathlib.Logic.Relation

/-!
# What a Call Leaves Alone

Sessions share a good deal: one table, one watcher, and above all one queue, in
which the requests of all of them stand under one index by deadline and one by
key. Numbers of requests repeat from session to session. So it is not enough to
look at the fields a call writes to. A bulk cancellation that went by number
instead of by key would write to the same fields and end requests of strangers.

What a call does is done in small pieces, and there are eight of them: `Touch`.
Each is about one session, and this is in the piece: a message carries the handle,
a key that is taken out of the queue has it, a session that is replaced is found
under it. `enter_touches` takes every entry point apart into such pieces, once.
What a piece leaves alone is then a lemma for each of them, and the frame of a
whole call follows because frames compose.

Requests are followed on the agenda, where an entry is a request with its slot.
The slot has the deadline and the arrival number, so a request whose entry is still
there has kept its place, not just its deadline.

## Main definitions

* `RequestQueue.cancelKeys`: Requests are called off by their keys.
* `RequestQueue.Frames`, `Hub.Frames`: Only one session and its requests changed.
* `Provider.Touch`, `Provider.Touches`: One piece of a call; any number of them.
* `LogEntry.Names`: No message in the name of another session.

## Theorems

* `removeAll_frames`, `add_frames`: Requests that leave, and one that comes.
* `Frames.consistent`: The two indexes go on agreeing.
* `Frames.slots`, `Frames.live`: What is left of the others' requests is all of them.
* `enter_touches`: Every call that is about a session consists of such pieces.
* `Touch.frames`, `Touches.frames`: One piece; any number of them.
* `enter_disturbs_no_other`: All that a call leaves alone.
-/

namespace CardHost

variable {σ κ ε α : Type}

/-- It is no message in the name of any session but one. -/
def LogEntry.Names (handle : ServiceHandle) : LogEntry ε → Prop
  | call _ => True
  | post posted => posted.message.service = handle

/-- A list without a new member is the list as it was before that came. -/
theorem filter_enterBy (due : α → Instant) {test : α → Bool} {a : α} (ha : test a = false)
    (l : List α) : (enterBy due a l).filter test = l.filter test := by
  induction l with
  | nil => exact List.filter_cons_of_neg (Bool.eq_false_iff.mp ha)
  | cons first rest ih =>
      rw [enterBy]
      split
      · exact List.filter_cons_of_neg (Bool.eq_false_iff.mp ha)
      · rw [List.filter_cons, List.filter_cons, ih]

namespace RequestQueue

variable {q q' q'' : RequestQueue} {handle : ServiceHandle}

/-- Call off the requests under some keys, as a single one and those of a session are. -/
def cancelKeys (q : RequestQueue) (keys : List RequestKey) : Settled :=
  settle PendingRequest.canceled (removeAll keys q)

/-- A queue became another, and only requests of one session came or went. -/
def Frames (handle : ServiceHandle) (q q' : RequestQueue) : Prop :=
  ∀ agenda, q.Indexes agenda → ∃ agenda', q'.Indexes agenda' ∧
    (agenda'.filter fun e => e.2.key.service != handle) =
      agenda.filter fun e => e.2.key.service != handle

theorem Frames.refl (handle : ServiceHandle) (q : RequestQueue) : q.Frames handle q :=
  fun agenda h => ⟨agenda, h, rfl⟩

theorem Frames.trans (h : q.Frames handle q') (h' : q'.Frames handle q'') :
    q.Frames handle q'' := by
  intro agenda hindexes
  rcases h agenda hindexes with ⟨agenda', hindexes', hsame⟩
  rcases h' agenda' hindexes' with ⟨agenda'', hindexes'', hsame'⟩
  exact ⟨agenda'', hindexes'', hsame'.trans hsame⟩

/-- The two indexes agree as before. -/
theorem Frames.consistent (h : q.Frames handle q') (hq : q.Consistent) : q'.Consistent := by
  rcases hq with ⟨agenda, hq⟩
  rcases h agenda hq with ⟨agenda', hq', -⟩
  exact ⟨agenda', hq'⟩

/-- The slots of the other sessions' requests are all there, and no others. -/
theorem Frames.slots (h : q.Frames handle q') (hq : q.Consistent) :
    (q'.byDeadline.filter fun entry => entry.2.service != handle) =
      q.byDeadline.filter fun entry => entry.2.service != handle := by
  rcases hq with ⟨agenda, hq⟩
  rcases h agenda hq with ⟨agenda', hq', hsame⟩
  rw [hq.byDeadline, hq'.byDeadline, List.filter_map, List.filter_map]
  exact congrArg (List.map _) hsame

/-- So are these requests themselves. -/
theorem Frames.live (h : q.Frames handle q') (hq : q.Consistent) :
    (q'.live.filter fun r => r.key.service != handle) =
      q.live.filter fun r => r.key.service != handle := by
  rcases hq with ⟨agenda, hq⟩
  rcases h agenda hq with ⟨agenda', hq', hsame⟩
  rw [hq.live_eq, hq'.live_eq, List.filter_map, List.filter_map]
  exact congrArg (List.map _) hsame

theorem removeAll_frames {keys : List RequestKey} (hkeys : ∀ key ∈ keys, key.service = handle)
    (q : RequestQueue) : q.Frames handle (removeAll keys q).2 := by
  intro agenda h
  refine ⟨_, h.removeAll_snd keys, ?_⟩
  rw [List.filter_filter]
  refine List.filter_congr fun e _ => ?_
  -- A request of another session is under none of these keys.
  cases hother : e.2.key.service != handle with
  | false => exact Bool.false_and _
  | true =>
      have hnot : keys.contains e.2.key = false := Bool.eq_false_iff.mpr fun hmem =>
        bne_iff_ne.mp hother (hkeys _ (List.contains_iff_mem.mp hmem))
      rw [hnot]
      rfl

theorem add_frames {r : PendingRequest} (hr : r.key.service = handle) {nearest : Bool}
    (hadd : q.add r = .ok (nearest, q')) : q.Frames handle q' := by
  intro agenda h
  rw [add] at hadd
  cases hnew : q.contains r.key with
  | true =>
      rw [hnew] at hadd
      cases hadd
  | false =>
      rw [hnew] at hadd
      cases hadd
      refine ⟨_, h.insert fun e he hkey => ?_, filter_enterBy _ ?_ agenda⟩
      · exact Bool.eq_false_iff.mp hnew (h.contains_iff.mpr ⟨e, he, hkey⟩)
      · rw [hr, bne_self_eq_false]

/-- Whatever two queues have in common stands in the same order in both. -/
theorem Consistent.common_order (hq : q.Consistent) (hq' : q'.Consistent) :
    (q'.byDeadline.filter fun entry => entry ∈ q.byDeadline) =
      q.byDeadline.filter fun entry => entry ∈ q'.byDeadline := by
  have hasc := hq.agree.ascending.filter (p := fun entry => decide (entry ∈ q'.byDeadline))
  have hasc' := hq'.agree.ascending.filter (p := fun entry => decide (entry ∈ q.byDeadline))
  have hnodup : ∀ {l : List (Slot × RequestKey)},
      l.Pairwise (fun a b => a.1.before b.1 = true) → l.Nodup := fun h =>
    h.imp fun hbefore heq => Slot.ne_of_before hbefore (congrArg Prod.fst heq)
  -- Both have the same members, and slots ascend in both.
  refine List.Perm.eq_of_pairwise ?_ hasc' hasc ?_
  · intro a b _ _ hab hba
    exact absurd rfl (Slot.ne_of_before (Slot.before_trans hab hba))
  · refine (List.perm_ext_iff_of_nodup (hnodup hasc') (hnodup hasc)).mpr fun entry => ?_
    simp only [List.mem_filter, decide_eq_true_eq]
    exact And.comm

end RequestQueue

namespace Hub

variable {hub hub' hub'' : Hub σ κ ε} {handle : ServiceHandle}

/-- A hub became another, and only one session and its requests changed. -/
structure Frames (handle : ServiceHandle) (hub hub' : Hub σ κ ε) : Prop where
  sessions : ∀ other, other ≠ handle → hub'.session? other = hub.session? other
  pending : hub.pending.Frames handle hub'.pending

theorem Frames.refl (handle : ServiceHandle) (hub : Hub σ κ ε) : hub.Frames handle hub :=
  ⟨fun _ _ => rfl, RequestQueue.Frames.refl handle hub.pending⟩

theorem Frames.trans (h : hub.Frames handle hub') (h' : hub'.Frames handle hub'') :
    hub.Frames handle hub'' :=
  ⟨fun other hother => (h'.sessions other hother).trans (h.sessions other hother),
    h.pending.trans h'.pending⟩

theorem session?_filter_other {other : ServiceHandle} (hother : other ≠ handle)
    (sessions : List (Session κ)) :
    (sessions.filter (·.handle != handle)).find? (·.handle == other) =
      sessions.find? (·.handle == other) := by
  rw [List.find?_filter]
  refine congrArg (sessions.find? ·) (funext fun s => ?_)
  by_cases hfound : s.handle = other
  · rw [hfound, beq_self_eq_true, bne_iff_ne.mpr hother]
    rfl
  · rw [beq_eq_false_iff_ne.mpr hfound]
    exact decide_eq_false fun h => Bool.false_ne_true h.2

end Hub

namespace Provider

variable {b : Backend σ κ ε} {p p' : Provider σ κ ε} {handle : ServiceHandle}
  {session : Session κ}

/-- One piece of a call that is about a session. -/
inductive Touch (b : Backend σ κ ε) (handle : ServiceHandle) (p : Provider σ κ ε) :
    Provider σ κ ε → Prop where
  /-- The watcher is woken. -/
  | woken (reason : WakeReason) : Touch b handle p (p.wake b reason)
  /-- A call in the name of the session is completed. -/
  | told {call : Call} (hcall : call.service = handle) (kind : MessageKind) (code : UInt32)
      (result : ResultCode) (payload : Payload) :
      Touch b handle p (p.complete kind call code result payload)
  /-- Something is done with the session that is no report. -/
  | used {session : Session κ} (hopen : p.hub.session? handle = some session)
      (operation : Session.Operation) (hother : operation.isReport = false) :
      Touch b handle p (p.onSession (fun s w => ((), s.perform b operation w)) session).2
  /-- The session is put into the table. -/
  | opened (hfree : p.hub.session? handle = none) (settings : Settings) :
      Touch b handle p { p with hub := { p.hub with
        sessions := Hub.insertSession (Session.start handle settings) p.hub.sessions } }
  /-- The session is taken out of the table. -/
  | closed : Touch b handle p { p with hub :=
      { p.hub with sessions := p.hub.sessions.filter (·.handle != handle) } }
  /-- A card is given up. -/
  | released (card : κ) : Touch b handle p { p with hub :=
      { p.hub with world := (p.hub.world.call (b.release card)).2 } }
  /-- A request of the session is queued. -/
  | queued {r : PendingRequest} {nearest : Bool} {pending : RequestQueue}
      (hr : r.key.service = handle) (hadd : p.hub.pending.add r = .ok (nearest, pending)) :
      Touch b handle p { p with hub := { p.hub with pending } }
  /-- Requests of the session are called off. -/
  | calledOff {keys : List RequestKey} (hkeys : ∀ key ∈ keys, key.service = handle) :
      Touch b handle p { p with hub := p.hub.settle (p.hub.pending.cancelKeys keys) }

/-- Any number of such pieces, one after another. -/
abbrev Touches (b : Backend σ κ ε) (handle : ServiceHandle) :
    Provider σ κ ε → Provider σ κ ε → Prop := Relation.ReflTransGen (Touch b handle)

/-- A piece of a call leaves everybody else alone. -/
theorem Touch.frames (h : Touch b handle p p') : p.hub.Frames handle p'.hub := by
  have hsame := RequestQueue.Frames.refl handle p.hub.pending
  cases h with
  | woken | told | released => exact ⟨fun _ _ => rfl, hsame⟩
  | @used session hopen operation hother =>
      have hhandle : (session.perform b operation p.hub.world).1.handle = handle :=
        (Session.perform_handle operation).trans (Hub.mem_handles_of_session? hopen).2
      exact ⟨fun other hne => Hub.session?_replace_other (hhandle ▸ hne), hsame⟩
  | opened hfree settings =>
      exact ⟨fun other hne => Hub.session?_insert_other hne _, hsame⟩
  | closed => exact ⟨fun other hne => Hub.session?_filter_other hne _, hsame⟩
  | queued hr hadd => exact ⟨fun _ _ => rfl, RequestQueue.add_frames hr hadd⟩
  | calledOff hkeys => exact ⟨fun _ _ => rfl, RequestQueue.removeAll_frames hkeys _⟩

theorem Touches.frames (h : Touches b handle p p') : p.hub.Frames handle p'.hub := by
  induction h with
  | refl => exact Hub.Frames.refl handle p.hub
  | tail _ htouch ih => exact ih.trans htouch.frames

section walk

theorem wakeIf_touches (h : Touches b handle p p') (cause : Bool) :
    Touches b handle p (p'.wakeIf b cause) := by
  rw [wakeIf]
  split
  · exact h.tail (.woken .deadline)
  · exact h

theorem addRequest_touches (h : Touches b handle p p') {r : PendingRequest}
    (hr : r.key.service = handle) : Touches b handle p (p'.addRequest b r).2 := by
  rw [addRequest]
  split
  · exact h
  · next hadd => exact wakeIf_touches (h.tail (.queued hr hadd)) _

/-- Requests of the session are called off, and a wait that was meant for them. -/
theorem settle_touches (h : Touches b handle p p') {keys : List RequestKey}
    (hkeys : ∀ key ∈ keys, key.service = handle) :
    Touches b handle p (p'.settle b (p'.hub.pending.cancelKeys keys)) :=
  wakeIf_touches (h.tail (.calledOff hkeys)) _

/-- The keys by which the requests of a session are called off are its own. -/
theorem service_of_mem_keys {q : RequestQueue} :
    ∀ key ∈ q.keys.filter (·.service == handle), key.service = handle :=
  fun _ hkey => beq_iff_eq.mp (List.mem_filter.mp hkey).2

theorem removeSession_touches (b : Backend σ κ ε) (handle : ServiceHandle)
    (p : Provider σ κ ε) : Touches b handle p (p.removeSession b handle).2 := by
  rw [removeSession]
  split
  · exact .refl
  · next session _ =>
      have hgiven : ∀ {p' : Provider σ κ ε}, Touches b handle p p' → Touches b handle p
          { p' with hub := { p'.hub with world := (session.disconnect b p'.hub.world).2 } } := by
        intro p' h
        rw [Session.disconnect]
        rcases session.card with _ | card
        · exact h
        · exact h.tail (.released card)
      have hclosed : Touches b handle p _ := .single .closed
      exact hgiven (settle_touches hclosed (service_of_mem_keys (q := p.hub.pending)))

theorem createSession_touches (b : Backend σ κ ε) (handle : ServiceHandle) (settings : Settings)
    (p : Provider σ κ ε) : Touches b handle p (p.createSession b handle settings).2 := by
  rw [createSession]
  split
  · exact .refl
  · next hfree =>
      exact (Relation.ReflTransGen.single (.opened hfree settings)).tail (.woken .resync)

theorem onSession_touches (hopen : p.hub.session? handle = some session)
    {use : Session κ → World σ ε → α × Session κ × World σ ε} (access : Session.Access)
    (huse : (use session p.hub.world).2 = session.ask b access p.hub.world) :
    Touches b handle p (p.onSession use session).2 := by
  have hused : Touch b handle p (p.onSession (fun s w => ((), s.ask b access w)) session).2 :=
    Touch.used hopen (.ask access) rfl
  simp only [onSession, ← huse] at hused
  exact .single hused

variable {call : Call}

theorem complete_touches (h : Touches b call.service p p') (kind : MessageKind) (code : UInt32)
    (result : ResultCode) (payload : Payload) :
    Touches b call.service p (p'.complete kind call code result payload) :=
  h.tail (.told rfl kind code result payload)

theorem readNow_touches (hopen : p.hub.session? handle = some session) (sources : DataSources) :
    Touches b handle p (p.readNow b sources session).2 := by
  by_cases hbound : session.binding.isBound = true
  · rw [readNow_snd sources hbound]
    exact onSession_touches hopen (.read sources) rfl
  · rw [readNow, if_neg hbound]

theorem readRawData_touches (hopen : p.hub.session? call.service = some session) (now : Instant)
    (timeout : Option Duration) (sources : DataSources) :
    Touches b call.service p (p.readRawData b call now timeout sources session).2 := by
  have hread := readNow_touches (b := b) hopen sources
  simp only [readRawData]
  split
  · exact complete_touches .refl _ _ _ _
  · rcases hattempt : p.readNow b sources session with ⟨_ | _, p'⟩
    · rw [hattempt] at hread
      exact complete_touches hread _ _ _ _
    · rw [hattempt] at hread
      have hqueued := addRequest_touches hread (r := call.readRequest now timeout sources) rfl
      simp only [enqueue]
      rw [Call.readRequest] at hqueued
      split
      · next hadd =>
          rw [hadd] at hqueued
          exact hqueued
      · next hadd =>
          rw [hadd] at hqueued
          exact hqueued

theorem execute_touches (b : Backend σ κ ε) (call : Call) (now : Instant)
    (timeout : Option Duration) (command : Command) (p : Provider σ κ ε) :
    Touches b call.service p (p.execute b call now timeout command).2 := by
  rw [execute]
  split
  · exact .refl
  · next session hopen =>
      cases command with
      | readRawData sources => exact readRawData_touches hopen now timeout sources
      | chipIo data => exact complete_touches (onSession_touches hopen (.chipIo data) rfl) _ _ _ _
      | chipPower action =>
          exact complete_touches (onSession_touches hopen (.chipPower action) rfl) _ _ _ _
      | reset => exact complete_touches (onSession_touches hopen .reset rfl) _ _ _ _
      | ejectCard => exact complete_touches .refl _ _ _ _
      | unsupported code => exact .refl
      | unknown code => exact .refl

theorem openSession_touches (b : Backend σ κ ε) (call : Call) (logicalName : String)
    (traceLevel : UInt32) (p : Provider σ κ ε) :
    Touches b call.service p (p.openSession b call logicalName traceLevel).2 := by
  rw [openSession]
  rcases Settings.resolve p.config logicalName with e | settings
  · exact complete_touches .refl _ _ _ _
  · have hcreated := createSession_touches b call.service
      (if traceLevel = 0 then settings else { settings with traceLevel }) p
    simp only
    split
    · next hcall =>
        rw [hcall] at hcreated
        exact complete_touches hcreated _ _ _ _
    · next hcall =>
        rw [hcall] at hcreated
        exact complete_touches hcreated _ _ _ _

theorem closeSession_touches (b : Backend σ κ ε) (call : Call) (p : Provider σ κ ε) :
    Touches b call.service p (p.closeSession b call).2 := by
  have hremoved := removeSession_touches b call.service p
  rw [closeSession]
  split
  · next hcall =>
      rw [hcall] at hremoved
      exact hremoved
  · next hcall =>
      rw [hcall] at hremoved
      exact complete_touches hremoved _ _ _ _

theorem cancelAsync_touches (b : Backend σ κ ε) (handle : ServiceHandle)
    (request : Option RequestId) (p : Provider σ κ ε) :
    Touches b handle p (p.cancelAsync b handle request).2 := by
  rw [cancelAsync.eq_def]
  split
  · exact .refl
  · cases request with
    | none => exact settle_touches .refl (service_of_mem_keys (q := p.hub.pending))
    | some id =>
        have hkeys : ∀ key ∈ [(⟨handle, id⟩ : RequestKey)], key.service = handle := by
          intro key hkey
          rw [List.mem_singleton.mp hkey]
        exact settle_touches .refl hkeys

end walk

/-- A call that is about a session consists of pieces that are about it. -/
theorem enter_touches (b : Backend σ κ ε) (now : Instant) {entry : Entry}
    (hhandle : entry.handle? = some handle) (p : Provider σ κ ε) :
    Touches b handle p (p.enter b now entry).2 := by
  cases entry with
  | openSession call logicalName traceLevel =>
      cases hhandle
      exact openSession_touches b call logicalName traceLevel p
  | closeSession call =>
      cases hhandle
      exact closeSession_touches b call p
  | lock call =>
      cases hhandle
      rw [enter, lock]
      split
      · exact .refl
      · next session hopen => exact complete_touches (onSession_touches hopen .lock rfl) _ _ _ _
  | unlock call =>
      cases hhandle
      rw [enter, unlock]
      split
      · exact .refl
      · next session hopen => exact complete_touches (onSession_touches hopen .unlock rfl) _ _ _ _
  | register call classes window =>
      cases hhandle
      rw [enter, register]
      split
      · exact .refl
      · next session hopen =>
          split
          · exact .refl
          · next classes _ =>
              exact complete_touches (.single (.used hopen (.register window classes) rfl)) _ _ _ _
  | deregister call classes window =>
      cases hhandle
      rw [enter, deregister]
      split
      · exact .refl
      · next session hopen =>
          split
          · exact .refl
          · next classes _ =>
              exact complete_touches (.single (.used hopen (.deregister window classes) rfl))
                _ _ _ _
  | getInfo call category =>
      cases hhandle
      rw [enter, getInfo]
      split
      · exact .refl
      · next session hopen =>
          split
          · exact .refl
          · exact .refl
          · exact .refl
          · exact complete_touches .refl _ _ _ _
          · exact complete_touches (onSession_touches hopen .status rfl) _ _ _ _
  | execute call timeout command =>
      cases hhandle
      exact execute_touches b call now timeout command p
  | executeRaw call timeout code data =>
      cases hhandle
      rw [enter, executeRaw]
      split
      · exact .refl
      · split
        · exact execute_touches b call now timeout _ p
        · exact .refl
  | cancelAsync handle' request =>
      cases hhandle
      exact cancelAsync_touches b handle request p
  | setTraceLevel handle' level =>
      cases hhandle
      rw [enter, setTraceLevel]
      split
      · exact .refl
      · next session hopen => exact .single (.used hopen (.setTraceLevel level) rfl)
  | unload | reload => cases hhandle

/-- To open a handle that is in use comes to nothing but a completion that says so. -/
theorem openSession_in_use {call : Call} (hopen : p.hub.session? call.service = some session)
    (logicalName : String) (traceLevel : UInt32) :
    ∃ result, result ≠ ResultCode.success ∧ p.openSession b call logicalName traceLevel =
      (.success, p.complete .openComplete call 0 result .none) := by
  rw [openSession]
  rcases Settings.resolve p.config logicalName with e | settings
  · exact ⟨e.result, e.result_ne_success, rfl⟩
  · simp only [createSession, hopen]
    exact ⟨_, HostError.result_ne_success _, rfl⟩

/-- Sessions do not disturb each other. After any run, which may have left off in the
    middle of another call, whatever is called in the name of a session and whatever the
    hardware answers: every other session is as it was.
    The other sessions' requests are all still there, with the slots they had, hence in
    the same order, and no request that is still there has passed another one. Whatever
    is posted is in the name of the session. And if the call is to open a handle that is
    in use, all that comes of it is a completion: the session that has the handle is as
    it was too, and so is every request. -/
theorem enter_disturbs_no_other (b : Backend σ κ ε) (hardware : σ) (config : Config)
    (moves : List (Move σ)) (now : Instant) {entry : Entry}
    (hhandle : entry.handle? = some handle) :
    let p := ((Stage.start hardware config : Stage σ κ ε).run b moves).provider
    let p' := (p.enter b now entry).2
    (∀ other, other ≠ handle → p'.hub.session? other = p.hub.session? other) ∧
      ((p'.hub.pending.byDeadline.filter fun entry => entry.2.service != handle) =
          (p.hub.pending.byDeadline.filter fun entry => entry.2.service != handle) ∧
        (p'.hub.pending.live.filter fun r => r.key.service != handle) =
          (p.hub.pending.live.filter fun r => r.key.service != handle) ∧
        (p'.hub.pending.byDeadline.filter fun entry => entry ∈ p.hub.pending.byDeadline) =
          p.hub.pending.byDeadline.filter fun entry => entry ∈ p'.hub.pending.byDeadline) ∧
      p.hub.world.Adds (LogEntry.Names handle) p'.hub.world ∧
      ∀ (call : Call) (logicalName : String) (traceLevel : UInt32) (session : Session κ),
        entry = .openSession call logicalName traceLevel → p.hub.session? handle = some session →
          p'.hub.sessions = p.hub.sessions ∧ p'.hub.pending = p.hub.pending ∧
            ∃ result, result ≠ ResultCode.success ∧
              p.enter b now entry = (.success, p.complete .openComplete call 0 result .none) := by
  intro p p'
  have hconsistent : p.hub.pending.Consistent :=
    (Stage.run_timely (b := b) (Stage.start_timely hardware config) moves).1.consistent
  have hframes := (enter_touches b now hhandle p).frames
  refine ⟨hframes.sessions, ⟨hframes.pending.slots hconsistent, hframes.pending.live hconsistent,
    hconsistent.common_order (hframes.pending.consistent hconsistent)⟩, ?_, ?_⟩
  · refine enter_adds (Backend.Notes.of_forall fun _ => trivial) (fun post hpost => ?_) now
      hconsistent
    exact Option.some.inj (hpost.symm.trans hhandle)
  · rintro call logicalName traceLevel session rfl hopen
    have hservice : call.service = handle := Option.some.inj hhandle
    rcases openSession_in_use (b := b) (hservice ▸ hopen) logicalName traceLevel with
      ⟨result, hfailed, hanswer⟩
    have hanswer' : p' = p.complete .openComplete call 0 result .none :=
      congrArg Prod.snd hanswer
    rw [hanswer']
    exact ⟨rfl, rfl, result, hfailed, hanswer⟩

end Provider

namespace Simulation

/-- Two sessions are opened, and in each a read waits under the same number. -/
def sameNumber : List (Move Hall) :=
  [.enter 0 (.openSession ⟨1, 1, 1⟩ "L" 0), .enter 0 (.openSession ⟨2, 2, 1⟩ "L" 0),
   .enter 0 (.execute ⟨1, 1, 7⟩ (some 5) (.readRawData 8#16)),
   .enter 0 (.execute ⟨2, 2, 7⟩ (some 3) (.readRawData 8#16))]

/-- One of the two calls off all its reads, and the other goes on waiting. -/
theorem enter_disturbs_no_other_sameNumber :
    let p := ((Stage.start oneReader (configuredTo "A")).run backend sameNumber).provider
    let p' := (p.enter backend 1 (.cancelAsync 1 none)).2
    p.hub.pending.keys = [⟨2, 7⟩, ⟨1, 7⟩] ∧ p'.hub.pending.keys = [⟨2, 7⟩] ∧
      p'.hub.session? 2 = p.hub.session? 2 ∧
      p.hub.world.Adds (LogEntry.Names 1) p'.hub.world := by
  have hhandle : (Entry.cancelAsync 1 none).handle? = some 1 := rfl
  have hframe := Provider.enter_disturbs_no_other backend oneReader (configuredTo "A") sameNumber 1
    hhandle
  exact ⟨by decide, by decide, hframe.1 2 (by decide), hframe.2.2.1⟩

end Simulation

end CardHost
