import CardHost.Proofs.Logs
import CardHost.Proofs.Scenes

/-!
# What Is Left of a Closed Session

A session is closed in an order that lets nothing slip through: first it is taken
out, so that no later call finds it, then its requests are called off, then it
gives up its card, and only then is the closing completed. `closeSession_log` is
this order as it shows in the log.

That nothing comes after is another matter. A request waits in the queue and
looks at a binding, and neither knows whether the session is still there. What
helps is that whoever waits belongs to an open session, and whoever posts does
so in the name of one. So it is enough to follow the table of sessions: as long
as nobody opens the handle again it is not in there, and then no request waits
under it and no message carries it.

When the handle is opened again its messages start from nothing. Nothing waited
at the time of the closing, so whatever is completed from then on was accepted
after it.

## Main definitions

* `Entry.opens`, `Event.opens`: A handle is opened.
* `LogEntry.Spares`: No message in the name of a session.
* `Hub.Gone`: A session is not in the table.

## Theorems

* `Consistent.live_slots`: Requests stand in the order of their slots.
* `settle_log`, `closeSession_log`: The end of requests, and the closing of a
  session, in the log.
* `enter_gone`: A call for a session that is gone.
* `meet_gone`, `run_gone`: One event; a run of them.
* `run_reopened`: What is completed after the closing.
* `closed_for_good`: All that follows from a session being closed.
-/

namespace CardHost

variable {σ κ ε : Type}

/-- Whether a handle is opened. -/
def Entry.opens (handle : ServiceHandle) : Entry → Bool
  | openSession call _ _ => call.service == handle
  | closeSession _ | lock _ | unlock _ | register .. | deregister .. | getInfo .. | execute ..
  | executeRaw .. | cancelAsync .. | setTraceLevel .. | unload | reload _ => false

/-- Whether a client opens a handle. -/
def Event.opens (handle : ServiceHandle) : Event σ → Bool
  | enter _ entry => entry.opens handle
  | watch _ | tick _ | happen _ | stop => false

/-- It is no message in the name of a session. -/
def LogEntry.Spares (handle : ServiceHandle) : LogEntry ε → Prop
  | call _ => True
  | post posted => posted.message.service ≠ handle

/-- Requests stand in the order of their slots, each under its own deadline. -/
theorem RequestQueue.Consistent.live_slots {q : RequestQueue} (h : q.Consistent)
    (test : RequestKey → Bool) :
    (q.live.filter fun r => test r.key).map (fun r => (r.deadline, r.key)) =
      (q.byDeadline.filter fun entry => test entry.2).map fun entry =>
        (entry.1.deadline, entry.2) := by
  rcases h with ⟨agenda, h⟩
  rw [h.live_eq, h.byDeadline, List.filter_map, List.filter_map, List.map_map, List.map_map]
  refine List.map_congr_left fun e he => ?_
  have hdeadline := h.deadline e (List.mem_of_mem_filter he)
  exact congrArg (·, e.2.key) hdeadline.symm

/-- A card that is given up shows in the log. -/
theorem Session.disconnect_log (b : Backend σ κ ε) (s : Session κ) (w : World σ ε) :
    (s.disconnect b w).2.log =
      w.log ++ (s.card.elim [] fun card => (b.release card w.hardware).notes).map .call := by
  rw [disconnect]
  rcases s.card with _ | card
  · exact (List.append_nil _).symm
  · rfl

namespace Hub

variable {hub hub' : Hub σ κ ε} {handle : ServiceHandle}

/-- A session is not in the table of a sound hub. -/
structure Gone (handle : ServiceHandle) (hub : Hub σ κ ε) : Prop where
  sound : hub.Sound
  absent : handle ∉ hub.handles

theorem Gone.session? (h : hub.Gone handle) : hub.session? handle = none :=
  session?_eq_none_iff.mpr h.absent

/-- No request waits for it. -/
theorem Gone.unserved (h : hub.Gone handle) {r : PendingRequest} (hr : r ∈ hub.pending.live) :
    r.key.service ≠ handle := by
  intro hservice
  exact h.absent (hservice ▸ (h.sound.owned r hr).2)

end Hub

namespace Provider

variable {b : Backend σ κ ε} {p p' : Provider σ κ ε} {handle : ServiceHandle}

theorem removeSession_sessions {session : Session κ}
    (hopen : p.hub.session? handle = some session) :
    (p.removeSession b handle).2.hub.sessions = p.hub.sessions.filter (·.handle != handle) := by
  simp only [removeSession, hopen, settle, wakeIf]
  split <;> rfl

/-- The only way into the table of sessions is a call that opens one. -/
theorem Course.mem_handles {call? : Option Call} {result : ResultCode × Provider σ κ ε}
    (hcourse : Course b call? p result) (hmem : handle ∈ result.2.hub.handles) :
    handle ∈ p.hub.handles ∨ call?.map Call.service = some handle := by
  have hcalm : ∀ {p' : Provider σ κ ε}, p.Calm p' → handle ∈ p'.hub.handles →
      handle ∈ p.hub.handles := fun hcalm hmem => hcalm.hub.handles ▸ hmem
  have hwoken : ∀ (p' : Provider σ κ ε) (cause : Bool), handle ∈ (p'.wakeIf b cause).hub.handles →
      handle ∈ p'.hub.handles := by
    intro p' cause hmem
    rw [wakeIf] at hmem
    split at hmem <;> exact hmem
  cases hcourse with
  | refused _ h | done _ h | completed _ _ h => exact .inl (hcalm h hmem)
  | @opened call hcall settings hnew =>
      simp only [createSession, hnew] at hmem
      have hperm := (Hub.insertSession_perm (Session.start call.service settings : Session κ)
        p.hub.sessions).map Session.handle
      rcases List.mem_cons.mp (hperm.mem_iff.mp hmem) with rfl | hmem
      · exact .inr (by rw [hcall]; rfl)
      · exact .inl hmem
  | closed hcall hopen =>
      refine .inl ?_
      rw [accept, complete, Hub.handles, removeSession_sessions hopen] at hmem
      exact (List.filter_sublist.map Session.handle).subset hmem
  | queued _ h _ now timeout sources hadd =>
      refine .inl (hcalm h ?_)
      rw [addRequest] at hadd
      split at hadd
      · cases hadd
      · cases hadd
        have hthere := hwoken _ _ hmem
        exact hthere
  | calledOff =>
      have hthere := hwoken _ _ hmem
      exact .inl hthere

/-- A call for a session that is gone is refused, and has no effect at all. -/
theorem enter_gone (h : p.hub.Gone handle) (now : Instant) {entry : Entry}
    (hhandle : entry.handle? = some handle) (hopens : entry.opens handle = false) :
    p.enter b now entry = (.invalidHService, p) := by
  have hnone := h.session?
  cases entry with
  | openSession call logicalName traceLevel =>
      cases hhandle
      exact absurd (beq_self_eq_true call.service) (Bool.eq_false_iff.mp hopens)
  | closeSession call =>
      cases hhandle
      simp only [enter, closeSession, removeSession, hnone]
      rfl
  | lock | unlock | register | deregister | getInfo | execute | executeRaw =>
      cases hhandle
      simp only [enter, lock, unlock, register, deregister, getInfo, execute, executeRaw, hnone]
  | cancelAsync handle' request =>
      cases hhandle
      simp only [enter, cancelAsync.eq_def, hnone]
  | setTraceLevel handle' level =>
      cases hhandle
      simp only [enter, setTraceLevel, hnone]
  | unload | reload => cases hhandle

/-- Requests are ended, and a wait that was meant for them is called off. -/
theorem settle_log (b : Backend σ κ ε) (s : Settled) (p : Provider σ κ ε) :
    (p.settle b s).hub.world.log = p.hub.world.log ++ s.posts.map .post ++
      (if s.count = 0 then []
        else (b.cancel p.watcher.isWaiting p.hub.world.hardware).notes).map .call := by
  simp only [settle, wakeIf, bne_iff_ne, ne_eq, ite_not]
  split
  · exact (List.append_nil _).symm
  · rfl

/-- The closing of a session, from the first to the last that shows of it: its
    requests are called off in their order, then a wait that was meant for them,
    the card is given up, and the call is completed. -/
theorem closeSession_log (h : p.hub.pending.Consistent) {call : Call} {session : Session κ}
    (hopen : p.hub.session? call.service = some session) :
    let ended := p.hub.pending.live.filter (·.key.service == call.service)
    ∃ woken given : List ε,
      (p.closeSession b call).2.hub.world.log = p.hub.world.log ++
        ended.map (fun r => .post ⟨r.window, r.completion .canceled .none⟩) ++
        (woken ++ given).map .call ++
        [.post ⟨call.window, Message.completion .closeComplete call.key 0 .success .none⟩] ∧
      (woken = if ended = [] then []
        else (b.cancel p.watcher.isWaiting p.hub.world.hardware).notes) ∧
      ∃ hardware, given = session.card.elim [] fun card => (b.release card hardware).notes := by
  intro ended
  have hends := RequestQueue.cancelService_ends h call.service
  have hposts : (p.hub.pending.cancelService call.service).posts =
      ended.map fun r => ⟨r.window, r.completion .canceled .none⟩ := by
    rw [hends.posts, ← List.flatMap_pure_eq_map]
    rfl
  have hcount : (p.hub.pending.cancelService call.service).count = 0 ↔ ended = [] := by
    rw [hends.count]
    exact List.length_eq_zero_iff
  let closed : Hub σ κ ε :=
    { p.hub with sessions := p.hub.sessions.filter (·.handle != call.service) }
  let settled := settle b (p.hub.pending.cancelService call.service) { p with hub := closed }
  have hsettled := settle_log b (p.hub.pending.cancelService call.service) { p with hub := closed }
  simp only [hposts, hcount, List.map_map] at hsettled
  -- The session that is given back still has its card, which it gives up last.
  have hgiven := session.disconnect_log b settled.hub.world
  have hclosed : (p.closeSession b call).2.hub.world.log =
      (session.disconnect b settled.hub.world).2.log ++
        [.post ⟨call.window, Message.completion .closeComplete call.key 0 .success .none⟩] := by
    simp only [closeSession, removeSession, hopen]
    rfl
  refine ⟨_, _, ?_, rfl, settled.hub.world.hardware, rfl⟩
  rw [hclosed, hgiven, hsettled, List.map_append]
  simp only [List.append_assoc]
  rfl

/-- After its closing a session is not in the table any more. -/
theorem closeSession_gone (h : p.hub.Sound) {call : Call}
    (hsuccess : (p.closeSession b call).1 = .success) :
    (p.closeSession b call).2.hub.Gone call.service ∧
      ∃ session, p.hub.session? call.service = some session := by
  have hsound := ((enter_course b 0 (.closeSession call) p).keeps h).sound
  rw [enter] at hsound
  rcases hopen : p.hub.session? call.service with _ | session
  · simp only [closeSession, removeSession, hopen] at hsuccess
    cases hsuccess
  · refine ⟨⟨hsound, ?_⟩, session, rfl⟩
    have hsessions : (p.closeSession b call).2.hub.sessions =
        p.hub.sessions.filter (·.handle != call.service) := by
      rw [← removeSession_sessions (b := b) hopen]
      simp only [closeSession, removeSession, hopen]
      rfl
    rw [Hub.handles, hsessions]
    intro hmem
    rcases List.mem_map.mp hmem with ⟨other, hother, hhandle⟩
    exact bne_iff_ne.mp (List.mem_filter.mp hother).2 hhandle

/-- As long as nobody opens it again a session stays gone, and nothing is posted
    in its name. -/
theorem meet_gone (h : p.hub.Gone handle) {event : Event σ} (hopens : event.opens handle = false) :
    (p.meet b event).2.hub.Gone handle ∧
      p.hub.world.Adds (LogEntry.Spares handle) (p.meet b event).2.hub.world := by
  have hsound := (p.meet_keeps b event h.sound).sound
  -- A client that calls for the session is refused, so whoever posts is another one.
  by_cases hcalled : event.handle? = some handle
  · cases event with
    | enter now entry =>
        have hrefused := enter_gone (b := b) h now hcalled hopens
        simp only [meet, hrefused]
        exact ⟨h, World.Adds.refl p.hub.world⟩
    | watch | tick | happen | stop => cases hcalled
  · refine ⟨⟨hsound, fun hmem => h.absent ?_⟩, meet_adds (fun _ => trivial) h.sound event
      (fun _ hpost (hservice : _ = handle) => h.absent (hservice ▸ hpost))
      fun _ hpost (hservice : _ = handle) => hcalled (hservice ▸ hpost)⟩
    cases event with
    | enter now entry =>
        refine ((enter_course b now entry p).mem_handles hmem).resolve_right fun hcall => hcalled ?_
        cases entry with
        | openSession | closeSession | lock | unlock | register | deregister | getInfo | execute
        | executeRaw => exact hcall
        | cancelAsync | setTraceLevel | unload | reload => cases hcall
    | watch now =>
        exact (watch_adds (Q := fun _ => True) (fun _ => trivial) h.sound (fun _ _ => trivial)
          now).2 ▸ hmem
    | tick | happen | stop => exact hmem

theorem run_gone (h : p.hub.Gone handle) {events : List (Event σ)}
    (hopens : ∀ event ∈ events, event.opens handle = false) :
    (p.run b events).2.hub.Gone handle ∧
      p.hub.world.Adds (LogEntry.Spares handle) (p.run b events).2.hub.world := by
  induction events generalizing p with
  | nil => exact ⟨h, World.Adds.refl p.hub.world⟩
  | cons event events ih =>
      rcases meet_gone (b := b) h (hopens event List.mem_cons_self) with ⟨hmet, hfirst⟩
      rcases ih hmet fun other hother => hopens other (List.mem_cons_of_mem _ hother) with
        ⟨hrun, hrest⟩
      exact ⟨hrun, hfirst.trans hrest⟩

/-- A run posts after what was posted before. -/
theorem run_posts (h : p.hub.Sound) (events : List (Event σ)) :
    ∃ more, (p.run b events).2.hub.world.posts = p.hub.world.posts ++ more := by
  have hadds : p.hub.world.Adds (fun _ => True) (p.run b events).2.hub.world := by
    induction events generalizing p with
    | nil => exact World.Adds.refl p.hub.world
    | cons event events ih =>
        have hfirst := meet_adds (Q := fun _ => True) (b := b) (fun _ => trivial) h event
          (fun _ _ => trivial) fun _ _ => trivial
        exact hfirst.trans (ih (p.meet_keeps b event h).sound)
  rcases hadds.posts with ⟨more, hmore, -⟩
  exact ⟨more, hmore⟩

/-- From a moment on at which no request of a session waits, what is completed in
    its name was accepted after that moment. -/
theorem run_reopened (h : p.hub.Gone handle) (events : List (Event σ)) {call : Call}
    (hcall : call.service = handle) :
    let (history, p') := p.run b events
    ∃ more, p'.hub.world.posts = p.hub.world.posts ++ more ∧
      call.completions more + call.waiting p'.hub.pending.live = history.accepted call := by
  have hbalance := (p.run_keeps b events h.sound).balance call
  rcases run_posts (b := b) h.sound events with ⟨more, hmore⟩
  refine ⟨more, hmore, ?_⟩
  have hnone : call.waiting p.hub.pending.live = 0 := by
    rw [Call.waiting, List.countP_eq_zero]
    intro r hr hbelongs
    have hother := h.unserved hr
    simp only [PendingRequest.isOf, Bool.and_eq_true, beq_iff_eq] at hbelongs
    exact hother ((congrArg RequestKey.service hbelongs.2).trans hcall)
  rw [Hub.balance, Hub.balance, hmore, call.completions_append, hnone] at hbalance
  omega

/-- Closing ends a session completely. After any run, if the closing of a session
    is accepted: the session is given back without connection and lock. In the log
    its requests come first, each called off once, in the order of their slots,
    that is by deadline and then by arrival; a wait is called off if there were
    any, the card is given up if there was one, and the completion of the closing
    comes last. Whatever happens after that, as long as nobody opens the handle
    again no request waits under it, nothing is posted in its name, and a call for
    it is refused and leaves everything as it was, hardware included. Even if it is
    opened again, what is then completed under it was accepted after the
    closing. -/
theorem closed_for_good (b : Backend σ κ ε) (hardware : σ) (config : Config)
    (before : List (Event σ)) (call : Call)
    (hsuccess : (((start { hardware } config : Provider σ κ ε).run b before).2.closeSession b
      call).1 = .success) :
    let p := ((start { hardware } config : Provider σ κ ε).run b before).2
    let p' := (p.closeSession b call).2
    let ended := p.hub.pending.live.filter (·.key.service == call.service)
    (∃ session, p.hub.session? call.service = some session ∧
      (p.removeSession b call.service).1 = .ok { session with card := none, locked := false } ∧
      ∃ woken given : List ε,
        p'.hub.world.log = p.hub.world.log ++
          ended.map (fun r => .post ⟨r.window, r.completion .canceled .none⟩) ++
          (woken ++ given).map .call ++
          [.post ⟨call.window, Message.completion .closeComplete call.key 0 .success .none⟩] ∧
        (woken = if ended = [] then []
          else (b.cancel p.watcher.isWaiting p.hub.world.hardware).notes) ∧
        ∃ hardware, given = session.card.elim [] fun card => (b.release card hardware).notes) ∧
      (p.hub.pending.byDeadline.Pairwise (fun entry later => entry.1.before later.1 = true) ∧
        ended.map (fun r => (r.deadline, r.key)) =
          (p.hub.pending.byDeadline.filter fun entry => entry.2.service == call.service).map
            fun entry => (entry.1.deadline, entry.2)) ∧
      (∀ after : List (Event σ), (∀ event ∈ after, event.opens call.service = false) →
        let q := (p'.run b after).2
        (∀ r ∈ q.hub.pending.live, r.key.service ≠ call.service) ∧
          p'.hub.world.Adds (LogEntry.Spares call.service) q.hub.world ∧
          ∀ now entry, entry.handle? = some call.service → entry.opens call.service = false →
            q.enter b now entry = (.invalidHService, q)) ∧
      ∀ (after : List (Event σ)) (other : Call), other.service = call.service →
        let (history, q) := p'.run b after
        ∃ more, q.hub.world.posts = p'.hub.world.posts ++ more ∧
          other.completions more + other.waiting q.hub.pending.live = history.accepted other := by
  intro p p' ended
  have hsound : p.hub.Sound := run_sound b hardware config before
  rcases closeSession_gone hsound hsuccess with ⟨hgone, session, hopen⟩
  refine ⟨⟨session, hopen, ?_, closeSession_log hsound.consistent hopen⟩,
    ⟨hsound.consistent.agree.ascending,
      hsound.consistent.live_slots fun key => key.service == call.service⟩,
    fun after hafter => ?_, fun after other hother => run_reopened hgone after hother⟩
  · simp only [removeSession, hopen]
    rfl
  · rcases run_gone (b := b) hgone hafter with ⟨hrun, hadds⟩
    exact ⟨fun r hr => hrun.unserved hr, hadds, fun now entry hhandle hopens =>
      enter_gone hrun now hhandle hopens⟩

end Provider

namespace Simulation

/-- A session is opened and two reads wait for a card, the second one due first. -/
def twoReads : List (Event Hall) :=
  [.enter 0 (.openSession ⟨1, 1, 1⟩ "L" 0),
   .enter 0 (.execute ⟨1, 1, 2⟩ (some 5) (.readRawData 8#16)),
   .enter 0 (.execute ⟨1, 1, 3⟩ (some 3) (.readRawData 8#16))]

/-- Both are called off when the session is closed, and it stays silent. -/
theorem closed_for_good_twoReads :
    let p := ((Provider.start { hardware := oneReader } (configuredTo "A")).run backend twoReads).2
    let p' := (p.closeSession backend ⟨1, 1, 4⟩).2
    (p.closeSession backend ⟨1, 1, 4⟩).1 = .success ∧
      p.hub.pending.live.map PendingRequest.key = [⟨1, 3⟩, ⟨1, 2⟩] ∧
      ∀ after : List (Event Hall), (∀ event ∈ after, event.opens 1 = false) →
        p'.hub.world.Adds (LogEntry.Spares 1) (p'.run backend after).2.hub.world := by
  have hclosed := Provider.closed_for_good backend oneReader (configuredTo "A") twoReads ⟨1, 1, 4⟩
    (by decide)
  exact ⟨by decide, by decide, fun after hafter => (hclosed.2.2.1 after hafter).2.1⟩

end Simulation

end CardHost
