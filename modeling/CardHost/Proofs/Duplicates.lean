import CardHost.Proofs.Handovers
import CardHost.Proofs.Scenes

/-!
# A Read Under an Id That Is Pending

An id is in use as long as a request waits under it, and a request cannot be
queued under one that is. But a read is attempted before it is queued, and the
attempt knows nothing of ids. So the id decides only about a read that finds no
card: that one is refused. A read that finds a card, or fails for another reason,
is completed under the id although an earlier one still waits under it.

The attempt is not undone either. If it finds that the card of an open connection
is gone, the connection is given up, and the lock with it, whether or not the read
is refused in the end. For a session without a connection this makes no
difference: there is no lock without one. That is an invariant of all sessions in
a run, `move_anchored`, and since a run of events is a run of moves it holds there
too.

## Main definitions

* `Entry.reads?`: The read that an entry point is called for.
* `Hub.Anchored`: No session has a lock without a connection, or a connection
  without a reader.
* `Session.bereft`: A session after it found no card.

## Theorems

* `run_staged`: A run of events is a run of moves.
* `move_anchored`, `run_anchored`: One move; a run of events.
* `read_absent`: What is left of a session that finds no card.
* `readRawData_pending`: A read under an id that is pending.
* `duplicate_read`: The same of every call for one, after any run.
* `Simulation.completed_twice`: One that is completed.
-/

namespace CardHost

variable {σ κ ε : Type}

/-- The read that an entry point is called for, if it is. -/
def Entry.reads? : Entry → Option (Call × DataSources)
  | execute call _ (.readRawData sources) => some (call, sources)
  | executeRaw call _ code data =>
    match Command.decode code data with
    | .ok (.readRawData sources) => some (call, sources)
    | _ => none
  | _ => none

/-- No session has a lock without a connection, or a connection without a
    reader. -/
def Hub.Anchored (hub : Hub σ κ ε) : Prop :=
  ∀ handle s, hub.session? handle = some s → s.Anchored

namespace Stage

variable {b : Backend σ κ ε} {st : Stage σ κ ε}

/-- Whatever happens to it, a session keeps its lock and its connection
    together. -/
theorem move_anchored (h : st.Plain) (hanchored : st.provider.hub.Anchored) (move : Move σ) :
    (st.move b move).provider.hub.Anchored := by
  intro handle s' hs'
  rcases hhanding : st.handing move with _ | ⟨state, kind⟩
  · rcases (move_minds b h.duties hhanding).attends.session handle s' hs' with
      ⟨-, settings, rfl⟩ | ⟨s, hs, rfl | ⟨operation, w, -, rfl⟩⟩
    · exact Session.start_anchored handle settings
    · exact hanchored handle _ hs
    · exact Session.perform_anchored (hanchored handle s hs) operation
  · -- A report is an operation too, done with whoever was there before.
    rcases open_of_handing hhanding h.duties hs' with ⟨s, hopen⟩
    rw [Hub.session?, (move_informed (b := b) hhanding h.duties).1, ← Hub.session?] at hs'
    cases kind with
    | deviceList =>
        rw [Hub.informed, Hub.notifySessions_deviceList] at hs'
        exact hanchored handle s' hs'
    | card =>
        rcases Hub.informed_seen b h.ascending hopen state with ⟨w, -, hthere, -⟩
        cases hthere.symm.trans hs'
        exact Session.perform_anchored (hanchored handle s hopen) (.notify state .card)

theorem run_anchored (h : st.Plain) (hanchored : st.provider.hub.Anchored)
    (moves : List (Move σ)) : (st.run b moves).provider.hub.Anchored := by
  induction moves generalizing st with
  | nil => exact hanchored
  | cons move moves ih => exact ih (move_plain h move) (move_anchored h hanchored move)

theorem run_work (n : Nat) (st : Stage σ κ ε) :
    st.run b (List.replicate n .work) = (work b)^[n] st := by
  induction n generalizing st with
  | zero => rfl
  | succ n ih =>
      rw [List.replicate_succ, Function.iterate_succ_apply, ← ih]
      rfl

end Stage

namespace Provider

variable {b : Backend σ κ ε} {p : Provider σ κ ε}

/-- An event is a move with all that it leaves to do. -/
theorem meet_staged (event : Event σ) (st : Stage σ κ ε) (hduties : st.duties = []) :
    ∃ moves begun, st.run b moves = ⟨(st.provider.meet b event).2, [], begun⟩ := by
  rcases st with ⟨p, duties, begun⟩
  cases hduties
  cases event with
  | enter now entry =>
      rcases Stage.enter_worked b now entry ⟨p, [], begun⟩ with ⟨n, hn⟩
      refine ⟨.enter now entry :: List.replicate n .work, begun, ?_⟩
      exact (Stage.run_work n _).trans hn
  | watch now =>
      rcases Stage.watch_worked b now ⟨p, [], begun⟩ with ⟨n, hn⟩
      refine ⟨.watch now :: List.replicate n .work,
        (Stage.watch b now ⟨p, [], begun⟩).begun, ?_⟩
      exact (Stage.run_work n _).trans hn
  | tick now => exact ⟨[.tick now], begun, rfl⟩
  | happen hardware => exact ⟨[.happen hardware], begun, rfl⟩
  | stop => exact ⟨[.stop], begun, rfl⟩

/-- So a run of events is a run of moves in which no call comes from inside
    another. -/
theorem run_staged (events : List (Event σ)) (st : Stage σ κ ε) (hduties : st.duties = []) :
    ∃ moves begun, st.run b moves = ⟨(st.provider.run b events).2, [], begun⟩ := by
  induction events generalizing st with
  | nil =>
      rcases st with ⟨p, duties, begun⟩
      cases hduties
      exact ⟨[], begun, rfl⟩
  | cons event events ih =>
      rcases meet_staged (b := b) event st hduties with ⟨moves, begun, hmet⟩
      rcases ih ⟨(st.provider.meet b event).2, [], begun⟩ rfl with ⟨rest, begun', hrest⟩
      refine ⟨moves ++ rest, begun', ?_⟩
      rw [Stage.run, List.foldl_append]
      exact (congrArg (Stage.run b rest) hmet).trans hrest

/-- In a run every session keeps its lock and its connection together. -/
theorem run_anchored (b : Backend σ κ ε) (hardware : σ) (config : Config)
    (events : List (Event σ)) :
    ((start { hardware } config : Provider σ κ ε).run b events).2.hub.Anchored := by
  rcases run_staged (b := b) events (Stage.start hardware config) rfl with ⟨moves, begun, hrun⟩
  have hanchored := Stage.run_anchored (b := b) (Stage.start_plain hardware config)
    (fun _ _ h => by cases h) moves
  rw [hrun] at hanchored
  exact hanchored

end Provider

namespace Session

variable {b : Backend σ κ ε} {s : Session κ} {w : World σ ε} {sources : DataSources}

/-- A session after it found no card: a connection is given up, and the lock with
    it, and a session without one is left as it was. -/
def bereft (s : Session κ) : Session κ :=
  if s.card.isSome then { s with card := none, locked := false } else s

/-- That is what is left of it after a read. -/
theorem read_absent (h : s.Anchored) {e : CardError}
    (hfound : (s.look b w.hardware).1 = .error e) (habsence : e.isAbsence = true) :
    (s.read b sources w).2.1 = s.bereft := by
  have hread := (s.read_spec (b := b) sources w).1
  have hdrops := (e.result_of_isAbsence habsence).2
  rw [hfound] at hread
  have houtcome := withCard_outcome b (fun card => World.call (b.status card)) s w
  simp only [read] at hread ⊢
  generalize s.withCard b (fun card => World.call (b.status card)) w = r at houtcome hread ⊢
  rcases r with ⟨answer, s', w'⟩
  cases houtcome with
  | refused hcard => rw [bereft, hcard, Option.isSome_none, if_neg Bool.false_ne_true]
  | served => cases hread
  | failed _ _ hkept =>
      cases hread
      cases hdrops.symm.trans hkept
  | dropped =>
      rcases hcard : s.card with _ | card
      · -- The connection was made for this read, and there was no lock without one.
        have hlocked : s.locked = false := Bool.eq_false_iff.mpr fun hlocked => by
          have hsome := h.locked hlocked
          rw [hcard] at hsome
          cases hsome
        rw [bereft, hcard, Option.isSome_none, if_neg Bool.false_ne_true, ← hcard, ← hlocked]
      · rw [bereft, hcard, Option.isSome_some, if_pos rfl]

theorem read_posts (sources : DataSources) (s : Session κ) (w : World σ ε) :
    (s.read b sources w).2.2.posts = w.posts :=
  withCard_posts (fun card => World.posts_call (b.status card)) s w

end Session

namespace Provider

variable {b : Backend σ κ ε} {p : Provider σ κ ε} {call : Call} {session : Session κ}
  {sources : DataSources}

theorem enqueue_refused (hkey : p.hub.pending.contains call.key = true) (now : Instant)
    (timeout : Option Duration) :
    p.enqueue b call now timeout sources = (.invalidReqId, p) := by
  rw [enqueue, addRequest, RequestQueue.add_pending hkey]
  rfl

/-- An attempt to read posts nothing and queues nothing. -/
theorem readNow_silent (sources : DataSources) (session : Session κ) (p : Provider σ κ ε) :
    (p.readNow b sources session).2.hub.pending = p.hub.pending ∧
      (p.readNow b sources session).2.hub.world.posts = p.hub.world.posts := by
  by_cases hbound : session.binding.isBound = true
  · rw [readNow_snd sources hbound]
    exact ⟨rfl, Session.read_posts sources session p.hub.world⟩
  · rw [readNow, if_neg hbound]
    exact ⟨rfl, rfl⟩

/-- It comes to what the session finds; without a reader that is no card. -/
theorem readNow_found (h : session.Anchored) (sources : DataSources) (p : Provider σ κ ε) :
    (p.readNow b sources session).1 =
      Attempt.ofFound sources (session.look b p.hub.world.hardware).1 := by
  by_cases hbound : session.binding.isBound = true
  · exact readNow_fst sources hbound
  · have hcard : session.card = none :=
      Option.not_isSome_iff_eq_none.mp fun hcard => hbound (h.bound hcard)
    have hreader : session.binding.reader = none :=
      Option.not_isSome_iff_eq_none.mp hbound
    rw [readNow, if_neg hbound]
    simp only [Session.look, hcard, hreader]
    rfl

/-- If it finds no card, that is what is left of the session. -/
theorem readNow_bereft (h : session.Anchored)
    (hopen : p.hub.session? call.service = some session)
    (hnone : Attempt.ofFound sources (session.look b p.hub.world.hardware).1 = .noCard) :
    (p.readNow b sources session).2.hub.session? call.service = some session.bereft := by
  rcases hfound : (session.look b p.hub.world.hardware).1 with e | status
  · have habsence : e.isAbsence = true := by
      by_contra hnot
      rw [hfound, Attempt.ofFound, if_neg hnot] at hnone
      cases hnone
    by_cases hbound : session.binding.isBound = true
    · have hhandle := (session.read_discreet (b := b) sources p.hub.world).handle.trans
        (Hub.mem_handles_of_session? hopen).2
      have hthere : Hub.session? { p.hub with
          world := (session.read b sources p.hub.world).2.2 } call.service = some session := hopen
      rw [readNow_snd sources hbound]
      refine (Hub.session?_replace hthere hhandle).trans (congrArg some ?_)
      exact Session.read_absent h hfound habsence
    · -- Without a reader there is no connection, and nothing is attempted.
      have hcard : session.card.isSome = false :=
        Bool.eq_false_iff.mpr fun hcard => hbound (h.bound hcard)
      rw [readNow, if_neg hbound, Session.bereft, hcard, if_neg Bool.false_ne_true]
      exact hopen
  · rw [hfound] at hnone
    cases hnone

/-- A read under an id that is pending is refused if it finds no card, and
    completed if it does not come to that. The request that is pending stays. -/
theorem readRawData_pending (h : session.Anchored)
    (hopen : p.hub.session? call.service = some session) (hsources : sources ≠ 0#16)
    (hkey : p.hub.pending.contains call.key = true) (now : Instant) (timeout : Option Duration) :
    let (code, p') := p.readRawData b call now timeout sources session
    p'.hub.pending = p.hub.pending ∧
      match Attempt.ofFound sources (session.look b p.hub.world.hardware).1 with
      | .noCard => code = .invalidReqId ∧ p'.hub.world.posts = p.hub.world.posts ∧
          p'.hub.session? call.service = some session.bereft
      | .ended result payload => code = .success ∧ p'.hub.world.posts = p.hub.world.posts ++
          [⟨call.window, Message.completion .executeComplete call.key
            CommandCode.readRawData.number result payload⟩] := by
  have hfound := readNow_found (b := b) h sources p
  have hbereft : Attempt.ofFound sources (session.look b p.hub.world.hardware).1 = .noCard →
      (p.readNow b sources session).2.hub.session? call.service = some session.bereft :=
    readNow_bereft h hopen
  rcases readNow_silent (b := b) sources session p with ⟨hpending, hposts⟩
  simp only [readRawData, if_neg hsources]
  rcases hattempt : p.readNow b sources session with ⟨⟨result, payload⟩ | _, p'⟩
  · rw [hattempt] at hfound hpending hposts
    rw [← hfound]
    exact ⟨hpending, rfl, (World.posts_post _ _).trans (congrArg (· ++ _) hposts)⟩
  · rw [hattempt] at hfound hpending hposts hbereft
    have hused : p'.hub.pending.contains call.key = true := hpending ▸ hkey
    rw [← hfound]
    dsimp only
    rw [enqueue_refused hused]
    exact ⟨hpending, rfl, hposts, hbereft hfound.symm⟩

/-- Calls for a read come to a read on the session, if it is open. -/
theorem enter_reads (hopen : p.hub.session? call.service = some session) {entry : Entry}
    (hreads : entry.reads? = some (call, sources)) (now : Instant) :
    ∃ timeout, p.enter b now entry = p.readRawData b call now timeout sources session := by
  have hexecute : ∀ timeout, p.execute b call now timeout (.readRawData sources) =
      p.readRawData b call now timeout sources session := by
    intro timeout
    simp only [execute, hopen]
  cases entry with
  | execute call' timeout command =>
      cases command with
      | readRawData sources' =>
          cases hreads
          exact ⟨timeout, hexecute timeout⟩
      | chipIo | chipPower | reset | ejectCard | unsupported | unknown => cases hreads
  | executeRaw call' timeout code data =>
      rw [Entry.reads?] at hreads
      split at hreads
      · next sources' hdecode =>
          cases hreads
          refine ⟨timeout, ?_⟩
          simp only [enter, executeRaw, hopen, hdecode]
          exact hexecute timeout
      · cases hreads
  | openSession | closeSession | lock | unlock | register | deregister | getInfo | cancelAsync
  | setTraceLevel | unload | reload => cases hreads

/-- What comes of a read under an id that is pending. After any run the session is
    open, and the pending requests stay what they are. If the session finds no card
    the read is refused without a message; a connection that it had is given up
    with the lock, and a session without one is left as it was. If it finds a card,
    or fails for any other reason, the read is accepted and completed under the id
    that is still pending. -/
theorem duplicate_read (b : Backend σ κ ε) (hardware : σ) (config : Config)
    (events : List (Event σ)) (now : Instant) (entry : Entry) (call : Call)
    (sources : DataSources) (hreads : entry.reads? = some (call, sources))
    (hsources : sources ≠ 0#16)
    (hkey : ((start { hardware } config : Provider σ κ ε).run b events).2.hub.pending.contains
      call.key = true) :
    let p := ((start { hardware } config : Provider σ κ ε).run b events).2
    let (code, p') := p.enter b now entry
    ∃ session, p.hub.session? call.service = some session ∧
      p'.hub.pending = p.hub.pending ∧
        match Attempt.ofFound sources (session.look b p.hub.world.hardware).1 with
        | .noCard => code = .invalidReqId ∧ p'.hub.world.posts = p.hub.world.posts ∧
            p'.hub.session? call.service = some session.bereft
        | .ended result payload => code = .success ∧ p'.hub.world.posts = p.hub.world.posts ++
            [⟨call.window, Message.completion .executeComplete call.key
              CommandCode.readRawData.number result payload⟩] := by
  intro p
  have hsound : p.hub.Sound := run_sound b hardware config events
  -- Whoever waits belongs to an open session, so the session is there.
  rcases (hsound.consistent.contains_iff call.key).mp hkey with ⟨r, hr, hsame⟩
  have hmem : call.service ∈ p.hub.handles := by
    have howned := (hsound.owned r hr).2
    rwa [hsame] at howned
  rcases hopen : p.hub.session? call.service with _ | session
  · rcases List.mem_map.mp hmem with ⟨other, hother, hhandle⟩
    exact absurd (beq_iff_eq.mpr hhandle) (List.find?_eq_none.mp hopen other hother)
  · have hanchored := run_anchored b hardware config events call.service session hopen
    rcases enter_reads (b := b) hopen hreads now with ⟨timeout, henter⟩
    have hpending := readRawData_pending (b := b) hanchored hopen hsources hkey now timeout
    rw [← henter] at hpending
    exact ⟨session, rfl, hpending⟩

end Provider

namespace Simulation

/-- A read is made to wait. -/
def waitingRead : List (Event Hall) :=
  [.enter 0 (.openSession ⟨1, 1, 1⟩ "L" 0),
   .enter 0 (.execute ⟨1, 1, 2⟩ none (.readRawData 8#16))]

/-- As long as there is no card, another one under its id is refused. -/
theorem duplicate_read_waiting :
    let p := ((Provider.start { hardware := oneReader } (configuredTo "A")).run backend
      waitingRead).2
    let (code, p') := p.enter backend 0 (.execute ⟨1, 1, 2⟩ none (.readRawData 8#16))
    p.hub.pending.contains ⟨1, 2⟩ = true ∧ code = .invalidReqId ∧
      p'.hub.pending = p.hub.pending ∧ p'.hub.world.posts = p.hub.world.posts := by
  rcases Provider.duplicate_read backend oneReader (configuredTo "A") waitingRead 0
    (.execute ⟨1, 1, 2⟩ none (.readRawData 8#16)) ⟨1, 1, 2⟩ 8#16 rfl (by decide) (by decide)
    with ⟨session, hopen, hpending, hrefused⟩
  cases hopen
  exact ⟨by decide, hrefused.1, hpending, hrefused.2.1⟩

/-- Once there is a card, another one under its id is completed, and the first
    waits on. -/
theorem completed_twice :
    let p := ((Provider.start { hardware := oneReader } (configuredTo "A")).run backend
      (waitingRead ++ [.happen (oneReader.happen (.insert "A" [0x3b, 0x01] none 0#32))])).2
    let (code, p') := p.enter backend 0 (.execute ⟨1, 1, 2⟩ none (.readRawData 8#16))
    p.hub.pending.contains ⟨1, 2⟩ = true ∧ code = .success ∧
      p'.hub.world.posts = p.hub.world.posts ++ [⟨1, Message.completion .executeComplete ⟨1, 2⟩ 207
        .success (.cardData (CardData.read 8#16 [0x3b, 0x01]))⟩] ∧
      p'.hub.pending.contains ⟨1, 2⟩ = true := by
  decide

end Simulation

end CardHost
