import CardHost.Proofs.Sightings
import CardHost.Proofs.Waiters

/-!
# Moves That Hand On a Report

In a run with calls from inside completions, a report reaches the sessions when
it is told, and nothing that is left to do besides has anything to say about a
reader. So there are two kinds of moves. Those that hand a report to all
sessions do nothing else that a session could see, and in all others no session
is handed anything. What becomes of one session is then told by two lemmas:
`move_seen` if the report is of its reader, and `move_unseen` if there is none.

## Main definitions

* `Mute`: Messages that report nothing that was seen.
* `Stage.handing`: The report that a move hands to the sessions.
* `Stage.Minds`: A move in which no session is handed a report.
* `Stage.Plain`: No duty has anything to say about a reader.

## Theorems

* `enter_minds`, `work_minds`, `watch_minds`: The moves of clients, of the
  duties and of the watcher.
* `move_minds`, `move_informed`: A move that hands on no report, and one that does.
* `move_plain`, `run_plain`: One move; a run of them.
* `move_seen`, `move_unseen`: What becomes of one session in a move.
* `move_observed`: What it goes by after a report of its reader.
* `handing_of_told`, `doing_of_handing`: To tell of a change is to hand it on.
-/

namespace CardHost

variable {σ κ ε : Type}

/-- A report is of a reader, unless it is of the list of readers. -/
theorem Snapshot.kind_eq_card_iff {s : Snapshot} : s.kind = .card ↔ s.name ≠ listName := by
  rw [kind, isReaderList, ← beq_eq_false_iff_ne]
  cases s.name == listName with
  | true => exact ⟨nofun, nofun⟩
  | false => exact ⟨fun _ => rfl, fun _ => rfl⟩

/-- Messages that report nothing that was seen. -/
def Mute (posts : List Post) : Prop :=
  ∀ post ∈ posts, ∀ id : EventId, id.isSighting = true → post.message.isEvent id = false

/-- The messages that end requests are of that kind. -/
theorem RequestQueue.settle_mute {finish : PendingRequest → List Message}
    (h : ∀ r, ∀ message ∈ finish r, ∀ id : EventId, id.isSighting = true →
      message.isEvent id = false)
    (taken : List PendingRequest × RequestQueue) : Mute (settle finish taken).posts := by
  intro post hpost id hid
  rcases List.mem_flatMap.mp hpost with ⟨r, -, hr⟩
  rcases List.mem_map.mp hr with ⟨message, hmessage, rfl⟩
  exact h r message hmessage id hid

namespace PendingRequest

theorem canceled_mute (r : PendingRequest) : ∀ message ∈ r.canceled, ∀ id : EventId,
    id.isSighting = true → message.isEvent id = false := by
  intro message hmessage id _
  rw [List.mem_singleton.mp hmessage]
  exact Message.isEvent_completion rfl _ _ _ _ id

theorem expired_mute (r : PendingRequest) : ∀ message ∈ r.expired, ∀ id : EventId,
    id.isSighting = true → message.isEvent id = false := by
  intro message hmessage id _
  rw [List.mem_singleton.mp hmessage]
  exact Message.isEvent_completion rfl _ _ _ _ id

theorem served_mute (atr : Bytes) (r : PendingRequest) : ∀ message ∈ r.served atr,
    ∀ id : EventId, id.isSighting = true → message.isEvent id = false := by
  intro message hmessage id hid
  rcases List.mem_cons.mp hmessage with rfl | hmessage
  · exact Message.isEvent_event _ (fun heq => by rw [heq] at hid; cases hid) _
  · rw [List.mem_singleton.mp hmessage]
    exact Message.isEvent_completion rfl _ _ _ _ id

end PendingRequest

namespace Stage

variable {b : Backend σ κ ε} {st st' : Stage σ κ ε}

/-- No message that is still to be posted reports what was seen. -/
def Unseeing (duties : List (Duty κ)) : Prop := ∀ post, .post post ∈ duties → Mute [post]

/-- Only reports have anything to say about a reader, and the tables are in
    order. -/
structure Plain (st : Stage σ κ ε) : Prop where
  ascending : st.provider.hub.handles.Pairwise (· < ·)
  subscriptions : ∀ handle s, st.provider.hub.session? handle = some s →
    s.subscriptions.Ascending
  duties : Unseeing st.duties

/-- A move in which no session is handed a report. -/
structure Minds (b : Backend σ κ ε) (st st' : Stage σ κ ε) : Prop where
  attends : st.provider.hub.Attends b st'.provider.hub
  duties : Unseeing st'.duties

/-- The report that a move hands to the sessions. -/
def handing (st : Stage σ κ ε) : Move σ → Option (Snapshot × ChangeKind)
  | .work =>
    match st.duties with
    | .tell (.change s) :: _ => some (s, s.kind)
    | _ => none
  | .change state kind => some (state, kind)
  | _ => none

theorem Minds.of_same (h : Unseeing st.duties) (hduties : st'.duties = st.duties)
    (hattends : st.provider.hub.Attends b st'.provider.hub) : Minds b st st' :=
  ⟨hattends, hduties ▸ h⟩

/-- Ended requests are taken out. -/
theorem Minds.settle (h : Minds b st st') {s : Settled} (hs : Mute s.posts)
    {rest : List (Duty κ)} (hrest : Unseeing rest) : Minds b st (st'.settle s rest) := by
  refine ⟨h.attends.congr rfl fun _ _ _ => rfl, fun post hpost => ?_⟩
  rcases List.mem_append.mp hpost with hpost | hpost
  · rcases List.mem_append.mp hpost with hpost | hpost
    · rcases List.mem_map.mp hpost with ⟨post', hpost', heq⟩
      cases heq
      exact fun other hother => hs other (List.mem_singleton.mp hother ▸ hpost')
    · exact hrest post hpost
  · exact h.duties post hpost

theorem unseeing_nil : Unseeing ([] : List (Duty κ)) := fun _ hpost => nomatch hpost

theorem unseeing_wakeIf (cause : Bool) (duties : List (Duty κ)) (h : Unseeing duties) :
    Unseeing (.wakeIf cause :: duties) := by
  intro post hpost
  rcases List.mem_cons.mp hpost with heq | hpost
  · cases heq
  · exact h post hpost

theorem callOff_minds (b : Backend σ κ ε) (h : Unseeing st.duties) {s : Settled}
    (hs : Mute s.posts) : Minds b st (st.callOff s) :=
  (Minds.of_same h rfl (Hub.Attends.refl b st.provider.hub)).settle hs
    (unseeing_wakeIf _ [] unseeing_nil)

theorem remove_minds (b : Backend σ κ ε) (h : Unseeing st.duties) (handle : ServiceHandle)
    (call? : Option Call) : Minds b st (st.remove handle call?) := by
  rw [remove]
  split
  · exact Minds.of_same h rfl (Hub.Attends.refl b st.provider.hub)
  · have hclosed : Minds b st (st.act fun p =>
        { p with hub := { p.hub with sessions := p.hub.sessions.filter (·.handle != handle) } }) :=
      ⟨Hub.filter_attends b handle st.provider.hub, h⟩
    refine hclosed.settle (RequestQueue.settle_mute PendingRequest.canceled_mute _)
      (unseeing_wakeIf _ _ fun post hpost => ?_)
    cases List.mem_singleton.mp hpost

/-- A call, up to its first completion. -/
theorem enter_minds (b : Backend σ κ ε) (h : Unseeing st.duties) (now : Instant) (entry : Entry) :
    Minds b st (st.enter b now entry) := by
  have hsame := Hub.Attends.refl b st.provider.hub
  -- Most calls are done with at once, and leave the duties as they are.
  have hwhole : ∀ entry, st.enter b now entry = st.act (fun p => (p.enter b now entry).2) →
      st.provider.hub.Attends b (st.provider.enter b now entry).2.hub →
        Minds b st (st.enter b now entry) :=
    fun entry heq hattends => heq ▸ Minds.of_same h rfl hattends
  cases entry with
  | openSession call logicalName traceLevel =>
      exact hwhole _ rfl (Provider.openSession_attends call logicalName traceLevel st.provider)
  | closeSession call => exact remove_minds b h call.service (some call)
  | lock call =>
      refine hwhole _ rfl ?_
      rw [Provider.enter, Provider.lock]
      split
      · exact hsame
      · next session hopen =>
          exact Provider.complete_attends (Provider.onSession_attends hopen .lock rfl) rfl _ _ _ _
  | unlock call =>
      refine hwhole _ rfl ?_
      rw [Provider.enter, Provider.unlock]
      split
      · exact hsame
      · next session hopen =>
          exact Provider.complete_attends (Provider.onSession_attends hopen .unlock rfl) rfl _ _ _ _
  | register call classes window =>
      refine hwhole _ rfl ?_
      rw [Provider.enter, Provider.register]
      split
      · exact hsame
      · next session hopen =>
          split
          · exact hsame
          · next classes _ =>
              exact Provider.complete_attends (Hub.replace_attends (b := b) hopen
                (.register window classes) rfl) rfl _ _ _ _
  | deregister call classes window =>
      refine hwhole _ rfl ?_
      rw [Provider.enter, Provider.deregister]
      split
      · exact hsame
      · next session hopen =>
          split
          · exact hsame
          · next classes _ =>
              exact Provider.complete_attends (Hub.replace_attends (b := b) hopen
                (.deregister window classes) rfl) rfl _ _ _ _
  | getInfo call category =>
      refine hwhole _ rfl ?_
      rw [Provider.enter, Provider.getInfo]
      split
      · exact hsame
      · next session hopen =>
          split
          · exact hsame
          · exact hsame
          · exact hsame
          · exact Provider.complete_attends hsame rfl _ _ _ _
          · exact Provider.complete_attends (Provider.onSession_attends hopen .status rfl) rfl
              _ _ _ _
  | execute call timeout command =>
      exact hwhole _ rfl (Provider.execute_attends call now timeout command st.provider)
  | executeRaw call timeout code data =>
      refine hwhole _ rfl ?_
      rw [Provider.enter, Provider.executeRaw]
      split
      · exact hsame
      · split
        · exact Provider.execute_attends call now timeout _ st.provider
        · exact hsame
  | cancelAsync handle request =>
      show Minds b st (st.cancelAsync handle request)
      rw [cancelAsync.eq_def]
      split
      · exact Minds.of_same h rfl hsame
      · exact callOff_minds b h (RequestQueue.settle_mute PendingRequest.canceled_mute _)
      · exact callOff_minds b h (RequestQueue.settle_mute PendingRequest.canceled_mute _)
  | setTraceLevel handle level =>
      refine hwhole _ rfl ?_
      rw [Provider.enter, Provider.setTraceLevel]
      split
      · exact hsame
      · next session hopen =>
          exact Hub.replace_attends (b := b) hopen (.setTraceLevel level) rfl
  | unload => exact hwhole _ rfl hsame
  | reload config => exact hwhole _ rfl (Hub.reload_attends b config st.provider.hub)

/-- A duty other than to tell of a change. -/
theorem work_minds (b : Backend σ κ ε) (h : Unseeing st.duties)
    (hnone : st.handing .work = none) : Minds b st (st.work b) := by
  rcases st with ⟨p, duties, begun⟩
  have hsame := Hub.Attends.refl b p.hub
  rcases duties with _ | ⟨duty, duties⟩
  · exact Minds.of_same h rfl hsame
  · have hrest : Unseeing duties := fun post hpost => h post (List.mem_cons_of_mem _ hpost)
    cases duty with
    | post post =>
        refine ⟨hsame.congr rfl fun _ id hid => World.eventsOf_post_other ?_, hrest⟩
        exact fun other hother => h post List.mem_cons_self other hother id hid
    | wakeIf cause => exact ⟨Provider.wakeIf_attends hsame cause, hrest⟩
    | release session call? =>
        have hgiven : p.hub.Attends b { p.hub with
            world := (session.disconnect b p.hub.world).2 } :=
          Hub.Attends.of_same b rfl (Session.disconnect_posts b session p.hub.world)
        cases call? with
        | none => exact ⟨hgiven, hrest⟩
        | some call =>
            let given : Provider σ κ ε :=
              { p with hub := { p.hub with world := (session.disconnect b p.hub.world).2 } }
            have hcompleted : p.hub.Attends b
                (given.complete .closeComplete call 0 .success .none).hub :=
              Provider.complete_attends hgiven rfl call 0 .success .none
            exact ⟨hcompleted, hrest⟩
    | tell news =>
        cases news with
        | timeout now =>
            have hgone : Minds b ⟨p, .tell (.timeout now) :: duties, begun⟩ ⟨p, duties, begun⟩ :=
              ⟨hsame, hrest⟩
            exact hgone.settle (RequestQueue.settle_mute PendingRequest.expired_mute _) unseeing_nil
        | change s => cases hnone
    | go next => exact ⟨hsame, hrest⟩

/-- The watcher posts nothing, and nothing that it has to do is to post anything. -/
theorem watch_minds (b : Backend σ κ ε) (h : Unseeing st.duties) (now : Instant) :
    Minds b st (st.watch b now) := by
  have hcalled : ∀ {α : Type} (f : σ → Reply σ ε α), st.provider.hub.Attends b
      { st.provider.hub with world := (st.provider.hub.world.call f).2 } := fun f =>
    Hub.Attends.of_same b rfl (World.posts_call f st.provider.hub.world)
  have hsame := Hub.Attends.refl b st.provider.hub
  -- What it has heard is to be told, and then it goes on.
  have hmore : ∀ news : List News, ∀ next, Unseeing (news.map .tell ++ .go next :: st.duties) := by
    intro news next post hpost
    rcases List.mem_append.mp hpost with hpost | hpost
    · rcases List.mem_map.mp hpost with ⟨_, _, heq⟩
      cases heq
    · rcases List.mem_cons.mp hpost with heq | hpost
      · cases heq
      · exact h post hpost
  rcases hphase : st.provider.watcher.phase with list | ⟨epoch, set⟩ | ⟨timeout, ends, set⟩ | _ | _
  · simp only [watch, hphase, Hub.surroundings]
    split
    · next hcall =>
        cases congrArg Prod.snd hcall
        exact ⟨hcalled _, h⟩
    · next hcall =>
        cases congrArg Prod.snd hcall
        exact ⟨hcalled _, hmore [.timeout now] _⟩
  · simp only [watch, hphase]
    split <;> exact ⟨hsame, h⟩
  · simp only [watch, hphase, Hub.surroundings]
    split
    · exact ⟨hsame, h⟩
    · next hcall =>
        rcases Option.map_eq_some_iff.mp hcall with ⟨reply, -, hreply⟩
        cases congrArg Prod.snd hreply
        split
        · exact ⟨hcalled _, h⟩
        · exact ⟨hcalled _, hmore _ _⟩
  · simp only [watch, hphase]
    exact ⟨hsame, h⟩
  · simp only [watch, hphase]
    exact ⟨hsame, h⟩

/-- A move that hands the sessions no report. -/
theorem move_minds (b : Backend σ κ ε) (h : Unseeing st.duties) {move : Move σ}
    (hnone : st.handing move = none) : Minds b st (st.move b move) := by
  have hsame := Hub.Attends.refl b st.provider.hub
  have hmute := fun taken => RequestQueue.settle_mute PendingRequest.canceled_mute taken
  cases move with
  | work => exact work_minds b h hnone
  | enter now entry => exact enter_minds b h now entry
  | createSession handle settings =>
      exact ⟨Provider.createSession_attends b handle settings st.provider, h⟩
  | removeSession handle => exact remove_minds b h handle none
  | addRequest request => exact ⟨Provider.addRequest_attends hsame request, h⟩
  | cancelRequest | cancelService | cancelAll => exact callOff_minds b h (hmute _)
  | change => cases hnone
  | watch now =>
      rw [move.eq_def]
      simp only
      split
      · exact watch_minds b h now
      · exact ⟨hsame, h⟩
  | tick => exact ⟨hsame, h⟩
  | happen => exact ⟨Hub.Attends.of_same b rfl rfl, h⟩
  | stop => exact ⟨Hub.Attends.of_same b rfl (World.posts_call _ _), h⟩

/-- A move that does. -/
theorem move_informed {move : Move σ} {state : Snapshot} {kind : ChangeKind}
    (hsome : st.handing move = some (state, kind)) (h : Unseeing st.duties) :
    (st.move b move).provider.hub.sessions = (st.provider.hub.informed b state kind).sessions ∧
      (st.move b move).provider.hub.world = (st.provider.hub.informed b state kind).world ∧
      Unseeing (st.move b move).duties := by
  -- A report may serve reads, and what ends these is no sight of a reader.
  have hchanged : ∀ st' : Stage σ κ ε, Unseeing st'.duties →
      Unseeing (st'.change b state kind).duties := by
    intro st' h'
    let told := st'.act fun p => { p with hub := st'.provider.hub.informed b state kind }
    have hsame : Minds b told told := ⟨Hub.Attends.refl b _, h'⟩
    exact (hsame.settle (RequestQueue.settle_mute (PendingRequest.served_mute _) _)
      unseeing_nil).duties
  cases move with
  | work =>
      rcases st with ⟨p, duties, begun⟩
      rcases duties with _ | ⟨_ | _ | _ | ⟨now | s⟩ | next, duties⟩
      · cases hsome
      · cases hsome
      · cases hsome
      · cases hsome
      · cases hsome
      · cases hsome
        exact ⟨rfl, rfl, hchanged ⟨p, duties, begun⟩ fun post hpost =>
          h post (List.mem_cons_of_mem _ hpost)⟩
      · cases hsome
  | change state' kind' =>
      cases hsome
      exact ⟨rfl, rfl, hchanged st h⟩
  | enter | createSession | removeSession | addRequest | cancelRequest | cancelService | cancelAll
  | watch | tick | happen | stop => cases hsome

/-- A report opens no session. -/
theorem open_of_handing {move : Move σ} {state : Snapshot} {kind : ChangeKind}
    (hhanding : st.handing move = some (state, kind)) (h : Unseeing st.duties)
    {handle : ServiceHandle} {s' : Session κ}
    (hopen : (st.move b move).provider.hub.session? handle = some s') :
    ∃ s, st.provider.hub.session? handle = some s := by
  have hhandles := (Hub.informed_quiet b state kind st.provider.hub).handles
  rcases Hub.mem_handles_of_session? hopen with ⟨hmem, hhandle⟩
  rw [(move_informed (b := b) hhanding h).1] at hmem
  refine Hub.session?_of_mem_handles ?_
  rw [← hhandles]
  exact List.mem_map.mpr ⟨s', hmem, hhandle⟩

/-- Every move leaves the tables in order, and nothing to say about a reader. -/
theorem move_plain (h : st.Plain) (move : Move σ) : (st.move b move).Plain := by
  rcases hhanding : st.handing move with _ | ⟨state, kind⟩
  · have hminds := move_minds b h.duties hhanding
    refine ⟨hminds.attends.ascending h.ascending, fun handle s' hs' => ?_, hminds.duties⟩
    rcases hminds.attends.session handle s' hs' with ⟨-, settings, rfl⟩ | ⟨s, hs, htended⟩
    · exact List.Pairwise.nil
    · exact htended.ascending (h.subscriptions handle s hs)
  · rcases move_informed (b := b) hhanding h.duties with ⟨hsessions, -, hduties⟩
    have hhandles := (Hub.informed_quiet b state kind st.provider.hub).handles
    refine ⟨?_, fun handle s' hs' => ?_, hduties⟩
    · rw [Hub.handles, hsessions, ← Hub.handles, hhandles]
      exact h.ascending
    · -- Under a handle is the session that was there before, handed the report.
      rcases open_of_handing hhanding h.duties hs' with ⟨s, hopen⟩
      have hs := h.subscriptions handle s hopen
      rw [Hub.session?, hsessions, ← Hub.session?] at hs'
      cases kind with
      | deviceList =>
          rw [Hub.informed, Hub.notifySessions_deviceList] at hs'
          cases hopen.symm.trans hs'
          exact hs
      | card =>
          rcases Hub.informed_seen b h.ascending hopen state with ⟨w, -, hthere, -⟩
          cases hthere.symm.trans hs'
          exact Session.perform_ascending hs (.notify state .card)

theorem run_plain (h : st.Plain) (moves : List (Move σ)) : (st.run b moves).Plain := by
  induction moves generalizing st with
  | nil => exact h
  | cons move moves ih => exact ih (move_plain h move)

theorem start_plain (hardware : σ) (config : Config) :
    (start hardware config : Stage σ κ ε).Plain :=
  ⟨List.Pairwise.nil, fun _ _ h => (nomatch h), fun _ h => (nomatch h)⟩

/-- A move that hands on a report hands it to the session under a handle. -/
theorem move_notified (h : st.Plain) {move : Move σ} {handle : ServiceHandle} {s : Session κ}
    {state : Snapshot} (hhanding : st.handing move = some (state, .card))
    (hopen : st.provider.hub.session? handle = some s) :
    ∃ w : World σ ε, (∀ id, w.eventsOf handle id = st.provider.hub.world.eventsOf handle id) ∧
      (st.move b move).provider.hub.session? handle = some (s.notify b state .card w).1 ∧
      ∀ id, (st.move b move).provider.hub.world.eventsOf handle id =
        (s.notify b state .card w).2.eventsOf handle id := by
  rcases move_informed (b := b) hhanding h.duties with ⟨hsessions, hworld, -⟩
  rcases Hub.informed_seen b h.ascending hopen state with ⟨w, hbefore, hthere, hafter⟩
  refine ⟨w, hbefore, ?_, fun id => hworld ▸ hafter id⟩
  rw [Hub.session?, hsessions]
  exact hthere

/-- A session that is handed a report of its reader posts what it sees by it. -/
theorem move_seen (h : st.Plain) {move : Move σ} {handle : ServiceHandle} {s : Session κ}
    {state : Snapshot} (hhanding : st.handing move = some (state, .card))
    (hopen : st.provider.hub.session? handle = some s)
    (hbound : s.binding.isBoundTo state.name = true) :
    (∃ w : World σ ε, (st.move b move).provider.hub.session? handle =
        some (s.notify b state .card w).1) ∧
      ∀ id, (st.move b move).provider.hub.world.eventsOf handle id =
        st.provider.hub.world.eventsOf handle id ++ s.sighted state id := by
  rcases move_notified (b := b) h hhanding hopen with ⟨w, hbefore, hthere, hafter⟩
  refine ⟨⟨w, hthere⟩, fun id => ?_⟩
  have hsighted := s.notify_sighted (b := b) (w := w) hbound id
  rw [(Hub.mem_handles_of_session? hopen).2] at hsighted
  rw [hafter, hsighted, hbefore]

/-- A session that takes in a report of the reader it is then bound to goes by
    it. -/
theorem move_observed (h : st.Plain) {move : Move σ} {handle : ServiceHandle}
    {session : Session κ} {state : Snapshot} (hhanding : st.handing move = some (state, .card))
    (hopen : (st.move b move).provider.hub.session? handle = some session)
    (hbound : session.binding.isBoundTo state.name = true) :
    session.observed = Observed.ofReport state := by
  rcases open_of_handing (b := b) hhanding h.duties hopen with ⟨before, hbefore⟩
  rcases move_notified (b := b) h hhanding hbefore with ⟨w, -, hthere, -⟩
  cases hthere.symm.trans hopen
  rw [(before.notify_card state w).binding] at hbound
  exact Session.notify_observed b hbound w

/-- A session that is bound to a reader, and is handed no report of it, sees
    nothing and says nothing. -/
theorem move_unseen (h : st.Plain) {move : Move σ} {handle : ServiceHandle} {s s' : Session κ}
    {reader : String} (hopen : st.provider.hub.session? handle = some s)
    (hopen' : (st.move b move).provider.hub.session? handle = some s')
    (hreader : s.binding.isBoundTo reader = true)
    (hother : ∀ state, st.handing move = some (state, .card) → state.name ≠ reader) :
    s'.observed = s.observed ∧ ∀ id, id.isSighting = true →
      (st.move b move).provider.hub.world.eventsOf handle id =
        st.provider.hub.world.eventsOf handle id := by
  rcases hhanding : st.handing move with _ | ⟨state, _ | _⟩
  · have hattends := (move_minds b h.duties hhanding).attends
    refine ⟨?_, fun id hid => hattends.events handle id hid⟩
    rcases hattends.session handle s' hopen' with ⟨hfree, -⟩ | ⟨before, hbefore, htended⟩
    · cases hopen.symm.trans hfree
    · cases hopen.symm.trans hbefore
      exact htended.observed
  · -- A report about the list of readers concerns nobody.
    rcases move_informed (b := b) hhanding h.duties with ⟨hsessions, hworld, -⟩
    rw [Hub.informed, Hub.notifySessions_deviceList] at hsessions hworld
    rw [Hub.session?, hsessions, ← Hub.session?] at hopen'
    cases hopen.symm.trans hopen'
    exact ⟨rfl, fun id _ => by rw [hworld]⟩
  · -- A report of another reader leaves a session that is bound as it is.
    rcases move_notified (b := b) h hhanding hopen with ⟨w, hbefore, hthere, hafter⟩
    have hinformed := Session.informed_of_isBound (Binding.isBound_of_isBoundTo hreader) state
    have hnot : ¬ s.binding.isBoundTo state.name = true := fun hbound =>
      hother state hhanding
        (Option.some.inj ((beq_iff_eq.mp hbound).symm.trans (beq_iff_eq.mp hreader)))
    rw [Session.notify_card_eq, hinformed, if_neg hnot] at hthere hafter
    cases hthere.symm.trans hopen'
    exact ⟨rfl, fun id _ => (hafter id).trans (hbefore id)⟩

theorem handing_of_tell {s : Snapshot} {duties : List (Duty κ)}
    (hduties : st.duties = .tell (.change s) :: duties) : st.handing .work = some (s, s.kind) := by
  rw [handing, hduties]

/-- To tell of a change is to hand it on. -/
theorem handing_of_told {move : Move σ} {s : Snapshot}
    (h : st.doing b move = some (.told s)) : st.handing move = some (s, s.kind) := by
  cases move with
  | work =>
      rw [doing] at h
      split at h
      · next hduties =>
          cases h
          exact handing_of_tell hduties
      · cases h
  | watch now =>
      rw [doing] at h
      split at h
      · exact absurd h (watching_ne_told now s)
      · cases h
  | enter | createSession | removeSession | addRequest | cancelRequest | cancelService | cancelAll
  | change | tick | happen | stop => cases h

/-- Nothing else hands on a report, unless someone makes a move of it. -/
theorem doing_of_handing {move : Move σ} {state : Snapshot} {kind : ChangeKind}
    (h : st.handing move = some (state, kind)) :
    st.doing b move = some (.told state) ∨ move = .change state kind := by
  cases move with
  | work =>
      rw [handing] at h
      split at h
      · next hduties =>
          cases h
          rw [doing, hduties]
          exact .inl rfl
      · cases h
  | change state' kind' =>
      cases h
      exact .inr rfl
  | enter | createSession | removeSession | addRequest | cancelRequest | cancelService | cancelAll
  | watch | tick | happen | stop => cases h

end Stage

end CardHost
