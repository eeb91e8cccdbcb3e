import CardHost.Proofs.Connections
import CardHost.Proofs.Turns

/-!
# Who Waits for a Card in Which Reader

A request waits for a card in the reader that its session is bound to. Who waits
for which reader changes in few ways. Sessions are closed and requests end, and
a report ends all requests that wait for a card in its reader, those included
whose sessions are bound only by it. Of the entry points there are two after
which somebody waits who did not before: a read that finds no card, and a new
configuration that moves a session which has requests already.

`Eases` says of a change that nobody waits after it who did not wait before, and
is kept under sequence. `enter_origin` and `move_origin` account for all the
rest.

## Main definitions

* `Hub.WaitsFor`: A request waits for a card in a reader.
* `Hub.Eases`: A change after which nobody waits who did not wait before.
* `Provider.Origin`: How it comes that a request waits after a call.

## Theorems

* `change_waits`: Who waits after a report.
* `enter_origin`: Who waits after a call.
* `move_origin`: Who waits after any move but one.
* `run_sound`: What requests and sessions have in common after a run of them.
-/

namespace CardHost

variable {σ κ ε α : Type}

namespace Hub

/-- A request waits for a card in a reader: it is pending, and its session is
    bound to that reader. -/
def WaitsFor (hub : Hub σ κ ε) (r : PendingRequest) (reader : String) : Prop :=
  r ∈ hub.pending.live ∧ ∃ session ∈ hub.sessions,
    session.handle = r.key.service ∧ session.binding.isBoundTo reader = true

/-- A hub became another that is sound, and nobody waits who did not wait
    before. -/
structure Eases (hub hub' : Hub σ κ ε) : Prop where
  sound : hub'.Sound
  waits : ∀ r reader, hub'.WaitsFor r reader → hub.WaitsFor r reader

variable {hub hub' hub'' : Hub σ κ ε} {r : PendingRequest} {reader : String}

theorem Eases.refl (h : hub.Sound) : hub.Eases hub := ⟨h, fun _ _ h => h⟩

theorem Eases.trans (h : hub.Eases hub') (h' : hub'.Eases hub'') : hub.Eases hub'' :=
  ⟨h'.sound, fun r reader hwaits => h.waits r reader (h'.waits r reader hwaits)⟩

/-- A change that leaves requests and sessions as they are. -/
theorem Eases.of_same (h : hub.Sound) (hpending : hub'.pending = hub.pending)
    (hsessions : hub'.sessions = hub.sessions) : hub.Eases hub' := by
  refine ⟨⟨hpending ▸ h.consistent, ?_, ?_⟩, fun r reader hwaits => ?_⟩
  · rw [handles, hsessions]
    exact h.ascending
  · rw [hpending, handles, hsessions]
    exact h.owned
  · rw [WaitsFor, hpending, hsessions] at hwaits
    exact hwaits

/-- Requests that a test tells are ended. -/
theorem Eases.of_ends {s : Settled} {test : PendingRequest → Bool}
    {finish : PendingRequest → List Message} (h : hub.Sound)
    (hs : s.Ends hub.pending test finish) : hub.Eases { hub with pending := s.queue } := by
  have hfewer : ∀ r ∈ s.queue.live, r ∈ hub.pending.live := by
    intro r hr
    rw [hs.live] at hr
    exact List.mem_of_mem_filter hr
  refine ⟨⟨hs.consistent, h.ascending, fun r hr => h.owned r (hfewer r hr)⟩, ?_⟩
  exact fun r reader hwaits => ⟨hfewer r hwaits.1, hwaits.2⟩

/-- A session is put in the place of one with the same handle and binding. -/
theorem replace_eases (h : hub.Sound) {session session' : Session κ}
    (hmem : session ∈ hub.sessions) (hhandle : session'.handle = session.handle)
    (hbinding : session'.binding = session.binding) : hub.Eases (hub.replace session') := by
  refine ⟨⟨h.consistent, ?_, ?_⟩, fun r reader hwaits => ?_⟩
  · rw [replace_handles]
    exact h.ascending
  · rw [replace_handles]
    exact h.owned
  · rcases hwaits with ⟨hr, other, hother, hservice, hbound⟩
    refine ⟨hr, ?_⟩
    rcases List.mem_map.mp hother with ⟨s, hs, hs'⟩
    split at hs'
    · cases hs'
      exact ⟨session, hmem, hhandle.symm.trans hservice, hbinding ▸ hbound⟩
    · cases hs'
      exact ⟨_, hs, hservice, hbound⟩

/-- A session that is opened has no requests. -/
theorem insert_eases (h : hub.Sound) (session : Session κ) (hnew : session.handle ∉ hub.handles) :
    hub.Eases { hub with sessions := insertSession session hub.sessions } := by
  have hperm := (insertSession_perm session hub.sessions).map Session.handle
  refine ⟨⟨h.consistent, insertSession_ascending _ _ h.ascending hnew, fun r hr =>
    ⟨(h.owned r hr).1, hperm.mem_iff.mpr (List.mem_cons_of_mem _ (h.owned r hr).2)⟩⟩,
    fun r reader hwaits => ?_⟩
  rcases hwaits with ⟨hr, other, hother, hservice, hbound⟩
  refine ⟨hr, other, ?_, hservice, hbound⟩
  rcases List.mem_cons.mp ((insertSession_perm session hub.sessions).mem_iff.mp hother) with
    rfl | hold
  · -- A request has had an open session all along.
    exact absurd (hservice ▸ (h.owned r hr).2) hnew
  · exact hold

/-- A session that is closed takes its requests along. -/
theorem remove_eases (h : hub.Sound) (handle : ServiceHandle) :
    hub.Eases { hub with
      sessions := hub.sessions.filter (·.handle != handle)
      pending := (hub.pending.cancelService handle).queue } := by
  have hends := RequestQueue.cancelService_ends h.consistent handle
  have hleft : ∀ r ∈ (hub.pending.cancelService handle).queue.live,
      r ∈ hub.pending.live ∧ r.key.service ≠ handle := by
    intro r hr
    rw [hends.live, List.mem_filter, Bool.not_eq_true', beq_eq_false_iff_ne] at hr
    exact hr
  refine ⟨⟨hends.consistent, h.ascending.sublist (List.filter_sublist.map _), fun r hr => ?_⟩,
    fun r reader hwaits => ?_⟩
  · -- Whoever is left has a session that is left.
    rcases hleft r hr with ⟨hlive, hother⟩
    rcases List.mem_map.mp (h.owned r hlive).2 with ⟨session, hsession, hhandle⟩
    refine ⟨(h.owned r hlive).1, List.mem_map.mpr ⟨session, List.mem_filter.mpr ⟨hsession, ?_⟩,
      hhandle⟩⟩
    rw [hhandle]
    exact bne_iff_ne.mpr hother
  · rcases hwaits with ⟨hr, session, hsession, hbound⟩
    exact ⟨(hleft r hr).1, session, List.mem_of_mem_filter hsession, hbound⟩

/-- Who waits after a report waited before, and not for a card that the report
    says was inserted. -/
theorem change_waits (b : Backend σ κ ε) (h : hub.Sound) (state : Snapshot) (kind : ChangeKind)
    {hub' : Hub σ κ ε} (hsessions : hub'.sessions = (hub.informed b state kind).sessions)
    (hpending : hub'.pending = ((hub.informed b state kind).pending.notifyChange
      (hub.informed b state kind).binding state kind).queue) :
    hub'.Sound ∧ ∀ r reader, hub'.WaitsFor r reader → hub.WaitsFor r reader ∧
      ¬(kind = .card ∧ state.inserted = true ∧ state.name = reader) := by
  have hinformed := ((informed_quiet b state kind hub).keeps h).sound
  have hends := RequestQueue.notifyChange_ends hinformed.consistent
    (hub.informed b state kind).binding state kind
  have hsettled := Eases.of_ends hinformed hends
  have hsame := Eases.of_same hsettled.sound hpending hsessions
  refine ⟨hsame.sound, fun r reader hwaits => ?_⟩
  rcases hsame.waits r reader hwaits with ⟨hr, session, hsession, hhandle, hbound⟩
  have hlive : r ∈ hub.pending.live ∧
      (hub.informed b state kind).awaits state kind r = false := by
    have hleft : r ∈ ((hub.informed b state kind).pending.notifyChange
      (hub.informed b state kind).binding state kind).queue.live := hr
    rw [hends.live, List.mem_filter, Bool.not_eq_true'] at hleft
    exact ⟨hleft.1, isServedBy_eq_awaits b state kind h hleft.1 ▸ hleft.2⟩
  -- A request that waits for the card of the report is ended by it.
  have hother : ¬(kind = .card ∧ state.inserted = true ∧ state.name = reader) := by
    rintro ⟨rfl, hinserted, rfl⟩
    have hserved : (hub.informed b state .card).awaits state .card r = true := by
      rw [awaits, hinserted, Bool.and_eq_true, List.any_eq_true]
      exact ⟨rfl, session, hsession, by rw [hhandle, hbound, beq_self_eq_true]; rfl⟩
    rw [hlive.2] at hserved
    cases hserved
  refine ⟨⟨hlive.1, ?_⟩, hother⟩
  cases kind with
  | deviceList =>
      rw [show (hub.informed b state .deviceList).sessions = hub.sessions from
        congrArg Prod.fst (notifySessions_deviceList b state hub.sessions hub.world)] at hsession
      exact ⟨session, hsession, hhandle, hbound⟩
  | card =>
      rcases mem_notifySessions b hsession with ⟨before, hbefore, w, rfl⟩
      have hnotify := before.notify_card (b := b) state w
      refine ⟨before, hbefore, ?_, ?_⟩
      · rw [← hhandle, hnotify.handle, before.informed_handle]
      · rw [hnotify.binding, Session.informed] at hbound
        split at hbound
        · next hinserted =>
            -- A session that the report bound is bound to its reader.
            rw [Binding.bind] at hbound
            split at hbound
            · exact hbound
            · exact absurd ⟨rfl, hinserted, Option.some.inj (beq_iff_eq.mp hbound)⟩ hother
        · exact hbound

end Hub

namespace Provider

variable {b : Backend σ κ ε} {p p' : Provider σ κ ε}

/-- How it comes that a request waits for a card in a reader after a call. -/
inductive Origin (b : Backend σ κ ε) (entry : Entry) (p : Provider σ κ ε) (r : PendingRequest)
    (reader : String) : Prop where
  /-- It waited before. -/
  | kept (hwaits : p.hub.WaitsFor r reader)
  /-- It is new, and the attempt to read at once found no card. -/
  | queued (session : Session κ) (sources : DataSources) (hsession : session ∈ p.hub.sessions)
      (hhandle : session.handle = r.key.service)
      (hreader : session.binding.isBoundTo reader = true) (hnew : r ∉ p.hub.pending.live)
      (hattempt : (p.readNow b sources session).1 = .noCard)
  /-- Its session was moved by a new configuration. -/
  | moved (config : Config) (session : Session κ) (hentry : entry = .reload config)
      (hr : r ∈ p.hub.pending.live) (hsession : session ∈ p.hub.sessions)
      (hhandle : session.handle = r.key.service)
      (hmoved : (session.reread config).binding ≠ session.binding)

theorem onSession_eases (h : p.hub.Sound)
    (use : Session κ → World σ ε → α × Session κ × World σ ε) {session : Session κ}
    (hmem : session ∈ p.hub.sessions)
    (huse : ∀ w, session.Discreet w (use session w).2.1 (use session w).2.2) :
    p.hub.Eases (p.onSession use session).2.hub := by
  have hworld : p.hub.Eases { p.hub with world := (use session p.hub.world).2.2 } :=
    Hub.Eases.of_same h rfl rfl
  exact hworld.trans (Hub.replace_eases hworld.sound hmem (huse _).handle (huse _).binding)

theorem complete_eases (h : p.hub.Eases p'.hub) (kind : MessageKind) (call : Call) (code : UInt32)
    (result : ResultCode) (payload : Payload) :
    p.hub.Eases (p'.complete kind call code result payload).hub :=
  h.trans (Hub.Eases.of_same h.sound rfl rfl)

theorem wakeIf_eases (h : p.hub.Eases p'.hub) (cause : Bool) :
    p.hub.Eases (p'.wakeIf b cause).hub := by
  rw [wakeIf]
  split
  · exact h.trans (Hub.Eases.of_same h.sound rfl rfl)
  · exact h

theorem createSession_eases (h : p.hub.Sound) (handle : ServiceHandle) (settings : Settings) :
    p.hub.Eases (p.createSession b handle settings).2.hub := by
  rw [createSession]
  rcases hsession : p.hub.session? handle with _ | session
  · have hinserted := Hub.insert_eases h (Session.start handle settings)
      (Hub.session?_eq_none_iff.mp hsession)
    exact hinserted.trans (Hub.Eases.of_same hinserted.sound rfl rfl)
  · exact Hub.Eases.refl h

theorem readNow_eases (h : p.hub.Sound) (sources : DataSources) {session : Session κ}
    (hmem : session ∈ p.hub.sessions) : p.hub.Eases (p.readNow b sources session).2.hub := by
  by_cases hbound : session.binding.isBound = true
  · rw [readNow_snd sources hbound]
    exact onSession_eases h _ hmem (Session.read_discreet sources session)
  · rw [readNow, if_neg hbound]
    exact Hub.Eases.refl h

/-- A read that found no card. -/
theorem enqueue_origin {entry : Entry} {call : Call} {session : Session κ} {sources : DataSources}
    (now : Instant) (timeout : Option Duration) {r : PendingRequest} {reader : String}
    (h : p.hub.Sound) (hopen : p.hub.session? call.service = some session)
    (hattempt : (p.readNow b sources session).1 = .noCard)
    (hwaits : ((p.readNow b sources session).2.enqueue b call now timeout sources).2.hub.WaitsFor r
      reader) : Origin b entry p r reader := by
  rcases Hub.mem_handles_of_session? hopen with ⟨hmem, hhandle⟩
  have hread := readNow_eases (b := b) h sources hmem
  have hpending := (p.readNow_calm (b := b) sources session).hub.pending
  rcases hkey : p.hub.pending.contains call.key with _ | _
  · have hfree : (p.readNow b sources session).2.hub.pending.contains call.key = false :=
      hpending ▸ hkey
    rcases enqueue_new (b := b) sources hread.sound.consistent hfree now timeout with
      ⟨-, -, hqueued⟩
    rcases hwaits with ⟨hr, other, hother, hservice, hbound⟩
    rw [hqueued.sessions] at hother
    rcases hqueued.mem_iff.mp hr with rfl | hold
    · -- It is the request of this read. There is one session under its handle.
      have hnew : call.readRequest now timeout sources ∉ p.hub.pending.live := fun hlive =>
        Bool.eq_false_iff.mp hkey ((h.consistent.contains_iff call.key).mpr ⟨_, hlive, rfl⟩)
      rcases readNow_session? (b := b) sources hopen with ⟨session', hsession', hbinding⟩
      rcases Hub.mem_handles_of_session? hsession' with ⟨hmem', hhandle'⟩
      have hsame : other = session' := Hub.eq_of_handle_eq hread.sound.ascending hother hmem'
        (hservice.trans hhandle'.symm)
      exact .queued session sources hmem hhandle (by rw [← hbinding, ← hsame, hbound]) hnew hattempt
    · exact .kept (hread.waits r reader ⟨hold, other, hother, hservice, hbound⟩)
  · rw [enqueue_pending sources (hpending ▸ hkey) now timeout] at hwaits
    exact .kept (hread.waits r reader hwaits)

theorem execute_origin {entry : Entry} {call : Call} {command : Command} {now : Instant}
    {timeout : Option Duration} {r : PendingRequest} {reader : String} (h : p.hub.Sound)
    (hwaits : (p.execute b call now timeout command).2.hub.WaitsFor r reader) :
    Origin b entry p r reader := by
  rw [execute] at hwaits
  rcases hopen : p.hub.session? call.service with _ | session
  · rw [hopen] at hwaits
    exact .kept hwaits
  · rw [hopen] at hwaits
    rcases Hub.mem_handles_of_session? hopen with ⟨hmem, -⟩
    have hused : ∀ {p' : Provider σ κ ε}, p.hub.Eases p'.hub → p'.hub.WaitsFor r reader →
        Origin b entry p r reader := fun heases hwaits => .kept (heases.waits r reader hwaits)
    cases command with
    | readRawData sources =>
        simp only [readRawData] at hwaits
        split at hwaits
        · exact hused (complete_eases (Hub.Eases.refl h) _ _ _ _ _) hwaits
        · have hread := readNow_eases (b := b) h sources hmem
          rcases hattempt : p.readNow b sources session with ⟨_ | _, p'⟩
          · rw [hattempt] at hwaits hread
            exact hused (complete_eases hread _ _ _ _ _) hwaits
          · refine enqueue_origin now timeout h hopen
              (congrArg Prod.fst hattempt) ?_
            rw [hattempt] at hwaits ⊢
            exact hwaits
    | chipIo data =>
        exact hused (complete_eases (onSession_eases h _ hmem
          (Session.chipIo_discreet data session)) _ _ _ _ _) hwaits
    | chipPower action =>
        exact hused (complete_eases (onSession_eases h _ hmem
          (Session.chipPower_discreet action session)) _ _ _ _ _) hwaits
    | reset =>
        exact hused (complete_eases (onSession_eases h _ hmem
          (Session.reset_discreet session)) _ _ _ _ _) hwaits
    | ejectCard => exact hused (complete_eases (Hub.Eases.refl h) _ _ _ _ _) hwaits
    | unsupported code => exact .kept hwaits
    | unknown code => exact .kept hwaits

theorem openSession_eases (h : p.hub.Sound) (call : Call) (logicalName : String)
    (traceLevel : UInt32) : p.hub.Eases (p.openSession b call logicalName traceLevel).2.hub := by
  rw [openSession]
  rcases Settings.resolve p.config logicalName with e | settings
  · exact complete_eases (Hub.Eases.refl h) _ _ _ _ _
  · have hcreated := createSession_eases (b := b) h call.service
      (if traceLevel = 0 then settings else { settings with traceLevel })
    simp only
    split
    · next hcall =>
        rw [hcall] at hcreated
        exact complete_eases hcreated _ _ _ _ _
    · next hcall =>
        rw [hcall] at hcreated
        exact complete_eases hcreated _ _ _ _ _

theorem closeSession_eases (h : p.hub.Sound) (call : Call) :
    p.hub.Eases (p.closeSession b call).2.hub := by
  rw [closeSession, removeSession]
  rcases p.hub.session? call.service with _ | session
  · exact Hub.Eases.refl h
  · have hremoved := Hub.remove_eases h call.service
    have hsettled : p.hub.Eases (settle b (p.hub.pending.cancelService call.service) { p with
        hub := { p.hub with
          sessions := p.hub.sessions.filter (·.handle != call.service) } }).hub := by
      refine wakeIf_eases ?_ _
      exact hremoved.trans (Hub.Eases.of_same hremoved.sound rfl rfl)
    refine complete_eases ?_ _ _ _ _ _
    exact hsettled.trans (Hub.Eases.of_same hsettled.sound rfl rfl)

theorem settle_eases (h : p.hub.Sound) {s : Settled} {test : PendingRequest → Bool}
    {finish : PendingRequest → List Message} (hs : s.Ends p.hub.pending test finish) :
    p.hub.Eases (p.settle b s).hub := by
  have hended := Hub.Eases.of_ends h hs
  refine wakeIf_eases ?_ _
  exact hended.trans (Hub.Eases.of_same hended.sound rfl rfl)

/-- Who waits after a call waited before, unless it is a read that found no card
    or a new configuration that moved the session. -/
theorem enter_origin (h : p.hub.Sound) (now : Instant) (entry : Entry) {r : PendingRequest}
    {reader : String} (hwaits : (p.enter b now entry).2.hub.WaitsFor r reader) :
    Origin b entry p r reader := by
  have hsame := Hub.Eases.refl h
  have heased : p.hub.Eases (p.enter b now entry).2.hub → Origin b entry p r reader :=
    fun heases => .kept (heases.waits r reader hwaits)
  cases entry with
  | openSession call logicalName traceLevel =>
      exact heased (openSession_eases h call logicalName traceLevel)
  | closeSession call => exact heased (closeSession_eases h call)
  | lock call =>
      refine heased ?_
      rw [enter, lock]
      split
      · exact hsame
      · next session hsession => exact complete_eases (onSession_eases h _
          (Hub.mem_handles_of_session? hsession).1 (Session.lock_discreet session)) _ _ _ _ _
  | unlock call =>
      refine heased ?_
      rw [enter, unlock]
      split
      · exact hsame
      · next session hsession => exact complete_eases (onSession_eases h _
          (Hub.mem_handles_of_session? hsession).1 (Session.unlock_discreet session)) _ _ _ _ _
  | register call classes window =>
      refine heased ?_
      rw [enter, register]
      split
      · exact hsame
      · next session hsession =>
          split
          · exact hsame
          · refine complete_eases ?_ _ _ _ _ _
            exact Hub.replace_eases h (Hub.mem_handles_of_session? hsession).1 rfl rfl
  | deregister call classes window =>
      refine heased ?_
      rw [enter, deregister]
      split
      · exact hsame
      · next session hsession =>
          split
          · exact hsame
          · refine complete_eases ?_ _ _ _ _ _
            exact Hub.replace_eases h (Hub.mem_handles_of_session? hsession).1 rfl rfl
  | getInfo call category =>
      refine heased ?_
      rw [enter, getInfo]
      split
      · exact hsame
      · next session hsession =>
          split
          · exact hsame
          · exact hsame
          · exact hsame
          · exact complete_eases hsame _ _ _ _ _
          · exact complete_eases (onSession_eases h _ (Hub.mem_handles_of_session? hsession).1
              (Session.status_discreet session)) _ _ _ _ _
  | execute call timeout command => exact execute_origin h hwaits
  | executeRaw call timeout code data =>
      rw [enter, executeRaw] at hwaits
      split at hwaits
      · exact .kept hwaits
      · split at hwaits
        · exact execute_origin h hwaits
        · exact .kept hwaits
  | cancelAsync handle request =>
      refine heased ?_
      rw [enter, cancelAsync.eq_def]
      split
      · exact hsame
      · cases request with
        | none => exact settle_eases h (RequestQueue.cancelService_ends h.consistent handle)
        | some id => exact settle_eases h (RequestQueue.cancel_ends h.consistent ⟨handle, id⟩)
  | setTraceLevel handle level =>
      refine heased ?_
      rw [enter, setTraceLevel]
      split
      · exact hsame
      · next session hsession =>
          exact Hub.replace_eases h (Hub.mem_handles_of_session? hsession).1 rfl rfl
  | unload => exact .kept hwaits
  | reload config =>
      rcases hwaits with ⟨hr, session', hsession', hhandle, hbound⟩
      rcases List.mem_map.mp hsession' with ⟨session, hsession, rfl⟩
      by_cases hmoved : (session.reread config).binding = session.binding
      · exact .kept ⟨hr, session, hsession, hhandle, hmoved ▸ hbound⟩
      · exact .moved config session rfl hr hsession hhandle hmoved

end Provider

namespace Stage

variable {b : Backend σ κ ε} {st : Stage σ κ ε}

theorem remove_eases (h : st.provider.hub.Sound) (handle : ServiceHandle) (call? : Option Call) :
    st.provider.hub.Eases (st.remove handle call?).provider.hub := by
  rw [remove]
  split
  · exact Hub.Eases.refl h
  · exact Hub.remove_eases h handle

theorem settle_eases (h : st.provider.hub.Sound) {s : Settled} {test : PendingRequest → Bool}
    {finish : PendingRequest → List Message} (hs : s.Ends st.provider.hub.pending test finish)
    (rest : List (Duty κ)) : st.provider.hub.Eases (st.settle s rest).provider.hub :=
  Hub.Eases.of_ends h hs

/-- A report. -/
theorem change_waits (b : Backend σ κ ε) (st : Stage σ κ ε) (h : st.provider.hub.Sound)
    (state : Snapshot) (kind : ChangeKind) :
    (st.change b state kind).provider.hub.Sound ∧
      ∀ r reader, (st.change b state kind).provider.hub.WaitsFor r reader →
        st.provider.hub.WaitsFor r reader ∧
          ¬(kind = .card ∧ state.inserted = true ∧ state.name = reader) :=
  st.provider.hub.change_waits b h state kind rfl rfl

/-- The next duty. If it is to tell of a card that was inserted, nobody waits for
    that card any more. -/
theorem work_waits (h : st.provider.hub.Sound) :
    (st.work b).provider.hub.Sound ∧
      ∀ r reader, (st.work b).provider.hub.WaitsFor r reader →
        st.provider.hub.WaitsFor r reader ∧ ∀ s, st.doing b .work = some (.told s) →
          ¬(s.kind = .card ∧ s.inserted = true ∧ s.name = reader) := by
  have heased : ∀ st' : Stage σ κ ε, st.provider.hub.Eases st'.provider.hub →
      st.doing b .work = none → st'.provider.hub.Sound ∧
        ∀ r reader, st'.provider.hub.WaitsFor r reader →
          st.provider.hub.WaitsFor r reader ∧ ∀ s, st.doing b .work = some (.told s) →
            ¬(s.kind = .card ∧ s.inserted = true ∧ s.name = reader) :=
    fun st' heases hidle => ⟨heases.sound, fun r reader hwaits =>
      ⟨heases.waits r reader hwaits, fun s htold => (by rw [hidle] at htold; cases htold)⟩⟩
  rcases st with ⟨p, duties, begun⟩
  have hsame : ∀ p' : Provider σ κ ε, p'.hub.pending = p.hub.pending →
      p'.hub.sessions = p.hub.sessions → p.hub.Eases p'.hub :=
    fun p' hpending hsessions => Hub.Eases.of_same h hpending hsessions
  rcases duties with _ | ⟨_ | cause | ⟨session, call?⟩ | ⟨now | s⟩ | next, duties⟩
  · exact heased _ (Hub.Eases.refl h) rfl
  · exact heased _ (hsame _ rfl rfl) rfl
  · exact heased _ (Provider.wakeIf_eases (Hub.Eases.refl h) cause) rfl
  · cases call? with
    | none => exact heased _ (hsame _ rfl rfl) rfl
    | some call => exact heased _ (hsame _ rfl rfl) rfl
  · exact heased _ (Hub.Eases.of_ends h (RequestQueue.expireDue_ends h.consistent now)) rfl
  · rcases change_waits b ⟨p, duties, begun⟩ h s s.kind with ⟨hsound, hwaits⟩
    refine ⟨hsound, fun r reader hwaiting => ⟨(hwaits r reader hwaiting).1, fun s' htold => ?_⟩⟩
    cases htold
    exact (hwaits r reader hwaiting).2
  · exact heased _ (hsame _ rfl rfl) rfl

/-- A step of the watcher tells nothing. The news is among its duties. -/
theorem watching_ne_told (now : Instant) (s : Snapshot) :
    st.watching b now ≠ some (.told s) := by
  intro htold
  rw [watching] at htold
  split at htold
  · split at htold <;> cases htold
  · split at htold <;> cases htold
  · split at htold
    · cases htold
    · split at htold <;> cases htold
  · cases htold
  · cases htold

/-- Who waits after a move waited before, and not for a card of which the watcher
    told in this move. Otherwise the move is a call, and the request waits for a
    reason that calls have. -/
theorem move_origin (h : st.provider.hub.Sound) (move : Move σ)
    (hentry : ∀ request, move ≠ .addRequest request) :
    (st.move b move).provider.hub.Sound ∧
      ∀ r reader, (st.move b move).provider.hub.WaitsFor r reader →
        (st.provider.hub.WaitsFor r reader ∧ ∀ s, st.doing b move = some (.told s) →
          ¬(s.kind = .card ∧ s.inserted = true ∧ s.name = reader)) ∨
        ∃ now entry, move = .enter now entry ∧ Provider.Origin b entry st.provider r reader := by
  have heased : ∀ st' : Stage σ κ ε, st.provider.hub.Eases st'.provider.hub →
      (∀ s, st.doing b move ≠ some (.told s)) → st'.provider.hub.Sound ∧
        ∀ r reader, st'.provider.hub.WaitsFor r reader →
          (st.provider.hub.WaitsFor r reader ∧ ∀ s, st.doing b move = some (.told s) →
            ¬(s.kind = .card ∧ s.inserted = true ∧ s.name = reader)) ∨
          ∃ now entry, move = .enter now entry ∧ Provider.Origin b entry st.provider r reader :=
    fun st' heases hquiet => ⟨heases.sound, fun r reader hwaits =>
      .inl ⟨heases.waits r reader hwaits, fun s htold => absurd htold (hquiet s)⟩⟩
  have hidle : st.doing b move = none → ∀ s, st.doing b move ≠ some (.told s) := by
    intro hnone s htold
    rw [hnone] at htold
    cases htold
  have hsame := Hub.Eases.refl h
  cases move with
  | work =>
      rcases work_waits (b := b) h with ⟨hsound, hwaits⟩
      exact ⟨hsound, fun r reader hwaiting => .inl (hwaits r reader hwaiting)⟩
  | enter now entry =>
      -- A call is made in one go, but for two that have completions to post first.
      have hwhole := ((Provider.enter_course b now entry st.provider).keeps h).sound
      cases entry with
      | closeSession call => exact heased _ (remove_eases h call.service (some call)) (hidle rfl)
      | cancelAsync handle request =>
          refine heased _ ?_ (hidle rfl)
          show st.provider.hub.Eases (st.cancelAsync handle request).provider.hub
          rw [cancelAsync.eq_def]
          split
          · exact hsame
          · exact settle_eases h (RequestQueue.cancelService_ends h.consistent handle) _
          · exact settle_eases h (RequestQueue.cancel_ends h.consistent _) _
      | openSession | lock | unlock | register | deregister | getInfo | execute | executeRaw
      | setTraceLevel | unload | reload =>
          exact ⟨hwhole, fun r reader hwaits =>
            .inr ⟨now, _, rfl, Provider.enter_origin h now _ hwaits⟩⟩
  | createSession handle settings =>
      exact heased _ (Provider.createSession_eases h handle settings) (hidle rfl)
  | removeSession handle => exact heased _ (remove_eases h handle none) (hidle rfl)
  | addRequest request => exact absurd rfl (hentry request)
  | cancelRequest key =>
      exact heased _ (settle_eases h (RequestQueue.cancel_ends h.consistent key) _) (hidle rfl)
  | cancelService handle =>
      exact heased _ (settle_eases h (RequestQueue.cancelService_ends h.consistent handle) _)
        (hidle rfl)
  | cancelAll =>
      exact heased _ (settle_eases h (RequestQueue.cancelAll_ends h.consistent) _) (hidle rfl)
  | change state kind =>
      rcases change_waits b st h state kind with ⟨hsound, hwaits⟩
      exact ⟨hsound, fun r reader hwaiting => .inl ⟨(hwaits r reader hwaiting).1,
        fun s htold => absurd htold (hidle rfl s)⟩⟩
  | watch now =>
      have hquiet : ∀ s, st.doing b (.watch now) ≠ some (.told s) := by
        intro s htold
        rw [doing.eq_def] at htold
        simp only at htold
        split at htold
        · exact watching_ne_told now s htold
        · cases htold
      refine heased _ ?_ hquiet
      rw [move.eq_def]
      simp only
      split
      · rcases watch_hub b now st with ⟨world, hhub⟩
        rw [hhub]
        exact Hub.Eases.of_same h rfl rfl
      · exact hsame
  | tick now => exact heased _ hsame (hidle rfl)
  | happen hardware => exact heased _ (Hub.Eases.of_same h rfl rfl) (hidle rfl)
  | stop => exact heased _ (Hub.Eases.of_same h rfl rfl) (hidle rfl)

/-- As long as requests come from calls, the hub is sound. -/
theorem run_sound (h : st.provider.hub.Sound) {moves : List (Move σ)}
    (hentry : ∀ request, .addRequest request ∉ moves) : (st.run b moves).provider.hub.Sound := by
  induction moves generalizing st with
  | nil => exact h
  | cons move moves ih =>
      refine ih (move_origin h move fun request heq => hentry request ?_).1 fun request hmem => ?_
      · exact heq ▸ List.mem_cons_self
      · exact hentry request (List.mem_cons_of_mem _ hmem)

end Stage

end CardHost
