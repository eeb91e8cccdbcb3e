import CardHost.Proofs.Connections
import CardHost.Proofs.Scenes

/-!
# A Card That Comes While a Client Reads

A read that finds no card is made to wait. That takes two steps, the attempt and
the queuing of the request, and in between the watcher is free to act. It may
report a card there that was inserted after the attempt. The report then finds
no request to end, and the request is queued for a card that is in the reader
already and will not be reported again.

A card that is there before the attempt can be missed as well. If the session
still has a connection to an earlier card, the attempt looks through that one
and finds no card. If the card was reported by then, the report came too early
as well.

`run_readAmid` says that these are all the ways in which a card is missed. In
every other order of attempt, queuing, insertion and report the read is
completed with the data of the card.

## Main definitions

* `Insertion`, `Insertion.Lawful`: A card that is inserted, and what there is to
  find of it.
* `Schedule`: When it is inserted, and when that is reported.
* `Provider.readAmid`: A read, with this going on.
* `Schedule.misses`: The read misses the card.
* `Provider.Stands`: How a read stands that is under way.

## Theorems

* `readAmid_execute`: With nothing in between it is a call like any other.
* `insert_stands`, `report_stands`, `befall_stands`: What happens besides.
* `attempt_stands`, `complete_stands`, `enqueue_stands`: The steps of the read.
* `readAmid_stands`: All of it.
* `run_readAmid`: Which reads are completed, and which are left waiting.
* `Simulation.insertion_lawful`: A card that is inserted in a hall.
-/

namespace CardHost

variable {σ κ ε : Type}

/-- A card that is inserted into an empty reader. -/
structure Insertion (σ κ : Type) where
  reader : String
  /-- What the card answers to reset. -/
  atr : Bytes
  /-- What becomes of the hardware. -/
  act : σ → σ
  /-- Whether the card is in the reader, which is empty otherwise. -/
  holds : Bool → σ → Prop
  /-- The connections that were made for earlier cards. -/
  old : κ → Prop

namespace Insertion

/-- What a backend makes of it: a new connection finds the card that is there,
    one for an earlier card finds none. -/
structure Lawful (ins : Insertion σ κ) (b : Backend σ κ ε) : Prop where
  act : ∀ hardware, ins.holds false hardware → ins.holds true (ins.act hardware)
  release : ∀ inserted card hardware, ins.holds inserted hardware →
    ins.holds inserted (b.release card hardware).state
  cancel : ∀ inserted waiting hardware, ins.holds inserted hardware →
    ins.holds inserted (b.cancel waiting hardware).state
  empty : ∀ mode hardware, ins.holds false hardware →
    ins.holds false (b.look ins.reader mode hardware).2 ∧
      ∃ e, (b.look ins.reader mode hardware).1 = .error e ∧ e.isAbsence = true
  full : ∀ mode hardware, ins.holds true hardware →
    ins.holds true (b.look ins.reader mode hardware).2 ∧
      ∃ status, (b.look ins.reader mode hardware).1 = .ok status ∧ status.atr = ins.atr
  old : ∀ inserted card hardware, ins.old card → ins.holds inserted hardware →
    ins.holds inserted (b.status card hardware).state ∧
      ∃ e, (b.status card hardware).value.1 = .error e ∧ e.isAbsence = true

/-- A report says that the card was inserted. -/
structure Reported (ins : Insertion σ κ) (state : Snapshot) : Prop where
  name : state.name = ins.reader
  inserted : state.inserted = true
  atr : state.atr = ins.atr

end Insertion

/-- A moment in the course of a read: before the attempt, between the attempt and
    the queuing of the request, or after both. -/
inductive Moment where
  | before
  | between
  | after
  deriving DecidableEq, Repr

def Moment.rank : Moment → Nat
  | before => 0
  | between => 1
  | after => 2

/-- When a card is inserted, and when that is reported. -/
structure Schedule where
  inserted : Moment
  reported : Moment
  order : inserted.rank ≤ reported.rank

/-- A read on a session misses the card. The report does not come after the
    request is queued, and either the card is not there at the attempt, or the
    session still has a connection then. The report of a replaced card ends that
    connection, if it comes before. -/
def Schedule.misses (schedule : Schedule) (session : Session κ) (state : Snapshot) : Bool :=
  schedule.reported != .after &&
    (schedule.inserted != .before || session.card.isSome &&
      !(schedule.reported == .before && session.observed.present && state.replaced))

namespace Provider

/-- What happens besides at a moment of a read. -/
def befall (b : Backend σ κ ε) (act : σ → σ) (state : Snapshot) (schedule : Schedule)
    (moment : Moment) (p : Provider σ κ ε) : Provider σ κ ε :=
  let p :=
    if schedule.inserted = moment then (p.meet b (.happen (act p.hub.world.hardware))).2 else p
  if schedule.reported = moment then { p with hub := p.hub.onChange b state .card } else p

/-- A read of data sources, while a card is inserted and that is reported. -/
def readAmid (b : Backend σ κ ε) (act : σ → σ) (state : Snapshot) (schedule : Schedule)
    (call : Call) (now : Instant) (timeout : Option Duration) (sources : DataSources)
    (p : Provider σ κ ε) : ResultCode × Provider σ κ ε :=
  let p := p.befall b act state schedule .before
  match p.hub.session? call.service with
  | none =>
    let p := p.befall b act state schedule .between
    (.invalidHService, p.befall b act state schedule .after)
  | some session =>
    match p.readNow b sources session with
    | (.ended result payload, p) =>
      let (answer, p) :=
        p.accept .executeComplete call CommandCode.readRawData.number result payload
      let p := p.befall b act state schedule .between
      (answer, p.befall b act state schedule .after)
    | (.noCard, p) =>
      let p := p.befall b act state schedule .between
      let (answer, p) := p.enqueue b call now timeout sources
      (answer, p.befall b act state schedule .after)

variable {b : Backend σ κ ε}

/-- With nothing between the two steps it is a call like any other. -/
theorem readAmid_execute (act : σ → σ) (state : Snapshot) {schedule : Schedule}
    (hinserted : schedule.inserted ≠ .between) (hreported : schedule.reported ≠ .between)
    (call : Call) (now : Instant) (timeout : Option Duration) {sources : DataSources}
    (hsources : sources ≠ 0#16) (p : Provider σ κ ε) :
    let executed := (p.befall b act state schedule .before).execute b call now timeout
      (.readRawData sources)
    p.readAmid b act state schedule call now timeout sources =
      (executed.1, executed.2.befall b act state schedule .after) := by
  intro executed
  have hbetween : ∀ p : Provider σ κ ε, p.befall b act state schedule .between = p := by
    intro p
    rw [befall, if_neg hinserted, if_neg hreported]
  simp only [readAmid, executed, execute, readRawData, hbetween, if_neg hsources]
  rcases (p.befall b act state schedule .before).hub.session? call.service with _ | session
  · rfl
  · simp only
    rcases (p.befall b act state schedule .before).readNow b sources session with
      ⟨_ | _, _⟩ <;> rfl

/-- How a read stands. -/
inductive Standing where
  /-- Nothing was decided yet. -/
  | idle
  | waiting
  | completed
  deriving DecidableEq, Repr

/-- What it makes of a report. -/
def Standing.reported : Standing → Standing
  | idle => idle
  | waiting | completed => completed

/-- What was promised to clients: one completion, once the read is accepted. -/
def Standing.owed (call : Call) : Standing → Call → Nat
  | idle => fun _ => 0
  | waiting | completed => call.once

/-- The message that completes the read with the data of the card. -/
def done (call : Call) (sources : DataSources) (atr : Bytes) : Post :=
  ⟨call.window, Message.completion .executeComplete call.key CommandCode.readRawData.number .success
    (.cardData (CardData.read sources atr))⟩

/-- A provider came from another in the course of a read, which stands as told,
    with the card inserted or not. -/
structure Stands (ins : Insertion σ κ) (call : Call) (sources : DataSources) (inserted : Bool)
    (standing : Standing) (p p' : Provider σ κ ε) : Prop where
  keeps : p.hub.Keeps (standing.owed call) p'.hub
  bound : ∃ session, p'.hub.session? call.service = some session ∧
    session.binding.isBoundTo ins.reader = true
  holds : ins.holds inserted p'.hub.world.hardware
  pending : p'.hub.pending.contains call.key = (standing == .waiting)
  waiting : standing = .waiting → ∃ r ∈ p'.hub.pending.live,
    r.key = call.key ∧ r.window = call.window ∧ r.sources = sources
  posts : ∃ posts, p'.hub.world.posts = p.hub.world.posts ++ posts ∧
    (standing = .completed → done call sources ins.atr ∈ posts)

variable {ins : Insertion σ κ} {call : Call} {sources : DataSources} {inserted : Bool}
  {standing : Standing} {state : Snapshot} {session : Session κ} {p p' : Provider σ κ ε}

theorem insert_stands (hlawful : ins.Lawful b) (h : Stands ins call sources false standing p p') :
    Stands ins call sources true standing p
      (p'.meet b (.happen (ins.act p'.hub.world.hardware))).2 where
  keeps := by
    have hquiet : p'.hub.Quiet (p'.meet b (.happen (ins.act p'.hub.world.hardware))).2.hub :=
      Hub.Quiet.of_silent rfl rfl rfl
    exact (h.keeps.trans (hquiet.keeps h.keeps.sound)).congr fun _ => Nat.add_zero _
  bound := h.bound
  holds := hlawful.act _ h.holds
  pending := h.pending
  waiting := h.waiting
  posts := h.posts

/-- A report that the card was inserted ends the request of the read, if it is
    queued. -/
theorem awaits_of_reported (hreported : ins.Reported state)
    (hbound : ∃ session, p.hub.session? call.service = some session ∧
      session.binding.isBoundTo ins.reader = true) {r : PendingRequest} (hkey : r.key = call.key) :
    (p.hub.informed b state .card).awaits state .card r = true := by
  rcases hbound with ⟨session, hsession, hreader⟩
  rcases Hub.session?_informed b state hsession with ⟨w, hinformed⟩
  rcases Hub.mem_handles_of_session? hinformed with ⟨hmem, hhandle⟩
  rw [Hub.awaits, hreported.inserted, Bool.and_eq_true, List.any_eq_true]
  refine ⟨rfl, _, hmem, ?_⟩
  rw [hhandle, (session.notify_card state w).binding,
    Session.informed_of_isBound (Binding.isBound_of_isBoundTo hreader), hreported.name, hreader,
    hkey, Bool.and_true]
  exact beq_self_eq_true _

theorem report_stands (hlawful : ins.Lawful b) (hreported : ins.Reported state)
    (h : Stands ins call sources inserted standing p p') :
    Stands ins call sources inserted standing.reported p
      { p' with hub := p'.hub.onChange b state .card } := by
  have hsound := h.keeps.sound
  have hkeeps := Hub.onChange_keeps b state .card hsound
  rcases Hub.onChange_ends b state .card hsound with ⟨hsessions, hlive, reports, hposts, -⟩
  have hends : ∀ r ∈ p'.hub.pending.live, r.key = call.key →
      (p'.hub.informed b state .card).awaits state .card r = true :=
    fun r _ hkey => awaits_of_reported hreported h.bound hkey
  refine ⟨?_, ?_, ?_, ?_, ?_, ?_⟩
  · -- What is owed is owed as before, completed or not.
    refine (h.keeps.trans hkeeps).congr fun other => ?_
    cases standing <;> rfl
  · rcases h.bound with ⟨session, hsession, hreader⟩
    rcases Hub.session?_informed b state hsession with ⟨w, hinformed⟩
    refine ⟨_, hinformed, ?_⟩
    rw [(session.notify_card state w).binding,
      Session.informed_of_isBound (Binding.isBound_of_isBoundTo hreader), hreader]
  · exact Hub.informed_hardware b (hlawful.release inserted) h.holds
  · -- Whoever has the key of the read is ended by the report.
    have hnone : (p'.hub.onChange b state .card).pending.contains call.key = false := by
      rw [hkeeps.sound.consistent.contains_eq_any, List.any_eq_false]
      intro r hr hkey
      rw [hlive, List.mem_filter] at hr
      rw [hends r hr.1 (beq_iff_eq.mp hkey)] at hr
      cases hr.2
    rw [hnone]
    cases standing <;> rfl
  · cases standing <;> exact nofun
  · -- The message was posted before, or it is among those that the report posts.
    rcases h.posts with ⟨posts, hbefore, hdone⟩
    rw [hbefore, List.append_assoc, List.append_assoc] at hposts
    refine ⟨_, hposts, fun hcompleted => List.mem_append.mpr ?_⟩
    cases standing with
    | idle => cases hcompleted
    | completed => exact .inl (hdone rfl)
    | waiting =>
        rcases h.waiting rfl with ⟨r, hr, hkey, hwindow, hsources⟩
        refine .inr (List.mem_append_right _ (List.mem_flatMap.mpr ⟨r, ?_, ?_⟩))
        · exact List.mem_filter.mpr ⟨hr, hends r hr hkey⟩
        · rw [done, PendingRequest.completion, hkey, hwindow, hsources, hreported.atr]
          exact List.mem_cons_of_mem _ (List.mem_singleton_self _)

theorem befall_stands (hlawful : ins.Lawful b) (hreported : ins.Reported state)
    (schedule : Schedule) (moment : Moment) (hempty : schedule.inserted = moment → inserted = false)
    (h : Stands ins call sources inserted standing p p') :
    Stands ins call sources (inserted || schedule.inserted == moment)
      (if schedule.reported = moment then standing.reported else standing) p
      (p'.befall b ins.act state schedule moment) := by
  have hfirst : Stands ins call sources (inserted || schedule.inserted == moment) standing p
      (if schedule.inserted = moment then (p'.meet b (.happen (ins.act p'.hub.world.hardware))).2
        else p') := by
    split
    · next hnow =>
        rw [hempty hnow] at h
        rw [hnow, beq_self_eq_true, Bool.or_true]
        exact insert_stands hlawful h
    · next hother =>
        rw [beq_false_of_ne hother, Bool.or_false]
        exact h
  rw [befall]
  split
  · exact report_stands hlawful hreported hfirst
  · exact hfirst

/-- What a session finds that has no connection but to earlier cards. -/
theorem look_of_lawful (hlawful : ins.Lawful b)
    (hreader : session.binding.isBoundTo ins.reader = true)
    (hold : ∀ card, session.card = some card → ins.old card) {hardware : σ}
    (hholds : ins.holds inserted hardware) :
    ins.holds inserted (session.look b hardware).2 ∧
      if inserted && session.card.isNone then
        ∃ status, (session.look b hardware).1 = .ok status ∧ status.atr = ins.atr
      else ∃ e, (session.look b hardware).1 = .error e ∧ e.isAbsence = true := by
  rcases hcard : session.card with _ | card
  · simp only [Session.look, hcard, beq_iff_eq.mp hreader]
    cases inserted with
    | false => exact hlawful.empty _ _ hholds
    | true => exact hlawful.full _ _ hholds
  · simp only [Session.look, hcard, Option.isNone_some, Bool.and_false]
    exact hlawful.old inserted card _ (hold card hcard) hholds

/-- The attempt finds the card that is there, if the session has no connection
    yet. -/
theorem attempt_stands (hlawful : ins.Lawful b) (h : Stands ins call sources inserted .idle p p')
    (hsession : p'.hub.session? call.service = some session)
    (hreader : session.binding.isBoundTo ins.reader = true)
    (hold : ∀ card, session.card = some card → ins.old card) :
    Stands ins call sources inserted .idle p (p'.readNow b sources session).2 ∧
      (p'.readNow b sources session).1 =
        if inserted && session.card.isNone then
          .ended .success (.cardData (CardData.read sources ins.atr))
        else .noCard := by
  have hbound := Binding.isBound_of_isBoundTo hreader
  rcases look_of_lawful hlawful hreader hold h.holds with ⟨hholds, hfound⟩
  have hcalm := p'.readNow_calm (b := b) sources session
  rcases readNow_session? (b := b) sources hsession with ⟨session', hsession', hbinding⟩
  refine ⟨⟨?_, ?_, ?_, ?_, nofun, ?_⟩, ?_⟩
  · exact h.keeps.trans (hcalm.hub.keeps h.keeps.sound)
  · exact ⟨session', hsession', hbinding ▸ hreader⟩
  · exact readNow_hardware sources (hlawful.release inserted) hbound hholds
  · exact (congrArg (fun q => RequestQueue.contains q call.key) hcalm.hub.pending).trans h.pending
  · rcases h.posts with ⟨posts, hbefore, -⟩
    rcases hcalm.hub.posts with ⟨posts', hposts', -⟩
    exact ⟨posts ++ posts', by rw [hposts', hbefore, List.append_assoc], nofun⟩
  · rw [readNow_fst sources hbound]
    split
    · next hnow =>
        rw [if_pos hnow] at hfound
        rcases hfound with ⟨status, hstatus, hatr⟩
        rw [hstatus, Attempt.ofFound, hatr]
    · next hnot =>
        rw [if_neg hnot] at hfound
        rcases hfound with ⟨e, he, habsent⟩
        rw [he, Attempt.ofFound, if_pos habsent]

theorem complete_stands (h : Stands ins call sources inserted .idle p p') :
    Stands ins call sources inserted .completed p
      (p'.complete .executeComplete call CommandCode.readRawData.number .success
        (.cardData (CardData.read sources ins.atr))) := by
  refine ⟨?_, h.bound, h.holds, h.pending, nofun, ?_⟩
  · refine (h.keeps.trans (complete_keeps h.keeps.sound rfl call _ _ _)).congr fun other => ?_
    exact Nat.zero_add _
  · rcases h.posts with ⟨posts, hbefore, -⟩
    refine ⟨posts ++ [done call sources ins.atr], ?_, fun _ =>
      List.mem_append_right _ (List.mem_singleton_self _)⟩
    rw [complete, World.posts_post, hbefore, List.append_assoc]
    rfl

theorem enqueue_stands (hlawful : ins.Lawful b)
    (h : Stands ins call sources inserted .idle p p') (now : Instant) (timeout : Option Duration) :
    (p'.enqueue b call now timeout sources).1 = .success ∧
      Stands ins call sources inserted .waiting p (p'.enqueue b call now timeout sources).2 := by
  rcases h.bound with ⟨session, hsession, hreader⟩
  rcases Hub.mem_handles_of_session? hsession with ⟨hmem, hhandle⟩
  have hopen : call.service ∈ p'.hub.handles := List.mem_map.mpr ⟨session, hmem, hhandle⟩
  rcases enqueue_new (b := b) sources h.keeps.sound.consistent h.pending now timeout with
    ⟨haccepted, hadd, hqueued⟩
  have hkept := h.keeps.trans (addRequest_keeps h.keeps.sound rfl hopen hadd)
  have hwaiting : call.readRequest now timeout sources ∈
      (p'.enqueue b call now timeout sources).2.hub.pending.live := hqueued.mem_iff.mpr (.inl rfl)
  refine ⟨haccepted, ?_, ?_, ?_, ?_, ?_, ?_⟩
  · refine hkept.congr fun other => ?_
    exact (Nat.zero_add _).trans (waiting_of_call call now timeout sources _ other)
  · refine ⟨session, ?_, hreader⟩
    rw [Hub.session?, hqueued.sessions]
    exact hsession
  · -- The wait that is under way may be called off, and no card minds that.
    rcases hqueued.hardware with hsame | ⟨waiting, hcanceled⟩
    · rw [hsame]
      exact h.holds
    · rw [hcanceled]
      exact hlawful.cancel inserted waiting _ h.holds
  · exact (hqueued.consistent.contains_iff call.key).mpr ⟨_, hwaiting, rfl⟩
  · exact fun _ => ⟨_, hwaiting, rfl, rfl, rfl⟩
  · rcases h.posts with ⟨posts, hbefore, -⟩
    exact ⟨posts, hqueued.posts.trans hbefore, fun hcompleted => (by cases hcompleted)⟩

/-- The session at the attempt. Of its connection a report that came before makes
    an end, if it is about a replaced card. -/
theorem befall_session? (act : σ → σ) (hreported : ins.Reported state) (schedule : Schedule)
    (hsession : p.hub.session? call.service = some session)
    (hreader : session.binding.isBoundTo ins.reader = true) :
    ∃ session', (p.befall b act state schedule .before).hub.session? call.service = some session' ∧
      session'.binding = session.binding ∧
      session'.card =
        if schedule.reported == .before && session.observed.present && state.replaced then none
        else session.card := by
  have hpresent : state.present = true := by
    have hinserted := hreported.inserted
    rw [Snapshot.inserted, Bool.and_eq_true, Bool.and_eq_true] at hinserted
    exact hinserted.1.2
  -- The session does not notice the insertion as such.
  have hfirst : (if schedule.inserted = .before then
      (p.meet b (.happen (act p.hub.world.hardware))).2 else p).hub.session? call.service =
        some session := by
    split <;> exact hsession
  rw [befall]
  split
  · next hnow =>
      rcases Hub.session?_informed b state hfirst with ⟨w, hinformed⟩
      refine ⟨_, hinformed, ?_, ?_⟩
      · rw [(session.notify_card state w).binding,
          Session.informed_of_isBound (Binding.isBound_of_isBoundTo hreader)]
      · rw [Session.notify_connection b (hreported.name ▸ hreader), hpresent, hnow,
          beq_self_eq_true, Bool.not_true, Bool.false_or, Bool.true_and]
  · next hother =>
      refine ⟨session, hfirst, rfl, ?_⟩
      rw [beq_false_of_ne hother, Bool.false_and, Bool.false_and, if_neg Bool.false_ne_true]

/-- A read on a session that is bound to an empty reader, of which it has at most
    a connection to an earlier card. The read is accepted, however insertion and
    report fall. If it misses the card it is left waiting, and otherwise it is
    completed with the data of the card. -/
theorem readAmid_stands (hlawful : ins.Lawful b) (hreported : ins.Reported state)
    (h : Stands ins call sources false .idle p p)
    (hsession : p.hub.session? call.service = some session)
    (hreader : session.binding.isBoundTo ins.reader = true)
    (hold : ∀ card, session.card = some card → ins.old card) (schedule : Schedule) (now : Instant)
    (timeout : Option Duration) :
    (p.readAmid b ins.act state schedule call now timeout sources).1 = .success ∧
      Stands ins call sources true (if schedule.misses session state then .waiting else .completed)
        p (p.readAmid b ins.act state schedule call now timeout sources).2 := by
  rcases befall_session? (b := b) ins.act hreported schedule hsession hreader with
    ⟨session', hsession', hbinding, hcard⟩
  have hold' : ∀ card, session'.card = some card → ins.old card := by
    intro card hcard'
    rw [hcard] at hcard'
    split at hcard'
    · cases hcard'
    · exact hold card hcard'
  have hmisses : schedule.misses session state = (schedule.reported != .after &&
      !(schedule.inserted == .before && session'.card.isNone)) := by
    rw [hcard, Schedule.misses, bne, bne]
    cases schedule.inserted == .before <;> cases session.card <;>
      cases schedule.reported == .before && session.observed.present && state.replaced <;> rfl
  -- A report makes nothing of a read that is not decided, or that is completed.
  have hbefore : Stands ins call sources (schedule.inserted == .before) .idle p
      (p.befall b ins.act state schedule .before) := by
    have hbefallen := befall_stands hlawful hreported schedule .before (fun _ => rfl) h
    rw [Standing.reported, ite_self, Bool.false_or] at hbefallen
    exact hbefallen
  rcases attempt_stands hlawful hbefore hsession' (hbinding ▸ hreader) hold' with
    ⟨hattempted, hattempt⟩
  rw [readAmid, hsession', hmisses]
  simp only
  rcases hread : (p.befall b ins.act state schedule .before).readNow b sources session' with
    ⟨attempt, q⟩
  rw [hread] at hattempted hattempt
  obtain rfl : attempt = _ := hattempt
  by_cases hfound : (schedule.inserted == .before && session'.card.isNone) = true
  · rw [if_pos hfound, hfound, Bool.not_true, Bool.and_false, if_neg Bool.false_ne_true]
    have hinserted : schedule.inserted = .before := beq_iff_eq.mp (Bool.and_eq_true_iff.mp hfound).1
    refine ⟨rfl, ?_⟩
    -- The read is completed at once, and later moments add nothing to that.
    have hcompleted := complete_stands hattempted
    have hbetween := befall_stands hlawful hreported schedule .between
      (fun hnow => nomatch hinserted.symm.trans hnow) hcompleted
    have hafter := befall_stands hlawful hreported schedule .after
      (fun hnow => nomatch hinserted.symm.trans hnow) hbetween
    simp only [hinserted, Standing.reported, ite_self] at hafter
    exact hafter
  · rw [if_neg hfound, eq_false_of_ne_true hfound, Bool.not_false, Bool.and_true]
    -- The request is queued, and only a report that comes after that completes it.
    have hbetween := befall_stands hlawful hreported schedule .between
      (fun hnow => by rw [hnow]; rfl) hattempted
    rw [Standing.reported, ite_self] at hbetween
    rcases enqueue_stands hlawful hbetween now timeout with ⟨haccepted, hqueued⟩
    have hafter := befall_stands hlawful hreported schedule .after
      (fun hnow => by rw [hnow]; rfl) hqueued
    refine ⟨haccepted, ?_⟩
    have hthere : (((schedule.inserted == .before) || (schedule.inserted == .between)) ||
        (schedule.inserted == .after)) = true := by
      cases schedule.inserted <;> rfl
    rw [hthere] at hafter
    by_cases hlast : schedule.reported = .after
    · rw [if_pos hlast] at hafter
      rw [hlast]
      exact hafter
    · rw [if_neg hlast] at hafter
      rw [if_pos (bne_iff_ne.mpr hlast)]
      exact hafter

/-- A read that waits was not completed, if it did not wait before. -/
theorem Stands.completions (h : Stands ins call sources inserted .waiting p p')
    (hnew : p.hub.pending.contains call.key = false) (hconsistent : p.hub.pending.Consistent) :
    call.completions p'.hub.world.posts = call.completions p.hub.world.posts := by
  -- One completion is owed for the read, and its request stands for that one.
  have hbalance := h.keeps.balance call
  have hbefore : call.waiting p.hub.pending.live = 0 := by
    refine List.countP_eq_zero.mpr fun r hr hof => ?_
    rw [PendingRequest.isOf, Bool.and_eq_true, beq_iff_eq, beq_iff_eq] at hof
    rw [hconsistent.contains_eq_any, List.any_eq_false] at hnew
    exact hnew r hr (beq_iff_eq.mpr hof.2)
  have hafter : 0 < call.waiting p'.hub.pending.live := by
    rcases h.waiting rfl with ⟨r, hr, hkey, hwindow, -⟩
    refine List.countP_pos_iff.mpr ⟨r, hr, ?_⟩
    rw [PendingRequest.isOf, hkey, hwindow, beq_self_eq_true, beq_self_eq_true, Bool.and_self]
  have honce : Standing.owed call .waiting call = 1 := if_pos rfl
  rcases h.posts with ⟨posts, hposts, -⟩
  rw [Hub.balance, Hub.balance, honce, hbefore, hposts, call.completions_append] at hbalance
  rw [hposts, call.completions_append]
  omega

/-- A card that is inserted while a client reads, after any run. The session is
    open and bound to the reader, which is empty, and of which it has at most a
    connection to an earlier card. The read is accepted, whenever the card comes
    and whenever that is reported. If the read misses the card it is left
    waiting, with the card in the reader and the report made; in all other
    orders it is completed with the data of the card. -/
theorem run_readAmid (b : Backend σ κ ε) (ins : Insertion σ κ) (hlawful : ins.Lawful b)
    (hardware : σ) (config : Config) (events : List (Event σ)) (state : Snapshot)
    (hreported : ins.Reported state) (schedule : Schedule) (call : Call) (now : Instant)
    (timeout : Option Duration) (sources : DataSources) (session : Session κ) :
    let p := ((start { hardware } config : Provider σ κ ε).run b events).2
    let (code, p') := p.readAmid b ins.act state schedule call now timeout sources
    p.hub.session? call.service = some session → session.binding.isBoundTo ins.reader = true →
      (∀ card, session.card = some card → ins.old card) → ins.holds false p.hub.world.hardware →
        p.hub.pending.contains call.key = false →
          code = .success ∧ ins.holds true p'.hub.world.hardware ∧
            if schedule.misses session state then
              (∃ r ∈ p'.hub.pending.live, r.key = call.key ∧ r.window = call.window) ∧
                call.completions p'.hub.world.posts = call.completions p.hub.world.posts
            else p'.hub.pending.contains call.key = false ∧
              ∃ posts, p'.hub.world.posts = p.hub.world.posts ++ posts ∧
                done call sources ins.atr ∈ posts := by
  intro p
  rcases hread : p.readAmid b ins.act state schedule call now timeout sources with ⟨code, p'⟩
  intro hsession hreader hold hempty hnew
  have hsound : p.hub.Sound := run_sound b hardware config events
  have hidle : Stands ins call sources false .idle p p :=
    ⟨Hub.Keeps.refl hsound, ⟨session, hsession, hreader⟩, hempty, hnew, nofun,
      [], (List.append_nil _).symm, nofun⟩
  have hstands := readAmid_stands hlawful hreported hidle hsession hreader hold schedule now timeout
  rw [hread] at hstands
  rcases hstands with ⟨haccepted, hstands⟩
  refine ⟨haccepted, hstands.holds, ?_⟩
  split
  · next hmisses =>
      rw [if_pos hmisses] at hstands
      rcases hstands.waiting rfl with ⟨r, hr, hkey, hwindow, -⟩
      exact ⟨⟨r, hr, hkey, hwindow⟩, hstands.completions hnew hsound.consistent⟩
  · next hmisses =>
      rw [if_neg hmisses] at hstands
      rcases hstands.posts with ⟨posts, hposts, hdone⟩
      exact ⟨hstands.pending, posts, hposts, hdone rfl⟩

end Provider

namespace Simulation

/-- A card that is inserted into a reader of a hall. Cards have numbers, so
    connections to earlier ones can be told. -/
def insertion (reader : String) (atr : Bytes) (protocol : Option Protocol) (state : CardState)
    (earlier : Nat) : Insertion Hall Connection where
  reader
  atr
  act hall := hall.happen (.insert reader atr protocol state)
  holds inserted hall := hall.failures = [] ∧ ∃ r, hall.reader? reader = some r ∧
    if inserted then ∃ card, r.card = some card ∧ card.atr = atr ∧ earlier < card.number
    else r.card = none ∧ earlier ≤ hall.cards
  old connection := connection.reader = reader ∧ connection.card ≤ earlier

theorem reader?_modify (hall : Hall) (name : String) (change : Reader → Reader)
    (hname : ∀ r, (change r).name = r.name) :
    (hall.modify name change).reader? name = (hall.reader? name).map change := by
  have htest : ((fun r : Reader => r.name == name) ∘ fun r =>
      if r.name = name then change r else r) = fun r => r.name == name := by
    funext r
    rw [Function.comp_apply]
    split
    · rw [hname]
    · rfl
  rw [Hall.reader?, Hall.reader?, Hall.modify, List.find?_map, htest]
  refine Option.map_congr fun r hr => ?_
  have hmatch := List.find?_some hr
  exact if_pos (beq_iff_eq.mp hmatch)

theorem insertion_lawful (reader : String) (atr : Bytes) (protocol : Option Protocol)
    (state : CardState) (earlier : Nat) :
    (insertion reader atr protocol state earlier).Lawful backend where
  act hall h := by
    rcases h with ⟨hfailures, r, hr, hcard, hearlier⟩
    have hchanged := reader?_modify { hall with cards := hall.cards + 1 } reader
      (fun r => { r with
        card := some ⟨hall.cards + 1, atr, protocol, state⟩, count := r.count + 1#16 })
      fun _ => rfl
    rw [show ({ hall with cards := hall.cards + 1 } : Hall).reader? reader = some r from hr]
      at hchanged
    exact ⟨hfailures, _, hchanged, _, rfl, rfl, Nat.lt_succ_of_le hearlier⟩
  release _ _ _ h := h
  cancel inserted waiting hall h := by
    show (insertion reader atr protocol state earlier).holds inserted
      (hall.attempt .cancel fun hall => (.ok (), hall.cancelWait waiting)).2
    rw [attempt_of_nil h.1, Hall.cancelWait]
    split
    · exact h
    · exact h
  empty mode hall h := by
    rcases h with ⟨hfailures, r, hr, hcard, hearlier⟩
    have hnone : hall.cardIn reader = .error .noSmartcard := by
      simp only [Hall.cardIn, hr, hcard]
    have hlook := look_eq hfailures reader mode
    rw [hnone] at hlook
    show (insertion reader atr protocol state earlier).holds false
      (backend.look reader mode hall).2 ∧ ∃ e, (backend.look reader mode hall).1 = .error e ∧ _
    rw [hlook]
    exact ⟨⟨hfailures, r, hr, hcard, hearlier⟩, _, rfl, rfl⟩
  full mode hall h := by
    rcases h with ⟨hfailures, r, hr, card, hcard, hatr, hlater⟩
    have hfound : hall.cardIn reader = .ok card := by
      simp only [Hall.cardIn, hr, hcard]
    have hlook := look_eq hfailures reader mode
    rw [hfound] at hlook
    show (insertion reader atr protocol state earlier).holds true
      (backend.look reader mode hall).2 ∧
        ∃ status, (backend.look reader mode hall).1 = .ok status ∧ _
    rw [hlook]
    exact ⟨⟨hfailures, r, hr, card, hcard, hatr, hlater⟩, _, rfl, hatr⟩
  old inserted c hall hold h := by
    have hstatus := status_eq h.1 c
    have hgone : hall.card? c.reader c.card = .error .removedCard := by
      rcases h with ⟨-, r, hr, hthere⟩
      rw [hold.1, Hall.card?, show hall.reader? reader = some r from hr]
      cases inserted with
      | false => simp only [hthere.1]
      | true =>
          -- The card in the reader came later than that of the connection.
          rcases hthere with ⟨card, hcard, -, hlater⟩
          simp only [hcard]
          exact if_neg (Nat.ne_of_gt (Nat.lt_of_le_of_lt hold.2 hlater))
    rw [hgone] at hstatus
    rcases Prod.mk.inj hstatus with ⟨hvalue, hstate⟩
    rw [hvalue, hstate]
    exact ⟨h, _, rfl, rfl⟩

/-- The insertion of a card into the one reader of a hall. -/
def firstCard : Insertion Hall Connection := insertion "A" [0x3b, 0x01] none 0#32 0

/-- The report of that insertion. -/
def firstReport : Snapshot := ⟨"A", 0x10#32, 0x10022#32, [0x3b, 0x01]⟩

/-- A session that was just opened, to work with that reader. -/
def firstOpened : Provider Hall Connection Note :=
  ((Provider.start { hardware := oneReader } (configuredTo "A")).run backend
    [.enter 0 (.openSession ⟨1, 1, 1⟩ "L" 0)]).2

/-- A read on that session while the card is inserted. -/
def firstRead (schedule : Schedule) : Provider Hall Connection Note :=
  (firstOpened.readAmid backend firstCard.act firstReport schedule ⟨1, 1, 2⟩ 0 none 8#16).2

/-- If the card is reported before the attempt it is not missed, and if it is
    reported in between it is. -/
theorem run_readAmid_firstRead :
    (∃ posts, (firstRead ⟨.before, .before, by decide⟩).hub.world.posts =
        firstOpened.hub.world.posts ++ posts ∧
      Provider.done ⟨1, 1, 2⟩ 8#16 [0x3b, 0x01] ∈ posts) ∧
    (∃ r ∈ (firstRead ⟨.between, .between, by decide⟩).hub.pending.live,
      r.key = ⟨1, 2⟩ ∧ r.window = 1) ∧
    Call.completions ⟨1, 1, 2⟩ (firstRead ⟨.between, .between, by decide⟩).hub.world.posts =
      Call.completions ⟨1, 1, 2⟩ firstOpened.hub.world.posts := by
  let session : Session Connection := Session.start 1 ⟨"L", "p", some "A", 0, false, {}⟩
  have hread := fun schedule => Provider.run_readAmid backend firstCard
    (insertion_lawful "A" [0x3b, 0x01] none 0#32 0) oneReader (configuredTo "A")
    [.enter 0 (.openSession ⟨1, 1, 1⟩ "L" 0)] firstReport ⟨rfl, by decide, rfl⟩ schedule
    ⟨1, 1, 2⟩ 0 none 8#16 session rfl rfl nofun ⟨rfl, _, rfl, rfl, Nat.le_refl 0⟩ (by decide)
  exact ⟨(hread ⟨.before, .before, by decide⟩).2.2.2, (hread ⟨.between, .between, by decide⟩).2.2⟩

/-- A card is read, taken out again before the watcher looks, and replaced by
    another, which the watcher reports. Then there is another read. -/
def secondCard : List (Event Hall) :=
  let first := oneReader.happen (.insert "A" [0x3b, 0x8f] none 0#32)
  let gone := first.happen (.remove "A")
  let second := gone.happen (.insert "A" [0x3b, 0x01] none 0#32)
  [.enter 0 (.openSession ⟨1, 1, 1⟩ "L" 0), .watch 0, .watch 0, .watch 0, .watch 0, .watch 0,
   .watch 0, .watch 0, .happen first, .enter 0 (.execute ⟨1, 1, 2⟩ none (.readRawData 8#16)),
   .happen gone, .watch 0, .watch 0, .happen second, .watch 0, .watch 0,
   .enter 0 (.execute ⟨1, 1, 3⟩ none (.readRawData 8#16)), .watch 0, .watch 0]

set_option maxRecDepth 4000 in
/-- Two reads that are left waiting for a card which is in the reader, was
    reported, and could be read. The first is made to wait just after the report,
    the second looks through the connection to the card before. -/
theorem reads_left_waiting :
    let p := firstRead ⟨.between, .between, by decide⟩
    let p' := ((Provider.start { hardware := oneReader } (configuredTo "A")).run backend
      secondCard).2
    (p.hub.pending.contains ⟨1, 2⟩ = true ∧
      (backend.look "A" .shared p.hub.world.hardware).1 = .ok ⟨0#32, none, [0x3b, 0x01]⟩) ∧
    (p'.hub.pending.contains ⟨1, 3⟩ = true ∧
      (backend.look "A" .shared p'.hub.world.hardware).1 = .ok ⟨0#32, none, [0x3b, 0x01]⟩ ∧
      ∃ timeout ends set, p'.watcher.phase = .waiting timeout ends set ∧
        ∀ s ∈ set.entries, scene.differs p'.hub.world.hardware s = false) := by
  intro p p'
  refine ⟨by decide, by decide, by decide, Watcher.slice, Watcher.slice,
    ⟨⟨Snapshot.listName, 0#32, 0#32, []⟩, [⟨"A", 0x30022#32, 0x30022#32, [0x3b, 0x01]⟩]⟩,
    by decide, by decide⟩

end Simulation

end CardHost
