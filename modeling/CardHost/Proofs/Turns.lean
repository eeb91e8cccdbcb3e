import CardHost.Proofs.Callbacks
import CardHost.Proofs.Nudges

/-!
# The Turns of the Watch

The watcher carries something along from one call to the next. Before the
readers are listed it is the entry for the list of readers, and from then on the
entries of a wait. While it has news to tell, what it carries is in the last of
its duties, and its phase does not count.

There are few ways in which this can change. The readers are listed, a wait
returns with reports, or the entries are given up for a fresh list. `Turn` names
them, and `move_turn` finds that no move does anything else. What is to be shown
of the entries of a wait, in a run with calls from inside completions, is then
shown of five cases.

## Main definitions

* `Hold`, `Stage.hold`: What the watcher carries along.
* `Deed`, `Stage.doing`: What the watcher does in a move.
* `Stage.Aside`: A move in which it does nothing.
* `Stage.Mover`: Who makes a move.
* `Stage.Orderly`: The watcher goes on once, and begins no wait past a request
  to list the readers.
* `Stage.Turn`: How a move can change what the watcher carries along.

## Theorems

* `Watcher.go_going`: Where a watcher can go.
* `Aside.of_settle`, `enter_aside`, `work_aside`: The moves of clients.
* `move_mover`: Who makes a move.
* `work_tell`, `work_go`, `watch_turn`: The moves of the watcher.
* `watch_hub`: What its steps leave alone.
* `move_turn`: All moves.
-/

namespace CardHost

variable {σ κ ε : Type}

/-- What a watcher carries from one call to the next. -/
inductive Hold where
  | nothing
  /-- Only the entry for the list of readers. -/
  | kept (list : Snapshot)
  /-- The same, while the readers are listed. -/
  | listing (list : Snapshot)
  /-- All entries of a wait. -/
  | entries (set : WaitSet)
  deriving DecidableEq, Repr

namespace Hold

/-- The entry for the list of readers. -/
def list? : Hold → Option Snapshot
  | nothing => none
  | kept list | listing list => some list
  | entries set => some set.list

/-- Whether the readers are being listed. -/
def isListing : Hold → Bool
  | listing _ => true
  | nothing | kept _ | entries _ => false

end Hold

def Next.hold : Next → Hold
  | .round set => .entries set
  | .listing list | .pause _ list => .kept list

def Phase.hold : Phase → Hold
  | .listing list => .listing list
  | .pausing _ list => .kept list
  | .timing _ set | .waiting _ _ set => .entries set
  | .stopped => .nothing

/-- Whether a watcher is at rest until something happens. -/
def Phase.isResting : Phase → Bool
  | .waiting .. | .pausing .. | .stopped => true
  | .listing _ | .timing .. => false

/-- Something that is done for the watch over the readers. -/
inductive Deed where
  /-- A session was opened. -/
  | opened (handle : ServiceHandle)
  /-- A session was closed. -/
  | closed (handle : ServiceHandle)
  /-- The watcher set out to list the readers. -/
  | setOut
  /-- The readers were listed. -/
  | listed (list : Snapshot) (names : List String)
  /-- A wait began. -/
  | began (set : WaitSet)
  /-- A wait on some entries returned with reports. -/
  | heard (set : WaitSet) (reports : List (ReaderFlags × Bytes))
  /-- An entry that changed was shown to the sessions. -/
  | told (s : Snapshot)
  deriving DecidableEq, Repr

namespace Watcher

/-- Where a watcher can go. -/
inductive Going (m : Watcher) : Next → Watcher → Prop where
  | stopped (next : Next) (hstop : m.stop = true) : Going m next { m with phase := .stopped }
  /-- The readers are to be listed afresh before the next wait. -/
  | resynced (set : WaitSet) (hresync : m.resync = true) :
      Going m (.round set) { m with phase := .listing set.list, resync := false }
  | round (set : WaitSet) (hresync : m.resync = false) :
      Going m (.round set) { m with phase := .timing m.epoch set }
  | listing (list : Snapshot) :
      Going m (.listing list) { m with phase := .listing list, resync := false }
  | pausing (now : Instant) (list : Snapshot) :
      Going m (.pause now list) { m with phase := .pausing (now + pause) list }

theorem go_going (m : Watcher) (next : Next) : m.Going next (m.go next) := by
  by_cases hstop : m.stop = true
  · cases next with
    | round set => simpa only [go, enterRound, if_pos hstop] using Going.stopped _ hstop
    | listing list => simpa only [go, enterListing, if_pos hstop] using Going.stopped _ hstop
    | pause now list => simpa only [go, enterPause, if_pos hstop] using Going.stopped _ hstop
  · cases next with
    | round set =>
        by_cases hresync : m.resync = true
        · simpa only [go, enterRound, enterListing, if_neg hstop, if_pos hresync]
            using Going.resynced set hresync
        · simpa only [go, enterRound, if_neg hstop, if_neg hresync]
            using Going.round set (eq_false_of_ne_true hresync)
    | listing list => simpa only [go, enterListing, if_neg hstop] using Going.listing list
    | pause now list => simpa only [go, enterPause, if_neg hstop] using Going.pausing now list

end Watcher

/-- A duty of the watcher, apart from the passing of time. -/
inductive Chore where
  /-- A changed entry is to be shown to the sessions. -/
  | tell (s : Snapshot)
  /-- The watcher is to go on. -/
  | go (next : Next)

/-- The duty as one of the watcher, if it is. -/
def Duty.chore? : Duty κ → Option Chore
  | .tell (.change s) => some (.tell s)
  | .go next => some (.go next)
  | .post _ | .wakeIf _ | .release .. | .tell (.timeout _) => none

def Chore.hold? : List Chore → Option Hold
  | [] => none
  | .tell _ :: chores => hold? chores
  | .go next :: _ => some next.hold

def Chore.entry? : Chore → Option Snapshot
  | tell s => some s
  | go _ => none

/-- To show some entries and then to go on. -/
def Chore.errand (news : List Snapshot) (next : Next) : List Chore :=
  news.map .tell ++ [.go next]

theorem Chore.hold?_errand (news : List Snapshot) (next : Next) :
    hold? (errand news next) = some next.hold := by
  induction news with
  | nil => rfl
  | cons s rest ih => exact ih

theorem Chore.entry?_errand (news : List Snapshot) (next : Next) :
    (errand news next).filterMap entry? = news := by
  rw [errand, List.filterMap_append, List.filterMap_map]
  exact (List.append_nil _).trans List.filterMap_some

namespace Stage

/-- What the watcher has still to do. -/
def chores (st : Stage σ κ ε) : List Chore := st.duties.filterMap Duty.chore?

/-- The changed entries that are still to be shown. -/
def untold (st : Stage σ κ ε) : List Snapshot := st.chores.filterMap Chore.entry?

def hold (st : Stage σ κ ε) : Hold :=
  (Chore.hold? st.chores).getD st.provider.watcher.phase.hold

/-- What the watcher does in its next step. -/
def watching (b : Backend σ κ ε) (now : Instant) (st : Stage σ κ ε) : Option Deed :=
  let m := st.provider.watcher
  let hardware := st.provider.hub.world.hardware
  match m.phase with
  | .listing list =>
    match (b.list hardware).value with
    | .ok names => some (.listed list names)
    | .error _ => none
  | .timing epoch set => if m.epoch = epoch then some (.began set) else none
  | .waiting timeout ends set =>
    if m.stop then none
    else
      match (b.wait ⟨some timeout, ends, now, set.entries⟩ hardware).map Reply.value with
      | some (.ok (.changed reports)) => some (.heard set reports)
      | _ => none
  | .pausing .. | .stopped => none

/-- What the watcher does in a move. -/
def doing (b : Backend σ κ ε) (st : Stage σ κ ε) : Move σ → Option Deed
  | .work =>
    match st.duties with
    | .tell (.change s) :: _ => some (.told s)
    | _ => none
  | .watch now => if st.duties.isEmpty then st.watching b now else none
  | _ => none

variable {b : Backend σ κ ε} {st st' st'' : Stage σ κ ε}

/-- A move in which the watcher does nothing, and stays where it stood. -/
structure Aside (st st' : Stage σ κ ε) : Prop where
  nudges : st.provider.Nudges st'.provider
  chores : st'.chores = st.chores

theorem Aside.hold (h : st.Aside st') : st'.hold = st.hold := by
  rw [Stage.hold, Stage.hold, h.chores, h.nudges.phase]

theorem Aside.untold (h : st.Aside st') : st'.untold = st.untold := by
  rw [Stage.untold, h.chores, Stage.untold]

theorem Aside.refl (st : Stage σ κ ε) : st.Aside st := ⟨Provider.Nudges.refl _, rfl⟩

/-- Something that clients have done to the provider in one go. -/
theorem Aside.of_act {f : Provider σ κ ε → Provider σ κ ε}
    (h : st.provider.Nudges (f st.provider)) : st.Aside (st.act f) := ⟨h, rfl⟩

/-- Ended requests are taken out, and what follows is no duty of the watcher. -/
theorem Aside.of_settle (h : st.Aside st') (s : Settled) (rest : List (Duty κ))
    (hrest : rest.filterMap Duty.chore? = []) : st.Aside (st'.settle s rest) := by
  refine ⟨h.nudges.trans (Provider.Nudges.of_same rfl fun _ h => h), ?_⟩
  have hposts : s.posts.filterMap (Duty.chore? (κ := κ) ∘ Duty.post) = [] :=
    List.filterMap_eq_nil_iff.mpr fun _ _ => rfl
  show (s.posts.map Duty.post ++ rest ++ st'.duties).filterMap Duty.chore? = st.chores
  rw [List.filterMap_append, List.filterMap_append, List.filterMap_map, hposts, hrest]
  exact h.chores

theorem remove_aside (handle : ServiceHandle) (call? : Option Call) (st : Stage σ κ ε) :
    st.Aside (st.remove handle call?) := by
  rw [remove]
  split
  · exact Aside.refl st
  · refine Aside.of_settle (Aside.of_act ?_) _ _ rfl
    exact Provider.Nudges.of_same rfl fun other hother =>
      (List.filter_sublist.map Session.handle).subset hother

theorem change_aside (b : Backend σ κ ε) (state : Snapshot) (kind : ChangeKind)
    (st : Stage σ κ ε) : st.Aside (st.change b state kind) := by
  refine Aside.of_settle (Aside.of_act ?_) _ _ rfl
  exact Provider.Nudges.of_same rfl fun handle hmem =>
    (Hub.informed_quiet b state kind st.provider.hub).handles ▸ hmem

/-- A call, up to its first completion. -/
theorem enter_aside (b : Backend σ κ ε) (now : Instant) (entry : Entry) (st : Stage σ κ ε) :
    st.Aside (st.enter b now entry) := by
  have hwhole := (Provider.enter_course b now entry st.provider).nudges
  -- Two calls have completions to post on their way, and go on as duties.
  cases entry with
  | closeSession call => exact remove_aside call.service (some call) st
  | cancelAsync handle request =>
      show st.Aside (st.cancelAsync handle request)
      rw [cancelAsync.eq_def]
      split
      · exact Aside.refl st
      · exact (Aside.refl st).of_settle _ _ rfl
      · exact (Aside.refl st).of_settle _ _ rfl
  | openSession | lock | unlock | register | deregister | getInfo | execute | executeRaw
  | setTraceLevel | unload | reload => exact ⟨hwhole, rfl⟩

/-- A duty that is none of the watcher's. -/
theorem work_aside {duty : Duty κ} {duties : List (Duty κ)} (hduties : st.duties = duty :: duties)
    (hduty : duty.chore? = none) : st.Aside (st.work b) := by
  rcases st with ⟨p, _, begun⟩
  cases hduties
  -- With the duty gone, those of the watcher are what they were.
  have hgone : ∀ p' : Provider σ κ ε, p.Nudges p' →
      Aside ⟨p, duty :: duties, begun⟩ ⟨p', duties, begun⟩ := fun p' hnudges =>
    ⟨hnudges, (List.filterMap_cons_none hduty).symm⟩
  cases duty with
  | post post => exact hgone _ (Provider.Nudges.of_same rfl fun _ h => h)
  | wakeIf cause => exact hgone _ ((Provider.Nudges.refl p).wakeIf cause)
  | release session call? =>
      cases call? with
      | none => exact hgone _ (Provider.Nudges.of_same rfl fun _ h => h)
      | some call => exact hgone _ (Provider.Nudges.of_same rfl fun _ h => h)
  | tell news =>
      cases news with
      | timeout now => exact (hgone p (Provider.Nudges.refl p)).of_settle _ _ rfl
      | change s => cases hduty
  | go next => cases hduty

/-- Who makes a move: clients, or the watcher, with what it has to do. -/
inductive Mover (b : Backend σ κ ε) (st : Stage σ κ ε) : Move σ → Prop where
  | client (move : Move σ) (haside : st.Aside (st.move b move)) (hidle : st.doing b move = none) :
      Mover b st move
  | tells (s : Snapshot) (duties : List (Duty κ))
      (hduties : st.duties = .tell (.change s) :: duties)
      (hnudges : st.provider.Nudges (st.work b).provider) : Mover b st .work
  | goes (next : Next) (duties : List (Duty κ)) (hduties : st.duties = .go next :: duties)
      (hwork : (st.work b).provider = { st.provider with watcher := st.provider.watcher.go next }) :
      Mover b st .work
  | watches (now : Instant) (hduties : st.duties = [])
      (hwatch : st.move b (.watch now) = st.watch b now)
      (hdoing : st.doing b (.watch now) = st.watching b now) : Mover b st (.watch now)
  | ticks (now : Instant) : Mover b st (.tick now)
  | stops : Mover b st .stop

theorem work_mover (b : Backend σ κ ε) (st : Stage σ κ ε) : Mover b st .work := by
  have hclient : ∀ {duty : Duty κ} {duties : List (Duty κ)}, st.duties = duty :: duties →
      duty.chore? = none → st.doing b .work = none → Mover b st .work :=
    fun hduties hduty hidle => .client .work (work_aside hduties hduty) hidle
  rcases hduties : st.duties with _ | ⟨_ | _ | _ | ⟨now | s⟩ | next, duties⟩
  · refine .client .work ?_ (by rw [doing, hduties])
    rw [move.eq_def, work, hduties]
    exact Aside.refl st
  · exact hclient hduties rfl (by rw [doing, hduties])
  · exact hclient hduties rfl (by rw [doing, hduties])
  · exact hclient hduties rfl (by rw [doing, hduties])
  · exact hclient hduties rfl (by rw [doing, hduties])
  · refine .tells s duties hduties ?_
    rw [work, hduties]
    exact (change_aside b s s.kind ⟨st.provider, duties, st.begun⟩).nudges
  · refine .goes next duties hduties ?_
    rw [work, hduties]
    rfl

/-- A move is one of clients, or one of a few of the watcher. -/
theorem move_mover (b : Backend σ κ ε) (st : Stage σ κ ε) (move : Move σ) : Mover b st move := by
  cases move with
  | work => exact work_mover b st
  | enter now entry => exact .client _ (enter_aside b now entry st) rfl
  | createSession handle settings =>
      exact .client _ ⟨Provider.createSession_nudges handle settings, rfl⟩ rfl
  | removeSession handle => exact .client _ (remove_aside handle none st) rfl
  | addRequest request => exact .client _ ⟨Provider.addRequest_nudges request, rfl⟩ rfl
  | cancelRequest | cancelService | cancelAll =>
      exact .client _ ((Aside.refl st).of_settle _ _ rfl) rfl
  | change state kind => exact .client _ (change_aside b state kind st) rfl
  | happen hardware => exact .client _ ⟨Provider.Nudges.of_same rfl fun _ h => h, rfl⟩ rfl
  | watch now =>
      rcases hduties : st.duties with _ | ⟨duty, duties⟩
      · exact .watches now hduties (by rw [move.eq_def, hduties]; rfl)
          (by rw [doing, hduties]; rfl)
      · -- A watcher with duties left makes no other step.
        refine .client _ ?_ (by rw [doing, hduties]; rfl)
        rw [move.eq_def, hduties]
        exact Aside.refl st
  | tick now => exact .ticks now
  | stop => exact .stops

/-- The watcher first shows what changed and then goes on, once, and has nothing
    to do while it rests. When it is about to wait, in an epoch that has not
    passed, nobody has asked for the readers to be listed. -/
structure Orderly (st : Stage σ κ ε) : Prop where
  shape : st.chores = [] ∨ ∃ news next, st.chores = Chore.errand news next
  resting : st.provider.watcher.phase.isResting = true → st.chores = []
  prompt : st.chores = [] → ∀ epoch set, st.provider.watcher.phase = .timing epoch set →
    epoch ≤ st.provider.watcher.epoch ∧
      (st.provider.watcher.epoch = epoch → st.provider.watcher.resync = false)

theorem Aside.orderly (h : st.Aside st') (horderly : st.Orderly) : st'.Orderly := by
  refine ⟨h.chores ▸ horderly.shape, fun hresting => ?_, fun hchores epoch set hphase => ?_⟩
  · rw [h.nudges.phase] at hresting
    exact h.chores.trans (horderly.resting hresting)
  · rw [h.chores] at hchores
    rw [h.nudges.phase] at hphase
    rcases horderly.prompt hchores epoch set hphase with ⟨hle, hresync⟩
    have hgrown := h.nudges.epoch
    refine ⟨Nat.le_trans hle hgrown, fun hepoch => ?_⟩
    -- The epoch is that of the round, so it was then, and the flag is as it was.
    rw [h.nudges.same (by omega)]
    exact hresync (by omega)

/-- How a move can change what the watcher carries along, with what it does. -/
inductive Turn (b : Backend σ κ ε) (st st' : Stage σ κ ε) : Option Deed → Prop where
  /-- Nothing changes, and a request to list the readers stands. -/
  | same (hhold : st'.hold = st.hold) (huntold : st'.untold = st.untold)
      (hresync : (∀ list, st.hold ≠ .kept list) → st.provider.watcher.resync = true →
        st'.provider.watcher.resync = true) : Turn b st st' none
  /-- A changed entry is shown to the sessions, and nothing else changes. -/
  | told (s : Snapshot) (hhold : st'.hold = st.hold) (huntold : st.untold = s :: st'.untold)
      (hresync : st'.provider.watcher.resync = st.provider.watcher.resync) :
      Turn b st st' (some (.told s))
  /-- A wait begins. -/
  | began (set : WaitSet) (hduties : st.duties = []) (huntold : st'.untold = [])
      (hhold : st.hold = .entries set) (hhold' : st'.hold = .entries set)
      (hresync : st.provider.watcher.resync = false) : Turn b st st' (some (.began set))
  /-- The watcher sets out to list the readers. -/
  | setOut (list : Snapshot) (huntold : st'.untold = st.untold)
      (hhold : st.hold.list? = some list) (hidle : st.hold.isListing = false)
      (hhold' : st'.hold = .listing list) : Turn b st st' none
  /-- A call failed, and only the entry for the list of readers is kept. -/
  | failed (list : Snapshot) (huntold : st'.untold = st.untold)
      (hhold : st.hold.list? = some list) (hhold' : st'.hold = .kept list) : Turn b st st' none
  /-- The readers were listed. -/
  | listed (list : Snapshot) (names : List String) (hduties : st.duties = [])
      (huntold : st'.untold = []) (hhold : st.hold = .listing list)
      (hnames : (b.list st.provider.hub.world.hardware).value = .ok names)
      (hhold' : st'.hold = .entries (WaitSet.ofNames list names) ∧
          st.provider.watcher.resync = false ∨
        st'.hold = .listing list ∨ st'.hold = .nothing) : Turn b st st' (some (.listed list names))
  /-- A wait returned with reports. -/
  | heard (poll : Poll) (set : WaitSet) (reports : List (ReaderFlags × Bytes))
      (hentries : poll.entries = set.entries) (hduties : st.duties = [])
      (huntold : st'.untold = (set.record reports).changes) (hhold : st.hold = .entries set)
      (hreports : (b.wait poll st.provider.hub.world.hardware).map Reply.value =
        some (.ok (.changed reports)))
      (hhold' : st'.hold = (Watcher.nextOf poll.now set (.ok (.changed reports))).hold)
      (hresync : st'.provider.watcher.resync = st.provider.watcher.resync) :
      Turn b st st' (some (.heard set reports))
  /-- The watch has ended. -/
  | ended (huntold : st'.untold = st.untold) (hhold' : st'.hold = .nothing) : Turn b st st' none

theorem Aside.turn (h : st.Aside st') : Turn b st st' none :=
  .same h.hold h.untold fun _ => h.nudges.resync

theorem hold_of_chores (hchores : st.chores = []) : st.hold = st.provider.watcher.phase.hold := by
  rw [hold, hchores]
  rfl

theorem untold_of_chores (hchores : st.chores = []) : st.untold = [] := by
  rw [untold, hchores]
  rfl

theorem hold_of_errand {news : List Snapshot} {next : Next}
    (hchores : st.chores = Chore.errand news next) : st.hold = next.hold := by
  rw [hold, hchores, Chore.hold?_errand]
  rfl

theorem untold_of_errand {news : List Snapshot} {next : Next}
    (hchores : st.chores = Chore.errand news next) : st.untold = news := by
  rw [untold, hchores, Chore.entry?_errand]

theorem chores_of_duties (hduties : st.duties = []) : st.chores = [] := by
  rw [chores, hduties]
  rfl

/-- A watcher in a wait has nothing to do, and carries the entries of the wait. -/
theorem Orderly.of_waiting (h : st.Orderly) {timeout : Duration} {ends : Instant} {set : WaitSet}
    (hphase : st.provider.watcher.phase = .waiting timeout ends set) :
    st.chores = [] ∧ st.hold = .entries set := by
  have hchores : st.chores = [] := h.resting (by rw [hphase]; rfl)
  refine ⟨hchores, ?_⟩
  rw [hold_of_chores hchores, hphase]
  rfl

/-- A watcher that goes where it was to go. -/
theorem going_turn {next : Next} {m : Watcher} (hgoing : st.provider.watcher.Going next m)
    (hhold : st.hold = next.hold) (hwatcher : st'.provider.watcher = m) (hchores : st'.chores = [])
    (huntold : st'.untold = st.untold) : Turn b st st' none := by
  -- With nothing left to do, what it carries along is in the phase it went to.
  have hhold' := hold_of_chores hchores
  rw [hwatcher] at hhold'
  cases hgoing with
  | stopped next hstop => exact .ended huntold hhold'
  | resynced set hresync =>
      exact .setOut set.list huntold (by rw [hhold]; rfl) (by rw [hhold]; rfl) hhold'
  | round set hresync =>
      refine .same (hhold'.trans hhold.symm) huntold fun _ hraised => ?_
      rw [hwatcher]
      exact hraised
  | listing list => exact .setOut list huntold (by rw [hhold]; rfl) (by rw [hhold]; rfl) hhold'
  | pausing now list =>
      exact .same (hhold'.trans hhold.symm) huntold fun hkept => absurd hhold (hkept list)

theorem listed_turn {list : Snapshot} {names : List String} {m : Watcher}
    (hgoing : st.provider.watcher.Going (.round (WaitSet.ofNames list names)) m)
    (hduties : st.duties = []) (hhold : st.hold = .listing list)
    (hnames : (b.list st.provider.hub.world.hardware).value = .ok names)
    (hwatcher : st'.provider.watcher = m) (hduties' : st'.duties = []) :
    Turn b st st' (some (.listed list names)) := by
  have hchores := chores_of_duties hduties'
  have hhold' := hold_of_chores hchores
  rw [hwatcher] at hhold'
  refine .listed list names hduties (untold_of_chores hchores) hhold hnames ?_
  cases hgoing with
  | round _ hresync => exact .inl ⟨hhold', hresync⟩
  | resynced => exact .inr (.inl hhold')
  | stopped => exact .inr (.inr hhold')

theorem going_orderly {next : Next} {m m' : Watcher} (hgoing : m.Going next m')
    (hwatcher : st'.provider.watcher = m') (hchores : st'.chores = []) : st'.Orderly := by
  refine ⟨.inl hchores, fun _ => hchores, fun _ epoch set hphase => ?_⟩
  rw [hwatcher] at hphase ⊢
  cases hgoing with
  | round set' hresync =>
      cases hphase
      exact ⟨Nat.le_refl _, fun _ => hresync⟩
  | stopped | resynced | listing | pausing => cases hphase

/-- A watcher that is given something to do is in order. -/
theorem busy_orderly (news : List Snapshot) {next : Next}
    (hchores : st'.chores = Chore.errand news next)
    (hresting : st'.provider.watcher.phase.isResting = false) : st'.Orderly := by
  refine ⟨.inr ⟨news, next, hchores⟩, fun h => ?_, fun h => ?_⟩
  · rw [hresting] at h
    cases h
  · rw [hchores] at h
    exact absurd h (List.append_ne_nil_of_right_ne_nil _ (List.cons_ne_nil _ _))

theorem still_orderly (hchores : st'.chores = [])
    (hphase : ∀ epoch set, st'.provider.watcher.phase ≠ .timing epoch set) : st'.Orderly :=
  ⟨.inl hchores, fun _ => hchores, fun _ epoch set h => absurd h (hphase epoch set)⟩

theorem work_go {next : Next} {duties : List (Duty κ)} (horderly : st.Orderly)
    (hduties : st.duties = .go next :: duties) :
    Turn b st (st.work b) none ∧ (st.work b).Orderly := by
  rcases st with ⟨p, _, begun⟩
  cases hduties
  have hchores : duties.filterMap Duty.chore? = [] := by
    rcases horderly.shape with hnone | ⟨news, next', herrand⟩
    · cases hnone
    · cases news with
      | nil => exact (List.cons.inj herrand).2
      | cons s news => cases herrand
  have hgoing := p.watcher.go_going next
  exact ⟨going_turn hgoing rfl rfl hchores rfl, going_orderly hgoing rfl hchores⟩

/-- An entry is shown to the sessions, and whatever requests that ends have
    messages to post. -/
theorem work_tell {s : Snapshot} {duties : List (Duty κ)} (horderly : st.Orderly)
    (hduties : st.duties = .tell (.change s) :: duties) :
    Turn b st (st.work b) (some (.told s)) ∧ (st.work b).Orderly := by
  rcases st with ⟨p, _, begun⟩
  cases hduties
  have hchanged := change_aside b s s.kind ⟨p, duties, begun⟩
  have hgone : Orderly ⟨p, duties, begun⟩ := by
    rcases horderly.shape with hnone | ⟨news, next, herrand⟩
    · cases hnone
    · cases news with
      | nil => cases herrand
      | cons s' news =>
          refine busy_orderly news (List.cons.inj herrand).2 ?_
          -- A watcher with something to tell is not at rest.
          by_contra hresting
          have hchores := horderly.resting (eq_true_of_ne_false hresting)
          cases hchores
  exact ⟨.told s hchanged.hold (congrArg (s :: ·) hchanged.untold.symm) rfl,
    hchanged.orderly hgone⟩

theorem watch_listing (hduties : st.duties = []) (now : Instant) {list : Snapshot}
    (hphase : st.provider.watcher.phase = .listing list) :
    Turn b st (st.watch b now) (st.watching b now) ∧ (st.watch b now).Orderly := by
  have hchores := chores_of_duties hduties
  have hhold : st.hold = .listing list := by rw [hold_of_chores hchores, hphase]; rfl
  rcases hcall : (b.list st.provider.hub.world.hardware).value with e | names
  · simp only [watch, watching, hphase, Hub.surroundings, World.call, hcall, hduties]
    -- After an error all there is to do is to go into a pause.
    refine ⟨.failed list (untold_of_chores hchores).symm (by rw [hhold]; rfl) rfl,
      busy_orderly [] rfl ?_⟩
    rw [hphase]
    rfl
  · simp only [watch, watching, hphase, Hub.surroundings, World.call, hcall]
    have hgoing := st.provider.watcher.go_going (.round (WaitSet.ofNames list names))
    exact ⟨listed_turn hgoing hduties hhold hcall rfl hduties, going_orderly hgoing rfl hchores⟩

/-- The watcher computes how long to wait, and begins the wait in the epoch for
    which it was computed. -/
theorem watch_timing (horderly : st.Orderly) (hduties : st.duties = []) (now : Instant)
    {epoch : Nat} {set : WaitSet} (hphase : st.provider.watcher.phase = .timing epoch set) :
    Turn b st (st.watch b now) (st.watching b now) ∧ (st.watch b now).Orderly := by
  have hchores := chores_of_duties hduties
  have hhold : st.hold = .entries set := by rw [hold_of_chores hchores, hphase]; rfl
  simp only [watch, watching, hphase]
  by_cases hepoch : st.provider.watcher.epoch = epoch
  · rw [if_pos hepoch, if_pos hepoch]
    have hresync := (horderly.prompt hchores epoch set hphase).2 hepoch
    exact ⟨.began set hduties (untold_of_chores hchores) hhold (hold_of_chores hchores) hresync,
      still_orderly hchores fun _ _ => Phase.noConfusion⟩
  · -- Somebody has called in the meantime, so the round begins anew.
    rw [if_neg hepoch, if_neg hepoch]
    have hgoing := st.provider.watcher.go_going (.round set)
    exact ⟨going_turn hgoing hhold rfl hchores rfl, going_orderly hgoing rfl hchores⟩

/-- What the watcher has to do once it has heard of changes. -/
theorem chores_of_changes (news : List Snapshot) (next : Next) :
    ((news.map News.change).map Duty.tell ++ [(Duty.go next : Duty κ)]).filterMap Duty.chore? =
      Chore.errand news next := by
  rw [List.filterMap_append, List.map_map, List.filterMap_map, Chore.errand,
    ← List.filterMap_eq_map]
  rfl

/-- A wait returns, or goes on. -/
theorem watch_waiting (horderly : st.Orderly) (hduties : st.duties = []) (now : Instant)
    {timeout : Duration} {ends : Instant} {set : WaitSet}
    (hphase : st.provider.watcher.phase = .waiting timeout ends set) :
    Turn b st (st.watch b now) (st.watching b now) ∧ (st.watch b now).Orderly := by
  have hchores := chores_of_duties hduties
  have huntold := untold_of_chores hchores
  have hhold : st.hold = .entries set := by rw [hold_of_chores hchores, hphase]; rfl
  simp only [watch, watching, hphase, Hub.surroundings]
  rcases hwait : b.wait ⟨some timeout, ends, now, set.entries⟩ st.provider.hub.world.hardware with
    _ | reply
  · simp only [Option.map_none, ite_self]
    exact ⟨(Aside.refl st).turn, horderly⟩
  · simp only [Option.map_some, World.call]
    by_cases hstop : st.provider.watcher.stop = true
    · rw [if_pos hstop, if_pos hstop]
      exact ⟨.ended rfl (hold_of_chores hchores),
        still_orderly hchores fun _ _ => Phase.noConfusion⟩
    · rw [if_neg hstop, if_neg hstop, hduties]
      rcases hvalue : reply.value with e | (reports | _ | _)
      · exact ⟨.failed set.list huntold.symm (by rw [hhold]; rfl) rfl,
          busy_orderly [] rfl rfl⟩
      · -- The changes come first among the duties, and the next round last.
        have hchores' := chores_of_changes (κ := κ) (set.record reports).changes
          (Watcher.nextOf now set (.ok (.changed reports)))
        refine ⟨.heard ⟨some timeout, ends, now, set.entries⟩ set reports rfl hduties
          (untold_of_errand hchores') hhold ?_ (hold_of_errand hchores') rfl,
          busy_orderly _ hchores' rfl⟩
        rw [hwait, Option.map_some, hvalue]
      · exact ⟨.same hhold.symm huntold.symm fun _ h => h, busy_orderly [] rfl rfl⟩
      · exact ⟨.same hhold.symm huntold.symm fun _ h => h, busy_orderly [] rfl rfl⟩

theorem watch_turn (horderly : st.Orderly) (hduties : st.duties = []) (now : Instant) :
    Turn b st (st.watch b now) (st.watching b now) ∧ (st.watch b now).Orderly := by
  have hstill : st.watch b now = st → st.watching b now = none →
      Turn b st (st.watch b now) (st.watching b now) ∧ (st.watch b now).Orderly := by
    intro hwatch hwatching
    rw [hwatch, hwatching]
    exact ⟨(Aside.refl st).turn, horderly⟩
  rcases hphase : st.provider.watcher.phase with list | ⟨epoch, set⟩ | ⟨timeout, ends, set⟩ |
    ⟨ends, list⟩ | _
  · exact watch_listing hduties now hphase
  · exact watch_timing horderly hduties now hphase
  · exact watch_waiting horderly hduties now hphase
  · exact hstill (by simp only [watch, hphase]) (by simp only [watching, hphase])
  · exact hstill (by simp only [watch, hphase]) (by simp only [watching, hphase])

/-- The steps of the watcher leave sessions and requests as they are. What they
    have to do with them is among the duties. -/
theorem watch_hub (b : Backend σ κ ε) (now : Instant) (st : Stage σ κ ε) :
    ∃ world, (st.watch b now).provider.hub = { st.provider.hub with world } := by
  rcases hphase : st.provider.watcher.phase with list | ⟨epoch, set⟩ | ⟨timeout, ends, set⟩ | _ | _
  · simp only [watch, hphase, Hub.surroundings]
    split
    · next hcall => exact ⟨_, congrArg Prod.snd hcall.symm⟩
    · next hcall => exact ⟨_, congrArg Prod.snd hcall.symm⟩
  · simp only [watch, hphase]
    split <;> exact ⟨_, rfl⟩
  · simp only [watch, hphase]
    split
    · exact ⟨_, rfl⟩
    · next hcall =>
        rcases Option.map_eq_some_iff.mp hcall with ⟨reply, -, hreply⟩
        split <;> exact ⟨_, congrArg Prod.snd hreply.symm⟩
  · simp only [watch, hphase]
    exact ⟨_, rfl⟩
  · simp only [watch, hphase]
    exact ⟨_, rfl⟩

/-- The end of a pause, if it is over. -/
theorem tick_turn (horderly : st.Orderly) (now : Instant) :
    Turn b st (st.act (Provider.tick now)) none ∧ (st.act (Provider.tick now)).Orderly := by
  rcases st with ⟨⟨hub, m, config⟩, duties, begun⟩
  show Turn b _ ⟨⟨hub, m.tick now, config⟩, duties, begun⟩ none ∧
    Orderly ⟨⟨hub, m.tick now, config⟩, duties, begun⟩
  unfold Watcher.tick
  split
  · next ends list hphase =>
      split
      · -- A pause has the watcher list the readers; it has nothing else to do.
        have hchores : duties.filterMap Duty.chore? = [] := by
          refine horderly.resting ?_
          show m.phase.isResting = true
          rw [hphase]
          rfl
        have hgoing := m.go_going (.listing list)
        refine ⟨going_turn hgoing ?_ rfl hchores rfl, going_orderly hgoing rfl hchores⟩
        rw [hold_of_chores (by exact hchores)]
        show m.phase.hold = _
        rw [hphase]
        rfl
      · exact ⟨(Aside.refl _).turn, horderly⟩
  · exact ⟨(Aside.refl _).turn, horderly⟩

/-- The watcher is asked to end. A pause is cut short by it. -/
theorem stop_turn (horderly : st.Orderly) :
    Turn b st (st.act (Provider.requestStop b)) none ∧
      (st.act (Provider.requestStop b)).Orderly := by
  rcases st with ⟨⟨hub, ⟨phase, stop, resync, epoch⟩, config⟩, duties, begun⟩
  cases phase with
  | pausing ends list =>
      have hchores : duties.filterMap Duty.chore? = [] := horderly.resting rfl
      exact ⟨.ended rfl (hold_of_chores hchores),
        still_orderly hchores fun _ _ => Phase.noConfusion⟩
  | timing epoch' set =>
      refine ⟨.same rfl rfl fun _ h => h, horderly.shape, nofun,
        fun hchores _ _ hphase => ?_⟩
      -- The epoch of the round has passed.
      rcases horderly.prompt hchores _ _ hphase with ⟨hle, -⟩
      have hpassed := Nat.ne_of_gt (Nat.lt_succ_of_le hle)
      exact ⟨Nat.le_succ_of_le hle, fun hepoch => absurd hepoch hpassed⟩
  | listing | waiting | stopped =>
      exact ⟨.same rfl rfl fun _ h => h, horderly.shape, horderly.resting,
        fun _ _ _ h => nomatch h⟩

/-- A move changes what the watcher carries along in one of the ways of
    `Turn`. -/
theorem move_turn (horderly : st.Orderly) (move : Move σ) :
    Turn b st (st.move b move) (st.doing b move) ∧ (st.move b move).Orderly := by
  cases move_mover b st move with
  | client _ haside hidle =>
      rw [hidle]
      exact ⟨haside.turn, haside.orderly horderly⟩
  | tells s duties hduties =>
      rw [doing, hduties]
      exact work_tell horderly hduties
  | goes next duties hduties =>
      rw [doing, hduties]
      exact work_go horderly hduties
  | watches now hduties hwatch hdoing =>
      rw [hwatch, hdoing]
      exact watch_turn horderly hduties now
  | ticks now => exact tick_turn horderly now
  | stops => exact stop_turn horderly

theorem start_orderly (hardware : σ) (config : Config) :
    (start hardware config : Stage σ κ ε).Orderly :=
  still_orderly rfl fun _ _ => Phase.noConfusion

end Stage

end CardHost
