import CardHost.Proofs.Ledgers
import CardHost.Proofs.Resync
import CardHost.Proofs.ShareModes
import CardHost.Proofs.Waits

/-!
# Baselines Are Last Reports

A wait is given a baseline for each of its entries, and returns when the state of
one is another. So a baseline has to be what the resource manager itself has
reported last, or the wait misses what happened in between, or returns at once
and for ever. On its way from one wait to the next a state goes through four
hands: it is read from the answer, kept in the entry, made its baseline, and
passed on without the bit that marks a change. The readers may be listed afresh in
between, and then only the entry for their list is carried over, through pauses
and failures.

What the baseline has to be is in the ledger of the calls that were made.
`Tallied` says that the watcher agrees with it, in what it carries along, in what
it passed to every wait, and in what it found to have changed. The calls of
clients list nothing and wait for nothing, and `move_adds` goes through them. What
is left are the steps of the watcher. `Noted` tells the four kinds of notes they
can leave, and together with how a move turns the watcher, that is all there is.

## Main definitions

* `Deed.learns`: The watcher learns something of the readers.
* `Stage.calls`: The calls that were made.
* `Stage.Noted`: What a move adds to them.
* `Stage.Tallied`: A stage agrees with the ledger of its calls.

## Theorems

* `move_adds`: What the moves of clients add to the log.
* `watch_noted`, `move_noted`: A step of the watcher; any move.
* `Turn.carries`: A move in which nothing is listed and nothing heard.
* `Tallied.mute`, `Tallied.listed`, `Tallied.heard`: The ways to stay in agreement.
* `move_tallied`, `run_tallied`: One move; a run of them.
* `baseline_last_reported`: Every run.
-/

namespace CardHost

variable {σ κ ε ν : Type}

/-- A deed in which the watcher learns something of the readers. -/
def Deed.learns : Deed → Bool
  | listed .. | heard .. => true
  | opened _ | closed _ | setOut | began _ | told _ => false

namespace Stage

section adds

variable {b : Backend σ κ ε} {Q : LogEntry ε → Prop} {st : Stage σ κ ε}

/-- What is to be posted for a session that is closed are duties at first. -/
theorem remove_adds (handle : ServiceHandle) (call? : Option Call) (st : Stage σ κ ε) :
    st.provider.hub.world.Adds Q (st.remove handle call?).provider.hub.world := by
  rw [remove]
  split <;> exact World.Adds.refl st.provider.hub.world

variable (hnotes : b.Notes fun note => Q (.call note)) (hposts : ∀ post, Q (.post post))
include hnotes hposts

theorem change_adds (state : Snapshot) (kind : ChangeKind) (st : Stage σ κ ε) :
    st.provider.hub.world.Adds Q (st.change b state kind).provider.hub.world :=
  Hub.informed_adds hnotes (fun post _ => hposts post) state kind

theorem work_adds (st : Stage σ κ ε) :
    st.provider.hub.world.Adds Q (st.work b).provider.hub.world := by
  rcases st with ⟨p, duties, begun⟩
  have hsame := World.Adds.refl (Q := Q) p.hub.world
  rcases duties with _ | ⟨post | cause | ⟨session, call?⟩ | ⟨now | s⟩ | next, duties⟩
  · exact hsame
  · exact hsame.post fun post _ => hposts post
  · exact Provider.wakeIf_adds hnotes hsame cause
  · have hgone := Session.disconnect_adds hnotes session p.hub.world
    cases call? with
    | none => exact hgone
    | some call => exact hgone.post fun post _ => hposts post
  · exact hsame
  · exact change_adds hnotes hposts s s.kind ⟨p, duties, begun⟩
  · exact hsame

theorem enter_adds (h : st.provider.hub.pending.Consistent) (now : Instant) (entry : Entry) :
    st.provider.hub.world.Adds Q (st.enter b now entry).provider.hub.world := by
  have hwhole : st.provider.hub.world.Adds Q (st.provider.enter b now entry).2.hub.world :=
    Provider.enter_adds hnotes (fun post _ => hposts post) now h
  -- Two calls post and wake only later, as duties.
  cases entry with
  | closeSession call => exact remove_adds call.service (some call) st
  | cancelAsync handle request =>
      show World.Adds Q _ (st.cancelAsync handle request).provider.hub.world
      rw [cancelAsync.eq_def]
      split <;> exact World.Adds.refl st.provider.hub.world
  | openSession | lock | unlock | register | deregister | getInfo | execute | executeRaw
  | setTraceLevel | unload | reload => exact hwhole

/-- Whatever is not done by the watcher itself adds no listing and no wait. -/
theorem move_adds (h : st.provider.hub.pending.Consistent) (move : Move σ)
    (hmove : ∀ now, move = .watch now → st.duties.isEmpty = false) :
    st.provider.hub.world.Adds Q (st.move b move).provider.hub.world := by
  have hsame := World.Adds.refl (Q := Q) st.provider.hub.world
  cases move with
  | work => exact work_adds hnotes hposts st
  | enter now entry => exact enter_adds hnotes hposts h now entry
  | createSession handle settings =>
      exact Provider.createSession_adds hnotes handle settings st.provider
  | removeSession handle => exact remove_adds handle none st
  | addRequest request => exact Provider.addRequest_adds hnotes hsame request
  | cancelRequest | cancelService | cancelAll => exact hsame
  | change state kind => exact change_adds hnotes hposts state kind st
  | watch now =>
      rw [move.eq_def, hmove now rfl]
      exact hsame
  | tick now => exact hsame
  | happen hardware => exact World.Adds.of_same rfl
  | stop => exact hsame.call (hnotes.cancel _ _)

end adds

open Pcsc (Ledger Manager Native NativeNote)

variable {native : Native ν} {m : Manager} {st st' : Stage ν Pcsc.Card NativeNote}
  {past : List Deed} {deed? : Option Deed}

/-- The calls that were made so far, with their answers. -/
def calls (st : Stage σ κ ε) : List ε := st.provider.hub.world.calls

/-- What a move adds to the notes, with what the watcher does in it. -/
inductive Noted (st st' : Stage ν Pcsc.Card NativeNote) : Option Deed → Prop where
  /-- Nothing about the readers. -/
  | aside (deed? : Option Deed) (notes : List NativeNote) (hcalls : st'.calls = st.calls ++ notes)
      (haside : ∀ note ∈ notes, note.isAside = true) (hdeed : deed?.any Deed.learns = false) :
      Noted st st' deed?
  /-- A listing. -/
  | listed (deed? : Option Deed) (context : Pcsc.Handle) (list : Snapshot)
      (answer : Except Pcsc.Code (List String))
      (hcalls : st'.calls = st.calls ++ [.list context answer])
      (hdeed : deed? = (Manager.named? answer).map (.listed list)) : Noted st st' deed?
  /-- A wait that returned with reports. -/
  | heard (context : Pcsc.Handle) (timeout : Nat) (set : WaitSet)
      (reports : List (ReaderFlags × Bytes)) (hhold : st.hold = .entries set)
      (hlength : reports.length = set.entries.length)
      (hcalls : st'.calls = st.calls ++ [.wait context timeout (set.entries.map Manager.entryOf)
        (.ok (reports.map Prod.fst))]) : Noted st st' (some (.heard set reports))
  /-- A wait that returned without, or too late for the watcher to hear of it. -/
  | unheard (context : Pcsc.Handle) (timeout : Nat) (set : WaitSet)
      (answer : Except Pcsc.Code (List ReaderFlags)) (hhold : st.hold = .entries set)
      (hcalls : st'.calls = st.calls ++ [.wait context timeout (set.entries.map Manager.entryOf)
        answer])
      (hlost : (∃ code, answer = .error code) ∨ st'.hold = .nothing) : Noted st st' none

/-- A move without a call. -/
theorem Noted.still (hcalls : st'.calls = st.calls) (hdeed : deed?.any Deed.learns = false) :
    Noted st st' deed? :=
  .aside deed? [] (hcalls.trans (List.append_nil _).symm)
    (fun _ hnote => absurd hnote List.not_mem_nil) hdeed

theorem watch_noted_listing (now : Instant) {list : Snapshot}
    (hphase : st.provider.watcher.phase = .listing list) :
    Noted st (st.watch (m.backend native) now) (st.watching (m.backend native) now) := by
  have hcalls := World.calls_call (m.backend native).list st.provider.hub.world
  refine .listed _ m.monitor list
    (native.listReaders m.monitor st.provider.hub.world.hardware).1 (Eq.trans ?_ hcalls) ?_
  · simp only [calls, watch, hphase, Hub.surroundings]
    split <;> next hcall => exact congrArg (fun answer => answer.2.world.calls) hcall.symm
  · simp only [watching, hphase, Manager.backend, Manager.list, Manager.named?]
    rcases Pcsc.caused (native.listReaders m.monitor st.provider.hub.world.hardware).1 with
      e | names
    · cases e <;> rfl
    · rfl

section wait

variable {b : Backend σ κ ε} {now : Instant} {timeout : Duration} {ends : Instant} {set : WaitSet}

theorem watching_heard {st : Stage σ κ ε}
    (hphase : st.provider.watcher.phase = .waiting timeout ends set)
    (hgoing : st.provider.watcher.stop = false) {reports : List (ReaderFlags × Bytes)}
    (hvalue : (b.wait ⟨some timeout, ends, now, set.entries⟩ st.provider.hub.world.hardware).map
      Reply.value = some (.ok (.changed reports))) :
    st.watching b now = some (.heard set reports) := by
  simp only [watching, hphase, hgoing, hvalue, Bool.false_eq_true, if_false]

theorem watching_unheard {st : Stage σ κ ε}
    (hphase : st.provider.watcher.phase = .waiting timeout ends set)
    (hnone : st.provider.watcher.stop = true ∨ ∀ reports,
      (b.wait ⟨some timeout, ends, now, set.entries⟩ st.provider.hub.world.hardware).map
        Reply.value ≠ some (.ok (.changed reports))) : st.watching b now = none := by
  simp only [watching, hphase]
  split
  · rfl
  · next hgoing =>
      split
      · next reports hvalue => exact absurd hvalue (hnone.resolve_left hgoing reports)
      · rfl

/-- A wait that returns leaves its notes, and if the watcher was asked to end, it
    does. -/
theorem watch_returned {st : Stage σ κ ε} (hduties : st.duties = [])
    (hphase : st.provider.watcher.phase = .waiting timeout ends set)
    {reply : Reply σ ε (Except CardError WaitOutcome)}
    (hwait : b.wait ⟨some timeout, ends, now, set.entries⟩ st.provider.hub.world.hardware =
      some reply) :
    (st.watch b now).calls = st.calls ++ reply.notes ∧
      (st.provider.watcher.stop = true → (st.watch b now).hold = .nothing) := by
  have hadded := World.calls_call (fun _ => reply) st.provider.hub.world
  simp only [calls, watch, hphase, Hub.surroundings, hwait, Option.map_some]
  by_cases hstop : st.provider.watcher.stop = true
  · rw [if_pos hstop]
    exact ⟨hadded, fun _ => hold_of_chores (chores_of_duties hduties)⟩
  · rw [if_neg hstop]
    exact ⟨hadded, fun h => absurd h hstop⟩

end wait

/-- A wait is given the entries that the watcher carries along. -/
theorem watch_noted_waiting (reports : native.Reports) (hduties : st.duties = []) (now : Instant)
    {timeout : Duration} {ends : Instant} {set : WaitSet}
    (hphase : st.provider.watcher.phase = .waiting timeout ends set) :
    Noted st (st.watch (m.backend native) now) (st.watching (m.backend native) now) := by
  have hhold : st.hold = .entries set := by
    rw [hold_of_chores (chores_of_duties hduties), hphase]
    rfl
  rcases hwait : (m.backend native).wait ⟨some timeout, ends, now, set.entries⟩
    st.provider.hub.world.hardware with _ | reply
  · -- The wait goes on.
    have hstill : st.watch (m.backend native) now = st := by
      simp only [watch, hphase, Hub.surroundings, hwait, Option.map_none]
    rw [watching_unheard hphase (.inr fun _ hvalue => by rw [hwait] at hvalue; cases hvalue),
      hstill]
    exact .still rfl rfl
  · rcases watch_returned hduties hphase hwait with ⟨hcalls, hstopped⟩
    cases Manager.wait_returned hwait with
    | unpassable =>
        rw [watching_unheard hphase (.inr fun _ hvalue => by rw [hwait] at hvalue; cases hvalue)]
        exact .still (hcalls.trans (List.append_nil _)) rfl
    | answered answer s' hanswer =>
        by_cases hstop : st.provider.watcher.stop = true
        · rw [watching_unheard hphase (.inl hstop)]
          exact .unheard _ _ set _ hhold hcalls (.inr (hstopped hstop))
        · rcases answer with code | reported
          · rw [watching_unheard hphase (.inr fun reported => hwait ▸ fun hvalue =>
              Manager.outcomeOf_error _ reported (Option.some.inj hvalue))]
            exact .unheard _ _ set _ hhold hcalls (.inl ⟨code, rfl⟩)
          · rcases reports _ _ _ _ _ _ hanswer with ⟨hlength, hknown⟩
            have hvalue := congrArg some (Manager.outcomeOf_ok hknown)
            rw [watching_heard hphase (eq_false_of_ne_true hstop) (by rw [hwait]; exact hvalue)]
            exact .heard _ _ set reported hhold (hlength.trans (List.length_map _)) hcalls

theorem watch_noted (reports : native.Reports) (hduties : st.duties = []) (now : Instant) :
    Noted st (st.watch (m.backend native) now) (st.watching (m.backend native) now) := by
  rcases hphase : st.provider.watcher.phase with list | ⟨epoch, set⟩ | ⟨timeout, ends, set⟩ | _ | _
  · exact watch_noted_listing now hphase
  · -- Computing the time to wait takes no call.
    simp only [watch, watching, hphase]
    split <;> exact .still rfl rfl
  · exact watch_noted_waiting reports hduties now hphase
  · simp only [watch, watching, hphase]
    exact .still rfl rfl
  · simp only [watch, watching, hphase]
    exact .still rfl rfl

/-- What any move adds to the notes. -/
theorem move_noted (reports : native.Reports) (h : st.provider.hub.pending.Consistent)
    (move : Move ν) :
    Noted st (st.move (m.backend native) move) (st.doing (m.backend native) move) := by
  have haside : (∀ now, move = .watch now → st.duties.isEmpty = false) →
      (st.doing (m.backend native) move).any Deed.learns = false →
        Noted st (st.move (m.backend native) move) (st.doing (m.backend native) move) := by
    intro hmove hdeed
    have hadds := move_adds (Manager.backend_aside native m) (fun _ => trivial) h move hmove
      (Q := fun | .call note => note.isAside = true | .post _ => True)
    rcases hadds.calls with ⟨notes, hcalls, hall⟩
    exact .aside _ notes hcalls hall hdeed
  cases move with
  | work =>
      refine haside (fun _ hmove => by cases hmove) ?_
      simp only [doing]
      split <;> rfl
  | watch now =>
      cases hduties : st.duties.isEmpty with
      | true =>
          simp only [move.eq_def, doing, hduties, if_true]
          exact watch_noted reports (List.isEmpty_iff.mp hduties) now
      | false =>
          refine haside (fun _ _ => hduties) ?_
          simp only [doing, hduties, Bool.false_eq_true, if_false]
          rfl
  | enter | createSession | removeSession | addRequest | cancelRequest | cancelService | cancelAll
  | change | tick | happen | stop => exact haside (fun _ hmove => by cases hmove) rfl

/-- If nothing is learned, what is carried along is from before. -/
theorem Turn.carries {b : Backend σ κ ε} {st st' : Stage σ κ ε} (h : Turn b st st' deed?)
    (hdeed : deed?.any Deed.learns = false) :
    (∀ list, st'.hold.list? = some list → st.hold.list? = some list) ∧
      (∀ set, st'.hold = .entries set → st.hold = .entries set) ∧
      (st'.hold ≠ .nothing → st.hold ≠ .nothing) ∧ changesIn deed?.toList = [] := by
  have hkept : st'.hold = st.hold → changesIn deed?.toList = [] →
      (∀ list, st'.hold.list? = some list → st.hold.list? = some list) ∧
        (∀ set, st'.hold = .entries set → st.hold = .entries set) ∧
        (st'.hold ≠ .nothing → st.hold ≠ .nothing) ∧ changesIn deed?.toList = [] :=
    fun hhold hsilent => hhold ▸ ⟨fun _ h => h, fun _ h => h, fun h => h, hsilent⟩
  cases h with
  | same hhold => exact hkept hhold rfl
  | told _ hhold => exact hkept hhold rfl
  | began _ _ _ hhold hhold' => exact hkept (hhold'.trans hhold.symm) rfl
  | setOut list _ hlist _ hhold' | failed list _ hlist hhold' =>
      refine ⟨fun list' hlist' => ?_, fun set hset => ?_, fun _ hnothing => ?_, rfl⟩
      · rw [hhold'] at hlist'
        exact Option.some.inj hlist' ▸ hlist
      · cases hhold'.symm.trans hset
      · rw [hnothing] at hlist
        cases hlist
  | listed => cases hdeed
  | heard => cases hdeed
  | ended _ hhold' =>
      refine ⟨fun list hlist => ?_, fun set hset => ?_, fun hgoing => absurd hhold' hgoing, rfl⟩
      · rw [hhold'] at hlist
        cases hlist
      · cases hhold'.symm.trans hset

/-- A stage agrees with the ledger of the calls that were made. -/
structure Tallied (past : List Deed) (st : Stage ν Pcsc.Card NativeNote) : Prop where
  waits : Ledger.Restated st.calls
  /-- What is known of the list of readers is never given up. -/
  list : ∀ list, st.hold.list? = some list →
    list.known = (Snapshot.listName, (Ledger.after st.calls).list)
  /-- What is known of the readers is kept while there are entries to wait on. -/
  entries : ∀ set, st.hold = .entries set →
    set.entries.map Snapshot.known = (Ledger.after st.calls).entries
  /-- As long as the watch goes on, it has heard of all changes. -/
  changes : st.hold ≠ .nothing →
    (changesIn past).map Snapshot.change = Ledger.start.changesIn st.calls

/-- Calls that make no entry in the ledger, with a turn that takes nothing in. -/
theorem Tallied.mute (h : Tallied past st) {b : Backend ν Pcsc.Card NativeNote}
    (hturn : Turn b st st' deed?) (hdeed : deed?.any Deed.learns = false) {notes : List NativeNote}
    (hcalls : st'.calls = st.calls ++ notes) (hmute : ∀ note ∈ notes, Ledger.Mute note)
    (hwaits : Ledger.Restated st'.calls) : Tallied (past ++ deed?.toList) st' := by
  rcases hturn.carries hdeed with ⟨hlist, hentries, hgoing, hsilent⟩
  rcases Ledger.after_mute hmute st.calls with ⟨hafter, hchanges⟩
  refine ⟨hwaits, fun list hhold => ?_, fun set hhold => ?_, fun hhold => ?_⟩
  · rw [hcalls, hafter]
    exact h.list list (hlist list hhold)
  · rw [hcalls, hafter]
    exact h.entries set (hentries set hhold)
  · rw [changesIn_append, hsilent, List.append_nil, hcalls, hchanges]
    exact h.changes (hgoing hhold)

theorem Tallied.listed (h : Tallied past st) {b : Backend ν Pcsc.Card NativeNote}
    {list : Snapshot} {names : List String} (hturn : Turn b st st' (some (.listed list names)))
    {context : Pcsc.Handle} {answer : Except Pcsc.Code (List String)}
    (hnames : Manager.named? answer = some names)
    (hcalls : st'.calls = st.calls ++ [.list context answer]) :
    Tallied (past ++ [.listed list names]) st' := by
  have hafter : Ledger.after st'.calls = (Ledger.after st.calls).enlist names := by
    rw [hcalls, Ledger.after_append, List.foldl_cons, List.foldl_nil, Ledger.note, hnames]
  have hchanges : Ledger.start.changesIn st'.calls = Ledger.start.changesIn st.calls := by
    rw [hcalls, Ledger.changesIn_append]
    exact List.append_nil _
  cases hturn with
  | listed _ _ _ _ hhold _ hhold' =>
      have hlist := h.list list (hhold ▸ rfl)
      refine ⟨?_, fun list' hlist' => ?_, fun set hset => ?_, fun _ => ?_⟩
      · exact hcalls ▸ h.waits.concat fun _ _ _ _ heq => by cases heq
      · rw [hafter]
        rcases hhold' with ⟨hhold', -⟩ | hhold' | hhold' <;> rw [hhold'] at hlist' <;> cases hlist'
        · exact hlist
        · exact hlist
      · rw [hafter]
        rcases hhold' with ⟨hhold', -⟩ | hhold' | hhold' <;> cases hhold'.symm.trans hset
        -- Nothing is known of the readers that were just listed.
        refine congrArg₂ List.cons hlist ?_
        rw [Ledger.enlist, WaitSet.ofNames, List.map_map]
        rfl
      · rw [changesIn_append, hchanges]
        refine (congrArg _ (List.append_nil _)).trans (h.changes fun hnothing => ?_)
        cases hhold.symm.trans hnothing

theorem Tallied.heard (h : Tallied past st) {b : Backend ν Pcsc.Card NativeNote} {set : WaitSet}
    {reports : List (ReaderFlags × Bytes)} (hturn : Turn b st st' (some (.heard set reports)))
    (hlength : reports.length = set.entries.length) {context : Pcsc.Handle} {timeout : Nat}
    (hcalls : st'.calls = st.calls ++ [.wait context timeout (set.entries.map Manager.entryOf)
      (.ok (reports.map Prod.fst))]) : Tallied (past ++ [.heard set reports]) st' := by
  cases hturn with
  | heard poll _ _ _ _ _ hhold _ hhold' =>
      have hknown := h.entries set hhold
      have hafter : Ledger.after st'.calls =
          (Ledger.after st.calls).report (reports.map Prod.fst) := by
        rw [hcalls, Ledger.after_append]
        rfl
      have hadopted := WaitSet.record_entries hlength hknown
      rw [← hafter] at hadopted
      refine ⟨?_, fun list hlist => ?_, fun set' hset => ?_, fun _ => ?_⟩
      · refine hcalls ▸ h.waits.concat fun _ _ _ _ heq => ?_
        cases heq
        exact Ledger.baseline_of_known hknown
      · -- The entry for the list is the first, wherever the watcher goes.
        have hfirst : list = (set.record reports).adopt.list := by
          rw [hhold', Watcher.nextOf] at hlist
          split at hlist <;> exact (Option.some.inj hlist).symm
        exact hfirst ▸ (List.cons.inj hadopted).1
      · have hsame : set' = (set.record reports).adopt := by
          rw [hhold', Watcher.nextOf] at hset
          split at hset
          · cases hset
          · exact (Hold.entries.inj hset).symm
        exact hsame ▸ hadopted
      · have hgoing : st.hold ≠ .nothing := fun hnothing => by cases hhold.symm.trans hnothing
        rw [changesIn_append, List.map_append, h.changes hgoing, hcalls, Ledger.changesIn_append]
        refine congrArg _ ?_
        show List.map Snapshot.change ((set.record reports).changes ++ []) = _ ++ []
        rw [List.append_nil, List.append_nil]
        exact WaitSet.record_changes hlength hknown

/-- Every move leaves a stage that agrees with the ledger. -/
theorem move_tallied (reports : native.Reports) (horderly : st.Orderly)
    (hconsistent : st.provider.hub.pending.Consistent) (h : Tallied past st) (move : Move ν) :
    Tallied (past ++ st.deeds (m.backend native) move) (st.move (m.backend native) move) := by
  have hturn := (move_turn (b := m.backend native) horderly move).1
  have hnoted := move_noted (m := m) reports hconsistent move
  have hdone : Tallied (past ++ (st.doing (m.backend native) move).toList)
      (st.move (m.backend native) move) := by
    generalize st.doing (m.backend native) move = deed? at hturn hnoted ⊢
    cases hnoted with
    | aside _ notes hcalls haside hdeed =>
        exact h.mute hturn hdeed hcalls
          (fun note hnote => Ledger.mute_of_aside (haside note hnote))
          (hcalls ▸ h.waits.append haside)
    | listed _ context list answer hcalls hdeed =>
        rcases hnames : Manager.named? answer with _ | names
        · rw [hnames, Option.map_none] at hdeed
          subst hdeed
          refine h.mute hturn rfl hcalls (fun note hnote l => ?_)
            (hcalls ▸ h.waits.concat fun _ _ _ _ heq => by cases heq)
          rw [List.mem_singleton.mp hnote, Ledger.note, hnames]
          exact ⟨rfl, rfl⟩
        · rw [hnames, Option.map_some] at hdeed
          subst hdeed
          exact h.listed hturn hnames hcalls
    | heard context timeout set reported hhold hlength hcalls => exact h.heard hturn hlength hcalls
    | unheard context timeout set answer hhold hcalls hlost =>
        have hwaits : Ledger.Restated (st.move (m.backend native) move).calls := by
          refine hcalls ▸ h.waits.concat fun _ _ _ _ heq => ?_
          cases heq
          exact Ledger.baseline_of_known (h.entries set hhold)
        rcases hlost with ⟨code, rfl⟩ | hended
        · exact h.mute hturn rfl hcalls
            (fun note hnote => List.mem_singleton.mp hnote ▸ fun _ => ⟨rfl, rfl⟩) hwaits
        · -- The watch has ended, and nothing is carried along any more.
          refine ⟨hwaits, fun list hlist => ?_, fun set hset => ?_, fun hgoing =>
            absurd hended hgoing⟩
          · rw [hended] at hlist
            cases hlist
          · cases hended.symm.trans hset
  have hsilent := turnover_silent st.provider.hub
    (st.move (m.backend native) move).provider.hub
  have hleft := departure_silent st.hold (st.move (m.backend native) move).hold
    (st.doing (m.backend native) move)
  refine ⟨hdone.waits, hdone.list, hdone.entries, fun hgoing => ?_⟩
  rw [← hdone.changes hgoing, deeds, changesIn_append, changesIn_append, changesIn_append,
    changesIn_append, changesIn_silent hsilent, changesIn_silent hleft, List.append_nil,
    List.append_nil]

theorem start_tallied (hardware : ν) (config : Config) :
    Tallied [.setOut] (start hardware config : Stage ν Pcsc.Card NativeNote) where
  waits before _ _ _ _ _ hsplit :=
    absurd hsplit.symm (List.append_ne_nil_of_right_ne_nil before (List.cons_ne_nil _ _))
  list _ hlist := Option.some.inj hlist ▸ rfl
  entries _ hset := by cases hset
  changes _ := rfl

/-- So does a run. -/
theorem run_tallied (reports : native.Reports) (htimely : st.Timely) (hrecorded : Recorded past st)
    (h : Tallied past st) (moves : List (Move ν)) :
    Tallied (past ++ st.chronicle (m.backend native) moves)
      (st.run (m.backend native) moves) := by
  induction moves generalizing past st with
  | nil =>
      rw [chronicle, List.append_nil]
      exact h
  | cons move moves ih =>
      rw [chronicle, ← List.append_assoc]
      exact ih (move_timely htimely move).1 (move_recorded hrecorded move)
        (move_tallied reports hrecorded.orderly htimely.consistent h move)

/-- A watcher that has not ended carries something along. -/
theorem Orderly.hold_of_going {st : Stage σ κ ε} (h : st.Orderly)
    (hgoing : st.provider.watcher.phase ≠ .stopped) : st.hold ≠ .nothing := by
  rcases h.shape with hchores | ⟨news, next, hchores⟩
  · rw [hold_of_chores hchores]
    cases hphase : st.provider.watcher.phase with
    | stopped => exact absurd hphase hgoing
    | listing | timing | waiting | pausing => exact Hold.noConfusion
  · rw [hold_of_errand hchores]
    cases next <;> exact Hold.noConfusion

/-- A wait is given exactly what was reported last. After any run, with calls from
    inside completions: whenever a wait was made, and in the wait that is under way
    as well, the state that is passed for an entry is the last report on it since
    the readers were listed, less the mark of a change, and nothing if there was
    none; and for the list of readers it is the last report ever, whatever was
    listed or has failed since. Only a report changes it, and a wait that ran out,
    was called off or failed does not. As long as the watch goes on, what was and is
    still to be shown to the sessions are the reports that carry the mark of a
    change, each of them once, in the order of the entries, with the report before
    it as what was known. -/
theorem baseline_last_reported (reports : native.Reports) (m : Manager) (hardware : ν)
    (config : Config) (moves : List (Move ν)) :
    let begun : Stage ν Pcsc.Card NativeNote := start hardware config
    let st := begun.run (m.backend native) moves
    let told := toldIn (begun.chronicle (m.backend native) moves)
    (∀ before context timeout entries answer since,
      st.calls = before ++ .wait context timeout entries answer :: since →
        entries = (Ledger.after before).baseline) ∧
      (∀ timeout ends set, st.provider.watcher.phase = .waiting timeout ends set →
        set.entries.map Manager.entryOf = (Ledger.after st.calls).baseline) ∧
      (st.provider.watcher.phase ≠ .stopped →
        (told ++ st.untold).map Snapshot.change = Ledger.start.changesIn st.calls ∧
          (st.duties = [] → told.map Snapshot.change = Ledger.start.changesIn st.calls)) := by
  intro begun st told
  have hrecorded := start_recorded (κ := Pcsc.Card) (ε := NativeNote) hardware config
  have htallied := run_tallied (m := m) reports (start_timely hardware config) hrecorded
    (start_tallied hardware config) moves
  have hrun := run_recorded (b := m.backend native) hrecorded moves
  refine ⟨htallied.waits, fun timeout ends set hphase => ?_, fun hgoing => ?_⟩
  · have hhold := (hrun.orderly.of_waiting hphase).2
    exact Ledger.baseline_of_known (htallied.entries set hhold)
  · have hall := htallied.changes (hrun.orderly.hold_of_going hgoing)
    rw [← hrun.told] at hall
    refine ⟨hall, fun hduties => ?_⟩
    rw [untold_of_duties hduties, List.append_nil] at hall
    exact hall

end Stage

namespace Simulation

open Pcsc (Code Ledger Manager Native NativeNote)

/-- What one wait after the other reports on the list of readers and on a reader.
    First a reader is attached, and at last the card in it is another. -/
def reported : List (Except Code (ReaderFlags × ReaderFlags)) :=
  [.ok (0x00010002#32, 0x00030022#32), .ok (0x00010000#32, 0x00030022#32),
   .error (Code.ofError .timeout), .error (Code.ofError .cancelled),
   .ok (0x00010000#32, 0x00050022#32)]

/-- A resource manager with one reader that reports this. -/
def attentive : Native Nat :=
  { faltering 0 with
    statusChange := fun _ _ entries n => reported[n]?.map fun answer =>
      (answer.map fun flags => entries.map fun entry =>
        (if entry.name = Snapshot.listName then flags.1 else flags.2, []), n + 1) }

theorem attentive_reports : attentive.Reports := by
  have hknown : ∀ answer ∈ reported, ∀ flags, answer = .ok flags →
      flags.1.state = flags.1 &&& Manager.reportable ∧
        flags.2.state = flags.2 &&& Manager.reportable := by
    simp only [reported, List.forall_mem_cons]
    refine ⟨?_, ?_, ?_, ?_, ?_, fun _ hmem => absurd hmem List.not_mem_nil⟩ <;>
      rintro flags ⟨⟩ <;> decide
  intro context expired entries n reports n' hanswer
  rcases Option.map_eq_some_iff.mp hanswer with ⟨code | flags, hmem, heq⟩
  · cases heq
  · cases heq
    refine ⟨List.length_map _, fun report hreport => ?_⟩
    rcases List.mem_map.mp hreport with ⟨entry, -, rfl⟩
    rcases hknown _ (List.mem_of_getElem? hmem) flags rfl with ⟨hlist, hreader⟩
    simp only
    split
    · exact hlist
    · exact hreader

/-- A wait that returns, with a number of duties. -/
def waitOnce (duties : Nat) : List (Move Nat) :=
  [.watch 0, .watch 0] ++ List.replicate duties .work

/-- All that is reported is heard, and one more wait is begun. -/
def heardOut : List (Move Nat) :=
  .watch 0 :: waitOnce 3 ++ .watch 0 :: waitOnce 2 ++ waitOnce 2 ++ waitOnce 1 ++ waitOnce 2 ++
    [.watch 0]

set_option maxRecDepth 20000 in
/-- The wait that is begun at last is given the counter of the new card, and what is
    known of the list of readers from before they were listed. -/
theorem baseline_last_reported_heardOut :
    let begun : Stage Nat Pcsc.Card NativeNote := Stage.start 0 (configuredTo "A")
    let st := begun.run (twoContexts.backend attentive) heardOut
    let told := toldIn (begun.chronicle (twoContexts.backend attentive) heardOut)
    attentive.Reports ∧ Ledger.Restated st.calls ∧
      (Ledger.after st.calls).baseline =
        [⟨Snapshot.listName, 0x00010000#32⟩, ⟨"A", 0x00050020#32⟩] ∧
      Ledger.start.changesIn st.calls =
        [⟨Snapshot.listName, 0#32, 0x00010002#32⟩, ⟨"A", 0#32, 0x00030022#32⟩,
         ⟨"A", 0#32, 0x00030022#32⟩, ⟨"A", 0x00030022#32, 0x00050022#32⟩] ∧
      told.map Snapshot.change = Ledger.start.changesIn st.calls := by
  intro begun st told
  rcases Stage.baseline_last_reported attentive_reports twoContexts 0 (configuredTo "A") heardOut
    with ⟨hwaits, hunder, htold⟩
  have hst : Stage.run (twoContexts.backend attentive) heardOut begun = st := rfl
  simp only [begun] at hst
  rw [hst] at hunder htold
  have hphase : st.provider.watcher.phase = .waiting 1000 1000
      ⟨⟨Snapshot.listName, 0x00010000#32, 0x00010000#32, []⟩,
       [⟨"A", 0x00050022#32, 0x00050022#32, []⟩]⟩ := by
    decide
  have hduties : st.duties = [] := List.isEmpty_iff.mp (by decide)
  have hchanges := (htold fun hstopped => by cases hphase.symm.trans hstopped).2 hduties
  have hshown : told.map Snapshot.change =
      [⟨Snapshot.listName, 0#32, 0x00010002#32⟩, ⟨"A", 0#32, 0x00030022#32⟩,
       ⟨"A", 0#32, 0x00030022#32⟩, ⟨"A", 0x00030022#32, 0x00050022#32⟩] := by
    decide
  exact ⟨attentive_reports, hwaits, (hunder _ _ _ hphase).symm, hchanges.symm.trans hshown,
    hchanges⟩

end Simulation

end CardHost
