import CardHost.Proofs.Baselines
import CardHost.Proofs.Hearings
import CardHost.Proofs.Overdue

/-!
# The Watch Survives Every Failure

A resource manager fails in many ways, and none of them may end the watch: it is
the only timer, so without it no deadline would ever be looked at again. Whatever
the calls of the watcher return, in whatever order, as long as nobody asks it to
end it lists the readers, waits, or is in a pause that leads back to the list.

A call that brings up nothing but the passing of time leaves the watcher with two
duties: to look at the deadlines, and then to go on. Clients may call in between
and from inside every completion, and what they cause comes on top of the stack of
duties. But the watcher makes no call before the stack is empty. So it looks before
that, and whoever it finds due has been told by then.

From one list of the readers to the next the watcher keeps what it knows of the
list itself. A failure and the passing of time leave it as it is, and so it is what
the last wait reported that returned with reports.

## Main definitions

* `Stage.Step`: A step of the watcher, with what its call returned.
* `Stage.Barren`: A call that brings up nothing but the passing of time.
* `Stage.Stacking`: What a move does to the stack of duties.
* `listAfter`: What the watcher knows of the list of readers.

## Theorems

* `move_flag`: Only one move asks the watcher to end.
* `watch_step`: A step of the watcher.
* `move_ongoing`, `run_ongoing`: It does not end by itself.
* `move_relisted`, `run_relisted`: It keeps what it knows of the list of readers.
* `worked_of_done`, `posted_of_done`: No duty is passed over.
* `watch_perseveres`: Every run.
-/

namespace CardHost

variable {σ κ ε : Type}

/-- What becomes by a deed of what is known of the list of readers. -/
def Deed.relist (list : Snapshot) : Deed → Snapshot
  | heard set reports => (set.record reports).adopt.list
  | opened _ | closed _ | setOut | listed .. | began _ | told _ => list

/-- What the watcher knows of the list of readers: what was reported by the last
    wait that returned with reports, and nothing before there was one. -/
def listAfter (past : List Deed) : Snapshot := past.foldl Deed.relist Snapshot.readerList

theorem listAfter_append (past deeds : List Deed) :
    listAfter (past ++ deeds) = deeds.foldl Deed.relist (listAfter past) := List.foldl_append

namespace Watcher

theorem go_stop (m : Watcher) (next : Next) : (m.go next).stop = m.stop := by
  have hgoing := m.go_going next
  generalize m.go next = m' at hgoing ⊢
  cases hgoing <;> rfl

/-- A watcher that is not to end goes on. -/
theorem go_ongoing {m : Watcher} (hstop : m.stop = false) (next : Next) :
    (m.go next).phase ≠ .stopped := by
  have hgoing := m.go_going next
  generalize m.go next = m' at hgoing ⊢
  cases hgoing with
  | stopped next hstop' => cases hstop.symm.trans hstop'
  | resynced | round | listing | pausing => exact Phase.noConfusion

end Watcher

namespace Provider

variable {b : Backend σ κ ε} {p p' : Provider σ κ ε}

theorem wakeIf_flag (cause : Bool) : (p.wakeIf b cause).watcher.stop = p.watcher.stop := by
  rw [wakeIf]
  split <;> rfl

theorem createSession_flag (handle : ServiceHandle) (settings : Settings) :
    (p.createSession b handle settings).2.watcher.stop = p.watcher.stop := by
  rw [createSession]
  split <;> rfl

theorem removeSession_flag (handle : ServiceHandle) :
    (p.removeSession b handle).2.watcher.stop = p.watcher.stop := by
  rw [removeSession]
  split
  · rfl
  · exact wakeIf_flag _

theorem addRequest_flag (r : PendingRequest) :
    (p.addRequest b r).2.watcher.stop = p.watcher.stop := by
  rw [addRequest]
  split
  · rfl
  · exact wakeIf_flag _

/-- No call asks the watcher to end. -/
theorem Course.flag {call? : Option Call} {result : ResultCode × Provider σ κ ε}
    (hcourse : Course b call? p result) : result.2.watcher.stop = p.watcher.stop := by
  have hcalmed : ∀ {p' : Provider σ κ ε}, p.Calm p' → p'.watcher.stop = p.watcher.stop :=
    fun hcalm => congrArg Watcher.stop hcalm.watcher
  cases hcourse with
  | refused hcode hcalm => exact hcalmed hcalm
  | done hcall hcalm => exact hcalmed hcalm
  | completed hcall hkind hcalm => exact (hcalmed hcalm :)
  | opened hcall settings hnew => exact createSession_flag _ settings
  | closed hcall hopen => exact removeSession_flag _
  | queued hcall hcalm hopen now timeout sources hadd =>
      rw [← congrArg Prod.snd hadd]
      exact (addRequest_flag _).trans (hcalmed hcalm)
  | calledOff hcall hsettled code => exact wakeIf_flag _

end Provider

namespace Stage

variable {b : Backend σ κ ε} {st st' : Stage σ κ ε} {now : Instant}

/-- A step of the watcher. -/
inductive Step (b : Backend σ κ ε) (now : Instant) (st st' : Stage σ κ ε) : Prop where
  /-- It rests, or is in a wait that goes on. -/
  | rests (hstill : st' = st) (hresting : st.provider.watcher.phase.isResting = true)
      (hwait : ∀ timeout ends set, st.provider.watcher.phase = .waiting timeout ends set →
        b.wait ⟨some timeout, ends, now, set.entries⟩ st.provider.hub.world.hardware = none)
  /-- The readers were listed. -/
  | lists (list : Snapshot) (names : List String)
      (hphase : st.provider.watcher.phase = .listing list)
      (hvalue : (b.list st.provider.hub.world.hardware).value = .ok names)
      (hwatcher : st'.provider.watcher =
        st.provider.watcher.go (.round (WaitSet.ofNames list names)))
      (hduties : st'.duties = st.duties)
  /-- They could not be listed. -/
  | fails (list : Snapshot) (e : CardError)
      (hphase : st.provider.watcher.phase = .listing list)
      (hvalue : (b.list st.provider.hub.world.hardware).value = .error e)
      (hwatcher : st'.provider.watcher = st.provider.watcher)
      (hduties : st'.duties = .tell (.timeout now) :: .go (.pause now list) :: st.duties)
  /-- The epoch has passed in which it was about to wait. -/
  | rounds (epoch : Nat) (set : WaitSet)
      (hphase : st.provider.watcher.phase = .timing epoch set)
      (hepoch : st.provider.watcher.epoch ≠ epoch)
      (hwatcher : st'.provider.watcher = st.provider.watcher.go (.round set))
      (hduties : st'.duties = st.duties)
  /-- A wait begins. -/
  | begins (epoch : Nat) (timeout : Duration) (ends : Instant) (set : WaitSet)
      (hphase : st.provider.watcher.phase = .timing epoch set)
      (hepoch : st.provider.watcher.epoch = epoch)
      (hwatcher : st'.provider.watcher =
        { st.provider.watcher with phase := .waiting timeout ends set })
      (hduties : st'.duties = st.duties)
  /-- A wait returned, and the watcher was asked to end. -/
  | leaves (timeout : Duration) (ends : Instant) (set : WaitSet)
      (outcome : Except CardError WaitOutcome)
      (hphase : st.provider.watcher.phase = .waiting timeout ends set)
      (hvalue : (b.wait ⟨some timeout, ends, now, set.entries⟩
        st.provider.hub.world.hardware).map Reply.value = some outcome)
      (hstop : st.provider.watcher.stop = true)
      (hwatcher : st'.provider.watcher = { st.provider.watcher with phase := .stopped })
      (hduties : st'.duties = st.duties)
  /-- A wait returned. -/
  | hears (timeout : Duration) (ends : Instant) (set : WaitSet)
      (outcome : Except CardError WaitOutcome)
      (hphase : st.provider.watcher.phase = .waiting timeout ends set)
      (hvalue : (b.wait ⟨some timeout, ends, now, set.entries⟩
        st.provider.hub.world.hardware).map Reply.value = some outcome)
      (hstop : st.provider.watcher.stop = false)
      (hwatcher : st'.provider.watcher =
        { st.provider.watcher with phase := .timing st.provider.watcher.epoch set })
      (hduties : st'.duties = (Watcher.newsOf now set outcome).map .tell ++
        .go (Watcher.nextOf now set outcome) :: st.duties)

theorem watch_step (b : Backend σ κ ε) (now : Instant) (st : Stage σ κ ε) :
    Step b now st (st.watch b now) := by
  rcases hphase : st.provider.watcher.phase with list | ⟨epoch, set⟩ | ⟨timeout, ends, set⟩ |
    ⟨ends, list⟩ | _
  · rcases hvalue : (b.list st.provider.hub.world.hardware).value with e | names
    · refine .fails list e hphase hvalue ?_ ?_ <;>
        simp only [watch, hphase, Hub.surroundings, World.call, hvalue]
    · refine .lists list names hphase hvalue ?_ ?_ <;>
        simp only [watch, hphase, Hub.surroundings, World.call, hvalue, Watcher.go]
  · by_cases hepoch : st.provider.watcher.epoch = epoch
    · let timeout := Watcher.timeoutOf (st.provider.hub.pending.nextTimeout now)
      refine .begins epoch timeout (now + timeout) set hphase hepoch ?_ ?_ <;>
        simp only [watch, hphase, if_pos hepoch, timeout]
    · refine .rounds epoch set hphase hepoch ?_ ?_ <;>
        simp only [watch, hphase, if_neg hepoch, Watcher.go]
  · rcases hwait : b.wait ⟨some timeout, ends, now, set.entries⟩ st.provider.hub.world.hardware
      with _ | reply
    · refine .rests ?_ (by rw [hphase]; rfl) fun timeout' ends' set' hphase' => ?_
      · simp only [watch, hphase, Hub.surroundings, hwait, Option.map_none]
      · cases hphase.symm.trans hphase'
        exact hwait
    · -- What a wait returns is looked at only if nobody asked the watcher to end.
      have hvalue := congrArg (Option.map Reply.value) hwait
      by_cases hstop : st.provider.watcher.stop = true
      · refine .leaves timeout ends set _ hphase hvalue hstop ?_ ?_ <;>
          simp only [watch, hphase, Hub.surroundings, hwait, Option.map_some, World.call,
            if_pos hstop]
      · refine .hears timeout ends set _ hphase hvalue (eq_false_of_ne_true hstop) ?_ ?_ <;>
          simp only [watch, hphase, Hub.surroundings, hwait, Option.map_some, World.call,
            if_neg hstop]
  · refine .rests ?_ (by rw [hphase]; rfl) fun _ _ _ hphase' => ?_
    · simp only [watch, hphase]
    · cases hphase.symm.trans hphase'
  · refine .rests ?_ (by rw [hphase]; rfl) fun _ _ _ hphase' => ?_
    · simp only [watch, hphase]
    · cases hphase.symm.trans hphase'

theorem Step.flag (h : Step b now st st') :
    st'.provider.watcher.stop = st.provider.watcher.stop := by
  cases h with
  | rests hstill => rw [hstill]
  | lists _ _ _ _ hwatcher | rounds _ _ _ _ hwatcher => rw [hwatcher, Watcher.go_stop]
  | fails _ _ _ _ hwatcher | begins _ _ _ _ _ _ hwatcher | leaves _ _ _ _ _ _ _ hwatcher
  | hears _ _ _ _ _ _ _ hwatcher => rw [hwatcher]

/-- The watcher makes a step if nothing is left to do. -/
theorem move_watch (hduties : st.duties = []) (now : Instant) :
    st.move b (.watch now) = st.watch b now := by
  rw [move.eq_def]
  simp only [hduties, List.isEmpty_nil, if_true]

/-- Only one move asks the watcher to end. -/
theorem move_flag {move : Move σ} (hmove : move ≠ .stop) :
    (st.move b move).provider.watcher.stop = st.provider.watcher.stop := by
  cases move with
  | work =>
      rcases st with ⟨p, duties, begun⟩
      rcases duties with _ | ⟨_ | cause | ⟨_, call?⟩ | ⟨_ | _⟩ | next, duties⟩
      · rfl
      · rfl
      · exact Provider.wakeIf_flag cause
      · cases call? <;> rfl
      · rfl
      · rfl
      · exact p.watcher.go_stop next
  | enter now entry =>
      -- Two entry points are carried out in parts, the others as a whole.
      have hwhole := (Provider.enter_course b now entry st.provider).flag
      cases entry with
      | closeSession call =>
          show (st.remove call.service (some call)).provider.watcher.stop = _
          rw [remove]
          split <;> rfl
      | cancelAsync handle request =>
          show (st.cancelAsync handle request).provider.watcher.stop = _
          rw [cancelAsync.eq_def]
          split <;> rfl
      | openSession | lock | unlock | register | deregister | getInfo | execute | executeRaw
      | setTraceLevel | unload | reload => exact hwhole
  | createSession handle settings => exact Provider.createSession_flag handle settings
  | removeSession handle =>
      show (st.remove handle none).provider.watcher.stop = _
      rw [remove]
      split <;> rfl
  | addRequest request => exact Provider.addRequest_flag request
  | cancelRequest | cancelService | cancelAll | change | happen => rfl
  | watch now =>
      rw [move.eq_def]
      simp only
      split
      · exact (watch_step b now st).flag
      · rfl
  | tick now =>
      show (st.provider.watcher.tick now).stop = st.provider.watcher.stop
      rw [Watcher.tick]
      split
      · next list _ =>
          split
          · exact st.provider.watcher.go_stop (.listing list)
          · rfl
      · rfl
  | stop => exact absurd rfl hmove

/-- The watcher goes on, and is to go on. -/
structure Ongoing (st : Stage σ κ ε) : Prop where
  flag : st.provider.watcher.stop = false
  phase : st.provider.watcher.phase ≠ .stopped

/-- It does not end by itself. -/
theorem move_ongoing (h : st.Ongoing) {move : Move σ} (hmove : move ≠ .stop) :
    (st.move b move).Ongoing := by
  refine ⟨(move_flag hmove).trans h.flag, ?_⟩
  have hgone : ∀ {next : Next} {st' : Stage σ κ ε},
      st'.provider.watcher = st.provider.watcher.go next →
        st'.provider.watcher.phase ≠ .stopped :=
    fun hwatcher => hwatcher ▸ Watcher.go_ongoing h.flag _
  cases move_mover b st move with
  | client _ haside => exact haside.nudges.phase ▸ h.phase
  | tells s duties _ hnudges => exact hnudges.phase ▸ h.phase
  | goes next duties _ hwork => exact hgone (congrArg Provider.watcher hwork)
  | watches now _ hwatch =>
      rw [hwatch]
      cases watch_step b now st with
      | rests hstill =>
          rw [hstill]
          exact h.phase
      | lists _ _ _ _ hwatcher | rounds _ _ _ _ hwatcher => exact hgone hwatcher
      | fails _ _ _ _ hwatcher => exact hwatcher ▸ h.phase
      | begins _ _ _ _ _ _ hwatcher | hears _ _ _ _ _ _ _ hwatcher =>
          rw [hwatcher]
          exact Phase.noConfusion
      | leaves _ _ _ _ _ _ hstop => cases h.flag.symm.trans hstop
  | ticks now =>
      show (st.provider.watcher.tick now).phase ≠ .stopped
      rw [Watcher.tick]
      split
      · next list _ =>
          split
          · exact Watcher.go_ongoing h.flag (.listing list)
          · exact h.phase
      · exact h.phase
  | stops => exact absurd rfl hmove

theorem run_ongoing (h : st.Ongoing) {moves : List (Move σ)} (hmoves : .stop ∉ moves) :
    (st.run b moves).Ongoing := by
  induction moves generalizing st with
  | nil => exact h
  | cons move moves ih =>
      refine ih (move_ongoing h fun hmove => ?_) fun hmem =>
        hmoves (List.mem_cons_of_mem _ hmem)
      exact hmoves (hmove ▸ List.mem_cons_self)

theorem start_ongoing (hardware : σ) (config : Config) :
    (start hardware config : Stage σ κ ε).Ongoing := ⟨rfl, Phase.noConfusion⟩

/-- A pause that is over leads back to the list of readers. -/
theorem tick_paused (h : st.Ongoing) {ends : Instant} {list : Snapshot}
    (hphase : st.provider.watcher.phase = .pausing ends list) (hover : ends ≤ now) :
    (st.move b (.tick now)).provider.watcher.phase = .listing list := by
  show (st.provider.watcher.tick now).phase = .listing list
  simp only [Watcher.tick, hphase, if_pos hover, Watcher.enterListing, h.flag, Bool.false_eq_true,
    if_false]

section listed

variable {past : List Deed} {deed? : Option Deed}

/-- The watcher carries along what was reported last on the list of readers. -/
def Relisted (past : List Deed) (st : Stage σ κ ε) : Prop :=
  ∀ list, st.hold.list? = some list → list = listAfter past

theorem Turn.relisted (hturn : Turn b st st' deed?) (h : Relisted past st) :
    Relisted (past ++ deed?.toList) st' := by
  intro list hlist
  rw [listAfter_append]
  cases hdeed : deed?.any Deed.learns with
  | false =>
      -- Nothing was heard, so what is carried along is from before.
      have hbefore := h list ((hturn.carries hdeed).1 list hlist)
      rcases deed? with _ | deed
      · exact hbefore
      · cases deed with
        | opened | closed | setOut | began | told => exact hbefore
        | listed | heard => cases hdeed
  | true =>
      cases hturn with
      | listed list' names _ _ hhold _ hhold' =>
          refine h list (hhold ▸ ?_)
          rcases hhold' with ⟨hhold', -⟩ | hhold' | hhold' <;> rw [hhold'] at hlist
          · exact hlist
          · exact hlist
          · cases hlist
      | heard poll set reports _ _ _ _ _ hhold' =>
          rw [hhold', Watcher.nextOf] at hlist
          split at hlist <;> exact (Option.some.inj hlist).symm
      | same | setOut | failed | ended | told | began => cases hdeed

theorem move_relisted (horderly : st.Orderly) (h : Relisted past st) (move : Move σ) :
    Relisted (past ++ st.deeds b move) (st.move b move) := by
  -- Sessions that come and go, and a watcher that sets out, report nothing.
  have hmute : ∀ (deeds : List Deed) (list : Snapshot),
      (∀ deed ∈ deeds, deed = .setOut ∨ ∃ handle, deed = .opened handle ∨ deed = .closed handle) →
        deeds.foldl Deed.relist list = list := by
    refine fun deeds list hall => List.foldlRecOn (motive := (· = list)) _ _ rfl
      fun list' hlist' deed hdeed => ?_
    rcases hall deed hdeed with rfl | ⟨handle, rfl | rfl⟩ <;> exact hlist'
  intro list hlist
  rw [(move_turn (b := b) horderly move).1.relisted h list hlist, deeds, List.append_assoc,
    ← List.append_assoc, listAfter_append (past ++ _), hmute]
  intro deed hdeed
  rcases List.mem_append.mp hdeed with hdeed | hdeed
  · exact .inl (mem_departure hdeed)
  · rcases mem_turnover hdeed with ⟨handle, rfl, -⟩ | ⟨handle, rfl, -⟩
    · exact .inr ⟨handle, .inl rfl⟩
    · exact .inr ⟨handle, .inr rfl⟩

theorem run_relisted (hrecorded : Recorded past st) (h : Relisted past st)
    (moves : List (Move σ)) : Relisted (past ++ st.chronicle b moves) (st.run b moves) := by
  induction moves generalizing past st with
  | nil =>
      rw [chronicle, List.append_nil]
      exact h
  | cons move moves ih =>
      rw [chronicle, ← List.append_assoc]
      exact ih (move_recorded hrecorded move) (move_relisted hrecorded.orderly h move)

theorem start_relisted (hardware : σ) (config : Config) :
    Relisted [.setOut] (start hardware config : Stage σ κ ε) :=
  fun _ hlist => (Option.some.inj hlist).symm

end listed

/-- What a move does to the stack of duties. -/
inductive Stacking (st st' : Stage σ κ ε) : Move σ → Prop where
  /-- More duties come on top. -/
  | pushes (move : Move σ) (more : List (Duty κ)) (hduties : st'.duties = more ++ st.duties) :
      Stacking st st' move
  /-- The uppermost is done, and may have left more to do. -/
  | pops (duty : Duty κ) (more rest : List (Duty κ)) (hduties : st.duties = duty :: rest)
      (hduties' : st'.duties = more ++ rest) : Stacking st st' .work

theorem remove_stacking (handle : ServiceHandle) (call? : Option Call) (st : Stage σ κ ε)
    (move : Move σ) : Stacking st (st.remove handle call?) move := by
  rw [remove]
  split
  · exact .pushes move [] rfl
  · exact .pushes move _ rfl

theorem move_stacking (b : Backend σ κ ε) (st : Stage σ κ ε) (move : Move σ) :
    Stacking st (st.move b move) move := by
  have hstill : ∀ {st' : Stage σ κ ε} (move : Move σ), st'.duties = st.duties →
      Stacking st st' move := fun move hduties => .pushes move [] hduties
  cases move with
  | work =>
      rcases st with ⟨p, duties, begun⟩
      rcases duties with _ | ⟨_ | _ | _ | ⟨now | s⟩ | _, duties⟩
      · exact hstill .work rfl
      · exact .pops _ [] duties rfl rfl
      · exact .pops _ [] duties rfl rfl
      · exact .pops _ [] duties rfl rfl
      · exact .pops _ _ duties rfl rfl
      · exact .pops _ _ duties rfl rfl
      · exact .pops _ [] duties rfl rfl
  | enter now entry =>
      cases entry with
      | closeSession call => exact remove_stacking call.service (some call) st _
      | cancelAsync handle request =>
          show Stacking st (st.cancelAsync handle request) _
          rw [cancelAsync.eq_def]
          split
          · exact hstill _ rfl
          · exact .pushes _ _ rfl
          · exact .pushes _ _ rfl
      | openSession | lock | unlock | register | deregister | getInfo | execute | executeRaw
      | setTraceLevel | unload | reload => exact hstill _ rfl
  | createSession | addRequest | tick | happen | stop => exact hstill _ rfl
  | removeSession handle => exact remove_stacking handle none st _
  | cancelRequest | cancelService | cancelAll | change => exact .pushes _ _ rfl
  | watch now =>
      rw [move.eq_def]
      simp only
      split
      · cases watch_step b now st with
        | rests hwatch => exact hstill _ (congrArg duties hwatch)
        | lists _ _ _ _ _ hduties | rounds _ _ _ _ _ hduties | begins _ _ _ _ _ _ _ hduties
        | leaves _ _ _ _ _ _ _ _ hduties => exact hstill _ hduties
        | fails _ _ _ _ _ hduties => exact .pushes _ [_, _] hduties
        | hears _ _ _ _ _ _ _ _ hduties =>
            exact .pushes _ (_ ++ [_]) (hduties.trans (List.append_cons ..))
      · exact hstill _ rfl

/-- A duty is done before those below it, and at a time when it is the uppermost. -/
theorem worked_of_done {top below : List (Duty κ)} {duty : Duty κ}
    (hduties : st.duties = top ++ duty :: below) {moves : List (Move σ)}
    (hdone : (st.run b moves).duties.length ≤ below.length) :
    ∃ earlier since, moves = earlier ++ .work :: since ∧
      (st.run b earlier).duties = duty :: below := by
  induction moves generalizing st top with
  | nil =>
      have hmore : st.duties.length ≤ below.length := hdone
      rw [hduties, List.length_append, List.length_cons] at hmore
      omega
  | cons move moves ih =>
      -- Unless it is done by this move, the duty is on the stack still, under other ones.
      have hlater : ∀ top', (st.move b move).duties = top' ++ duty :: below →
          ∃ earlier since, move :: moves = earlier ++ .work :: since ∧
            (st.run b earlier).duties = duty :: below := by
        intro top' htop
        rcases ih htop hdone with ⟨earlier, since, hsplit, hupper⟩
        exact ⟨move :: earlier, since, by rw [hsplit]; rfl, hupper⟩
      cases move_stacking b st move with
      | pushes _ more hmore =>
          refine hlater (more ++ top) ?_
          rw [hmore, hduties, List.append_assoc]
      | pops upper more rest hupper hmore =>
          cases top with
          | nil => exact ⟨[], moves, rfl, hduties⟩
          | cons _ top =>
              refine hlater (more ++ top) ?_
              cases hduties.symm.trans hupper
              exact hmore.trans (List.append_assoc ..).symm

/-- The messages that were posted so far. -/
def posts (st : Stage σ κ ε) : List Post := st.provider.hub.world.posts

/-- The steps of the watcher post nothing. -/
theorem watch_posts (b : Backend σ κ ε) (now : Instant) (st : Stage σ κ ε) :
    (st.watch b now).posts = st.posts := by
  have hcalled : ∀ {α : Type} (f : σ → Reply σ ε α),
      (st.provider.hub.world.call f).2.posts = st.posts := fun f => World.posts_call f _
  rcases hphase : st.provider.watcher.phase with list | ⟨epoch, set⟩ | ⟨timeout, ends, set⟩ | _ | _
  · simp only [watch, hphase, Hub.surroundings, posts]
    split
    · next hcall => exact (congrArg (·.2.world.posts) hcall).symm.trans (hcalled b.list)
    · next hcall => exact (congrArg (·.2.world.posts) hcall).symm.trans (hcalled b.list)
  · simp only [watch, hphase]
    split <;> rfl
  · simp only [watch, hphase, Hub.surroundings, posts]
    split
    · rfl
    · next hcall =>
        rcases Option.map_eq_some_iff.mp hcall with ⟨reply, -, hreply⟩
        have hposts := (congrArg (·.2.world.posts) hreply).symm.trans (hcalled fun _ => reply)
        split <;> exact hposts
  · simp only [watch, hphase]
  · simp only [watch, hphase]

/-- What was posted stays so. -/
theorem move_posts (h : st.provider.hub.pending.Consistent) (move : Move σ) :
    ∃ more, (st.move b move).posts = st.posts ++ more := by
  have hadds : (∀ now, move = .watch now → st.duties.isEmpty = false) →
      ∃ more, (st.move b move).posts = st.posts ++ more := by
    intro hmove
    have hnotes : b.Notes fun _ => True := Backend.Notes.of_forall fun _ => trivial
    have hgrown := move_adds (Q := fun _ => True) hnotes (fun _ => trivial) h move hmove
    rcases hgrown.posts with ⟨more, hmore, -⟩
    exact ⟨more, hmore⟩
  cases move with
  | watch now =>
      -- What the watcher itself adds to the log are calls.
      cases hduties : st.duties.isEmpty with
      | true =>
          refine ⟨[], ?_⟩
          rw [move.eq_def, List.append_nil]
          simp only [hduties, if_true]
          exact watch_posts b now st
      | false => exact hadds fun _ _ => hduties
  | work | enter | createSession | removeSession | addRequest | cancelRequest | cancelService
  | cancelAll | change | tick | happen | stop => exact hadds fun _ hmove => by cases hmove

theorem run_posts (h : st.Timely) (moves : List (Move σ)) :
    ∃ more, (st.run b moves).posts = st.posts ++ more := by
  induction moves generalizing st with
  | nil => exact ⟨[], (List.append_nil _).symm⟩
  | cons move moves ih =>
      rcases move_posts (b := b) h.consistent move with ⟨first, hfirst⟩
      rcases ih (move_timely h move).1 with ⟨more, hmore⟩
      refine ⟨first ++ more, ?_⟩
      rw [← List.append_assoc, ← hfirst]
      exact hmore

/-- Messages among the duties are posted, in their order, before what is below
    them is done. -/
theorem posted_of_done (h : st.Timely) {top below : List (Duty κ)} {messages : List Post}
    (hduties : st.duties = top ++ messages.map .post ++ below) {moves : List (Move σ)}
    (hdone : (st.run b moves).duties.length ≤ below.length) :
    ∃ posted, (st.run b moves).posts = st.posts ++ posted ∧ messages.Sublist posted := by
  induction messages generalizing st top moves with
  | nil =>
      rcases run_posts (b := b) h moves with ⟨more, hmore⟩
      exact ⟨more, hmore, List.nil_sublist more⟩
  | cons message messages ih =>
      rw [List.map_cons, List.append_assoc, List.cons_append] at hduties
      have hdone' : (st.run b moves).duties.length ≤
          (messages.map Duty.post ++ below).length :=
        hdone.trans (List.length_append ▸ Nat.le_add_left ..)
      rcases worked_of_done hduties hdone' with ⟨earlier, since, rfl, hupper⟩
      have hreached := (run_timely (b := b) h earlier).1
      rcases run_posts (b := b) h earlier with ⟨before, hbefore⟩
      -- The message is posted by the duty that is done here, and the others later.
      have hposted : ((st.run b earlier).move b .work).posts =
          (st.run b earlier).posts ++ [message] := by
        show ((st.run b earlier).work b).posts = _
        rw [work, hupper]
        exact World.posts_post _ _
      have hrest : ((st.run b earlier).move b .work).duties =
          [] ++ messages.map .post ++ below := by
        show ((st.run b earlier).work b).duties = _
        rw [work, hupper]
        rfl
      rw [run_append] at hdone ⊢
      rcases ih (move_timely hreached .work).1 hrest hdone with ⟨posted, hafter, hsub⟩
      refine ⟨before ++ message :: posted, ?_, ?_⟩
      · refine hafter.trans ?_
        rw [hposted, hbefore, List.append_assoc, List.append_assoc, List.singleton_append]
      · exact (hsub.cons_cons message).trans (List.sublist_append_right _ _)

/-- A call that brings up nothing but the passing of time, and where the watcher
    goes after it. -/
inductive Barren (b : Backend σ κ ε) (now : Instant) (st : Stage σ κ ε) : Next → Prop where
  /-- The readers cannot be listed. -/
  | unlisted (list : Snapshot) (e : CardError)
      (hphase : st.provider.watcher.phase = .listing list)
      (hvalue : (b.list st.provider.hub.world.hardware).value = .error e) :
      Barren b now st (.pause now list)
  /-- A wait ran out of time. -/
  | timedOut (timeout : Duration) (ends : Instant) (set : WaitSet)
      (hphase : st.provider.watcher.phase = .waiting timeout ends set)
      (hvalue : (b.wait ⟨some timeout, ends, now, set.entries⟩
        st.provider.hub.world.hardware).map Reply.value = some (.ok .timedOut)) :
      Barren b now st (.round set)
  /-- A wait failed. -/
  | failed (timeout : Duration) (ends : Instant) (set : WaitSet) (e : CardError)
      (hphase : st.provider.watcher.phase = .waiting timeout ends set)
      (hvalue : (b.wait ⟨some timeout, ends, now, set.entries⟩
        st.provider.hub.world.hardware).map Reply.value = some (.error e)) :
      Barren b now st (.pause now set.list)

/-- After such a call the deadlines are to be looked at, and nothing is to be
    shown to the sessions. -/
theorem Barren.duties {next : Next} (h : Barren b now st next)
    (hstop : st.provider.watcher.stop = false) :
    (st.watch b now).duties = .tell (.timeout now) :: .go next :: st.duties := by
  cases h with
  | unlisted list e hphase hvalue =>
      cases watch_step b now st with
      | fails list' _ hphase' _ _ hduties =>
          cases hphase.symm.trans hphase'
          exact hduties
      | lists list' _ hphase' hvalue' =>
          cases hphase.symm.trans hphase'
          cases hvalue.symm.trans hvalue'
      | rests _ hresting =>
          rw [hphase] at hresting
          cases hresting
      | rounds _ _ hphase' | begins _ _ _ _ hphase' | leaves _ _ _ _ hphase'
      | hears _ _ _ _ hphase' => cases hphase.symm.trans hphase'
  | timedOut timeout ends set hphase hvalue | failed timeout ends set _ hphase hvalue =>
      cases watch_step b now st with
      | hears _ _ _ outcome hphase' hvalue' _ _ hduties =>
          cases hphase.symm.trans hphase'
          cases hvalue.symm.trans hvalue'
          exact hduties
      | rests _ _ hwait =>
          rw [hwait _ _ _ hphase] at hvalue
          cases hvalue
      | leaves _ _ _ _ _ _ hstop' =>
          -- Only a watcher that was asked to end pays no heed to what a wait returns.
          cases hstop.symm.trans hstop'
      | lists _ _ hphase' | fails _ _ hphase' | rounds _ _ hphase' | begins _ _ _ _ hphase' =>
          cases hphase.symm.trans hphase'

/-- What is shown of a chronicle in which all was told at first was heard in it. -/
theorem told_of_heard {past : List Deed} (h : Recorded past st) (huntold : st.untold = [])
    (moves : List (Move σ)) :
    toldIn (st.chronicle b moves) <+: changesIn (st.chronicle b moves) := by
  have hbefore := h.told
  have hafter := (run_recorded (b := b) h moves).told
  rw [huntold, List.append_nil] at hbefore
  rw [toldIn_append, changesIn_append, hbefore, List.append_assoc] at hafter
  exact ⟨_, List.append_cancel_left hafter⟩

/-- A look at the deadlines takes out the requests that are due, and has them
    completed before it is left. -/
theorem work_looks (h : st.Timely) {duties : List (Duty κ)}
    (hduties : st.duties = .tell (.timeout now) :: duties) :
    let looked := st.move b .work
    let due := st.provider.hub.pending.live.filter fun r => r.deadline ≤ now
    looked.provider.hub.sessions = st.provider.hub.sessions ∧
      looked.provider.hub.pending.live =
        (st.provider.hub.pending.live.filter fun r => !decide (r.deadline ≤ now)) ∧
      ∀ moves, (looked.run b moves).duties.length ≤ duties.length →
        ∃ posted, (looked.run b moves).posts = st.posts ++ posted ∧
          (due.map PendingRequest.timedOut).Sublist posted := by
  intro looked due
  have hlooked : looked = settle (st.provider.hub.pending.expireDue now) [] { st with duties } := by
    show st.work b = _
    rw [work, hduties]
  have hends := RequestQueue.expireDue_ends h.consistent now
  have hposts : (st.provider.hub.pending.expireDue now).posts =
      due.map PendingRequest.timedOut := by
    rw [hends.posts, ← List.flatMap_pure_eq_map]
    rfl
  refine ⟨congrArg (·.provider.hub.sessions) hlooked, ?_, fun moves hdone => ?_⟩
  · rw [hlooked]
    exact hends.live
  · have hstack : looked.duties = [] ++ (due.map PendingRequest.timedOut).map .post ++ duties := by
      rw [hlooked, settle, hposts, List.append_nil]
      rfl
    have hsame : looked.posts = st.posts := by rw [hlooked]; rfl
    rw [← hsame]
    exact posted_of_done (move_timely h .work).1 hstack hdone

/-- The watch survives every failure, and honours deadlines all the while. After any
    run in which nobody asks it to end, with calls from inside completions: the
    watcher has not ended, and a pause that is over leads back to the list of readers.
    What it knows of the list of readers, wherever it stands, is what was reported by
    the last wait that returned with reports. When a call brings up nothing but the
    passing of time, sessions and requests are as they were, and nothing is to be
    shown to the sessions. Before the watcher has nothing left to do, and so before it
    makes another call, there is a look at the deadlines: whoever is due by then is
    taken out and is told of a timeout, all of them in the order of their deadlines,
    and everyone else waits on. What is shown later was heard later. -/
theorem watch_perseveres (b : Backend σ κ ε) (hardware : σ) (config : Config)
    (moves : List (Move σ)) (hgoing : .stop ∉ moves) :
    let begun : Stage σ κ ε := start hardware config
    let st := begun.run b moves
    let known := listAfter (begun.chronicle b moves)
    st.provider.watcher.phase ≠ .stopped ∧
      (∀ now ends list, st.provider.watcher.phase = .pausing ends list → ends ≤ now →
        (st.move b (.tick now)).provider.watcher.phase = .listing list) ∧
      (∀ list, st.hold.list? = some list → list = known) ∧
      (∀ move list names, st.doing b move = some (.listed list names) → list = known) ∧
      ∀ now next, st.duties = [] → Barren b now st next →
        let returned := st.move b (.watch now)
        returned.provider.hub.sessions = st.provider.hub.sessions ∧
          returned.provider.hub.pending = st.provider.hub.pending ∧ returned.untold = [] ∧
          ∀ more, toldIn (returned.chronicle b more) <+: changesIn (returned.chronicle b more) ∧
            ((returned.run b more).duties = [] → ∃ earlier since,
              more = earlier ++ .work :: since ∧
                let looking := returned.run b earlier
                let due := looking.provider.hub.pending.live.filter fun r => r.deadline ≤ now
                looking.duties = [.tell (.timeout now), .go next] ∧
                  (looking.move b .work).provider.hub.sessions = looking.provider.hub.sessions ∧
                  (looking.move b .work).provider.hub.pending.live =
                    (looking.provider.hub.pending.live.filter fun r =>
                      !decide (r.deadline ≤ now)) ∧
                  ∃ posted, (returned.run b more).posts = looking.posts ++ posted ∧
                    (due.map PendingRequest.timedOut).Sublist posted) := by
  intro begun st known
  have hongoing : st.Ongoing := run_ongoing (start_ongoing hardware config) hgoing
  have hrecorded := run_recorded (b := b) (start_recorded (κ := κ) (ε := ε) hardware config) moves
  have htimely := (run_timely (b := b) (start_timely (κ := κ) (ε := ε) hardware config) moves).1
  have hlisted : ∀ list, st.hold.list? = some list → list = known :=
    run_relisted (start_recorded hardware config) (start_relisted hardware config) moves
  refine ⟨hongoing.phase, fun now ends list => tick_paused hongoing, hlisted,
    fun move list names hdoing => ?_, fun now next hduties hbarren => ?_⟩
  · have hturn := (move_turn (b := b) hrecorded.orderly move).1
    rw [hdoing] at hturn
    cases hturn with
    | listed _ _ _ _ hhold => exact hlisted list (hhold ▸ rfl)
  · intro returned
    have hwatched : returned = st.watch b now := move_watch hduties now
    have hstack : returned.duties = [] ++ .tell (.timeout now) :: [.go next] := by
      rw [hwatched, hbarren.duties hongoing.flag, hduties]
      rfl
    have huntold : returned.untold = [] := by
      rw [untold, chores, hstack]
      rfl
    rcases watch_hub b now st with ⟨world, hhub⟩
    refine ⟨by rw [hwatched, hhub], by rw [hwatched, hhub], huntold, fun more =>
      ⟨told_of_heard (move_recorded hrecorded (.watch now)) huntold more, fun hdone => ?_⟩⟩
    -- The stack is empty at last, so the look that was on it has been made.
    have hempty := Nat.le_of_eq (congrArg List.length hdone)
    rcases worked_of_done hstack (hempty.trans (Nat.zero_le _)) with
      ⟨earlier, since, rfl, hlooking⟩
    have hreached := (run_timely (b := b) (move_timely (b := b) htimely (.watch now)).1 earlier).1
    rcases work_looks (b := b) hreached hlooking with ⟨hsessions, hlive, hposted⟩
    refine ⟨earlier, since, rfl, hlooking, hsessions, hlive, ?_⟩
    rw [run_append] at hempty ⊢
    exact hposted since (hempty.trans (Nat.zero_le _))

end Stage

namespace Simulation

/-- A hall with one reader that was attached some time ago. -/
def attached : Hall := { oneReader with count := 1#16 }

/-- The same, where the next wait and the next listing fail. -/
def unwell : Hall := { attached with failures := [(.wait, .noService), (.list, .noService)] }

/-- A read waits for a card until 100. The list of readers is reported once, and
    later the wait fails, and a pause follows. -/
def failing : List (Move Hall) :=
  [.enter 0 (.openSession ⟨1, 1, 1⟩ "L" 0),
   .enter 0 (.execute ⟨1, 1, 2⟩ (some 100) (.readRawData 8#16)), .watch 0, .watch 0, .watch 0,
   .watch 0, .work, .watch 0, .watch 0, .work, .work, .work, .watch 0, .watch 0, .happen unwell,
   .watch 40, .work, .work, .tick 1040]

/-- What was reported on the list of readers before that. -/
def attachedList : Snapshot := ⟨Snapshot.listName, 0x00010002#32, 0x00010002#32, []⟩

set_option maxRecDepth 4000 in
/-- The readers cannot be listed after the pause either. The read is told of a timeout
    then, and what was reported on the list of readers is still known. -/
theorem watch_perseveres_failing :
    let begun : Stage Hall Connection Note := Stage.start attached (configuredTo "A")
    let st := begun.run backend failing
    let returned := st.move backend (.watch 1040)
    .stop ∉ failing ∧ Stage.Barren backend 1040 st (.pause 1040 attachedList) ∧
      attachedList = listAfter (begun.chronicle backend failing) ∧ returned.untold = [] ∧
      (∃ earlier since, [.work, .work, .work] = earlier ++ .work :: since ∧
        (returned.run backend earlier).duties =
          [.tell (.timeout 1040), .go (.pause 1040 attachedList)]) ∧
      (returned.run backend [.work, .work, .work]).posts.getLast? =
        some ⟨1, Message.completion .executeComplete ⟨1, 2⟩ 207 .timeout .none⟩ := by
  intro begun st returned
  have hgoing : .stop ∉ failing := by simp [failing]
  rcases Stage.watch_perseveres backend attached (configuredTo "A") failing hgoing with
    ⟨-, -, hknown, -, hcalls⟩
  have hphase : st.provider.watcher.phase = .listing attachedList := by decide
  have hduties : st.duties = [] := List.isEmpty_iff.mp (by decide)
  have hbarren : Stage.Barren backend 1040 st (.pause 1040 attachedList) :=
    .unlisted attachedList .noService hphase (by decide)
  have hhold : st.hold.list? = some attachedList := by decide
  rcases hcalls 1040 _ hduties hbarren with ⟨-, -, huntold, hmore⟩
  rcases (hmore [.work, .work, .work]).2 (List.isEmpty_iff.mp (by decide)) with
    ⟨earlier, since, hsplit, hlooking, -⟩
  exact ⟨hgoing, hbarren, hknown _ hhold, huntold, ⟨earlier, since, hsplit, hlooking⟩,
    by decide⟩

end Simulation

end CardHost
