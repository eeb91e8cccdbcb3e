import CardHost.Proofs.Duplicates
import CardHost.Proofs.Perseverance

/-!
# The Watch Ends When It Is Asked To

Whoever asks the watcher to end waits for it to be gone, so it may neither sit out a
pause nor begin another wait, wherever it stands when it is asked. It looks at the
flag at a few places only, and not at any of them is it about to call for sure. What
keeps it from calling again and again is that the request raises the flag and counts
up the epoch at once. A wait that is about to begin is in an epoch that has passed,
and going on after a call leads to the end.

`Ending` says where a watcher that was asked can stand. One call may still return,
be it a listing that was just to be made or the wait under way. After it the watcher
is `Leaving`: it has come to its end, or will when it has done what is left to do.
None of that is a pause, and nothing the last call brought up is shown to anyone.

## Main definitions

* `Stage.answered`, `Stage.answers`: The calls of the watcher that return.
* `Deed.waits`: A wait begins or is heard.
* `Stage.Ending`: The watcher was asked to end.
* `Stage.Leaving`: It makes no call any more.

## Theorems

* `stop_ending`: Wherever it stands when it is asked.
* `move_ending`, `run_ending`: It stays so.
* `watch_leaving`, `move_leaving`, `run_leaving`: One call at most.
* `Leaving.answers`, `Ending.answers`: How many calls return.
* `Ending.doing`, `Ending.chronicle`: None of them is heard.
* `shut_down_at_once`: Every run.
-/

namespace CardHost

variable {σ κ ε : Type}

/-- Whether a deed is the beginning of a wait, or a wait that is heard. -/
def Deed.waits : Deed → Bool
  | began _ | heard .. => true
  | opened _ | closed _ | setOut | listed .. | told _ => false

namespace Watcher

/-- A watcher that is to end does so when it goes on, and does not pause before. -/
theorem go_stopped {m : Watcher} (hstop : m.stop = true) (next : Next) :
    (m.go next).phase = .stopped := by
  cases next with
  | round set => simp only [go, enterRound, if_pos hstop]
  | listing list => simp only [go, enterListing, if_pos hstop]
  | pause now list => simp only [go, enterPause, if_pos hstop]

end Watcher

namespace Stage

variable {b : Backend σ κ ε} {st st' : Stage σ κ ε} {now : Instant} {move : Move σ}

/-- Whether a call of the watcher returns in its next step. -/
def returning (b : Backend σ κ ε) (now : Instant) (st : Stage σ κ ε) : Bool :=
  match st.provider.watcher.phase with
  | .listing _ => true
  | .waiting timeout ends set =>
    (b.wait ⟨some timeout, ends, now, set.entries⟩ st.provider.hub.world.hardware).isSome
  | .timing .. | .pausing .. | .stopped => false

/-- Whether a call of the watcher returns in a move. -/
def answered (b : Backend σ κ ε) (st : Stage σ κ ε) : Move σ → Bool
  | .watch now => st.duties.isEmpty && st.returning b now
  | _ => false

/-- How many calls of the watcher return in a run. -/
def answers (b : Backend σ κ ε) : List (Move σ) → Stage σ κ ε → Nat
  | [], _ => 0
  | move :: moves, st => (st.answered b move).toNat + answers b moves (st.move b move)

/-- The watcher was asked to end, and is neither in a pause nor about to wait. -/
structure Ending (st : Stage σ κ ε) : Prop where
  orderly : st.Orderly
  flag : st.provider.watcher.stop = true
  awake : ∀ ends list, st.provider.watcher.phase ≠ .pausing ends list
  passed : st.chores = [] → ∀ epoch set, st.provider.watcher.phase = .timing epoch set →
    epoch < st.provider.watcher.epoch

/-- Besides, it makes no call any more. -/
structure Leaving (st : Stage σ κ ε) : Prop extends st.Ending where
  stopped : st.chores = [] → st.provider.watcher.phase = .stopped

/-- At its end a watcher has left. -/
theorem Leaving.of_stopped (horderly : st.Orderly) (hflag : st.provider.watcher.stop = true)
    (hphase : st.provider.watcher.phase = .stopped) : st.Leaving where
  orderly := horderly
  flag := hflag
  awake _ _ hpausing := by cases hphase.symm.trans hpausing
  passed _ _ _ htiming := by cases hphase.symm.trans htiming
  stopped _ := hphase

/-- Wherever the watcher stands when it is asked to end. -/
theorem stop_ending (h : st.Orderly) : (st.move b .stop).Ending := by
  have horderly := (move_turn (b := b) h .stop).2
  rcases st with ⟨⟨hub, ⟨phase, stop, resync, epoch⟩, config⟩, duties, begun⟩
  refine ⟨horderly, rfl, fun ends list hpausing => ?_, fun hchores epoch' set htiming => ?_⟩
  · -- A pause is cut short.
    cases phase <;> cases hpausing
  · cases phase with
    | timing epoch'' set' =>
        -- The wait was about to begin in the present epoch at most, which is over now.
        cases htiming
        exact Nat.lt_succ_of_le (h.prompt hchores _ _ rfl).1
    | pausing | listing | waiting | stopped => cases htiming

theorem flag_kept (h : st.provider.watcher.stop = true) (move : Move σ) :
    (st.move b move).provider.watcher.stop = true := by
  by_cases hmove : move = .stop
  · rw [hmove]
    rfl
  · exact (move_flag hmove).trans h

/-- With an entry still to be shown there is more to do after it. -/
theorem chores_of_tell (h : st.Orderly) {s : Snapshot} {duties : List (Duty κ)}
    (hduties : st.duties = .tell (.change s) :: duties) : (st.work b).chores ≠ [] := by
  rcases st with ⟨p, _, begun⟩
  cases hduties
  show (change b s s.kind ⟨p, duties, begun⟩).chores ≠ []
  rw [(change_aside b s s.kind ⟨p, duties, begun⟩).chores]
  rcases h.shape with hnone | ⟨news, next, herrand⟩
  · cases hnone
  · cases news with
    | nil => cases herrand
    | cons s' news =>
        have hrest : duties.filterMap Duty.chore? = Chore.errand news next :=
          (List.cons.inj herrand).2
        show duties.filterMap Duty.chore? ≠ []
        rw [hrest]
        exact List.append_ne_nil_of_right_ne_nil _ (List.cons_ne_nil _ _)

/-- Time ends pauses only. -/
theorem Ending.tick (h : st.Ending) (now : Instant) : st.move b (.tick now) = st := by
  rcases st with ⟨⟨hub, ⟨phase, stop, resync, epoch⟩, config⟩, duties, begun⟩
  cases phase with
  | pausing ends list => exact absurd rfl (h.awake ends list)
  | listing | timing | waiting | stopped => rfl

/-- One call may still return, and then the watcher has left. -/
theorem watch_leaving (h : st.Ending) (hduties : st.duties = [])
    (hreturns : ∀ timeout ends set, st.provider.watcher.phase = .waiting timeout ends set →
      b.wait ⟨some timeout, ends, now, set.entries⟩ st.provider.hub.world.hardware ≠ none) :
    (st.watch b now).Leaving := by
  have horderly := (watch_turn (b := b) h.orderly hduties now).2
  have hflag : (st.watch b now).provider.watcher.stop = true :=
    (watch_step b now st).flag.trans h.flag
  have hgone : ∀ {next : Next},
      (st.watch b now).provider.watcher = st.provider.watcher.go next →
        (st.watch b now).Leaving :=
    fun hwatcher => .of_stopped horderly hflag (hwatcher ▸ Watcher.go_stopped h.flag _)
  cases watch_step b now st with
  | rests hstill hresting hwait =>
      refine .of_stopped horderly hflag ?_
      rw [hstill]
      cases hphase : st.provider.watcher.phase with
      | stopped => rfl
      | waiting timeout ends set => exact absurd (hwait _ _ _ hphase) (hreturns _ _ _ hphase)
      | pausing ends list => exact absurd hphase (h.awake ends list)
      | listing | timing =>
          rw [hphase] at hresting
          cases hresting
  | lists _ _ _ _ hwatcher | rounds _ _ _ _ hwatcher => exact hgone hwatcher
  | fails list e hphase _ hwatcher hstack =>
      -- What is left to do is to look at the deadlines and to go to the end.
      have hnext : (st.watch b now).chores = [.go (.pause now list)] := by
        rw [chores, hstack, hduties]
        rfl
      refine ⟨⟨horderly, hflag, fun ends list' => ?_, fun hchores => ?_⟩, fun hchores => ?_⟩
      · rw [hwatcher, hphase]
        exact Phase.noConfusion
      · cases hnext.symm.trans hchores
      · cases hnext.symm.trans hchores
  | begins epoch _ _ set hphase hepoch =>
      -- It is in an epoch that has passed, and so it does not begin.
      have hpassed := h.passed (chores_of_duties hduties) epoch set hphase
      exact absurd hepoch (Nat.ne_of_gt hpassed)
  | leaves _ _ _ _ _ _ _ hwatcher => exact .of_stopped horderly hflag (by rw [hwatcher])
  | hears _ _ _ _ _ _ hstop => cases hstop.symm.trans h.flag

theorem move_ending (h : st.Ending) (move : Move σ) : (st.move b move).Ending := by
  have horderly := (move_turn (b := b) h.orderly move).2
  have hflag := flag_kept (b := b) h.flag move
  cases move_mover b st move with
  | client _ haside =>
      -- Clients may count the epoch up further, and never down.
      refine ⟨horderly, hflag, haside.nudges.phase ▸ h.awake, fun hchores epoch set hphase => ?_⟩
      rw [haside.chores] at hchores
      rw [haside.nudges.phase] at hphase
      exact Nat.lt_of_lt_of_le (h.passed hchores epoch set hphase) haside.nudges.epoch
  | tells s duties hduties hnudges =>
      exact ⟨horderly, hflag, hnudges.phase ▸ h.awake, fun hchores =>
        absurd hchores (chores_of_tell h.orderly hduties)⟩
  | goes next duties _ hwork =>
      refine (Leaving.of_stopped horderly hflag ?_).toEnding
      rw [move.eq_def]
      simp only [hwork]
      exact Watcher.go_stopped h.flag next
  | watches now hduties hwatch =>
      rw [hwatch]
      -- Either the wait goes on, or the watcher has left.
      by_cases hon : ∃ timeout ends set,
          st.provider.watcher.phase = .waiting timeout ends set ∧
            b.wait ⟨some timeout, ends, now, set.entries⟩ st.provider.hub.world.hardware = none
      · rcases hon with ⟨timeout, ends, set, hphase, hwait⟩
        simp only [watch, hphase, Hub.surroundings, hwait, Option.map_none]
        exact h
      · refine (watch_leaving h hduties fun timeout ends set hphase hwait => ?_).toEnding
        exact hon ⟨timeout, ends, set, hphase, hwait⟩
  | ticks now => exact (h.tick (b := b) now).symm ▸ h
  | stops => exact stop_ending h.orderly

theorem run_ending (h : st.Ending) (moves : List (Move σ)) : (st.run b moves).Ending := by
  induction moves generalizing st with
  | nil => exact h
  | cons move moves ih => exact ih (move_ending h move)

/-- A watcher that has left makes no step. -/
theorem Leaving.watch (h : st.Leaving) (hduties : st.duties = []) (now : Instant) :
    st.watch b now = st := by
  simp only [Stage.watch, h.stopped (chores_of_duties hduties)]

theorem move_leaving (h : st.Leaving) (move : Move σ) : (st.move b move).Leaving := by
  have hending := move_ending (b := b) h.toEnding move
  cases move_mover b st move with
  | client _ haside =>
      exact ⟨hending, fun hchores => haside.nudges.phase.trans
        (h.stopped (haside.chores.symm.trans hchores))⟩
  | tells s duties hduties =>
      exact ⟨hending, fun hchores => absurd hchores (chores_of_tell h.orderly hduties)⟩
  | goes next duties _ hwork =>
      refine .of_stopped hending.orderly hending.flag ?_
      rw [move.eq_def]
      simp only [hwork]
      exact Watcher.go_stopped h.flag next
  | watches now hduties hwatch =>
      rw [hwatch, h.watch hduties]
      exact h
  | ticks now => exact (h.tick (b := b) now).symm ▸ h
  | stops =>
      refine ⟨hending, fun hchores => ?_⟩
      have hphase := h.stopped hchores
      show (Provider.requestStop b st.provider).watcher.phase = .stopped
      simp only [Provider.requestStop, Watcher.requestStop, hphase]

theorem run_leaving (h : st.Leaving) (moves : List (Move σ)) : (st.run b moves).Leaving := by
  induction moves generalizing st with
  | nil => exact h
  | cons move moves ih => exact ih (move_leaving h move)

/-- No call returns any more once the watcher has left. -/
theorem Leaving.answers (h : st.Leaving) (moves : List (Move σ)) : st.answers b moves = 0 := by
  induction moves generalizing st with
  | nil => rfl
  | cons move moves ih =>
      have hnone : st.answered b move = false := by
        cases move with
        | watch now =>
            cases hduties : st.duties with
            | nil =>
                simp only [answered, returning, h.stopped (chores_of_duties hduties),
                  Bool.and_false]
            | cons => simp only [answered, hduties, List.isEmpty_cons, Bool.false_and]
        | work | enter | createSession | removeSession | addRequest | cancelRequest
        | cancelService | cancelAll | change | tick | happen | stop => rfl
      rw [Stage.answers, hnone, ih (move_leaving h move)]
      rfl

/-- One call at most returns while the watcher is about to leave. -/
theorem Ending.answers (h : st.Ending) (moves : List (Move σ)) : st.answers b moves ≤ 1 := by
  induction moves generalizing st with
  | nil => exact Nat.zero_le 1
  | cons move moves ih =>
      rw [Stage.answers]
      cases hanswered : st.answered b move with
      | false => exact (Nat.zero_add _).symm ▸ ih (move_ending h move)
      | true =>
          cases move with
          | watch now =>
              -- This is the one call that returns, and no other does after it.
              rw [answered, Bool.and_eq_true] at hanswered
              have hduties := List.isEmpty_iff.mp hanswered.1
              have hleft : (st.watch b now).Leaving := by
                refine watch_leaving h hduties fun timeout ends set hphase hnone => ?_
                rw [returning, hphase] at hanswered
                simp only [hnone] at hanswered
                cases hanswered.2
              rw [move_watch hduties, hleft.answers]
              exact Nat.le_refl 1
          | work | enter | createSession | removeSession | addRequest | cancelRequest
          | cancelService | cancelAll | change | tick | happen | stop => cases hanswered

/-- No wait begins, and none that returns is heard. -/
theorem Ending.doing (h : st.Ending) (move : Move σ) :
    (st.doing b move).any Deed.waits = false := by
  cases move_mover b st move with
  | client _ _ hidle => rw [hidle, Option.any_none]
  | tells s duties hduties | goes s duties hduties =>
      simp only [Stage.doing, hduties]
      rfl
  | ticks | stops => rfl
  | watches now hduties _ hdoing =>
      rw [hdoing]
      rcases hphase : st.provider.watcher.phase with list | ⟨epoch, set⟩ | _ | _ | _
      · simp only [watching, hphase]
        split <;> rfl
      · have hpassed := h.passed (chores_of_duties hduties) epoch set hphase
        simp only [watching, hphase, if_neg (Nat.ne_of_gt hpassed)]
        rfl
      · simp only [watching, hphase, h.flag, if_true]
        rfl
      · simp only [watching, hphase]
        rfl
      · simp only [watching, hphase]
        rfl

/-- So it is in a run. -/
theorem Ending.chronicle (h : st.Ending) (moves : List (Move σ)) :
    ∀ deed ∈ st.chronicle b moves, deed.waits = false := by
  induction moves generalizing st with
  | nil => exact fun _ hdeed => absurd hdeed List.not_mem_nil
  | cons move moves ih =>
      intro deed hdeed
      rw [Stage.chronicle] at hdeed
      rcases List.mem_append.mp hdeed with hdeed | hdeed
      · refine Bool.eq_false_iff.mpr fun hwaits => ?_
        have hother : ∀ other : Deed, other.waits = false → deed ≠ other := by
          rintro other hother rfl
          cases hother.symm.trans hwaits
        have hdoing := doing_of_mem_deeds hdeed (hother .setOut rfl) fun handle =>
          ⟨hother (.opened handle) rfl, hother (.closed handle) rfl⟩
        have hnone := h.doing (b := b) move
        rw [hdoing] at hnone
        exact Bool.false_ne_true (hnone.symm.trans hwaits)
      · exact ih (move_ending h move) deed hdeed

/-- Duties can always be worked off. -/
theorem worked_off (b : Backend σ κ ε) (st : Stage σ κ ε) :
    ∃ n, (st.run b (List.replicate n .work)).duties = [] := by
  rcases st with ⟨p, duties, begun⟩
  rcases work_duties b duties p [] begun with ⟨n, hn⟩
  rw [List.append_nil] at hn
  exact ⟨n, by rw [run_work, hn]⟩

/-- The watch ends promptly and without a word. The watcher is asked to end after any
    run, and any run follows, with calls from inside completions in both. One call of
    the watcher at most returns in what follows, and no wait begins. Nothing that
    returned is heard, and what is shown to the sessions was heard before the watcher
    was asked. It is in no pause. It can always do what is left to do; and if nothing is
    left and it makes a step, in which a wait that is under way returns, then it has
    ended as soon as nothing is left to do again. -/
theorem shut_down_at_once (b : Backend σ κ ε) (hardware : σ) (config : Config)
    (before after : List (Move σ)) :
    let begun : Stage σ κ ε := start hardware config
    let asked := (begun.run b before).move b .stop
    let since := asked.chronicle b after
    let st := asked.run b after
    asked.answers b after ≤ 1 ∧
      (∀ deed ∈ since, (∀ set, deed ≠ .began set) ∧ ∀ set reports, deed ≠ .heard set reports) ∧
      toldIn since ++ st.untold = asked.untold ∧
      (∀ ends list, st.provider.watcher.phase ≠ .pausing ends list) ∧
      (∃ n, (st.run b (List.replicate n .work)).duties = []) ∧
      ∀ now, st.duties = [] →
        (∀ timeout ends set, st.provider.watcher.phase = .waiting timeout ends set →
          b.wait ⟨some timeout, ends, now, set.entries⟩ st.provider.hub.world.hardware ≠ none) →
        ∀ more, ((st.move b (.watch now)).run b more).duties = [] →
          ((st.move b (.watch now)).run b more).provider.watcher.phase = .stopped := by
  intro begun asked since st
  have hrecorded := run_recorded (b := b) (start_recorded (κ := κ) (ε := ε) hardware config) before
  have hasked : asked.Ending := stop_ending hrecorded.orderly
  have hst : st.Ending := run_ending hasked after
  have hsince := hasked.chronicle (b := b) after
  refine ⟨hasked.answers after, fun deed hdeed => ⟨fun set heq => ?_, fun set reports heq => ?_⟩,
    ?_, hst.awake, worked_off b st, fun now hduties hreturns more hdone => ?_⟩
  · cases heq ▸ hsince deed hdeed
  · cases heq ▸ hsince deed hdeed
  · -- Nothing is heard, so nothing is added to what is to be told.
    have hsilent : changesIn since = [] := by
      refine List.flatMap_eq_nil_iff.mpr fun deed hdeed => ?_
      cases deed with
      | heard set reports => cases hsince _ hdeed
      | opened | closed | setOut | listed | began | told => rfl
    have hasked' := move_recorded (b := b) hrecorded .stop
    have htold := (run_recorded (b := b) hasked' after).told
    rw [toldIn_append, changesIn_append, hsilent, List.append_nil, ← hasked'.told,
      List.append_assoc] at htold
    exact List.append_cancel_left htold
  · have hleft := run_leaving (b := b) (watch_leaving hst hduties hreturns) more
    rw [← move_watch hduties] at hleft
    exact hleft.stopped (chores_of_duties hdone)

end Stage

end CardHost
