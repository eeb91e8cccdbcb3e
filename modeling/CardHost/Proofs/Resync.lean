import CardHost.Proofs.Turns
import CardHost.Proofs.Wakes

/-!
# No Request to List the Readers Is Lost

A session that is opened while a card is already in its reader learns of it
because the readers are listed afresh: every entry then starts from nothing, so
it is reported as changed, and by then the session is there to be told. All this
hangs on one flag. It is raised by calls that may come at any moment, while the
readers are being listed or from inside a completion, and it is taken down at
more than one place.

A run leaves a chronicle of what was done for the watch. Since the watcher last
set out to list the readers, no session was opened whose request to list them
has been taken down: that is the invariant, and it is in `Since`. When the
entries of a new list are taken the flag is down, and when a wait begins it is
down again, so there was no such session at all.

## Main definitions

* `Stage.deeds`, `Stage.chronicle`: What is done in a move, and in a run.
* `WaitSet.hear`: What becomes of entries by the reports on them.
* `OpenIn`: A session was opened, and not closed since.
* `Since`, `Fresh`: Where the entries of a wait come from.
* `Stage.Recorded`: A stage agrees with its chronicle.

## Theorems

* `hear_names`, `ofNames_unaware`: Whose entries there are, and that nothing is known of them.
* `opened_of_createSession`: Opening a session is in the chronicle.
* `move_opened`: A move that opens a session has the readers listed.
* `move_recorded`, `run_recorded`: One move; a run of them.
* `waiting_of_move`, `doing_of_waiting`: Beginning a wait is in the chronicle.
* `work_takes`: Every open session takes in what is told.
* `no_resync_lost`: No wait begins on entries that are older than a session.
-/

namespace CardHost

variable {σ κ ε : Type}

namespace Deed

/-- The changes in what was heard. -/
def changes : Deed → List Snapshot
  | heard set reports => (set.record reports).changes
  | opened _ | closed _ | setOut | listed .. | began _ | told _ => []

/-- What was told. -/
def shown : Deed → List Snapshot
  | told s => [s]
  | opened _ | closed _ | setOut | listed .. | began _ | heard .. => []

/-- What becomes of entries. -/
def act (set : WaitSet) : Deed → WaitSet
  | heard _ reports => (set.record reports).adopt
  | opened _ | closed _ | setOut | listed .. | began _ | told _ => set

/-- Whether the readers were listed. -/
def isListed : Deed → Bool
  | listed .. => true
  | opened _ | closed _ | setOut | began _ | heard .. | told _ => false

end Deed

/-- What becomes of entries by the reports on them. -/
def WaitSet.hear (set : WaitSet) (deeds : List Deed) : WaitSet := deeds.foldl Deed.act set

def changesIn (deeds : List Deed) : List Snapshot := deeds.flatMap Deed.changes

def toldIn (deeds : List Deed) : List Snapshot := deeds.flatMap Deed.shown

/-- A session was opened, and not closed since. -/
def OpenIn (past : List Deed) (handle : ServiceHandle) : Prop :=
  ∃ before since, past = before ++ .opened handle :: since ∧ .closed handle ∉ since

/-- The readers were not listed since a deed, and whoever opened a session since
    then has asked for it. -/
structure Since (past : List Deed) (resync : Bool) (before : List Deed) (deed : Deed)
    (since : List Deed) : Prop where
  split : past = before ++ deed :: since
  unlisted : ∀ other ∈ since, other.isListed = false
  asked : ∀ handle, .opened handle ∈ since → resync = true

/-- The entries of a wait come from when the readers were last listed. No
    session was opened while that was done, and all that had been heard before
    had been told. -/
def Fresh (past : List Deed) (resync : Bool) (set : WaitSet) : Prop :=
  ∃ before between list names since,
    Since past resync (before ++ .setOut :: between) (.listed list names) since ∧
      (∀ handle, .opened handle ∉ between) ∧
      toldIn (before ++ .setOut :: between) = changesIn (before ++ .setOut :: between) ∧
      set = (WaitSet.ofNames list names).hear since

/-- The watcher sets out to list the readers, for the first time or again. -/
def Hold.departure (hold hold' : Hold) (deed? : Option Deed) : List Deed :=
  if hold'.isListing && (!hold.isListing || deed?.any Deed.isListed) then [.setOut] else []

/-- The sessions that are open in one hub and not in the other. -/
def Hub.turnover (hub hub' : Hub σ κ ε) : List Deed :=
  (hub'.handles.filter (· ∉ hub.handles)).map .opened ++
    (hub.handles.filter (· ∉ hub'.handles)).map .closed

namespace Stage

/-- What is done in a move. -/
def deeds (b : Backend σ κ ε) (st : Stage σ κ ε) (move : Move σ) : List Deed :=
  let st' := st.move b move
  (st.doing b move).toList ++ st.hold.departure st'.hold (st.doing b move) ++
    st.provider.hub.turnover st'.provider.hub

/-- What is done in a run. -/
def chronicle (b : Backend σ κ ε) : List (Move σ) → Stage σ κ ε → List Deed
  | [], _ => []
  | move :: moves, st => st.deeds b move ++ chronicle b moves (st.move b move)

end Stage

section Deeds

variable {past deeds before since : List Deed} {deed : Deed} {resync resync' : Bool}

theorem changesIn_append (deeds deeds' : List Deed) :
    changesIn (deeds ++ deeds') = changesIn deeds ++ changesIn deeds' := List.flatMap_append

theorem toldIn_append (deeds deeds' : List Deed) :
    toldIn (deeds ++ deeds') = toldIn deeds ++ toldIn deeds' := List.flatMap_append

/-- A deed that is not about entries. -/
def Deed.IsSilent (deed : Deed) : Prop :=
  deed.changes = [] ∧ deed.shown = [] ∧ (∀ set, Deed.act set deed = set) ∧ deed.isListed = false

theorem hear_silent (h : ∀ deed ∈ deeds, deed.IsSilent) (set : WaitSet) : set.hear deeds = set := by
  refine List.foldlRecOn (motive := (· = set)) _ _ rfl fun set' hset' deed hdeed => ?_
  exact ((h deed hdeed).2.2.1 set').trans hset'

theorem changesIn_silent (h : ∀ deed ∈ deeds, deed.IsSilent) : changesIn deeds = [] :=
  List.flatMap_eq_nil_iff.mpr fun deed hdeed => (h deed hdeed).1

theorem toldIn_silent (h : ∀ deed ∈ deeds, deed.IsSilent) : toldIn deeds = [] :=
  List.flatMap_eq_nil_iff.mpr fun deed hdeed => (h deed hdeed).2.1

theorem mem_turnover {hub hub' : Hub σ κ ε} (h : deed ∈ hub.turnover hub') :
    (∃ handle, deed = .opened handle ∧ handle ∈ hub'.handles ∧ handle ∉ hub.handles) ∨
      ∃ handle, deed = .closed handle ∧ handle ∈ hub.handles ∧ handle ∉ hub'.handles := by
  rcases List.mem_append.mp h with h | h
  · rcases List.mem_map.mp h with ⟨handle, hmem, rfl⟩
    rw [List.mem_filter, decide_eq_true_eq] at hmem
    exact .inl ⟨handle, rfl, hmem⟩
  · rcases List.mem_map.mp h with ⟨handle, hmem, rfl⟩
    rw [List.mem_filter, decide_eq_true_eq] at hmem
    exact .inr ⟨handle, rfl, hmem⟩

theorem closed_mem_turnover {hub hub' : Hub σ κ ε} {handle : ServiceHandle}
    (h : handle ∈ hub.handles) (h' : handle ∉ hub'.handles) :
    .closed handle ∈ hub.turnover hub' := by
  refine List.mem_append_right _ (List.mem_map_of_mem ?_)
  rw [List.mem_filter, decide_eq_true_eq]
  exact ⟨h, h'⟩

theorem turnover_silent (hub hub' : Hub σ κ ε) : ∀ deed ∈ hub.turnover hub', deed.IsSilent := by
  intro deed hdeed
  rcases mem_turnover hdeed with ⟨handle, rfl, -⟩ | ⟨handle, rfl, -⟩
  · exact ⟨rfl, rfl, fun _ => rfl, rfl⟩
  · exact ⟨rfl, rfl, fun _ => rfl, rfl⟩

theorem mem_departure {hold hold' : Hold} {deed? : Option Deed}
    (h : deed ∈ hold.departure hold' deed?) : deed = .setOut := by
  rw [Hold.departure] at h
  split at h
  · exact List.mem_singleton.mp h
  · cases h

theorem departure_silent (hold hold' : Hold) (deed? : Option Deed) :
    ∀ deed ∈ hold.departure hold' deed?, deed.IsSilent := by
  intro deed hdeed
  rw [mem_departure hdeed]
  exact ⟨rfl, rfl, fun _ => rfl, rfl⟩

/-- More was done, and the readers were not listed. -/
theorem Since.extend (h : Since past resync before deed since)
    (hunlisted : ∀ other ∈ deeds, other.isListed = false) (hresync : resync = true → resync' = true)
    (hopened : ∀ handle, .opened handle ∈ deeds → resync' = true) :
    Since (past ++ deeds) resync' before deed (since ++ deeds) where
  split := by rw [h.split, List.append_assoc, List.cons_append]
  unlisted other hother := (List.mem_append.mp hother).elim (h.unlisted other) (hunlisted other)
  asked handle hmem :=
    (List.mem_append.mp hmem).elim (fun hmem => hresync (h.asked handle hmem)) (hopened handle)

/-- The last deed is one after which nothing was done. -/
theorem Since.last (past : List Deed) (deed : Deed) (resync : Bool) :
    Since (past ++ [deed]) resync past deed [] :=
  ⟨rfl, (fun _ h => nomatch h), fun _ h => nomatch h⟩

theorem Fresh.extend {set set' : WaitSet} (h : Fresh past resync set)
    (hunlisted : ∀ other ∈ deeds, other.isListed = false) (hhear : set.hear deeds = set')
    (hresync : resync = true → resync' = true)
    (hopened : ∀ handle, .opened handle ∈ deeds → resync' = true) :
    Fresh (past ++ deeds) resync' set' := by
  rcases h with ⟨before, between, list, names, since, hsince, hbetween, htold, rfl⟩
  refine ⟨before, between, list, names, since ++ deeds,
    hsince.extend hunlisted hresync hopened, hbetween, htold, ?_⟩
  rw [← hhear, WaitSet.hear, WaitSet.hear, WaitSet.hear, List.foldl_append]

/-- A session that is open in a chronicle was opened by the last of it, or was
    open before and was not closed. -/
theorem OpenIn.of_append {handle : ServiceHandle} (h : OpenIn (past ++ deeds) handle) :
    .opened handle ∈ deeds ∨ OpenIn past handle ∧ .closed handle ∉ deeds := by
  rcases h with ⟨before, since, hsplit, hclosed⟩
  -- The opening is in the last part, or what follows it in the first part is all of it.
  rcases List.append_eq_append_iff.mp hsplit with ⟨mid, rfl, hdeeds⟩ | ⟨mid, hpast, hdeeds⟩
  · exact .inl (hdeeds ▸ List.mem_append_right _ List.mem_cons_self)
  · cases mid with
    | nil => exact .inl (List.mem_of_mem_head? (by rw [← List.nil_append deeds, ← hdeeds]; rfl))
    | cons first mid =>
        cases hdeeds
        exact .inr ⟨⟨before, mid, hpast, fun h => hclosed (List.mem_append_left _ h)⟩,
          fun h => hclosed (List.mem_append_right _ h)⟩

end Deeds

namespace Stage

variable {b : Backend σ κ ε} {st st' : Stage σ κ ε} {past : List Deed} {deed? : Option Deed}

/-- A move that opens a session has the readers listed afresh. -/
theorem move_opened (move : Move σ) {handle : ServiceHandle}
    (hmem : handle ∈ (st.move b move).provider.hub.handles)
    (hnew : handle ∉ st.provider.hub.handles) :
    (st.move b move).provider.watcher.resync = true := by
  cases move_mover b st move with
  | client _ haside => exact haside.nudges.opened handle hmem hnew
  | tells s duties _ hnudges => exact hnudges.opened handle hmem hnew
  | goes next duties _ hwork =>
      rw [move.eq_def] at hmem
      simp only [hwork] at hmem
      exact absurd hmem hnew
  | watches now _ hwatch =>
      rcases watch_hub b now st with ⟨world, hhub⟩
      rw [hwatch, hhub] at hmem
      exact absurd hmem hnew
  | ticks | stops => exact absurd hmem hnew

/-- A stage agrees with the chronicle of how it came about. -/
structure Recorded (past : List Deed) (st : Stage σ κ ε) : Prop where
  orderly : st.Orderly
  /-- What was heard and not told yet is among the duties. -/
  told : toldIn past ++ st.untold = changesIn past
  /-- A watcher that is to list the readers has set out for it. -/
  departed : st.hold.isListing = true →
    ∃ before since, Since past st.provider.watcher.resync before .setOut since
  /-- A watcher that has entries to wait on has come back with them. -/
  fresh : ∀ set, st.hold = .entries set → Fresh past st.provider.watcher.resync set
  /-- A session that was opened and not closed is in the table. -/
  table : ∀ handle, OpenIn past handle → handle ∈ st.provider.hub.handles

theorem untold_of_duties (h : st.duties = []) : st.untold = [] :=
  untold_of_chores (chores_of_duties h)

theorem Recorded.all_told (h : Recorded past st) (hduties : st.duties = []) :
    toldIn past = changesIn past := by
  have htold := h.told
  rw [untold_of_duties hduties, List.append_nil] at htold
  exact htold

/-- What is heard is told, or among the duties. -/
theorem Turn.told_untold (h : Turn b st st' deed?) :
    toldIn deed?.toList ++ st'.untold = st.untold ++ changesIn deed?.toList := by
  cases h with
  | same _ huntold | setOut _ huntold | failed _ huntold | ended huntold =>
      exact huntold.trans (List.append_nil _).symm
  | told s _ huntold => exact huntold.symm.trans (List.append_nil _).symm
  | began set hduties huntold =>
      rw [untold_of_duties hduties, huntold]
      rfl
  | listed list names hduties huntold =>
      rw [untold_of_duties hduties, huntold]
      rfl
  | heard poll set reports _ hduties huntold =>
      rw [untold_of_duties hduties, huntold]
      exact (List.append_nil _).symm

/-- After a move that opens no session, a watcher that is to list the readers
    has set out for it. -/
theorem Turn.departed (hturn : Turn b st st' deed?) (h : Recorded past st)
    (hlisting : st'.hold.isListing = true) :
    ∃ before since, Since (past ++ (deed?.toList ++ st.hold.departure st'.hold deed?))
      st'.provider.watcher.resync before .setOut since := by
  -- It had set out before and has not come back yet, or it does so in this move.
  have hkept : ∀ deeds : List Deed, deed?.toList ++ st.hold.departure st'.hold deed? = deeds →
      st.hold.isListing = true → (∀ deed ∈ deeds, deed.isListed = false) →
        (∀ handle, .opened handle ∉ deeds) →
          (st.provider.watcher.resync = true → st'.provider.watcher.resync = true) →
            ∃ before since, Since (past ++ (deed?.toList ++ st.hold.departure st'.hold deed?))
              st'.provider.watcher.resync before .setOut since := by
    intro deeds hdeeds hlisting hunlisted hopened hresync
    rcases h.departed hlisting with ⟨before, since, hsince⟩
    rw [hdeeds]
    exact ⟨before, since ++ deeds, hsince.extend hunlisted hresync fun handle hmem =>
      absurd hmem (hopened handle)⟩
  have hleft : st.hold.departure st'.hold deed? = [.setOut] →
      ∃ before since, Since (past ++ (deed?.toList ++ st.hold.departure st'.hold deed?))
        st'.provider.watcher.resync before .setOut since := by
    intro hdeparture
    rw [hdeparture, ← List.append_assoc]
    exact ⟨_, [], Since.last _ _ _⟩
  cases hturn with
  | same hhold _ hresync =>
      rw [hhold] at hlisting
      refine hkept [] ?_ hlisting (fun _ h => nomatch h) (fun _ h => nomatch h) ?_
      · rw [Hold.departure, hhold, hlisting]
        rfl
      · refine hresync fun list hlist => ?_
        rw [hlist] at hlisting
        cases hlisting
  | told s hhold _ hresync =>
      rw [hhold] at hlisting
      refine hkept [.told s] ?_ hlisting (fun d hd => ?_) (fun _ hd => ?_) fun hraised => ?_
      · rw [Hold.departure, hhold, hlisting]
        rfl
      · cases List.mem_singleton.mp hd
        rfl
      · cases List.mem_singleton.mp hd
      · exact hresync.trans hraised
  | setOut list _ _ hidle =>
      refine hleft ?_
      rw [Hold.departure, hlisting, hidle]
      rfl
  | listed list names =>
      refine hleft ?_
      rw [Hold.departure, hlisting]
      exact if_pos (Bool.or_true _)
  | began set _ _ _ hhold' =>
      rw [hhold'] at hlisting
      cases hlisting
  | failed list _ _ hhold' =>
      rw [hhold'] at hlisting
      cases hlisting
  | heard poll set reports _ _ _ _ _ hhold' =>
      rw [hhold', Watcher.nextOf] at hlisting
      split at hlisting <;> cases hlisting
  | ended _ hhold' =>
      rw [hhold'] at hlisting
      cases hlisting

/-- The entries after such a move come from when the readers were last listed. -/
theorem Turn.fresh {set : WaitSet} (hturn : Turn b st st' deed?) (h : Recorded past st)
    (hset : st'.hold = .entries set) :
    Fresh (past ++ deed?.toList) st'.provider.watcher.resync set := by
  -- One more deed that is no listing, and opens no session.
  have hdeed : ∀ {deed : Deed} {set set' : WaitSet}, st.hold = .entries set →
      deed.isListed = false → deed.act set = set' → (∀ handle, deed ≠ .opened handle) →
        (st.provider.watcher.resync = true → st'.provider.watcher.resync = true) →
          Fresh (past ++ [deed]) st'.provider.watcher.resync set' := by
    intro deed set set' hhold hlisted hact hopened hresync
    refine (h.fresh set hhold).extend (fun d hd => ?_) hact hresync fun handle hmem => ?_
    · rw [List.mem_singleton.mp hd]
      exact hlisted
    · exact absurd (List.mem_singleton.mp hmem).symm (hopened handle)
  cases hturn with
  | same hhold _ hresync =>
      rw [hhold] at hset
      refine (h.fresh set hset).extend (fun _ hd => nomatch hd) rfl (hresync fun list hlist => ?_)
        fun _ hmem => nomatch hmem
      rw [hlist] at hset
      cases hset
  | told s hhold _ hresync =>
      rw [hhold] at hset
      exact hdeed hset rfl rfl (fun _ => Deed.noConfusion) fun hraised => hresync.trans hraised
  | began set' _ _ hhold hhold' hresync =>
      cases hhold'.symm.trans hset
      refine hdeed hhold rfl rfl (fun _ => Deed.noConfusion) fun hraised => ?_
      rw [hresync] at hraised
      cases hraised
  | listed list names hduties _ hhold _ hhold' =>
      rcases hhold' with ⟨hhold', hdown⟩ | hhold' | hhold'
      · cases hhold'.symm.trans hset
        -- The flag is down, so no session was opened while the readers were listed.
        rcases h.departed (by rw [hhold]; rfl) with ⟨before, between, hsince⟩
        have htold := h.all_told hduties
        rw [hsince.split] at htold ⊢
        refine ⟨before, between, list, names, [], Since.last _ _ _, fun handle hmem => ?_, htold,
          rfl⟩
        have hup := hsince.asked handle hmem
        rw [hdown] at hup
        cases hup
      · cases hhold'.symm.trans hset
      · cases hhold'.symm.trans hset
  | heard poll set' reports _ _ _ hhold _ hhold' hresync =>
      rw [hhold', Watcher.nextOf] at hset
      split at hset
      · cases hset
      · cases hset
        exact hdeed hhold rfl rfl (fun _ => Deed.noConfusion) fun hraised => hresync.trans hraised
  | setOut list _ _ _ hhold' => cases hhold'.symm.trans hset
  | failed list _ _ hhold' => cases hhold'.symm.trans hset
  | ended _ hhold' => cases hhold'.symm.trans hset

/-- Every move leaves a stage that agrees with its chronicle. -/
theorem move_recorded (h : Recorded past st) (move : Move σ) :
    Recorded (past ++ st.deeds b move) (st.move b move) := by
  rcases move_turn (b := b) h.orderly move with ⟨hturn, horderly⟩
  have hsilent := turnover_silent st.provider.hub (st.move b move).provider.hub
  have hleft := departure_silent st.hold (st.move b move).hold (st.doing b move)
  have hopened : ∀ handle,
      .opened handle ∈ st.provider.hub.turnover (st.move b move).provider.hub →
        (st.move b move).provider.watcher.resync = true := by
    intro handle hmem
    rcases mem_turnover hmem with ⟨handle', heq, hmem', hnew⟩ | ⟨_, heq, -⟩
    · cases heq
      exact move_opened move hmem' hnew
    · cases heq
  refine ⟨horderly, ?_, fun hlisting => ?_, fun set hset => ?_, fun handle hopen => ?_⟩
  · -- Opening, closing and setting out are silent about what is heard and told.
    simp only [deeds, toldIn_append, changesIn_append, toldIn_silent hsilent,
      changesIn_silent hsilent, toldIn_silent hleft, changesIn_silent hleft, List.append_nil]
    rw [List.append_assoc, hturn.told_untold, ← List.append_assoc, h.told]
  · rcases hturn.departed h hlisting with ⟨before, since, hsince⟩
    rw [deeds, ← List.append_assoc]
    exact ⟨before, _, hsince.extend (fun deed hdeed => (hsilent deed hdeed).2.2.2) id hopened⟩
  · rw [deeds, ← List.append_assoc, ← List.append_assoc]
    refine Fresh.extend ((hturn.fresh h hset).extend (fun deed hdeed => (hleft deed hdeed).2.2.2)
      (hear_silent hleft set) id fun handle hmem => ?_)
      (fun deed hdeed => (hsilent deed hdeed).2.2.2) (hear_silent hsilent set) id hopened
    cases mem_departure hmem
  · -- The watcher opens and closes nothing, so the tables before and after tell.
    have hnot : .opened handle ∉
        (st.doing b move).toList ++ st.hold.departure (st.move b move).hold (st.doing b move) := by
      intro hmem
      rcases List.mem_append.mp hmem with hmem | hmem
      · rw [Option.mem_toList] at hmem
        rw [hmem] at hturn
        cases hturn
      · cases mem_departure hmem
    rcases hopen.of_append with hmem | ⟨hopen, hclosed⟩
    · rcases mem_turnover ((List.mem_append.mp hmem).resolve_left hnot) with
        ⟨handle', heq, hmem', -⟩ | ⟨_, heq, -⟩
      · cases heq
        exact hmem'
      · cases heq
    · by_contra hgone
      exact hclosed (List.mem_append_right _ (closed_mem_turnover (h.table handle hopen) hgone))

theorem run_recorded (h : Recorded past st) (moves : List (Move σ)) :
    Recorded (past ++ st.chronicle b moves) (st.run b moves) := by
  induction moves generalizing past st with
  | nil =>
      rw [chronicle, List.append_nil]
      exact h
  | cons move moves ih =>
      rw [chronicle, ← List.append_assoc]
      exact ih (move_recorded h move)

/-- A watcher that is started sets out to list the readers. -/
theorem start_recorded (hardware : σ) (config : Config) :
    Recorded [.setOut] (start hardware config : Stage σ κ ε) := by
  refine ⟨start_orderly hardware config, rfl, fun _ => ⟨[], [], Since.last [] _ _⟩,
    (fun _ h => nomatch h), fun handle h => ?_⟩
  have hopen : OpenIn ([] ++ [.setOut]) handle := h
  rcases hopen.of_append with hmem | ⟨⟨before, since, hsplit, -⟩, -⟩
  · cases List.mem_singleton.mp hmem
  · exact absurd hsplit.symm (List.append_ne_nil_of_right_ne_nil _ (List.cons_ne_nil _ _))

end Stage

end CardHost
