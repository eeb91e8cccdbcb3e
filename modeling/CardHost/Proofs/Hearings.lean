import CardHost.Proofs.Resync
import CardHost.Proofs.Unserved

/-!
# What the Watcher Heard Last

Between a wait that returned with reports and the next one the watcher tells
what it has heard, change by change, and calls may come in between. So whatever
is still to be told is from the wait that returned last, and shows the readers
as they were at that moment. That moment is the one the baselines are from as
well, as long as something is left to be told.

## Main definitions

* `Stage.LastHeard`: When the last wait with reports returned.
* `Stage.Current`: What is to be told is from that wait.
* `Stage.Pending`, `Stage.Carried`: Where a report that is to be told is from, and
  where entries are.

## Theorems

* `chronicle_concat`, `mem_chronicle`: The chronicle of a longer run.
* `LastHeard.latest`, `LastHeard.unique`: No wait returned after the last.
* `Turn.pending`, `Turn.left`, `Turn.carried`: What a move does to reports and
  entries.
* `move_current`, `run_current`: One move; a run of them.
-/

namespace CardHost

variable {σ κ ε : Type}

/-- The entries of a wait when all of them are reported on. -/
def Scene.recordedSet (scene : Scene σ) (hardware : σ) (set : WaitSet) : WaitSet :=
  ⟨scene.recorded hardware set.list, set.readers.map (scene.recorded hardware)⟩

namespace Stage

variable {b : Backend σ κ ε} {scene : Scene σ} {st st' : Stage σ κ ε}
  {moves early late : List (Move σ)} {move : Move σ} {deed : Deed} {deed? : Option Deed}

theorem run_append (moves moves' : List (Move σ)) :
    st.run b (moves ++ moves') = (st.run b moves).run b moves' := List.foldl_append

theorem chronicle_append (moves moves' : List (Move σ)) (st : Stage σ κ ε) :
    st.chronicle b (moves ++ moves') =
      st.chronicle b moves ++ (st.run b moves).chronicle b moves' := by
  induction moves generalizing st with
  | nil => rfl
  | cons move moves ih =>
      rw [List.cons_append, chronicle, chronicle, ih, List.append_assoc]
      rfl

theorem chronicle_concat (moves : List (Move σ)) (move : Move σ) :
    st.chronicle b (moves ++ [move]) = st.chronicle b moves ++ (st.run b moves).deeds b move := by
  rw [chronicle_append, chronicle, chronicle, List.append_nil]

/-- What the watcher does in a run is in its chronicle. -/
theorem mem_chronicle (hpart : early ++ [move] <+: moves)
    (hdoing : (st.run b early).doing b move = some deed) : deed ∈ st.chronicle b moves := by
  rcases hpart with ⟨rest, rfl⟩
  rw [chronicle_append, chronicle_concat, deeds, hdoing]
  exact List.mem_append_left _ (List.mem_append_right _ (List.mem_append_left _
    (List.mem_append_left _ List.mem_cons_self)))

/-- What is noted of a move, and is neither a session that comes or goes nor the watcher
    that sets out, is what the watcher did. -/
theorem doing_of_mem_deeds (h : deed ∈ st.deeds b move) (hdeed : deed ≠ .setOut)
    (hhandle : ∀ handle, deed ≠ .opened handle ∧ deed ≠ .closed handle) :
    st.doing b move = some deed := by
  rcases List.mem_append.mp h with h | h
  · rcases List.mem_append.mp h with h | h
    · exact Option.mem_toList.mp h
    · exact absurd (mem_departure h) hdeed
  · rcases mem_turnover h with ⟨handle, rfl, -⟩ | ⟨handle, rfl, -⟩
    · exact absurd rfl (hhandle handle).1
    · exact absurd rfl (hhandle handle).2

/-- What the chronicle of a longer run has of a kind of deeds that only the watcher
    does, apart from setting out. -/
theorem any_chronicle_concat {p : Deed → Bool} (hsetOut : p .setOut = false)
    (hhandle : ∀ handle, p (.opened handle) = false ∧ p (.closed handle) = false)
    (moves : List (Move σ)) (move : Move σ) :
    (st.chronicle b (moves ++ [move])).any p =
      ((st.chronicle b moves).any p || ((st.run b moves).doing b move).any p) := by
  have hdone : ((st.run b moves).deeds b move).any p = ((st.run b moves).doing b move).any p := by
    rw [Bool.eq_iff_iff, List.any_eq_true, Option.any_eq_true]
    constructor
    · rintro ⟨deed, hdeed, hkind⟩
      refine ⟨deed, doing_of_mem_deeds hdeed ?_ fun handle => ⟨?_, ?_⟩, hkind⟩
      · rintro rfl
        cases hsetOut.symm.trans hkind
      · rintro rfl
        cases (hhandle handle).1.symm.trans hkind
      · rintro rfl
        cases (hhandle handle).2.symm.trans hkind
    · rintro ⟨deed, hdoing, hkind⟩
      exact ⟨deed, List.mem_append_left _ (List.mem_append_left _ (Option.mem_toList.mpr hdoing)),
        hkind⟩
  rw [chronicle_concat, List.any_append, hdone]

/-- The last wait of a run that returned with reports did so after a part of the
    run. -/
def LastHeard (b : Backend σ κ ε) (st : Stage σ κ ε) (early moves : List (Move σ)) : Prop :=
  ∃ move rest set reports, moves = early ++ move :: rest ∧
    (st.run b early).doing b move = some (.heard set reports) ∧
    ∀ set reports, .heard set reports ∉ (st.run b (early ++ [move])).chronicle b rest

theorem LastHeard.prefix (h : LastHeard b st early moves) : early <+: moves := by
  rcases h with ⟨move, rest, _, _, rfl, -⟩
  exact List.prefix_append _ _

theorem LastHeard.new {set : WaitSet} {reports : List (ReaderFlags × Bytes)}
    (h : (st.run b moves).doing b move = some (.heard set reports)) :
    LastHeard b st moves (moves ++ [move]) :=
  ⟨move, [], set, reports, rfl, h, fun _ _ hmem => nomatch hmem⟩

theorem LastHeard.concat (h : LastHeard b st early moves)
    (hnot : ∀ set reports, (st.run b moves).doing b move ≠ some (.heard set reports)) :
    LastHeard b st early (moves ++ [move]) := by
  rcases h with ⟨first, rest, set, reports, rfl, hdoing, hrest⟩
  refine ⟨first, rest ++ [move], set, reports, by rw [List.append_assoc, List.cons_append],
    hdoing, fun set' reports' hmem => ?_⟩
  rw [chronicle_concat, ← run_append, List.append_assoc, List.singleton_append] at hmem
  rcases List.mem_append.mp hmem with hmem | hmem
  · exact hrest set' reports' hmem
  · exact hnot set' reports'
      (doing_of_mem_deeds hmem Deed.noConfusion fun _ => ⟨Deed.noConfusion, Deed.noConfusion⟩)

/-- No wait returned after the last. -/
theorem LastHeard.latest (h : LastHeard b st late moves) (hpart : early ++ [move] <+: moves)
    {set : WaitSet} {reports : List (ReaderFlags × Bytes)}
    (hdoing : (st.run b early).doing b move = some (.heard set reports)) : early <+: late := by
  rcases h with ⟨first, rest, _, _, rfl, -, hrest⟩
  rcases List.prefix_or_prefix_of_prefix ((List.prefix_append early [move]).trans hpart)
    (List.prefix_append late (first :: rest)) with hbefore | ⟨more, rfl⟩
  · exact hbefore
  · cases more with
    | nil => rw [List.append_nil]
    | cons other more =>
        -- It would be in what comes after the last.
        rw [List.append_assoc, List.prefix_append_right_inj, List.cons_append,
          List.cons_prefix_cons] at hpart
        rcases hpart with ⟨rfl, hpart⟩
        refine absurd (mem_chronicle hpart ?_) (hrest set reports)
        rw [← run_append, List.append_assoc, List.singleton_append]
        exact hdoing

/-- In a longer run the last wait is not an earlier one. -/
theorem LastHeard.mono {moves' : List (Move σ)} (h : LastHeard b st early moves)
    (h' : LastHeard b st late moves') (hmoves : moves <+: moves') : early <+: late := by
  rcases h with ⟨move, rest, set, reports, rfl, hdoing, -⟩
  refine h'.latest (List.IsPrefix.trans ⟨rest, ?_⟩ hmoves) hdoing
  rw [List.append_assoc, List.singleton_append]

/-- A run has only one last wait. -/
theorem LastHeard.unique (h : LastHeard b st early moves) (h' : LastHeard b st late moves) :
    early = late :=
  antisymm (h.mono h' (List.prefix_refl _)) (h'.mono h (List.prefix_refl _))

/-- The last wait returned after a part of the run, and reports and baselines are
    from that moment. -/
structure Echoes (b : Backend σ κ ε) (scene : Scene σ) (st : Stage σ κ ε)
    (early moves : List (Move σ)) : Prop where
  heard : LastHeard b st early moves
  reports : ∀ s ∈ (st.run b moves).untold,
    s.changed = true ∧ scene.recorded (st.hardwareAfter b early) s = s
  baselines : ∀ set, (st.run b moves).hold = .entries set → ∀ s ∈ set.readers,
    s.baseline = scene.seen (st.hardwareAfter b early) s.name

/-- What is still to be told was reported by the wait that returned last, and the
    baselines are from then as well. -/
structure Current (b : Backend σ κ ε) (scene : Scene σ) (st : Stage σ κ ε)
    (moves : List (Move σ)) : Prop where
  orderly : (st.run b moves).Orderly
  echoes : (st.run b moves).untold ≠ [] → ∃ early, Echoes b scene st early moves

theorem untold_of_tell {s : Snapshot} {duties : List (Duty κ)}
    (hduties : st.duties = .tell (.change s) :: duties) :
    st.doing b .work = some (.told s) ∧ s ∈ st.untold := by
  rw [doing, untold, chores, hduties]
  exact ⟨rfl, List.mem_cons_self⟩

/-- A wait that returned with reports took in what there was to see. -/
theorem watch_set_heard (hshown : scene.Shown b) {poll : Poll} {set : WaitSet}
    {reports : List (ReaderFlags × Bytes)} {hardware : σ} (hentries : poll.entries = set.entries)
    (hreports : (b.wait poll hardware).map Reply.value = some (.ok (.changed reports))) :
    set.record reports = scene.recordedSet hardware set := by
  rw [hshown.wait poll hardware reports hreports, hentries]
  exact set.record_scene scene hardware

/-- Where a report is from that is to be told after a move. -/
inductive Pending (scene : Scene σ) (st : Stage σ κ ε) (s : Snapshot) : Option Deed → Prop where
  /-- It was to be told before. -/
  | kept (deed? : Option Deed) (hmem : s ∈ st.untold) (hunlisted : deed?.any Deed.isListed = false)
      (hunheard : ∀ set reports, deed? ≠ some (.heard set reports)) : Pending scene st s deed?
  /-- A wait brought it. -/
  | heard (set : WaitSet) (reports : List (ReaderFlags × Bytes)) (hdone : st.untold = [])
      (hhold : st.hold = .entries set)
      (hmem : s ∈ (scene.recordedSet st.provider.hub.world.hardware set).changes) :
      Pending scene st s (some (.heard set reports))

theorem Turn.pending (hshown : scene.Shown b) (h : Turn b st st' deed?) {s : Snapshot}
    (hmem : s ∈ st'.untold) : Pending scene st s deed? := by
  cases h with
  | same _ huntold | setOut _ huntold | failed _ huntold | ended huntold =>
      exact .kept none (huntold ▸ hmem) rfl nofun
  | told s' _ huntold =>
      refine .kept _ ?_ rfl nofun
      rw [huntold]
      exact List.mem_cons_of_mem _ hmem
  | began _ _ huntold | listed _ _ _ huntold =>
      rw [huntold] at hmem
      cases hmem
  | heard poll set reports hentries hduties huntold hhold hreports =>
      rw [huntold, watch_set_heard hshown hentries hreports] at hmem
      exact .heard set reports (untold_of_duties hduties) hhold hmem

/-- What is to be told is told, or stays so. -/
theorem Turn.left (h : Turn b st st' deed?) {s : Snapshot} (hmem : s ∈ st.untold) :
    s ∈ st'.untold ∨ deed? = some (.told s) := by
  cases h with
  | same _ huntold | setOut _ huntold | failed _ huntold | ended huntold =>
      exact .inl (huntold.symm ▸ hmem)
  | told s' _ huntold =>
      rw [huntold] at hmem
      rcases List.mem_cons.mp hmem with rfl | hmem
      · exact .inr rfl
      · exact .inl hmem
  | began _ hduties | listed _ _ hduties | heard _ _ _ _ hduties =>
      rw [untold_of_duties hduties] at hmem
      cases hmem

/-- Where the entries are from that the watcher carries after a move. -/
inductive Carried (scene : Scene σ) (st st' : Stage σ κ ε) (set : WaitSet) :
    Option Deed → Prop where
  /-- They are those of before. -/
  | kept (deed? : Option Deed) (hhold : st.hold = .entries set)
      (hunlisted : deed?.any Deed.isListed = false)
      (hunheard : ∀ set reports, deed? ≠ some (.heard set reports)) : Carried scene st st' set deed?
  /-- They are for the readers that were just listed. -/
  | listed (list : Snapshot) (names : List String) (hdone : st'.untold = [])
      (hset : set = WaitSet.ofNames list (scene.names st.provider.hub.world.hardware)) :
      Carried scene st st' set (some (.listed list names))
  /-- A wait on those of before returned, and the list of readers did not change. -/
  | heard (before : WaitSet) (reports : List (ReaderFlags × Bytes))
      (hhold : st.hold = .entries before)
      (huntold : st'.untold = (scene.recordedSet st.provider.hub.world.hardware before).changes)
      (hsame : (scene.recordedSet st.provider.hub.world.hardware before).listChanged = false)
      (hset : set = (scene.recordedSet st.provider.hub.world.hardware before).adopt) :
      Carried scene st st' set (some (.heard before reports))

theorem Turn.carried (hshown : scene.Shown b) (h : Turn b st st' deed?) {set : WaitSet}
    (hset : st'.hold = .entries set) : Carried scene st st' set deed? := by
  cases h with
  | same hhold | told _ hhold => exact .kept _ (hhold ▸ hset) rfl nofun
  | began _ _ _ hhold hhold' => exact .kept _ (hhold.trans (hhold'.symm.trans hset)) rfl nofun
  | setOut _ _ _ _ hhold' | failed _ _ _ hhold' | ended _ hhold' => cases hhold'.symm.trans hset
  | listed list names _ huntold _ hnames hhold' =>
      rcases hhold' with ⟨hhold', -⟩ | hhold' | hhold'
      · cases hhold'.symm.trans hset
        exact .listed list names huntold (by rw [hshown.list _ _ hnames])
      · cases hhold'.symm.trans hset
      · cases hhold'.symm.trans hset
  | heard poll before reports hentries _ huntold hhold hreports hhold' =>
      have hrecord := watch_set_heard hshown hentries hreports
      rw [hhold', Watcher.nextOf, hrecord] at hset
      rw [hrecord] at huntold
      split at hset
      · cases hset
      · next hunchanged =>
          cases hset
          exact .heard before reports hhold huntold (eq_false_of_ne_true hunchanged) rfl

/-- Every move keeps track of where reports come from. -/
theorem move_current (hshown : scene.Shown b) (h : Current b scene st moves) (move : Move σ) :
    Current b scene st (moves ++ [move]) := by
  rcases move_turn (b := b) h.orderly move with ⟨hturn, horderly⟩
  rw [← run_concat] at hturn horderly
  refine ⟨horderly, fun hleft => ?_⟩
  rcases List.exists_mem_of_ne_nil _ hleft with ⟨some, hsome⟩
  generalize hdeed : (st.run b moves).doing b move = deed? at hturn
  -- Either all reports were there before, or the wait brought all of them that returned now.
  cases hturn.pending hshown hsome with
  | kept _ hmem hunlisted hunheard =>
      rcases h.echoes (List.ne_nil_of_mem hmem) with ⟨early, hearly⟩
      refine ⟨early, hearly.heard.concat (hdeed ▸ hunheard), fun s hs => ?_, fun set hset => ?_⟩
      · cases hturn.pending hshown hs with
        | kept _ hmem => exact hearly.reports s hmem
        | heard => exact absurd rfl (hunheard _ _)
      · cases hturn.carried hshown hset with
        | kept _ hhold => exact hearly.baselines set hhold
        | listed => cases hunlisted
        | heard => exact absurd rfl (hunheard _ _)
  | heard before reports =>
      refine ⟨moves, LastHeard.new hdeed, fun s hs => ?_, fun set hset s hs => ?_⟩
      · cases hturn.pending hshown hs with
        | kept _ _ _ hunheard => exact absurd rfl (hunheard _ _)
        | heard _ _ _ _ hmem =>
            rcases List.mem_filter.mp hmem with ⟨hmem, hchanged⟩
            refine ⟨hchanged, ?_⟩
            rcases List.mem_cons.mp hmem with rfl | hmem
            · rfl
            · rcases List.mem_map.mp hmem with ⟨s', -, rfl⟩
              rfl
      · cases hturn.carried hshown hset with
        | kept _ _ _ hunheard => exact absurd rfl (hunheard _ _)
        | heard _ _ _ _ _ hset =>
            subst hset
            rcases List.mem_map.mp hs with ⟨s', hs', rfl⟩
            rcases List.mem_map.mp hs' with ⟨s'', -, rfl⟩
            exact Scene.baseline_adopt

theorem run_current (hshown : scene.Shown b) (h : Current b scene st []) (moves : List (Move σ)) :
    Current b scene st moves := by
  induction moves using List.reverseRecOn with
  | nil => exact h
  | append_singleton moves move ih => exact move_current hshown ih move

theorem start_current (b : Backend σ κ ε) (scene : Scene σ) (hardware : σ) (config : Config) :
    Current b scene (start hardware config) [] :=
  ⟨start_orderly hardware config, fun h => absurd rfl h⟩

end Stage

end CardHost
