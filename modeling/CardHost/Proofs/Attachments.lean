import CardHost.Proofs.Scenes
import CardHost.Proofs.Turns
import Mathlib.Data.List.Induction
import Mathlib.Data.List.Infix

/-!
# Readers That Come and Go

Readers may be attached and detached at any moment: between a wait and the next
list of the readers, between that list and the wait on it, in a pause after an
error. The watcher notices by the first entry of a wait, which carries a counter
of such moments, and lists the readers afresh. That nothing is missed is due to
what it takes for the baseline of this entry. A baseline is a counter that was
seen before the readers were listed, so if the counter still has that value,
nobody has come or gone since then.

Up to the first report on the entry, though, there is no counter that was seen,
and the baseline is the word for that. The word is zero, and a counter that wraps
around can be zero too. If it comes to be zero between the first list of the
readers and the wait on it, the entry does not differ, and the watcher does not
learn that its list is out of date.

`Sighted` is the invariant. It speaks of the hardware as it was in earlier parts
of the run, of which the one where the counter was seen is a part of the one
where the readers were listed.

## Main definitions

* `Stage.hardwareAfter`: The hardware after a part of a run.
* `Scene.Advances`: The counter tells whether anyone came or went.
* `Scene.Counts`: And it is none that stands for a counter not seen yet.
* `Stage.Based`, `Stage.Sighted`: Where baselines and names come from.
* `Scene.Outdated`: Entries of a list that is out of date, without a difference.

## Theorems

* `record_list`, `listChanged_of_changed`: What reports do to the first entry.
* `heard_based`: What becomes of its baseline.
* `move_sighted`, `run_sighted`: One move; a run of them.
* `Sighted.attached_or_outdated`, `Sighted.attached`: What can be told from the first entry.
* `wait_set_attached`: A wait that is up to date is on the attached readers.
* `Simulation.wait_set_wrapped`: A counter that wraps around before it was ever seen.
-/

namespace CardHost

variable {σ κ ε : Type}

/-- The hardware after a part of a run. -/
def Stage.hardwareAfter (b : Backend σ κ ε) (st : Stage σ κ ε) (moves : List (Move σ)) : σ :=
  (st.run b moves).provider.hub.world.hardware

/-- The counter of the list tells whether anyone came or went. Once the readers
    are others than they were, it has a value that it never had up to then. -/
def Scene.Advances (scene : Scene σ) (b : Backend σ κ ε) (st : Stage σ κ ε)
    (moves : List (Move σ)) : Prop :=
  ∀ early between late, early <+: between → between <+: late → late <+: moves →
    scene.names (st.hardwareAfter b between) ≠ scene.names (st.hardwareAfter b late) →
      scene.flags (st.hardwareAfter b late) Snapshot.listName ≠
        scene.flags (st.hardwareAfter b early) Snapshot.listName

/-- The counter of the list tells whether anyone came or went. Once the readers
    are others than they were, it has a value that it never had up to then, nor
    the one that stands for a counter not seen yet. -/
def Scene.Counts (scene : Scene σ) (b : Backend σ κ ε) (st : Stage σ κ ε)
    (moves : List (Move σ)) : Prop :=
  ∀ early between late, early <+: between → between <+: late → late <+: moves →
    scene.names (st.hardwareAfter b between) ≠ scene.names (st.hardwareAfter b late) →
      scene.flags (st.hardwareAfter b late) Snapshot.listName ≠ ReaderFlags.unaware ∧
        scene.flags (st.hardwareAfter b late) Snapshot.listName ≠
          scene.flags (st.hardwareAfter b early) Snapshot.listName

/-- Entries of readers that were listed before someone came or went, in spite of
    which the first does not differ from its baseline. No counter was seen yet, and
    it has become one that stands for just that. -/
structure Scene.Outdated (scene : Scene σ) (b : Backend σ κ ε) (st : Stage σ κ ε)
    (moves : List (Move σ)) (set : WaitSet) : Prop where
  unseen : set.list.current = ReaderFlags.unaware
  wrapped : scene.flags (st.hardwareAfter b moves) Snapshot.listName = ReaderFlags.unaware
  listed : ∃ between, between <+: moves ∧
    set.readers.map Snapshot.name = scene.names (st.hardwareAfter b between) ∧
    scene.names (st.hardwareAfter b between) ≠ scene.names (st.hardwareAfter b moves)

namespace WaitSet

variable {set : WaitSet} {scene : Scene σ} {hardware : σ}

/-- Entries that a scene reports on. -/
theorem record_scene (set : WaitSet) (scene : Scene σ) (hardware : σ) :
    set.record (set.entries.map (scene.report hardware)) =
      ⟨scene.recorded hardware set.list, set.readers.map (scene.recorded hardware)⟩ := by
  rw [entries, List.map_cons, record, Snapshot.recordAll_map]
  rfl

/-- If the entry for the list of readers changed, the list did. -/
theorem listChanged_of_changed (hname : set.list.name = Snapshot.listName)
    (h : set.list.changed = true) : set.listChanged = true := by
  refine List.any_eq_true.mpr ⟨set.list, List.mem_filter.mpr ⟨List.mem_cons_self, h⟩, ?_⟩
  rw [Snapshot.kind, Snapshot.isReaderList, hname, beq_self_eq_true, if_pos rfl]
  rfl

end WaitSet

namespace Stage

variable {b : Backend σ κ ε} {scene : Scene σ} {st : Stage σ κ ε} {moves : List (Move σ)}

/-- The baseline of the entry for the list of readers is a counter that was seen
    up to then, or nothing was seen yet. -/
structure Based (b : Backend σ κ ε) (scene : Scene σ) (st : Stage σ κ ε)
    (moves : List (Move σ)) (list : Snapshot) : Prop where
  name : list.name = Snapshot.listName
  baseline : list.current = ReaderFlags.unaware ∨
    ∃ early, early <+: moves ∧ Bits.without list.current ReaderFlags.changed =
      scene.flags (st.hardwareAfter b early) Snapshot.listName

/-- Baselines come from earlier parts of the run, and the readers of a wait were
    attached after its baseline was seen. -/
structure Sighted (b : Backend σ κ ε) (scene : Scene σ) (st : Stage σ κ ε)
    (moves : List (Move σ)) : Prop where
  orderly : (st.run b moves).Orderly
  list : ∀ list, (st.run b moves).hold.list? = some list → Based b scene st moves list
  entries : ∀ set, (st.run b moves).hold = .entries set →
    ∃ between, between <+: moves ∧ Based b scene st between set.list ∧
      set.readers.map Snapshot.name = scene.names (st.hardwareAfter b between)

theorem run_concat (move : Move σ) :
    st.run b (moves ++ [move]) = (st.run b moves).move b move := by
  rw [run, List.foldl_append]
  rfl

theorem Based.mono {moves' : List (Move σ)} {list : Snapshot} (h : Based b scene st moves list)
    (hpart : moves <+: moves') : Based b scene st moves' list := by
  refine ⟨h.name, h.baseline.imp_right fun ⟨early, hearly, hseen⟩ => ?_⟩
  exact ⟨early, hearly.trans hpart, hseen⟩

/-- The report on the list of readers is a counter seen now. -/
theorem Based.of_report {list : Snapshot} (hname : list.name = Snapshot.listName) :
    Based b scene st moves (scene.recorded (st.hardwareAfter b moves) list).adopt := by
  refine ⟨hname, .inr ⟨moves, List.prefix_refl _, ?_⟩⟩
  have hunmarked := scene.unmarked (st.hardwareAfter b moves)
  rw [← hname] at hunmarked ⊢
  exact Scene.without_adopt hunmarked

/-- Without a change of the list, its report is the baseline it had. -/
theorem Based.of_unchanged {between : List (Move σ)} {list : Snapshot}
    (h : Based b scene st between list) {hardware : σ}
    (hsame : (scene.recorded hardware list).changed = false) :
    Based b scene st between (scene.recorded hardware list).adopt := by
  have hunmarked : Bits.contains (scene.flags hardware list.name) ReaderFlags.changed = false :=
    h.name ▸ scene.unmarked hardware
  rw [Scene.changed_recorded hunmarked] at hsame
  have hflags : scene.flags hardware list.name = Bits.without list.current ReaderFlags.changed :=
    bne_eq_false_iff_eq.mp hsame
  refine ⟨h.name, h.baseline.imp (fun hunseen => ?_) fun ⟨early, hearly, hseen⟩ => ?_⟩
  · -- What is reported is the flags as they are, and these are those of the baseline.
    rw [Snapshot.adopt, Scene.recorded, Scene.report, Snapshot.record, hsame]
    exact hflags.trans (congrArg (Bits.without · ReaderFlags.changed) hunseen)
  · exact ⟨early, hearly, (Scene.without_adopt hunmarked).trans (hflags.trans hseen)⟩

/-- Every move keeps track of where baselines and names come from. -/
theorem move_sighted (hshown : scene.Shown b) (h : Sighted b scene st moves) (move : Move σ) :
    Sighted b scene st (moves ++ [move]) := by
  have hpart : moves <+: moves ++ [move] := List.prefix_append _ _
  rcases move_turn (b := b) h.orderly move with ⟨hturn, horderly⟩
  rw [← run_concat] at hturn horderly
  -- What is carried along as it was comes from where it came.
  have hkept : (st.run b (moves ++ [move])).hold = (st.run b moves).hold →
      Sighted b scene st (moves ++ [move]) := by
    refine fun hhold => ⟨horderly, fun list hlist => ?_, fun set hset => ?_⟩
    · exact (h.list list (hhold ▸ hlist)).mono hpart
    · rcases h.entries set (hhold ▸ hset) with ⟨between, hbetween, hbased, hnames⟩
      exact ⟨between, hbetween.trans hpart, hbased, hnames⟩
  -- So does what is left of it.
  have hlist : ∀ list, Based b scene st moves list →
      (st.run b (moves ++ [move])).hold.list? = some list →
        (∀ set, (st.run b (moves ++ [move])).hold ≠ .entries set) →
          Sighted b scene st (moves ++ [move]) := by
    refine fun list hbased hlist hset => ⟨horderly, fun list' hlist' => ?_, fun set hhold => ?_⟩
    · cases hlist.symm.trans hlist'
      exact hbased.mono hpart
    · exact absurd hhold (hset set)
  generalize hdeed : (st.run b moves).doing b move = deed? at hturn
  cases hturn with
  | same hhold | told _ hhold => exact hkept hhold
  | began set _ _ hhold hhold' => exact hkept (hhold'.trans hhold.symm)
  | setOut list _ hhold _ hhold' =>
      refine hlist list (h.list list hhold) (by rw [hhold']; rfl) fun set hset => ?_
      cases hhold'.symm.trans hset
  | failed list _ hhold hhold' =>
      refine hlist list (h.list list hhold) (by rw [hhold']; rfl) fun set hset => ?_
      cases hhold'.symm.trans hset
  | listed list names _ _ hhold hnames hhold' =>
      have hbased := h.list list (by rw [hhold]; rfl)
      rcases hhold' with ⟨hhold', -⟩ | hhold' | hhold'
      · refine ⟨horderly, fun list' hlist' => ?_, fun set hset => ?_⟩
        · rw [hhold'] at hlist'
          cases hlist'
          exact hbased.mono hpart
        · -- These are the readers that are attached now.
          cases hhold'.symm.trans hset
          refine ⟨moves, hpart, hbased, ?_⟩
          rw [WaitSet.ofNames, List.map_map]
          exact (List.map_id _).trans (hshown.list _ _ hnames)
      · refine hlist list hbased (by rw [hhold']; rfl) fun set hset => ?_
        cases hhold'.symm.trans hset
      · exact ⟨horderly, fun _ h => (by rw [hhold'] at h; cases h), fun _ h => (by
          rw [hhold'] at h; cases h)⟩
  | heard poll set reports hentries _ _ hhold hreports hhold' =>
      rcases h.entries set hhold with ⟨between, hbetween, hbased, hnames⟩
      rw [hshown.wait poll _ reports hreports, hentries, Watcher.nextOf,
        WaitSet.record_scene] at hhold'
      split at hhold'
      · refine hlist _ (Based.of_report hbased.name) (by rw [hhold']; rfl) fun set' hset => ?_
        cases hhold'.symm.trans hset
      · next hunchanged =>
          -- The first entry did not change, or the list would have.
          have hsame := eq_false_of_ne_true fun hchanged =>
            hunchanged (WaitSet.listChanged_of_changed hbased.name hchanged)
          have hadopted := hbased.of_unchanged hsame
          refine ⟨horderly, fun list' hlist' => ?_, fun set' hset => ?_⟩
          · rw [hhold'] at hlist'
            cases hlist'
            exact hadopted.mono (hbetween.trans hpart)
          · cases hhold'.symm.trans hset
            refine ⟨between, hbetween.trans hpart, hadopted, ?_⟩
            rw [← hnames, WaitSet.adopt, List.map_map, List.map_map]
            rfl
  | ended _ hhold' =>
      exact ⟨horderly, fun _ h => (by rw [hhold'] at h; cases h), fun _ h => (by
        rw [hhold'] at h; cases h)⟩

theorem run_sighted (hshown : scene.Shown b) (h : Sighted b scene st []) (moves : List (Move σ)) :
    Sighted b scene st moves := by
  induction moves using List.reverseRecOn with
  | nil => exact h
  | append_singleton moves move ih => exact move_sighted hshown ih move

theorem start_sighted (b : Backend σ κ ε) (scene : Scene σ) (hardware : σ) (config : Config) :
    Sighted b scene (start hardware config) [] := by
  refine ⟨start_orderly hardware config, fun list hlist => ?_, fun _ h => nomatch h⟩
  cases hlist
  exact ⟨rfl, .inl rfl⟩

/-- Entries of which the first does not differ are those of the attached readers,
    unless no counter was seen yet. -/
theorem Sighted.attached_or_outdated (h : Sighted b scene st moves)
    (hadvances : scene.Advances b st moves) {set : WaitSet}
    (hhold : (st.run b moves).hold = .entries set)
    (hmatch : scene.differs (st.hardwareAfter b moves) set.list = false) :
    set.entries.map Snapshot.name =
        Snapshot.listName :: scene.names (st.hardwareAfter b moves) ∨
      scene.Outdated b st moves set := by
  rcases h.entries set hhold with ⟨between, hbetween, hbased, hnames⟩
  rw [Scene.differs, hbased.name, bne_eq_false_iff_eq] at hmatch
  by_cases hsame : scene.names (st.hardwareAfter b between) =
      scene.names (st.hardwareAfter b moves)
  · left
    rw [WaitSet.entries, List.map_cons, hbased.name, hnames, hsame]
  · -- Someone came or went, and the counter is none of those of then.
    rcases hbased.baseline with hunseen | ⟨early, hearly, hseen⟩
    · exact .inr ⟨hunseen, hmatch.trans (congrArg (Bits.without · ReaderFlags.changed) hunseen),
        between, hbetween, hnames, hsame⟩
    · exact absurd (hmatch.trans hseen)
        (hadvances early between moves hearly hbetween (List.prefix_refl _) hsame)

/-- Entries of which the first does not differ are those of the attached readers, if
    the counter is never taken for one that was not seen yet. -/
theorem Sighted.attached (h : Sighted b scene st moves) (hcounts : scene.Counts b st moves)
    {set : WaitSet} (hhold : (st.run b moves).hold = .entries set)
    (hmatch : scene.differs (st.hardwareAfter b moves) set.list = false) :
    set.entries.map Snapshot.name =
      Snapshot.listName :: scene.names (st.hardwareAfter b moves) := by
  have hadvances : scene.Advances b st moves :=
    fun early between late hearly hbetween hlate hother =>
      (hcounts early between late hearly hbetween hlate hother).2
  refine (h.attached_or_outdated hadvances hhold hmatch).resolve_right fun houtdated => ?_
  rcases houtdated.listed with ⟨between, hbetween, -, hother⟩
  exact (hcounts between between moves (List.prefix_refl _) hbetween (List.prefix_refl _) hother).1
    houtdated.wrapped

/-- Readers that were attached or detached are not missed, but for one case. If the
    backend shows what there is to see, and the counter of the list tells whether
    anyone came or went, then at any moment of any run at which the watcher is in a
    wait and the entry for the list of readers does not differ from its baseline,
    the wait is on that entry first and then on exactly the attached readers, in
    their order. In the one case the list was never reported as changed, so its
    baseline is still the word for nothing known, and since the readers were listed
    the counter has come to that word too. -/
theorem wait_set_attached (b : Backend σ κ ε) (scene : Scene σ) (hshown : scene.Shown b)
    (hardware : σ) (config : Config) (moves : List (Move σ))
    (hadvances : scene.Advances b (start hardware config) moves) :
    let st := (start hardware config : Stage σ κ ε).run b moves
    let present := st.provider.hub.world.hardware
    ∀ timeout ends set, st.provider.watcher.phase = .waiting timeout ends set →
      scene.differs present set.list = false →
        set.entries.map Snapshot.name = Snapshot.listName :: scene.names present ∨
          scene.Outdated b (start hardware config) moves set := by
  intro st present timeout ends set hphase hmatch
  have hsighted := run_sighted hshown (start_sighted b scene hardware config) moves
  exact hsighted.attached_or_outdated hadvances (hsighted.orderly.of_waiting hphase).2 hmatch

end Stage

namespace Simulation

/-- A second reader is attached to a hall while the watcher is in a wait, and
    the watcher goes on until it is in another. -/
def arrival : List (Move Hall) :=
  [.watch 0, .watch 0, .happen (oneReader.happen (.addReader "B" false)), .watch 0, .work, .work,
   .work, .watch 0, .watch 0]

/-- A hall in which the next reader that comes or goes has the counter wrap around. -/
def lastCount : Hall := { oneReader with count := 0xFFFF#16 }

/-- A second reader is attached to it between the first list of the readers and the
    wait on it. -/
def wrapping : List (Move Hall) :=
  [.watch 0, .happen (lastCount.happen (.addReader "B" false)), .watch 0]

/-- Whether a counter comes back to an old value can be read off the parts of a run. -/
theorem advances_of_inits {st : Stage Hall Connection Note} {moves : List (Move Hall)}
    (h : ∀ late ∈ moves.inits, ∀ between ∈ late.inits, ∀ early ∈ between.inits,
      scene.names (st.hardwareAfter backend between) ≠
          scene.names (st.hardwareAfter backend late) →
        scene.flags (st.hardwareAfter backend late) Snapshot.listName ≠
          scene.flags (st.hardwareAfter backend early) Snapshot.listName) :
    scene.Advances backend st moves :=
  fun early between late hearly hbetween hlate =>
    h late ((List.mem_inits _ _).mpr hlate) between ((List.mem_inits _ _).mpr hbetween)
      early ((List.mem_inits _ _).mpr hearly)

set_option maxRecDepth 4000 in
theorem arrival_advances : scene.Advances backend (Stage.start oneReader {}) arrival :=
  advances_of_inits (by decide)

theorem wrapping_advances : scene.Advances backend (Stage.start lastCount {}) wrapping :=
  advances_of_inits (by decide)

set_option maxRecDepth 4000 in
/-- The wait that the watcher is in at the end is on both readers. -/
theorem wait_set_arrival :
    let st := (Stage.start oneReader {}).run backend arrival
    let present := st.provider.hub.world.hardware
    scene.Shown backend ∧ scene.Advances backend (Stage.start oneReader {}) arrival ∧
      ∃ set, st.provider.watcher.phase = .waiting Watcher.slice Watcher.slice set ∧
        scene.differs present set.list = false ∧
        set.entries.map Snapshot.name = Snapshot.listName :: scene.names present ∧
        scene.names present = ["A", "B"] := by
  intro st present
  let set : WaitSet := ⟨⟨Snapshot.listName, 0x10002#32, 0x10002#32, []⟩,
    [Snapshot.unaware "A", Snapshot.unaware "B"]⟩
  have hphase : st.provider.watcher.phase = .waiting Watcher.slice Watcher.slice set := by decide
  have hmatch : scene.differs present set.list = false := by decide
  have hattached := Stage.wait_set_attached backend scene scene_shown oneReader {} arrival
    arrival_advances _ _ set hphase hmatch
  -- The list was reported as changed, so its baseline is a counter.
  have hseen : set.list.current ≠ ReaderFlags.unaware := by decide
  exact ⟨scene_shown, arrival_advances, set, hphase, hmatch,
    hattached.resolve_right fun houtdated => hseen houtdated.unseen, by decide⟩

set_option maxRecDepth 4000 in
/-- A counter that wraps around before it was ever seen: the watcher is in a wait on
    one reader, there are two, and nothing differs that would tell it so. -/
theorem wait_set_wrapped :
    let st := (Stage.start lastCount {}).run backend wrapping
    let present := st.provider.hub.world.hardware
    scene.Shown backend ∧ scene.Advances backend (Stage.start lastCount {}) wrapping ∧
      ∃ set, st.provider.watcher.phase = .waiting Watcher.slice Watcher.slice set ∧
        scene.differs present set.list = false ∧
        set.entries.map Snapshot.name = [Snapshot.listName, "A"] ∧
        scene.names present = ["A", "B"] ∧
        set.entries.map Snapshot.name ≠ Snapshot.listName :: scene.names present := by
  intro st present
  let set : WaitSet := ⟨Snapshot.readerList, [Snapshot.unaware "A"]⟩
  exact ⟨scene_shown, wrapping_advances, set, by decide, by decide, by decide, by decide,
    by decide⟩

end Simulation

end CardHost
