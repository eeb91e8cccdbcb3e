import CardHost.Proofs.Hearings

/-!
# What Is Heard of an Absent Reader

A reader that was detached is unknown from then on, and a report says so. There
is one to expect from every wait on entries among which the reader still is: the
baseline of its entry is from when it was attached, so a wait that returns with
reports has one for it. But if the entries are given up before a wait on them
has returned, for a fresh list, the reader is not in that list, and nobody asks
for it any more.

## Main definitions

* `Scene.Reveals`: Whether a reader is attached is there to see.
* `Deed.hears`: A wait on a reader returned with reports.
* `Stage.Known`: Baselines are from when the reader was attached.
* `Stage.Glance`: What a move does to the reports of an absent reader.
* `Stage.Unlisted`: The watcher does not ask for a reader.

## Theorems

* `differs_of_unknown`, `unavailable_of_unknown`: The report of an unknown reader.
* `move_known`, `run_known`: One move; a run of them.
* `move_glance`, `run_glance`: A move, and a run of them, while the reader is absent.
* `move_unlisted`, `run_unlisted`: Nothing is heard of it if nobody asks.
* `Current.unavailable_eq`: Reports of one reader agree.
-/

namespace CardHost

variable {σ κ ε : Type}

/-- Whether a reader is attached shows in the flags under its name. -/
def Scene.Reveals (scene : Scene σ) (reader : String) (hardware : σ) : Prop :=
  Bits.contains (scene.flags hardware reader) ReaderFlags.unknown = true ↔
    reader ∉ scene.names hardware

instance (scene : Scene σ) (reader : String) (hardware : σ) :
    Decidable (scene.Reveals reader hardware) := inferInstanceAs (Decidable (_ ↔ _))

/-- Whether a wait on a reader returned with reports. -/
def Deed.hears (reader : String) : Deed → Bool
  | heard set _ => set.readers.any (·.name == reader)
  | opened _ | closed _ | setOut | listed .. | began _ | told _ => false

/-- To hear is not to tell. -/
theorem Deed.ne_told_of_hears {reader : String} {deed : Deed} (h : deed.hears reader = true)
    (state : Snapshot) : deed ≠ .told state := by
  rintro rfl
  cases h

/-- The mark of a change does not make a reader unknown. -/
theorem ReaderFlags.unknown_without_changed (flags : ReaderFlags) :
    Bits.contains (Bits.without flags changed) unknown = Bits.contains flags unknown :=
  Bits.contains_without (by decide)

namespace Scene

variable {scene : Scene σ} {hardware : σ} {s : Snapshot}

/-- An entry for an unknown reader differs, if its baseline is from when the
    reader was known. -/
theorem differs_of_unknown
    (h : Bits.contains (scene.flags hardware s.name) ReaderFlags.unknown = true)
    (hbaseline : Bits.contains s.baseline ReaderFlags.unknown = false) :
    scene.differs hardware s = true := by
  rw [differs, bne_iff_ne]
  intro hsame
  rw [hsame, ← Snapshot.baseline, hbaseline] at h
  cases h

/-- A report says what there is to see of whether the reader is available. -/
theorem recorded_unavailable : (scene.recorded hardware s).unavailable =
    Bits.intersects (scene.seen hardware s.name)
      (ReaderFlags.unavailable ||| ReaderFlags.unknown) := by
  have hmask : ~~~ReaderFlags.changed &&& (ReaderFlags.unavailable ||| ReaderFlags.unknown) =
      ReaderFlags.unavailable ||| ReaderFlags.unknown := by decide
  rw [← without_report, Bits.intersects, Bits.without, BitVec.and_assoc, hmask]
  rfl

/-- An unknown reader is not. -/
theorem unavailable_of_unknown
    (h : Bits.contains (scene.flags hardware s.name) ReaderFlags.unknown = true) :
    (scene.recorded hardware s).unavailable = true := by
  rw [← ReaderFlags.unknown_without_changed, ← seen,
    show ReaderFlags.unknown = BitVec.twoPow 32 2 from rfl,
    Bits.contains_twoPow _ (by decide)] at h
  rw [recorded_unavailable, Bits.intersects, bne_iff_ne]
  intro hnone
  -- The bit is set on both sides.
  have hbit := congrArg (fun flags : ReaderFlags => flags.getLsbD 2) hnone
  simp only [BitVec.getLsbD_and, h, Bool.true_and] at hbit
  exact absurd hbit (by decide)

end Scene

namespace Stage

variable {b : Backend σ κ ε} {scene : Scene σ} {st st' gone : Stage σ κ ε}
  {moves since : List (Move σ)} {reader : String}

/-- The entry for a reader that a wait is on has a baseline from when the reader
    was attached, or none. -/
def Known (reader : String) (st : Stage σ κ ε) : Prop :=
  ∀ set, st.hold = .entries set → ∀ s ∈ set.readers, s.name = reader →
    Bits.contains s.baseline ReaderFlags.unknown = false

/-- Every move leaves it so: if a reader was detached when a wait returned, the
    list of readers changed too, and the entries are given up. -/
theorem move_known (hshown : scene.Shown b) (hsighted : Sighted b scene st moves)
    (hcounts : scene.Counts b st moves)
    (hreveals : scene.Reveals reader (st.hardwareAfter b moves))
    (h : (st.run b moves).Known reader) (move : Move σ) :
    (st.run b (moves ++ [move])).Known reader := by
  have hturn := (move_turn (b := b) hsighted.orderly move).1
  rw [← run_concat] at hturn
  generalize (st.run b moves).doing b move = deed? at hturn
  intro set hset s hs hname
  cases hturn.carried hshown hset with
  | kept _ hhold => exact h set hhold s hs hname
  | listed list names _ hset =>
      -- Of a reader that was just listed nothing is known.
      subst hset
      rcases List.mem_map.mp hs with ⟨name, -, rfl⟩
      show Bits.contains (Bits.without ReaderFlags.unaware _) _ = false
      decide
  | heard before reports hhold _ hsame hset =>
      rcases hsighted.entries before hhold with ⟨between, -, hbased, -⟩
      have hlist : scene.differs (st.hardwareAfter b moves) before.list = false := by
        by_contra hdiffers
        exact Bool.eq_false_iff.mp hsame (WaitSet.listChanged_of_changed hbased.name
          (Scene.changed_of_differs (eq_true_of_ne_false hdiffers)))
      -- So the readers of the wait are those that are attached.
      have hattached := hsighted.attached hcounts hhold hlist
      subst hset
      rcases List.mem_map.mp hs with ⟨_, hs', rfl⟩
      rcases List.mem_map.mp hs' with ⟨first, hfirst, rfl⟩
      have hfirst' : first.name = reader := hname
      have hmem : reader ∈ scene.names (st.hardwareAfter b moves) := by
        have hfound : first.name ∈ before.readers.map Snapshot.name := List.mem_map_of_mem hfirst
        rw [WaitSet.entries, List.map_cons] at hattached
        rw [← List.tail_eq_of_cons_eq hattached, ← hfirst']
        exact hfound
      rw [Scene.baseline_adopt, Scene.seen, ReaderFlags.unknown_without_changed, hfirst']
      exact eq_false_of_ne_true fun hunknown => hreveals.mp hunknown hmem

theorem run_known (hshown : scene.Shown b) (hsighted : ∀ moves, Sighted b scene st moves)
    (hstart : st.Known reader) (moves : List (Move σ)) (hcounts : scene.Counts b st moves)
    (hreveals : ∀ part, part <+: moves → scene.Reveals reader (st.hardwareAfter b part)) :
    (st.run b moves).Known reader := by
  induction moves using List.reverseRecOn with
  | nil => exact hstart
  | append_singleton moves move ih =>
      have hpart : moves <+: moves ++ [move] := List.prefix_append _ _
      have hcounts' : scene.Counts b st moves :=
        fun early between late hearly hbetween hlate =>
          hcounts early between late hearly hbetween (hlate.trans hpart)
      exact move_known hshown (hsighted moves) hcounts' (hreveals moves hpart)
        (ih hcounts' fun part hpart' => hreveals part (hpart'.trans hpart)) move

/-- What a move does to the reports of an absent reader that are still to be
    told. -/
inductive Glance (reader : String) (st st' : Stage σ κ ε) : Option Deed → Prop where
  /-- Nothing is heard of the reader, and nothing told. -/
  | kept (deed? : Option Deed) (hunheard : deed?.any (Deed.hears reader) = false)
      (hquiet : ∀ s, deed? = some (.told s) → s.name ≠ reader)
      (hsame : ∀ s, s.name = reader → (s ∈ st'.untold ↔ s ∈ st.untold)) :
      Glance reader st st' deed?
  /-- A report of the reader is told. -/
  | told (s : Snapshot) (hname : s.name = reader) (hmem : s ∈ st.untold)
      (hless : ∀ s' ∈ st'.untold, s' ∈ st.untold) : Glance reader st st' (some (.told s))
  /-- There are reports of the reader, all to the effect that it is gone. -/
  | heard (deed : Deed) (hhears : deed.hears reader = true) (hdone : st.untold = [])
      (hsome : ∃ s ∈ st'.untold, s.name = reader)
      (hgone : ∀ s ∈ st'.untold, s.name = reader → s.unavailable = true) :
      Glance reader st st' (some deed)

/-- A wait on entries returned while the reader is absent. -/
theorem heard_glance {set : WaitSet} {reports : List (ReaderFlags × Bytes)} {hardware : σ}
    (hlist : set.list.name ≠ reader) (hdone : st.untold = [])
    (huntold : st'.untold = (scene.recordedSet hardware set).changes)
    (hknown : ∀ s ∈ set.readers, s.name = reader →
      Bits.contains s.baseline ReaderFlags.unknown = false)
    (habsent : Bits.contains (scene.flags hardware reader) ReaderFlags.unknown = true) :
    Glance reader st st' (some (.heard set reports)) := by
  have hfrom : ∀ s ∈ st'.untold, s.name = reader →
      ∃ first ∈ set.readers, s = scene.recorded hardware first := by
    intro s hs hname
    rw [huntold] at hs
    rcases List.mem_cons.mp (List.mem_of_mem_filter hs) with rfl | hmem
    · exact absurd hname hlist
    · rcases List.mem_map.mp hmem with ⟨first, hfirst, rfl⟩
      exact ⟨first, hfirst, rfl⟩
  cases hhears : set.readers.any (·.name == reader) with
  | false =>
      refine .kept _ hhears (fun _ h => nomatch h) fun s hname => ⟨fun hs => ?_, fun hs => ?_⟩
      · rcases hfrom s hs hname with ⟨first, hfirst, rfl⟩
        exact absurd (beq_iff_eq.mpr hname) (List.any_eq_false.mp hhears first hfirst)
      · rw [hdone] at hs
        cases hs
  | true =>
      refine .heard _ hhears hdone ?_ fun s hs hname => ?_
      · rcases List.any_eq_true.mp hhears with ⟨first, hfirst, hmatch⟩
        have hname := beq_iff_eq.mp hmatch
        have hdiffers := Scene.differs_of_unknown (hname ▸ habsent) (hknown first hfirst hname)
        refine ⟨scene.recorded hardware first, ?_, hname⟩
        rw [huntold]
        exact List.mem_filter.mpr ⟨List.mem_cons_of_mem _ (List.mem_map_of_mem hfirst),
          Scene.changed_of_differs hdiffers⟩
      · rcases hfrom s hs hname with ⟨first, -, rfl⟩
        exact Scene.unavailable_of_unknown (s := first) (hname ▸ habsent)

/-- Every move is one of these. -/
theorem move_glance (hshown : scene.Shown b) (hsighted : Sighted b scene st moves)
    (hreader : reader ≠ Snapshot.listName) (hknown : (st.run b moves).Known reader)
    (habsent : Bits.contains (scene.flags (st.hardwareAfter b moves) reader)
      ReaderFlags.unknown = true) (move : Move σ) :
    Glance reader (st.run b moves) (st.run b (moves ++ [move]))
      ((st.run b moves).doing b move) := by
  have hturn := (move_turn (b := b) hsighted.orderly move).1
  rw [← run_concat] at hturn
  generalize (st.run b moves).doing b move = deed? at hturn
  cases hturn with
  | same _ huntold | setOut _ huntold | failed _ huntold | ended huntold =>
      exact .kept none rfl nofun fun s _ => by rw [huntold]
  | began _ hduties huntold | listed _ _ hduties huntold =>
      exact .kept _ rfl nofun fun s _ => by rw [huntold, untold_of_duties hduties]
  | told s _ huntold =>
      by_cases hname : s.name = reader
      · refine .told s hname (huntold ▸ List.mem_cons_self) fun s' hs' => ?_
        rw [huntold]
        exact List.mem_cons_of_mem _ hs'
      · refine .kept _ rfl (fun s' heq => ?_) fun s' hname' => ?_
        · cases heq
          exact hname
        · rw [huntold, List.mem_cons]
          refine ⟨.inr, fun hmem => hmem.resolve_left ?_⟩
          rintro rfl
          exact hname hname'
  | heard poll set reports hentries hduties huntold hhold hreports =>
      rw [watch_set_heard hshown hentries hreports] at huntold
      rcases hsighted.entries set hhold with ⟨between, -, hbased, -⟩
      exact heard_glance (hbased.name ▸ hreader.symm) (untold_of_duties hduties) huntold
        (hknown set hhold) habsent

/-- So is every move of a run, from the moment on that the reader is absent. -/
theorem run_glance (hshown : scene.Shown b) (hsighted : ∀ moves, Sighted b scene st moves)
    (hreader : reader ≠ Snapshot.listName) (hstart : st.Known reader) {before : List (Move σ)}
    (hcounts : scene.Counts b st (before ++ since))
    (hreveals : ∀ part, part <+: before ++ since → scene.Reveals reader (st.hardwareAfter b part))
    (habsent : ∀ part, part <+: since →
      reader ∉ scene.names ((st.run b before).hardwareAfter b part))
    {part : List (Move σ)} {move : Move σ} (hpart : part ++ [move] <+: since) :
    Glance reader ((st.run b before).run b part) ((st.run b before).run b (part ++ [move]))
      (((st.run b before).run b part).doing b move) := by
  have hshorter : part <+: since := (List.prefix_append _ _).trans hpart
  have hwhole : before ++ part <+: before ++ since :=
    (List.prefix_append_right_inj before).mpr hshorter
  have hknown := run_known hshown hsighted hstart (before ++ part)
    (fun early between late hearly hbetween hlate =>
      hcounts early between late hearly hbetween (hlate.trans hwhole))
    fun part' hpart' => hreveals part' (hpart'.trans hwhole)
  have hunknown := (hreveals (before ++ part) hwhole).mpr (by
    rw [hardwareAfter, run_append]
    exact habsent part hshorter)
  have hmove := move_glance hshown (hsighted (before ++ part)) hreader hknown hunknown move
  rw [List.append_assoc, run_append, run_append] at hmove
  exact hmove

/-- The watcher carries no entry for a reader along. -/
def Unlisted (reader : String) (st : Stage σ κ ε) : Prop :=
  ∀ set, st.hold = .entries set → ∀ s ∈ set.readers, s.name ≠ reader

/-- Nothing is heard of a reader then, and while it is absent it stays so. -/
theorem move_unlisted (hshown : scene.Shown b) (horderly : st.Orderly)
    (habsent : reader ∉ scene.names st.provider.hub.world.hardware) (h : st.Unlisted reader)
    (move : Move σ) :
    (st.move b move).Unlisted reader ∧ (st.doing b move).any (Deed.hears reader) = false := by
  have hturn := (move_turn (b := b) horderly move).1
  generalize st.doing b move = deed? at hturn
  refine ⟨fun set hset s hs => ?_, ?_⟩
  · cases hturn.carried hshown hset with
    | kept _ hhold => exact h set hhold s hs
    | listed list names _ hset =>
        subst hset
        rcases List.mem_map.mp hs with ⟨name, hname, rfl⟩
        -- A reader that is absent is not listed.
        exact fun heq => habsent (heq ▸ hname)
    | heard before reports hhold _ _ hset =>
        subst hset
        rcases List.mem_map.mp hs with ⟨_, hs', rfl⟩
        rcases List.mem_map.mp hs' with ⟨first, hfirst, rfl⟩
        exact h before hhold first hfirst
  · cases hturn with
    | same | told | began | setOut | failed | listed | ended => rfl
    | heard _ before _ _ _ _ hhold =>
        exact List.any_eq_false.mpr fun s hs hmatch => h before hhold s hs (beq_iff_eq.mp hmatch)

theorem run_unlisted (hshown : scene.Shown b) (horderly : ∀ part, (gone.run b part).Orderly)
    (habsent : ∀ part, part <+: since → reader ∉ scene.names (gone.hardwareAfter b part))
    (h : gone.Unlisted reader) :
    (gone.run b since).Unlisted reader ∧
      (gone.chronicle b since).any (Deed.hears reader) = false := by
  induction since using List.reverseRecOn with
  | nil => exact ⟨h, rfl⟩
  | append_singleton since move ih =>
      have hpart : since <+: since ++ [move] := List.prefix_append _ _
      rcases ih fun part hpart' => habsent part (hpart'.trans hpart) with ⟨hunlisted, hunheard⟩
      rcases move_unlisted hshown (horderly since) (habsent since hpart) hunlisted move with
        ⟨hunlisted', hunheard'⟩
      rw [run_concat, any_chronicle_concat rfl fun _ => ⟨rfl, rfl⟩, hunheard, hunheard']
      exact ⟨hunlisted', rfl⟩

/-- Reports of one reader that are to be told agree on whether it is available,
    for they are from one wait. -/
theorem Current.unavailable_eq (h : Current b scene st moves) {s s' : Snapshot}
    (hs : s ∈ (st.run b moves).untold) (hs' : s' ∈ (st.run b moves).untold)
    (hname : s'.name = s.name) : s'.unavailable = s.unavailable := by
  rcases h.echoes (List.ne_nil_of_mem hs) with ⟨early, hearly⟩
  rw [← (hearly.reports s hs).2, ← (hearly.reports s' hs').2, Scene.recorded_unavailable,
    Scene.recorded_unavailable, hname]

end Stage

end CardHost
