import CardHost.Proofs.Attachments
import CardHost.Proofs.Waiters

/-!
# Reads That Wait for a Card That Is There

A read waits if there is no card, and it is ended by the report that one was
inserted. So whoever waits for a card in a reader saw it empty at some moment,
and for as long as nothing was reported since then, the baseline of the reader
is from that moment or an earlier one. If a card is there now the state of the
reader differs from that, by its counter if by nothing else, and a wait on it
returns. When a wait goes on, with nothing that differs, nobody waits for a card
that is there.

Two mishaps break this. A new configuration can move a session that has requests
to a reader whose card was reported long ago. And a read can be made to wait
although there is a card, by a connection to an earlier one. Nothing reports the
card again in either case. `unserved_of_mishap` says that there is no third: a
request that waits for a card which is there, while the watcher waits with
nothing to report, had one of the two.

## Main definitions

* `Scene.occupied`, `Scene.CountsCards`, `Scene.Candid`: The card in a reader, and
  what there is to see and to find of it.
* `Stage.Mishap`: What makes a request wait for a card that is there.
* `Stage.Guarded`: What is known of requests and baselines without one.

## Theorems

* `recorded_inserted`: A report that shows an inserted card.
* `kept_guarded`, `heard_guarded`: What the turns of the watch do.
* `move_guarded`, `run_guarded`: One move; a run of them.
* `Guarded.vacant`: For which readers requests wait that had no mishap.
* `unserved_of_mishap`: A request that waits in vain had a mishap.
-/

namespace CardHost

variable {σ κ ε : Type}

namespace ReaderFlags

/-- The mark of a change is none of the other bits. -/
theorem getLsbD_without_changed (flags : ReaderFlags) {i : Nat} (hi : i < 32) (hother : i ≠ 1) :
    (Bits.without flags changed).getLsbD i = flags.getLsbD i := by
  have hchanged : changed.getLsbD i = false := by
    rw [show changed = BitVec.twoPow 32 1 from rfl, BitVec.getLsbD_twoPow, decide_eq_false
      (Ne.symm hother), Bool.and_false]
  rw [Bits.without, BitVec.getLsbD_and, BitVec.getLsbD_not, hchanged, decide_eq_true hi]
  exact Bool.and_true _

/-- Without the mark of a change, a card is present as before. -/
theorem present_without_changed (flags : ReaderFlags) :
    Bits.contains (Bits.without flags changed) present = Bits.contains flags present :=
  Bits.contains_without (by decide)

/-- Without the mark of a change, the counter is as before. -/
theorem count_without_changed (flags : ReaderFlags) :
    count (Bits.without flags changed) = count flags := by
  refine BitVec.eq_of_getLsbD_eq fun i hi => ?_
  rw [count, count, BitVec.getLsbD_extractLsb', BitVec.getLsbD_extractLsb',
    getLsbD_without_changed flags (by omega) (by omega)]

end ReaderFlags

namespace Snapshot

/-- What a wait compares the state of a reader with. -/
def baseline (s : Snapshot) : ReaderFlags := Bits.without s.current ReaderFlags.changed

theorem wasPresent_eq (s : Snapshot) :
    s.wasPresent = Bits.contains s.baseline ReaderFlags.present :=
  (ReaderFlags.present_without_changed _).symm

/-- Of a reader of which nothing is known, no card is either. -/
theorem wasPresent_unaware (name : String) : (unaware name).wasPresent = false := by
  show Bits.contains ReaderFlags.unaware ReaderFlags.present = false
  decide

end Snapshot

namespace Scene

variable (scene : Scene σ)

/-- The flags under a name, without the mark of a change. -/
def seen (hardware : σ) (name : String) : ReaderFlags :=
  Bits.without (scene.flags hardware name) ReaderFlags.changed

/-- Whether a card is in a reader. -/
def occupied (hardware : σ) (reader : String) : Bool :=
  Bits.contains (scene.flags hardware reader) ReaderFlags.present

/-- The counter of a reader tells a card from one that was there before the
    reader was empty. -/
def CountsCards (b : Backend σ κ ε) (st : Stage σ κ ε) (moves : List (Move σ)) : Prop :=
  ∀ early between late, early <+: between → between <+: late → late <+: moves → ∀ reader,
    scene.occupied (st.hardwareAfter b early) reader = true →
      scene.occupied (st.hardwareAfter b between) reader = false →
        scene.occupied (st.hardwareAfter b late) reader = true →
          (scene.flags (st.hardwareAfter b early) reader).count ≠
            (scene.flags (st.hardwareAfter b late) reader).count

/-- A new connection finds a card if there is one to see, and that there is no
    card only if there is none. The name of the list is that of no reader. -/
structure Candid (b : Backend σ κ ε) (hardware : σ) : Prop where
  found : ∀ reader mode status, (b.look reader mode hardware).1 = .ok status →
    scene.occupied hardware reader = true
  absent : ∀ reader mode e, (b.look reader mode hardware).1 = .error e → e.isAbsence = true →
    scene.occupied hardware reader = false
  reserved : Snapshot.listName ∉ scene.names hardware

variable {scene} {hardware : σ} {s : Snapshot}

theorem occupied_eq (name : String) :
    scene.occupied hardware name = Bits.contains (scene.seen hardware name) ReaderFlags.present :=
  (ReaderFlags.present_without_changed _).symm

/-- But for the mark, a report is what there is to see. -/
theorem without_report : Bits.without (scene.report hardware s).1 ReaderFlags.changed =
    scene.seen hardware s.name := by
  rw [report, seen]
  split
  · exact Bits.without_or _ _
  · rfl

/-- The baseline after a report is what was seen. -/
theorem baseline_adopt :
    (scene.recorded hardware s).adopt.baseline = scene.seen hardware s.name := without_report

/-- The report on an entry that does not differ is the baseline that it had. -/
theorem baseline_adopt_same (hdiffers : scene.differs hardware s = false) :
    (scene.recorded hardware s).adopt.baseline = s.baseline := by
  rw [differs, bne_eq_false_iff_eq] at hdiffers
  rw [baseline_adopt, seen, hdiffers, Snapshot.baseline, Bits.without, Bits.without,
    BitVec.and_assoc, BitVec.and_self]

/-- A report finds the card that is there. -/
theorem recorded_present :
    (scene.recorded hardware s).present = scene.occupied hardware s.name := by
  rw [occupied_eq, ← without_report]
  exact (ReaderFlags.present_without_changed _).symm

/-- A report shows an inserted card if there is one and the entry differs, unless
    there was one before under the same count. -/
theorem recorded_inserted (hdiffers : scene.differs hardware s = true)
    (hoccupied : scene.occupied hardware s.name = true)
    (hother : s.wasPresent = true → s.current.count ≠ (scene.flags hardware s.name).count) :
    (scene.recorded hardware s).inserted = true := by
  have hpresent : (scene.recorded hardware s).present = true := recorded_present.trans hoccupied
  have hcount : (scene.recorded hardware s).event.count = (scene.flags hardware s.name).count := by
    show (scene.report hardware s).1.count = _
    rw [← ReaderFlags.count_without_changed, without_report, seen,
      ReaderFlags.count_without_changed]
  rw [Snapshot.inserted, Snapshot.replaced, changed_of_differs hdiffers, hpresent, hcount]
  show (true && true && (!s.wasPresent || true && true && s.wasPresent &&
    s.current.count != (scene.flags hardware s.name).count)) = true
  cases hwas : s.wasPresent with
  | false => rfl
  | true => exact bne_iff_ne.mpr (hother hwas)

end Scene

namespace Stage

variable {b : Backend σ κ ε} {scene : Scene σ} {st : Stage σ κ ε} {moves : List (Move σ)}

/-- What makes a request wait for a card that is there. -/
inductive Mishap (b : Backend σ κ ε) (scene : Scene σ) (st : Stage σ κ ε) (r : PendingRequest) :
    Move σ → Prop where
  /-- A new configuration moves its session to another reader. -/
  | moved (now : Instant) (config : Config) (session : Session κ)
      (hr : r ∈ st.provider.hub.pending.live) (hsession : session ∈ st.provider.hub.sessions)
      (hhandle : session.handle = r.key.service)
      (hmoved : (session.reread config).binding ≠ session.binding) :
      Mishap b scene st r (.enter now (.reload config))
  /-- It was queued because of a connection that was open already, while there
      was a card. -/
  | stale (now : Instant) (entry : Entry) (session : Session κ) (reader : String)
      (hsession : session ∈ st.provider.hub.sessions) (hhandle : session.handle = r.key.service)
      (hcard : session.card ≠ none) (hreader : session.binding.isBoundTo reader = true)
      (hoccupied : scene.occupied st.provider.hub.world.hardware reader = true)
      (hnew : r ∉ st.provider.hub.pending.live)
      (hqueued : r ∈ (st.move b (.enter now entry)).provider.hub.pending.live) :
      Mishap b scene st r (.enter now entry)

/-- The reader of an entry was empty after the baseline of the entry was seen. -/
def Emptied (b : Backend σ κ ε) (scene : Scene σ) (st : Stage σ κ ε) (moves : List (Move σ))
    (s : Snapshot) : Prop :=
  ∃ early between, early <+: between ∧ between <+: moves ∧
    s.baseline = scene.seen (st.hardwareAfter b early) s.name ∧
    scene.occupied (st.hardwareAfter b between) s.name = false

/-- A report that a card was inserted is to be told. -/
def Announced (st : Stage σ κ ε) (reader : String) : Prop :=
  ∃ s ∈ st.untold, s.kind = .card ∧ s.inserted = true ∧ s.name = reader

/-- What is known of requests and of the entries of a wait. Baselines were seen
    at some time. If a request waits for a card in a reader and had no mishap,
    then an entry for that reader whose baseline has a card has it from before
    the reader was empty, or else there is something to tell. -/
structure Guarded (b : Backend σ κ ε) (scene : Scene σ) (st : Stage σ κ ε)
    (moves : List (Move σ)) : Prop where
  orderly : (st.run b moves).Orderly
  sound : (st.run b moves).provider.hub.Sound
  seen : ∀ set, (st.run b moves).hold = .entries set → ∀ s ∈ set.readers,
    s.wasPresent = true →
      ∃ early, early <+: moves ∧ s.baseline = scene.seen (st.hardwareAfter b early) s.name
  waits : ∀ r reader, (st.run b moves).provider.hub.WaitsFor r reader →
    reader ≠ Snapshot.listName →
      (∀ early move, early ++ [move] <+: moves → ¬Mishap b scene (st.run b early) r move) →
        ∀ set, (st.run b moves).hold = .entries set → ∀ s ∈ set.readers, s.name = reader →
          s.wasPresent = true → Emptied b scene st moves s ∨ (st.run b moves).Announced reader

theorem Emptied.mono {moves' : List (Move σ)} {s : Snapshot} (h : Emptied b scene st moves s)
    (hpart : moves <+: moves') : Emptied b scene st moves' s := by
  rcases h with ⟨early, between, hearly, hbetween, hbaseline, hempty⟩
  exact ⟨early, between, hearly, hbetween.trans hpart, hbaseline, hempty⟩

/-- How it comes that a request waits after a move, if it had no mishap: it waited
    before, or it found the reader empty in this move. -/
theorem waits_of_move (h : Guarded b scene st moves) {move : Move σ}
    (hcandid : scene.Candid b (st.hardwareAfter b moves))
    (hentry : ∀ request, move ≠ .addRequest request) {r : PendingRequest} {reader : String}
    (hwaits : (st.run b (moves ++ [move])).provider.hub.WaitsFor r reader)
    (hmishap : ¬Mishap b scene (st.run b moves) r move) :
    ((st.run b moves).provider.hub.WaitsFor r reader ∧
      ∀ s, (st.run b moves).doing b move = some (.told s) →
        ¬(s.kind = .card ∧ s.inserted = true ∧ s.name = reader)) ∨
      scene.occupied (st.hardwareAfter b moves) reader = false ∧
        (st.run b moves).doing b move = none := by
  rw [run_concat] at hwaits
  rcases (move_origin (b := b) h.sound move hentry).2 r reader hwaits with
    hkept | ⟨now, entry, rfl, horigin⟩
  · exact .inl hkept
  · cases horigin with
    | kept hwaits => exact .inl ⟨hwaits, nofun⟩
    | moved config session hentry hr hsession hhandle hmoved =>
        subst hentry
        exact absurd (.moved now config session hr hsession hhandle hmoved) hmishap
    | queued session sources hsession hhandle hreader hnew hattempt =>
        refine .inr ⟨?_, rfl⟩
        by_contra hoccupied
        -- A new connection would have found the card, so there was an old one.
        by_cases hcard : session.card = none
        · rw [Provider.readNow_fst sources (Binding.isBound_of_isBoundTo hreader)] at hattempt
          simp only [Session.look, hcard, beq_iff_eq.mp hreader] at hattempt
          rcases hfound : (b.look reader session.settings.shareMode
            (st.run b moves).provider.hub.world.hardware).1 with e | status
          · rw [hfound, Provider.Attempt.ofFound] at hattempt
            split at hattempt
            · next habsent => exact hoccupied (hcandid.absent reader _ e hfound habsent)
            · cases hattempt
          · rw [hfound] at hattempt
            cases hattempt
        · exact hmishap (.stale now entry session reader hsession hhandle hcard hreader
            (eq_true_of_ne_false hoccupied) hnew hwaits.1)

/-- A report that shows a card announces it, unless the card was there before the
    reader was empty: the counter would tell. -/
theorem recorded_emptied (hcards : scene.CountsCards b st moves) {s : Snapshot}
    (hpresent : (scene.recorded (st.hardwareAfter b moves) s).adopt.wasPresent = true)
    (hemptied : s.wasPresent = true → Emptied b scene st moves s) :
    Emptied b scene st moves (scene.recorded (st.hardwareAfter b moves) s).adopt ∨
      (scene.recorded (st.hardwareAfter b moves) s).changed = true ∧
        (scene.recorded (st.hardwareAfter b moves) s).inserted = true := by
  have hoccupied : scene.occupied (st.hardwareAfter b moves) s.name = true := by
    rw [Snapshot.wasPresent_eq, Scene.baseline_adopt, ← Scene.occupied_eq] at hpresent
    exact hpresent
  cases hdiffers : scene.differs (st.hardwareAfter b moves) s with
  | true =>
      refine .inr ⟨Scene.changed_of_differs hdiffers,
        Scene.recorded_inserted hdiffers hoccupied fun hwas => ?_⟩
      rcases hemptied hwas with ⟨early, between, hearly, hbetween, hbaseline, hempty⟩
      have hbefore : scene.occupied (st.hardwareAfter b early) s.name = true := by
        rw [Snapshot.wasPresent_eq, hbaseline, ← Scene.occupied_eq] at hwas
        exact hwas
      have hcounts := hcards early between moves hearly hbetween (List.prefix_refl _) s.name
        hbefore hempty hoccupied
      rw [← ReaderFlags.count_without_changed s.current]
      rw [Snapshot.baseline] at hbaseline
      rw [hbaseline, Scene.seen, ReaderFlags.count_without_changed]
      exact hcounts
  | false =>
      have hsame := Scene.baseline_adopt_same hdiffers
      have hwas : s.wasPresent = true := by
        rw [Snapshot.wasPresent_eq, hsame, ← Snapshot.wasPresent_eq] at hpresent
        exact hpresent
      rcases hemptied hwas with ⟨early, between, hearly, hbetween, hbaseline, hempty⟩
      exact .inl ⟨early, between, hearly, hbetween, hsame.trans hbaseline, hempty⟩

/-- A move that leaves the entries as they are, and of what is to be told drops
    at most what it tells. -/
theorem kept_guarded (h : Guarded b scene st moves) {move : Move σ}
    (hcandid : scene.Candid b (st.hardwareAfter b moves))
    (hentry : ∀ request, move ≠ .addRequest request)
    (horderly : (st.run b (moves ++ [move])).Orderly)
    (hsound : (st.run b (moves ++ [move])).provider.hub.Sound)
    (hhold : (st.run b (moves ++ [move])).hold = (st.run b moves).hold)
    (huntold : ∀ s ∈ (st.run b moves).untold, s ∈ (st.run b (moves ++ [move])).untold ∨
      (st.run b moves).doing b move = some (.told s)) : Guarded b scene st (moves ++ [move]) := by
  have hpart : moves <+: moves ++ [move] := List.prefix_append _ _
  refine ⟨horderly, hsound, fun set hset s hs hwas => ?_,
    fun r reader hwaits hreader hmishap set hset s hs hname hwas => ?_⟩
  · rcases h.seen set (hhold ▸ hset) s hs hwas with ⟨early, hearly, hbaseline⟩
    exact ⟨early, hearly.trans hpart, hbaseline⟩
  · rcases waits_of_move h hcandid hentry hwaits (hmishap moves move (List.prefix_refl _)) with
      ⟨hbefore, htold⟩ | ⟨hempty, -⟩
    · rcases h.waits r reader hbefore hreader (fun early move' hearly =>
        hmishap early move' (hearly.trans hpart)) set (hhold ▸ hset) s hs hname hwas with
          hemptied | ⟨s', hs', hannounced⟩
      · exact .inl (hemptied.mono hpart)
      · rcases huntold s' hs' with hleft | htelling
        · exact .inr ⟨s', hleft, hannounced⟩
        · exact absurd hannounced (htold s' htelling)
    · -- The request is new, and the reader is empty now.
      rcases h.seen set (hhold ▸ hset) s hs hwas with ⟨early, hearly, hbaseline⟩
      exact .inl ⟨early, moves, hearly, hpart, hbaseline, hname ▸ hempty⟩

/-- A wait that returned with reports, and goes on with the same readers. -/
theorem heard_guarded (h : Guarded b scene st moves) {move : Move σ}
    (hcandid : scene.Candid b (st.hardwareAfter b moves)) (hcards : scene.CountsCards b st moves)
    (hentry : ∀ request, move ≠ .addRequest request)
    (horderly : (st.run b (moves ++ [move])).Orderly)
    (hsound : (st.run b (moves ++ [move])).provider.hub.Sound) {set heard : WaitSet}
    (hduties : (st.run b moves).duties = []) (hhold : (st.run b moves).hold = .entries set)
    (hheard : heard.readers = set.readers.map (scene.recorded (st.hardwareAfter b moves)))
    (hhold' : (st.run b (moves ++ [move])).hold = .entries heard.adopt)
    (huntold : (st.run b (moves ++ [move])).untold = heard.changes) :
    Guarded b scene st (moves ++ [move]) := by
  have hpart : moves <+: moves ++ [move] := List.prefix_append _ _
  have hreaders : ∀ set', (st.run b (moves ++ [move])).hold = .entries set' → ∀ s ∈ set'.readers,
      ∃ s' ∈ set.readers, s = (scene.recorded (st.hardwareAfter b moves) s').adopt := by
    intro set' hset' s hs
    cases hhold'.symm.trans hset'
    rw [WaitSet.adopt, hheard, List.map_map] at hs
    rcases List.mem_map.mp hs with ⟨s', hs', rfl⟩
    exact ⟨s', hs', rfl⟩
  refine ⟨horderly, hsound, fun set' hset' s hs _ => ?_,
    fun r reader hwaits hreader hmishap set' hset' s hs hname hwas => ?_⟩
  · rcases hreaders set' hset' s hs with ⟨s', -, rfl⟩
    exact ⟨moves, hpart, Scene.baseline_adopt⟩
  · rcases hreaders set' hset' s hs with ⟨s', hs', rfl⟩
    rcases waits_of_move h hcandid hentry hwaits (hmishap moves move (List.prefix_refl _)) with
      ⟨hbefore, -⟩ | ⟨hempty, -⟩
    · have hemptied : s'.wasPresent = true → Emptied b scene st moves s' := by
        intro hwas'
        rcases h.waits r reader hbefore hreader (fun early move' hearly =>
          hmishap early move' (hearly.trans hpart)) set hhold s' hs' hname hwas' with
            hemptied | ⟨s'', hs'', -⟩
        · exact hemptied
        · -- The wait went on until now, so there was nothing to tell.
          rw [untold_of_chores (chores_of_duties hduties)] at hs''
          cases hs''
      rcases recorded_emptied hcards hwas hemptied with hemptied' | ⟨hchanged, hinserted⟩
      · exact .inl (hemptied'.mono hpart)
      · have hmem : scene.recorded (st.hardwareAfter b moves) s' ∈ heard.changes := by
          refine List.mem_filter.mpr ⟨List.mem_cons_of_mem _ ?_, hchanged⟩
          rw [hheard]
          exact List.mem_map_of_mem hs'
        have hkind : (scene.recorded (st.hardwareAfter b moves) s').kind = .card := by
          have hother : s'.name ≠ Snapshot.listName := hname ▸ hreader
          exact if_neg (by rw [Snapshot.isReaderList]; exact fun heq => hother (beq_iff_eq.mp heq))
        exact .inr ⟨_, huntold ▸ hmem, hkind, hinserted, hname⟩
    · exact .inl ⟨moves, moves, List.prefix_refl _, hpart, Scene.baseline_adopt,
        hname ▸ hempty⟩

/-- Every move leaves requests and entries guarded. -/
theorem move_guarded (hshown : scene.Shown b) (h : Guarded b scene st moves) {move : Move σ}
    (hcandid : scene.Candid b (st.hardwareAfter b moves)) (hcards : scene.CountsCards b st moves)
    (hentry : ∀ request, move ≠ .addRequest request) : Guarded b scene st (moves ++ [move]) := by
  have hsound := (move_origin (b := b) h.sound move hentry).1
  rcases move_turn (b := b) h.orderly move with ⟨hturn, horderly⟩
  rw [← run_concat] at hturn horderly hsound
  -- Without the entries of a wait there is nothing to show.
  have hnone : (∀ set, (st.run b (moves ++ [move])).hold ≠ .entries set) →
      Guarded b scene st (moves ++ [move]) := fun hnot =>
    ⟨horderly, hsound, fun set hset => absurd hset (hnot set),
      fun _ _ _ _ _ set hset => absurd hset (hnot set)⟩
  have hkept := kept_guarded h hcandid hentry horderly hsound
  generalize hdeed : (st.run b moves).doing b move = deed? at hturn hkept
  cases hturn with
  | same hhold huntold => exact hkept hhold fun s hs => .inl (huntold ▸ hs)
  | told s hhold huntold =>
      refine hkept hhold fun s' hs' => ?_
      rw [huntold] at hs'
      rcases List.mem_cons.mp hs' with rfl | hs'
      · exact .inr rfl
      · exact .inl hs'
  | began set hduties _ hhold hhold' =>
      refine hkept (hhold'.trans hhold.symm) fun s hs => ?_
      rw [untold_of_chores (chores_of_duties hduties)] at hs
      cases hs
  | setOut list _ _ _ hhold' => exact hnone fun set hset => (by cases hhold'.symm.trans hset)
  | failed list _ _ hhold' => exact hnone fun set hset => (by cases hhold'.symm.trans hset)
  | ended _ hhold' => exact hnone fun set hset => (by cases hhold'.symm.trans hset)
  | listed list names _ _ _ _ hhold' =>
      rcases hhold' with ⟨hhold', -⟩ | hhold' | hhold'
      · -- Of a reader that was just listed nothing is known.
        have hunaware : ∀ set, (st.run b (moves ++ [move])).hold = .entries set →
            ∀ s ∈ set.readers, s.wasPresent = false := by
          intro set hset s hs
          cases hhold'.symm.trans hset
          rcases List.mem_map.mp hs with ⟨name, -, rfl⟩
          exact Snapshot.wasPresent_unaware name
        refine ⟨horderly, hsound, fun set hset s hs hwas => ?_,
          fun _ _ _ _ _ set hset s hs _ hwas => ?_⟩
        · exact absurd hwas (Bool.eq_false_iff.mp (hunaware set hset s hs))
        · exact absurd hwas (Bool.eq_false_iff.mp (hunaware set hset s hs))
      · exact hnone fun set hset => (by cases hhold'.symm.trans hset)
      · exact hnone fun set hset => (by cases hhold'.symm.trans hset)
  | heard poll set reports hentries hduties huntold hhold hreports hhold' =>
      rw [hshown.wait poll _ reports hreports, hentries] at huntold hhold'
      rw [Watcher.nextOf] at hhold'
      split at hhold'
      · exact hnone fun set' hset => (by cases hhold'.symm.trans hset)
      · refine heard_guarded h hcandid hcards hentry horderly hsound hduties hhold ?_ hhold' huntold
        rw [WaitSet.record_scene]
        rfl

theorem CountsCards.mono {moves' : List (Move σ)} (h : scene.CountsCards b st moves')
    (hpart : moves <+: moves') : scene.CountsCards b st moves :=
  fun early between late hearly hbetween hlate =>
    h early between late hearly hbetween (hlate.trans hpart)

theorem run_guarded (hshown : scene.Shown b) (h : Guarded b scene st [])
    (hcandid : ∀ early, early <+: moves → scene.Candid b (st.hardwareAfter b early))
    (hcards : scene.CountsCards b st moves) (hentry : ∀ request, .addRequest request ∉ moves) :
    Guarded b scene st moves := by
  induction moves using List.reverseRecOn with
  | nil => exact h
  | append_singleton moves move ih =>
      have hpart : moves <+: moves ++ [move] := List.prefix_append _ _
      refine move_guarded hshown (ih (fun early hearly => hcandid early (hearly.trans hpart))
        (CountsCards.mono hcards hpart) fun request hmem =>
          hentry request (List.mem_append_left _ hmem)) (hcandid moves hpart)
        (CountsCards.mono hcards hpart) fun request hmove => ?_
      exact hentry request (List.mem_append_right _ (hmove ▸ List.mem_singleton_self _))

theorem start_guarded (b : Backend σ κ ε) (scene : Scene σ) (hardware : σ) (config : Config) :
    Guarded b scene (start hardware config) [] :=
  ⟨start_orderly hardware config, Hub.sound_start _, fun _ h => (nomatch h),
    fun _ _ hwaits => (nomatch hwaits.1)⟩

/-- Who had no mishap waits for a reader that is empty, if there is an entry for
    the reader that does not differ, and nothing to tell. -/
theorem Guarded.vacant (h : Guarded b scene st moves) (hcards : scene.CountsCards b st moves)
    {set : WaitSet} {s : Snapshot} {r : PendingRequest}
    (hhold : (st.run b moves).hold = .entries set) (huntold : (st.run b moves).untold = [])
    (hs : s ∈ set.readers) (hmatch : scene.differs (st.hardwareAfter b moves) s = false)
    (hreader : s.name ≠ Snapshot.listName)
    (hwaits : (st.run b moves).provider.hub.WaitsFor r s.name)
    (hmishap : ∀ early move, early ++ [move] <+: moves →
      ¬Mishap b scene (st.run b early) r move) :
    scene.occupied (st.hardwareAfter b moves) s.name = false := by
  by_contra hthere
  have hoccupied := eq_true_of_ne_false hthere
  -- The baseline is what there is to see, and that includes the card.
  have hbaseline : scene.flags (st.hardwareAfter b moves) s.name = s.baseline := by
    rw [Scene.differs, bne_eq_false_iff_eq] at hmatch
    exact hmatch
  have hwas : s.wasPresent = true := by
    rw [Snapshot.wasPresent_eq, ← hbaseline]
    exact hoccupied
  rcases h.waits r s.name hwaits hreader hmishap set hhold s hs rfl hwas with
    ⟨early, between, hearly, hbetween, hseen, hempty⟩ | ⟨s', hs', -⟩
  · -- It has a card from before the reader was empty, under the count of the card
    -- that is there. But the counter tells the two apart.
    have hbefore : scene.occupied (st.hardwareAfter b early) s.name = true := by
      rw [Scene.occupied_eq, ← hseen, ← Snapshot.wasPresent_eq]
      exact hwas
    refine hcards early between moves hearly hbetween (List.prefix_refl _) s.name hbefore hempty
      hoccupied ?_
    rw [hbaseline, hseen, Scene.seen, ReaderFlags.count_without_changed]
  · rw [huntold] at hs'
    cases hs'

/-- A request that waits for a card which is there had a mishap. At any moment of
    any run of calls at which the watcher is in a wait and nothing differs from
    what it knows, take a request of an open session, bound to an attached reader
    in which a new connection would find a card. Then a new configuration has
    moved the session while the request was waiting, or the request was queued
    because of a connection that was open already, with a card in the reader. -/
theorem unserved_of_mishap (b : Backend σ κ ε) (scene : Scene σ) (hshown : scene.Shown b)
    (hardware : σ) (config : Config) (moves : List (Move σ))
    (hentry : ∀ request, .addRequest request ∉ moves)
    (hcounts : scene.Counts b (start hardware config) moves)
    (hcards : scene.CountsCards b (start hardware config) moves)
    (hcandid : ∀ early, early <+: moves →
      scene.Candid b ((start hardware config).hardwareAfter b early)) :
    let st := (start hardware config : Stage σ κ ε).run b moves
    let present := st.provider.hub.world.hardware
    ∀ timeout ends set, st.provider.watcher.phase = .waiting timeout ends set →
      (∀ s ∈ set.entries, scene.differs present s = false) →
        ∀ r ∈ st.provider.hub.pending.live, ∀ session ∈ st.provider.hub.sessions,
          session.handle = r.key.service → ∀ reader, session.binding.reader = some reader →
            reader ∈ scene.names present → ∀ status,
              (b.look reader session.settings.shareMode present).1 = .ok status →
                ∃ early move, early ++ [move] <+: moves ∧
                  Mishap b scene ((start hardware config).run b early) r move := by
  intro st present timeout ends set hphase hmatch r hr session hsession hhandle reader hreader
    hattached status hfound
  by_contra hnone
  have hguarded := run_guarded hshown (start_guarded b scene hardware config) hcandid
    hcards hentry
  rcases hguarded.orderly.of_waiting hphase with ⟨hchores, hhold⟩
  have hpresent := hcandid moves (List.prefix_refl _)
  -- The reader is among those that the wait is on.
  have hsighted := run_sighted hshown (start_sighted b scene hardware config) moves
  have hentries := hsighted.attached hcounts hhold (hmatch _ List.mem_cons_self)
  have hlisted : reader ∈ set.readers.map Snapshot.name := by
    rw [WaitSet.entries, List.map_cons] at hentries
    rw [(List.cons.inj hentries).2]
    exact hattached
  rcases List.mem_map.mp hlisted with ⟨s, hs, hname⟩
  have hother : s.name ≠ Snapshot.listName := fun heq =>
    hpresent.reserved (heq ▸ hname ▸ hattached)
  have hwaits : st.provider.hub.WaitsFor r s.name :=
    ⟨hr, session, hsession, hhandle, hname ▸ beq_iff_eq.mpr hreader⟩
  -- It is empty, so a new connection finds no card.
  have hempty := hguarded.vacant hcards hhold (untold_of_chores hchores) hs
    (hmatch s (List.mem_cons_of_mem _ hs)) hother hwaits
    fun early move hearly hmishap => hnone ⟨early, move, hearly, hmishap⟩
  have hoccupied := hpresent.found reader _ status hfound
  rw [← hname] at hoccupied
  exact Bool.eq_false_iff.mp hempty hoccupied

end Stage

namespace Simulation

theorem occupied_of_reader? {hall : Hall} {name : String} {r : Reader}
    (hname : name ≠ Snapshot.listName) (hr : hall.reader? name = some r) (hextra : r.extra = 0#32) :
    scene.occupied hall name = r.card.isSome := by
  -- The counter is in the upper half, away from the bit for a card.
  have hcount : (ReaderFlags.ofCount r.count).getLsbD 5 = false := by
    rw [ReaderFlags.ofCount, BitVec.getLsbD_append, if_pos (by decide)]
    rfl
  have hflags : hall.flags name = (if r.card.isSome then ReaderFlags.present
      else ReaderFlags.empty) ||| r.extra ||| ReaderFlags.ofCount r.count := by
    rw [Hall.flags, if_neg hname, hr]
  show Bits.contains (hall.flags name) (BitVec.twoPow 32 5) = _
  rw [hflags, Bits.contains_twoPow _ (by decide), BitVec.getLsbD_or, BitVec.getLsbD_or, hcount,
    hextra]
  cases r.card.isSome <;> rfl

/-- A hall in which no call is made to fail, and no reader has further state bits,
    shows the cards that there are to find. -/
theorem candid_of_plain {hall : Hall} (hfailures : hall.failures = [])
    (hextra : ∀ r ∈ hall.readers, r.extra = 0#32) (hnames : Snapshot.listName ∉ hall.names) :
    scene.Candid backend hall := by
  have hoccupied : ∀ {name : String} {r : Reader}, hall.reader? name = some r →
      scene.occupied hall name = r.card.isSome := by
    intro name r hr
    have hmem : r ∈ hall.readers := List.mem_of_find?_eq_some hr
    have hmatch := List.find?_some hr
    refine occupied_of_reader? (fun heq => hnames ?_) hr (hextra r hmem)
    exact heq ▸ beq_iff_eq.mp hmatch ▸ List.mem_map_of_mem hmem
  refine ⟨fun name mode status hfound => ?_, fun name mode e hfailed habsent => ?_, hnames⟩
  · rw [look_eq hfailures, Hall.cardIn] at hfound
    rcases hr : hall.reader? name with _ | r
    · rw [hr] at hfound
      cases hfound
    · rw [hoccupied hr]
      rcases hcard : r.card with _ | card
      · simp only [hr, hcard] at hfound
        cases hfound
      · rfl
  · rw [look_eq hfailures, Hall.cardIn] at hfailed
    rcases hr : hall.reader? name with _ | r
    · rw [hr] at hfailed
      cases hfailed
      cases habsent
    · rw [hoccupied hr]
      rcases hcard : r.card with _ | card
      · rfl
      · simp only [hr, hcard] at hfailed
        cases hfailed

/-- As long as nothing happens to readers and cards, the counters need not tell
    anything. -/
theorem counts_of_steady {st : Stage Hall Connection Note} {moves : List (Move Hall)} (hall : Hall)
    (h : ∀ early, early <+: moves → (st.hardwareAfter backend early).readers = hall.readers ∧
      (st.hardwareAfter backend early).count = hall.count) :
    scene.Counts backend st moves ∧ scene.CountsCards backend st moves := by
  have hflags : ∀ early, early <+: moves →
      scene.flags (st.hardwareAfter backend early) = scene.flags hall := by
    intro early hearly
    funext name
    show (st.hardwareAfter backend early).flags name = hall.flags name
    rw [Hall.flags, Hall.flags, Hall.reader?, Hall.reader?, (h early hearly).1, (h early hearly).2]
  refine ⟨fun early between late hearly hbetween hlate hother => ?_,
    fun early between late hearly hbetween hlate reader hbefore hempty => ?_⟩
  · refine absurd ?_ hother
    show Hall.names _ = Hall.names _
    rw [Hall.names, Hall.names, (h between (hbetween.trans hlate)).1, (h late hlate).1]
  · rw [Scene.occupied, hflags _ (hearly.trans (hbetween.trans hlate))] at hbefore
    rw [Scene.occupied, hflags _ (hbetween.trans hlate), hbefore] at hempty
    cases hempty

/-- A hall with two readers, and a card in the second. -/
def twoReaders : Hall :=
  { readers := [⟨"A", none, 0#32, 0#16⟩, ⟨"B", some ⟨1, [0x3b, 0x01], none, 0#32⟩, 0#32, 1#16⟩]
    cards := 1 }

/-- A session that works with the first reader is opened, and the watcher goes on
    until it is in a wait. A read finds no card, and the watcher goes on. Then a
    new configuration has the session work with the second reader. -/
def moving : List (Move Hall) :=
  [.enter 0 (.openSession ⟨1, 1, 1⟩ "L" 0), .watch 0, .watch 0, .watch 0, .watch 0, .work,
   .watch 0, .watch 0, .work, .work, .work, .watch 0,
   .enter 0 (.execute ⟨1, 1, 2⟩ none (.readRawData 8#16)), .watch 0, .work, .watch 0,
   .enter 0 (.reload (configuredTo "B"))]

set_option maxRecDepth 4000 in
theorem moving_steady (early : List (Move Hall)) (h : early <+: moving) :
    let hall := (Stage.start twoReaders (configuredTo "A")).hardwareAfter backend early
    hall.readers = twoReaders.readers ∧ hall.count = twoReaders.count ∧ hall.failures = [] := by
  have hall : ∀ early ∈ moving.inits,
      let hall := (Stage.start twoReaders (configuredTo "A")).hardwareAfter backend early
      hall.readers = twoReaders.readers ∧ hall.count = twoReaders.count ∧
        hall.failures = [] := by decide
  exact hall early ((List.mem_inits _ _).mpr h)

/-- The read that is made to wait. -/
def movedRequest : PendingRequest :=
  PendingRequest.waitForCard ⟨1, 2⟩ 1 0 none 8#16 (.shared 1)

/-- The entries of the wait at the end. -/
def lastSet : WaitSet :=
  ⟨⟨Snapshot.listName, 0#32, 0#32, []⟩,
   [⟨"A", 0x12#32, 0x12#32, []⟩, ⟨"B", 0x10022#32, 0x10022#32, [0x3b, 0x01]⟩]⟩

set_option maxRecDepth 4000 in
/-- At the end the request waits for a card in the second reader, and the watcher
    waits with nothing to report. -/
theorem moving_end :
    let st : Stage Hall Connection Note :=
      (Stage.start twoReaders (configuredTo "A")).run backend moving
    let present := st.provider.hub.world.hardware
    st.provider.watcher.phase = .waiting Watcher.slice Watcher.slice lastSet ∧
      (∀ s ∈ lastSet.entries, scene.differs present s = false) ∧
      st.provider.watcher.resync = false ∧ movedRequest ∈ st.provider.hub.pending.live ∧
      (∃ session ∈ st.provider.hub.sessions, session.handle = 1 ∧
        session.binding.reader = some "B" ∧ session.settings.shareMode = .shared) ∧
      "B" ∈ scene.names present ∧
      (backend.look "B" .shared present).1 = .ok ⟨0#32, none, [0x3b, 0x01]⟩ := by
  decide

/-- The mishap of that request. -/
theorem unserved_moving :
    let st : Stage Hall Connection Note :=
      (Stage.start twoReaders (configuredTo "A")).run backend moving
    movedRequest ∈ st.provider.hub.pending.live ∧ ∃ early move, early ++ [move] <+: moving ∧
      Stage.Mishap backend scene ((Stage.start twoReaders (configuredTo "A")).run backend early)
        movedRequest move := by
  intro st
  rcases moving_end with ⟨hphase, hmatch, -, hr, ⟨session, hsession, hhandle, hreader, hmode⟩,
    hattached, hfound⟩
  have hcounts := counts_of_steady twoReaders fun early h =>
    ⟨(moving_steady early h).1, (moving_steady early h).2.1⟩
  have hcandid : ∀ early, early <+: moving → scene.Candid backend
      ((Stage.start twoReaders (configuredTo "A")).hardwareAfter backend early) := by
    intro early h
    rcases moving_steady early h with ⟨hreaders, -, hfailures⟩
    refine candid_of_plain hfailures ?_ ?_
    · rw [hreaders]
      decide
    · rw [Hall.names, hreaders]
      decide
  have hentry : ∀ request, .addRequest request ∉ moving := by
    intro request hmem
    simp [moving] at hmem
  refine ⟨hr, Stage.unserved_of_mishap backend scene scene_shown twoReaders (configuredTo "A")
    moving hentry hcounts.1 hcounts.2 hcandid _ _ lastSet hphase hmatch movedRequest hr session
    hsession hhandle "B" hreader hattached ⟨0#32, none, [0x3b, 0x01]⟩ ?_⟩
  rw [hmode]
  exact hfound

/-- A read that waits for a card which is there. Nothing differs from what the
    watcher knows, and nobody has asked for the readers to be listed. -/
theorem read_left_waiting :
    let st : Stage Hall Connection Note :=
      (Stage.start twoReaders (configuredTo "A")).run backend moving
    let present := st.provider.hub.world.hardware
    (∃ timeout ends set, st.provider.watcher.phase = .waiting timeout ends set ∧
        ∀ s ∈ set.entries, scene.differs present s = false) ∧
      st.provider.watcher.resync = false ∧
      ∃ r ∈ st.provider.hub.pending.live, ∃ session ∈ st.provider.hub.sessions,
        session.handle = r.key.service ∧ ∃ reader, session.binding.reader = some reader ∧
          reader ∈ scene.names present ∧ ∃ status,
            (backend.look reader session.settings.shareMode present).1 = .ok status := by
  intro st present
  rcases moving_end with ⟨hphase, hmatch, hresync, hr, ⟨session, hsession, hhandle, hreader, hmode⟩,
    hattached, hfound⟩
  exact ⟨⟨_, _, lastSet, hphase, hmatch⟩, hresync, movedRequest, hr, session, hsession, hhandle,
    "B", hreader, hattached, _, hmode ▸ hfound⟩

end Simulation

end CardHost
