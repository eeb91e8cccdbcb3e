import CardHost.Proofs.Hearings
import CardHost.Proofs.Handovers

/-!
# Cards That Are Swapped

A card that was taken out of a reader and put back, or replaced by another,
leaves the state of the reader as it was, but for the counter. So the next
report of the reader shows a swapped card if its baseline is what was seen when
the last report was made: the two counts differ, and that is what a session
looks at. But a baseline does not outlast a list of the readers. Whenever they
are listed anew, for whatever reason, nothing is known of them, and the card
that is found next counts as one that has just been put in, and not as one that
has taken the place of another.

A session that was told of a card keeps its connection and its lock then, and
nobody is told that the card was removed. `swap_noticed_unless_listed` says that
it is so in this case and in no other.

## Main definitions

* `Scene.CountsSwaps`: The counter of a reader tells its cards apart.
* `Stage.Traced`: Where the baselines of a reader come from.

## Theorems

* `move_traced`, `run_traced`: One move; a run of them.
* `traced_of_told`, `Traced.baseline_of_later`: From one report to the next.
* `recorded_replaced`: A report that shows a swapped card.
* `run_observed`, `run_present`: A session that is told nothing more of its reader.
* `swap_noticed_unless_listed`: What a session does at the next report.
* `Simulation.relisted_card_unnoticed`: A swap that nobody is told of.
-/

namespace CardHost

variable {σ κ ε ι : Type}

/-- The counter of a reader tells a card from one that was there before it. It
    does not come back to a value that it had with another card, or with none,
    in between. -/
def Scene.CountsSwaps (scene : Scene σ) (cards : σ → String → Option ι) (b : Backend σ κ ε)
    (st : Stage σ κ ε) (moves : List (Move σ)) : Prop :=
  ∀ early between late, early <+: between → between <+: late → late <+: moves → ∀ reader,
    cards (st.hardwareAfter b between) reader ≠ cards (st.hardwareAfter b early) reader →
      scene.occupied (st.hardwareAfter b early) reader = true →
        scene.occupied (st.hardwareAfter b late) reader = true →
          (scene.flags (st.hardwareAfter b early) reader).count ≠
            (scene.flags (st.hardwareAfter b late) reader).count

/-- Of a reader of which nothing is known, the baseline says nothing. -/
theorem Snapshot.baseline_unaware (name : String) :
    (unaware name).baseline = ReaderFlags.unaware := by
  show Bits.without ReaderFlags.unaware ReaderFlags.changed = ReaderFlags.unaware
  decide

namespace Scene

variable {scene : Scene σ} {hardware : σ} {s : Snapshot}

/-- The count of a report is the count there is to see. -/
theorem recorded_count :
    (scene.recorded hardware s).event.count = (scene.flags hardware s.name).count := by
  show (scene.report hardware s).1.count = _
  rw [← ReaderFlags.count_without_changed, without_report, seen,
    ReaderFlags.count_without_changed]

end Scene

namespace Session

/-- What a report about its reader does to the lock of a session, as to its
    connection. -/
theorem notify_locked (b : Backend σ κ ε) {s : Session κ} {state : Snapshot}
    (hbound : s.binding.isBoundTo state.name = true) (w : World σ ε) :
    (s.notify b state .card w).1.locked =
      if s.observed.present && (!state.present || state.replaced) then false else s.locked := by
  have hinformed := informed_of_isBound (Binding.isBound_of_isBoundTo hbound) state
  have hnoted : (s.noteAvailability state w).1.locked = s.locked ∧
      (s.noteAvailability state w).1.observed.present = s.observed.present := by
    rw [noteAvailability]
    split <;> exact ⟨rfl, rfl⟩
  rw [notify_card_eq, hinformed, if_pos hbound, notePresence, hnoted.2]
  by_cases hgone : (s.observed.present && (!state.present || state.replaced)) = true
  · rw [if_pos hgone, if_pos hgone]
    rfl
  · rw [if_neg hgone, if_neg hgone]
    exact hnoted.1

end Session

namespace Stage

variable {b : Backend σ κ ε} {scene : Scene σ} {st : Stage σ κ ε} {moves early : List (Move σ)}
  {reader : String} {origin : ReaderFlags}

/-- The baselines of a reader have one origin, unless a report of the reader is
    still to be told that is older than that. -/
structure Traced (b : Backend σ κ ε) (st : Stage σ κ ε) (reader : String)
    (early moves : List (Move σ)) (origin : ReaderFlags) : Prop where
  told : ∀ s ∈ (st.run b moves).untold, s.name = reader →
    LastHeard b st early moves ∨ s.baseline = origin
  held : (∀ s ∈ (st.run b moves).untold, s.name ≠ reader) →
    ∀ set, (st.run b moves).hold = .entries set → ∀ s ∈ set.readers, s.name = reader →
      s.baseline = origin

/-- What a move makes of the origin of baselines. -/
def originAfter (origin : ReaderFlags) (deed? : Option Deed) : ReaderFlags :=
  if deed?.any Deed.isListed then ReaderFlags.unaware else origin

/-- Every move that tells nothing of the reader keeps track of where its
    baselines come from. -/
theorem move_traced (hshown : scene.Shown b) (horderly : (st.run b moves).Orderly)
    (hlist : ∀ set, (st.run b moves).hold = .entries set → set.list.name ≠ reader)
    (h : Traced b st reader early moves origin) {move : Move σ}
    (hquiet : ∀ s, (st.run b moves).doing b move = some (.told s) → s.name ≠ reader) :
    Traced b st reader early (moves ++ [move])
      (originAfter origin ((st.run b moves).doing b move)) := by
  have hturn := (move_turn (b := b) horderly move).1
  rw [← run_concat] at hturn
  have hconcat : LastHeard b st early moves →
      (∀ set reports, (st.run b moves).doing b move ≠ some (.heard set reports)) →
        LastHeard b st early (moves ++ [move]) := LastHeard.concat
  generalize (st.run b moves).doing b move = deed? at hturn hquiet hconcat
  refine ⟨fun s hs hname => ?_, fun hnone set hset s hs hname => ?_⟩
  · cases hturn.pending hshown hs with
    | kept _ hmem hunlisted hunheard =>
        rw [originAfter, hunlisted, if_neg Bool.false_ne_true]
        exact (h.told s hmem hname).imp_left fun hearly => hconcat hearly hunheard
    | heard set reports hdone hhold hmem =>
        rcases List.mem_cons.mp (List.mem_of_mem_filter hmem) with rfl | hmem
        · exact absurd hname (hlist set hhold)
        · rcases List.mem_map.mp hmem with ⟨s', hs', rfl⟩
          -- Nothing was left to be told, so the entries were as they should be.
          exact .inr (h.held (hdone ▸ nofun) set hhold s' hs' hname)
  · have huntold : ∀ s ∈ (st.run b moves).untold, s.name ≠ reader := by
      intro s hs
      rcases hturn.left hs with hs' | htold
      · exact hnone s hs'
      · exact hquiet s htold
    cases hturn.carried hshown hset with
    | kept _ hhold hunlisted =>
        rw [originAfter, hunlisted, if_neg Bool.false_ne_true]
        exact h.held huntold set hhold s hs hname
    | listed list names _ hset =>
        -- Of a reader that was just listed nothing is known.
        subst hset
        rcases List.mem_map.mp hs with ⟨name, -, rfl⟩
        exact Snapshot.baseline_unaware name
    | heard before reports hhold hreports _ hset =>
        subst hset
        rcases List.mem_map.mp hs with ⟨_, hmem, rfl⟩
        rcases List.mem_map.mp hmem with ⟨s', hs', rfl⟩
        -- There is no report of the reader, so it does not differ from its baseline.
        have hsame : scene.differs (st.hardwareAfter b moves) s' = false := by
          by_contra hdiffers
          refine hnone (scene.recorded (st.hardwareAfter b moves) s') ?_ hname
          rw [hreports]
          exact List.mem_filter.mpr ⟨List.mem_cons_of_mem _ hmem,
            Scene.changed_of_differs (eq_true_of_ne_false hdiffers)⟩
        exact (Scene.baseline_adopt_same hsame).trans (h.held huntold before hhold s' hs' hname)

/-- What a run does to the origin of baselines, by its chronicle. -/
def originIn (origin : ReaderFlags) (deeds : List Deed) : ReaderFlags :=
  if deeds.any Deed.isListed then ReaderFlags.unaware else origin

theorem originIn_concat (origin : ReaderFlags) (mid : List (Move σ)) (move : Move σ) :
    originIn origin (st.chronicle b (mid ++ [move])) =
      originAfter (originIn origin (st.chronicle b mid)) ((st.run b mid).doing b move) := by
  rw [originIn, originIn, originAfter, any_chronicle_concat rfl fun _ => ⟨rfl, rfl⟩]
  cases (st.run b mid).doing b move |>.any Deed.isListed with
  | true => rw [Bool.or_true, if_pos rfl, if_pos rfl]
  | false => rw [Bool.or_false, if_neg Bool.false_ne_true]

/-- A run that tells nothing of the reader. -/
theorem run_traced (hshown : scene.Shown b) (hsighted : ∀ moves, Sighted b scene st moves)
    (hreader : reader ≠ Snapshot.listName) {told : List (Move σ)}
    (h : Traced b st reader early told origin) (mid : List (Move σ))
    (hquiet : ∀ part move, part ++ [move] <+: mid → ∀ s,
      (st.run b (told ++ part)).doing b move = some (.told s) → s.name ≠ reader) :
    Traced b st reader early (told ++ mid)
      (originIn origin ((st.run b told).chronicle b mid)) := by
  induction mid using List.reverseRecOn with
  | nil =>
      rw [List.append_nil]
      exact h
  | append_singleton mid move ih =>
      have hpart : mid <+: mid ++ [move] := List.prefix_append _ _
      have hnow := hsighted (told ++ mid)
      have hlist : ∀ set, (st.run b (told ++ mid)).hold = .entries set →
          set.list.name ≠ reader := by
        intro set hset
        rcases hnow.entries set hset with ⟨between, -, hbased, -⟩
        exact hbased.name ▸ Ne.symm hreader
      have hmoved := move_traced hshown hnow.orderly hlist
        (ih fun part move' hpart' => hquiet part move' (hpart'.trans hpart))
        (hquiet mid move (List.prefix_refl _))
      rw [originIn_concat, ← run_append, ← List.append_assoc]
      exact hmoved

/-- Once a report was told, the baselines of its reader are from the wait that
    brought it. -/
theorem traced_of_told (h : Current b scene st moves) {s : Snapshot} {duties : List (Duty κ)}
    (hduties : (st.run b moves).duties = .tell (.change s) :: duties)
    (hearly : Echoes b scene st early moves) :
    Traced b st s.name early (moves ++ [.work])
      (scene.seen (st.hardwareAfter b early) s.name) := by
  have hdoing := (untold_of_tell (b := b) hduties).1
  refine ⟨fun _ _ _ => .inl (hearly.heard.concat fun set reports hheard => ?_),
    fun _ set hset e he hname => ?_⟩
  · cases hdoing.symm.trans hheard
  · rw [run_concat] at hset
    cases (work_tell (b := b) h.orderly hduties).1 with
    | told _ hhold => rw [hearly.baselines set (hhold ▸ hset) e he, hname]

/-- A report that a later wait brought has the baseline that was kept track of. -/
theorem Traced.baseline_of_later (h : Traced b st reader early moves origin)
    {late : List (Move σ)} (hlate : LastHeard b st late moves) (hother : early ≠ late)
    {s : Snapshot} (hmem : s ∈ (st.run b moves).untold) (hname : s.name = reader) :
    s.baseline = origin :=
  (h.told s hmem hname).resolve_left fun hearly => hother (hearly.unique hlate)

/-- A report shows a swapped card, if its baseline is what was seen before the
    swap: the counter has moved on. -/
theorem recorded_replaced {late : List (Move σ)} {s' : Snapshot}
    (hbaseline : s'.baseline = scene.seen (st.hardwareAfter b early) s'.name)
    (hrecorded : scene.recorded (st.hardwareAfter b late) s' = s')
    (hchanged : s'.changed = true)
    (hbefore : scene.occupied (st.hardwareAfter b early) s'.name = true)
    (hpresent : s'.present = true)
    (hcounts : (scene.flags (st.hardwareAfter b early) s'.name).count ≠
      (scene.flags (st.hardwareAfter b late) s'.name).count) : s'.replaced = true := by
  have hwas : s'.wasPresent = true := by
    rw [Snapshot.wasPresent_eq, hbaseline, ← Scene.occupied_eq]
    exact hbefore
  have hcount : s'.current.count = (scene.flags (st.hardwareAfter b early) s'.name).count := by
    rw [← ReaderFlags.count_without_changed, ← Snapshot.baseline, hbaseline, Scene.seen,
      ReaderFlags.count_without_changed]
  have hevent : s'.event.count = (scene.flags (st.hardwareAfter b late) s'.name).count := by
    rw [← Scene.recorded_count, hrecorded]
  rw [Snapshot.replaced, hchanged, hpresent, hwas, hcount, hevent]
  exact bne_iff_ne.mpr hcounts

/-- A session that is handed no more reports of its reader goes by what it saw last. -/
theorem run_observed (h : st.Plain) {handle : ServiceHandle} {s : Session κ}
    (hopen : st.provider.hub.session? handle = some s) (mid : List (Move σ))
    (hquiet : ∀ part move, part ++ [move] <+: mid → ∀ state,
      (st.run b part).handing move = some (state, .card) → state.name ≠ reader)
    (hbound : ∀ part, part <+: mid → ∃ session,
      (st.run b part).provider.hub.session? handle = some session ∧
        session.binding.isBoundTo reader = true) :
    ∃ session, (st.run b mid).provider.hub.session? handle = some session ∧
      session.binding.isBoundTo reader = true ∧ session.observed = s.observed := by
  induction mid using List.reverseRecOn with
  | nil =>
      rcases hbound [] (List.prefix_refl _) with ⟨session, hsession, hreader⟩
      cases hopen.symm.trans hsession
      exact ⟨s, hopen, hreader, rfl⟩
  | append_singleton mid move ih =>
      have hpart : mid <+: mid ++ [move] := List.prefix_append _ _
      rcases ih (fun part move' hpart' => hquiet part move' (hpart'.trans hpart))
        fun part hpart' => hbound part (hpart'.trans hpart) with
          ⟨before, hbefore, hreader, hseen⟩
      rcases hbound (mid ++ [move]) (List.prefix_refl _) with ⟨after, hafter, hreader'⟩
      refine ⟨after, hafter, hreader', ?_⟩
      rw [run_concat] at hafter
      have hunseen := move_unseen (run_plain h mid) hbefore hafter hreader
        (hquiet mid move (List.prefix_refl _))
      rw [hunseen.1]
      exact hseen

/-- So does one that was told of a card in it. -/
theorem run_present (h : st.Plain) {handle : ServiceHandle} {s : Session κ}
    (hopen : st.provider.hub.session? handle = some s) (hpresent : s.observed.present = true)
    (mid : List (Move σ))
    (hquiet : ∀ part move, part ++ [move] <+: mid → ∀ state,
      (st.run b part).handing move = some (state, .card) → state.name ≠ reader)
    (hbound : ∀ part, part <+: mid → ∃ session,
      (st.run b part).provider.hub.session? handle = some session ∧
        session.binding.isBoundTo reader = true) :
    ∃ session, (st.run b mid).provider.hub.session? handle = some session ∧
      session.binding.isBoundTo reader = true ∧ session.observed.present = true := by
  rcases run_observed h hopen mid hquiet hbound with ⟨session, hsession, hreader, hseen⟩
  exact ⟨session, hsession, hreader, hseen ▸ hpresent⟩

/-- A session that is told of the reader it is then bound to goes by that. -/
theorem work_observed (h : st.Plain) {s : Snapshot} {duties : List (Duty κ)}
    (hduties : st.duties = .tell (.change s) :: duties) (hkind : s.kind = .card)
    {handle : ServiceHandle} {session : Session κ}
    (hopen : (st.work b).provider.hub.session? handle = some session)
    (hbound : session.binding.isBoundTo s.name = true) :
    session.observed = Observed.ofReport s := by
  have hhanding : st.handing .work = some (s, .card) := hkind ▸ handing_of_tell hduties
  exact move_observed (b := b) h hhanding hopen hbound

/-- What the next report does to a session that was told of a card, if the card
    was swapped in between: it is noticed, unless there is a card again and the
    readers were listed anew. -/
theorem noticed_of_swapped {late : List (Move σ)} {s s' : Snapshot} {listed : Bool}
    (hname : s'.name = s.name) (hpresent : s.present = true)
    (hs : scene.recorded (st.hardwareAfter b early) s = s)
    (hs' : s'.changed = true ∧ scene.recorded (st.hardwareAfter b late) s' = s')
    (hbaseline : s'.baseline =
      if listed then ReaderFlags.unaware else scene.seen (st.hardwareAfter b early) s.name)
    (hcounts : scene.occupied (st.hardwareAfter b early) s.name = true →
      scene.occupied (st.hardwareAfter b late) s.name = true →
        (scene.flags (st.hardwareAfter b early) s.name).count ≠
          (scene.flags (st.hardwareAfter b late) s.name).count) :
    (!s'.present || s'.replaced) = !(s'.present && listed) := by
  cases hpresent' : s'.present with
  | false => rfl
  | true =>
      cases hlisted : listed with
      | true =>
          rw [hlisted, if_pos rfl] at hbaseline
          have hwas : s'.wasPresent = false := by
            rw [Snapshot.wasPresent_eq, hbaseline]
            decide
          rw [Snapshot.replaced, hwas, Bool.and_false, Bool.false_and]
          rfl
      | false =>
          rw [hlisted, if_neg Bool.false_ne_true, ← hname] at hbaseline
          have hbefore : scene.occupied (st.hardwareAfter b early) s.name = true := by
            rw [← Scene.recorded_present, hs]
            exact hpresent
          have hafter : scene.occupied (st.hardwareAfter b late) s'.name = true := by
            rw [← Scene.recorded_present, hs'.2]
            exact hpresent'
          rw [recorded_replaced hbaseline hs'.2 hs'.1 (hname ▸ hbefore) hpresent'
            (hname ▸ hcounts hbefore (hname ▸ hafter))]
          rfl

/-- A card that was swapped is noticed, unless the readers were listed anew. Take
    a session that was told of a card in its reader, stays bound to it, and is
    told of the reader once more; and let the counter of the reader tell its cards
    apart. If the card was taken out between the two waits that brought these
    reports, then by the second one the session gives up its connection and its
    lock, and posts that the card was removed, once to every window whose mask has
    the class of the event and to no other. The exception is a report that finds a
    card after the readers were listed in between: then the session goes on as
    before, and nobody is told. -/
theorem swap_noticed_unless_listed (b : Backend σ κ ε) (scene : Scene σ) (hshown : scene.Shown b)
    (cards : σ → String → Option ι) (hardware : σ) (config : Config) (before mid : List (Move σ))
    (hcards : scene.CountsSwaps cards b (start hardware config) (before ++ [.work] ++ mid)) :
    let st : Stage σ κ ε := start hardware config
    let told := st.run b (before ++ [.work])
    let last := told.run b mid
    ∀ (s s' : Snapshot) (duties duties' : List (Duty κ)) (handle : ServiceHandle),
      (st.run b before).duties = .tell (.change s) :: duties → s.kind = .card →
      s.present = true → last.duties = .tell (.change s') :: duties' → s'.name = s.name →
      (∀ part move, part ++ [move] <+: mid → ∀ state,
        (told.run b part).handing move = some (state, .card) → state.name ≠ s.name) →
      (∀ part, part <+: mid → ∃ session,
        (told.run b part).provider.hub.session? handle = some session ∧
          session.binding.isBoundTo s.name = true) →
      ∃ early late session after,
        LastHeard b st early before ∧ scene.recorded (st.hardwareAfter b early) s = s ∧
        LastHeard b st late (before ++ [.work] ++ mid) ∧
        scene.recorded (st.hardwareAfter b late) s' = s' ∧ early <+: late ∧
        last.provider.hub.session? handle = some session ∧
        (last.work b).provider.hub.session? handle = some after ∧
        ((∃ between, early <+: between ∧ between <+: late ∧
            cards (st.hardwareAfter b between) s.name ≠ cards (st.hardwareAfter b early) s.name) →
          let relisted := ∃ deed ∈ told.chronicle b mid, deed.isListed = true
          let removals (w : World σ ε) := w.eventsOf handle .mediaRemoved
          (s'.present = true ∧ relisted →
            after.card = session.card ∧ after.locked = session.locked ∧
              removals (last.work b).provider.hub.world = removals last.provider.hub.world) ∧
          (¬(s'.present = true ∧ relisted) →
            after.card = none ∧ after.locked = false ∧
              removals (last.work b).provider.hub.world = removals last.provider.hub.world ++
                session.subscriptions.posts
                  (session.eventMessage .serviceEvent .mediaRemoved .none) ∧
              session.subscriptions.Tells
                ⟨.serviceEvent, handle, 0, .success, 204, .none⟩
                (session.subscriptions.posts
                  (session.eventMessage .serviceEvent .mediaRemoved .none)))) := by
  intro st told last s s' duties duties' handle hduties hkind hpresent hduties' hname hquiet hbound
  have hreader : s.name ≠ Snapshot.listName := Snapshot.kind_eq_card_iff.mp hkind
  have hkind' : s'.kind = .card := Snapshot.kind_eq_card_iff.mpr (hname ▸ hreader)
  have hlast : st.run b (before ++ [.work] ++ mid) = last := run_append _ _
  have hcurrent := run_current hshown (start_current b scene hardware config)
  -- The waits that brought the two reports.
  have hmem := (untold_of_tell (b := b) hduties).2
  have hmem' : s' ∈ (st.run b (before ++ [.work] ++ mid)).untold := by
    rw [hlast]
    exact (untold_of_tell (b := b) hduties').2
  rcases (hcurrent before).echoes (List.ne_nil_of_mem hmem) with ⟨early, hearly⟩
  rcases (hcurrent (before ++ [.work] ++ mid)).echoes (List.ne_nil_of_mem hmem') with ⟨late, hlate⟩
  have hs := (hearly.reports s hmem).2
  have hs' := hlate.reports s' hmem'
  have horder : early <+: late := by
    refine hearly.heard.mono hlate.heard ?_
    rw [List.append_assoc]
    exact List.prefix_append _ _
  -- The baseline of the second report, as it comes from the first or from a list.
  have hsighted := run_sighted hshown (start_sighted b scene hardware config)
  have htraced := run_traced hshown hsighted hreader
    (traced_of_told (hcurrent before) hduties hearly) mid fun part move hpart e htelling => by
      rw [run_append] at htelling
      have hhanding := handing_of_told htelling
      by_cases hcard : e.kind = .card
      · exact hquiet part move hpart e (hcard ▸ hhanding)
      · rintro heq
        exact hcard (Snapshot.kind_eq_card_iff.mpr (heq ▸ hreader))
  -- The session has gone by the first report until now.
  have hplain : told.Plain := run_plain (start_plain hardware config) _
  rcases hbound [] (List.nil_prefix) with ⟨first, hfirst, hfirst'⟩
  have hobserved : first.observed.present = true := by
    have hwork : told = (st.run b before).work b := run_concat .work
    rw [work_observed (b := b) (run_plain (start_plain hardware config) before) hduties hkind
      (by rw [← hwork]; exact hfirst) hfirst']
    exact hpresent
  rcases run_present hplain hfirst hobserved mid hquiet hbound with
    ⟨session, hsession, hsession', hseen⟩
  have hhanding : last.handing .work = some (s', .card) := hkind' ▸ handing_of_tell hduties'
  rcases move_seen (b := b) (run_plain hplain mid) hhanding hsession (hname ▸ hsession') with
    ⟨⟨w, hafter⟩, hevents⟩
  refine ⟨early, late, session, _, hearly.heard, hs, hlate.heard, hs'.2, horder, hsession, hafter,
    ?_⟩
  rintro ⟨between, hbetween, hbetween', hswapped⟩ relisted removals
  have hcounts := hcards early between late hbetween hbetween' hlate.heard.prefix s.name hswapped
  have hother : early ≠ late := by
    rintro rfl
    exact hswapped (by rw [antisymm hbetween hbetween'])
  have hbaseline := htraced.baseline_of_later hlate.heard hother hmem' hname
  have hnoticed := noticed_of_swapped hname hpresent hs hs' hbaseline hcounts
  have hrelisted : (s'.present = true ∧ relisted) ↔
      (s'.present && (told.chronicle b mid).any Deed.isListed) = true := by
    rw [Bool.and_eq_true, List.any_eq_true]
  have hcard := Session.notify_connection b (hname ▸ hsession') w
  have hlocked := Session.notify_locked b (hname ▸ hsession') w
  have hremovals := hevents .mediaRemoved
  rw [hseen, Bool.true_and, hnoticed] at hcard hlocked
  rw [Session.sighted, hseen, Bool.true_and, hnoticed] at hremovals
  refine ⟨fun hlisted => ?_, fun hunlisted => ?_⟩
  · rw [hrelisted.mp hlisted] at hcard hlocked hremovals
    exact ⟨hcard, hlocked, hremovals.trans (List.append_nil _)⟩
  · rw [hrelisted, Bool.not_eq_true] at hunlisted
    rw [hunlisted] at hcard hlocked hremovals
    have htells := ((run_plain hplain mid).subscriptions handle session hsession).tells
      (session.eventMessage .serviceEvent .mediaRemoved .none)
    rw [← (Hub.mem_handles_of_session? hsession).2]
    exact ⟨hcard, hlocked, hremovals, htells⟩

end Stage

namespace Simulation

/-- A hall with a card in its reader. -/
def oneCard : Hall := oneReader.happen (.insert "A" [0x3b, 0x8f] (some .t1) 0#32)

/-- The hall after the card was taken out. -/
def emptied : Hall := oneCard.happen (.remove "A")

/-- The hall after another card was put in. -/
def refilled : Hall := emptied.happen (.insert "A" [0x3b, 0x01] (some .t1) 0#32)

/-- The number of the card in a reader. -/
def cardNumber (hall : Hall) (reader : String) : Option Nat :=
  (hall.reader? reader).bind fun r => r.card.map Card.number

/-- A session is opened, and the watcher goes on until it is to tell of the card. -/
def meeting : List (Move Hall) :=
  [.enter 0 (.openSession ⟨1, 1, 1⟩ "L" 0), .watch 0, .watch 0, .watch 0, .watch 0, .work,
   .watch 0, .watch 0]

/-- Told of the card, the session subscribes to events and takes the card, and the
    watcher is in a wait. -/
def keeping : List (Move Hall) :=
  [.work, .enter 0 (.register ⟨1, 1, 2⟩ EventClass.service 1), .enter 0 (.lock ⟨1, 1, 3⟩), .watch 0]

/-- The card is swapped while the watcher waits. -/
def swapping : List (Move Hall) := keeping ++ [.happen emptied, .happen refilled, .watch 0]

/-- The card is swapped while the readers are listed anew, for another session. -/
def relisting : List (Move Hall) :=
  keeping ++ [.enter 0 (.openSession ⟨2, 1, 4⟩ "L" 0), .watch 0, .work, .happen emptied,
    .happen refilled, .watch 0, .watch 0, .watch 0]

/-- The hall in a run in which the card is swapped. -/
abbrev swapAt : Nat → Nat → Nat → Hall := hallAt oneCard emptied refilled

/-- The counter of the reader tells the two cards apart. -/
theorem countsSwaps_of_swapAt {st : Stage Hall Connection Note} {moves : List (Move Hall)}
    {first second : Nat}
    (h : ∀ early, early <+: moves → (st.hardwareAfter backend early).readers =
      (swapAt first second early.length).readers) :
    scene.CountsSwaps cardNumber backend st moves := by
  intro early between late hearly hbetween hlate reader hother hbefore hafter
  have hreaders := h early (hearly.trans (hbetween.trans hlate))
  have hreaders' := h between (hbetween.trans hlate)
  have hreaders'' := h late hlate
  have horder := hearly.length_le
  have horder' := hbetween.length_le
  have hcard : ∀ early, early <+: moves → cardNumber (st.hardwareAfter backend early) reader =
      cardNumber (swapAt first second early.length) reader := fun early hearly => by
    rw [cardNumber, cardNumber, Hall.reader?, Hall.reader?, h early hearly]
  rw [hcard between (hbetween.trans hlate), hcard early (hearly.trans (hbetween.trans hlate))]
    at hother
  by_cases hreader : reader = "A"
  · subst hreader
    have hlist : "A" ≠ Snapshot.listName := by decide
    simp only [Scene.occupied, scene, flags_of_readers hreaders hlist,
      flags_of_readers hreaders'' hlist]
      at hbefore hafter ⊢
    simp only [swapAt, hallAt] at hother hbefore hafter ⊢
    -- The card is there before it is taken out, and the next one after that.
    by_cases hfirst : early.length ≤ first
    · have hmoved : ¬ between.length ≤ first := fun hle =>
        hother (by rw [if_pos hfirst, if_pos hle])
      rw [if_pos hfirst, if_neg (by omega)]
      rw [if_neg (by omega)] at hafter
      by_cases hsecond : late.length ≤ second
      · rw [if_pos hsecond] at hafter
        exact absurd hafter (by decide)
      · rw [if_neg hsecond]
        decide
    · rw [if_neg hfirst] at hbefore
      by_cases hsecond : early.length ≤ second
      · rw [if_pos hsecond] at hbefore
        exact absurd hbefore (by decide)
      · refine absurd ?_ hother
        rw [if_neg (by omega), if_neg (by omega), if_neg (by omega), if_neg (by omega)]
  · -- There is no other reader.
    have hnone : ∀ moment, cardNumber (swapAt first second moment) reader = none := by
      intro moment
      have hfound : ∀ hall : Hall, hall.names = ["A"] → hall.reader? reader = none := by
        intro hall hnames
        refine List.find?_eq_none.mpr fun r hr hmatch => hreader ?_
        have hmem : r.name ∈ hall.names := List.mem_map_of_mem hr
        rw [hnames] at hmem
        exact (beq_iff_eq.mp hmatch).symm.trans (List.mem_singleton.mp hmem)
      rw [cardNumber, hfound]
      · rfl
      · rw [swapAt, hallAt]
        split
        · rfl
        · split <;> rfl
    exact absurd ((hnone _).trans (hnone _).symm) hother

set_option maxRecDepth 4000 in
theorem swapping_halls : ∀ early, early <+: meeting ++ [.work] ++ swapping →
    ((Stage.start oneCard (configuredTo "A")).hardwareAfter backend early).readers =
      (swapAt 13 14 early.length).readers := by
  have hall : ∀ early ∈ (meeting ++ [Move.work] ++ swapping).inits,
      ((Stage.start oneCard (configuredTo "A")).hardwareAfter backend early).readers =
        (swapAt 13 14 early.length).readers := by decide
  exact fun early hearly => hall early ((List.mem_inits _ _).mpr hearly)

set_option maxRecDepth 4000 in
theorem relisting_halls : ∀ early, early <+: meeting ++ [.work] ++ relisting →
    ((Stage.start oneCard (configuredTo "A")).hardwareAfter backend early).readers =
      (swapAt 16 17 early.length).readers := by
  have hall : ∀ early ∈ (meeting ++ [Move.work] ++ relisting).inits,
      ((Stage.start oneCard (configuredTo "A")).hardwareAfter backend early).readers =
        (swapAt 16 17 early.length).readers := by decide
  exact fun early hearly => hall early ((List.mem_inits _ _).mpr hearly)

/-- The report of the first card. -/
def firstSight : Snapshot := ⟨"A", 0#32, 0x10022#32, [0x3b, 0x8f]⟩

/-- The report of the second card, while the first is still known. -/
def secondSight : Snapshot := ⟨"A", 0x10022#32, 0x30022#32, [0x3b, 0x01]⟩

/-- The report of the second card, when nothing is known. -/
def freshSight : Snapshot := ⟨"A", 0#32, 0x30022#32, [0x3b, 0x01]⟩

/-- A stage in the hall with a card. -/
abbrev cardStage : Stage Hall Connection Note := Stage.start oneCard (configuredTo "A")

set_option maxRecDepth 4000 in
theorem meeting_tells : ∃ duties, (cardStage.run backend meeting).duties =
    .tell (.change firstSight) :: duties := ⟨_, rfl⟩

set_option maxRecDepth 4000 in
theorem swapping_tells :
    ∃ duties, ((cardStage.run backend (meeting ++ [.work])).run backend swapping).duties =
      .tell (.change secondSight) :: duties := ⟨_, rfl⟩

set_option maxRecDepth 4000 in
/-- Until then the session is bound to the reader, and is told nothing of it. -/
theorem swapping_quiet :
    let told := cardStage.run backend (meeting ++ [.work])
    (∀ part ∈ swapping.inits, ((told.run backend part).provider.hub.session? 1).any
      (·.binding.isBoundTo "A") = true) ∧
    (∀ part ∈ swapping.dropLast.inits, ∀ move ∈ swapping,
      ((told.run backend part).handing move).all (·.1.name != "A") = true) ∧
    (told.chronicle backend swapping).any Deed.isListed = false := by decide

theorem quiet_of_inits {st : Stage Hall Connection Note} {mid : List (Move Hall)}
    (h : ∀ part ∈ mid.dropLast.inits, ∀ move ∈ mid,
      ((st.run backend part).handing move).all (·.1.name != "A") = true) :
    ∀ part move, part ++ [move] <+: mid → ∀ state,
      (st.run backend part).handing move = some (state, .card) → state.name ≠ "A" := by
  rintro part move ⟨rest, rfl⟩ state hhanding
  have hpart : part <+: (part ++ [move] ++ rest).dropLast := by
    rw [List.append_assoc, List.singleton_append, List.dropLast_append_of_ne_nil
      (List.cons_ne_nil _ _)]
    exact List.prefix_append _ _
  have hother := h part ((List.mem_inits _ _).mpr hpart) move
    (List.mem_append_left _ (List.mem_append_right _ List.mem_cons_self))
  rw [hhanding] at hother
  exact bne_iff_ne.mp hother

/-- The count of the reader at the moment of a report. -/
theorem count_of_report {hall hall' : Hall} {s : Snapshot} (hname : s.name = "A")
    (hs : scene.recorded hall s = s) (hreaders : hall.readers = hall'.readers) :
    (hall'.flags "A").count = s.event.count := by
  have hcount : (scene.recorded hall s).event.count = (scene.flags hall s.name).count :=
    Scene.recorded_count
  rw [hs, hname] at hcount
  rw [← flags_of_readers hreaders (by decide)]
  exact hcount.symm

/-- That a card was removed, as the window is told. -/
def removedNews : Post := ⟨1, Message.event .serviceEvent ⟨1, 0⟩ .mediaRemoved .none⟩

set_option maxRecDepth 4000 in
/-- A swap in a wait is noticed: the session gives up its connection and its
    lock, and posts that the card was removed, to its one window. -/
theorem swap_noticed_swapping :
    let last := (cardStage.run backend (meeting ++ [.work])).run backend swapping
    ∃ session after, last.provider.hub.session? 1 = some session ∧
      (session.card, session.locked) = (some ⟨"A", 1⟩, true) ∧
      (last.work backend).provider.hub.session? 1 = some after ∧
      after.card = none ∧ after.locked = false ∧
      (last.work backend).provider.hub.world.eventsOf 1 .mediaRemoved =
        last.provider.hub.world.eventsOf 1 .mediaRemoved ++ [removedNews] := by
  intro last
  rcases meeting_tells with ⟨duties, hduties⟩
  rcases swapping_tells with ⟨duties', hduties'⟩
  rcases swapping_quiet with ⟨hbound, hquiet, hunlisted⟩
  rcases Stage.swap_noticed_unless_listed backend scene scene_shown cardNumber oneCard
    (configuredTo "A") meeting swapping (countsSwaps_of_swapAt swapping_halls) firstSight
    secondSight duties duties' 1 hduties (by decide) (by decide) hduties' rfl
    (quiet_of_inits hquiet)
    (fun part hpart => (Option.any_eq_true _ _).mp (hbound part ((List.mem_inits _ _).mpr hpart)))
    with ⟨early, late, session, after, hearly, hs, hlate, hs', -, hsession, hafter, hnoticed⟩
  have hwhole : early <+: meeting ++ [.work] ++ swapping := by
    rw [List.append_assoc]
    exact hearly.prefix.trans (List.prefix_append _ _)
  -- The second report is from the time of the second card.
  have hlong : 15 ≤ late.length := by
    have hcount := count_of_report rfl hs' (swapping_halls late hlate.prefix)
    by_contra hshort
    rw [swapAt, hallAt] at hcount
    split at hcount
    · exact absurd hcount (by decide)
    · rw [if_pos (by omega)] at hcount
      exact absurd hcount (by decide)
  have hbetween : (meeting ++ [Move.work] ++ swapping).take 14 <+:
      meeting ++ [.work] ++ swapping := List.take_prefix _ _
  have hshort := hearly.prefix.length_le
  have hlength : ((meeting ++ [Move.work] ++ swapping).take 14).length = 14 := rfl
  have hnow := (hnoticed ⟨(meeting ++ [Move.work] ++ swapping).take 14,
    List.prefix_of_prefix_length_le hwhole hbetween (hlength ▸ hshort.trans (by decide)),
    List.prefix_of_prefix_length_le hbetween hlate.prefix (by rw [hlength]; omega), ?_⟩).2 ?_
  · have hheld : (last.provider.hub.session? 1).map (fun s => (s.card, s.locked)) =
        some (some ⟨"A", 1⟩, true) := by decide
    have hposts : (last.provider.hub.session? 1).map (fun s =>
        s.subscriptions.posts (s.eventMessage .serviceEvent .mediaRemoved .none)) =
          some [removedNews] := by decide
    rw [hsession] at hheld hposts
    rcases hnow with ⟨hcard, hlocked, hremovals, -⟩
    have htold : session.subscriptions.posts
        (session.eventMessage .serviceEvent .mediaRemoved .none) = [removedNews] :=
      Option.some.inj hposts
    rw [htold] at hremovals
    exact ⟨session, after, hsession, Option.some.inj hheld, hafter, hcard, hlocked, hremovals⟩
  · have hempty : cardNumber (cardStage.hardwareAfter backend
        ((meeting ++ [Move.work] ++ swapping).take 14)) "A" = none := by decide
    have hfull : cardNumber (cardStage.hardwareAfter backend early) "A" = some 1 := by
      rw [cardNumber, Hall.reader?, swapping_halls early hwhole, swapAt, hallAt, if_pos]
      · rfl
      · exact hshort.trans (by decide)
    show cardNumber _ "A" ≠ cardNumber _ "A"
    rw [hempty, hfull]
    exact (Option.some_ne_none 1).symm
  · rintro ⟨-, deed, hdeed, hlisted⟩
    exact List.any_eq_false.mp hunlisted deed hdeed hlisted

set_option maxRecDepth 4000 in
theorem relisting_tells :
    ∃ duties, ((cardStage.run backend (meeting ++ [.work])).run backend relisting).duties =
      .tell (.change freshSight) :: duties := ⟨_, rfl⟩

set_option maxRecDepth 4000 in
/-- The readers are listed for another session while the card is swapped. The
    report of the new card is like that of one in an empty reader, and the session
    keeps its connection to the old one, and a lock on it. -/
theorem relisted_card_unnoticed :
    let told := cardStage.run backend (meeting ++ [.work])
    let last := told.run backend relisting
    let next := last.work backend
    scene.Shown backend ∧
      scene.CountsSwaps cardNumber backend cardStage (meeting ++ [.work] ++ relisting) ∧
      (∃ duties, (cardStage.run backend meeting).duties = .tell (.change firstSight) :: duties) ∧
      (∃ duties, last.duties = .tell (.change freshSight) :: duties) ∧
      (firstSight.name, firstSight.present, freshSight.name) = ("A", true, "A") ∧
      (∀ part, part <+: relisting →
        ((told.run backend part).provider.hub.session? 1).any (·.binding.isBoundTo "A") = true) ∧
      (∃ part, part <+: relisting ∧ cardNumber (told.hardwareAfter backend part) "A" = none) ∧
      cardNumber next.provider.hub.world.hardware "A" = some 2 ∧
      (next.provider.hub.session? 1).map (fun s => (s.card, s.locked, s.subscriptions)) =
        some (some ⟨"A", 1⟩, true, [(1, EventClass.service)]) ∧
      next.provider.hub.world.eventsOf 1 .mediaRemoved = [] := by
  intro told last next
  have hbound : ∀ part ∈ relisting.inits,
      ((told.run backend part).provider.hub.session? 1).any (·.binding.isBoundTo "A") = true := by
    decide
  have hempty : cardNumber (told.hardwareAfter backend (relisting.take 8)) "A" = none := by decide
  exact ⟨scene_shown, countsSwaps_of_swapAt relisting_halls, meeting_tells, relisting_tells, rfl,
    fun part hpart => hbound part ((List.mem_inits _ _).mpr hpart),
    ⟨relisting.take 8, List.take_prefix _ _, hempty⟩, by decide, by decide, by decide⟩

end Simulation

end CardHost
