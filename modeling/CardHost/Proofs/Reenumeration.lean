import CardHost.Proofs.EventStreams
import CardHost.Proofs.Swaps
import CardHost.Proofs.Waits

/-!
# Readers That Are Listed Anew

After a resync, a change of the list or an error the readers are listed anew, and
nothing is known of any of them. The next report of a reader has no baseline, so a
card that has been there all along looks as if it had just been put in. Two things
keep this from being taken at its word. Without a baseline there is no telling
that a card was replaced, so no such report ends a connection. And a session goes
by what it saw last and not by the baseline, so a report that shows the same again
has nothing to tell it.

A request goes by nothing. It is ended by every report that a card was inserted
into the reader of its session, and that is the use of listing the readers: who
waits for a card that is there is served at last. But it is served once, and after
that there is nobody left to be told anything. So it does not matter how often the
readers are listed.

## Main definitions

* `Snapshot.Afresh`: A report of a reader of which nothing was known.
* `Stage.Abreast`: A session that was handed the last report of its reader.

## Theorems

* `ofReport_congr`: What is seen does not depend on the mark of a change.
* `indifferent_of_observed`: Who has seen as much has nothing to learn.
* `indifferent_of_notify`: Nobody is told twice.
* `onChange_idem`: A report that is handed on again.
* `Abreast.observed`: What a session goes by that is abreast of its reader.
* `afresh_harmless`: A reader that is reported afresh, after any run.
-/

namespace CardHost

variable {σ κ ε : Type}

/-- The mark of a change is no sign of a reader that is gone. -/
theorem ReaderFlags.unavailable_without_changed (flags : ReaderFlags) :
    Bits.intersects (Bits.without flags changed) (unavailable ||| unknown) =
      Bits.intersects flags (unavailable ||| unknown) :=
  Bits.intersects_without (by decide)

namespace Snapshot

/-- A report of a reader of which nothing was known. -/
structure Afresh (s : Snapshot) : Prop where
  current : s.current = ReaderFlags.unaware
  changed : s.changed = true

variable {s s' : Snapshot}

/-- Where nothing was known, no card was either. -/
theorem Afresh.wasPresent (h : s.Afresh) : s.wasPresent = false := by
  rw [Snapshot.wasPresent, h.current]
  decide

/-- Where nothing was known, no card was replaced. -/
theorem Afresh.replaced (h : s.Afresh) : s.replaced = false := by
  rw [Snapshot.replaced, h.wasPresent, Bool.and_false, Bool.false_and]

/-- Where nothing was known, each card that is there was inserted. -/
theorem Afresh.inserted (h : s.Afresh) : s.inserted = s.present := by
  rw [Snapshot.inserted, h.changed, h.wasPresent, Bool.true_and]
  exact Bool.and_true _

/-- What is seen does not depend on the mark of a change. -/
theorem ofReport_congr
    (h : Bits.without s'.event ReaderFlags.changed = Bits.without s.event ReaderFlags.changed) :
    Observed.ofReport s' = Observed.ofReport s := by
  have hpresent : s'.present = s.present := by
    rw [present, present, ← ReaderFlags.present_without_changed, h,
      ReaderFlags.present_without_changed]
  have hunavailable : s'.unavailable = s.unavailable := by
    rw [unavailable, unavailable, ← ReaderFlags.unavailable_without_changed, h,
      ReaderFlags.unavailable_without_changed]
  rw [Observed.ofReport, Observed.ofReport, hpresent, hunavailable]

end Snapshot

namespace Session

variable {b : Backend σ κ ε} {s : Session κ} {state : Snapshot}

/-- A session that has seen what a report of its reader shows has nothing to learn
    from it. -/
theorem indifferent_of_observed (hbound : s.binding.isBoundTo state.name = true)
    (hobserved : s.observed = Observed.ofReport state) (hreplaced : state.replaced = false) :
    s.Indifferent b state .card := by
  intro w
  have hinformed := informed_of_isBound (Binding.isBound_of_isBoundTo hbound) state
  have hnoted : s.noteAvailability state w = (s, w) := by
    rw [noteAvailability, hobserved]
    exact if_pos rfl
  -- The card that it saw is the one that is there.
  have hgone : (s.observed.present && (!state.present || state.replaced)) = false := by
    rw [hobserved, hreplaced, Bool.or_false]
    exact Bool.and_not_self _
  have hseen : { s.observed with present := state.present } = s.observed := by rw [hobserved]; rfl
  rw [notify_card_eq, hinformed, if_pos hbound, hnoted, notePresence, hgone]
  exact congrArg (fun observed => ({ s with observed }, w)) hseen

/-- A session that was just handed a report has nothing to learn from it. -/
theorem indifferent_of_notify (hreplaced : state.replaced = false) (s : Session κ)
    (w : World σ ε) : (s.notify b state .card w).1.Indifferent b state .card := by
  cases htakes : s.takes state with
  | false =>
      rw [notify_passed htakes]
      exact fun w' => notify_passed htakes
  | true =>
      rw [takes_eq] at htakes
      refine indifferent_of_observed ?_ (notify_observed b htakes w) hreplaced
      rw [(notify_kept b state s w).1]
      exact htakes

end Session

namespace Hub

variable {b : Backend σ κ ε} {hub : Hub σ κ ε} {state : Snapshot}

/-- A report that does not tell of a replaced card does nothing when it is handed on
    again. -/
theorem onChange_idem (b : Backend σ κ ε) (h : hub.pending.Consistent)
    (hreplaced : state.replaced = false) :
    (hub.onChange b state .card).onChange b state .card = hub.onChange b state .card := by
  refine onChange_unminded (fun s hs => ?_) fun r hr => ?_
  · rcases mem_notifySessions b hs with ⟨before, -, w, rfl⟩
    exact Session.indifferent_of_notify hreplaced before w
  · rw [onChange_live b state .card h] at hr
    exact Bool.not_eq_true' _ ▸ (List.mem_filter.mp hr).2

/-- A session that learns nothing from a report is there after it. -/
theorem session?_onChange_indifferent (hascending : hub.handles.Pairwise (· < ·))
    {handle : ServiceHandle} {s : Session κ} (hopen : hub.session? handle = some s)
    (h : s.Indifferent b state .card) : (hub.onChange b state .card).session? handle = some s := by
  rcases informed_seen b hascending hopen state with ⟨w, -, hthere, -⟩
  rw [h w] at hthere
  exact hthere

end Hub

namespace Stage

variable {b : Backend σ κ ε} {st : Stage σ κ ε} {state : Snapshot} {handle : ServiceHandle}
  {moves : List (Move σ)}

/-- A session is abreast of its reader: it was handed the last report of the reader in
    a run, and it has been bound to the reader since. -/
inductive Abreast (b : Backend σ κ ε) (st : Stage σ κ ε) (state : Snapshot)
    (handle : ServiceHandle) (moves : List (Move σ)) : Prop where
  | intro (before : List (Move σ)) (told : Move σ) (after : List (Move σ))
      (hmoves : moves = before ++ [told] ++ after)
      (hhanding : (st.run b before).handing told = some (state, .card))
      (hlast : ∀ part move, part ++ [move] <+: after → ∀ later,
        ((st.run b (before ++ [told])).run b part).handing move = some (later, .card) →
          later.name ≠ state.name)
      (hbound : ∀ part, part <+: after → ∃ session,
        ((st.run b (before ++ [told])).run b part).provider.hub.session? handle = some session ∧
          session.binding.isBoundTo state.name = true)

/-- Such a session goes by that report. -/
theorem Abreast.observed (hplain : st.Plain) (h : Abreast b st state handle moves) :
    ∃ session, (st.run b moves).provider.hub.session? handle = some session ∧
      session.binding.isBoundTo state.name = true ∧
      session.observed = Observed.ofReport state := by
  rcases h with ⟨before, told, after, rfl, hhanding, hlast, hbound⟩
  rcases hbound [] List.nil_prefix with ⟨first, hfirst, hfirst'⟩
  have hobserved : first.observed = Observed.ofReport state := by
    have hnext : st.run b (before ++ [told]) = (st.run b before).move b told := run_concat told
    rw [run, List.foldl_nil, hnext] at hfirst
    exact move_observed (run_plain hplain before) hhanding hfirst hfirst'
  rcases run_observed (run_plain hplain _) hfirst after hlast hbound with
    ⟨session, hsession, hreader, hseen⟩
  rw [run_append]
  exact ⟨session, hsession, hreader, hseen.trans hobserved⟩

/-- A reader that is reported afresh, as after the readers were listed anew, does no
    harm. After any run, let a session be abreast of the reader, whose flags are still
    those of the last report, but for the mark of a change. Then the session stays as it
    is, with its binding, connection, lock, subscriptions and what it saw, and reports
    nothing. All that is posted are the reports of other sessions, and the messages of
    the requests that are ended. If requests come from calls, these are the ones whose
    session is then bound to the reader, provided that it holds a card, and none if it
    does not. To report the reader once more, any number of times, does nothing at
    all. -/
theorem afresh_harmless (b : Backend σ κ ε) (hardware : σ) (config : Config)
    (moves : List (Move σ)) {again : Snapshot} (hafresh : again.Afresh) :
    let st : Stage σ κ ε := start hardware config
    let hub := (st.run b moves).provider.hub
    let hub' := hub.onChange b again .card
    let served := hub.pending.live.filter (·.isServedBy hub'.binding again .card)
    (∃ reports,
      hub'.world.posts = hub.world.posts ++ reports ++
        served.flatMap (fun r => r.toWindow (r.served again.atr)) ∧
      (∀ post ∈ reports, ∃ session ∈ hub.sessions, post.Reports session.handle) ∧
      ∀ state handle, Abreast b st state handle moves → state.name = again.name →
        Bits.without again.event ReaderFlags.changed =
          Bits.without state.event ReaderFlags.changed →
        (∃ session, hub.session? handle = some session ∧ hub'.session? handle = some session) ∧
          ∀ post ∈ reports, post.message.service ≠ handle) ∧
    (∀ r ∈ hub.pending.live, r ∉ hub'.pending.live ↔ r ∈ served) ∧
    ((∀ request, .addRequest request ∉ moves) → ∀ r ∈ hub.pending.live, r ∈ served ↔
      again.present = true ∧ ∃ session ∈ hub'.sessions,
        session.handle = r.key.service ∧ session.binding.isBoundTo again.name = true) ∧
    ∀ n, (Hub.onChange b again .card)^[n + 1] hub = hub' := by
  intro st hub hub' served
  have hplain : (st.run b moves).Plain := run_plain (start_plain hardware config) moves
  have hconsistent : hub.pending.Consistent :=
    (run_timely (b := b) (start_timely hardware config) moves).1.consistent
  refine ⟨?_, fun r hr => ?_, fun hentry r hr => ?_, fun n => ?_⟩
  · rcases Hub.onChange_posts b again .card hconsistent with ⟨reports, hposts, hreports⟩
    refine ⟨reports, hposts, fun post hpost => ?_, fun state handle habreast hname hflags => ?_⟩
    · rcases hreports post hpost with ⟨session, hsession, hreport, -⟩
      exact ⟨session, hsession, hreport⟩
    · rcases habreast.observed (start_plain hardware config) with
        ⟨session, hsession, hbound, hobserved⟩
      have hindifferent : session.Indifferent b again .card :=
        Session.indifferent_of_observed (hname ▸ hbound)
          (hobserved.trans (Snapshot.ofReport_congr hflags).symm) hafresh.replaced
      refine ⟨⟨session, hsession,
        Hub.session?_onChange_indifferent hplain.ascending hsession hindifferent⟩, ?_⟩
      -- Whoever reports has learned something, so it is somebody else.
      rintro post hpost rfl
      rcases hreports post hpost with ⟨other, hother, hreport, hlearns⟩
      rcases Hub.mem_handles_of_session? hsession with ⟨hmem, hhandle⟩
      have hsame := Hub.eq_of_handle_eq hplain.ascending hother hmem
        (hreport.2.symm.trans hhandle.symm)
      exact hlearns (hsame ▸ hindifferent)
  · rw [Hub.onChange_live b again .card hconsistent, List.mem_filter, List.mem_filter]
    simp only [hr, true_and, Bool.not_eq_true', Bool.not_eq_false]
    rfl
  · have hsound : hub.Sound := run_sound (b := b) (Hub.sound_start _) hentry
    have hserved : r ∈ served ↔ hub'.awaits again .card r = true := by
      rw [List.mem_filter, and_iff_right hr]
      exact Bool.eq_iff_iff.mp (Hub.isServedBy_eq_awaits b again .card hsound hr)
    rw [hserved, Hub.awaits, hafresh.inserted, beq_self_eq_true, Bool.true_and, Bool.and_eq_true,
      List.any_eq_true]
    simp only [Bool.and_eq_true, beq_iff_eq]
  · rw [Function.iterate_succ_apply]
    exact Function.iterate_fixed (Hub.onChange_idem b hconsistent hafresh.replaced) n

end Stage

namespace Simulation

/-- The readers are listed anew for another session, while the card stays in. -/
def revisiting : List (Move Hall) :=
  keeping ++ [.enter 0 (.openSession ⟨2, 1, 4⟩ "L" 0), .watch 0, .work, .watch 0, .watch 0,
    .watch 0]

set_option maxRecDepth 4000 in
/-- Until then the first session is bound to the reader, and is told nothing of it. -/
theorem revisiting_quiet :
    let told := cardStage.run backend (meeting ++ [.work])
    (∀ part ∈ revisiting.inits, ((told.run backend part).provider.hub.session? 1).any
      (·.binding.isBoundTo "A") = true) ∧
    ∀ part ∈ revisiting.dropLast.inits, ∀ move ∈ revisiting,
      ((told.run backend part).handing move).all (·.1.name != "A") = true := by decide

set_option maxRecDepth 4000 in
/-- The watcher is to tell of the card as if it had just been put in. The session that
    holds it keeps its connection and its lock, however often it is told. -/
theorem afresh_harmless_revisiting :
    let stage := cardStage.run backend (meeting ++ [.work] ++ revisiting)
    let hub := stage.provider.hub
    let hub' := hub.onChange backend firstSight .card
    (∃ duties, stage.duties = .tell (.change firstSight) :: duties) ∧ firstSight.Afresh ∧
      firstSight.inserted = true ∧
      (∃ session, hub'.session? 1 = some session ∧ session.card = some ⟨"A", 1⟩ ∧
        session.locked = true) ∧
      ∀ n, (Hub.onChange backend firstSight .card)^[n + 1] hub = hub' := by
  intro stage hub hub'
  have hafresh : firstSight.Afresh := ⟨rfl, by decide⟩
  rcases Stage.afresh_harmless backend oneCard (configuredTo "A")
    (meeting ++ [.work] ++ revisiting) hafresh with ⟨⟨reports, -, -, hkept⟩, -, -, hagain⟩
  rcases meeting_tells with ⟨duties, hduties⟩
  rcases revisiting_quiet with ⟨hbound, hquiet⟩
  have habreast : Stage.Abreast backend cardStage firstSight 1
      (meeting ++ [.work] ++ revisiting) :=
    .intro meeting .work revisiting rfl (Stage.handing_of_tell hduties) (quiet_of_inits hquiet)
      fun part hpart => (Option.any_eq_true _ _).mp (hbound part ((List.mem_inits _ _).mpr hpart))
  rcases (hkept firstSight 1 habreast rfl rfl).1 with ⟨session, hsession, hsession'⟩
  have hheld : (hub.session? 1).map (fun s => (s.card, s.locked)) =
      some (some ⟨"A", 1⟩, true) := by decide
  rw [hsession] at hheld
  rcases Prod.mk.inj (Option.some.inj hheld) with ⟨hcard, hlocked⟩
  exact ⟨⟨_, rfl⟩, hafresh, by decide, ⟨session, hsession', hcard, hlocked⟩, hagain⟩

end Simulation

end CardHost
