import CardHost.Proofs.Absences
import CardHost.Proofs.Handovers

/-!
# Readers That Are Detached

A session that was told of its reader goes by that until it is told otherwise.
When the reader is detached, everything depends on whether a report of it is
heard again. If one is, the session is told that its reader is gone, says so
once, and goes by it. If none is, because the entries that the reader was among
were given up before a wait on them returned, then the session goes on as if the
reader were there, however long the watcher has been in a wait with nothing to
report.

## Main definitions

* `Session.departed`: What a session says of a reader that is gone.
* `Stage.DepartureHeard`: A report of the absent reader was heard.
* `Stage.Misled`, `Stage.Warned`: What a session knows of its reader.
* `Stage.Abides`: A session that stays bound to it.

## Theorems

* `move_told`: A session that is told of its reader.
* `move_misled`, `warned_of_heard`, `move_warned`: What a session learns in a move.
* `run_outlook`: What it learns in a run.
* `departure_noted_if_heard`: A departure is noted once, if it was heard.
* `Simulation.departure_unheard`: A departure that nobody is told of.
-/

namespace CardHost

variable {σ κ ε : Type}

/-- The events by which a session says that a reader is gone. -/
def Session.departed (reader : String) (s : Session κ) : List Post :=
  s.subscriptions.posts
    (s.eventMessage .systemEvent .deviceStatus (.deviceStatus reader .noDevice))

namespace Stage

variable {b : Backend σ κ ε} {scene : Scene σ} {st gone : Stage σ κ ε} {since : List (Move σ)}
  {move : Move σ} {reader : String} {handle : ServiceHandle}

/-- A session that is told of its reader goes by that, and posts what it sees. -/
theorem move_told (h : st.Plain) {s : Session κ} {state : Snapshot}
    (hopen : st.provider.hub.session? handle = some s)
    (hbound : s.binding.isBoundTo state.name = true) (hkind : state.kind = .card)
    (hdoing : st.doing b move = some (.told state)) :
    ∃ s', (st.move b move).provider.hub.session? handle = some s' ∧
      s'.observed.available = !state.unavailable ∧
      (st.move b move).provider.hub.world.eventsOf handle .deviceStatus =
        st.provider.hub.world.eventsOf handle .deviceStatus ++ s.sighted state .deviceStatus := by
  have hhanding := handing_of_told hdoing
  rw [hkind] at hhanding
  rcases move_seen (b := b) h hhanding hopen hbound with ⟨⟨w, hthere⟩, hevents⟩
  refine ⟨_, hthere, ?_, hevents .deviceStatus⟩
  have hinformed := Session.informed_of_isBound (Binding.isBound_of_isBoundTo hbound) state
  rw [Session.notify_observed b (by rw [hinformed]; exact hbound) w]
  rfl

/-- A wait returned with reports on a reader that is gone, or a report of before
    is still to be told. -/
def DepartureHeard (b : Backend σ κ ε) (gone : Stage σ κ ε) (reader : String)
    (since : List (Move σ)) : Prop :=
  (∃ s ∈ gone.untold, s.name = reader ∧ s.unavailable = true) ∨
    ∃ deed ∈ gone.chronicle b since, deed.hears reader = true

/-- A session goes on as if its reader were there, and is not to be told anything
    else. -/
structure Misled (b : Backend σ κ ε) (gone : Stage σ κ ε) (handle : ServiceHandle)
    (reader : String) (since : List (Move σ)) : Prop where
  session : ∃ s, (gone.run b since).provider.hub.session? handle = some s ∧
    s.observed.available = true
  events : (gone.run b since).provider.hub.world.eventsOf handle .deviceStatus =
    gone.provider.hub.world.eventsOf handle .deviceStatus
  untold : ∀ s ∈ (gone.run b since).untold, s.name = reader → s.unavailable = false

/-- A session is to be told that its reader is gone, or has been, and said so
    once. -/
structure Warned (b : Backend σ κ ε) (gone : Stage σ κ ε) (handle : ServiceHandle)
    (reader : String) (since : List (Move σ)) : Prop where
  session : ∃ s, (gone.run b since).provider.hub.session? handle = some s ∧
    ((s.observed.available = true ∧
        (gone.run b since).provider.hub.world.eventsOf handle .deviceStatus =
          gone.provider.hub.world.eventsOf handle .deviceStatus ∧
        ∃ state ∈ (gone.run b since).untold, state.name = reader) ∨
      (s.observed.available = false ∧ ∃ early teller, early <+: since ∧
        (gone.run b early).provider.hub.session? handle = some teller ∧
        (gone.run b since).provider.hub.world.eventsOf handle .deviceStatus =
          gone.provider.hub.world.eventsOf handle .deviceStatus ++ teller.departed reader))
  untold : ∀ s ∈ (gone.run b since).untold, s.name = reader → s.unavailable = true

/-- A session that is bound to a reader at both ends of a move, which is no report
    of the reader by someone else. -/
structure Abides (b : Backend σ κ ε) (gone : Stage σ κ ε) (handle : ServiceHandle)
    (reader : String) (since : List (Move σ)) (move : Move σ) : Prop where
  plain : (gone.run b since).Plain
  before : ∃ s, (gone.run b since).provider.hub.session? handle = some s ∧
    s.binding.isBoundTo reader = true
  after : ∃ s, (gone.run b (since ++ [move])).provider.hub.session? handle = some s
  unmeddled : ∀ state kind, move = .change state kind → state.name ≠ reader

/-- It sees nothing unless it is told. -/
theorem Abides.unseen (h : Abides b gone handle reader since move) {s : Session κ}
    (hopen : (gone.run b since).provider.hub.session? handle = some s)
    (hquiet : ∀ state, (gone.run b since).doing b move = some (.told state) →
      state.name ≠ reader) :
    ∃ s', (gone.run b (since ++ [move])).provider.hub.session? handle = some s' ∧
      s'.observed = s.observed ∧
      (gone.run b (since ++ [move])).provider.hub.world.eventsOf handle .deviceStatus =
        (gone.run b since).provider.hub.world.eventsOf handle .deviceStatus := by
  rcases h.before with ⟨_, hs, hbound⟩
  cases hopen.symm.trans hs
  rcases h.after with ⟨s', hs'⟩
  rw [run_concat] at hs' ⊢
  have hunseen := move_unseen (b := b) h.plain hopen hs' hbound fun state hhanding =>
    (doing_of_handing (b := b) hhanding).elim (hquiet state) (h.unmeddled state .card)
  exact ⟨s', hs', hunseen.1, hunseen.2 .deviceStatus rfl⟩

theorem Abides.told (h : Abides b gone handle reader since move) {s : Session κ}
    (hopen : (gone.run b since).provider.hub.session? handle = some s)
    (hreader : reader ≠ Snapshot.listName) {state : Snapshot} (hname : state.name = reader)
    (hdoing : (gone.run b since).doing b move = some (.told state)) :
    ∃ s', (gone.run b (since ++ [move])).provider.hub.session? handle = some s' ∧
      s'.observed.available = !state.unavailable ∧
      (gone.run b (since ++ [move])).provider.hub.world.eventsOf handle .deviceStatus =
        (gone.run b since).provider.hub.world.eventsOf handle .deviceStatus ++
          s.sighted state .deviceStatus := by
  rcases h.before with ⟨_, hs, hbound⟩
  cases hopen.symm.trans hs
  have hkind : state.kind = .card := Snapshot.kind_eq_card_iff.mpr (hname ▸ hreader)
  rw [run_concat]
  exact move_told h.plain hopen (hname ▸ hbound) hkind hdoing

/-- A session that is misled stays so if nothing is heard. -/
theorem move_misled (habides : Abides b gone handle reader since move)
    (hreader : reader ≠ Snapshot.listName)
    (hglance : Glance reader (gone.run b since) (gone.run b (since ++ [move]))
      ((gone.run b since).doing b move))
    (hunheard : ((gone.run b since).doing b move).any (Deed.hears reader) = false)
    (h : Misled b gone handle reader since) : Misled b gone handle reader (since ++ [move]) := by
  rcases h.session with ⟨s, hopen, havailable⟩
  generalize hdeed : (gone.run b since).doing b move = deed? at hglance
  cases hglance with
  | kept _ _ hquiet hsame =>
      rcases habides.unseen hopen (hdeed ▸ hquiet) with ⟨s', hopen', hobserved, hevents⟩
      exact ⟨⟨s', hopen', hobserved ▸ havailable⟩, hevents.trans h.events,
        fun state hstate hname => h.untold state ((hsame state hname).mp hstate) hname⟩
  | told state hname hmem hless =>
      -- The report finds the reader available, as before.
      have hthere := h.untold state hmem hname
      rcases habides.told hopen hreader hname hdeed with ⟨s', hopen', havailable', hevents⟩
      rw [hthere] at havailable'
      rw [Session.sighted, hthere, havailable, if_pos Bool.not_false, List.append_nil] at hevents
      exact ⟨⟨s', hopen', havailable'⟩, hevents.trans h.events,
        fun state' hstate' => h.untold state' (hless state' hstate')⟩
  | heard deed hhears =>
      rw [hdeed] at hunheard
      cases hhears.symm.trans hunheard

/-- It is to be told once something is. -/
theorem warned_of_heard (habides : Abides b gone handle reader since move)
    (hglance : Glance reader (gone.run b since) (gone.run b (since ++ [move]))
      ((gone.run b since).doing b move))
    (hheard : ((gone.run b since).doing b move).any (Deed.hears reader) = true)
    (h : Misled b gone handle reader since) : Warned b gone handle reader (since ++ [move]) := by
  rcases h.session with ⟨s, hopen, havailable⟩
  generalize hdeed : (gone.run b since).doing b move = deed? at hglance
  rw [hdeed] at hheard
  cases hglance with
  | kept _ hunheard => cases hheard.symm.trans hunheard
  | told => cases hheard
  | heard deed hhears _ hsome hgone =>
      have hquiet : ∀ state, (gone.run b since).doing b move = some (.told state) →
          state.name ≠ reader := fun state hdoing =>
        absurd (Option.some.inj (hdeed.symm.trans hdoing)) (Deed.ne_told_of_hears hhears state)
      rcases habides.unseen hopen hquiet with ⟨s', hopen', hobserved, hevents⟩
      exact ⟨⟨s', hopen', .inl ⟨hobserved ▸ havailable, hevents.trans h.events, hsome⟩⟩, hgone⟩

/-- A session that was warned is told, and then knows. -/
theorem move_warned (habides : Abides b gone handle reader since move)
    (hreader : reader ≠ Snapshot.listName)
    (hglance : Glance reader (gone.run b since) (gone.run b (since ++ [move]))
      ((gone.run b since).doing b move))
    (h : Warned b gone handle reader since) : Warned b gone handle reader (since ++ [move]) := by
  have hpart : since <+: since ++ [move] := List.prefix_append _ _
  rcases h.session with ⟨s, hopen, hstate⟩
  generalize hdeed : (gone.run b since).doing b move = deed? at hglance
  cases hglance with
  | kept _ _ hquiet hsame =>
      rcases habides.unseen hopen (hdeed ▸ hquiet) with ⟨s', hopen', hobserved, hevents⟩
      refine ⟨⟨s', hopen', ?_⟩,
        fun state hstate' hname => h.untold state ((hsame state hname).mp hstate') hname⟩
      rw [hobserved, hevents]
      refine hstate.imp (fun ⟨havailable, hpast, state, hmem, hname⟩ => ?_)
        fun ⟨havailable, early, teller, hearly, hteller⟩ => ?_
      · exact ⟨havailable, hpast, state, (hsame state hname).mpr hmem, hname⟩
      · exact ⟨havailable, early, teller, hearly.trans hpart, hteller⟩
  | told state hname hmem hless =>
      have hgone := h.untold state hmem hname
      rcases habides.told hopen hreader hname hdeed with ⟨s', hopen', havailable', hevents⟩
      rw [hgone] at havailable'
      rw [Session.sighted, hgone] at hevents
      refine ⟨⟨s', hopen', .inr ⟨havailable', ?_⟩⟩, fun state' hstate' =>
        h.untold state' (hless state' hstate')⟩
      rcases hstate with
        ⟨havailable, hpast, -⟩ | ⟨havailable, early, teller, hearly, hteller, hpast⟩
      · -- This is when the session says so.
        rw [havailable, if_neg (by decide), hpast, hname] at hevents
        exact ⟨since, s, hpart, hopen, hevents⟩
      · rw [havailable, if_pos Bool.not_true, List.append_nil] at hevents
        exact ⟨early, teller, hearly.trans hpart, hteller, hevents.trans hpast⟩
  | heard deed hhears hdone hsome hgone =>
      have hquiet : ∀ state, (gone.run b since).doing b move = some (.told state) →
          state.name ≠ reader := fun state hdoing =>
        absurd (Option.some.inj (hdeed.symm.trans hdoing)) (Deed.ne_told_of_hears hhears state)
      rcases habides.unseen hopen hquiet with ⟨s', hopen', hobserved, hevents⟩
      refine ⟨⟨s', hopen', ?_⟩, hgone⟩
      rw [hobserved, hevents]
      rcases hstate with ⟨-, -, state, hmem, -⟩ | ⟨havailable, early, teller, hearly, hteller⟩
      · rw [hdone] at hmem
        cases hmem
      · exact .inr ⟨havailable, early, teller, hearly.trans hpart, hteller⟩

/-- What is heard in a longer run. -/
theorem departureHeard_concat : DepartureHeard b gone reader (since ++ [move]) ↔
    DepartureHeard b gone reader since ∨
      ((gone.run b since).doing b move).any (Deed.hears reader) = true := by
  rw [DepartureHeard, DepartureHeard, ← List.any_eq_true, ← List.any_eq_true,
    any_chronicle_concat rfl fun _ => ⟨rfl, rfl⟩, Bool.or_eq_true, or_assoc]

/-- While a reader is absent, a session that was told that it is available, and is
    bound to it all the time, is misled if and only if nothing is heard of it. -/
theorem run_outlook (habides : ∀ part move, part ++ [move] <+: since →
      Abides b gone handle reader part move)
    (hreader : reader ≠ Snapshot.listName)
    (hglance : ∀ part move, part ++ [move] <+: since →
      Glance reader (gone.run b part) (gone.run b (part ++ [move]))
        ((gone.run b part).doing b move))
    (hagree : ∀ s ∈ gone.untold, ∀ s' ∈ gone.untold, s'.name = s.name →
      s'.unavailable = s.unavailable)
    {s : Session κ} (hopen : gone.provider.hub.session? handle = some s)
    (havailable : s.observed.available = true) :
    (DepartureHeard b gone reader since → Warned b gone handle reader since) ∧
      (¬ DepartureHeard b gone reader since → Misled b gone handle reader since) := by
  induction since using List.reverseRecOn with
  | nil =>
      constructor
      · rintro (⟨state, hmem, hname, hgone⟩ | ⟨deed, hdeed, -⟩)
        · exact ⟨⟨s, hopen, .inl ⟨havailable, rfl, state, hmem, hname⟩⟩, fun state' hmem' hname' =>
            (hagree state hmem state' hmem' (hname'.trans hname.symm)).trans hgone⟩
        · cases hdeed
      · intro hunheard
        exact ⟨⟨s, hopen, havailable⟩, rfl, fun state hmem hname => eq_false_of_ne_true fun hgone =>
          hunheard (.inl ⟨state, hmem, hname, hgone⟩)⟩
  | append_singleton since move ih =>
      have hpart : since <+: since ++ [move] := List.prefix_append _ _
      have hnow := habides since move (List.prefix_refl _)
      have hmove := hglance since move (List.prefix_refl _)
      rcases ih (fun part move' hpart' => habides part move' (hpart'.trans hpart))
        fun part move' hpart' => hglance part move' (hpart'.trans hpart) with ⟨hwarned, hmisled⟩
      rw [departureHeard_concat]
      by_cases hheard : DepartureHeard b gone reader since
      · exact ⟨fun _ => move_warned hnow hreader hmove (hwarned hheard),
          fun hunheard => absurd (.inl hheard) hunheard⟩
      · cases hdoing : ((gone.run b since).doing b move).any (Deed.hears reader) with
        | true =>
            exact ⟨fun _ => warned_of_heard hnow hmove hdoing (hmisled hheard),
              fun hunheard => absurd (.inr rfl) hunheard⟩
        | false =>
            exact ⟨fun h => absurd h (by rintro (h | h); exacts [hheard h, nomatch h]),
              fun _ => move_misled hnow hreader hmove hdoing (hmisled hheard)⟩

/-- The departure of a reader is noted once, if it was heard. Take a session that
    is bound to a reader and was told that it is available, and let the reader be
    absent from some moment on, while the session stays bound to it. Once the
    watcher is in a wait again, there are two cases. If a wait returned with reports
    on the reader since then, or a report of before that it is gone was still to be
    told, then the session has posted, once to every window whose mask has the class
    of the event and to no other, that there is no such device, and that is its
    status. If neither was so, then it has posted
    nothing, and goes on as before. And neither was, if nothing was to be told and
    the reader was not among the entries that the watcher carried along. -/
theorem departure_noted_if_heard (b : Backend σ κ ε) (scene : Scene σ) (hshown : scene.Shown b)
    (hardware : σ) (config : Config) (before since : List (Move σ)) (handle : ServiceHandle)
    (reader : String) (hreader : reader ≠ Snapshot.listName)
    (hcounts : scene.Counts b (start hardware config) (before ++ since))
    (hreveals : ∀ part, part <+: before ++ since →
      scene.Reveals reader ((start hardware config : Stage σ κ ε).hardwareAfter b part)) :
    let gone := (start hardware config : Stage σ κ ε).run b before
    let last := gone.run b since
    let statuses (st : Stage σ κ ε) := st.provider.hub.world.eventsOf handle .deviceStatus
    ∀ session : Session κ, gone.provider.hub.session? handle = some session →
      session.observed.available = true →
      (∀ part, part <+: since → reader ∉ scene.names (gone.hardwareAfter b part) ∧
        ∃ session, (gone.run b part).provider.hub.session? handle = some session ∧
          session.binding.isBoundTo reader = true) →
      (∀ state kind, .change state kind ∈ since → state.name ≠ reader) →
      (∃ timeout ends set, last.provider.watcher.phase = .waiting timeout ends set) →
        (gone.Unlisted reader → (∀ s ∈ gone.untold, s.name = reader → s.unavailable = false) →
          ¬ DepartureHeard b gone reader since) ∧
        ∃ after, last.provider.hub.session? handle = some after ∧
          (DepartureHeard b gone reader since →
            (∃ part teller, part <+: since ∧
              (gone.run b part).provider.hub.session? handle = some teller ∧
              statuses last = statuses gone ++ teller.departed reader ∧
              teller.subscriptions.Tells
                ⟨.systemEvent, handle, 0, .success, 4, .deviceStatus reader .noDevice⟩
                (teller.departed reader) ∧
              (teller.subscriptions.recipients EventClass.system).Nodup) ∧
            ∀ w, after.status b w = (.ok (IdcStatus.withoutCard .noDevice), after, w)) ∧
          (¬ DepartureHeard b gone reader since →
            statuses last = statuses gone ∧ after.observed.available = true) := by
  intro gone last statuses session hopen havailable habsent hmeddled hwaiting
  let st : Stage σ κ ε := start hardware config
  have hrun : ∀ part, st.run b (before ++ part) = gone.run b part := fun part => run_append _ _
  have hplain : ∀ part, (gone.run b part).Plain := fun part =>
    run_plain (run_plain (start_plain hardware config) before) part
  have hsighted : ∀ moves, Sighted b scene st moves :=
    run_sighted hshown (start_sighted b scene hardware config)
  have habides : ∀ part move, part ++ [move] <+: since →
      Abides b gone handle reader part move := by
    intro part move hpart
    have hshorter : part <+: since := (List.prefix_append _ _).trans hpart
    rcases (habsent (part ++ [move]) hpart).2 with ⟨after, hafter, -⟩
    refine ⟨hplain part, (habsent part hshorter).2, ⟨after, hafter⟩, ?_⟩
    rintro state kind rfl
    exact hmeddled state kind (hpart.subset (List.mem_append_right _ List.mem_cons_self))
  have hglance : ∀ part move, part ++ [move] <+: since →
      Glance reader (gone.run b part) (gone.run b (part ++ [move]))
        ((gone.run b part).doing b move) := fun part move hpart =>
    run_glance hshown hsighted hreader (fun _ h => nomatch h) hcounts hreveals
      (fun part hpart => (habsent part hpart).1) hpart
  have hcurrent := run_current hshown (start_current b scene hardware config) before
  rcases run_outlook habides hreader hglance
    (fun s hs s' hs' hname => hcurrent.unavailable_eq hs hs' hname) hopen havailable with
    ⟨hwarned, hmisled⟩
  -- In a wait, nothing is left to be told.
  have hdone : last.untold = [] := by
    rcases hwaiting with ⟨timeout, ends, set, hphase⟩
    have horderly := (hsighted (before ++ since)).orderly
    rw [hrun] at horderly
    exact untold_of_chores (horderly.of_waiting hphase).1
  have hunlisted : gone.Unlisted reader → (∀ s ∈ gone.untold, s.name = reader →
      s.unavailable = false) → ¬ DepartureHeard b gone reader since := by
    rintro hunlisted huntold (⟨s, hs, hname, hgone⟩ | ⟨deed, hdeed, hhears⟩)
    · cases (huntold s hs hname).symm.trans hgone
    · have hunheard := (run_unlisted hshown
        (fun part => hrun part ▸ (hsighted (before ++ part)).orderly)
        (fun part hpart => (habsent part hpart).1) hunlisted).2
      exact List.any_eq_false.mp hunheard deed hdeed hhears
  refine ⟨hunlisted, ?_⟩
  by_cases hheard : DepartureHeard b gone reader since
  · rcases (hwarned hheard).session with ⟨after, hafter, hstate⟩
    refine ⟨after, hafter, fun _ => ?_, fun hunheard => absurd hheard hunheard⟩
    rcases hstate with
      ⟨-, -, state, hmem, -⟩ | ⟨hunavailable, part, teller, hpart, hteller, hevents⟩
    · have hleft : state ∈ last.untold := hmem
      rw [hdone] at hleft
      cases hleft
    · have hascending := (hplain part).subscriptions handle teller hteller
      have htells : teller.subscriptions.Tells
          ⟨.systemEvent, teller.handle, 0, .success, 4, .deviceStatus reader .noDevice⟩
          (teller.departed reader) := hascending.tells _
      rw [(Hub.mem_handles_of_session? hteller).2] at htells
      refine ⟨⟨part, teller, hpart, hteller, hevents, htells, hascending.nodup_recipients _⟩,
        fun w => ?_⟩
      rw [Session.status, hunavailable]
      rfl
  · rcases (hmisled hheard).session with ⟨after, hafter, havailable'⟩
    exact ⟨after, hafter, fun h => absurd h hheard, fun _ => ⟨(hmisled hheard).events, havailable'⟩⟩

end Stage

namespace Simulation

/-- The hall after its only reader was detached. -/
def noReader : Hall := oneReader.happen (.removeReader "A" false)

/-- The hall after another reader was attached. -/
def nextReader : Hall := oneReader.happen (.addReader "B" false)

/-- The hall after the first reader was detached as well. -/
def otherReader : Hall := nextReader.happen (.removeReader "A" false)

/-- A session is opened and subscribed, it is told of its reader, and the watcher
    is in a wait. -/
def attending : List (Move Hall) :=
  [.enter 0 (.openSession ⟨1, 1, 1⟩ "L" 0), .enter 0 (.register ⟨1, 1, 2⟩ EventClass.system 1),
   .watch 0, .watch 0, .watch 0, .watch 0, .work, .watch 0, .watch 0, .work, .work, .watch 0]

/-- The reader is detached in the wait. -/
def departing : List (Move Hall) := attending ++ [.happen noReader]

/-- The wait returns, the session is told, and the watcher goes on until it is in
    another wait. -/
def noticing : List (Move Hall) := [.watch 0, .work, .work, .work, .watch 0, .watch 0]

/-- The wait returns when another reader is attached, and the session's reader is
    detached before the readers are listed. -/
def slipping : List (Move Hall) :=
  attending ++ [.happen nextReader, .watch 0, .work, .work, .happen otherReader]

/-- The watcher goes on until it is in a wait with nothing to report. -/
def overlooking : List (Move Hall) :=
  [.watch 0, .watch 0, .watch 0, .work, .work, .work, .watch 0, .watch 0, .watch 0, .work, .work,
   .watch 0]

/-- A stage in the hall with one reader. -/
abbrev readerStage : Stage Hall Connection Note := Stage.start oneReader (configuredTo "A")

/-- Once the readers are others, the counter is larger than it was before. -/
theorem count_lt_of_hallAt {hall hall' hall'' : Hall} {first second early between late : Nat}
    (hfirst : hall.count.toNat < hall'.count.toNat)
    (hsecond : hall'.count.toNat ≤ hall''.count.toNat)
    (hsame : hall'.count.toNat = hall''.count.toNat → hall'.names = hall''.names)
    (horder : early ≤ between) (horder' : between ≤ late)
    (hother : (hallAt hall hall' hall'' first second between).names ≠
      (hallAt hall hall' hall'' first second late).names) :
    (hallAt hall hall' hall'' first second early).count.toNat <
      (hallAt hall hall' hall'' first second late).count.toNat := by
  simp only [hallAt] at hother ⊢
  -- The run has three stretches, and nobody comes or goes within one.
  by_cases hlate : late ≤ first
  · rw [if_pos (horder'.trans hlate), if_pos hlate] at hother
    exact absurd rfl hother
  · rw [if_neg hlate] at hother ⊢
    by_cases hbetween : between ≤ first
    · rw [if_pos (horder.trans hbetween)]
      split
      · exact hfirst
      · exact hfirst.trans_le hsecond
    · rw [if_neg hbetween] at hother
      by_cases hlate' : late ≤ second
      · rw [if_pos (horder'.trans hlate'), if_pos hlate'] at hother
        exact absurd rfl hother
      · rw [if_neg hlate'] at hother ⊢
        by_cases hbetween' : between ≤ second
        · rw [if_pos hbetween'] at hother
          have hless := lt_of_le_of_ne hsecond fun heq => hother (hsame heq)
          rw [if_pos (horder.trans hbetween')]
          split
          · exact hfirst.trans hless
          · exact hless
        · rw [if_neg hbetween'] at hother
          exact absurd rfl hother

/-- So the counter tells whether anyone came or went. -/
theorem counts_of_hallAt {st : Stage Hall Connection Note} {moves : List (Move Hall)}
    {hall hall' hall'' : Hall} {first second : Nat}
    (h : ∀ early, early <+: moves →
      (st.hardwareAfter backend early).names =
          (hallAt hall hall' hall'' first second early.length).names ∧
        (st.hardwareAfter backend early).count =
          (hallAt hall hall' hall'' first second early.length).count)
    (hfirst : hall.count.toNat < hall'.count.toNat)
    (hsecond : hall'.count.toNat ≤ hall''.count.toNat)
    (hsame : hall'.count.toNat = hall''.count.toNat → hall'.names = hall''.names) :
    scene.Counts backend st moves := by
  intro early between late hearly hbetween hlate hother
  rcases h early (hearly.trans (hbetween.trans hlate)) with ⟨-, hcount⟩
  rcases h between (hbetween.trans hlate) with ⟨hnames, -⟩
  rcases h late hlate with ⟨hnames', hcount'⟩
  have hless := count_lt_of_hallAt hfirst hsecond hsame hearly.length_le hbetween.length_le
    (fun heq => hother (hnames.trans (heq.trans hnames'.symm)))
  rw [← hcount, ← hcount'] at hless
  have hshown : ∀ hall : Hall, (scene.flags hall Snapshot.listName).count = hall.count := by
    intro hall
    have hflags : scene.flags hall Snapshot.listName = ReaderFlags.ofCount hall.count := by
      simp only [scene, Hall.flags, if_pos]
    rw [hflags]
    exact BitVec.extractLsb'_append_eq_left
  refine ⟨fun hunaware => ?_, fun hseen => ?_⟩
  · have hzero := hshown (st.hardwareAfter backend late)
    rw [hunaware] at hzero
    rw [← hzero] at hless
    exact absurd hless (Nat.not_lt_zero _)
  · rw [← hshown (st.hardwareAfter backend late), hseen, hshown] at hless
    exact absurd hless (lt_irrefl _)

set_option maxRecDepth 4000 in
theorem departing_halls : ∀ early, early <+: departing ++ noticing →
    (readerStage.hardwareAfter backend early).readers =
        (hallAt oneReader noReader noReader 12 12 early.length).readers ∧
      (readerStage.hardwareAfter backend early).count =
        (hallAt oneReader noReader noReader 12 12 early.length).count := by
  have hall : ∀ early ∈ (departing ++ noticing).inits,
      (readerStage.hardwareAfter backend early).readers =
          (hallAt oneReader noReader noReader 12 12 early.length).readers ∧
        (readerStage.hardwareAfter backend early).count =
          (hallAt oneReader noReader noReader 12 12 early.length).count := by decide
  exact fun early hearly => hall early ((List.mem_inits _ _).mpr hearly)

set_option maxRecDepth 4000 in
theorem slipping_halls : ∀ early, early <+: slipping ++ overlooking →
    (readerStage.hardwareAfter backend early).readers =
        (hallAt oneReader nextReader otherReader 12 16 early.length).readers ∧
      (readerStage.hardwareAfter backend early).count =
        (hallAt oneReader nextReader otherReader 12 16 early.length).count := by
  have hall : ∀ early ∈ (slipping ++ overlooking).inits,
      (readerStage.hardwareAfter backend early).readers =
          (hallAt oneReader nextReader otherReader 12 16 early.length).readers ∧
        (readerStage.hardwareAfter backend early).count =
          (hallAt oneReader nextReader otherReader 12 16 early.length).count := by decide
  exact fun early hearly => hall early ((List.mem_inits _ _).mpr hearly)

theorem names_of_readers {hall hall' : Hall} (h : hall.readers = hall'.readers) :
    hall.names = hall'.names := by rw [Hall.names, h, Hall.names]

/-- Whether the reader is attached shows at every moment if it does in each of
    the halls. -/
theorem reveals_of_hallAt {st : Stage Hall Connection Note} {moves : List (Move Hall)}
    {hall hall' hall'' : Hall} {first second : Nat}
    (h : ∀ early, early <+: moves → (st.hardwareAfter backend early).readers =
      (hallAt hall hall' hall'' first second early.length).readers)
    (hbefore : scene.Reveals "A" hall) (hbetween : scene.Reveals "A" hall')
    (hafter : scene.Reveals "A" hall'') :
    ∀ part, part <+: moves → scene.Reveals "A" (st.hardwareAfter backend part) := by
  intro part hpart
  have hreaders := h part hpart
  simp only [Scene.Reveals, scene, flags_of_readers hreaders (show "A" ≠ _ by decide),
    names_of_readers hreaders]
  rw [hallAt]
  split
  · exact hbefore
  · split
    · exact hbetween
    · exact hafter

theorem departing_counts : scene.Counts backend readerStage (departing ++ noticing) :=
  counts_of_hallAt (fun early hearly => (departing_halls early hearly).imp names_of_readers id)
    (by decide) (Nat.le_refl _) fun _ => rfl

theorem slipping_counts : scene.Counts backend readerStage (slipping ++ overlooking) :=
  counts_of_hallAt (fun early hearly => (slipping_halls early hearly).imp names_of_readers id)
    (by decide) (by decide) (by decide)

/-- That a reader is gone, as the window is told. -/
def goneNews : Post :=
  ⟨1, Message.event .systemEvent ⟨1, 0⟩ .deviceStatus (.deviceStatus "A" .noDevice)⟩

set_option maxRecDepth 4000 in
/-- Meanwhile the session stays bound to the reader, and whatever it says of it is
    for its one window. -/
theorem noticing_bound : ∀ part ∈ noticing.inits,
    let now := (readerStage.run backend departing).run backend part
    "A" ∉ now.provider.hub.world.hardware.names ∧
      (now.provider.hub.session? 1).any (·.binding.isBoundTo "A") = true ∧
      (now.provider.hub.session? 1).map (·.departed "A") = some [goneNews] := by decide

set_option maxRecDepth 4000 in
/-- A reader that is detached in a wait is noticed: the session posts so, once, and
    has no device from then on. -/
theorem departure_noted_noticing : ∃ after,
    ((readerStage.run backend departing).run backend noticing).provider.hub.session? 1 =
        some after ∧
      ((readerStage.run backend departing).run backend noticing).provider.hub.world.eventsOf 1
          .deviceStatus =
        (readerStage.run backend departing).provider.hub.world.eventsOf 1 .deviceStatus ++
          [goneNews] ∧
      ∀ w, after.status backend w = (.ok (IdcStatus.withoutCard .noDevice), after, w) := by
  have hfound : ((readerStage.run backend departing).provider.hub.session? 1).any
      (·.observed.available) = true := by decide
  rcases (Option.any_eq_true _ _).mp hfound with ⟨session, hopen, havailable⟩
  have hheard : ((readerStage.run backend departing).chronicle backend noticing).any
      (Deed.hears "A") = true := by decide
  have hwaiting : ((readerStage.run backend departing).run backend
      noticing).provider.watcher.phase = .waiting Watcher.slice Watcher.slice
        ⟨⟨Snapshot.listName, 0x10002#32, 0x10002#32, []⟩, []⟩ := by decide
  have hbound := fun part (hpart : part <+: noticing) =>
    noticing_bound part ((List.mem_inits _ _).mpr hpart)
  rcases (Stage.departure_noted_if_heard backend scene scene_shown oneReader (configuredTo "A")
    departing noticing 1 "A" (by decide) departing_counts
    (reveals_of_hallAt (fun early hearly => (departing_halls early hearly).1) (by decide)
      (by decide) (by decide)) session hopen havailable
    (fun part hpart => ⟨(hbound part hpart).1, (Option.any_eq_true _ _).mp (hbound part hpart).2.1⟩)
    (fun state kind hmem => by
      simp only [noticing, List.mem_cons, List.not_mem_nil, reduceCtorEq, or_false] at hmem)
    ⟨_, _, _, hwaiting⟩).2 with ⟨after, hafter, hnoted, -⟩
  rcases hnoted (.inr (List.any_eq_true.mp hheard)) with
    ⟨⟨part, teller, hpart, hteller, hevents, -⟩, hstatus⟩
  have hdeparted : teller.departed "A" = [goneNews] := by
    have hmapped := (hbound part hpart).2.2
    rw [hteller] at hmapped
    exact Option.some.inj hmapped
  rw [hdeparted] at hevents
  exact ⟨after, hafter, hevents, hstatus⟩

/-- The stage when the reader has slipped away. -/
def slipped : Stage Hall Connection Note := readerStage.run backend slipping

/-- The stage when the departure was overlooked. -/
def overlooked : Stage Hall Connection Note := slipped.run backend overlooking

set_option maxRecDepth 4000 in
/-- The watcher is in a wait with nothing to report then. -/
theorem overlooked_waiting :
    let set : WaitSet := ⟨⟨Snapshot.listName, 0x20000#32, 0x20000#32, []⟩,
      [⟨"B", 0x12#32, 0x12#32, []⟩]⟩
    overlooked.provider.watcher.phase = .waiting Watcher.slice Watcher.slice set ∧
      set.entries.all (fun s => !scene.differs overlooked.provider.hub.world.hardware s) = true ∧
      (overlooked.provider.watcher.resync, overlooked.duties.isEmpty) = (false, true) := by decide

set_option maxRecDepth 4000 in
/-- A reader that is detached before the readers are listed is never reported. The
    session was told of it and stays bound to it, goes on as if it were there, and
    fails. -/
theorem departure_unheard :
    scene.Shown backend ∧ scene.Counts backend readerStage (slipping ++ overlooking) ∧
      (∀ part, part <+: slipping ++ overlooking →
        scene.Reveals "A" (readerStage.hardwareAfter backend part)) ∧
      (∃ part state, part <+: slipping ∧ (state.name, state.unavailable) = ("A", false) ∧
        (readerStage.run backend part).handing .work = some (state, .card)) ∧
      (∀ part, part <+: overlooking → "A" ∉ (slipped.hardwareAfter backend part).names ∧
        ((slipped.run backend part).provider.hub.session? 1).any (·.binding.isBoundTo "A") =
          true) ∧
      (∃ timeout ends set, overlooked.provider.watcher.phase = .waiting timeout ends set ∧
        set.entries.all (fun s => !scene.differs overlooked.provider.hub.world.hardware s) = true ∧
        (overlooked.provider.watcher.resync, overlooked.duties.isEmpty) = (false, true)) ∧
      (overlooked.provider.hub.session? 1).map (·.subscriptions) = some [(1, EventClass.system)] ∧
      overlooked.provider.hub.world.eventsOf 1 .deviceStatus = [] ∧
      (overlooked.provider.hub.session? 1).map
          (fun s => (s.status backend overlooked.provider.hub.world).1) =
        some (.error .unknownReader) := by
  have habsent : ∀ part ∈ overlooking.inits, "A" ∉ (slipped.hardwareAfter backend part).names ∧
      ((slipped.run backend part).provider.hub.session? 1).any (·.binding.isBoundTo "A") =
        true := by decide
  have htold : (readerStage.run backend (slipping.take 9)).handing .work =
      some (⟨"A", 0#32, 0x12#32, []⟩, .card) := by decide
  exact ⟨scene_shown, slipping_counts,
    reveals_of_hallAt (fun early hearly => (slipping_halls early hearly).1) (by decide) (by decide)
      (by decide),
    ⟨slipping.take 9, _, List.take_prefix _ _, rfl, htold⟩,
    fun part hpart => habsent part ((List.mem_inits _ _).mpr hpart),
    ⟨_, _, _, overlooked_waiting⟩, by decide, by decide, by decide⟩

end Simulation

end CardHost
