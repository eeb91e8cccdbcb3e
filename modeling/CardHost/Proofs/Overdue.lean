import CardHost.Proofs.Changes
import CardHost.Proofs.Scenes

/-!
# When a Deadline Is Looked At

The watcher is the only timer, but it does not look at the deadlines whenever it
has been in a call. It does when a wait ran out of time or failed, and when the
readers could not be listed. A wait that returned with changes, or was called off,
tells what changed and goes on without a look. So a deadline alone does not end a
request: it does so at the first look that finds it passed, and until then a card
that is inserted serves the request, late as it is.

`Provider.hears` has in one place what a step of the watcher has to tell, and to
which hub. A request that is looked at is either due and told so, or stays. One
that is only shown changes is served by the first of them that it waits for, with
no regard to the time. What holds of every request that waits, in any run, is that
no look since it was queued has found its deadline passed.

## Main definitions

* `Provider.hears`: What the watcher has to tell in a step, and to whom.
* `Provider.looks`: Whether it looks at the deadlines.
* `Hub.server?`: The first of some changes that serves a request.
* `Provider.looksIn`: When the deadlines were looked at in a run.

## Theorems

* `watch_hub_eq`: A step of the watcher, in terms of what it has to tell.
* `onChange_serves`, `tellAll_changes`: What becomes of requests by one change, and
  by several.
* `watch_looking`, `watch_unlooking`: What becomes of them in a step.
* `meet_waiting`, `run_waiting`: How a request comes to be waiting.
* `overdue_until_looked`: No success after a look that found the deadline passed.
* `Simulation.served_overdue`: A success after the deadline.
-/

namespace CardHost

variable {σ κ ε : Type}

namespace PendingRequest

/-- The completion of a request whose card showed up. -/
def success (r : PendingRequest) (atr : Bytes) : Post :=
  ⟨r.window, r.completion .success (.cardData (CardData.read r.sources atr))⟩

/-- The completion of a request whose deadline was found passed. -/
def timedOut (r : PendingRequest) : Post := ⟨r.window, r.completion .timeout .none⟩

end PendingRequest

namespace Hub

variable {b : Backend σ κ ε} {hub : Hub σ κ ε}

/-- The first of some changes, told one after the other, that serves a request. -/
def server? (b : Backend σ κ ε) (r : PendingRequest) : List Snapshot → Hub σ κ ε → Option Snapshot
  | [], _ => none
  | s :: rest, hub =>
    if (hub.informed b s s.kind).awaits s s.kind r then some s
    else server? b r rest (hub.onChange b s s.kind)

/-- A change completes the requests that it serves, and nobody else. -/
theorem onChange_serves (h : hub.Sound) (s : Snapshot) :
    ∃ posts, (hub.onChange b s s.kind).world.posts = hub.world.posts ++ posts ∧
      (∀ r ∈ hub.pending.live, (hub.informed b s s.kind).awaits s s.kind r = true →
        r.success s.atr ∈ posts) ∧
      ∀ post ∈ posts, post.message.isCompletion = true → ∃ r ∈ hub.pending.live,
        (hub.informed b s s.kind).awaits s s.kind r = true ∧ post = r.success s.atr := by
  rcases Hub.onChange_ends b s s.kind h with ⟨-, -, reports, hposts, hreports⟩
  refine ⟨_, hposts.trans (List.append_assoc _ _ _), fun r hr hawaits => ?_,
    fun post hpost hcompletes => ?_⟩
  · refine List.mem_append_right _ (List.mem_flatMap.mpr ⟨r, ?_, ?_⟩)
    · exact List.mem_filter.mpr ⟨hr, hawaits⟩
    · exact List.mem_cons_of_mem _ List.mem_cons_self
  · rcases List.mem_append.mp hpost with hpost | hpost
    · -- What the sessions report are events.
      rcases hreports post hpost with ⟨_, _, hreport⟩
      cases hreport.isCompletion.symm.trans hcompletes
    · rcases List.mem_flatMap.mp hpost with ⟨r, hr, hpost⟩
      rcases List.mem_filter.mp hr with ⟨hr, hawaits⟩
      rcases List.mem_cons.mp hpost with rfl | hpost
      · cases hcompletes
      · exact ⟨r, hr, hawaits, List.mem_singleton.mp hpost⟩

/-- Who waits on after a change is not served by it, but maybe by a later one. -/
theorem server?_of_waiting (h : hub.Sound) {s : Snapshot} {r : PendingRequest}
    (hr : r ∈ (hub.onChange b s s.kind).pending.live) (rest : List Snapshot) :
    r ∈ hub.pending.live ∧
      hub.server? b r (s :: rest) = (hub.onChange b s s.kind).server? b r rest := by
  rcases Hub.onChange_ends b s s.kind h with ⟨-, hlive, -⟩
  rw [hlive, List.mem_filter, Bool.not_eq_true'] at hr
  refine ⟨hr.1, ?_⟩
  rw [server?, hr.2]
  rfl

/-- Changes end the requests that one of them serves, each by the first that does
    and with the card that it reports; the time has no part in it. -/
theorem tellAll_changes (h : hub.Sound) (changes : List Snapshot) :
    let after := (surroundings b).tellAll (changes.map .change) hub
    after.pending.live = (hub.pending.live.filter fun r => (hub.server? b r changes).isNone) ∧
      ∃ posts, after.world.posts = hub.world.posts ++ posts ∧
        (∀ r ∈ hub.pending.live, ∀ s, hub.server? b r changes = some s → r.success s.atr ∈ posts) ∧
        ∀ post ∈ posts, post.message.isCompletion = true →
          ∃ r ∈ hub.pending.live, ∃ s, hub.server? b r changes = some s ∧
            post = r.success s.atr := by
  intro after
  induction changes generalizing hub with
  | nil =>
      refine ⟨(List.filter_eq_self.mpr fun _ _ => rfl).symm, [], (List.append_nil _).symm,
        fun _ _ _ h => (by cases h), fun _ hpost => absurd hpost List.not_mem_nil⟩
  | cons s rest ih =>
      have hlive := (Hub.onChange_ends b s s.kind h).2.1
      rcases onChange_serves (b := b) h s with ⟨first, hfirst, hawaited, hserves⟩
      rcases ih (hub.onChange_keeps b s s.kind h).sound with
        ⟨hliveRest, posts, hpostsRest, hserved, hcomplete⟩
      refine ⟨?_, first ++ posts, ?_, fun r hr s' hs' => ?_, fun post hpost hcompletes => ?_⟩
      · refine hliveRest.trans ?_
        rw [hlive, List.filter_filter]
        refine List.filter_congr fun r _ => ?_
        rw [server?]
        cases (hub.informed b s s.kind).awaits s s.kind r with
        | true => exact Bool.and_false _
        | false => exact Bool.and_true _
      · rw [← List.append_assoc, ← hfirst]
        exact hpostsRest
      · by_cases hawaits : (hub.informed b s s.kind).awaits s s.kind r = true
        · rw [server?, if_pos hawaits] at hs'
          cases hs'
          exact List.mem_append_left _ (hawaited r hr hawaits)
        · have hstays : r ∈ (hub.onChange b s s.kind).pending.live := by
            rw [hlive, List.mem_filter, Bool.not_eq_true']
            exact ⟨hr, Bool.eq_false_iff.mpr hawaits⟩
          rw [(server?_of_waiting h hstays rest).2] at hs'
          exact List.mem_append_right _ (hserved r hstays s' hs')
      · rcases List.mem_append.mp hpost with hpost | hpost
        · rcases hserves post hpost hcompletes with ⟨r, hr, hawaits, rfl⟩
          exact ⟨r, hr, s, by rw [server?, if_pos hawaits], rfl⟩
        · rcases hcomplete post hpost hcompletes with ⟨r, hr, s', hs', rfl⟩
          rcases server?_of_waiting h hr rest with ⟨hthere, hserver⟩
          exact ⟨r, hthere, s', hserver.trans hs', rfl⟩

end Hub

namespace Provider

variable {b : Backend σ κ ε} {p : Provider σ κ ε} {now : Instant}

/-- What the watcher has to tell in a step, and to which hub. -/
def hears (b : Backend σ κ ε) (now : Instant) (p : Provider σ κ ε) : List News × Hub σ κ ε :=
  match p.watcher.phase with
  | .listing _ =>
    match (Hub.surroundings b).list p.hub with
    | (.ok _, hub) => ([], hub)
    | (.error _, hub) => ([.timeout now], hub)
  | .waiting timeout ends set =>
    match (Hub.surroundings b).wait ⟨some timeout, ends, now, set.entries⟩ p.hub with
    | none => ([], p.hub)
    | some (outcome, hub) => (if p.watcher.stop then [] else Watcher.newsOf now set outcome, hub)
  | .timing .. | .pausing .. | .stopped => ([], p.hub)

/-- Whether the watcher looks at the deadlines in a step. -/
def looks (b : Backend σ κ ε) (now : Instant) (p : Provider σ κ ε) : Bool :=
  (p.hears b now).1.contains (.timeout now)

/-- A step of the watcher tells what there is to tell, and that is all it does to
    the hub. -/
theorem watch_hub_eq (b : Backend σ κ ε) (now : Instant) (p : Provider σ κ ε) :
    (p.watch b now).hub = (Hub.surroundings b).tellAll (p.hears b now).1 (p.hears b now).2 := by
  rcases hphase : p.watcher.phase with list | ⟨epoch, set⟩ | ⟨timeout, ends, set⟩ | _ | _
  · simp only [watch, hears, Watcher.step, hphase]
    rcases (Hub.surroundings b).list p.hub with ⟨e | names, hub⟩ <;> rfl
  · simp only [watch, hears, Watcher.step, hphase]
    split <;> rfl
  · simp only [watch, hears, Watcher.step, Watcher.afterWait, hphase]
    rcases (Hub.surroundings b).wait ⟨some timeout, ends, now, set.entries⟩ p.hub with
      _ | ⟨outcome, hub⟩
    · rfl
    · by_cases hstop : p.watcher.stop = true
      · simp only [if_pos hstop]
        rfl
      · simp only [if_neg hstop]
  · simp only [watch, hears, Watcher.step, hphase]
    rfl
  · simp only [watch, hears, Watcher.step, hphase]
    rfl

/-- The call that a step makes concerns no session, no request and no message. -/
theorem hears_quiet (b : Backend σ κ ε) (now : Instant) (p : Provider σ κ ε) :
    (p.hears b now).2.pending = p.hub.pending ∧ p.hub.Quiet (p.hears b now).2 ∧
      (p.hears b now).2.world.posts = p.hub.world.posts := by
  have hcalled : ∀ {α : Type} (f : σ → Reply σ ε α),
      p.hub.Quiet { p.hub with world := (p.hub.world.call f).2 } ∧
        (p.hub.world.call f).2.posts = p.hub.world.posts :=
    fun f => ⟨Hub.Quiet.call p.hub f, World.posts_call f p.hub.world⟩
  rw [hears]
  split
  · simp only [Hub.surroundings]
    split
    · next hcall =>
        cases congrArg Prod.snd hcall
        exact ⟨rfl, hcalled b.list⟩
    · next hcall =>
        cases congrArg Prod.snd hcall
        exact ⟨rfl, hcalled b.list⟩
  · simp only [Hub.surroundings]
    split
    · exact ⟨rfl, Hub.Quiet.refl p.hub, rfl⟩
    · next hcall =>
        rcases Option.map_eq_some_iff.mp hcall with ⟨reply, -, hreply⟩
        cases congrArg Prod.snd hreply
        exact ⟨rfl, hcalled fun _ => reply⟩
  · exact ⟨rfl, Hub.Quiet.refl p.hub, rfl⟩
  · exact ⟨rfl, Hub.Quiet.refl p.hub, rfl⟩
  · exact ⟨rfl, Hub.Quiet.refl p.hub, rfl⟩

/-- There is nothing to tell but changes, or nothing but that time has passed. -/
theorem hears_news (b : Backend σ κ ε) (now : Instant) (p : Provider σ κ ε) :
    (p.hears b now).1 = [.timeout now] ∧ p.looks b now = true ∨
      p.looks b now = false ∧
        ∃ changes : List Snapshot, (p.hears b now).1 = changes.map .change := by
  have hall : (p.hears b now).1 = [.timeout now] ∨
      ∃ changes : List Snapshot, (p.hears b now).1 = changes.map .change := by
    rw [hears]
    split
    · split
      · exact .inr ⟨[], rfl⟩
      · exact .inl rfl
    · split
      · exact .inr ⟨[], rfl⟩
      · next set _ outcome _ _ =>
          simp only
          split
          · exact .inr ⟨[], rfl⟩
          · rcases outcome with e | (reports | _ | _)
            · exact .inl rfl
            · exact .inr ⟨_, rfl⟩
            · exact .inl rfl
            · exact .inr ⟨[], rfl⟩
    · exact .inr ⟨[], rfl⟩
    · exact .inr ⟨[], rfl⟩
    · exact .inr ⟨[], rfl⟩
  rcases hall with hnews | ⟨changes, hnews⟩
  · refine .inl ⟨hnews, ?_⟩
    rw [looks, hnews, List.contains_cons, beq_self_eq_true, Bool.true_or]
  · refine .inr ⟨?_, changes, hnews⟩
    rw [looks, hnews, List.contains_eq_mem, decide_eq_false_iff_not]
    intro hmem
    rcases List.mem_map.mp hmem with ⟨_, _, hchange⟩
    cases hchange

/-- A look at the deadlines ends the requests whose deadline has passed, and
    completes nobody else. -/
theorem watch_looking (h : p.hub.Sound) (hlooks : p.looks b now = true) :
    let p' := p.watch b now
    p'.hub.pending.live = (p.hub.pending.live.filter fun r => !decide (r.deadline ≤ now)) ∧
      p'.hub.world.posts = p.hub.world.posts ++
        (p.hub.pending.live.filter fun r => r.deadline ≤ now).map PendingRequest.timedOut := by
  intro p'
  rcases hears_quiet b now p with ⟨hpending, -, hposts⟩
  have hends := RequestQueue.expireDue_ends h.consistent now
  have hhub : p'.hub = ((p.hears b now).2).onTimeout now := by
    rcases hears_news b now p with ⟨hnews, -⟩ | ⟨hnot, -⟩
    · rw [watch_hub_eq, hnews]
      rfl
    · rw [hlooks] at hnot
      cases hnot
  refine ⟨?_, ?_⟩
  · rw [hhub, Hub.onTimeout, Hub.settle, hpending]
    exact hends.live
  · rw [hhub, Hub.onTimeout, Hub.settle, hpending, World.posts_post, hposts, hends.posts,
      ← List.flatMap_pure_eq_map]
    rfl

/-- Without a look a request is ended by the first change that serves it, be it
    due or not, and nobody else is completed. -/
theorem watch_unlooking (h : p.hub.Sound) (hlooks : p.looks b now = false) :
    let p' := p.watch b now
    ∃ changes : List Snapshot, (p.hears b now).1 = changes.map .change ∧
      p'.hub.pending.live = (p.hub.pending.live.filter fun r =>
        ((p.hears b now).2.server? b r changes).isNone) ∧
      ∃ posts, p'.hub.world.posts = p.hub.world.posts ++ posts ∧
        (∀ r ∈ p.hub.pending.live, ∀ s, (p.hears b now).2.server? b r changes = some s →
          r.success s.atr ∈ posts) ∧
        ∀ post ∈ posts, post.message.isCompletion = true → ∃ r ∈ p.hub.pending.live,
          ∃ s, (p.hears b now).2.server? b r changes = some s ∧ post = r.success s.atr := by
  intro p'
  rcases hears_quiet b now p with ⟨hpending, hquiet, hposts⟩
  rcases hears_news b now p with ⟨-, hlooked⟩ | ⟨-, changes, hnews⟩
  · rw [hlooks] at hlooked
    cases hlooked
  · have htold := Hub.tellAll_changes (b := b) (hquiet.keeps h).sound changes
    rw [← hnews, ← watch_hub_eq, hpending, hposts] at htold
    exact ⟨changes, hnews, htold⟩

/-- When the deadlines are looked at in an event, if they are. -/
def look? (b : Backend σ κ ε) (event : Event σ) (p : Provider σ κ ε) : Option Instant :=
  match event with
  | .watch now => if p.looks b now then some now else none
  | .enter .. | .tick _ | .happen _ | .stop => none

/-- When they are looked at in a run. -/
def looksIn (b : Backend σ κ ε) : List (Event σ) → Provider σ κ ε → List Instant
  | [], _ => []
  | event :: events, p => (p.look? b event).toList ++ looksIn b events (p.meet b event).2

/-- A request that waits after an event waited before, with a deadline that no
    look has reached, or it was queued by a call. -/
theorem meet_waiting (h : p.hub.Sound) (event : Event σ) {r : PendingRequest}
    (hr : r ∈ (p.meet b event).2.hub.pending.live) :
    (r ∈ p.hub.pending.live ∧ ∀ look ∈ (p.look? b event).toList, look < r.deadline) ∨
      r ∉ p.hub.pending.live ∧ ∃ now entry, event = .enter now entry := by
  cases event with
  | enter now entry =>
      by_cases hbefore : r ∈ p.hub.pending.live
      · exact .inl ⟨hbefore, fun _ hlook => absurd hlook List.not_mem_nil⟩
      · exact .inr ⟨hbefore, now, entry, rfl⟩
  | watch now =>
      refine .inl ?_
      cases hlooks : p.looks b now with
      | true =>
          rw [meet, (watch_looking h hlooks).1, List.mem_filter, Bool.not_eq_true',
            decide_eq_false_iff_not, Nat.not_le] at hr
          refine ⟨hr.1, fun look hlook => ?_⟩
          rw [look?, hlooks] at hlook
          cases List.mem_singleton.mp hlook
          exact hr.2
      | false =>
          rcases watch_unlooking h hlooks with ⟨changes, -, hlive, -⟩
          rw [meet, hlive] at hr
          refine ⟨List.mem_of_mem_filter hr, fun look hlook => ?_⟩
          rw [look?, hlooks] at hlook
          cases hlook
  | tick | happen | stop => exact .inl ⟨hr, fun _ hlook => absurd hlook List.not_mem_nil⟩

/-- A request that waits after a run waited before it, or was queued in it; and no
    look since then has reached its deadline. -/
theorem run_waiting (h : p.hub.Sound) (events : List (Event σ)) {r : PendingRequest}
    (hr : r ∈ (p.run b events).2.hub.pending.live) :
    (r ∈ p.hub.pending.live ∧ ∀ look ∈ p.looksIn b events, look < r.deadline) ∨
      ∃ earlier now entry since, events = earlier ++ .enter now entry :: since ∧
        r ∉ (p.run b earlier).2.hub.pending.live ∧
        r ∈ ((p.run b earlier).2.meet b (.enter now entry)).2.hub.pending.live ∧
        ∀ look ∈ ((p.run b earlier).2.meet b (.enter now entry)).2.looksIn b since,
          look < r.deadline := by
  induction events generalizing p with
  | nil => exact .inl ⟨hr, fun _ hlook => absurd hlook List.not_mem_nil⟩
  | cons event events ih =>
      rcases ih (p.meet_keeps b event h).sound hr with ⟨hwaits, hlater⟩ |
        ⟨earlier, now, entry, since, hsplit, hqueued⟩
      · rcases meet_waiting h event hwaits with ⟨hbefore, hlook⟩ | ⟨hnew, now, entry, rfl⟩
        · exact .inl ⟨hbefore, fun look hmem => (List.mem_append.mp hmem).elim (hlook look)
            (hlater look)⟩
        · exact .inr ⟨[], now, entry, events, rfl, hnew, hwaits, hlater⟩
      · exact .inr ⟨event :: earlier, now, entry, since, by rw [hsplit]; rfl, hqueued⟩

/-- No request succeeds once its deadline was looked at and found passed. After
    any run, when the watcher makes a step at some time: if it looks at the
    deadlines, then whoever is due by then is completed with a timeout, everyone
    else waits on, and nobody is completed with anything else. If it does not, each
    request is completed with success by the first change told that serves it,
    whether it is due or not, and everyone else waits on. And whoever waits when
    the step begins was queued by a call since when no look has reached its
    deadline. -/
theorem overdue_until_looked (b : Backend σ κ ε) (hardware : σ) (config : Config)
    (events : List (Event σ)) (now : Instant) :
    let start : Provider σ κ ε := start { hardware } config
    let p := (start.run b events).2
    let p' := p.watch b now
    (p.looks b now = true →
      p'.hub.pending.live = (p.hub.pending.live.filter fun r => !decide (r.deadline ≤ now)) ∧
        p'.hub.world.posts = p.hub.world.posts ++
          (p.hub.pending.live.filter fun r => r.deadline ≤ now).map PendingRequest.timedOut) ∧
      (p.looks b now = false →
        ∃ changes : List Snapshot, (p.hears b now).1 = changes.map .change ∧
          p'.hub.pending.live = (p.hub.pending.live.filter fun r =>
            ((p.hears b now).2.server? b r changes).isNone) ∧
          ∃ posts, p'.hub.world.posts = p.hub.world.posts ++ posts ∧
            (∀ r ∈ p.hub.pending.live, ∀ s, (p.hears b now).2.server? b r changes = some s →
              r.success s.atr ∈ posts) ∧
            ∀ post ∈ posts, post.message.isCompletion = true → ∃ r ∈ p.hub.pending.live,
              ∃ s, (p.hears b now).2.server? b r changes = some s ∧ post = r.success s.atr) ∧
      ∀ r ∈ p.hub.pending.live, ∃ earlier called entry since,
        events = earlier ++ .enter called entry :: since ∧
          r ∉ (start.run b earlier).2.hub.pending.live ∧
          r ∈ ((start.run b earlier).2.meet b (.enter called entry)).2.hub.pending.live ∧
          ∀ look ∈ ((start.run b earlier).2.meet b (.enter called entry)).2.looksIn b since,
            look < r.deadline := by
  intro start p p'
  have hsound : p.hub.Sound := run_sound b hardware config events
  refine ⟨watch_looking hsound, watch_unlooking hsound, fun r hr => ?_⟩
  rcases run_waiting (Hub.sound_start _) events hr with ⟨hbefore, -⟩ | hqueued
  · cases hbefore
  · exact hqueued

end Provider

namespace Simulation

/-- A read waits for a card until 100, and the watcher is in a wait that ends
    with it. A card is inserted at some later time. -/
def lateCard : List (Event Hall) :=
  [.enter 0 (.openSession ⟨1, 1, 1⟩ "L" 0), .watch 0, .watch 0, .watch 0, .watch 0, .watch 0,
   .watch 0, .watch 0, .enter 0 (.execute ⟨1, 1, 2⟩ (some 100) (.readRawData 8#16)), .watch 0,
   .watch 0, .happen (oneReader.happen (.insert "A" [0x3b, 0x01] none 0#32))]

set_option maxRecDepth 4000 in
/-- A card that is inserted after the deadline, and reported by the first wait that
    returns then, has the read succeed. -/
theorem served_overdue :
    let p := ((Provider.start { hardware := oneReader } (configuredTo "A")).run backend
      lateCard).2
    let p' := p.watch backend 200
    (p.hub.pending.live.map fun r => (r.key, r.deadline)) = [(⟨1, 2⟩, 100)] ∧
      p.looks backend 200 = false ∧ p'.hub.pending.live = [] ∧
      p'.hub.world.posts.getLast? = some ⟨1, Message.completion .executeComplete ⟨1, 2⟩ 207 .success
        (.cardData (CardData.read 8#16 [0x3b, 0x01]))⟩ := by
  decide

end Simulation

end CardHost
