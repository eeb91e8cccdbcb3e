import CardHost.Proofs.Completions
import CardHost.Proofs.Entries

/-!
# The Balance of a Call

The balance of a call is the number of its completions that were posted plus
the number of its requests that wait. It moves in one way only: a call that is
accepted with a completion to come adds one. Whatever else happens, be it a
reader that changes, a deadline that passes or a session that is closed, at most
turns a waiting request into a completion.

Together with the balance a second property is kept, `Sound`. It ties the
requests to the sessions: whoever waits belongs to an open session and looks at
its binding. The two are proved side by side, since both go through the same
cases, and `Keeps` holds them together. A step that keeps the hub sound and adds
some number to each balance can be followed by another, and the numbers add up.

## Main definitions

* `Hub.Sound`: Indexes agree, handles ascend, requests belong to sessions.
* `Hub.balance`: Completions and waiting requests of a call.
* `Hub.Keeps`: A hub became another that is sound, and balances grew.
* `Call.once`: One for the call itself.

## Theorems

* `Quiet.keeps`, `settle_keeps`, `complete_keeps`, `addRequest_keeps`,
  `createSession_keeps`, `removeSession_keeps`: What the parts of a call do.
* `Course.keeps`: What a call does.
* `step_keeps`: What the watcher does.
* `close_keeps`: What the end does.
-/

namespace CardHost

/-- One for the call itself, and nothing for any other. -/
def Call.once (call other : Call) : Nat := if other = call then 1 else 0

variable {σ κ ε α : Type}

namespace Hub

/-- The requests of a hub belong to its sessions. -/
structure Sound (hub : Hub σ κ ε) : Prop where
  consistent : hub.pending.Consistent
  /-- Sessions are in order, one per handle. -/
  ascending : hub.handles.Pairwise (· < ·)
  /-- A request looks at the binding of its session, which is open. -/
  owned : ∀ r ∈ hub.pending.live,
    r.target = target r.key.service ∧ r.key.service ∈ hub.handles

theorem sound_start (world : World σ ε) : (start world : Hub σ κ ε).Sound where
  consistent := RequestQueue.consistent_empty
  ascending := List.Pairwise.nil
  owned _ hr := nomatch hr

/-- How many requests of a call were completed or still wait. -/
def balance (call : Call) (hub : Hub σ κ ε) : Nat :=
  call.completions hub.world.posts + call.waiting hub.pending.live

/-- A hub became another that is sound, and the balance of each call grew. -/
structure Keeps (n : Call → Nat) (hub hub' : Hub σ κ ε) : Prop where
  sound : hub'.Sound
  balance : ∀ call, hub'.balance call = hub.balance call + n call

variable {hub hub' hub'' : Hub σ κ ε} {n m : Call → Nat}

theorem Keeps.refl (h : hub.Sound) : hub.Keeps (fun _ => 0) hub := ⟨h, fun _ => rfl⟩

theorem Keeps.trans (h : hub.Keeps n hub') (h' : hub'.Keeps m hub'') :
    hub.Keeps (fun call => n call + m call) hub'' :=
  ⟨h'.sound, fun call => by rw [h'.balance, h.balance, Nat.add_assoc]⟩

/-- The numbers may be written in another way. -/
theorem Keeps.congr (h : hub.Keeps n hub') (hnm : ∀ call, n call = m call) :
    hub.Keeps m hub' :=
  ⟨h.sound, fun call => hnm call ▸ h.balance call⟩

/-- A change that posts only events keeps everything. -/
theorem Quiet.keeps (hquiet : hub.Quiet hub') (h : hub.Sound) :
    hub.Keeps (fun _ => 0) hub' := by
  rcases hquiet.posts with ⟨posts, hposts, hevents⟩
  refine ⟨⟨?_, ?_, ?_⟩, fun call => ?_⟩
  · rw [hquiet.pending]
    exact h.consistent
  · rw [hquiet.handles]
    exact h.ascending
  · rw [hquiet.pending, hquiet.handles]
    exact h.owned
  · rw [balance, balance, hquiet.pending, hposts, call.completions_append,
      call.completions_eq_zero hevents, Nat.add_zero, Nat.add_zero]

/-- Ending requests turns each into a completion. -/
theorem settle_keeps (h : hub.Sound) {s : Settled} {p : PendingRequest → Bool}
    {finish : PendingRequest → List Message} (hs : s.Ends hub.pending p finish)
    (hfinish : PendingRequest.EndsOnce finish) : hub.Keeps (fun _ => 0) (hub.settle s) := by
  refine ⟨⟨hs.consistent, h.ascending, fun r hr => ?_⟩, fun call => ?_⟩
  · have hlive : r ∈ s.queue.live := hr
    rw [hs.live] at hlive
    exact h.owned r (List.mem_of_mem_filter hlive)
  · have haccounts := hs.accounts hfinish call
    rw [balance, balance, settle, World.posts_post, call.completions_append, Nat.add_assoc,
      haccounts, Nat.add_zero]

theorem onTimeout_keeps (now : Instant) (h : hub.Sound) :
    hub.Keeps (fun _ => 0) (hub.onTimeout now) :=
  settle_keeps h (RequestQueue.expireDue_ends h.consistent now) PendingRequest.endsOnce_expired

theorem notifySessions_deviceList (b : Backend σ κ ε) (state : Snapshot)
    (sessions : List (Session κ)) (w : World σ ε) :
    notifySessions b state .deviceList sessions w = (sessions, w) := by
  induction sessions with
  | nil => rfl
  | cons session rest ih =>
      simp only [notifySessions, Session.notify_deviceList, ih]

/-- Handing a report to sessions keeps their handles. -/
theorem notifySessions_handles (b : Backend σ κ ε) (state : Snapshot) (kind : ChangeKind)
    (sessions : List (Session κ)) (w : World σ ε) :
    (notifySessions b state kind sessions w).1.map Session.handle =
      sessions.map Session.handle := by
  induction sessions generalizing w with
  | nil => rfl
  | cons session rest ih =>
      rw [notifySessions, List.map_cons, List.map_cons, ih, Session.notify_handle]

/-- What sessions post by a report are events of theirs, and only who learns something
    from it has something to report. -/
theorem notifySessions_reports (b : Backend σ κ ε) (state : Snapshot) (kind : ChangeKind)
    (sessions : List (Session κ)) (w : World σ ε) :
    ∃ posts, (notifySessions b state kind sessions w).2.posts = w.posts ++ posts ∧
      ∀ post ∈ posts, ∃ session ∈ sessions,
        post.Reports session.handle ∧ ¬session.Indifferent b state kind := by
  induction sessions generalizing w with
  | nil => exact ⟨[], (List.append_nil _).symm, fun _ hpost => nomatch hpost⟩
  | cons session rest ih =>
      rcases session.notify_posts_own b state kind w with ⟨posts, hposts, hown⟩
      rcases ih (session.notify b state kind w).2 with ⟨posts', hposts', hreports⟩
      refine ⟨posts ++ posts', ?_, fun post hpost => ?_⟩
      · rw [notifySessions, hposts', hposts, List.append_assoc]
      · rcases List.mem_append.mp hpost with hpost | hpost
        · refine ⟨session, List.mem_cons_self, hown post hpost, fun hindifferent => ?_⟩
          rw [hindifferent w] at hposts
          rw [List.self_eq_append_right.mp hposts] at hpost
          cases hpost
        · rcases hreports post hpost with ⟨other, hother, hreport⟩
          exact ⟨other, List.mem_cons_of_mem _ hother, hreport⟩

/-- The hub once its sessions have been handed a report. -/
def informed (b : Backend σ κ ε) (state : Snapshot) (kind : ChangeKind) (hub : Hub σ κ ε) :
    Hub σ κ ε :=
  { hub with
    sessions := (notifySessions b state kind hub.sessions hub.world).1
    world := (notifySessions b state kind hub.sessions hub.world).2 }

theorem informed_quiet (b : Backend σ κ ε) (state : Snapshot) (kind : ChangeKind)
    (hub : Hub σ κ ε) : hub.Quiet (hub.informed b state kind) := by
  rcases notifySessions_reports b state kind hub.sessions hub.world with
    ⟨posts, hposts, hreports⟩
  refine ⟨rfl, notifySessions_handles b state kind hub.sessions hub.world, posts, hposts,
    fun post hpost => ?_⟩
  rcases hreports post hpost with ⟨_, _, hreport, _⟩
  exact hreport.isCompletion

theorem onChange_keeps (b : Backend σ κ ε) (state : Snapshot) (kind : ChangeKind)
    (h : hub.Sound) : hub.Keeps (fun _ => 0) (hub.onChange b state kind) := by
  have hinformed := (informed_quiet b state kind hub).keeps h
  exact hinformed.trans (settle_keeps hinformed.sound
    (RequestQueue.notifyChange_ends hinformed.sound.consistent _ state kind)
    (PendingRequest.endsOnce_served state.atr))

theorem releaseCards_posts (b : Backend σ κ ε) (sessions : List (Session κ)) (w : World σ ε) :
    (releaseCards b sessions w).posts = w.posts := by
  induction sessions generalizing w with
  | nil => rfl
  | cons session rest ih =>
      rw [releaseCards, ih, Session.disconnect]
      rcases session.card with _ | card
      · rfl
      · exact World.posts_call _ w

/-- At the end nothing waits any more, and every balance is what was
    completed. -/
theorem close_keeps (b : Backend σ κ ε) (h : hub.Sound) :
    hub.Keeps (fun _ => 0) (hub.close b) ∧ (hub.close b).pending.live = [] := by
  have hends := RequestQueue.cancelAll_ends h.consistent
  have hlive : (hub.close b).pending.live = [] := by
    refine hends.live.trans (List.filter_eq_nil_iff.mpr fun _ _ => ?_)
    exact Bool.false_ne_true
  have hsettled := settle_keeps h hends PendingRequest.endsOnce_canceled
  refine ⟨⟨⟨hends.consistent, List.Pairwise.nil, fun r hr => ?_⟩, fun call => ?_⟩, hlive⟩
  · rw [hlive] at hr
    cases hr
  · -- Sessions give up their cards without a message.
    rw [← hsettled.balance call, balance, balance, close, releaseCards_posts]

end Hub

namespace Watcher

/-- Whatever every call of a watcher keeps, and everything it tells, its steps
    keep. -/
theorem step_preserves {ω : Type} {P : ω → Prop} {env : Surroundings ω}
    (hlist : ∀ o, P o → P (env.list o).2)
    (hwait : ∀ poll o outcome o', env.wait poll o = some (outcome, o') → P o → P o')
    (htell : ∀ news o, P o → P (env.tell o news)) (now : Instant) (m : Watcher) (o : ω)
    (h : P o) : P (m.step env now o).2.2 := by
  have htellAll : ∀ news o, P o → P (env.tellAll news o) := by
    intro news
    induction news with
    | nil => exact fun o h => h
    | cons first rest ih => exact fun o h => ih _ (htell first o h)
  rw [step]
  split
  · have hlisted := hlist o h
    split
    · next hcall =>
        rw [hcall] at hlisted
        exact hlisted
    · next hcall =>
        rw [hcall] at hlisted
        exact htell (.timeout now) _ hlisted
  · split <;> exact h
  · split
    · exact h
    · next hcall =>
        have hwaited := hwait _ _ _ _ hcall h
        rw [afterWait]
        split
        · exact hwaited
        · exact htellAll _ _ hwaited
  · exact h
  · exact h

end Watcher

namespace Provider

variable {b : Backend σ κ ε} {p : Provider σ κ ε}

/-- The watcher completes what it ends, and ends nothing else. -/
theorem step_keeps (now : Instant) (m : Watcher) {hub : Hub σ κ ε} (h : hub.Sound) :
    hub.Keeps (fun _ => 0) (m.step (Hub.surroundings b) now hub).2.2 := by
  refine Watcher.step_preserves (P := hub.Keeps fun _ => 0) ?_ ?_ ?_ now m hub (Hub.Keeps.refl h)
  · intro o ho
    exact ho.trans ((Hub.Quiet.call o b.list).keeps ho.sound)
  · intro poll o outcome o' hcall ho
    rcases Option.map_eq_some_iff.mp hcall with ⟨reply, -, hreply⟩
    cases hreply
    exact ho.trans ((Hub.Quiet.call o fun _ => reply).keeps ho.sound)
  · intro news o ho
    cases news with
    | timeout now => exact ho.trans (Hub.onTimeout_keeps now ho.sound)
    | change s => exact ho.trans (Hub.onChange_keeps b s s.kind ho.sound)

theorem wake_keeps (reason : WakeReason) {hub : Hub σ κ ε} {n : Call → Nat}
    (h : hub.Keeps n p.hub) : hub.Keeps n (p.wake b reason).hub :=
  h.trans ((Hub.Quiet.call p.hub _).keeps h.sound)

theorem wakeIf_keeps (cause : Bool) {hub : Hub σ κ ε} {n : Call → Nat}
    (h : hub.Keeps n p.hub) : hub.Keeps n (p.wakeIf b cause).hub := by
  rw [wakeIf]
  split
  · exact wake_keeps .deadline h
  · exact h

theorem disconnect_keeps (session : Session κ) {hub : Hub σ κ ε} {n : Call → Nat}
    (h : hub.Keeps n p.hub) :
    hub.Keeps n { p.hub with world := (session.disconnect b p.hub.world).2 } := by
  rcases (session.disconnect_discreet (b := b) p.hub.world).posts with ⟨posts, hposts, hreports⟩
  have hquiet : p.hub.Quiet { p.hub with world := (session.disconnect b p.hub.world).2 } :=
    ⟨rfl, rfl, posts, hposts, fun post hpost => (hreports post hpost).isCompletion⟩
  exact h.trans (hquiet.keeps h.sound)

theorem settle_keeps (h : p.hub.Sound) {s : Settled} {test : PendingRequest → Bool}
    {finish : PendingRequest → List Message} (hs : s.Ends p.hub.pending test finish)
    (hfinish : PendingRequest.EndsOnce finish) :
    p.hub.Keeps (fun _ => 0) (p.settle b s).hub :=
  wakeIf_keeps _ (Hub.settle_keeps h hs hfinish)

/-- The completion of a call counts for it, and for no other. -/
theorem completions_of_call {kind : MessageKind} (hkind : kind.eventClass = none) (call : Call)
    (code : UInt32) (result : ResultCode) (payload : Payload) (other : Call) :
    other.completions [⟨call.window, Message.completion kind call.key code result payload⟩] =
      call.once other := by
  have hsame : Post.completes other
      ⟨call.window, Message.completion kind call.key code result payload⟩ = true ↔
        other = call := by
    rw [Post.completes, Message.isCompletion, Message.completion, hkind, Option.isNone_none,
      Bool.true_and, Bool.and_eq_true, beq_iff_eq, beq_iff_eq]
    constructor
    · -- A call is its window and its key, and a completion names both.
      rintro ⟨hwindow, hkey⟩
      rcases call with ⟨service, window, request⟩
      rcases other with ⟨service', window', request'⟩
      cases hwindow
      cases hkey
      rfl
    · rintro rfl
      exact ⟨rfl, rfl⟩
  rw [Call.completions, List.countP_singleton, Call.once]
  simp only [hsame]

/-- The request that a call makes wait counts for it, and for no other. -/
theorem waiting_of_call (call : Call) (now : Instant) (timeout : Option Duration)
    (sources : DataSources) (target : Target) (other : Call) :
    other.waiting [PendingRequest.waitForCard call.key call.window now timeout sources target] =
      call.once other := by
  rw [← PendingRequest.completions_completion other _ .success .none]
  exact completions_of_call rfl call _ .success .none other

theorem complete_keeps (h : p.hub.Sound) {kind : MessageKind} (hkind : kind.eventClass = none)
    (call : Call) (code : UInt32) (result : ResultCode) (payload : Payload) :
    p.hub.Keeps call.once (p.complete kind call code result payload).hub := by
  refine ⟨⟨h.consistent, h.ascending, h.owned⟩, fun other => ?_⟩
  rw [Hub.balance, Hub.balance, complete, World.posts_post, other.completions_append,
    completions_of_call hkind, Nat.add_right_comm]

theorem addRequest_keeps (h : p.hub.Sound) {r : PendingRequest} {p' : Provider σ κ ε}
    (htarget : r.target = Hub.target r.key.service) (hopen : r.key.service ∈ p.hub.handles)
    (hadd : p.addRequest b r = (.ok (), p')) :
    p.hub.Keeps (fun call => call.waiting [r]) p'.hub := by
  rw [addRequest] at hadd
  rcases hkey : p.hub.pending.contains r.key with _ | _
  · rcases h.consistent.add_new hkey with ⟨q, hq, hlive, hconsistent⟩
    rw [hq] at hadd
    cases hadd
    have hadded : p.hub.Keeps (fun call => call.waiting [r]) { p.hub with pending := q } := by
      refine ⟨⟨hconsistent, h.ascending, fun x hx => ?_⟩, fun call => ?_⟩
      · have hmem : x ∈ q.live := hx
        rw [hlive, (enterBy_perm _ _ _).mem_iff, List.mem_cons] at hmem
        rcases hmem with rfl | hmem
        · exact ⟨htarget, hopen⟩
        · exact h.owned x hmem
      · rw [Hub.balance, Hub.balance, hlive, call.waiting_enterBy, ← Nat.add_assoc,
          Nat.add_right_comm]
    exact wakeIf_keeps _ hadded
  · rw [RequestQueue.add_pending hkey] at hadd
    cases hadd

end Provider

namespace Hub

theorem insertSession_perm (session : Session κ) (sessions : List (Session κ)) :
    (insertSession session sessions).Perm (session :: sessions) := by
  induction sessions with
  | nil => exact List.Perm.refl _
  | cons other rest ih =>
      rw [insertSession]
      split
      · exact List.Perm.refl _
      · exact (ih.cons other).trans (List.Perm.swap session other rest)

/-- A session with a new handle goes to its place in the order. -/
theorem insertSession_ascending (session : Session κ) (sessions : List (Session κ))
    (hascending : (sessions.map Session.handle).Pairwise (· < ·))
    (hnew : session.handle ∉ sessions.map Session.handle) :
    ((insertSession session sessions).map Session.handle).Pairwise (· < ·) := by
  induction sessions with
  | nil => exact List.pairwise_singleton _ _
  | cons other rest ih =>
      rw [List.map_cons, List.mem_cons, not_or] at hnew
      rw [List.map_cons, List.pairwise_cons] at hascending
      rw [insertSession]
      by_cases hlt : session.handle < other.handle
      · rw [if_pos hlt, List.map_cons, List.map_cons, List.pairwise_cons, List.pairwise_cons]
        refine ⟨fun handle hmem => ?_, hascending⟩
        rcases List.mem_cons.mp hmem with rfl | hmem
        · exact hlt
        · exact UInt16.lt_trans hlt (hascending.1 handle hmem)
      · -- The new session goes further down, so the first stays the first.
        rw [if_neg hlt, List.map_cons, List.pairwise_cons]
        refine ⟨fun handle hmem => ?_, ih hascending.2 hnew.2⟩
        have hperm := (insertSession_perm session rest).map Session.handle
        rcases List.mem_cons.mp (hperm.mem_iff.mp hmem) with rfl | hmem
        · exact UInt16.lt_of_le_of_ne (UInt16.not_lt.mp hlt) (Ne.symm hnew.1)
        · exact hascending.1 handle hmem

end Hub

namespace Provider

variable {b : Backend σ κ ε} {p : Provider σ κ ε}

/-- A session that is opened has no requests yet. -/
theorem createSession_keeps (h : p.hub.Sound) (handle : ServiceHandle) (settings : Settings)
    (hnew : p.hub.session? handle = none) :
    p.hub.Keeps (fun _ => 0) (p.createSession b handle settings).2.hub := by
  have hnot : handle ∉ p.hub.handles := Hub.session?_eq_none_iff.mp hnew
  have hperm := (Hub.insertSession_perm (Session.start handle settings : Session κ)
    p.hub.sessions).map Session.handle
  have hinserted : p.hub.Keeps (fun _ => 0)
      { p.hub with sessions := Hub.insertSession (Session.start handle settings) p.hub.sessions } :=
    ⟨⟨h.consistent, Hub.insertSession_ascending _ _ h.ascending hnot, fun r hr =>
      ⟨(h.owned r hr).1, hperm.mem_iff.mpr (List.mem_cons_of_mem _ (h.owned r hr).2)⟩⟩,
      fun _ => rfl⟩
  rw [createSession, hnew]
  exact wake_keeps .resync hinserted

/-- A session that is closed takes its requests along. -/
theorem removeSession_keeps (h : p.hub.Sound) (handle : ServiceHandle) :
    p.hub.Keeps (fun _ => 0) (p.removeSession b handle).2.hub := by
  rw [removeSession]
  split
  · exact Hub.Keeps.refl h
  · next session _ =>
      have hends := RequestQueue.cancelService_ends h.consistent handle
      have hsettled : p.hub.Keeps (fun _ => 0)
          (Hub.settle { p.hub with sessions := p.hub.sessions.filter (·.handle != handle) }
            (p.hub.pending.cancelService handle)) := by
        have haccounts := (Hub.settle_keeps h hends PendingRequest.endsOnce_canceled).balance
        refine ⟨⟨hends.consistent, ?_, fun r hr => ?_⟩, haccounts⟩
        · exact h.ascending.sublist (List.filter_sublist.map _)
        · have hlive : r ∈ (p.hub.pending.cancelService handle).queue.live := hr
          rw [hends.live, List.mem_filter, Bool.not_eq_true', beq_eq_false_iff_ne] at hlive
          -- A request that is left has another handle, so its session stays.
          rcases h.owned r hlive.1 with ⟨htarget, hmem⟩
          rcases List.mem_map.mp hmem with ⟨other, hother, hhandle⟩
          refine ⟨htarget, List.mem_map.mpr ⟨other, List.mem_filter.mpr ⟨hother, ?_⟩, hhandle⟩⟩
          rw [hhandle]
          exact bne_iff_ne.mpr hlive.2
      exact disconnect_keeps (p := (settle b _ ⟨_, p.watcher, p.config⟩)) session
        (wakeIf_keeps _ hsettled)

/-- What a call adds to balances: one to its own, if it is accepted with a
    completion to come. -/
def accepted (call? : Option Call) (code : ResultCode) (call : Call) : Nat :=
  if call? = some call ∧ code = .success then 1 else 0

theorem accepted_success (call : Call) : accepted (some call) .success = call.once := by
  funext other
  rw [accepted, Call.once]
  simp only [Option.some.injEq, and_true, eq_comm]

theorem accepted_none (code : ResultCode) : accepted none code = fun _ => 0 := by
  funext other
  exact if_neg fun h => nomatch h.1

theorem accepted_of_ne {call? : Option Call} {code : ResultCode} (h : code ≠ .success) :
    accepted call? code = fun _ => 0 := by
  funext other
  exact if_neg fun haccepted => h haccepted.2

/-- What a call does: it keeps the hub sound, and adds to no balance but its
    own. -/
theorem Course.keeps {call? : Option Call} {result : ResultCode × Provider σ κ ε}
    (hcourse : Course b call? p result) (h : p.hub.Sound) :
    p.hub.Keeps (accepted call? result.1) result.2.hub := by
  -- Three of the ways end in a completion, after a change that counts nothing.
  have hcompleted : ∀ {p' : Provider σ κ ε} {call : Call} {kind : MessageKind}
      (code : UInt32) (result : ResultCode) (payload : Payload), kind.eventClass = none →
        p.hub.Keeps (fun _ => 0) p'.hub →
          p.hub.Keeps (accepted (some call) .success)
            (p'.complete kind call code result payload).hub := by
    intro p' call kind code result payload hkind hkeeps
    rw [accepted_success]
    exact (hkeeps.trans (complete_keeps hkeeps.sound hkind call code result payload)).congr
      fun other => Nat.zero_add _
  cases hcourse with
  | refused hcode hcalm =>
      rw [accepted_of_ne hcode]
      exact hcalm.hub.keeps h
  | done hcall hcalm =>
      rw [hcall, accepted_none]
      exact hcalm.hub.keeps h
  | completed hcall hkind hcalm =>
      rw [hcall]
      exact hcompleted _ _ _ hkind (hcalm.hub.keeps h)
  | opened hcall settings hnew =>
      rw [hcall]
      exact hcompleted _ _ _ rfl (createSession_keeps h _ settings hnew)
  | closed hcall hopen =>
      rw [hcall]
      exact hcompleted _ _ _ rfl (removeSession_keeps h _)
  | queued hcall hcalm hopen now timeout sources hadd =>
      have hkeeps := hcalm.hub.keeps h
      rw [← hcalm.hub.handles] at hopen
      have hadded := hkeeps.trans (addRequest_keeps hkeeps.sound rfl hopen hadd)
      rw [hcall, accepted_success]
      refine hadded.congr fun other => ?_
      rw [waiting_of_call, Nat.zero_add]
  | calledOff hcall hsettled code =>
      rw [hcall, accepted_none]
      rcases hsettled with ⟨key, rfl⟩ | ⟨handle, rfl⟩
      · exact settle_keeps h (RequestQueue.cancel_ends h.consistent key)
          PendingRequest.endsOnce_canceled
      · exact settle_keeps h (RequestQueue.cancelService_ends h.consistent handle)
          PendingRequest.endsOnce_canceled

end Provider

end CardHost
