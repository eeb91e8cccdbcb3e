import CardHost.Proofs.Members
import CardHost.Proofs.Runs

/-!
# Which Requests a Report Ends

A request asks its binding whether it accepts a reader, and an unbound one
accepts any. That this never ends a request whose session is not bound to the
reported reader is due to the order of things: a report goes to the sessions
first, and the insertion of a card leaves no session unbound. By the time the
requests are asked, accepting the reader and being bound to it are the same.

This needs that a request looks at the binding of an open session, and that it
finds the right one there, which is what `Hub.Sound` says of every hub that a
run can lead to.

## Main definitions

* `PendingRequest.Delivers`: A message completes a request with the data of a card.
* `Hub.awaits`: The sessions are such that a report ends a request.

## Theorems

* `completion_delivers`: The completion of a served request does.
* `binding_of_session`: A request finds the binding of its session.
* `informed_isBound`: After an insertion every session is bound.
* `isServedBy_eq_awaits`: What ends a request, in terms of its session.
* `onChange_posts`, `onChange_live`: What a report posts, and whom it leaves waiting.
* `onChange_unminded`: A report that concerns neither sessions nor requests.
* `onChange_ends`: What a report does, from a sound hub.
* `run_onChange_ends`: What a report does after any run.
-/

namespace CardHost

variable {σ κ ε : Type}

/-- A report that serves nobody leaves the queue as it is. -/
theorem RequestQueue.notifyChange_unserved {q : RequestQueue} {bindings : Nat → Binding}
    {s : Snapshot} {kind : ChangeKind}
    (h : ∀ r ∈ q.live, r.isServedBy bindings s kind = false) :
    q.notifyChange bindings s kind = ⟨0, [], q⟩ := by
  have hkeys : q.servedKeys bindings s kind = [] := by
    refine List.filter_eq_nil_iff.mpr fun key hkey => ?_
    split
    · next slot r hfind =>
        rw [h r (List.mem_filterMap.mpr ⟨key, hkey, by rw [hfind]; rfl⟩)]
        exact Bool.false_ne_true
    · exact Bool.false_ne_true
  rw [notifyChange, hkeys]
  rfl

namespace PendingRequest

/-- A message completes a request with what was asked for of a card that answered to
    reset with `atr`: there is an element for each source, and that of the chip is the
    answer to reset. -/
structure Delivers (r : PendingRequest) (atr : Bytes) (message : Message) : Prop where
  kind : message.kind = .executeComplete
  service : message.service = r.key.service
  request : message.request = r.key.request
  result : message.result = .success
  payload : ∃ data, message.payload = .cardData data ∧ CardData.Partitions r.sources atr data

/-- The completion of a served request delivers the data. -/
theorem completion_delivers (r : PendingRequest) (atr : Bytes) :
    r.Delivers atr (r.completion .success (.cardData (CardData.read r.sources atr))) where
  kind := rfl
  service := rfl
  request := rfl
  result := rfl
  payload := ⟨_, rfl, CardData.read_partitions r.sources atr⟩

end PendingRequest

namespace Hub

/-- Whether a report ends a request: a card was inserted, and the session of
    the request is bound to exactly the reader it was inserted into. -/
def awaits (hub : Hub σ κ ε) (state : Snapshot) (kind : ChangeKind) (r : PendingRequest) : Bool :=
  kind == .card && state.inserted && hub.sessions.any fun session =>
    session.handle == r.key.service && session.binding.isBoundTo state.name

variable {b : Backend σ κ ε} {state : Snapshot} {kind : ChangeKind} {hub : Hub σ κ ε}
  {session : Session κ}

theorem eq_of_handle_eq (h : hub.handles.Pairwise (· < ·)) {session' : Session κ}
    (hs : session ∈ hub.sessions) (hs' : session' ∈ hub.sessions)
    (hhandle : session.handle = session'.handle) : session = session' := by
  have hnodup : hub.handles.Nodup := h.imp UInt16.ne_of_lt
  exact List.inj_on_of_nodup_map hnodup hs hs' hhandle

/-- A request finds the binding of its session. -/
theorem binding_of_session (h : hub.handles.Pairwise (· < ·)) (hs : session ∈ hub.sessions) :
    hub.binding session.handle.toNat = session.binding := by
  unfold binding
  split
  · next found hfind =>
      have hmatch := List.find?_some hfind
      have hhandle : found.handle = session.handle := UInt16.toNat_inj.mp (beq_iff_eq.mp hmatch)
      rw [eq_of_handle_eq h (List.mem_of_find?_eq_some hfind) hs hhandle]
  · next hnone => exact absurd (beq_self_eq_true _) (List.find?_eq_none.mp hnone session hs)

/-- After an insertion every session is bound. -/
theorem informed_isBound (b : Backend σ κ ε) {state : Snapshot} (hinserted : state.inserted = true)
    (hs : session ∈ (hub.informed b state .card).sessions) : session.binding.isBound = true := by
  have hall : ∀ (sessions : List (Session κ)) (w : World σ ε),
      ∀ s ∈ (notifySessions b state .card sessions w).1, s.binding.isBound = true := by
    intro sessions
    induction sessions with
    | nil => exact fun w s hs => nomatch hs
    | cons first rest ih =>
        intro w s hs
        rw [notifySessions] at hs
        rcases List.mem_cons.mp hs with hfirst | hs
        · rw [hfirst, (first.notify_card (b := b) state w).binding]
          exact first.informed_isBound hinserted
        · exact ih _ s hs
  exact hall hub.sessions hub.world session hs

/-- What ends a request, in terms of its session. -/
theorem isServedBy_eq_awaits (b : Backend σ κ ε) (state : Snapshot) (kind : ChangeKind)
    (h : hub.Sound) {r : PendingRequest} (hr : r ∈ hub.pending.live) :
    r.isServedBy (hub.informed b state kind).binding state kind =
      (hub.informed b state kind).awaits state kind r := by
  have hinformed := ((informed_quiet b state kind hub).keeps h).sound
  rcases hinformed.owned r hr with ⟨htarget, hmem⟩
  rcases List.mem_map.mp hmem with ⟨session, hsession, hhandle⟩
  rw [PendingRequest.isServedBy, awaits, htarget, target, Target.binding, ← hhandle,
    binding_of_session hinformed.ascending hsession]
  -- Only the session of the request has its handle.
  have hany : ((hub.informed b state kind).sessions.any fun s =>
      s.handle == session.handle && s.binding.isBoundTo state.name) =
        session.binding.isBoundTo state.name := by
    rw [Bool.eq_iff_iff, List.any_eq_true]
    constructor
    · rintro ⟨s, hs, hfound⟩
      rw [Bool.and_eq_true, beq_iff_eq] at hfound
      rw [← eq_of_handle_eq hinformed.ascending hs hsession hfound.1]
      exact hfound.2
    · intro hbound
      exact ⟨session, hsession, by rw [hbound, beq_self_eq_true, Bool.and_self]⟩
  rw [hany]
  cases kind with
  | deviceList => rfl
  | card =>
      by_cases hinserted : state.inserted = true
      · -- Here the order counts: by now the session is bound to some reader.
        rcases Option.isSome_iff_exists.mp (informed_isBound b hinserted hsession) with
          ⟨name, hname⟩
        rw [Binding.accepts, Binding.isBoundTo, hname]
        rfl
      · rw [eq_false_of_ne_true hinserted, Bool.and_false, Bool.false_and, Bool.false_and]

/-- A report that tells no session anything leaves the sessions as they are. -/
theorem informed_indifferent (h : ∀ s ∈ hub.sessions, s.Indifferent b state kind) :
    hub.informed b state kind = hub := by
  have hall : ∀ sessions : List (Session κ), (∀ s ∈ sessions, s.Indifferent b state kind) →
      ∀ w, notifySessions b state kind sessions w = (sessions, w) := by
    intro sessions
    induction sessions with
    | nil => exact fun _ _ => rfl
    | cons first rest ih =>
        intro hsessions w
        have hfirst := hsessions first List.mem_cons_self w
        have hrest := ih (fun s hs => hsessions s (List.mem_cons_of_mem _ hs)) w
        simp only [notifySessions, hfirst, hrest]
  rw [informed, hall hub.sessions h]

/-- What a report posts: first the sessions report, and then the requests are ended
    that it serves. -/
theorem onChange_posts (b : Backend σ κ ε) (state : Snapshot) (kind : ChangeKind)
    (h : hub.pending.Consistent) :
    let served := hub.pending.live.filter
      (·.isServedBy (hub.onChange b state kind).binding state kind)
    ∃ reports, (hub.onChange b state kind).world.posts = hub.world.posts ++ reports ++
        served.flatMap (fun r => r.toWindow (r.served state.atr)) ∧
      ∀ post ∈ reports, ∃ s ∈ hub.sessions,
        post.Reports s.handle ∧ ¬s.Indifferent b state kind := by
  intro served
  rcases notifySessions_reports b state kind hub.sessions hub.world with
    ⟨reports, hposts, hreports⟩
  refine ⟨reports, ?_, hreports⟩
  have hends := RequestQueue.notifyChange_ends (q := (hub.informed b state kind).pending) h
    (hub.informed b state kind).binding state kind
  rw [← hposts, ← World.posts_post]
  exact congrArg (fun posts => ((hub.informed b state kind).world.post posts).posts) hends.posts

/-- Whom a report leaves waiting. -/
theorem onChange_live (b : Backend σ κ ε) (state : Snapshot) (kind : ChangeKind)
    (h : hub.pending.Consistent) :
    (hub.onChange b state kind).pending.live = hub.pending.live.filter fun r =>
      !r.isServedBy (hub.onChange b state kind).binding state kind :=
  (RequestQueue.notifyChange_ends (q := (hub.informed b state kind).pending) h
    (hub.informed b state kind).binding state kind).live

/-- A report that no session takes in, and that serves nobody, changes nothing. -/
theorem onChange_unminded (hsessions : ∀ s ∈ hub.sessions, s.Indifferent b state kind)
    (hserved : ∀ r ∈ hub.pending.live, r.isServedBy hub.binding state kind = false) :
    hub.onChange b state kind = hub := by
  show (hub.informed b state kind).settle ((hub.informed b state kind).pending.notifyChange
    (hub.informed b state kind).binding state kind) = hub
  rw [informed_indifferent hsessions, RequestQueue.notifyChange_unserved hserved]
  show { hub with world := hub.world.post [] } = hub
  rw [World.post, List.map_nil, List.append_nil]

/-- So it is with a report about the list of readers. -/
theorem onChange_deviceList (b : Backend σ κ ε) (state : Snapshot) (hub : Hub σ κ ε) :
    hub.onChange b state .deviceList = hub :=
  onChange_unminded (fun s _ => s.notify_deviceList state) fun _ _ => rfl

/-- What a report does. Each request that it ends is told so and completed, in
    the order of deadlines; the others wait on. -/
theorem onChange_ends (b : Backend σ κ ε) (state : Snapshot) (kind : ChangeKind)
    (h : hub.Sound) :
    let informed := hub.informed b state kind
    let after := hub.onChange b state kind
    after.sessions = informed.sessions ∧
      (after.pending.live = hub.pending.live.filter fun r => !informed.awaits state kind r) ∧
      ∃ reports, (after.world.posts = hub.world.posts ++ reports ++
          (hub.pending.live.filter (informed.awaits state kind)).flatMap fun r =>
            [⟨r.window, Message.event .executeEvent r.key .mediaInserted .none⟩,
             ⟨r.window, r.completion .success (.cardData (CardData.read r.sources state.atr))⟩]) ∧
        ∀ post ∈ reports, ∃ session ∈ hub.sessions, post.Reports session.handle := by
  intro informed after
  have hawaits : ∀ r ∈ hub.pending.live,
      r.isServedBy after.binding state kind = informed.awaits state kind r :=
    fun r hr => isServedBy_eq_awaits b state kind h hr
  rcases onChange_posts b state kind h.consistent with ⟨reports, hposts, hreports⟩
  refine ⟨rfl, ?_, reports, ?_, fun post hpost => ?_⟩
  · exact (onChange_live b state kind h.consistent).trans
      (List.filter_congr fun r hr => congrArg (!·) (hawaits r hr))
  · rw [List.filter_congr hawaits] at hposts
    exact hposts
  · rcases hreports post hpost with ⟨session, hsession, hreport, -⟩
    exact ⟨session, hsession, hreport⟩

end Hub

namespace Provider

variable (b : Backend σ κ ε)

/-- What a report does after any run. It ends a request if and only if a card
    was inserted and, with all sessions informed, the session of the request is
    bound to exactly the reported reader. Such a request gets an event and
    right after it a completion with the data of the card, on its own window;
    the others wait on, and apart from these messages only events of sessions
    are posted. The data has an element for each source that was asked for, and
    that of the chip is the answer to reset of the report. A report about the
    list of readers changes nothing at all. -/
theorem run_onChange_ends (hardware : σ) (config : Config) (events : List (Event σ))
    (state : Snapshot) (kind : ChangeKind) :
    let hub := ((start { hardware } config : Provider σ κ ε).run b events).2.hub
    let informed := hub.informed b state kind
    let after := hub.onChange b state kind
    after.sessions = informed.sessions ∧
      (∀ r ∈ hub.pending.live, r ∉ after.pending.live ↔
        kind = .card ∧ state.inserted = true ∧ ∃ session ∈ informed.sessions,
          session.handle = r.key.service ∧ session.binding.isBoundTo state.name = true) ∧
      (after.pending.live = hub.pending.live.filter fun r => !informed.awaits state kind r) ∧
      (∃ reports, (after.world.posts = hub.world.posts ++ reports ++
          (hub.pending.live.filter (informed.awaits state kind)).flatMap fun r =>
            [⟨r.window, Message.event .executeEvent r.key .mediaInserted .none⟩,
             ⟨r.window, r.completion .success (.cardData (CardData.read r.sources state.atr))⟩]) ∧
        ∀ post ∈ reports, ∃ session ∈ hub.sessions, post.Reports session.handle) ∧
      (∀ r : PendingRequest, r.Delivers state.atr
        (r.completion .success (.cardData (CardData.read r.sources state.atr)))) ∧
      hub.onChange b state .deviceList = hub := by
  intro hub informed after
  rcases Hub.onChange_ends b state kind (run_sound b hardware config events) with
    ⟨hsessions, hlive, hposts⟩
  refine ⟨hsessions, fun r hr => ?_, hlive, hposts, fun r => r.completion_delivers state.atr,
    hub.onChange_deviceList b state⟩
  have hmem : r ∉ after.pending.live ↔ informed.awaits state kind r = true := by
    rw [hlive, List.mem_filter, not_and, Bool.not_eq_true, Bool.not_eq_false']
    exact ⟨fun h => h hr, fun h _ => h⟩
  rw [hmem, Hub.awaits, Bool.and_eq_true, Bool.and_eq_true, List.any_eq_true, beq_iff_eq,
    and_assoc]
  simp only [Bool.and_eq_true, beq_iff_eq]

end Provider

end CardHost
