import CardHost.Proofs.Duplicates
import CardHost.Proofs.Insertions
import CardHost.Proofs.Members

/-!
# A Read Answered at Once and One Answered Later

There are two places where a read is completed with the data of a card. If the card is
there, the call asks it for its status and completes the read before it returns. If it
is not, the read waits as a request, and whoever dispatches the report of an insertion
completes it, with what the report says of the card. The two share no code but the
function that makes the list of data: one goes from the call, the other from what was
stored of the call, one has the answer to reset from the card, the other from a report.

`done` is the message of the first. That the second posts the very same is a matter of
what was stored, so the request is followed from the call that queued it, through
whatever happens while it waits, to the report that ends it. There it is one of several
that the report may end. Each of them gets two messages under its own key, and keys are
all different, so of what is posted under the key nothing belongs to anyone else.

## Main definitions

* `Post.answers`: A post is an event or the completion of a command under a key.
* `Provider.Delivers`: By a report a read is completed.

## Theorems

* `onChange_delivers`: What a report posts for one of the requests that it ends.
* `readRawData_found`, `readRawData_waits`: A read that finds a card, and one that waits.
* `reads_agree`: Both are completed with the same message.
-/

namespace CardHost

variable {σ κ ε : Type}

/-- A post is an event or the completion of the command under a key. -/
def Post.answers (key : RequestKey) (post : Post) : Bool :=
  post.message.key == key &&
    (post.message.kind == .executeEvent || post.message.kind == .executeComplete)

/-- What a session reports answers no command. -/
theorem Post.Reports.answers {handle : ServiceHandle} {post : Post} (h : post.Reports handle)
    (key : RequestKey) : post.answers key = false := by
  rw [Post.answers]
  rcases h.1 with hkind | hkind
  · rw [hkind]
    exact Bool.and_false _
  · rw [hkind]
    exact Bool.and_false _

/-- The messages of a request are under its own key. -/
theorem PendingRequest.answers_served {r : PendingRequest} {atr : Bytes} {key : RequestKey}
    (hkey : r.key ≠ key) {post : Post} (hpost : post ∈ r.toWindow (r.served atr)) :
    post.answers key = false := by
  rw [toWindow, served, List.map_cons, List.map_cons, List.map_nil, List.mem_cons,
    List.mem_singleton] at hpost
  have hother : (r.key == key) = false := beq_eq_false_iff_ne.mpr hkey
  rcases hpost with rfl | rfl
  · exact congrArg (· && _) hother
  · exact congrArg (· && _) hother

/-- No two requests that wait are under one key. -/
theorem RequestQueue.Consistent.nodup_live {q : RequestQueue} (h : q.Consistent) :
    (q.live.map PendingRequest.key).Nodup := by
  rcases h with ⟨agenda, h⟩
  rw [h.live_eq, List.map_map]
  exact h.keys

namespace Hub

variable {hub : Hub σ κ ε} {state : Snapshot} {r : PendingRequest}

/-- What a report posts for one of the requests that it ends: the event and then the
    completion, and nothing else under its key. -/
theorem onChange_delivers (b : Backend σ κ ε) (h : hub.Sound) (hr : r ∈ hub.pending.live)
    (hawaits : (hub.informed b state .card).awaits state .card r = true) :
    ∃ before after, (hub.onChange b state .card).world.posts =
        hub.world.posts ++ before ++ r.toWindow (r.served state.atr) ++ after ∧
      ∀ post ∈ before ++ after, post.answers r.key = false := by
  rcases onChange_ends b state .card h with ⟨-, -, reports, hposts, hreports⟩
  have hmem := List.mem_filter.mpr ⟨hr, hawaits⟩
  have hnodup := h.consistent.nodup_live.sublist
    (List.filter_sublist (p := (hub.informed b state .card).awaits state .card).map
      PendingRequest.key)
  rcases List.append_of_mem hmem with ⟨first, last, hsplit⟩
  rw [hsplit] at hposts hnodup
  refine ⟨reports ++ first.flatMap fun r => r.toWindow (r.served state.atr),
    last.flatMap fun r => r.toWindow (r.served state.atr), ?_, fun post hpost => ?_⟩
  · rw [hposts, List.flatMap_append, List.flatMap_cons]
    simp only [List.append_assoc]
    rfl
  · -- Whoever is served before or after it has another key.
    rw [List.map_append, List.map_cons, List.nodup_middle, List.nodup_cons, List.mem_append,
      not_or] at hnodup
    have hothers : ∀ served : List PendingRequest, r.key ∉ served.map PendingRequest.key →
        post ∈ served.flatMap (fun r => r.toWindow (r.served state.atr)) →
          post.answers r.key = false := by
      intro served hnot hpost
      rcases List.mem_flatMap.mp hpost with ⟨other, hother, hpost⟩
      exact PendingRequest.answers_served
        (fun hkey => hnot (List.mem_map.mpr ⟨other, hother, hkey⟩)) hpost
    rcases List.mem_append.mp hpost with hpost | hpost
    · rcases List.mem_append.mp hpost with hpost | hpost
      · rcases hreports post hpost with ⟨session, -, hreport⟩
        exact hreport.answers r.key
      · exact hothers first hnodup.1.1 hpost
    · exact hothers last hnodup.1.2 hpost

end Hub

namespace Provider

variable {b : Backend σ κ ε} {p : Provider σ κ ε} {call : Call} {session : Session κ}
  {sources : DataSources}

/-- A read that finds a card is completed at once. -/
theorem readRawData_found (h : session.Anchored) (hsources : sources ≠ 0#16)
    {status : CardStatus} (hfound : (session.look b p.hub.world.hardware).1 = .ok status)
    (now : Instant) (timeout : Option Duration) :
    let (code, p') := p.readRawData b call now timeout sources session
    code = .success ∧
      p'.hub.world.posts = p.hub.world.posts ++ [done call sources status.atr] := by
  have hattempt := readNow_found (b := b) h sources p
  have hposts := (readNow_silent (b := b) sources session p).2
  rw [hfound] at hattempt
  simp only [readRawData, if_neg hsources]
  rcases hread : p.readNow b sources session with ⟨attempt, p'⟩
  rw [hread] at hattempt hposts
  cases hattempt
  exact ⟨rfl, (World.posts_post _ _).trans (congrArg (· ++ _) hposts)⟩

/-- A read that finds none waits, unless one already does under its key. -/
theorem readRawData_waits (hconsistent : p.hub.pending.Consistent) (h : session.Anchored)
    (hsources : sources ≠ 0#16) {e : CardError}
    (hfound : (session.look b p.hub.world.hardware).1 = .error e) (habsent : e.isAbsence = true)
    (hnew : p.hub.pending.contains call.key = false) (now : Instant)
    (timeout : Option Duration) :
    let (code, p') := p.readRawData b call now timeout sources session
    code = .success ∧ p'.hub.world.posts = p.hub.world.posts ∧
      call.readRequest now timeout sources ∈ p'.hub.pending.live := by
  have hattempt := readNow_found (b := b) h sources p
  rcases readNow_silent (b := b) sources session p with ⟨hpending, hposts⟩
  rw [hfound, Attempt.ofFound, if_pos habsent] at hattempt
  simp only [readRawData, if_neg hsources]
  rcases hread : p.readNow b sources session with ⟨attempt, p'⟩
  rw [hread] at hattempt hposts hpending
  cases hattempt
  -- The attempt left the queue as it was, so the key is as free as before.
  simp only at hpending
  have hfree : p'.hub.pending.contains call.key = false := hpending ▸ hnew
  have hqueued := enqueue_new (b := b) sources (hpending ▸ hconsistent) hfree now timeout
  exact ⟨hqueued.1, hqueued.2.2.posts.trans hposts, hqueued.2.2.mem_iff.mpr (.inl rfl)⟩

/-- A session that is bound to the reader once it took in a report awaits the card. -/
theorem awaits_of_bound {hub : Hub σ κ ε} {state : Snapshot} {r : PendingRequest}
    (hinserted : state.inserted = true) (hopen : hub.session? r.key.service = some session)
    (hbound : session.binding.isBoundTo state.name = true) : hub.awaits state .card r = true := by
  rcases Hub.mem_handles_of_session? hopen with ⟨hmem, hhandle⟩
  rw [Hub.awaits, hinserted, Bool.and_eq_true, List.any_eq_true]
  exact ⟨rfl, session, hmem, by rw [hhandle, hbound, beq_self_eq_true, Bool.and_self]⟩

/-- By a report a read is completed with the data of the card, right after one event
    that tells of the card, and nothing else that is posted answers the command. -/
def Delivers (b : Backend σ κ ε) (call : Call) (sources : DataSources) (atr : Bytes)
    (state : Snapshot) (hub : Hub σ κ ε) : Prop :=
  ∃ before after, (hub.onChange b state .card).world.posts = hub.world.posts ++ before ++
      [⟨call.window, Message.event .executeEvent call.key .mediaInserted .none⟩,
       done call sources atr] ++ after ∧
    ∀ post ∈ before ++ after, post.answers call.key = false

/-- A read that finds a card and one that waits for it are completed with the same
    message, whatever is asked for and whatever the card answers to reset. If a session
    finds a card, after any run, the read is accepted and `done` is all that is posted.
    If it finds none, and nothing waits under the key, the read is accepted, nothing is
    posted and a request is queued. Whatever happens then: if the request still waits
    when a card that answers alike is reported to be inserted, into the reader that the
    session is bound to by then, the same `done` is delivered. The data in it take the
    request apart. -/
theorem reads_agree (b : Backend σ κ ε) (hardware : σ) (config : Config)
    (events : List (Event σ)) (now : Instant) (entry : Entry) (call : Call)
    (sources : DataSources) (atr : Bytes) (hreads : entry.reads? = some (call, sources))
    (hsources : sources ≠ 0#16) :
    let p := ((start { hardware } config : Provider σ κ ε).run b events).2
    let result := p.enter b now entry
    (∀ session, p.hub.session? call.service = some session →
      (∀ status, (session.look b p.hub.world.hardware).1 = .ok status → status.atr = atr →
        result.1 = .success ∧
          result.2.hub.world.posts = p.hub.world.posts ++ [done call sources atr]) ∧
      (∀ e, (session.look b p.hub.world.hardware).1 = .error e → e.isAbsence = true →
        p.hub.pending.contains call.key = false →
          result.1 = .success ∧ result.2.hub.world.posts = p.hub.world.posts ∧
            ∃ r ∈ result.2.hub.pending.live, r.key = call.key ∧
              ∀ (meanwhile : List (Event σ)) (state : Snapshot) (session' : Session κ),
                let hub := (result.2.run b meanwhile).2.hub
                r ∈ hub.pending.live → state.inserted = true → state.atr = atr →
                  (hub.informed b state .card).session? call.service = some session' →
                    session'.binding.isBoundTo state.name = true →
                      Delivers b call sources atr state hub)) ∧
      CardData.Partitions sources atr (CardData.read sources atr) := by
  intro p result
  have hsound : p.hub.Sound := run_sound b hardware config events
  have hsound' : result.2.hub.Sound := ((enter_course b now entry p).keeps hsound).sound
  refine ⟨fun session hopen => ?_, CardData.read_partitions sources atr⟩
  have hanchored := run_anchored b hardware config events call.service session hopen
  rcases enter_reads (b := b) hopen hreads now with ⟨timeout, henter⟩
  have hresult : result = p.readRawData b call now timeout sources session := henter
  refine ⟨fun status hfound hatr => ?_, fun e hfound habsent hnew => ?_⟩
  · rw [hresult, ← hatr]
    exact readRawData_found hanchored hsources hfound now timeout
  · have hwaits := readRawData_waits hsound.consistent hanchored hsources hfound habsent hnew now
      timeout
    rw [← hresult] at hwaits
    refine ⟨hwaits.1, hwaits.2.1, _, hwaits.2.2, rfl, fun meanwhile state session' => ?_⟩
    intro hub hlive hinserted hatr hthere hbound
    have hlater : hub.Sound := (run_keeps b meanwhile _ hsound').sound
    -- What is delivered is made of the request, and that was made of the call.
    rw [← hatr]
    exact hub.onChange_delivers b hlater hlive
      (awaits_of_bound (r := call.readRequest now timeout sources) hinserted hthere hbound)

end Provider

namespace Simulation

/-- A read of the chip and of a source that has no name. -/
def chipAndMore : Entry := .execute ⟨1, 1, 2⟩ none (.readRawData 0x8008#16)

/-- The card is there when it is read, and the card is reported while the read waits. -/
theorem reads_agree_chipAndMore :
    let opened : List (Event Hall) := [.enter 0 (.openSession ⟨1, 1, 1⟩ "L" 0)]
    let filled : Event Hall := .happen (oneReader.happen (.insert "A" [0x3b, 0x8f] none 0#32))
    let start : Provider Hall Connection Note :=
      Provider.start { hardware := oneReader } (configuredTo "A")
    let p := (start.run backend (opened ++ [filled])).2
    let p' := (start.run backend opened).2
    (p.enter backend 0 chipAndMore).2.hub.world.posts =
        p.hub.world.posts ++ [Provider.done ⟨1, 1, 2⟩ 0x8008#16 [0x3b, 0x8f]] ∧
      Provider.Delivers backend ⟨1, 1, 2⟩ 0x8008#16 [0x3b, 0x8f]
        ⟨"A", 0#32, 0x10022#32, [0x3b, 0x8f]⟩ (p'.enter backend 0 chipAndMore).2.hub := by
  intro opened filled start p p'
  have hfound := Provider.reads_agree backend oneReader (configuredTo "A") (opened ++ [filled]) 0
    chipAndMore ⟨1, 1, 2⟩ 0x8008#16 [0x3b, 0x8f] rfl (by decide)
  have hwaits := Provider.reads_agree backend oneReader (configuredTo "A") opened 0
    chipAndMore ⟨1, 1, 2⟩ 0x8008#16 [0x3b, 0x8f] rfl (by decide)
  rcases (hwaits.1 _ rfl).2 _ rfl rfl (by decide) with ⟨-, -, r, hr, -, hdelivers⟩
  exact ⟨((hfound.1 _ rfl).1 _ rfl rfl).2, hdelivers [] _ _ hr rfl rfl rfl rfl⟩

end Simulation

end CardHost
