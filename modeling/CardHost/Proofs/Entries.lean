import CardHost.Proofs.Sessions
import CardHost.Provider

/-!
# How a Call to the Provider Can Go

There are twelve entry points and many more ways through them, but only seven
kinds of outcome. A call is refused; or it does something to one session and is
completed; or it has no completion to post. Apart from these, which leave the
pending requests and the watcher alone, a call opens a session, closes one, lets
a read wait, or calls requests off.

`Course` lists the kinds, and `enter_course` finds the kind of every call. What
is to be shown of all calls is then shown of seven kinds, whatever it is, and
no other proof opens an entry point.

## Main definitions

* `Entry`: The entry points, as data.
* `Provider.enter`: Call an entry point.
* `Hub.Quiet`: A change of the hub without consequences for anyone's requests.
* `Provider.Calm`: The same of a provider, whose watcher does not notice.
* `Provider.Course`: How a call can go.

## Theorems

* `onSession_calm`: Using a session disturbs nobody.
* `enter_course`: Every call goes in one of the listed ways.
-/

namespace CardHost

/-- The entry points, with what a client passes to them. -/
inductive Entry where
  | openSession (call : Call) (logicalName : String) (traceLevel : UInt32)
  | closeSession (call : Call)
  | lock (call : Call)
  | unlock (call : Call)
  | register (call : Call) (classes : BitVec 32) (window : Window)
  | deregister (call : Call) (classes : BitVec 32) (window : Option Window)
  | getInfo (call : Call) (category : UInt32)
  | execute (call : Call) (timeout : Option Duration) (command : Command)
  | executeRaw (call : Call) (timeout : Option Duration) (code : UInt32) (data : Bytes)
  | cancelAsync (handle : ServiceHandle) (request : Option RequestId)
  | setTraceLevel (handle : ServiceHandle) (level : UInt32)
  | unload
  | reload (config : Config)

/-- The call that is owed a completion if it is accepted. -/
def Entry.call? : Entry → Option Call
  | openSession call _ _ | closeSession call | lock call | unlock call | register call _ _
  | deregister call _ _ | getInfo call _ | execute call _ _ | executeRaw call _ _ _ => some call
  | cancelAsync _ _ | setTraceLevel _ _ | unload | reload _ => none

variable {σ κ ε α : Type}

/-- Call an entry point. -/
def Provider.enter (b : Backend σ κ ε) (now : Instant) (entry : Entry) (p : Provider σ κ ε) :
    ResultCode × Provider σ κ ε :=
  match entry with
  | .openSession call logicalName traceLevel => p.openSession b call logicalName traceLevel
  | .closeSession call => p.closeSession b call
  | .lock call => p.lock b call
  | .unlock call => p.unlock b call
  | .register call classes window => p.register call classes window
  | .deregister call classes window => p.deregister call classes window
  | .getInfo call category => p.getInfo b call category
  | .execute call timeout command => p.execute b call now timeout command
  | .executeRaw call timeout code data => p.executeRaw b call now timeout code data
  | .cancelAsync handle request => p.cancelAsync b handle request
  | .setTraceLevel handle level => p.setTraceLevel handle level
  | .unload => (p.unload, p)
  | .reload config => (.success, p.reload config)

namespace Hub

/-- A change of the hub that leaves requests and handles as they are, and posts
    nothing but events. -/
structure Quiet (hub hub' : Hub σ κ ε) : Prop where
  pending : hub'.pending = hub.pending
  handles : hub'.handles = hub.handles
  posts : ∃ posts, hub'.world.posts = hub.world.posts ++ posts ∧
    ∀ post ∈ posts, post.message.isCompletion = false

theorem Quiet.of_silent {hub hub' : Hub σ κ ε} (hpending : hub'.pending = hub.pending)
    (hhandles : hub'.handles = hub.handles) (hposts : hub'.world.posts = hub.world.posts) :
    hub.Quiet hub' :=
  ⟨hpending, hhandles, [], by rw [hposts, List.append_nil], fun _ hpost => nomatch hpost⟩

theorem Quiet.refl (hub : Hub σ κ ε) : hub.Quiet hub := of_silent rfl rfl rfl

theorem Quiet.trans {hub hub' hub'' : Hub σ κ ε} (h : hub.Quiet hub') (h' : hub'.Quiet hub'') :
    hub.Quiet hub'' := by
  rcases h.posts with ⟨posts, hposts, hevents⟩
  rcases h'.posts with ⟨posts', hposts', hevents'⟩
  refine ⟨h'.pending.trans h.pending, h'.handles.trans h.handles, posts ++ posts', ?_,
    fun post hpost => (List.mem_append.mp hpost).elim (hevents post) (hevents' post)⟩
  rw [hposts', hposts, List.append_assoc]

/-- A call to the backend. -/
theorem Quiet.call (hub : Hub σ κ ε) (f : σ → Reply σ ε α) :
    hub.Quiet { hub with world := (hub.world.call f).2 } :=
  of_silent rfl rfl (World.posts_call f hub.world)

theorem replace_handles (hub : Hub σ κ ε) (session : Session κ) :
    (hub.replace session).handles = hub.handles := by
  rw [handles, replace, List.map_map]
  refine List.map_congr_left fun s _ => ?_
  rw [Function.comp_apply]
  split
  · next h => exact h.symm
  · rfl

/-- A session found under a handle is one of the open ones. -/
theorem mem_handles_of_session? {hub : Hub σ κ ε} {handle : ServiceHandle} {session : Session κ}
    (h : hub.session? handle = some session) :
    session ∈ hub.sessions ∧ session.handle = handle := by
  have hmatch := List.find?_some h
  exact ⟨List.mem_of_find?_eq_some h, beq_iff_eq.mp hmatch⟩

/-- No session is found under a handle that no session has. -/
theorem session?_eq_none_iff {hub : Hub σ κ ε} {handle : ServiceHandle} :
    hub.session? handle = none ↔ handle ∉ hub.handles := by
  rw [session?, List.find?_eq_none, handles, List.mem_map]
  constructor
  · rintro hnone ⟨session, hmem, hhandle⟩
    exact hnone session hmem (beq_iff_eq.mpr hhandle)
  · intro hnone session hmem hmatch
    exact hnone ⟨session, hmem, beq_iff_eq.mp hmatch⟩

/-- Under every handle in the table a session is found. -/
theorem session?_of_mem_handles {hub : Hub σ κ ε} {handle : ServiceHandle}
    (h : handle ∈ hub.handles) : ∃ session, hub.session? handle = some session := by
  rcases hfound : hub.session? handle with _ | session
  · exact absurd h (session?_eq_none_iff.mp hfound)
  · exact ⟨session, rfl⟩

end Hub

namespace Provider

variable {b : Backend σ κ ε} {p p' p'' : Provider σ κ ε}

/-- A change of the provider that disturbs neither requests nor watcher. -/
structure Calm (p p' : Provider σ κ ε) : Prop where
  hub : p.hub.Quiet p'.hub
  watcher : p'.watcher = p.watcher

theorem Calm.refl (p : Provider σ κ ε) : p.Calm p := ⟨Hub.Quiet.refl p.hub, rfl⟩

theorem Calm.trans (h : p.Calm p') (h' : p'.Calm p'') : p.Calm p'' :=
  ⟨h.hub.trans h'.hub, h'.watcher.trans h.watcher⟩

/-- Using a session disturbs nobody. -/
theorem onSession_calm (use : Session κ → World σ ε → α × Session κ × World σ ε)
    (session : Session κ)
    (huse : session.Discreet p.hub.world (use session p.hub.world).2.1
      (use session p.hub.world).2.2) : p.Calm (p.onSession use session).2 := by
  -- What a session reports are events of its own, and those complete nothing.
  rcases huse.posts with ⟨posts, hposts, hreports⟩
  exact ⟨⟨rfl, Hub.replace_handles _ _, posts, hposts, fun post hpost =>
    (hreports post hpost).isCompletion⟩, rfl⟩

/-- So does putting a session in the place of another state of it. -/
theorem replace_calm (p : Provider σ κ ε) (session : Session κ) :
    p.Calm { p with hub := p.hub.replace session } :=
  ⟨Hub.Quiet.of_silent rfl (Hub.replace_handles _ _) rfl, rfl⟩

theorem reload_calm (config : Config) (p : Provider σ κ ε) : p.Calm (p.reload config) := by
  refine ⟨Hub.Quiet.of_silent rfl ?_ rfl, rfl⟩
  rw [reload, Hub.handles, List.map_map]
  rfl

theorem readNow_calm (sources : DataSources) (session : Session κ) (p : Provider σ κ ε) :
    p.Calm (p.readNow b sources session).2 := by
  have huse := onSession_calm (Session.read b sources) session
    (Session.read_discreet sources session p.hub.world)
  rw [readNow]
  split
  · split
    · next hcall =>
        rw [hcall] at huse
        exact huse
    · next hcall =>
        rw [hcall] at huse
        exact huse
  · exact Calm.refl p

/-- How a call to the provider can go. -/
inductive Course (b : Backend σ κ ε) (call? : Option Call) (p : Provider σ κ ε) :
    ResultCode × Provider σ κ ε → Prop where
  /-- It is not accepted. -/
  | refused {code : ResultCode} {p' : Provider σ κ ε} (hcode : code ≠ .success)
      (hcalm : p.Calm p') : Course b call? p (code, p')
  /-- It is accepted and has no completion. -/
  | done {p' : Provider σ κ ε} (hcall : call? = none) (hcalm : p.Calm p') :
      Course b call? p (.success, p')
  /-- It is accepted and completed at once. -/
  | completed {call : Call} {p' : Provider σ κ ε} {kind : MessageKind} (hcall : call? = some call)
      (hkind : kind.eventClass = none) (hcalm : p.Calm p') (code : UInt32) (result : ResultCode)
      (payload : Payload) : Course b call? p (p'.accept kind call code result payload)
  /-- It opens a session. -/
  | opened {call : Call} (hcall : call? = some call) (settings : Settings)
      (hnew : p.hub.session? call.service = none) : Course b call? p
        ((p.createSession b call.service settings).2.accept .openComplete call 0 .success .none)
  /-- It closes a session. -/
  | closed {call : Call} {session : Session κ} (hcall : call? = some call)
      (hopen : p.hub.session? call.service = some session) : Course b call? p
        ((p.removeSession b call.service).2.accept .closeComplete call 0 .success .none)
  /-- It is accepted and waits. -/
  | queued {call : Call} {p' p'' : Provider σ κ ε} (hcall : call? = some call) (hcalm : p.Calm p')
      (hopen : call.service ∈ p.hub.handles) (now : Instant) (timeout : Option Duration)
      (sources : DataSources)
      (hadd : p'.addRequest b (PendingRequest.waitForCard call.key call.window now timeout sources
        (Hub.target call.service)) = (.ok (), p'')) : Course b call? p (.success, p'')
  /-- It calls off requests. -/
  | calledOff {s : Settled} (hcall : call? = none)
      (hsettled : (∃ key, s = p.hub.pending.cancel key) ∨
        ∃ handle, s = p.hub.pending.cancelService handle) (code : ResultCode) :
      Course b call? p (code, p.settle b s)

namespace Course

variable {call : Call}

/-- A call that finds no session. -/
theorem unknown {call? : Option Call} : Course b call? p (.invalidHService, p) :=
  refused ResultCode.noConfusion (Calm.refl p)

/-- A call that does something to a session and tells how it went. -/
theorem used (use : Session κ → World σ ε → α × Session κ × World σ ε) (session : Session κ)
    (huse : ∀ w, session.Discreet w (use session w).2.1 (use session w).2.2)
    {kind : MessageKind} (hkind : kind.eventClass = none) (code : UInt32) (result : ResultCode)
    (payload : Payload) :
    Course b (some call) p ((p.onSession use session).2.accept kind call code result payload) :=
  completed rfl hkind (onSession_calm use session (huse _)) code result payload

/-- A read that found no card. -/
theorem enqueue (hcalm : p.Calm p') (hopen : call.service ∈ p.hub.handles) (now : Instant)
    (timeout : Option Duration) (sources : DataSources) :
    Course b (some call) p (p'.enqueue b call now timeout sources) := by
  rw [Provider.enqueue]
  rcases hadd : p'.addRequest b (PendingRequest.waitForCard call.key call.window now timeout
    sources (Hub.target call.service)) with ⟨e | _, p''⟩
  · -- A request that is not queued leaves everything as it was.
    rw [addRequest] at hadd
    split at hadd
    · cases hadd
      exact refused e.result_ne_success hcalm
    · cases hadd
  · exact queued rfl hcalm hopen now timeout sources hadd

theorem readRawData (hopen : call.service ∈ p.hub.handles) (now : Instant)
    (timeout : Option Duration) (sources : DataSources) (session : Session κ) :
    Course b (some call) p (p.readRawData b call now timeout sources session) := by
  have hread := readNow_calm (b := b) sources session p
  rw [Provider.readRawData]
  split
  · exact completed rfl rfl (Calm.refl p) _ _ _
  · split
    · next hcall =>
        rw [hcall] at hread
        exact completed rfl rfl hread _ _ _
    · next hcall =>
        rw [hcall] at hread
        exact enqueue hread hopen now timeout sources

theorem execute (now : Instant) (timeout : Option Duration) (command : Command) :
    Course b (some call) p (p.execute b call now timeout command) := by
  rw [Provider.execute]
  split
  · exact unknown
  · next session hsession =>
      rcases Hub.mem_handles_of_session? hsession with ⟨hmem, hhandle⟩
      have hopen : call.service ∈ p.hub.handles := List.mem_map.mpr ⟨session, hmem, hhandle⟩
      cases command with
      | readRawData sources => exact readRawData hopen now timeout sources session
      | chipIo data => exact used _ session (Session.chipIo_discreet data session) rfl _ _ _
      | chipPower action =>
          exact used _ session (Session.chipPower_discreet action session) rfl _ _ _
      | reset => exact used _ session (Session.reset_discreet session) rfl _ _ _
      | ejectCard => exact completed rfl rfl (Calm.refl p) _ _ _
      | unsupported code => exact refused ResultCode.noConfusion (Calm.refl p)
      | unknown code => exact refused ResultCode.noConfusion (Calm.refl p)

theorem executeRaw (now : Instant) (timeout : Option Duration) (code : UInt32) (data : Bytes) :
    Course b (some call) p (p.executeRaw b call now timeout code data) := by
  rw [Provider.executeRaw]
  split
  · exact unknown
  · split
    · exact execute now timeout _
    · next e _ => exact refused e.result_ne_success (Calm.refl p)

theorem openSession (logicalName : String) (traceLevel : UInt32) :
    Course b (some call) p (p.openSession b call logicalName traceLevel) := by
  rw [Provider.openSession]
  split
  · exact completed rfl rfl (Calm.refl p) _ _ _
  · next settings _ =>
      rcases hsession : p.hub.session? call.service with _ | session
      · have hopened := @opened _ _ _ b (some call) p call rfl
          (if traceLevel = 0 then settings else { settings with traceLevel }) hsession
        simp only [createSession, hsession] at hopened ⊢
        exact hopened
      · -- That the handle is in use is told by the completion, not by the answer.
        simp only [createSession, hsession]
        exact completed rfl rfl (Calm.refl p) _ _ _

theorem closeSession : Course b (some call) p (p.closeSession b call) := by
  rw [Provider.closeSession]
  rcases hsession : p.hub.session? call.service with _ | session
  · simp only [removeSession, hsession]
    exact unknown
  · have hclosed := @closed _ _ _ b (some call) p call session rfl hsession
    simp only [removeSession, hsession] at hclosed ⊢
    exact hclosed

theorem getInfo (category : UInt32) : Course b (some call) p (p.getInfo b call category) := by
  rw [Provider.getInfo]
  split
  · exact unknown
  · next session _ =>
      split
      · exact refused ResultCode.noConfusion (Calm.refl p)
      · exact refused ResultCode.noConfusion (Calm.refl p)
      · exact refused ResultCode.noConfusion (Calm.refl p)
      · exact completed rfl rfl (Calm.refl p) _ _ _
      · exact used _ session (Session.status_discreet session) rfl _ _ _

end Course

/-- Every call goes in one of the listed ways. -/
theorem enter_course (b : Backend σ κ ε) (now : Instant) (entry : Entry) (p : Provider σ κ ε) :
    Course b entry.call? p (p.enter b now entry) := by
  cases entry with
  | openSession call logicalName traceLevel => exact Course.openSession logicalName traceLevel
  | closeSession call => exact Course.closeSession
  | lock call =>
      rw [enter, lock]
      split
      · exact Course.unknown
      · next session _ => exact Course.used _ session (Session.lock_discreet session) rfl _ _ _
  | unlock call =>
      rw [enter, unlock]
      split
      · exact Course.unknown
      · next session _ => exact Course.used _ session (Session.unlock_discreet session) rfl _ _ _
  | register call classes window =>
      rw [enter, register]
      split
      · exact Course.unknown
      · split
        · exact Course.refused ResultCode.noConfusion (Calm.refl p)
        · exact Course.completed rfl rfl (replace_calm p _) _ _ _
  | deregister call classes window =>
      rw [enter, deregister]
      split
      · exact Course.unknown
      · split
        · exact Course.refused ResultCode.noConfusion (Calm.refl p)
        · exact Course.completed rfl rfl (replace_calm p _) _ _ _
  | getInfo call category => exact Course.getInfo category
  | execute call timeout command => exact Course.execute now timeout command
  | executeRaw call timeout code data => exact Course.executeRaw now timeout code data
  | cancelAsync handle request =>
      rw [enter, cancelAsync.eq_def]
      split
      · exact Course.unknown
      · cases request with
        | none => exact Course.calledOff rfl (.inr ⟨handle, rfl⟩) .success
        | some id => exact Course.calledOff rfl (.inl ⟨⟨handle, id⟩, rfl⟩) _
  | setTraceLevel handle level =>
      rw [enter, setTraceLevel]
      split
      · exact Course.unknown
      · exact Course.done rfl (replace_calm p _)
  | unload =>
      rw [enter, unload]
      split
      · exact Course.done rfl (Calm.refl p)
      · exact Course.refused ResultCode.noConfusion (Calm.refl p)
  | reload config => exact Course.done rfl (reload_calm config p)

end Provider

end CardHost
