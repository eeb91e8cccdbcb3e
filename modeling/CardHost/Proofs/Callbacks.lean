import CardHost.Proofs.Runs
import Mathlib.Logic.Function.Iterate

/-!
# Calls From Inside a Completion

Whoever receives a completion may call the provider again before the post
returns. The provider may then be half way through a call, with requests that
have left the queue and completions that are not out yet, or the watcher may be
half way through its news. A `Stage` is a provider at such a moment: with it
goes a stack of duties, which is what the calls under way have still to do.

A move is either the next duty or something that happens in between. Nothing
says which calls may come from inside which message. Clients may call at every
moment, so every nesting is among the sequences of moves, and so is a client
that is done with one call before the next. Only the watcher waits until no
duty is left, because the code between two of its calls runs on its own.

Most calls post their completion last, and one from inside it comes right after
them. The calls to be taken apart are those that end requests, and the news of
the watcher. `enter_worked` and `watch_worked` say that they were taken apart
correctly: worked off without interruption, the duties do what the whole does.

## Main definitions

* `Duty`, `Stage`: What is left to do; a provider with that.
* `Move`: The next duty, or something in between.
* `Stage.enter`, `Stage.watch`: A call, and a step of the watcher, up to the
  first completion.
* `Stage.work`: The next duty.
* `Stage.move`, `Stage.run`: One move; a run of them.

## Theorems

* `work_duty`, `work_duties`: Duties that are worked off have their effects.
* `settle_worked`, `callOff_worked`: Requests that are ended without interruption
  are settled.
* `enter_worked`: An uninterrupted call is the call itself.
* `watch_worked`: An uninterrupted step of the watcher is the step itself.
-/

namespace CardHost

variable {σ κ ε : Type}

/-- What a call, or the watcher, has still to do. -/
inductive Duty (κ : Type) where
  /-- A message is to be posted. -/
  | post (post : Post)
  /-- The watcher is to be woken, if there is cause to. -/
  | wakeIf (cause : Bool)
  /-- A closed session is to give up its card, and a call may be completed by
      that. -/
  | release (session : Session κ) (call? : Option Call)
  /-- The watcher is to tell something. -/
  | tell (news : News)
  /-- The watcher is to go on. -/
  | go (next : Next)

/-- A provider in the middle of calls. -/
structure Stage (σ κ ε : Type) where
  provider : Provider σ κ ε
  /-- What the calls under way have still to do, the next duty first. -/
  duties : List (Duty κ)
  /-- When the last wait began, and in which epoch. -/
  begun : Option (Instant × Nat)

/-- The next duty, or something that happens in between. -/
inductive Move (σ : Type) where
  /-- The next duty is done. -/
  | work
  /-- A client calls an entry point. -/
  | enter (now : Instant) (entry : Entry)
  /-- A session is opened behind the entry points. -/
  | createSession (handle : ServiceHandle) (settings : Settings)
  /-- A session is closed behind the entry points. -/
  | removeSession (handle : ServiceHandle)
  /-- Any request is queued. -/
  | addRequest (request : PendingRequest)
  /-- A request is called off. -/
  | cancelRequest (key : RequestKey)
  /-- The requests of a session are called off. -/
  | cancelService (handle : ServiceHandle)
  /-- All requests are called off. -/
  | cancelAll
  /-- A report is handed on that does not come from the watcher. -/
  | change (state : Snapshot) (kind : ChangeKind)
  /-- The watcher goes on. -/
  | watch (now : Instant)
  /-- Time has passed. -/
  | tick (now : Instant)
  /-- Readers and cards are in another state. -/
  | happen (hardware : σ)
  /-- The watcher is asked to end. -/
  | stop

namespace Stage

/-- A provider that was just started. -/
def start (hardware : σ) (config : Config) : Stage σ κ ε :=
  { provider := Provider.start { hardware } config, duties := [], begun := none }

/-- Something that is done in one go. -/
def act (f : Provider σ κ ε → Provider σ κ ε) (st : Stage σ κ ε) : Stage σ κ ε :=
  { st with provider := f st.provider }

/-- Take ended requests out; their messages are to be posted, and after that
    there may be more to do. -/
def settle (s : Settled) (rest : List (Duty κ)) (st : Stage σ κ ε) : Stage σ κ ε :=
  { st with
    provider := { st.provider with hub := { st.provider.hub with pending := s.queue } }
    duties := s.posts.map .post ++ rest ++ st.duties }

/-- Call off requests. -/
def callOff (s : Settled) (st : Stage σ κ ε) : Stage σ κ ε :=
  st.settle s [.wakeIf (s.count != 0)]

/-- Close a session. -/
def remove (handle : ServiceHandle) (call? : Option Call) (st : Stage σ κ ε) : Stage σ κ ε :=
  match st.provider.hub.session? handle with
  | none => st
  | some session =>
    let s := st.provider.hub.pending.cancelService handle
    let st := st.act fun p =>
      { p with hub := { p.hub with sessions := p.hub.sessions.filter (·.handle != handle) } }
    st.settle s [.wakeIf (s.count != 0), .release session call?]

/-- Hand a report to the sessions, and take out the requests that it ends. -/
def change (b : Backend σ κ ε) (state : Snapshot) (kind : ChangeKind) (st : Stage σ κ ε) :
    Stage σ κ ε :=
  let hub := st.provider.hub.informed b state kind
  (st.act fun p => { p with hub }).settle (hub.pending.notifyChange hub.binding state kind) []

/-- Call off one request of a session, or all of them, if it is open. -/
def cancelAsync (handle : ServiceHandle) (request : Option RequestId) (st : Stage σ κ ε) :
    Stage σ κ ε :=
  match st.provider.hub.session? handle, request with
  | none, _ => st
  | some _, none => st.callOff (st.provider.hub.pending.cancelService handle)
  | some _, some id => st.callOff (st.provider.hub.pending.cancel ⟨handle, id⟩)

/-- Call an entry point, up to the first completion of a request. -/
def enter (b : Backend σ κ ε) (now : Instant) (entry : Entry) (st : Stage σ κ ε) : Stage σ κ ε :=
  match entry with
  | .closeSession call => st.remove call.service (some call)
  | .cancelAsync handle request => st.cancelAsync handle request
  | entry => st.act fun p => (p.enter b now entry).2

/-- Give up the card of a closed session, and complete the call that closed
    it. -/
def release (b : Backend σ κ ε) (session : Session κ) (call? : Option Call)
    (p : Provider σ κ ε) : Provider σ κ ε :=
  let p := { p with hub := { p.hub with world := (session.disconnect b p.hub.world).2 } }
  match call? with
  | none => p
  | some call => p.complete .closeComplete call 0 .success .none

/-- What comes of a duty that is worked off without interruption. -/
def effect (b : Backend σ κ ε) (p : Provider σ κ ε) : Duty κ → Provider σ κ ε
  | .post post => { p with hub := { p.hub with world := p.hub.world.post [post] } }
  | .wakeIf cause => p.wakeIf b cause
  | .release session call? => release b session call? p
  | .tell news => { p with hub := (Hub.surroundings b).tell p.hub news }
  | .go next => { p with watcher := p.watcher.go next }

/-- Do the next duty. Telling something may put completions on the stack, and
    all other duties are done in one go. -/
def work (b : Backend σ κ ε) (st : Stage σ κ ε) : Stage σ κ ε :=
  match st.duties with
  | [] => st
  | .tell (.timeout now) :: duties =>
    settle (st.provider.hub.pending.expireDue now) [] { st with duties }
  | .tell (.change s) :: duties => change b s s.kind { st with duties }
  | duty :: duties => { st with provider := effect b st.provider duty, duties }

/-- Let the watcher go on, up to the first completion of a request. While it
    has news to tell it is in no wait any more. -/
def watch (b : Backend σ κ ε) (now : Instant) (st : Stage σ κ ε) : Stage σ κ ε :=
  let p := st.provider
  match p.watcher.phase with
  | .listing list =>
    match (Hub.surroundings b).list p.hub with
    | (.ok names, hub) =>
      { st with provider :=
        { p with watcher := p.watcher.enterRound (WaitSet.ofNames list names), hub } }
    | (.error _, hub) =>
      { st with
        provider := { p with hub }
        duties := .tell (.timeout now) :: .go (.pause now list) :: st.duties }
  | .timing epoch set =>
    if p.watcher.epoch = epoch then
      let timeout := Watcher.timeoutOf (p.hub.pending.nextTimeout now)
      { st with
        provider := { p with watcher :=
          { p.watcher with phase := .waiting timeout (now + timeout) set } }
        begun := some (now, epoch) }
    else { st with provider := { p with watcher := p.watcher.enterRound set } }
  | .waiting timeout ends set =>
    match (Hub.surroundings b).wait ⟨some timeout, ends, now, set.entries⟩ p.hub with
    | none => st
    | some (outcome, hub) =>
      if p.watcher.stop then
        { st with provider := { p with watcher := { p.watcher with phase := .stopped }, hub } }
      else
        { st with
          provider :=
            { p with watcher := { p.watcher with phase := .timing p.watcher.epoch set }, hub }
          duties := (Watcher.newsOf now set outcome).map .tell ++
            .go (Watcher.nextOf now set outcome) :: st.duties }
  | .pausing .. | .stopped => st

/-- One move. -/
def move (b : Backend σ κ ε) (st : Stage σ κ ε) : Move σ → Stage σ κ ε
  | .work => st.work b
  | .enter now entry => st.enter b now entry
  | .createSession handle settings => st.act fun p => (p.createSession b handle settings).2
  | .removeSession handle => st.remove handle none
  | .addRequest request => st.act fun p => (p.addRequest b request).2
  | .cancelRequest key => st.callOff (st.provider.hub.pending.cancel key)
  | .cancelService handle => st.callOff (st.provider.hub.pending.cancelService handle)
  | .cancelAll => st.callOff st.provider.hub.pending.cancelAll
  | .change state kind => st.change b state kind
  | .watch now => if st.duties.isEmpty then st.watch b now else st
  | .tick now => st.act (Provider.tick now)
  | .happen hardware => st.act fun p => (p.meet b (.happen hardware)).2
  | .stop => st.act (Provider.requestStop b)

/-- A run of moves. -/
def run (b : Backend σ κ ε) (moves : List (Move σ)) (st : Stage σ κ ε) : Stage σ κ ε :=
  moves.foldl (move b) st

variable (b : Backend σ κ ε)

/-- Messages that are posted one by one are posted. -/
theorem work_posts (posts : List Post) (p : Provider σ κ ε) (duties : List (Duty κ))
    (begun : Option (Instant × Nat)) :
    (work b)^[posts.length] ⟨p, posts.map .post ++ duties, begun⟩ =
      ⟨{ p with hub := { p.hub with world := p.hub.world.post posts } }, duties, begun⟩ := by
  induction posts generalizing p with
  | nil => simp only [List.length_nil, Function.iterate_zero, id_eq, List.map_nil, List.nil_append,
      World.post, List.append_nil]
  | cons post posts ih =>
      rw [List.length_cons, Function.iterate_succ_apply]
      refine (ih _).trans ?_
      simp only [effect, World.post, List.map_cons, List.map_nil, List.append_assoc,
        List.singleton_append]

/-- Ended requests whose messages are posted one by one are settled. -/
theorem work_settle (s : Settled) (p : Provider σ κ ε) (rest duties : List (Duty κ))
    (begun : Option (Instant × Nat)) :
    (work b)^[s.posts.length] (settle s rest ⟨p, duties, begun⟩) =
      ⟨{ p with hub := p.hub.settle s }, rest ++ duties, begun⟩ := by
  rw [settle, List.append_assoc]
  exact work_posts b s.posts _ _ _

/-- A duty that is worked off has its effect, whatever is below it. -/
theorem work_duty (duty : Duty κ) (p : Provider σ κ ε) (duties : List (Duty κ))
    (begun : Option (Instant × Nat)) :
    ∃ n, (work b)^[n] ⟨p, duty :: duties, begun⟩ = ⟨effect b p duty, duties, begun⟩ := by
  cases duty with
  | post | wakeIf | release | go => exact ⟨1, rfl⟩
  | tell news =>
      cases news with
      | timeout now => exact ⟨_ + 1, work_settle b (p.hub.pending.expireDue now) p [] duties begun⟩
      | change s =>
          let hub := p.hub.informed b s s.kind
          exact ⟨_ + 1, work_settle b (hub.pending.notifyChange hub.binding s s.kind)
            { p with hub } [] duties begun⟩

theorem work_duties (duties : List (Duty κ)) (p : Provider σ κ ε) (rest : List (Duty κ))
    (begun : Option (Instant × Nat)) :
    ∃ n, (work b)^[n] ⟨p, duties ++ rest, begun⟩ = ⟨duties.foldl (effect b) p, rest, begun⟩ := by
  induction duties generalizing p with
  | nil => exact ⟨0, rfl⟩
  | cons duty duties ih =>
      rcases work_duty b duty p (duties ++ rest) begun with ⟨n, hn⟩
      rcases ih (effect b p duty) with ⟨m, hm⟩
      refine ⟨m + n, ?_⟩
      rw [Function.iterate_add_apply, List.cons_append, hn, hm]
      rfl

/-- Ended requests and what follows are worked off together. -/
theorem settle_worked (s : Settled) (rest : List (Duty κ)) (st : Stage σ κ ε) :
    ∃ n, (work b)^[n] (st.settle s rest) =
      { st with provider :=
          rest.foldl (effect b) { st.provider with hub := st.provider.hub.settle s } } := by
  rcases work_duties b rest { st.provider with hub := st.provider.hub.settle s } st.duties
    st.begun with ⟨n, hn⟩
  refine ⟨n + s.posts.length, ?_⟩
  rw [Function.iterate_add_apply, ← hn]
  exact congrArg _ (work_settle b s st.provider rest st.duties st.begun)

/-- Requests that are called off without interruption are settled. -/
theorem callOff_worked (s : Settled) (st : Stage σ κ ε) :
    ∃ n, (work b)^[n] (st.callOff s) = { st with provider := st.provider.settle b s } :=
  settle_worked b s _ st

/-- An uninterrupted call is the call itself. -/
theorem enter_worked (now : Instant) (entry : Entry) (st : Stage σ κ ε) :
    ∃ n, (work b)^[n] (st.enter b now entry) =
      { st with provider := (st.provider.enter b now entry).2 } := by
  cases entry with
  | closeSession call =>
      show ∃ n, (work b)^[n] (st.remove call.service (some call)) =
        { st with provider := (st.provider.closeSession b call).2 }
      rw [remove, Provider.closeSession, Provider.removeSession]
      rcases st.provider.hub.session? call.service with _ | session
      · exact ⟨0, rfl⟩
      · exact settle_worked b _ _ _
  | cancelAsync handle request =>
      show ∃ n, (work b)^[n] (st.cancelAsync handle request) =
        { st with provider := (st.provider.cancelAsync b handle request).2 }
      rw [cancelAsync.eq_def, Provider.cancelAsync.eq_def]
      rcases st.provider.hub.session? handle with _ | session
      · exact ⟨0, rfl⟩
      · rcases request with _ | id
        · exact callOff_worked b _ st
        · exact callOff_worked b _ st
  | openSession | lock | unlock | register | deregister | getInfo | execute | executeRaw
  | setTraceLevel | unload | reload => exact ⟨0, rfl⟩

/-- News that is told piece by piece is told. -/
theorem foldl_tell (news : List News) (p : Provider σ κ ε) :
    (news.map Duty.tell).foldl (effect b) p =
      { p with hub := (Hub.surroundings b).tellAll news p.hub } := by
  induction news generalizing p with
  | nil => rfl
  | cons first rest ih =>
      rw [List.map_cons, List.foldl_cons, ih]
      rfl

/-- Where the watcher goes does not depend on where it stood. -/
theorem go_phase (m : Watcher) (phase : Phase) (next : Next) :
    ({ m with phase } : Watcher).go next = m.go next := by
  cases next <;> rfl

/-- An uninterrupted step of the watcher is the step itself. -/
theorem watch_worked (now : Instant) (st : Stage σ κ ε) :
    ∃ n, (work b)^[n] (st.watch b now) =
      ⟨st.provider.watch b now, st.duties, (st.watch b now).begun⟩ := by
  rcases hphase : st.provider.watcher.phase with list | ⟨epoch, set⟩ | ⟨timeout, ends, set⟩ | _ | _
  · rcases hlist : (Hub.surroundings b).list st.provider.hub with ⟨e | names, hub⟩
    · simp only [watch, Provider.watch, Watcher.step, hphase, hlist]
      exact work_duties b [.tell (.timeout now), .go (.pause now list)] _ _ _
    · simp only [watch, Provider.watch, Watcher.step, hphase, hlist]
      exact ⟨0, rfl⟩
  · by_cases hepoch : st.provider.watcher.epoch = epoch
    · simp only [watch, Provider.watch, Watcher.step, hphase, if_pos hepoch]
      exact ⟨0, rfl⟩
    · simp only [watch, Provider.watch, Watcher.step, hphase, if_neg hepoch]
      exact ⟨0, rfl⟩
  · rcases hwait : (Hub.surroundings b).wait ⟨some timeout, ends, now, set.entries⟩
      st.provider.hub with _ | ⟨outcome, hub⟩
    · simp only [watch, Provider.watch, Watcher.step, hphase, hwait]
      exact ⟨0, rfl⟩
    · by_cases hstop : st.provider.watcher.stop = true
      · simp only [watch, Provider.watch, Watcher.step, Watcher.afterWait, hphase, hwait,
          if_pos hstop]
        exact ⟨0, rfl⟩
      · simp only [watch, Provider.watch, Watcher.step, Watcher.afterWait, hphase, hwait,
          if_neg hstop]
        -- The duties of a step are its news and, at the end, where it goes.
        have hworked := work_duties b ((Watcher.newsOf now set outcome).map .tell ++
          [.go (Watcher.nextOf now set outcome)]) { st.provider with
            watcher := { st.provider.watcher with
              phase := .timing st.provider.watcher.epoch set }, hub } st.duties st.begun
        rw [List.foldl_append, foldl_tell, List.append_assoc] at hworked
        rcases hworked with ⟨n, hn⟩
        refine ⟨n, hn.trans ?_⟩
        simp only [List.foldl_cons, List.foldl_nil, effect, go_phase]
  · simp only [watch, Provider.watch, Watcher.step, hphase]
    exact ⟨0, rfl⟩
  · simp only [watch, Provider.watch, Watcher.step, hphase]
    exact ⟨0, rfl⟩

end Stage

end CardHost
