import CardHost.Proofs.Frames
import CardHost.Proofs.Handovers
import Mathlib.Data.List.Induction

/-!
# The Career of a Session

A session has settings, a reader that it is bound to, and subscribers. None of
the three is touched by its ordinary work: to use the card, to look at it or to
give it up leaves them alone. They are the terms it works on, and they change
when it is told to, by a call, by a configuration, or by a report that a card
was inserted.

So the terms are a matter of history. Under each handle the moves of a run leave
a career: how the session was opened that is there now, and what was done about
its terms since then, in order. What happened to sessions that had the handle
before, what is done to other sessions, and what comes from inside completions at
any moment has no part in it. `run_terms` says that the terms of a session are
what its career makes of them, so whatever is to be shown of settings, bindings
and subscriptions over all runs is shown of a list of operations.

A session that a client opened has its settings from a configuration, and this
is in the career as data: `Settings.Resolved` is a configuration that knows a
logical service, and the settings it has for it.

## Main definitions

* `Session.Terms`: What a session works on; `Terms.after` is one operation.
* `Settings.Resolved`, `Opening`: How a session came to its first settings.
* `Career`: How a session was opened, and what was done about its terms since.
* `Bearing`: What a move is to a handle.
* `Stage.career`: The career under a handle, after a run.

## Theorems

* `perform_terms`: What is done with a session, and what it is to its terms.
* `terms_names`: A session keeps the names that it was opened under.
* `execute_steady`: Ordinary work leaves all terms as they are.
* `enter_terms`: Calls of clients.
* `bearing_does`, `career_induct`: How careers come about.
* `move_terms`, `run_terms`: One move; a run of them.
* `move_kept`, `career_of_open`: The same of a session that is open.
-/

namespace CardHost

variable {σ κ ε α : Type}

namespace Settings

/-- The settings with another trace level, unless that is zero. -/
def traced (level : UInt32) (s : Settings) : Settings :=
  if level = 0 then s else { s with traceLevel := level }

/-- A configuration that knows a logical service, with the settings for it. -/
structure Resolved where
  config : Config
  logicalName : String
  settings : Settings
  resolves : resolve config logicalName = .ok settings

/-- The settings that a configuration has for a logical service, if any. -/
def Resolved.of? (config : Config) (logicalName : String) : Option Resolved :=
  match h : resolve config logicalName with
  | .ok settings => some ⟨config, logicalName, settings, h⟩
  | .error _ => none

theorem Resolved.of?_ok {config : Config} {logicalName : String} {settings : Settings}
    (h : resolve config logicalName = .ok settings) :
    of? config logicalName = some ⟨config, logicalName, settings, h⟩ := by
  rw [of?]
  split
  · next h' =>
      cases h.symm.trans h'
      rfl
  · next h' => cases h.symm.trans h'

theorem Resolved.of?_error {config : Config} {logicalName : String} {e : HostError}
    (h : resolve config logicalName = .error e) : of? config logicalName = none := by
  rw [of?]
  split
  · next h' => cases h.symm.trans h'
  · rfl

end Settings

namespace Session

/-- What a session works on, whatever card it has and has seen. -/
structure Terms where
  settings : Settings
  binding : Binding
  subscriptions : Subscriptions

/-- The terms of a session. -/
def terms (s : Session κ) : Terms := ⟨s.settings, s.binding, s.subscriptions⟩

namespace Terms

/-- The terms of a session that was just opened. -/
def start (settings : Settings) : Terms := ⟨settings, Binding.ofConfigured settings.readerName, []⟩

/-- What an operation makes of terms. -/
def after (t : Terms) : Operation → Terms
  | .reread config =>
    let settings := t.settings.reread config
    { t with settings, binding := t.binding.rebind settings.readerName }
  | .setTraceLevel level => { t with settings := { t.settings with traceLevel := level } }
  | .register window classes => { t with subscriptions := t.subscriptions.add window classes }
  | .deregister window classes =>
    { t with subscriptions := (t.subscriptions.remove window classes).2 }
  | .notify state .card =>
    if state.inserted then { t with binding := (t.binding.bind state.name).2 } else t
  | .notify _ .deviceList | .ask _ | .disconnect => t

/-- Whatever is done, a session keeps the names that it was opened under. -/
theorem after_names (t : Terms) (operation : Operation) :
    (t.after operation).settings.logicalName = t.settings.logicalName ∧
      (t.after operation).settings.providerName = t.settings.providerName := by
  cases operation with
  | reread | setTraceLevel | register | deregister | ask | disconnect => exact ⟨rfl, rfl⟩
  | notify state kind =>
      cases kind with
      | deviceList => exact ⟨rfl, rfl⟩
      | card =>
          rw [after]
          split <;> exact ⟨rfl, rfl⟩

end Terms

theorem informed_terms (state : Snapshot) (s : Session κ) :
    (s.informed state).terms = s.terms.after (.notify state .card) := by
  rw [informed, Terms.after]
  split <;> rfl

/-- What is done with a session, and what it is to its terms. -/
theorem perform_terms (b : Backend σ κ ε) (operation : Operation) (s : Session κ)
    (w : World σ ε) : (s.perform b operation w).1.terms = s.terms.after operation := by
  cases operation with
  | reread | setTraceLevel | register | deregister | disconnect => rfl
  | ask access =>
      rcases ask_alike b access s w with ⟨card, locked, hsame⟩
      rw [perform, hsame]
      rfl
  | notify state kind =>
      cases kind with
      | deviceList => rfl
      | card =>
          rcases (s.notify_card (b := b) state w).same with ⟨card, observed, locked, hsame⟩
          refine Eq.trans ?_ (s.informed_terms state)
          rw [perform, hsame]
          rfl

end Session

/-- How a session was opened. -/
inductive Opening where
  /-- By a client, for a logical service, with a trace level that counts unless
      it is zero. -/
  | called (first : Settings.Resolved) (traceLevel : UInt32)
  /-- Behind the entry points, with any settings. -/
  | given (settings : Settings)

/-- The settings of a session that was just opened. -/
def Opening.settings : Opening → Settings
  | called first traceLevel => first.settings.traced traceLevel
  | given settings => settings

/-- How a session was opened, and what was done about its terms since. -/
structure Career where
  opening : Opening
  /-- The first to be done first. -/
  operations : List Session.Operation

namespace Career

/-- What became of the terms of a session. -/
def terms (career : Career) : Session.Terms :=
  career.operations.foldl Session.Terms.after (.start career.opening.settings)

/-- The career with one more operation. -/
def extend (career : Career) (operation : Session.Operation) : Career :=
  { career with operations := career.operations ++ [operation] }

theorem terms_extend (career : Career) (operation : Session.Operation) :
    (career.extend operation).terms = career.terms.after operation := by
  rw [terms, extend, List.foldl_append]
  rfl

/-- What is picked from operations, with one more of them. -/
theorem filterMap_extend (pick : Session.Operation → Option α) (career : Career)
    (operation : Session.Operation) :
    (career.extend operation).operations.filterMap pick =
      career.operations.filterMap pick ++ (pick operation).toList := by
  rw [extend, List.filterMap_append, List.filterMap_cons, List.filterMap_nil]
  cases pick operation <;> rfl

/-- What holds of a session that was just opened, and is kept by whatever is
    done, holds of careers. -/
theorem induct {P : Career → Prop} (hstart : ∀ opening, P ⟨opening, []⟩)
    (hextend : ∀ career operation, P career → P (career.extend operation)) (career : Career) :
    P career := by
  rcases career with ⟨opening, operations⟩
  induction operations using List.reverseRecOn with
  | nil => exact hstart opening
  | append_singleton operations operation ih => exact hextend _ operation ih

/-- The names of a session are those that it was opened under. -/
theorem terms_names (career : Career) :
    career.terms.settings.logicalName = career.opening.settings.logicalName ∧
      career.terms.settings.providerName = career.opening.settings.providerName := by
  induction career using induct with
  | hstart opening => exact ⟨rfl, rfl⟩
  | hextend career operation ih =>
      rw [terms_extend]
      have hkept := career.terms.after_names operation
      exact ⟨hkept.1.trans ih.1, hkept.2.trans ih.2⟩

end Career

/-- What is, at some moment, to a handle. -/
inductive Bearing where
  /-- Nothing that is about terms. -/
  | quiet
  /-- A session is opened, if the handle is free. -/
  | opens (opening : Opening)
  /-- The session is closed, if there is one. -/
  | closes
  /-- Something is done with the session, if there is one. -/
  | does (operation : Session.Operation)

namespace Bearing

/-- What becomes of the terms under a handle. -/
def onTerms : Bearing → Option Session.Terms → Option Session.Terms
  | opens opening, none => some (.start opening.settings)
  | does operation, some t => some (t.after operation)
  | closes, some _ => none
  | _, terms? => terms?

/-- What becomes of the career under a handle. -/
def onCareer : Bearing → Option Career → Option Career
  | opens opening, none => some ⟨opening, []⟩
  | does operation, some career => some (career.extend operation)
  | closes, some _ => none
  | _, career? => career?

theorem onTerms_map (bearing : Bearing) (career? : Option Career) :
    bearing.onTerms (career?.map Career.terms) =
      (bearing.onCareer career?).map Career.terms := by
  rcases career? with _ | career
  · cases bearing <;> rfl
  · cases bearing with
    | quiet | opens | closes => rfl
    | does operation => exact congrArg some (career.terms_extend operation).symm

end Bearing

/-- What a call is to the handle that it is for. A new configuration is for all. -/
def Entry.bearing (config : Config) : Entry → Bearing
  | openSession _ logicalName traceLevel =>
    ((Settings.Resolved.of? config logicalName).map fun first =>
      .opens (.called first traceLevel)).getD .quiet
  | closeSession _ => .closes
  | register _ classes window =>
    ((EventClass.ofBits? classes).map fun classes => .does (.register window classes)).getD .quiet
  | deregister _ classes window =>
    ((EventClass.ofBits? classes).map fun classes => .does (.deregister window classes)).getD .quiet
  | setTraceLevel _ level => .does (.setTraceLevel level)
  | reload config => .does (.reread config)
  | lock _ | unlock _ | getInfo .. | execute .. | executeRaw .. | cancelAsync .. | unload => .quiet

namespace Hub

variable {hub hub' hub'' : Hub σ κ ε} {handle subject : ServiceHandle} {s session : Session κ}

/-- The terms of the session under a handle. -/
def terms? (hub : Hub σ κ ε) (handle : ServiceHandle) : Option Session.Terms :=
  (hub.session? handle).map Session.terms

theorem terms?_of_open (h : hub.session? handle = some s) : hub.terms? handle = some s.terms := by
  rw [terms?, h]
  rfl

theorem terms?_of_free (h : hub.session? handle = none) : hub.terms? handle = none := by
  rw [terms?, h]
  rfl

theorem terms?_congr (h : hub'.sessions = hub.sessions) (handle : ServiceHandle) :
    hub'.terms? handle = hub.terms? handle := by
  rw [terms?, session?, h]
  rfl

/-- All sessions go on to work on what they did. -/
def Steady (hub hub' : Hub σ κ ε) : Prop := ∀ handle, hub'.terms? handle = hub.terms? handle

theorem Steady.refl (hub : Hub σ κ ε) : hub.Steady hub := fun _ => rfl

/-- What is done besides concerns no session. -/
theorem Steady.congr (h : hub.Steady hub') (hsessions : hub''.sessions = hub'.sessions) :
    hub.Steady hub'' := fun handle => (terms?_congr hsessions handle).trans (h handle)

/-- A session is put in the place of one that was found. -/
theorem terms?_replace (hopen : hub.session? subject = some session)
    (hhandle : s.handle = subject) (world : World σ ε) (handle : ServiceHandle) :
    ({ hub with world }.replace s).terms? handle =
      if handle = subject then some s.terms else hub.terms? handle := by
  have hthere : session? { hub with world } subject = some session := hopen
  split
  · next hsame => rw [hsame, terms?_of_open (session?_replace hthere hhandle)]
  · next hother =>
      rw [terms?, session?_replace_other (hhandle ▸ hother)]
      rfl

/-- Something is done with the session under a handle. -/
theorem replace_terms (b : Backend σ κ ε) (hopen : hub.session? subject = some s)
    (operation : Session.Operation) (handle : ServiceHandle) :
    ({ hub with world := (s.perform b operation hub.world).2 }.replace
        (s.perform b operation hub.world).1).terms? handle =
      (if subject = handle then Bearing.does operation else .quiet).onTerms
        (hub.terms? handle) := by
  rw [terms?_replace hopen ((Session.perform_handle operation).trans
    (mem_handles_of_session? hopen).2)]
  by_cases hsame : handle = subject
  · rw [if_pos hsame, if_pos hsame.symm, hsame, terms?_of_open hopen, Session.perform_terms]
    rfl
  · rw [if_neg hsame, if_neg (Ne.symm hsame)]
    rfl

theorem session?_reload (config : Config) (hub : Hub σ κ ε) (handle : ServiceHandle) :
    session? { hub with sessions := hub.sessions.map (·.reread config) } handle =
      (hub.session? handle).map (·.reread config) := by
  have htest : ((·.handle == handle) ∘ fun s : Session κ => s.reread config) =
      (·.handle == handle) := rfl
  rw [session?, List.find?_map, htest, ← session?]

theorem reload_terms (config : Config) (hub : Hub σ κ ε) (handle : ServiceHandle) :
    terms? { hub with sessions := hub.sessions.map (·.reread config) } handle =
      (Bearing.does (.reread config)).onTerms (hub.terms? handle) := by
  rw [terms?, terms?, session?_reload]
  rcases hub.session? handle with _ | s <;> rfl

theorem insert_terms (hfree : hub.session? subject = none) (opening : Opening)
    (handle : ServiceHandle) :
    terms? { hub with
        sessions := insertSession (Session.start subject opening.settings) hub.sessions } handle =
      (if subject = handle then Bearing.opens opening else .quiet).onTerms
        (hub.terms? handle) := by
  by_cases hsame : handle = subject
  · subst hsame
    have hfree' : hub.session? (Session.start handle opening.settings : Session κ).handle =
      none := hfree
    rw [if_pos rfl, terms?_of_free hfree]
    exact terms?_of_open (session?_insert hfree')
  · have hother : handle ≠ (Session.start subject opening.settings : Session κ).handle := hsame
    rw [if_neg (Ne.symm hsame), terms?, session?, session?_insert_other hother]
    rfl

theorem filter_terms (subject : ServiceHandle) (hub : Hub σ κ ε) (handle : ServiceHandle) :
    terms? { hub with sessions := hub.sessions.filter (·.handle != subject) } handle =
      (if subject = handle then Bearing.closes else .quiet).onTerms (hub.terms? handle) := by
  by_cases hsame : handle = subject
  · subst hsame
    rw [if_pos rfl, terms?_of_free]
    · rcases hub.terms? handle with _ | t <;> rfl
    · refine session?_eq_none_iff.mpr fun hmem => ?_
      rcases List.mem_map.mp hmem with ⟨s, hs, hhandle⟩
      exact bne_iff_ne.mp (List.mem_filter.mp hs).2 hhandle
  · rw [if_neg (Ne.symm hsame), terms?, session?, session?_filter_other hsame]
    rfl

end Hub

namespace Provider

variable {b : Backend σ κ ε} {p p' : Provider σ κ ε} {handle subject : ServiceHandle}
  {session : Session κ}

/-- A call uses the card of a session. -/
theorem onSession_steady (hopen : p.hub.session? subject = some session)
    {use : Session κ → World σ ε → α × Session κ × World σ ε} (access : Session.Access)
    (huse : (use session p.hub.world).2 = session.ask b access p.hub.world) :
    p.hub.Steady (p.onSession use session).2.hub := by
  intro handle
  have hasked := Hub.replace_terms b hopen (.ask access) handle
  rw [Session.perform, ← huse] at hasked
  refine hasked.trans ?_
  split
  · rcases p.hub.terms? handle with _ | t <;> rfl
  · rfl

theorem wakeIf_steady (h : p.hub.Steady p'.hub) (cause : Bool) :
    p.hub.Steady (p'.wakeIf b cause).hub := by
  rw [wakeIf]
  split
  · exact h.congr rfl
  · exact h

theorem addRequest_steady (h : p.hub.Steady p'.hub) (r : PendingRequest) :
    p.hub.Steady (p'.addRequest b r).2.hub := by
  rw [addRequest]
  split
  · exact h
  · refine wakeIf_steady ?_ _
    exact h.congr rfl

theorem readNow_steady (hopen : p.hub.session? subject = some session) (sources : DataSources) :
    p.hub.Steady (p.readNow b sources session).2.hub := by
  by_cases hbound : session.binding.isBound = true
  · rw [readNow_snd sources hbound]
    exact onSession_steady hopen (.read sources) rfl
  · rw [readNow, if_neg hbound]
    exact Hub.Steady.refl p.hub

theorem readRawData_steady {call : Call} (hopen : p.hub.session? call.service = some session)
    (now : Instant) (timeout : Option Duration) (sources : DataSources) :
    p.hub.Steady (p.readRawData b call now timeout sources session).2.hub := by
  have hread := readNow_steady (b := b) hopen sources
  simp only [readRawData]
  split
  · exact (Hub.Steady.refl p.hub).congr rfl
  · rcases hattempt : p.readNow b sources session with ⟨_ | _, p'⟩
    · rw [hattempt] at hread
      exact hread.congr rfl
    · rw [hattempt] at hread
      have hqueued := addRequest_steady (b := b) hread (call.readRequest now timeout sources)
      simp only [enqueue]
      rw [Call.readRequest] at hqueued
      split
      · next hadd =>
          rw [hadd] at hqueued
          exact hqueued
      · next hadd =>
          rw [hadd] at hqueued
          exact hqueued

/-- Ordinary work leaves all terms as they are. -/
theorem execute_steady (b : Backend σ κ ε) (call : Call) (now : Instant)
    (timeout : Option Duration) (command : Command) (p : Provider σ κ ε) :
    p.hub.Steady (p.execute b call now timeout command).2.hub := by
  have hsame := Hub.Steady.refl p.hub
  rw [execute]
  split
  · exact hsame
  · next session hopen =>
      cases command with
      | readRawData sources => exact readRawData_steady hopen now timeout sources
      | chipIo data => exact (onSession_steady hopen (.chipIo data) rfl).congr rfl
      | chipPower action => exact (onSession_steady hopen (.chipPower action) rfl).congr rfl
      | reset => exact (onSession_steady hopen .reset rfl).congr rfl
      | ejectCard => exact hsame.congr rfl
      | unsupported code => exact hsame
      | unknown code => exact hsame

theorem createSession_terms (b : Backend σ κ ε) (subject : ServiceHandle) (opening : Opening)
    (p : Provider σ κ ε) (handle : ServiceHandle) :
    (p.createSession b subject opening.settings).2.hub.terms? handle =
      (if subject = handle then Bearing.opens opening else .quiet).onTerms
        (p.hub.terms? handle) := by
  rw [createSession]
  rcases hfound : p.hub.session? subject with _ | s
  · exact Hub.insert_terms hfound opening handle
  · -- A handle in use is refused.
    show p.hub.terms? handle = _
    split
    · next hsame =>
        rw [← hsame, Hub.terms?_of_open hfound]
        rfl
    · rfl

theorem openSession_terms (b : Backend σ κ ε) (call : Call) (logicalName : String)
    (traceLevel : UInt32) (p : Provider σ κ ε) (handle : ServiceHandle) :
    (p.openSession b call logicalName traceLevel).2.hub.terms? handle =
      (if call.service = handle then
          (Entry.openSession call logicalName traceLevel).bearing p.config
        else .quiet).onTerms (p.hub.terms? handle) := by
  rw [openSession, Entry.bearing]
  rcases hresolved : Settings.resolve p.config logicalName with e | settings
  · rw [Settings.Resolved.of?_error hresolved]
    show p.hub.terms? handle = _
    split <;> rfl
  · have hcreated := createSession_terms b call.service
      (.called ⟨p.config, logicalName, settings, hresolved⟩ traceLevel) p handle
    rw [Opening.settings, Settings.traced] at hcreated
    rw [Settings.Resolved.of?_ok hresolved]
    refine Eq.trans ?_ hcreated
    simp only
    split
    · next hcall =>
        rw [hcall]
        rfl
    · next hcall =>
        rw [hcall]
        rfl

/-- A call that finds no session under its handle is nothing to anyone, if it
    opens none. -/
theorem unopened_terms (hfree : p.hub.session? subject = none) {bearing : Bearing}
    (h : bearing.onTerms none = none) (handle : ServiceHandle) :
    p.hub.terms? handle =
      (if subject = handle then bearing else .quiet).onTerms (p.hub.terms? handle) := by
  split
  · next hsame => rw [← hsame, Hub.terms?_of_free hfree, h]
  · rfl

end Provider

/-- What a call is to a handle. -/
def Entry.bearingAt (handle : ServiceHandle) (config : Config) (entry : Entry) : Bearing :=
  match entry.handle? with
  | some subject => if subject = handle then entry.bearing config else .quiet
  | none => entry.bearing config

namespace Stage

variable {b : Backend σ κ ε} {st : Stage σ κ ε} {handle : ServiceHandle}

/-- What a move is to a handle. -/
def bearing (handle : ServiceHandle) (st : Stage σ κ ε) (move : Move σ) : Bearing :=
  match st.handing move with
  | some (state, kind) => .does (.notify state kind)
  | none =>
    match move with
    | .enter _ entry => entry.bearingAt handle st.provider.config
    | .createSession subject settings =>
      if subject = handle then .opens (.given settings) else .quiet
    | .removeSession subject => if subject = handle then .closes else .quiet
    | .work | .addRequest _ | .cancelRequest _ | .cancelService _ | .cancelAll | .change ..
    | .watch _ | .tick _ | .happen _ | .stop => .quiet

/-- The career under a handle after a run, from that before it. -/
def career (b : Backend σ κ ε) (handle : ServiceHandle) :
    List (Move σ) → Stage σ κ ε → Option Career → Option Career
  | [], _, career? => career?
  | move :: moves, st, career? =>
    career b handle moves (st.move b move) ((st.bearing handle move).onCareer career?)

theorem remove_terms (subject : ServiceHandle) (call? : Option Call) (st : Stage σ κ ε)
    (handle : ServiceHandle) :
    (st.remove subject call?).provider.hub.terms? handle =
      (if subject = handle then Bearing.closes else .quiet).onTerms
        (st.provider.hub.terms? handle) := by
  rw [remove]
  split
  · next hfree => exact Provider.unopened_terms hfree rfl handle
  · exact Hub.filter_terms subject st.provider.hub handle

/-- A call, up to its first completion. -/
theorem enter_terms (b : Backend σ κ ε) (now : Instant) (entry : Entry) (st : Stage σ κ ε)
    (handle : ServiceHandle) :
    (st.enter b now entry).provider.hub.terms? handle =
      (entry.bearingAt handle st.provider.config).onTerms (st.provider.hub.terms? handle) := by
  have hsame := Hub.Steady.refl st.provider.hub
  -- Ordinary work is nothing to anyone's terms.
  have hquiet : ∀ {subject : ServiceHandle} {hub' : Hub σ κ ε}, st.provider.hub.Steady hub' →
      hub'.terms? handle = (if subject = handle then Bearing.quiet else .quiet).onTerms
        (st.provider.hub.terms? handle) := by
    intro subject hub' hsteady
    rw [ite_self]
    exact hsteady handle
  cases entry with
  | openSession call logicalName traceLevel =>
      exact Provider.openSession_terms b call logicalName traceLevel st.provider handle
  | closeSession call => exact st.remove_terms call.service (some call) handle
  | lock call =>
      refine hquiet ?_
      show st.provider.hub.Steady (st.provider.lock b call).2.hub
      rw [Provider.lock]
      split
      · exact hsame
      · next session hopen => exact (Provider.onSession_steady hopen .lock rfl).congr rfl
  | unlock call =>
      refine hquiet ?_
      show st.provider.hub.Steady (st.provider.unlock b call).2.hub
      rw [Provider.unlock]
      split
      · exact hsame
      · next session hopen => exact (Provider.onSession_steady hopen .unlock rfl).congr rfl
  | register call classes window =>
      show (st.provider.register call classes window).2.hub.terms? handle = _
      rw [Provider.register, Entry.bearingAt, Entry.handle?, Entry.bearing]
      rcases EventClass.ofBits? classes with _ | classes
      · split <;> exact hquiet hsame
      · split
        · next hfree => exact Provider.unopened_terms hfree rfl handle
        · next session hopen => exact Hub.replace_terms b hopen (.register window classes) handle
  | deregister call classes window =>
      show (st.provider.deregister call classes window).2.hub.terms? handle = _
      rw [Provider.deregister, Entry.bearingAt, Entry.handle?, Entry.bearing]
      rcases EventClass.ofBits? classes with _ | classes
      · split <;> exact hquiet hsame
      · split
        · next hfree => exact Provider.unopened_terms hfree rfl handle
        · next session hopen => exact Hub.replace_terms b hopen (.deregister window classes) handle
  | getInfo call category =>
      refine hquiet ?_
      show st.provider.hub.Steady (st.provider.getInfo b call category).2.hub
      rw [Provider.getInfo]
      split
      · exact hsame
      · next session hopen =>
          split
          · exact hsame
          · exact hsame
          · exact hsame
          · exact hsame.congr rfl
          · exact (Provider.onSession_steady hopen .status rfl).congr rfl
  | execute call timeout command =>
      exact hquiet (Provider.execute_steady b call now timeout command st.provider)
  | executeRaw call timeout code data =>
      refine hquiet ?_
      show st.provider.hub.Steady (st.provider.executeRaw b call now timeout code data).2.hub
      rw [Provider.executeRaw]
      split
      · exact hsame
      · split
        · exact Provider.execute_steady b call now timeout _ st.provider
        · exact hsame
  | cancelAsync subject request =>
      refine hquiet ?_
      show st.provider.hub.Steady (st.cancelAsync subject request).provider.hub
      rw [cancelAsync.eq_def]
      split
      · exact hsame
      · exact hsame.congr rfl
      · exact hsame.congr rfl
  | setTraceLevel subject level =>
      show (st.provider.setTraceLevel subject level).2.hub.terms? handle = _
      rw [Provider.setTraceLevel]
      split
      · next hfree => exact Provider.unopened_terms hfree rfl handle
      · next session hopen => exact Hub.replace_terms b hopen (.setTraceLevel level) handle
  | unload => exact hsame handle
  | reload config => exact Hub.reload_terms config st.provider.hub handle

/-- A report is handed to the session under a handle. -/
theorem handed_terms (h : st.Plain) {move : Move σ} {state : Snapshot} {kind : ChangeKind}
    (hhanding : st.handing move = some (state, kind)) (handle : ServiceHandle) :
    (st.move b move).provider.hub.terms? handle =
      (Bearing.does (.notify state kind)).onTerms (st.provider.hub.terms? handle) := by
  rcases hopen : st.provider.hub.session? handle with _ | s
  · rw [Hub.terms?_of_free hopen]
    rcases hopen' : (st.move b move).provider.hub.session? handle with _ | s'
    · exact Hub.terms?_of_free hopen'
    · rcases open_of_handing hhanding h.duties hopen' with ⟨s, hs⟩
      cases hopen.symm.trans hs
  · rw [Hub.terms?_of_open hopen]
    cases kind with
    | deviceList =>
        have hsessions := (move_informed (b := b) hhanding h.duties).1
        rw [Hub.informed, Hub.notifySessions_deviceList] at hsessions
        rw [Hub.terms?_congr hsessions, Hub.terms?_of_open hopen]
        rfl
    | card =>
        rcases move_notified (b := b) h hhanding hopen with ⟨w, -, hthere, -⟩
        rw [Hub.terms?_of_open hthere]
        exact congrArg some (s.perform_terms b (.notify state .card) w)

/-- A duty other than to tell of a change. -/
theorem work_steady (b : Backend σ κ ε) (hnone : st.handing .work = none) :
    st.provider.hub.Steady (st.work b).provider.hub := by
  rcases st with ⟨p, duties, begun⟩
  have hsame := Hub.Steady.refl p.hub
  rcases duties with _ | ⟨duty, duties⟩
  · exact hsame
  · cases duty with
    | post post => exact hsame.congr rfl
    | wakeIf cause => exact Provider.wakeIf_steady hsame cause
    | release session call? => cases call? <;> exact hsame.congr rfl
    | tell news =>
        cases news with
        | timeout now => exact hsame.congr rfl
        | change s => cases hnone
    | go next => exact hsame

/-- Something is done about terms by a report that is handed on, or by a call. -/
theorem bearing_does {move : Move σ} {operation : Session.Operation}
    (h : st.bearing handle move = .does operation) :
    (∃ state kind, operation = .notify state kind) ∨
      ∃ entry : Entry, entry.bearing st.provider.config = .does operation := by
  have hone : ∀ {bearing : Bearing} (subject : ServiceHandle),
      (if subject = handle then bearing else .quiet) = .does operation →
        bearing = .does operation := by
    intro bearing subject hdoes
    by_cases hsame : subject = handle
    · rw [if_pos hsame] at hdoes
      exact hdoes
    · rw [if_neg hsame] at hdoes
      cases hdoes
  rw [bearing.eq_def] at h
  rcases hhanding : st.handing move with _ | ⟨state, kind⟩
  · rw [hhanding] at h
    cases move with
    | enter now entry =>
        refine .inr ⟨entry, ?_⟩
        simp only [Entry.bearingAt] at h
        split at h
        · exact hone _ h
        · exact h
    | createSession subject | removeSession subject => cases hone subject h
    | work | addRequest | cancelRequest | cancelService | cancelAll | change | watch | tick | happen
    | stop => cases h
  · rw [hhanding] at h
    cases h
    exact .inl ⟨state, kind, rfl⟩

/-- What holds of a session that was just opened, and is kept by whatever comes
    to be done in moves, holds of the careers that runs leave. -/
theorem career_induct {P : Career → Prop} (hstart : ∀ opening, P ⟨opening, []⟩)
    (hextend : ∀ (st : Stage σ κ ε) (move : Move σ) operation career,
      st.bearing handle move = .does operation → P career → P (career.extend operation))
    (moves : List (Move σ)) {career? : Option Career}
    (h : ∀ career, career? = some career → P career) {career : Career}
    (hcareer : st.career b handle moves career? = some career) : P career := by
  induction moves generalizing st career? with
  | nil => exact h career hcareer
  | cons move moves ih =>
      refine ih (fun after hafter => ?_) hcareer
      rcases hbearing : st.bearing handle move with _ | opening | _ | operation
      · rw [hbearing] at hafter
        exact h after hafter
      · rw [hbearing] at hafter
        rcases career? with _ | before
        · cases hafter
          exact hstart opening
        · exact h after hafter
      · rw [hbearing] at hafter
        rcases career? with _ | before <;> cases hafter
      · rw [hbearing] at hafter
        rcases career? with _ | before
        · cases hafter
        · cases hafter
          exact hextend st move operation before hbearing (h before rfl)

/-- What a move makes of the terms under a handle. -/
theorem move_terms (h : st.Plain) (move : Move σ) (handle : ServiceHandle) :
    (st.move b move).provider.hub.terms? handle =
      (st.bearing handle move).onTerms (st.provider.hub.terms? handle) := by
  have hsame := Hub.Steady.refl st.provider.hub
  rw [bearing.eq_def]
  rcases hhanding : st.handing move with _ | ⟨state, kind⟩
  · cases move with
    | work => exact work_steady b hhanding handle
    | enter now entry => exact enter_terms b now entry st handle
    | createSession subject settings =>
        exact Provider.createSession_terms b subject (.given settings) st.provider handle
    | removeSession subject => exact st.remove_terms subject none handle
    | addRequest request => exact Provider.addRequest_steady hsame request handle
    | cancelRequest | cancelService | cancelAll | tick | happen | stop => rfl
    | change => cases hhanding
    | watch now =>
        rcases watch_hub b now st with ⟨world, hhub⟩
        rw [move.eq_def]
        simp only
        split
        · exact Hub.terms?_congr (congrArg Hub.sessions hhub) handle
        · rfl
  · exact handed_terms h hhanding handle

/-- A session that is open before and after a move goes on with its terms, or
    something is done about them. -/
theorem move_kept (h : st.Plain) {move : Move σ} {s s' : Session κ}
    (hopen : st.provider.hub.session? handle = some s)
    (hopen' : (st.move b move).provider.hub.session? handle = some s') :
    s'.terms = s.terms ∨
      ∃ operation, st.bearing handle move = .does operation ∧
        s'.terms = s.terms.after operation := by
  have hterms := move_terms (b := b) h move handle
  rw [Hub.terms?_of_open hopen, Hub.terms?_of_open hopen'] at hterms
  rcases hbearing : st.bearing handle move with _ | opening | _ | operation
  · rw [hbearing] at hterms
    exact .inl (Option.some.inj hterms)
  · rw [hbearing] at hterms
    exact .inl (Option.some.inj hterms)
  · rw [hbearing] at hterms
    cases hterms
  · rw [hbearing] at hterms
    exact .inr ⟨operation, rfl, Option.some.inj hterms⟩

/-- The terms under a handle are what the career there makes of them. -/
theorem run_terms (h : st.Plain) (moves : List (Move σ)) {career? : Option Career}
    (hcareer : st.provider.hub.terms? handle = career?.map Career.terms) :
    (st.run b moves).provider.hub.terms? handle =
      (st.career b handle moves career?).map Career.terms := by
  induction moves generalizing st career? with
  | nil => exact hcareer
  | cons move moves ih =>
      refine ih (move_plain h move) ?_
      rw [move_terms h, hcareer, Bearing.onTerms_map]

/-- A session that is open after a run has a career, and its terms are from
    that. -/
theorem career_of_open (b : Backend σ κ ε) (hardware : σ) (config : Config)
    (moves : List (Move σ)) {s : Session κ}
    (hopen : ((start hardware config : Stage σ κ ε).run b moves).provider.hub.session? handle =
      some s) :
    ∃ career, (start hardware config : Stage σ κ ε).career b handle moves none = some career ∧
      s.terms = career.terms := by
  have hfree : (start hardware config : Stage σ κ ε).provider.hub.terms? handle =
      (none : Option Career).map Career.terms := rfl
  have hterms := run_terms (b := b) (start_plain hardware config) moves hfree
  rw [Hub.terms?_of_open hopen] at hterms
  rcases Option.map_eq_some_iff.mp hterms.symm with ⟨career, hcareer, hsame⟩
  exact ⟨career, hcareer, hsame.symm⟩

end Stage

end CardHost
