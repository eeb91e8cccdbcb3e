import CardHost.Proofs.Reloads
import CardHost.Proofs.Resync

/-!
# How a Session Comes by Its Reader

Three hands write the binding of a session. It is opened with a name or without
one; a configuration may name another reader, and then the session goes there
whatever it had before; and the first card that is inserted anywhere binds it, if
nothing has bound it yet. A name that is empty counts as none, when the session
is opened as well as later.

Of a career, then, two lists matter: the names that were given, by the opening
and by configurations, and the readers that a card was put in. The last of the
one decides, and only if there is none, the first of the other. That is
`Career.choice`, and `terms_reader` shows it by induction on the career. It has
the session of any run bound where it should be, and what it says of one session
it says of all, so sessions that were unbound when a card was inserted are bound
to one and the same reader after that.

The order in which reports reach a career is the order in which they are told.
What is told in a run begins what was heard by it, and of one wait the changed
entries are heard in the order of the wait set.

## Main definitions

* `givenName?`: A name that was given, if it is one.
* `Config.readerNamed?`: The reader that a configuration names for a provider.
* `Opening.named?`, `Operation.named?`: The reader named by an opening; by a configuration.
* `Career.named`, `Career.inserted`: The names given, and the readers with a card.
* `Career.choice`: The reader that a session should be bound to.
* `Career.reports`: The reports that a session was handed.
* `Hub.Shares`: Requests look at the bindings of their sessions.

## Theorems

* `named?_settings`, `readerNamed?_eq`: The names given are those that settings have.
* `terms_reader`: A career binds its session to its choice.
* `after_bound`, `after_unnamed`: No operation unbinds, nor does a configuration
  without a name move anything.
* `Sound.shares`: What requests look at.
* `career_reports`: Reports reach a session in the order in which they are told.
* `run_binds`: All of this, over every run.
-/

namespace CardHost

variable {σ κ ε : Type}

/-- A name that was given, if it is one: no name is empty. -/
def givenName? : Option String → Option String
  | some name => if name = "" then none else some name
  | none => none

theorem configuredName_eq (name : Option String) : configuredName name = givenName? name := by
  cases name with
  | none => rfl
  | some name =>
      rw [configuredName, givenName?, Option.filter_some]
      by_cases hempty : name = ""
      · rw [if_pos hempty, String.isEmpty_iff.mpr hempty]
        rfl
      · rw [if_neg hempty, Bool.eq_false_iff.mpr (mt String.isEmpty_iff.mp hempty)]
        rfl

theorem configuredName_idem (name : Option String) :
    configuredName (configuredName name) = configuredName name := by
  rw [configuredName, configuredName, Option.filter_filter]
  simp only [Bool.and_self]

/-- What is found under a name is what is listed for it first. -/
theorem find?_eq_lookup {α : Type} (table : List (String × α)) (name : String) :
    (table.find? (·.1 == name)).map Prod.snd = table.lookup name := by
  induction table with
  | nil => rfl
  | cons entry table ih =>
      rw [List.find?_cons, List.lookup_cons, BEq.comm]
      cases name == entry.1 with
      | true => rfl
      | false => exact ih

namespace Config

/-- The reader that a configuration names for a provider, if it knows the provider and
    the name is one. -/
def readerNamed? (config : Config) (providerName : String) : Option String :=
  (config.serviceProviders.lookup providerName).bind fun provider => givenName? provider.readerName

theorem readerNamed?_eq (config : Config) (providerName : String) :
    configuredName (config.provider providerName).readerName =
      config.readerNamed? providerName := by
  rw [provider, find?_eq_lookup, readerNamed?, configuredName_eq]
  cases config.serviceProviders.lookup providerName <;> rfl

end Config

namespace Opening

/-- The provider that a session was opened with: the one that its logical service had
    in the configuration then. -/
def provider? : Opening → Option String
  | called first _ =>
    (first.config.logicalServices.lookup first.logicalName).map LogicalService.provider
  | given settings => some settings.providerName

/-- The reader that was named when a session was opened. -/
def named? : Opening → Option String
  | called first _ =>
    (first.config.logicalServices.lookup first.logicalName).bind fun service =>
      first.config.readerNamed? service.provider
  | given settings => givenName? settings.readerName

/-- The provider is the one in the settings of the session. -/
theorem provider?_settings (opening : Opening) :
    opening.provider? = some opening.settings.providerName := by
  cases opening with
  | given settings => rfl
  | called first traceLevel =>
      have hservice := first.spec.1
      rw [Config.service?, find?_eq_lookup] at hservice
      rw [provider?, hservice, (called_names first traceLevel).2]
      rfl

/-- The reader is the one that the settings have, if that has a name. -/
theorem named?_settings (opening : Opening) :
    configuredName opening.settings.readerName = opening.named? := by
  cases opening with
  | given settings => exact configuredName_eq settings.readerName
  | called first traceLevel =>
      have hservice := first.spec.1
      rw [Config.service?, find?_eq_lookup] at hservice
      have hreader : (called first traceLevel).settings.readerName =
          configuredName (first.config.provider first.settings.providerName).readerName := by
        -- A trace level of its own is all that the session has besides.
        refine Eq.trans ?_ (congrArg Settings.readerName first.spec.2)
        rw [settings, Settings.traced]
        split <;> rfl
      rw [hreader, configuredName_idem, Config.readerNamed?_eq, named?, hservice]
      rfl

end Opening

namespace Binding

/-- A name that is given replaces what there was. -/
theorem reader_rebind (b : Binding) (name : Option String) :
    (b.rebind name).reader = (configuredName name).or b.reader := by
  rw [rebind]
  rcases configuredName name with _ | name <;> rfl

/-- A card binds what is unbound. -/
theorem reader_bind (b : Binding) (name : String) :
    (b.bind name).2.reader = b.reader.or (some name) := by
  rcases b with ⟨_ | reader⟩ <;> rfl

end Binding

namespace Session

/-- The reader that an operation names to a session of a provider, if it is a
    configuration and names one. -/
def Operation.named? (provider? : Option String) : Operation → Option String
  | reread config => provider?.bind config.readerNamed?
  | setTraceLevel _ | register .. | deregister .. | ask _ | disconnect | notify .. => none

/-- The reader that a card was put in, if the operation reports that. -/
def Operation.inserted? : Operation → Option String
  | notify state .card => if state.inserted then some state.name else none
  | notify _ .deviceList | reread _ | setTraceLevel _ | register .. | deregister .. | ask _
  | disconnect => none

/-- The report that is handed to a session, if the operation is one. -/
def Operation.report? : Operation → Option Snapshot
  | notify state _ => some state
  | reread _ | setTraceLevel _ | register .. | deregister .. | ask _ | disconnect => none

namespace Terms

/-- A name that is given moves a session, and a card binds one that is unbound. -/
theorem after_reader (t : Terms) (operation : Operation) :
    (t.after operation).binding.reader =
      (operation.named? t.settings.providerName).or
        (t.binding.reader.or operation.inserted?) := by
  cases operation with
  | reread config =>
      rw [Operation.inserted?, Option.or_none, Operation.named?, Option.bind_some,
        ← Config.readerNamed?_eq, ← configuredName_idem]
      exact t.binding.reader_rebind _
  | setTraceLevel | register | deregister | ask | disconnect => exact (Option.or_none).symm
  | notify state kind =>
      cases kind with
      | deviceList => exact (Option.or_none).symm
      | card =>
          rw [after, Operation.named?, Operation.inserted?, Option.none_or]
          split
          · exact t.binding.reader_bind state.name
          · exact (Option.or_none).symm

/-- Nothing that is done unbinds a session. -/
theorem after_bound {t : Terms} (h : t.binding.isBound = true) (operation : Operation) :
    (t.after operation).binding.isBound = true := by
  rw [Binding.isBound, after_reader, Option.isSome_or, Option.isSome_or]
  rw [Binding.isBound] at h
  rw [h, Bool.true_or, Bool.or_true]

end Terms

end Session

namespace Career

/-- The names of readers that were given, first at the opening. -/
def named (career : Career) : List String :=
  career.opening.named?.toList ++
    career.operations.filterMap (·.named? career.opening.provider?)

/-- The readers that a card was put in. -/
def inserted (career : Career) : List String :=
  career.operations.filterMap Session.Operation.inserted?

/-- The reader that the session should be bound to: the last that was named, and
    if none was, the first that a card was put in. -/
def choice (career : Career) : Option String := career.named.getLast?.or career.inserted.head?

/-- The reports that were handed to the session. -/
def reports (career : Career) : List Snapshot :=
  career.operations.filterMap Session.Operation.report?

theorem named_extend (career : Career) (operation : Session.Operation) :
    (career.extend operation).named =
      career.named ++ (operation.named? career.opening.provider?).toList := by
  rw [named, filterMap_extend, ← List.append_assoc]
  rfl

theorem inserted_extend (career : Career) (operation : Session.Operation) :
    (career.extend operation).inserted = career.inserted ++ operation.inserted?.toList :=
  filterMap_extend Session.Operation.inserted? career operation

theorem reports_extend (career : Career) (operation : Session.Operation) :
    (career.extend operation).reports = career.reports ++ operation.report?.toList :=
  filterMap_extend Session.Operation.report? career operation

/-- A career binds its session to its choice. -/
theorem terms_reader (career : Career) : career.terms.binding.reader = career.choice := by
  induction career using induct with
  | hstart opening =>
      rw [choice, named, inserted, List.filterMap_nil, List.filterMap_nil, List.append_nil]
      refine opening.named?_settings.trans ?_
      rcases opening.named? with _ | name <;> rfl
  | hextend career operation ih =>
      rw [terms_extend, Session.Terms.after_reader, ih, career.terms_names.2,
        ← career.opening.provider?_settings, choice, choice, named_extend, inserted_extend]
      rcases operation.named? career.opening.provider? with _ | name
      · -- Without a name, a card decides if nothing has so far.
        rw [Option.none_or, Option.toList_none, List.append_nil, Option.or_assoc,
          List.head?_append]
        rcases operation.inserted? with _ | reader <;> rfl
      · rw [Option.toList_some, List.getLast?_concat]
        rfl

end Career

namespace Session.Terms

/-- A configuration that names no reader leaves a session where it is. -/
theorem after_unnamed {t : Terms} {config : Config}
    (h : config.readerNamed? t.settings.providerName = none) :
    (t.after (.reread config)).binding = t.binding := by
  show t.binding.rebind (configuredName (config.provider t.settings.providerName).readerName) = _
  rw [Config.readerNamed?_eq, h]
  rfl

end Session.Terms

namespace Hub

variable {b : Backend σ κ ε} {hub : Hub σ κ ε}

/-- Every request that waits looks at the binding of its session, which is open. -/
def Shares (hub : Hub σ κ ε) : Prop :=
  ∀ r ∈ hub.pending.live, ∃ s, hub.session? r.key.service = some s ∧
    r.target.binding hub.binding = s.binding

theorem Sound.shares (h : hub.Sound) : hub.Shares := by
  intro r hr
  rcases h.owned r hr with ⟨htarget, hmem⟩
  rcases session?_of_mem_handles hmem with ⟨s, hopen⟩
  rcases mem_handles_of_session? hopen with ⟨hs, hhandle⟩
  refine ⟨s, hopen, ?_⟩
  rw [htarget, ← hhandle]
  exact binding_of_session h.ascending hs

end Hub

/-- The report that something is to a handle. -/
def Bearing.report? : Bearing → Option Snapshot
  | does operation => operation.report?
  | quiet | opens _ | closes => none

/-- Reports that end a list go on to, with what is reported next. -/
theorem Bearing.onCareer_reports {bearing : Bearing} {career? : Option Career}
    {told : List Snapshot} (h : ∀ career, career? = some career → career.reports <:+ told)
    {career : Career} (hcareer : bearing.onCareer career? = some career) :
    career.reports <:+ told ++ bearing.report?.toList := by
  have hsame : ∀ career, career? = some career → career.reports <:+ told ++ [] := fun career hc =>
    (List.append_nil told).symm ▸ h career hc
  cases bearing with
  | quiet => exact hsame career hcareer
  | opens opening =>
      rcases career? with _ | before
      · cases hcareer
        exact List.nil_suffix
      · exact hsame career hcareer
  | closes =>
      rcases career? with _ | before
      · cases hcareer
      · cases hcareer
  | does operation =>
      rcases career? with _ | before
      · cases hcareer
      · cases hcareer
        rcases h before rfl with ⟨earlier, hearlier⟩
        rw [Career.reports_extend, ← hearlier, List.append_assoc]
        exact List.suffix_append earlier _

namespace Stage

variable {b : Backend σ κ ε} {st : Stage σ κ ε} {handle : ServiceHandle}

/-- A move reports to a handle what it hands on. -/
theorem bearing_report (handle : ServiceHandle) (st : Stage σ κ ε) (move : Move σ) :
    (st.bearing handle move).report? = (st.handing move).map Prod.fst := by
  have hentry : ∀ (entry : Entry) (config : Config), (entry.bearing config).report? = none := by
    intro entry config
    cases entry with
    | openSession call logicalName traceLevel =>
        rw [Entry.bearing]
        rcases Settings.Resolved.of? config logicalName with _ | first <;> rfl
    | register call classes window | deregister call classes window =>
        rw [Entry.bearing]
        rcases EventClass.ofBits? classes with _ | classes <;> rfl
    | closeSession | lock | unlock | getInfo | execute | executeRaw | cancelAsync | setTraceLevel
    | unload | reload => rfl
  have hone : ∀ {bearing : Bearing} (subject : ServiceHandle), bearing.report? = none →
      (if subject = handle then bearing else .quiet).report? = none := by
    intro bearing subject hnone
    split
    · exact hnone
    · rfl
  rw [bearing.eq_def]
  rcases hhanding : st.handing move with _ | ⟨state, kind⟩
  · cases move with
    | enter now entry =>
        show (entry.bearingAt handle st.provider.config).report? = none
        rw [Entry.bearingAt]
        split
        · exact hone _ (hentry entry _)
        · exact hentry entry _
    | createSession subject | removeSession subject => exact hone subject rfl
    | work | addRequest | cancelRequest | cancelService | cancelAll | change | watch | tick | happen
    | stop => rfl
  · rfl

/-- What is told in a move is what it hands on, if that comes from the watcher. -/
theorem toldIn_deeds {move : Move σ} (hchange : ∀ state kind, move ≠ .change state kind) :
    toldIn (st.deeds b move) = ((st.handing move).map Prod.fst).toList := by
  have hsilent := toldIn_silent (departure_silent st.hold (st.move b move).hold (st.doing b move))
  rw [deeds, toldIn_append, toldIn_append, toldIn_silent (turnover_silent _ _), hsilent,
    List.append_nil, List.append_nil]
  rcases hhanding : st.handing move with _ | ⟨state, kind⟩
  · rcases hdoing : st.doing b move with _ | deed
    · rfl
    · cases deed with
      | told s => cases hhanding.symm.trans (handing_of_told hdoing)
      | opened | closed | setOut | listed | began | heard => rfl
  · rcases doing_of_handing (b := b) hhanding with hdoing | rfl
    · rw [hdoing]
      rfl
    · exact absurd rfl (hchange state kind)

/-- Reports reach a session in the order in which they are told. -/
theorem career_reports {moves : List (Move σ)} (hchange : ∀ state kind, .change state kind ∉ moves)
    {career? : Option Career} {told : List Snapshot}
    (h : ∀ career, career? = some career → career.reports <:+ told) {career : Career}
    (hcareer : st.career b handle moves career? = some career) :
    career.reports <:+ told ++ toldIn (st.chronicle b moves) := by
  induction moves generalizing st career? told with
  | nil => exact (List.append_nil told).symm ▸ h career hcareer
  | cons move moves ih =>
      rw [chronicle, toldIn_append, ← List.append_assoc]
      refine ih (fun state kind hmem => hchange state kind (List.mem_cons_of_mem _ hmem)) ?_ hcareer
      intro career' hcareer'
      have hmove : ∀ state kind, move ≠ .change state kind := fun state kind heq =>
        hchange state kind (heq ▸ List.mem_cons_self)
      rw [toldIn_deeds hmove, ← bearing_report handle]
      exact Bearing.onCareer_reports h hcareer'

/-- A session has the reader that it should have. At any moment of any run it is
    bound to the last reader that it was given by a name that is not empty, by its
    settings when it was opened or by a configuration since, and if it was given
    none, to the first that a card was put in; reports reach it in the order in
    which they are told, and that is the order in which they were heard. No move
    unbinds a session that stays open, a configuration that names no reader leaves
    it where it is, and a card that is inserted binds all that were unbound to one
    reader. Whatever requests there are look at the binding that their session has
    at that moment, and so they do when a report is about to end some of them. -/
theorem run_binds (b : Backend σ κ ε) (hardware : σ) (config : Config) (moves : List (Move σ)) :
    let first : Stage σ κ ε := start hardware config
    let st := first.run b moves
    let past := .setOut :: first.chronicle b moves
    (∀ handle s, st.provider.hub.session? handle = some s →
      ∃ career, first.career b handle moves none = some career ∧
        s.binding.reader = career.choice ∧
          ((∀ state kind, .change state kind ∉ moves) → career.reports <:+ toldIn past)) ∧
      toldIn past ++ st.untold = changesIn past ∧
      (∀ move handle s s', st.provider.hub.session? handle = some s →
        (st.move b move).provider.hub.session? handle = some s' →
          (s.binding.isBound = true → s'.binding.isBound = true) ∧
            ∀ now next, move = .enter now (.reload next) →
              next.readerNamed? s.settings.providerName = none → s'.binding = s.binding) ∧
      (∀ move state, st.handing move = some (state, .card) → state.inserted = true →
        ∀ handle s, st.provider.hub.session? handle = some s → s.binding.isBound = false →
          ∃ s', (st.move b move).provider.hub.session? handle = some s' ∧
            s'.binding.reader = some state.name) ∧
      ((∀ request, .addRequest request ∉ moves) → st.provider.hub.Shares ∧
        ∀ state kind, (st.provider.hub.informed b state kind).Shares) := by
  intro first st past
  have hplain : st.Plain := run_plain (start_plain hardware config) moves
  have hrecorded : Recorded past st := run_recorded (start_recorded hardware config) moves
  refine ⟨fun handle s hopen => ?_, hrecorded.told, fun move handle s s' hopen hopen' => ?_,
    fun move state hhanding hinserted handle s hopen hunbound => ?_, fun hentry => ?_⟩
  · rcases career_of_open b hardware config moves hopen with ⟨career, hcareer, hterms⟩
    refine ⟨career, hcareer, ?_, fun hchange => ?_⟩
    · rw [← career.terms_reader, ← hterms]
      rfl
    · have hnone : ∀ career, (none : Option Career) = some career → career.reports <:+ [] :=
        fun _ h => nomatch h
      exact career_reports hchange hnone hcareer
  · have hkept := move_kept hplain hopen hopen'
    refine ⟨fun hbound => ?_, fun now next hmove hunnamed => ?_⟩
    · rcases hkept with hsame | ⟨operation, -, hafter⟩
      · exact (congrArg (·.binding.isBound) hsame).trans hbound
      · exact (congrArg (·.binding.isBound) hafter).trans
          (Session.Terms.after_bound hbound operation)
    · rcases hkept with hsame | ⟨operation, hbearing, hafter⟩
      · exact congrArg (·.binding) hsame
      · subst hmove
        cases hbearing
        exact (congrArg (·.binding) hafter).trans (Session.Terms.after_unnamed hunnamed)
  · rcases move_notified (b := b) hplain hhanding hopen with ⟨w, -, hthere, -⟩
    refine ⟨_, hthere, ?_⟩
    have hterms := s.perform_terms b (.notify state .card) w
    have hnone : s.terms.binding.reader = none :=
      Option.isNone_iff_eq_none.mp (Option.isSome_eq_false_iff.mp hunbound)
    refine (congrArg (·.binding.reader) hterms).trans ?_
    rw [Session.Terms.after_reader, Session.Operation.named?, hnone, Session.Operation.inserted?,
      if_pos hinserted]
    rfl
  · have hsound : st.provider.hub.Sound := run_sound (Hub.sound_start _) hentry
    exact ⟨hsound.shares, fun state kind =>
      ((Hub.informed_quiet b state kind st.provider.hub).keeps hsound).sound.shares⟩

end Stage

end CardHost
