import CardHost.Proofs.Careers

/-!
# To Reload Is to Open Anew

Settings come about in two ways. A session that is opened has them looked up for
its logical service, by way of the provider that implements this service. A
session that is open when a configuration comes in has them read again, and then
nobody looks at the logical service: it may have gone meanwhile, or moved to
another provider, and the session stays with the one it was opened with.

For all that the two ways lead to the same place. Settings that were read again
are a matter of the two names and the last configuration, of nothing else: not of
any configuration in between, nor of a trace level that the session was opened
with or was given later. As long as the logical service is where it was, they are
the settings that a session would have that is opened now. `Reopened` has this in
four parts, and `reload_reopens` shows it for every chain of configurations, and
for every session that is open when a provider takes one in.

## Main definitions

* `Settings.Reopened`: Settings as if opened anew with a provider.

## Theorems

* `ofProvider_reopened`: What the settings of a provider are.
* `Resolved.spec`: What is known of a configuration that knows a logical service.
* `foldl_reread`: A chain of configurations leaves the last.
* `reload_reopens`: What a provider has its sessions read.
-/

namespace CardHost

variable {σ κ ε : Type}

theorem configuredName_ne_empty (name : Option String) : configuredName name ≠ some "" := by
  intro h
  have hkept := (Option.filter_eq_some_iff.mp h).2
  cases hkept

namespace Settings

/-- Settings under two names are as if a session were opened anew with this
    provider. -/
structure Reopened (logicalName providerName : String) (config : Config) (s : Settings) :
    Prop where
  /-- They depend on the names and the configuration alone. -/
  eq : s = ofProvider logicalName providerName config
  /-- To read the same configuration again changes nothing. -/
  again : s.reread config = s
  /-- A reader that is named has a name. -/
  readerName : s.readerName ≠ some ""
  /-- A session that is opened now would have the same, if it had this provider. -/
  resolve : config.service? logicalName = some ⟨providerName⟩ →
    resolve config logicalName = .ok s

/-- The settings of a provider are of this kind. -/
theorem ofProvider_reopened (logicalName providerName : String) (config : Config) :
    (ofProvider logicalName providerName config).Reopened logicalName providerName config where
  eq := rfl
  again := rfl
  readerName := configuredName_ne_empty _
  resolve h := resolve_eq_reread (ofProvider logicalName providerName config) config h

/-- A configuration that knows a logical service knows the provider of it, and
    has the settings from there. -/
theorem Resolved.spec (first : Resolved) :
    first.config.service? first.logicalName = some ⟨first.settings.providerName⟩ ∧
      first.settings =
        ofProvider first.logicalName first.settings.providerName first.config := by
  rcases first with ⟨config, logicalName, settings, hresolves⟩
  show config.service? logicalName = some ⟨settings.providerName⟩ ∧ settings = _
  rw [Settings.resolve] at hresolves
  split at hresolves
  · next service hservice =>
      cases hresolves
      exact ⟨hservice, rfl⟩
  · cases hresolves

/-- A chain of configurations leaves no trace but of the last. -/
theorem foldl_reread (logicalName providerName : String) (first : Config)
    (configs : List Config) :
    configs.foldl reread (ofProvider logicalName providerName first) =
      ofProvider logicalName providerName (configs.getLastD first) := by
  induction configs generalizing first with
  | nil => rfl
  | cons config configs ih =>
      rw [List.foldl_cons, List.getLastD_cons]
      exact ih config

end Settings

/-- A session is opened under the names of its logical service and of the
    provider that this had then, whatever its trace level. -/
theorem Opening.called_names (first : Settings.Resolved) (traceLevel : UInt32) :
    (called first traceLevel).settings.logicalName = first.logicalName ∧
      (called first traceLevel).settings.providerName = first.settings.providerName := by
  have hname : first.settings.logicalName = first.logicalName :=
    congrArg Settings.logicalName first.spec.2
  rw [settings, Settings.traced]
  split
  · exact ⟨hname, rfl⟩
  · exact ⟨hname, rfl⟩

namespace Stage

/-- To reload is to open anew. Settings that a configuration has for a logical
    service, read again any number of times, depend on the name of the service,
    the provider that it had in the first configuration, and the last
    configuration; they name no reader by the empty name, and where the service
    has that provider still they are what a session would have that is opened
    now. When a provider takes in a configuration this comes to hold of every
    session that is open then, however it was opened, in particular with a trace
    level of its own, and whatever was done with it since. -/
theorem reload_reopens (b : Backend σ κ ε) (hardware : σ) (config : Config)
    (moves : List (Move σ)) :
    (∀ (first : Settings.Resolved) (configs : List Config),
      first.config.service? first.logicalName = some ⟨first.settings.providerName⟩ ∧
        (configs.foldl Settings.reread first.settings).Reopened first.logicalName
          first.settings.providerName (configs.getLastD first.config)) ∧
      let st := (start hardware config : Stage σ κ ε).run b moves
      ∀ now last handle s, st.provider.hub.session? handle = some s →
        ∃ s' career,
          (st.move b (.enter now (.reload last))).provider.hub.session? handle = some s' ∧
            (start hardware config : Stage σ κ ε).career b handle moves none = some career ∧
            (∀ first traceLevel, career.opening = .called first traceLevel →
              s'.settings.Reopened first.logicalName first.settings.providerName last) ∧
            ∀ settings, career.opening = .given settings →
              s'.settings.Reopened settings.logicalName settings.providerName last := by
  refine ⟨fun first configs => ⟨first.spec.1, ?_⟩, fun now last handle s hopen => ?_⟩
  · rw [first.spec.2, Settings.foldl_reread]
    exact Settings.ofProvider_reopened _ _ _
  · rcases career_of_open b hardware config moves hopen with ⟨career, hcareer, hterms⟩
    have hnames := career.terms_names
    rw [← hterms] at hnames
    -- The session reads the configuration under the names that it was opened under.
    have hreopened : (s.reread last).settings.Reopened career.opening.settings.logicalName
        career.opening.settings.providerName last := by
      rw [← hnames.1, ← hnames.2]
      exact Settings.ofProvider_reopened _ _ _
    refine ⟨s.reread last, career, ?_, hcareer, fun first traceLevel hcalled => ?_,
      fun settings hgiven => ?_⟩
    · refine (Hub.session?_reload last _ handle).trans ?_
      rw [hopen]
      rfl
    · have hcalled' := Opening.called_names first traceLevel
      rw [← hcalled] at hcalled'
      rw [← hcalled'.1, ← hcalled'.2]
      exact hreopened
    · rw [hgiven] at hreopened
      exact hreopened

end Stage

end CardHost
