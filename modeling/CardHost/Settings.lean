import CardHost.Binding
import CardHost.Card
import CardHost.HostError

/-!
# Configuration and Settings

A configuration names logical services and the providers that implement them.
A session is opened for a logical service and works by the settings of its
provider.

The name of the provider is looked up once, when the session is opened. Later
configurations are read under that name, so a logical service that moves to
another provider does not drag an open session along. Everything else comes
from the last configuration alone: `reread` overwrites every field that a
provider can set, and a provider that is missing counts as one without
settings.

## Main definitions

* `Config`: Logical services and providers by name.
* `Settings`: What one session works by.
* `Settings.resolve`: The settings of a logical service.
* `Settings.reread`: The settings after a new configuration.

## Theorems

* `reread_reread`: Only the last configuration counts.
* `resolve_eq_reread`: Reading again is the same as opening anew, as long as
  the provider is the same.
-/

namespace CardHost

/-- Behaviour that some clients depend on. -/
structure Workarounds where
  /-- Leave out the expected length that the byte protocol cannot carry. -/
  correctChipIo : Bool := false
  /-- Report an eject as done although the reader cannot eject. -/
  canEject : Bool := false
  deriving DecidableEq, Repr

/-- A logical service: the provider that implements it. -/
structure LogicalService where
  provider : String
  deriving DecidableEq, Repr

/-- What a provider is configured with. -/
structure ProviderConfig where
  /-- Reader to work with; without one, the first that a card shows up in. -/
  readerName : Option String := none
  traceLevel : UInt32 := 0
  /-- Connect to cards exclusively. -/
  exclusive : Bool := false
  workarounds : Workarounds := {}
  deriving DecidableEq, Repr

/-- Logical services and providers by name, in ascending order of names. -/
structure Config where
  logicalServices : List (String × LogicalService) := []
  serviceProviders : List (String × ProviderConfig) := []
  deriving DecidableEq, Repr

namespace Config

/-- The logical service of a name. -/
def service? (config : Config) (name : String) : Option LogicalService :=
  (config.logicalServices.find? (·.1 == name)).map Prod.snd

/-- The provider of a name; one that is missing has no settings. -/
def provider (config : Config) (name : String) : ProviderConfig :=
  ((config.serviceProviders.find? (·.1 == name)).map Prod.snd).getD {}

end Config

/-- What one session works by. -/
structure Settings where
  /-- Name the session was opened for. -/
  logicalName : String
  /-- Provider of the session, fixed when it was opened. -/
  providerName : String
  readerName : Option String
  traceLevel : UInt32
  exclusive : Bool
  workarounds : Workarounds
  deriving DecidableEq, Repr

namespace Settings

/-- The settings that a configuration gives to a session of a provider. -/
def ofProvider (logicalName providerName : String) (config : Config) : Settings :=
  let provider := config.provider providerName
  { logicalName
    providerName
    readerName := configuredName provider.readerName
    traceLevel := provider.traceLevel
    exclusive := provider.exclusive
    workarounds := provider.workarounds }

/-- The settings of a logical service. -/
def resolve (config : Config) (logicalName : String) : Except HostError Settings :=
  match config.service? logicalName with
  | some service => .ok (ofProvider logicalName service.provider config)
  | none => .error (.unknownLogicalService logicalName)

/-- The settings after a new configuration. -/
def reread (s : Settings) (config : Config) : Settings :=
  ofProvider s.logicalName s.providerName config

/-- How cards are shared under these settings. -/
def shareMode (s : Settings) : ShareMode := if s.exclusive then .exclusive else .shared

theorem reread_reread (s : Settings) (earlier last : Config) :
    (s.reread earlier).reread last = s.reread last := rfl

theorem resolve_eq_reread (s : Settings) (config : Config)
    (h : config.service? s.logicalName = some ⟨s.providerName⟩) :
    resolve config s.logicalName = .ok (s.reread config) := by
  rw [resolve, h]
  rfl

end Settings

end CardHost
