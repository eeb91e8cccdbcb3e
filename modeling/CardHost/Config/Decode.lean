import CardHost.Config.Value
import CardHost.Settings

/-!
# What a Configuration Means

A configuration is read off its values. Nothing is made to fit: a text of
digits is no number, and a number is no truth value. What is not known is left
alone, and what is left out has its default; only the provider of a logical
service has none.

A record may be given as a table of its fields or as a list of them in their
order. The entries of a table are looked at in the order of their keys, and the
first mistake is the one that is reported, together with the way to it.

## Main definitions

* `Fault`, `Problem`: What is wrong with a value, and where.
* `Config.decode`: The configuration that a value describes.

## Theorems

* `decode_empty`: Nothing described is the empty configuration.
-/

namespace CardHost

namespace Config

/-- What is wrong with a value. -/
inductive Fault where
  /-- It is something else than expected. -/
  | invalidType (found : Value) (expected : String)
  /-- It is out of range. -/
  | invalidValue (found : Value) (expected : String)
  /-- It is too short. -/
  | invalidLength (length : Nat) (expected : String)
  /-- It lacks a field. -/
  | missingField (name : String)

namespace Fault

/-- The name of a fault. -/
def name : Fault → String
  | invalidType .. => "InvalidType"
  | invalidValue .. => "InvalidValue"
  | invalidLength .. => "InvalidLength"
  | missingField _ => "MissingField"

/-- A fault in words. -/
def message : Fault → String
  | invalidType found expected =>
    "invalid type: found " ++ found.describe ++ ", expected " ++ expected
  | invalidValue found expected => "invalid value " ++ found.describe ++ ", expected " ++ expected
  | invalidLength length expected =>
    "invalid length " ++ Nat.repr length ++ ", expected " ++ expected
  | missingField name => "missing field \x60" ++ name ++ "\x60"

end Fault

/-- A fault and the keys that lead to it. -/
structure Problem where
  path : List String
  fault : Fault

/-- A problem at the value in hand. -/
def here (fault : Fault) : Problem := ⟨[], fault⟩

/-- Go on inside a value; a problem there is one step further away. -/
def within {α : Type} (key : String) (inner : Except Problem α) : Except Problem α :=
  inner.mapError fun problem => { problem with path := key :: problem.path }

/-- A text. -/
def text : Value → Except Problem String
  | .text value => .ok value
  | other => .error (here (.invalidType other "a string"))

/-- A truth value. -/
def truth : Value → Except Problem Bool
  | .truth value => .ok value
  | other => .error (here (.invalidType other "a boolean"))

/-- A whole number that fits a word of 32 bits. -/
def word : Value → Except Problem UInt32
  | .integer value =>
    if 0 ≤ value ∧ value < UInt32.size then .ok (UInt32.ofNat value.toNat)
    else .error (here (.invalidValue (.integer value) "u32"))
  | .natural value =>
    if value < UInt32.size then .ok (UInt32.ofNat value)
    else .error (here (.invalidValue (.natural value) "u32"))
  | other => .error (here (.invalidType other "u32"))

/-- A table of like values. -/
def mapOf {α : Type} (item : Value → Except Problem α) : Value → Except Problem (List (String × α))
  | .table entries => entries.mapM fun entry => do
      return (entry.1, ← within entry.1 (item entry.2))
  | other => .error (here (.invalidType other "a map"))

/-- A field of a record: the step that leads to it, its name and its value. -/
structure Field where
  step : String
  name : String
  value : Value

/-- The fields that are given for a record. -/
def fieldsOf (record : String) (names : List String) : Value → Except Problem (List Field)
  | .table entries => .ok (entries.map fun entry => ⟨entry.1, entry.1, entry.2⟩)
  | .list items =>
    .ok ((names.zip items).mapIdx fun i item => ⟨Nat.repr i, item.1, item.2⟩)
  | other => .error (here (.invalidType other ("struct " ++ record)))

/-- The value of a field. -/
def Field.get {α : Type} (item : Value → Except Problem α) (field : Field) : Except Problem α :=
  within field.step (item field.value)

/-- Workarounds. -/
def workarounds (value : Value) : Except Problem Workarounds := do
  let fields ← fieldsOf "Workarounds" ["correct_chip_io", "can_eject"] value
  fields.foldlM
    (fun w field => do
      match field.name with
      | "correct_chip_io" => return { w with correctChipIo := ← field.get truth }
      | "can_eject" => return { w with canEject := ← field.get truth }
      | _ => return w)
    ({} : Workarounds)

/-- What a provider is configured with. -/
def providerConfig (value : Value) : Except Problem ProviderConfig := do
  let fields ← fieldsOf "ProviderConfig"
    ["reader_name", "trace_level", "exclusive", "workarounds"] value
  fields.foldlM
    (fun p field => do
      match field.name with
      | "reader_name" => return { p with readerName := some (← field.get text) }
      | "trace_level" => return { p with traceLevel := ← field.get word }
      | "exclusive" => return { p with exclusive := ← field.get truth }
      | "workarounds" => return { p with workarounds := ← field.get workarounds }
      | _ => return p)
    ({} : ProviderConfig)

/-- What is missing from a logical service without a provider. -/
def noProvider : Value → Fault
  | .list _ => .invalidLength 0 "struct LogicalService with 1 element"
  | _ => .missingField "provider"

/-- A logical service. -/
def logicalService (value : Value) : Except Problem LogicalService := do
  let fields ← fieldsOf "LogicalService" ["provider"] value
  let provider ← fields.foldlM
    (fun found field => do
      match field.name with
      | "provider" => return some (← field.get text)
      | _ => return found)
    none
  match provider with
  | some name => return ⟨name⟩
  | none => throw (here (noProvider value))

/-- The configuration that a value describes. -/
def decode (value : Value) : Except Problem Config := do
  let fields ← fieldsOf "BridgeConfig" ["logical_services", "service_providers"] value
  fields.foldlM
    (fun config field => do
      match field.name with
      | "logical_services" =>
        return { config with logicalServices := ← field.get (mapOf logicalService) }
      | "service_providers" =>
        return { config with serviceProviders := ← field.get (mapOf providerConfig) }
      | _ => return config)
    ({} : Config)

theorem decode_empty : decode (.table []) = .ok {} := rfl

end Config

end CardHost
