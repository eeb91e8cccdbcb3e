import CardHost.Config.Decode
import CardHost.Config.Environment
import CardHost.Config.Wrapping
import CardHost.Toml.Document

/-!
# Loading a Configuration

The environment is laid over the file, and the configuration is read off the
result. A file that does not exist counts as empty. A file that cannot be read
is an error, whatever the environment says.

## Main definitions

* `LoadError`: Why a configuration was not loaded.
* `Config.load`: The configuration in a file and the environment.

## Theorems

* `load_nothing`: Without a file and variables the configuration is empty.
-/

namespace CardHost

namespace Config

/-- Why a configuration was not loaded. -/
inductive LoadError where
  /-- The file cannot be read. -/
  | malformed
  /-- A value makes no sense. -/
  | invalid (problem : Problem)

/-- The configuration in a file and the environment. -/
def load (file : Option String) (environment : List (String × String)) :
    Except LoadError Config :=
  match (Toml.parse (file.getD "")).bind unwrapFile? with
  | none => .error .malformed
  | some entries =>
    (decode ((Value.table entries).overlay (Environment.ofVariables environment))).mapError
      LoadError.invalid

theorem load_nothing : load none [] = .ok {} := rfl

end Config

end CardHost
