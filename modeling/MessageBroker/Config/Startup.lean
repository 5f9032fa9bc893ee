import MessageBroker.Config.File
import MessageBroker.Config.Overrides

/-!
# Configuration at the start

`start` gives the configuration the engine runs with. A file named in the environment must load.
Without one, a configuration that is not found or does not load is replaced by the default one, and
the reason is kept. The overridden configuration must be valid.
-/

set_option autoImplicit false

namespace MessageBroker

/-- What the engine starts with. -/
structure Startup where
  config : Config
  /-- Why the default configuration is in use. -/
  fallback : Option ConfigError
  deriving DecidableEq, Repr

namespace Startup

/-- The files that are looked at, in order. -/
def candidates (home : String) (overrides : Overrides) : List String :=
  match overrides.configPath with
  | some path => [path]
  | none => Config.searchPaths home

/-- The configuration before the overrides. -/
def base (look : String → FileState) (home : String) (overrides : Overrides) :
    Except ConfigError Startup :=
  match overrides.configPath with
  | some path =>
    match Config.loadFrom look path with
    | .ok config => .ok ⟨config, none⟩
    | .error error => .error error
  | none =>
    match Config.load look home with
    | .ok config => .ok ⟨config, none⟩
    | .error error => .ok ⟨.default, some error⟩

/-- The configuration the engine runs with. -/
def start (look : String → FileState) (home : String) (overrides : Overrides) :
    Except ConfigError Startup :=
  match base look home overrides with
  | .error error => .error error
  | .ok found =>
    match (overrides.apply found.config).validate with
    | .ok config => .ok ⟨config, found.fallback⟩
    | .error error => .error error

end Startup

end MessageBroker
