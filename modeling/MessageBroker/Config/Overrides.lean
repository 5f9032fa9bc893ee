import MessageBroker.Config.Basic
import MessageBroker.Environment
import MessageBroker.Number.Decimal

/-!
# Settings from the environment

Four variables override the configuration; a blank value counts as not set. The size of the buffer
must be a number, but only the configuration it goes into is checked for being valid.
-/

set_option autoImplicit false

namespace MessageBroker

/-- Settings that come from the environment. -/
structure Overrides where
  configPath : Option String := none
  channelPrefix : Option String := none
  commandBuffer : Option UInt64 := none
  logFilter : Option String := none
  deriving DecidableEq, Repr

/-- Why the environment gives no settings. -/
inductive OverrideError where
  /-- The size of the buffer is not a number. -/
  | bufferNotNumber (value : String)
  deriving DecidableEq, Repr

namespace Overrides

/-- Variable for the path of the configuration file. -/
def pathVariable : String := "RABBIT_TX_CONFIG"

/-- Variable for the names of channels. -/
def prefixVariable : String := "RABBIT_TX_CHANNEL_PREFIX"

/-- Variable for the size of the buffer. -/
def bufferVariable : String := "RABBIT_TX_COMMAND_BUFFER"

/-- Variable for the log filter. -/
def filterVariable : String := "RABBIT_TX_LOG"

/-- The variables that override the configuration. -/
def variableNames : List String := [pathVariable, prefixVariable, bufferVariable, filterVariable]

end Overrides

/-- Wording. -/
def OverrideError.message : OverrideError → String
  | bufferNotNumber value =>
    Overrides.bufferVariable ++ " must be a positive integer, got " ++ Text.quote value

namespace Overrides

/-- Value of a variable that is set and not blank. -/
def setting? (environment : Environment) (name : String) : Option String :=
  (environment.find? name).filter fun value => !Text.isBlankText value

/-- Reads the size of the buffer; blanks around the number do not count. -/
def buffer? (environment : Environment) : Except OverrideError (Option UInt64) :=
  match setting? environment bufferVariable with
  | none => .ok none
  | some value =>
    match Decimal.readWord? (Text.trim value.toList) with
    | some size => .ok (some size)
    | none => .error (.bufferNotNumber value)

/-- The settings the environment gives. -/
def ofEnvironment (environment : Environment) : Except OverrideError Overrides :=
  match buffer? environment with
  | .error error => .error error
  | .ok commandBuffer =>
    .ok {
      configPath := setting? environment pathVariable
      channelPrefix := setting? environment prefixVariable
      commandBuffer
      logFilter := setting? environment filterVariable }

/-- Replaces the settings that are given. -/
def apply (overrides : Overrides) (config : Config) : Config where
  channel := {
    idPrefix := overrides.channelPrefix.getD config.channel.idPrefix
    commandBuffer := overrides.commandBuffer.getD config.channel.commandBuffer }
  queues := config.queues
  logging := { filter := overrides.logFilter.getD config.logging.filter }

end Overrides

end MessageBroker
