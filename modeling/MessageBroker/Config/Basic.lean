import MessageBroker.Identifier
import MessageBroker.Text.Blank
import MessageBroker.Text.Quoted

/-!
# Configuration of the engine

The settings of channels, queues and the log, with their defaults, and what makes a configuration
valid. Of several faults the first is reported: the prefix, then the buffer, then the names.
-/

set_option autoImplicit false

namespace MessageBroker

/-- Settings of channels. -/
structure ChannelConfig where
  /-- Channels are named by this text, a hyphen and a number. -/
  idPrefix : String := "channel"
  /-- Requests that may wait for a driven channel. -/
  commandBuffer : UInt64 := 64
  deriving DecidableEq, Repr

/-- Settings of queues. -/
structure QueueConfig where
  /-- Queues declared at the start. -/
  declare : List QueueName := []
  deriving DecidableEq, Repr

/-- Settings of the log. -/
structure LogConfig where
  filter : String := "info"
  deriving DecidableEq, Repr

/-- Configuration of the engine. -/
structure Config where
  channel : ChannelConfig := {}
  queues : QueueConfig := {}
  logging : LogConfig := {}
  deriving DecidableEq, Repr

/-- Name of the configuration file. -/
def configFileName : String := "RustRabbitTx.json"

/-- Why there is no configuration. -/
inductive ConfigError where
  | emptyPrefix
  | zeroBuffer
  | blankQueue (name : String)
  | notFound
  | unreadable (path : String)
  | malformed
  | directoryNotCreated (path : String)
  | notWritten (path : String)
  deriving DecidableEq, Repr

/-- Wording. -/
def ConfigError.message : ConfigError → String
  | emptyPrefix => "Configuration error: channel.id_prefix cannot be empty"
  | zeroBuffer => "Configuration error: channel.command_buffer must be at least 1"
  | blankQueue name =>
    "Configuration error: invalid queue name " ++ Text.quote name ++ " in queues.declare"
  | notFound =>
    "Could not find " ++ configFileName ++
      " in the current directory, ./config or your home directory"
  | unreadable path => "Failed to read config file at " ++ path
  | malformed => "Configuration file contains invalid JSON or mistyped fields"
  | directoryNotCreated path => "Failed to create directory at " ++ path
  | notWritten path => "Failed to write configuration to " ++ path

namespace Config

/-- The configuration without any setting. -/
def default : Config := {}

/-- The first fault of a configuration, if it has one. -/
def fault? (config : Config) : Option ConfigError :=
  if Text.isBlankText config.channel.idPrefix then some .emptyPrefix
  else if config.channel.commandBuffer = 0 then some .zeroBuffer
  else (config.queues.declare.find? Text.isBlankText).map .blankQueue

/-- Passes a configuration without fault. -/
def validate (config : Config) : Except ConfigError Config :=
  match config.fault? with
  | some error => .error error
  | none => .ok config

/-- A configuration is valid when its prefix is not blank, its buffer holds at least one request
and no queue has a blank name. -/
theorem fault?_eq_none_iff {config : Config} :
    config.fault? = none ↔
      Text.isBlankText config.channel.idPrefix = false ∧ config.channel.commandBuffer ≠ 0 ∧
        ∀ name ∈ config.queues.declare, Text.isBlankText name = false := by
  unfold fault?
  split
  · simp_all
  · split
    · simp_all
    · simp_all

/-- The default configuration is valid. -/
theorem validate_default : default.validate = .ok default := rfl

end Config

end MessageBroker
