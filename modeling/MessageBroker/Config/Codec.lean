import MessageBroker.Config.Basic
import MessageBroker.Json.Printer
import MessageBroker.Json.Reader
import MessageBroker.Json.Record

/-!
# Configurations as JSON

A configuration is a record of three records in which every field has a default. It is written
indented, with all fields in their order.
-/

set_option autoImplicit false

namespace MessageBroker

namespace ChannelConfig

/-- Reads settings of channels. -/
def ofDocument? (document : Document) : Option ChannelConfig := do
  let record ← document.record? ["id_prefix", "command_buffer"]
  return {
    idPrefix := ← record.defaulted? "id_prefix" "channel" Document.text?
    commandBuffer := ← record.defaulted? "command_buffer" 64 Document.word? }

/-- Writes settings of channels. -/
def toJson (settings : ChannelConfig) : Json :=
  .object [
    ("id_prefix", .string settings.idPrefix),
    ("command_buffer", .number (.whole settings.commandBuffer.toNat))]

end ChannelConfig

namespace QueueConfig

/-- Reads settings of queues. -/
def ofDocument? (document : Document) : Option QueueConfig := do
  let record ← document.record? ["declare"]
  return { declare := ← record.defaulted? "declare" [] (Document.list? Document.text?) }

/-- Writes settings of queues. -/
def toJson (settings : QueueConfig) : Json :=
  .object [("declare", .array (settings.declare.map .string))]

end QueueConfig

namespace LogConfig

/-- Reads settings of the log. -/
def ofDocument? (document : Document) : Option LogConfig := do
  let record ← document.record? ["filter"]
  return { filter := ← record.defaulted? "filter" "info" Document.text? }

/-- Writes settings of the log. -/
def toJson (settings : LogConfig) : Json := .object [("filter", .string settings.filter)]

end LogConfig

namespace Config

/-- Reads a configuration from a document. -/
def ofDocument? (document : Document) : Option Config := do
  let record ← document.record? ["channel", "queues", "logging"]
  return {
    channel := ← record.defaulted? "channel" {} ChannelConfig.ofDocument?
    queues := ← record.defaulted? "queues" {} QueueConfig.ofDocument?
    logging := ← record.defaulted? "logging" {} LogConfig.ofDocument? }

/-- Reads a configuration from a text. -/
def read? (s : String) : Option Config := (Document.read? s.toList).bind ofDocument?

/-- Writes a configuration. -/
def toJson (config : Config) : Json :=
  .object [
    ("channel", config.channel.toJson),
    ("queues", config.queues.toJson),
    ("logging", config.logging.toJson)]

/-- Text of a configuration file. -/
def fileText (config : Config) : String := config.toJson.indentedText

end Config

end MessageBroker
