import MessageBroker.Json.Printer
import MessageBroker.Json.Reader
import MessageBroker.Json.Record
import MessageBroker.Message.Basic
import MessageBroker.Message.Timestamp.Reader

/-!
# Messages as JSON

Messages and their properties are records. A payload is written as a list of bytes and read from
such a list or from a string, whose bytes are its UTF-8 form.
-/

set_option autoImplicit false

namespace MessageBroker

namespace DeliveryMode

/-- Name of a mode. -/
def name : DeliveryMode → String
  | transient => "Transient"
  | persistent => "Persistent"

/-- The mode with this name. -/
def ofName? (s : String) : Option DeliveryMode :=
  if s = "Transient" then some transient
  else if s = "Persistent" then some persistent
  else none

/-- Reads a mode. -/
def ofDocument? (document : Document) : Option DeliveryMode := document.choice?.bind ofName?

/-- Writes a mode. -/
def toJson (mode : DeliveryMode) : Json := .string mode.name

end DeliveryMode

namespace Json

/-- A text, or null. -/
def ofOption (value : Option String) : Json :=
  match value with
  | some s => .string s
  | none => .null

end Json

namespace Properties

/-- Names of the fields in their order. -/
def fieldNames : List String :=
  ["content_type", "delivery_mode", "message_id", "correlation_id", "reply_to", "headers",
    "timestamp"]

/-- Reads headers nested at most `depth` deep. -/
def headersOfDocument? (depth : Nat) : Document → Option (List (String × Json))
  | .object members => (Document.memberValues? depth members).map Json.ofMembers
  | _ => none

/-- Reads a point in time. -/
def timestampOfDocument? (document : Document) : Option Timestamp :=
  document.text?.bind Timestamp.read?

/-- Reads properties from a document at the given depth. -/
def ofDocumentAt? (depth : Nat) (document : Document) : Option Properties := do
  let record ← document.record? fieldNames
  return {
    contentType := ← record.optional? "content_type" Document.text?
    deliveryMode := ← record.defaulted? "delivery_mode" .transient DeliveryMode.ofDocument?
    messageId := ← record.optional? "message_id" Document.text?
    correlationId := ← record.optional? "correlation_id" Document.text?
    replyTo := ← record.optional? "reply_to" Document.text?
    headers := ← record.defaulted? "headers" [] (headersOfDocument? (Document.maxDepth - depth - 1))
    timestamp := ← record.optional? "timestamp" timestampOfDocument? }

/-- Reads properties from a whole document. -/
def ofDocument? (document : Document) : Option Properties := ofDocumentAt? 1 document

/-- Writes properties. -/
def toJson (properties : Properties) : Json :=
  .object [
    ("content_type", .ofOption properties.contentType),
    ("delivery_mode", properties.deliveryMode.toJson),
    ("message_id", .ofOption properties.messageId),
    ("correlation_id", .ofOption properties.correlationId),
    ("reply_to", .ofOption properties.replyTo),
    ("headers", .object properties.headers),
    ("timestamp", .ofOption (properties.timestamp.map Timestamp.text))]

/-- Text of properties. -/
def text (properties : Properties) : String := properties.toJson.text

/-- Reads properties from a text. -/
def read? (s : String) : Option Properties := (Document.read? s.toList).bind ofDocument?

end Properties

namespace Message

/-- Names of the fields in their order. -/
def fieldNames : List String := ["id", "properties", "payload"]

/-- Reads an identifier. -/
def idOfDocument? (document : Document) : Option Uuid := document.text?.bind Uuid.read?

/-- Reads one byte. -/
def byteOfDocument? (document : Document) : Option UInt8 :=
  match document.word? with
  | some n => if n < 256 then some n.toUInt8 else none
  | none => none

/-- Reads a payload. -/
def payloadOfDocument? : Document → Option (List UInt8)
  | .string units => some (units.flatMap TextUnit.bytes)
  | document => document.list? byteOfDocument?

/-- Reads a message from a document. -/
def ofDocument? (document : Document) : Option Message := do
  let record ← document.record? fieldNames
  return {
    id := ← record.required? "id" idOfDocument?
    properties := ← record.required? "properties" (Properties.ofDocumentAt? 2)
    payload := ← record.required? "payload" payloadOfDocument? }

/-- Writes a message. -/
def toJson (message : Message) : Json :=
  .object [
    ("id", .string message.id.text),
    ("properties", message.properties.toJson),
    ("payload", .array (message.payload.map fun byte => .number (.whole byte.toNat)))]

/-- Text of a message. -/
def text (message : Message) : String := message.toJson.text

/-- Reads a message from a text. -/
def read? (s : String) : Option Message := (Document.read? s.toList).bind ofDocument?

end Message

end MessageBroker
