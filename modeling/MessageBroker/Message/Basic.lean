import MessageBroker.Json.Value
import MessageBroker.Json.Printer
import MessageBroker.Message.Timestamp
import MessageBroker.Message.Uuid

/-!
# Messages

A payload of bytes with its properties. A new message gets an identifier, which is also its message
id unless the sender gave one, and the current time unless the sender gave a time.
-/

set_option autoImplicit false

namespace MessageBroker

/-- Whether a message should outlive the broker. -/
inductive DeliveryMode where
  | transient
  | persistent
  deriving DecidableEq, Repr

/-- What travels with a payload. The headers have ascending keys. -/
structure Properties where
  contentType : Option String := none
  deliveryMode : DeliveryMode := .transient
  messageId : Option String := none
  correlationId : Option String := none
  replyTo : Option String := none
  headers : List (String × Json) := []
  timestamp : Option Timestamp := none

namespace Properties

/-- Properties of a transient message. -/
def transient : Properties := {}

/-- Properties of a persistent message. -/
def persistent : Properties := { deliveryMode := .persistent }

/-- Sets a header; an earlier one under the same key is replaced. -/
def setHeader (properties : Properties) (key : String) (value : Json) : Properties :=
  { properties with headers := Json.insert key value properties.headers }

end Properties

/-- A published message. -/
structure Message where
  id : Uuid
  properties : Properties
  payload : List UInt8

namespace Message

/-- A new message under a fresh identifier at the given time. -/
def new (id : Uuid) (now : Timestamp) (payload : List UInt8) (properties : Properties) :
    Message where
  id := id
  properties :=
    { properties with
      messageId := some (properties.messageId.getD id.text)
      timestamp := some (properties.timestamp.getD now) }
  payload := payload

/-- Bytes of a text. -/
def bytes (s : String) : List UInt8 := s.toList.flatMap String.utf8EncodeChar

/-- A new message whose payload is a JSON text. -/
def ofJson (id : Uuid) (now : Timestamp) (value : Json) (properties : Properties) : Message :=
  new id now (bytes value.text) { properties with contentType := some "application/json" }

/-- True of messages that should outlive the broker. -/
def isPersistent (message : Message) : Bool := message.properties.deliveryMode == .persistent

end Message

end MessageBroker
