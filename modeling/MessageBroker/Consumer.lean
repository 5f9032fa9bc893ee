import MessageBroker.Delivery

/-!
# Consumers of a channel

A consumer pulls from one queue on behalf of a channel and is known by its tag. The consumers of a
channel are kept in order of registration, each tag once.
-/

set_option autoImplicit false

namespace MessageBroker

/-- What a consumer pulls from. -/
structure Consumer where
  queue : QueueName
  /-- Deliveries to this consumer count as acknowledged at once. -/
  noAck : Bool
  deriving DecidableEq, Repr

/-- The consumers registered on one channel. -/
@[ext] structure Consumers where
  entries : List (ConsumerTag × Consumer) := []
  deriving DecidableEq, Repr

namespace Consumers

/-- No consumer. -/
def empty : Consumers := ⟨[]⟩

/-- The consumer with this tag. -/
def find? (consumers : Consumers) (tag : ConsumerTag) : Option Consumer :=
  consumers.entries.lookup tag

/-- Number of consumers. -/
def size (consumers : Consumers) : Nat := consumers.entries.length

/-- Adds a consumer; its tag must be free. -/
def add (consumers : Consumers) (tag : ConsumerTag) (consumer : Consumer) :
    Except BrokerError Consumers :=
  match consumers.find? tag with
  | some _ => .error (.consumerExists tag)
  | none => .ok ⟨consumers.entries ++ [(tag, consumer)]⟩

/-- The consumer with this tag, or the reason there is none. -/
def get (consumers : Consumers) (tag : ConsumerTag) : Except BrokerError Consumer :=
  match consumers.find? tag with
  | some consumer => .ok consumer
  | none => .error (.unknownConsumer tag)

/-- Removes a consumer. -/
def remove (consumers : Consumers) (tag : ConsumerTag) :
    Except BrokerError (Consumer × Consumers) :=
  match consumers.find? tag with
  | some consumer => .ok (consumer, ⟨consumers.entries.filter (·.1 ≠ tag)⟩)
  | none => .error (.unknownConsumer tag)

/-- Removes every consumer; says how many there were. -/
def clear (consumers : Consumers) : Nat × Consumers := (consumers.size, empty)

theorem find?_add {consumers consumers' : Consumers} {tag : ConsumerTag}
    {consumer : Consumer} (h : consumers.add tag consumer = .ok consumers') :
    consumers'.find? tag = some consumer := by
  unfold add at h
  split at h
  · cases h
  · rename_i absent
    cases h
    rw [find?] at absent
    simp [find?, List.lookup_append, absent]

end Consumers

end MessageBroker
