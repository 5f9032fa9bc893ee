/-!
# Names and numbers

The identifiers that pass between a client and the broker: names of queues, numbers of deliveries
and tags of consumers. Queue names are ordered by code points.
-/

set_option autoImplicit false

namespace MessageBroker

/-- Name of a queue. -/
abbrev QueueName := String

/-- Names in ascending order, by code points. -/
def sortNames (names : List QueueName) : List QueueName := names.mergeSort fun a b => a ≤ b

/-! ## Delivery tags

Deliveries are numbered from 1 on each channel. In an acknowledgement of several deliveries, 0
stands for all of them. -/

namespace Tag

/-- The tag that stands for everything delivered so far. -/
def all : Nat := 0

/-- True of the tag that stands for everything. -/
def isAll (tag : Nat) : Bool := tag == all

/-- Largest tag a channel can issue. -/
def largest : Nat := Nat.pow 2 64 - 1

end Tag

/-- Tag of a consumer: chosen by the client, or generated by the broker under a serial number. A
generated tag never equals a chosen one. -/
inductive ConsumerTag where
  | named (name : String)
  | generated (serial : Nat)
  deriving DecidableEq, Repr

namespace ConsumerTag

/-- Written form; a generated tag shows its serial number. -/
def text : ConsumerTag → String
  | named name => name
  | generated serial => "ctag-@gen" ++ toString serial

/-- The tag a client gets: an empty name asks for a generated tag. -/
def orGenerated (tag : ConsumerTag) (serial : Nat) : ConsumerTag :=
  if tag = named "" then generated serial else tag

end ConsumerTag

end MessageBroker
