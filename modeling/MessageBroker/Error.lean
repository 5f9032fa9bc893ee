import MessageBroker.Identifier

/-!
# Failures of the broker

Each failure is a cause; its wording, reply code and severity are functions of the cause.
-/

set_option autoImplicit false

namespace MessageBroker

/-- Why an operation was refused. -/
inductive BrokerError where
  /-- Commit or rollback on a channel that has no transaction. -/
  | preconditionFailed (reason : String)
  | unknownDeliveryTag (tag : Nat)
  | queueNotFound (queue : QueueName)
  | channelClosed (id : String)
  | consumerExists (tag : ConsumerTag)
  | unknownConsumer (tag : ConsumerTag)
  /-- A delivery is already outstanding under this tag. -/
  | duplicateTag (tag : Nat)
  | tagsExhausted
  /-- The task that drives the channel has stopped. -/
  | channelUnavailable
  deriving DecidableEq, Repr

namespace BrokerError

/-- Refusal of a transactional method outside a transaction. -/
def outsideTransaction (method : String) : BrokerError :=
  preconditionFailed ("channel is not transactional, cannot " ++ method)

/-- Wording. -/
def message : BrokerError → String
  | preconditionFailed reason => "PRECONDITION_FAILED - " ++ reason
  | unknownDeliveryTag tag => "PRECONDITION_FAILED - unknown delivery tag " ++ toString tag
  | queueNotFound queue => "NOT_FOUND - no queue '" ++ queue ++ "'"
  | channelClosed id => "channel " ++ id ++ " is closed"
  | consumerExists tag => "NOT_ALLOWED - attempt to reuse consumer tag '" ++ tag.text ++ "'"
  | unknownConsumer tag => "PRECONDITION_FAILED - unknown consumer tag '" ++ tag.text ++ "'"
  | duplicateTag tag => "INTERNAL_ERROR - delivery tag " ++ toString tag ++ " recorded twice"
  | tagsExhausted => "INTERNAL_ERROR - delivery tags exhausted on this channel"
  | channelUnavailable => "channel task is no longer running"

/-- Reply code sent to the client. -/
def replyCode : BrokerError → Nat
  | preconditionFailed _ | unknownDeliveryTag _ | unknownConsumer _ => 406
  | queueNotFound _ => 404
  | channelClosed _ | channelUnavailable => 504
  | consumerExists _ => 530
  | duplicateTag _ | tagsExhausted => 541

/-- The broker contradicted itself. -/
def isSelfContradiction : BrokerError → Bool
  | duplicateTag _ | tagsExhausted => true
  | _ => false

/-- The channel can no longer be used. -/
def endsChannel : BrokerError → Bool
  | channelClosed _ | channelUnavailable => true
  | e => e.isSelfContradiction

end BrokerError

end MessageBroker
