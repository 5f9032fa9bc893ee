import MessageBroker.Channel.Recovery
import MessageBroker.Channel.Settlement

/-!
# Requests to a channel

The operations of a channel as data. `Channel.serve` answers one request and `Channel.serveAll` a
list of them in order.
-/

set_option autoImplicit false

namespace MessageBroker

/-- An operation of a channel with its arguments. -/
inductive Request (M : Type) where
  | select
  | publish (message : M) (target : QueueName)
  | get (queue : QueueName) (noAck : Bool)
  | consume (queue : QueueName) (tag : ConsumerTag) (noAck : Bool)
  | next (tag : ConsumerTag)
  | cancel (tag : ConsumerTag)
  | ack (tag : Nat) (multiple : Bool)
  | commit
  | rollback
  | recover (requeue : Bool)
  | close
  deriving DecidableEq, Repr

namespace Request

variable {M : Type}

/-- True of the request that ends a channel. -/
def isClose : Request M → Bool
  | close => true
  | _ => false

/-- A request for a consumer without a name gets the generated tag with this serial number. -/
def withSerial (serial : Nat) : Request M → Request M
  | consume queue tag noAck => consume queue (tag.orGenerated serial) noAck
  | request => request

end Request

/-- Answer to a request. -/
inductive Reply (M : Type) where
  | done
  | delivered (delivery : Option (Delivery M))
  | consuming (tag : ConsumerTag)
  | committed (outcome : CommitReport)
  | rolledBack (outcome : RollbackReport)
  | recovered (outcome : Recovery M)
  | closed (outcome : CloseReport)
  | failed (error : BrokerError)
  deriving DecidableEq, Repr

/-- The answer of an outcome as a reply. -/
def Outcome.reply {M α : Type} (outcome : Outcome M α) (success : α → Reply M) :
    Reply M × Channel M × Store M :=
  (match outcome.answer with
    | .ok answer => success answer
    | .error error => .failed error,
   outcome.channel, outcome.store)

namespace Channel

variable {M : Type}

/-- Answers one request. -/
def serve (channel : Channel M) (store : Store M) :
    Request M → Reply M × Channel M × Store M
  | .select => (channel.select store).reply fun _ => .done
  | .publish message target => (channel.publish store message target).reply fun _ => .done
  | .get queue noAck => (channel.get store queue noAck).reply .delivered
  | .consume queue tag noAck => (channel.consume store queue tag noAck).reply .consuming
  | .next tag => (channel.next store tag).reply .delivered
  | .cancel tag => (channel.cancel store tag).reply fun _ => .done
  | .ack tag multiple => (channel.ack store tag multiple).reply fun _ => .done
  | .commit => (channel.commit store).reply .committed
  | .rollback => (channel.rollback store).reply .rolledBack
  | .recover requeue => (channel.recover store requeue).reply .recovered
  | .close =>
    let (outcome, channel, store) := channel.close store
    (.closed outcome, channel, store)

/-- Answers requests one after another. -/
def serveAll (channel : Channel M) (store : Store M) :
    List (Request M) → List (Reply M) × Channel M × Store M
  | [] => ([], channel, store)
  | request :: rest =>
    let (reply, channel, store) := channel.serve store request
    let (replies, channel, store) := channel.serveAll store rest
    (reply :: replies, channel, store)

end Channel

end MessageBroker
