import MessageBroker.Channel.Basic

/-!
# Recovery and close

Recovery hands out again what is outstanding, under the old tags, or returns it to its queues.
Deliveries whose acknowledgement is pending are left alone. Closing a channel returns every delivery
without acknowledgement, pending or not, throws the deferred effects away and removes the consumers.
Returned messages go to the head of their queues, one batch for each queue in tag order.
-/

set_option autoImplicit false

namespace MessageBroker

/-- What closing a channel did. -/
structure CloseReport where
  requeued : Nat := 0
  discardedPublishes : Nat := 0
  cancelledConsumers : Nat := 0
  deriving DecidableEq, Repr

/-- What a recovery did. -/
inductive Recovery (M : Type) where
  /-- Outstanding deliveries handed out again under their tags. -/
  | handedOut (deliveries : List (Delivery M))
  /-- Number of deliveries returned. -/
  | returned (count : Nat)
  | nothing
  deriving DecidableEq, Repr

namespace Recovery

variable {M : Type}

/-- The deliveries handed out again. -/
def deliveries : Recovery M → List (Delivery M)
  | handedOut deliveries => deliveries
  | returned _ => []
  | nothing => []

/-- Number of deliveries concerned. -/
def size : Recovery M → Nat
  | handedOut deliveries => deliveries.length
  | returned count => count
  | nothing => 0

end Recovery

/-- The messages of the deliveries from one queue, in order. -/
def messagesFrom {M : Type} (queue : QueueName) (deliveries : List (Delivery M)) : List M :=
  (deliveries.filter (·.queue = queue)).map (·.message)

/-- Returns deliveries to their queues, one batch for each queue in the given order. -/
def Store.giveBack {M : Type} (store : Store M) (deliveries : List (Delivery M)) : Store M :=
  (deliveries.map (·.queue)).eraseDups.foldl
    (fun store queue => store.putBack queue (messagesFrom queue deliveries)) store

namespace Channel

variable {M : Type}

/-- Hands out the outstanding deliveries again, or returns them to their queues. -/
def recover (channel : Channel M) (store : Store M) (requeue : Bool) :
    Outcome M (Recovery M) :=
  channel.whenOpen store <|
    if requeue then
      let (deliveries, unacked) := channel.unacked.removeOutstanding
      ⟨.ok (.returned deliveries.length), { channel with unacked }, store.giveBack deliveries⟩
    else
      let (deliveries, unacked) := channel.unacked.handOutAgain
      ⟨.ok (.handedOut deliveries), { channel with unacked }, store⟩

/-- Closes the channel; a closed one is left as it is. The counter of tags keeps its value. -/
def close (channel : Channel M) (store : Store M) : CloseReport × Channel M × Store M :=
  if channel.isOpen then
    let (discardedPublishes, buffer) := channel.buffer.discard
    let (deliveries, unacked) := channel.unacked.removeAll
    let (cancelledConsumers, consumers) := channel.consumers.clear
    (⟨deliveries.length, discardedPublishes, cancelledConsumers⟩,
      { channel with mode := .closed, buffer, unacked, consumers },
      store.giveBack deliveries)
  else ({}, channel, store)

end Channel

end MessageBroker
