import MessageBroker.Consumer
import MessageBroker.Store
import MessageBroker.Transaction
import MessageBroker.Unacked

/-!
# Channels

A channel publishes to queues, takes deliveries from them and acknowledges what it took. Outside a
transaction its publishes and acknowledgements apply at once; after `select` they wait for a commit
or a rollback. Every operation gives its answer together with the channel and the store it leaves
behind (`Outcome`), so a failing operation says as well what it left. The checks of an operation run
in a fixed order: the channel must be open, then its queue or consumer must exist, then its tag
must be known.
-/

set_option autoImplicit false

namespace MessageBroker

/-- Transactional state of a channel. -/
inductive ChannelMode where
  /-- Publishes and acknowledgements apply at once. -/
  | immediate
  /-- Publishes and acknowledgements wait for the commit. -/
  | transactional
  /-- Nothing is accepted any more. -/
  | closed
  deriving DecidableEq, Repr

/-- True inside a transaction. -/
def ChannelMode.isTransactional (mode : ChannelMode) : Bool := mode == .transactional

/-- True once the channel is closed. -/
def ChannelMode.isClosed (mode : ChannelMode) : Bool := mode == .closed

/-- A channel and its bookkeeping. -/
@[ext] structure Channel (M : Type) where
  id : String
  mode : ChannelMode := .immediate
  tags : TagCounter := {}
  unacked : UnackedTable M := .empty
  buffer : TransactionBuffer M := .empty
  consumers : Consumers := .empty

/-- What an operation leaves behind: its answer, the channel and the store. -/
structure Outcome (M α : Type) where
  answer : Except BrokerError α
  channel : Channel M
  store : Store M

namespace Channel

variable {M α : Type}

/-- A new channel: nothing issued, nothing outstanding. -/
def new (id : String) : Channel M := { id }

/-- True until the channel is closed. -/
def isOpen (channel : Channel M) : Bool := !channel.mode.isClosed

/-- The answer is an error and nothing has changed. -/
def refuse (channel : Channel M) (store : Store M) (error : BrokerError) : Outcome M α :=
  ⟨.error error, channel, store⟩

/-- Runs an operation on an open channel; a closed one refuses it. -/
def whenOpen (channel : Channel M) (store : Store M) (operation : Outcome M α) : Outcome M α :=
  if channel.isOpen then operation else channel.refuse store (.channelClosed channel.id)

/-- Switches the channel into transactional mode for the rest of its life; a second time changes
nothing. -/
def select (channel : Channel M) (store : Store M) : Outcome M Unit :=
  channel.whenOpen store ⟨.ok (), { channel with mode := .transactional }, store⟩

/-- Sends a message to a queue: at once, or at the next commit inside a transaction. A message for
a missing queue is dropped without error. -/
def publish (channel : Channel M) (store : Store M) (message : M) (target : QueueName) :
    Outcome M Unit :=
  channel.whenOpen store <|
    if channel.mode.isTransactional then
      ⟨.ok (), { channel with buffer := channel.buffer.deferPublish message target }, store⟩
    else ⟨.ok (), channel, (store.enqueue target message).2⟩

/-- Hands out a message that has left its queue. Without `noAck` it enters the unacknowledged
table. If it cannot be numbered it returns to the head of its queue. -/
def deliver (channel : Channel M) (store : Store M) (queued : Queued M) (queue : QueueName)
    (context : DeliverySource) (noAck : Bool) : Outcome M (Option (Delivery M)) :=
  match channel.tags.next with
  | .error error => ⟨.error error, channel, store.putBack queue [queued.message]⟩
  | .ok (tag, tags) =>
    let delivery : Delivery M := ⟨tag, queued.message, queue, context, queued.redelivered⟩
    if noAck then ⟨.ok (some delivery), { channel with tags }, store⟩
    else match channel.unacked.enter delivery with
      | .error error =>
        ⟨.error error, { channel with tags }, store.putBack queue [queued.message]⟩
      | .ok unacked => ⟨.ok (some delivery), { channel with tags, unacked }, store⟩

/-- Takes the head of a queue and delivers it; an empty queue gives nothing and issues no tag. -/
def pull (channel : Channel M) (store : Store M) (queue : QueueName) (context : DeliverySource)
    (noAck : Bool) : Outcome M (Option (Delivery M)) :=
  match store.dequeue queue with
  | .error error => channel.refuse store error
  | .ok (none, store) => ⟨.ok none, channel, store⟩
  | .ok (some queued, store) => channel.deliver store queued queue context noAck

/-- Asks for the next message of a queue. With `noAck` it counts as acknowledged at once. -/
def get (channel : Channel M) (store : Store M) (queue : QueueName) (noAck : Bool) :
    Outcome M (Option (Delivery M)) :=
  channel.whenOpen store <| channel.pull store queue .get noAck

/-- Registers a consumer on an existing queue. -/
def consume (channel : Channel M) (store : Store M) (queue : QueueName) (tag : ConsumerTag)
    (noAck : Bool) : Outcome M ConsumerTag :=
  channel.whenOpen store <|
    if store.has queue then
      match channel.consumers.add tag ⟨queue, noAck⟩ with
      | .error error => channel.refuse store error
      | .ok consumers => ⟨.ok tag, { channel with consumers }, store⟩
    else channel.refuse store (.queueNotFound queue)

/-- Pulls the next message for a registered consumer. -/
def next (channel : Channel M) (store : Store M) (tag : ConsumerTag) :
    Outcome M (Option (Delivery M)) :=
  channel.whenOpen store <|
    match channel.consumers.get tag with
    | .error error => channel.refuse store error
    | .ok consumer => channel.pull store consumer.queue (.consumer tag) consumer.noAck

/-- Removes a consumer; what was delivered to it stays outstanding. -/
def cancel (channel : Channel M) (store : Store M) (tag : ConsumerTag) : Outcome M Unit :=
  channel.whenOpen store <|
    match channel.consumers.remove tag with
    | .error error => channel.refuse store error
    | .ok (_, consumers) => ⟨.ok (), { channel with consumers }, store⟩

/-- Acknowledges deliveries. A multiple acknowledgement may name any tag issued so far, or 0; a
single one must name an outstanding delivery. Tags are checked at once in both modes. -/
def ack (channel : Channel M) (store : Store M) (tag : Nat) (multiple : Bool) : Outcome M Unit :=
  channel.whenOpen store <|
    if multiple && !Tag.isAll tag && !channel.tags.hasIssued tag then
      channel.refuse store (.unknownDeliveryTag tag)
    else if channel.mode.isTransactional then
      match channel.unacked.postpone tag multiple with
      | .error error => channel.refuse store error
      | .ok (_, unacked) =>
        ⟨.ok (), { channel with unacked, buffer := channel.buffer.deferAck tag multiple }, store⟩
    else
      match channel.unacked.settle tag multiple with
      | .error error => channel.refuse store error
      | .ok (_, unacked) => ⟨.ok (), { channel with unacked }, store⟩

end Channel

end MessageBroker
