import MessageBroker.Channel.Task
import MessageBroker.Text.Quoted

/-!
# Channels in words

One line that shows the state of a channel, its messages left out: a message is shown by its queue.
-/

set_option autoImplicit false

namespace MessageBroker

open Text (quote)

/-- Items joined by a comma and a space. -/
def commaSeparated (items : List String) : String := ", ".intercalate items

/-- Name of a mode. -/
def ChannelMode.name : ChannelMode → String
  | immediate => "NonTransactional"
  | transactional => "Transactional"
  | closed => "Closed"

/-- One deferred effect. -/
def Deferred.describe {M : Type} : Deferred M → String
  | publish _ target => "PendingPublish \x7b target: QueueName(" ++ quote target ++ ") \x7d"
  | ack tag multiple =>
    "PendingAck \x7b tag: DeliveryTag(" ++ toString tag ++ "), multiple: " ++ toString multiple ++
      " \x7d"

/-- One consumer. -/
def Consumer.describe (consumer : Consumer) : String :=
  "ConsumerSpec \x7b queue: QueueName(" ++ quote consumer.queue ++ "), no_ack: " ++
    toString consumer.noAck ++ " \x7d"

/-- One entry of the unacknowledged table. -/
def UnackedDelivery.describe {M : Type} (entry : UnackedDelivery M) : String :=
  "DeliveryTag(" ++ toString entry.tag ++ "): QueueName(" ++ quote entry.delivery.queue ++ ")"

namespace Channel

variable {M : Type}

/-- The bookkeeping of a channel. -/
def describeState (channel : Channel M) : String :=
  "ChannelState \x7b mode: " ++ channel.mode.name ++
    ", tags: DeliveryTagAllocator \x7b last: " ++ toString channel.tags.last ++
    " \x7d, unacked: UnackedDeliveryTable \x7b entries: \x7b" ++
    commaSeparated (channel.unacked.entries.map UnackedDelivery.describe) ++
    "\x7d \x7d, tx: TxBuffer \x7b entries: [" ++
    commaSeparated (channel.buffer.effects.map Deferred.describe) ++
    "] \x7d, consumers: ConsumerRegistry \x7b consumers: \x7b" ++
    commaSeparated (channel.consumers.entries.map fun entry =>
      quote entry.1.text ++ ": " ++ entry.2.describe) ++
    "\x7d \x7d \x7d"

/-- A channel in one line. -/
def describe (channel : Channel M) : String :=
  "Channel \x7b id: " ++ quote channel.id ++ ", state: " ++ channel.describeState ++ " \x7d"

end Channel

/-- A handle to a task in one line. -/
def ChannelTask.describe {M : Type} (task : ChannelTask M) : String :=
  "ChannelHandle \x7b id: " ++ quote task.channel.id ++ ", closed: " ++ toString (!task.running) ++
    " \x7d"

end MessageBroker
