import MessageBroker.Channel.Request

/-!
# Channels driven by a task

A task owns a channel and answers the requests of all its handles in the order of their arrival.
The first close stops it; from then on every request, a second close included, is unavailable and
nothing changes any more. A task whose handles are all gone closes its channel.
-/

set_option autoImplicit false

namespace MessageBroker

/-- A channel and whether its task still runs. -/
@[ext] structure ChannelTask (M : Type) where
  channel : Channel M
  running : Bool := true

namespace ChannelTask

variable {M : Type}

/-- Starts a task for a channel. -/
def start (channel : Channel M) : ChannelTask M := { channel }

/-- Answers one request. -/
def serve (task : ChannelTask M) (store : Store M) (request : Request M) :
    Reply M × ChannelTask M × Store M :=
  if task.running then
    let (reply, channel, store) := task.channel.serve store request
    (reply, ⟨channel, !request.isClose⟩, store)
  else (.failed .channelUnavailable, task, store)

/-- Ends the task when its last handle is gone: a running one closes its channel. -/
def stop (task : ChannelTask M) (store : Store M) : ChannelTask M × Store M :=
  if task.running then
    let (_, channel, store) := task.channel.close store
    (⟨channel, false⟩, store)
  else (task, store)

end ChannelTask

end MessageBroker
