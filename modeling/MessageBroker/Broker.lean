import MessageBroker.Channel.Description

/-!
# The broker

A store of queues and the channels opened on it. A client holds channels by numbered handles. A
direct channel has one handle; a channel driven by a task can be shared by several, and it is
released when the last of them is dropped. `Broker.perform` answers one command and `Broker.run` a
script of them.
-/

set_option autoImplicit false

namespace MessageBroker

/-- A channel held by the broker. -/
inductive Host (M : Type) where
  /-- Operated by the holder of its only handle. -/
  | direct (channel : Channel M)
  /-- Driven by a task. -/
  | driven (task : ChannelTask M)

namespace Host

variable {M : Type}

/-- The channel. -/
def channel : Host M → Channel M
  | direct channel => channel
  | driven task => task.channel

/-- Answers one request. -/
def serve (host : Host M) (store : Store M) (request : Request M) : Reply M × Host M × Store M :=
  match host with
  | direct channel =>
    let (reply, channel, store) := channel.serve store request
    (reply, direct channel, store)
  | driven task =>
    let (reply, task, store) := task.serve store request
    (reply, driven task, store)

/-- Lets the channel go: it is closed unless it is closed already. -/
def release (host : Host M) (store : Store M) : Host M × Store M :=
  match host with
  | direct channel =>
    let (_, channel, store) := channel.close store
    (direct channel, store)
  | driven task =>
    let (task, store) := task.stop store
    (driven task, store)

/-- The channel in one line. -/
def describe : Host M → String
  | direct channel => channel.describe
  | driven task => task.describe

end Host

/-- The broker: its queues, its channels in order of opening and the handles given out. -/
structure Broker (M : Type) where
  /-- Channels are named by this text, a hyphen and a number. -/
  idPrefix : String
  store : Store M := .empty
  /-- Number of channels named so far. -/
  named : Nat := 0
  /-- Number of consumer tags generated so far. -/
  generated : Nat := 0
  hosts : List (Host M) := []
  /-- Handle `n` stands at position `n - 1`: the position of its channel, or nothing once it is
  dropped. -/
  handles : List (Option Nat) := []

/-- A command to the broker. -/
inductive Command (M : Type) where
  | declare (queue : QueueName)
  | delete (queue : QueueName)
  | purge (queue : QueueName)
  | count (queue : QueueName)
  | has (queue : QueueName)
  | enqueue (queue : QueueName) (message : M)
  | dequeue (queue : QueueName)
  | putBack (queue : QueueName) (messages : List M)
  /-- Opens a channel under the given name or under the next number. -/
  | openChannel (id : Option String) (driven : Bool)
  /-- Gives a further handle to a driven channel. -/
  | share (handle : Nat)
  | drop (handle : Nat)
  | request (handle : Nat) (request : Request M)
  /-- Requests sent together to a driven channel. -/
  | requests (handle : Nat) (requests : List (Request M))
  | isClosed (handle : Nat)
  | describe (handle : Nat)

/-- Answer to a command. -/
inductive Answer (M : Type) where
  | done
  | flag (value : Bool)
  | number (value : Option Nat)
  | routed (fate : Fate)
  | taken (head : Option (Queued M))
  | opened (handle : Nat) (id : String)
  | shared (handle : Nat)
  | replied (reply : Reply M)
  | repliedAll (replies : List (Reply M))
  | text (line : String)
  | failed (error : BrokerError)
  /-- The handle was never given out or has been dropped. -/
  | noChannel
  /-- The command is for driven channels only. -/
  | notDriven
  deriving DecidableEq

namespace Broker

variable {M : Type}

/-- The position and the channel of a live handle. -/
def find? (broker : Broker M) : Nat → Option (Nat × Host M)
  | 0 => none
  | n + 1 => do
    let position ← (← broker.handles[n]?)
    let host ← broker.hosts[position]?
    return (position, host)

/-- The channel of a live handle. -/
def host? (broker : Broker M) (handle : Nat) : Option (Host M) :=
  (broker.find? handle).map (·.2)

/-- Opens a channel and gives out its first handle. -/
def openChannel (broker : Broker M) (id : Option String) (driven : Bool) : Answer M × Broker M :=
  let named := if id.isSome then broker.named else broker.named + 1
  let id := id.getD (broker.idPrefix ++ "-" ++ toString named)
  let host : Host M := if driven then .driven (.start (.new id)) else .direct (.new id)
  (.opened (broker.handles.length + 1) id,
    { broker with
      named
      hosts := broker.hosts ++ [host]
      handles := broker.handles ++ [some broker.hosts.length] })

/-- Gives out a further handle to a driven channel. -/
def share (broker : Broker M) (handle : Nat) : Answer M × Broker M :=
  match broker.find? handle with
  | none => (.noChannel, broker)
  | some (_, .direct _) => (.notDriven, broker)
  | some (position, .driven _) =>
    (.shared (broker.handles.length + 1),
      { broker with handles := broker.handles ++ [some position] })

/-- Drops a handle; the last one to a channel releases it. -/
def drop (broker : Broker M) (handle : Nat) : Answer M × Broker M :=
  match broker.find? handle with
  | none => (.noChannel, broker)
  | some (position, host) =>
    let handles := broker.handles.set (handle - 1) none
    if handles.contains (some position) then (.done, { broker with handles })
    else
      let (host, store) := host.release broker.store
      (.done, { broker with handles, store, hosts := broker.hosts.set position host })

/-- True of a request that makes the broker generate a tag, when it succeeds. -/
def generatesTag : Request M → Reply M → Bool
  | .consume _ tag _, .consuming _ => tag = .named ""
  | _, _ => false

/-- Passes a request to the channel at a position. -/
def serveAt (broker : Broker M) (position : Nat) (host : Host M) (request : Request M) :
    Reply M × Host M × Broker M :=
  let (reply, host, store) := host.serve broker.store (request.withSerial (broker.generated + 1))
  let generated := if generatesTag request reply then broker.generated + 1 else broker.generated
  (reply, host, { broker with store, generated, hosts := broker.hosts.set position host })

/-- Passes requests one after another to the channel at a position. -/
def serveAllAt (broker : Broker M) (position : Nat) (host : Host M) :
    List (Request M) → List (Reply M) × Broker M
  | [] => ([], broker)
  | request :: rest =>
    let (reply, host, broker) := broker.serveAt position host request
    let (replies, broker) := broker.serveAllAt position host rest
    (reply :: replies, broker)

/-- Answers one command. -/
def perform (broker : Broker M) : Command M → Answer M × Broker M
  | .declare queue =>
    let (created, store) := broker.store.declare queue
    (.flag created, { broker with store })
  | .delete queue =>
    let (count, store) := broker.store.delete queue
    (.number count, { broker with store })
  | .purge queue =>
    let (count, store) := broker.store.purge queue
    (.number count, { broker with store })
  | .count queue => (.number (broker.store.count queue), broker)
  | .has queue => (.flag (broker.store.has queue), broker)
  | .enqueue queue message =>
    let (fate, store) := broker.store.enqueue queue message
    (.routed fate, { broker with store })
  | .dequeue queue =>
    match broker.store.dequeue queue with
    | .error error => (.failed error, broker)
    | .ok (head, store) => (.taken head, { broker with store })
  | .putBack queue messages =>
    (.done, { broker with store := broker.store.putBack queue messages })
  | .openChannel id driven => broker.openChannel id driven
  | .share handle => broker.share handle
  | .drop handle => broker.drop handle
  | .request handle request =>
    match broker.find? handle with
    | none => (.noChannel, broker)
    | some (position, host) =>
      let (reply, _, broker) := broker.serveAt position host request
      (.replied reply, broker)
  | .requests handle requests =>
    match broker.find? handle with
    | none => (.noChannel, broker)
    | some (_, .direct _) => (.notDriven, broker)
    | some (position, host) =>
      let (replies, broker) := broker.serveAllAt position host requests
      (.repliedAll replies, broker)
  | .isClosed handle =>
    match broker.host? handle with
    | none => (.noChannel, broker)
    | some (.direct _) => (.notDriven, broker)
    | some (.driven task) => (.flag (!task.running), broker)
  | .describe handle =>
    match broker.host? handle with
    | none => (.noChannel, broker)
    | some host => (.text host.describe, broker)

/-- Answers a script of commands. -/
def run (broker : Broker M) : List (Command M) → List (Answer M) × Broker M
  | [] => ([], broker)
  | command :: rest =>
    let (answer, broker) := broker.perform command
    let (answers, broker) := broker.run rest
    (answer :: answers, broker)

/-- Drops every handle, lowest number first. -/
def dropAll (broker : Broker M) : Broker M :=
  (List.range broker.handles.length).foldl (fun broker n => (broker.drop (n + 1)).2) broker

end Broker

end MessageBroker
