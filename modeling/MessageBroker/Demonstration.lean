import MessageBroker.Broker
import MessageBroker.Config.Startup
import MessageBroker.Log.Filter

/-!
# A demonstration run

The engine at work on one queue: three publishers send an order each; a worker takes everything in a
transaction, acknowledges it, rolls back and closes, so that the orders return to the queue; a
second worker takes everything, acknowledges each order and commits. The log tells what happened.
-/

set_option autoImplicit false

namespace MessageBroker.Demonstration

/-- Queue of the orders. -/
def orderQueue : QueueName := "Transactions"

/-- Name under which the run speaks in the log. -/
def logTarget : String := "RustRabbitTx"

/-- An event of the run. -/
def info (message : String) (fields : List (String × String)) : LogEvent :=
  ⟨.info, logTarget, message, fields⟩

/-- A number of messages in words. -/
def countText : Option Nat → String
  | some count => "Some(" ++ toString count ++ ")"
  | none => "None"

/-- Answers a command for its effect. -/
def after (broker : Broker String) (command : Command String) : Broker String :=
  (broker.perform command).2

/-- Opens a driven channel. -/
def openChannel (broker : Broker String) : Nat × Broker String :=
  match broker.perform (.openChannel none true) with
  | (.opened handle _, broker) => (handle, broker)
  | (_, broker) => (0, broker)

/-- Answers a request to a channel. -/
def ask (broker : Broker String) (handle : Nat) (request : Request String) :
    Option (Reply String) × Broker String :=
  match broker.perform (.request handle request) with
  | (.replied reply, broker) => (some reply, broker)
  | (_, broker) => (none, broker)

/-- A broker with the configured queues. -/
def prepare (config : Config) : Broker String :=
  (orderQueue :: config.queues.declare).foldl (fun broker queue => after broker (.declare queue))
    { idPrefix := config.channel.idPrefix }

/-- Opens a number of channels and returns their handles. -/
def openChannels (broker : Broker String) : Nat → List Nat × Broker String
  | 0 => ([], broker)
  | n + 1 =>
    let (handle, broker) := openChannel broker
    let (handles, broker) := openChannels broker n
    (handle :: handles, broker)

/-- Each of three publishers sends one order; then they close. -/
def publish (broker : Broker String) : Broker String :=
  let (publishers, broker) := openChannels broker 3
  let broker := publishers.zipIdx.foldl
    (fun broker publisher =>
      (ask broker publisher.1 (.publish ("order-" ++ toString publisher.2) orderQueue)).2)
    broker
  publishers.foldl (fun broker publisher => (ask broker publisher .close).2) broker

/-- Takes orders until the queue is empty, at most `bound` of them, and acknowledges each one if
asked to. -/
def takeAll (broker : Broker String) (worker : Nat) (acknowledge : Bool) :
    Nat → List (Delivery String) × Broker String
  | 0 => ([], broker)
  | bound + 1 =>
    match ask broker worker (.get orderQueue false) with
    | (some (.delivered (some delivery)), broker) =>
      let broker := if acknowledge then (ask broker worker (.ack delivery.tag false)).2 else broker
      let (deliveries, broker) := takeAll broker worker acknowledge bound
      (delivery :: deliveries, broker)
    | (_, broker) => ([], broker)

/-- Number of orders in the queue. -/
def waiting (broker : Broker String) : Option Nat := broker.store.count orderQueue

/-- The first worker: takes all, acknowledges all, rolls back and closes. -/
def workAndRollBack (broker : Broker String) : List LogEvent × Broker String :=
  let (worker, broker) := openChannel broker
  let (_, broker) := ask broker worker .select
  let (deliveries, broker) := takeAll broker worker false ((waiting broker).getD 0 + 1)
  let (_, broker) := ask broker worker (.ack Tag.all true)
  let (rolledBack, broker) := ask broker worker .rollback
  let (closed, broker) := ask broker worker .close
  let unacked := match rolledBack with
    | some (.rolledBack outcome) => outcome.unacked
    | _ => 0
  let requeued := match closed with
    | some (.closed outcome) => outcome.requeued
    | _ => 0
  ((deliveries.map fun delivery =>
      info "Got delivery" [("tag", toString delivery.tag), ("body", delivery.message)]) ++
    [info "Rolled back acks" [("unacked", toString unacked)],
      info "Worker closed"
        [("requeued", toString requeued), ("queued", countText (waiting broker))]],
    broker)

/-- The second worker: takes all, acknowledges each, commits and closes. -/
def workAndCommit (broker : Broker String) : List LogEvent × Broker String :=
  let (worker, broker) := openChannel broker
  let (_, broker) := ask broker worker .select
  let (deliveries, broker) := takeAll broker worker true ((waiting broker).getD 0 + 1)
  let (committed, broker) := ask broker worker .commit
  let (_, broker) := ask broker worker .close
  let acked := match committed with
    | some (.committed outcome) => outcome.acked
    | _ => 0
  ([info "Committed acks"
      [("taken", toString deliveries.length), ("acked", toString acked),
        ("queued", countText (waiting broker))]],
    broker)

/-- All events of a run, before filtering. -/
def events (startup : Startup) : List LogEvent :=
  let broker := publish (prepare startup.config)
  let published := info "Published orders" [("queued", countText (waiting broker))]
  let (first, broker) := workAndRollBack broker
  let (second, _) := workAndCommit broker
  (startup.fallback.toList.map fun error =>
    ⟨.warn, logTarget, "Using default configuration: " ++ error.message, []⟩) ++
      published :: (first ++ second)

/-- Why there is no run. -/
inductive Failure where
  | overrides (error : OverrideError)
  | config (error : ConfigError)
  | invalidFilter
  deriving DecidableEq, Repr

/-- Wording. -/
def Failure.message : Failure → String
  | overrides error => error.message
  | config error => error.message
  | invalidFilter => "Invalid log filter"

/-- The filter in force: the one of the environment if it is set and well formed, else the
configured one. -/
def filter? (environment : Environment) (config : Config) : Option LogFilter :=
  ((environment.find? "RUST_LOG").bind LogFilter.read?).or (LogFilter.read? config.logging.filter)

/-- Runs the demonstration and gives the events that are shown. -/
def run (environment : Environment) (look : String → FileState) (home : String) :
    Except Failure (List LogEvent) :=
  match Overrides.ofEnvironment environment with
  | .error error => .error (.overrides error)
  | .ok overrides =>
    match Startup.start look home overrides with
    | .error error => .error (.config error)
    | .ok startup =>
      match filter? environment startup.config with
      | none => .error .invalidFilter
      | some filter => .ok ((events startup).filter filter.shows)

end MessageBroker.Demonstration
