import MessageBroker.Channel.Basic

/-!
# Commit and rollback

A commit applies the deferred publishes in order and then the deferred acknowledgements in order; a
publish whose queue is gone is dropped and the commit still succeeds. A rollback throws both away,
and the deliveries whose acknowledgement was pending are outstanding again.
-/

set_option autoImplicit false

namespace MessageBroker

/-- What a commit applied. -/
structure CommitReport where
  published : Nat := 0
  /-- Publishes whose queue did not exist at the commit. -/
  dropped : Nat := 0
  acked : Nat := 0
  deriving DecidableEq, Repr

/-- What a rollback threw away. -/
structure RollbackReport where
  discardedPublishes : Nat := 0
  /-- Deliveries that are outstanding again. -/
  unacked : Nat := 0
  deriving DecidableEq, Repr

namespace Store

variable {M : Type}

/-- Appends messages in order; counts those queued and those dropped. -/
def enqueueAll (store : Store M) : List (M × QueueName) → (Nat × Nat) × Store M
  | [] => ((0, 0), store)
  | (message, target) :: rest =>
    match store.enqueue target message with
    | (.queued, store) =>
      let ((published, dropped), store) := store.enqueueAll rest
      ((published + 1, dropped), store)
    | (.dropped, store) =>
      let ((published, dropped), store) := store.enqueueAll rest
      ((published, dropped + 1), store)

end Store

namespace UnackedTable

variable {M : Type}

/-- Applies deferred acknowledgements in order; counts the deliveries they remove. -/
def settleAllPending (table : UnackedTable M) : List (Nat × Bool) → Nat × UnackedTable M
  | [] => (0, table)
  | (tag, multiple) :: rest =>
    let (tags, table) := table.settlePending tag multiple
    let (acked, table) := table.settleAllPending rest
    (tags.length + acked, table)

end UnackedTable

namespace Channel

variable {M α : Type}

/-- Runs an operation of a transaction; outside one it is refused by name. -/
def whenTransactional (channel : Channel M) (store : Store M) (method : String)
    (operation : Outcome M α) : Outcome M α :=
  match channel.mode with
  | .transactional => operation
  | .immediate => channel.refuse store (.outsideTransaction method)
  | .closed => channel.refuse store (.channelClosed channel.id)

/-- Applies the transaction. -/
def commit (channel : Channel M) (store : Store M) : Outcome M CommitReport :=
  channel.whenTransactional store "commit" <|
    let ((published, dropped), store) := store.enqueueAll channel.buffer.publishes
    let (acked, unacked) := channel.unacked.settleAllPending channel.buffer.acks
    ⟨.ok ⟨published, dropped, acked⟩, { channel with buffer := .empty, unacked }, store⟩

/-- Gives the transaction up. Nothing returns to a queue. -/
def rollback (channel : Channel M) (store : Store M) : Outcome M RollbackReport :=
  channel.whenTransactional store "rollback" <|
    let (discardedPublishes, buffer) := channel.buffer.discard
    let (released, unacked) := channel.unacked.release
    ⟨.ok ⟨discardedPublishes, released⟩, { channel with buffer, unacked }, store⟩

end Channel

end MessageBroker
