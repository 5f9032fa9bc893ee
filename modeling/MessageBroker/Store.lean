import MessageBroker.Error

/-!
# Queue store

Named first-in first-out queues. A store maps each declared name to the messages waiting there,
head first; `Store.ext` makes two stores equal when they agree on every name. Messages are put in
at the tail (`enqueue`), taken from the head (`dequeue`) and put back at the head
(`putBack`); only a message put back is marked redelivered. The lemmas give the effect of
each operation on `queue?`.
-/

set_option autoImplicit false

namespace MessageBroker

/-- A message waiting in a queue. -/
structure Queued (M : Type) where
  message : M
  /-- Set once the message has been delivered and returned. -/
  redelivered : Bool
  deriving DecidableEq, Repr

/-- Fate of a message sent to a queue. -/
inductive Fate where
  | queued
  /-- The queue does not exist and the message is gone. -/
  | dropped
  deriving DecidableEq, Repr

/-- The queues and their messages, head first. -/
@[ext] structure Store (M : Type) where
  queue? : QueueName → Option (List (Queued M))

namespace Store

variable {M : Type}

/-- No queue is declared. -/
def empty : Store M := ⟨fun _ => none⟩

/-- Replaces one queue; `none` removes it. -/
def set (store : Store M) (queue : QueueName) (contents : Option (List (Queued M))) : Store M :=
  ⟨fun name => if name = queue then contents else store.queue? name⟩

/-- True of a declared queue. -/
def has (store : Store M) (queue : QueueName) : Bool := (store.queue? queue).isSome

/-- Number of messages in a queue. -/
def count (store : Store M) (queue : QueueName) : Option Nat :=
  (store.queue? queue).map List.length

/-- Creates a queue if it is missing; says whether it was created. -/
def declare (store : Store M) (queue : QueueName) : Bool × Store M :=
  match store.queue? queue with
  | some _ => (false, store)
  | none => (true, store.set queue (some []))

/-- Appends a message; a missing queue drops it. -/
def enqueue (store : Store M) (queue : QueueName) (message : M) : Fate × Store M :=
  match store.queue? queue with
  | some contents => (.queued, store.set queue (some (contents ++ [⟨message, false⟩])))
  | none => (.dropped, store)

/-- Takes the head of a queue, if there is one. -/
def dequeue (store : Store M) (queue : QueueName) :
    Except BrokerError (Option (Queued M) × Store M) :=
  match store.queue? queue with
  | none => .error (.queueNotFound queue)
  | some [] => .ok (none, store)
  | some (head :: tail) => .ok (some head, store.set queue (some tail))

/-- Puts messages back at the head in their order and marks them redelivered; a missing queue
drops them. -/
def putBack (store : Store M) (queue : QueueName) (messages : List M) : Store M :=
  match store.queue? queue with
  | none => store
  | some contents => store.set queue (some (messages.map (⟨·, true⟩) ++ contents))

/-- Removes a queue; says how many messages it held. -/
def delete (store : Store M) (queue : QueueName) : Option Nat × Store M :=
  match store.queue? queue with
  | none => (none, store)
  | some contents => (some contents.length, store.set queue none)

/-- Empties a queue; says how many messages it held. -/
def purge (store : Store M) (queue : QueueName) : Option Nat × Store M :=
  match store.queue? queue with
  | none => (none, store)
  | some contents => (some contents.length, store.set queue (some []))

/-! ## Effect on the queues -/

@[simp] theorem queue?_empty (name : QueueName) : (empty : Store M).queue? name = none := rfl

@[simp] theorem queue?_set (store : Store M) (queue : QueueName)
    (contents : Option (List (Queued M))) (name : QueueName) :
    (store.set queue contents).queue? name =
      if name = queue then contents else store.queue? name := rfl

/-- Writing a queue as it stands changes nothing. -/
theorem set_queue?_self (store : Store M) (queue : QueueName) :
    store.set queue (store.queue? queue) = store := by
  ext1
  funext name
  simp only [queue?_set]
  split <;> simp_all

theorem queue?_enqueue (store : Store M) (queue : QueueName) (message : M) (name : QueueName) :
    (store.enqueue queue message).2.queue? name =
      if name = queue then (store.queue? queue).map (· ++ [⟨message, false⟩])
      else store.queue? name := by
  unfold enqueue
  cases h : store.queue? queue with
  | none => by_cases hn : name = queue <;> simp_all
  | some contents => by_cases hn : name = queue <;> simp_all

theorem queue?_putBack (store : Store M) (queue : QueueName) (messages : List M)
    (name : QueueName) :
    (store.putBack queue messages).queue? name =
      if name = queue then (store.queue? queue).map (messages.map (⟨·, true⟩) ++ ·)
      else store.queue? name := by
  unfold putBack
  cases h : store.queue? queue with
  | none => by_cases hn : name = queue <;> simp_all
  | some contents => by_cases hn : name = queue <;> simp_all

/-- Putting nothing back changes nothing. -/
theorem putBack_nil (store : Store M) (queue : QueueName) :
    store.putBack queue [] = store := by
  ext1
  funext name
  rw [queue?_putBack]
  split
  · subst name
    cases store.queue? queue <;> simp
  · rfl

theorem dequeue_eq_error_iff {store : Store M} {queue : QueueName} {error : BrokerError} :
    store.dequeue queue = .error error ↔
      store.queue? queue = none ∧ error = .queueNotFound queue := by
  unfold dequeue
  cases store.queue? queue with
  | none => simp [eq_comm]
  | some contents => cases contents <;> simp

end Store

end MessageBroker
