import MessageBroker.Delivery

/-!
# Effects held back by a transaction

Publishes and acknowledgements issued inside a transaction, in the order they were issued.
-/

set_option autoImplicit false

namespace MessageBroker

/-- An effect that waits for the commit. -/
inductive Deferred (M : Type) where
  | publish (message : M) (target : QueueName)
  | ack (tag : Nat) (multiple : Bool)
  deriving DecidableEq, Repr

/-- True of publishes. -/
def Deferred.isPublish {M : Type} : Deferred M → Bool
  | publish _ _ => true
  | ack _ _ => false

/-- The deferred effects of a channel, oldest first. -/
@[ext] structure TransactionBuffer (M : Type) where
  effects : List (Deferred M) := []
  deriving DecidableEq, Repr

namespace TransactionBuffer

variable {M : Type}

/-- Nothing is deferred. -/
def empty : TransactionBuffer M := ⟨[]⟩

/-- Number of deferred effects. -/
def size (buffer : TransactionBuffer M) : Nat := buffer.effects.length

/-- Appends a publish. -/
def deferPublish (buffer : TransactionBuffer M) (message : M) (target : QueueName) :
    TransactionBuffer M :=
  ⟨buffer.effects ++ [.publish message target]⟩

/-- Appends an acknowledgement. -/
def deferAck (buffer : TransactionBuffer M) (tag : Nat) (multiple : Bool) :
    TransactionBuffer M :=
  ⟨buffer.effects ++ [.ack tag multiple]⟩

/-- The deferred publishes with their targets, oldest first. -/
def publishes (buffer : TransactionBuffer M) : List (M × QueueName) :=
  buffer.effects.filterMap fun
    | .publish message target => some (message, target)
    | .ack _ _ => none

/-- The deferred acknowledgements, oldest first. -/
def acks (buffer : TransactionBuffer M) : List (Nat × Bool) :=
  buffer.effects.filterMap fun
    | .publish _ _ => none
    | .ack tag multiple => some (tag, multiple)

/-- Number of deferred publishes. -/
def publishCount (buffer : TransactionBuffer M) : Nat := buffer.effects.countP (·.isPublish)

/-- Number of deferred acknowledgements. -/
def ackCount (buffer : TransactionBuffer M) : Nat := buffer.size - buffer.publishCount

/-- All effects in order; the buffer is left empty. -/
def take (buffer : TransactionBuffer M) : List (Deferred M) × TransactionBuffer M :=
  (buffer.effects, empty)

/-- Throws every effect away and says how many publishes there were. -/
def discard (buffer : TransactionBuffer M) : Nat × TransactionBuffer M :=
  (buffer.publishCount, empty)

@[simp] theorem publishes_empty : (empty : TransactionBuffer M).publishes = [] := rfl

@[simp] theorem acks_empty : (empty : TransactionBuffer M).acks = [] := rfl

@[simp] theorem publishes_deferPublish (buffer : TransactionBuffer M) (message : M)
    (target : QueueName) :
    (buffer.deferPublish message target).publishes = buffer.publishes ++ [(message, target)] := by
  simp [publishes, deferPublish]

@[simp] theorem acks_deferPublish (buffer : TransactionBuffer M) (message : M)
    (target : QueueName) : (buffer.deferPublish message target).acks = buffer.acks := by
  simp [acks, deferPublish]

@[simp] theorem publishes_deferAck (buffer : TransactionBuffer M) (tag : Nat) (multiple : Bool) :
    (buffer.deferAck tag multiple).publishes = buffer.publishes := by
  simp [publishes, deferAck]

@[simp] theorem acks_deferAck (buffer : TransactionBuffer M) (tag : Nat) (multiple : Bool) :
    (buffer.deferAck tag multiple).acks = buffer.acks ++ [(tag, multiple)] := by
  simp [acks, deferAck]

theorem length_publishes (buffer : TransactionBuffer M) :
    buffer.publishes.length = buffer.publishCount := by
  obtain ⟨effects⟩ := buffer
  unfold publishes publishCount
  induction effects with
  | nil => rfl
  | cons effect rest ih => cases effect <;> simp_all [Deferred.isPublish]

theorem length_acks (buffer : TransactionBuffer M) : buffer.acks.length = buffer.ackCount := by
  obtain ⟨effects⟩ := buffer
  unfold acks ackCount size publishCount
  induction effects with
  | nil => rfl
  | cons effect rest ih =>
    have := rest.countP_le_length (p := (·.isPublish))
    cases effect <;> simp_all [Deferred.isPublish]
    omega

end TransactionBuffer

end MessageBroker
