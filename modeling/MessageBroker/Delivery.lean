import MessageBroker.Error

/-!
# Deliveries and their numbering

A delivery is a message handed to a channel under a tag. `TagCounter` issues the tags
`1, 2, 3, …` and stops after the largest one; it never repeats a tag (`TagCounter.last_of_next`).
-/

set_option autoImplicit false

namespace MessageBroker

/-- How a delivery left its queue. -/
inductive DeliverySource where
  /-- Asked for once. -/
  | get
  /-- Pulled by a registered consumer. -/
  | consumer (tag : ConsumerTag)
  deriving DecidableEq, Repr

/-- A message handed to a channel. -/
structure Delivery (M : Type) where
  tag : Nat
  message : M
  /-- Where the message came from, and where it returns. -/
  queue : QueueName
  context : DeliverySource
  redelivered : Bool
  deriving DecidableEq, Repr

/-- The tags of one channel: all of `1, …, last` have been issued. -/
structure TagCounter where
  last : Nat := 0
  deriving DecidableEq, Repr

namespace TagCounter

/-- Issues the next tag; fails once the largest one is out. -/
def next (counter : TagCounter) : Except BrokerError (Nat × TagCounter) :=
  if counter.last < Tag.largest then .ok (counter.last + 1, ⟨counter.last + 1⟩)
  else .error .tagsExhausted

/-- True of the tags issued so far. -/
def hasIssued (counter : TagCounter) (tag : Nat) : Bool :=
  0 < tag && tag ≤ counter.last

/-- A new tag follows the last one and becomes the last one. -/
theorem last_of_next {counter counter' : TagCounter} {tag : Nat}
    (h : counter.next = .ok (tag, counter')) :
    tag = counter.last + 1 ∧ counter'.last = tag := by
  unfold next at h
  split at h
  · cases h
    exact ⟨rfl, rfl⟩
  · cases h

theorem hasIssued_iff {counter : TagCounter} {tag : Nat} :
    counter.hasIssued tag = true ↔ 0 < tag ∧ tag ≤ counter.last := by
  simp [hasIssued]

end TagCounter

end MessageBroker
