import MessageBroker.Channel.Request
import MessageBroker.Proofs.Unacked

/-!
# Requests that take from a queue

A get names the queue it takes from, a next goes by a registered consumer; `Channel.pull?` reads
from a request the claim it makes. One equation for each way such a request can end, and
`Channel.SamePull` for two channels that make the same claim and find the same messages: they end
in the same way (`Channel.samePull`).
-/

set_option autoImplicit false

namespace MessageBroker

variable {M : Type}

/-- A claim on the head of a queue. -/
structure Pull where
  queue : QueueName
  context : DeliverySource
  noAck : Bool
  deriving DecidableEq, Repr

namespace Channel

/-- The queue a request takes from: a get names it, a next goes by a registered consumer. -/
def pull? (channel : Channel M) : Request M → Option Pull
  | .get queue noAck => some ⟨queue, .get, noAck⟩
  | .next tag =>
    (channel.consumers.find? tag).map fun consumer =>
      ⟨consumer.queue, .consumer tag, consumer.noAck⟩
  | _ => none

theorem pull?_next {channel : Channel M} {tag : ConsumerTag} {consumer : Consumer}
    (found : channel.consumers.find? tag = some consumer) :
    channel.pull? (.next tag) = some ⟨consumer.queue, .consumer tag, consumer.noAck⟩ := by
  rw [pull?, found]
  rfl

/-- The delivery of a message under the next tag. -/
def nextDelivery (channel : Channel M) (claim : Pull) (head : Queued M) : Delivery M :=
  ⟨channel.tags.last + 1, head.message, claim.queue, claim.context, head.redelivered⟩

variable (channel : Channel M) (store : Store M)

/-! ## What a pull does, by what it finds -/

section Pulls

variable {request : Request M} {claim : Pull} (isOpen : channel.isOpen = true)
  (claims : channel.pull? request = some claim)

include isOpen claims

theorem serve_pull :
    channel.serve store request =
      (channel.pull store claim.queue claim.context claim.noAck).reply .delivered := by
  cases request with
  | get queue noAck =>
    cases claims
    simp [serve, get, whenOpen, isOpen]
  | next tag =>
    obtain ⟨consumer, found, rfl⟩ := Option.map_eq_some_iff.mp claims
    simp [serve, next, whenOpen, isOpen, Consumers.get, found]
  | _ => cases claims

theorem serve_pull_of_missing (missing : store.queue? claim.queue = none) :
    channel.serve store request =
      (.failed (.queueNotFound claim.queue), channel, store) := by
  rw [channel.serve_pull store isOpen claims]
  simp [pull, Store.dequeue, missing, refuse, Outcome.reply]

theorem serve_pull_of_empty (contents : store.queue? claim.queue = some []) :
    channel.serve store request = (.delivered none, channel, store) := by
  rw [channel.serve_pull store isOpen claims]
  simp [pull, Store.dequeue, contents, Outcome.reply]

variable {head : Queued M} {tail : List (Queued M)}
  (contents : store.queue? claim.queue = some (head :: tail))

include contents

theorem serve_pull_of_full (full : ¬ channel.tags.last < Tag.largest) :
    channel.serve store request =
      (.failed .tagsExhausted, channel,
        (store.set claim.queue (some tail)).putBack claim.queue [head.message]) := by
  rw [channel.serve_pull store isOpen claims]
  simp [pull, Store.dequeue, contents, deliver, TagCounter.next, full, Outcome.reply]

variable (room : channel.tags.last < Tag.largest)

include room

theorem serve_pull_of_noAck (noAck : claim.noAck = true) :
    channel.serve store request =
      (.delivered (some (channel.nextDelivery claim head)),
        { channel with tags := ⟨channel.tags.last + 1⟩ }, store.set claim.queue (some tail)) := by
  rw [channel.serve_pull store isOpen claims]
  simp [pull, Store.dequeue, contents, deliver, TagCounter.next, room, noAck, nextDelivery,
    Outcome.reply]

theorem serve_pull_of_entered (noAck : claim.noAck = false) {unacked : UnackedTable M}
    (entered : channel.unacked.enter (channel.nextDelivery claim head) = .ok unacked) :
    channel.serve store request =
      (.delivered (some (channel.nextDelivery claim head)),
        { channel with tags := ⟨channel.tags.last + 1⟩, unacked },
        store.set claim.queue (some tail)) := by
  rw [channel.serve_pull store isOpen claims]
  rw [nextDelivery] at entered
  simp [pull, Store.dequeue, contents, deliver, TagCounter.next, room, noAck, entered,
    nextDelivery, Outcome.reply]

theorem serve_pull_of_duplicate (noAck : claim.noAck = false)
    (present : channel.unacked.contains (channel.tags.last + 1) = true) :
    channel.serve store request =
      (.failed (.duplicateTag (channel.tags.last + 1)),
        { channel with tags := ⟨channel.tags.last + 1⟩ },
        (store.set claim.queue (some tail)).putBack claim.queue [head.message]) := by
  have refused : channel.unacked.enter (channel.nextDelivery claim head) =
      .error (.duplicateTag (channel.tags.last + 1)) :=
    UnackedTable.enter_eq_error_iff.mpr ⟨present, rfl⟩
  rw [channel.serve_pull store isOpen claims]
  rw [nextDelivery] at refused
  simp [pull, Store.dequeue, contents, deliver, TagCounter.next, room, noAck, refused,
    Outcome.reply]

end Pulls

/-! ## Two channels with the same claim -/

/-- The ways in which two channels answer the same claim when each finds the same messages. -/
inductive SamePull (channel twin : Channel M) (store other : Store M) (request : Request M)
    (claim : Pull) : Prop
  | unchanged {reply : Reply M}
      (eq : channel.serve store request = (reply, channel, store))
      (twin_eq : twin.serve other request = (reply, twin, other))
  | returned (tags : TagCounter) {head : Queued M} {tail : List (Queued M)} {error : BrokerError}
      (eq : channel.serve store request =
        (.failed error, { channel with tags },
          (store.set claim.queue (some tail)).putBack claim.queue [head.message]))
      (twin_eq : twin.serve other request =
        (.failed error, { twin with tags },
          (other.set claim.queue (some tail)).putBack claim.queue [head.message]))
  | consumed {head : Queued M} {tail : List (Queued M)}
      (eq : channel.serve store request =
        (.delivered (some (channel.nextDelivery claim head)),
          { channel with tags := ⟨channel.tags.last + 1⟩ }, store.set claim.queue (some tail)))
      (twin_eq : twin.serve other request =
        (.delivered (some (channel.nextDelivery claim head)),
          { twin with tags := ⟨channel.tags.last + 1⟩ }, other.set claim.queue (some tail)))
  | handedOut {head : Queued M} {tail : List (Queued M)} {unacked twinUnacked : UnackedTable M}
      (entered : channel.unacked.enter (channel.nextDelivery claim head) = .ok unacked)
      (twin_entered : twin.unacked.enter (channel.nextDelivery claim head) = .ok twinUnacked)
      (eq : channel.serve store request =
        (.delivered (some (channel.nextDelivery claim head)),
          { channel with tags := ⟨channel.tags.last + 1⟩, unacked },
          store.set claim.queue (some tail)))
      (twin_eq : twin.serve other request =
        (.delivered (some (channel.nextDelivery claim head)),
          { twin with tags := ⟨channel.tags.last + 1⟩, unacked := twinUnacked },
          other.set claim.queue (some tail)))

variable {channel store} {twin : Channel M} {other : Store M}

/-- **The same claim on the same messages ends in the same way**, provided the two channels number
their deliveries alike. -/
theorem samePull {request : Request M} {claim : Pull} (isOpen : channel.isOpen = true)
    (twinOpen : twin.isOpen = true) (claims : channel.pull? request = some claim)
    (twin_claims : twin.pull? request = some claim)
    (same : other.queue? claim.queue = store.queue? claim.queue) (tags : twin.tags = channel.tags)
    (contains : twin.unacked.contains (channel.tags.last + 1) =
      channel.unacked.contains (channel.tags.last + 1)) :
    SamePull channel twin store other request claim := by
  have delivery : ∀ head, twin.nextDelivery claim head = channel.nextDelivery claim head := by
    intro head
    rw [nextDelivery, nextDelivery, tags]
  -- The cases are those of the equations above, taken on both sides at once.
  cases contents : store.queue? claim.queue with
  | none =>
    rw [contents] at same
    exact .unchanged (channel.serve_pull_of_missing store isOpen claims contents)
      (twin.serve_pull_of_missing other twinOpen twin_claims same)
  | some messages =>
    rw [contents] at same
    cases messages with
    | nil =>
      exact .unchanged (channel.serve_pull_of_empty store isOpen claims contents)
        (twin.serve_pull_of_empty other twinOpen twin_claims same)
    | cons head tail =>
      by_cases room : channel.tags.last < Tag.largest
      case neg =>
        have twin_full : ¬ twin.tags.last < Tag.largest := by rwa [tags]
        have twin_eq := twin.serve_pull_of_full other twinOpen twin_claims same twin_full
        refine .returned channel.tags
          (channel.serve_pull_of_full store isOpen claims contents room) ?_
        rw [twin_eq, ← tags]
      case pos =>
        have twin_room : twin.tags.last < Tag.largest := by rwa [tags]
        cases noAck : claim.noAck with
        | true =>
          have twin_eq := twin.serve_pull_of_noAck other twinOpen twin_claims same twin_room noAck
          rw [delivery, tags] at twin_eq
          exact .consumed (channel.serve_pull_of_noAck store isOpen claims contents room noAck)
            twin_eq
        | false =>
          cases entered : channel.unacked.enter (channel.nextDelivery claim head) with
          | error error =>
            have present := (UnackedTable.enter_eq_error_iff.mp entered).1
            have twin_present : twin.unacked.contains (twin.tags.last + 1) = true := by
              rw [tags, contains]
              exact present
            have twin_eq := twin.serve_pull_of_duplicate other twinOpen twin_claims same twin_room
              noAck twin_present
            rw [tags] at twin_eq
            exact .returned _
              (channel.serve_pull_of_duplicate store isOpen claims contents room noAck present)
              twin_eq
          | ok unacked =>
            have absent := (UnackedTable.enter_eq_ok_iff.mp entered).1
            cases twin_entered : twin.unacked.enter (channel.nextDelivery claim head) with
            | error error =>
              have twin_present := (UnackedTable.enter_eq_error_iff.mp twin_entered).1
              -- The tag would be taken in one table and free in the other.
              have twin_absent := contains.trans absent
              cases twin_absent.symm.trans twin_present
            | ok twinUnacked =>
              have twin_eq := twin.serve_pull_of_entered other twinOpen twin_claims same twin_room
                noAck (by rw [delivery]; exact twin_entered)
              rw [delivery, tags] at twin_eq
              exact .handedOut entered twin_entered
                (channel.serve_pull_of_entered store isOpen claims contents room noAck entered)
                twin_eq

end Channel

end MessageBroker
