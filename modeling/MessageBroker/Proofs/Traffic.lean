import MessageBroker.Proofs.Conservation

/-!
# Traffic of one queue

What happens to the messages of a queue, in their order. A request returns deliveries to the head,
takes at most one message from there and adds at the tail what the queue takes in
(`Channel.Step.messages_eq`). An operation of the store acts on one queue (`Store.perform_eq`), and
adds to the tail or does nothing, unless it removes the queue, empties it or reaches into it by hand
(`ChannelGroup.messages_queue`).
-/

set_option autoImplicit false

namespace MessageBroker

variable {M : Type}

namespace Ledger

/-- The messages a queue took in, in order. -/
def enqueuedOn (ledger : Ledger M) (queue : QueueName) : List M := messagesOn queue ledger.enqueued

/-- The messages of a queue that were settled, in order. -/
def settledOn (ledger : Ledger M) (queue : QueueName) : List M := messagesOn queue ledger.settled

theorem enqueuedOn_append (first second : Ledger M) (queue : QueueName) :
    (first.append second).enqueuedOn queue = first.enqueuedOn queue ++ second.enqueuedOn queue :=
  messagesOn_append queue first.enqueued second.enqueued

theorem settledOn_append (first second : Ledger M) (queue : QueueName) :
    (first.append second).settledOn queue = first.settledOn queue ++ second.settledOn queue :=
  messagesOn_append queue first.settled second.settled

end Ledger

/-- The number of messages a request with this reply took from a queue. -/
def Reply.takenFrom (queue : QueueName) : Reply M → Nat
  | .delivered (some delivery) => if delivery.queue = queue then 1 else 0
  | _ => 0

theorem Reply.apart_of_takenFrom {queue : QueueName} {delivery : Delivery M}
    (none_taken : (Reply.delivered (some delivery)).takenFrom queue = 0) :
    ¬ delivery.queue = queue := by
  intro mine
  rw [takenFrom, if_pos mine] at none_taken
  cases none_taken

/-- Taking the head of a queue. -/
theorem Store.messages_take {store : Store M} {claimed : QueueName} {head : Queued M}
    {tail : List (Queued M)} (contents : store.queue? claimed = some (head :: tail))
    (queue : QueueName) :
    (store.set claimed (some tail)).messages queue =
      (store.messages queue).drop (if claimed = queue then 1 else 0) := by
  rw [messages_set]
  by_cases same : queue = claimed
  · subst queue
    rw [if_pos rfl, if_pos rfl, messages_of_queue? contents]
    rfl
  · rw [if_neg same, if_neg fun other => same other.symm]
    rfl

namespace Channel

/-- The messages a request puts back at the head of a queue. -/
def returnedTo (before : Channel M) (store : Store M) (request : Request M) (after : Channel M)
    (queue : QueueName) : List M :=
  match request with
  | .recover _ | .close =>
    if store.has queue then messagesFrom queue (before.unacked.departed after.unacked) else []
  | _ => []

/-- A request that removes nothing from the table returns nothing. -/
theorem returnedTo_of_departed {channel after : Channel M}
    (stays : channel.unacked.departed after.unacked = []) (store : Store M) (request : Request M)
    (queue : QueueName) : channel.returnedTo store request after queue = [] := by
  have nothing : (if store.has queue then
      messagesFrom queue (channel.unacked.departed after.unacked) else []) = [] := by
    rw [stays]
    exact ite_self _
  cases request with
  | recover => exact nothing
  | close => exact nothing
  | _ => rfl

/-- A request that makes a claim returns nothing. -/
theorem returnedTo_of_pull? {channel : Channel M} {request : Request M} {claim : Pull}
    (claims : channel.pull? request = some claim) (store : Store M) (after : Channel M)
    (queue : QueueName) : channel.returnedTo store request after queue = [] := by
  cases request with
  | get => rfl
  | next => rfl
  | _ => cases claims

/-- **What a request does to the messages of a queue**: what it returns comes before what it leaves
of the old ones, and what the queue takes in comes after them. -/
theorem Step.messages_eq {channel after : Channel M} {store later : Store M} {request : Request M}
    {reply : Reply M} (step : Step channel store request reply after later) (queue : QueueName) :
    later.messages queue =
      channel.returnedTo store request after queue ++
        (store.messages queue).drop (reply.takenFrom queue) ++
          (channel.record store request reply after).enqueuedOn queue := by
  -- Most requests leave the store as it is.
  have untouched : ∀ {record : Ledger M}, record.enqueued = [] →
      store.messages queue = [] ++ store.messages queue ++ record.enqueuedOn queue := by
    intro record nothing
    rw [Ledger.enqueuedOn, nothing, messagesOn_nil, List.append_nil, List.nil_append]
  cases step with
  | refused =>
    rw [record_of_failed, returnedTo_of_departed channel.unacked.departed_self]
    exact untouched rfl
  | selected => exact untouched rfl
  | @published message target immediate =>
    rw [Store.enqueue_eq_enqueueAll, Store.messages_enqueueAll, record, if_pos immediate]
    rfl
  | deferredPublish transactional =>
    refine untouched (if_neg ?_)
    rw [transactional]
    decide
  | foundEmpty _ claims =>
    rw [record_of_foundEmpty claims, returnedTo_of_pull? claims]
    exact untouched rfl
  | consumed _ claims contents =>
    rw [record_of_delivered claims, returnedTo_of_pull? claims, Store.messages_take contents]
    exact (List.append_nil _).symm
  | handedOut _ claims contents =>
    rw [record_of_delivered claims, returnedTo_of_pull? claims, Store.messages_take contents]
    exact (List.append_nil _).symm
  | exhausted _ claims contents =>
    rw [record_of_failed, returnedTo_of_pull? claims, Store.messages_return contents]
    exact untouched rfl
  | duplicated _ claims contents =>
    rw [record_of_failed, returnedTo_of_pull? claims, Store.messages_return contents]
    exact untouched rfl
  | registered => exact untouched rfl
  | cancelled => exact untouched rfl
  | acked => exact untouched rfl
  | deferredAck => exact untouched rfl
  | committed => exact store.messages_enqueueAll channel.buffer.publishes queue
  | rolledBack => exact untouched rfl
  | returned =>
    have gone : channel.unacked.departed (channel.unacked.keep (·.ackPending)) =
        channel.outstanding := channel.unacked.departed_keep _
    rw [returnedTo, gone, store.messages_giveBack]
    exact (List.append_nil _).symm
  | redelivered =>
    have stays : channel.unacked.departed channel.unacked.handOutAgain.2 = [] :=
      channel.unacked.departed_adjust _ UnackedDelivery.tag_handOutAgain
    rw [returnedTo_of_departed stays]
    exact untouched rfl
  | closed =>
    rw [returnedTo, UnackedTable.departed_empty, store.messages_giveBack]
    exact (List.append_nil _).symm
  | closedAgain =>
    rw [returnedTo_of_departed channel.unacked.departed_self]
    exact untouched rfl

/-- No request declares or removes a queue. -/
theorem Step.has_eq {channel after : Channel M} {store later : Store M} {request : Request M}
    {reply : Reply M} (step : Step channel store request reply after later) (name : QueueName) :
    later.has name = store.has name := by
  -- A queue that gives up its head is there before and after.
  have taken : ∀ {claimed : QueueName} {head : Queued M} {tail : List (Queued M)},
      store.queue? claimed = some (head :: tail) →
      (store.set claimed (some tail)).has name = store.has name := by
    intro claimed head tail contents
    rw [Store.has_eq_isSome, Store.queue?_set, Store.has_eq_isSome]
    split
    · rename_i same
      rw [same, contents]
      rfl
    · rfl
  cases step with
  | published => exact store.has_enqueue ..
  | consumed _ _ contents => exact taken contents
  | handedOut _ _ contents => exact taken contents
  | exhausted _ _ contents => exact (Store.has_putBack ..).trans (taken contents)
  | duplicated _ _ contents => exact (Store.has_putBack ..).trans (taken contents)
  | committed => exact store.has_enqueueAll ..
  | returned => exact store.has_giveBack ..
  | closed => exact store.has_giveBack ..
  | _ => rfl

/-- A request takes nothing from a missing queue. -/
theorem Step.takenFrom_of_missing {channel after : Channel M} {store later : Store M}
    {request : Request M} {reply : Reply M} (step : Step channel store request reply after later)
    {queue : QueueName} (missing : store.has queue = false) : reply.takenFrom queue = 0 := by
  have elsewhere : ∀ {claimed : QueueName} {head : Queued M} {tail : List (Queued M)},
      store.queue? claimed = some (head :: tail) → claimed ≠ queue := by
    intro claimed head tail contents same
    rw [← same, Store.has_eq_isSome, contents] at missing
    cases missing
  cases step with
  | consumed _ _ contents => exact if_neg (elsewhere contents)
  | handedOut _ _ contents => exact if_neg (elsewhere contents)
  | _ => rfl

end Channel

/-! ## Operations of the store -/

/-- The queue an operation acts on. -/
def QueueRequest.target : QueueRequest M → QueueName
  | declare queue | delete queue | purge queue | count queue | has queue | dequeue queue => queue
  | enqueue queue _ | putBack queue _ => queue

/-- What an operation makes of its queue, `none` if that is missing: the answer and the queue it
leaves. -/
def QueueRequest.act : QueueRequest M → Option (List (Queued M)) →
    Answer M × Option (List (Queued M))
  | declare _, contents => (.flag contents.isNone, some (contents.getD []))
  | delete _, contents => (.number (contents.map List.length), none)
  | purge _, contents => (.number (contents.map List.length), contents.map fun _ => [])
  | count _, contents => (.number (contents.map List.length), contents)
  | has _, contents => (.flag contents.isSome, contents)
  | enqueue _ message, contents =>
    (.routed (if contents.isSome then .queued else .dropped),
      contents.map (· ++ [⟨message, false⟩]))
  | dequeue queue, none => (.failed (.queueNotFound queue), none)
  | dequeue _, some contents => (.taken contents.head?, some contents.tail)
  | putBack _ messages, contents => (.done, contents.map (messages.map (⟨·, true⟩) ++ ·))

namespace Store

/-- **An operation of the store acts on one queue.** -/
theorem perform_eq (store : Store M) (request : QueueRequest M) :
    store.perform request =
      ((request.act (store.queue? request.target)).1,
        store.set request.target (request.act (store.queue? request.target)).2) := by
  cases request with
  | declare name =>
    refine Prod.ext ?_ (Store.ext (funext (store.queue?_declare name)))
    rw [perform, declare, QueueRequest.target]
    cases store.queue? name <;> rfl
  | delete name =>
    refine Prod.ext ?_ (Store.ext (funext (store.queue?_delete name)))
    rw [perform, delete, QueueRequest.target]
    cases store.queue? name <;> rfl
  | purge name =>
    refine Prod.ext ?_ (Store.ext (funext (store.queue?_purge name)))
    rw [perform, purge, QueueRequest.target]
    cases store.queue? name <;> rfl
  | count name => exact Prod.ext rfl (store.set_queue?_self name).symm
  | has name => exact Prod.ext rfl (store.set_queue?_self name).symm
  | enqueue name message =>
    refine Prod.ext ?_ (Store.ext (funext (store.queue?_enqueue name message)))
    exact congrArg Answer.routed (store.fate_enqueue name message)
  | dequeue name =>
    have still := store.set_queue?_self name
    rw [perform, dequeue, QueueRequest.target]
    rcases found : store.queue? name with _ | _ | ⟨head, tail⟩
    · rw [found] at still
      exact Prod.ext rfl still.symm
    · rw [found] at still
      exact Prod.ext rfl still.symm
    · rfl
  | putBack name messages =>
    exact Prod.ext rfl (Store.ext (funext (store.queue?_putBack name messages)))

/-- An operation leaves the other queues alone. -/
theorem queue?_perform_of_ne (store : Store M) (request : QueueRequest M) {queue : QueueName}
    (apart : queue ≠ request.target) :
    (store.perform request).2.queue? queue = store.queue? queue := by
  rw [perform_eq]
  exact if_neg apart

end Store

/-! ## Events -/

/-- True of the operations that remove or empty a queue or reach into it by hand. -/
def QueueRequest.disturbs (queue : QueueName) : QueueRequest M → Bool
  | delete name | purge name | dequeue name | putBack name _ => name = queue
  | declare _ | count _ | has _ | enqueue _ _ => false

namespace ChannelGroup

section Asked

variable {group : ChannelGroup M} {place : Nat} {event : Event M} {request : Request M}
  (asked : event.requestTo? place = some request)

include asked

/-- The record of an event that asks a channel is that of the request. -/
theorem record_of_requestTo? {channel : Channel M}
    (found : group.channels[place]? = some channel) :
    group.record event = group.recordAt channel request := by
  cases event with
  | queue _ => cases asked
  | opening _ => cases asked
  | request other _ =>
    simp only [Event.requestTo?, Option.ite_none_right_eq_some, Option.some.injEq] at asked
    obtain ⟨rfl, rfl⟩ := asked
    rw [record, found]
    rfl
  | drop other =>
    simp only [Event.requestTo?, Option.ite_none_right_eq_some, Option.some.injEq] at asked
    obtain ⟨rfl, rfl⟩ := asked
    rw [record, found]
    rfl

theorem record_of_missing (missing : group.channels[place]? = none) :
    group.record event = {} := by
  cases event with
  | queue _ => cases asked
  | opening _ => cases asked
  | request other _ =>
    simp only [Event.requestTo?, Option.ite_none_right_eq_some] at asked
    rw [record, asked.1, missing]
    rfl
  | drop other =>
    simp only [Event.requestTo?, Option.ite_none_right_eq_some] at asked
    rw [record, asked.1, missing]
    rfl

end Asked

/-- An operation on the queues that does not disturb one leaves what is there in front. -/
theorem messages_queue (group : ChannelGroup M) {request : QueueRequest M} {queue : QueueName}
    (undisturbed : request.disturbs queue = false) :
    (group.store.perform request).2.messages queue =
        group.store.messages queue ++ (group.record (.queue request)).enqueuedOn queue ∧
      (group.store.has queue = true → (group.store.perform request).2.has queue = true) := by
  -- All but two of them act on other queues.
  have apart : ∀ {later : Store M} {record : Ledger M},
      later.queue? queue = group.store.queue? queue → record.enqueued = [] →
      later.messages queue = group.store.messages queue ++ record.enqueuedOn queue ∧
        (group.store.has queue = true → later.has queue = true) := by
    intro later record same nothing
    rw [Store.messages, Store.messages, same, Ledger.enqueuedOn, nothing, messagesOn_nil,
      List.append_nil, Store.has_eq_isSome, Store.has_eq_isSome, same]
    exact ⟨rfl, id⟩
  have other : ∀ {name : QueueName}, decide (name = queue) = false → queue ≠ name :=
    fun undisturbed same => of_decide_eq_false undisturbed same.symm
  cases request with
  | declare name =>
    by_cases mine : queue = name
    · subst mine
      constructor
      · rw [Store.perform, Store.messages, Store.queue?_declare, if_pos rfl]
        exact (List.append_nil _).symm
      · intro _
        rw [Store.perform, Store.has_eq_isSome, Store.queue?_declare, if_pos rfl]
        rfl
    · refine apart ?_ rfl
      exact (Store.queue?_declare ..).trans (if_neg mine)
  | delete name => exact apart (group.store.queue?_perform_of_ne _ (other undisturbed)) rfl
  | purge name => exact apart (group.store.queue?_perform_of_ne _ (other undisturbed)) rfl
  | count => exact apart rfl rfl
  | has => exact apart rfl rfl
  | enqueue name message =>
    constructor
    · rw [Store.perform, Store.enqueue_eq_enqueueAll, Store.messages_enqueueAll]
      rfl
    · intro declared
      exact (Store.has_enqueue ..).trans declared
  | dequeue name => exact apart (group.store.queue?_perform_of_ne _ (other undisturbed)) rfl
  | putBack name messages =>
    exact apart (group.store.queue?_perform_of_ne _ (other undisturbed)) rfl

end ChannelGroup

end MessageBroker
