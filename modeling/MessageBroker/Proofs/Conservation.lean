import MessageBroker.Proofs.Group
import MessageBroker.Proofs.Store

/-!
# Conservation of messages

A ledger records what a run does to messages, each under the name of the queue it belongs to: the
messages a queue took in, those settled (acknowledged outside a transaction, acknowledged and
committed, or handed out as acknowledged) and those discarded (purged, deleted with their queue, or
returned to a queue that is gone). Every event keeps the account balanced (`balance_perform`), so
that after any run from an empty store the messages a queue took in are those waiting in it, those
held by channels, those settled and those discarded, each as often (`enqueued_eq_accounted`).
-/

set_option autoImplicit false

namespace MessageBroker

variable {M : Type}

/-- The message of a delivery under the name of its queue. -/
def Delivery.origin (delivery : Delivery M) : QueueName × M := (delivery.queue, delivery.message)

/-- What happened to messages. -/
structure Ledger (M : Type) where
  enqueued : List (QueueName × M) := []
  settled : List (QueueName × M) := []
  discarded : List (QueueName × M) := []

/-- Of messages under the names of queues those of one queue, in order. -/
def messagesOn (queue : QueueName) (named : List (QueueName × M)) : List M :=
  (named.filter (·.1 = queue)).map (·.2)

/-- One ledger after another. -/
def Ledger.append (first second : Ledger M) : Ledger M where
  enqueued := first.enqueued ++ second.enqueued
  settled := first.settled ++ second.settled
  discarded := first.discarded ++ second.discarded

namespace Store

/-- What waits in a queue, head first; nothing in a missing queue. -/
def contents (store : Store M) (queue : QueueName) : List (Queued M) :=
  (store.queue? queue).getD []

/-- The messages waiting in a queue, head first; none in a missing queue. -/
def messages (store : Store M) (queue : QueueName) : List M :=
  ((store.queue? queue).getD []).map (·.message)

/-- The messages of a batch that the store answers to have queued. -/
def accepted (store : Store M) : List (M × QueueName) → List (QueueName × M)
  | [] => []
  | (message, target) :: rest =>
    match store.enqueue target message with
    | (.queued, store) => (target, message) :: store.accepted rest
    | (.dropped, store) => store.accepted rest

end Store

namespace Channel

/-- The messages a channel has taken and not settled, pending or not. -/
def held (channel : Channel M) : List (QueueName × M) :=
  channel.unacked.entries.map (·.delivery.origin)

/-- The record of a request answered on a store. -/
def record (before : Channel M) (store : Store M) (request : Request M) (reply : Reply M)
    (after : Channel M) : Ledger M :=
  let departed := before.unacked.departed after.unacked
  match request, reply with
  | .publish message target, .done =>
    { enqueued := if before.mode = .immediate then store.accepted [(message, target)] else [] }
  | .commit, .committed _ =>
    { enqueued := store.accepted before.buffer.publishes
      settled := departed.map Delivery.origin }
  | .ack _ _, .done => { settled := departed.map Delivery.origin }
  | .recover _, .recovered _ | .close, .closed _ =>
    { discarded := (departed.filter fun delivery => !store.has delivery.queue).map Delivery.origin }
  | request, .delivered (some delivery) =>
    { settled := if (before.pull? request).any (·.noAck) then [delivery.origin] else [] }
  | _, _ => {}

end Channel

namespace ChannelGroup

/-- The messages held by the channels of a group. -/
def held (group : ChannelGroup M) : List (QueueName × M) := group.channels.flatMap Channel.held

/-- The record of a request to a channel of the group. -/
def recordAt (group : ChannelGroup M) (channel : Channel M) (request : Request M) : Ledger M :=
  channel.record group.store request (channel.serve group.store request).1
    (channel.serve group.store request).2.1

/-- The record of one event. -/
def record (group : ChannelGroup M) : Event M → Ledger M
  | .queue (.enqueue queue message) => { enqueued := group.store.accepted [(message, queue)] }
  | .queue (.delete queue) => { discarded := (group.store.messages queue).map (queue, ·) }
  | .queue (.purge queue) => { discarded := (group.store.messages queue).map (queue, ·) }
  | .queue _ => {}
  | .opening _ => {}
  | .request place request => (group.channels[place]?.map (group.recordAt · request)).getD {}
  | .drop place => (group.channels[place]?.map (group.recordAt · .close)).getD {}

/-- The ledger of a run. -/
def ledger (group : ChannelGroup M) : List (Event M) → Ledger M
  | [] => {}
  | event :: rest => (group.record event).append ((group.perform event).2.ledger rest)

end ChannelGroup

/-- True of the events that take a message from a queue or put one at its head by hand, not through
a channel. -/
def Event.isByHand : Event M → Bool
  | .queue (.dequeue _) | .queue (.putBack _ _) => true
  | _ => false

/-! ## Counting messages -/

namespace Store

theorem messages_of_queue? {store : Store M} {queue : QueueName} {contents : List (Queued M)}
    (found : store.queue? queue = some contents) :
    store.messages queue = contents.map (·.message) := by
  rw [messages, found, Option.getD_some]

theorem messages_set (store : Store M) (queue name : QueueName) (contents : List (Queued M)) :
    (store.set queue (some contents)).messages name =
      if name = queue then contents.map (·.message) else store.messages name := by
  rw [messages, queue?_set]
  split
  · rfl
  · rfl

/-- A single message is a batch of one. -/
theorem enqueue_eq_enqueueAll (store : Store M) (queue : QueueName) (message : M) :
    (store.enqueue queue message).2 = (store.enqueueAll [(message, queue)]).2 := by
  rw [enqueueAll_cons]
  rfl

end Store

namespace Channel

/-! ## Records of requests -/

theorem record_of_failed (before : Channel M) (store : Store M) (request : Request M)
    (error : BrokerError) (after : Channel M) :
    before.record store request (.failed error) after = {} := by
  cases request <;> rfl

/-- A delivery is settled at once when it was asked for so. -/
theorem record_of_delivered {before : Channel M} {request : Request M} {claim : Pull}
    (claims : before.pull? request = some claim) (store : Store M) (delivery : Delivery M)
    (after : Channel M) :
    before.record store request (.delivered (some delivery)) after =
      { settled := if claim.noAck then [delivery.origin] else [] } := by
  cases request with
  | get queue noAck => simp [record, claims]
  | next tag => simp [record, claims]
  | _ => cases claims

theorem record_of_foundEmpty {before : Channel M} {request : Request M} {claim : Pull}
    (claims : before.pull? request = some claim) (store : Store M) (after : Channel M) :
    before.record store request (.delivered none) after = {} := by
  cases request with
  | get queue noAck => rfl
  | next tag => rfl
  | _ => cases claims

/-- Entries that change but keep their deliveries' messages are held as before. -/
theorem held_of_map {channel after : Channel M} {change : UnackedDelivery M → UnackedDelivery M}
    (changed : after.unacked.entries = channel.unacked.entries.map change)
    (origin : ∀ entry, (change entry).delivery.origin = entry.delivery.origin) :
    after.held = channel.held := by
  rw [held, held, changed, List.map_map]
  exact List.map_congr_left fun entry _ => origin entry

end Channel

namespace ChannelGroup

theorem ledger_append (group : ChannelGroup M) (first second : List (Event M)) :
    group.ledger (first ++ second) =
      (group.ledger first).append ((group.after first).ledger second) := by
  induction first generalizing group with
  | nil => rfl
  | cons event rest ih =>
    rw [List.cons_append, ledger, ledger, ih]
    simp [Ledger.append]

end ChannelGroup

/-! ## Messages of one queue -/

@[simp] theorem messagesOn_nil (queue : QueueName) :
    messagesOn queue ([] : List (QueueName × M)) = [] := rfl

theorem mem_messagesOn {queue : QueueName} {message : M} {named : List (QueueName × M)} :
    message ∈ messagesOn queue named ↔ (queue, message) ∈ named := by
  simp [messagesOn]

theorem messagesOn_singleton (queue name : QueueName) (message : M) :
    messagesOn queue [(name, message)] = if name = queue then [message] else [] := by
  by_cases same : name = queue
  · simp [messagesOn, same]
  · simp [messagesOn, same]

theorem messagesOn_append (queue : QueueName) (first second : List (QueueName × M)) :
    messagesOn queue (first ++ second) = messagesOn queue first ++ messagesOn queue second := by
  rw [messagesOn, List.filter_append, List.map_append, messagesOn, messagesOn]

theorem messagesOn_origin (queue : QueueName) (deliveries : List (Delivery M)) :
    messagesOn queue (deliveries.map Delivery.origin) = messagesFrom queue deliveries := by
  rw [messagesOn, List.filter_map, List.map_map]
  rfl

/-- Of a batch a queue takes in what is sent to it, if the queue exists. -/
theorem Store.messagesOn_accepted (store : Store M) (publishes : List (M × QueueName))
    (queue : QueueName) :
    messagesOn queue (store.accepted publishes) =
      if store.has queue then messagesTo queue publishes else [] := by
  -- An accepted message changes the store but not which queues there are.
  induction publishes generalizing store with
  | nil => simp [accepted, messagesTo]
  | cons publish rest ih =>
    obtain ⟨message, target⟩ := publish
    have known := store.has_enqueue target queue message
    have fate := store.fate_enqueue target message
    rw [accepted]
    generalize store.enqueue target message = result at known fate ⊢
    obtain ⟨answer, after⟩ := result
    simp only at known fate
    by_cases same : target = queue
    · subst target
      cases present : store.has queue with
      | true =>
        obtain rfl : answer = .queued := by simpa [present] using fate
        have later := ih after
        rw [known, present, if_pos rfl] at later
        simpa [messagesOn, messagesTo] using later
      | false =>
        obtain rfl : answer = .dropped := by simpa [present] using fate
        simp [ih, known, present]
    · have unaffected : messagesTo queue ((message, target) :: rest) = messagesTo queue rest := by
        simp [messagesTo, same]
      rw [unaffected, ← known, ← ih after]
      cases answer with
      | queued => simp [messagesOn, same]
      | dropped => rfl

/-- A batch at the tail adds to a queue what the store accepts, not redelivered. -/
theorem Store.contents_enqueueAll (store : Store M) (publishes : List (M × QueueName))
    (queue : QueueName) :
    (store.enqueueAll publishes).2.contents queue =
      store.contents queue ++ (messagesOn queue (store.accepted publishes)).map (⟨·, false⟩) := by
  rw [messagesOn_accepted, contents, contents, queue?_enqueueAll, has]
  cases store.queue? queue with
  | none => simp
  | some contents => simp

theorem Store.messages_enqueueAll (store : Store M) (publishes : List (M × QueueName))
    (queue : QueueName) :
    (store.enqueueAll publishes).2.messages queue =
      store.messages queue ++ messagesOn queue (store.accepted publishes) := by
  have appended := congrArg (List.map (·.message)) (store.contents_enqueueAll publishes queue)
  rwa [List.map_append, List.map_map, List.map_id''] at appended
  exact fun _ => rfl

/-- Deliveries put back reach the head of their queue if it exists, redelivered. -/
theorem Store.contents_giveBack (store : Store M) (deliveries : List (Delivery M))
    (queue : QueueName) :
    (store.giveBack deliveries).contents queue =
      (if store.has queue then messagesFrom queue deliveries else []).map (⟨·, true⟩) ++
        store.contents queue := by
  rw [contents, contents, queue?_giveBack, has]
  cases store.queue? queue with
  | none => simp
  | some contents => simp

theorem Store.messages_giveBack (store : Store M) (deliveries : List (Delivery M))
    (queue : QueueName) :
    (store.giveBack deliveries).messages queue =
      (if store.has queue then messagesFrom queue deliveries else []) ++ store.messages queue := by
  have returned := congrArg (List.map (·.message)) (store.contents_giveBack deliveries queue)
  rwa [List.map_append, List.map_map, List.map_id''] at returned
  exact fun _ => rfl

/-- A head that is taken and put back is where it was. -/
theorem Store.messages_return {store : Store M} {claimed : QueueName} {head : Queued M}
    {tail : List (Queued M)} (contents : store.queue? claimed = some (head :: tail))
    (queue : QueueName) :
    ((store.set claimed (some tail)).putBack claimed [head.message]).messages queue =
      store.messages queue := by
  rw [messages, queue?_putBack, queue?_set, queue?_set]
  by_cases same : queue = claimed
  · subst queue
    simp [messages_of_queue? contents]
  · simp [same, messages]

section Counting

variable [DecidableEq M]

theorem count_messagesOn (queue : QueueName) (message : M) (named : List (QueueName × M)) :
    (messagesOn queue named).count message = named.count (queue, message) := by
  induction named with
  | nil => rfl
  | cons first rest ih =>
    obtain ⟨name, other⟩ := first
    rw [messagesOn] at ih ⊢
    by_cases same : name = queue
    · simp [same, List.count_cons, ih]
    · simp [same, ih]

theorem count_messagesFrom (queue : QueueName) (message : M) (deliveries : List (Delivery M)) :
    (messagesFrom queue deliveries).count message =
      (deliveries.map Delivery.origin).count (queue, message) := by
  rw [← messagesOn_origin, count_messagesOn]

namespace Store

theorem count_messages_enqueueAll (store : Store M) (publishes : List (M × QueueName))
    (queue : QueueName) (message : M) :
    ((store.enqueueAll publishes).2.messages queue).count message =
      (store.messages queue).count message +
        (store.accepted publishes).count (queue, message) := by
  rw [messages_enqueueAll, List.count_append, count_messagesOn]

/-- Deliveries put back reach their queue if it exists. -/
theorem count_messages_giveBack (store : Store M) (deliveries : List (Delivery M))
    (queue : QueueName) (message : M) :
    ((store.giveBack deliveries).messages queue).count message +
        ((deliveries.filter fun delivery => !store.has delivery.queue).map Delivery.origin).count
          (queue, message) =
      (store.messages queue).count message +
        (deliveries.map Delivery.origin).count (queue, message) := by
  have lost : ((deliveries.filter fun delivery => !store.has delivery.queue).map
      Delivery.origin).count (queue, message) =
        if store.has queue then 0 else (deliveries.map Delivery.origin).count (queue, message) := by
    rw [← count_messagesFrom, ← count_messagesFrom, messagesFrom, messagesFrom, List.filter_filter]
    split
    · rename_i present
      rw [List.filter_eq_nil_iff.mpr]
      · rfl
      · intro delivery _ both
        simp only [Bool.and_eq_true, decide_eq_true_eq, Bool.not_eq_true'] at both
        rw [both.1, present] at both
        cases both.2
    · rename_i missing
      congr 2
      apply List.filter_congr
      intro delivery _
      by_cases same : delivery.queue = queue
      · simpa [same] using missing
      · simp [same]
  -- Either the queue exists and takes all of them, or it is missing and all of them are lost.
  rw [lost, messages_giveBack, ← count_messagesFrom, List.count_append]
  split
  · omega
  · simp

end Store

/-! ## One request -/

namespace Channel

/-- Entries that leave the table are no longer held. -/
theorem count_held_keep (channel : Channel M) (test : UnackedDelivery M → Bool)
    (origin : QueueName × M) :
    ((channel.unacked.keep test).entries.map (·.delivery.origin)).count origin +
        ((channel.unacked.departed (channel.unacked.keep test)).map Delivery.origin).count origin =
      channel.held.count origin := by
  rw [UnackedTable.departed_keep, UnackedTable.entries_keep, held, List.map_map]
  induction channel.unacked.entries with
  | nil => rfl
  | cons entry rest ih =>
    cases passed : test entry with
    | true =>
      simp only [List.filter_cons, passed, if_true, Bool.not_true, Bool.false_eq_true, if_false,
        List.map_cons, List.count_cons] at ih ⊢
      omega
    | false =>
      simp only [List.filter_cons, passed, Bool.not_false, if_true, Bool.false_eq_true, if_false,
        List.map_cons, List.count_cons, Function.comp_apply] at ih ⊢
      omega

/-- A delivery that enters the table is held. -/
theorem count_held_enter {table after : UnackedTable M} {delivery : Delivery M}
    (entered : table.enter delivery = .ok after) (origin : QueueName × M) :
    (after.entries.map (·.delivery.origin)).count origin =
      (table.entries.map (·.delivery.origin)).count origin + [delivery.origin].count origin := by
  rw [(UnackedTable.enter_eq_ok_iff.mp entered).2]
  induction table.entries with
  | nil => simp [UnackedTable.insertEntry]
  | cons first rest ih =>
    rw [UnackedTable.insertEntry]
    split
    · simp only [List.map_cons, List.count_cons, List.count_nil]
      omega
    · simp only [List.map_cons, List.count_cons] at ih ⊢
      omega

/-- Taking the head of a queue. -/
theorem count_messages_take {store : Store M} {claimed : QueueName} {head : Queued M}
    {tail : List (Queued M)} (contents : store.queue? claimed = some (head :: tail))
    (queue : QueueName) (message : M) :
    (store.messages queue).count message =
      ((store.set claimed (some tail)).messages queue).count message +
        [(claimed, head.message)].count (queue, message) := by
  rw [Store.messages_set]
  by_cases same : queue = claimed
  · subst queue
    rw [if_pos rfl, Store.messages_of_queue? contents]
    simp [List.count_cons]
  · have other : ¬ claimed = queue := fun h => same h.symm
    rw [if_neg same]
    simp [other]

variable {channel after : Channel M} {store later : Store M} {request : Request M}
  {reply : Reply M}

/-- A request that returns deliveries leaves the queues and the table with the same messages, less
those whose queue is gone. -/
theorem balance_giveBack (channel : Channel M) (store : Store M)
    (test : UnackedDelivery M → Bool) {departed : List (Delivery M)}
    (gone : channel.unacked.departed (channel.unacked.keep test) = departed) (queue : QueueName)
    (message : M) :
    (store.messages queue).count message + channel.held.count (queue, message) =
      ((store.giveBack departed).messages queue).count message +
        ((channel.unacked.keep test).entries.map (·.delivery.origin)).count (queue, message) +
          ((departed.filter fun delivery => !store.has delivery.queue).map Delivery.origin).count
            (queue, message) := by
  have returned := store.count_messages_giveBack departed queue message
  have kept := channel.count_held_keep test (queue, message)
  rw [gone] at kept
  omega

/-- **A request keeps the account balanced**: what a queue takes in is found in the queue, in the
table, among the settled or among the discarded. -/
theorem Step.balance (step : Step channel store request reply after later) (queue : QueueName)
    (message : M) :
    (store.messages queue).count message + channel.held.count (queue, message) +
        (channel.record store request reply after).enqueued.count (queue, message) =
      (later.messages queue).count message + after.held.count (queue, message) +
        (channel.record store request reply after).settled.count (queue, message) +
          (channel.record store request reply after).discarded.count (queue, message) := by
  cases step with
  | refused =>
    -- The record of a refusal is empty whatever was asked.
    rw [record_of_failed]
    rfl
  | selected => rfl
  | @published sent target immediate =>
    have appended := store.count_messages_enqueueAll [(sent, target)] queue message
    rw [← Store.enqueue_eq_enqueueAll] at appended
    simp only [record, immediate, if_true, List.count_nil, Nat.add_zero]
    omega
  | deferredPublish transactional => simp [record, transactional, held]
  | foundEmpty _ claims =>
    rw [record_of_foundEmpty claims]
    rfl
  | @consumed _ claim head _ _ claims contents _ noAck =>
    have taken := count_messages_take contents queue message
    rw [record_of_delivered claims, noAck]
    simp only [if_true, List.count_nil, Nat.add_zero, nextDelivery, Delivery.origin, held]
      at taken ⊢
    omega
  | @handedOut _ claim head _ unacked _ claims contents _ noAck entered =>
    have taken := count_messages_take contents queue message
    have entry := count_held_enter entered (queue, message)
    rw [record_of_delivered claims, noAck]
    simp only [Bool.false_eq_true, if_false, List.count_nil, Nat.add_zero, nextDelivery,
      Delivery.origin, held] at taken entry ⊢
    omega
  | exhausted _ _ contents =>
    rw [record_of_failed, Store.messages_return contents]
    rfl
  | duplicated _ _ contents =>
    rw [record_of_failed, Store.messages_return contents]
    rfl
  | registered => rfl
  | cancelled => rfl
  | @acked tag multiple =>
    have kept := channel.count_held_keep (fun entry => !covers tag multiple entry.tag)
      (queue, message)
    simp only [record, List.count_nil, Nat.add_zero, held] at kept ⊢
    omega
  | @deferredAck tag multiple =>
    -- Flagged entries stay in the table, so nothing is settled before the commit.
    have still : ({ channel with
        unacked := channel.unacked.postponed tag multiple
        buffer := channel.buffer.deferAck tag multiple } : Channel M).held = channel.held :=
      held_of_map rfl fun entry => by simp
    rw [still]
    simp [record, UnackedTable.postponed, UnackedTable.departed_adjust]
  | committed =>
    have appended := store.count_messages_enqueueAll channel.buffer.publishes queue message
    have kept := channel.count_held_keep (fun entry => !entry.confirmedBy channel.buffer.acks)
      (queue, message)
    simp only [record, List.count_nil, Nat.add_zero, held] at kept ⊢
    omega
  | rolledBack =>
    have still : ({ channel with
        buffer := .empty, unacked := channel.unacked.release.2 } : Channel M).held = channel.held :=
      held_of_map rfl fun _ => rfl
    rw [still]
    rfl
  | returned =>
    have gone : channel.unacked.departed (channel.unacked.keep (·.ackPending)) =
        channel.outstanding := channel.unacked.departed_keep _
    have balance := channel.balance_giveBack store _ gone queue message
    simp only [record, gone, List.count_nil, Nat.add_zero, held] at balance ⊢
    exact balance
  | redelivered =>
    have still : ({ channel with unacked := channel.unacked.handOutAgain.2 } : Channel M).held =
        channel.held :=
      held_of_map rfl fun entry => by
        unfold UnackedDelivery.handOutAgain
        split <;> rfl
    rw [still]
    simp [record, UnackedTable.handOutAgain, UnackedTable.departed_adjust]
  | closed =>
    -- Emptying the table is keeping no entry, which makes a close one more return.
    have gone := channel.unacked.departed_empty
    have as_keep := gone
    rw [UnackedTable.empty_eq_keep channel.unacked] at as_keep
    have balance := channel.balance_giveBack store _ as_keep queue message
    rw [← UnackedTable.empty_eq_keep] at balance
    simp only [record, gone, List.count_nil, Nat.add_zero, held] at balance ⊢
    exact balance
  | closedAgain => simp [record, UnackedTable.departed_self]

end Channel

/-! ## Runs -/

namespace ChannelGroup

theorem count_flatMap_set {α β : Type} [BEq β] (f : α → List β) {list : List α} {place : Nat}
    {old : α} (found : list[place]? = some old) (new : α) (item : β) :
    ((list.set place new).flatMap f).count item + (f old).count item =
      (list.flatMap f).count item + (f new).count item := by
  induction list generalizing place with
  | nil => cases found
  | cons first rest ih =>
    cases place with
    | zero =>
      obtain rfl : first = old := by simpa using found
      simp only [List.set_cons_zero, List.flatMap_cons, List.count_append]
      omega
    | succ place =>
      have later := ih (by simpa using found)
      simp only [List.set_cons_succ, List.flatMap_cons, List.count_append]
      omega

theorem balance_serveAt (group : ChannelGroup M) {place : Nat} {channel : Channel M}
    (found : group.channels[place]? = some channel) (request : Request M) (queue : QueueName)
    (message : M) :
    (group.store.messages queue).count message + group.held.count (queue, message) +
        (group.recordAt channel request).enqueued.count (queue, message) =
      ((group.serveAt place channel request).2.store.messages queue).count message +
        (group.serveAt place channel request).2.held.count (queue, message) +
          (group.recordAt channel request).settled.count (queue, message) +
            (group.recordAt channel request).discarded.count (queue, message) := by
  -- The other channels hold what they held before.
  have step := (channel.step_serve group.store request).balance queue message
  have others := count_flatMap_set Channel.held found (channel.serve group.store request).2.1
    (queue, message)
  rw [store_serveAt, held, held, channels_serveAt, recordAt]
  omega

/-- Of what a deleted or purged queue held, nothing is left in it. -/
theorem count_messages_emptied {store later : Store M} {emptied : QueueName}
    (gone : later.messages emptied = [])
    (others : ∀ name, name ≠ emptied → later.queue? name = store.queue? name) (queue : QueueName)
    (message : M) :
    (store.messages queue).count message =
      (later.messages queue).count message +
        ((store.messages emptied).map (emptied, ·)).count (queue, message) := by
  by_cases same : queue = emptied
  · subst queue
    rw [gone, List.count_nil, Nat.zero_add]
    induction store.messages emptied with
    | nil => rfl
    | cons first rest ih => simp [List.count_cons, ih]
  · have absent : ((store.messages emptied).map (emptied, ·)).count (queue, message) = 0 := by
      rw [List.count_eq_zero, List.mem_map]
      rintro ⟨_, _, equal⟩
      exact same (congrArg Prod.fst equal).symm
    rw [absent, Store.messages, Store.messages, others queue same, Nat.add_zero]

theorem balance_perform (group : ChannelGroup M) {event : Event M}
    (regular : event.isByHand = false) (queue : QueueName) (message : M) :
    (group.store.messages queue).count message + group.held.count (queue, message) +
        (group.record event).enqueued.count (queue, message) =
      ((group.perform event).2.store.messages queue).count message +
        (group.perform event).2.held.count (queue, message) +
          (group.record event).settled.count (queue, message) +
            (group.record event).discarded.count (queue, message) := by
  cases event with
  | queue request =>
    cases request with
    | declare name =>
      have same : (group.store.declare name).2.messages queue = group.store.messages queue := by
        rw [Store.messages, Store.messages, Store.queue?_declare]
        by_cases at_name : queue = name
        · subst queue
          simp
        · simp [at_name]
      simp [perform, Store.perform, record, same, held]
    | delete name =>
      have gone : (group.store.delete name).2.messages name = [] := by
        simp [Store.messages, Store.queue?_delete]
      have others : ∀ other, other ≠ name →
          (group.store.delete name).2.queue? other = group.store.queue? other :=
        fun other different => by simp [Store.queue?_delete, different]
      have emptied := count_messages_emptied gone others queue message
      simp only [perform, Store.perform, record, held, List.count_nil, Nat.add_zero]
      omega
    | purge name =>
      have gone : (group.store.purge name).2.messages name = [] := by
        cases found : group.store.queue? name <;>
          simp [Store.messages, Store.queue?_purge, found]
      have others : ∀ other, other ≠ name →
          (group.store.purge name).2.queue? other = group.store.queue? other :=
        fun other different => by simp [Store.queue?_purge, different]
      have emptied := count_messages_emptied gone others queue message
      simp only [perform, Store.perform, record, held, List.count_nil, Nat.add_zero]
      omega
    | count name => simp [perform, Store.perform, record, held]
    | has name => simp [perform, Store.perform, record, held]
    | enqueue name sent =>
      have appended := group.store.count_messages_enqueueAll [(sent, name)] queue message
      rw [← Store.enqueue_eq_enqueueAll] at appended
      simp only [perform, Store.perform, record, held, List.count_nil, Nat.add_zero]
      omega
    | dequeue name => cases regular
    | putBack name messages => cases regular
  | opening id =>
    have fresh : (Channel.new id : Channel M).held = [] := rfl
    simp [perform, record, held, fresh]
  | request place request =>
    simp only [perform, record]
    cases found : group.channels[place]? with
    | none => rfl
    | some channel => exact group.balance_serveAt found request queue message
  | drop place =>
    simp only [perform, record]
    cases found : group.channels[place]? with
    | none => rfl
    | some channel => exact group.balance_serveAt found .close queue message

/-- A run keeps the account balanced. -/
theorem balance_after (group : ChannelGroup M) {events : List (Event M)}
    (regular : ∀ event ∈ events, event.isByHand = false) (queue : QueueName) (message : M) :
    (group.store.messages queue).count message + group.held.count (queue, message) +
        (group.ledger events).enqueued.count (queue, message) =
      ((group.after events).store.messages queue).count message +
        (group.after events).held.count (queue, message) +
          (group.ledger events).settled.count (queue, message) +
            (group.ledger events).discarded.count (queue, message) := by
  induction events generalizing group with
  | nil => rfl
  | cons event rest ih =>
    -- What the first event leaves in the group is what the rest of the run starts from.
    have first := group.balance_perform (regular event List.mem_cons_self) queue message
    have later := ih (group.perform event).2 fun other member =>
      regular other (List.mem_cons_of_mem _ member)
    simp only [ledger, Ledger.append, List.count_append, after_cons]
    omega

/-- **No message is lost or duplicated.** After any run from an empty store a queue has taken in
each message as often as it waits there, is held by channels, was settled and was discarded. What
was settled or discarded stays so however the run goes on: what waits or is held later has been
taken in beside it, on the same queue. -/
theorem enqueued_eq_accounted {events more : List (Event M)}
    (regular : ∀ event ∈ events ++ more, event.isByHand = false) (queue : QueueName)
    (message : M) :
    let start : ChannelGroup M := {}
    let now := start.after events
    let later := start.after (events ++ more)
    (start.ledger events).enqueued.count (queue, message) =
        (now.store.messages queue).count message + now.held.count (queue, message) +
          (start.ledger events).settled.count (queue, message) +
            (start.ledger events).discarded.count (queue, message) ∧
      (later.store.messages queue).count message + later.held.count (queue, message) +
          (start.ledger events).settled.count (queue, message) +
            (start.ledger events).discarded.count (queue, message) ≤
        (start.ledger (events ++ more)).enqueued.count (queue, message) := by
  intro start now later
  have nothing : (start.store.messages queue).count message + start.held.count (queue, message) =
      0 := rfl
  have balance_now := start.balance_after
    (fun event member => regular event (List.mem_append_left _ member)) queue message
  have balance_later := start.balance_after regular queue message
  -- The later ledger begins with the earlier one, whose entries therefore stay on the account.
  rw [start.ledger_append events more] at balance_later ⊢
  simp only [Ledger.append, List.count_append, now, later] at balance_later ⊢
  refine ⟨?_, ?_⟩
  · omega
  · omega

end ChannelGroup

end Counting

/-- One message taken in three times by the same queue: settled by a commit, lost with the queue
when its channel closes, and held by another channel. -/
theorem ChannelGroup.enqueued_eq_accounted_of_two_channels :
    let start : ChannelGroup Nat := {}
    let events : List (Event Nat) :=
      [.queue (.declare "q"), .opening "A", .opening "B", .queue (.enqueue "q" 7),
        .request 0 (.publish 7 "q"), .request 0 (.get "q" false), .request 0 .select,
        .request 0 (.publish 7 "q"), .request 0 (.ack 1 false), .request 0 .commit,
        .request 0 (.get "q" false), .request 1 (.get "q" false), .queue (.delete "q"), .drop 0]
    let more : List (Event Nat) := [.queue (.declare "q"), .drop 1]
    let now := start.after events
    let later := start.after (events ++ more)
    (∀ event ∈ events ++ more, event.isByHand = false) ∧
      (start.ledger events).enqueued.count ("q", 7) = 3 ∧
      (start.ledger events).settled.count ("q", 7) = 1 ∧
      (start.ledger events).discarded.count ("q", 7) = 1 ∧
      (start.ledger events).enqueued.count ("q", 7) =
          (now.store.messages "q").count 7 + now.held.count ("q", 7) +
            (start.ledger events).settled.count ("q", 7) +
              (start.ledger events).discarded.count ("q", 7) ∧
        (later.store.messages "q").count 7 + later.held.count ("q", 7) +
            (start.ledger events).settled.count ("q", 7) +
              (start.ledger events).discarded.count ("q", 7) ≤
          (start.ledger (events ++ more)).enqueued.count ("q", 7) := by
  intro start events more now later
  have regular : ∀ event ∈ events ++ more, event.isByHand = false := by decide
  exact ⟨regular, by decide, by decide, by decide, ChannelGroup.enqueued_eq_accounted regular "q" 7⟩

end MessageBroker
