import MessageBroker.Proofs.Numbering
import MessageBroker.Proofs.Traffic

/-!
# The truth of the redelivered flag

A queue flags what is put back into it and nothing else, so the flag of a message is true as long
as only channels put messages back, and only those they have handed out. `ChannelGroup.Truthful`
says so of a group and of the messages handed out so far, and every event keeps it
(`ChannelGroup.Truthful.perform`). A delivery bears the flag of the message it takes, and the flag
of an entry in a table is that of the delivery or comes from a recovery
(`ChannelGroup.redelivered_iff_handedOut`). Messages are told apart by a key, and no key may enter
twice: a copy of a message that has been handed out waits unflagged.
-/

set_option autoImplicit false

namespace MessageBroker

variable {M : Type}

/-- The message that enters the broker by an event with this answer: a publish that is not refused,
now or at a commit, or what the store is given and has a queue for. -/
def entered? : Event M × Answer M → Option M
  | (.request _ (.publish message _), .replied .done) => some message
  | (.queue (.enqueue _ message), .routed .queued) => some message
  | _ => none

/-- The messages a channel holds back until a commit. -/
def Channel.deferred (channel : Channel M) : List M := channel.buffer.publishes.map (·.1)

namespace ChannelGroup

/-- The messages that enter in a run, oldest first. -/
def entered (group : ChannelGroup M) (events : List (Event M)) : List M :=
  (group.history events).filterMap entered?

/-- The messages that channels hold back until a commit. -/
def deferred (group : ChannelGroup M) : List M := group.channels.flatMap Channel.deferred

/-- The deliveries of all channels in a run, oldest first. -/
def handedOut (group : ChannelGroup M) (events : List (Event M)) : List (Delivery M) :=
  (group.history events).filterMap (·.2.delivery?)

theorem entered_cons (group : ChannelGroup M) (event : Event M) (rest : List (Event M)) :
    group.entered (event :: rest) =
      (entered? (event, (group.perform event).1)).toList ++
        (group.perform event).2.entered rest := by
  rw [entered, history_cons, List.filterMap_cons]
  cases entered? (event, (group.perform event).1) <;> rfl

theorem handedOut_append (group : ChannelGroup M) (first second : List (Event M)) :
    group.handedOut (first ++ second) =
      group.handedOut first ++ (group.after first).handedOut second := by
  rw [handedOut, history_append, List.filterMap_append]
  rfl

theorem handedOut_singleton (group : ChannelGroup M) (event : Event M) :
    group.handedOut [event] = (group.perform event).1.delivery?.toList := by
  rw [handedOut, history_cons, history_nil, List.filterMap_cons]
  cases (group.perform event).1.delivery? <;> rfl

end ChannelGroup

/-! ## Messages that enter -/

/-- Of a batch the store takes in some, in their order. -/
theorem Store.accepted_sublist (store : Store M) (publishes : List (M × QueueName)) :
    ((store.accepted publishes).map (·.2)).Sublist (publishes.map (·.1)) := by
  induction publishes generalizing store with
  | nil => exact .slnil
  | cons publish rest ih =>
    obtain ⟨message, target⟩ := publish
    rw [accepted]
    split
    · exact (ih _).cons_cons message
    · exact (ih _).cons message

namespace Store

/-- What waits after a batch at the tail waited before or has been taken in, not redelivered. -/
theorem mem_contents_enqueueAll (store : Store M) {publishes : List (M × QueueName)}
    {queue : QueueName} {item : Queued M}
    (member : item ∈ (store.enqueueAll publishes).2.contents queue) :
    item ∈ store.contents queue ∨
      item.redelivered = false ∧ (queue, item.message) ∈ store.accepted publishes := by
  rw [contents_enqueueAll] at member
  refine (List.mem_append.mp member).imp_right fun new => ?_
  obtain ⟨message, sent, rfl⟩ := List.mem_map.mp new
  exact ⟨rfl, mem_messagesOn.mp sent⟩

/-- What waits after a return waited before or is one of the deliveries, redelivered. -/
theorem mem_contents_giveBack (store : Store M) {deliveries : List (Delivery M)}
    {queue : QueueName} {item : Queued M}
    (member : item ∈ (store.giveBack deliveries).contents queue) :
    item ∈ store.contents queue ∨
      item.redelivered = true ∧ ∃ delivery ∈ deliveries, delivery.message = item.message := by
  rw [contents_giveBack] at member
  refine (List.mem_append.mp member).symm.imp_right fun back => ?_
  obtain ⟨message, returned, rfl⟩ := List.mem_map.mp back
  split at returned
  · obtain ⟨delivery, kept, same⟩ := List.mem_map.mp returned
    exact ⟨rfl, delivery, (List.mem_filter.mp kept).1, same⟩
  · cases returned

theorem mem_contents_of_take {store : Store M} {claimed queue : QueueName} {head : Queued M}
    {tail : List (Queued M)} (found : store.queue? claimed = some (head :: tail))
    {item : Queued M} (member : item ∈ (store.set claimed (some tail)).contents queue) :
    item ∈ store.contents queue := by
  rw [contents, queue?_set] at member
  split at member
  · rename_i same
    rw [contents, same, found]
    exact List.mem_cons_of_mem _ member
  · exact member

end Store

section Counting

variable [DecidableEq M]

/-- What a request puts into queues or holds back was held back before or has just entered. -/
theorem Channel.Step.count_entered {channel after : Channel M} {store later : Store M}
    {request : Request M} {reply : Reply M} (step : Step channel store request reply after later)
    (place : Nat) (message : M) :
    ((channel.record store request reply after).enqueued.map (·.2)).count message +
        after.deferred.count message ≤
      channel.deferred.count message +
        (entered? (.request place request, .replied reply)).toList.count message := by
  -- Most requests put nothing into queues and hold back no more than before.
  have quiet : ∀ {ledger : Ledger M} {changed : Channel M} {n : Nat}, ledger.enqueued = [] →
      changed.deferred.Sublist channel.deferred →
      (ledger.enqueued.map (·.2)).count message + changed.deferred.count message ≤
        channel.deferred.count message + n := by
    intro ledger changed n nothing kept
    have fewer := kept.count_le message
    rw [nothing, List.map_nil, List.count_nil]
    omega
  cases step with
  | refused => exact quiet (by rw [record_of_failed]) (.refl _)
  | @published sent target immediate =>
    have taken_in := (store.accepted_sublist [(sent, target)]).count_le message
    rw [record, if_pos immediate, Nat.add_comm]
    exact Nat.add_le_add_left taken_in _
  | @deferredPublish sent target transactional =>
    have later_on : channel.mode ≠ .immediate := by
      rw [transactional]
      decide
    rw [record, if_neg later_on, deferred, TransactionBuffer.publishes_deferPublish,
      List.map_append, List.count_append, deferred]
    exact Nat.le_of_eq (Nat.zero_add _)
  | foundEmpty _ claims => exact quiet (by rw [record_of_foundEmpty claims]) (.refl _)
  | consumed _ claims => exact quiet (by rw [record_of_delivered claims]) (.refl _)
  | handedOut _ claims => exact quiet (by rw [record_of_delivered claims]) (.refl _)
  | exhausted => exact quiet (by rw [record_of_failed]) (.refl _)
  | duplicated => exact quiet (by rw [record_of_failed]) (.refl _)
  | deferredAck =>
    refine quiet rfl ?_
    rw [deferred, TransactionBuffer.publishes_deferAck]
    exact .refl _
  | committed =>
    have taken_in := (store.accepted_sublist channel.buffer.publishes).count_le message
    exact Nat.add_le_add_right taken_in _
  | rolledBack => exact quiet rfl (List.nil_sublist _)
  | closed => exact quiet rfl (List.nil_sublist _)
  | _ => exact quiet rfl (.refl _)

end Counting

/-! ## One request -/

namespace Channel

variable {channel after : Channel M} {store later : Store M} {request : Request M}
  {reply : Reply M}

/-- A delivery bears the message and the flag of the head it takes. -/
theorem Step.taken (step : Step channel store request reply after later) {delivery : Delivery M}
    (delivered : reply.delivery? = some delivery) :
    ∃ tail, store.queue? delivery.queue =
        some (⟨delivery.message, delivery.redelivered⟩ :: tail) ∧
      later = store.set delivery.queue (some tail) := by
  cases step with
  | consumed _ _ contents =>
    cases delivered
    exact ⟨_, contents, rfl⟩
  | handedOut _ _ contents =>
    cases delivered
    exact ⟨_, contents, rfl⟩
  | _ => cases delivered

/-- **What waits in a queue after a request** waited there before, is flagged and comes from the
table, or is not flagged and has been taken in just now, provided the channel had a tag left. -/
theorem Step.waiting_cases (step : Step channel store request reply after later)
    (coherent : channel.Coherent) (numbered : reply ≠ .failed .tagsExhausted)
    {queue : QueueName} {item : Queued M} (member : item ∈ later.contents queue) :
    item ∈ store.contents queue ∨
      (item.redelivered = true ∧
        ∃ entry ∈ channel.unacked.entries, entry.delivery.message = item.message) ∨
      (item.redelivered = false ∧
        (queue, item.message) ∈ (channel.record store request reply after).enqueued) := by
  cases step with
  | @published sent target immediate =>
    rw [Store.enqueue_eq_enqueueAll] at member
    rw [record, if_pos immediate]
    exact (store.mem_contents_enqueueAll member).imp_right .inr
  | consumed _ _ contents =>
    exact .inl (Store.mem_contents_of_take contents member)
  | handedOut _ _ contents =>
    exact .inl (Store.mem_contents_of_take contents member)
  | exhausted => exact absurd rfl numbered
  | duplicated _ _ _ _ _ outstanding => cases coherent.contains_next.symm.trans outstanding
  | committed => exact (store.mem_contents_enqueueAll member).imp_right .inr
  | returned =>
    refine (store.mem_contents_giveBack member).imp_right fun back => .inl ⟨back.1, ?_⟩
    obtain ⟨delivery, outstanding, same⟩ := back.2
    obtain ⟨entry, kept, rfl⟩ := List.mem_map.mp outstanding
    exact ⟨entry, (List.mem_filter.mp kept).1, same⟩
  | closed =>
    refine (store.mem_contents_giveBack member).imp_right fun back => .inl ⟨back.1, ?_⟩
    obtain ⟨delivery, held, same⟩ := back.2
    obtain ⟨entry, entry_mem, rfl⟩ := List.mem_map.mp held
    exact ⟨entry, entry_mem, same⟩
  | _ => exact .inl member

end Channel

/-- No message waits twice. -/
structure Store.Single (store : Store M) : Prop where
  once : ∀ queue, (store.messages queue).Nodup
  apart : ∀ {first second : QueueName} {message : M}, message ∈ store.messages first →
    message ∈ store.messages second → first = second

/-- A message that is taken leaves no other one like it behind. -/
theorem Store.Single.ne_of_take {store : Store M} (single : store.Single)
    {claimed queue : QueueName} {head : Queued M} {tail : List (Queued M)}
    (found : store.queue? claimed = some (head :: tail)) {item : Queued M}
    (member : item ∈ (store.set claimed (some tail)).contents queue) :
    item.message ≠ head.message := by
  intro same
  have all := Store.messages_of_queue? found
  rw [contents, queue?_set] at member
  split at member
  · have once := single.once claimed
    rw [all, List.map_cons, List.nodup_cons] at once
    exact once.1 (same ▸ List.mem_map_of_mem member)
  · rename_i other
    have here : item.message ∈ store.messages queue := List.mem_map_of_mem member
    have there : head.message ∈ store.messages claimed := by
      rw [all]
      exact List.mem_cons_self
    exact other (single.apart here (same ▸ there))

/-! ## Truthful groups -/

namespace ChannelGroup

/-- In the queues exactly those messages are flagged that have been handed out, and channels hold
only such. -/
structure Truthful (group : ChannelGroup M) (handed : List M) : Prop where
  waiting : ∀ queue, ∀ item ∈ group.store.contents queue,
    (item.redelivered = true ↔ item.message ∈ handed)
  held : ∀ channel ∈ group.channels, ∀ entry ∈ channel.unacked.entries,
    entry.delivery.message ∈ handed

namespace Truthful

variable {group : ChannelGroup M} {handed : List M}

theorem of_silent {answer : Answer M} (silent : answer.delivery? = none)
    (truthful : group.Truthful handed) :
    group.Truthful (handed ++ answer.delivery?.toList.map (·.message)) := by
  rw [silent, Option.toList_none, List.map_nil, List.append_nil]
  exact truthful

theorem serveAt (truthful : group.Truthful handed) {place : Nat} {channel : Channel M}
    (found : group.channels[place]? = some channel) (coherent : channel.Coherent)
    (single : group.store.Single) {request : Request M}
    (numbered : (channel.serve group.store request).1 ≠ .failed .tagsExhausted)
    (fresh : ∀ pair ∈ (group.recordAt channel request).enqueued, pair.2 ∉ handed) :
    (group.serveAt place channel request).2.Truthful
      (handed ++ (channel.serve group.store request).1.delivery?.toList.map (·.message)) := by
  have step := channel.step_serve group.store request
  refine ⟨?waiting, ?held⟩
  case waiting =>
    intro queue item member
    rw [store_serveAt] at member
    cases delivered : (channel.serve group.store request).1.delivery? with
    | none =>
      rw [Option.toList_none, List.map_nil, List.append_nil]
      rcases step.waiting_cases coherent numbered member with
        old | ⟨flagged, entry, held, same⟩ | ⟨unflagged, new⟩
      · exact truthful.waiting queue item old
      · have out := truthful.held channel (List.mem_of_getElem? found) entry held
        exact iff_of_true flagged (same ▸ out)
      · refine iff_of_false ?_ (fresh _ new)
        rw [unflagged]
        exact Bool.false_ne_true
    | some delivery =>
      -- What is left differs from the delivery, so it is flagged as before.
      obtain ⟨tail, contents, later_eq⟩ := step.taken delivered
      rw [later_eq] at member
      have other := single.ne_of_take contents member
      rw [truthful.waiting queue item (Store.mem_contents_of_take contents member),
        Option.toList_some, List.map_singleton, List.mem_append, List.mem_singleton]
      exact ⟨.inl, fun out => out.resolve_right other⟩
  case held =>
    intro changed member entry entry_mem
    rw [channels_serveAt] at member
    rcases List.mem_or_eq_of_mem_set member with old | rfl
    · exact List.mem_append_left _ (truthful.held changed old entry entry_mem)
    · rcases coherent.entry_serve group.store request entry_mem with ⟨first, first_mem, same⟩ | made
      · have out := truthful.held channel (List.mem_of_getElem? found) first first_mem
        rw [same]
        exact List.mem_append_left _ out
      · rw [made]
        exact List.mem_append_right _ (List.mem_singleton_self _)

end Truthful

/-- An operation on the queues that does not reach into them by hand flags nothing. -/
theorem waiting_cases_of_queue (group : ChannelGroup M) {request : QueueRequest M}
    (regular : (Event.queue request).isByHand = false) {queue : QueueName} {item : Queued M}
    (member : item ∈ (group.store.perform request).2.contents queue) :
    item ∈ group.store.contents queue ∨
      (item.redelivered = false ∧
        (queue, item.message) ∈ (group.record (.queue request)).enqueued) := by
  cases request with
  | declare name =>
    rw [Store.perform, Store.contents, Store.queue?_declare] at member
    split at member
    · rename_i same
      exact .inl (same ▸ member)
    · exact .inl member
  | delete name =>
    rw [Store.perform, Store.contents, Store.queue?_delete] at member
    split at member
    · cases member
    · exact .inl member
  | purge name =>
    rw [Store.perform, Store.contents, Store.queue?_purge] at member
    split at member
    · cases found : group.store.queue? name <;> rw [found] at member <;> cases member
    · exact .inl member
  | count => exact .inl member
  | has => exact .inl member
  | enqueue name message =>
    rw [Store.perform, Store.enqueue_eq_enqueueAll] at member
    exact group.store.mem_contents_enqueueAll member
  | dequeue => cases regular
  | putBack => cases regular

theorem delivery?_queue (store : Store M) (request : QueueRequest M) :
    (store.perform request).1.delivery? = none := by
  cases request with
  | dequeue queue =>
    rw [Store.perform]
    split <;> rfl
  | _ => rfl

theorem Truthful.perform {group : ChannelGroup M} {handed : List M}
    (truthful : group.Truthful handed)
    (reachable : ∀ channel ∈ group.channels, channel.Reachable) (single : group.store.Single)
    {event : Event M} (regular : event.isByHand = false)
    (numbered : (group.perform event).1 ≠ .replied (.failed .tagsExhausted))
    (fresh : ∀ pair ∈ (group.record event).enqueued, pair.2 ∉ handed) :
    (group.perform event).2.Truthful
      (handed ++ (group.perform event).1.delivery?.toList.map (·.message)) := by
  cases event with
  | queue request =>
    refine of_silent (delivery?_queue _ _) ⟨fun queue item member => ?_, truthful.held⟩
    rcases group.waiting_cases_of_queue regular member with old | ⟨unflagged, new⟩
    · exact truthful.waiting queue item old
    · refine iff_of_false ?_ (fresh _ new)
      rw [unflagged]
      exact Bool.false_ne_true
  | opening id =>
    refine of_silent rfl ⟨truthful.waiting, fun channel member entry held => ?_⟩
    rcases List.mem_append.mp member with old | new
    · exact truthful.held channel old entry held
    · rw [List.mem_singleton.mp new] at held
      cases held
  | request place request =>
    cases found : group.channels[place]? with
    | none =>
      rw [group.perform_request_of_none found]
      exact of_silent rfl truthful
    | some channel =>
      have coherent := Channel.coherent_of_reachable
        (reachable channel (List.mem_of_getElem? found))
      rw [record, found] at fresh
      rw [group.perform_request_of_some found] at numbered ⊢
      exact truthful.serveAt found coherent single (fun full => numbered (by rw [full])) fresh
  | drop place =>
    cases found : group.channels[place]? with
    | none =>
      rw [group.perform_drop_of_none found]
      exact of_silent rfl truthful
    | some channel =>
      have coherent := Channel.coherent_of_reachable
        (reachable channel (List.mem_of_getElem? found))
      rw [record, found] at fresh
      rw [group.perform_drop_of_some found]
      have closes : (channel.serve group.store .close).1 ≠ .failed .tagsExhausted := by
        have reply : (channel.serve group.store .close).1 =
            .closed (channel.close group.store).1 := rfl
        rw [reply]
        intro full
        cases full
      exact truthful.serveAt found coherent single closes fresh

/-! ## Runs in which no message enters twice -/

section Counting

variable [DecidableEq M]

/-- What an event puts into queues or holds back was held back before or has just entered. -/
theorem count_entered_perform (group : ChannelGroup M) (event : Event M) (message : M) :
    ((group.record event).enqueued.map (·.2)).count message +
        (group.perform event).2.deferred.count message ≤
      group.deferred.count message +
        (entered? (event, (group.perform event).1)).toList.count message := by
  have served : ∀ {place : Nat} {channel : Channel M} (request : Request M),
      group.channels[place]? = some channel →
      ((group.recordAt channel request).enqueued.map (·.2)).count message +
          (group.serveAt place channel request).2.deferred.count message ≤
        group.deferred.count message +
          (entered? (.request place request,
            .replied (channel.serve group.store request).1)).toList.count message := by
    intro place channel request found
    have own := (channel.step_serve group.store request).count_entered place message
    have others := count_flatMap_set Channel.deferred found
      (channel.serve group.store request).2.1 message
    rw [deferred, channels_serveAt, recordAt, deferred]
    omega
  -- Where nothing is put into queues and the channels stay, there is nothing to count.
  have quiet : ∀ {n : Nat},
      0 + group.deferred.count message ≤ group.deferred.count message + n := by
    intro n
    omega
  cases event with
  | queue request =>
    cases request with
    | enqueue name sent =>
      rw [record, Store.accepted, perform, Store.perform, Nat.add_comm]
      cases (group.store.enqueue name sent) with
      | mk fate later =>
        cases fate with
        | queued => exact Nat.le_refl _
        | dropped => exact Nat.le_refl _
    | _ => exact quiet
  | opening id =>
    have none_deferred : (group.perform (.opening id)).2.deferred = group.deferred := by
      rw [perform, deferred, List.flatMap_append, deferred]
      exact List.append_nil _
    rw [none_deferred]
    exact quiet
  | request place request =>
    cases found : group.channels[place]? with
    | none =>
      rw [record, found, group.perform_request_of_none found]
      exact quiet
    | some channel =>
      rw [record, found, group.perform_request_of_some found]
      exact served request found
  | drop place =>
    cases found : group.channels[place]? with
    | none =>
      rw [record, found, group.perform_drop_of_none found]
      exact quiet
    | some channel =>
      rw [record, found, group.perform_drop_of_some found]
      exact served .close found

/-- In a run no more is put into queues than enters, beside what was held back before. -/
theorem count_enqueued_le (group : ChannelGroup M) (events : List (Event M)) (message : M) :
    ((group.ledger events).enqueued.map (·.2)).count message +
        (group.after events).deferred.count message ≤
      group.deferred.count message + (group.entered events).count message := by
  induction events generalizing group with
  | nil => simp [ledger, entered]
  | cons event rest ih =>
    have first := group.count_entered_perform event message
    have later := ih (group.perform event).2
    rw [ledger, Ledger.append, entered_cons, List.map_append, List.count_append,
      List.count_append, after_cons]
    omega

end Counting

/-- The head a delivery was taken from. -/
theorem head_of_delivery? {group : ChannelGroup M} {event : Event M} {delivery : Delivery M}
    (delivered : (group.perform event).1.delivery? = some delivery) :
    ∃ tail, group.store.queue? delivery.queue =
      some (⟨delivery.message, delivery.redelivered⟩ :: tail) := by
  cases event with
  | queue request => cases (delivery?_queue group.store request).symm.trans delivered
  | opening id => cases delivered
  | request place request =>
    cases found : group.channels[place]? with
    | none =>
      rw [group.perform_request_of_none found] at delivered
      cases delivered
    | some channel =>
      rw [group.perform_request_of_some found] at delivered
      obtain ⟨tail, contents, _⟩ := (channel.step_serve group.store request).taken delivered
      exact ⟨tail, contents⟩
  | drop place =>
    cases found : group.channels[place]? with
    | none =>
      rw [group.perform_drop_of_none found] at delivered
      cases delivered
    | some channel =>
      rw [group.perform_drop_of_some found] at delivered
      cases delivered

section FromEmpty

variable {events : List (Event M)} (regular : ∀ event ∈ events, event.isByHand = false)

include regular

/-- What waits has been put into its queue. -/
theorem mem_enqueued_of_mem_messages {queue : QueueName} {message : M}
    (waits : message ∈ (({} : ChannelGroup M).after events).store.messages queue) :
    (queue, message) ∈ (({} : ChannelGroup M).ledger events).enqueued := by
  classical
  have balance := ({} : ChannelGroup M).balance_after regular queue message
  have counted := List.count_pos_iff.mpr waits
  have nothing : (({} : ChannelGroup M).store.messages queue).count message +
      ({} : ChannelGroup M).held.count (queue, message) = 0 := rfl
  refine List.count_pos_iff.mp ?_
  omega

/-- What has been put into queues once only waits once at most. -/
theorem single_after (once : ((({} : ChannelGroup M).ledger events).enqueued.map (·.2)).Nodup) :
    (({} : ChannelGroup M).after events).store.Single := by
  classical
  refine ⟨fun queue => ?_, fun first second => ?_⟩
  · refine List.nodup_iff_count_le_one.mpr fun message => ?_
    have balance := ({} : ChannelGroup M).balance_after regular queue message
    have nothing : (({} : ChannelGroup M).store.messages queue).count message +
        ({} : ChannelGroup M).held.count (queue, message) = 0 := rfl
    have at_most := List.nodup_iff_count_le_one.mp (List.Nodup.of_map _ once) (queue, message)
    omega
  · have same := List.inj_on_of_nodup_map once (mem_enqueued_of_mem_messages regular first)
      (mem_enqueued_of_mem_messages regular second) rfl
    exact congrArg Prod.fst same

theorem origin_mem_enqueued {delivery : Delivery M}
    (out : delivery ∈ ({} : ChannelGroup M).handedOut events) :
    delivery.origin ∈ (({} : ChannelGroup M).ledger events).enqueued := by
  induction events using List.reverseRecOn with
  | nil => cases out
  | append_singleton events last ih =>
    have earlier : ∀ event ∈ events, event.isByHand = false :=
      fun event member => regular event (List.mem_append_left _ member)
    rw [handedOut_append, handedOut_singleton] at out
    rw [ledger_append, Ledger.append]
    refine List.mem_append_left _ ?_
    rcases List.mem_append.mp out with before | now
    · exact ih earlier before
    · obtain ⟨tail, contents⟩ := head_of_delivery? (Option.mem_toList.mp now)
      refine mem_enqueued_of_mem_messages earlier ?_
      rw [Store.messages_of_queue? contents]
      exact List.mem_cons_self

/-- **The flags are true after every run** in which nothing is put into queues twice and no channel
runs out of tags. -/
theorem truthful_after
    (numbered : ∀ entry ∈ ({} : ChannelGroup M).history events,
      entry.2 ≠ .replied (.failed .tagsExhausted))
    (once : ((({} : ChannelGroup M).ledger events).enqueued.map (·.2)).Nodup) :
    (({} : ChannelGroup M).after events).Truthful
      ((({} : ChannelGroup M).handedOut events).map (·.message)) := by
  induction events using List.reverseRecOn with
  | nil => exact ⟨nofun, nofun⟩
  | append_singleton events last ih =>
    have earlier : ∀ event ∈ events, event.isByHand = false :=
      fun event member => regular event (List.mem_append_left _ member)
    rw [history_append] at numbered
    rw [ledger_append, Ledger.append, List.map_append] at once
    obtain ⟨once_before, _, apart⟩ := List.nodup_append.mp once
    have truthful := ih earlier (fun entry member => numbered entry (List.mem_append_left _ member))
      once_before
    have reachable := reachable_after (.empty : Store M) events
    rw [handedOut_append, handedOut_singleton, List.map_append, after_append, after_cons, after_nil]
    refine truthful.perform reachable (single_after earlier once_before)
      (regular last (List.mem_append_right _ (List.mem_singleton_self _))) ?numbered ?fresh
    case numbered =>
      exact numbered (last, _) (List.mem_append_right _ (List.mem_singleton_self _))
    case fresh =>
      -- What has been handed out was put into queues before and does not come again.
      intro pair enters out
      obtain ⟨delivery, delivered, same⟩ := List.mem_map.mp out
      have before := List.mem_map_of_mem (f := (·.2)) (origin_mem_enqueued earlier delivered)
      have now : pair.2 ∈ (((({} : ChannelGroup M).after events).ledger [last]).enqueued).map
          (·.2) := List.mem_map_of_mem (List.mem_append_left _ enters)
      exact apart _ before _ now same

end FromEmpty

section Distinct

variable {K : Type} {key : M → K} {events : List (Event M)}
  (distinct : ((({} : ChannelGroup M).entered events).map key).Nodup)

include distinct

theorem once_of_distinct : ((({} : ChannelGroup M).ledger events).enqueued.map (·.2)).Nodup := by
  classical
  refine List.nodup_iff_count_le_one.mpr fun message => ?_
  have fewer := ({} : ChannelGroup M).count_enqueued_le events message
  have nothing : ({} : ChannelGroup M).deferred.count message = 0 := rfl
  have at_most := List.nodup_iff_count_le_one.mp (List.Nodup.of_map _ distinct) message
  omega

/-- What has been put into queues has entered, so its key tells it from the rest. -/
theorem eq_of_key_eq {first second : QueueName × M}
    (first_mem : first ∈ (({} : ChannelGroup M).ledger events).enqueued)
    (second_mem : second ∈ (({} : ChannelGroup M).ledger events).enqueued)
    (same : key first.2 = key second.2) : first.2 = second.2 := by
  classical
  have has_entered : ∀ pair ∈ (({} : ChannelGroup M).ledger events).enqueued,
      pair.2 ∈ ({} : ChannelGroup M).entered events := by
    intro pair member
    have fewer := ({} : ChannelGroup M).count_enqueued_le events pair.2
    have nothing : ({} : ChannelGroup M).deferred.count pair.2 = 0 := rfl
    have counted := List.count_pos_iff.mpr (List.mem_map_of_mem (f := (·.2)) member)
    refine List.count_pos_iff.mp ?_
    omega
  exact List.inj_on_of_nodup_map distinct (has_entered first first_mem)
    (has_entered second second_mem) same

/-- **At every point of a run** what waits is flagged if and only if it has been handed out
before. -/
theorem redelivered_iff_of_waiting (regular : ∀ event ∈ events, event.isByHand = false)
    (numbered : ∀ entry ∈ ({} : ChannelGroup M).history events,
      entry.2 ≠ .replied (.failed .tagsExhausted))
    {first second : List (Event M)} (split : events = first ++ second) {queue : QueueName}
    {item : Queued M} (waits : item ∈ (({} : ChannelGroup M).after first).store.contents queue) :
    item.redelivered = true ↔
      ∃ other ∈ ({} : ChannelGroup M).handedOut first, key other.message = key item.message := by
  subst split
  have earlier : ∀ event ∈ first, event.isByHand = false :=
    fun event member => regular event (List.mem_append_left _ member)
  have among : ∀ pair ∈ (({} : ChannelGroup M).ledger first).enqueued,
      pair ∈ (({} : ChannelGroup M).ledger (first ++ second)).enqueued := by
    intro pair member
    rw [ledger_append]
    exact List.mem_append_left _ member
  have truthful : (({} : ChannelGroup M).after first).Truthful
      ((({} : ChannelGroup M).handedOut first).map (·.message)) := by
    have once := once_of_distinct distinct
    rw [ledger_append, Ledger.append, List.map_append] at once
    rw [history_append] at numbered
    have numbered_earlier := fun entry member => numbered entry (List.mem_append_left _ member)
    exact truthful_after earlier numbered_earlier (List.nodup_append.mp once).1
  rw [truthful.waiting queue item waits, List.mem_map]
  refine exists_congr fun other => and_congr_right fun out => ⟨congrArg key, fun same => ?_⟩
  -- Both have been put into queues, so the key tells that they are the same message.
  have own := among _ (mem_enqueued_of_mem_messages earlier (List.mem_map_of_mem waits))
  exact eq_of_key_eq distinct (among _ (origin_mem_enqueued earlier out)) own same

end Distinct

theorem delivery?_of_deliveryAt? {place : Nat} {entry : Event M × Answer M} {delivery : Delivery M}
    (made : deliveryAt? place entry = some delivery) : entry.2.delivery? = some delivery := by
  rw [deliveryAt?] at made
  split at made
  · exact made
  · cases made

/-- **The redelivered flag tells the truth.** In a run from an empty store in which every message
enters with a key of its own, only channels take messages from queues or put them back, and no
channel runs out of tags: a message in a queue is flagged if and only if it has been handed out by
some channel, a delivery is flagged if and only if its message was handed out before it, and an
entry of a table, which is a delivery the channel has made, is flagged if and only if the message
was handed out before that delivery or a recovery has handed out the entry again since. -/
theorem redelivered_iff_handedOut {K : Type} (key : M → K) {events : List (Event M)}
    (regular : ∀ event ∈ events, event.isByHand = false)
    (numbered : ∀ entry ∈ ({} : ChannelGroup M).history events,
      entry.2 ≠ .replied (.failed .tagsExhausted))
    (distinct : ((({} : ChannelGroup M).entered events).map key).Nodup) :
    let start : ChannelGroup M := {}
    (∀ queue, ∀ item ∈ (start.after events).store.contents queue,
        (item.redelivered = true ↔
          ∃ other ∈ start.handedOut events, key other.message = key item.message)) ∧
      (∀ earlier event later delivery, events = earlier ++ event :: later →
        ((start.after earlier).perform event).1.delivery? = some delivery →
          (delivery.redelivered = true ↔
            ∃ other ∈ start.handedOut earlier, key other.message = key delivery.message)) ∧
      ∀ place channel, (start.after events).channels[place]? = some channel →
        ∀ entry ∈ channel.unacked.entries, ∃ earlier event later delivery,
          events = earlier ++ event :: later ∧
          deliveryAt? place (event, ((start.after earlier).perform event).1) = some delivery ∧
          delivery.tag = entry.tag ∧ delivery.message = entry.delivery.message ∧
          (entry.delivery.redelivered = true ↔
            (∃ other ∈ start.handedOut earlier, key other.message = key delivery.message) ∨
              (start.after (earlier ++ [event])).redelivers place entry.tag later = true) := by
  intro start
  have delivered : ∀ earlier event later delivery, events = earlier ++ event :: later →
      ((start.after earlier).perform event).1.delivery? = some delivery →
        (delivery.redelivered = true ↔
          ∃ other ∈ start.handedOut earlier, key other.message = key delivery.message) := by
    intro earlier event later delivery split made
    -- The delivery bears the flag of the head it takes, which waits at that point.
    obtain ⟨tail, contents⟩ := head_of_delivery? made
    have waits : (⟨delivery.message, delivery.redelivered⟩ : Queued M) ∈
        (start.after earlier).store.contents delivery.queue := by
      rw [Store.contents, contents]
      exact List.mem_cons_self
    exact redelivered_iff_of_waiting distinct regular numbered split waits
  refine ⟨?waiting, delivered, ?held⟩
  case waiting =>
    intro queue item waits
    exact redelivered_iff_of_waiting distinct regular numbered (List.append_nil _).symm waits
  case held =>
    intro place channel found entry member
    obtain ⟨earlier, event, later, delivery, split, made, shown⟩ :=
      exists_delivery_of_entry .empty found member
    have tag : delivery.tag = entry.tag := (congrArg Delivery.tag shown).symm
    have message : delivery.message = entry.delivery.message :=
      (congrArg Delivery.message shown).symm
    refine ⟨earlier, event, later, delivery, split, made, tag, message, ?_⟩
    rw [← delivered earlier event later delivery split (delivery?_of_deliveryAt? made), ← tag,
      shown, Delivery.flaggedIf, Bool.or_eq_true]

/-- Four messages with the same payload: one returned by a recovery, one handed out again by another
while the first is pending, one returned by the end of its channel, and one that no channel has
taken. -/
theorem redelivered_iff_handedOut_of_two_channels :
    let start : ChannelGroup (Nat × Nat) := {}
    let events : List (Event (Nat × Nat)) :=
      [.queue (.declare "q"), .opening "A", .opening "B", .request 0 (.publish (1, 7) "q"),
        .request 0 (.publish (2, 7) "q"), .request 0 (.get "q" false), .request 0 (.recover true),
        .request 1 (.get "q" false), .request 1 (.get "q" false), .request 1 .select,
        .request 1 (.ack 1 false), .request 1 (.recover false), .request 0 (.publish (3, 7) "q"),
        .request 0 (.publish (4, 7) "q"), .request 0 (.get "q" false), .drop 0]
    (∀ event ∈ events, event.isByHand = false) ∧
      (∀ entry ∈ start.history events, entry.2 ≠ .replied (.failed .tagsExhausted)) ∧
      ((start.entered events).map (·.1)).Nodup ∧
      (start.after events).store.contents "q" = [⟨(3, 7), true⟩, ⟨(4, 7), false⟩] ∧
      (∀ queue, ∀ item ∈ (start.after events).store.contents queue,
        (item.redelivered = true ↔
          ∃ other ∈ start.handedOut events, other.message.1 = item.message.1)) ∧
      ((start.after events).channels[1]?.map fun channel =>
          channel.unacked.entries.map fun entry =>
            (entry.tag, entry.delivery.redelivered, entry.ackPending)) =
        some [(1, true, true), (2, true, false)] := by
  intro start events
  have regular : ∀ event ∈ events, event.isByHand = false := by decide
  have numbered : ∀ entry ∈ start.history events,
      entry.2 ≠ .replied (.failed .tagsExhausted) := by decide
  have distinct : ((start.entered events).map (·.1)).Nodup := by decide
  obtain ⟨waiting, _, _⟩ := redelivered_iff_handedOut (·.1) regular numbered distinct
  exact ⟨regular, numbered, distinct, by decide, waiting, by decide⟩

end ChannelGroup

end MessageBroker
