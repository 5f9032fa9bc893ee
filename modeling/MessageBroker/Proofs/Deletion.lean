import MessageBroker.Proofs.Numbering
import MessageBroker.Proofs.Publication

/-!
# Deleted queues

A publish that waits for a commit and a delivery that waits for its acknowledgement name their queue
and know nothing else of it. What leaves its channel while the queue is gone is lost, and a queue
that is declared later under the same name gets nothing of it (`ChannelGroup.gone_of_undeclared`).
What is still in its channel when the name is declared again goes to the new queue
(`ChannelGroup.taken_over_of_redeclared`).
-/

set_option autoImplicit false

namespace MessageBroker

variable {M : Type}

/-- True of the events that end a transaction of the channel at a place. -/
def Event.settles (place : Nat) (event : Event M) : Bool :=
  (event.requestTo? place).any Request.settles

/-- The deliveries a request puts back at the head of a queue. -/
def Channel.givenBack (before : Channel M) (store : Store M) (request : Request M)
    (after : Channel M) (queue : QueueName) : List (Delivery M) :=
  match request with
  | .recover _ | .close =>
    if store.has queue then
      (before.unacked.departed after.unacked).filter (·.queue = queue)
    else []
  | _ => []

/-- The deliveries that the channel at a place puts back at the head of a queue in a run. -/
def ChannelGroup.givenBack (group : ChannelGroup M) (place : Nat) (queue : QueueName) :
    List (Event M) → List (Delivery M)
  | [] => []
  | event :: rest =>
    (match event.requestTo? place, group.channels[place]? with
      | some request, some channel =>
        channel.givenBack group.store request (channel.serve group.store request).2.1 queue
      | _, _ => []) ++ (group.perform event).2.givenBack place queue rest

namespace Channel

variable {channel after : Channel M} {store later : Store M} {request : Request M}

theorem returnedTo_eq (channel after : Channel M) (store : Store M) (request : Request M)
    (queue : QueueName) :
    channel.returnedTo store request after queue =
      (channel.givenBack store request after queue).map (·.message) := by
  have batch : (if store.has queue then
      messagesFrom queue (channel.unacked.departed after.unacked) else []) =
        (if store.has queue then
          (channel.unacked.departed after.unacked).filter (·.queue = queue)
        else []).map (·.message) := by
    split <;> rfl
  cases request with
  | recover => exact batch
  | close => exact batch
  | _ => rfl

/-- A missing queue gets nothing back. -/
theorem givenBack_of_missing {queue : QueueName} (missing : store.has queue = false) :
    channel.givenBack store request after queue = [] := by
  unfold givenBack
  split
  · rw [missing]
    rfl
  · rw [missing]
    rfl
  · rfl

/-- What is given back was in the table. -/
theorem contains_of_mem_givenBack {queue : QueueName} {delivery : Delivery M}
    (member : delivery ∈ channel.givenBack store request after queue) :
    channel.unacked.contains delivery.tag = true := by
  have departed : delivery ∈ (if store.has queue then
      (channel.unacked.departed after.unacked).filter (·.queue = queue) else []) := by
    unfold givenBack at member
    split at member
    · exact member
    · exact member
    · cases member
  split at departed
  · obtain ⟨entry, kept, rfl⟩ := List.mem_map.mp (List.mem_filter.mp departed).1
    exact UnackedTable.contains_iff.mpr ⟨entry, (List.mem_filter.mp kept).1, rfl⟩
  · cases departed

/-- No new entry takes an old tag. -/
theorem Coherent.contains_serve (coherent : channel.Coherent) (store : Store M)
    (request : Request M) {tag : Nat}
    (contains : (channel.serve store request).2.1.unacked.contains tag = true) :
    channel.unacked.contains tag = true ∨ channel.tags.last < tag := by
  obtain ⟨entry, member, rfl⟩ := UnackedTable.contains_iff.mp contains
  rcases coherent.entry_serve store request member with ⟨old, old_mem, shown⟩ | made
  · exact .inl (UnackedTable.contains_iff.mpr ⟨old, old_mem, (congrArg Delivery.tag shown).symm⟩)
  · have numbered := ((channel.step_serve store request).numbered coherent).1
    rw [made] at numbered
    have next : entry.tag = channel.tags.last + 1 := List.head_eq_of_cons_eq numbered
    exact .inr (next ▸ Nat.lt_succ_self _)

/-- A commit counts as dropped the publishes whose queues are missing. -/
theorem dropped_serve_commit {report : CommitReport}
    (committed : (channel.serve store .commit).1 = .committed report) :
    report.dropped = channel.buffer.publishes.countP (fun publish => !store.has publish.2) := by
  cases mode : channel.mode with
  | immediate =>
    rw [(channel.serve_settling_of_immediate store mode).1] at committed
    cases committed
  | transactional =>
    rw [channel.serve_commit_of_transactional store mode, Store.counts_enqueueAll] at committed
    obtain rfl := Reply.committed.inj committed
    rfl
  | closed =>
    rw [channel.serve_of_closed store mode] at committed
    cases committed

end Channel

namespace ChannelGroup

variable {group : ChannelGroup M} {place : Nat} {queue : QueueName}

/-- **What an event puts on a queue**: in front what the channel gives back, at the tail what it
publishes. -/
theorem messages_perform {event : Event M} {request : Request M} {channel : Channel M}
    (asked : event.requestTo? place = some request)
    (found : group.channels[place]? = some channel) :
    (group.perform event).2.store.messages queue =
      (group.givenBack place queue [event]).map (·.message) ++
        (group.store.messages queue).drop
          ((channel.serve group.store request).1.takenFrom queue) ++
          (group.record event).enqueuedOn queue := by
  have step := (channel.step_serve group.store request).messages_eq queue
  rw [perform_of_requestTo? found asked, store_serveAt, step, record_of_requestTo? asked found,
    Channel.returnedTo_eq, givenBack, asked, found, givenBack, List.append_nil]
  rfl

theorem givenBack_append (group : ChannelGroup M) (place : Nat) (queue : QueueName)
    (first second : List (Event M)) :
    group.givenBack place queue (first ++ second) =
      group.givenBack place queue first ++ (group.after first).givenBack place queue second := by
  induction first generalizing group with
  | nil => rfl
  | cons event rest ih =>
    rw [List.cons_append, givenBack, givenBack, ih, List.append_assoc, after_cons]

/-! ## While the queue is gone -/

/-- Only a declaration makes a queue. -/
theorem has_perform_of_missing (missing : group.store.has queue = false) {event : Event M}
    (undeclared : event ≠ .queue (.declare queue)) :
    (group.perform event).2.store.has queue = false := by
  have served : ∀ (channel : Channel M) (request : Request M),
      (channel.serve group.store request).2.2.has queue = false := fun channel request =>
    ((channel.step_serve group.store request).has_eq queue).trans missing
  cases event with
  | queue request =>
    rw [Store.has_eq_isSome] at missing ⊢
    by_cases target : queue = request.target
    · rw [perform, Store.perform_eq, Store.queue?_set, if_pos target]
      have gone : group.store.queue? request.target = none := by
        rw [← target]
        exact Option.not_isSome_iff_eq_none.mp (by rw [missing]; exact Bool.false_ne_true)
      rw [gone]
      cases request with
      | declare name =>
        obtain rfl : queue = name := target
        exact absurd rfl undeclared
      | _ => rfl
    · rw [perform, Store.queue?_perform_of_ne _ _ target]
      exact missing
  | opening id => exact missing
  | request other request =>
    cases found : group.channels[other]? with
    | none =>
      rw [group.perform_request_of_none found]
      exact missing
    | some channel =>
      rw [group.perform_request_of_some found]
      exact served channel request
  | drop other =>
    cases found : group.channels[other]? with
    | none =>
      rw [group.perform_drop_of_none found]
      exact missing
    | some channel =>
      rw [group.perform_drop_of_some found]
      exact served channel .close

section Undeclared

variable {events : List (Event M)} (missing : group.store.has queue = false)
  (undeclared : ∀ event ∈ events, event ≠ .queue (.declare queue))

include missing undeclared

theorem has_after_of_undeclared : (group.after events).store.has queue = false := by
  induction events generalizing group with
  | nil => exact missing
  | cons event rest ih =>
    obtain ⟨here, later⟩ := List.forall_mem_cons.mp undeclared
    exact ih (has_perform_of_missing missing here) later

theorem givenBack_of_undeclared : group.givenBack place queue events = [] := by
  induction events generalizing group with
  | nil => rfl
  | cons event rest ih =>
    obtain ⟨here, later⟩ := List.forall_mem_cons.mp undeclared
    rw [givenBack, ih (has_perform_of_missing missing here) later, List.append_nil]
    split
    · exact Channel.givenBack_of_missing missing
    · rfl

/-- The publishes that wait land nowhere once their transaction has ended. -/
theorem landing_of_undeclared (settled : ∃ event ∈ events, event.settles place = true)
    (position : Nat) (after : List (Event M)) :
    group.landing place queue position (events ++ after) = none := by
  induction events generalizing group position with
  | nil =>
    obtain ⟨_, member, _⟩ := settled
    cases member
  | cons event rest ih =>
    obtain ⟨here, later⟩ := List.forall_mem_cons.mp undeclared
    -- A transaction that goes on ends later.
    have next : event.settles place = false →
        (group.perform event).2.landing place queue (position + 1) (rest ++ after) = none := by
      intro goes_on
      obtain ⟨ending, member, ends⟩ := settled
      refine ih (has_perform_of_missing missing here) later ⟨ending, ?_, ends⟩ (position + 1)
      rcases List.mem_cons.mp member with rfl | member
      · cases goes_on.symm.trans ends
      · exact member
    rw [List.cons_append, landing]
    cases asked : event.requestTo? place with
    | none => exact next (by rw [Event.settles, asked]; rfl)
    | some request =>
      rw [Event.settles, asked] at next
      cases request with
      | commit =>
        rw [missing]
        rfl
      | rollback => rfl
      | close => rfl
      | _ => exact next rfl

end Undeclared

/-! ## What waits, and what was held -/

section Reachable

variable (reachable : ∀ channel ∈ group.channels, channel.Reachable)

include reachable

/-- What waits goes on waiting while the transaction lasts. -/
theorem deferredAt_prefix (queue : QueueName) {events : List (Event M)}
    (unsettled : ∀ event ∈ events, event.settles place = false) :
    group.deferredAt place queue <+: (group.after events).deferredAt place queue := by
  induction events generalizing group with
  | nil => exact List.prefix_refl _
  | cons event rest ih =>
    have later := ih (reachable_of_mem_after reachable [event]) fun event member =>
      unsettled event (List.mem_cons_of_mem _ member)
    refine List.IsPrefix.trans ?_ later
    rw [after_cons, after_nil]
    cases asked : event.requestTo? place with
    | none => exact (deferredAt_of_unasked asked queue).symm ▸ List.prefix_refl _
    | some request =>
      cases found : group.channels[place]? with
      | none =>
        rw [deferredAt_of_none found]
        exact List.nil_prefix
      | some channel =>
        have coherent := Channel.coherent_of_reachable
          (reachable channel (List.mem_of_getElem? found))
        have goes_on : request.settles = false := by
          have this := unsettled event List.mem_cons_self
          rwa [Event.settles, asked] at this
        rw [deferredAt_of_some found,
          deferredAt_of_some (getElem?_perform_of_requestTo? found asked)]
        by_cases transactional : channel.mode = .transactional
        · rw [Channel.deferredTo, Channel.deferredTo, coherent.publishes_serve, goes_on,
            if_neg Bool.false_ne_true, if_pos transactional, messagesTo_append]
          exact List.prefix_append _ _
        · rw [Channel.deferredTo_of_empty (coherent.idle transactional)]
          exact List.nil_prefix

/-- What a channel gives back it holds already, or it takes it later under a new tag. -/
theorem tag_of_mem_givenBack {channel : Channel M} (found : group.channels[place]? = some channel)
    {events : List (Event M)} {delivery : Delivery M}
    (member : delivery ∈ group.givenBack place queue events) :
    channel.unacked.contains delivery.tag = true ∨ channel.tags.last < delivery.tag := by
  induction events generalizing group channel with
  | nil => cases member
  | cons event rest ih =>
    have rest_reachable := reachable_of_mem_after reachable [event]
    have coherent := Channel.coherent_of_reachable
      (reachable channel (List.mem_of_getElem? found))
    rw [givenBack] at member
    cases asked : event.requestTo? place with
    | none =>
      rw [asked] at member
      exact ih rest_reachable (getElem?_perform_of_not_asked found asked) member
    | some request =>
      rw [asked, found] at member
      rcases List.mem_append.mp member with now | later
      · exact .inl (Channel.contains_of_mem_givenBack now)
      · have last_le := ((channel.step_serve group.store request).numbered coherent).2
        rcases ih rest_reachable (getElem?_perform_of_requestTo? found asked) later with
          held | issued
        · exact coherent.contains_serve group.store request held
        · exact .inr (by omega)

end Reachable

/-- **What leaves its channel while its queue is gone is lost for good.** Take a point of a run at
which a queue is deleted, and the rest of the run up to some point before the queue is declared
again. If a channel has ended its transaction by then, then of the publishes that waited for the
queue none reaches it, whatever happens later: all that the channel appends to it from the deletion
on are publishes made after it. A commit that ended the transaction has counted them as dropped. And
no delivery that the channel held unacknowledged at the deletion and does not hold any more is put
back on the queue: whatever the channel is asked for, it puts on the queue, in front of what is
there, the deliveries it gives back, and behind it what it appends. -/
theorem gone_of_undeclared (store : Store M) (earlier before after : List (Event M))
    (place : Nat) (queue : QueueName) (undeclared : .queue (.declare queue) ∉ before) :
    let held := (⟨store, []⟩ : ChannelGroup M).after earlier
    let deleted := (held.perform (.queue (.delete queue))).2
    ((∃ event ∈ before, event.settles place = true) →
        deleted.appends place queue 0 (before ++ after) =
          Publication.landed (deleted.publications place queue 0 (before ++ after))) ∧
      (∀ first last report, before = first ++ .request place .commit :: last →
        (∀ event ∈ first, event.settles place = false) →
        let now := deleted.after first
        (now.perform (.request place .commit)).1 = .replied (.committed report) →
          ∃ channel, now.channels[place]? = some channel ∧
            held.deferredAt place queue <+: channel.deferredTo queue ∧
            now.store.has queue = false ∧
            report.dropped =
              channel.buffer.publishes.countP (fun publish => !now.store.has publish.2)) ∧
      (∀ channel, held.channels[place]? = some channel → ∀ entry ∈ channel.unacked.entries,
        ∀ later, (deleted.after before).channels[place]? = some later →
          later.unacked.contains entry.tag = false →
          entry.tag ∉ (deleted.givenBack place queue (before ++ after)).map (·.tag)) ∧
      ∀ first event last request channel, before ++ after = first ++ event :: last →
        let now := deleted.after first
        let next := (now.perform event).2
        event.requestTo? place = some request → now.channels[place]? = some channel →
          deleted.givenBack place queue (before ++ after) =
              deleted.givenBack place queue first ++ now.givenBack place queue [event] ++
                next.givenBack place queue last ∧
            next.store.messages queue =
              (now.givenBack place queue [event]).map (·.message) ++
                (now.store.messages queue).drop
                  ((channel.serve now.store request).1.takenFrom queue) ++
                (now.record event).enqueuedOn queue := by
  intro held deleted
  have none_held : ∀ channel ∈ (⟨store, []⟩ : ChannelGroup M).channels, channel.Reachable :=
    reachable_after store []
  have reachable : ∀ channel ∈ deleted.channels, channel.Reachable :=
    reachable_after store earlier
  have missing : deleted.store.has queue = false := by
    rw [Store.has_eq_isSome, show deleted.store = (held.store.delete queue).2 from rfl,
      Store.queue?_delete, if_pos rfl]
    rfl
  have undeclared : ∀ event ∈ before, event ≠ .queue (.declare queue) :=
    fun event member same => undeclared (same ▸ member)
  refine ⟨?published, ?counted, ?delivered, ?placed⟩
  case published =>
    intro settled
    rw [appends_eq reachable, landing_of_undeclared missing undeclared settled,
      Publication.landed_append, Publication.landed_together_none, List.nil_append]
  case counted =>
    rintro first last report rfl unsettled now committed
    have first_undeclared := (List.forall_mem_append.mp undeclared).1
    have waiting := deferredAt_prefix reachable queue unsettled
    cases found : now.channels[place]? with
    | none =>
      rw [now.perform_request_of_none found] at committed
      cases committed
    | some channel =>
      rw [deferredAt_of_some found] at waiting
      rw [now.perform_request_of_some found] at committed
      exact ⟨channel, rfl, waiting, has_after_of_undeclared missing first_undeclared,
        Channel.dropped_serve_commit (Answer.replied.inj committed)⟩
  case delivered =>
    intro channel found entry member later later_found absent returned
    obtain ⟨delivery, given, same⟩ := List.mem_map.mp returned
    rw [givenBack_append, givenBack_of_undeclared missing undeclared, List.nil_append] at given
    rcases tag_of_mem_givenBack (reachable_of_mem_after reachable before) later_found given with
      present | issued
    · rw [same, absent] at present
      cases present
    · -- Tags go up, and this one was issued before the queue was deleted.
      have coherent := Channel.coherent_of_reachable
        (reachable channel (List.mem_of_getElem? found))
      have old := (coherent.issued entry member).2
      have upwards := (tags_deliveries reachable place before).2
      rw [lastAt, later_found, lastAt, show deleted.channels = held.channels from rfl, found]
        at upwards
      have counted : later.tags.last = channel.tags.last + _ := upwards
      omega
  case placed =>
    intro first event last request channel split_eq now next asked found
    refine ⟨?_, messages_perform asked found⟩
    rw [split_eq, givenBack_append, ← List.singleton_append, givenBack_append, List.append_assoc]
    rfl

/-- A commit and a close while the queue is gone, of a publish that waited for it and a delivery
that was held from it; the queue is declared again, the channels go on with it, and the second
commit puts the second publish on it and nothing else. -/
theorem gone_of_undeclared_of_commit_and_close :
    let start : ChannelGroup Nat := {}
    let earlier : List (Event Nat) :=
      [.queue (.declare "q"), .opening "A", .opening "B", .request 0 .select,
        .request 0 (.publish 7 "q"), .queue (.enqueue "q" 8), .request 1 (.get "q" false)]
    let before : List (Event Nat) := [.request 0 .commit, .request 1 .close]
    let after : List (Event Nat) :=
      [.queue (.declare "q"), .request 0 (.publish 9 "q"), .request 0 .commit, .drop 1]
    let deleted := ((start.after earlier).perform (.queue (.delete "q"))).2
    Event.queue (.declare "q") ∉ before ∧
      deleted.appends 0 "q" 0 (before ++ after) =
        Publication.landed (deleted.publications 0 "q" 0 (before ++ after)) ∧
      deleted.publications 0 "q" 0 (before ++ after) = [⟨9, some 4⟩] ∧
      (∃ channel, deleted.channels[0]? = some channel ∧
        (1 : Nat) = channel.buffer.publishes.countP fun publish => !deleted.store.has publish.2) ∧
      1 ∉ (deleted.givenBack 1 "q" (before ++ after)).map (·.tag) ∧
      ((deleted.after (before ++ after.take 2)).perform (.request 0 .commit)).2.store.messages "q" =
        [9] := by
  intro start earlier before after deleted
  have undeclared : Event.queue (.declare "q") ∉ before := by decide
  obtain ⟨published, counted, _, placed⟩ :=
    gone_of_undeclared .empty earlier before after 0 "q" undeclared
  obtain ⟨_, _, delivered, _⟩ := gone_of_undeclared .empty earlier before after 1 "q" undeclared
  refine ⟨undeclared, published ⟨.request 0 .commit, by decide, by decide⟩, by decide, ?_, ?_, ?_⟩
  · obtain ⟨channel, found, _, _, dropped⟩ :=
      counted [] [.request 1 .close] ⟨0, 1, 0⟩ rfl (fun _ none => by cases none) (by decide)
    exact ⟨channel, found, dropped⟩
  · exact delivered _ rfl ⟨⟨1, 8, "q", .get, false⟩, false⟩ (by decide) _ rfl (by decide)
  · obtain ⟨_, second⟩ :=
      placed (before ++ after.take 2) (.request 0 .commit) [.drop 1] _ _ rfl rfl rfl
    rw [second]
    decide

/-- A queue that is declared again before the commit and the close takes over both: the publish that
waited for the old queue counts as published, and the delivery from the old queue is put back on the
new one. -/
theorem taken_over_of_redeclared :
    let start : ChannelGroup Nat := {}
    let held := start.after
      [.queue (.declare "q"), .opening "A", .opening "B", .request 0 .select,
        .request 0 (.publish 7 "q"), .queue (.enqueue "q" 8), .request 1 (.get "q" false)]
    let deleted := (held.perform (.queue (.delete "q"))).2
    let rest : List (Event Nat) :=
      [.queue (.declare "q"), .request 0 .commit, .request 1 .close]
    held.store.has "q" = true ∧ held.deferredAt 0 "q" = [7] ∧
      held.channels[1]?.map Channel.held = some [("q", 8)] ∧
      (deleted.history rest).map (·.2) =
        [.flag true, .replied (.committed ⟨1, 0, 0⟩), .replied (.closed ⟨1, 0, 0⟩)] ∧
      deleted.appends 0 "q" 0 rest = [(1, 7)] ∧ deleted.publications 0 "q" 0 rest = [] ∧
      deleted.givenBack 1 "q" rest = [⟨1, 8, "q", .get, false⟩] ∧
      (deleted.after rest).store.messages "q" = [8, 7] := by
  decide

end ChannelGroup

end MessageBroker
