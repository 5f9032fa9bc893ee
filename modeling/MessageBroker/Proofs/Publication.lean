import MessageBroker.Proofs.Bookkeeping
import MessageBroker.Proofs.Traffic

/-!
# What becomes of the publishes of one channel

A publish outside a transaction reaches its queue at once, one inside a transaction at the commit
that ends it, if a commit does, and both only if the queue exists then. A `Publication` is a
successful publish with its landing, the position in the run of the event that appends it. The
messages a channel appends to a queue, each with the position of the event that does it, are the
publications that land, in the order of the publishes (`ChannelGroup.appends_eq_landed`): none
overtakes another, none is appended twice, and those of one commit stand side by side.
-/

set_option autoImplicit false

namespace MessageBroker

variable {M : Type}

/-- A successful publish to a queue. -/
structure Publication (M : Type) where
  message : M
  /-- The position of the event that appends the message to the queue, if one does. -/
  landing : Option Nat
  deriving DecidableEq, Repr

namespace Publication

/-- The messages that land, each with the position where it does. -/
def landed (publications : List (Publication M)) : List (Nat × M) :=
  publications.filterMap fun publication => publication.landing.map (·, publication.message)

/-- Publishes of one transaction, which land together. -/
def together (landing : Option Nat) (messages : List M) : List (Publication M) :=
  messages.map (⟨·, landing⟩)

theorem landed_append (first second : List (Publication M)) :
    landed (first ++ second) = landed first ++ landed second :=
  List.filterMap_append

theorem landed_together_some (position : Nat) (messages : List M) :
    landed (together (some position) messages) = messages.map (position, ·) := by
  rw [landed, together, List.filterMap_map]
  exact congrFun List.filterMap_eq_map messages

theorem landed_together_none (messages : List M) : landed (together none messages) = [] := by
  rw [landed, together, List.filterMap_map, List.filterMap_eq_nil_iff]
  exact fun _ _ => rfl

/-- The messages that land at one position. -/
theorem filter_landed (publications : List (Publication M)) (position : Nat) :
    ((landed publications).filter (·.1 = position)).map (·.2) =
      (publications.filter (·.landing = some position)).map (·.message) := by
  induction publications with
  | nil => rfl
  | cons publication rest ih =>
    obtain ⟨message, landing⟩ := publication
    rw [landed] at ih ⊢
    cases landing with
    | none => simpa using ih
    | some other =>
      by_cases same : other = position
      · simpa [same] using ih
      · simpa [same] using ih

end Publication

open Publication

/-! ## One request -/

/-- Where the publishes of the current transaction land when this request comes next: a commit
appends them if the queue exists, the other settlements throw them away, and any other request
leaves them waiting. -/
def Request.landing (declared : Bool) (position : Nat) (next : Option Nat) :
    Request M → Option Nat
  | commit => if declared then some position else none
  | rollback | close => none
  | _ => next

/-- True of the requests that may append messages to queues. -/
def Request.appends : Request M → Bool
  | publish _ _ | commit => true
  | _ => false

/-- The message that a request with this reply has published to a queue. -/
def Request.published? (queue : QueueName) (request : Request M) (reply : Reply M) : Option M :=
  match request, reply with
  | .publish message target, .done => if target = queue then some message else none
  | _, _ => none

namespace Channel

/-- The publication a request makes on a queue. Outside a transaction it lands at once if the queue
exists, inside one where the transaction does; a closed channel publishes nothing. -/
def publications (channel : Channel M) (queue : QueueName) (declared : Bool) (position : Nat)
    (next : Option Nat) : Request M → List (Publication M)
  | .publish message target =>
    if target = queue then
      match channel.mode with
      | .immediate => [⟨message, if declared then some position else none⟩]
      | .transactional => [⟨message, next⟩]
      | .closed => []
    else []
  | _ => []

/-- The messages of a transaction for a queue that wait for the commit. -/
def deferredTo (channel : Channel M) (queue : QueueName) : List M :=
  messagesTo queue channel.buffer.publishes

theorem enqueued_record_of_silent {before after : Channel M} {store : Store M}
    {request : Request M} (silent : request.appends = false) (reply : Reply M) :
    (before.record store request reply after).enqueued = [] := by
  unfold record
  split
  · cases silent
  · cases silent
  · rfl
  · rfl
  · rfl
  · rfl
  · rfl

theorem enqueuedOn_record_of_silent {before after : Channel M} {store : Store M}
    {request : Request M} (silent : request.appends = false) (reply : Reply M)
    (queue : QueueName) :
    (before.record store request reply after).enqueuedOn queue = [] := by
  rw [Ledger.enqueuedOn, enqueued_record_of_silent silent, messagesOn_nil]

/-- A publish is successful if and only if the channel is open. -/
theorem map_message_publications (channel : Channel M) (store : Store M) (queue : QueueName)
    (position : Nat) (next : Option Nat) (request : Request M) :
    (channel.publications queue (store.has queue) position next request).map (·.message) =
      (request.published? queue (channel.serve store request).1).toList := by
  cases request with
  | publish message target =>
    rw [publications]
    cases mode : channel.mode with
    | immediate =>
      rw [channel.serve_publish_of_immediate store mode]
      by_cases mine : target = queue <;> simp [Request.published?, mine]
    | transactional =>
      rw [channel.serve_publish_of_transactional store mode]
      by_cases mine : target = queue <;> simp [Request.published?, mine]
    | closed =>
      rw [channel.serve_of_closed store mode]
      by_cases mine : target = queue <;> simp [Request.published?, Request.isClose, mine]
  | _ => rfl

theorem deferredTo_of_empty {channel : Channel M} (nothing : channel.buffer = .empty)
    (queue : QueueName) : channel.deferredTo queue = [] := by
  rw [deferredTo, nothing]
  rfl

/-- Nothing waits after a settlement. -/
theorem deferredTo_of_settles {channel : Channel M} (coherent : channel.Coherent)
    (store : Store M) {request : Request M} (settles : request.settles = true)
    (queue : QueueName) : (channel.serve store request).2.1.deferredTo queue = [] := by
  rw [deferredTo, coherent.publishes_serve, if_pos settles]
  rfl

section Landed

variable {channel : Channel M} (coherent : channel.Coherent) (store : Store M) (queue : QueueName)
  (position : Nat) (next : Option Nat)

include coherent

/-- A publish lands at once, or it waits behind the others of its transaction. -/
theorem landed_serve_publish (message : M) (target : QueueName) :
    let served := channel.serve store (.publish message target)
    ((channel.record store (.publish message target) served.1 served.2.1).enqueuedOn queue).map
          (position, ·) ++
        landed (together next (served.2.1.deferredTo queue)) =
      landed (together next (channel.deferredTo queue) ++
        channel.publications queue (store.has queue) position next (.publish message target)) := by
  intro served
  cases mode : channel.mode with
  | immediate =>
    have nothing := deferredTo_of_empty (coherent.idle (by rw [mode]; decide)) queue
    have served_eq : served = _ := channel.serve_publish_of_immediate store mode message target
    rw [served_eq, record, if_pos mode, Ledger.enqueuedOn, Store.messagesOn_accepted,
      messagesTo_singleton, nothing, publications, mode]
    cases store.has queue <;> by_cases mine : target = queue <;> simp [mine, landed, together]
  | transactional =>
    have served_eq : served = _ := channel.serve_publish_of_transactional store mode message target
    have waits : served.2.1.deferredTo queue =
        channel.deferredTo queue ++ if target = queue then [message] else [] := by
      rw [served_eq, deferredTo, TransactionBuffer.publishes_deferPublish, messagesTo_append,
        messagesTo_singleton, deferredTo]
    have silent : (channel.record store (.publish message target) served.1 served.2.1).enqueuedOn
        queue = [] := by
      rw [served_eq, record, mode]
      rfl
    rw [waits, silent, publications, mode, together, List.map_append, landed_append, landed_append,
      ← together]
    by_cases mine : target = queue
    · rw [if_pos mine, if_pos mine]
      rfl
    · rw [if_neg mine, if_neg mine]
      rfl
  | closed =>
    have nothing := deferredTo_of_empty (coherent.idle (by rw [mode]; decide)) queue
    have refused : served = (.failed (.channelClosed channel.id), channel, store) :=
      channel.serve_of_closed store mode (.publish message target)
    rw [refused, record_of_failed, nothing, publications, mode]
    split
    · rfl
    · rfl

/-- A commit appends what waits, in order and all at once. -/
theorem landed_serve_commit :
    let served := channel.serve store .commit
    ((channel.record store .commit served.1 served.2.1).enqueuedOn queue).map (position, ·) ++
        landed (together next (served.2.1.deferredTo queue)) =
      landed (together (if store.has queue then some position else none)
        (channel.deferredTo queue)) := by
  intro served
  have nothing : served.2.1.deferredTo queue = [] := deferredTo_of_settles coherent store rfl queue
  rw [nothing]
  refine (List.append_nil _).trans ?_
  by_cases transactional : channel.mode = .transactional
  case pos =>
    have served_eq : served = _ := channel.serve_commit_of_transactional store transactional
    rw [served_eq, record, Ledger.enqueuedOn, Store.messagesOn_accepted]
    split
    · exact (landed_together_some ..).symm
    · exact (landed_together_none _).symm
  case neg =>
    -- Outside a transaction nothing waits and the commit is refused.
    have none_waiting := deferredTo_of_empty (coherent.idle transactional) queue
    have refused : ∃ error, served = (.failed error, channel, store) := by
      cases mode : channel.mode with
      | immediate => exact ⟨_, (channel.serve_settling_of_immediate store mode).1⟩
      | transactional => exact absurd mode transactional
      | closed => exact ⟨_, channel.serve_of_closed store mode .commit⟩
    obtain ⟨error, served_eq⟩ := refused
    rw [served_eq, record_of_failed, none_waiting]
    rfl

/-- **What a request appends and what it leaves waiting** are the publishes that waited before it
and the one it makes, each where it lands. -/
theorem landed_serve (request : Request M) :
    let served := channel.serve store request
    ((channel.record store request served.1 served.2.1).enqueuedOn queue).map (position, ·) ++
        landed (together next (served.2.1.deferredTo queue)) =
      landed (together (request.landing (store.has queue) position next)
          (channel.deferredTo queue) ++
        channel.publications queue (store.has queue) position next request) := by
  intro served
  have discarded : request.settles = true → request.appends = false →
      ((channel.record store request served.1 served.2.1).enqueuedOn queue).map (position, ·) ++
          landed (together next (served.2.1.deferredTo queue)) =
        landed (together none (channel.deferredTo queue) ++ []) := by
    intro settles silent
    rw [enqueuedOn_record_of_silent silent, deferredTo_of_settles coherent store settles,
      List.append_nil, landed_together_none]
    rfl
  cases request with
  | publish message target => exact landed_serve_publish coherent store queue position next _ _
  | commit =>
    have appended := landed_serve_commit coherent store queue position next
    rw [← List.append_nil (together _ _)] at appended
    exact appended
  | rollback => exact discarded rfl rfl
  | close => exact discarded rfl rfl
  | _ =>
    -- What waits goes on waiting.
    have kept : served.2.1.deferredTo queue = channel.deferredTo queue :=
      congrArg _ ((channel.step_serve store _).publishes_eq rfl rfl)
    rw [enqueuedOn_record_of_silent rfl, kept]
    exact congrArg landed (List.append_nil _).symm

end Landed

end Channel

namespace ChannelGroup

/-- Where the publishes of the current transaction of a channel land. -/
def landing (group : ChannelGroup M) (place : Nat) (queue : QueueName) (position : Nat) :
    List (Event M) → Option Nat
  | [] => none
  | event :: rest =>
    let next := (group.perform event).2.landing place queue (position + 1) rest
    match event.requestTo? place with
    | some request => request.landing (group.store.has queue) position next
    | none => next

/-- The publications of a channel on a queue in a run whose first event has this position. -/
def publications (group : ChannelGroup M) (place : Nat) (queue : QueueName) (position : Nat) :
    List (Event M) → List (Publication M)
  | [] => []
  | event :: rest =>
    let later := (group.perform event).2
    (match event.requestTo? place, group.channels[place]? with
      | some request, some channel =>
        channel.publications queue (group.store.has queue) position
          (later.landing place queue (position + 1) rest) request
      | some _, none => []
      | none, _ => []) ++ later.publications place queue (position + 1) rest

/-- The messages a channel appends to a queue, each with the position of the event that does it. -/
def appends (group : ChannelGroup M) (place : Nat) (queue : QueueName) (position : Nat) :
    List (Event M) → List (Nat × M)
  | [] => []
  | event :: rest =>
    (match event.requestTo? place with
      | some _ => ((group.record event).enqueuedOn queue).map (position, ·)
      | none => []) ++ (group.perform event).2.appends place queue (position + 1) rest

/-- The messages for a queue that wait for a commit of the channel at a place. -/
def deferredAt (group : ChannelGroup M) (place : Nat) (queue : QueueName) : List M :=
  (group.channels[place]?.map (·.deferredTo queue)).getD []

section Runs

variable {group : ChannelGroup M} {place : Nat} {queue : QueueName}

theorem deferredAt_of_some {channel : Channel M} (found : group.channels[place]? = some channel)
    (queue : QueueName) : group.deferredAt place queue = channel.deferredTo queue := by
  rw [deferredAt, found]
  rfl

theorem deferredAt_of_none (missing : group.channels[place]? = none) (queue : QueueName) :
    group.deferredAt place queue = [] := by
  rw [deferredAt, missing]
  rfl

theorem deferredAt_of_unasked {event : Event M} (unasked : event.requestTo? place = none)
    (queue : QueueName) :
    (group.perform event).2.deferredAt place queue = group.deferredAt place queue :=
  map_getD_of_unasked (fun _ => rfl) unasked

/-- In a run the publishes that wait at its beginning land, if at all, before those it makes. -/
theorem appends_eq (reachable : ∀ channel ∈ group.channels, channel.Reachable) (position : Nat)
    (events : List (Event M)) :
    group.appends place queue position events =
      landed (together (group.landing place queue position events) (group.deferredAt place queue) ++
        group.publications place queue position events) := by
  -- What an event leaves waiting waits at the beginning of the rest of the run.
  induction events generalizing group position with
  | nil =>
    rw [publications, List.append_nil, landing, landed_together_none]
    rfl
  | cons event rest ih =>
    have later := ih (reachable_of_mem_after reachable [event]) (position + 1)
    rw [appends, publications, landing]
    rw [after_cons, after_nil] at later
    rw [later, landed_append]
    cases asked : event.requestTo? place with
    | none =>
      rw [deferredAt_of_unasked asked, landed_append]
      rfl
    | some request =>
      cases found : group.channels[place]? with
      | none =>
        rw [record_of_missing asked found, perform_of_missing found asked,
          deferredAt_of_none found, landed_append]
        rfl
      | some channel =>
        have coherent := Channel.coherent_of_reachable
          (reachable channel (List.mem_of_getElem? found))
        have served := Channel.landed_serve coherent group.store queue position
          ((group.perform event).2.landing place queue (position + 1) rest) request
        rw [record_of_requestTo? asked found, deferredAt_of_some found,
          deferredAt_of_some (getElem?_perform_of_requestTo? found asked), ← List.append_assoc,
          ← List.append_assoc, landed_append (_ ++ _), ← served]
        rfl

end Runs

/-! ## Appends by position -/

section Positions

variable (group : ChannelGroup M) (place : Nat) (queue : QueueName) (position : Nat)

theorem appends_append (first second : List (Event M)) :
    group.appends place queue position (first ++ second) =
      group.appends place queue position first ++
        (group.after first).appends place queue (position + first.length) second := by
  induction first generalizing group position with
  | nil => rfl
  | cons event rest ih =>
    rw [List.cons_append, appends, ih, appends, List.append_assoc, after_cons, List.length_cons,
      Nat.add_right_comm, Nat.add_assoc]

theorem position_of_mem_appends {events : List (Event M)} {append : Nat × M}
    (member : append ∈ group.appends place queue position events) :
    position ≤ append.1 ∧ append.1 < position + events.length := by
  induction events generalizing group position with
  | nil => cases member
  | cons event rest ih =>
    rw [List.length_cons]
    rcases List.mem_append.mp member with here | later
    · split at here
      · obtain ⟨_, _, rfl⟩ := List.mem_map.mp here
        omega
      · cases here
    · have bounds := ih _ (position + 1) later
      omega

/-- What one event of a run appends is what is appended at its position. -/
theorem enqueuedOn_record_eq {event : Event M} {request : Request M}
    (asked : event.requestTo? place = some request) (before after : List (Event M)) :
    ((group.after before).record event).enqueuedOn queue =
      ((group.appends place queue position (before ++ event :: after)).filter
        (·.1 = position + before.length)).map (·.2) := by
  -- Events before and after append at other positions.
  have earlier : (group.appends place queue position before).filter
      (·.1 = position + before.length) = [] := by
    refine List.filter_eq_nil_iff.mpr fun append member => ?_
    have bounds := group.position_of_mem_appends place queue position member
    simp only [decide_eq_true_eq]
    omega
  have later : ∀ later : ChannelGroup M, (later.appends place queue
      (position + before.length + 1) after).filter (·.1 = position + before.length) = [] := by
    intro later
    refine List.filter_eq_nil_iff.mpr fun append member => ?_
    have bounds := later.position_of_mem_appends place queue _ member
    simp only [decide_eq_true_eq]
    omega
  rw [appends_append, appends, asked, List.filter_append, List.filter_append, earlier, later,
    List.nil_append, List.append_nil, List.filter_eq_self.mpr, List.map_map]
  · exact (List.map_id _).symm
  · intro append member
    obtain ⟨_, _, rfl⟩ := List.mem_map.mp member
    exact decide_eq_true rfl

end Positions

/-- The message that an event, as it was answered, has published to a queue through the channel at a
place. -/
def published? (place : Nat) (queue : QueueName) (entry : Event M × Answer M) : Option M :=
  match entry.1.requestTo? place, entry.2 with
  | some request, .replied reply => request.published? queue reply
  | _, _ => none

/-- The publications are the publishes that were answered so. -/
theorem map_message_publications (group : ChannelGroup M) (place : Nat) (queue : QueueName)
    (position : Nat) (events : List (Event M)) :
    (group.publications place queue position events).map (·.message) =
      (group.history events).filterMap (published? place queue) := by
  induction events generalizing group position with
  | nil => rfl
  | cons event rest ih =>
    rw [publications, List.map_append, ih, history_cons, List.filterMap_cons]
    cases event with
    | queue _ => rfl
    | opening _ => rfl
    | drop other =>
      -- Letting a channel go publishes nothing.
      rw [published?, Event.requestTo?]
      by_cases mine : other = place
      case neg =>
        rw [if_neg mine]
        rfl
      case pos =>
        rw [if_pos mine]
        cases found : group.channels[place]? with
        | none =>
          rw [mine, group.perform_drop_of_none found]
          rfl
        | some channel =>
          rw [mine, group.perform_drop_of_some found]
          rfl
    | request other request =>
      rw [published?, Event.requestTo?]
      by_cases mine : other = place
      case neg =>
        rw [if_neg mine]
        rfl
      case pos =>
        rw [if_pos mine]
        cases found : group.channels[place]? with
        | none =>
          rw [mine, group.perform_request_of_none found]
          rfl
        | some channel =>
          rw [mine, group.perform_request_of_some found]
          simp only [channel.map_message_publications]
          cases request.published? queue (channel.serve group.store request).1 <;> rfl

/-- **What one channel publishes reaches a queue in order, once and in whole transactions.** The
publications of a channel on a queue are its successful publishes. What the channel appends to the
queue, event by event, are the publications that land, in the order of the publishes and each where
it lands. Those that land at one event stand side by side in all that the queue takes in, and the
event puts them at the tail of the queue. -/
theorem appends_eq_landed (place : Nat) (queue : QueueName) (events : List (Event M)) :
    let start : ChannelGroup M := {}
    let publications := start.publications place queue 0 events
    publications.map (·.message) = (start.history events).filterMap (published? place queue) ∧
      start.appends place queue 0 events = landed publications ∧
      ∀ before event after request,
        events = before ++ event :: after → event.requestTo? place = some request →
        let now := start.after before
        let batch := (publications.filter (·.landing = some before.length)).map (·.message)
        (start.ledger events).enqueuedOn queue =
            (start.ledger before).enqueuedOn queue ++ batch ++
              ((now.perform event).2.ledger after).enqueuedOn queue ∧
          ∀ channel, now.channels[place]? = some channel →
            let served := channel.serve now.store request
            (now.perform event).2.store.messages queue =
              channel.returnedTo now.store request served.2.1 queue ++
                (now.store.messages queue).drop (served.1.takenFrom queue) ++ batch := by
  intro start publications
  have none_open : ∀ channel ∈ start.channels, channel.Reachable := by
    intro channel member
    cases member
  have appends_all : start.appends place queue 0 events = landed publications :=
    appends_eq none_open 0 events
  refine ⟨start.map_message_publications place queue 0 events, appends_all, ?_⟩
  rintro before event after request split asked now batch
  have batch_eq : (now.record event).enqueuedOn queue = batch := by
    rw [start.enqueuedOn_record_eq place queue 0 asked before after, ← split, appends_all,
      filter_landed, Nat.zero_add]
  constructor
  · rw [split, ledger_append, Ledger.enqueuedOn_append, ledger, Ledger.enqueuedOn_append, batch_eq,
      List.append_assoc]
  · intro channel found served
    have messages := (channel.step_serve now.store request).messages_eq queue
    rw [perform_of_requestTo? found asked, store_serveAt, messages, ← batch_eq,
      record_of_requestTo? asked found]
    rfl

/-- Publishes before the first transaction, to a missing queue, in two committed transactions of
which the second finds no queue, in one rolled back and in one that ends with the channel, while
another channel publishes too; the first commit appends the whole of its transaction. -/
theorem appends_eq_landed_of_four_transactions :
    let start : ChannelGroup Nat := {}
    let before : List (Event Nat) :=
      [.queue (.declare "q"), .opening "A", .opening "B", .request 0 (.publish 1 "q"),
        .queue (.delete "q"), .request 0 (.publish 2 "q"), .queue (.declare "q"),
        .request 0 .select, .request 0 (.publish 3 "q"), .request 1 (.publish 10 "q"),
        .request 0 (.publish 4 "other"), .request 0 (.publish 3 "q")]
    let after : List (Event Nat) :=
      [.request 1 (.publish 20 "q"), .request 0 (.publish 5 "q"), .request 0 .rollback,
        .request 0 (.publish 6 "q"), .queue (.delete "q"), .request 0 .commit,
        .queue (.declare "q"), .request 0 (.publish 7 "q"), .drop 0, .request 0 (.publish 8 "q")]
    let events := before ++ .request 0 .commit :: after
    let publications := start.publications 0 "q" 0 events
    let batch := (publications.filter (·.landing = some before.length)).map (·.message)
    publications = [⟨1, some 3⟩, ⟨2, none⟩, ⟨3, some 12⟩, ⟨3, some 12⟩, ⟨5, none⟩, ⟨6, none⟩,
        ⟨7, none⟩] ∧
      batch = [3, 3] ∧
      start.appends 0 "q" 0 events = landed publications ∧
      (start.ledger events).enqueuedOn "q" =
        (start.ledger before).enqueuedOn "q" ++ batch ++
          (((start.after before).perform (.request 0 .commit)).2.ledger after).enqueuedOn "q" := by
  intro start before after events publications batch
  obtain ⟨_, appends, blocks⟩ := appends_eq_landed 0 "q" events
  have commit : (Event.request 0 .commit : Event Nat).requestTo? 0 = some .commit := rfl
  exact ⟨by decide, by decide, appends, (blocks before _ after .commit rfl commit).1⟩

end ChannelGroup

end MessageBroker
