import MessageBroker.Broker
import MessageBroker.Proofs.Step

/-!
# Channels that share a store

A `ChannelGroup` is a store with the channels opened on it. Its events are the operations of the
store itself, the opening of a channel, a request to a channel and the end of a channel, in any
order; a channel is named by its place in the order of opening. `after` gives the group a list of
events leads to and `history` the events with their answers.

Every channel of a group is reachable (`reachable_after`). A broker adds names, handles and tasks to
a group; `Broker.group` is the group without them.
-/

set_option autoImplicit false

namespace MessageBroker

variable {M : Type}

/-- An operation on the queues of a store. -/
inductive QueueRequest (M : Type) where
  | declare (queue : QueueName)
  | delete (queue : QueueName)
  | purge (queue : QueueName)
  | count (queue : QueueName)
  | has (queue : QueueName)
  | enqueue (queue : QueueName) (message : M)
  | dequeue (queue : QueueName)
  | putBack (queue : QueueName) (messages : List M)
  deriving DecidableEq, Repr

/-- Answers one operation. -/
def Store.perform (store : Store M) : QueueRequest M → Answer M × Store M
  | .declare queue => (.flag (store.declare queue).1, (store.declare queue).2)
  | .delete queue => (.number (store.delete queue).1, (store.delete queue).2)
  | .purge queue => (.number (store.purge queue).1, (store.purge queue).2)
  | .count queue => (.number (store.count queue), store)
  | .has queue => (.flag (store.has queue), store)
  | .enqueue queue message =>
    (.routed (store.enqueue queue message).1, (store.enqueue queue message).2)
  | .dequeue queue =>
    match store.dequeue queue with
    | .error error => (.failed error, store)
    | .ok (head, store) => (.taken head, store)
  | .putBack queue messages => (.done, store.putBack queue messages)

/-- A store and the channels opened on it, in order of opening. -/
@[ext] structure ChannelGroup (M : Type) where
  store : Store M := .empty
  channels : List (Channel M) := []

/-- Something that happens in a group. -/
inductive Event (M : Type) where
  | queue (request : QueueRequest M)
  | opening (id : String)
  | request (place : Nat) (request : Request M)
  /-- The holder lets the channel go; an open one is closed. -/
  | drop (place : Nat)
  deriving DecidableEq, Repr

/-- The request an event makes to the channel at a place; letting the channel go closes it. -/
def Event.requestTo? (place : Nat) : Event M → Option (Request M)
  | .request other asked => if other = place then some asked else none
  | .drop other => if other = place then some .close else none
  | .queue _ | .opening _ => none

theorem Event.requestTo?_request (place : Nat) (request : Request M) :
    (Event.request place request).requestTo? place = some request := if_pos rfl

theorem Event.requestTo?_drop (place : Nat) :
    (Event.drop place : Event M).requestTo? place = some .close := if_pos rfl

/-- What a request publishes, and where to. -/
def Request.sent? : Request M → Option (M × QueueName)
  | publish message target => some (message, target)
  | _ => none

/-! ## Replacing one item of a list -/

theorem set_eq_self {α : Type} {list : List α} {place : Nat} {item : α}
    (found : list[place]? = some item) : list.set place item = list := by
  obtain ⟨bound, rfl⟩ := List.getElem?_eq_some_iff.mp found
  exact List.set_getElem_self bound

theorem eq_of_getElem?_set {α : Type} {list : List α} {place : Nat} {new item : α}
    (found : (list.set place new)[place]? = some item) : item = new := by
  rw [List.getElem?_set, if_pos rfl] at found
  split at found
  · exact (Option.some.inj found).symm
  · cases found

/-! ## Events one after another -/

namespace ChannelGroup

/-- Passes a request to a channel of the group. -/
def serveAt (group : ChannelGroup M) (place : Nat) (channel : Channel M) (request : Request M) :
    Reply M × ChannelGroup M :=
  let (reply, channel, store) := channel.serve group.store request
  (reply, ⟨store, group.channels.set place channel⟩)

/-- Answers one event. -/
def perform (group : ChannelGroup M) : Event M → Answer M × ChannelGroup M
  | .queue request =>
    ((group.store.perform request).1, { group with store := (group.store.perform request).2 })
  | .opening id =>
    (.opened group.channels.length id, { group with channels := group.channels ++ [.new id] })
  | .request place request =>
    match group.channels[place]? with
    | none => (.noChannel, group)
    | some channel =>
      (.replied (group.serveAt place channel request).1, (group.serveAt place channel request).2)
  | .drop place =>
    match group.channels[place]? with
    | none => (.noChannel, group)
    | some channel => (.done, (group.serveAt place channel .close).2)

/-- The group after some events. -/
def after (group : ChannelGroup M) (events : List (Event M)) : ChannelGroup M :=
  events.foldl (fun group event => (group.perform event).2) group

/-- Events with their answers. -/
def history (group : ChannelGroup M) : List (Event M) → List (Event M × Answer M)
  | [] => []
  | event :: rest => (event, (group.perform event).1) :: (group.perform event).2.history rest

@[simp] theorem after_nil (group : ChannelGroup M) : group.after [] = group := rfl

@[simp] theorem after_cons (group : ChannelGroup M) (event : Event M) (rest : List (Event M)) :
    group.after (event :: rest) = (group.perform event).2.after rest := rfl

theorem after_append (group : ChannelGroup M) (first second : List (Event M)) :
    group.after (first ++ second) = (group.after first).after second :=
  List.foldl_append

@[simp] theorem history_nil (group : ChannelGroup M) : group.history [] = [] := rfl

@[simp] theorem history_cons (group : ChannelGroup M) (event : Event M) (rest : List (Event M)) :
    group.history (event :: rest) =
      (event, (group.perform event).1) :: (group.perform event).2.history rest := rfl

theorem store_serveAt (group : ChannelGroup M) (place : Nat) (channel : Channel M)
    (request : Request M) :
    (group.serveAt place channel request).2.store = (channel.serve group.store request).2.2 := rfl

theorem channels_serveAt (group : ChannelGroup M) (place : Nat) (channel : Channel M)
    (request : Request M) :
    (group.serveAt place channel request).2.channels =
      group.channels.set place (channel.serve group.store request).2.1 := rfl

section Places

variable (group : ChannelGroup M) {place : Nat}

theorem perform_request_of_some {channel : Channel M}
    (found : group.channels[place]? = some channel) (request : Request M) :
    group.perform (.request place request) =
      (.replied (channel.serve group.store request).1,
        ⟨(channel.serve group.store request).2.2,
          group.channels.set place (channel.serve group.store request).2.1⟩) := by
  simp only [perform, found, serveAt]

theorem perform_request_of_none (missing : group.channels[place]? = none) (request : Request M) :
    group.perform (.request place request) = (.noChannel, group) := by
  simp only [perform, missing]

theorem perform_drop_of_some {channel : Channel M}
    (found : group.channels[place]? = some channel) :
    group.perform (.drop place) =
      (.done,
        ⟨(channel.serve group.store .close).2.2,
          group.channels.set place (channel.serve group.store .close).2.1⟩) := by
  simp only [perform, found, serveAt]

theorem perform_drop_of_none (missing : group.channels[place]? = none) :
    group.perform (.drop place) = (.noChannel, group) := by
  simp only [perform, missing]

end Places

theorem history_append (group : ChannelGroup M) (first second : List (Event M)) :
    group.history (first ++ second) =
      group.history first ++ (group.after first).history second := by
  induction first generalizing group with
  | nil => rfl
  | cons event rest ih =>
    rw [List.cons_append, history_cons, history_cons, ih, List.cons_append, after_cons]

theorem history_take (group : ChannelGroup M) (n : Nat) (events : List (Event M)) :
    group.history (events.take n) = (group.history events).take n := by
  induction events generalizing group n with
  | nil => rw [List.take_nil, history_nil, List.take_nil]
  | cons event rest ih =>
    cases n with
    | zero => rfl
    | succ n => rw [List.take_succ_cons, history_cons, history_cons, List.take_succ_cons, ih]

theorem map_fst_history (group : ChannelGroup M) (events : List (Event M)) :
    (group.history events).map (·.1) = events := by
  induction events generalizing group with
  | nil => rfl
  | cons event rest ih => rw [history_cons, List.map_cons, ih]

/-- Only events of the run are in its history. -/
theorem mem_of_mem_history {group : ChannelGroup M} {events : List (Event M)}
    {entry : Event M × Answer M} (member : entry ∈ group.history events) : entry.1 ∈ events := by
  rw [← group.map_fst_history events]
  exact List.mem_map_of_mem member

/-! ## What an event does to the channels -/

section Asked

variable {group : ChannelGroup M} {place : Nat} {channel : Channel M} {event : Event M}

/-- An event that asks a channel changes the group as the request does. -/
theorem perform_of_requestTo? (found : group.channels[place]? = some channel)
    {request : Request M} (asked : event.requestTo? place = some request) :
    (group.perform event).2 = (group.serveAt place channel request).2 := by
  cases event with
  | queue _ => cases asked
  | opening _ => cases asked
  | request other _ =>
    simp only [Event.requestTo?, Option.ite_none_right_eq_some, Option.some.injEq] at asked
    obtain ⟨rfl, rfl⟩ := asked
    rw [group.perform_request_of_some found]
    rfl
  | drop other =>
    simp only [Event.requestTo?, Option.ite_none_right_eq_some, Option.some.injEq] at asked
    obtain ⟨rfl, rfl⟩ := asked
    rw [group.perform_drop_of_some found]
    rfl

/-- Asking a channel that is not there does nothing. -/
theorem perform_of_missing (missing : group.channels[place]? = none) {request : Request M}
    (asked : event.requestTo? place = some request) : (group.perform event).2 = group := by
  cases event with
  | queue _ => cases asked
  | opening _ => cases asked
  | request other _ =>
    simp only [Event.requestTo?, Option.ite_none_right_eq_some] at asked
    rw [asked.1, group.perform_request_of_none missing]
  | drop other =>
    simp only [Event.requestTo?, Option.ite_none_right_eq_some] at asked
    rw [asked.1, group.perform_drop_of_none missing]

theorem getElem?_perform_of_requestTo? (found : group.channels[place]? = some channel)
    {request : Request M} (asked : event.requestTo? place = some request) :
    (group.perform event).2.channels[place]? =
      some (channel.serve group.store request).2.1 := by
  obtain ⟨bound, _⟩ := List.getElem?_eq_some_iff.mp found
  rw [perform_of_requestTo? found asked, channels_serveAt, List.getElem?_set_self bound]

/-- The others stay as they are. -/
theorem getElem?_perform_of_not_asked (found : group.channels[place]? = some channel)
    (unasked : event.requestTo? place = none) :
    (group.perform event).2.channels[place]? = some channel := by
  have elsewhere : ∀ other served request, other ≠ place →
      (group.serveAt other served request).2.channels[place]? = some channel := by
    intro other served request apart
    rw [channels_serveAt, List.getElem?_set_ne apart]
    exact found
  cases event with
  | queue _ => exact found
  | opening id =>
    obtain ⟨bound, _⟩ := List.getElem?_eq_some_iff.mp found
    rw [perform, List.getElem?_append_left bound]
    exact found
  | request other request =>
    have apart : other ≠ place := fun same => by simp [Event.requestTo?, same] at unasked
    rw [perform]
    split
    · exact found
    · exact elsewhere other _ request apart
  | drop other =>
    have apart : other ≠ place := fun same => by simp [Event.requestTo?, same] at unasked
    rw [perform]
    split
    · exact found
    · exact elsewhere other _ .close apart

/-- A channel of the group with a new one is an old one or the new one. -/
theorem getElem?_perform_opening {id : String}
    (found : (group.perform (.opening id)).2.channels[place]? = some channel) :
    group.channels[place]? = some channel ∨ group.channels[place]? = none ∧ channel = .new id := by
  rw [perform, List.getElem?_append] at found
  split at found
  · exact .inl found
  · rename_i beyond
    have missing : group.channels[place]? = none :=
      List.getElem?_eq_none (Nat.le_of_not_lt beyond)
    exact .inr ⟨missing, List.mem_singleton.mp (List.mem_of_getElem? found)⟩

/-- A channel that turns up where there was none is new. -/
theorem new_of_missing (missing : group.channels[place]? = none)
    (found : (group.perform event).2.channels[place]? = some channel) :
    ∃ id, channel = .new id := by
  have absent : ∀ other served request,
      (group.serveAt other served request).2.channels[place]? ≠ some channel := by
    intro other served request present
    rw [List.getElem?_eq_none_iff] at missing
    rw [channels_serveAt, List.getElem?_eq_none (by rwa [List.length_set])] at present
    cases present
  cases event with
  | queue request => cases missing.symm.trans found
  | opening id =>
    rcases getElem?_perform_opening found with old | ⟨_, new⟩
    · cases missing.symm.trans old
    · exact ⟨id, new⟩
  | request other request =>
    rw [perform] at found
    split at found
    · cases missing.symm.trans found
    · exact absurd found (absent other _ request)
  | drop other =>
    rw [perform] at found
    split at found
    · cases missing.symm.trans found
    · exact absurd found (absent other _ .close)

/-- What is read off the channel at a place, with what a new channel shows where there is none, is
the business of that channel alone. -/
theorem map_getD_of_unasked {α : Type} {read : Channel M → α} {initial : α}
    (fresh : ∀ id, read (.new id) = initial) (unasked : event.requestTo? place = none) :
    ((group.perform event).2.channels[place]?.map read).getD initial =
      (group.channels[place]?.map read).getD initial := by
  cases before : group.channels[place]? with
  | some channel => rw [getElem?_perform_of_not_asked before unasked]
  | none =>
    cases now : (group.perform event).2.channels[place]? with
    | none => rfl
    | some channel =>
      obtain ⟨id, rfl⟩ := new_of_missing before now
      exact fresh id

end Asked

/-- An event leaves a channel as it is, opens a new one or lets one answer a request. -/
theorem mem_channels_perform (group : ChannelGroup M) (event : Event M) {channel : Channel M}
    (member : channel ∈ (group.perform event).2.channels) :
    channel ∈ group.channels ∨ (∃ id, channel = .new id) ∨
      ∃ before ∈ group.channels, ∃ request,
        channel = (before.serve group.store request).2.1 := by
  have served : ∀ place before request, group.channels[place]? = some before →
      channel ∈ (group.serveAt place before request).2.channels →
      channel ∈ group.channels ∨ ∃ before ∈ group.channels, ∃ request,
        channel = (before.serve group.store request).2.1 := by
    intro place before request found member
    rcases List.mem_or_eq_of_mem_set member with old | rfl
    · exact .inl old
    · exact .inr ⟨before, List.mem_of_getElem? found, request, rfl⟩
  cases event with
  | queue request => exact .inl member
  | opening id =>
    rcases List.mem_append.mp member with old | new
    · exact .inl old
    · exact .inr (.inl ⟨id, List.mem_singleton.mp new⟩)
  | request place request =>
    rw [perform] at member
    split at member
    · exact .inl member
    · rename_i before found
      exact (served place before request found member).imp_right .inr
  | drop place =>
    rw [perform] at member
    split at member
    · exact .inl member
    · rename_i before found
      exact (served place before .close found member).imp_right .inr

/-- In a group whose channels are reachable they stay so, whatever happens. -/
theorem reachable_of_mem_after {group : ChannelGroup M}
    (reachable : ∀ channel ∈ group.channels, channel.Reachable) (events : List (Event M)) :
    ∀ channel ∈ (group.after events).channels, channel.Reachable := by
  induction events generalizing group with
  | nil => exact reachable
  | cons event rest ih =>
    refine ih fun channel member => ?_
    -- Other events may have changed the store since the channel was last asked.
    rcases group.mem_channels_perform event member with
      old | ⟨id, rfl⟩ | ⟨before, old, request, rfl⟩
    · exact reachable channel old
    · exact .opened id
    · exact .served group.store request (reachable before old)

/-- In a run that begins without channels every channel is reachable. -/
theorem reachable_after (store : Store M) (events : List (Event M)) :
    ∀ channel ∈ ((⟨store, []⟩ : ChannelGroup M).after events).channels, channel.Reachable := by
  refine reachable_of_mem_after (fun channel member => ?_) events
  cases member

end ChannelGroup

/-! ## The group of a broker -/

namespace Broker

/-- The store and the channels of a broker. -/
def group (broker : Broker M) : ChannelGroup M := ⟨broker.store, broker.hosts.map Host.channel⟩

end Broker

end MessageBroker
