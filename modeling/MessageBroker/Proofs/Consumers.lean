import Mathlib.Logic.Function.Basic
import MessageBroker.Proofs.Numbering
import MessageBroker.Proofs.Relabel

/-!
# Pulling through a consumer

A consumer is a name for a queue: pulling through it does what a get from its queue does, and only
the context of the delivery tells the two apart (`Channel.next_inStep_get`). The consumers that are
registered can be read off the answers (`ChannelGroup.registryAt_perform`), so a run in which one
channel uses consumers can be rewritten into one in which it asks its queues directly (`withGets`).
The two runs give the same answers and keep in step in all but contexts
(`ChannelGroup.pulls_eq_gets`).
-/

set_option autoImplicit false

namespace MessageBroker

variable {M : Type}

/-! ## What the comparison leaves out -/

/-- Showing every delivery as one that was asked for once. -/
def Relabelling.asGot : Relabelling M :=
  ⟨fun delivery => { delivery with context := .get }, fun _ => rfl, fun _ => rfl, fun _ => rfl⟩

/-- The reply without contexts, and without the consumers that a close has cancelled. -/
def Reply.plain : Reply M → Reply M
  | .delivered delivery => .delivered (delivery.map Relabelling.asGot.change)
  | .recovered (.handedOut deliveries) =>
    .recovered (.handedOut (deliveries.map Relabelling.asGot.change))
  | .closed report => .closed { report with cancelledConsumers := 0 }
  | reply => reply

/-- An event and its answer, plain if the channel at the place has given it. -/
def plainAt (place : Nat) : Event M × Answer M → Event M × Answer M
  | (.request other asked, .replied reply) =>
    (.request other asked, .replied (if other = place then reply.plain else reply))
  | entry => entry

/-! ## Consumers as the answers tell them -/

/-- The consumers of one channel by their tags. -/
abbrev Registry := ConsumerTag → Option Consumer

/-- The consumers after a request that was answered so. -/
def Request.register (known : Registry) : Request M → Reply M → Registry
  | .consume queue tag noAck, .consuming _ => Function.update known tag (some ⟨queue, noAck⟩)
  | .cancel tag, .done => Function.update known tag none
  | .close, .closed _ => fun _ => none
  | _, _ => known

/-- The consumers of the channel at a place after an event that was answered so. -/
def registerAt (place : Nat) (known : Registry) : Event M × Answer M → Registry
  | (.request other asked, .replied reply) =>
    if other = place then asked.register known reply else known
  | (.drop other, .done) => if other = place then fun _ => none else known
  | _ => known

/-- The consumers of the channel at a place after some events and their answers: of each tag the
latest registration that succeeded, unless it has been cancelled or the channel closed since. -/
def registered (place : Nat) (history : List (Event M × Answer M)) : Registry :=
  history.foldl (registerAt place) fun _ => none

/-! ## Gets in the place of pulls -/

/-- The request with a pull replaced by a get from the queue of the consumer. Nothing is left of a
pull through an unknown consumer, or of a request that sets consumers. -/
def Request.asGet? (known : Registry) : Request M → Option (Request M)
  | .next tag => (known tag).map fun consumer => .get consumer.queue consumer.noAck
  | .consume _ _ _ | .cancel _ => none
  | request => some request

/-- The same for the requests to the channel at a place. -/
def Event.asGet? (place : Nat) (known : Registry) : Event M → Option (Event M)
  | .request other asked =>
    if other = place then (asked.asGet? known).map (.request other) else some (.request other asked)
  | event => some event

/-- A history in which the channel at a place asks its queues directly, with the answers given to
the pulls. -/
def withGets (place : Nat) (known : Registry) :
    List (Event M × Answer M) → List (Event M × Answer M)
  | [] => []
  | entry :: rest =>
    ((entry.1.asGet? place known).map (·, entry.2)).toList ++
      withGets place (registerAt place known entry) rest

/-! ## Consumers of one channel -/

namespace Consumers

theorem find?_append {entries : List (ConsumerTag × Consumer)} {tag : ConsumerTag}
    (free : find? ⟨entries⟩ tag = none) (consumer : Consumer) :
    find? ⟨entries ++ [(tag, consumer)]⟩ =
      Function.update (find? ⟨entries⟩) tag (some consumer) := by
  funext name
  rw [find?, List.lookup_append, Function.update_apply]
  by_cases same : name = tag
  · rw [find?] at free
    rw [if_pos same, same, free, List.lookup_cons_self, Option.none_or]
  · have apart : (name == tag) = false := beq_eq_false_iff_ne.mpr same
    rw [if_neg same, List.lookup_cons, apart, List.lookup_nil, Option.or_none, find?]

theorem find?_filter (entries : List (ConsumerTag × Consumer)) (tag : ConsumerTag) :
    find? ⟨entries.filter (·.1 ≠ tag)⟩ = Function.update (find? ⟨entries⟩) tag none := by
  funext name
  rw [Function.update_apply, find?, find?]
  induction entries with
  | nil => rw [List.filter_nil, List.lookup_nil, ite_self]
  | cons entry rest ih =>
    rw [List.filter_cons, List.lookup_cons]
    by_cases gone : entry.1 = tag
    · rw [if_neg (by simpa using gone), ih, gone]
      by_cases same : name = tag
      · rw [if_pos same, if_pos same]
      · rw [if_neg same, if_neg same, beq_eq_false_iff_ne.mpr same]
    · rw [if_pos (by simpa using gone), List.lookup_cons, ih]
      by_cases same : name = tag
      · rw [if_pos same, if_pos same,
          beq_eq_false_iff_ne.mpr fun this => gone (this.symm.trans same)]
      · rw [if_neg same, if_neg same]

end Consumers

/-- Only these requests tell of consumers. -/
theorem Request.register_of_silent {request : Request M} (silent : request.setsConsumers = false)
    (known : Registry) (reply : Reply M) : request.register known reply = known := by
  cases request with
  | consume _ _ _ => cases silent
  | cancel _ => cases silent
  | close => cases silent
  | _ => rfl

namespace Channel

/-- The consumers after a request are those that its answer tells. -/
theorem find?_consumers_serve {channel : Channel M} (coherent : channel.Coherent) (store : Store M)
    (request : Request M) :
    (channel.serve store request).2.1.consumers.find? =
      request.register channel.consumers.find? (channel.serve store request).1 := by
  by_cases isOpen : channel.isOpen = true
  case neg =>
    have closed := channel.closed_of_not_open isOpen
    rw [channel.serve_of_closed store closed]
    cases request with
    | close =>
      funext name
      rw [Consumers.find?, (coherent.cleared closed).2]
      rfl
    | _ => rfl
  case pos =>
    cases silent : request.setsConsumers with
    | false =>
      rw [(channel.step_serve store request).consumers_eq silent,
        Request.register_of_silent silent]
    | true =>
      cases request with
      | consume queue tag noAck =>
        rw [channel.serve_consume store isOpen]
        split
        · split
          · rfl
          · rename_i free
            exact Consumers.find?_append free _
        · rfl
      | cancel tag =>
        rw [channel.serve_cancel store isOpen]
        split
        · exact Consumers.find?_filter _ tag
        · rfl
      | close =>
        rw [channel.serve_close store isOpen]
        rfl
      | _ => cases silent

/-! ## A pull and a get side by side -/

/-- Two outcomes that differ in contexts and consumers only. -/
structure InStep (first second : Reply M × Channel M × Store M) : Prop where
  reply : second.1.plain = first.1.plain
  channel : second.2.1.bare .asGot = first.2.1.bare .asGot
  store : second.2.2 = first.2.2

variable {channel twin : Channel M}

/-- **A pull through a consumer does what a get from its queue does.** -/
theorem next_inStep_get (isOpen : channel.isOpen = true) (store : Store M) {tag : ConsumerTag}
    {consumer : Consumer} (found : channel.consumers.find? tag = some consumer) :
    InStep (channel.serve store (.next tag))
      (channel.serve store (.get consumer.queue consumer.noAck)) := by
  have claims := pull?_next found
  have asks : channel.pull? (.get consumer.queue consumer.noAck) =
      some ⟨consumer.queue, .get, consumer.noAck⟩ := rfl
  -- The two claims go the same way, by what the queue holds and whether a tag is left.
  cases contents : store.queue? consumer.queue with
  | none =>
    rw [channel.serve_pull_of_missing store isOpen claims contents,
      channel.serve_pull_of_missing store isOpen asks contents]
    exact ⟨rfl, rfl, rfl⟩
  | some messages =>
    cases messages with
    | nil =>
      rw [channel.serve_pull_of_empty store isOpen claims contents,
        channel.serve_pull_of_empty store isOpen asks contents]
      exact ⟨rfl, rfl, rfl⟩
    | cons head tail =>
      by_cases room : channel.tags.last < Tag.largest
      case neg =>
        rw [channel.serve_pull_of_full store isOpen claims contents room,
          channel.serve_pull_of_full store isOpen asks contents room]
        exact ⟨rfl, rfl, rfl⟩
      case pos =>
        cases noAck : consumer.noAck with
        | true =>
          rw [noAck] at claims asks
          rw [channel.serve_pull_of_noAck store isOpen claims contents room rfl,
            channel.serve_pull_of_noAck store isOpen asks contents room rfl]
          exact ⟨rfl, rfl, rfl⟩
        | false =>
          rw [noAck] at claims asks
          cases entered : channel.unacked.enter
              (channel.nextDelivery ⟨consumer.queue, .consumer tag, false⟩ head) with
          | error error =>
            have present := (UnackedTable.enter_eq_error_iff.mp entered).1
            rw [channel.serve_pull_of_duplicate store isOpen claims contents room rfl present,
              channel.serve_pull_of_duplicate store isOpen asks contents room rfl present]
            exact ⟨rfl, rfl, rfl⟩
          | ok unacked =>
            have absent := (UnackedTable.enter_eq_ok_iff.mp entered).1
            cases asked : channel.unacked.enter
                (channel.nextDelivery ⟨consumer.queue, .get, false⟩ head) with
            | error error =>
              cases absent.symm.trans (UnackedTable.enter_eq_error_iff.mp asked).1
            | ok other =>
              have tables : other.relabel .asGot = unacked.relabel .asGot :=
                UnackedTable.relabel_enter rfl entered asked rfl
              rw [channel.serve_pull_of_entered store isOpen claims contents room rfl entered,
                channel.serve_pull_of_entered store isOpen asks contents room rfl asked]
              refine ⟨rfl, ?_, rfl⟩
              rw [bare, bare, tables]

/-- What is handed out again, and what it leaves, depend on the context of nothing. -/
theorem handOutAgain_relabel_asGot (table : UnackedTable M) :
    (table.relabel .asGot).handOutAgain =
      (table.handOutAgain.1.map Relabelling.asGot.change,
        table.handOutAgain.2.relabel .asGot) := by
  have flagged : (table.relabel .asGot).adjust UnackedDelivery.handOutAgain
      UnackedDelivery.tag_handOutAgain =
        (table.adjust UnackedDelivery.handOutAgain UnackedDelivery.tag_handOutAgain).relabel
          .asGot := by
    refine table.adjust_relabel .asGot _ _ fun entry => ?_
    rw [UnackedDelivery.handOutAgain, UnackedDelivery.handOutAgain]
    change (if entry.ackPending then _ else _) = _
    split <;> rfl
  rw [UnackedTable.handOutAgain, flagged, UnackedTable.handOutAgain, Prod.mk.injEq]
  refine ⟨?_, rfl⟩
  rw [UnackedTable.entries_relabel, List.filter_map, List.map_map, List.map_map]
  rfl

/-- A request that is left out does nothing that shows. -/
theorem bare_of_left_out (store : Store M) {request : Request M}
    (left_out : request.asGet? channel.consumers.find? = none) :
    (channel.serve store request).2.2 = store ∧
      (channel.serve store request).2.1.bare .asGot = channel.bare .asGot := by
  by_cases isOpen : channel.isOpen = true
  case neg =>
    rw [channel.serve_of_closed store (channel.closed_of_not_open isOpen)]
    exact ⟨rfl, rfl⟩
  case pos =>
    cases request with
    | consume queue tag noAck =>
      rw [channel.serve_consume store isOpen]
      split
      · split <;> exact ⟨rfl, rfl⟩
      · exact ⟨rfl, rfl⟩
    | next tag =>
      rw [channel.serve_next_of_unknown store isOpen (Option.map_eq_none_iff.mp left_out)]
      exact ⟨rfl, rfl⟩
    | cancel tag =>
      rw [channel.serve_cancel store isOpen]
      split <;> exact ⟨rfl, rfl⟩
    | _ => cases left_out

/-- What a pull through a consumer delivers, and where it goes. -/
theorem pulled_through {store : Store M} {tag : ConsumerTag} {delivery : Delivery M}
    (pulled : (channel.serve store (.next tag)).1.delivery? = some delivery) :
    ∃ consumer, channel.consumers.find? tag = some consumer ∧
      delivery.context = .consumer tag ∧ delivery.queue = consumer.queue ∧
      (consumer.noAck = false →
        ∃ entry ∈ (channel.serve store (.next tag)).2.1.unacked.entries,
          entry.delivery = delivery) := by
  have step := channel.step_serve store (.next tag)
  generalize channel.serve store (.next tag) = outcome at pulled step
  obtain ⟨reply, after, later⟩ := outcome
  cases step with
  | @consumed _ claim head _ _ claims _ _ noAck =>
    obtain ⟨consumer, found, rfl⟩ := Option.map_eq_some_iff.mp claims
    cases pulled
    exact ⟨consumer, found, rfl, rfl, fun needed => by cases needed.symm.trans noAck⟩
  | @handedOut _ claim head _ _ _ claims _ _ _ entered =>
    obtain ⟨consumer, found, rfl⟩ := Option.map_eq_some_iff.mp claims
    cases pulled
    refine ⟨consumer, found, rfl, rfl, fun _ => ⟨⟨_, false⟩, ?_, rfl⟩⟩
    rw [(UnackedTable.enter_eq_ok_iff.mp entered).2]
    exact UnackedTable.mem_insertEntry.mpr (.inl rfl)
  | _ => cases pulled

variable (same : twin.bare .asGot = channel.bare .asGot)

include same

theorem get_inStep_get (isOpen : channel.isOpen = true) (store : Store M) (queue : QueueName)
    (noAck : Bool) :
    InStep (channel.serve store (.get queue noAck)) (twin.serve store (.get queue noAck)) := by
  have claims : channel.pull? (.get queue noAck) = some ⟨queue, .get, noAck⟩ := rfl
  obtain ⟨reply, channels, stores⟩ := pull_of_bare_eq same isOpen store claims rfl
  exact ⟨congrArg Reply.plain reply, channels, stores⟩

/-- A request that stays or is replaced, between channels alike. -/
theorem inStep_of_asGet? (store : Store M) {request asked : Request M}
    (replaced : request.asGet? channel.consumers.find? = some asked) :
    InStep (channel.serve store request) (twin.serve store asked) := by
  by_cases isOpen : channel.isOpen = true
  case neg =>
    obtain ⟨id, mode, _⟩ := parts_of_bare_eq same
    have closed := channel.closed_of_not_open isOpen
    have ends : asked.isClose = request.isClose := by
      cases request with
      | next tag =>
        obtain ⟨consumer, _, rfl⟩ := Option.map_eq_some_iff.mp replaced
        rfl
      | _ => cases replaced <;> rfl
    rw [channel.serve_of_closed store closed, twin.serve_of_closed store (mode.trans closed), ends,
      id]
    exact ⟨rfl, same, rfl⟩
  case pos =>
    have twinOpen : twin.isOpen = true := by rwa [isOpen_of_bare_eq same]
    have blindly : ∀ {request : Request M}, request.isBlind = true →
        InStep (channel.serve store request) (twin.serve store request) := by
      intro request blind
      obtain ⟨reply, channels, stores⟩ := serve_of_bare_eq same store blind
      exact ⟨congrArg Reply.plain reply, channels, stores⟩
    cases request with
    | get queue noAck =>
      cases replaced
      exact get_inStep_get same isOpen store queue noAck
    | next tag =>
      obtain ⟨consumer, found, rfl⟩ := Option.map_eq_some_iff.mp replaced
      -- The way leads over a get on the channel itself.
      have here := next_inStep_get isOpen store found
      have there := get_inStep_get same isOpen store consumer.queue consumer.noAck
      exact ⟨there.reply.trans here.reply, there.channel.trans here.channel,
        there.store.trans here.store⟩
    | consume queue tag noAck => cases replaced
    | cancel tag => cases replaced
    | close =>
      cases replaced
      obtain ⟨after, eq, twin_eq⟩ := close_of_bare_eq same isOpen store
      rw [eq, twin_eq]
      exact ⟨rfl, rfl, rfl⟩
    | recover requeue =>
      cases replaced
      cases requeue with
      | true => exact blindly rfl
      | false =>
        obtain ⟨id, mode, tags, tables, buffer⟩ := parts_of_bare_eq same
        have handed := handOutAgain_relabel_asGot twin.unacked
        rw [tables, handOutAgain_relabel_asGot, Prod.mk.injEq] at handed
        rw [channel.serve_redelivering store isOpen, twin.serve_redelivering store twinOpen]
        refine ⟨?_, ?_, rfl⟩
        · rw [Reply.plain, Reply.plain, handed.1]
        · rw [bare, bare, handed.2, id, mode, tags, buffer]
    | _ =>
      cases replaced
      exact blindly rfl

end Channel

/-! ## Runs -/

namespace ChannelGroup

/-- The consumers of the channel at a place, none before there is one. -/
def registryAt (group : ChannelGroup M) (place : Nat) : Registry :=
  (group.channels[place]?.map (·.consumers.find?)).getD fun _ => none

theorem registryAt_of_some {group : ChannelGroup M} {place : Nat} {channel : Channel M}
    (found : group.channels[place]? = some channel) :
    group.registryAt place = channel.consumers.find? := by
  rw [registryAt, found]
  rfl

/-- **The answers tell which consumers are registered.** -/
theorem registryAt_perform {group : ChannelGroup M}
    (reachable : ∀ channel ∈ group.channels, channel.Reachable) (place : Nat) (event : Event M) :
    (group.perform event).2.registryAt place =
      registerAt place (group.registryAt place) (event, (group.perform event).1) := by
  have unasked : event.requestTo? place = none →
      (group.perform event).2.registryAt place = group.registryAt place :=
    map_getD_of_unasked fun _ => rfl
  have served : ∀ {channel : Channel M} {request : Request M},
      group.channels[place]? = some channel → event.requestTo? place = some request →
      (group.perform event).2.registryAt place =
        request.register (group.registryAt place) (channel.serve group.store request).1 := by
    intro channel request found asked
    have coherent := Channel.coherent_of_reachable
      (reachable channel (List.mem_of_getElem? found))
    rw [registryAt_of_some (getElem?_perform_of_requestTo? found asked), registryAt_of_some found]
    exact Channel.find?_consumers_serve coherent group.store request
  cases event with
  | queue request => rfl
  | opening id => exact unasked rfl
  | request other request =>
    cases found : group.channels[other]? with
    | none =>
      rw [group.perform_request_of_none found]
      rfl
    | some channel =>
      by_cases here : other = place
      · subst other
        rw [served found (Event.requestTo?_request place request),
          group.perform_request_of_some found]
        exact (if_pos rfl).symm
      · rw [unasked (if_neg here), group.perform_request_of_some found]
        exact (if_neg here).symm
  | drop other =>
    cases found : group.channels[other]? with
    | none =>
      rw [group.perform_drop_of_none found]
      rfl
    | some channel =>
      by_cases here : other = place
      · subst other
        rw [served found (Event.requestTo?_drop place), group.perform_drop_of_some found]
        exact (if_pos rfl).symm
      · rw [unasked (if_neg here), group.perform_drop_of_some found]
        exact (if_neg here).symm

theorem registryAt_after {group : ChannelGroup M}
    (reachable : ∀ channel ∈ group.channels, channel.Reachable) (place : Nat)
    (events : List (Event M)) :
    (group.after events).registryAt place =
      (group.history events).foldl (registerAt place) (group.registryAt place) := by
  induction events generalizing group with
  | nil => rfl
  | cons event rest ih =>
    have later := ih (reachable_of_mem_after reachable [event])
    rw [after_cons, after_nil] at later
    rw [after_cons, later, registryAt_perform reachable, history_cons, List.foldl_cons]

/-! ### Both runs side by side -/

/-- Groups that differ at one place only, in contexts and consumers. -/
structure Mirrored (place : Nat) (group twin : ChannelGroup M) : Prop where
  store : twin.store = group.store
  size : twin.channels.length = group.channels.length
  others : ∀ other, other ≠ place → twin.channels[other]? = group.channels[other]?
  own : twin.channels[place]?.map (Channel.bare .asGot) =
    group.channels[place]?.map (Channel.bare .asGot)

namespace Mirrored

variable {place : Nat} {group twin : ChannelGroup M}

theorem refl (place : Nat) (group : ChannelGroup M) : Mirrored place group group :=
  ⟨rfl, rfl, fun _ _ => rfl, rfl⟩

theorem channel_of_own (mirrored : Mirrored place group twin) {channel : Channel M}
    (found : group.channels[place]? = some channel) :
    ∃ other, twin.channels[place]? = some other ∧ other.bare .asGot = channel.bare .asGot := by
  have own := mirrored.own
  rw [found] at own
  exact Option.map_eq_some_iff.mp own

theorem missing (mirrored : Mirrored place group twin) (missing : group.channels[place]? = none) :
    twin.channels[place]? = none := by
  rw [List.getElem?_eq_none_iff] at missing ⊢
  rwa [mirrored.size]

/-- Both groups after a request to the channel at the place. -/
theorem set_own (mirrored : Mirrored place group twin) {channel other : Channel M}
    (store : Store M) (alike : other.bare .asGot = channel.bare .asGot) :
    Mirrored place ⟨store, group.channels.set place channel⟩
      ⟨store, twin.channels.set place other⟩ where
  store := rfl
  size := by simpa using mirrored.size
  others at_other apart := by
    rw [List.getElem?_set_ne apart.symm, List.getElem?_set_ne apart.symm]
    exact mirrored.others at_other apart
  own := by
    rw [List.getElem?_set, List.getElem?_set, if_pos rfl, if_pos rfl, mirrored.size]
    split
    · exact congrArg some alike
    · rfl

/-- Both groups after a request to another channel. -/
theorem set_other (mirrored : Mirrored place group twin) {elsewhere : Nat}
    (apart : elsewhere ≠ place) (store : Store M) (channel : Channel M) :
    Mirrored place ⟨store, group.channels.set elsewhere channel⟩
      ⟨store, twin.channels.set elsewhere channel⟩ where
  store := rfl
  size := by simpa using mirrored.size
  others at_other other_apart := by
    rw [List.getElem?_set, List.getElem?_set, mirrored.size, mirrored.others at_other other_apart]
  own := by
    rw [List.getElem?_set_ne apart, List.getElem?_set_ne apart]
    exact mirrored.own

/-- A request that is left out. -/
theorem left_out (mirrored : Mirrored place group twin) {event : Event M}
    (nothing : event.asGet? place (group.registryAt place) = none) :
    Mirrored place (group.perform event).2 twin := by
  cases event with
  | request other request =>
    rw [Event.asGet?] at nothing
    split at nothing
    · rename_i here
      subst other
      have gone := Option.map_eq_none_iff.mp nothing
      cases found : group.channels[place]? with
      | none =>
        rw [group.perform_request_of_none found]
        exact mirrored
      | some channel =>
        obtain ⟨other, other_found, alike⟩ := mirrored.channel_of_own found
        rw [registryAt_of_some found] at gone
        obtain ⟨untouched, hidden⟩ := Channel.bare_of_left_out group.store gone
        rw [group.perform_request_of_some found, untouched]
        -- The twin keeps its channel.
        have changed := mirrored.set_own group.store (alike.trans hidden.symm)
        rw [set_eq_self other_found, ← mirrored.store] at changed
        rw [← mirrored.store]
        exact changed
    · cases nothing
  | _ => cases nothing

/-- An event that stays or is replaced. -/
theorem replaced (mirrored : Mirrored place group twin) {event asked : Event M}
    (instead : event.asGet? place (group.registryAt place) = some asked) :
    Mirrored place (group.perform event).2 (twin.perform asked).2 ∧
      plainAt place (asked, (twin.perform asked).1) =
        plainAt place (asked, (group.perform event).1) := by
  cases event with
  | queue request =>
    cases instead
    rw [ChannelGroup.perform, ChannelGroup.perform, mirrored.store]
    exact ⟨⟨rfl, mirrored.size, mirrored.others, mirrored.own⟩, rfl⟩
  | opening id =>
    cases instead
    rw [ChannelGroup.perform, ChannelGroup.perform, mirrored.size]
    refine ⟨⟨mirrored.store, ?_, ?_, ?_⟩, rfl⟩
    · simpa using mirrored.size
    · intro other apart
      rw [List.getElem?_append, List.getElem?_append, mirrored.size, mirrored.others other apart]
    · rw [List.getElem?_append, List.getElem?_append, mirrored.size]
      split
      · exact mirrored.own
      · rfl
  | request other request =>
    rw [Event.asGet?] at instead
    split at instead
    · rename_i here
      subst other
      obtain ⟨request', turned, rfl⟩ := Option.map_eq_some_iff.mp instead
      cases found : group.channels[place]? with
      | none =>
        rw [group.perform_request_of_none found,
          twin.perform_request_of_none (mirrored.missing found)]
        exact ⟨mirrored, rfl⟩
      | some channel =>
        obtain ⟨other, other_found, alike⟩ := mirrored.channel_of_own found
        rw [registryAt_of_some found] at turned
        have served := Channel.inStep_of_asGet? alike group.store turned
        rw [group.perform_request_of_some found, twin.perform_request_of_some other_found,
          mirrored.store, served.store]
        refine ⟨mirrored.set_own _ served.channel, ?_⟩
        rw [plainAt, plainAt, if_pos rfl, if_pos rfl, served.reply]
    · rename_i apart
      cases instead
      have same := mirrored.others other apart
      cases found : group.channels[other]? with
      | none =>
        rw [group.perform_request_of_none found, twin.perform_request_of_none (same.trans found)]
        exact ⟨mirrored, rfl⟩
      | some channel =>
        rw [group.perform_request_of_some found, twin.perform_request_of_some (same.trans found),
          mirrored.store]
        exact ⟨mirrored.set_other apart _ _, rfl⟩
  | drop other =>
    cases instead
    by_cases here : other = place
    · subst other
      cases found : group.channels[place]? with
      | none =>
        rw [group.perform_drop_of_none found, twin.perform_drop_of_none (mirrored.missing found)]
        exact ⟨mirrored, rfl⟩
      | some channel =>
        obtain ⟨other, other_found, alike⟩ := mirrored.channel_of_own found
        have closing : (Request.close : Request M).asGet? channel.consumers.find? =
            some .close := rfl
        have served := Channel.inStep_of_asGet? alike group.store closing
        rw [group.perform_drop_of_some found, twin.perform_drop_of_some other_found,
          mirrored.store, served.store]
        exact ⟨mirrored.set_own _ served.channel, rfl⟩
    · have same := mirrored.others other here
      cases found : group.channels[other]? with
      | none =>
        rw [group.perform_drop_of_none found, twin.perform_drop_of_none (same.trans found)]
        exact ⟨mirrored, rfl⟩
      | some channel =>
        rw [group.perform_drop_of_some found, twin.perform_drop_of_some (same.trans found),
          mirrored.store]
        exact ⟨mirrored.set_other here _ _, rfl⟩

/-- **Both runs keep in step.** -/
theorem run (mirrored : Mirrored place group twin)
    (reachable : ∀ channel ∈ group.channels, channel.Reachable) (events : List (Event M)) :
    let turned := withGets place (group.registryAt place) (group.history events)
    Mirrored place (group.after events) (twin.after (turned.map (·.1))) ∧
      (twin.history (turned.map (·.1))).map (plainAt place) = turned.map (plainAt place) := by
  intro turned
  induction events generalizing group twin with
  | nil => exact ⟨mirrored, rfl⟩
  | cons event rest ih =>
    have rest_reachable := reachable_of_mem_after reachable [event]
    have registry := registryAt_perform reachable place event
    have turned_eq : turned =
        ((event.asGet? place (group.registryAt place)).map (·, (group.perform event).1)).toList ++
          withGets place ((group.perform event).2.registryAt place)
            ((group.perform event).2.history rest) := by
      rw [registry]
      rfl
    rw [turned_eq]
    cases instead : event.asGet? place (group.registryAt place) with
    | none => exact ih (mirrored.left_out instead) rest_reachable
    | some asked =>
      obtain ⟨still, answers⟩ := mirrored.replaced instead
      obtain ⟨later, later_answers⟩ := ih still rest_reachable
      refine ⟨later, ?_⟩
      exact congrArg₂ List.cons answers later_answers

end Mirrored

/-! ### What is pulled -/

/-- An entry under the tag of a delivery is this delivery, up to its flag. -/
theorem delivery_of_tag_eq (store : Store M) {place : Nat} {events : List (Event M)}
    {channel : Channel M} {entry : UnackedDelivery M} {delivery : Delivery M}
    (found : ((⟨store, []⟩ : ChannelGroup M).after events).channels[place]? = some channel)
    (member : entry ∈ channel.unacked.entries)
    (made : delivery ∈ (⟨store, []⟩ : ChannelGroup M).deliveries place events)
    (same_tag : entry.tag = delivery.tag) :
    ∃ flag, entry.delivery = { delivery with redelivered := flag } := by
  obtain ⟨earlier, event, later, original, rfl, delivered, shown⟩ :=
    exists_delivery_of_entry store found member
  have reachable : ∀ channel ∈ (⟨store, []⟩ : ChannelGroup M).channels, channel.Reachable :=
    reachable_after store []
  have distinct : (((⟨store, []⟩ : ChannelGroup M).deliveries place
      (earlier ++ event :: later)).map (·.tag)).Nodup := by
    rw [(tags_deliveries reachable place _).1]
    exact List.nodup_range'
  have tag_eq : original.tag = delivery.tag :=
    (congrArg Delivery.tag shown).symm.trans same_tag
  have same := List.inj_on_of_nodup_map distinct (mem_deliveries_of_split delivered later) made
    tag_eq
  rw [same] at shown
  exact ⟨_, shown⟩

/-- **Pulling through a consumer is getting from its queue.** Take any run of channels on a shared
store and the run in which the channel at one place asks its queues directly: each pull through a
registered consumer is a get from the queue of the latest registration, and whatever else has to do
with consumers is left out. Both runs give the same answers, up to the contexts in the answers of
this channel and the consumers cancelled by its close. At every point they have the same store and
the same other channels, and this channel is the same up to the contexts in its table and its
consumers. In the run with consumers a delivery carries the consumer that has pulled it and the
queue this consumer was registered on, it enters the table unless the consumer does without
acknowledgements, and its entry keeps both for the rest of the run. -/
theorem pulls_eq_gets (store : Store M) (place : Nat) (events : List (Event M)) :
    let start : ChannelGroup M := ⟨store, []⟩
    let turned := fun events => withGets place (fun _ => none) (start.history events)
    (start.history ((turned events).map (·.1))).map (plainAt place) =
        (turned events).map (plainAt place) ∧
      (∀ n,
        let full := start.after (events.take n)
        let plain := start.after ((turned (events.take n)).map (·.1))
        plain.store = full.store ∧
          (∀ other, other ≠ place → plain.channels[other]? = full.channels[other]?) ∧
          plain.channels[place]?.map (Channel.bare .asGot) =
            full.channels[place]?.map (Channel.bare .asGot)) ∧
      ∀ earlier channel, (start.after earlier).channels[place]? = some channel →
        channel.consumers.find? = registered place (start.history earlier) ∧
          ∀ tag delivery,
            let pull : Event M := .request place (.next tag)
            deliveryAt? place (pull, ((start.after earlier).perform pull).1) = some delivery →
              ∃ consumer, channel.consumers.find? tag = some consumer ∧
                delivery.context = .consumer tag ∧ delivery.queue = consumer.queue ∧
                ∀ later after,
                  (start.after (earlier ++ pull :: later)).channels[place]? = some after →
                  (later = [] → consumer.noAck = false →
                    ∃ entry ∈ after.unacked.entries, entry.delivery = delivery) ∧
                  ∀ entry ∈ after.unacked.entries, entry.tag = delivery.tag →
                    entry.delivery.context = .consumer tag ∧
                      entry.delivery.queue = consumer.queue := by
  intro start turned
  have reachable : ∀ channel ∈ start.channels, channel.Reachable := reachable_after store []
  have mirrored := Mirrored.refl place start
  refine ⟨(mirrored.run reachable events).2, fun n => ?states, ?pulled⟩
  case states =>
    obtain ⟨stores, _, others, own⟩ := (mirrored.run reachable (events.take n)).1
    exact ⟨stores, others, own⟩
  case pulled =>
    intro earlier channel found
    refine ⟨?_, ?_⟩
    · rw [← registryAt_of_some found, registryAt_after reachable]
      rfl
    · intro tag delivery pull pulled
      have asked := Event.requestTo?_request place (Request.next tag : Request M)
      have made := pulled
      rw [deliveryAt?_of_requestTo? asked found] at made
      obtain ⟨consumer, known, context, queue, entered⟩ := Channel.pulled_through made
      refine ⟨consumer, known, context, queue, fun later after after_found => ⟨?_, ?_⟩⟩
      · rintro rfl acknowledged
        rw [after_append, after_cons, after_nil,
          getElem?_perform_of_requestTo? found asked] at after_found
        obtain rfl := Option.some.inj after_found
        exact entered acknowledged
      · intro entry member same_tag
        obtain ⟨flag, shown⟩ := delivery_of_tag_eq store after_found member
          (mem_deliveries_of_split pulled later) same_tag
        rw [shown]
        exact ⟨context, queue⟩

/-- A consumer that is registered again under its tag, and pulled through once more after that. -/
example :
    let tag : ConsumerTag := .named "c"
    let run : List (Event Nat) :=
      [.queue (.declare "a"), .queue (.declare "b"), .opening "x",
        .request 0 (.consume "a" tag false), .request 0 (.next tag), .request 0 (.cancel tag),
        .request 0 (.next tag), .request 0 (.consume "b" tag true), .request 0 (.next tag)]
    (withGets 0 (fun _ => none) ((⟨.empty, []⟩ : ChannelGroup Nat).history run)).map (·.1) =
      [.queue (.declare "a"), .queue (.declare "b"), .opening "x", .request 0 (.get "a" false),
        .request 0 (.get "b" true)] := by
  decide

end ChannelGroup

end MessageBroker
