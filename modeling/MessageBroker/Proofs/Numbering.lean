import Mathlib.Data.List.Induction
import Mathlib.Data.List.Nodup
import MessageBroker.Proofs.Refusal

/-!
# Numbering of deliveries

The deliveries of a channel carry the tags `1, 2, 3, …` in the order in which they are made, and
the counter of the channel is the number of them (`ChannelGroup.tags_deliveries`): nothing else
issues a tag, and nothing takes one back. What stands in the table of a channel is a delivery it has
made, with the flag that recoveries have added since (`ChannelGroup.exists_delivery_of_entry`).
-/

set_option autoImplicit false

namespace MessageBroker

variable {M : Type}

/-- The delivery a reply makes. -/
def Reply.delivery? : Reply M → Option (Delivery M)
  | .delivered delivery => delivery
  | _ => none

/-- The delivery an answer makes. -/
def Answer.delivery? : Answer M → Option (Delivery M)
  | .replied reply => reply.delivery?
  | _ => none

/-- The delivery that the channel at a place makes by an event with this answer. -/
def deliveryAt? (place : Nat) (entry : Event M × Answer M) : Option (Delivery M) :=
  if (entry.1.requestTo? place).isSome then entry.2.delivery? else none

/-- A delivery, flagged as redelivered also if this condition holds. -/
def Delivery.flaggedIf (again : Bool) (delivery : Delivery M) : Delivery M :=
  { delivery with redelivered := delivery.redelivered || again }

@[simp] theorem Delivery.flaggedIf_false (delivery : Delivery M) :
    delivery.flaggedIf false = delivery := by
  rw [flaggedIf, Bool.or_false]

theorem Delivery.flaggedIf_flaggedIf (delivery : Delivery M) (first second : Bool) :
    (delivery.flaggedIf first).flaggedIf second = delivery.flaggedIf (first || second) := by
  rw [flaggedIf, flaggedIf, flaggedIf, Bool.or_assoc]

namespace Channel

variable {channel after : Channel M} {store later : Store M} {request : Request M}
  {reply : Reply M}

/-- True if the request is a recovery that hands out again what is outstanding under this tag. -/
def redelivers (channel : Channel M) (tag : Nat) : Request M → Bool
  | .recover false => channel.unacked.contains tag && !channel.unacked.isPending tag
  | _ => false

/-! ## One request -/

/-- A delivery carries the tag after the last one, and no other request issues a tag. -/
theorem Step.numbered (step : Step channel store request reply after later)
    (coherent : channel.Coherent) :
    reply.delivery?.toList.map (·.tag) =
        List.range' (channel.tags.last + 1) reply.delivery?.toList.length ∧
      after.tags.last = channel.tags.last + reply.delivery?.toList.length := by
  cases step with
  | duplicated _ _ _ _ _ outstanding => cases coherent.contains_next.symm.trans outstanding
  | _ => exact ⟨rfl, rfl⟩

theorem Step.last_le (step : Step channel store request reply after later)
    (bounded : channel.tags.last ≤ Tag.largest) : after.tags.last ≤ Tag.largest := by
  cases step with
  | consumed _ _ _ room => exact room
  | handedOut _ _ _ room => exact room
  | duplicated _ _ _ room => exact room
  | _ => exact bounded

theorem last_le_of_reachable {channel : Channel M} (reachable : channel.Reachable) :
    channel.tags.last ≤ Tag.largest := by
  induction reachable with
  | opened id => exact Nat.zero_le _
  | served store request _ ih => exact (step_serve _ store request).last_le ih

/-- The next tag is never taken. -/
theorem Coherent.ne_duplicateTag (coherent : channel.Coherent) (store : Store M)
    (request : Request M) (tag : Nat) :
    (channel.serve store request).1 ≠ .failed (.duplicateTag tag) := by
  intro answer
  cases coherent.verdict store request with
  | granted eq success =>
    rw [eq] at answer
    exact success _ answer
  | refused refusal eq =>
    rw [eq] at answer
    obtain rfl := Reply.failed.inj answer
    cases refusal
  | exhausted _ exhausted => cases exhausted.symm.trans answer

/-- A delivery that enters the table joins the old ones, which stay as they are. -/
theorem Step.entry_cases (step : Step channel store request reply after later)
    (noRecovery : request ≠ .recover false) {entry : UnackedDelivery M}
    (member : entry ∈ after.unacked.entries) :
    (∃ old ∈ channel.unacked.entries, entry.delivery = old.delivery) ∨
      reply = .delivered (some entry.delivery) := by
  have kept : ∀ {test : UnackedDelivery M → Bool},
      entry ∈ (channel.unacked.keep test).entries →
      ∃ old ∈ channel.unacked.entries, entry.delivery = old.delivery :=
    fun kept => ⟨entry, (List.mem_filter.mp kept).1, rfl⟩
  cases step with
  | @handedOut _ claim head _ unacked _ _ _ _ _ entered =>
    rw [(UnackedTable.enter_eq_ok_iff.mp entered).2] at member
    rcases UnackedTable.mem_insertEntry.mp member with rfl | old
    · exact .inr rfl
    · exact .inl ⟨entry, old, rfl⟩
  | acked => exact .inl (kept member)
  | deferredAck =>
    obtain ⟨old, old_mem, rfl⟩ := List.mem_map.mp member
    exact .inl ⟨old, old_mem, UnackedDelivery.delivery_flagBy ..⟩
  | committed => exact .inl (kept member)
  | rolledBack =>
    obtain ⟨old, old_mem, rfl⟩ := List.mem_map.mp member
    exact .inl ⟨old, old_mem, rfl⟩
  | returned => exact .inl (kept member)
  | redelivered => exact absurd rfl noRecovery
  | closed => cases member
  | _ => exact .inl ⟨entry, member, rfl⟩

/-- **What is in the table after a request** was there before, with its flag set by a recovery at
most, or is the delivery the request has made. -/
theorem Coherent.entry_serve (coherent : channel.Coherent) (store : Store M) (request : Request M)
    {entry : UnackedDelivery M}
    (member : entry ∈ (channel.serve store request).2.1.unacked.entries) :
    (∃ old ∈ channel.unacked.entries,
        entry.delivery = old.delivery.flaggedIf (channel.redelivers old.delivery.tag request)) ∨
      (channel.serve store request).1 = .delivered (some entry.delivery) := by
  by_cases recovery : request = .recover false
  case neg =>
    have unflagged : ∀ tag, channel.redelivers tag request = false := by
      intro tag
      unfold redelivers
      split
      · exact absurd rfl recovery
      · rfl
    rcases (channel.step_serve store request).entry_cases recovery member with
      ⟨old, old_mem, same⟩ | made
    · refine .inl ⟨old, old_mem, ?_⟩
      rw [unflagged, Delivery.flaggedIf_false, same]
    · exact .inr made
  case pos =>
    subst recovery
    refine .inl ?_
    by_cases isOpen : channel.isOpen = true
    case neg =>
      have closed := channel.closed_of_not_open isOpen
      rw [channel.serve_of_closed store closed] at member
      rw [(coherent.cleared closed).1] at member
      cases member
    case pos =>
      rw [channel.serve_redelivering store isOpen] at member
      obtain ⟨old, old_mem, rfl⟩ := List.mem_map.mp member
      refine ⟨old, old_mem, ?_⟩
      have outstanding : channel.redelivers old.delivery.tag (.recover false) =
          !old.ackPending := by
        rw [redelivers, Bool.eq_iff_iff, UnackedTable.contains_and_not_isPending_iff,
          Bool.not_eq_true']
        constructor
        · rintro ⟨other, other_mem, same, free⟩
          rwa [channel.unacked.eq_of_tag_eq other_mem old_mem same] at free
        · exact fun free => ⟨old, old_mem, rfl, free⟩
      rw [outstanding, UnackedDelivery.handOutAgain]
      cases pending : old.ackPending with
      | true => exact (Delivery.flaggedIf_false _).symm
      | false => simp [Delivery.flaggedIf]

end Channel

/-! ## Runs -/

namespace ChannelGroup

/-- The deliveries of the channel at a place in a run, oldest first. -/
def deliveries (group : ChannelGroup M) (place : Nat) (events : List (Event M)) :
    List (Delivery M) :=
  (group.history events).filterMap (deliveryAt? place)

/-- The last tag issued by the channel at a place, 0 before there is one. -/
def lastAt (group : ChannelGroup M) (place : Nat) : Nat :=
  (group.channels[place]?.map (·.tags.last)).getD 0

/-- True if a recovery of the run hands out again what the channel at a place has outstanding under
this tag. -/
def redelivers (group : ChannelGroup M) (place tag : Nat) : List (Event M) → Bool
  | [] => false
  | event :: rest =>
    (match group.channels[place]?, event.requestTo? place with
      | some channel, some request => channel.redelivers tag request
      | _, _ => false) || (group.perform event).2.redelivers place tag rest

theorem deliveries_append (group : ChannelGroup M) (place : Nat) (first second : List (Event M)) :
    group.deliveries place (first ++ second) =
      group.deliveries place first ++ (group.after first).deliveries place second := by
  rw [deliveries, history_append, List.filterMap_append]
  rfl

theorem deliveries_cons (group : ChannelGroup M) (place : Nat) (event : Event M)
    (rest : List (Event M)) :
    group.deliveries place (event :: rest) =
      (deliveryAt? place (event, (group.perform event).1)).toList ++
        (group.perform event).2.deliveries place rest := by
  rw [deliveries, history_cons, List.filterMap_cons]
  cases deliveryAt? place (event, (group.perform event).1) <;> rfl

theorem redelivers_append (group : ChannelGroup M) (place tag : Nat)
    (first second : List (Event M)) :
    group.redelivers place tag (first ++ second) =
      (group.redelivers place tag first || (group.after first).redelivers place tag second) := by
  induction first generalizing group with
  | nil => rfl
  | cons event rest ih =>
    rw [List.cons_append, redelivers, redelivers, ih, Bool.or_assoc, after_cons]

section Asked

variable {group : ChannelGroup M} {place : Nat} {event : Event M}

theorem deliveryAt?_of_unasked (unasked : event.requestTo? place = none) (answer : Answer M) :
    deliveryAt? place (event, answer) = none := by
  rw [deliveryAt?, unasked]
  rfl

variable {request : Request M} (asked : event.requestTo? place = some request)

include asked

theorem deliveryAt?_of_missing (missing : group.channels[place]? = none) :
    deliveryAt? place (event, (group.perform event).1) = none := by
  rw [deliveryAt?, asked]
  cases event with
  | queue _ => cases asked
  | opening _ => cases asked
  | request other _ =>
    simp only [Event.requestTo?, Option.ite_none_right_eq_some] at asked
    rw [asked.1, group.perform_request_of_none missing]
    rfl
  | drop other =>
    simp only [Event.requestTo?, Option.ite_none_right_eq_some] at asked
    rw [asked.1, group.perform_drop_of_none missing]
    rfl

theorem deliveryAt?_of_requestTo? {channel : Channel M}
    (found : group.channels[place]? = some channel) :
    deliveryAt? place (event, (group.perform event).1) =
      (channel.serve group.store request).1.delivery? := by
  rw [deliveryAt?, asked]
  cases event with
  | queue _ => cases asked
  | opening _ => cases asked
  | request other _ =>
    simp only [Event.requestTo?, Option.ite_none_right_eq_some, Option.some.injEq] at asked
    obtain ⟨rfl, rfl⟩ := asked
    rw [group.perform_request_of_some found]
    rfl
  | drop other =>
    -- The answer to the end of a channel is silent, as its reply would be.
    simp only [Event.requestTo?, Option.ite_none_right_eq_some, Option.some.injEq] at asked
    obtain ⟨rfl, rfl⟩ := asked
    rw [group.perform_drop_of_some found]
    rfl

end Asked

section Reachable

variable {group : ChannelGroup M} (reachable : ∀ channel ∈ group.channels, channel.Reachable)

include reachable

theorem numbered_perform (place : Nat) (event : Event M) :
    let made := (deliveryAt? place (event, (group.perform event).1)).toList
    made.map (·.tag) = List.range' (group.lastAt place + 1) made.length ∧
      (group.perform event).2.lastAt place = group.lastAt place + made.length := by
  cases asked : event.requestTo? place with
  | none =>
    rw [deliveryAt?_of_unasked asked]
    exact ⟨rfl, map_getD_of_unasked (fun _ => rfl) asked⟩
  | some request =>
    cases found : group.channels[place]? with
    | none =>
      rw [deliveryAt?_of_missing asked found, perform_of_missing found asked]
      exact ⟨rfl, rfl⟩
    | some channel =>
      have coherent := Channel.coherent_of_reachable
        (reachable channel (List.mem_of_getElem? found))
      rw [deliveryAt?_of_requestTo? asked found, lastAt, lastAt, found,
        getElem?_perform_of_requestTo? found asked]
      exact (channel.step_serve group.store request).numbered coherent

/-- **The deliveries of a channel are numbered in order**, and its counter is the number of them. -/
theorem tags_deliveries (place : Nat) (events : List (Event M)) :
    (group.deliveries place events).map (·.tag) =
        List.range' (group.lastAt place + 1) (group.deliveries place events).length ∧
      (group.after events).lastAt place =
        group.lastAt place + (group.deliveries place events).length := by
  induction events generalizing group with
  | nil => exact ⟨rfl, rfl⟩
  | cons event rest ih =>
    -- The rest of the run goes on with the number after the last one.
    obtain ⟨first_tags, first_last⟩ := numbered_perform reachable place event
    obtain ⟨rest_tags, rest_last⟩ := ih (reachable_of_mem_after reachable [event])
    rw [after_cons, after_nil, first_last] at rest_tags rest_last
    rw [deliveries_cons, List.map_append, List.length_append, after_cons]
    refine ⟨?tags, ?last⟩
    case tags =>
      rw [first_tags, rest_tags, Nat.add_right_comm, List.range'_append_1]
    case last => rw [rest_last, Nat.add_assoc]

end Reachable

theorem lastAt_le (store : Store M) (place : Nat) (events : List (Event M)) :
    ((⟨store, []⟩ : ChannelGroup M).after events).lastAt place ≤ Tag.largest := by
  rw [lastAt]
  cases found : ((⟨store, []⟩ : ChannelGroup M).after events).channels[place]? with
  | none => exact Nat.zero_le _
  | some channel =>
    have reachable := reachable_after store events channel (List.mem_of_getElem? found)
    exact Channel.last_le_of_reachable reachable

/-- The event that has made a delivery splits the run in two. -/
theorem mem_deliveries_of_split {start : ChannelGroup M} {place : Nat} {event : Event M}
    {earlier : List (Event M)} {delivery : Delivery M}
    (made : deliveryAt? place (event, ((start.after earlier).perform event).1) = some delivery)
    (later : List (Event M)) : delivery ∈ start.deliveries place (earlier ++ event :: later) := by
  rw [deliveries_append, deliveries_cons, made]
  exact List.mem_append_right _ (List.mem_append_left _ (List.mem_singleton_self _))

/-- A recovery of the last event counts if the channel is there and the event asks it. -/
theorem redelivers_concat {start : ChannelGroup M} {place : Nat} {events : List (Event M)}
    {channel : Channel M} (found : (start.after events).channels[place]? = some channel)
    {event : Event M} {request : Request M} (asked : event.requestTo? place = some request)
    (tag : Nat) :
    start.redelivers place tag (events ++ [event]) =
      (start.redelivers place tag events || channel.redelivers tag request) := by
  rw [redelivers_append, redelivers, found, asked]
  exact congrArg _ (Bool.or_false _)

theorem redelivers_concat_of_unasked (start : ChannelGroup M) {place : Nat}
    (events : List (Event M)) {event : Event M} (unasked : event.requestTo? place = none)
    (tag : Nat) :
    start.redelivers place tag (events ++ [event]) = start.redelivers place tag events := by
  rw [redelivers_append, redelivers, unasked]
  cases (start.after events).channels[place]? <;> exact Bool.or_false _

/-- **What stands in the table of a channel is a delivery that it has made**, with its flag set by
the recoveries since. -/
theorem exists_delivery_of_entry (store : Store M) {place : Nat} {events : List (Event M)}
    {channel : Channel M} {entry : UnackedDelivery M}
    (found : ((⟨store, []⟩ : ChannelGroup M).after events).channels[place]? = some channel)
    (member : entry ∈ channel.unacked.entries) :
    let start : ChannelGroup M := ⟨store, []⟩
    ∃ earlier event later delivery, events = earlier ++ event :: later ∧
      deliveryAt? place (event, ((start.after earlier).perform event).1) = some delivery ∧
      entry.delivery = delivery.flaggedIf
        ((start.after (earlier ++ [event])).redelivers place delivery.tag later) := by
  intro start
  induction events using List.reverseRecOn generalizing channel entry with
  | nil => cases found
  | append_singleton events last ih =>
    rw [after_append, after_cons, after_nil] at found
    cases asked : last.requestTo? place with
    | none =>
      cases before : (start.after events).channels[place]? with
      | none =>
        obtain ⟨id, rfl⟩ := new_of_missing before found
        cases member
      | some old =>
        obtain rfl := Option.some.inj
          ((getElem?_perform_of_not_asked before asked).symm.trans found)
        obtain ⟨earlier, event, later, delivery, rfl, made, shown⟩ := ih before member
        refine ⟨earlier, event, later ++ [last], delivery, ?_, made, ?_⟩
        · rw [List.append_assoc, List.cons_append]
        · rw [redelivers_concat_of_unasked _ later asked]
          exact shown
    | some request =>
      cases before : (start.after events).channels[place]? with
      | none =>
        rw [perform_of_missing before asked] at found
        cases before.symm.trans found
      | some old =>
        obtain rfl := Option.some.inj
          ((getElem?_perform_of_requestTo? before asked).symm.trans found)
        have coherent := Channel.coherent_of_reachable
          (reachable_after store events old (List.mem_of_getElem? before))
        rcases coherent.entry_serve _ request member with ⟨first, first_mem, same⟩ | made
        · obtain ⟨earlier, event, later, delivery, rfl, made, shown⟩ := ih before first_mem
          have still : ((start.after (earlier ++ [event])).after later).channels[place]? =
              some old := by
            rwa [← after_append, List.append_assoc, List.singleton_append]
          refine ⟨earlier, event, later ++ [last], delivery, ?_, made, ?_⟩
          · rw [List.append_assoc, List.cons_append]
          · rw [redelivers_concat still asked, same, shown, Delivery.flaggedIf_flaggedIf]
            rfl
        · refine ⟨events, last, [], entry.delivery, rfl, ?_, (Delivery.flaggedIf_false _).symm⟩
          rw [deliveryAt?_of_requestTo? asked before, made]
          rfl

/-- **Tags number the deliveries of a channel and are never used twice.** In every run on a shared
store, whatever happens beside it, the deliveries of a channel carry the tags `1, 2, 3, …` in the
order in which they are made, no more of them than there are tags. The last tag issued is the number
of the deliveries made, and no event that makes none changes it. Each entry of the table is a
delivery made before, up to its flag, and the only one with its tag. No request finds the next tag
taken. -/
theorem tags_number_deliveries (store : Store M) (place : Nat) (events : List (Event M)) :
    let start : ChannelGroup M := ⟨store, []⟩
    let made := start.deliveries place events
    made.map (·.tag) = List.range' 1 made.length ∧ made.length ≤ Tag.largest ∧
      (made.map (·.tag)).Nodup ∧
      ∀ channel, (start.after events).channels[place]? = some channel →
        channel.tags.last = made.length ∧
        (∀ event, deliveryAt? place (event, ((start.after events).perform event).1) = none →
          ∃ later, ((start.after events).perform event).2.channels[place]? = some later ∧
            later.tags = channel.tags) ∧
        (∀ entry ∈ channel.unacked.entries,
          (made.map (·.tag)).count entry.tag = 1 ∧
            ∃ delivery ∈ made, ∃ flag, entry.delivery = { delivery with redelivered := flag }) ∧
        ∀ request tag, ((start.after events).perform (.request place request)).1 ≠
          .replied (.failed (.duplicateTag tag)) := by
  intro start made
  obtain ⟨from_one, last_eq⟩ : made.map (·.tag) = List.range' (0 + 1) made.length ∧
      (start.after events).lastAt place = 0 + made.length :=
    tags_deliveries (reachable_after store []) place events
  rw [Nat.zero_add] at from_one last_eq
  have bounded : made.length ≤ Tag.largest := last_eq ▸ lastAt_le store place events
  have distinct : (made.map (·.tag)).Nodup := by
    rw [from_one]
    exact List.nodup_range'
  refine ⟨from_one, bounded, distinct, fun channel found => ?_⟩
  have coherent := Channel.coherent_of_reachable
    (reachable_after store events channel (List.mem_of_getElem? found))
  have last : channel.tags.last = made.length := by
    rw [lastAt, found] at last_eq
    exact last_eq
  refine ⟨last, ?silent, ?entries, ?taken⟩
  case silent =>
    intro event silent
    cases asked : event.requestTo? place with
    | none => exact ⟨channel, getElem?_perform_of_not_asked found asked, rfl⟩
    | some request =>
      have step := ((channel.step_serve (start.after events).store request).numbered coherent).2
      rw [deliveryAt?_of_requestTo? asked found] at silent
      rw [silent] at step
      exact ⟨_, getElem?_perform_of_requestTo? found asked, congrArg TagCounter.mk step⟩
  case entries =>
    intro entry member
    obtain ⟨earlier, event, later, delivery, rfl, delivered, shown⟩ :=
      exists_delivery_of_entry store found member
    have among := mem_deliveries_of_split delivered later
    refine ⟨?_, delivery, among, _, shown⟩
    refine List.count_eq_one_of_mem distinct ?_
    exact List.mem_map.mpr ⟨delivery, among, (congrArg Delivery.tag shown).symm⟩
  case taken =>
    intro request tag failed
    rw [perform_request_of_some _ found] at failed
    exact coherent.ne_duplicateTag _ request tag (Answer.replied.inj failed)

end ChannelGroup

end MessageBroker
