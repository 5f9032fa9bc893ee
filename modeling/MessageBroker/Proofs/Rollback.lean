import MessageBroker.Proofs.Bookkeeping
import MessageBroker.Proofs.Erasure

/-!
# Rollback

A rollback takes a channel back to where it would be had it neither published nor acknowledged
anything in the transaction, wherever its deliveries and the work of others fell in between. The
channel is compared with its twin in the run without these requests: at every moment of the
transaction the twin is the channel once it is rolled back (`Undone`). Nothing records which
acknowledgement set which flag, so the comparison has to start where nothing is pending, as it does
when nothing is deferred (`Undone.of_idle`). `ChannelGroup.rollback_eq_erased` states what the
rollback leaves and what it reports.
-/

set_option autoImplicit false

namespace MessageBroker

variable {M : Type}

/-! ## Tables without flags -/

namespace UnackedDelivery

/-- The entry without its flag. -/
def freed (entry : UnackedDelivery M) : UnackedDelivery M := { entry with ackPending := false }

theorem freed_flagBy (tag : Nat) (multiple : Bool) (entry : UnackedDelivery M) :
    (entry.flagBy tag multiple).freed = entry.freed := by
  unfold flagBy
  split
  · rfl
  · rfl

end UnackedDelivery

namespace UnackedTable

theorem entries_release (table : UnackedTable M) :
    table.release.2.entries = table.entries.map UnackedDelivery.freed := rfl

theorem release_of_not_pending {table : UnackedTable M}
    (unflagged : ∀ entry ∈ table.entries, entry.ackPending = false) : table.release.2 = table := by
  have same : ∀ entry ∈ table.entries, entry.freed = entry := by
    intro entry member
    obtain ⟨delivery, flag⟩ := entry
    obtain rfl : flag = false := unflagged _ member
    rfl
  ext1
  rw [entries_release, List.map_congr_left same, List.map_id']

theorem release_release (table : UnackedTable M) : table.release.2.release.2 = table.release.2 := by
  apply release_of_not_pending
  intro entry member
  obtain ⟨_, _, rfl⟩ := List.mem_map.mp member
  rfl

theorem pendingCount_release (table : UnackedTable M) : table.release.2.pendingCount = 0 := by
  apply List.countP_eq_zero.mpr
  intro entry member
  obtain ⟨_, _, rfl⟩ := List.mem_map.mp member
  exact Bool.false_ne_true

theorem release_postponed (table : UnackedTable M) (tag : Nat) (multiple : Bool) :
    (table.postponed tag multiple).release.2 = table.release.2 := by
  ext1
  rw [entries_release, entries_release, postponed, entries_adjust, List.map_map]
  exact List.map_congr_left fun entry _ => entry.freed_flagBy tag multiple

theorem contains_release (table : UnackedTable M) (tag : Nat) :
    table.release.2.contains tag = table.contains tag := by
  rw [Bool.eq_iff_iff, contains_iff, contains_iff]
  constructor
  · rintro ⟨_, member, named⟩
    obtain ⟨entry, old, rfl⟩ := List.mem_map.mp member
    exact ⟨entry, old, named⟩
  · rintro ⟨entry, member, named⟩
    exact ⟨entry.freed, List.mem_map_of_mem member, named⟩

/-- A delivery enters a released table as it enters the table. -/
theorem release_enter {table after twinAfter : UnackedTable M} {delivery : Delivery M}
    (entered : table.enter delivery = .ok after)
    (twin_entered : table.release.2.enter delivery = .ok twinAfter) :
    twinAfter = after.release.2 := by
  have after_eq := (enter_eq_ok_iff.mp entered).2
  have twin_eq := (enter_eq_ok_iff.mp twin_entered).2
  have tag_freed : ∀ entry : UnackedDelivery M, entry.freed.tag = entry.tag := fun _ => rfl
  ext1
  rw [twin_eq, entries_release, entries_release, after_eq, map_insertEntry tag_freed]
  rfl

end UnackedTable

/-! ## A channel and its twin that holds nothing back -/

namespace Request

/-- True of the requests whose effect waits for the commit. -/
def isHeldBack : Request M → Bool
  | publish _ _ | ack _ _ => true
  | _ => false

/-- True of the requests of a transaction in progress: all but settlements and recoveries. -/
def isOngoing : Request M → Bool
  | select | publish _ _ | get _ _ | consume _ _ _ | next _ | cancel _ | ack _ _ => true
  | commit | rollback | recover _ | close => false

theorem unsettled_of_isOngoing {request : Request M} (ongoing : request.isOngoing = true) :
    request.settles = false ∧ request.isClose = false := by
  cases request with
  | commit => cases ongoing
  | rollback => cases ongoing
  | recover => cases ongoing
  | close => cases ongoing
  | _ => exact ⟨rfl, rfl⟩

end Request

namespace Channel

/-- The channel without its deferred effects and flags. -/
def rolledBack (channel : Channel M) : Channel M :=
  { channel with buffer := .empty, unacked := channel.unacked.release.2 }

/-- A channel in a transaction, or closed, and what a rollback makes of it. -/
structure Undone (channel twin : Channel M) : Prop where
  twin_eq : twin = channel.rolledBack
  notImmediate : channel.mode ≠ .immediate

namespace Undone

variable {channel twin : Channel M}

/-- A channel with nothing deferred is its own twin. -/
theorem of_idle (coherent : channel.Coherent) (transactional : channel.mode = .transactional)
    (nothing : channel.buffer = .empty) : Undone channel channel := by
  have unflagged : ∀ entry ∈ channel.unacked.entries, entry.ackPending = false := by
    intro entry member
    have none_pending := List.countP_eq_zero.mp (coherent.pendingCount_of_idle nothing)
    simpa using none_pending entry member
  refine ⟨?_, ?_⟩
  · rw [rolledBack, UnackedTable.release_of_not_pending unflagged, ← nothing]
  · rw [transactional]
    decide

/-- **What is held back leaves the store and the twin alone.** -/
theorem skip (undone : Undone channel twin) (store : Store M) {request : Request M}
    (heldBack : request.isHeldBack = true) :
    (channel.serve store request).2.2 = store ∧
      Undone (channel.serve store request).2.1 twin := by
  by_cases isOpen : channel.isOpen = true
  case neg =>
    rw [channel.serve_of_closed store (channel.closed_of_not_open isOpen)]
    exact ⟨rfl, undone⟩
  case pos =>
    have transactional := transactional_of_isOpen isOpen undone.notImmediate
    cases request with
    | publish message target =>
      rw [channel.serve_publish_of_transactional store transactional]
      exact ⟨rfl, undone.twin_eq, undone.notImmediate⟩
    | ack tag multiple =>
      rw [channel.serve_ack_of_transactional store transactional]
      split
      · exact ⟨rfl, undone⟩
      · refine ⟨rfl, ?_, undone.notImmediate⟩
        -- Flags differ before and after, but a rollback takes all of them off.
        rw [undone.twin_eq, rolledBack, rolledBack, UnackedTable.release_postponed]
    | _ => cases heldBack

/-- What a request leads to on a channel and its twin. -/
structure Kept (channel twin : Channel M) (store : Store M) (request : Request M) : Prop where
  stores : (twin.serve store request).2.2 = (channel.serve store request).2.2
  undone : Undone (channel.serve store request).2.1 (twin.serve store request).2.1
  reply : request.isClose = false →
    (twin.serve store request).1 = (channel.serve store request).1

theorem Kept.of_eq {store later : Store M} {request : Request M} {reply : Reply M}
    {after twinAfter : Channel M} (eq : channel.serve store request = (reply, after, later))
    (twin_eq : twin.serve store request = (reply, twinAfter, later))
    (undone : Undone after twinAfter) : Kept channel twin store request where
  stores := by rw [eq, twin_eq]
  undone := by rwa [eq, twin_eq]
  reply _ := by rw [eq, twin_eq]

/-- Deliveries are numbered alike, and a new entry has no flag on either side. -/
theorem pull (notImmediate : channel.mode ≠ .immediate) (isOpen : channel.isOpen = true)
    (store : Store M) {request : Request M} {claim : Pull}
    (claims : channel.pull? request = some claim) :
    Kept channel channel.rolledBack store request := by
  have twinOpen : channel.rolledBack.isOpen = true := isOpen
  have twin_claims : channel.rolledBack.pull? request = some claim := by
    rw [← claims]
    cases request <;> rfl
  have contains := channel.unacked.contains_release (channel.tags.last + 1)
  cases samePull isOpen twinOpen claims twin_claims rfl rfl contains with
  | unchanged eq twin_eq => exact .of_eq eq twin_eq ⟨rfl, notImmediate⟩
  | returned tags eq twin_eq => exact .of_eq eq twin_eq ⟨rfl, notImmediate⟩
  | consumed eq twin_eq => exact .of_eq eq twin_eq ⟨rfl, notImmediate⟩
  | handedOut entered twin_entered eq twin_eq =>
    refine .of_eq eq twin_eq ⟨?_, notImmediate⟩
    rw [UnackedTable.release_enter entered twin_entered]
    rfl

/-- Closing returns the same deliveries whatever their flags. -/
theorem close (isOpen : channel.isOpen = true) (store : Store M) :
    Kept channel channel.rolledBack store .close := by
  have twinOpen : channel.rolledBack.isOpen = true := isOpen
  have deliveries : channel.rolledBack.unacked.entries.map (·.delivery) =
      channel.unacked.entries.map (·.delivery) := by
    rw [rolledBack, UnackedTable.entries_release, List.map_map]
    rfl
  have eq := channel.serve_close store isOpen
  have twin_eq := channel.rolledBack.serve_close store twinOpen
  rw [deliveries] at twin_eq
  refine ⟨?_, ?_, fun other => by cases other⟩
  · rw [eq, twin_eq]
  · rw [eq, twin_eq]
    refine ⟨rfl, ?_⟩
    intro immediate
    cases immediate

/-- **Whatever else is asked in the transaction, the twin answers alike** and stays the twin. -/
theorem keep (undone : Undone channel twin) (store : Store M) {request : Request M}
    (stays : request.isHeldBack = false)
    (ongoing : request.isOngoing = true ∨ request.isClose = true) :
    Kept channel twin store request := by
  obtain ⟨rfl, notImmediate⟩ := undone
  by_cases isOpen : channel.isOpen = true
  case neg =>
    have closed := channel.closed_of_not_open isOpen
    exact .of_eq (channel.serve_of_closed store closed request)
      (channel.rolledBack.serve_of_closed store closed request) ⟨rfl, notImmediate⟩
  case pos =>
    have twinOpen : channel.rolledBack.isOpen = true := isOpen
    cases request with
    | select =>
      refine .of_eq (channel.serve_select store isOpen)
        (channel.rolledBack.serve_select store twinOpen) ⟨rfl, ?_⟩
      intro immediate
      cases immediate
    | get queue noAck => exact pull notImmediate isOpen store rfl
    | next tag =>
      cases found : channel.consumers.find? tag with
      | none =>
        exact .of_eq (channel.serve_next_of_unknown store isOpen found)
          (channel.rolledBack.serve_next_of_unknown store twinOpen found) ⟨rfl, notImmediate⟩
      | some consumer => exact pull notImmediate isOpen store (pull?_next found)
    | consume queue tag noAck =>
      have declared : store.has queue = store.has queue := rfl
      have same : channel.rolledBack.consumers = channel.consumers := rfl
      obtain ⟨reply, consumers, eq, twin_eq⟩ :=
        same_consume isOpen twinOpen same declared tag noAck
      exact .of_eq eq twin_eq ⟨rfl, notImmediate⟩
    | cancel tag =>
      have same : channel.rolledBack.consumers = channel.consumers := rfl
      obtain ⟨reply, consumers, eq, twin_eq⟩ := same_cancel isOpen twinOpen same tag
      exact .of_eq eq twin_eq ⟨rfl, notImmediate⟩
    | close => exact close isOpen store
    | publish => cases stays
    | ack => cases stays
    | commit => rcases ongoing with ongoing | close <;> contradiction
    | rollback => rcases ongoing with ongoing | close <;> contradiction
    | recover => rcases ongoing with ongoing | close <;> contradiction

end Undone

end Channel

/-! ## Runs -/

namespace Event

/-- True of the publishes and acknowledgements of the channel at a place. -/
def isHeldBack (place : Nat) (event : Event M) : Bool :=
  (event.requestTo? place).any (·.isHeldBack)

/-- True of the events that leave a transaction of the channel at a place in progress. -/
def isOngoing (place : Nat) (event : Event M) : Bool :=
  (event.requestTo? place).all (·.isOngoing)

end Event

/-- A channel without what it holds back, while its transaction is in progress or closed. -/
def Erasure.heldBack (place : Nat) : Erasure M where
  present := place + 1
  erased other request := other == place && request.isHeldBack
  observed other request := !(other == place && (request.isHeldBack || request.isClose))
  allowed other request _ := other = place → request.isOngoing = true ∨ request.isClose = true
  Related other channel twin :=
    if other = place then Channel.Undone channel twin else twin = channel
  hidden other request erased := by
    rw [Bool.and_eq_true] at erased
    simp [erased.1, erased.2]
  opened other id later := by
    rw [if_neg (Nat.ne_of_gt later)]
  skip {other channel twin} related store request erased := by
    obtain ⟨same, heldBack⟩ := Bool.and_eq_true_iff.mp erased
    have at_place : other = place := by simpa using same
    rw [if_pos at_place] at related ⊢
    exact related.skip store heldBack
  keep {other channel twin} related store request stays allowed := by
    by_cases at_place : other = place
    · subst other
      rw [if_pos rfl] at related
      have kept := related.keep store (by simpa using stays) (allowed rfl)
      refine ⟨kept.stores, ?_, fun observed => kept.reply ?_⟩
      · rw [if_pos rfl]
        exact kept.undone
      · simp only [beq_self_eq_true, Bool.true_and, Bool.not_eq_true', Bool.or_eq_false_iff]
          at observed
        exact observed.2
    · rw [if_neg at_place] at related
      subst twin
      refine ⟨rfl, ?_, fun _ => rfl⟩
      rw [if_neg at_place]
  closing other := ⟨by simp [Request.isHeldBack], fun _ _ _ => .inr rfl⟩

namespace Erasure

variable {place : Nat}

theorem keeps_heldBack (event : Event M) :
    (heldBack place).keeps event = !event.isHeldBack place := by
  cases event with
  | request other asked =>
    by_cases same : other = place <;>
      simp [keeps, heldBack, Event.isHeldBack, Event.requestTo?, same]
  | drop other =>
    by_cases same : other = place <;>
      simp [keeps, Event.isHeldBack, Event.requestTo?, Request.isHeldBack, same]
  | _ => rfl

/-- While the transaction is in progress, everything that is kept is observed. -/
theorem observes_heldBack {event : Event M} (ongoing : event.isOngoing place = true) :
    (heldBack place).observes event = !event.isHeldBack place := by
  rw [← keeps_heldBack]
  cases event with
  | request other asked =>
    by_cases same : other = place
    · have request_ongoing : asked.isOngoing = true := by
        simpa [Event.isOngoing, Event.requestTo?, same] using ongoing
      have stays := (Request.unsettled_of_isOngoing request_ongoing).2
      simp [keeps, observes, heldBack, stays]
    · have apart : (other == place) = false := beq_eq_false_iff_ne.mpr same
      simp [keeps, observes, heldBack, apart]
  | _ => rfl

theorem allows_heldBack {group : ChannelGroup M} {events : List (Event M)}
    (ongoing : ∀ event ∈ events, event.isOngoing place = true) :
    (heldBack place).Allows (group.history events) := by
  intro other request reply member same
  have event_ongoing := ongoing _ (ChannelGroup.mem_of_mem_history member)
  left
  simpa [Event.isOngoing, Event.requestTo?, same] using event_ongoing

/-- A group in which one channel is rolled back is the corresponding group. -/
theorem Matched.eq_rolledBack {group other : ChannelGroup M}
    (matched : (heldBack place).Matched group other) {last : Channel M}
    (found : group.channels[place]? = some last) :
    ⟨group.store, group.channels.set place last.rolledBack⟩ = other := by
  obtain ⟨store, channels⟩ := other
  obtain rfl : store = group.store := matched.store
  congr 1
  apply List.ext_getElem?
  intro at_place
  by_cases same : at_place = place
  · subst same
    obtain ⟨twin, twin_found, related⟩ := matched.twin found
    obtain ⟨bound, _⟩ := List.getElem?_eq_some_iff.mp found
    have undone : Channel.Undone last twin := by simpa [heldBack] using related
    rw [List.getElem?_set_self bound, ← undone.twin_eq]
    exact twin_found.symm
  · rw [List.getElem?_set_ne fun equal => same equal.symm]
    cases other_found : group.channels[at_place]? with
    | none => exact (matched.missing other_found).symm
    | some channel =>
      obtain ⟨twin, twin_found, related⟩ := matched.twin other_found
      obtain rfl : twin = channel := by simpa [heldBack, same] using related
      exact twin_found.symm

end Erasure

namespace ChannelGroup

variable {group : ChannelGroup M} {place : Nat} {channel : Channel M}

/-- While a transaction is in progress its channel stays in it and defers what it publishes. -/
theorem deferred_after_ongoing (coherent : channel.Coherent)
    (found : group.channels[place]? = some channel)
    (transactional : channel.mode = .transactional) {events : List (Event M)}
    (ongoing : ∀ event ∈ events, event.isOngoing place = true) :
    ∃ last, (group.after events).channels[place]? = some last ∧ last.Coherent ∧
      last.mode = .transactional ∧
      last.buffer.publishes =
        channel.buffer.publishes ++
          (events.filterMap (Event.requestTo? place)).filterMap Request.sent? := by
  -- Others may use the store in between; the channel changes by its own requests only.
  induction events generalizing group channel with
  | nil => exact ⟨channel, found, coherent, transactional, by simp⟩
  | cons event rest ih =>
    have ongoing_rest : ∀ event ∈ rest, event.isOngoing place = true :=
      fun other member => ongoing other (List.mem_cons_of_mem _ member)
    cases asked : event.requestTo? place with
    | none =>
      have still := getElem?_perform_of_not_asked found asked
      obtain ⟨last, at_end, last_coherent, mode, publishes⟩ :=
        ih coherent still transactional ongoing_rest
      refine ⟨last, at_end, last_coherent, mode, ?_⟩
      rw [publishes, List.filterMap_cons, asked]
    | some request =>
      have request_ongoing : request.isOngoing = true := by
        have all := ongoing event List.mem_cons_self
        rwa [Event.isOngoing, asked] at all
      obtain ⟨unsettled, stays⟩ := Request.unsettled_of_isOngoing request_ongoing
      have step := channel.step_serve group.store request
      have next := getElem?_perform_of_requestTo? found asked
      obtain ⟨last, at_end, last_coherent, mode, publishes⟩ :=
        ih (step.coherent coherent) next (step.transactional transactional stays) ongoing_rest
      refine ⟨last, at_end, last_coherent, mode, ?_⟩
      rw [publishes, coherent.publishes_serve, if_neg (by simp [unsettled]), if_pos transactional,
        List.filterMap_cons, asked, List.append_assoc]
      congr 1
      cases sent : request.sent? with
      | none => simp [sent]
      | some publish => simp [sent]

/-- A group corresponds to itself while a channel of it has nothing deferred. -/
theorem matched_heldBack (coherent : channel.Coherent)
    (found : group.channels[place]? = some channel) (transactional : channel.mode = .transactional)
    (nothing : channel.buffer = .empty) : (Erasure.heldBack place).Matched group group := by
  obtain ⟨bound, _⟩ := List.getElem?_eq_some_iff.mp found
  refine ⟨rfl, bound, rfl, ?_⟩
  intro other first second first_found second_found
  obtain rfl : second = first := Option.some.inj (second_found.symm.trans first_found)
  show if other = place then Channel.Undone second second else second = second
  split
  · rename_i at_place
    obtain rfl : second = channel := by
      rw [at_place, found] at first_found
      exact (Option.some.inj first_found).symm
    exact .of_idle coherent transactional nothing
  · rfl

/-- A rolled back channel in a transaction: a further rollback does nothing, and what was pending
can be acknowledged again. -/
theorem perform_of_rolledBack {last : Channel M}
    (found : group.channels[place]? = some last.rolledBack)
    (transactional : last.mode = .transactional) :
    group.perform (.request place .rollback) = (.replied (.rolledBack {}), group) ∧
      ∀ entry ∈ last.unacked.entries,
        (group.perform (.request place (.ack entry.tag false))).1 = .replied .done := by
  have mode : last.rolledBack.mode = .transactional := transactional
  constructor
  · have still : ({ last.rolledBack with
        buffer := .empty, unacked := last.rolledBack.unacked.release.2 } : Channel M) =
          last.rolledBack := by
      rw [Channel.rolledBack, UnackedTable.release_release]
    have none_pending : last.rolledBack.unacked.pendingCount = 0 :=
      last.unacked.pendingCount_release
    rw [group.perform_request_of_some found, last.rolledBack.serve_rollback_of_transactional _ mode,
      still, set_eq_self found, none_pending]
    rfl
  · intro entry member
    have present : last.rolledBack.unacked.contains entry.tag = true := by
      rw [Channel.rolledBack, UnackedTable.contains_release]
      exact UnackedTable.contains_iff.mpr ⟨entry, member, rfl⟩
    have free : last.rolledBack.unacked.isPending entry.tag = false :=
      last.unacked.isPending_release entry.tag
    rw [group.perform_request_of_some found, last.rolledBack.serve_ack_of_transactional _ mode,
      present, free]
    rfl

/-- **Rollback leaves no trace of the transaction.** A channel in transactional mode with nothing
deferred answers requests of a transaction while others do anything. Once it is rolled back, the
store and every channel are exactly those of the run without its publishes and acknowledgements,
whether or not that run ends in a rollback, and all other events were answered alike. The rollback
reports the publishes and the deliveries whose acknowledgement was pending, and each of those can be
acknowledged again. -/
theorem rollback_eq_erased (found : group.channels[place]? = some channel)
    (reachable : channel.Reachable) (transactional : channel.mode = .transactional)
    (nothing : channel.buffer = .empty) {events : List (Event M)}
    (ongoing : ∀ event ∈ events, event.isOngoing place = true) :
    let kept := events.filter (!·.isHeldBack place)
    let before := group.after events
    let rolledBack := (before.perform (.request place .rollback)).2
    let publishes := (events.filterMap (Event.requestTo? place)).filterMap Request.sent?
    rolledBack = group.after kept ∧
      (group.after kept).perform (.request place .rollback) =
        (.replied (.rolledBack {}), group.after kept) ∧
      group.history kept = (group.history events).filter (!·.1.isHeldBack place) ∧
      ∃ last, before.channels[place]? = some last ∧
        (before.perform (.request place .rollback)).1 =
          .replied (.rolledBack
            { discardedPublishes := publishes.length
              unacked := (last.unacked.entries.filter (·.ackPending)).length }) ∧
        ∀ entry ∈ last.unacked.entries, entry.ackPending = true →
          (rolledBack.perform (.request place (.ack entry.tag false))).1 = .replied .done := by
  intro kept before rolledBack publishes
  have coherent := Channel.coherent_of_reachable reachable
  have matched := matched_heldBack coherent found transactional nothing
  have allows : (Erasure.heldBack place).Allows (group.history events) :=
    Erasure.allows_heldBack ongoing
  have kept_eq : kept = events.filter (Erasure.heldBack place).keeps :=
    List.filter_congr fun event _ => (Erasure.keeps_heldBack event).symm
  obtain ⟨last, at_place, last_coherent, mode, deferred⟩ :=
    deferred_after_ongoing coherent found transactional ongoing
  -- The rollback turns the channel into its twin, and the rest of the group is the same already.
  have rollback_eq : before.perform (.request place .rollback) =
      (.replied (.rolledBack ⟨last.buffer.publishCount, last.unacked.pendingCount⟩),
        ⟨before.store, before.channels.set place last.rolledBack⟩) := by
    rw [before.perform_request_of_some at_place, last.serve_rollback_of_transactional _ mode]
    rfl
  have same : rolledBack = group.after kept := by
    have matched_after := matched.after allows
    rw [← kept_eq] at matched_after
    rw [← matched_after.eq_rolledBack at_place]
    exact congrArg Prod.snd rollback_eq
  have twin_found : (group.after kept).channels[place]? = some last.rolledBack := by
    obtain ⟨bound, _⟩ := List.getElem?_eq_some_iff.mp at_place
    rw [← same]
    simp only [rolledBack, rollback_eq]
    exact List.getElem?_set_self bound
  obtain ⟨again, acknowledged⟩ := perform_of_rolledBack twin_found mode
  refine ⟨same, again, ?_, last, at_place, ?_, ?_⟩
  · have history := matched.history allows
    rw [← kept_eq] at history
    calc group.history kept
        = (group.history kept).filter ((Erasure.heldBack place).observes ·.1) := by
          refine (List.filter_eq_self.mpr fun entry member => ?_).symm
          obtain ⟨event_mem, stays⟩ := List.mem_filter.mp (mem_of_mem_history member)
          rwa [Erasure.observes_heldBack (ongoing _ event_mem)]
      _ = (group.history events).filter ((Erasure.heldBack place).observes ·.1) := history
      _ = (group.history events).filter (!·.1.isHeldBack place) := by
          refine List.filter_congr fun entry member => ?_
          exact Erasure.observes_heldBack (ongoing _ (mem_of_mem_history member))
  · rw [nothing, TransactionBuffer.publishes_empty, List.nil_append] at deferred
    rw [rollback_eq, ← TransactionBuffer.length_publishes, deferred,
      UnackedTable.pendingCount, List.countP_eq_length_filter]
  · intro entry member _
    rw [same]
    exact acknowledged entry member

/-- A transaction with overlapping and refused acknowledgements, two publishes and a delivery in
the middle, while another channel takes from the queue and the queue is purged. -/
theorem rollback_eq_erased_of_overlapping_acks :
    let group : ChannelGroup Nat := ({} : ChannelGroup Nat).after
      [.queue (.declare "q"), .queue (.enqueue "q" 10), .queue (.enqueue "q" 20),
        .queue (.enqueue "q" 30), .queue (.enqueue "q" 40), .opening "A", .opening "B",
        .request 0 (.get "q" false), .request 0 .select]
    let events : List (Event Nat) :=
      [.request 0 (.publish 50 "q"), .request 0 (.ack 1 false), .request 1 (.get "q" false),
        .request 0 (.get "q" false), .request 0 (.ack 1 false), .request 0 (.ack 0 true),
        .request 0 (.publish 60 "gone"), .queue (.purge "q"), .request 0 (.get "q" false),
        .request 1 (.publish 70 "q"), .request 0 (.get "q" false), .drop 1]
    let kept := events.filter (!·.isHeldBack 0)
    let before := group.after events
    let rolledBack := (before.perform (.request 0 .rollback)).2
    let publishes := (events.filterMap (Event.requestTo? 0)).filterMap Request.sent?
    (∀ event ∈ events, event.isOngoing 0 = true) ∧ kept.length = 7 ∧ publishes.length = 2 ∧
      before.channels.map (fun channel =>
          channel.unacked.entries.map fun entry => (entry.tag, entry.ackPending)) =
        [[(1, true), (2, true), (3, false)], []] ∧
      rolledBack = group.after kept ∧
        (group.after kept).perform (.request 0 .rollback) =
          (.replied (.rolledBack {}), group.after kept) ∧
        group.history kept = (group.history events).filter (!·.1.isHeldBack 0) ∧
        ∃ last, before.channels[0]? = some last ∧
          (before.perform (.request 0 .rollback)).1 =
            .replied (.rolledBack
              { discardedPublishes := publishes.length
                unacked := (last.unacked.entries.filter (·.ackPending)).length }) ∧
          ∀ entry ∈ last.unacked.entries, entry.ackPending = true →
            (rolledBack.perform (.request 0 (.ack entry.tag false))).1 = .replied .done := by
  intro group events kept before rolledBack publishes
  have ongoing : ∀ event ∈ events, event.isOngoing 0 = true := by decide
  have found : ∃ channel, group.channels[0]? = some channel ∧ channel.mode = .transactional ∧
      channel.buffer = .empty := ⟨_, rfl, rfl, rfl⟩
  obtain ⟨channel, at_place, transactional, nothing⟩ := found
  have reachable : channel.Reachable := by
    have none_open : ∀ channel ∈ ({} : ChannelGroup Nat).channels, channel.Reachable := by
      intro channel member
      cases member
    exact reachable_of_mem_after none_open _ channel (List.mem_of_getElem? at_place)
  refine ⟨ongoing, by decide, by decide, by decide, ?_⟩
  exact rollback_eq_erased at_place reachable transactional nothing ongoing

end ChannelGroup

end MessageBroker
