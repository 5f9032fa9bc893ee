import MessageBroker.Proofs.Isolation
import MessageBroker.Proofs.Numbering
import MessageBroker.Proofs.Relabel

/-!
# Recovery under the old tags

A recovery that hands out again what is outstanding shows the deliveries of the table under their
old tags and sets their flags. Nothing else reads these flags: what returns to a queue is flagged by
the queue, and no other answer shows a delivery of the table (`Channel.keep_of_unflagged_eq`). So a
run gives everybody the same answers without these recoveries, and leaves the same queues and the
same channels up to the flags in their tables (`ChannelGroup.handOut_invisible`).
-/

set_option autoImplicit false

namespace MessageBroker

variable {M : Type}

/-- The delivery, flagged as redelivered. -/
def Delivery.flagged (delivery : Delivery M) : Delivery M := { delivery with redelivered := true }

/-- Taking the flag off. -/
def Relabelling.unflag : Relabelling M :=
  ⟨Delivery.unflagged, fun _ => rfl, fun _ => rfl, fun _ => rfl⟩

/-- True of the recovery under the old tags. -/
def Request.handsOutAgain : Request M → Bool
  | recover false => true
  | _ => false

namespace UnackedTable

/-- What is handed out again is what waits for no commit, flagged. -/
theorem handedOut_handOutAgain (table : UnackedTable M) :
    table.handOutAgain.1 =
      ((table.entries.filter (!·.ackPending)).map (·.delivery)).map Delivery.flagged := by
  rw [handOutAgain, entries_adjust, List.filter_map, List.map_map, List.map_map]
  have waits : (table.entries.filter ((!·.ackPending) ∘ UnackedDelivery.handOutAgain)) =
      table.entries.filter (!·.ackPending) :=
    List.filter_congr fun entry _ => congrArg (!·) entry.ackPending_handOutAgain
  rw [waits]
  refine List.map_congr_left fun entry member => ?_
  have free : entry.ackPending = false := by simpa using (List.mem_filter.mp member).2
  rw [Function.comp_apply, UnackedDelivery.handOutAgain, free]
  rfl

theorem relabel_handOutAgain (table : UnackedTable M) :
    table.handOutAgain.2.relabel .unflag = table.relabel .unflag := by
  ext1
  rw [handOutAgain, entries_relabel, entries_relabel, entries_adjust, List.map_map]
  refine List.map_congr_left fun entry _ => ?_
  rw [Function.comp_apply, UnackedDelivery.handOutAgain]
  split <;> rfl

end UnackedTable

/-! ## One channel with and without recoveries -/

namespace Channel

/-- The channel with the flags in its table taken off. -/
def unflagged (channel : Channel M) : Channel M :=
  { channel with unacked := channel.unacked.relabel .unflag }

variable {channel twin : Channel M}

theorem unflagged_eq_iff :
    twin.unflagged = channel.unflagged ↔
      twin.bare .unflag = channel.bare .unflag ∧ twin.consumers = channel.consumers := by
  simp [unflagged, bare, and_assoc]

/-- A recovery under the old tags sets flags and does nothing else. -/
theorem unflagged_redelivering (channel : Channel M) (store : Store M) :
    (channel.serve store (.recover false)).2.2 = store ∧
      (channel.serve store (.recover false)).2.1.unflagged = channel.unflagged := by
  by_cases isOpen : channel.isOpen = true
  · rw [channel.serve_redelivering store isOpen]
    refine ⟨rfl, ?_⟩
    rw [unflagged, UnackedTable.relabel_handOutAgain, unflagged]
  · rw [channel.serve_of_closed store (channel.closed_of_not_open isOpen)]
    exact ⟨rfl, rfl⟩

variable (same : twin.unflagged = channel.unflagged)

include same

/-- A request that leaves the consumers alone and is answered alike up to flags. -/
theorem keep_of_consumers {store : Store M} {request : Request M}
    (silent : request.setsConsumers = false)
    (alike : (twin.serve store request).1 = (channel.serve store request).1 ∧
      (twin.serve store request).2.1.bare .unflag = (channel.serve store request).2.1.bare .unflag ∧
      (twin.serve store request).2.2 = (channel.serve store request).2.2) :
    (twin.serve store request).1 = (channel.serve store request).1 ∧
      (twin.serve store request).2.1.unflagged = (channel.serve store request).2.1.unflagged ∧
      (twin.serve store request).2.2 = (channel.serve store request).2.2 := by
  refine ⟨alike.1, unflagged_eq_iff.mpr ⟨alike.2.1, ?_⟩, alike.2.2⟩
  rw [(twin.step_serve store request).consumers_eq silent,
    (channel.step_serve store request).consumers_eq silent]
  exact (unflagged_eq_iff.mp same).2

/-- **No other request depends on the flags in the table.** -/
theorem keep_of_unflagged_eq (store : Store M) {request : Request M}
    (other : request.handsOutAgain = false) :
    (twin.serve store request).1 = (channel.serve store request).1 ∧
      (twin.serve store request).2.1.unflagged = (channel.serve store request).2.1.unflagged ∧
      (twin.serve store request).2.2 = (channel.serve store request).2.2 := by
  obtain ⟨bare_eq, consumers⟩ := unflagged_eq_iff.mp same
  by_cases isOpen : channel.isOpen = true
  case neg =>
    have closed := channel.closed_of_not_open isOpen
    obtain ⟨id, mode, _⟩ := parts_of_bare_eq bare_eq
    rw [channel.serve_of_closed store closed, twin.serve_of_closed store (mode.trans closed), id]
    exact ⟨rfl, same, rfl⟩
  case pos =>
    have twinOpen : twin.isOpen = true := by rwa [isOpen_of_bare_eq bare_eq]
    cases request with
    | get queue noAck =>
      exact keep_of_consumers same rfl (pull_of_bare_eq bare_eq isOpen store rfl rfl)
    | next tag =>
      cases found : channel.consumers.find? tag with
      | none =>
        have unknown : twin.consumers.find? tag = none := by rw [consumers, found]
        rw [channel.serve_next_of_unknown store isOpen found,
          twin.serve_next_of_unknown store twinOpen unknown]
        exact ⟨rfl, same, rfl⟩
      | some consumer =>
        have twin_found : twin.consumers.find? tag = some consumer := by rw [consumers, found]
        exact keep_of_consumers same rfl
          (pull_of_bare_eq bare_eq isOpen store (pull?_next found) (pull?_next twin_found))
    | consume queue tag noAck =>
      have declared : store.has queue = store.has queue := rfl
      obtain ⟨reply, registered, eq, twin_eq⟩ :=
        same_consume isOpen twinOpen consumers declared tag noAck
      rw [eq, twin_eq]
      exact ⟨rfl, unflagged_eq_iff.mpr ⟨bare_eq, rfl⟩, rfl⟩
    | cancel tag =>
      obtain ⟨reply, left, eq, twin_eq⟩ : ∃ reply left,
          channel.serve store (.cancel tag) = (reply, { channel with consumers := left }, store) ∧
            twin.serve store (.cancel tag) = (reply, { twin with consumers := left }, store) :=
        same_cancel isOpen twinOpen consumers tag
      rw [eq, twin_eq]
      exact ⟨rfl, unflagged_eq_iff.mpr ⟨bare_eq, rfl⟩, rfl⟩
    | close =>
      obtain ⟨after, eq, twin_eq⟩ := close_of_bare_eq bare_eq isOpen store
      rw [eq, twin_eq, consumers]
      exact ⟨rfl, rfl, rfl⟩
    | recover requeue =>
      cases requeue with
      | false => cases other
      | true => exact keep_of_consumers same rfl (serve_of_bare_eq bare_eq store rfl)
    | _ => exact keep_of_consumers same rfl (serve_of_bare_eq bare_eq store rfl)

end Channel

/-! ## Runs -/

/-- True of the recoveries under the old tags. -/
def Event.handsOutAgain : Event M → Bool
  | .request _ asked => asked.handsOutAgain
  | _ => false

/-- A run without the recoveries under the old tags. -/
def withoutHandOuts (events : List (Event M)) : List (Event M) :=
  events.filter (!·.handsOutAgain)

/-- Leaving out the recoveries under the old tags. -/
def Erasure.handOuts : Erasure M where
  present := 0
  erased _ request := request.handsOutAgain
  observed _ request := !request.handsOutAgain
  allowed _ _ _ := True
  Related _ channel twin := twin.unflagged = channel.unflagged
  hidden _ _ erased := by rw [erased, Bool.not_true]
  opened _ _ _ := rfl
  skip {_ channel twin} related store request erased := by
    obtain rfl : request = .recover false := by
      cases request with
      | recover requeue =>
        cases requeue with
        | false => rfl
        | true => cases erased
      | _ => cases erased
    obtain ⟨untouched, flags⟩ := channel.unflagged_redelivering store
    exact ⟨untouched, related.trans flags.symm⟩
  keep related store _ other _ := by
    obtain ⟨reply, unflagged, stores⟩ := Channel.keep_of_unflagged_eq related store other
    exact ⟨stores, unflagged, fun _ => reply⟩
  closing _ := ⟨rfl, fun _ _ => trivial⟩

theorem keeps_handOuts (event : Event M) : Erasure.handOuts.keeps event = !event.handsOutAgain := by
  cases event <;> rfl

theorem observes_handOuts (event : Event M) :
    Erasure.handOuts.observes event = !event.handsOutAgain := by
  cases event <;> rfl

theorem withoutHandOuts_eq (events : List (Event M)) :
    withoutHandOuts events = events.filter Erasure.handOuts.keeps :=
  List.filter_congr fun event _ => (keeps_handOuts event).symm

namespace ChannelGroup

theorem matched_handOuts (store : Store M) :
    Erasure.handOuts.Matched (⟨store, []⟩ : ChannelGroup M) ⟨store, []⟩ where
  store := rfl
  present := Nat.zero_le _
  size := rfl
  related _ _ _ found := by cases found

/-- Groups whose channels are alike place by place. -/
theorem map_unflagged_of_matched {group other : ChannelGroup M}
    (matched : Erasure.handOuts.Matched group other) :
    other.channels.map Channel.unflagged = group.channels.map Channel.unflagged := by
  refine List.ext_getElem? fun place => ?_
  rw [List.getElem?_map, List.getElem?_map]
  cases found : group.channels[place]? with
  | none => rw [matched.missing found]
  | some channel =>
    obtain ⟨twin, twin_found, related⟩ := matched.twin found
    rw [twin_found]
    exact congrArg some related

/-- **A recovery under the old tags is invisible to everything that follows.** In every run on a
shared store such a recovery of an open channel answers the deliveries of the table that wait for no
commit, in the order of their tags and flagged as redelivered, each of them a delivery that the
channel has made, under its tag, from its queue and in its context. Without all these recoveries the
run gives every other event the same answer, and at every point the store is the same and so are the
channels, up to the flags in their tables. -/
theorem handOut_invisible (store : Store M) (events : List (Event M)) :
    let start : ChannelGroup M := ⟨store, []⟩
    (∀ earlier place channel, (start.after earlier).channels[place]? = some channel →
        ((start.after earlier).perform (.request place (.recover false))).1 =
            .replied (if channel.isOpen then
                .recovered (.handedOut (channel.outstanding.map Delivery.flagged))
              else .failed (.channelClosed channel.id)) ∧
          channel.outstanding.Pairwise (fun first second => first.tag < second.tag) ∧
          ∀ delivery ∈ channel.outstanding, ∃ original ∈ start.deliveries place earlier,
            delivery.flagged = original.flagged) ∧
      start.history (withoutHandOuts events) =
        (start.history events).filter (!·.1.handsOutAgain) ∧
      ∀ n,
        let full := start.after (events.take n)
        let spared := start.after (withoutHandOuts (events.take n))
        spared.store = full.store ∧
          spared.channels.map Channel.unflagged = full.channels.map Channel.unflagged := by
  intro start
  have allows : ∀ history : List (Event M × Answer M), Erasure.handOuts.Allows history :=
    fun _ _ _ _ _ => trivial
  refine ⟨?answers, ?others, fun n => ?states⟩
  case answers =>
    intro earlier place channel found
    refine ⟨?_, ?_, ?_⟩
    · rw [perform_request_of_some _ found]
      split
      · rename_i isOpen
        rw [channel.serve_redelivering _ isOpen, UnackedTable.handedOut_handOutAgain]
        rfl
      · rename_i shut
        rw [channel.serve_of_closed _ (channel.closed_of_not_open shut)]
        rfl
    · exact (channel.unacked.ascending.filter _).map _ fun _ _ below => below
    · intro delivery member
      obtain ⟨entry, kept, rfl⟩ := List.mem_map.mp member
      obtain ⟨_, _, _, original, rfl, made, shown⟩ :=
        exists_delivery_of_entry store found (List.mem_filter.mp kept).1
      refine ⟨original, mem_deliveries_of_split made _, ?_⟩
      rw [shown]
      rfl
  case others =>
    have answers := (matched_handOuts store).history (allows (start.history events))
    rw [← withoutHandOuts_eq] at answers
    simp only [observes_handOuts] at answers
    rw [← answers]
    -- Nothing that is left out stands in the run without it.
    refine (List.filter_eq_self.mpr fun entry member => ?_).symm
    exact (List.mem_filter.mp (mem_of_mem_history member)).2
  case states =>
    have matched := (matched_handOuts store).after (allows (start.history (events.take n)))
    rw [← withoutHandOuts_eq] at matched
    exact ⟨matched.store, map_unflagged_of_matched matched⟩

end ChannelGroup

end MessageBroker
