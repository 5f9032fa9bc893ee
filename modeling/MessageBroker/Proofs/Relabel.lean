import MessageBroker.Proofs.Step
import MessageBroker.Proofs.Store

/-!
# Channels up to what their deliveries show

What a channel does with the deliveries in its table depends on their tags, on their queues and on
their messages. A `Relabelling` changes the rest, the context or the flag of a redelivery, and
`Channel.bare` is a channel with its deliveries relabelled and without consumers. A request that
neither shows a delivery nor goes by the consumers is answered by the bare channel as by the channel
itself (`Channel.serve_bare`), and channels that are alike when bare stay so when both make the same
claim (`Channel.pull_of_bare_eq`) or are closed (`Channel.close_of_bare_eq`).
-/

set_option autoImplicit false

namespace MessageBroker

variable {M : Type}

/-- A change of deliveries that keeps the tag and what returns to a queue. -/
structure Relabelling (M : Type) where
  change : Delivery M → Delivery M
  tag_change : ∀ delivery, (change delivery).tag = delivery.tag
  queue_change : ∀ delivery, (change delivery).queue = delivery.queue
  message_change : ∀ delivery, (change delivery).message = delivery.message

namespace UnackedDelivery

variable (relabelling : Relabelling M) (entry : UnackedDelivery M)

/-- The entry with its delivery relabelled. -/
def relabel : UnackedDelivery M := { entry with delivery := relabelling.change entry.delivery }

theorem tag_relabel : (entry.relabel relabelling).tag = entry.tag :=
  relabelling.tag_change entry.delivery

theorem flagBy_relabel (tag : Nat) (multiple : Bool) :
    (entry.relabel relabelling).flagBy tag multiple =
      (entry.flagBy tag multiple).relabel relabelling := by
  rw [flagBy, flagBy, tag_relabel]
  split <;> rfl

theorem confirmedBy_relabel (acks : List (Nat × Bool)) :
    (entry.relabel relabelling).confirmedBy acks = entry.confirmedBy acks := by
  rw [confirmedBy, tag_relabel]
  rfl

end UnackedDelivery

namespace UnackedTable

variable (relabelling : Relabelling M) (table : UnackedTable M)

/-- The table with its deliveries relabelled. -/
def relabel : UnackedTable M :=
  table.adjust (·.relabel relabelling) fun entry => entry.tag_relabel relabelling

theorem entries_relabel :
    (table.relabel relabelling).entries = table.entries.map (·.relabel relabelling) := rfl

theorem contains_relabel (tag : Nat) :
    (table.relabel relabelling).contains tag = table.contains tag := by
  rw [Bool.eq_iff_iff, contains_iff, contains_iff]
  constructor
  · rintro ⟨_, member, named⟩
    obtain ⟨entry, old, rfl⟩ := List.mem_map.mp member
    exact ⟨entry, old, (entry.tag_relabel relabelling).symm.trans named⟩
  · rintro ⟨entry, member, named⟩
    exact ⟨_, List.mem_map_of_mem member, (entry.tag_relabel relabelling).trans named⟩

theorem isPending_relabel (tag : Nat) :
    (table.relabel relabelling).isPending tag = table.isPending tag := by
  rw [Bool.eq_iff_iff, relabel, isPending_adjust, isPending_iff]
  rfl

/-- Entries are kept by tests that do not look at the labels. -/
theorem keep_relabel (test : UnackedDelivery M → Bool)
    (blind : ∀ entry, test (entry.relabel relabelling) = test entry) :
    (table.relabel relabelling).keep test = (table.keep test).relabel relabelling := by
  ext1
  rw [entries_keep, entries_relabel, entries_relabel, entries_keep, List.filter_map]
  exact congrArg _ (List.filter_congr fun entry _ => blind entry)

theorem countP_relabel {test : UnackedDelivery M → Bool}
    (blind : ∀ entry, test (entry.relabel relabelling) = test entry) :
    (table.relabel relabelling).entries.countP test = table.entries.countP test := by
  rw [entries_relabel, List.countP_map]
  exact List.countP_congr fun entry _ => by rw [Function.comp_apply, blind]

theorem adjust_relabel (change : UnackedDelivery M → UnackedDelivery M)
    (tag_change : ∀ entry, (change entry).tag = entry.tag)
    (commutes : ∀ entry, change (entry.relabel relabelling) = (change entry).relabel relabelling) :
    (table.relabel relabelling).adjust change tag_change =
      (table.adjust change tag_change).relabel relabelling := by
  ext1
  rw [entries_adjust, entries_relabel, entries_relabel, entries_adjust, List.map_map, List.map_map]
  exact List.map_congr_left fun entry _ => commutes entry

theorem postponed_relabel (tag : Nat) (multiple : Bool) :
    (table.relabel relabelling).postponed tag multiple =
      (table.postponed tag multiple).relabel relabelling :=
  table.adjust_relabel relabelling _ _ fun entry => entry.flagBy_relabel relabelling tag multiple

theorem release_relabel :
    (table.relabel relabelling).release.2 = table.release.2.relabel relabelling :=
  table.adjust_relabel relabelling (fun entry => { entry with ackPending := false })
    (fun _ => rfl) fun _ => rfl

/-- A queue gets back the same messages. -/
theorem giveBack_relabel (store : Store M) (test : UnackedDelivery M → Bool)
    (blind : ∀ entry, test (entry.relabel relabelling) = test entry) :
    store.giveBack (((table.relabel relabelling).entries.filter test).map (·.delivery)) =
      store.giveBack ((table.entries.filter test).map (·.delivery)) := by
  refine store.giveBack_congr ?_
  have kept : (table.relabel relabelling).entries.filter test =
      (table.entries.filter test).map (·.relabel relabelling) :=
    congrArg UnackedTable.entries (table.keep_relabel relabelling test blind)
  rw [kept, List.map_map, List.map_map, List.map_map]
  refine List.map_congr_left fun entry _ => ?_
  exact Prod.ext (relabelling.queue_change entry.delivery)
    (relabelling.message_change entry.delivery)

variable {relabelling table}

/-- Deliveries that differ in their labels leave tables alike that were so. -/
theorem relabel_enter {other after otherAfter : UnackedTable M} {delivery twin : Delivery M}
    (same : other.relabel relabelling = table.relabel relabelling)
    (entered : table.enter delivery = .ok after)
    (other_entered : other.enter twin = .ok otherAfter)
    (alike : relabelling.change twin = relabelling.change delivery) :
    otherAfter.relabel relabelling = after.relabel relabelling := by
  have tag_change := UnackedDelivery.tag_relabel relabelling
  have entries := congrArg UnackedTable.entries same
  rw [entries_relabel, entries_relabel] at entries
  have first : (⟨twin, false⟩ : UnackedDelivery M).relabel relabelling =
      (⟨delivery, false⟩ : UnackedDelivery M).relabel relabelling := by
    rw [UnackedDelivery.relabel, UnackedDelivery.relabel, alike]
  ext1
  rw [entries_relabel, entries_relabel, (enter_eq_ok_iff.mp entered).2,
    (enter_eq_ok_iff.mp other_entered).2, map_insertEntry tag_change, map_insertEntry tag_change,
    entries, first]

end UnackedTable

/-! ## Bare channels -/

/-- True of the requests that neither show a delivery nor go by the consumers. -/
def Request.isBlind : Request M → Bool
  | select | publish _ _ | ack _ _ | commit | rollback | recover true => true
  | get _ _ | consume _ _ _ | next _ | cancel _ | recover false | close => false

/-- True of the requests that may change the consumers. -/
def Request.setsConsumers : Request M → Bool
  | consume _ _ _ | cancel _ | close => true
  | _ => false

namespace Channel

theorem Step.consumers_eq {channel after : Channel M} {store later : Store M}
    {request : Request M} {reply : Reply M} (step : Step channel store request reply after later)
    (silent : request.setsConsumers = false) : after.consumers = channel.consumers := by
  cases step with
  | registered => cases silent
  | cancelled => cases silent
  | closed => cases silent
  | _ => rfl

variable (relabelling : Relabelling M)

/-- The channel with its deliveries relabelled and without consumers. -/
def bare (channel : Channel M) : Channel M :=
  { channel with unacked := channel.unacked.relabel relabelling, consumers := .empty }

theorem isOpen_bare (channel : Channel M) : (channel.bare relabelling).isOpen = channel.isOpen :=
  rfl

/-- **A blind request is answered by the bare channel as by the channel.** -/
theorem serve_bare (channel : Channel M) (store : Store M) {request : Request M}
    (blind : request.isBlind = true) :
    (channel.bare relabelling).serve store request =
      ((channel.serve store request).1, (channel.serve store request).2.1.bare relabelling,
        (channel.serve store request).2.2) := by
  by_cases isOpen : channel.isOpen = true
  case neg =>
    have closed := channel.closed_of_not_open isOpen
    rw [channel.serve_of_closed store closed,
      (channel.bare relabelling).serve_of_closed store closed]
    rfl
  case pos =>
    have immediate := immediate_of_isOpen isOpen
    cases request with
    | select =>
      rw [channel.serve_select store isOpen, (channel.bare relabelling).serve_select store isOpen]
      rfl
    | publish message target =>
      by_cases transactional : channel.mode = .transactional
      · rw [channel.serve_publish_of_transactional store transactional,
          (channel.bare relabelling).serve_publish_of_transactional store transactional]
        rfl
      · rw [channel.serve_publish_of_immediate store (immediate transactional),
          (channel.bare relabelling).serve_publish_of_immediate store (immediate transactional)]
    | ack tag multiple =>
      have contains := channel.unacked.contains_relabel relabelling tag
      by_cases transactional : channel.mode = .transactional
      · have isPending := channel.unacked.isPending_relabel relabelling tag
        have flagged := channel.unacked.postponed_relabel relabelling tag multiple
        rw [channel.serve_ack_of_transactional store transactional,
          (channel.bare relabelling).serve_ack_of_transactional store transactional]
        simp only [bare, contains, isPending, flagged]
        split <;> rfl
      · have kept := channel.unacked.keep_relabel relabelling
          (fun entry => !covers tag multiple entry.tag) fun entry =>
            congrArg (!covers tag multiple ·) (entry.tag_relabel relabelling)
        rw [channel.serve_ack_of_immediate store (immediate transactional),
          (channel.bare relabelling).serve_ack_of_immediate store (immediate transactional)]
        simp only [bare, contains, kept]
        split <;> rfl
    | commit =>
      by_cases transactional : channel.mode = .transactional
      · have same : ∀ entry : UnackedDelivery M, (entry.relabel relabelling).confirmedBy
            channel.buffer.acks = entry.confirmedBy channel.buffer.acks :=
          fun entry => entry.confirmedBy_relabel relabelling channel.buffer.acks
        have kept := channel.unacked.keep_relabel relabelling
          (fun entry => !entry.confirmedBy channel.buffer.acks) fun entry =>
            congrArg (!·) (same entry)
        have count := channel.unacked.countP_relabel relabelling same
        rw [channel.serve_commit_of_transactional store transactional,
          (channel.bare relabelling).serve_commit_of_transactional store transactional]
        simp only [bare, kept, count]
      · rw [(channel.serve_settling_of_immediate store (immediate transactional)).1,
          ((channel.bare relabelling).serve_settling_of_immediate store
            (immediate transactional)).1]
    | rollback =>
      by_cases transactional : channel.mode = .transactional
      · have released := channel.unacked.release_relabel relabelling
        have count : (channel.unacked.relabel relabelling).pendingCount =
            channel.unacked.pendingCount :=
          channel.unacked.countP_relabel relabelling fun _ => rfl
        rw [channel.serve_rollback_of_transactional store transactional,
          (channel.bare relabelling).serve_rollback_of_transactional store transactional]
        simp only [bare, released, count]
      · rw [(channel.serve_settling_of_immediate store (immediate transactional)).2,
          ((channel.bare relabelling).serve_settling_of_immediate store
            (immediate transactional)).2]
    | recover requeue =>
      cases requeue with
      | false => cases blind
      | true =>
        have kept := channel.unacked.keep_relabel relabelling (·.ackPending) fun _ => rfl
        have returned := channel.unacked.giveBack_relabel relabelling store (!·.ackPending)
          fun _ => rfl
        have count : (channel.bare relabelling).outstanding.length =
            channel.outstanding.length := by
          rw [outstanding, outstanding, List.length_map, List.length_map,
            ← List.countP_eq_length_filter, ← List.countP_eq_length_filter]
          exact channel.unacked.countP_relabel relabelling fun _ => rfl
        rw [channel.serve_returning store isOpen,
          (channel.bare relabelling).serve_returning store isOpen, count]
        simp only [bare, outstanding, kept, returned]
    | _ => cases blind

/-! ## Two channels that are alike when bare -/

variable {relabelling} {channel twin : Channel M}
  (same : twin.bare relabelling = channel.bare relabelling)

include same

theorem parts_of_bare_eq :
    twin.id = channel.id ∧ twin.mode = channel.mode ∧ twin.tags = channel.tags ∧
      twin.unacked.relabel relabelling = channel.unacked.relabel relabelling ∧
      twin.buffer = channel.buffer := by
  simpa [bare] using same

theorem isOpen_of_bare_eq : twin.isOpen = channel.isOpen := by
  rw [← twin.isOpen_bare relabelling, same, isOpen_bare]

/-- A blind request is answered alike. -/
theorem serve_of_bare_eq (store : Store M) {request : Request M}
    (blind : request.isBlind = true) :
    (twin.serve store request).1 = (channel.serve store request).1 ∧
      (twin.serve store request).2.1.bare relabelling =
        (channel.serve store request).2.1.bare relabelling ∧
      (twin.serve store request).2.2 = (channel.serve store request).2.2 := by
  have served := channel.serve_bare relabelling store blind
  have twin_served := twin.serve_bare relabelling store blind
  rw [same, served] at twin_served
  simpa only [Prod.mk.injEq, eq_comm] using twin_served

/-- So is a claim that both make. -/
theorem pull_of_bare_eq (isOpen : channel.isOpen = true) (store : Store M) {request : Request M}
    {claim : Pull} (claims : channel.pull? request = some claim)
    (twin_claims : twin.pull? request = some claim) :
    (twin.serve store request).1 = (channel.serve store request).1 ∧
      (twin.serve store request).2.1.bare relabelling =
        (channel.serve store request).2.1.bare relabelling ∧
      (twin.serve store request).2.2 = (channel.serve store request).2.2 := by
  have twinOpen : twin.isOpen = true := by rwa [isOpen_of_bare_eq same]
  obtain ⟨id, mode, tags, tables, buffer⟩ := parts_of_bare_eq same
  have contains : twin.unacked.contains (channel.tags.last + 1) =
      channel.unacked.contains (channel.tags.last + 1) := by
    rw [← twin.unacked.contains_relabel relabelling, tables, UnackedTable.contains_relabel]
  -- The parts of a channel that a claim leaves alone.
  have retagged : ∀ (changed : TagCounter) {table other : UnackedTable M},
      other.relabel relabelling = table.relabel relabelling →
      ({ twin with tags := changed, unacked := other } : Channel M).bare relabelling =
        ({ channel with tags := changed, unacked := table } : Channel M).bare relabelling := by
    intro changed table other alike
    rw [bare, bare, id, mode, alike, buffer]
  cases samePull isOpen twinOpen claims twin_claims rfl tags contains with
  | unchanged eq twin_eq =>
    rw [eq, twin_eq]
    exact ⟨rfl, same, rfl⟩
  | returned changed eq twin_eq =>
    rw [eq, twin_eq]
    exact ⟨rfl, retagged changed tables, rfl⟩
  | consumed eq twin_eq =>
    rw [eq, twin_eq]
    exact ⟨rfl, retagged _ tables, rfl⟩
  | handedOut entered twin_entered eq twin_eq =>
    rw [eq, twin_eq]
    exact ⟨rfl, retagged _ (UnackedTable.relabel_enter tables entered twin_entered rfl), rfl⟩

/-- Closing returns the same messages and reports the same but for the consumers. -/
theorem close_of_bare_eq (isOpen : channel.isOpen = true) (store : Store M) :
    let report : CloseReport :=
      ⟨channel.unacked.entries.length, channel.buffer.publishCount, channel.consumers.size⟩
    ∃ after : Channel M,
      channel.serve store .close =
          (.closed report, after,
            store.giveBack (channel.unacked.entries.map (·.delivery))) ∧
        twin.serve store .close =
          (.closed { report with cancelledConsumers := twin.consumers.size }, after,
            store.giveBack (channel.unacked.entries.map (·.delivery))) := by
  intro report
  have twinOpen : twin.isOpen = true := by rwa [isOpen_of_bare_eq same]
  obtain ⟨id, mode, tags, tables, buffer⟩ := parts_of_bare_eq same
  have all : ∀ table : UnackedTable M, table.entries = table.entries.filter fun _ => true :=
    fun table => (List.filter_eq_self.mpr fun _ _ => rfl).symm
  have returned : store.giveBack (twin.unacked.entries.map (·.delivery)) =
      store.giveBack (channel.unacked.entries.map (·.delivery)) := by
    rw [all twin.unacked, all channel.unacked,
      ← twin.unacked.giveBack_relabel relabelling store _ fun _ => rfl, tables,
      UnackedTable.giveBack_relabel relabelling channel.unacked store _ fun _ => rfl]
  have count : twin.unacked.entries.length = channel.unacked.entries.length := by
    have lengths := congrArg (fun table => table.entries.length) tables
    simpa only [UnackedTable.entries_relabel, List.length_map] using lengths
  refine ⟨_, channel.serve_close store isOpen, ?_⟩
  rw [twin.serve_close store twinOpen, returned, count, id, tags, buffer]

end Channel

end MessageBroker
