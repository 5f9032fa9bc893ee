import MessageBroker.Proofs.Handles
import MessageBroker.Proofs.Store

/-!
# What a return puts back

The close of a channel returns every delivery of its table, and a recovery to the queues returns
those that wait for no commit. In the table the deliveries of all queues are mixed; the return sorts
them into one batch for each queue and puts every batch at the head of its queue.

The batches concern different queues, so they may come in any order
(`Store.giveBack_eq_giveBackTo`), and together they do what a return of single messages does that
begins with the last delivery (`Store.giveBack_eq_giveBackSingly`). `Channel.returned_in_order`
states this for the close of a channel, for its release by the last holder and for a recovery.
-/

set_option autoImplicit false

namespace MessageBroker

variable {M : Type}

namespace Store

variable (store : Store M) (deliveries : List (Delivery M))

/-- Returns deliveries one at a time, the last one first, each to the head of its queue. -/
def giveBackSingly : Store M :=
  deliveries.foldr (fun delivery store => store.putBack delivery.queue [delivery.message]) store

/-- Returns the deliveries that come from the named queues, one batch for each name in the given
order. -/
def giveBackTo (names : List QueueName) : Store M :=
  names.foldl (fun store queue => store.putBack queue (messagesFrom queue deliveries)) store

theorem queue?_giveBackSingly (name : QueueName) :
    (store.giveBackSingly deliveries).queue? name =
      (store.queue? name).map ((messagesFrom name deliveries).map (⟨·, true⟩) ++ ·) := by
  unfold giveBackSingly
  induction deliveries with
  | nil => simp [messagesFrom]
  | cons delivery rest ih =>
    rw [List.foldr_cons, queue?_putBack, messagesFrom_cons]
    by_cases same : name = delivery.queue
    · -- The delivery goes before what the later ones have put there.
      subst name
      rw [if_pos rfl, if_pos rfl, ih, Option.map_map]
      simp [Function.comp_def]
    · have other : ¬ delivery.queue = name := fun h => same h.symm
      rw [if_neg same, if_neg other, ih, List.nil_append]

variable {deliveries}

theorem queue?_giveBackTo {names : List QueueName} (distinct : names.Nodup) (name : QueueName) :
    (store.giveBackTo deliveries names).queue? name =
      if name ∈ names then
        (store.queue? name).map ((messagesFrom name deliveries).map (⟨·, true⟩) ++ ·)
      else store.queue? name := by
  unfold giveBackTo
  induction names generalizing store with
  | nil => simp
  | cons first rest ih =>
    obtain ⟨fresh, distinct⟩ := List.nodup_cons.mp distinct
    rw [List.foldl_cons, ih _ distinct, queue?_putBack]
    by_cases same : name = first
    · -- No later batch is for the same queue.
      subst name
      rw [if_neg fresh, if_pos rfl, if_pos List.mem_cons_self]
    · simp only [same, if_false, List.mem_cons, false_or]

/-- Sorting deliveries by queue changes nothing in what each queue gets. -/
theorem giveBack_eq_giveBackSingly :
    store.giveBack deliveries = store.giveBackSingly deliveries := by
  ext1
  funext name
  rw [queue?_giveBack, queue?_giveBackSingly]

/-- The order of the batches does not matter. -/
theorem giveBack_eq_giveBackTo {names : List QueueName} (distinct : names.Nodup)
    (complete : ∀ delivery ∈ deliveries, delivery.queue ∈ names) :
    store.giveBack deliveries = store.giveBackTo deliveries names := by
  ext1
  funext name
  rw [queue?_giveBack, store.queue?_giveBackTo distinct]
  split
  · rfl
  · rename_i unnamed
    have absent : name ∉ deliveries.map (·.queue) := by
      intro member
      obtain ⟨delivery, listed, rfl⟩ := List.mem_map.mp member
      exact unnamed (complete delivery listed)
    exact map_messagesFrom_of_absent absent _

/-- What the return of some deliveries makes of a store. -/
structure Returned (store : Store M) (taken : List (Delivery M)) (later : Store M) : Prop where
  ascending : taken.Pairwise fun first second => first.tag < second.tag
  /-- What was taken from a queue comes before what is in it, redelivered. A missing queue stays
  missing. -/
  queues : ∀ name, later.queue? name =
    (store.queue? name).map ((messagesFrom name taken).map (⟨·, true⟩) ++ ·)
  singly : later = store.giveBackSingly taken
  batches : ∀ names : List QueueName, names.Nodup → (∀ delivery ∈ taken, delivery.queue ∈ names) →
    later = store.giveBackTo taken names

theorem returned_giveBack (ascending : deliveries.Pairwise fun first second =>
    first.tag < second.tag) : store.Returned deliveries (store.giveBack deliveries) where
  ascending := ascending
  queues := store.queue?_giveBack deliveries
  singly := store.giveBack_eq_giveBackSingly
  batches _ distinct complete := store.giveBack_eq_giveBackTo distinct complete

end Store

namespace Channel

/-- **A return puts back exactly what it takes, in order.** The close of an open channel takes every
delivery of the table, whether its acknowledgement is pending or not, and letting go of whatever
holds the channel does the same. A recovery takes those that wait for no commit and changes nothing
else in the channel. -/
theorem returned_in_order {channel : Channel M} (isOpen : channel.isOpen = true)
    (store : Store M) :
    (∃ report after later, channel.serve store .close = (.closed report, after, later) ∧
      report.requeued = channel.unacked.size ∧ after.unacked = .empty ∧
      store.Returned (channel.unacked.entries.map (·.delivery)) later ∧
      ∀ host : Host M, host.Fits → host.channel = channel →
        (host.release store).1.channel = after ∧ (host.release store).2 = later) ∧
    ∃ later, channel.serve store (.recover true) =
        (.recovered (.returned channel.outstanding.length),
          { channel with unacked := channel.unacked.keep (·.ackPending) }, later) ∧
      store.Returned channel.outstanding later := by
  constructor
  · refine ⟨_, _, _, channel.serve_close store isOpen, rfl, rfl, ?_, ?_⟩
    · exact store.returned_giveBack channel.unacked.ascending_deliveries
    · intro host fits holds
      subst holds
      have served := host.channel.serve_close store isOpen
      obtain ⟨released, emptied⟩ := fits.release_eq store
      have after_eq := congrArg (fun outcome => outcome.2.1) served
      have later_eq := congrArg (fun outcome => outcome.2.2) served
      exact ⟨released.trans after_eq, emptied.trans later_eq⟩
  · refine ⟨_, channel.serve_returning store isOpen, ?_⟩
    exact store.returned_giveBack (channel.unacked.keep (!·.ackPending)).ascending_deliveries

/-- Deliveries of three queues in turn, one of them acknowledged in the transaction and one of the
queues deleted, over queues that are not empty. -/
theorem returned_in_order_of_three_queues :
    let declared : Store Nat := (((Store.empty.declare "q").2.declare "r").2.declare "s").2
    let filled := (declared.enqueueAll
      [(10, "q"), (20, "r"), (30, "s"), (40, "q"), (50, "r"), (60, "q"), (70, "q")]).2
    let run := (Channel.new "A").serveAll filled
      [.get "q" false, .get "r" false, .get "s" false, .get "q" false, .get "r" false,
        .get "q" false, .select, .ack 4 false]
    let channel := run.2.1
    let store := (run.2.2.delete "s").2
    channel.Reachable ∧ channel.isOpen = true ∧
      (channel.serve store .close).2.2.queue? "q" =
        some [⟨10, true⟩, ⟨40, true⟩, ⟨60, true⟩, ⟨70, false⟩] ∧
      (channel.serve store (.recover true)).2.2.queue? "q" =
        some [⟨10, true⟩, ⟨60, true⟩, ⟨70, false⟩] ∧
      (channel.serve store (.recover true)).2.2.queue? "s" = none ∧
      ∃ report after later, channel.serve store .close = (.closed report, after, later) ∧
        report.requeued = 6 ∧
        later = store.giveBackTo (channel.unacked.entries.map (·.delivery)) ["s", "q", "t", "r"] ∧
        ((Host.direct channel).release store).2 = later ∧
        ((Host.driven ⟨channel, true⟩).release store).2 = later ∧
        (channel.serve store (.recover true)).2.2 =
          store.giveBackSingly channel.outstanding := by
  intro declared filled run channel store
  have reachable : channel.Reachable := (Reachable.opened "A").serveAll filled _
  have isOpen : channel.isOpen = true := by decide
  refine ⟨reachable, isOpen, by decide, by decide, by decide, ?_⟩
  obtain ⟨⟨report, after, later, closed, requeued, _, returned, released⟩, recovered⟩ :=
    returned_in_order isOpen store
  obtain ⟨left, recover_eq, returned_some⟩ := recovered
  refine ⟨report, after, later, closed, ?_, ?_, ?_, ?_, ?_⟩
  · rw [requeued]
    decide
  · exact returned.batches _ (by decide) (by decide)
  · exact (released (.direct channel) trivial rfl).2
  · obtain ⟨fits, holds⟩ := Host.fits_driven isOpen
    exact (released (.driven ⟨channel, true⟩) fits holds).2
  · rw [recover_eq]
    exact returned_some.singly

end Channel

end MessageBroker
