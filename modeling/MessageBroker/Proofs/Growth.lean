import Mathlib.Algebra.BigOperators.Group.Finset.Piecewise
import MessageBroker.Proofs.Traffic

/-!
# How many messages a return adds to the store

A recovery to the queues and a close report how many deliveries they took from the table. A batch
for a queue that has been deleted meanwhile is dropped, so the messages waiting in the store grow by
the deliveries whose queue still exists (`Store.total_giveBack`). The report counts the others as
well: it is the growth and the lost deliveries together, and the growth alone exactly when none of
the queues is missing (`Channel.reported_eq_growth_add_lost`).
-/

set_option autoImplicit false

namespace MessageBroker

variable {M : Type}

open Finset

/-- Counting deliveries queue by queue counts each delivery of these queues once. -/
theorem sum_length_messagesFrom (names : Finset QueueName) (deliveries : List (Delivery M)) :
    ∑ name ∈ names, (messagesFrom name deliveries).length =
      deliveries.countP fun delivery => delivery.queue ∈ names := by
  induction deliveries with
  | nil => exact sum_eq_zero fun name _ => rfl
  | cons delivery rest ih =>
    -- The first delivery adds one message, to its own queue.
    have split : ∀ name ∈ names, (messagesFrom name (delivery :: rest)).length =
        (if delivery.queue = name then 1 else 0) + (messagesFrom name rest).length := by
      intro name _
      rw [messagesFrom_cons, List.length_append]
      by_cases same : delivery.queue = name
      · rw [if_pos same, if_pos same]
        rfl
      · rw [if_neg same, if_neg same]
        rfl
    rw [sum_congr rfl split, sum_add_distrib, sum_ite_eq, ih, List.countP_cons, Nat.add_comm]
    simp only [decide_eq_true_eq]

namespace Store

/-- The names of the queues that exist. -/
def Declares (store : Store M) (names : Finset QueueName) : Prop :=
  ∀ name, name ∈ names ↔ store.has name = true

/-- Number of messages that wait in these queues together. -/
def total (store : Store M) (names : Finset QueueName) : Nat :=
  ∑ name ∈ names, (store.messages name).length

/-- Number of deliveries whose queue does not exist. -/
def lost (store : Store M) (deliveries : List (Delivery M)) : Nat :=
  deliveries.countP fun delivery => !store.has delivery.queue

/-- What a return of some deliveries adds to a store, and what is reported of it. -/
structure Grown (store : Store M) (names : Finset QueueName) (taken : List (Delivery M))
    (reported : Nat) (later : Store M) : Prop where
  /-- No queue is created or removed. -/
  declares : later.Declares names
  counted : reported = taken.length
  total : later.total names + store.lost taken = store.total names + reported
  exact : later.total names = store.total names + reported ↔
    ∀ delivery ∈ taken, store.has delivery.queue = true

variable {store : Store M} {names : Finset QueueName}

/-! ## The queues of a store -/

theorem declares_empty : (empty : Store M).Declares ∅ := by
  intro name
  constructor
  · intro listed
    exact absurd listed (notMem_empty name)
  · intro has
    cases has

/-- What keeps each queue there or missing keeps the names. -/
theorem Declares.of_has (declares : store.Declares names) {later : Store M}
    (same : ∀ name, later.has name = store.has name) : later.Declares names := by
  intro name
  rw [same]
  exact declares name

theorem Declares.declare (declares : store.Declares names) (queue : QueueName) :
    (store.declare queue).2.Declares (insert queue names) := by
  intro name
  rw [mem_insert, has_eq_isSome, queue?_declare]
  by_cases same : name = queue
  · rw [if_pos same]
    exact iff_of_true (.inl same) rfl
  · rw [if_neg same, or_iff_right same]
    exact declares name

theorem Declares.delete (declares : store.Declares names) (queue : QueueName) :
    (store.delete queue).2.Declares (names.erase queue) := by
  intro name
  rw [mem_erase, has_eq_isSome, queue?_delete]
  by_cases same : name = queue
  · rw [if_pos same]
    exact iff_of_false (fun both => both.1 same) Bool.noConfusion
  · rw [if_neg same, and_iff_right same]
    exact declares name

/-! ## What a return adds -/

/-- A return adds the deliveries whose queue exists. -/
theorem total_giveBack (declares : store.Declares names) (deliveries : List (Delivery M)) :
    (store.giveBack deliveries).total names =
      store.total names + deliveries.countP fun delivery => store.has delivery.queue := by
  have lengths : ∀ name ∈ names, ((store.giveBack deliveries).messages name).length =
      (messagesFrom name deliveries).length + (store.messages name).length := by
    intro name listed
    rw [messages_giveBack, if_pos ((declares name).mp listed), List.length_append]
  have existing : (deliveries.countP fun delivery => delivery.queue ∈ names) =
      deliveries.countP fun delivery => store.has delivery.queue := by
    apply List.countP_congr
    intro delivery _
    rw [decide_eq_true_eq]
    exact declares delivery.queue
  rw [Store.total, sum_congr rfl lengths, sum_add_distrib, sum_length_messagesFrom, existing,
    Nat.add_comm, Store.total]

/-- Each delivery has a queue that exists or is lost. -/
theorem countP_has_add_lost (store : Store M) (deliveries : List (Delivery M)) :
    (deliveries.countP fun delivery => store.has delivery.queue) + store.lost deliveries =
      deliveries.length := by
  rw [lost, deliveries.length_eq_countP_add_countP fun delivery => store.has delivery.queue]
  simp only [Bool.not_eq_true, Bool.decide_eq_false]

theorem lost_eq_zero_iff {deliveries : List (Delivery M)} :
    store.lost deliveries = 0 ↔ ∀ delivery ∈ deliveries, store.has delivery.queue = true := by
  simp only [lost, List.countP_eq_zero, Bool.not_eq_true', Bool.not_eq_false]

/-- A return that reports all it took reports what it added and what it lost. -/
theorem grown_giveBack (declares : store.Declares names) (taken : List (Delivery M)) :
    store.Grown names taken taken.length (store.giveBack taken) := by
  have added := total_giveBack declares taken
  have parts := store.countP_has_add_lost taken
  constructor
  case declares => exact declares.of_has (store.has_giveBack taken)
  case counted => rfl
  case total => omega
  case exact =>
    rw [← lost_eq_zero_iff]
    constructor
    · intro whole
      omega
    · intro none_lost
      omega

end Store

namespace Channel

/-- No script of requests creates or removes a queue. -/
theorem has_serveAll (channel : Channel M) (store : Store M) (requests : List (Request M))
    (name : QueueName) : (channel.serveAll store requests).2.2.has name = store.has name := by
  induction requests generalizing channel store with
  | nil => rfl
  | cons request rest ih => exact (ih _ _).trans ((channel.step_serve store request).has_eq name)

/-- **What a return reports is what went back and what was lost together.** By as many messages as
the close of an open channel reports as requeued, less those whose queue is gone, the store grows;
the same holds of a recovery to the queues. So the report is the growth exactly when all queues of
the deliveries still exist. -/
theorem reported_eq_growth_add_lost {channel : Channel M} (isOpen : channel.isOpen = true)
    {store : Store M} {names : Finset QueueName} (declares : store.Declares names) :
    (∃ report after later, channel.serve store .close = (.closed report, after, later) ∧
      store.Grown names (channel.unacked.entries.map (·.delivery)) report.requeued later) ∧
    ∃ count after later,
      channel.serve store (.recover true) = (.recovered (.returned count), after, later) ∧
        store.Grown names channel.outstanding count later := by
  constructor
  · refine ⟨_, _, _, channel.serve_close store isOpen, ?_⟩
    have grown := Store.grown_giveBack declares (channel.unacked.entries.map (·.delivery))
    rwa [List.length_map] at grown
  · exact ⟨_, _, _, channel.serve_returning store isOpen,
      Store.grown_giveBack declares channel.outstanding⟩

/-- Deliveries of two queues, one of which is deleted, with an acknowledgement that waits for the
commit: three of four go back at a close, two of three at a recovery. -/
theorem reported_eq_growth_add_lost_of_deleted_queue :
    let filled : Store Nat := (((Store.empty.declare "q").2.declare "r").2.enqueueAll
      [(10, "q"), (20, "r"), (30, "q"), (40, "q"), (50, "q")]).2
    let run := (Channel.new "A").serveAll filled
      [.get "q" false, .get "r" false, .get "q" false, .get "q" false, .select, .ack 3 false]
    let channel := run.2.1
    let store := (run.2.2.delete "r").2
    channel.Reachable ∧ channel.isOpen = true ∧ store.Declares {"q"} ∧ store.total {"q"} = 1 ∧
      (∃ report after later, channel.serve store .close = (.closed report, after, later) ∧
        report.requeued = 4 ∧ later.total {"q"} + 1 = 1 + 4) ∧
      ∃ count after later,
        channel.serve store (.recover true) = (.recovered (.returned count), after, later) ∧
          count = 3 ∧ later.total {"q"} + 1 = 1 + 3 := by
  intro filled run channel store
  have reachable : channel.Reachable := (Reachable.opened "A").serveAll filled _
  have isOpen : channel.isOpen = true := by decide
  have declares : store.Declares {"q"} := by
    have both : run.2.2.Declares {"r", "q"} :=
      (((Store.declares_empty.declare "q").declare "r").of_has (Store.has_enqueueAll _ _)).of_has
        (has_serveAll _ _ _)
    have left : ({"r", "q"} : Finset QueueName).erase "r" = {"q"} := by decide
    exact left ▸ both.delete "r"
  have waiting : store.total {"q"} = 1 := by decide
  obtain ⟨⟨report, after, later, eq, grown⟩, count, after', later', eq', grown'⟩ :=
    reported_eq_growth_add_lost isOpen declares
  have lost : store.lost (channel.unacked.entries.map (·.delivery)) = 1 := by decide
  have lost' : store.lost channel.outstanding = 1 := by decide
  have requeued : report.requeued = 4 := grown.counted.trans (by decide)
  have returned : count = 3 := grown'.counted.trans (by decide)
  have total := grown.total
  have total' := grown'.total
  rw [lost, waiting, requeued] at total
  rw [lost', waiting, returned] at total'
  exact ⟨reachable, isOpen, declares, waiting, ⟨report, after, later, eq, requeued, total⟩,
    count, after', later', eq', returned, total'⟩

/-- A delivery whose queue is gone is reported as returned although no message goes back. -/
theorem overcounted_of_deleted_queue :
    let filled : Store Nat := (((Store.empty.declare "q").2.declare "r").2.enqueueAll
      [(10, "q"), (20, "r")]).2
    let run := (Channel.new "A").serveAll filled [.get "q" false]
    let channel := run.2.1
    let store := (run.2.2.delete "q").2
    channel.Reachable ∧ channel.isOpen = true ∧ store.Declares {"r"} ∧ store.total {"r"} = 1 ∧
      (channel.serve store .close).1 = .closed ⟨1, 0, 0⟩ ∧
      (channel.serve store .close).2.2.total {"r"} = 1 ∧
      (channel.serve store (.recover true)).1 = .recovered (.returned 1) ∧
      (channel.serve store (.recover true)).2.2.total {"r"} = 1 := by
  intro filled run channel store
  have reachable : channel.Reachable := (Reachable.opened "A").serveAll filled _
  have declares : store.Declares {"r"} := by
    have both : run.2.2.Declares {"r", "q"} :=
      (((Store.declares_empty.declare "q").declare "r").of_has (Store.has_enqueueAll _ _)).of_has
        (has_serveAll _ _ _)
    have left : ({"r", "q"} : Finset QueueName).erase "q" = {"r"} := by decide
    exact left ▸ both.delete "q"
  have isOpen : channel.isOpen = true := by decide
  have waiting : store.total {"r"} = 1 := by decide
  have closed : (channel.serve store .close).1 = .closed ⟨1, 0, 0⟩ := by decide
  have returned : (channel.serve store (.recover true)).1 = .recovered (.returned 1) := by decide
  have same : (channel.serve store .close).2.2.total {"r"} = 1 := by decide
  have same' : (channel.serve store (.recover true)).2.2.total {"r"} = 1 := by decide
  exact ⟨reachable, isOpen, declares, waiting, closed, same, returned, same'⟩

end Channel

end MessageBroker
