import MessageBroker.Proofs.Deferral
import MessageBroker.Proofs.Recovery

/-!
# What a commit applies

A commit replays the buffered acknowledgements, and these select by tag; the flags in the table say
which deliveries they selected when they were made. By the bookkeeping of the channel the commit
removes the flagged entries, each once, and keeps the others (`Channel.Coherent.serve_commit`).
`Channel.commit_applies_transaction` states the whole effect of a commit on the channel and the
queues. A delivery that no acknowledgement has selected since it was made stays outstanding through
any number of commits (`Channel.contains_free_afterEach`).

Recovery concerns the entries that a commit keeps, and what it returns goes to the other end of the
queues. So the two can trade places (`Channel.recover_commit_comm`).
-/

set_option autoImplicit false

namespace MessageBroker

variable {M : Type}

/-- True of the requests that leave the delivery under a tag outstanding: all but acknowledgements
that select it, the return of deliveries and the close. -/
def Request.spares (tag : Nat) : Request M → Bool
  | ack named multiple => !covers named multiple tag
  | recover true | close => false
  | _ => true

/-! ## Tags outside the transaction -/

namespace UnackedTable

variable {table after : UnackedTable M} {entry : UnackedDelivery M}

theorem contains_free_of_mem (member : entry ∈ table.entries) (free : entry.ackPending = false) :
    table.free.contains entry.tag = true := by
  apply contains_iff.mpr
  refine ⟨entry, ?_, rfl⟩
  simp [member, free]

theorem exists_of_contains_free {tag : Nat} (outstanding : table.free.contains tag = true) :
    ∃ entry ∈ table.entries, entry.tag = tag ∧ entry.ackPending = false := by
  rwa [contains_free, contains_and_not_isPending_iff] at outstanding

theorem contains_free_enter {delivery : Delivery M} (entered : table.enter delivery = .ok after) :
    after.free.contains delivery.tag = true := by
  have new : (⟨delivery, false⟩ : UnackedDelivery M) ∈ after.entries := by
    rw [(enter_eq_ok_iff.mp entered).2]
    exact mem_insertEntry.mpr (.inl rfl)
  exact contains_free_of_mem new rfl

theorem contains_free_of_enter {delivery : Delivery M} (entered : table.enter delivery = .ok after)
    (member : entry ∈ table.entries) (free : entry.ackPending = false) :
    after.free.contains entry.tag = true := by
  have old : entry ∈ after.entries := by
    rw [(enter_eq_ok_iff.mp entered).2]
    exact mem_insertEntry.mpr (.inr member)
  exact contains_free_of_mem old free

theorem contains_free_keep {test : UnackedDelivery M → Bool} (member : entry ∈ table.entries)
    (free : entry.ackPending = false) (passes : test entry = true) :
    (table.keep test).free.contains entry.tag = true := by
  have kept : entry ∈ (table.keep test).entries := List.mem_filter.mpr ⟨member, passes⟩
  exact contains_free_of_mem kept free

theorem contains_free_adjust (change : UnackedDelivery M → UnackedDelivery M)
    (tag_change : ∀ entry, (change entry).tag = entry.tag) (member : entry ∈ table.entries)
    (free : (change entry).ackPending = false) :
    (table.adjust change tag_change).free.contains entry.tag = true := by
  have changed : change entry ∈ (table.adjust change tag_change).entries :=
    List.mem_map_of_mem member
  rw [← tag_change entry]
  exact contains_free_of_mem changed free

theorem keep_pending_keep_pending (table : UnackedTable M) :
    (table.keep (·.ackPending)).keep (·.ackPending) = table.keep (·.ackPending) := by
  rw [keep_keep]
  simp only [Bool.and_self]

/-- Handing out again passes the pending entries over. -/
theorem keep_pending_handOutAgain (table : UnackedTable M) :
    table.handOutAgain.2.keep (·.ackPending) = table.keep (·.ackPending) := by
  ext1
  rw [handOutAgain, entries_keep, entries_adjust, entries_keep]
  induction table.entries with
  | nil => rfl
  | cons entry rest ih =>
    rw [List.map_cons, List.filter_cons, List.filter_cons, ih, entry.ackPending_handOutAgain]
    cases pending : entry.ackPending with
    | false => rfl
    | true =>
      rw [UnackedDelivery.handOutAgain, pending]
      rfl

end UnackedTable

namespace Channel

/-- A request that spares a delivery leaves it outstanding. -/
theorem Step.contains_free {channel after : Channel M} {store later : Store M}
    {request : Request M} {reply : Reply M} (step : Step channel store request reply after later)
    {tag : Nat} (spares : request.spares tag = true)
    (outstanding : channel.unacked.free.contains tag = true) :
    after.unacked.free.contains tag = true := by
  obtain ⟨entry, member, rfl, free⟩ := UnackedTable.exists_of_contains_free outstanding
  cases step with
  | handedOut _ _ _ _ _ entered => exact UnackedTable.contains_free_of_enter entered member free
  -- What an acknowledgement removes or flags is what it selects, and it does not select this tag.
  | acked => exact UnackedTable.contains_free_keep member free spares
  | @deferredAck named multiple =>
    have unselected : covers named multiple entry.tag = false := by
      simpa [Request.spares] using spares
    apply UnackedTable.contains_free_adjust _ (UnackedDelivery.tag_flagBy named multiple) member
    rw [entry.ackPending_flagBy, unselected, free, Bool.or_false]
  | committed =>
    -- A commit removes pending entries only.
    apply UnackedTable.contains_free_keep member free
    rw [UnackedDelivery.confirmedBy, free, Bool.false_and, Bool.not_false]
  | rolledBack =>
    -- Releasing flags leaves none.
    exact UnackedTable.contains_free_adjust (fun entry => { entry with ackPending := false })
      (fun _ => rfl) member rfl
  | returned => cases spares
  | redelivered =>
    apply UnackedTable.contains_free_adjust _ UnackedDelivery.tag_handOutAgain member
    rw [entry.ackPending_handOutAgain, free]
  | closed => cases spares
  | _ => exact outstanding

/-- The channel after some requests, each answered on a store of its own: between two of them
anything may happen to the store. -/
def afterEach (channel : Channel M) (steps : List (Store M × Request M)) : Channel M :=
  steps.foldl (fun channel step => (channel.serve step.1 step.2).2.1) channel

/-- **A delivery stays outstanding until a request names it**, whatever is committed meanwhile. -/
theorem contains_free_afterEach {channel : Channel M} {tag : Nat}
    {steps : List (Store M × Request M)} (spared : ∀ step ∈ steps, step.2.spares tag = true)
    (outstanding : channel.unacked.free.contains tag = true) :
    (channel.afterEach steps).unacked.free.contains tag = true := by
  induction steps generalizing channel with
  | nil => exact outstanding
  | cons step rest ih =>
    apply ih
    · intro other member
      exact spared other (List.mem_cons_of_mem _ member)
    · have spares := spared step List.mem_cons_self
      exact (channel.step_serve step.1 step.2).contains_free spares outstanding

/-- A delivery that awaits an acknowledgement is outstanding as soon as it is made. -/
theorem Step.contains_free_of_delivered {channel after : Channel M} {store later : Store M}
    {request : Request M} {claim : Pull} {delivery : Delivery M}
    (step : Step channel store request (.delivered (some delivery)) after later)
    (claims : channel.pull? request = some claim) (noAck : claim.noAck = false) :
    after.unacked.free.contains delivery.tag = true := by
  cases step with
  | consumed _ otherClaims _ _ settled =>
    rw [claims] at otherClaims
    cases otherClaims
    rw [noAck] at settled
    cases settled
  | handedOut _ _ _ _ _ entered => exact UnackedTable.contains_free_enter entered

/-! ## The effect of a commit -/

/-- What a commit makes of a channel and its store. -/
structure Applied (channel : Channel M) (store : Store M) (report : CommitReport)
    (after : Channel M) (later : Store M) : Prop where
  /-- A queue gains what was deferred for it, in the order of issue and not redelivered. A missing
  queue stays missing. -/
  queues : ∀ name, later.queue? name = (store.queue? name).map
    (· ++ (messagesTo name channel.buffer.publishes).map (⟨·, false⟩))
  /-- What waited for no commit stays as it was. -/
  kept : after.unacked.entries = channel.unacked.entries.filter (!·.ackPending)
  settled : ∀ entry ∈ after.unacked.entries, entry.ackPending = false
  rest : after = { channel with buffer := .empty, unacked := after.unacked }
  published : report.published =
    channel.buffer.publishes.countP fun publish => store.has publish.2
  accounted : report.published + report.dropped = channel.buffer.publishCount
  acked : report.acked = channel.unacked.pendingCount

/-- With nothing deferred a commit does nothing. -/
theorem Coherent.serve_commit_of_idle {channel : Channel M} (coherent : channel.Coherent)
    (transactional : channel.mode = .transactional) (nothing : channel.buffer = .empty)
    (store : Store M) : channel.serve store .commit = (.committed {}, channel, store) := by
  have none_pending : channel.unacked.pendingCount = 0 := coherent.pendingCount_of_idle nothing
  have same : { channel with buffer := .empty, unacked := channel.unacked.free } = channel := by
    rw [UnackedTable.free_of_pendingCount none_pending, ← nothing]
  rw [coherent.serve_commit transactional store, none_pending, same, nothing]
  rfl

theorem Coherent.applied {channel : Channel M} (coherent : channel.Coherent)
    (transactional : channel.mode = .transactional) (store : Store M) :
    ∃ report after later, channel.serve store .commit = (.committed report, after, later) ∧
      Applied channel store report after later := by
  refine ⟨_, _, _, coherent.serve_commit transactional store, ?_⟩
  constructor
  case queues => exact store.queue?_enqueueAll channel.buffer.publishes
  case kept => rfl
  case settled =>
    intro entry member
    have free := (List.mem_filter.mp member).2
    simpa using free
  case rest => rfl
  case published => rw [store.counts_enqueueAll]
  case accounted =>
    rw [← channel.buffer.length_publishes]
    exact store.length_of_counts_enqueueAll channel.buffer.publishes
  case acked => rfl

/-- **A commit applies exactly the transaction**, on whatever store it is answered. It succeeds and
appends what was deferred to the queues that exist; it removes the pending entries of the table,
each counted once, and leaves the others as they are; it reports what it did, and a second commit
finds nothing to do. A delivery made while acknowledgements of any kind are deferred stays
outstanding through this commit and any later one, as long as no acknowledgement made after it
selects it and it is not returned. -/
theorem commit_applies_transaction {channel : Channel M} (reachable : channel.Reachable)
    (transactional : channel.mode = .transactional) (store : Store M) :
    (∃ report after later, channel.serve store .commit = (.committed report, after, later) ∧
      Applied channel store report after later ∧
      after.serve later .commit = (.committed {}, after, later)) ∧
    ∀ request claim delivery, channel.pull? request = some claim → claim.noAck = false →
      (channel.serve store request).1 = .delivered (some delivery) →
      ∀ steps : List (Store M × Request M), (∀ step ∈ steps, step.2.spares delivery.tag = true) →
        let last := (channel.serve store request).2.1.afterEach steps
        last.unacked.contains delivery.tag = true ∧
          last.unacked.isPending delivery.tag = false := by
  have coherent := coherent_of_reachable reachable
  constructor
  · obtain ⟨report, after, later, eq, applied⟩ := coherent.applied transactional store
    have step := channel.step_serve store .commit
    rw [eq] at step
    refine ⟨report, after, later, eq, applied, ?_⟩
    have still : after.mode = .transactional := step.transactional transactional rfl
    have nothing : after.buffer = .empty := by rw [applied.rest]
    exact (step.coherent coherent).serve_commit_of_idle still nothing later
  · intro request claim delivery claims noAck made steps spared last
    have step := channel.step_serve store request
    rw [made] at step
    have outstanding := contains_free_afterEach spared
      (step.contains_free_of_delivered claims noAck)
    rw [UnackedTable.contains_free, Bool.and_eq_true, Bool.not_eq_true'] at outstanding
    exact outstanding

/-- An acknowledgement of everything over an earlier one, with a publish that is dropped; then a
delivery, a commit and an acknowledgement that does not reach it. -/
theorem commit_applies_transaction_of_ack_all :
    let filled : Store Nat := ((Store.empty.declare "q").2.enqueueAll
      [(10, "q"), (20, "q"), (30, "q")]).2
    let run := (Channel.new "A").serveAll filled
      [.get "q" false, .get "q" false, .select, .publish 40 "q", .ack 1 false, .ack 0 true,
        .publish 50 "gone", .publish 60 "q"]
    let channel := run.2.1
    let store := run.2.2
    let request : Request Nat := .get "q" false
    let steps : List (Store Nat × Request Nat) :=
      [(store, .commit), (.empty, .ack 2 true), (store, .recover false), (store, .commit)]
    let last := (channel.serve store request).2.1.afterEach steps
    channel.Reachable ∧ channel.mode = .transactional ∧
      (channel.serve store .commit).1 = .committed ⟨2, 1, 2⟩ ∧
      (channel.serve store request).1 = .delivered (some ⟨3, 30, "q", .get, false⟩) ∧
      (∃ report after later, channel.serve store .commit = (.committed report, after, later) ∧
        Applied channel store report after later ∧
        after.serve later .commit = (.committed {}, after, later)) ∧
      last.unacked.contains 3 = true ∧ last.unacked.isPending 3 = false := by
  intro filled run channel store request steps last
  have reachable : channel.Reachable := (Reachable.opened "A").serveAll filled _
  have transactional : channel.mode = .transactional := by decide
  have made : (channel.serve store request).1 = .delivered (some ⟨3, 30, "q", .get, false⟩) := by
    decide
  have spared : ∀ step ∈ steps, step.2.spares 3 = true := by
    simp [steps, Request.spares, covers, Tag.isAll, Tag.all]
  obtain ⟨applied, kept⟩ := commit_applies_transaction reachable transactional store
  refine ⟨reachable, transactional, by decide, made, applied, ?_⟩
  exact kept request ⟨"q", .get, false⟩ _ rfl rfl made steps spared

/-! ## Commit and recovery -/

section Recovery

variable {channel : Channel M}

theorem serveAll_two {store between later : Store M} {first second : Request M}
    {middle after : Channel M} {reply other : Reply M}
    (first_eq : channel.serve store first = (reply, middle, between))
    (second_eq : middle.serve between second = (other, after, later)) :
    channel.serveAll store [first, second] = ([reply, other], after, later) := by
  rw [serveAll_cons, first_eq, serveAll_cons, second_eq]
  rfl

/-- What a return puts at the head of a queue does not decide which publishes are dropped. -/
theorem counts_giveBack (store : Store M) (deliveries : List (Delivery M))
    (publishes : List (M × QueueName)) :
    ((store.giveBack deliveries).enqueueAll publishes).1 = (store.enqueueAll publishes).1 := by
  simp only [Store.counts_enqueueAll, Store.has_giveBack]

/-- The channel once its transaction is committed. -/
def committed (channel : Channel M) : Channel M :=
  { channel with buffer := .empty, unacked := channel.unacked.free }

theorem outstanding_committed (channel : Channel M) :
    channel.committed.outstanding = channel.outstanding := by
  simp only [committed, outstanding, UnackedTable.entries_free, List.filter_filter, Bool.and_self]

/-- A recovery trades places with a commit when it answers the same afterwards, leaves what is
pending alone and does not decide which publishes are dropped. -/
theorem Coherent.recover_commit_of (coherent : channel.Coherent)
    (transactional : channel.mode = .transactional) {store given : Store M} {requeue : Bool}
    {answer : Reply M} {table : UnackedTable M}
    (before : channel.serve store (.recover requeue) =
      (answer, { channel with unacked := table }, given))
    (afterwards : channel.committed.serve (store.enqueueAll channel.buffer.publishes).2
        (.recover requeue) =
      (answer, { channel with unacked := table }.committed,
        (given.enqueueAll channel.buffer.publishes).2))
    (counts : (given.enqueueAll channel.buffer.publishes).1 =
      (store.enqueueAll channel.buffer.publishes).1)
    (pending : table.pendingCount = channel.unacked.pendingCount) :
    ∃ report after later,
      channel.serveAll store [.recover requeue, .commit] =
          ([answer, .committed report], after, later) ∧
        channel.serveAll store [.commit, .recover requeue] =
          ([.committed report, answer], after, later) ∧
        report.acked = channel.unacked.pendingCount := by
  have recovered := channel.step_serve store (.recover requeue)
  rw [before] at recovered
  have commit_after := (recovered.coherent coherent).serve_commit transactional given
  rw [counts, pending] at commit_after
  have commit_eq := coherent.serve_commit transactional store
  exact ⟨_, _, _, serveAll_two before commit_after, serveAll_two commit_eq afterwards, rfl⟩

/-- Deliveries return to the heads of queues and deferred publishes go to their tails. -/
theorem Coherent.returning_commit (coherent : channel.Coherent)
    (transactional : channel.mode = .transactional) (store : Store M) :
    ∃ report after later,
      channel.serveAll store [.recover true, .commit] =
          ([.recovered (.returned channel.outstanding.length), .committed report], after, later) ∧
        channel.serveAll store [.commit, .recover true] =
          ([.committed report, .recovered (.returned channel.outstanding.length)], after, later) ∧
        report.acked = channel.unacked.pendingCount := by
  have isOpen := channel.isOpen_of_transactional transactional
  apply coherent.recover_commit_of transactional (channel.serve_returning store isOpen)
  · rw [channel.committed.serve_returning _ isOpen, outstanding_committed,
      Store.giveBack_enqueueAll, committed, UnackedTable.free_keep_pending]
    rfl
  · exact counts_giveBack store channel.outstanding channel.buffer.publishes
  · exact channel.unacked.pendingCount_keep_pending

/-- Flags of deliveries that wait for no commit stay out of a commit's way. -/
theorem Coherent.redelivering_commit (coherent : channel.Coherent)
    (transactional : channel.mode = .transactional) (store : Store M) :
    ∃ report after later,
      channel.serveAll store [.recover false, .commit] =
          ([.recovered (.handedOut (channel.outstanding.map Delivery.flagged)),
            .committed report], after, later) ∧
        channel.serveAll store [.commit, .recover false] =
          ([.committed report,
            .recovered (.handedOut (channel.outstanding.map Delivery.flagged))], after, later) ∧
        report.acked = channel.unacked.pendingCount := by
  have isOpen := channel.isOpen_of_transactional transactional
  have shown : channel.unacked.handOutAgain.1 = channel.outstanding.map Delivery.flagged :=
    channel.unacked.handedOut_handOutAgain
  rw [← shown]
  apply coherent.recover_commit_of transactional (channel.serve_redelivering store isOpen)
  · rw [channel.committed.serve_redelivering _ isOpen, committed, UnackedTable.handedOut_free,
      UnackedTable.free_handOutAgain]
    rfl
  · rfl
  · exact channel.unacked.pendingCount_handOutAgain

end Recovery

/-- What a recovery of an open channel answers: the number of deliveries returned or the deliveries
handed out again, in both cases those that wait for no commit. -/
def recovery (channel : Channel M) (requeue : Bool) : Recovery M :=
  if requeue then .returned channel.outstanding.length
  else .handedOut (channel.outstanding.map Delivery.flagged)

/-- **Recovery and commit commute**, whether deliveries are returned or handed out again: both
orders give the same two answers and lead to the same channel and the same store. A recovery
answers, returns and changes nothing but what waits for no commit, and the commit acknowledges what
was pending before. -/
theorem recover_commit_comm {channel : Channel M} (reachable : channel.Reachable)
    (transactional : channel.mode = .transactional) (store : Store M) (requeue : Bool) :
    (∃ report after later,
      channel.serveAll store [.recover requeue, .commit] =
          ([.recovered (channel.recovery requeue), .committed report], after, later) ∧
        channel.serveAll store [.commit, .recover requeue] =
          ([.committed report, .recovered (channel.recovery requeue)], after, later) ∧
        report.acked = channel.unacked.pendingCount) ∧
      let recovered := channel.serve store (.recover requeue)
      recovered.2.1.unacked.keep (·.ackPending) = channel.unacked.keep (·.ackPending) ∧
        recovered.2.2 = if requeue then store.giveBack channel.outstanding else store := by
  have coherent := coherent_of_reachable reachable
  have isOpen := channel.isOpen_of_transactional transactional
  cases requeue with
  | true =>
    refine ⟨coherent.returning_commit transactional store, ?_⟩
    rw [channel.serve_returning store isOpen]
    exact ⟨channel.unacked.keep_pending_keep_pending, rfl⟩
  | false =>
    refine ⟨coherent.redelivering_commit transactional store, ?_⟩
    rw [channel.serve_redelivering store isOpen]
    exact ⟨channel.unacked.keep_pending_handOutAgain, rfl⟩

/-- Two queues, one of them deleted after the deliveries, with entries of both kinds and publishes
to both: the orders agree for either kind of recovery. -/
theorem recover_commit_comm_of_deleted_queue :
    let filled : Store Nat := ((((Store.empty.declare "q").2.declare "r").2.enqueueAll
      [(10, "q"), (20, "r"), (30, "q"), (40, "q")]).2)
    let run := (Channel.new "A").serveAll filled
      [.get "q" false, .get "r" false, .get "q" false, .select, .ack 1 false, .publish 50 "q",
        .publish 60 "r", .ack 1 true, .get "q" false]
    let channel := run.2.1
    let store := (run.2.2.delete "r").2
    channel.Reachable ∧ channel.mode = .transactional ∧
      (channel.serveAll store [.recover true, .commit]).1 =
        [.recovered (.returned 3), .committed ⟨1, 1, 1⟩] ∧
      ∀ requeue, (∃ report after later,
        channel.serveAll store [.recover requeue, .commit] =
            ([.recovered (channel.recovery requeue), .committed report], after, later) ∧
          channel.serveAll store [.commit, .recover requeue] =
            ([.committed report, .recovered (channel.recovery requeue)], after, later) ∧
          report.acked = channel.unacked.pendingCount) ∧
        let recovered := channel.serve store (.recover requeue)
        recovered.2.1.unacked.keep (·.ackPending) = channel.unacked.keep (·.ackPending) ∧
          recovered.2.2 = if requeue then store.giveBack channel.outstanding else store := by
  intro filled run channel store
  have reachable : channel.Reachable := (Reachable.opened "A").serveAll filled _
  have transactional : channel.mode = .transactional := by decide
  refine ⟨reachable, transactional, by decide, fun requeue => ?_⟩
  exact recover_commit_comm reachable transactional store requeue

end Channel

end MessageBroker
