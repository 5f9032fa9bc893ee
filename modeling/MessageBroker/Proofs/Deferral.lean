import MessageBroker.Proofs.Bookkeeping
import MessageBroker.Proofs.Store

/-!
# Deferred and immediate execution

The same requests answered twice: by a channel outside a transaction, and inside one with commits
anywhere between them. `Deferral` relates the two channels and their stores at every moment: the
table outside the transaction is the table inside it without its pending entries (`free`), and the
store outside is the store inside once the buffered publishes reach it. Requests that may wait for
a commit keep the relation (`Deferral.serve`), a commit makes the two sides equal
(`Deferral.commit`). `Channel.deferred_eq_immediate` follows by induction on the script: the same
answers, the same end, and commit reports that add up to what the requests did at once.
-/

set_option autoImplicit false

namespace MessageBroker

variable {M : Type}

/-! ## Entries that wait for no commit -/

namespace UnackedTable

/-- The table without its pending entries. -/
def free (table : UnackedTable M) : UnackedTable M := table.keep (!·.ackPending)

@[simp] theorem entries_free (table : UnackedTable M) :
    table.free.entries = table.entries.filter (!·.ackPending) := rfl

theorem contains_free (table : UnackedTable M) (tag : Nat) :
    table.free.contains tag = (table.contains tag && !table.isPending tag) := by
  rw [Bool.eq_iff_iff, contains_and_not_isPending_iff, contains_iff]
  constructor
  · rintro ⟨entry, kept, named⟩
    obtain ⟨member, free⟩ := List.mem_filter.mp kept
    exact ⟨entry, member, named, by simpa using free⟩
  · rintro ⟨entry, member, named, free⟩
    exact ⟨entry, List.mem_filter.mpr ⟨member, by simp [free]⟩, named⟩

theorem free_of_pendingCount {table : UnackedTable M} (none : table.pendingCount = 0) :
    table.free = table := by
  ext1
  rw [entries_free, List.filter_eq_self]
  intro entry member
  have unflagged := List.countP_eq_zero.mp none entry member
  simpa using unflagged

@[simp] theorem free_free (table : UnackedTable M) : table.free.free = table.free := by
  rw [free, free, keep_keep]
  simp only [Bool.and_self]

@[simp] theorem pendingCount_free (table : UnackedTable M) : table.free.pendingCount = 0 := by
  rw [pendingCount, List.countP_eq_zero]
  intro entry kept
  have free := (List.mem_filter.mp kept).2
  simpa using free

/-- Flagging entries and removing them leaves the same entries free. -/
theorem free_postponed (table : UnackedTable M) (tag : Nat) (multiple : Bool) :
    (table.postponed tag multiple).free =
      table.free.keep fun entry => !covers tag multiple entry.tag := by
  ext1
  simp only [postponed, entries_free, entries_adjust, entries_keep]
  induction table.entries with
  | nil => rfl
  | cons entry rest ih =>
    rw [List.map_cons, List.filter_cons, List.filter_cons, UnackedDelivery.ackPending_flagBy]
    -- An entry is free on the left when it is neither pending nor selected.
    cases flag : entry.ackPending with
    | true => simpa using ih
    | false =>
      cases selected : covers tag multiple entry.tag with
      | true => simpa [selected] using ih
      | false => simpa [selected, UnackedDelivery.flagBy] using ih

/-- An acknowledgement makes pending what it would remove from the free entries. -/
theorem pendingCount_postponed (table : UnackedTable M) (tag : Nat) (multiple : Bool) :
    (table.postponed tag multiple).pendingCount =
      table.pendingCount +
        (table.free.departed
          (table.free.keep fun entry => !covers tag multiple entry.tag)).length := by
  rw [departed_keep]
  simp only [postponed, pendingCount, entries_free, entries_adjust, List.length_map, Bool.not_not]
  induction table.entries with
  | nil => rfl
  | cons entry rest ih =>
    rw [List.map_cons, List.countP_cons, List.countP_cons, UnackedDelivery.ackPending_flagBy,
      List.filter_cons, ih]
    cases entry.ackPending <;> cases selected : covers tag multiple entry.tag <;>
      simp [selected] <;> omega

/-- Entries that are not pending are all that a recovery returns. -/
theorem free_keep_pending (table : UnackedTable M) :
    table.free.keep (·.ackPending) = (table.keep (·.ackPending)).free := by
  rw [free, free, keep_keep, keep_keep]
  congr 1
  funext entry
  exact Bool.and_comm _ _

theorem pendingCount_keep_pending (table : UnackedTable M) :
    (table.keep (·.ackPending)).pendingCount = table.pendingCount := by
  simp [pendingCount, List.countP_filter]

theorem free_handOutAgain (table : UnackedTable M) :
    table.free.handOutAgain.2 = table.handOutAgain.2.free := by
  ext1
  simp [handOutAgain, List.filter_map, Function.comp_def]

theorem handedOut_free (table : UnackedTable M) :
    table.free.handOutAgain.1 = table.handOutAgain.1 := by
  simp [handOutAgain, List.filter_map, Function.comp_def, List.filter_filter]

theorem pendingCount_handOutAgain (table : UnackedTable M) :
    table.handOutAgain.2.pendingCount = table.pendingCount := by
  simp [handOutAgain, pendingCount, List.countP_map, Function.comp_def]

/-- A delivery that enters the table enters the free entries as well. -/
theorem enter_free {table after : UnackedTable M} {delivery : Delivery M}
    (entered : table.enter delivery = .ok after)
    (largest : ∀ entry ∈ table.entries, entry.tag < delivery.tag) :
    table.free.enter delivery = .ok after.free := by
  obtain ⟨absent, entries⟩ := enter_eq_ok_iff.mp entered
  have largest_free : ∀ entry ∈ table.free.entries, entry.tag < delivery.tag :=
    fun entry kept => largest entry (List.mem_filter.mp kept).1
  rw [enter_eq_ok_iff, contains_free, absent, Bool.false_and]
  refine ⟨rfl, ?_⟩
  rw [entries_free, entries, insertEntry_of_largest ⟨delivery, false⟩ largest,
    insertEntry_of_largest ⟨delivery, false⟩ largest_free]
  simp

theorem pendingCount_enter {table after : UnackedTable M} {delivery : Delivery M}
    (entered : table.enter delivery = .ok after)
    (largest : ∀ entry ∈ table.entries, entry.tag < delivery.tag) :
    after.pendingCount = table.pendingCount := by
  rw [pendingCount, (enter_eq_ok_iff.mp entered).2,
    insertEntry_of_largest ⟨delivery, false⟩ largest]
  simp [pendingCount]

end UnackedTable

/-! ## Requests that may wait -/

namespace Request

/-- True of the requests whose effect a transaction may hold back, and of those that run beside
them: all but select, commit, rollback and close. -/
def isDeferrable : Request M → Bool
  | publish _ _ | ack _ _ | recover _ | consume _ _ _ | cancel _ | get _ _ | next _ => true
  | select | commit | rollback | close => false

/-- True of acknowledgements. -/
def isAck : Request M → Bool
  | ack _ _ => true
  | _ => false

/-- The queue a publish is sent to. -/
def target? : Request M → Option QueueName
  | publish _ target => some target
  | _ => none

end Request

/-- The report of a commit. -/
def Reply.commitReport? : Reply M → Option CommitReport
  | committed report => some report
  | _ => none

namespace Channel

/-- True when no request of a run takes from one of the given queues. -/
def pullsApart (targets : List QueueName) (channel : Channel M) (store : Store M) :
    List (Request M) → Bool
  | [] => true
  | request :: rest =>
    (channel.pull? request).all (fun claim => !targets.contains claim.queue) &&
      (channel.serve store request).2.1.pullsApart targets (channel.serve store request).2.2 rest

/-- The deliveries that the acknowledgements of a run remove from the table. -/
def acknowledged (channel : Channel M) (store : Store M) : List (Request M) → List (Delivery M)
  | [] => []
  | request :: rest =>
    (if request.isAck then channel.unacked.departed (channel.serve store request).2.1.unacked
      else []) ++
      (channel.serve store request).2.1.acknowledged (channel.serve store request).2.2 rest

theorem serveAll_cons (channel : Channel M) (store : Store M) (request : Request M)
    (rest : List (Request M)) :
    channel.serveAll store (request :: rest) =
      ((channel.serve store request).1 ::
          ((channel.serve store request).2.1.serveAll (channel.serve store request).2.2 rest).1,
        ((channel.serve store request).2.1.serveAll (channel.serve store request).2.2 rest).2) :=
  rfl

end Channel

/-- What several commits applied together. -/
def CommitReport.total : List CommitReport → CommitReport
  | [] => {}
  | report :: rest =>
    { published := report.published + (total rest).published
      dropped := report.dropped + (total rest).dropped
      acked := report.acked + (total rest).acked }

/-- The answers to the deferrable requests of a script. -/
def Channel.answers (channel : Channel M) (store : Store M) (script : List (Request M)) :
    List (Reply M) :=
  ((script.zip (channel.serveAll store script).1).filter (·.1.isDeferrable)).map (·.2)

/-- The reports of the commits of a script. -/
def Channel.reports (channel : Channel M) (store : Store M) (script : List (Request M)) :
    List CommitReport :=
  (channel.serveAll store script).1.filterMap Reply.commitReport?

namespace Channel

theorem answers_cons (channel : Channel M) (store : Store M) (request : Request M)
    (rest : List (Request M)) :
    channel.answers store (request :: rest) =
      (if request.isDeferrable then [(channel.serve store request).1] else []) ++
        (channel.serve store request).2.1.answers (channel.serve store request).2.2 rest := by
  simp only [answers, serveAll_cons, List.zip_cons_cons, List.filter_cons]
  split
  · rfl
  · rfl

theorem reports_cons (channel : Channel M) (store : Store M) (request : Request M)
    (rest : List (Request M)) :
    channel.reports store (request :: rest) =
      (channel.serve store request).1.commitReport?.toList ++
        (channel.serve store request).2.1.reports (channel.serve store request).2.2 rest := by
  simp only [reports, serveAll_cons, List.filterMap_cons]
  split
  · rename_i none
    rw [none]
    rfl
  · rename_i report some
    rw [some]
    rfl

/-- **A commit removes the pending entries and no others**, although the acknowledgements it applies
select by tag. -/
theorem Coherent.serve_commit {channel : Channel M} (coherent : channel.Coherent)
    (transactional : channel.mode = .transactional) (store : Store M) :
    channel.serve store .commit =
      (.committed
        { published := (store.enqueueAll channel.buffer.publishes).1.1
          dropped := (store.enqueueAll channel.buffer.publishes).1.2
          acked := channel.unacked.pendingCount },
        { channel with buffer := .empty, unacked := channel.unacked.free },
        (store.enqueueAll channel.buffer.publishes).2) := by
  have counted : channel.unacked.entries.countP (·.confirmedBy channel.buffer.acks) =
      channel.unacked.pendingCount := by
    apply List.countP_congr
    intro entry member
    rw [coherent.confirmedBy_eq member]
  have kept : (channel.unacked.keep fun entry => !entry.confirmedBy channel.buffer.acks) =
      channel.unacked.free := by
    ext1
    apply List.filter_congr
    intro entry member
    rw [coherent.confirmedBy_eq member]
  rw [channel.serve_commit_of_transactional store transactional, counted, kept]

/-- Only a commit is answered by a report. -/
theorem Step.commitReport?_eq_none {channel after : Channel M} {store later : Store M}
    {request : Request M} {reply : Reply M} (step : Step channel store request reply after later)
    (deferrable : request.isDeferrable = true) : reply.commitReport? = none := by
  cases step with
  | committed => cases deferrable
  | _ => rfl

end Channel

/-- A channel that executes at once and one that defers, with their stores, after the same
requests. -/
structure Deferral (targets : List QueueName) (now : Channel M) (nowStore : Store M)
    (later : Channel M) (laterStore : Store M) : Prop where
  immediate : now.mode = .immediate
  transactional : later.mode = .transactional
  coherent : later.Coherent
  tags : now.tags = later.tags
  consumers : now.consumers = later.consumers
  unacked : now.unacked = later.unacked.free
  store : nowStore = (laterStore.enqueueAll later.buffer.publishes).2
  /-- Only the given queues have messages to come. -/
  within : ∀ publish ∈ later.buffer.publishes, publish.2 ∈ targets

namespace Deferral

variable {targets : List QueueName} {now later : Channel M} {nowStore laterStore : Store M}

/-- What a deferrable request leads to on both sides. -/
structure Kept (targets : List QueueName) (now : Channel M) (nowStore : Store M)
    (later : Channel M) (laterStore : Store M) (request : Request M) : Prop where
  reply : (later.serve laterStore request).1 = (now.serve nowStore request).1
  related : Deferral targets (now.serve nowStore request).2.1 (now.serve nowStore request).2.2
    (later.serve laterStore request).2.1 (later.serve laterStore request).2.2
  publishes : (later.serve laterStore request).2.1.buffer.publishes.length =
    later.buffer.publishes.length + request.target?.toList.length
  pending : (later.serve laterStore request).2.1.unacked.pendingCount =
    later.unacked.pendingCount +
      if request.isAck then
        (now.unacked.departed (now.serve nowStore request).2.1.unacked).length
      else 0

theorem nowOpen (related : Deferral targets now nowStore later laterStore) : now.isOpen = true :=
  now.isOpen_of_immediate related.immediate

theorem laterOpen (related : Deferral targets now nowStore later laterStore) :
    later.isOpen = true :=
  later.isOpen_of_transactional related.transactional

theorem has_eq (related : Deferral targets now nowStore later laterStore) (queue : QueueName) :
    nowStore.has queue = laterStore.has queue := by
  rw [related.store, Store.has_enqueueAll]

theorem nothing_to (related : Deferral targets now nowStore later laterStore) {queue : QueueName}
    (apart : queue ∉ targets) : messagesTo queue later.buffer.publishes = [] :=
  messagesTo_eq_nil fun publish member same => apart (same ▸ related.within publish member)

/-- A queue that no deferred publish is sent to is the same on both sides. -/
theorem queue?_eq (related : Deferral targets now nowStore later laterStore) {queue : QueueName}
    (apart : queue ∉ targets) : nowStore.queue? queue = laterStore.queue? queue := by
  rw [related.store, Store.queue?_enqueueAll, related.nothing_to apart]
  simp

theorem coherent_of_eq (related : Deferral targets now nowStore later laterStore)
    {request : Request M} {reply : Reply M} {after : Channel M} {store : Store M}
    (later_eq : later.serve laterStore request = (reply, after, store)) : after.Coherent := by
  have coherent := (later.step_serve laterStore request).coherent related.coherent
  rwa [later_eq] at coherent

section Answers

variable {request : Request M} {reply : Reply M} {now' later' : Channel M}
  {nowStore' laterStore' : Store M}
  (now_eq : now.serve nowStore request = (reply, now', nowStore'))
  (later_eq : later.serve laterStore request = (reply, later', laterStore'))

include now_eq later_eq

theorem Kept.of_eq (related : Deferral targets now' nowStore' later' laterStore')
    (publishes : later'.buffer.publishes.length =
      later.buffer.publishes.length + request.target?.toList.length)
    (pending : later'.unacked.pendingCount =
      later.unacked.pendingCount +
        if request.isAck then (now.unacked.departed now'.unacked).length else 0) :
    Kept targets now nowStore later laterStore request where
  reply := by rw [now_eq, later_eq]
  related := by rwa [now_eq, later_eq]
  publishes := by rwa [later_eq]
  pending := by rwa [now_eq, later_eq]

/-- A request that neither publishes nor acknowledges. -/
theorem Kept.of_beside (related : Deferral targets now' nowStore' later' laterStore')
    (beside : request.target? = none ∧ request.isAck = false)
    (buffer : later'.buffer = later.buffer)
    (pending : later'.unacked.pendingCount = later.unacked.pendingCount) :
    Kept targets now nowStore later laterStore request := by
  refine .of_eq now_eq later_eq related ?_ ?_
  · rw [buffer, beside.1]
    rfl
  · rw [pending, beside.2]
    rfl

end Answers

/-- A request that both sides refuse alike. -/
theorem refused (related : Deferral targets now nowStore later laterStore) {request : Request M}
    {reply : Reply M} (now_eq : now.serve nowStore request = (reply, now, nowStore))
    (later_eq : later.serve laterStore request = (reply, later, laterStore))
    (other : request.target? = none) : Kept targets now nowStore later laterStore request := by
  refine .of_eq now_eq later_eq related ?_ ?_
  · rw [other]
    rfl
  · rw [UnackedTable.departed_self]
    simp

theorem publish (related : Deferral targets now nowStore later laterStore) {message : M}
    {target : QueueName} (expected : target ∈ targets) :
    Kept targets now nowStore later laterStore (.publish message target) := by
  have now_eq := now.serve_publish_of_immediate nowStore related.immediate message target
  have later_eq :=
    later.serve_publish_of_transactional laterStore related.transactional message target
  refine .of_eq now_eq later_eq ?_ ?_ rfl
  · exact { related with
      coherent := related.coherent_of_eq later_eq
      store := by
        rw [TransactionBuffer.publishes_deferPublish, Store.enqueueAll_append, ← related.store,
          Store.enqueueAll_cons]
        rfl
      within := by
        intro sent member
        rw [TransactionBuffer.publishes_deferPublish] at member
        rcases List.mem_append.mp member with old | new
        · exact related.within sent old
        · obtain rfl := List.mem_singleton.mp new
          exact expected }
  · simp [Request.target?]

theorem ack (related : Deferral targets now nowStore later laterStore) (tag : Nat)
    (multiple : Bool) : Kept targets now nowStore later laterStore (.ack tag multiple) := by
  have now_eq := now.serve_ack_of_immediate nowStore related.immediate tag multiple
  have later_eq := later.serve_ack_of_transactional laterStore related.transactional tag multiple
  -- Both sides make the same checks: an entry here is a free entry there.
  rw [related.unacked, UnackedTable.contains_free, related.tags] at now_eq
  split at now_eq
  · rename_i failed
    rw [if_pos failed] at later_eq
    exact related.refused now_eq later_eq rfl
  · rename_i accepted
    rw [if_neg accepted] at later_eq
    refine .of_eq now_eq later_eq ?_ ?_ ?_
    · exact { related with
        coherent := related.coherent_of_eq later_eq
        tags := rfl
        unacked := (later.unacked.free_postponed tag multiple).symm
        store := by rw [TransactionBuffer.publishes_deferAck, related.store]
        within := by
          rw [TransactionBuffer.publishes_deferAck]
          exact related.within }
    · simp [Request.target?]
    · rw [related.unacked]
      exact later.unacked.pendingCount_postponed tag multiple

theorem consume (related : Deferral targets now nowStore later laterStore) (queue : QueueName)
    (tag : ConsumerTag) (noAck : Bool) :
    Kept targets now nowStore later laterStore (.consume queue tag noAck) := by
  obtain ⟨reply, consumers, later_eq, now_eq⟩ := Channel.same_consume related.laterOpen
    related.nowOpen related.consumers (related.has_eq queue) tag noAck
  refine .of_beside now_eq later_eq ?_ ⟨rfl, rfl⟩ rfl rfl
  exact { related with
    coherent := related.coherent_of_eq later_eq
    consumers := rfl }

theorem cancel (related : Deferral targets now nowStore later laterStore) (tag : ConsumerTag) :
    Kept targets now nowStore later laterStore (.cancel tag) := by
  obtain ⟨reply, consumers, later_eq, now_eq⟩ :=
    Channel.same_cancel related.laterOpen related.nowOpen related.consumers tag
  refine .of_beside now_eq later_eq ?_ ⟨rfl, rfl⟩ rfl rfl
  exact { related with
    coherent := related.coherent_of_eq later_eq
    consumers := rfl }

/-- What is returned goes to the heads of the queues, what is to come to their tails. -/
theorem returning (related : Deferral targets now nowStore later laterStore) :
    Kept targets now nowStore later laterStore (.recover true) := by
  have now_eq := now.serve_returning nowStore related.nowOpen
  have later_eq := later.serve_returning laterStore related.laterOpen
  have same : now.outstanding = later.outstanding := by
    rw [Channel.outstanding, related.unacked, UnackedTable.entries_free, List.filter_filter]
    simp only [Bool.and_self]
    rfl
  -- Outside the transaction every entry is free, so both sides return the same deliveries.
  rw [same, related.unacked] at now_eq
  refine .of_beside now_eq later_eq ?_ ⟨rfl, rfl⟩ rfl ?_
  · exact { related with
      coherent := related.coherent_of_eq later_eq
      unacked := later.unacked.free_keep_pending
      store := by rw [related.store, Store.giveBack_enqueueAll] }
  · exact later.unacked.pendingCount_keep_pending

theorem redelivering (related : Deferral targets now nowStore later laterStore) :
    Kept targets now nowStore later laterStore (.recover false) := by
  have now_eq := now.serve_redelivering nowStore related.nowOpen
  have later_eq := later.serve_redelivering laterStore related.laterOpen
  rw [related.unacked, UnackedTable.handedOut_free, UnackedTable.free_handOutAgain] at now_eq
  refine .of_beside now_eq later_eq ?_ ⟨rfl, rfl⟩ rfl ?_
  · exact { related with
      coherent := related.coherent_of_eq later_eq
      unacked := rfl }
  · exact later.unacked.pendingCount_handOutAgain

theorem pull?_eq (related : Deferral targets now nowStore later laterStore) (request : Request M) :
    later.pull? request = now.pull? request := by
  cases request <;> simp [Channel.pull?, related.consumers]

/-- Both stores without the head of a queue that nothing is to come to. -/
theorem store_set (related : Deferral targets now nowStore later laterStore) {queue : QueueName}
    (apart : queue ∉ targets) (contents : List (Queued M)) :
    nowStore.set queue (some contents) =
      ((laterStore.set queue (some contents)).enqueueAll later.buffer.publishes).2 := by
  ext1
  funext name
  rw [Store.queue?_enqueueAll, Store.queue?_set, Store.queue?_set, related.store,
    Store.queue?_enqueueAll]
  by_cases same : name = queue
  · subst name
    simp [related.nothing_to apart]
  · simp [same]

/-- A request that takes from a queue to which nothing is to come. -/
theorem pull (related : Deferral targets now nowStore later laterStore) {request : Request M}
    {claim : Pull} (claims : now.pull? request = some claim) (apart : claim.queue ∉ targets) :
    Kept targets now nowStore later laterStore request := by
  have beside : request.target? = none ∧ request.isAck = false := by
    cases request with
    | get => exact ⟨rfl, rfl⟩
    | next => exact ⟨rfl, rfl⟩
    | _ => cases claims
  have later_claims : later.pull? request = some claim := by rw [related.pull?_eq, claims]
  -- The next tag is above those in the table, so it is free on both sides.
  have next_free := related.coherent.contains_next
  have same_next : now.unacked.contains (later.tags.last + 1) =
      later.unacked.contains (later.tags.last + 1) := by
    rw [related.unacked, UnackedTable.contains_free, next_free, Bool.false_and]
  cases Channel.samePull related.laterOpen related.nowOpen later_claims claims
    (related.queue?_eq apart) related.tags same_next with
  | unchanged later_eq now_eq => exact related.refused now_eq later_eq beside.1
  | returned tags later_eq now_eq =>
    refine .of_beside now_eq later_eq ?_ beside rfl rfl
    exact { related with
      coherent := related.coherent_of_eq later_eq
      tags := rfl
      store := by rw [related.store_set apart, Store.putBack_enqueueAll] }
  | @consumed head tail later_eq now_eq =>
    refine .of_beside now_eq later_eq ?_ beside rfl rfl
    exact { related with
      coherent := related.coherent_of_eq later_eq
      tags := rfl
      store := related.store_set apart tail }
  | @handedOut head tail unacked nowUnacked entered now_entered later_eq now_eq =>
    have largest := related.coherent.lt_next
    -- The entry is new and free, so it enters the table outside as well.
    have free_entered := UnackedTable.enter_free entered largest
    rw [related.unacked, free_entered] at now_entered
    refine .of_beside now_eq later_eq ?_ beside rfl
      (UnackedTable.pendingCount_enter entered largest)
    exact { related with
      coherent := related.coherent_of_eq later_eq
      tags := rfl
      unacked := (Except.ok.inj now_entered).symm
      store := related.store_set apart tail }

/-- **A deferrable request keeps the relation** and is answered alike on both sides. -/
theorem serve (related : Deferral targets now nowStore later laterStore) {request : Request M}
    (deferrable : request.isDeferrable = true)
    (expected : ∀ target, request.target? = some target → target ∈ targets)
    (apart : ∀ claim, now.pull? request = some claim → claim.queue ∉ targets) :
    Kept targets now nowStore later laterStore request := by
  cases request with
  | publish message target => exact related.publish (expected target rfl)
  | ack tag multiple => exact related.ack tag multiple
  | consume queue tag noAck => exact related.consume queue tag noAck
  | cancel tag => exact related.cancel tag
  | get queue noAck => exact related.pull rfl (apart _ rfl)
  | next tag =>
    cases found : now.consumers.find? tag with
    | none =>
      have unknown : later.consumers.find? tag = none := by rw [← related.consumers, found]
      exact related.refused (now.serve_next_of_unknown nowStore related.nowOpen found)
        (later.serve_next_of_unknown laterStore related.laterOpen unknown) rfl
    | some consumer =>
      have claims := Channel.pull?_next found
      exact related.pull claims (apart _ claims)
  | recover requeue =>
    cases requeue with
    | true => exact related.returning
    | false => exact related.redelivering
  | select => cases deferrable
  | commit => cases deferrable
  | rollback => cases deferrable
  | close => cases deferrable

/-- **A commit makes the two sides equal** and reports every publish and every acknowledged
delivery since the last one. -/
theorem commit (related : Deferral targets now nowStore later laterStore) :
    ∃ report after, later.serve laterStore .commit = (.committed report, after, nowStore) ∧
      Deferral targets now nowStore after nowStore ∧
      after.buffer.publishes = [] ∧ after.unacked = now.unacked ∧
      report.published + report.dropped = later.buffer.publishes.length ∧
      report.acked = later.unacked.pendingCount := by
  have later_eq := related.coherent.serve_commit related.transactional laterStore
  -- What is left inside is the table and the store outside.
  rw [← related.store] at later_eq
  refine ⟨_, _, later_eq, ?_, rfl, related.unacked.symm, ?_, rfl⟩
  · exact { related with
      coherent := related.coherent_of_eq later_eq
      unacked := by rw [UnackedTable.free_free, related.unacked]
      store := rfl
      within := by
        intro publish member
        cases member }
  · exact laterStore.length_of_counts_enqueueAll later.buffer.publishes

/-- What two related channels make of the same requests, one with commits between them and a
commit at the end. -/
structure Agreement (now : Channel M) (nowStore : Store M) (requests : List (Request M))
    (later : Channel M) (laterStore : Store M) (script : List (Request M)) : Prop where
  answers : later.answers laterStore script = (now.serveAll nowStore requests).1
  unacked : (later.serveAll laterStore script).2.1.unacked =
    (now.serveAll nowStore requests).2.1.unacked
  tags : (later.serveAll laterStore script).2.1.tags = (now.serveAll nowStore requests).2.1.tags
  consumers : (later.serveAll laterStore script).2.1.consumers =
    (now.serveAll nowStore requests).2.1.consumers
  store : (later.serveAll laterStore script).2.2 = (now.serveAll nowStore requests).2.2
  published : (CommitReport.total (later.reports laterStore script)).published +
      (CommitReport.total (later.reports laterStore script)).dropped =
    later.buffer.publishes.length + (requests.filterMap Request.target?).length
  acked : (CommitReport.total (later.reports laterStore script)).acked =
    later.unacked.pendingCount + (now.acknowledged nowStore requests).length

/-- A commit before a run that agrees. -/
theorem Agreement.commit (related : Deferral targets now nowStore later laterStore)
    {requests script : List (Request M)}
    (rest : ∀ after, Deferral targets now nowStore after nowStore →
      after.buffer.publishes = [] → after.unacked = now.unacked →
        Agreement now nowStore requests after nowStore script) :
    Agreement now nowStore requests later laterStore (.commit :: script) := by
  obtain ⟨report, after, commit_eq, settled, no_publishes, unacked, published, acked⟩ :=
    related.commit
  obtain ⟨answers, same_unacked, tags, consumers, store, later_published, later_acked⟩ :=
    rest after settled no_publishes unacked
  have no_pending : after.unacked.pendingCount = 0 := by
    rw [unacked, related.unacked, UnackedTable.pendingCount_free]
  have served : (later.serveAll laterStore (.commit :: script)).2 =
      (after.serveAll nowStore script).2 := by
    rw [Channel.serveAll_cons, commit_eq]
  have reports : later.reports laterStore (.commit :: script) =
      report :: after.reports nowStore script := by
    rw [Channel.reports_cons, commit_eq]
    rfl
  rw [no_publishes, List.length_nil, Nat.zero_add] at later_published
  rw [no_pending, Nat.zero_add] at later_acked
  refine ⟨?_, ?_, ?_, ?_, ?_, ?_, ?_⟩
  · rw [Channel.answers_cons, commit_eq]
    exact answers
  · rw [served, same_unacked]
  · rw [served, tags]
  · rw [served, consumers]
  · rw [served, store]
  · rw [reports, CommitReport.total]
    simp only
    omega
  · rw [reports, CommitReport.total, later_acked, acked]

/-- With nothing left to do, the two sides agree once they are equal. -/
theorem Agreement.nil (related : Deferral targets now nowStore later nowStore)
    (no_publishes : later.buffer.publishes = []) (unacked : later.unacked = now.unacked) :
    Agreement now nowStore [] later nowStore [] := by
  have no_pending : later.unacked.pendingCount = 0 := by
    rw [unacked, related.unacked, UnackedTable.pendingCount_free]
  refine ⟨rfl, unacked, related.tags.symm, related.consumers.symm, rfl, ?_, ?_⟩
  · rw [no_publishes]
    rfl
  · rw [no_pending]
    rfl

/-- A deferrable request before a run that agrees. -/
theorem Agreement.cons {request : Request M} (deferrable : request.isDeferrable = true)
    (kept : Kept targets now nowStore later laterStore request)
    {requests script : List (Request M)}
    (rest : Agreement (now.serve nowStore request).2.1 (now.serve nowStore request).2.2 requests
      (later.serve laterStore request).2.1 (later.serve laterStore request).2.2 script) :
    Agreement now nowStore (request :: requests) later laterStore (request :: script) := by
  obtain ⟨answers, unacked, tags, consumers, store, published, acked⟩ := rest
  have no_report : (later.serve laterStore request).1.commitReport? = none :=
    (later.step_serve laterStore request).commitReport?_eq_none deferrable
  have reports : later.reports laterStore (request :: script) =
      (later.serve laterStore request).2.1.reports (later.serve laterStore request).2.2 script := by
    rw [Channel.reports_cons, no_report]
    rfl
  have targets_cons : ((request :: requests).filterMap Request.target?).length =
      request.target?.toList.length + (requests.filterMap Request.target?).length := by
    cases target : request.target? with
    | none => simp [target]
    | some queue => simp [target, Nat.add_comm]
  rw [kept.publishes] at published
  rw [kept.pending] at acked
  refine ⟨?_, unacked, tags, consumers, store, ?_, ?_⟩
  · rw [Channel.answers_cons, if_pos deferrable, kept.reply, answers]
    rfl
  · rw [reports, published, targets_cons, Nat.add_assoc]
  · rw [reports, acked, Channel.acknowledged, List.length_append, Nat.add_assoc]
    split
    · rfl
    · rfl

/-- **A run agrees up to its last commit.** -/
theorem run (related : Deferral targets now nowStore later laterStore)
    {script : List (Request M)}
    (deferrable : ∀ request ∈ script, request.isDeferrable = true ∨ request = .commit)
    (expected : ∀ request ∈ script, ∀ target, request.target? = some target → target ∈ targets)
    (apart : now.pullsApart targets nowStore (script.filter (·.isDeferrable)) = true) :
    Agreement now nowStore (script.filter (·.isDeferrable)) later laterStore
      (script ++ [.commit]) := by
  -- Commits restart the relation with an empty buffer, so the induction is on the whole script.
  induction script generalizing now nowStore later laterStore with
  | nil =>
    exact .commit related fun _ settled no_publishes unacked =>
      .nil settled no_publishes unacked
  | cons request rest ih =>
    have deferrable_rest := fun other member => deferrable other (List.mem_cons_of_mem _ member)
    have expected_rest := fun other member => expected other (List.mem_cons_of_mem _ member)
    rcases deferrable request List.mem_cons_self with isDeferrable | rfl
    · rw [List.filter_cons_of_pos isDeferrable] at apart ⊢
      rw [Channel.pullsApart, Bool.and_eq_true] at apart
      have kept := related.serve isDeferrable (expected request List.mem_cons_self)
        (fun claim claims => by simpa [claims] using apart.1)
      exact .cons isDeferrable kept (ih kept.related deferrable_rest expected_rest apart.2)
    · rw [List.filter_cons_of_neg Bool.false_ne_true] at apart ⊢
      exact .commit related fun _ settled _ _ => ih settled deferrable_rest expected_rest apart

/-- Selecting transactional mode relates a channel to itself. -/
theorem of_select {channel : Channel M} (coherent : channel.Coherent)
    (immediate : channel.mode = .immediate) (targets : List QueueName) (store : Store M) :
    Deferral targets channel store { channel with mode := .transactional } store := by
  have outside : channel.mode ≠ .transactional := by
    rw [immediate]
    decide
  have nothing : channel.buffer = .empty := coherent.idle outside
  have selected : Channel.Coherent { channel with mode := .transactional } :=
    (Channel.Step.selected (channel.isOpen_of_immediate immediate) :
      Channel.Step channel store _ _ _ store).coherent coherent
  refine ⟨immediate, rfl, selected, rfl, rfl, ?_, ?_, ?_⟩
  · exact (UnackedTable.free_of_pendingCount (coherent.pendingCount_of_idle nothing)).symm
  · rw [nothing]
    rfl
  · rw [nothing]
    intro publish member
    cases member

end Deferral

namespace Channel

/-- **Transactional and immediate execution agree, wherever the commits fall.** Outside a
transaction a channel answers some deferrable requests, none of which takes from a queue that one of
them publishes to; the script is the same requests with commits in between. Answered inside a
transaction, with a commit at the end, the script gives every request the same answer and ends with
the same table, tags, consumers and store. Its commits together report every publish and every
delivery that the acknowledgements removed at once. -/
theorem deferred_eq_immediate {channel : Channel M} (reachable : channel.Reachable)
    (immediate : channel.mode = .immediate) (store : Store M) {requests script : List (Request M)}
    (deferrable : ∀ request ∈ script, request.isDeferrable = true ∨ request = .commit)
    (interleaved : script.filter (·.isDeferrable) = requests)
    (apart : channel.pullsApart (requests.filterMap Request.target?) store requests = true) :
    let deferred := .select :: script ++ [.commit]
    let now := channel.serveAll store requests
    let later := channel.serveAll store deferred
    let total := CommitReport.total (channel.reports store deferred)
    channel.answers store deferred = now.1 ∧
      later.2.1.unacked = now.2.1.unacked ∧ later.2.1.tags = now.2.1.tags ∧
      later.2.1.consumers = now.2.1.consumers ∧ later.2.2 = now.2.2 ∧
      total.published + total.dropped = (requests.filterMap Request.target?).length ∧
      total.acked = (channel.acknowledged store requests).length := by
  intro deferred now later total
  subst interleaved
  have coherent := coherent_of_reachable reachable
  have related := Deferral.of_select coherent immediate
    ((script.filter (·.isDeferrable)).filterMap Request.target?) store
  have expected : ∀ request ∈ script, ∀ target, request.target? = some target →
      target ∈ (script.filter (·.isDeferrable)).filterMap Request.target? := by
    intro request member target sent
    rcases deferrable request member with isDeferrable | rfl
    · exact List.mem_filterMap.mpr ⟨request, List.mem_filter.mpr ⟨member, isDeferrable⟩, sent⟩
    · cases sent
  obtain ⟨answers, unacked, tags, consumers, same_store, published, acked⟩ :=
    related.run deferrable expected apart
  -- The script begins with the select, which changes the mode and reports nothing.
  have select_eq := channel.serve_select store (channel.isOpen_of_immediate immediate)
  have later_eq : later.2 =
      (({ channel with mode := .transactional } : Channel M).serveAll store
        (script ++ [.commit])).2 := by
    simp only [later, deferred, List.cons_append]
    rw [serveAll_cons, select_eq]
  have total_eq : total = CommitReport.total
      (({ channel with mode := .transactional } : Channel M).reports store
        (script ++ [.commit])) := by
    simp only [total, deferred, List.cons_append]
    rw [reports_cons, select_eq]
    rfl
  have nothing : channel.buffer = .empty := by
    refine coherent.idle ?_
    rw [immediate]
    decide
  rw [later_eq, total_eq]
  refine ⟨?_, unacked, tags, consumers, same_store, ?_, ?_⟩
  · simp only [deferred, List.cons_append]
    rw [answers_cons, select_eq]
    exact answers
  · rw [published, nothing, TransactionBuffer.publishes_empty, List.length_nil, Nat.zero_add]
  · rw [acked, coherent.pendingCount_of_idle nothing, Nat.zero_add]

/-- Three commits around a refused acknowledgement, a dropped publish and a return. -/
theorem deferred_eq_immediate_of_three_commits :
    let store : Store Nat := ((Store.empty.declare "r").2.declare "q").2.enqueueAll
      [(10, "q"), (20, "q"), (30, "q")] |>.2
    let channel : Channel Nat := .new "A"
    let script : List (Request Nat) :=
      [.get "q" false, .get "q" false, .publish 40 "r", .ack 1 false, .commit, .ack 1 false,
        .get "q" false, .ack 3 false, .publish 50 "gone", .recover true, .commit, .ack 0 true]
    let requests : List (Request Nat) :=
      [.get "q" false, .get "q" false, .publish 40 "r", .ack 1 false, .ack 1 false,
        .get "q" false, .ack 3 false, .publish 50 "gone", .recover true, .ack 0 true]
    let deferred := .select :: script ++ [.commit]
    let now := channel.serveAll store requests
    let later := channel.serveAll store deferred
    let total := CommitReport.total (channel.reports store deferred)
    (channel.Reachable ∧ channel.mode = .immediate ∧
      (∀ request ∈ script, request.isDeferrable = true ∨ request = .commit) ∧
      script.filter (·.isDeferrable) = requests ∧
      channel.pullsApart (requests.filterMap Request.target?) store requests = true) ∧
    channel.reports store deferred = [⟨1, 0, 1⟩, ⟨0, 1, 1⟩, ⟨0, 0, 0⟩] ∧
    channel.answers store deferred = now.1 ∧
      later.2.1.unacked = now.2.1.unacked ∧ later.2.1.tags = now.2.1.tags ∧
      later.2.1.consumers = now.2.1.consumers ∧ later.2.2 = now.2.2 ∧
      total.published + total.dropped = (requests.filterMap Request.target?).length ∧
      total.acked = (channel.acknowledged store requests).length := by
  intro store channel script requests deferred now later total
  have deferrable : ∀ request ∈ script, request.isDeferrable = true ∨ request = .commit := by
    decide
  have apart : channel.pullsApart (requests.filterMap Request.target?) store requests = true := by
    decide
  have reachable : channel.Reachable := .opened "A"
  have immediate : channel.mode = .immediate := rfl
  have interleaved : script.filter (·.isDeferrable) = requests := rfl
  have reported : channel.reports store deferred = [⟨1, 0, 1⟩, ⟨0, 1, 1⟩, ⟨0, 0, 0⟩] := by decide
  refine ⟨⟨reachable, immediate, deferrable, interleaved, apart⟩, reported, ?_⟩
  exact deferred_eq_immediate reachable immediate store deferrable interleaved apart

end Channel

end MessageBroker
