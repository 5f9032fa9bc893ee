import MessageBroker.Proofs.Group

/-!
# Bookkeeping of transactions

Inside a transaction an acknowledgement leaves two records: the flag on the entries it selects and
the effect in the buffer. `Channel.Coherent` states how the two agree, with what has to be known of
tags and modes for every request to keep it (`Channel.Step.coherent`). It holds of every reachable
channel (`Channel.coherent_of_reachable`); `Channel.bookkeeping_of_reachable` spells out what this
says of the table, of the buffer and of the consumers.
-/

set_option autoImplicit false

namespace MessageBroker

variable {M : Type}

namespace TransactionBuffer

/-- The tags that deferred acknowledgements name one at a time, oldest first. -/
def singles (buffer : TransactionBuffer M) : List Nat :=
  (buffer.acks.filter (!·.2)).map (·.1)

theorem mem_singles {buffer : TransactionBuffer M} {tag : Nat} :
    tag ∈ buffer.singles ↔ (tag, false) ∈ buffer.acks := by
  simp [singles]

theorem singles_deferAck (buffer : TransactionBuffer M) (tag : Nat) (multiple : Bool) :
    (buffer.deferAck tag multiple).singles =
      buffer.singles ++ if multiple then [] else [tag] := by
  cases multiple <;> simp [singles]

end TransactionBuffer

/-- True of the requests that end a transaction. -/
def Request.settles : Request M → Bool
  | commit | rollback | close => true
  | _ => false

namespace Channel

/-- The table, the buffer, the counter of tags and the mode of a channel agree. -/
structure Coherent (channel : Channel M) : Prop where
  issued : ∀ entry ∈ channel.unacked.entries,
    1 ≤ entry.tag ∧ entry.tag ≤ channel.tags.last
  /-- Every flag comes from a deferred acknowledgement. -/
  covered : ∀ tag, channel.unacked.isPending tag = true →
    ∃ ack ∈ channel.buffer.acks, covers ack.1 ack.2 tag = true
  /-- Every deferred acknowledgement of one delivery has left its flag. -/
  named : ∀ tag ∈ channel.buffer.singles, channel.unacked.isPending tag = true
  distinct : channel.buffer.singles.Nodup
  known : ∀ tag, (tag, true) ∈ channel.buffer.acks → tag = Tag.all ∨ tag ≤ channel.tags.last
  /-- Effects are held back in transactions only. -/
  idle : channel.mode ≠ .transactional → channel.buffer = .empty
  cleared : channel.mode = .closed →
    channel.unacked.entries = [] ∧ channel.consumers.entries = []

namespace Coherent

variable {channel after : Channel M}

theorem not_pending_of_acks_eq_nil (coherent : channel.Coherent)
    (nothing : channel.buffer.acks = []) (tag : Nat) : channel.unacked.isPending tag = false := by
  rw [← Bool.not_eq_true]
  intro pending
  obtain ⟨ack, member, _⟩ := coherent.covered tag pending
  rw [nothing] at member
  cases member

theorem pendingCount_of_idle (coherent : channel.Coherent) (nothing : channel.buffer = .empty) :
    channel.unacked.pendingCount = 0 := by
  refine List.countP_eq_zero.mpr fun entry member flag => ?_
  have pending := UnackedTable.isPending_iff.mpr ⟨entry, member, rfl, flag⟩
  rw [coherent.not_pending_of_acks_eq_nil (by rw [nothing]; rfl)] at pending
  cases pending

/-- A change that leaves the buffer, the flags and the mode alone. -/
theorem mono (coherent : channel.Coherent) (isOpen : channel.isOpen = true)
    (mode : after.mode = channel.mode) (buffer : after.buffer = channel.buffer)
    (last : channel.tags.last ≤ after.tags.last)
    (issued : ∀ entry ∈ after.unacked.entries, 1 ≤ entry.tag ∧ entry.tag ≤ after.tags.last)
    (pending : ∀ tag, after.unacked.isPending tag = channel.unacked.isPending tag) :
    after.Coherent where
  issued := issued
  covered tag flag := by
    rw [pending] at flag
    rw [buffer]
    exact coherent.covered tag flag
  named tag member := by
    rw [buffer] at member
    rw [pending]
    exact coherent.named tag member
  distinct := by
    rw [buffer]
    exact coherent.distinct
  known tag member := by
    rw [buffer] at member
    rcases coherent.known tag member with all | low
    · exact .inl all
    · exact .inr (Nat.le_trans low last)
  idle outside := by
    rw [mode] at outside
    rw [buffer]
    exact coherent.idle outside
  cleared closed := absurd (mode.symm.trans closed) ((channel.isOpen_iff).mp isOpen)

/-- A channel without deferred effects and without flags. -/
theorem of_empty (buffer : channel.buffer = .empty)
    (issued : ∀ entry ∈ channel.unacked.entries, 1 ≤ entry.tag ∧ entry.tag ≤ channel.tags.last)
    (pending : ∀ tag, channel.unacked.isPending tag = false)
    (cleared : channel.mode = .closed →
      channel.unacked.entries = [] ∧ channel.consumers.entries = []) :
    channel.Coherent where
  issued := issued
  covered tag flag := by
    rw [pending] at flag
    cases flag
  named tag member := by
    rw [buffer] at member
    cases member
  distinct := by
    rw [buffer]
    exact List.nodup_nil
  known tag member := by
    rw [buffer] at member
    cases member
  idle _ := buffer
  cleared := cleared

/-- Issuing a tag leaves those in the table among the issued ones. -/
theorem issued_succ (coherent : channel.Coherent) :
    ∀ entry ∈ channel.unacked.entries, 1 ≤ entry.tag ∧ entry.tag ≤ channel.tags.last + 1 := by
  intro entry member
  have bounds := coherent.issued entry member
  exact ⟨bounds.1, Nat.le_succ_of_le bounds.2⟩

/-- The tag that is issued next is larger than those in the table. -/
theorem lt_next (coherent : channel.Coherent) :
    ∀ entry ∈ channel.unacked.entries, entry.tag < channel.tags.last + 1 :=
  fun entry member => Nat.lt_succ_of_le (coherent.issued entry member).2

theorem contains_next (coherent : channel.Coherent) :
    channel.unacked.contains (channel.tags.last + 1) = false := by
  rw [← Bool.not_eq_true, UnackedTable.contains_iff]
  rintro ⟨entry, member, named⟩
  exact Nat.ne_of_lt (coherent.lt_next entry member) named

theorem issued_of_filter (coherent : channel.Coherent) (test : UnackedDelivery M → Bool) :
    ∀ entry ∈ (channel.unacked.keep test).entries,
      1 ≤ entry.tag ∧ entry.tag ≤ channel.tags.last :=
  fun entry member => coherent.issued entry (List.mem_filter.mp member).1

theorem issued_of_map (coherent : channel.Coherent)
    (change : UnackedDelivery M → UnackedDelivery M)
    (tag_change : ∀ entry, (change entry).tag = entry.tag) :
    ∀ entry ∈ (channel.unacked.adjust change tag_change).entries,
      1 ≤ entry.tag ∧ entry.tag ≤ channel.tags.last := by
  intro changed member
  obtain ⟨entry, old, rfl⟩ := List.mem_map.mp member
  rw [tag_change]
  exact coherent.issued entry old

/-- Every flag was set by an acknowledgement that the commit applies. -/
theorem confirmedBy_eq (coherent : channel.Coherent) {entry : UnackedDelivery M}
    (member : entry ∈ channel.unacked.entries) :
    entry.confirmedBy channel.buffer.acks = entry.ackPending := by
  cases flag : entry.ackPending with
  | false => rw [UnackedDelivery.confirmedBy, flag, Bool.false_and]
  | true =>
    obtain ⟨ack, buffered, selected⟩ :=
      coherent.covered entry.tag (UnackedTable.isPending_iff.mpr ⟨entry, member, rfl, flag⟩)
    rw [UnackedDelivery.confirmedBy, flag, Bool.true_and]
    exact List.any_eq_true.mpr ⟨ack, buffered, selected⟩

/-- A commit leaves no flag behind. -/
theorem not_pending_of_commit (coherent : channel.Coherent) (tag : Nat) :
    (channel.unacked.keep fun entry =>
      !entry.confirmedBy channel.buffer.acks).isPending tag = false := by
  rw [← Bool.not_eq_true]
  intro pending
  obtain ⟨entry, kept, _, flag⟩ := UnackedTable.isPending_iff.mp pending
  obtain ⟨member, unconfirmed⟩ := List.mem_filter.mp kept
  rw [coherent.confirmedBy_eq member, flag] at unconfirmed
  cases unconfirmed

/-- A deferred acknowledgement sets flags and enters the buffer at once. -/
theorem deferAck (coherent : channel.Coherent) (transactional : channel.mode = .transactional)
    {tag : Nat} {multiple : Bool}
    (known : multiple = true → tag = Tag.all ∨ tag ≤ channel.tags.last)
    (accepted : (multiple ||
      (channel.unacked.contains tag && !channel.unacked.isPending tag)) = true) :
    Coherent { channel with
      unacked := channel.unacked.postponed tag multiple
      buffer := channel.buffer.deferAck tag multiple } where
  issued := coherent.issued_of_map _ (UnackedDelivery.tag_flagBy tag multiple)
  covered candidate flag := by
    rw [TransactionBuffer.acks_deferAck]
    rcases UnackedTable.isPending_postponed.mp flag with ⟨_, selected⟩ | pending
    · exact ⟨(tag, multiple), List.mem_append_right _ (List.mem_singleton_self _), selected⟩
    · obtain ⟨ack, member, selected⟩ := coherent.covered candidate pending
      exact ⟨ack, List.mem_append_left _ member, selected⟩
  named candidate member := by
    rw [TransactionBuffer.singles_deferAck] at member
    rw [UnackedTable.isPending_postponed]
    rcases List.mem_append.mp member with old | new
    · exact .inr (coherent.named candidate old)
    · cases multiple with
      | true => cases new
      | false =>
        obtain rfl : candidate = tag := List.mem_singleton.mp new
        simp only [Bool.false_or, Bool.and_eq_true] at accepted
        exact .inl ⟨accepted.1, covers_single.mpr rfl⟩
  distinct := by
    rw [TransactionBuffer.singles_deferAck]
    cases multiple with
    | true => simpa using coherent.distinct
    | false =>
      -- A tag named before is pending by now, and such a tag is not accepted.
      simp only [Bool.false_or, Bool.and_eq_true, Bool.not_eq_true'] at accepted
      have fresh : tag ∉ channel.buffer.singles := by
        intro named
        rw [coherent.named tag named] at accepted
        cases accepted.2
      simp only [Bool.false_eq_true, if_false]
      refine List.nodup_append.mpr ⟨coherent.distinct, by simp, ?_⟩
      intro old member new is_tag equal
      obtain rfl := List.mem_singleton.mp is_tag
      exact fresh (equal ▸ member)
  known candidate member := by
    rw [TransactionBuffer.acks_deferAck] at member
    rcases List.mem_append.mp member with old | new
    · exact coherent.known candidate old
    · obtain ⟨rfl, rfl⟩ := Prod.mk.inj (List.mem_singleton.mp new)
      exact known rfl
  idle outside := absurd transactional outside
  cleared closed := by
    rw [transactional] at closed
    cases closed

end Coherent

/-- **Every request keeps a channel coherent**, on whatever store it is answered. -/
theorem Step.coherent {channel after : Channel M} {store later : Store M} {request : Request M}
    {reply : Reply M} (step : Step channel store request reply after later)
    (coherent : channel.Coherent) : after.Coherent := by
  cases step with
  | refused => exact coherent
  | selected isOpen =>
    -- Before the transaction nothing is deferred, so the mode is the only thing that changes.
    exact { coherent with
      idle := fun outside => absurd rfl outside
      cleared := fun closed => by cases closed }
  | published => exact coherent
  | deferredPublish transactional =>
    exact {
      issued := coherent.issued
      covered := fun tag flag => by
        rw [TransactionBuffer.acks_deferPublish]
        exact coherent.covered tag flag
      named := fun tag member => coherent.named tag (by
        rwa [TransactionBuffer.singles, TransactionBuffer.acks_deferPublish] at member)
      distinct := by
        rw [TransactionBuffer.singles, TransactionBuffer.acks_deferPublish]
        exact coherent.distinct
      known := fun tag member => coherent.known tag (by
        rwa [TransactionBuffer.acks_deferPublish] at member)
      idle := fun outside => absurd transactional outside
      cleared := coherent.cleared }
  | foundEmpty => exact coherent
  | consumed isOpen =>
    exact coherent.mono isOpen rfl rfl (Nat.le_succ _) coherent.issued_succ fun _ => rfl
  | @handedOut _ claim head _ unacked isOpen _ _ _ _ entered =>
    -- The new entry is not pending and has the tag just issued.
    refine coherent.mono isOpen rfl rfl (Nat.le_succ _) ?_ (UnackedTable.isPending_enter entered)
    intro entry member
    simp only at member
    rw [(UnackedTable.enter_eq_ok_iff.mp entered).2] at member
    rcases UnackedTable.mem_insertEntry.mp member with rfl | old
    · exact ⟨Nat.le_add_left 1 _, Nat.le_refl _⟩
    · exact coherent.issued_succ entry old
  | exhausted => exact coherent
  | duplicated isOpen =>
    exact coherent.mono isOpen rfl rfl (Nat.le_succ _) coherent.issued_succ fun _ => rfl
  | registered isOpen =>
    exact coherent.mono isOpen rfl rfl (Nat.le_refl _) coherent.issued fun _ => rfl
  | cancelled isOpen =>
    exact coherent.mono isOpen rfl rfl (Nat.le_refl _) coherent.issued fun _ => rfl
  | acked immediate =>
    have outside : channel.mode ≠ .transactional := by
      rw [immediate]
      decide
    have nothing : channel.buffer = .empty := coherent.idle outside
    -- Removing entries sets no flag, and none was set before.
    refine .of_empty nothing (coherent.issued_of_filter _) ?_ ?_
    · intro tag
      have free := coherent.not_pending_of_acks_eq_nil (by rw [nothing]; rfl) tag
      rw [← Bool.not_eq_true] at free ⊢
      exact fun pending => free (UnackedTable.isPending_of_keep pending)
    · intro closed
      rw [immediate] at closed
      cases closed
  | deferredAck transactional known accepted => exact coherent.deferAck transactional known accepted
  | committed transactional =>
    refine .of_empty rfl (coherent.issued_of_filter _) coherent.not_pending_of_commit ?_
    intro closed
    rw [transactional] at closed
    cases closed
  | rolledBack transactional =>
    refine .of_empty rfl ?_ channel.unacked.isPending_release ?_
    · exact coherent.issued_of_map (fun entry => { entry with ackPending := false }) fun _ => rfl
    · intro closed
      rw [transactional] at closed
      cases closed
  | returned isOpen =>
    -- Pending entries stay in the table, so the buffered acknowledgements still find them.
    exact coherent.mono isOpen rfl rfl (Nat.le_refl _) (coherent.issued_of_filter _)
      channel.unacked.isPending_keep_pending
  | redelivered isOpen =>
    exact coherent.mono isOpen rfl rfl (Nat.le_refl _)
      (coherent.issued_of_map _ UnackedDelivery.tag_handOutAgain)
      channel.unacked.isPending_handOutAgain
  | closed =>
    refine .of_empty rfl ?_ (fun _ => rfl) fun _ => ⟨rfl, rfl⟩
    intro entry member
    cases member
  | closedAgain => exact coherent

theorem coherent_of_reachable {channel : Channel M} (reachable : channel.Reachable) :
    channel.Coherent := by
  induction reachable with
  | opened id =>
    refine .of_empty rfl ?_ (fun _ => rfl) fun _ => ⟨rfl, rfl⟩
    intro entry member
    cases member
  | served store request _ ih => exact (step_serve _ store request).coherent ih

/-! ## The mode and the deferred publishes after a request -/

/-- Only a close ends transactional mode. -/
theorem Step.transactional {channel after : Channel M} {store later : Store M}
    {request : Request M} {reply : Reply M} (step : Step channel store request reply after later)
    (transactional : channel.mode = .transactional) (stays : request.isClose = false) :
    after.mode = .transactional := by
  cases step with
  | selected => rfl
  | closed => cases stays
  | _ => exact transactional

/-- Requests that neither publish nor end a transaction leave the deferred publishes alone. -/
theorem Step.publishes_eq {channel after : Channel M} {store later : Store M}
    {request : Request M} {reply : Reply M} (step : Step channel store request reply after later)
    (silent : request.sent? = none) (unsettled : request.settles = false) :
    after.buffer.publishes = channel.buffer.publishes := by
  cases step with
  | deferredPublish => cases silent
  | deferredAck => exact TransactionBuffer.publishes_deferAck ..
  | committed => cases unsettled
  | rolledBack => cases unsettled
  | closed => cases unsettled
  | _ => rfl

/-- Outside a transaction nothing is deferred, whatever is asked. -/
theorem Step.publishes_eq_nil {channel after : Channel M} {store later : Store M}
    {request : Request M} {reply : Reply M} (step : Step channel store request reply after later)
    (coherent : channel.Coherent) (outside : channel.mode ≠ .transactional) :
    after.buffer.publishes = [] := by
  have nothing : channel.buffer.publishes = [] := by
    rw [coherent.idle outside]
    rfl
  cases step with
  | deferredPublish transactional => exact absurd transactional outside
  | deferredAck transactional => exact absurd transactional outside
  | committed => rfl
  | rolledBack => rfl
  | closed => rfl
  | _ => exact nothing

/-- The deferred publishes are those made in transactional mode since the last settlement. -/
theorem Coherent.publishes_serve {channel : Channel M} (coherent : channel.Coherent)
    (store : Store M) (request : Request M) :
    (channel.serve store request).2.1.buffer.publishes =
      if request.settles then []
      else if channel.mode = .transactional then
        channel.buffer.publishes ++ request.sent?.toList
      else [] := by
  have step := channel.step_serve store request
  by_cases transactional : channel.mode = .transactional
  case neg =>
    rw [step.publishes_eq_nil coherent transactional, if_neg transactional, ite_self]
  case pos =>
    rw [if_pos transactional]
    cases request with
    | publish message target =>
      rw [channel.serve_publish_of_transactional store transactional]
      exact TransactionBuffer.publishes_deferPublish ..
    | commit =>
      rw [channel.serve_commit_of_transactional store transactional]
      rfl
    | rollback =>
      rw [channel.serve_rollback_of_transactional store transactional]
      rfl
    | close =>
      rw [channel.serve_close store (channel.isOpen_of_transactional transactional)]
      rfl
    | _ =>
      -- What is left neither publishes nor settles.
      rw [step.publishes_eq rfl rfl]
      exact (List.append_nil _).symm

/-- What the table, the buffer and the consumers of a channel have to do with one another. -/
structure Bookkeeping (channel : Channel M) : Prop where
  /-- An entry is found under the tag of its delivery, which is one of those issued. -/
  keyed : ∀ tag entry, channel.unacked.find? tag = some entry →
    entry.delivery.tag = tag ∧ 1 ≤ tag ∧ tag ≤ channel.tags.last
  /-- A pending entry waits for a deferred acknowledgement of its own or a multiple one. -/
  explained : ∀ entry ∈ channel.unacked.entries, entry.ackPending = true →
    (entry.tag, false) ∈ channel.buffer.acks ∨
      ∃ tag, (tag, true) ∈ channel.buffer.acks ∧ (tag = Tag.all ∨ entry.tag ≤ tag)
  /-- A deferred acknowledgement of one delivery names a pending entry. -/
  named : ∀ tag, (tag, false) ∈ channel.buffer.acks →
    ∃ entry, channel.unacked.find? tag = some entry ∧ entry.ackPending = true
  /-- No two of them name the same entry. -/
  distinct : ((channel.buffer.acks.filter (!·.2)).map (·.1)).Nodup
  /-- A deferred multiple acknowledgement names everything or a tag that was issued. -/
  known : ∀ tag, (tag, true) ∈ channel.buffer.acks →
    tag = Tag.all ∨ (1 ≤ tag ∧ tag ≤ channel.tags.last)
  /-- Outside a transaction nothing is deferred and nothing is pending. -/
  idle : channel.mode ≠ .transactional →
    channel.buffer.effects = [] ∧ ∀ entry ∈ channel.unacked.entries, entry.ackPending = false
  /-- Nothing is pending while nothing is deferred. -/
  free : channel.buffer.effects = [] →
    ∀ entry ∈ channel.unacked.entries, entry.ackPending = false
  cleared : channel.mode = .closed →
    channel.unacked.entries = [] ∧ channel.buffer.effects = [] ∧ channel.consumers.entries = []

/-- **The books of every reachable channel are in order**, whatever the channel was asked and
whatever happened to its store in between. -/
theorem bookkeeping_of_reachable {channel : Channel M} (reachable : channel.Reachable) :
    channel.Bookkeeping := by
  have coherent := coherent_of_reachable reachable
  have free : channel.buffer.effects = [] →
      ∀ entry ∈ channel.unacked.entries, entry.ackPending = false := by
    intro nothing entry member
    have no_acks : channel.buffer.acks = [] := by simp [TransactionBuffer.acks, nothing]
    cases flag : entry.ackPending with
    | false => rfl
    | true =>
      have pending := UnackedTable.isPending_iff.mpr ⟨entry, member, rfl, flag⟩
      rw [coherent.not_pending_of_acks_eq_nil no_acks] at pending
      cases pending
  refine ⟨?keyed, ?explained, ?named, coherent.distinct, ?known, ?idle, free, ?cleared⟩
  case keyed =>
    intro tag entry found
    obtain ⟨member, rfl⟩ := UnackedTable.find?_eq_some_iff.mp found
    exact ⟨rfl, coherent.issued entry member⟩
  case explained =>
    intro entry member flag
    obtain ⟨⟨tag, multiple⟩, buffered, selected⟩ :=
      coherent.covered entry.tag (UnackedTable.isPending_iff.mpr ⟨entry, member, rfl, flag⟩)
    cases multiple with
    | false =>
      rw [covers_single.mp selected]
      exact .inl buffered
    | true => exact .inr ⟨tag, buffered, covers_multiple.mp selected⟩
  case named =>
    intro tag buffered
    obtain ⟨entry, member, named, flag⟩ := UnackedTable.isPending_iff.mp
      (coherent.named tag (TransactionBuffer.mem_singles.mpr buffered))
    exact ⟨entry, UnackedTable.find?_eq_some_iff.mpr ⟨member, named⟩, flag⟩
  case known =>
    intro tag buffered
    rcases coherent.known tag buffered with all | low
    · exact .inl all
    · cases tag with
      | zero => exact .inl rfl
      | succ n => exact .inr ⟨Nat.le_add_left 1 n, low⟩
  case idle =>
    intro outside
    have nothing : channel.buffer.effects = [] := by rw [coherent.idle outside]; rfl
    exact ⟨nothing, free nothing⟩
  case cleared =>
    intro closed
    have outside : channel.mode ≠ .transactional := by
      rw [closed]
      decide
    have nothing : channel.buffer.effects = [] := by rw [coherent.idle outside]; rfl
    obtain ⟨no_entries, no_consumers⟩ := coherent.cleared closed
    exact ⟨no_entries, nothing, no_consumers⟩

/-- A transaction with overlapping acknowledgements, of which the third is refused, and with a
recovery between them. -/
theorem bookkeeping_of_overlapping_acks :
    let store : Store Nat := ((Store.empty.declare "q").2.enqueueAll
      [(10, "q"), (20, "q"), (30, "q"), (40, "q")]).2
    let channel := ((Channel.new "A").serveAll store
      [.get "q" false, .get "q" false, .get "q" false, .select, .ack 2 false, .ack 2 true,
        .ack 2 false, .publish 50 "q", .recover true, .get "q" false]).2.1
    channel.Reachable ∧ channel.buffer.acks = [(2, false), (2, true)] ∧
      channel.unacked.entries.map (fun entry => (entry.tag, entry.ackPending)) =
        [(1, true), (2, true), (4, false)] ∧
      channel.Bookkeeping := by
  intro store channel
  have reachable : channel.Reachable := (Reachable.opened "A").serveAll store _
  exact ⟨reachable, by decide, by decide, bookkeeping_of_reachable reachable⟩

end Channel

end MessageBroker
