import MessageBroker.Proofs.Pull

/-!
# What one request does

`Channel.Step` lists everything a request can do to a channel and its store, one rule for each way
a request can end, with the conditions under which it ends so. `Channel.step_serve` says that
answering a request always follows one of the rules, so an invariant of channels is proved by cases
on `Step`. For statements about two channels there is one equation for each request in each mode,
and `same_consume` and `same_cancel` for channels with the same consumers. `Channel.Reachable` holds
of the states a channel can be in when anything may happen to the store between its requests.
-/

set_option autoImplicit false

namespace MessageBroker

variable {M : Type}

namespace Channel

/-- The deliveries of a channel that wait for no commit, in tag order. -/
def outstanding (channel : Channel M) : List (Delivery M) :=
  (channel.unacked.entries.filter (!·.ackPending)).map (·.delivery)

/-- One request answered: the channel and the store before it, the request, the reply, and the
channel and the store after it. -/
inductive Step (channel : Channel M) (store : Store M) :
    Request M → Reply M → Channel M → Store M → Prop
  /-- A check failed and nothing has changed. -/
  | refused {request : Request M} {error : BrokerError} :
      Step channel store request (.failed error) channel store
  | selected (isOpen : channel.isOpen = true) :
      Step channel store .select .done { channel with mode := .transactional } store
  | published {message : M} {target : QueueName} (immediate : channel.mode = .immediate) :
      Step channel store (.publish message target) .done channel (store.enqueue target message).2
  | deferredPublish {message : M} {target : QueueName}
      (transactional : channel.mode = .transactional) :
      Step channel store (.publish message target) .done
        { channel with buffer := channel.buffer.deferPublish message target } store
  | foundEmpty {request : Request M} {claim : Pull} (isOpen : channel.isOpen = true)
      (claims : channel.pull? request = some claim)
      (contents : store.queue? claim.queue = some []) :
      Step channel store request (.delivered none) channel store
  /-- The delivery counts as acknowledged at once. -/
  | consumed {request : Request M} {claim : Pull} {head : Queued M} {tail : List (Queued M)}
      (isOpen : channel.isOpen = true) (claims : channel.pull? request = some claim)
      (contents : store.queue? claim.queue = some (head :: tail))
      (room : channel.tags.last < Tag.largest) (noAck : claim.noAck = true) :
      Step channel store request (.delivered (some (channel.nextDelivery claim head)))
        { channel with tags := ⟨channel.tags.last + 1⟩ } (store.set claim.queue (some tail))
  /-- The delivery enters the table. -/
  | handedOut {request : Request M} {claim : Pull} {head : Queued M} {tail : List (Queued M)}
      {unacked : UnackedTable M} (isOpen : channel.isOpen = true)
      (claims : channel.pull? request = some claim)
      (contents : store.queue? claim.queue = some (head :: tail))
      (room : channel.tags.last < Tag.largest) (noAck : claim.noAck = false)
      (entered : channel.unacked.enter (channel.nextDelivery claim head) = .ok unacked) :
      Step channel store request (.delivered (some (channel.nextDelivery claim head)))
        { channel with tags := ⟨channel.tags.last + 1⟩, unacked }
        (store.set claim.queue (some tail))
  /-- No tag is left and the message returns to the head. -/
  | exhausted {request : Request M} {claim : Pull} {head : Queued M} {tail : List (Queued M)}
      (isOpen : channel.isOpen = true) (claims : channel.pull? request = some claim)
      (contents : store.queue? claim.queue = some (head :: tail))
      (full : ¬ channel.tags.last < Tag.largest) :
      Step channel store request (.failed .tagsExhausted) channel
        ((store.set claim.queue (some tail)).putBack claim.queue [head.message])
  /-- The next tag is outstanding already and the message returns to the head. -/
  | duplicated {request : Request M} {claim : Pull} {head : Queued M} {tail : List (Queued M)}
      (isOpen : channel.isOpen = true) (claims : channel.pull? request = some claim)
      (contents : store.queue? claim.queue = some (head :: tail))
      (room : channel.tags.last < Tag.largest) (noAck : claim.noAck = false)
      (outstanding : channel.unacked.contains (channel.tags.last + 1) = true) :
      Step channel store request (.failed (.duplicateTag (channel.tags.last + 1)))
        { channel with tags := ⟨channel.tags.last + 1⟩ }
        ((store.set claim.queue (some tail)).putBack claim.queue [head.message])
  | registered {queue : QueueName} {tag : ConsumerTag} {noAck : Bool}
      (isOpen : channel.isOpen = true) (declared : store.has queue = true)
      (free : channel.consumers.find? tag = none) :
      Step channel store (.consume queue tag noAck) (.consuming tag)
        { channel with consumers := ⟨channel.consumers.entries ++ [(tag, ⟨queue, noAck⟩)]⟩ } store
  | cancelled {tag : ConsumerTag} {consumer : Consumer} (isOpen : channel.isOpen = true)
      (found : channel.consumers.find? tag = some consumer) :
      Step channel store (.cancel tag) .done
        { channel with consumers := ⟨channel.consumers.entries.filter (·.1 ≠ tag)⟩ } store
  | acked {tag : Nat} {multiple : Bool} (immediate : channel.mode = .immediate)
      (known : multiple = true → tag = Tag.all ∨ tag ≤ channel.tags.last)
      (accepted : (multiple || channel.unacked.contains tag) = true) :
      Step channel store (.ack tag multiple) .done
        { channel with
          unacked := channel.unacked.keep fun entry => !covers tag multiple entry.tag } store
  | deferredAck {tag : Nat} {multiple : Bool}
      (transactional : channel.mode = .transactional)
      (known : multiple = true → tag = Tag.all ∨ tag ≤ channel.tags.last)
      (accepted : (multiple ||
        (channel.unacked.contains tag && !channel.unacked.isPending tag)) = true) :
      Step channel store (.ack tag multiple) .done
        { channel with
          unacked := channel.unacked.postponed tag multiple
          buffer := channel.buffer.deferAck tag multiple } store
  | committed (transactional : channel.mode = .transactional) :
      Step channel store .commit
        (.committed
          { published := (store.enqueueAll channel.buffer.publishes).1.1
            dropped := (store.enqueueAll channel.buffer.publishes).1.2
            acked := channel.unacked.entries.countP (·.confirmedBy channel.buffer.acks) })
        { channel with
          buffer := .empty
          unacked := channel.unacked.keep fun entry => !entry.confirmedBy channel.buffer.acks }
        (store.enqueueAll channel.buffer.publishes).2
  | rolledBack (transactional : channel.mode = .transactional) :
      Step channel store .rollback
        (.rolledBack ⟨channel.buffer.publishCount, channel.unacked.pendingCount⟩)
        { channel with buffer := .empty, unacked := channel.unacked.release.2 } store
  | returned (isOpen : channel.isOpen = true) :
      Step channel store (.recover true) (.recovered (.returned channel.outstanding.length))
        { channel with unacked := channel.unacked.keep (·.ackPending) }
        (store.giveBack channel.outstanding)
  | redelivered (isOpen : channel.isOpen = true) :
      Step channel store (.recover false)
        (.recovered (.handedOut channel.unacked.handOutAgain.1))
        { channel with unacked := channel.unacked.handOutAgain.2 } store
  | closed (isOpen : channel.isOpen = true) :
      Step channel store .close
        (.closed ⟨channel.unacked.entries.length, channel.buffer.publishCount,
          channel.consumers.size⟩)
        { channel with mode := .closed, buffer := .empty, unacked := .empty, consumers := .empty }
        (store.giveBack (channel.unacked.entries.map (·.delivery)))
  | closedAgain (closed : channel.mode = .closed) :
      Step channel store .close (.closed {}) channel store

variable (channel : Channel M) (store : Store M)

/-! ## Requests as equations -/

theorem isOpen_iff : channel.isOpen = true ↔ channel.mode ≠ .closed := by
  unfold isOpen ChannelMode.isClosed
  cases channel.mode <;> decide

theorem closed_of_not_open (shut : ¬ channel.isOpen = true) : channel.mode = .closed := by
  rw [isOpen_iff] at shut
  cases mode : channel.mode with
  | closed => rfl
  | immediate => exact absurd (by rw [mode]; decide) shut
  | transactional => exact absurd (by rw [mode]; decide) shut

theorem transactional_of_isOpen {channel : Channel M} (isOpen : channel.isOpen = true)
    (notImmediate : channel.mode ≠ .immediate) : channel.mode = .transactional := by
  have notClosed := channel.isOpen_iff.mp isOpen
  cases mode : channel.mode with
  | immediate => exact absurd mode notImmediate
  | transactional => rfl
  | closed => exact absurd mode notClosed

theorem immediate_of_isOpen {channel : Channel M} (isOpen : channel.isOpen = true)
    (notTransactional : channel.mode ≠ .transactional) : channel.mode = .immediate := by
  have notClosed := channel.isOpen_iff.mp isOpen
  cases mode : channel.mode with
  | immediate => rfl
  | transactional => exact absurd mode notTransactional
  | closed => exact absurd mode notClosed

/-- A closed channel refuses every request but a further close, which does nothing. -/
theorem serve_of_closed (closed : channel.mode = .closed) (request : Request M) :
    channel.serve store request =
      (if request.isClose then .closed {} else .failed (.channelClosed channel.id),
        channel, store) := by
  have shut : channel.isOpen = false := by simp [isOpen, ChannelMode.isClosed, closed]
  cases request <;>
    simp [serve, Request.isClose, Outcome.reply, select, publish, get, consume, next, cancel, ack,
      commit, rollback, recover, close, whenOpen, whenTransactional, refuse, shut, closed]

section Open

variable (isOpen : channel.isOpen = true)

include isOpen

theorem serve_select :
    channel.serve store .select = (.done, { channel with mode := .transactional }, store) := by
  simp [serve, select, whenOpen, isOpen, Outcome.reply]

theorem serve_next_of_unknown {tag : ConsumerTag} (unknown : channel.consumers.find? tag = none) :
    channel.serve store (.next tag) = (.failed (.unknownConsumer tag), channel, store) := by
  simp [serve, next, whenOpen, isOpen, Consumers.get, unknown, refuse, Outcome.reply]

theorem serve_consume (queue : QueueName) (tag : ConsumerTag) (noAck : Bool) :
    channel.serve store (.consume queue tag noAck) =
      if store.has queue then
        match channel.consumers.find? tag with
        | some _ => (.failed (.consumerExists tag), channel, store)
        | none =>
          (.consuming tag,
            { channel with
              consumers := ⟨channel.consumers.entries ++ [(tag, ⟨queue, noAck⟩)]⟩ }, store)
      else (.failed (.queueNotFound queue), channel, store) := by
  simp only [serve, consume, whenOpen, isOpen, if_true, Consumers.add, refuse, Outcome.reply]
  cases store.has queue with
  | true => cases channel.consumers.find? tag <;> rfl
  | false => rfl

theorem serve_cancel (tag : ConsumerTag) :
    channel.serve store (.cancel tag) =
      match channel.consumers.find? tag with
      | some _ =>
        (.done, { channel with consumers := ⟨channel.consumers.entries.filter (·.1 ≠ tag)⟩ },
          store)
      | none => (.failed (.unknownConsumer tag), channel, store) := by
  simp only [serve, cancel, whenOpen, isOpen, if_true, Consumers.remove, refuse, Outcome.reply]
  cases channel.consumers.find? tag <;> rfl

theorem serve_returning :
    channel.serve store (.recover true) =
      (.recovered (.returned channel.outstanding.length),
        { channel with unacked := channel.unacked.keep (·.ackPending) },
        store.giveBack channel.outstanding) := by
  simp [serve, recover, whenOpen, isOpen, UnackedTable.removeOutstanding, outstanding,
    Outcome.reply]

theorem serve_redelivering :
    channel.serve store (.recover false) =
      (.recovered (.handedOut channel.unacked.handOutAgain.1),
        { channel with unacked := channel.unacked.handOutAgain.2 }, store) := by
  simp [serve, recover, whenOpen, isOpen, Outcome.reply]

theorem serve_close :
    channel.serve store .close =
      (.closed ⟨channel.unacked.entries.length, channel.buffer.publishCount,
          channel.consumers.size⟩,
        { channel with mode := .closed, buffer := .empty, unacked := .empty, consumers := .empty },
        store.giveBack (channel.unacked.entries.map (·.delivery))) := by
  simp [serve, close, isOpen, UnackedTable.removeAll, TransactionBuffer.discard, Consumers.clear]

end Open

theorem mode_serve_close : (channel.serve store .close).2.1.mode = .closed := by
  by_cases isOpen : channel.isOpen = true
  · rw [channel.serve_close store isOpen]
  · have closed := channel.closed_of_not_open isOpen
    rw [channel.serve_of_closed store closed]
    exact closed

section Immediate

variable (immediate : channel.mode = .immediate)

include immediate

theorem isOpen_of_immediate : channel.isOpen = true := by
  rw [isOpen_iff, immediate]
  decide

theorem serve_publish_of_immediate (message : M) (target : QueueName) :
    channel.serve store (.publish message target) =
      (.done, channel, (store.enqueue target message).2) := by
  have isOpen := channel.isOpen_of_immediate immediate
  simp [serve, publish, whenOpen, isOpen, immediate, ChannelMode.isTransactional, Outcome.reply]

theorem serve_ack_of_immediate (tag : Nat) (multiple : Bool) :
    channel.serve store (.ack tag multiple) =
      if (multiple && !Tag.isAll tag && !channel.tags.hasIssued tag) ||
          !(multiple || channel.unacked.contains tag) then
        (.failed (.unknownDeliveryTag tag), channel, store)
      else
        (.done,
          { channel with
            unacked := channel.unacked.keep fun entry => !covers tag multiple entry.tag },
          store) := by
  have isOpen := channel.isOpen_of_immediate immediate
  simp only [serve, ack, whenOpen, isOpen, if_true, immediate, ChannelMode.isTransactional,
    UnackedTable.settle, refuse, Outcome.reply]
  cases multiple && !Tag.isAll tag && !channel.tags.hasIssued tag <;>
    cases multiple || channel.unacked.contains tag <;> rfl

theorem serve_settling_of_immediate :
    channel.serve store .commit = (.failed (.outsideTransaction "commit"), channel, store) ∧
      channel.serve store .rollback =
        (.failed (.outsideTransaction "rollback"), channel, store) := by
  simp [serve, commit, rollback, whenTransactional, immediate, refuse, Outcome.reply]

end Immediate

section Transactional

variable (transactional : channel.mode = .transactional)

include transactional

theorem isOpen_of_transactional : channel.isOpen = true := by
  rw [isOpen_iff, transactional]
  decide

theorem serve_publish_of_transactional (message : M) (target : QueueName) :
    channel.serve store (.publish message target) =
      (.done, { channel with buffer := channel.buffer.deferPublish message target }, store) := by
  have isOpen := channel.isOpen_of_transactional transactional
  simp [serve, publish, whenOpen, isOpen, transactional, ChannelMode.isTransactional,
    Outcome.reply]

theorem serve_ack_of_transactional (tag : Nat) (multiple : Bool) :
    channel.serve store (.ack tag multiple) =
      if (multiple && !Tag.isAll tag && !channel.tags.hasIssued tag) ||
          !(multiple || (channel.unacked.contains tag && !channel.unacked.isPending tag)) then
        (.failed (.unknownDeliveryTag tag), channel, store)
      else
        (.done,
          { channel with
            unacked := channel.unacked.postponed tag multiple
            buffer := channel.buffer.deferAck tag multiple },
          store) := by
  have isOpen := channel.isOpen_of_transactional transactional
  simp only [serve, ack, whenOpen, isOpen, if_true, transactional, ChannelMode.isTransactional,
    UnackedTable.postpone, refuse, Outcome.reply]
  cases multiple && !Tag.isAll tag && !channel.tags.hasIssued tag <;>
    cases multiple || (channel.unacked.contains tag && !channel.unacked.isPending tag) <;> rfl

theorem serve_commit_of_transactional :
    channel.serve store .commit =
      (.committed
        { published := (store.enqueueAll channel.buffer.publishes).1.1
          dropped := (store.enqueueAll channel.buffer.publishes).1.2
          acked := channel.unacked.entries.countP (·.confirmedBy channel.buffer.acks) },
        { channel with
          buffer := .empty
          unacked := channel.unacked.keep fun entry => !entry.confirmedBy channel.buffer.acks },
        (store.enqueueAll channel.buffer.publishes).2) := by
  simp [serve, commit, whenTransactional, transactional, UnackedTable.settleAllPending_eq,
    Outcome.reply]

theorem serve_rollback_of_transactional :
    channel.serve store .rollback =
      (.rolledBack ⟨channel.buffer.publishCount, channel.unacked.pendingCount⟩,
        { channel with buffer := .empty, unacked := channel.unacked.release.2 }, store) := by
  simp [serve, rollback, whenTransactional, transactional, TransactionBuffer.discard,
    UnackedTable.release, Outcome.reply]

end Transactional

/-! ## Two channels with the same consumers -/

section SameConsumers

variable {channel store} {twin : Channel M} {other : Store M} (isOpen : channel.isOpen = true)
  (twinOpen : twin.isOpen = true) (same : twin.consumers = channel.consumers)

include isOpen twinOpen same

theorem same_consume {queue : QueueName} (declared : other.has queue = store.has queue)
    (tag : ConsumerTag) (noAck : Bool) :
    ∃ reply consumers,
      channel.serve store (.consume queue tag noAck) = (reply, { channel with consumers }, store) ∧
        twin.serve other (.consume queue tag noAck) = (reply, { twin with consumers }, other) := by
  rw [channel.serve_consume store isOpen, twin.serve_consume other twinOpen, declared, same]
  -- A refusal leaves the consumers, which are the same on both sides, as they are.
  split
  · split
    · refine ⟨_, channel.consumers, rfl, ?_⟩
      rw [← same]
    · exact ⟨_, _, rfl, rfl⟩
  · refine ⟨_, channel.consumers, rfl, ?_⟩
    rw [← same]

theorem same_cancel (tag : ConsumerTag) :
    ∃ reply consumers,
      channel.serve store (.cancel tag) = (reply, { channel with consumers }, store) ∧
        twin.serve other (.cancel tag) = (reply, { twin with consumers }, other) := by
  rw [channel.serve_cancel store isOpen, twin.serve_cancel other twinOpen, same]
  split
  · exact ⟨_, _, rfl, rfl⟩
  · refine ⟨_, channel.consumers, rfl, ?_⟩
    rw [← same]

end SameConsumers

/-! ## Requests as steps -/

/-- Taking the head of a queue and delivering it. -/
theorem step_pull {request : Request M} {claim : Pull} (isOpen : channel.isOpen = true)
    (claims : channel.pull? request = some claim) :
    Step channel store request (channel.serve store request).1
      (channel.serve store request).2.1 (channel.serve store request).2.2 := by
  cases contents : store.queue? claim.queue with
  | none =>
    rw [channel.serve_pull_of_missing store isOpen claims contents]
    exact .refused
  | some messages =>
    cases messages with
    | nil =>
      rw [channel.serve_pull_of_empty store isOpen claims contents]
      exact .foundEmpty isOpen claims contents
    | cons head tail =>
      by_cases room : channel.tags.last < Tag.largest
      · cases noAck : claim.noAck with
        | true =>
          rw [channel.serve_pull_of_noAck store isOpen claims contents room noAck]
          exact .consumed isOpen claims contents room noAck
        | false =>
          cases entered : channel.unacked.enter (channel.nextDelivery claim head) with
          | error error =>
            have present := (UnackedTable.enter_eq_error_iff.mp entered).1
            rw [channel.serve_pull_of_duplicate store isOpen claims contents room noAck present]
            exact .duplicated isOpen claims contents room noAck present
          | ok unacked =>
            rw [channel.serve_pull_of_entered store isOpen claims contents room noAck entered]
            exact .handedOut isOpen claims contents room noAck entered
      · rw [channel.serve_pull_of_full store isOpen claims contents room]
        exact .exhausted isOpen claims contents room

/-- What an acknowledgement that passes the first check of its tag names. -/
theorem known_of_check {multiple : Bool} {tag : Nat}
    (check : (multiple && !Tag.isAll tag && !channel.tags.hasIssued tag) = false)
    (isMultiple : multiple = true) : tag = Tag.all ∨ tag ≤ channel.tags.last := by
  subst isMultiple
  by_cases all : tag = Tag.all
  · exact .inl all
  · have issued : channel.tags.hasIssued tag = true := by simpa [Tag.isAll, all] using check
    exact .inr (TagCounter.hasIssued_iff.mp issued).2

/-- Answering a request is a step. -/
theorem step_serve (request : Request M) :
    Step channel store request (channel.serve store request).1
      (channel.serve store request).2.1 (channel.serve store request).2.2 := by
  by_cases isOpen : channel.isOpen = true
  case neg =>
    have closed := channel.closed_of_not_open isOpen
    rw [channel.serve_of_closed store closed]
    cases request with
    | close => exact .closedAgain closed
    | _ => exact .refused
  case pos =>
    -- Only these two modes matter from here on, and only to publishes and settlements.
    have running : channel.mode = .immediate ∨ channel.mode = .transactional := by
      rw [isOpen_iff] at isOpen
      cases mode : channel.mode <;> simp_all
    cases request with
    | select =>
      rw [channel.serve_select store isOpen]
      exact .selected isOpen
    | publish message target =>
      rcases running with immediate | transactional
      · rw [channel.serve_publish_of_immediate store immediate]
        exact .published immediate
      · rw [channel.serve_publish_of_transactional store transactional]
        exact .deferredPublish transactional
    | get queue noAck =>
      exact channel.step_pull store isOpen rfl
    | consume queue tag noAck =>
      rw [channel.serve_consume store isOpen]
      split
      · rename_i declared
        split
        · exact .refused
        · rename_i free
          exact .registered isOpen declared free
      · exact .refused
    | next tag =>
      cases found : channel.consumers.find? tag with
      | none =>
        rw [channel.serve_next_of_unknown store isOpen found]
        exact .refused
      | some consumer =>
        exact channel.step_pull store isOpen (pull?_next found)
    | cancel tag =>
      rw [channel.serve_cancel store isOpen]
      split
      · rename_i found
        exact .cancelled isOpen found
      · exact .refused
    | ack tag multiple =>
      rcases running with immediate | transactional
      · rw [channel.serve_ack_of_immediate store immediate]
        split
        · exact .refused
        · rename_i passed
          simp only [Bool.or_eq_true, not_or, Bool.not_eq_true, Bool.not_eq_false'] at passed
          exact .acked immediate (channel.known_of_check passed.1) (by simpa using passed.2)
      · rw [channel.serve_ack_of_transactional store transactional]
        split
        · exact .refused
        · rename_i passed
          simp only [Bool.or_eq_true, not_or, Bool.not_eq_true, Bool.not_eq_false'] at passed
          exact .deferredAck transactional (channel.known_of_check passed.1)
            (by simpa using passed.2)
    | commit =>
      rcases running with immediate | transactional
      · rw [(channel.serve_settling_of_immediate store immediate).1]
        exact .refused
      · rw [channel.serve_commit_of_transactional store transactional]
        exact .committed transactional
    | rollback =>
      rcases running with immediate | transactional
      · rw [(channel.serve_settling_of_immediate store immediate).2]
        exact .refused
      · rw [channel.serve_rollback_of_transactional store transactional]
        exact .rolledBack transactional
    | recover requeue =>
      cases requeue with
      | true =>
        rw [channel.serve_returning store isOpen]
        exact .returned isOpen
      | false =>
        rw [channel.serve_redelivering store isOpen]
        exact .redelivered isOpen
    | close =>
      rw [channel.serve_close store isOpen]
      exact .closed isOpen

/-! ## Reachable channels -/

/-- The channels there can be: a new one, and what a request makes of one on whatever store it
finds. Between two requests the store may have changed in any way. -/
inductive Reachable : Channel M → Prop
  | opened (id : String) : Reachable (.new id)
  | served {channel : Channel M} (store : Store M) (request : Request M) :
      Reachable channel → Reachable (channel.serve store request).2.1

theorem Reachable.serveAll {channel : Channel M} (reachable : channel.Reachable) (store : Store M)
    (requests : List (Request M)) : (channel.serveAll store requests).2.1.Reachable := by
  induction requests generalizing channel store with
  | nil => exact reachable
  | cons request rest ih => exact ih (reachable.served store request) _

end Channel

end MessageBroker
