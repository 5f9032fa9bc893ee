import MessageBroker.Proofs.Bookkeeping

/-!
# Refused requests and closed channels

A request that fails has failed a check, and checks come before effects: the channel, its store and
the other channels are as before (`Channel.Coherent.verdict`). Two failures come after an effect,
when no tag is left and when the next tag is taken; the bookkeeping of the channel excludes the
second. A closed channel refuses every request and stays as it is, so nothing that is asked of it
reaches the store any more (`ChannelGroup.closed_after`). `ChannelGroup.failed_unchanged` states
both for the channels of any run.
-/

set_option autoImplicit false

namespace MessageBroker

variable {M : Type}

/-- True of the failures that report a check. By the others the broker contradicts itself, has used
up the tags of a channel or has lost the task that drives one. -/
def BrokerError.isRefusal : BrokerError → Bool
  | preconditionFailed _ | unknownDeliveryTag _ | queueNotFound _ | channelClosed _
  | consumerExists _ | unknownConsumer _ => true
  | duplicateTag _ | tagsExhausted | channelUnavailable => false

namespace Channel

/-- The ways a request can be answered: without a failure, by a refusal that changes neither the
channel nor the store, or because no tag is left. -/
inductive Verdict (channel : Channel M) (store : Store M) (request : Request M) : Prop
  | granted {reply : Reply M} {after : Channel M} {later : Store M}
      (eq : channel.serve store request = (reply, after, later))
      (success : ∀ error, reply ≠ .failed error)
  | refused {error : BrokerError} (refusal : error.isRefusal = true)
      (eq : channel.serve store request = (.failed error, channel, store))
  | exhausted (full : ¬ channel.tags.last < Tag.largest)
      (answer : (channel.serve store request).1 = .failed .tagsExhausted)

variable {channel : Channel M}

/-- A delivery is made whenever there is a message and a tag left. -/
theorem Coherent.verdict_of_pull (coherent : channel.Coherent) (isOpen : channel.isOpen = true)
    (store : Store M) {request : Request M} {claim : Pull}
    (claims : channel.pull? request = some claim) : Verdict channel store request := by
  cases contents : store.queue? claim.queue with
  | none => exact .refused rfl (channel.serve_pull_of_missing store isOpen claims contents)
  | some messages =>
    cases messages with
    | nil => exact .granted (channel.serve_pull_of_empty store isOpen claims contents) nofun
    | cons head tail =>
      by_cases room : channel.tags.last < Tag.largest
      case neg =>
        refine .exhausted room ?_
        rw [channel.serve_pull_of_full store isOpen claims contents room]
      case pos =>
        cases noAck : claim.noAck with
        | true =>
          have eq := channel.serve_pull_of_noAck store isOpen claims contents room noAck
          exact .granted eq nofun
        | false =>
          cases entered : channel.unacked.enter (channel.nextDelivery claim head) with
          | error error =>
            -- The next tag would be in the table already.
            have taken := (UnackedTable.enter_eq_error_iff.mp entered).1
            cases taken.symm.trans coherent.contains_next
          | ok unacked =>
            have eq := channel.serve_pull_of_entered store isOpen claims contents room noAck entered
            exact .granted eq nofun

/-- **While there is a tag left, a request fails only by a refusal**, provided the books of the
channel are in order. -/
theorem Coherent.verdict (coherent : channel.Coherent) (store : Store M) (request : Request M) :
    Verdict channel store request := by
  by_cases isOpen : channel.isOpen = true
  case neg =>
    have eq := channel.serve_of_closed store (channel.closed_of_not_open isOpen) request
    cases closes : request.isClose with
    | true =>
      rw [closes] at eq
      exact .granted eq nofun
    | false =>
      rw [closes] at eq
      exact .refused rfl eq
  case pos =>
    cases request with
    | select => exact .granted (channel.serve_select store isOpen) nofun
    | publish message target =>
      by_cases transactional : channel.mode = .transactional
      · have eq := channel.serve_publish_of_transactional store transactional message target
        exact .granted eq nofun
      · have eq := channel.serve_publish_of_immediate store
          (immediate_of_isOpen isOpen transactional) message target
        exact .granted eq nofun
    | get queue noAck => exact coherent.verdict_of_pull isOpen store rfl
    | consume queue tag noAck =>
      have eq := channel.serve_consume store isOpen queue tag noAck
      split at eq
      · split at eq
        · exact .refused rfl eq
        · exact .granted eq nofun
      · exact .refused rfl eq
    | next tag =>
      cases found : channel.consumers.find? tag with
      | none => exact .refused rfl (channel.serve_next_of_unknown store isOpen found)
      | some consumer => exact coherent.verdict_of_pull isOpen store (pull?_next found)
    | cancel tag =>
      have eq := channel.serve_cancel store isOpen tag
      split at eq
      · exact .granted eq nofun
      · exact .refused rfl eq
    | ack tag multiple =>
      by_cases transactional : channel.mode = .transactional
      · have eq := channel.serve_ack_of_transactional store transactional tag multiple
        split at eq
        · exact .refused rfl eq
        · exact .granted eq nofun
      · have eq := channel.serve_ack_of_immediate store
          (immediate_of_isOpen isOpen transactional) tag multiple
        split at eq
        · exact .refused rfl eq
        · exact .granted eq nofun
    | commit =>
      by_cases transactional : channel.mode = .transactional
      · exact .granted (channel.serve_commit_of_transactional store transactional) nofun
      · have immediate := immediate_of_isOpen isOpen transactional
        exact .refused rfl (channel.serve_settling_of_immediate store immediate).1
    | rollback =>
      by_cases transactional : channel.mode = .transactional
      · exact .granted (channel.serve_rollback_of_transactional store transactional) nofun
      · have immediate := immediate_of_isOpen isOpen transactional
        exact .refused rfl (channel.serve_settling_of_immediate store immediate).2
    | recover requeue =>
      cases requeue with
      | true => exact .granted (channel.serve_returning store isOpen) nofun
      | false => exact .granted (channel.serve_redelivering store isOpen) nofun
    | close => exact .granted (channel.serve_close store isOpen) nofun

end Channel

/-! ## Runs -/

namespace ChannelGroup

section Closed

variable {group : ChannelGroup M} {place : Nat} {channel : Channel M}
  (found : group.channels[place]? = some channel) (closed : channel.mode = .closed)

include found closed

/-- A closed channel refuses everything but a further close, and letting it go does nothing. -/
theorem perform_of_closed (request : Request M) :
    group.perform (.request place request) =
        (.replied (if request.isClose then .closed {} else .failed (.channelClosed channel.id)),
          group) ∧
      group.perform (.drop place) = (.done, group) := by
  rw [group.perform_request_of_some found, group.perform_drop_of_some found,
    channel.serve_of_closed group.store closed, channel.serve_of_closed group.store closed,
    set_eq_self found]
  exact ⟨rfl, rfl⟩

/-- So no event that asks it changes anything. -/
theorem perform_eq_self_of_closed {event : Event M} {request : Request M}
    (asked : event.requestTo? place = some request) : (group.perform event).2 = group := by
  rw [perform_of_requestTo? found asked, serveAt, channel.serve_of_closed group.store closed]
  exact congrArg (ChannelGroup.mk group.store) (set_eq_self found)

/-- It stays as it is through the rest of a run. -/
theorem closed_after (events : List (Event M)) :
    (group.after events).channels[place]? = some channel := by
  induction events generalizing group with
  | nil => exact found
  | cons event rest ih =>
    cases asked : event.requestTo? place with
    | none => exact ih (getElem?_perform_of_not_asked found asked)
    | some request =>
      rw [after_cons, perform_eq_self_of_closed found closed asked]
      exact ih found

end Closed

/-- Whatever ends a channel leaves a closed one. -/
theorem closed_of_close {group : ChannelGroup M} {place : Nat} {channel : Channel M}
    (found : group.channels[place]? = some channel) {ending : Event M}
    (ends : ending.requestTo? place = some .close) :
    ∃ last, (group.perform ending).2.channels[place]? = some last ∧ last.mode = .closed :=
  ⟨_, getElem?_perform_of_requestTo? found ends, channel.mode_serve_close group.store⟩

/-- **A failed operation changes nothing, and a closed channel stays closed.** At any point of any
run on a shared store, a request that fails on a channel with a tag left has been refused by a
check, and the store and all channels are as before. A closed channel refuses every request but a
further close, which reports nothing, and letting it go does nothing. From the first close on,
whatever happens, the channel stays as the close has left it, and no event that asks it changes the
store or any channel. -/
theorem failed_unchanged (store : Store M) (events : List (Event M)) {place : Nat}
    {channel : Channel M}
    (found : ((⟨store, []⟩ : ChannelGroup M).after events).channels[place]? = some channel) :
    let group := (⟨store, []⟩ : ChannelGroup M).after events
    (channel.tags.last < Tag.largest → ∀ request error,
        (group.perform (.request place request)).1 = .replied (.failed error) →
          error.isRefusal = true ∧ (group.perform (.request place request)).2 = group) ∧
      (channel.mode = .closed → ∀ request,
        group.perform (.request place request) =
            (.replied (if request.isClose then .closed {} else .failed (.channelClosed channel.id)),
              group) ∧
          group.perform (.drop place) = (.done, group)) ∧
      ∀ ending, ending.requestTo? place = some .close →
        ∃ last, last.mode = .closed ∧ ∀ more,
          let later := (group.perform ending).2.after more
          later.channels[place]? = some last ∧
            ∀ event request, event.requestTo? place = some request →
              (later.perform event).2 = later := by
  intro group
  have coherent : channel.Coherent := Channel.coherent_of_reachable
    (reachable_after store events channel (List.mem_of_getElem? found))
  refine ⟨?failed, fun closed => perform_of_closed found closed, ?ended⟩
  case failed =>
    intro room request error failed
    rw [group.perform_request_of_some found] at failed ⊢
    cases coherent.verdict group.store request with
    | granted eq success =>
      rw [eq] at failed
      exact absurd (Answer.replied.inj failed) (success error)
    | refused refusal eq =>
      rw [eq] at failed ⊢
      obtain rfl := Reply.failed.inj (Answer.replied.inj failed)
      exact ⟨refusal, congrArg (ChannelGroup.mk group.store) (set_eq_self found)⟩
    | exhausted full => exact absurd room full
  case ended =>
    intro ending ends
    obtain ⟨last, at_place, closed⟩ := closed_of_close found ends
    refine ⟨last, closed, fun more => ?_⟩
    have still := closed_after at_place closed more
    exact ⟨still, fun event request asked => perform_eq_self_of_closed still closed asked⟩

/-- A consumer whose queue has been deleted while its channel has deferred a publish and flagged a
delivery, then the end of the channel while another one works on. -/
theorem failed_unchanged_of_deleted_queue :
    let group := (⟨.empty, []⟩ : ChannelGroup Nat).after
      [.queue (.declare "q"), .queue (.enqueue "q" 10), .queue (.enqueue "q" 20), .opening "A",
        .opening "B", .request 0 (.consume "q" (.named "c") false), .request 0 (.next (.named "c")),
        .request 0 .select, .request 0 (.publish 30 "q"), .request 0 (.ack 1 false),
        .queue (.delete "q")]
    let request : Request Nat := .next (.named "c")
    (∃ channel, group.channels[0]? = some channel ∧ channel.tags.last < Tag.largest) ∧
      (group.perform (.request 0 request)).1 = .replied (.failed (.queueNotFound "q")) ∧
      (group.perform (.request 0 request)).2 = group ∧
      ∃ last, last.mode = .closed ∧ ∀ more,
        let later := (group.perform (.drop 0)).2.after more
        later.channels[0]? = some last ∧
          ∀ event request, event.requestTo? 0 = some request → (later.perform event).2 = later := by
  intro group request
  have present : ∃ channel, group.channels[0]? = some channel ∧ channel.tags.last < Tag.largest :=
    ⟨_, rfl, by decide⟩
  have answer : (group.perform (.request 0 request)).1 = .replied (.failed (.queueNotFound "q")) :=
    rfl
  obtain ⟨channel, found, room⟩ := present
  obtain ⟨refused, _, ended⟩ := failed_unchanged .empty _ found
  exact ⟨⟨channel, found, room⟩, answer, (refused room request _ answer).2, ended (.drop 0) rfl⟩

end ChannelGroup

end MessageBroker
