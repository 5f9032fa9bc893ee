import MessageBroker.Proofs.Erasure
import MessageBroker.Proofs.Store

/-!
# Isolation of transactions

What a channel does inside a transaction stays with the channel until it commits. Its publishes,
acknowledgements, rollbacks and recoveries under the old tags change only its buffer and the flags
in its table (`Alike.skip`), and every other request depends on neither, not even a close, which
returns pending and outstanding deliveries alike (`Alike.keep`). So the rest of a run in which the
channel does not commit is the same for everybody else without these requests
(`ChannelGroup.uncommitted_invisible`).
-/

set_option autoImplicit false

namespace MessageBroker

variable {M : Type}

/-- A delivery with its flag taken off. -/
def Delivery.unflagged (delivery : Delivery M) : Delivery M :=
  { delivery with redelivered := false }

namespace UnackedTable

/-- The deliveries of a table without any flags, in tag order. -/
def taken (table : UnackedTable M) : List (Delivery M) :=
  table.entries.map (·.delivery.unflagged)

theorem contains_iff_taken {table : UnackedTable M} {tag : Nat} :
    table.contains tag = true ↔ ∃ delivery ∈ table.taken, delivery.tag = tag := by
  rw [contains_iff, taken]
  constructor
  · rintro ⟨entry, member, named⟩
    exact ⟨entry.delivery.unflagged, List.mem_map_of_mem member, named⟩
  · rintro ⟨_, member, named⟩
    obtain ⟨entry, old, rfl⟩ := List.mem_map.mp member
    exact ⟨entry, old, named⟩

theorem contains_of_taken {table other : UnackedTable M} (same : other.taken = table.taken)
    (tag : Nat) : other.contains tag = table.contains tag := by
  rw [Bool.eq_iff_iff, contains_iff_taken, contains_iff_taken, same]

theorem taken_adjust (table : UnackedTable M) {change : UnackedDelivery M → UnackedDelivery M}
    (tag_change : ∀ entry, (change entry).tag = entry.tag)
    (same : ∀ entry, (change entry).delivery.unflagged = entry.delivery.unflagged) :
    (table.adjust change tag_change).taken = table.taken := by
  rw [taken, entries_adjust, List.map_map, taken]
  exact List.map_congr_left fun entry _ => same entry

theorem taken_postponed (table : UnackedTable M) (tag : Nat) (multiple : Bool) :
    (table.postponed tag multiple).taken = table.taken := by
  refine table.taken_adjust _ fun entry => ?_
  rw [UnackedDelivery.delivery_flagBy]

theorem taken_release (table : UnackedTable M) : table.release.2.taken = table.taken := by
  rw [release, taken_adjust]
  intro entry
  rfl

theorem taken_handOutAgain (table : UnackedTable M) :
    table.handOutAgain.2.taken = table.taken := by
  refine table.taken_adjust UnackedDelivery.tag_handOutAgain fun entry => ?_
  unfold UnackedDelivery.handOutAgain
  split
  · rfl
  · rfl

/-- Where an entry goes depends on the tags alone. -/
theorem taken_insertEntry (entry : UnackedDelivery M) {entries others : List (UnackedDelivery M)}
    (same : others.map (·.delivery.unflagged) = entries.map (·.delivery.unflagged)) :
    (insertEntry entry others).map (·.delivery.unflagged) =
      (insertEntry entry entries).map (·.delivery.unflagged) := by
  induction entries generalizing others with
  | nil =>
    rw [List.map_nil, List.map_eq_nil_iff] at same
    rw [same]
  | cons first rest ih =>
    cases others with
    | nil => cases same
    | cons other others =>
      rw [List.map_cons, List.map_cons] at same
      obtain ⟨heads, tails⟩ := List.cons.inj same
      have tag : other.tag = first.tag := by
        have tags := congrArg Delivery.tag heads
        exact tags
      -- The tags agree, so both insertions stop at the same place.
      rw [insertEntry, insertEntry, tag]
      split
      · simp only [List.map_cons, heads, tails]
      · simp only [List.map_cons, heads, ih tails]

/-- The same delivery leaves two tables with the same deliveries. -/
theorem taken_enter {table other after otherAfter : UnackedTable M} {delivery : Delivery M}
    (same : other.taken = table.taken) (entered : table.enter delivery = .ok after)
    (other_entered : other.enter delivery = .ok otherAfter) : otherAfter.taken = after.taken := by
  rw [taken, taken, (enter_eq_ok_iff.mp entered).2, (enter_eq_ok_iff.mp other_entered).2]
  exact taken_insertEntry _ same

end UnackedTable

/-! ## One channel with and without its tentative requests -/

/-- True of the requests whose effect a transaction keeps to itself. -/
def Request.isTentative : Request M → Bool
  | publish _ _ | ack _ _ | rollback | recover false => true
  | _ => false

/-- True of the answers of a commit and of a return of deliveries. -/
def Reply.isRelease : Reply M → Bool
  | committed _ | recovered (.returned _) => true
  | _ => false

namespace Channel

/-- Two channels, in a transaction or closed, that differ in what they hold back and in flags. -/
structure Alike (channel twin : Channel M) : Prop where
  id : twin.id = channel.id
  mode : twin.mode = channel.mode
  tags : twin.tags = channel.tags
  consumers : twin.consumers = channel.consumers
  taken : twin.unacked.taken = channel.unacked.taken
  notImmediate : channel.mode ≠ .immediate

namespace Alike

variable {channel twin : Channel M}

theorem transactional (alike : Alike channel twin) (isOpen : channel.isOpen = true) :
    channel.mode = .transactional := by
  have notClosed := channel.isOpen_iff.mp isOpen
  have notImmediate := alike.notImmediate
  cases mode : channel.mode with
  | immediate => exact absurd mode notImmediate
  | transactional => rfl
  | closed => exact absurd mode notClosed

/-- **A tentative request stays inside the channel.** -/
theorem skip (alike : Alike channel twin) (store : Store M) {request : Request M}
    (tentative : request.isTentative = true) :
    (channel.serve store request).2.2 = store ∧
      Alike (channel.serve store request).2.1 twin := by
  by_cases isOpen : channel.isOpen = true
  case neg =>
    have closed := channel.closed_of_not_open isOpen
    rw [channel.serve_of_closed store closed]
    exact ⟨rfl, alike⟩
  case pos =>
    have transactional := alike.transactional isOpen
    cases request with
    | publish message target =>
      rw [channel.serve_publish_of_transactional store transactional]
      exact ⟨rfl, { alike with }⟩
    | ack tag multiple =>
      rw [channel.serve_ack_of_transactional store transactional]
      split
      · exact ⟨rfl, alike⟩
      · refine ⟨rfl, { alike with taken := ?_ }⟩
        rw [alike.taken, UnackedTable.taken_postponed]
    | rollback =>
      rw [channel.serve_rollback_of_transactional store transactional]
      refine ⟨rfl, { alike with taken := ?_ }⟩
      rw [alike.taken, UnackedTable.taken_release]
    | recover requeue =>
      cases requeue with
      | true => cases tentative
      | false =>
        rw [channel.serve_redelivering store isOpen]
        refine ⟨rfl, { alike with taken := ?_ }⟩
        rw [alike.taken, UnackedTable.taken_handOutAgain]
    | _ => cases tentative

/-- What a request leads to on both channels. -/
structure Kept (channel twin : Channel M) (store : Store M) (request : Request M) : Prop where
  stores : (twin.serve store request).2.2 = (channel.serve store request).2.2
  alike : Alike (channel.serve store request).2.1 (twin.serve store request).2.1
  reply : request.isClose = false →
    (twin.serve store request).1 = (channel.serve store request).1

theorem Kept.of_eq {store later : Store M} {request : Request M} {reply : Reply M}
    {after twinAfter : Channel M} (eq : channel.serve store request = (reply, after, later))
    (twin_eq : twin.serve store request = (reply, twinAfter, later))
    (alike : Alike after twinAfter) : Kept channel twin store request where
  stores := by rw [eq, twin_eq]
  alike := by rwa [eq, twin_eq]
  reply _ := by rw [eq, twin_eq]

theorem twinOpen (alike : Alike channel twin) (isOpen : channel.isOpen = true) :
    twin.isOpen = true := by
  rwa [isOpen_iff, alike.mode, ← isOpen_iff]

theorem closed (alike : Alike channel twin) (closed : channel.mode = .closed) (store : Store M)
    (request : Request M) : Kept channel twin store request := by
  have twin_closed : twin.mode = .closed := by rw [alike.mode, closed]
  have eq := channel.serve_of_closed store closed request
  have twin_eq := twin.serve_of_closed store twin_closed request
  rw [alike.id] at twin_eq
  exact .of_eq eq twin_eq alike

/-- A delivery depends on the tags issued and on those in the table. -/
theorem pull (alike : Alike channel twin) (isOpen : channel.isOpen = true) (store : Store M)
    {request : Request M} {claim : Pull} (claims : channel.pull? request = some claim) :
    Kept channel twin store request := by
  have twin_claims : twin.pull? request = some claim := by
    rw [← claims]
    cases request <;> simp [Channel.pull?, alike.consumers]
  have contains := UnackedTable.contains_of_taken alike.taken (channel.tags.last + 1)
  cases samePull isOpen (alike.twinOpen isOpen) claims twin_claims rfl alike.tags contains with
  | unchanged eq twin_eq => exact .of_eq eq twin_eq alike
  | returned tags eq twin_eq => exact .of_eq eq twin_eq { alike with tags := rfl }
  | consumed eq twin_eq => exact .of_eq eq twin_eq { alike with tags := rfl }
  | handedOut entered twin_entered eq twin_eq =>
    exact .of_eq eq twin_eq { alike with
      tags := rfl
      taken := UnackedTable.taken_enter alike.taken entered twin_entered }

/-- Closing returns everything taken, whatever its flags. -/
theorem close (alike : Alike channel twin) (isOpen : channel.isOpen = true) (store : Store M) :
    Kept channel twin store .close := by
  have twinOpen := alike.twinOpen isOpen
  have returned : store.giveBack (twin.unacked.entries.map (·.delivery)) =
      store.giveBack (channel.unacked.entries.map (·.delivery)) := by
    -- A queue gets back messages, so the flags of the deliveries do not reach it.
    have pairs : ∀ table : UnackedTable M,
        (table.entries.map (·.delivery)).map (fun delivery => (delivery.queue, delivery.message)) =
          table.taken.map fun delivery => (delivery.queue, delivery.message) := by
      intro table
      rw [UnackedTable.taken, List.map_map, List.map_map]
      rfl
    refine store.giveBack_congr ?_
    rw [pairs, pairs, alike.taken]
  refine ⟨?_, ?_, fun other => by cases other⟩
  · rw [channel.serve_close store isOpen, twin.serve_close store twinOpen, returned]
  · rw [channel.serve_close store isOpen, twin.serve_close store twinOpen]
    refine ⟨alike.id, rfl, alike.tags, rfl, rfl, ?_⟩
    intro immediate
    cases immediate

/-- **Requests that stay do not depend on what is held back**, as long as nothing is released. -/
theorem keep (alike : Alike channel twin) (store : Store M) {request : Request M}
    (stays : request.isTentative = false)
    (unreleased : (channel.serve store request).1.isRelease = false) :
    Kept channel twin store request := by
  by_cases isOpen : channel.isOpen = true
  case neg =>
    have closed := channel.closed_of_not_open isOpen
    exact alike.closed closed store request
  case pos =>
    have twinOpen := alike.twinOpen isOpen
    have transactional := alike.transactional isOpen
    cases request with
    | select =>
      exact .of_eq (channel.serve_select store isOpen) (twin.serve_select store twinOpen)
        { alike with
          mode := rfl
          notImmediate := fun immediate => by cases immediate }
    | get queue noAck => exact alike.pull isOpen store rfl
    | next tag =>
      cases found : channel.consumers.find? tag with
      | none =>
        have unknown : twin.consumers.find? tag = none := by rw [alike.consumers, found]
        exact .of_eq (channel.serve_next_of_unknown store isOpen found)
          (twin.serve_next_of_unknown store twinOpen unknown) alike
      | some consumer =>
        exact alike.pull isOpen store (pull?_next found)
    | consume queue tag noAck =>
      obtain ⟨reply, consumers, eq, twin_eq⟩ :=
        same_consume isOpen twinOpen alike.consumers rfl tag noAck
      exact .of_eq eq twin_eq { alike with consumers := rfl }
    | cancel tag =>
      obtain ⟨reply, consumers, eq, twin_eq⟩ := same_cancel isOpen twinOpen alike.consumers tag
      exact .of_eq eq twin_eq { alike with consumers := rfl }
    | commit =>
      -- An open channel grants the commit, which is a release.
      rw [channel.serve_commit_of_transactional store transactional] at unreleased
      cases unreleased
    | recover requeue =>
      cases requeue with
      | false => cases stays
      | true =>
        rw [channel.serve_returning store isOpen] at unreleased
        cases unreleased
    | close => exact alike.close isOpen store
    | publish => cases stays
    | ack => cases stays
    | rollback => cases stays

end Alike

end Channel

/-! ## Runs -/

namespace Event

/-- True of the tentative requests to the channel at a place. -/
def isTentative (place : Nat) : Event M → Bool
  | .request other asked => other == place && asked.isTentative
  | _ => false

/-- True of the events whose answers say nothing of what the channel at a place holds back: all
but its tentative requests and its own close. -/
def isPublic (place : Nat) : Event M → Bool
  | .request other asked => !(other == place && (asked.isTentative || asked.isClose))
  | _ => true

end Event

/-- True of an answer by which the channel at a place commits or returns deliveries. -/
def releasesAt (place : Nat) : Event M × Answer M → Bool
  | (.request other _, .replied reply) => other == place && reply.isRelease
  | _ => false

/-- A channel without its tentative requests, while it releases nothing. -/
def Erasure.tentative (place : Nat) : Erasure M where
  present := place + 1
  erased other request := other == place && request.isTentative
  observed other request := !(other == place && (request.isTentative || request.isClose))
  allowed other _ reply := (other == place && reply.isRelease) = false
  Related other channel twin := if other = place then Channel.Alike channel twin else twin = channel
  hidden other request erased := by
    rw [Bool.and_eq_true] at erased
    simp [erased.1, erased.2]
  opened other id later := by
    rw [if_neg (by omega)]
  skip {other channel twin} related store request erased := by
    obtain ⟨same, tentative⟩ := Bool.and_eq_true_iff.mp erased
    have at_place : other = place := by simpa using same
    rw [if_pos at_place] at related ⊢
    exact related.skip store tentative
  keep {other channel twin} related store request stays allowed := by
    by_cases at_place : other = place
    · subst other
      rw [if_pos rfl] at related
      have kept := related.keep store (by simpa using stays) (by simpa using allowed)
      refine ⟨kept.stores, ?_, fun observed => kept.reply ?_⟩
      · rw [if_pos rfl]
        exact kept.alike
      · simp only [beq_self_eq_true, Bool.true_and, Bool.not_eq_true', Bool.or_eq_false_iff]
          at observed
        exact observed.2
    · rw [if_neg at_place] at related
      subst twin
      refine ⟨rfl, ?_, fun _ => rfl⟩
      rw [if_neg at_place]
  closing other := ⟨by simp [Request.isTentative], fun channel store => by
    have unreleased : (channel.serve store .close).1.isRelease = false := rfl
    rw [unreleased, Bool.and_false]⟩

/-- A run without the tentative requests to the channel at a place. -/
def withoutTentative (place : Nat) (events : List (Event M)) : List (Event M) :=
  events.filter fun event => !event.isTentative place

theorem withoutTentative_eq (place : Nat) (events : List (Event M)) :
    withoutTentative place events = events.filter (Erasure.tentative place).keeps := by
  refine List.filter_congr fun event _ => ?_
  cases event with
  | request other asked => rfl
  | _ => rfl

theorem isPublic_eq (place : Nat) (event : Event M) :
    event.isPublic place = (Erasure.tentative place).observes event := by
  cases event with
  | request other asked => rfl
  | _ => rfl

namespace ChannelGroup

variable {group : ChannelGroup M} {place : Nat} {channel : Channel M}

/-- A group corresponds to itself once a channel of it is in a transaction. -/
theorem matched_tentative (found : group.channels[place]? = some channel)
    (transactional : channel.mode = .transactional) :
    (Erasure.tentative place).Matched group group := by
  obtain ⟨bound, _⟩ := List.getElem?_eq_some_iff.mp found
  refine ⟨rfl, bound, rfl, ?_⟩
  intro other first second first_found second_found
  obtain rfl : second = first := Option.some.inj (second_found.symm.trans first_found)
  -- Each channel corresponds to itself; the one in the transaction has to be in it.
  show if other = place then Channel.Alike second second else second = second
  split
  · rename_i at_place
    obtain rfl : second = channel := by
      rw [at_place, found] at first_found
      exact (Option.some.inj first_found).symm
    refine ⟨rfl, rfl, rfl, rfl, rfl, ?_⟩
    rw [transactional]
    decide
  · rfl

theorem allows_tentative {history : List (Event M × Answer M)}
    (unreleased : ∀ entry ∈ history, releasesAt place entry = false) :
    (Erasure.tentative place).Allows history :=
  fun other request reply member => unreleased (.request other request, .replied reply) member

/-- **An uncommitted transaction is invisible to everybody else.** From a moment on at which a
channel is in a transaction it neither commits nor returns deliveries by a recovery. Without its
publishes, acknowledgements, rollbacks and recoveries under the old tags, the rest of the run gives
every other event the same answer, and at every point the store is the same. Of the channel's own
answers only that to its close may differ. -/
theorem uncommitted_invisible (found : group.channels[place]? = some channel)
    (transactional : channel.mode = .transactional) {rest : List (Event M)}
    (unreleased : ∀ entry ∈ group.history rest, releasesAt place entry = false) :
    (group.history (withoutTentative place rest)).filter (·.1.isPublic place) =
        (group.history rest).filter (·.1.isPublic place) ∧
      ∀ n, (group.after (withoutTentative place (rest.take n))).store =
        (group.after (rest.take n)).store := by
  have matched := matched_tentative found transactional
  refine ⟨?_, fun n => ?_⟩
  · rw [withoutTentative_eq]
    simp only [isPublic_eq]
    exact matched.history (allows_tentative unreleased)
  · -- What the whole run does not release, no part of it does.
    have so_far : ∀ entry ∈ group.history (rest.take n), releasesAt place entry = false := by
      intro entry member
      rw [history_take] at member
      exact unreleased entry (List.mem_of_mem_take member)
    rw [withoutTentative_eq]
    exact (matched.after (allows_tentative so_far)).store

/-- A transaction with a publish, an acknowledgement, a rollback and a recovery, watched by another
channel and ended by a drop. -/
theorem uncommitted_invisible_of_watched_run :
    let group : ChannelGroup Nat := ({} : ChannelGroup Nat).after
      [.queue (.declare "q"), .queue (.enqueue "q" 10), .queue (.enqueue "q" 20),
        .queue (.enqueue "q" 30), .opening "A", .opening "B", .request 0 (.get "q" false),
        .request 0 .select]
    let rest : List (Event Nat) :=
      [.request 0 (.publish 40 "q"), .request 0 (.ack 1 false), .request 1 (.get "q" false),
        .request 0 (.recover false), .request 0 (.get "q" false), .request 0 .rollback,
        .queue (.count "q"), .request 0 (.ack 0 true), .request 1 (.recover true), .drop 0,
        .request 0 (.ack 1 false), .request 0 .commit, .request 1 (.get "q" false)]
    (∃ channel, group.channels[0]? = some channel ∧ channel.mode = .transactional) ∧
      (∀ entry ∈ group.history rest, releasesAt 0 entry = false) ∧
      (withoutTentative 0 rest).length = 7 ∧
      (group.history (withoutTentative 0 rest)).filter (·.1.isPublic 0) =
          (group.history rest).filter (·.1.isPublic 0) ∧
        ∀ n, (group.after (withoutTentative 0 (rest.take n))).store =
          (group.after (rest.take n)).store := by
  intro group rest
  have found : ∃ channel, group.channels[0]? = some channel ∧ channel.mode = .transactional :=
    ⟨_, rfl, rfl⟩
  have unreleased : ∀ entry ∈ group.history rest, releasesAt 0 entry = false := by decide
  obtain ⟨channel, at_place, transactional⟩ := found
  exact ⟨⟨channel, at_place, transactional⟩, unreleased, by decide,
    uncommitted_invisible at_place transactional unreleased⟩

end ChannelGroup

end MessageBroker
