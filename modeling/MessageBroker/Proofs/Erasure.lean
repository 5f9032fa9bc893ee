import MessageBroker.Proofs.Group

/-!
# Runs with requests erased

Two runs of a group, one of which leaves some requests out. An `Erasure` says which requests are
left out, which channels of the two runs correspond and which answers are compared, together with
the two facts about single requests that make the runs correspond: one that is left out touches
neither the store nor the correspondence (`skip`), and one that stays does the same to both stores
and keeps the correspondence (`keep`). From these, a run and the run without the erased requests
reach corresponding groups (`Erasure.Matched.after`) and give the compared events the same answers
(`Erasure.Matched.history`).
-/

set_option autoImplicit false

namespace MessageBroker

variable {M : Type}

/-- Requests that can be left out of a run, by the place of the channel they go to. -/
structure Erasure (M : Type) where
  /-- So many channels at least are open from the start. -/
  present : Nat
  /-- The requests left out, -/
  erased : Nat → Request M → Bool
  /-- those whose answers are compared, -/
  observed : Nat → Request M → Bool
  /-- the answers that may occur in the full run, -/
  allowed : Nat → Request M → Reply M → Prop
  /-- and how a channel of the full run corresponds to that of the other one. -/
  Related : Nat → Channel M → Channel M → Prop
  hidden : ∀ place request, erased place request = true → observed place request = false
  opened : ∀ place id, present ≤ place → Related place (.new id) (.new id)
  skip : ∀ {place channel twin}, Related place channel twin →
    ∀ store request, erased place request = true →
      (channel.serve store request).2.2 = store ∧
        Related place (channel.serve store request).2.1 twin
  keep : ∀ {place channel twin}, Related place channel twin →
    ∀ store request, erased place request = false →
      allowed place request (channel.serve store request).1 →
        (twin.serve store request).2.2 = (channel.serve store request).2.2 ∧
          Related place (channel.serve store request).2.1 (twin.serve store request).2.1 ∧
          (observed place request = true →
            (twin.serve store request).1 = (channel.serve store request).1)
  /-- A channel can be let go at any time. -/
  closing : ∀ place, erased place .close = false ∧
    ∀ (channel : Channel M) store, allowed place .close (channel.serve store .close).1

namespace Erasure

variable (erasure : Erasure M)

/-- True of the events that stay in the run. -/
def keeps : Event M → Bool
  | .request place request => !erasure.erased place request
  | _ => true

/-- True of the events whose answers are compared. -/
def observes : Event M → Bool
  | .request place request => erasure.observed place request
  | _ => true

/-- Every answer in a history is one that may occur. -/
def Allows (history : List (Event M × Answer M)) : Prop :=
  ∀ place request reply, (.request place request, .replied reply) ∈ history →
    erasure.allowed place request reply

/-- Groups with the same store whose channels correspond place by place. -/
structure Matched (group other : ChannelGroup M) : Prop where
  store : other.store = group.store
  present : erasure.present ≤ group.channels.length
  size : other.channels.length = group.channels.length
  related : ∀ place channel twin, group.channels[place]? = some channel →
    other.channels[place]? = some twin → erasure.Related place channel twin

variable {erasure} {group other : ChannelGroup M}

theorem observes_of_not_keeps {event : Event M} (left_out : erasure.keeps event = false) :
    erasure.observes event = false := by
  cases event with
  | request place request => exact erasure.hidden place request (by simpa [keeps] using left_out)
  | _ => cases left_out

theorem Allows.tail {entry : Event M × Answer M} {history : List (Event M × Answer M)}
    (allows : erasure.Allows (entry :: history)) : erasure.Allows history :=
  fun place request reply member => allows place request reply (List.mem_cons_of_mem _ member)

theorem Allows.head {event : Event M} {rest : List (Event M)}
    (allows : erasure.Allows (group.history (event :: rest))) (place : Nat) (request : Request M)
    (reply : Reply M) (asked : event = .request place request)
    (answered : (group.perform event).1 = .replied reply) :
    erasure.allowed place request reply := by
  refine allows place request reply ?_
  rw [ChannelGroup.history_cons, ← asked, ← answered]
  exact List.mem_cons_self

namespace Matched

theorem twin (matched : erasure.Matched group other) {place : Nat} {channel : Channel M}
    (found : group.channels[place]? = some channel) :
    ∃ twin, other.channels[place]? = some twin ∧ erasure.Related place channel twin := by
  obtain ⟨bound, _⟩ := List.getElem?_eq_some_iff.mp found
  have other_bound : place < other.channels.length := by rwa [matched.size]
  have other_found := List.getElem?_eq_getElem other_bound
  exact ⟨_, other_found, matched.related place channel _ found other_found⟩

theorem missing (matched : erasure.Matched group other) {place : Nat}
    (missing : group.channels[place]? = none) : other.channels[place]? = none := by
  rw [List.getElem?_eq_none_iff] at missing ⊢
  rwa [matched.size]

/-- Both groups after a request to corresponding channels. -/
theorem set (matched : erasure.Matched group other) {place : Nat} {channel twin : Channel M}
    (related : erasure.Related place channel twin) (store : Store M) :
    erasure.Matched ⟨store, group.channels.set place channel⟩
      ⟨store, other.channels.set place twin⟩ where
  store := rfl
  present := by simpa using matched.present
  size := by simp [matched.size]
  related at_place first second first_found second_found := by
    by_cases same : place = at_place
    · subst at_place
      rw [eq_of_getElem?_set first_found, eq_of_getElem?_set second_found]
      exact related
    · simp only at first_found second_found
      rw [List.getElem?_set_ne same] at first_found second_found
      exact matched.related at_place first second first_found second_found

/-- A request that is left out. -/
theorem skip (matched : erasure.Matched group other) {event : Event M}
    (left_out : erasure.keeps event = false) :
    erasure.Matched (group.perform event).2 other := by
  cases event with
  | request place request =>
    have erased : erasure.erased place request = true := by simpa [keeps] using left_out
    cases found : group.channels[place]? with
    | none =>
      rw [group.perform_request_of_none found]
      exact matched
    | some channel =>
      obtain ⟨twin, other_found, related⟩ := matched.twin found
      obtain ⟨same_store, still⟩ := erasure.skip related group.store request erased
      rw [group.perform_request_of_some found, same_store]
      -- In the other group the channel is replaced by itself.
      have changed := matched.set still group.store
      rw [set_eq_self other_found, ← matched.store] at changed
      rw [← matched.store]
      exact changed
  | _ => cases left_out

/-- An event that stays. -/
theorem keep (matched : erasure.Matched group other) {event : Event M}
    (stays : erasure.keeps event = true)
    (allowed : ∀ place request reply, event = .request place request →
      (group.perform event).1 = .replied reply → erasure.allowed place request reply) :
    erasure.Matched (group.perform event).2 (other.perform event).2 ∧
      (erasure.observes event = true → (other.perform event).1 = (group.perform event).1) := by
  cases event with
  | queue request =>
    refine ⟨⟨?_, matched.present, matched.size, matched.related⟩, fun _ => ?_⟩
    · simp only [ChannelGroup.perform, matched.store]
    · simp only [ChannelGroup.perform, matched.store]
  | opening id =>
    refine ⟨⟨matched.store, ?_, ?_, ?_⟩, fun _ => ?_⟩
    · simpa [ChannelGroup.perform] using Nat.le_succ_of_le matched.present
    · simp [ChannelGroup.perform, matched.size]
    · intro place first second first_found second_found
      simp only [ChannelGroup.perform, List.getElem?_append, matched.size]
        at first_found second_found
      split at first_found
      · rename_i old
        rw [if_pos old] at second_found
        exact matched.related place first second first_found second_found
      · rename_i new
        rw [if_neg new] at second_found
        obtain rfl := List.mem_singleton.mp (List.mem_of_getElem? first_found)
        obtain rfl := List.mem_singleton.mp (List.mem_of_getElem? second_found)
        exact erasure.opened place id (Nat.le_trans matched.present (Nat.le_of_not_lt new))
    · simp only [ChannelGroup.perform, matched.size]
  | request place request =>
    have kept : erasure.erased place request = false := by simpa [keeps] using stays
    cases found : group.channels[place]? with
    | none =>
      rw [group.perform_request_of_none found,
        other.perform_request_of_none (matched.missing found)]
      exact ⟨matched, fun _ => rfl⟩
    | some channel =>
      obtain ⟨twin, other_found, related⟩ := matched.twin found
      rw [group.perform_request_of_some found] at allowed ⊢
      rw [other.perform_request_of_some other_found, matched.store]
      obtain ⟨same_store, still, reply⟩ :=
        erasure.keep related group.store request kept (allowed place request _ rfl rfl)
      rw [same_store]
      exact ⟨matched.set still _, fun observed => congrArg Answer.replied (reply observed)⟩
  | drop place =>
    cases found : group.channels[place]? with
    | none =>
      rw [group.perform_drop_of_none found, other.perform_drop_of_none (matched.missing found)]
      exact ⟨matched, fun _ => rfl⟩
    | some channel =>
      obtain ⟨twin, other_found, related⟩ := matched.twin found
      rw [group.perform_drop_of_some found, other.perform_drop_of_some other_found, matched.store]
      obtain ⟨same_store, still, _⟩ := erasure.keep related group.store .close
        (erasure.closing place).1 ((erasure.closing place).2 _ _)
      rw [same_store]
      exact ⟨matched.set still _, fun _ => rfl⟩

/-- **A run with requests left out** ends in a corresponding group. -/
theorem after (matched : erasure.Matched group other) {events : List (Event M)}
    (allows : erasure.Allows (group.history events)) :
    erasure.Matched (group.after events) (other.after (events.filter erasure.keeps)) := by
  induction events generalizing group other with
  | nil => exact matched
  | cons event rest ih =>
    have allows_rest : erasure.Allows ((group.perform event).2.history rest) := allows.tail
    cases stays : erasure.keeps event with
    | false =>
      rw [List.filter_cons_of_neg (by simp [stays])]
      exact ih (matched.skip stays) allows_rest
    | true =>
      rw [List.filter_cons_of_pos stays]
      exact ih (matched.keep stays allows.head).1 allows_rest

/-- It gives the compared events the answers of the full run. -/
theorem history (matched : erasure.Matched group other) {events : List (Event M)}
    (allows : erasure.Allows (group.history events)) :
    (other.history (events.filter erasure.keeps)).filter (erasure.observes ·.1) =
      (group.history events).filter (erasure.observes ·.1) := by
  induction events generalizing group other with
  | nil => rfl
  | cons event rest ih =>
    have allows_rest : erasure.Allows ((group.perform event).2.history rest) := allows.tail
    rw [ChannelGroup.history_cons]
    cases stays : erasure.keeps event with
    | false =>
      have unobserved : ¬ erasure.observes event = true := by
        rw [observes_of_not_keeps stays]
        exact Bool.false_ne_true
      -- An erased event is not compared, so its answer drops out on the left as well.
      rw [List.filter_cons_of_neg (by simp [stays]), List.filter_cons, if_neg unobserved]
      exact ih (matched.skip stays) allows_rest
    | true =>
      obtain ⟨still, answer⟩ := matched.keep stays allows.head
      rw [List.filter_cons_of_pos stays, ChannelGroup.history_cons, List.filter_cons,
        List.filter_cons, ih still allows_rest]
      split
      · rename_i observed
        rw [answer observed]
      · rfl

end Matched

end Erasure

end MessageBroker
