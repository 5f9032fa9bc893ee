import MessageBroker.Proofs.Traffic

/-!
# Channels on disjoint queues

A channel touches the queues its requests name, and later those its table, its transaction and its
consumers remember (`Channel.Within`). A request therefore neither reads nor changes any other queue
(`Channel.Within.sameServe`, `Channel.Step.queue?_of_apart`), and a script of requests and queue
operations that name only some queues goes on in the same way whatever happens to the others. When
several such scripts with disjoint queues are interleaved, each is answered as if it ran alone, and
the order in which they take their steps does not matter (`ChannelGroup.interleaved_eq_alone`).
-/

set_option autoImplicit false

namespace MessageBroker

variable {M : Type}

/-! ## Operations of the store -/

namespace Store

/-- Two stores agree on these queues. -/
def Agree (names : List QueueName) (store other : Store M) : Prop :=
  ∀ queue ∈ names, other.queue? queue = store.queue? queue

namespace Agree

variable {names : List QueueName} {store other : Store M} (agree : store.Agree names other)

include agree

theorem has {queue : QueueName} (named : queue ∈ names) : other.has queue = store.has queue := by
  rw [Store.has, Store.has, agree queue named]

theorem set (queue : QueueName) (contents : Option (List (Queued M))) :
    (store.set queue contents).Agree names (other.set queue contents) := by
  intro name named
  rw [queue?_set, queue?_set, agree name named]

theorem putBack (queue : QueueName) (messages : List M) :
    (store.putBack queue messages).Agree names (other.putBack queue messages) := by
  intro name named
  rw [queue?_putBack, queue?_putBack]
  split
  · rename_i same
    rw [← same, agree name named]
  · exact agree name named

theorem enqueue (queue : QueueName) (message : M) :
    (store.enqueue queue message).2.Agree names (other.enqueue queue message).2 := by
  intro name named
  rw [queue?_enqueue, queue?_enqueue]
  split
  · rename_i same
    rw [← same, agree name named]
  · exact agree name named

theorem enqueueAll (publishes : List (M × QueueName)) :
    (store.enqueueAll publishes).2.Agree names (other.enqueueAll publishes).2 := by
  intro name named
  rw [queue?_enqueueAll, queue?_enqueueAll, agree name named]

theorem giveBack (deliveries : List (Delivery M)) :
    (store.giveBack deliveries).Agree names (other.giveBack deliveries) := by
  intro name named
  rw [queue?_giveBack, queue?_giveBack, agree name named]

/-- A batch for these queues is counted alike. -/
theorem counts_enqueueAll {publishes : List (M × QueueName)}
    (named : ∀ publish ∈ publishes, publish.2 ∈ names) :
    (other.enqueueAll publishes).1 = (store.enqueueAll publishes).1 := by
  rw [Store.counts_enqueueAll, Store.counts_enqueueAll]
  have declared : ∀ publish ∈ publishes, other.has publish.2 = store.has publish.2 :=
    fun publish member => agree.has (named publish member)
  refine Prod.ext ?_ ?_
  · exact List.countP_congr fun publish member => by rw [declared publish member]
  · exact List.countP_congr fun publish member => by rw [declared publish member]

theorem perform {request : QueueRequest M} (named : request.target ∈ names) :
    (other.perform request).1 = (store.perform request).1 ∧
      (store.perform request).2.Agree names (other.perform request).2 := by
  rw [perform_eq, perform_eq, agree request.target named]
  exact ⟨rfl, agree.set _ _⟩

end Agree

end Store

/-! ## Requests to a channel -/

/-- The queues a request names. -/
def Request.names : Request M → List QueueName
  | publish _ target => [target]
  | get queue _ | consume queue _ _ => [queue]
  | _ => []

namespace Channel

/-- What a channel holds, defers and consumes concerns these queues only. -/
structure Within (names : List QueueName) (channel : Channel M) : Prop where
  held : ∀ entry ∈ channel.unacked.entries, entry.delivery.queue ∈ names
  deferred : ∀ publish ∈ channel.buffer.publishes, publish.2 ∈ names
  consumers : ∀ pair ∈ channel.consumers.entries, pair.2.queue ∈ names

/-- Two stores answer a request alike and agree on these queues as before. -/
inductive SameServe (names : List QueueName) (channel : Channel M) (store other : Store M)
    (request : Request M) : Prop
  | intro {reply : Reply M} {after : Channel M} {later otherLater : Store M}
      (eq : channel.serve store request = (reply, after, later))
      (other_eq : channel.serve other request = (reply, after, otherLater))
      (agree : later.Agree names otherLater)

theorem within_new (names : List QueueName) (id : String) : (new id : Channel M).Within names :=
  ⟨nofun, nofun, nofun⟩

section Within

variable {names : List QueueName} {channel after : Channel M} {store later : Store M}
  {request : Request M} {reply : Reply M} (confined : channel.Within names)
  (named : ∀ queue ∈ request.names, queue ∈ names)

include confined named

theorem Within.claim {claim : Pull} (claims : channel.pull? request = some claim) :
    claim.queue ∈ names := by
  cases request with
  | get queue noAck =>
    cases claims
    exact named queue (List.mem_singleton_self _)
  | next tag =>
    obtain ⟨consumer, found, rfl⟩ := Option.map_eq_some_iff.mp claims
    obtain ⟨before, rest, entries, _⟩ := List.lookup_eq_some_iff.mp found
    refine confined.consumers (tag, consumer) ?_
    rw [entries]
    exact List.mem_append_right _ List.mem_cons_self
  | _ => cases claims

/-- **A request changes none of the other queues.** -/
theorem Step.queue?_of_apart (step : Step channel store request reply after later)
    {queue : QueueName} (apart : queue ∉ names) : later.queue? queue = store.queue? queue := by
  have other : ∀ {name : QueueName}, name ∈ names → queue ≠ name := by
    intro name member same
    exact apart (same ▸ member)
  have taken : ∀ {claim : Pull} {contents : Option (List (Queued M))},
      channel.pull? request = some claim →
      (store.set claim.queue contents).queue? queue = store.queue? queue :=
    fun claims => if_neg (other (confined.claim named claims))
  have returned : ∀ {deliveries : List (Delivery M)},
      (∀ delivery ∈ deliveries, delivery.queue ∈ names) →
      (store.giveBack deliveries).queue? queue = store.queue? queue := by
    intro deliveries inside
    have absent : queue ∉ deliveries.map (·.queue) := by
      intro member
      obtain ⟨delivery, delivery_mem, same⟩ := List.mem_map.mp member
      exact other (inside delivery delivery_mem) same.symm
    rw [Store.queue?_giveBack, map_messagesFrom_of_absent absent]
  cases step with
  | published =>
    refine (Store.queue?_enqueue ..).trans (if_neg (other (named _ ?_)))
    exact List.mem_singleton_self _
  | consumed _ claims => exact taken claims
  | handedOut _ claims => exact taken claims
  | exhausted _ claims =>
    refine (Store.queue?_putBack ..).trans ((if_neg ?_).trans (taken claims))
    exact other (confined.claim named claims)
  | duplicated _ claims =>
    refine (Store.queue?_putBack ..).trans ((if_neg ?_).trans (taken claims))
    exact other (confined.claim named claims)
  | committed =>
    have nothing : messagesTo queue channel.buffer.publishes = [] :=
      messagesTo_eq_nil fun publish member => (other (confined.deferred publish member)).symm
    rw [Store.queue?_enqueueAll, nothing]
    cases store.queue? queue with
    | none => rfl
    | some contents => exact congrArg some (List.append_nil contents)
  | returned =>
    refine returned fun delivery member => ?_
    obtain ⟨entry, kept, rfl⟩ := List.mem_map.mp member
    exact confined.held entry (List.mem_filter.mp kept).1
  | closed =>
    refine returned fun delivery member => ?_
    obtain ⟨entry, entry_mem, rfl⟩ := List.mem_map.mp member
    exact confined.held entry entry_mem
  | _ => rfl

theorem Step.within (step : Step channel store request reply after later) :
    after.Within names := by
  obtain ⟨held, deferred, consumers⟩ := confined
  have kept : ∀ {test : UnackedDelivery M → Bool},
      ∀ entry ∈ (channel.unacked.keep test).entries, entry.delivery.queue ∈ names :=
    fun entry member => held entry (List.mem_filter.mp member).1
  have changed : ∀ {change : UnackedDelivery M → UnackedDelivery M},
      (∀ entry, (change entry).delivery.queue = entry.delivery.queue) →
      ∀ entry ∈ channel.unacked.entries.map change, entry.delivery.queue ∈ names := by
    intro change same entry member
    obtain ⟨old, old_mem, rfl⟩ := List.mem_map.mp member
    rw [same]
    exact held old old_mem
  cases step with
  | deferredPublish =>
    refine ⟨held, fun publish member => ?_, consumers⟩
    rw [TransactionBuffer.publishes_deferPublish] at member
    rcases List.mem_append.mp member with old | new
    · exact deferred publish old
    · rw [List.mem_singleton.mp new]
      exact named _ (List.mem_singleton_self _)
  | @handedOut _ claim head _ unacked _ claims _ _ _ entered =>
    refine ⟨fun entry member => ?_, deferred, consumers⟩
    simp only at member
    rw [(UnackedTable.enter_eq_ok_iff.mp entered).2] at member
    rcases UnackedTable.mem_insertEntry.mp member with rfl | old
    · exact Within.claim ⟨held, deferred, consumers⟩ named claims
    · exact held entry old
  | @registered queue tag noAck =>
    refine ⟨held, deferred, fun pair member => ?_⟩
    rcases List.mem_append.mp member with old | new
    · exact consumers pair old
    · rw [List.mem_singleton.mp new]
      exact named _ (List.mem_singleton_self _)
  | cancelled =>
    exact ⟨held, deferred, fun pair member => consumers pair (List.mem_filter.mp member).1⟩
  | acked => exact ⟨kept, deferred, consumers⟩
  | @deferredAck tag multiple =>
    refine ⟨changed fun entry => ?_, ?_, consumers⟩
    · rw [UnackedDelivery.delivery_flagBy]
    · rw [TransactionBuffer.publishes_deferAck]
      exact deferred
  | committed => exact ⟨kept, nofun, consumers⟩
  | rolledBack => exact ⟨changed fun _ => rfl, nofun, consumers⟩
  | returned => exact ⟨kept, deferred, consumers⟩
  | redelivered =>
    refine ⟨changed fun entry => ?_, deferred, consumers⟩
    unfold UnackedDelivery.handOutAgain
    split <;> rfl
  | closed => exact ⟨nofun, nofun, nofun⟩
  | _ => exact ⟨held, deferred, consumers⟩

theorem Within.samePull {other : Store M} (agree : store.Agree names other)
    (isOpen : channel.isOpen = true) {claim : Pull}
    (claims : channel.pull? request = some claim) :
    SameServe names channel store other request := by
  have found := agree claim.queue (confined.claim named claims)
  cases Channel.samePull isOpen isOpen claims claims found rfl rfl with
  | unchanged eq other_eq => exact .intro eq other_eq agree
  | returned tags eq other_eq => exact .intro eq other_eq ((agree.set _ _).putBack _ _)
  | consumed eq other_eq => exact .intro eq other_eq (agree.set _ _)
  | handedOut entered other_entered eq other_eq =>
    obtain rfl := Except.ok.inj (entered.symm.trans other_entered)
    exact .intro eq other_eq (agree.set _ _)

/-- **A request reads none of the other queues.** -/
theorem Within.sameServe {other : Store M} (agree : store.Agree names other) :
    SameServe names channel store other request := by
  by_cases isOpen : channel.isOpen = true
  case neg =>
    have closed := channel.closed_of_not_open isOpen
    exact .intro (channel.serve_of_closed store closed request)
      (channel.serve_of_closed other closed request) agree
  case pos =>
    cases request with
    | select =>
      exact .intro (channel.serve_select store isOpen) (channel.serve_select other isOpen) agree
    | publish message target =>
      by_cases transactional : channel.mode = .transactional
      · exact .intro (channel.serve_publish_of_transactional store transactional message target)
          (channel.serve_publish_of_transactional other transactional message target) agree
      · have immediate := immediate_of_isOpen isOpen transactional
        exact .intro (channel.serve_publish_of_immediate store immediate message target)
          (channel.serve_publish_of_immediate other immediate message target)
          (agree.enqueue target message)
    | get queue noAck => exact confined.samePull named agree isOpen rfl
    | consume queue tag noAck =>
      have declared := agree.has (named queue (List.mem_singleton_self _))
      obtain ⟨reply, consumers, eq, other_eq⟩ := same_consume isOpen isOpen rfl declared tag noAck
      exact .intro eq other_eq agree
    | next tag =>
      cases found : channel.consumers.find? tag with
      | none =>
        exact .intro (channel.serve_next_of_unknown store isOpen found)
          (channel.serve_next_of_unknown other isOpen found) agree
      | some consumer => exact confined.samePull named agree isOpen (pull?_next found)
    | cancel tag =>
      obtain ⟨reply, consumers, eq, other_eq⟩ := same_cancel isOpen isOpen rfl tag
      exact .intro eq other_eq agree
    | ack tag multiple =>
      -- An acknowledgement does not look at the store.
      by_cases transactional : channel.mode = .transactional
      · have eq := channel.serve_ack_of_transactional store transactional tag multiple
        have other_eq := channel.serve_ack_of_transactional other transactional tag multiple
        split at eq
        · rename_i rejected
          rw [if_pos rejected] at other_eq
          exact .intro eq other_eq agree
        · rename_i accepted
          rw [if_neg accepted] at other_eq
          exact .intro eq other_eq agree
      · have immediate := immediate_of_isOpen isOpen transactional
        have eq := channel.serve_ack_of_immediate store immediate tag multiple
        have other_eq := channel.serve_ack_of_immediate other immediate tag multiple
        split at eq
        · rename_i rejected
          rw [if_pos rejected] at other_eq
          exact .intro eq other_eq agree
        · rename_i accepted
          rw [if_neg accepted] at other_eq
          exact .intro eq other_eq agree
    | commit =>
      by_cases transactional : channel.mode = .transactional
      · have other_eq := channel.serve_commit_of_transactional other transactional
        rw [agree.counts_enqueueAll confined.deferred] at other_eq
        exact .intro (channel.serve_commit_of_transactional store transactional) other_eq
          (agree.enqueueAll _)
      · have immediate := immediate_of_isOpen isOpen transactional
        exact .intro (channel.serve_settling_of_immediate store immediate).1
          (channel.serve_settling_of_immediate other immediate).1 agree
    | rollback =>
      by_cases transactional : channel.mode = .transactional
      · exact .intro (channel.serve_rollback_of_transactional store transactional)
          (channel.serve_rollback_of_transactional other transactional) agree
      · have immediate := immediate_of_isOpen isOpen transactional
        exact .intro (channel.serve_settling_of_immediate store immediate).2
          (channel.serve_settling_of_immediate other immediate).2 agree
    | recover requeue =>
      cases requeue with
      | true =>
        exact .intro (channel.serve_returning store isOpen) (channel.serve_returning other isOpen)
          (agree.giveBack _)
      | false =>
        exact .intro (channel.serve_redelivering store isOpen)
          (channel.serve_redelivering other isOpen) agree
    | close =>
      exact .intro (channel.serve_close store isOpen) (channel.serve_close other isOpen)
        (agree.giveBack _)

end Within

end Channel

/-! ## Scripts -/

/-- A step of a script: a request to its channel, an operation on the queues, or the end of its
channel. -/
inductive Operation (M : Type) where
  | ask (request : Request M)
  | queue (request : QueueRequest M)
  | drop
  deriving DecidableEq, Repr

namespace Operation

/-- The step as an event, where the channel of its script is at this place. -/
def event (place : Nat) : Operation M → Event M
  | ask request => .request place request
  | queue request => .queue request
  | drop => .drop place

/-- The queues a step names. -/
def names : Operation M → List QueueName
  | ask request => request.names
  | queue request => [request.target]
  | drop => []

end Operation

/-- Scripts interleaved: their steps in the order in which they are taken, each with the place of
the channel its script works on. -/
abbrev Interleaving (M : Type) := List (Nat × Operation M)

namespace Interleaving

/-- The script for the channel at a place. -/
def script (run : Interleaving M) (place : Nat) : List (Operation M) :=
  (run.filter (·.1 = place)).map (·.2)

/-- The queues that script names. -/
def names (run : Interleaving M) (place : Nat) : List QueueName :=
  (run.script place).flatMap Operation.names

/-- That script by itself, for the only channel there is. -/
def alone (run : Interleaving M) (place : Nat) : Interleaving M := (run.script place).map (0, ·)

def events (run : Interleaving M) : List (Event M) := run.map fun step => step.2.event step.1

theorem mem_script {run : Interleaving M} {place : Nat} {operation : Operation M} :
    operation ∈ run.script place ↔ (place, operation) ∈ run := by
  simp [script]

theorem mem_names {run : Interleaving M} {place : Nat} {queue : QueueName} :
    queue ∈ run.names place ↔
      ∃ operation, (place, operation) ∈ run ∧ queue ∈ operation.names := by
  simp only [names, List.mem_flatMap, mem_script]

theorem named_of_mem {run : Interleaving M} {step : Nat × Operation M} (member : step ∈ run) :
    ∀ queue ∈ step.2.names, queue ∈ run.names step.1 :=
  fun _ named => mem_names.mpr ⟨step.2, member, named⟩

/-- Steps of different scripts name different queues, and so do the scripts. -/
theorem names_apart {run : Interleaving M}
    (apart : ∀ first ∈ run, ∀ second ∈ run, first.1 ≠ second.1 →
      ∀ queue ∈ first.2.names, queue ∉ second.2.names)
    {place other : Nat} (different : other ≠ place) :
    ∀ queue ∈ run.names place, queue ∉ run.names other := by
  intro queue mine theirs
  obtain ⟨first, first_mem, first_names⟩ := mem_names.mp mine
  obtain ⟨second, second_mem, second_names⟩ := mem_names.mp theirs
  exact apart _ first_mem _ second_mem different.symm queue first_names second_names

theorem alone_cons_self (place : Nat) (operation : Operation M) (rest : Interleaving M) :
    alone ((place, operation) :: rest) place = (0, operation) :: alone rest place := by
  simp [alone, script]

theorem alone_cons_of_ne {place other : Nat} (apart : other ≠ place) (operation : Operation M)
    (rest : Interleaving M) : alone ((other, operation) :: rest) place = alone rest place := by
  simp [alone, script, apart]

end Interleaving

namespace ChannelGroup

/-- The answers to the steps of one script, in order. -/
def answersTo (group : ChannelGroup M) (place : Nat) : Interleaving M → List (Answer M)
  | [] => []
  | step :: rest =>
    let served := group.perform (step.2.event step.1)
    if step.1 = place then served.1 :: served.2.answersTo place rest
    else served.2.answersTo place rest

theorem answersTo_cons_self (group : ChannelGroup M) (place : Nat) (operation : Operation M)
    (rest : Interleaving M) :
    group.answersTo place ((place, operation) :: rest) =
      (group.perform (operation.event place)).1 ::
        (group.perform (operation.event place)).2.answersTo place rest := if_pos rfl

theorem answersTo_cons_of_ne (group : ChannelGroup M) {place other : Nat} (apart : other ≠ place)
    (operation : Operation M) (rest : Interleaving M) :
    group.answersTo place ((other, operation) :: rest) =
      (group.perform (operation.event other)).2.answersTo place rest := if_neg apart

/-- The channel at each place keeps to the queues of that place. -/
def Confined (names : Nat → List QueueName) (group : ChannelGroup M) : Prop :=
  ∀ place (channel : Channel M), group.channels[place]? = some channel →
    channel.Within (names place)

/-- The channel at a place of one group is the first of another one, and the stores agree on its
queues. -/
structure Beside (names : List QueueName) (place : Nat) (group single : ChannelGroup M) : Prop where
  channel : single.channels[0]? = group.channels[place]?
  agree : group.store.Agree names single.store

/-- A request on both sides. -/
theorem Beside.serveAt {names : List QueueName} {place : Nat} {group single : ChannelGroup M}
    {channel : Channel M} {request : Request M}
    (found : group.channels[place]? = some channel)
    (single_found : single.channels[0]? = some channel)
    (same : channel.SameServe names group.store single.store request) :
    (single.serveAt 0 channel request).1 = (group.serveAt place channel request).1 ∧
      (group.serveAt place channel request).2.Beside names place
        (single.serveAt 0 channel request).2 := by
  obtain ⟨eq, single_eq, agree⟩ := same
  obtain ⟨bound, _⟩ := List.getElem?_eq_some_iff.mp found
  obtain ⟨single_bound, _⟩ := List.getElem?_eq_some_iff.mp single_found
  refine ⟨?answer, ?channel, ?agree⟩
  case answer => rw [ChannelGroup.serveAt, ChannelGroup.serveAt, eq, single_eq]
  case channel =>
    rw [channels_serveAt, channels_serveAt, List.getElem?_set_self bound,
      List.getElem?_set_self single_bound, eq, single_eq]
  case agree =>
    rw [store_serveAt, store_serveAt, eq, single_eq]
    exact agree

section Asked

variable {names : Nat → List QueueName} {group : ChannelGroup M} {place : Nat} {event : Event M}
  {request : Request M} (confined : group.Confined names)
  (asked : event.requestTo? place = some request)
  (named : ∀ queue ∈ request.names, queue ∈ names place)

include confined asked named

theorem queue?_perform_of_asked {queue : QueueName} (apart : queue ∉ names place) :
    (group.perform event).2.store.queue? queue = group.store.queue? queue := by
  cases found : group.channels[place]? with
  | none => rw [perform_of_missing found asked]
  | some channel =>
    rw [perform_of_requestTo? found asked, store_serveAt]
    have step := channel.step_serve group.store request
    exact step.queue?_of_apart (confined place channel found) named apart

theorem confined_of_asked : (group.perform event).2.Confined names := by
  intro other channel now
  cases found : group.channels[place]? with
  | none =>
    rw [perform_of_missing found asked] at now
    exact confined other channel now
  | some before =>
    rw [perform_of_requestTo? found asked, channels_serveAt] at now
    by_cases same : place = other
    · subst same
      have step := before.step_serve group.store request
      rw [eq_of_getElem?_set now]
      exact step.within (confined place before found) named
    · rw [List.getElem?_set_ne same] at now
      exact confined other channel now

end Asked

section Steps

variable {names : Nat → List QueueName} {group : ChannelGroup M} {place : Nat}
  {operation : Operation M}

theorem channels_perform_of_ne {other : Nat} (apart : other ≠ place) :
    (group.perform (operation.event other)).2.channels[place]? = group.channels[place]? := by
  have elsewhere : ∀ {event : Event M} {request : Request M},
      event.requestTo? other = some request →
      (group.perform event).2.channels[place]? = group.channels[place]? := by
    intro event request asked
    cases found : group.channels[other]? with
    | none => rw [perform_of_missing found asked]
    | some channel =>
      rw [perform_of_requestTo? found asked, channels_serveAt, List.getElem?_set_ne apart]
  cases operation with
  | ask request => exact elsewhere (Event.requestTo?_request other request)
  | queue request => rfl
  | drop => exact elsewhere (Event.requestTo?_drop other)

section Named

variable (confined : group.Confined names) (named : ∀ queue ∈ operation.names, queue ∈ names place)

include confined named

/-- **A step of a script changes no queue of another one.** -/
theorem queue?_perform_of_apart {queue : QueueName} (apart : queue ∉ names place) :
    (group.perform (operation.event place)).2.store.queue? queue = group.store.queue? queue := by
  cases operation with
  | ask request =>
    exact queue?_perform_of_asked confined (Event.requestTo?_request place request) named apart
  | queue request =>
    refine group.store.queue?_perform_of_ne request fun same => apart ?_
    rw [same]
    exact named _ (List.mem_singleton_self _)
  | drop => exact queue?_perform_of_asked confined (Event.requestTo?_drop place) named apart

theorem confined_perform : (group.perform (operation.event place)).2.Confined names := by
  cases operation with
  | ask request => exact confined_of_asked confined (Event.requestTo?_request place request) named
  | queue request => exact confined
  | drop => exact confined_of_asked confined (Event.requestTo?_drop place) named

/-- **A step of a script goes as it does alone.** -/
theorem Beside.own {single : ChannelGroup M} (beside : group.Beside (names place) place single) :
    (single.perform (operation.event 0)).1 = (group.perform (operation.event place)).1 ∧
      (group.perform (operation.event place)).2.Beside (names place) place
        (single.perform (operation.event 0)).2 := by
  obtain ⟨same, agree⟩ := beside
  cases operation with
  | queue request =>
    obtain ⟨answer, later⟩ := agree.perform (named _ (List.mem_singleton_self _))
    exact ⟨answer, same, later⟩
  | ask request =>
    cases found : group.channels[place]? with
    | none =>
      rw [found] at same
      rw [Operation.event, Operation.event, group.perform_request_of_none found,
        single.perform_request_of_none same]
      exact ⟨rfl, same.trans found.symm, agree⟩
    | some channel =>
      rw [found] at same
      obtain ⟨reply, later⟩ :=
        Beside.serveAt found same ((confined place channel found).sameServe named agree)
      rw [Operation.event, Operation.event, group.perform_request_of_some found,
        single.perform_request_of_some same]
      exact ⟨congrArg Answer.replied reply, later⟩
  | drop =>
    cases found : group.channels[place]? with
    | none =>
      rw [found] at same
      rw [Operation.event, Operation.event, group.perform_drop_of_none found,
        single.perform_drop_of_none same]
      exact ⟨rfl, same.trans found.symm, agree⟩
    | some channel =>
      rw [found] at same
      have closing : ∀ queue ∈ (Request.close : Request M).names, queue ∈ names place := named
      have closes := (confined place channel found).sameServe closing agree
      have later := (Beside.serveAt found same closes).2
      rw [Operation.event, Operation.event, group.perform_drop_of_some found,
        single.perform_drop_of_some same]
      exact ⟨rfl, later⟩

end Named

end Steps

section Runs

variable {names : Nat → List QueueName} {group : ChannelGroup M} {run : Interleaving M}
  (confined : group.Confined names)
  (named : ∀ step ∈ run, ∀ queue ∈ step.2.names, queue ∈ names step.1)

include confined named

/-- A queue of no script is left alone. -/
theorem queue?_after_of_apart {queue : QueueName} (apart : ∀ place, queue ∉ names place) :
    (group.after run.events).store.queue? queue = group.store.queue? queue := by
  induction run generalizing group with
  | nil => rfl
  | cons step rest ih =>
    obtain ⟨place, operation⟩ := step
    have own := named (place, operation) List.mem_cons_self
    have later := ih (confined_perform confined own)
      fun step member => named step (List.mem_cons_of_mem _ member)
    exact later.trans (queue?_perform_of_apart confined own (apart place))

/-- **A script goes as it does alone**, whatever scripts with other queues do between its steps. -/
theorem Beside.interleaved {place : Nat} {single : ChannelGroup M}
    (apart : ∀ other, other ≠ place → ∀ queue ∈ names place, queue ∉ names other)
    (beside : group.Beside (names place) place single) :
    group.answersTo place run = single.answersTo 0 (run.alone place) ∧
      (group.after run.events).Beside (names place) place
        (single.after (run.alone place).events) := by
  induction run generalizing group single with
  | nil => exact ⟨rfl, beside⟩
  | cons step rest ih =>
    obtain ⟨other, operation⟩ := step
    have own := named (other, operation) List.mem_cons_self
    have later_confined := confined_perform confined own
    have later_named : ∀ step ∈ rest, ∀ queue ∈ step.2.names, queue ∈ names step.1 :=
      fun step member => named step (List.mem_cons_of_mem _ member)
    by_cases mine : other = place
    · subst mine
      obtain ⟨answer, beside⟩ := beside.own confined own
      obtain ⟨answers, beside⟩ := ih later_confined later_named beside
      rw [Interleaving.alone_cons_self, answersTo_cons_self, answersTo_cons_self, answer, answers]
      exact ⟨rfl, beside⟩
    · -- The step of another script leaves the channel and its queues as they are.
      obtain ⟨channel, agree⟩ := beside
      have still : (group.perform (operation.event other)).2.Beside (names place) place single := by
        refine ⟨channel.trans (channels_perform_of_ne mine).symm, fun queue member => ?_⟩
        rw [agree queue member,
          queue?_perform_of_apart confined own (apart other mine queue member)]
      obtain ⟨answers, beside⟩ := ih later_confined later_named still
      rw [Interleaving.alone_cons_of_ne mine, answersTo_cons_of_ne group mine]
      exact ⟨answers, beside⟩

end Runs

/-- The channel at a place with the store, as if there were no other channel. -/
def only (group : ChannelGroup M) (place : Nat) : ChannelGroup M :=
  ⟨group.store, group.channels[place]?.toList⟩

theorem beside_only (group : ChannelGroup M) (place : Nat) (names : List QueueName) :
    group.Beside names place (group.only place) := by
  refine ⟨?_, fun queue member => rfl⟩
  rw [only]
  cases group.channels[place]? <;> rfl

/-- **Channels on disjoint queues do not interfere.** Some scripts are interleaved in any way, each
of requests to a new channel of its own and of operations on the queues, and no two of them name the
same queue. Then every script is answered as it is alone on the same store, and its channel and the
queues it names end as they do alone; a queue that no script names stays as it is. So all ways to
interleave the scripts end in the same store and the same channels. -/
theorem interleaved_eq_alone (store : Store M) (ids : List String) {run : Interleaving M}
    (apart : ∀ first ∈ run, ∀ second ∈ run, first.1 ≠ second.1 →
      ∀ queue ∈ first.2.names, queue ∉ second.2.names) :
    let start : ChannelGroup M := ⟨store, ids.map .new⟩
    let final := start.after run.events
    (∀ place id, ids[place]? = some id →
        let single : ChannelGroup M := ⟨store, [.new id]⟩
        let own := single.after (run.alone place).events
        start.answersTo place run = single.answersTo 0 (run.alone place) ∧
          final.channels[place]? = own.channels[0]? ∧
          ∀ queue ∈ run.names place, final.store.queue? queue = own.store.queue? queue) ∧
      (∀ queue, (∀ place, queue ∉ run.names place) →
        final.store.queue? queue = store.queue? queue) ∧
      ∀ other : Interleaving M, (∀ place, other.script place = run.script place) →
        start.after other.events = final := by
  intro start final
  have confined : start.Confined run.names := by
    intro place channel found
    obtain ⟨id, _, rfl⟩ := List.mem_map.mp (List.mem_of_getElem? found)
    exact Channel.within_new (run.names place) id
  have named : ∀ step ∈ run, ∀ queue ∈ step.2.names, queue ∈ run.names step.1 :=
    fun step => Interleaving.named_of_mem
  have others : ∀ place other, other ≠ place → ∀ queue ∈ run.names place,
      queue ∉ run.names other := fun place other => Interleaving.names_apart apart
  have beside : ∀ place, start.answersTo place run =
        (start.only place).answersTo 0 (run.alone place) ∧
      final.Beside (run.names place) place
        ((start.only place).after (run.alone place).events) :=
    fun place => Beside.interleaved confined named (others place) (start.beside_only place _)
  have untouched : ∀ queue, (∀ place, queue ∉ run.names place) →
      final.store.queue? queue = store.queue? queue :=
    fun queue free => queue?_after_of_apart confined named free
  refine ⟨?alone, untouched, ?order⟩
  case alone =>
    intro place id found single own
    have only_eq : start.only place = single := by
      rw [only, List.getElem?_map, found]
      rfl
    obtain ⟨answers, channel, agree⟩ := beside place
    rw [only_eq] at answers channel agree
    exact ⟨answers, channel.symm, fun queue member => (agree queue member).symm⟩
  case order =>
    intro other same
    have same_names : other.names = run.names := by
      funext place
      rw [Interleaving.names, Interleaving.names, same]
    have other_named : ∀ step ∈ other, ∀ queue ∈ step.2.names, queue ∈ run.names step.1 :=
      fun step member => same_names ▸ Interleaving.named_of_mem member
    have other_beside : ∀ place, (start.after other.events).Beside (run.names place) place
        ((start.only place).after (run.alone place).events) := by
      intro place
      have ends := (Beside.interleaved confined other_named (others place)
        (start.beside_only place _)).2
      rwa [Interleaving.alone, same] at ends
    refine ChannelGroup.ext (Store.ext (funext fun queue => ?_)) (List.ext_getElem? fun place => ?_)
    · by_cases mentioned : ∃ place, queue ∈ run.names place
      · obtain ⟨place, member⟩ := mentioned
        rw [← (other_beside place).agree queue member, (beside place).2.agree queue member]
      · have free : ∀ place, queue ∉ run.names place :=
          fun place member => mentioned ⟨place, member⟩
        rw [queue?_after_of_apart confined other_named free, untouched queue free]
    · rw [← (other_beside place).channel, (beside place).2.channel]

/-- Two scripts taking turns: one with a transaction, a consumer and a delivery that its end
returns, one that purges and deletes a queue of its own between its requests. -/
theorem interleaved_eq_alone_of_two_scripts :
    let store : Store Nat := (Store.empty.declare "q").2
    let run : Interleaving Nat :=
      [(0, .ask .select), (1, .queue (.declare "x")), (0, .ask (.publish 10 "q")),
        (1, .ask (.publish 20 "x")), (0, .queue (.enqueue "q" 30)), (1, .ask (.get "x" false)),
        (0, .ask (.consume "q" (.named "c") false)), (1, .queue (.purge "x")),
        (0, .ask (.next (.named "c"))), (1, .ask (.recover true)), (0, .ask .commit),
        (1, .queue (.count "x")), (0, .drop), (1, .queue (.delete "x")), (0, .queue (.count "q"))]
    let inTurn : Interleaving Nat := run.filter (·.1 = 1) ++ run.filter (·.1 = 0)
    let start : ChannelGroup Nat := ⟨store, ["A", "B"].map .new⟩
    let final := start.after run.events
    (∀ first ∈ run, ∀ second ∈ run, first.1 ≠ second.1 →
        ∀ queue ∈ first.2.names, queue ∉ second.2.names) ∧
      start.answersTo 0 run =
        (⟨store, [.new "A"]⟩ : ChannelGroup Nat).answersTo 0 (run.alone 0) ∧
      final.store.queue? "q" = some [⟨30, true⟩, ⟨10, false⟩] ∧ final.store.queue? "x" = none ∧
      start.after inTurn.events = final := by
  intro store run inTurn start final
  have apart : ∀ first ∈ run, ∀ second ∈ run, first.1 ≠ second.1 →
      ∀ queue ∈ first.2.names, queue ∉ second.2.names := by decide
  have same : ∀ place, inTurn.script place = run.script place := by
    intro place
    match place with
    | 0 => rfl
    | 1 => rfl
    | n + 2 => rfl
  obtain ⟨alone, _, order⟩ := interleaved_eq_alone store ["A", "B"] apart
  exact ⟨apart, (alone 0 "A" rfl).1, by decide, by decide, order inTurn same⟩

end ChannelGroup

end MessageBroker
