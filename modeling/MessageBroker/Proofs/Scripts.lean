import MessageBroker.Proofs.Group

/-!
# Scripts of the broker

A broker adds names, handles and tasks to a group of channels. A host passes requests on to its
channel while it listens (`Host.serve_of_listens`), and a command amounts to some events of the
group, none where it asks for nothing or reaches no channel (`Broker.eventsOf`). So the store and
the channels after a script are those of the group after the events of the script
(`Broker.group_run`).
-/

set_option autoImplicit false

namespace MessageBroker

variable {M : Type}

/-! ## Hosts -/

namespace Host

/-- True while requests to the host reach its channel. -/
def listens : Host M → Bool
  | direct _ => true
  | driven task => task.running

variable {host : Host M}

theorem serve_of_listens (listens : host.listens = true) (store : Store M) (request : Request M) :
    (host.serve store request).1 = (host.channel.serve store request).1 ∧
      (host.serve store request).2.1.channel = (host.channel.serve store request).2.1 ∧
      (host.serve store request).2.2 = (host.channel.serve store request).2.2 := by
  cases host with
  | direct channel => exact ⟨rfl, rfl, rfl⟩
  | driven task =>
    rw [Host.listens] at listens
    simp [serve, ChannelTask.serve, listens, channel]

/-- A task that has ended answers without its channel. -/
theorem serve_of_deaf (deaf : host.listens = false) (store : Store M) (request : Request M) :
    host.serve store request = (.failed .channelUnavailable, host, store) := by
  cases host with
  | direct channel => cases deaf
  | driven task =>
    rw [listens] at deaf
    simp [serve, ChannelTask.serve, deaf]

theorem release_of_listens (listens : host.listens = true) (store : Store M) :
    (host.release store).1.channel = (host.channel.close store).2.1 ∧
      (host.release store).2 = (host.channel.close store).2.2 := by
  cases host with
  | direct channel => exact ⟨rfl, rfl⟩
  | driven task =>
    rw [Host.listens] at listens
    simp [release, ChannelTask.stop, listens, channel]

theorem release_of_deaf (deaf : host.listens = false) (store : Store M) :
    host.release store = (host, store) := by
  cases host with
  | direct channel => cases deaf
  | driven task =>
    rw [listens] at deaf
    simp [release, ChannelTask.stop, deaf]

end Host

/-! ## Commands -/

/-- The operation of the store that a command asks for. -/
def Command.queueRequest? : Command M → Option (QueueRequest M)
  | declare queue => some (.declare queue)
  | delete queue => some (.delete queue)
  | purge queue => some (.purge queue)
  | count queue => some (.count queue)
  | has queue => some (.has queue)
  | enqueue queue message => some (.enqueue queue message)
  | dequeue queue => some (.dequeue queue)
  | putBack queue messages => some (.putBack queue messages)
  | _ => none

namespace Broker

variable (broker : Broker M)

/-- A live handle has a place among the handles, and its channel one among the hosts. -/
theorem find?_eq_some_iff {broker : Broker M} {handle position : Nat} {host : Host M} :
    broker.find? handle = some (position, host) ↔
      ∃ n, handle = n + 1 ∧ broker.handles[n]? = some (some position) ∧
        broker.hosts[position]? = some host := by
  cases handle with
  | zero => simp [find?]
  | succ n =>
    simp only [find?, Option.bind_eq_bind, Option.bind_eq_some_iff, Option.pure_def,
      Option.some.injEq, Prod.mk.injEq, Nat.add_right_cancel_iff]
    constructor
    · rintro ⟨_, given, _, rfl, _, at_position, rfl, rfl⟩
      exact ⟨n, rfl, given, at_position⟩
    · rintro ⟨_, rfl, given, at_position⟩
      exact ⟨_, given, _, rfl, _, at_position, rfl, rfl⟩

theorem host_of_find? {broker : Broker M} {handle position : Nat} {host : Host M}
    (found : broker.find? handle = some (position, host)) :
    broker.hosts[position]? = some host := by
  obtain ⟨_, _, _, at_position⟩ := find?_eq_some_iff.mp found
  exact at_position

/-- True if another handle leads to the channel at a position. -/
def holdsBeside (handle position : Nat) : Bool :=
  (broker.handles.set (handle - 1) none).contains (some position)

section Drop

variable {broker} {handle position : Nat} {host : Host M}
  (found : broker.find? handle = some (position, host))

include found

theorem drop_of_beside (beside : broker.holdsBeside handle position = true) :
    broker.drop handle =
      (.done, { broker with handles := broker.handles.set (handle - 1) none }) := by
  rw [holdsBeside] at beside
  simp only [drop, found, beside, if_true]

/-- The last handle lets the channel go. -/
theorem drop_of_last (last : broker.holdsBeside handle position = false) :
    broker.drop handle =
      (.done,
        { broker with
          store := (host.release broker.store).2
          hosts := broker.hosts.set position (host.release broker.store).1
          handles := broker.handles.set (handle - 1) none }) := by
  rw [holdsBeside] at last
  simp only [drop, found, last, Bool.false_eq_true, if_false]

end Drop

theorem perform_of_queueRequest? {command : Command M} {request : QueueRequest M}
    (asked : command.queueRequest? = some request) :
    broker.perform command =
      ((broker.store.perform request).1,
        { broker with store := (broker.store.perform request).2 }) := by
  cases command with
  | dequeue queue =>
    obtain rfl : QueueRequest.dequeue queue = request := Option.some.inj asked
    rw [perform, Store.perform]
    cases broker.store.dequeue queue <;> rfl
  | declare | delete | purge | count | has | enqueue | putBack =>
    obtain rfl := Option.some.inj asked
    rfl
  | _ => cases asked

theorem run_cons (command : Command M) (rest : List (Command M)) :
    broker.run (command :: rest) =
      ((broker.perform command).1 :: ((broker.perform command).2.run rest).1,
        ((broker.perform command).2.run rest).2) := rfl

/-! ## Events of a script -/

/-- What a request to a host amounts to in the group. -/
def eventsAt (position : Nat) (host : Host M) (request : Request M) : List (Event M) :=
  if host.listens then [.request position (request.withSerial (broker.generated + 1))] else []

/-- What requests sent together amount to. -/
def eventsAllAt (broker : Broker M) (position : Nat) (host : Host M) :
    List (Request M) → List (Event M)
  | [] => []
  | request :: rest =>
    broker.eventsAt position host request ++
      (broker.serveAt position host request).2.2.eventsAllAt position
        (broker.serveAt position host request).2.1 rest

/-- What a command amounts to. -/
def eventsOf : Command M → List (Event M)
  | .openChannel id _ =>
    [.opening (id.getD (broker.idPrefix ++ "-" ++
      toString (if id.isSome then broker.named else broker.named + 1)))]
  | .drop handle =>
    match broker.find? handle with
    | none => []
    | some (position, host) =>
      if broker.holdsBeside handle position then []
      else if host.listens then [.drop position] else []
  | .request handle request =>
    match broker.find? handle with
    | none => []
    | some (position, host) => broker.eventsAt position host request
  | .requests handle requests =>
    match broker.find? handle with
    | some (position, .driven task) => broker.eventsAllAt position (.driven task) requests
    | _ => []
  | command => command.queueRequest?.toList.map .queue

/-- What a script amounts to. -/
def events (broker : Broker M) : List (Command M) → List (Event M)
  | [] => []
  | command :: rest => broker.eventsOf command ++ (broker.perform command).2.events rest

variable {broker} {position : Nat} {host : Host M}

theorem channels_group_of_some (found : broker.hosts[position]? = some host) :
    broker.group.channels[position]? = some host.channel := by
  rw [group, List.getElem?_map, found]
  rfl

theorem hosts_serveAt (found : broker.hosts[position]? = some host) (request : Request M) :
    (broker.serveAt position host request).2.2.hosts[position]? =
      some (broker.serveAt position host request).2.1 := by
  obtain ⟨bound, _⟩ := List.getElem?_eq_some_iff.mp found
  exact List.getElem?_set_self bound

theorem group_serveAt (found : broker.hosts[position]? = some host) (request : Request M) :
    (broker.serveAt position host request).2.2.group =
      broker.group.after (broker.eventsAt position host request) := by
  have present := channels_group_of_some found
  rw [eventsAt]
  cases listens : host.listens with
  | true =>
    obtain ⟨_, channel, store⟩ := Host.serve_of_listens listens broker.store
      (request.withSerial (broker.generated + 1))
    rw [if_pos rfl, ChannelGroup.after_cons, ChannelGroup.after_nil,
      ChannelGroup.perform_request_of_some _ present]
    simp only [serveAt, group, List.map_set, channel, store]
  | false =>
    have still : (broker.hosts.map Host.channel).set position host.channel =
        broker.hosts.map Host.channel := set_eq_self present
    rw [if_neg Bool.false_ne_true, ChannelGroup.after_nil]
    simp only [serveAt, Host.serve_of_deaf listens, group, List.map_set, still]

theorem group_serveAllAt (found : broker.hosts[position]? = some host)
    (requests : List (Request M)) :
    (broker.serveAllAt position host requests).2.group =
      broker.group.after (broker.eventsAllAt position host requests) := by
  induction requests generalizing broker host with
  | nil => rfl
  | cons request rest ih =>
    rw [eventsAllAt, ChannelGroup.after_append, ← group_serveAt found, ← ih (hosts_serveAt found _)]
    rfl

theorem group_release (found : broker.hosts[position]? = some host) :
    (⟨(host.release broker.store).2,
        (broker.hosts.set position (host.release broker.store).1).map Host.channel⟩ :
      ChannelGroup M) = broker.group.after (if host.listens then [.drop position] else []) := by
  have present := channels_group_of_some found
  cases listens : host.listens with
  | true =>
    obtain ⟨channel, store⟩ := Host.release_of_listens listens broker.store
    rw [if_pos rfl, ChannelGroup.after_cons, ChannelGroup.after_nil,
      ChannelGroup.perform_drop_of_some _ present, List.map_set, channel, store]
    rfl
  | false =>
    have still : (broker.hosts.map Host.channel).set position host.channel =
        broker.hosts.map Host.channel := set_eq_self present
    rw [if_neg Bool.false_ne_true, ChannelGroup.after_nil, Host.release_of_deaf listens,
      List.map_set, still]
    rfl

/-- **What a command does to the store and the channels** is what its events do to the group. -/
theorem group_perform (broker : Broker M) (command : Command M) :
    (broker.perform command).2.group = broker.group.after (broker.eventsOf command) := by
  have asked : ∀ {request : QueueRequest M}, command.queueRequest? = some request →
      (broker.perform command).2.group = broker.group.after [.queue request] := by
    intro request asked
    rw [broker.perform_of_queueRequest? asked]
    rfl
  cases command with
  | openChannel id driven =>
    cases driven <;>
      simp [perform, openChannel, eventsOf, group, ChannelGroup.perform, Host.channel,
        ChannelTask.start]
  | share handle =>
    simp only [perform, share]
    split <;> rfl
  | drop handle =>
    rw [perform, eventsOf]
    cases found : broker.find? handle with
    | none =>
      rw [drop, found]
      rfl
    | some target =>
      obtain ⟨position, host⟩ := target
      simp only
      -- A channel with other handles left is not let go.
      cases beside : broker.holdsBeside handle position with
      | true =>
        rw [drop_of_beside found beside]
        rfl
      | false =>
        rw [drop_of_last found beside]
        exact group_release (host_of_find? found)
  | request handle request =>
    rw [perform, eventsOf]
    cases found : broker.find? handle with
    | none => rfl
    | some target => exact group_serveAt (host_of_find? found) request
  | requests handle requests =>
    rw [perform, eventsOf]
    cases found : broker.find? handle with
    | none => rfl
    | some target =>
      obtain ⟨position, host⟩ := target
      cases host with
      | direct channel => rfl
      | driven task => exact group_serveAllAt (host_of_find? found) requests
  | isClosed handle =>
    simp only [perform]
    split <;> rfl
  | describe handle =>
    simp only [perform]
    split <;> rfl
  | _ => exact asked rfl

/-- The same for a script. -/
theorem group_run (broker : Broker M) (script : List (Command M)) :
    (broker.run script).2.group = broker.group.after (broker.events script) := by
  induction script generalizing broker with
  | nil => rfl
  | cons command rest ih =>
    rw [events, ChannelGroup.after_append, ← group_perform, ← ih]
    rfl

end Broker

end MessageBroker
