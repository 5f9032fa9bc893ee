import MessageBroker.Proofs.Bookkeeping
import MessageBroker.Proofs.Leases
import MessageBroker.Proofs.Traffic

/-!
# Letting handles go

A handle that is not the last one, or whose channel is closed, can be dropped unnoticed: the broker
answers every script through other handles as if the handle were still there
(`Broker.run_without`). Once all handles are gone no channel holds a message. Nothing is discarded
of a queue that nobody disturbs (`ChannelGroup.balance_after_of_undisturbed`), so everything it took
in and that was not settled waits in it again. `Broker.closes_once` puts this together with when a
channel is closed and what its close does, for the live handles that a script and its answers tell.
-/

set_option autoImplicit false

namespace MessageBroker

variable {M : Type}

/-! ## Queues that nobody disturbs -/

/-- True of the events that remove or empty a queue or reach into it by hand. -/
def Event.disturbs (queue : QueueName) : Event M → Bool
  | .queue operation => operation.disturbs queue
  | _ => false

/-- True of the commands that remove or empty a queue or reach into it by hand. -/
def Command.disturbs (queue : QueueName) (command : Command M) : Bool :=
  command.queueRequest?.any (·.disturbs queue)

section Balance

variable [DecidableEq M] {queue : QueueName}

namespace Channel

variable (channel after : Channel M) {store : Store M} (request : Request M) (reply : Reply M)
  (message : M)

/-- A request discards nothing of a queue that is there. -/
theorem discarded_record_of_declared (declared : store.has queue = true) :
    (channel.record store request reply after).discarded.count (queue, message) = 0 := by
  have nothing : (((channel.unacked.departed after.unacked).filter
      fun delivery => !store.has delivery.queue).map Delivery.origin).count
        (queue, message) = 0 := by
    rw [List.count_eq_zero, List.mem_map]
    rintro ⟨delivery, member, origin⟩
    obtain ⟨_, lost⟩ := List.mem_filter.mp member
    obtain ⟨here, _⟩ := Prod.mk.inj origin
    rw [here, declared] at lost
    cases lost
  unfold record
  split <;> first | rfl | exact nothing

/-- A missing queue takes nothing in. -/
theorem enqueued_record_of_missing (missing : store.has queue = false) :
    (channel.record store request reply after).enqueued.count (queue, message) = 0 := by
  have nothing : ∀ publishes, (store.accepted publishes).count (queue, message) = 0 := by
    intro publishes
    rw [← count_messagesOn, Store.messagesOn_accepted, missing]
    rfl
  unfold record
  split
  · split
    · exact nothing _
    · rfl
  · exact nothing _
  all_goals rfl

end Channel

namespace ChannelGroup

variable {group : ChannelGroup M} {message : M}

/-- A request discards nothing of a queue if nothing is held of it while it is missing, and this
stays so. -/
theorem balance_serveAt_of_homed {place : Nat} {channel : Channel M}
    (found : group.channels[place]? = some channel) (request : Request M)
    (homed : group.store.has queue = false → group.held.count (queue, message) = 0) :
    ((group.store.messages queue).count message + group.held.count (queue, message) +
        (group.recordAt channel request).enqueued.count (queue, message) =
      ((group.serveAt place channel request).2.store.messages queue).count message +
        (group.serveAt place channel request).2.held.count (queue, message) +
          (group.recordAt channel request).settled.count (queue, message)) ∧
      ((group.serveAt place channel request).2.store.has queue = false →
        (group.serveAt place channel request).2.held.count (queue, message) = 0) := by
  have balance := group.balance_serveAt found request queue message
  have kept : (group.serveAt place channel request).2.store.has queue = group.store.has queue :=
    (channel.step_serve group.store request).has_eq queue
  rw [kept]
  cases declared : group.store.has queue with
  | true =>
    have spared : (group.recordAt channel request).discarded.count (queue, message) = 0 :=
      channel.discarded_record_of_declared _ request _ message declared
    exact ⟨by omega, fun missing => nomatch missing⟩
  | false =>
    -- Nothing waits, is held or comes in, so there is nothing to discard either.
    have refused : (group.recordAt channel request).enqueued.count (queue, message) = 0 :=
      channel.enqueued_record_of_missing _ request _ message declared
    have empty : group.store.messages queue = [] := by
      rw [Store.has_eq_isSome, Option.isSome_eq_false_iff, Option.isNone_iff_eq_none] at declared
      rw [Store.messages, declared]
      rfl
    have nothing := homed declared
    rw [empty, List.count_nil] at balance ⊢
    exact ⟨by omega, fun _ => by omega⟩

/-- The same for an event that does not disturb the queue. -/
theorem balance_perform_of_undisturbed {event : Event M}
    (undisturbed : event.disturbs queue = false)
    (homed : group.store.has queue = false → group.held.count (queue, message) = 0) :
    ((group.store.messages queue).count message + group.held.count (queue, message) +
        (group.record event).enqueued.count (queue, message) =
      ((group.perform event).2.store.messages queue).count message +
        (group.perform event).2.held.count (queue, message) +
          (group.record event).settled.count (queue, message)) ∧
      ((group.perform event).2.store.has queue = false →
        (group.perform event).2.held.count (queue, message) = 0) := by
  cases event with
  | queue request =>
    obtain ⟨appended, declared⟩ := group.messages_queue undisturbed
    have settled : (group.record (.queue request)).settled = [] := by cases request <;> rfl
    have kept : (group.perform (.queue request)).2.held = group.held := rfl
    have store : (group.perform (.queue request)).2.store =
        (group.store.perform request).2 := rfl
    rw [kept, store, appended, settled, List.count_append, Ledger.enqueuedOn, count_messagesOn]
    refine ⟨by rw [List.count_nil]; omega, fun missing => homed ?_⟩
    exact eq_false_of_ne_true fun here => ne_true_of_eq_false missing (declared here)
  | opening id =>
    have kept : (group.perform (.opening id)).2.held = group.held := by
      simp [perform, held, Channel.held, Channel.new]
    rw [kept]
    exact ⟨rfl, homed⟩
  | request place request =>
    rw [perform, record]
    cases found : group.channels[place]? with
    | none => exact ⟨rfl, homed⟩
    | some channel => exact balance_serveAt_of_homed found request homed
  | drop place =>
    rw [perform, record]
    cases found : group.channels[place]? with
    | none => exact ⟨rfl, homed⟩
    | some channel => exact balance_serveAt_of_homed found .close homed

/-- **Of a queue that nobody disturbs no message is lost**: what it had, what was held of it and
what it took in waits there, is held or was settled. -/
theorem balance_after_of_undisturbed (group : ChannelGroup M) {events : List (Event M)}
    (undisturbed : ∀ event ∈ events, event.disturbs queue = false)
    (message : M)
    (homed : group.store.has queue = false → group.held.count (queue, message) = 0) :
    (group.store.messages queue).count message + group.held.count (queue, message) +
        (group.ledger events).enqueued.count (queue, message) =
      ((group.after events).store.messages queue).count message +
        (group.after events).held.count (queue, message) +
          (group.ledger events).settled.count (queue, message) := by
  induction events generalizing group with
  | nil => rfl
  | cons event rest ih =>
    obtain ⟨first, still_homed⟩ := balance_perform_of_undisturbed
      (undisturbed event List.mem_cons_self) homed
    have later := ih (group.perform event).2
      (fun other member => undisturbed other (List.mem_cons_of_mem _ member)) still_homed
    simp only [ledger, Ledger.append, List.count_append, after_cons]
    omega

end ChannelGroup

end Balance

namespace Broker

variable {broker : Broker M} {position : Nat}

/-! ## Dropping a handle unnoticed -/

/-- The broker with a handle forgotten. -/
def without (broker : Broker M) (handle : Nat) : Broker M :=
  { broker with handles := broker.handles.set (handle - 1) none }

/-- Other handles lead where they led. -/
theorem find?_without (broker : Broker M) {n other : Nat} (apart : other ≠ n + 1) :
    (broker.without (n + 1)).find? other = broker.find? other := by
  cases other with
  | zero => rfl
  | succ k =>
    have elsewhere : n ≠ k := fun same => apart (congrArg Nat.succ same.symm)
    rw [find?, find?, without, Nat.add_sub_cancel, List.getElem?_set_ne elsewhere]

/-- The order in which handles are forgotten does not matter. -/
theorem without_comm (broker : Broker M) {n k : Nat} (apart : n ≠ k) :
    (broker.without (n + 1)).without (k + 1) = (broker.without (k + 1)).without (n + 1) :=
  congrArg (fun handles => { broker with handles }) (List.set_comm _ _ apart)

/-- A handle that is not the last one to its channel, or whose channel is closed, goes without a
trace. -/
theorem drop_eq_without {handle : Nat} {host : Host M} (fits : host.Fits)
    (found : broker.find? handle = some (position, host))
    (spared : broker.holdsBeside handle position = true ∨ broker.isOpenAt position = false) :
    broker.drop handle = (.done, broker.without handle) := by
  cases beside : broker.holdsBeside handle position with
  | true => exact drop_of_beside found beside
  | false =>
    have here := host_of_find? found
    have shut : host.channel.isOpen = false := by
      rcases spared with held | shut
      · cases beside.symm.trans held
      · rwa [isOpenAt, here] at shut
    rw [drop_of_last found beside, fits.release_of_shut _ shut, set_eq_self here]
    rfl

theorem serveAllAt_without (broker : Broker M) (handle position : Nat) (host : Host M)
    (requests : List (Request M)) :
    (broker.without handle).serveAllAt position host requests =
      ((broker.serveAllAt position host requests).1,
        (broker.serveAllAt position host requests).2.without handle) := by
  induction requests generalizing broker host with
  | nil => rfl
  | cons request rest ih =>
    have first : (broker.without handle).serveAt position host request =
        ((broker.serveAt position host request).1, (broker.serveAt position host request).2.1,
          (broker.serveAt position host request).2.2.without handle) := rfl
    simp only [serveAllAt, first, ih]

section Without

variable {n : Nat} (given : broker.handles[n]? = some (some position))

include given

/-- A live handle stays where it is while nobody names it. -/
theorem handles_perform_of_unnamed {command : Command M}
    (unnamed : command.names (n + 1) = false) :
    (broker.perform command).2.handles[n]? = some (some position) := by
  have step := broker.step_perform command
  generalize (broker.perform command).2 = after at step ⊢
  obtain ⟨bound, _⟩ := List.getElem?_eq_some_iff.mp given
  have other : ∀ {handle reached : Nat} {host : Host M},
      broker.find? handle = some (reached, host) → ¬ handle = n + 1 →
        (broker.handles.set (handle - 1) none)[n]? = some (some position) := by
    intro handle reached host found apart
    obtain ⟨k, rfl, _⟩ := find?_eq_some_iff.mp found
    rw [Nat.add_sub_cancel, List.getElem?_set_ne fun same => apart (congrArg Nat.succ same)]
    exact given
  cases step with
  | opened => rwa [List.getElem?_append_left bound]
  | shared => rwa [List.getElem?_append_left bound]
  | dropped found => exact other found (of_decide_eq_false unnamed)
  | released found => exact other found (of_decide_eq_false unnamed)
  | servedAll found =>
    rw [(handles_serveAllAt (host_of_find? found) _).1]
    exact given
  | _ => exact given

/-- A channel with a live handle is held beside every other handle. -/
theorem holdsBeside_of_given {handle : Nat} {host : Host M}
    (found : broker.find? handle = some (position, host)) (apart : ¬ handle = n + 1) :
    broker.holdsBeside handle position = true := by
  obtain ⟨k, rfl, _⟩ := find?_eq_some_iff.mp found
  have leads : broker.Leads (n + 1) position := ⟨n, rfl, given⟩
  exact (holdsBeside_iff broker k position).mpr ⟨n + 1, leads, fun same => apart same.symm⟩

theorem drop_without (sound : broker.Sound) {handle : Nat} (apart : handle ≠ n + 1)
    (spared : broker.isOpenAt position = false ∨
      ((broker.without (n + 1)).drop handle).2.isHeld position = true) :
    (broker.without (n + 1)).drop handle =
      ((broker.drop handle).1, (broker.drop handle).2.without (n + 1)) := by
  have found_same := find?_without broker apart
  cases found : broker.find? handle with
  | none => rw [drop, drop, found_same, found]
  | some target =>
    obtain ⟨reached, host⟩ := target
    rw [found] at found_same
    obtain ⟨k, rfl, _, here⟩ := find?_eq_some_iff.mp found
    have fits := sound.fits_of_found here
    have elsewhere : n ≠ k := fun same => apart (congrArg Nat.succ same.symm)
    by_cases same : reached = position
    · -- If it was the last one but for the forgotten one, the channel is closed.
      subst same
      have spared_without : (broker.without (n + 1)).holdsBeside (k + 1) reached = true ∨
          (broker.without (n + 1)).isOpenAt reached = false := by
        refine spared.symm.imp_left fun held => eq_true_of_ne_false fun last => ?_
        rw [drop_of_last found_same last] at held
        exact ne_true_of_eq_false last held
      have beside := holdsBeside_of_given given found apart
      rw [drop_eq_without fits found_same spared_without, drop_eq_without fits found (.inl beside),
        broker.without_comm elsewhere]
    · have swapped : (broker.without (n + 1)).handles.set k none =
          (broker.handles.set k none).set n none := List.set_comm _ _ elsewhere
      have beside_same : (broker.without (n + 1)).holdsBeside (k + 1) reached =
          broker.holdsBeside (k + 1) reached := by
        have still : (broker.handles.set k none)[n]? = some (some position) := by
          rw [List.getElem?_set_ne elsewhere.symm]
          exact given
        rw [holdsBeside, holdsBeside, Nat.add_sub_cancel, swapped, contains_set_none still same]
      cases beside : broker.holdsBeside (k + 1) reached with
      | true =>
        rw [drop_of_beside found beside, drop_of_beside found_same (beside_same.trans beside),
          Nat.add_sub_cancel, swapped]
        rfl
      | false =>
        rw [drop_of_last found beside, drop_of_last found_same (beside_same.trans beside),
          Nat.add_sub_cancel, swapped]
        rfl

/-- **A forgotten handle is not missed**: any command through other handles is answered as before,
as long as the channel is closed or still held after it. -/
theorem perform_without (sound : broker.Sound) {command : Command M}
    (unnamed : command.names (n + 1) = false)
    (spared : broker.isOpenAt position = false ∨
      ((broker.without (n + 1)).perform command).2.isHeld position = true) :
    (broker.without (n + 1)).perform command =
      ((broker.perform command).1, (broker.perform command).2.without (n + 1)) := by
  obtain ⟨bound, _⟩ := List.getElem?_eq_some_iff.mp given
  -- New handles come last, so the forgotten one keeps its place and they get the same numbers.
  have size : (broker.without (n + 1)).handles.length = broker.handles.length := by
    rw [without, List.length_set]
  have appended : ∀ handle : Option Nat, (broker.without (n + 1)).handles ++ [handle] =
      (broker.handles ++ [handle]).set (n + 1 - 1) none := by
    intro handle
    rw [without, Nat.add_sub_cancel, List.set_append_left _ _ bound]
  have asked : ∀ {request : QueueRequest M}, command.queueRequest? = some request →
      (broker.without (n + 1)).perform command =
        ((broker.perform command).1, (broker.perform command).2.without (n + 1)) := by
    intro request asked
    rw [perform_of_queueRequest? _ asked, perform_of_queueRequest? _ asked]
    rfl
  cases command with
  | openChannel id driven =>
    simp only [perform, openChannel, size, appended]
    rfl
  | share handle =>
    have apart : handle ≠ n + 1 := of_decide_eq_false unnamed
    simp only [perform, share, find?_without broker apart, size, appended]
    split <;> rfl
  | drop handle => exact drop_without given sound (of_decide_eq_false unnamed) spared
  | request handle request =>
    have apart : handle ≠ n + 1 := of_decide_eq_false unnamed
    simp only [perform, find?_without broker apart]
    split <;> rfl
  | requests handle requests =>
    have apart : handle ≠ n + 1 := of_decide_eq_false unnamed
    simp only [perform, find?_without broker apart, serveAllAt_without]
    split <;> rfl
  | isClosed handle =>
    have apart : handle ≠ n + 1 := of_decide_eq_false unnamed
    simp only [perform, host?, find?_without broker apart]
    split <;> rfl
  | describe handle =>
    have apart : handle ≠ n + 1 := of_decide_eq_false unnamed
    simp only [perform, host?, find?_without broker apart]
    split <;> rfl
  | _ => exact asked rfl

/-- The same for a script. -/
theorem run_without (sound : broker.Sound) {script : List (Command M)}
    (unnamed : ∀ command ∈ script, command.names (n + 1) = false)
    (spared : broker.isOpenAt position = false ∨
      ((broker.without (n + 1)).run script).2.isHeld position = true) :
    (broker.without (n + 1)).run script =
      ((broker.run script).1, (broker.run script).2.without (n + 1)) := by
  induction script generalizing broker with
  | nil => rfl
  | cons command rest ih =>
    have bound : position < broker.hosts.length :=
      sound.placed position (isHeld_iff.mpr (List.mem_of_getElem? given))
    have still_bound : position < (broker.without (n + 1)).hosts.length := bound
    have unnamed_first := unnamed command List.mem_cons_self
    -- What nobody holds after the command nobody holds in the end.
    have first := perform_without given sound unnamed_first <| spared.imp_right fun held => by
      refine eq_true_of_ne_false fun free => ?_
      exact ne_true_of_eq_false (isHeld_run (bound_perform still_bound command) free rest) held
    have later := ih (handles_perform_of_unnamed given unnamed_first) (sound.perform command)
      (fun other member => unnamed other (List.mem_cons_of_mem _ member)) <| by
        refine spared.imp (fun shut => shut_perform sound bound shut command) fun held => ?_
        rwa [run_cons, first] at held
    rw [run_cons, run_cons, first, later]

end Without

/-! ## When all handles are gone -/

section Gone

variable (free : ∀ position, broker.isHeld position = false)

include free

theorem Sound.shut_of_gone (sound : broker.Sound) {channel : Channel M}
    (member : channel ∈ broker.group.channels) : channel.isOpen = false := by
  obtain ⟨position, found⟩ := List.getElem?_of_mem member
  rw [group, List.getElem?_map, Option.map_eq_some_iff] at found
  obtain ⟨host, here, rfl⟩ := found
  have shut := sound.shut_of_free (free position)
  rwa [isOpenAt, here] at shut

/-- Then no channel holds a message. -/
theorem Sound.held_of_gone (sound : broker.Sound)
    (reachable : ∀ channel ∈ broker.group.channels, channel.Reachable) :
    broker.group.held = [] := by
  refine List.flatMap_eq_nil_iff.mpr fun channel member => ?_
  have shut := sound.shut_of_gone free member
  have closed := channel.closed_of_not_open (ne_true_of_eq_false shut)
  rw [Channel.held, ((Channel.coherent_of_reachable (reachable channel member)).cleared closed).1]
  rfl

end Gone

/-! ## Scripts that leave a queue undisturbed -/

theorem undisturbed_eventsAt (broker : Broker M) (queue : QueueName) (position : Nat)
    (host : Host M) (request : Request M) :
    ∀ event ∈ broker.eventsAt position host request, event.disturbs queue = false := by
  intro event member
  rw [eventsAt] at member
  split at member
  · obtain rfl := List.mem_singleton.mp member
    rfl
  · cases member

theorem undisturbed_eventsAllAt (broker : Broker M) (queue : QueueName) (position : Nat)
    (host : Host M) (requests : List (Request M)) :
    ∀ event ∈ broker.eventsAllAt position host requests, event.disturbs queue = false := by
  induction requests generalizing broker host with
  | nil => exact fun _ member => nomatch member
  | cons request rest ih =>
    intro event member
    rcases List.mem_append.mp member with first | later
    · exact broker.undisturbed_eventsAt queue position host request event first
    · exact ih _ _ event later

/-- A command that does not disturb a queue amounts to events that do not. -/
theorem undisturbed_eventsOf (broker : Broker M) {queue : QueueName} {command : Command M}
    (undisturbed : command.disturbs queue = false) :
    ∀ event ∈ broker.eventsOf command, event.disturbs queue = false := by
  intro event member
  have asked : ∀ {request : QueueRequest M}, command.queueRequest? = some request →
      event ∈ [(.queue request : Event M)] → event.disturbs queue = false := by
    intro request asked only
    obtain rfl := List.mem_singleton.mp only
    rwa [Command.disturbs, asked] at undisturbed
  cases command with
  | openChannel id driven =>
    obtain rfl := List.mem_singleton.mp member
    rfl
  | share => cases member
  | drop handle =>
    rw [eventsOf] at member
    split at member
    · cases member
    · split at member
      · cases member
      · split at member
        · obtain rfl := List.mem_singleton.mp member
          rfl
        · cases member
  | request handle request =>
    rw [eventsOf] at member
    split at member
    · cases member
    · exact broker.undisturbed_eventsAt queue _ _ request event member
  | requests handle requests =>
    rw [eventsOf] at member
    split at member
    · exact broker.undisturbed_eventsAllAt queue _ _ requests event member
    · cases member
  | isClosed => cases member
  | describe => cases member
  | _ => exact asked rfl member

theorem undisturbed_events (broker : Broker M) {queue : QueueName} {script : List (Command M)}
    (undisturbed : ∀ command ∈ script, command.disturbs queue = false) :
    ∀ event ∈ broker.events script, event.disturbs queue = false := by
  induction script generalizing broker with
  | nil => exact fun _ member => nomatch member
  | cons command rest ih =>
    intro event member
    rcases List.mem_append.mp member with first | later
    · exact broker.undisturbed_eventsOf (undisturbed command List.mem_cons_self) event first
    · exact ih _ (fun other among => undisturbed other (List.mem_cons_of_mem _ among)) event later

/-- **A channel is closed once over the life of its handles.** Take any script from a broker without
channels, and the live handles as its commands and answers tell. Then:
* the handles that lead to a channel are the live ones, each under a number of its own; a channel
  that is opened comes with a handle, a live handle can be dropped, and if a task drives its channel
  it can be shared;
* the channel at a position has been closed by the first command that asked it to through a live
  handle, or else by the one that dropped its last live handle, and it has been closed if no handle
  to it is live;
* a command that closes a channel changes the store as closing the channel by hand does, and what
  its task does when it winds up, after a close or without its last handle, comes to that one close;
  requests sent together are those requests one after the other;
* a live handle that is not the last one, or whose channel is closed, is dropped without a trace:
  every script through other handles gets the same answers and leaves the same store and channels,
  while the channel is closed or a handle to it is live;
* the script does to the store and to the channels what its events do; once no handle is live the
  channels are closed and hold nothing, and a queue that nobody disturbed has in it again what it
  had and took in, less what was settled. -/
theorem closes_once [DecidableEq M] (idPrefix : String) (store : Store M)
    (script : List (Command M)) :
    let start : Broker M := { idPrefix, store }
    let now := (start.run script).2
    let exchanges := start.exchanges script
    let leases := ({} : Leases).after exchanges
    ((∀ handle position, (handle, position) ∈ leases.live ↔
          ∃ host, now.find? handle = some (position, host)) ∧
        (leases.live.map (·.1)).Nodup ∧
        (∀ id driven, ∃ handle name,
          (now.perform (.openChannel id driven)).1 = .opened handle name) ∧
        ∀ handle position, (handle, position) ∈ leases.live →
          (now.perform (.drop handle)).1 = .done ∧
            (leases.driven[position]? = some true →
              ∃ number, (now.perform (.share handle)).1 = .shared number)) ∧
      (∀ position,
        let closings := stepsWhere (·.closes position) start 0 script
        closings =
            (Leases.stepsWhere (·.asksToClose position) {} 0 exchanges ++
              Leases.stepsWhere (·.letsGo position) {} 0 exchanges).take 1 ∧
          (position < leases.driven.length → leases.holders position = [] →
            closings.length = 1)) ∧
      (∀ position command, now.closes position command = true → command.isBatch = false →
        ∃ channel, now.group.channels[position]? = some channel ∧
          let closed := channel.close now.store
          let wound := ChannelTask.windUp closed.2.1 closed.2.2
          let dropped := ChannelTask.windUp channel now.store
          (now.perform command).2.group =
              ⟨closed.2.2, now.group.channels.set position closed.2.1⟩ ∧
            dropped = closed.2 ∧ wound = closed.2 ∧
            ∀ task, now.hosts[position]? = some (.driven task) →
              (task.serve now.store .close).2 = (⟨wound.1, false⟩, wound.2) ∧
                task.stop now.store = (⟨dropped.1, false⟩, dropped.2)) ∧
      (∀ handle position, (handle, position) ∈ leases.live → leases.driven[position]? = some true →
        ∀ requests, ∃ replies after,
          now.perform (.requests handle requests) = (.repliedAll replies, after) ∧
            now.run (requests.map (.request handle)) = (replies.map .replied, after)) ∧
      (∀ handle position, (handle, position) ∈ leases.live →
        (∃ other ∈ leases.holders position, other ≠ handle) ∨ now.isOpenAt position = false →
        let dropped := now.without handle
        now.perform (.drop handle) = (.done, dropped) ∧
          ∀ rest : List (Command M), (∀ command ∈ rest, command.names handle = false) →
            let later := (leases.step (Command.drop (M := M) handle, .done)).after
              (dropped.exchanges rest)
            now.isOpenAt position = false ∨ later.holders position ≠ [] →
              dropped.run rest = ((now.run rest).1, (now.run rest).2.without handle)) ∧
      now.group = start.group.after (start.events script) ∧
      (leases.live = [] →
        (∀ channel ∈ now.group.channels, channel.isOpen = false) ∧ now.group.held = [] ∧
          ∀ queue message, (∀ command ∈ script, command.disturbs queue = false) →
            let ledger := start.group.ledger (start.events script)
            (store.messages queue).count message + ledger.enqueued.count (queue, message) =
              (now.store.messages queue).count message +
                ledger.settled.count (queue, message)) := by
  intro start now exchanges leases
  have start_sound : start.Sound := .fresh idPrefix store
  have start_leased : start.Leased {} := .fresh idPrefix store
  have sound : now.Sound := start_sound.run script
  have leased : now.Leased leases := start_leased.run start_sound script
  have group : now.group = start.group.after (start.events script) := start.group_run script
  have leads : ∀ {handle position}, (handle, position) ∈ leases.live →
      ∃ host, now.find? handle = some (position, host) := fun live =>
    sound.leads_iff.mp ((leased.live _ _).mp live)
  refine ⟨⟨?live, leased.distinct, ?opened, ?usable⟩, ?closings, ?effect, ?together, ?dropped,
    group, ?gone⟩
  case live =>
    intro handle position
    rw [leased.live, sound.leads_iff]
  case opened =>
    intro id driven
    exact ⟨_, _, rfl⟩
  case usable =>
    intro handle position live
    obtain ⟨host, found⟩ := leads live
    constructor
    · cases beside : now.holdsBeside handle position with
      | true => rw [perform, drop_of_beside found beside]
      | false => rw [perform, drop_of_last found beside]
    · intro driven
      rw [leased.driven_of_found (host_of_find? found)] at driven
      cases host with
      | direct channel => cases driven
      | driven task =>
        rw [perform, share, found]
        exact ⟨_, rfl⟩
  case closings =>
    intro position
    have vacant : start.isOpenAt position = true ∨ start.hosts.length ≤ position :=
      .inr (Nat.zero_le position)
    -- The leases count the same steps as the broker.
    have asked := start_leased.stepsWhere_eq start_sound
      (fun leased sound => leased.asksToClose_eq sound position) 0 script
    have letGo := start_leased.stepsWhere_eq start_sound
      (fun leased sound => leased.letsGo_eq sound position) 0 script
    constructor
    · rw [← asked, ← letGo]
      exact closings_eq start_sound vacant 0 script
    · intro bound none_left
      rw [leased.length_driven] at bound
      have free : now.isHeld position = false :=
        eq_false_of_ne_true fun held => leased.isHeld_iff.mp held none_left
      exact length_closings start_sound vacant 0 bound (sound.shut_of_free free)
  case effect =>
    intro position command closes single
    obtain ⟨channel, present, after⟩ := group_perform_of_closes sound single closes
    refine ⟨channel, present, after, ChannelTask.windUp_eq channel now.store,
      ChannelTask.windUp_of_shut (channel.isOpen_close now.store) _, fun task here => ?_⟩
    rw [channels_group_of_some here] at present
    cases present
    have isOpen : now.isOpenAt position = true := (Bool.and_eq_true_iff.mp closes).1
    rw [isOpenAt, here] at isOpen
    exact ChannelTask.windUp_serve_close ((sound.fits_of_found here).listens isOpen) now.store
  case together =>
    intro handle position live driven requests
    obtain ⟨host, found⟩ := leads live
    rw [leased.driven_of_found (host_of_find? found)] at driven
    cases host with
    | direct channel => cases driven
    | driven task =>
      refine ⟨_, _, ?_, run_requests found requests⟩
      rw [perform, found]
  case dropped =>
    intro handle position live spared
    obtain ⟨host, found⟩ := leads live
    obtain ⟨n, rfl, given, _⟩ := find?_eq_some_iff.mp found
    have fits := sound.fits_of_found (host_of_find? found)
    have beside : now.holdsBeside (n + 1) position = true ∨ now.isOpenAt position = false := by
      refine spared.imp_left ?_
      rintro ⟨other, holds, apart⟩
      exact (holdsBeside_iff now n position).mpr ⟨other, leased.mem_holders.mp holds, apart⟩
    have dropped : now.perform (.drop (n + 1)) = (.done, now.without (n + 1)) :=
      drop_eq_without fits found beside
    refine ⟨dropped, fun rest unnamed kept => run_without given sound unnamed ?_⟩
    -- The leases of the rest of the script start from those without the handle.
    have dropped_leased := leased.perform sound (.drop (n + 1))
    have dropped_sound := sound.perform (.drop (n + 1))
    rw [dropped] at dropped_leased dropped_sound
    exact kept.imp_right (dropped_leased.run dropped_sound rest).isHeld_iff.mpr
  case gone =>
    intro none_live
    have free : ∀ position, now.isHeld position = false := by
      intro position
      refine eq_false_of_ne_true fun held => leased.isHeld_iff.mp held ?_
      rw [Leases.holders, none_live]
      rfl
    have reachable := ChannelGroup.reachable_after store (start.events script)
    have nothing : now.group.held = [] :=
      sound.held_of_gone free fun channel member => reachable channel (group ▸ member)
    refine ⟨fun channel => sound.shut_of_gone free, nothing, fun queue message undisturbed => ?_⟩
    have balance := start.group.balance_after_of_undisturbed
      (start.undisturbed_events undisturbed) message fun _ => rfl
    have nothing_before : start.group.held = [] := rfl
    rw [nothing_before, ← group, nothing, List.count_nil, Nat.add_zero, Nat.add_zero] at balance
    exact balance

/-- Two channels, the first of them shared. A message taken through its first handle returns when
the second one is dropped and not before: the first goes unnoticed. The other channel is closed by a
request, which makes the drop of its handle idle. -/
theorem closes_once_of_shared_channel :
    let start : Broker Nat := { idPrefix := "channel" }
    let taken : List (Command Nat) :=
      [.declare "q", .enqueue "q" 7, .openChannel (some "A") true, .share 1,
        .openChannel none true, .request 1 (.get "q" false)]
    let other : List (Command Nat) := [.request 3 (.publish 8 "q"), .request 3 .close]
    let script := taken ++ [.drop 1] ++ other ++ [.drop 3, .drop 2]
    let before := (start.run taken).2
    let now := (start.run script).2
    (({} : Leases).after (start.exchanges taken)).live = [(1, 0), (2, 0), (3, 1)] ∧
      (∃ host, before.find? 2 = some (0, host)) ∧
      before.perform (.drop 1) = (.done, before.without 1) ∧
      (before.without 1).run other = ((before.run other).1, (before.run other).2.without 1) ∧
      (before.run other).2.store.messages "q" = [8] ∧
      (({} : Leases).after (start.exchanges script)).live = [] ∧
      stepsWhere (·.closes 0) start 0 script = [10] ∧
      stepsWhere (·.closes 1) start 0 script = [8] ∧
      now.group.held = [] ∧ now.store.messages "q" = [7, 8] ∧
      (start.group.ledger (start.events script)).enqueued.count ("q", 7) =
        (now.store.messages "q").count 7 := by
  intro start taken other script before now
  obtain ⟨⟨live, _⟩, _, _, _, dropped, _⟩ := closes_once "channel" .empty taken
  obtain ⟨_, closings, _, _, _, _, gone⟩ := closes_once "channel" .empty script
  have all_live : (({} : Leases).after (start.exchanges taken)).live =
      [(1, 0), (2, 0), (3, 1)] := by decide
  have none_live : (({} : Leases).after (start.exchanges script)).live = [] := by decide
  have second : ∃ host, before.find? 2 = some (0, host) := (live 2 0).mp (by decide)
  obtain ⟨drop, unnoticed⟩ := dropped 1 0 (by decide) (.inl ⟨2, by decide, by decide⟩)
  have same := unnoticed other (by decide) (.inr (by decide))
  obtain ⟨_, nothing, balance⟩ := gone none_live
  have kept_or_settled : (start.group.ledger (start.events script)).enqueued.count ("q", 7) =
      (now.store.messages "q").count 7 +
        (start.group.ledger (start.events script)).settled.count ("q", 7) :=
    (Nat.zero_add _).symm.trans (balance "q" 7 (by decide))
  have settled : (start.group.ledger (start.events script)).settled.count ("q", 7) = 0 := by decide
  rw [settled] at kept_or_settled
  exact ⟨all_live, second, drop, same, by decide, none_live, (closings 0).1.trans (by decide),
    (closings 1).1.trans (by decide), nothing, by decide, kept_or_settled⟩

end Broker

end MessageBroker
