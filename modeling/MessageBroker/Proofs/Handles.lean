import MessageBroker.Proofs.Scripts

/-!
# Handles and the end of a channel

A channel is closed by a request, by its last handle when that is dropped, and its task closes it
again when it winds up. Only the first of these does anything. `Broker.Step` lists what a command
can do to a broker. A broker is `Sound` if its handles lead to hosts, a channel that nobody holds is
closed and a task runs as long as its channel is open; every command keeps it so
(`Broker.Sound.perform`). From this follow which command of a script closes a channel
(`Broker.closings_eq`, `Broker.length_closings`) and what it does to the store
(`Broker.group_perform_of_closes`).
-/

set_option autoImplicit false

namespace MessageBroker

variable {M : Type}

/-! ## Closing twice -/

namespace Channel

variable (channel : Channel M) (store : Store M)

theorem close_of_shut {channel : Channel M} (shut : channel.isOpen = false) (store : Store M) :
    channel.close store = ({}, channel, store) := by
  rw [close, shut]
  rfl

theorem isOpen_close : (channel.close store).2.1.isOpen = false := by
  cases isOpen : channel.isOpen with
  | true =>
    rw [close, isOpen]
    rfl
  | false => rw [close_of_shut isOpen, isOpen]

/-- Closing again does nothing. -/
theorem close_close :
    (channel.close store).2.1.close (channel.close store).2.2 =
      ({}, (channel.close store).2.1, (channel.close store).2.2) :=
  close_of_shut (channel.isOpen_close store) _

/-- Only a close ends a channel. -/
theorem isOpen_serve (request : Request M) :
    (channel.serve store request).2.1.isOpen = (channel.isOpen && !request.isClose) := by
  cases isOpen : channel.isOpen with
  | false =>
    have closed := channel.closed_of_not_open (ne_true_of_eq_false isOpen)
    rw [channel.serve_of_closed store closed, Bool.false_and, isOpen]
  | true =>
    cases closes : request.isClose with
    | true =>
      obtain rfl : request = .close := by
        cases request with
        | close => rfl
        | _ => cases closes
      exact channel.isOpen_close store
    | false =>
      have step := channel.step_serve store request
      generalize channel.serve store request = outcome at step ⊢
      obtain ⟨reply, after, later⟩ := outcome
      cases step with
      | selected => rfl
      | closed => cases closes
      | closedAgain => cases closes
      | _ => exact isOpen

end Channel

namespace ChannelTask

/-- The end of a task: it closes its channel if that is open, and then lets it go, which closes an
open channel too. -/
def windUp (channel : Channel M) (store : Store M) : Channel M × Store M :=
  let (channel, store) :=
    if channel.isOpen then ((channel.close store).2.1, (channel.close store).2.2)
    else (channel, store)
  ((channel.close store).2.1, (channel.close store).2.2)

/-- A task that winds up closes its channel once. -/
theorem windUp_eq (channel : Channel M) (store : Store M) :
    windUp channel store = ((channel.close store).2.1, (channel.close store).2.2) := by
  cases isOpen : channel.isOpen with
  | true => simp only [windUp, isOpen, if_true, channel.close_close store]
  | false => simp only [windUp, isOpen, Bool.false_eq_true, if_false]

/-- A channel that is closed already is left as it is. -/
theorem windUp_of_shut {channel : Channel M} (shut : channel.isOpen = false) (store : Store M) :
    windUp channel store = (channel, store) := by
  rw [windUp_eq, Channel.close_of_shut shut]

/-- A task that has served a close has nothing left to wind up, and one that loses its last handle
winds up. -/
theorem windUp_serve_close {task : ChannelTask M} (running : task.running = true)
    (store : Store M) :
    (task.serve store .close).2 =
        (⟨(windUp (task.channel.close store).2.1 (task.channel.close store).2.2).1, false⟩,
          (windUp (task.channel.close store).2.1 (task.channel.close store).2.2).2) ∧
      task.stop store =
        (⟨(windUp task.channel store).1, false⟩, (windUp task.channel store).2) := by
  rw [windUp_of_shut (task.channel.isOpen_close store), windUp_eq]
  simp [serve, stop, running, Channel.serve, Request.isClose]

end ChannelTask

/-! ## Hosts whose tasks run while their channels are open -/

namespace Host

/-- A task runs as long as its channel is open. -/
def Fits : Host M → Prop
  | direct _ => True
  | driven task => task.running = task.channel.isOpen

/-- A running task fits its channel as long as that is open. -/
theorem fits_driven {channel : Channel M} (isOpen : channel.isOpen = true) :
    (driven ⟨channel, true⟩).Fits ∧ (driven ⟨channel, true⟩).channel = channel :=
  ⟨isOpen.symm, rfl⟩

namespace Fits

variable {host : Host M} (fits : host.Fits) (store : Store M)

include fits

theorem listens (isOpen : host.channel.isOpen = true) : host.listens = true := by
  cases host with
  | direct channel => rfl
  | driven task => exact Eq.trans fits isOpen

theorem shut_of_deaf (deaf : host.listens = false) : host.channel.isOpen = false :=
  eq_false_of_ne_true fun isOpen => ne_true_of_eq_false deaf (fits.listens isOpen)

/-- Releasing a host closes its channel. -/
theorem release_eq :
    (host.release store).1.channel = (host.channel.close store).2.1 ∧
      (host.release store).2 = (host.channel.close store).2.2 := by
  cases listens : host.listens with
  | true => exact release_of_listens listens store
  | false =>
    rw [release_of_deaf listens, Channel.close_of_shut (fits.shut_of_deaf listens)]
    exact ⟨rfl, rfl⟩

theorem release_of_shut (shut : host.channel.isOpen = false) :
    host.release store = (host, store) := by
  cases host with
  | direct channel =>
    have still : channel.close store = ({}, channel, store) := Channel.close_of_shut shut store
    rw [release, still]
  | driven task =>
    have deaf : (driven task).listens = false := Eq.trans fits shut
    exact release_of_deaf deaf store

theorem fits_release : (host.release store).1.Fits := by
  cases host with
  | direct channel => exact trivial
  | driven task =>
    cases running : task.running with
    | true =>
      have stopped : (driven task).release store =
          (driven ⟨(task.channel.close store).2.1, false⟩, (task.channel.close store).2.2) := by
        simp [release, ChannelTask.stop, running]
      rw [stopped]
      exact (task.channel.isOpen_close store).symm
    | false =>
      have deaf : (driven task).listens = false := running
      rw [release_of_deaf deaf]
      exact fits

theorem isOpen_serve (request : Request M) :
    (host.serve store request).2.1.channel.isOpen = (host.channel.isOpen && !request.isClose) := by
  cases listens : host.listens with
  | true =>
    rw [(serve_of_listens listens store request).2.1, Channel.isOpen_serve]
  | false =>
    rw [serve_of_deaf listens, fits.shut_of_deaf listens, Bool.false_and]

theorem fits_serve (request : Request M) : (host.serve store request).2.1.Fits := by
  cases host with
  | direct channel => exact trivial
  | driven task =>
    cases running : task.running with
    | true =>
      have served : ((driven task).serve store request).2.1 =
          driven ⟨(task.channel.serve store request).2.1, !request.isClose⟩ := by
        simp [serve, ChannelTask.serve, running]
      have isOpen : task.channel.isOpen = true := Eq.trans (Eq.symm fits) running
      have stays : (task.channel.serve store request).2.1.isOpen = !request.isClose := by
        rw [Channel.isOpen_serve, isOpen, Bool.true_and]
      rw [served]
      exact stays.symm
    | false =>
      have deaf : (driven task).listens = false := running
      rw [serve_of_deaf deaf]
      exact fits

end Fits

end Host

/-- True of requests sent together. -/
def Command.isBatch : Command M → Bool
  | requests _ _ => true
  | _ => false

/-- True of the commands through this handle. -/
def Command.names (handle : Nat) : Command M → Bool
  | share other | drop other | request other _ | requests other _ | isClosed other
  | describe other => other = handle
  | _ => false

theorem Request.isClose_withSerial (serial : Nat) (request : Request M) :
    (request.withSerial serial).isClose = request.isClose := by
  cases request <;> rfl

/-! ## Commands -/

namespace Broker

/-- True while a handle leads to the channel at a position. -/
def isHeld (broker : Broker M) (position : Nat) : Bool := broker.handles.contains (some position)

/-- True while the channel at a position is open. -/
def isOpenAt (broker : Broker M) (position : Nat) : Bool :=
  broker.hosts[position]?.any (·.channel.isOpen)

/-- True of the commands that ask the channel at a position to close. -/
def asksToClose (broker : Broker M) (position : Nat) : Command M → Bool
  | .request handle request => request.isClose && (broker.find? handle).any (·.1 = position)
  | .requests handle requests =>
    match broker.find? handle with
    | some (reached, .driven _) => requests.any Request.isClose && (reached = position : Bool)
    | _ => false
  | _ => false

/-- True of the command that drops the last handle to the channel at a position. -/
def letsGo (broker : Broker M) (position : Nat) : Command M → Bool
  | .drop handle =>
    (broker.find? handle).any (·.1 = position) && !broker.holdsBeside handle position
  | _ => false

/-- What one command does to a broker. -/
inductive Step (broker : Broker M) : Command M → Broker M → Prop
  /-- The command asks for nothing, or it leads nowhere. -/
  | idle {command : Command M} (unasked : ∀ position, broker.asksToClose position command = false)
      (kept : ∀ position, broker.letsGo position command = false) : Step broker command broker
  | stored {command : Command M} {request : QueueRequest M}
      (asked : command.queueRequest? = some request) :
      Step broker command { broker with store := (broker.store.perform request).2 }
  | opened {id : Option String} {driven : Bool} (named : Nat) {host : Host M} (fits : host.Fits)
      (isOpen : host.channel.isOpen = true) :
      Step broker (.openChannel id driven)
        { broker with
          named
          hosts := broker.hosts ++ [host]
          handles := broker.handles ++ [some broker.hosts.length] }
  | shared {handle position : Nat} {host : Host M}
      (found : broker.find? handle = some (position, host)) :
      Step broker (.share handle) { broker with handles := broker.handles ++ [some position] }
  | dropped {handle position : Nat} {host : Host M}
      (found : broker.find? handle = some (position, host))
      (beside : broker.holdsBeside handle position = true) :
      Step broker (.drop handle) { broker with handles := broker.handles.set (handle - 1) none }
  /-- The last handle lets the channel go. -/
  | released {handle position : Nat} {host : Host M}
      (found : broker.find? handle = some (position, host))
      (last : broker.holdsBeside handle position = false) :
      Step broker (.drop handle)
        { broker with
          store := (host.release broker.store).2
          hosts := broker.hosts.set position (host.release broker.store).1
          handles := broker.handles.set (handle - 1) none }
  | served {handle position : Nat} {host : Host M} {request : Request M}
      (found : broker.find? handle = some (position, host)) :
      Step broker (.request handle request) (broker.serveAt position host request).2.2
  | servedAll {handle position : Nat} {task : ChannelTask M} {requests : List (Request M)}
      (found : broker.find? handle = some (position, .driven task)) :
      Step broker (.requests handle requests)
        (broker.serveAllAt position (.driven task) requests).2

/-- Answering a command is a step. -/
theorem step_perform (broker : Broker M) (command : Command M) :
    Step broker command (broker.perform command).2 := by
  have asked : ∀ {request : QueueRequest M}, command.queueRequest? = some request →
      Step broker command (broker.perform command).2 := by
    intro request asked
    rw [broker.perform_of_queueRequest? asked]
    exact .stored asked
  cases command with
  | openChannel id driven =>
    cases driven with
    | true => exact .opened _ rfl rfl
    | false => exact .opened _ trivial rfl
  | share handle =>
    rw [perform, share]
    cases found : broker.find? handle with
    | none => exact .idle (fun _ => rfl) fun _ => rfl
    | some target =>
      obtain ⟨position, host⟩ := target
      cases host with
      | direct channel => exact .idle (fun _ => rfl) fun _ => rfl
      | driven task => exact .shared found
  | drop handle =>
    rw [perform]
    cases found : broker.find? handle with
    | none =>
      rw [drop, found]
      exact .idle (fun _ => rfl) fun _ => by rw [letsGo, found]; rfl
    | some target =>
      obtain ⟨position, host⟩ := target
      cases beside : broker.holdsBeside handle position with
      | true =>
        rw [drop_of_beside found beside]
        exact .dropped found beside
      | false =>
        rw [drop_of_last found beside]
        exact .released found beside
  | request handle request =>
    rw [perform]
    cases found : broker.find? handle with
    | none => exact .idle (fun _ => by rw [asksToClose, found]; exact Bool.and_false _) fun _ => rfl
    | some target => exact .served found
  | requests handle requests =>
    rw [perform]
    cases found : broker.find? handle with
    | none => exact .idle (fun _ => by rw [asksToClose, found]) fun _ => rfl
    | some target =>
      obtain ⟨position, host⟩ := target
      cases host with
      | direct channel => exact .idle (fun _ => by rw [asksToClose, found]) fun _ => rfl
      | driven task => exact .servedAll found
  | isClosed handle =>
    rw [perform]
    split <;> exact .idle (fun _ => rfl) fun _ => rfl
  | describe handle =>
    rw [perform]
    split <;> exact .idle (fun _ => rfl) fun _ => rfl
  | _ => exact asked rfl

/-! ### Handles and hosts after a command -/

variable {broker after : Broker M} {position : Nat} {host : Host M}

theorem isHeld_iff : broker.isHeld position = true ↔ some position ∈ broker.handles :=
  List.contains_iff_mem

theorem isHeld_of_find? {handle : Nat} (found : broker.find? handle = some (position, host)) :
    broker.isHeld position = true := by
  obtain ⟨n, _, given, _⟩ := find?_eq_some_iff.mp found
  exact isHeld_iff.mpr (List.mem_of_getElem? given)

/-- One handle more. -/
theorem isHeld_append {other : Nat} (handles : after.handles = broker.handles ++ [some other]) :
    after.isHeld position = true ↔ broker.isHeld position = true ∨ position = other := by
  rw [isHeld_iff, isHeld_iff, handles, List.mem_append, List.mem_singleton, Option.some.injEq]

/-- One handle less. -/
theorem isHeld_of_set {n : Nat} (handles : after.handles = broker.handles.set n none)
    (held : after.isHeld position = true) : broker.isHeld position = true := by
  rw [isHeld_iff, handles] at held
  exact isHeld_iff.mpr ((List.mem_or_eq_of_mem_set held).resolve_right nofun)

theorem exists_of_reached {handle : Nat}
    (reached : (broker.find? handle).any (·.1 = position) = true) :
    ∃ host, broker.find? handle = some (position, host) := by
  cases found : broker.find? handle with
  | none =>
    rw [found] at reached
    cases reached
  | some target =>
    rw [found] at reached
    obtain ⟨_, host⟩ := target
    obtain rfl := of_decide_eq_true reached
    exact ⟨host, rfl⟩

/-- Dropping a handle leaves those to other channels. -/
theorem contains_set_none {handles : List (Option Nat)} {n : Nat}
    (given : handles[n]? = some (some position)) {other : Nat} (apart : other ≠ position) :
    (handles.set n none).contains (some other) = handles.contains (some other) := by
  rw [Bool.eq_iff_iff, List.contains_iff_mem, List.contains_iff_mem]
  constructor
  · intro member
    exact (List.mem_or_eq_of_mem_set member).resolve_right (by simp)
  · intro member
    obtain ⟨k, bound, here⟩ := List.getElem_of_mem member
    have elsewhere : n ≠ k := by
      rintro rfl
      rw [List.getElem?_eq_getElem bound, here] at given
      exact apart (Option.some.inj (Option.some.inj given))
    refine List.mem_of_getElem? (i := k) ?_
    rw [List.getElem?_set_ne elsewhere, List.getElem?_eq_getElem bound, here]

theorem isOpenAt_of_set (hosts : after.hosts = broker.hosts.set position host)
    (bound : position < broker.hosts.length) (other : Nat) :
    after.isOpenAt other =
      if other = position then host.channel.isOpen else broker.isOpenAt other := by
  rw [isOpenAt, hosts]
  by_cases same : other = position
  · rw [if_pos same, same, List.getElem?_set_self bound]
    rfl
  · rw [if_neg same, List.getElem?_set_ne fun this => same this.symm, isOpenAt]

/-- What every request to a host keeps, requests sent together keep. -/
theorem serveAllAt_keeps {P : Broker M → Prop}
    (keeps : ∀ {broker : Broker M} {host : Host M} (request : Request M),
      broker.hosts[position]? = some host → P broker →
        P (broker.serveAt position host request).2.2)
    (found : broker.hosts[position]? = some host) (requests : List (Request M))
    (holds : P broker) : P (broker.serveAllAt position host requests).2 := by
  induction requests generalizing broker host with
  | nil => exact holds
  | cons request rest ih => exact ih (hosts_serveAt found request) (keeps request found holds)

theorem handles_serveAllAt (found : broker.hosts[position]? = some host)
    (requests : List (Request M)) :
    (broker.serveAllAt position host requests).2.handles = broker.handles ∧
      (broker.serveAllAt position host requests).2.hosts.length = broker.hosts.length := by
  refine serveAllAt_keeps (P := fun later => later.handles = broker.handles ∧
    later.hosts.length = broker.hosts.length) ?_ found requests ⟨rfl, rfl⟩
  rintro later host request _ ⟨handles, hosts⟩
  exact ⟨handles, (List.length_set ..).trans hosts⟩

/-- A request to the channel at a position closes it or leaves it open, and no other. -/
theorem isOpenAt_serveAt (fits : host.Fits) (found : broker.hosts[position]? = some host)
    (request : Request M) (other : Nat) :
    (broker.serveAt position host request).2.2.isOpenAt other =
      if other = position then host.channel.isOpen && !request.isClose
      else broker.isOpenAt other := by
  obtain ⟨bound, _⟩ := List.getElem?_eq_some_iff.mp found
  have hosts : (broker.serveAt position host request).2.2.hosts = broker.hosts.set position
      (host.serve broker.store (request.withSerial (broker.generated + 1))).2.1 := rfl
  rw [isOpenAt_of_set hosts bound, fits.isOpen_serve, Request.isClose_withSerial]

theorem isOpenAt_serveAllAt (fits : host.Fits) (found : broker.hosts[position]? = some host)
    (requests : List (Request M)) (other : Nat) :
    (broker.serveAllAt position host requests).2.isOpenAt other =
      if other = position then host.channel.isOpen && !requests.any Request.isClose
      else broker.isOpenAt other := by
  induction requests generalizing broker host with
  | nil =>
    by_cases same : other = position
    · rw [if_pos same, same, List.any_nil, Bool.not_false, Bool.and_true, serveAllAt, isOpenAt,
        found]
      rfl
    · rw [if_neg same]
      rfl
  | cons request rest ih =>
    have later := ih (fits.fits_serve broker.store (request.withSerial (broker.generated + 1)))
      (hosts_serveAt found request)
    refine later.trans ?_
    rw [isOpenAt_serveAt fits found]
    by_cases same : other = position
    · rw [if_pos same, if_pos same, fits.isOpen_serve, Request.isClose_withSerial, List.any_cons,
        Bool.not_or, Bool.and_assoc]
    · rw [if_neg same, if_neg same, if_neg same]

/-! ### Sound brokers -/

/-- Handles lead to hosts, tasks run while their channels are open, and channels are open only
while they are held. -/
structure Sound (broker : Broker M) : Prop where
  placed : ∀ position, broker.isHeld position = true → position < broker.hosts.length
  fits : ∀ host ∈ broker.hosts, host.Fits
  held : ∀ position, broker.isOpenAt position = true → broker.isHeld position = true

namespace Sound

/-- A broker without channels. -/
theorem fresh (idPrefix : String) (store : Store M) : ({ idPrefix, store } : Broker M).Sound where
  placed _ held := by cases held
  fits _ member := by cases member
  held _ isOpen := by cases isOpen

variable (sound : broker.Sound)

include sound

theorem fits_of_found (found : broker.hosts[position]? = some host) : host.Fits :=
  sound.fits host (List.mem_of_getElem? found)

theorem shut_of_free (free : broker.isHeld position = false) :
    broker.isOpenAt position = false :=
  eq_false_of_ne_true fun isOpen => ne_true_of_eq_false free (sound.held position isOpen)

/-- The host at a held position is replaced, and the handles stay. -/
theorem set (hosts : after.hosts = broker.hosts.set position host)
    (handles : after.handles = broker.handles) (fits : host.Fits)
    (held : broker.isHeld position = true) : after.Sound where
  placed other other_held := by
    rw [hosts, List.length_set]
    rw [isHeld, handles] at other_held
    exact sound.placed other other_held
  fits other member := by
    rw [hosts] at member
    rcases List.mem_or_eq_of_mem_set member with old | rfl
    · exact sound.fits other old
    · exact fits
  held other isOpen := by
    rw [isOpenAt_of_set hosts (sound.placed position held)] at isOpen
    rw [isHeld, handles]
    by_cases same : other = position
    · rw [same]
      exact held
    · rw [if_neg same] at isOpen
      exact sound.held other isOpen

theorem serveAt (found : broker.hosts[position]? = some host)
    (held : broker.isHeld position = true) (request : Request M) :
    (broker.serveAt position host request).2.2.Sound :=
  sound.set rfl rfl ((sound.fits_of_found found).fits_serve _ _) held

theorem serveAllAt (found : broker.hosts[position]? = some host)
    (held : broker.isHeld position = true) (requests : List (Request M)) :
    (broker.serveAllAt position host requests).2.Sound := by
  refine (serveAllAt_keeps (P := fun later => later.Sound ∧ later.isHeld position = true) ?_ found
    requests ⟨sound, held⟩).1
  rintro later host request here ⟨sound, held⟩
  exact ⟨sound.serveAt here held request, held⟩

/-- Fewer handles, and a channel is closed that nobody holds any more. -/
theorem drop {handle : Nat} (found : broker.find? handle = some (position, host))
    (handles : after.handles = broker.handles.set (handle - 1) none)
    (size : after.hosts.length = broker.hosts.length) (fits : ∀ host ∈ after.hosts, host.Fits)
    (others : ∀ other, other ≠ position → after.isOpenAt other = broker.isOpenAt other)
    (own : after.isOpenAt position = true → after.isHeld position = true) : after.Sound where
  placed other held := by
    rw [size]
    exact sound.placed other (isHeld_of_set handles held)
  fits := fits
  held other isOpen := by
    by_cases same : other = position
    · rw [same] at isOpen ⊢
      exact own isOpen
    · obtain ⟨n, rfl, given, _⟩ := find?_eq_some_iff.mp found
      rw [others other same] at isOpen
      rw [isHeld, handles, Nat.add_sub_cancel, contains_set_none given same]
      exact sound.held other isOpen

/-- **Every command keeps a broker sound.** -/
theorem perform (command : Command M) : (broker.perform command).2.Sound := by
  have step := broker.step_perform command
  generalize (broker.perform command).2 = after at step
  -- Only a new channel, a new handle and a dropped one touch what handles and hosts have to do
  -- with each other; the rest replaces a host in its place.
  cases step with
  | idle => exact sound
  | stored => exact ⟨sound.placed, sound.fits, sound.held⟩
  | @opened _ _ named host fits isOpen =>
    refine ⟨fun other held => ?_, fun other member => ?_, fun other isOpen => ?_⟩
    · rw [List.length_append, List.length_singleton]
      rcases (isHeld_append rfl).mp held with old | rfl
      · exact Nat.lt_succ_of_lt (sound.placed other old)
      · exact Nat.lt_succ_self _
    · rcases List.mem_append.mp member with old | new
      · exact sound.fits other old
      · rw [List.mem_singleton.mp new]
        exact fits
    · refine (isHeld_append rfl).mpr ?_
      rcases Nat.lt_trichotomy other broker.hosts.length with below | rfl | above
      · rw [isOpenAt, List.getElem?_append_left below] at isOpen
        exact .inl (sound.held other isOpen)
      · exact .inr rfl
      · rw [isOpenAt, List.getElem?_eq_none (by simpa using Nat.succ_le_of_lt above)] at isOpen
        cases isOpen
  | @shared handle position host found =>
    refine ⟨fun other held => ?_, sound.fits, fun other isOpen => ?_⟩
    · rcases (isHeld_append rfl).mp held with old | rfl
      · exact sound.placed other old
      · exact sound.placed other (isHeld_of_find? found)
    · exact (isHeld_append rfl).mpr (.inl (sound.held other isOpen))
  | dropped found beside =>
    exact sound.drop found rfl rfl sound.fits (fun _ _ => rfl) fun _ => beside
  | @released handle position host found last =>
    have here := host_of_find? found
    have fits := sound.fits_of_found here
    obtain ⟨bound, _⟩ := List.getElem?_eq_some_iff.mp here
    refine sound.drop found rfl (List.length_set ..) (fun other member => ?_)
      (fun other apart => ?_) fun isOpen => ?_
    · rcases List.mem_or_eq_of_mem_set member with old | rfl
      · exact sound.fits other old
      · exact fits.fits_release _
    · rw [isOpenAt_of_set rfl bound, if_neg apart]
    · rw [isOpenAt_of_set rfl bound, if_pos rfl, (fits.release_eq _).1, Channel.isOpen_close]
        at isOpen
      cases isOpen
  | served found => exact sound.serveAt (host_of_find? found) (isHeld_of_find? found) _
  | servedAll found => exact sound.serveAllAt (host_of_find? found) (isHeld_of_find? found) _

theorem run (script : List (Command M)) : (broker.run script).2.Sound := by
  induction script generalizing broker with
  | nil => exact sound
  | cons command rest ih => exact ih (sound.perform command)

end Sound

/-! ## When a channel is closed -/

/-- True of the commands that close the channel at a position. -/
def closes (broker : Broker M) (position : Nat) (command : Command M) : Bool :=
  broker.isOpenAt position && !(broker.perform command).2.isOpenAt position

/-- The steps of a script, counted from a number on, whose commands pass a test when they come. -/
def stepsWhere (test : Broker M → Command M → Bool) (broker : Broker M) (number : Nat) :
    List (Command M) → List Nat
  | [] => []
  | command :: rest =>
    (if test broker command then [number] else []) ++
      stepsWhere test (broker.perform command).2 (number + 1) rest

section Steps

variable {test : Broker M → Command M → Bool} {command : Command M} (number : Nat)
  (rest : List (Command M))

theorem stepsWhere_of_pass (passes : test broker command = true) :
    stepsWhere test broker number (command :: rest) =
      number :: stepsWhere test (broker.perform command).2 (number + 1) rest := by
  rw [stepsWhere, passes]
  rfl

theorem stepsWhere_of_fail (fails : test broker command = false) :
    stepsWhere test broker number (command :: rest) =
      stepsWhere test (broker.perform command).2 (number + 1) rest := by
  rw [stepsWhere, fails]
  rfl

end Steps

theorem stepsWhere_of_never {test : Broker M → Command M → Bool} {P : Broker M → Prop}
    (keeps : ∀ {broker : Broker M} (command : Command M), P broker → P (broker.perform command).2)
    (never : ∀ {broker : Broker M} (command : Command M), P broker → test broker command = false)
    (holds : P broker) (number : Nat) (script : List (Command M)) :
    stepsWhere test broker number script = [] := by
  induction script generalizing broker number with
  | nil => rfl
  | cons command rest ih =>
    rw [stepsWhere_of_fail number rest (never command holds), ih (keeps command holds)]

/-- Operations of the store concern no channel. -/
theorem unasked_of_queueRequest? {command : Command M} {request : QueueRequest M}
    (asked : command.queueRequest? = some request) (broker : Broker M) (position : Nat) :
    broker.asksToClose position command = false ∧ broker.letsGo position command = false := by
  cases command with
  | openChannel => cases asked
  | share => cases asked
  | drop => cases asked
  | request => cases asked
  | requests => cases asked
  | isClosed => cases asked
  | describe => cases asked
  | _ => exact ⟨rfl, rfl⟩

/-- **A channel is closed by a command that asks it to or lets it go**, and by no other. -/
theorem isOpenAt_perform (sound : broker.Sound) (bound : position < broker.hosts.length)
    (command : Command M) :
    (broker.perform command).2.isOpenAt position =
      (broker.isOpenAt position &&
        !(broker.asksToClose position command || broker.letsGo position command)) := by
  have step := broker.step_perform command
  generalize (broker.perform command).2 = after at step ⊢
  -- A command that neither asks nor lets go leaves the channel as it is.
  have spared : after.isOpenAt position = broker.isOpenAt position →
      broker.asksToClose position command = false → broker.letsGo position command = false →
      after.isOpenAt position = (broker.isOpenAt position &&
        !(broker.asksToClose position command || broker.letsGo position command)) := by
    intro same unasked kept
    rw [same, unasked, kept, Bool.or_false, Bool.not_false, Bool.and_true]
  cases step with
  | idle unasked kept => exact spared rfl (unasked position) (kept position)
  | stored asked =>
    obtain ⟨unasked, kept⟩ := unasked_of_queueRequest? asked broker position
    exact spared rfl unasked kept
  | opened =>
    refine spared ?_ rfl rfl
    rw [isOpenAt, List.getElem?_append_left bound, isOpenAt]
  | shared => exact spared rfl rfl rfl
  | @dropped handle reached host found beside =>
    refine spared rfl rfl ?_
    rw [letsGo, found]
    by_cases same : reached = position
    · rw [← same, beside]
      exact Bool.and_false _
    · simp [same]
  | @released handle reached host found last =>
    have here := host_of_find? found
    obtain ⟨reached_bound, _⟩ := List.getElem?_eq_some_iff.mp here
    rw [isOpenAt_of_set rfl reached_bound, show broker.asksToClose position (.drop handle) = false
      from rfl, letsGo, found]
    by_cases same : position = reached
    · rw [if_pos same, ((sound.fits_of_found here).release_eq _).1, Channel.isOpen_close, same,
        last]
      simp
    · have apart : ¬ reached = position := fun this => same this.symm
      simp [same, apart]
  | @served handle reached host request found =>
    have here := host_of_find? found
    rw [isOpenAt_serveAt (sound.fits_of_found here) here, asksToClose, found,
      show broker.letsGo position (.request handle request) = false from rfl]
    by_cases same : position = reached
    · rw [if_pos same, same, isOpenAt, here]
      simp
    · have apart : ¬ reached = position := fun this => same this.symm
      simp [same, apart]
  | @servedAll handle reached task requests found =>
    have here := host_of_find? found
    rw [isOpenAt_serveAllAt (sound.fits_of_found here) here, asksToClose, found,
      show broker.letsGo position (.requests handle requests) = false from rfl]
    by_cases same : position = reached
    · rw [if_pos same, same, isOpenAt, here]
      simp
    · have apart : ¬ reached = position := fun this => same this.symm
      simp [same, apart]

theorem closes_eq (sound : broker.Sound) (position : Nat) (command : Command M) :
    broker.closes position command =
      (broker.isOpenAt position &&
        (broker.asksToClose position command || broker.letsGo position command)) := by
  rw [closes]
  cases isOpen : broker.isOpenAt position with
  | false => rfl
  | true =>
    have bound := sound.placed position (sound.held position isOpen)
    rw [isOpenAt_perform sound bound, isOpen]
    simp only [Bool.true_and, Bool.not_not]

/-- Channels stay where they are. -/
theorem bound_perform (bound : position < broker.hosts.length) (command : Command M) :
    position < (broker.perform command).2.hosts.length := by
  have step := broker.step_perform command
  generalize (broker.perform command).2 = after at step ⊢
  cases step with
  | opened =>
    rw [List.length_append]
    exact Nat.lt_add_right _ bound
  | released =>
    rw [List.length_set]
    exact bound
  | served => exact (List.length_set ..).symm ▸ bound
  | servedAll found =>
    rw [(handles_serveAllAt (host_of_find? found) _).2]
    exact bound
  | _ => exact bound

/-- Nobody gets hold again of a channel that nobody holds. -/
theorem isHeld_perform (bound : position < broker.hosts.length)
    (free : broker.isHeld position = false) (command : Command M) :
    (broker.perform command).2.isHeld position = false := by
  have step := broker.step_perform command
  generalize (broker.perform command).2 = after at step ⊢
  have unheld := ne_true_of_eq_false free
  -- A new handle leads to a new channel or to one that is held already.
  cases step with
  | opened =>
    refine eq_false_of_ne_true fun held => ?_
    exact ((isHeld_append rfl).mp held).elim unheld (Nat.ne_of_lt bound)
  | shared found =>
    refine eq_false_of_ne_true fun held => ?_
    rcases (isHeld_append rfl).mp held with old | rfl
    · exact unheld old
    · exact unheld (isHeld_of_find? found)
  | dropped => exact eq_false_of_ne_true fun held => unheld (isHeld_of_set rfl held)
  | released => exact eq_false_of_ne_true fun held => unheld (isHeld_of_set rfl held)
  | servedAll found =>
    rw [isHeld, (handles_serveAllAt (host_of_find? found) _).1]
    exact free
  | _ => exact free

theorem isHeld_run (bound : position < broker.hosts.length)
    (free : broker.isHeld position = false) (script : List (Command M)) :
    (broker.run script).2.isHeld position = false := by
  induction script generalizing broker with
  | nil => exact free
  | cons command rest ih =>
    exact ih (bound_perform bound command) (isHeld_perform bound free command)

/-- The last handle is gone with the command that drops it. -/
theorem isHeld_of_letsGo {command : Command M} (lets : broker.letsGo position command = true) :
    (broker.perform command).2.isHeld position = false := by
  cases command with
  | drop handle =>
    rw [letsGo, Bool.and_eq_true, Bool.not_eq_true'] at lets
    obtain ⟨reached, last⟩ := lets
    obtain ⟨host, found⟩ := exists_of_reached reached
    rw [perform, drop_of_last found last]
    exact last
  | _ => cases lets

/-- Without a handle no command reaches a channel. -/
theorem unreached_of_free (free : broker.isHeld position = false) (command : Command M) :
    broker.asksToClose position command = false ∧ broker.letsGo position command = false := by
  have elsewhere : ∀ handle, (broker.find? handle).any (·.1 = position) = false := by
    intro handle
    cases found : broker.find? handle with
    | none => rfl
    | some target =>
      refine decide_eq_false ?_
      rintro rfl
      cases free.symm.trans (isHeld_of_find? found)
  cases command with
  | drop handle =>
    refine ⟨rfl, ?_⟩
    rw [letsGo, elsewhere, Bool.false_and]
  | request handle request =>
    refine ⟨?_, rfl⟩
    rw [asksToClose, elsewhere, Bool.and_false]
  | requests handle requests =>
    refine ⟨?_, rfl⟩
    have apart := elsewhere handle
    rw [asksToClose]
    split
    · rename_i found
      rw [found] at apart
      exact (congrArg (_ && ·) apart).trans (Bool.and_false _)
    · rfl
  | _ => exact ⟨rfl, rfl⟩

/-- A closed channel stays closed. -/
theorem shut_perform (sound : broker.Sound) (bound : position < broker.hosts.length)
    (shut : broker.isOpenAt position = false) (command : Command M) :
    (broker.perform command).2.isOpenAt position = false := by
  rw [isOpenAt_perform sound bound, shut, Bool.false_and]

/-- A place without a channel stays so, or an open channel takes it. -/
theorem vacant_perform (vacant : broker.hosts.length ≤ position) (command : Command M) :
    (broker.perform command).2.isOpenAt position = true ∨
      (broker.perform command).2.hosts.length ≤ position := by
  have step := broker.step_perform command
  generalize (broker.perform command).2 = after at step ⊢
  cases step with
  | @opened _ _ _ host _ isOpen =>
    rcases Nat.eq_or_lt_of_le vacant with rfl | beyond
    · refine .inl ?_
      rw [isOpenAt, List.getElem?_concat_length]
      exact isOpen
    · refine .inr ?_
      rw [List.length_append, List.length_singleton]
      exact beyond
  | released =>
    refine .inr ?_
    rwa [List.length_set]
  | served => exact .inr (Nat.le_trans (Nat.le_of_eq (List.length_set ..)) vacant)
  | servedAll found =>
    refine .inr ?_
    rwa [(handles_serveAllAt (host_of_find? found) _).2]
  | _ => exact .inr vacant

/-- Nothing reaches a channel that nobody holds, now or later. -/
theorem stepsWhere_of_free (bound : position < broker.hosts.length)
    (free : broker.isHeld position = false) (number : Nat) (script : List (Command M)) :
    stepsWhere (·.asksToClose position) broker number script = [] := by
  refine stepsWhere_of_never (P := fun now => position < now.hosts.length ∧
    now.isHeld position = false) ?_ ?_ ⟨bound, free⟩ number script
  · rintro now command ⟨bound, free⟩
    exact ⟨bound_perform bound command, isHeld_perform bound free command⟩
  · rintro now command ⟨_, free⟩
    exact (unreached_of_free free command).1

/-- A closed channel is not closed again. -/
theorem closings_of_shut (sound : broker.Sound) (bound : position < broker.hosts.length)
    (shut : broker.isOpenAt position = false) (number : Nat) (script : List (Command M)) :
    stepsWhere (·.closes position) broker number script = [] := by
  refine stepsWhere_of_never (P := fun now => now.Sound ∧ position < now.hosts.length ∧
    now.isOpenAt position = false) ?_ ?_ ⟨sound, bound, shut⟩ number script
  · rintro now command ⟨sound, bound, shut⟩
    exact ⟨sound.perform command, bound_perform bound command,
      shut_perform sound bound shut command⟩
  · rintro now command ⟨_, _, shut⟩
    rw [closes, shut, Bool.false_and]

/-- **The command that closes a channel** is the first one to ask it to, if there is one, and else
the one that drops its last handle. -/
theorem closings_eq (sound : broker.Sound)
    (ahead : broker.isOpenAt position = true ∨ broker.hosts.length ≤ position) (number : Nat)
    (script : List (Command M)) :
    stepsWhere (·.closes position) broker number script =
      (stepsWhere (·.asksToClose position) broker number script ++
        stepsWhere (·.letsGo position) broker number script).take 1 := by
  -- What carries the induction is that the channel is open or yet to come.
  induction script generalizing broker number with
  | nil => rfl
  | cons command rest ih =>
    have next := sound.perform command
    have closes := closes_eq sound position command
    rcases ahead with isOpen | vacant
    · have bound := sound.placed position (sound.held position isOpen)
      have after := isOpenAt_perform sound bound command
      rw [isOpen, Bool.true_and] at after closes
      cases asks : broker.asksToClose position command with
      | true =>
        rw [asks, Bool.true_or] at after closes
        rw [stepsWhere_of_pass number rest closes, stepsWhere_of_pass number rest asks,
          closings_of_shut next (bound_perform bound command) after]
        rfl
      | false =>
        cases lets : broker.letsGo position command with
        | true =>
          -- Without a handle nobody asks any more.
          have free := isHeld_of_letsGo lets
          rw [asks, lets] at after closes
          rw [stepsWhere_of_pass number rest closes, stepsWhere_of_fail number rest asks,
            stepsWhere_of_pass number rest lets,
            closings_of_shut next (bound_perform bound command) after,
            stepsWhere_of_free (bound_perform bound command) free]
          rfl
        | false =>
          rw [asks, lets] at after closes
          rw [stepsWhere_of_fail number rest closes, stepsWhere_of_fail number rest asks,
            stepsWhere_of_fail number rest lets]
          exact ih next (.inl after) (number + 1)
    · have free : broker.isHeld position = false :=
        eq_false_of_ne_true fun held => Nat.not_lt.mpr vacant (sound.placed position held)
      obtain ⟨asks, lets⟩ := unreached_of_free free command
      rw [asks, lets, Bool.or_false, Bool.and_false] at closes
      rw [stepsWhere_of_fail number rest closes, stepsWhere_of_fail number rest asks,
        stepsWhere_of_fail number rest lets]
      exact ih next (vacant_perform vacant command) (number + 1)

/-- A channel that is closed at the end of a script has been closed in it. -/
theorem length_closings (sound : broker.Sound)
    (ahead : broker.isOpenAt position = true ∨ broker.hosts.length ≤ position) (number : Nat)
    {script : List (Command M)} (bound : position < (broker.run script).2.hosts.length)
    (shut : (broker.run script).2.isOpenAt position = false) :
    (stepsWhere (·.closes position) broker number script).length = 1 := by
  induction script generalizing broker number with
  | nil =>
    rcases ahead with isOpen | vacant
    · cases isOpen.symm.trans shut
    · exact absurd bound (Nat.not_lt.mpr vacant)
  | cons command rest ih =>
    have next := sound.perform command
    cases closes : broker.closes position command with
    | true =>
      obtain ⟨isOpen, after⟩ := Bool.and_eq_true_iff.mp closes
      rw [Bool.not_eq_true'] at after
      have here := sound.placed position (sound.held position isOpen)
      rw [stepsWhere_of_pass number rest closes,
        closings_of_shut next (bound_perform here command) after]
      rfl
    | false =>
      rw [stepsWhere_of_fail number rest closes]
      refine ih next ?_ (number + 1) bound shut
      rcases ahead with isOpen | vacant
      · rw [Broker.closes, isOpen, Bool.true_and, Bool.not_eq_false'] at closes
        exact .inl closes
      · exact vacant_perform vacant command

/-- **What a close does.** A command that closes a channel changes the store and the channels as
closing the channel by hand does. -/
theorem group_perform_of_closes (sound : broker.Sound) {command : Command M}
    (single : command.isBatch = false) (closes : broker.closes position command = true) :
    ∃ channel, broker.group.channels[position]? = some channel ∧
      (broker.perform command).2.group =
        ⟨(channel.close broker.store).2.2,
          broker.group.channels.set position (channel.close broker.store).2.1⟩ := by
  rw [closes_eq sound, Bool.and_eq_true] at closes
  obtain ⟨isOpen, ends⟩ := closes
  -- The command has a handle to the channel.
  have reached : ∀ {handle : Nat}, (broker.find? handle).any (·.1 = position) = true →
      ∃ host, broker.find? handle = some (position, host) ∧ host.listens = true := by
    intro handle reached
    obtain ⟨host, found⟩ := exists_of_reached reached
    have at_position := host_of_find? found
    rw [isOpenAt, at_position] at isOpen
    exact ⟨host, found, (sound.fits_of_found at_position).listens isOpen⟩
  cases command with
  | request handle request =>
    rw [show broker.letsGo position (.request handle request) = false from rfl, Bool.or_false,
      asksToClose, Bool.and_eq_true] at ends
    obtain ⟨closing, reaches⟩ := ends
    obtain ⟨host, found, listens⟩ := reached reaches
    have present := channels_group_of_some (host_of_find? found)
    obtain rfl : request = .close := by
      cases request with
      | close => rfl
      | _ => cases closing
    refine ⟨host.channel, present, ?_⟩
    rw [group_perform, eventsOf, found]
    simp only [eventsAt, listens, if_true, ChannelGroup.after_cons, ChannelGroup.after_nil]
    have same : (Request.close : Request M).withSerial (broker.generated + 1) = .close := rfl
    rw [same, ChannelGroup.perform_request_of_some _ present]
    rfl
  | drop handle =>
    rw [show broker.asksToClose position (.drop handle) = false from rfl, Bool.false_or, letsGo,
      Bool.and_eq_true, Bool.not_eq_true'] at ends
    obtain ⟨reaches, last⟩ := ends
    obtain ⟨host, found, listens⟩ := reached reaches
    have present := channels_group_of_some (host_of_find? found)
    refine ⟨host.channel, present, ?_⟩
    rw [group_perform, eventsOf, found]
    simp only [last, listens, if_true, Bool.false_eq_true, if_false, ChannelGroup.after_cons,
      ChannelGroup.after_nil]
    rw [ChannelGroup.perform_drop_of_some _ present]
    rfl
  | requests => cases single
  | _ => cases ends

/-- Requests sent together are answered as if they were sent one after the other. -/
theorem run_requests {handle : Nat} (found : broker.find? handle = some (position, host))
    (requests : List (Request M)) :
    broker.run (requests.map (.request handle)) =
      ((broker.serveAllAt position host requests).1.map .replied,
        (broker.serveAllAt position host requests).2) := by
  induction requests generalizing broker host with
  | nil => rfl
  | cons request rest ih =>
    obtain ⟨n, rfl, given, here⟩ := find?_eq_some_iff.mp found
    have still : (broker.serveAt position host request).2.2.find? (n + 1) =
        some (position, (broker.serveAt position host request).2.1) :=
      find?_eq_some_iff.mpr ⟨n, rfl, given, hosts_serveAt here request⟩
    have first : broker.perform (.request (n + 1) request) =
        (.replied (broker.serveAt position host request).1,
          (broker.serveAt position host request).2.2) := by
      rw [perform, found]
    rw [List.map_cons, run_cons, first, ih still]
    rfl

end Broker

end MessageBroker
