import MessageBroker.Proofs.Group

/-!
# Channels behind a mailbox

A task owns a channel and takes calls from a bounded mailbox into which any number of handles send.
A call is on its way until there is room, then it waits in the mailbox until the task receives it,
and it is answered when the task has served it or when the mailbox is gone. `ManagedChannel` is the
state of such a system with the calls in flight and `Move` what can happen in it, in any order and
between any events of other channels; what a move does to the channel, to the store or to the others
is an `Act`.

The moves alone tell which handles are live and which requests are made through them
(`LiveHandles`), and the system keeps to that (`ManagedChannel.Tracked`). Once no handle is held and
no call underway, no call can come any more.
-/

set_option autoImplicit false

namespace MessageBroker

variable {M : Type}

/-! ## Calls and their mailbox -/

/-- A request made through a handle. -/
structure Call (M : Type) where
  /-- Calls are numbered in the order in which they are made. -/
  number : Nat
  handle : Nat
  request : Request M
  deriving DecidableEq, Repr

/-- The answer to a call whose reply can no longer come. -/
def Call.unavailable (call : Call M) : Call M × Reply M := (call, .failed .channelUnavailable)

/-- A channel driven by a task, the handles to it and the calls in flight, beside the store and the
other channels. -/
structure ManagedChannel (M : Type) where
  others : ChannelGroup M
  task : ChannelTask M
  /-- The number of calls that fit into the mailbox. -/
  capacity : Nat
  /-- For each handle given out whether it is still held. -/
  handles : List Bool := [true]
  made : List (Call M) := []
  /-- Calls that have not reached the mailbox. -/
  underway : List (Call M) := []
  /-- Calls that have arrived and wait, oldest first. -/
  mailbox : List (Call M) := []
  /-- The task has ended and its mailbox is gone. -/
  isGone : Bool := false
  /-- The calls answered, oldest first. -/
  replies : List (Call M × Reply M) := []

/-- Something that happens to a managed channel or beside it. -/
inductive Move (M : Type) where
  | clone (handle : Nat)
  | release (handle : Nat)
  | call (handle : Nat) (request : Request M)
  /-- One of the calls underway reaches the mailbox, if there is room. -/
  | arrive (index : Nat)
  /-- The task takes the next call and serves it. -/
  | receive
  /-- A task that has ended drops its mailbox. -/
  | retire
  | elsewhere (event : Event M)

/-- True of the moves by which calls travel and are answered. -/
def Move.isTransport : Move M → Bool
  | arrive _ | receive | retire => true
  | clone _ | release _ | call _ _ | elsewhere _ => false

/-- What happens elsewhere in a move. -/
def Move.event? : Move M → Option (Event M)
  | elsewhere event => some event
  | _ => none

/-- The handles as the moves alone tell. -/
structure LiveHandles where
  /-- The number of handles given out; the first one comes with the channel. -/
  given : Nat := 1
  /-- The handles given out and not released. -/
  live : List Nat := [0]

namespace LiveHandles

variable (handles : LiveHandles)

/-- After a move. A clone of a live handle gets the next number. -/
def step : Move M → LiveHandles
  | .clone handle =>
    if handle ∈ handles.live then ⟨handles.given + 1, handles.live ++ [handles.given]⟩ else handles
  | .release handle => { handles with live := handles.live.filter (· ≠ handle) }
  | .call _ _ | .arrive _ | .receive | .retire | .elsewhere _ => handles

/-- After some moves. -/
def after (moves : List (Move M)) : LiveHandles := moves.foldl step handles

/-- The request that a move makes through a live handle. -/
def request? : Move M → Option (Nat × Request M)
  | .call handle request => if handle ∈ handles.live then some (handle, request) else none
  | .clone _ | .release _ | .arrive _ | .receive | .retire | .elsewhere _ => none

/-- The requests made through live handles, each with its handle, in order. -/
def requests (handles : LiveHandles) : List (Move M) → List (Nat × Request M)
  | [] => []
  | move :: rest => (handles.request? move).toList ++ (handles.step move).requests rest

end LiveHandles

/-- Something done to a channel operated by hand or beside it. -/
inductive Act (M : Type) where
  | elsewhere (event : Event M)
  | answer (call : Call M)
  /-- The holder lets the channel go. -/
  | hangUp

/-- What happens elsewhere in an act. -/
def Act.event? : Act M → Option (Event M)
  | elsewhere event => some event
  | answer _ | hangUp => none

namespace ManagedChannel

/-- A task is started for a channel, with one handle and room for at least one call. -/
def spawn (channel : Channel M) (others : ChannelGroup M) (buffer : Nat) : ManagedChannel M where
  others
  task := .start channel
  capacity := max buffer 1

variable (system : ManagedChannel M)

/-- True of the handles that are held. -/
def isHeld (handle : Nat) : Bool := system.handles[handle]?.getD false

/-- True while a call may still come. -/
def hasSender : Bool := system.handles.contains true || !system.underway.isEmpty

/-- A call reaches the mailbox. Without room it has to wait, and a mailbox that is gone refuses
it. -/
def arrive (index : Nat) : ManagedChannel M :=
  match system.underway[index]? with
  | none => system
  | some call =>
    if system.isGone then
      { system with
        underway := system.underway.eraseIdx index
        replies := system.replies ++ [call.unavailable] }
    else if system.mailbox.length < system.capacity then
      { system with
        underway := system.underway.eraseIdx index
        mailbox := system.mailbox ++ [call] }
    else system

/-- The task serves the first call of the mailbox, or ends when no further call can come. -/
def receive : ManagedChannel M :=
  if system.task.running then
    match system.mailbox with
    | call :: rest =>
      let (reply, task, store) := system.task.serve system.others.store call.request
      { system with
        others := { system.others with store }
        task
        mailbox := rest
        replies := system.replies ++ [(call, reply)] }
    | [] =>
      if system.hasSender then system
      else
        let (task, store) := system.task.stop system.others.store
        { system with others := { system.others with store }, task }
  else system

/-- A task that has ended drops the calls left in its mailbox. -/
def retire : ManagedChannel M :=
  if system.task.running then system
  else
    { system with
      isGone := true
      mailbox := []
      replies := system.replies ++ system.mailbox.map Call.unavailable }

/-- One move. -/
def step : Move M → ManagedChannel M
  | .clone handle =>
    if system.isHeld handle then { system with handles := system.handles ++ [true] } else system
  | .release handle => { system with handles := system.handles.set handle false }
  | .call handle request =>
    if system.isHeld handle then
      let call := ⟨system.made.length, handle, request⟩
      { system with made := system.made ++ [call], underway := system.underway ++ [call] }
    else system
  | .arrive index => system.arrive index
  | .receive => system.receive
  | .retire => system.retire
  | .elsewhere event => { system with others := (system.others.perform event).2 }

/-- The system after some moves. -/
def after (moves : List (Move M)) : ManagedChannel M := moves.foldl step system

/-- What a move does to the channel, to the store or to the other channels. -/
def act? : Move M → Option (Act M)
  | .elsewhere event => some (.elsewhere event)
  | .receive =>
    if system.task.running then
      match system.mailbox with
      | call :: _ => some (.answer call)
      | [] => if system.hasSender then none else some .hangUp
    else none
  | _ => none

/-- The acts of a run, in order. -/
def acts (system : ManagedChannel M) : List (Move M) → List (Act M)
  | [] => []
  | move :: rest => (system.act? move).toList ++ (system.step move).acts rest

/-- The call that a move brings to the mailbox, be there one or not. -/
def arrival? : Move M → Option (Call M)
  | .arrive index =>
    if system.isGone || system.mailbox.length < system.capacity then system.underway[index]?
    else none
  | _ => none

/-- The calls in the order of their arrival. -/
def arrivals (system : ManagedChannel M) : List (Move M) → List (Call M)
  | [] => []
  | move :: rest => (system.arrival? move).toList ++ (system.step move).arrivals rest

end ManagedChannel

/-! ## What the task does -/

namespace ManagedChannel

theorem receive_of_cons (system : ManagedChannel M) (running : system.task.running = true)
    {call : Call M} {rest : List (Call M)} (waiting : system.mailbox = call :: rest) :
    let served := system.task.channel.serve system.others.store call.request
    system.receive =
      { system with
        others := { system.others with store := served.2.2 }
        task := ⟨served.2.1, !call.request.isClose⟩
        mailbox := rest
        replies := system.replies ++ [(call, served.1)] } := by
  simp [receive, running, waiting, ChannelTask.serve]

/-- What a task that looks for a call does to the system, and the act it amounts to. -/
inductive Receiving (system : ManagedChannel M) : Option (Act M) → ManagedChannel M → Prop
  /-- The task has ended, or it waits for calls that may still come. -/
  | idle (waits : system.task.running = true → system.mailbox = [] ∧ system.hasSender = true) :
      Receiving system none system
  | serving (running : system.task.running = true) {call : Call M} {rest : List (Call M)}
      (waiting : system.mailbox = call :: rest) : Receiving system (some (.answer call))
        { system with
          others := { system.others with
            store := (system.task.channel.serve system.others.store call.request).2.2 }
          task := ⟨(system.task.channel.serve system.others.store call.request).2.1,
            !call.request.isClose⟩
          mailbox := rest
          replies := system.replies ++
            [(call, (system.task.channel.serve system.others.store call.request).1)] }
  | ending (running : system.task.running = true) (waiting : system.mailbox = [])
      (silent : system.hasSender = false) : Receiving system (some .hangUp)
        { system with
          others := { system.others with
            store := (system.task.channel.close system.others.store).2.2 }
          task := ⟨(system.task.channel.close system.others.store).2.1, false⟩ }

theorem receiving (system : ManagedChannel M) :
    system.Receiving (system.act? .receive) system.receive := by
  cases running : system.task.running with
  | false =>
    have none_done : system.act? .receive = none := by simp [act?, running]
    have unmoved : system.receive = system := by simp [receive, running]
    rw [none_done, unmoved]
    exact .idle fun ran => nomatch running.symm.trans ran
  | true =>
    cases waiting : system.mailbox with
    | cons call rest =>
      have done : system.act? .receive = some (.answer call) := by simp [act?, running, waiting]
      rw [done, system.receive_of_cons running waiting]
      exact .serving running waiting
    | nil =>
      cases heard : system.hasSender with
      | true =>
        have none_done : system.act? .receive = none := by simp [act?, running, waiting, heard]
        have unmoved : system.receive = system := by simp [receive, running, waiting, heard]
        rw [none_done, unmoved]
        exact .idle fun _ => ⟨waiting, heard⟩
      | false =>
        have done : system.act? .receive = some .hangUp := by
          simp [act?, running, waiting, heard]
        have moved : system.receive =
            { system with
              others := { system.others with
                store := (system.task.channel.close system.others.store).2.2 }
              task := ⟨(system.task.channel.close system.others.store).2.1, false⟩ } := by
          simp [receive, running, waiting, heard, ChannelTask.stop]
        rw [done, moved]
        exact .ending running waiting heard

/-! ## Handles -/

/-- The moves that carry calls make none, and they leave the handles alone. -/
theorem spared_of_isTransport (system : ManagedChannel M) {move : Move M}
    (transport : move.isTransport = true) :
    (system.step move).made = system.made ∧ (system.step move).handles = system.handles := by
  cases move with
  | arrive index =>
    rw [step, arrive]
    split
    · exact ⟨rfl, rfl⟩
    · split
      · exact ⟨rfl, rfl⟩
      · split
        · exact ⟨rfl, rfl⟩
        · exact ⟨rfl, rfl⟩
  | receive =>
    have received := system.receiving
    rw [step]
    generalize system.act? .receive = act at received
    generalize system.receive = later at received ⊢
    cases received with
    | idle => exact ⟨rfl, rfl⟩
    | serving => exact ⟨rfl, rfl⟩
    | ending => exact ⟨rfl, rfl⟩
  | retire =>
    rw [step, retire]
    split
    · exact ⟨rfl, rfl⟩
    · exact ⟨rfl, rfl⟩
  | clone handle => cases transport
  | release handle => cases transport
  | call handle request => cases transport
  | elsewhere event => cases transport

theorem isHeld_append {system later : ManagedChannel M}
    (handles : later.handles = system.handles ++ [true]) (handle : Nat) :
    later.isHeld handle = true ↔ system.isHeld handle = true ∨ handle = system.handles.length := by
  rw [isHeld, isHeld, handles]
  rcases Nat.lt_trichotomy handle system.handles.length with below | rfl | above
  · rw [List.getElem?_append_left below]
    simp [Nat.ne_of_lt below]
  · simp
  · rw [List.getElem?_eq_none (by simpa using Nat.succ_le_of_lt above),
      List.getElem?_eq_none (Nat.le_of_lt above)]
    simp [Nat.ne_of_gt above]

theorem isHeld_set {system later : ManagedChannel M} {released : Nat}
    (handles : later.handles = system.handles.set released false) (handle : Nat) :
    later.isHeld handle = true ↔ system.isHeld handle = true ∧ handle ≠ released := by
  rw [isHeld, isHeld, handles]
  by_cases same : released = handle
  · subst same
    rw [List.getElem?_set_self']
    cases system.handles[released]? <;> simp
  · rw [List.getElem?_set_ne same]
    simp [Ne.symm same]

/-- The handles that are held are the live ones. -/
structure Tracked (system : ManagedChannel M) (handles : LiveHandles) : Prop where
  given : handles.given = system.handles.length
  live : ∀ handle, system.isHeld handle = true ↔ handle ∈ handles.live

namespace Tracked

variable {system : ManagedChannel M} {handles : LiveHandles}

/-- A move that leaves the handles alone. -/
theorem of_handles_eq (tracked : system.Tracked handles) {later : ManagedChannel M}
    (same : later.handles = system.handles) : later.Tracked handles where
  given := by rw [same, tracked.given]
  live handle := by
    rw [isHeld, same]
    exact tracked.live handle

/-- A move, and the call that it makes. -/
theorem step (tracked : system.Tracked handles) (move : Move M) :
    (system.step move).Tracked (handles.step move) ∧
      (system.step move).made.map (fun call => (call.handle, call.request)) =
        system.made.map (fun call => (call.handle, call.request)) ++
          (handles.request? move).toList := by
  have spared : move.isTransport = true → (system.step move).Tracked handles ∧
      (system.step move).made.map (fun call => (call.handle, call.request)) =
        system.made.map (fun call => (call.handle, call.request)) ++ [] := by
    intro transport
    obtain ⟨made, same⟩ := system.spared_of_isTransport transport
    rw [made, List.append_nil]
    exact ⟨tracked.of_handles_eq same, rfl⟩
  cases move with
  | clone handle =>
    rw [ManagedChannel.step, LiveHandles.step, LiveHandles.request?, Option.toList_none,
      List.append_nil]
    by_cases held : system.isHeld handle = true
    · rw [if_pos held, if_pos ((tracked.live handle).mp held)]
      refine ⟨⟨?_, fun other => ?_⟩, rfl⟩
      · rw [List.length_append, List.length_singleton, tracked.given]
      · rw [isHeld_append rfl, tracked.live, List.mem_append, List.mem_singleton, tracked.given]
    · rw [if_neg held, if_neg (mt (tracked.live handle).mpr held)]
      exact ⟨tracked, rfl⟩
  | release handle =>
    refine ⟨⟨?_, fun other => ?_⟩, (List.append_nil _).symm⟩
    · rw [LiveHandles.step, ManagedChannel.step, List.length_set, tracked.given]
    · rw [ManagedChannel.step, isHeld_set rfl, tracked.live, LiveHandles.step, List.mem_filter,
        decide_eq_true_eq]
  | call handle request =>
    rw [ManagedChannel.step, LiveHandles.step, LiveHandles.request?]
    by_cases held : system.isHeld handle = true
    · rw [if_pos held, if_pos ((tracked.live handle).mp held)]
      exact ⟨tracked.of_handles_eq rfl, List.map_append⟩
    · rw [if_neg held, if_neg (mt (tracked.live handle).mpr held)]
      exact ⟨tracked, (List.append_nil _).symm⟩
  | arrive index => exact spared rfl
  | receive => exact spared rfl
  | retire => exact spared rfl
  | elsewhere event => exact ⟨tracked.of_handles_eq rfl, (List.append_nil _).symm⟩

/-- A run. -/
theorem after (tracked : system.Tracked handles) (moves : List (Move M)) :
    (system.after moves).Tracked (handles.after moves) ∧
      (system.after moves).made.map (fun call => (call.handle, call.request)) =
        system.made.map (fun call => (call.handle, call.request)) ++ handles.requests moves := by
  induction moves generalizing system handles with
  | nil => exact ⟨tracked, (List.append_nil _).symm⟩
  | cons move rest ih =>
    obtain ⟨next, made⟩ := tracked.step move
    obtain ⟨last, all_made⟩ := ih next
    refine ⟨last, ?_⟩
    rw [LiveHandles.requests, ← List.append_assoc, ← made]
    exact all_made

end Tracked

/-! ## When no call can come any more -/

/-- Nothing arrives where there is no sender. -/
theorem underway_of_silent {system : ManagedChannel M} (silent : system.hasSender = false) :
    system.underway = [] := by
  simp only [hasSender, Bool.or_eq_false_iff, Bool.not_eq_false', List.isEmpty_iff] at silent
  exact silent.2

theorem not_isHeld_of_silent {system : ManagedChannel M} (silent : system.hasSender = false)
    (handle : Nat) : system.isHeld handle = false := by
  simp only [hasSender, Bool.or_eq_false_iff] at silent
  rw [isHeld]
  cases found : system.handles[handle]? with
  | none => rfl
  | some held =>
    cases held with
    | false => rfl
    | true =>
      have member := List.contains_iff_mem.mpr (List.mem_of_getElem? found)
      cases silent.1.symm.trans member

/-- Then it stays so, and an empty mailbox stays empty. -/
theorem silent_step {system : ManagedChannel M} (silent : system.hasSender = false)
    (move : Move M) :
    (system.step move).hasSender = false ∧
      (system.mailbox = [] → (system.step move).mailbox = []) := by
  -- With no handle held and no call underway, clones, calls and arrivals come to nothing.
  have unheld := fun handle => ne_true_of_eq_false (not_isHeld_of_silent silent handle)
  cases move with
  | clone handle =>
    rw [step, if_neg (unheld handle)]
    exact ⟨silent, id⟩
  | release handle =>
    refine ⟨?_, id⟩
    simp only [hasSender, Bool.or_eq_false_iff] at silent ⊢
    refine ⟨?_, silent.2⟩
    have none_held : true ∉ system.handles := by
      intro member
      cases silent.1.symm.trans (List.contains_iff_mem.mpr member)
    rw [← Bool.not_eq_true, List.contains_iff_mem]
    intro member
    rcases List.mem_or_eq_of_mem_set member with old | new
    · exact none_held old
    · cases new
  | call handle request =>
    rw [step, if_neg (unheld handle)]
    exact ⟨silent, id⟩
  | arrive index =>
    have unmoved : system.arrive index = system := by
      rw [arrive, underway_of_silent silent]
      rfl
    rw [step, unmoved]
    exact ⟨silent, id⟩
  | receive =>
    have received := system.receiving
    rw [step]
    generalize system.act? .receive = act at received
    generalize system.receive = later at received ⊢
    cases received with
    | idle => exact ⟨silent, id⟩
    | serving _ waiting =>
      refine ⟨silent, fun nothing => ?_⟩
      cases waiting.symm.trans nothing
    | ending => exact ⟨silent, id⟩
  | retire =>
    rw [step, retire]
    split
    · exact ⟨silent, id⟩
    · exact ⟨silent, fun _ => rfl⟩
  | elsewhere event => exact ⟨silent, id⟩

theorem silent_after {system : ManagedChannel M} (silent : system.hasSender = false)
    (nothing : system.mailbox = []) (moves : List (Move M)) :
    (system.after moves).hasSender = false ∧ (system.after moves).mailbox = [] := by
  induction moves generalizing system with
  | nil => exact ⟨silent, nothing⟩
  | cons move rest ih =>
    obtain ⟨still_silent, still_nothing⟩ := silent_step silent move
    exact ih still_silent (still_nothing nothing)

/-- A task that nobody can call ends when it has served what waits. -/
theorem running_receive_of_silent {system : ManagedChannel M} (silent : system.hasSender = false)
    (nothing : system.mailbox = []) : system.receive.task.running = false := by
  have received := system.receiving
  generalize system.act? .receive = act at received
  generalize system.receive = later at received ⊢
  cases received with
  | idle waits =>
    refine eq_false_of_ne_true fun running => ?_
    exact ne_true_of_eq_false silent (waits running).2
  | serving _ waiting => cases waiting.symm.trans nothing
  | ending => rfl

theorem silent_of_unheld {system : ManagedChannel M}
    (unheld : ∀ handle, system.isHeld handle = false) (nothing : system.underway = []) :
    system.hasSender = false := by
  rw [hasSender, nothing, List.isEmpty_nil, Bool.not_true, Bool.or_false]
  refine eq_false_of_ne_true fun held => ?_
  obtain ⟨handle, found⟩ := List.getElem?_of_mem (List.contains_iff_mem.mp held)
  have unheld_here := unheld handle
  rw [isHeld, found] at unheld_here
  cases unheld_here

/-- A channel is let go only when no call can come and none waits. -/
theorem silent_of_hangUp_mem {system : ManagedChannel M} {moves : List (Move M)}
    (letGo : Act.hangUp ∈ system.acts moves) :
    (system.after moves).hasSender = false ∧ (system.after moves).mailbox = [] := by
  induction moves generalizing system with
  | nil => cases letGo
  | cons move rest ih =>
    rw [acts, List.mem_append] at letGo
    rcases letGo with now | later
    · obtain ⟨silent, nothing⟩ : system.hasSender = false ∧ system.mailbox = [] := by
        -- Only a task that ends amounts to a hang-up.
        cases move with
        | receive =>
          have received := system.receiving
          rw [Option.mem_toList.mp now] at received
          generalize system.receive = later at received
          cases received with
          | ending _ waiting silent => exact ⟨silent, waiting⟩
        | elsewhere event => cases Option.mem_toList.mp now
        | _ => cases now
      exact silent_after silent nothing (move :: rest)
    · exact ih later

/-- At the start there is one handle. -/
theorem tracked_spawn (channel : Channel M) (others : ChannelGroup M) (buffer : Nat) :
    (spawn channel others buffer).Tracked {} where
  given := rfl
  live handle := by
    rw [List.mem_singleton]
    cases handle with
    | zero => exact ⟨fun _ => rfl, fun _ => rfl⟩
    | succ handle => exact ⟨nofun, nofun⟩

end ManagedChannel

end MessageBroker
