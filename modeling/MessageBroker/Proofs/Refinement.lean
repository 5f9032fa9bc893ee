import Mathlib.Data.List.Perm.Basic
import MessageBroker.Proofs.Mailbox

/-!
# A channel behind a mailbox as one operated by hand

A `DirectChannel` is operated by hand, one act after another. Every run of a managed channel does to
the channel, to the store and to the others what its acts do, answers the calls up to the first
close as they are answered by hand and every later one that the channel is unavailable
(`ManagedChannel.managed_eq_direct`). No call is lost on its way (`ManagedChannel.Carried`), and
whatever is in flight can be brought to its answer (`ManagedChannel.exists_drain`).
-/

set_option autoImplicit false

namespace MessageBroker

variable {M : Type}

/-! ## The same channel operated by hand -/

/-- A channel and those beside it, with the answers given so far. -/
structure DirectChannel (M : Type) where
  others : ChannelGroup M
  channel : Channel M
  replies : List (Call M × Reply M) := []

namespace DirectChannel

variable (direct : DirectChannel M)

/-- One act. -/
def step : Act M → DirectChannel M
  | .elsewhere event => { direct with others := (direct.others.perform event).2 }
  | .answer call =>
    let (reply, channel, store) := direct.channel.serve direct.others.store call.request
    ⟨{ direct.others with store }, channel, direct.replies ++ [(call, reply)]⟩
  | .hangUp =>
    let (_, channel, store) := direct.channel.close direct.others.store
    { direct with others := { direct.others with store }, channel }

/-- The channel after some acts. -/
def after (acts : List (Act M)) : DirectChannel M := acts.foldl step direct

theorem after_append (first second : List (Act M)) :
    direct.after (first ++ second) = (direct.after first).after second :=
  List.foldl_append

end DirectChannel

/-- The calls up to the first close, this one included. -/
def upToClose : List (Call M) → List (Call M)
  | [] => []
  | call :: rest => if call.request.isClose then [call] else call :: upToClose rest

theorem upToClose_of_open {calls : List (Call M)}
    (stays : ∀ call ∈ calls, call.request.isClose = false) : upToClose calls = calls := by
  induction calls with
  | nil => rfl
  | cons call rest ih =>
    rw [upToClose, stays call List.mem_cons_self, if_neg Bool.false_ne_true,
      ih fun other member => stays other (List.mem_cons_of_mem _ member)]

theorem upToClose_append {earlier : List (Call M)} {closing : Call M}
    (stays : ∀ call ∈ earlier, call.request.isClose = false)
    (closes : closing.request.isClose = true) (later : List (Call M)) :
    upToClose (earlier ++ closing :: later) = earlier ++ [closing] := by
  induction earlier with
  | nil => rw [List.nil_append, upToClose, if_pos closes, List.nil_append]
  | cons call rest ih =>
    rw [List.cons_append, upToClose, stays call List.mem_cons_self, if_neg Bool.false_ne_true,
      ih fun other member => stays other (List.mem_cons_of_mem _ member), List.cons_append]

/-! ## The system follows the channel operated by hand -/

namespace ManagedChannel

/-- How far a managed channel has come, and which calls were refused. -/
inductive Phase (system : ManagedChannel M) (direct : DirectChannel M) (refused : List (Call M)) :
    Prop
  | serving (running : system.task.running = true) (present : system.isGone = false)
      (none_refused : refused = [])
      (stays : ∀ call ∈ direct.replies.map (·.1), call.request.isClose = false)
  | closed (stopped : system.task.running = false) {earlier : List (Call M)} {closing : Call M}
      (answered : direct.replies.map (·.1) = earlier ++ [closing])
      (stays : ∀ call ∈ earlier, call.request.isClose = false)
      (closes : closing.request.isClose = true)
  /-- The last handle is gone, and with it every call. -/
  | hungUp (stopped : system.task.running = false) (silent : system.hasSender = false)
      (nothing : system.mailbox = []) (none_refused : refused = [])
      (stays : ∀ call ∈ direct.replies.map (·.1), call.request.isClose = false)

/-- A managed channel does what the channel operated by hand does, and has refused some calls
since. -/
structure Follows (system : ManagedChannel M) (direct : DirectChannel M)
    (refused : List (Call M)) : Prop where
  others : system.others = direct.others
  channel : system.task.channel = direct.channel
  replies : system.replies = direct.replies ++ refused.map Call.unavailable
  phase : system.Phase direct refused

namespace Follows

variable {system later : ManagedChannel M} {direct : DirectChannel M} {refused : List (Call M)}

/-- A move that leaves the channel, the others and the answers alone. -/
theorem quiet (follows : system.Follows direct refused) (others : later.others = system.others)
    (task : later.task = system.task) (replies : later.replies = system.replies)
    (isGone : later.isGone = system.isGone)
    (silent : system.hasSender = false →
      later.hasSender = false ∧ (system.mailbox = [] → later.mailbox = [])) :
    later.Follows direct refused where
  others := others.trans follows.others
  channel := by
    rw [task]
    exact follows.channel
  replies := replies.trans follows.replies
  phase := by
    cases follows.phase with
    | serving running present none_refused stays =>
      exact .serving (by rwa [task]) (by rwa [isGone]) none_refused stays
    | closed stopped answered stays closes =>
      exact .closed (by rwa [task]) answered stays closes
    | hungUp stopped was_silent nothing none_refused stays =>
      obtain ⟨still_silent, still_nothing⟩ := silent was_silent
      exact .hungUp (by rwa [task]) still_silent (still_nothing nothing) none_refused stays

theorem arrive (follows : system.Follows direct refused) (index : Nat) :
    ∃ refused, (system.arrive index).Follows direct refused := by
  rw [ManagedChannel.arrive]
  split
  · exact ⟨refused, follows⟩
  · rename_i call found
    -- A call was underway, so the last handle is not gone.
    have heard : system.hasSender ≠ false := by
      intro silent
      rw [underway_of_silent silent] at found
      cases found
    split
    · rename_i gone
      -- A call to a mailbox that is gone is refused, behind those refused before.
      refine ⟨refused ++ [call], {
        others := follows.others
        channel := follows.channel
        replies := by
          rw [follows.replies, List.map_append, List.append_assoc]
          rfl
        phase := ?_ }⟩
      cases follows.phase with
      | serving _ present => cases present.symm.trans gone
      | closed stopped answered stays closes => exact .closed stopped answered stays closes
      | hungUp _ silent => exact absurd silent heard
    · split
      · exact ⟨refused, follows.quiet rfl rfl rfl rfl fun silent => absurd silent heard⟩
      · exact ⟨refused, follows⟩

theorem receive (follows : system.Follows direct refused) :
    system.receive.Follows (direct.after (system.act? .receive).toList) refused := by
  -- While the task runs, everything before has been answered and nothing refused.
  have serving : system.task.running = true → system.isGone = false ∧ refused = [] ∧
      ∀ call ∈ direct.replies.map (·.1), call.request.isClose = false := by
    intro running
    cases follows.phase with
    | serving _ present none_refused stays => exact ⟨present, none_refused, stays⟩
    | closed stopped => cases stopped.symm.trans running
    | hungUp stopped => cases stopped.symm.trans running
  have received := system.receiving
  generalize system.act? .receive = act at received ⊢
  generalize system.receive = later at received ⊢
  cases received with
  | idle => exact follows
  | @serving running call rest waiting =>
    obtain ⟨present, rfl, stays⟩ := serving running
    show Follows _ (direct.step (.answer call)) []
    have answered : (direct.step (.answer call)).replies.map (·.1) =
        direct.replies.map (·.1) ++ [call] := List.map_append
    exact {
      others := by rw [DirectChannel.step, follows.others, follows.channel]
      channel := by rw [DirectChannel.step, follows.others, follows.channel]
      replies := by
        rw [DirectChannel.step, follows.others, follows.channel, follows.replies, List.map_nil,
          List.append_nil, List.append_nil]
      phase := by
        cases closes : call.request.isClose with
        | true => exact .closed rfl answered stays closes
        | false =>
          refine .serving rfl present rfl ?_
          intro other member
          rw [answered] at member
          rcases List.mem_append.mp member with old | new
          · exact stays other old
          · rwa [List.mem_singleton.mp new] }
  | ending running waiting silent =>
    obtain ⟨_, rfl, stays⟩ := serving running
    show Follows _ (direct.step .hangUp) []
    exact {
      others := by rw [DirectChannel.step, follows.others, follows.channel]
      channel := by rw [DirectChannel.step, follows.others, follows.channel]
      replies := follows.replies
      phase := .hungUp rfl silent waiting rfl stays }

theorem retire (follows : system.Follows direct refused) :
    ∃ refused, system.retire.Follows direct refused := by
  rw [ManagedChannel.retire]
  split
  · exact ⟨refused, follows⟩
  · rename_i stopped
    -- What waits in the mailbox is refused; it arrived before anything still underway.
    refine ⟨refused ++ system.mailbox, {
      others := follows.others
      channel := follows.channel
      replies := by rw [follows.replies, List.map_append, List.append_assoc]
      phase := ?_ }⟩
    cases follows.phase with
    | serving running => exact absurd running stopped
    | closed _ answered stays closes =>
      exact .closed (Bool.eq_false_iff.mpr stopped) answered stays closes
    | hungUp _ silent nothing none_refused stays =>
      rw [none_refused, nothing]
      exact .hungUp (Bool.eq_false_iff.mpr stopped) silent rfl rfl stays

theorem elsewhere (follows : system.Follows direct refused) (event : Event M) :
    (system.step (.elsewhere event)).Follows (direct.step (.elsewhere event)) refused where
  others := by
    rw [step, DirectChannel.step, follows.others]
  channel := follows.channel
  replies := follows.replies
  phase := by
    cases follows.phase with
    | serving running present none_refused stays =>
      exact .serving running present none_refused stays
    | closed stopped answered stays closes => exact .closed stopped answered stays closes
    | hungUp stopped silent nothing none_refused stays =>
      exact .hungUp stopped silent nothing none_refused stays

/-- One move. -/
theorem step (follows : system.Follows direct refused) (move : Move M) :
    ∃ refused, (system.step move).Follows (direct.after (system.act? move).toList) refused := by
  cases move with
  | clone handle | call handle request =>
    refine ⟨refused, follows.quiet ?_ ?_ ?_ ?_ fun silent => silent_step silent _⟩
    all_goals
      rw [ManagedChannel.step]
      split
      · rfl
      · rfl
  | release handle =>
    exact ⟨refused, follows.quiet rfl rfl rfl rfl fun silent => silent_step silent _⟩
  | arrive index => exact follows.arrive index
  | receive => exact ⟨refused, follows.receive⟩
  | retire => exact follows.retire
  | elsewhere event => exact ⟨refused, follows.elsewhere event⟩

/-- A run. -/
theorem after (follows : system.Follows direct refused) (moves : List (Move M)) :
    ∃ refused, (system.after moves).Follows (direct.after (system.acts moves)) refused := by
  induction moves generalizing system direct refused with
  | nil => exact ⟨refused, follows⟩
  | cons move rest ih =>
    obtain ⟨now_refused, followed⟩ := follows.step move
    obtain ⟨last_refused, last⟩ := ih followed
    refine ⟨last_refused, ?_⟩
    rw [acts, DirectChannel.after_append]
    exact last

end Follows

theorem Follows.answered_eq {system : ManagedChannel M} {direct : DirectChannel M}
    {refused : List (Call M)} (follows : system.Follows direct refused) :
    system.replies.map (·.1) = direct.replies.map (·.1) ++ refused := by
  rw [follows.replies, List.map_append, List.map_map]
  congr 1
  exact List.map_id _

/-- The calls served are those up to the first close. -/
theorem Follows.upToClose_eq {system : ManagedChannel M} {direct : DirectChannel M}
    {refused : List (Call M)} (follows : system.Follows direct refused) :
    direct.replies.map (·.1) = upToClose (system.replies.map (·.1)) := by
  rw [follows.answered_eq]
  cases follows.phase with
  | serving _ _ none_refused stays =>
    rw [none_refused, List.append_nil, upToClose_of_open stays]
  | closed _ answered stays closes =>
    rw [answered, List.append_assoc, List.singleton_append, upToClose_append stays closes]
  | hungUp _ _ _ none_refused stays =>
    rw [none_refused, List.append_nil, upToClose_of_open stays]

/-! ## Calls in flight -/

/-- Every call made has arrived or is underway; what has arrived is answered or waits, in order of
arrival. -/
structure Carried (system : ManagedChannel M) (arrived : List (Call M)) : Prop where
  arrived_eq : system.replies.map (·.1) ++ system.mailbox = arrived
  made_perm : (arrived ++ system.underway).Perm system.made
  numbered : system.made.map (·.number) = List.range system.made.length
  room : 0 < system.capacity
  gone : system.isGone = true → system.mailbox = [] ∧ system.task.running = false

namespace Carried

variable {system : ManagedChannel M} {arrived : List (Call M)}

theorem call (carried : system.Carried arrived) (handle : Nat) (request : Request M) :
    (system.step (.call handle request)).Carried arrived := by
  rw [step]
  split
  · exact { carried with
      made_perm := by
        rw [← List.append_assoc]
        exact carried.made_perm.append_right _
      numbered := by
        rw [List.map_append, carried.numbered, List.length_append]
        exact List.range_succ.symm }
  · exact carried

theorem arrive (carried : system.Carried arrived) (index : Nat) :
    (system.arrive index).Carried (arrived ++ (system.arrival? (.arrive index)).toList) := by
  have stays : system.Carried (arrived ++ []) := (List.append_nil arrived).symm ▸ carried
  rw [ManagedChannel.arrive, arrival?]
  cases found : system.underway[index]? with
  | none =>
    rw [ite_self]
    exact stays
  | some call =>
    -- The call changes sides.
    have made_perm : (arrived ++ [call] ++ system.underway.eraseIdx index).Perm system.made := by
      obtain ⟨bound, rfl⟩ := List.getElem?_eq_some_iff.mp found
      rw [List.append_assoc, List.singleton_append]
      exact ((List.getElem_cons_eraseIdx_perm bound).append_left arrived).trans carried.made_perm
    dsimp only
    by_cases accessible : (system.isGone || system.mailbox.length < system.capacity) = true
    · rw [if_pos accessible]
      split
      · rename_i gone
        exact { carried with
          arrived_eq := by
            rw [← carried.arrived_eq, (carried.gone gone).1, List.append_nil, List.append_nil]
            exact List.map_append
          made_perm }
      · rename_i present
        rw [Bool.not_eq_true] at present
        rw [present, Bool.false_or, decide_eq_true_eq] at accessible
        rw [if_pos accessible]
        exact { carried with
          arrived_eq := by
            rw [← List.append_assoc, carried.arrived_eq]
            rfl
          made_perm
          gone := fun gone => by cases present.symm.trans gone }
    · rw [if_neg accessible]
      rw [Bool.not_eq_true, Bool.or_eq_false_iff, decide_eq_false_iff_not] at accessible
      rw [if_neg (Bool.not_eq_true _ ▸ accessible.1), if_neg accessible.2]
      exact stays

theorem receive (carried : system.Carried arrived) : system.receive.Carried arrived := by
  have present : system.task.running = true → system.isGone ≠ true := by
    intro running gone
    cases (carried.gone gone).2.symm.trans running
  have received := system.receiving
  generalize system.act? .receive = act at received
  generalize system.receive = later at received ⊢
  cases received with
  | idle => exact carried
  | @serving running call rest waiting =>
    exact { carried with
      arrived_eq := by
        rw [← carried.arrived_eq, waiting, List.map_append, List.append_assoc]
        rfl
      gone := fun gone => absurd gone (present running) }
  | ending running =>
    exact { carried with gone := fun gone => absurd gone (present running) }

theorem retire (carried : system.Carried arrived) : system.retire.Carried arrived := by
  rw [ManagedChannel.retire]
  split
  · exact carried
  · rename_i stopped
    exact { carried with
      arrived_eq := by
        rw [List.map_append, List.map_map, List.append_nil, ← carried.arrived_eq]
        congr 1
        exact List.map_id _
      gone := fun _ => ⟨rfl, Bool.eq_false_iff.mpr stopped⟩ }

/-- One move. -/
theorem step (carried : system.Carried arrived) (move : Move M) :
    (system.step move).Carried (arrived ++ (system.arrival? move).toList) := by
  have stays : system.Carried (arrived ++ []) := (List.append_nil arrived).symm ▸ carried
  cases move with
  | clone handle =>
    rw [ManagedChannel.step]
    split
    · exact { stays with }
    · exact stays
  | release handle => exact { stays with }
  | call handle request => exact stays.call handle request
  | arrive index => exact carried.arrive index
  | receive => exact stays.receive
  | retire => exact stays.retire
  | elsewhere event => exact { stays with }

/-- A run. -/
theorem after (carried : system.Carried arrived) (moves : List (Move M)) :
    (system.after moves).Carried (arrived ++ system.arrivals moves) := by
  induction moves generalizing system arrived with
  | nil => exact (List.append_nil arrived).symm ▸ carried
  | cons move rest ih =>
    rw [arrivals, ← List.append_assoc]
    exact ih (carried.step move)

end Carried

/-! ## Every call is answered -/

/-- What is left to do for the calls in flight: a call underway arrives and leaves the mailbox. -/
def pending (system : ManagedChannel M) : Nat :=
  2 * system.underway.length + system.mailbox.length

theorem pending_eq_zero_iff {system : ManagedChannel M} :
    system.pending = 0 ↔ system.mailbox = [] ∧ system.underway = [] := by
  rw [pending, ← List.length_eq_zero_iff, ← List.length_eq_zero_iff]
  omega

/-- While calls are in flight, one of them can move on. -/
theorem exists_progress {system : ManagedChannel M} {arrived : List (Call M)}
    (carried : system.Carried arrived) (inFlight : 0 < system.pending) :
    ∃ move, move.isTransport = true ∧ (system.step move).pending < system.pending := by
  cases waiting : system.mailbox with
  | cons call rest =>
    cases running : system.task.running with
    | true =>
      refine ⟨.receive, rfl, ?_⟩
      rw [step, system.receive_of_cons running waiting, pending, pending, waiting, List.length_cons]
      exact Nat.lt_succ_self _
    | false =>
      refine ⟨.retire, rfl, ?_⟩
      have dropped : system.retire.underway = system.underway ∧ system.retire.mailbox = [] := by
        simp [retire, running]
      rw [step, pending, dropped.1, dropped.2, pending, waiting]
      exact Nat.lt_succ_of_le (Nat.le_add_right _ _)
  | nil =>
    cases underway : system.underway with
    | nil =>
      rw [pending, underway, waiting] at inFlight
      cases inFlight
    | cons call rest =>
      -- The mailbox is gone or empty, so the call arrives.
      refine ⟨.arrive 0, rfl, ?_⟩
      have room := carried.room
      have travelled : (system.arrive 0).underway = rest ∧
          (system.arrive 0).mailbox.length ≤ 1 := by
        cases isGone : system.isGone with
        | true => simp [arrive, underway, isGone, waiting]
        | false => simp [arrive, underway, isGone, waiting, room]
      rw [step, pending, travelled.1, pending, underway, waiting, List.length_cons, List.length_nil]
      omega

/-- When nothing is in flight, the calls made are the calls answered. -/
theorem Carried.perm_made_of_drained {system : ManagedChannel M} {arrived : List (Call M)}
    (carried : system.Carried arrived) (drained : system.pending = 0) :
    (system.replies.map (·.1)).Perm system.made := by
  have nothing := pending_eq_zero_iff.mp drained
  have arrived_eq := carried.arrived_eq
  have made_perm := carried.made_perm
  rw [nothing.1, List.append_nil] at arrived_eq
  rwa [nothing.2, List.append_nil, ← arrived_eq] at made_perm

/-- Whatever is in flight can be brought to its answer, without a further call. -/
theorem exists_drain {system : ManagedChannel M} {arrived : List (Call M)}
    (carried : system.Carried arrived) :
    ∃ moves : List (Move M), (∀ move ∈ moves, move.isTransport = true) ∧
      (system.after moves).made = system.made ∧ (system.after moves).pending = 0 := by
  -- Every move that carries a call on leaves less to do.
  induction left : system.pending using Nat.strongRecOn generalizing system arrived with
  | _ n ih =>
    cases n with
    | zero =>
      refine ⟨[], ?_, rfl, left⟩
      intro move member
      cases member
    | succ n =>
      obtain ⟨move, transport, less⟩ := exists_progress carried (left ▸ Nat.succ_pos n)
      obtain ⟨moves, all_transport, made, done⟩ := ih _ (left ▸ less) (carried.step move) rfl
      refine ⟨move :: moves, ?_, ?_, done⟩
      · intro other member
        rcases List.mem_cons.mp member with rfl | later
        · exact transport
        · exact all_transport other later
      · exact made.trans (system.spared_of_isTransport transport).1

/-! ## Runs -/

/-- What happens elsewhere happens in the same order on both sides. -/
theorem events_acts (system : ManagedChannel M) (moves : List (Move M)) :
    (system.acts moves).filterMap Act.event? = moves.filterMap Move.event? := by
  induction moves generalizing system with
  | nil => rfl
  | cons move rest ih =>
    rw [acts, List.filterMap_append, ih, List.filterMap_cons]
    cases move with
    | receive =>
      have received := system.receiving
      generalize system.act? .receive = act at received ⊢
      generalize system.receive = later at received
      cases received with
      | idle => rfl
      | serving => rfl
      | ending => rfl
    | _ => rfl

/-- Before the first move nothing has been asked on either side. -/
theorem follows_spawn (channel : Channel M) (others : ChannelGroup M) (buffer : Nat) :
    (spawn channel others buffer).Follows { others, channel } [] where
  others := rfl
  channel := rfl
  replies := rfl
  phase := by
    refine .serving rfl rfl rfl ?_
    intro call member
    cases member

theorem carried_spawn (channel : Channel M) (others : ChannelGroup M) (buffer : Nat) :
    (spawn channel others buffer).Carried [] where
  arrived_eq := rfl
  made_perm := .refl _
  numbered := rfl
  room := Nat.lt_of_lt_of_le Nat.zero_lt_one (Nat.le_max_right buffer 1)
  gone := by
    intro gone
    cases gone

/-- **A managed channel refines the channel operated by hand.** Whatever calls are made through
whatever handles, in whatever order they arrive and whatever happens elsewhere in between, the
channel, the store and the other channels are at every point what they are when the same acts are
performed by hand one after another. Which handles are held and which calls are made follows from
the clones, the releases and the requests among the moves: every request through a live handle is a
call, and no other. The calls are answered in the order of their arrival: those up to the first
close as by hand, every later one that the channel is unavailable. No call is lost, and all those in
flight can be brought to their answers. The channel is let go only when no handle is live and every
call has been answered, and then the task ends with its next move. -/
theorem managed_eq_direct (channel : Channel M) (others : ChannelGroup M) (buffer : Nat)
    (moves : List (Move M)) :
    let start := spawn channel others buffer
    let system := start.after moves
    let byHand : DirectChannel M := { others, channel }
    let direct := byHand.after (start.acts moves)
    let answered := system.replies.map (·.1)
    let first : LiveHandles := {}
    (∀ handle, system.isHeld handle = true ↔ handle ∈ (first.after moves).live) ∧
      system.made.map (fun call => (call.handle, call.request)) = first.requests moves ∧
      system.others = direct.others ∧ system.task.channel = direct.channel ∧
      (start.acts moves).filterMap Act.event? = moves.filterMap Move.event? ∧
      (Act.hangUp ∈ start.acts moves → (first.after moves).live = [] ∧ system.pending = 0) ∧
      ((first.after moves).live = [] → system.pending = 0 →
        (system.step .receive).task.running = false) ∧
      direct.replies.map (·.1) = upToClose answered ∧
      system.replies =
        direct.replies ++ (answered.drop (upToClose answered).length).map Call.unavailable ∧
      answered ++ system.mailbox = start.arrivals moves ∧
      (answered ++ system.mailbox ++ system.underway).Perm system.made ∧
      system.made.map (·.number) = List.range system.made.length ∧
      ∃ more : List (Move M), (∀ move ∈ more, move.isTransport = true) ∧
        ((system.after more).replies.map (·.1)).Perm system.made := by
  intro start system byHand direct answered first
  obtain ⟨refused, follows⟩ := (follows_spawn channel others buffer).after moves
  obtain ⟨tracked, made_eq⟩ := (tracked_spawn channel others buffer).after moves
  have carried := (carried_spawn channel others buffer).after moves
  rw [List.nil_append] at carried
  obtain ⟨more, transport, made, done⟩ := exists_drain carried
  have served : direct.replies.map (·.1) = upToClose answered := follows.upToClose_eq
  have answered_eq : answered = direct.replies.map (·.1) ++ refused := follows.answered_eq
  refine ⟨tracked.live, made_eq, follows.others, follows.channel, start.events_acts moves, ?letGo,
    ?ends, served, ?answers, carried.arrived_eq, ?complete, carried.numbered, more, transport,
    ?drained⟩
  case letGo =>
    intro letGo
    obtain ⟨silent, nothing⟩ := silent_of_hangUp_mem letGo
    constructor
    · refine List.eq_nil_iff_forall_not_mem.mpr fun handle live => ?_
      have held := (tracked.live handle).mpr live
      exact ne_true_of_eq_false (not_isHeld_of_silent silent handle) held
    · exact pending_eq_zero_iff.mpr ⟨nothing, underway_of_silent silent⟩
  case ends =>
    intro none_live quiet
    obtain ⟨nothing, none_underway⟩ := pending_eq_zero_iff.mp quiet
    have unheld : ∀ handle, system.isHeld handle = false := by
      intro handle
      refine eq_false_of_ne_true fun held => ?_
      have live := (tracked.live handle).mp held
      rw [none_live] at live
      cases live
    exact running_receive_of_silent (silent_of_unheld unheld none_underway) nothing
  case answers =>
    have refused_eq : answered.drop (upToClose answered).length = refused := by
      rw [← served, answered_eq, List.drop_left]
    rw [refused_eq]
    exact follows.replies
  case complete =>
    rw [carried.arrived_eq]
    exact carried.made_perm
  case drained =>
    rw [← made]
    exact (carried.after more).perm_made_of_drained done

/-- Two handles. The second call overtakes the first on its way; a close is followed by a call that
is already in the mailbox when it is served, by one that finds the mailbox gone and by one from a
handle whose twin has been released. Requests through a released handle and through one that was
never given out are no calls. -/
theorem managed_eq_direct_of_two_handles :
    let others : ChannelGroup Nat := { store := (Store.empty.declare "q").2 }
    let start := spawn (.new "A") others 2
    let moves : List (Move Nat) :=
      [.clone 0, .call 0 (.publish 10 "q"), .call 1 (.get "q" false), .call 2 .rollback, .arrive 1,
        .receive, .arrive 0, .receive, .elsewhere (.queue (.enqueue "q" 20)), .call 0 .close,
        .call 1 (.publish 30 "q"), .call 0 .close, .arrive 0, .arrive 0, .arrive 0, .receive,
        .arrive 0, .release 0, .call 0 .select, .retire, .call 1 .commit, .arrive 0]
    let system := start.after moves
    let direct := ({ others, channel := .new "A" } : DirectChannel Nat).after (start.acts moves)
    let first : LiveHandles := {}
    (first.after moves).live = [1] ∧ system.isHeld 0 = false ∧ system.isHeld 1 = true ∧
      system.made.map (fun call => (call.handle, call.request)) =
        [(0, .publish 10 "q"), (1, .get "q" false), (0, .close), (1, .publish 30 "q"), (0, .close),
          (1, .commit)] ∧
      direct.replies.map (fun answered => (answered.1.number, answered.2)) =
        [(1, .delivered none), (0, .done), (2, .closed {})] ∧
      system.replies = direct.replies ++ (system.made.drop 3).map Call.unavailable ∧
      system.others.store.queue? "q" = some [⟨10, false⟩, ⟨20, false⟩] ∧
      direct.others.store.queue? "q" = some [⟨10, false⟩, ⟨20, false⟩] := by
  intro others start moves system direct first
  obtain ⟨held, made, same_others, _, _, _, _, _, replies, _⟩ :=
    managed_eq_direct (.new "A") others 2 moves
  have live : (first.after moves).live = [1] := by decide
  refine ⟨live, ?released, ?kept, made.trans (by decide), by decide, ?refused, ?system,
    by decide⟩
  case released =>
    refine Bool.eq_false_iff.mpr fun first_held => ?_
    have member := (held 0).mp first_held
    rw [live] at member
    exact absurd member (by decide)
  case kept =>
    refine (held 1).mpr ?_
    rw [live]
    exact List.mem_singleton_self 1
  case refused =>
    have later : (system.replies.map (·.1)).drop
        (upToClose (system.replies.map (·.1))).length = system.made.drop 3 := by decide
    rw [← later]
    exact replies
  case system =>
    have filled : direct.others.store.queue? "q" = some [⟨10, false⟩, ⟨20, false⟩] := by decide
    rw [← filled]
    exact congrArg (fun group : ChannelGroup Nat => group.store.queue? "q") same_others

end ManagedChannel

end MessageBroker
