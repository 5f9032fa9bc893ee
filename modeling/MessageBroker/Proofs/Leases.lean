import MessageBroker.Proofs.Handles

/-!
# Live handles

Which handles are live can be read off a script and its answers: an opened channel comes with a
handle, a share gives a further one to the same channel, and a handle is live until it is dropped
(`Leases.after`). A broker keeps to that (`Broker.Leased.run`), so what its handles decide, who
reaches a channel and who is the last to hold it, is decided by the leases: the commands that ask a
channel to close and those that let it go are the same, counted from either side
(`Broker.Leased.stepsWhere_eq`).
-/

set_option autoImplicit false

namespace MessageBroker

variable {M : Type}

/-! ## Leases -/

/-- The channels opened and the handles that are live, as commands and their answers tell. -/
structure Leases where
  /-- For each channel, in order of opening, whether a task drives it. -/
  driven : List Bool := []
  /-- The live handles, each with the position of its channel. -/
  live : List (Nat × Nat) := []
  deriving DecidableEq, Repr

namespace Leases

variable (leases : Leases)

/-- After a command and its answer. -/
def step : Command M × Answer M → Leases
  | (.openChannel _ driven, .opened handle _) =>
    ⟨leases.driven ++ [driven], leases.live ++ [(handle, leases.driven.length)]⟩
  | (.share handle, .shared number) =>
    { leases with
      live := leases.live ++ ((leases.live.lookup handle).map fun place => (number, place)).toList }
  | (.drop handle, .done) => { leases with live := leases.live.filter (·.1 ≠ handle) }
  | _ => leases

/-- After some commands and their answers. -/
def after (exchanges : List (Command M × Answer M)) : Leases := exchanges.foldl step leases

/-- The live handles to the channel at a position. -/
def holders (position : Nat) : List Nat := (leases.live.filter (·.2 = position)).map (·.1)

theorem mem_holders {leases : Leases} {handle position : Nat} :
    handle ∈ leases.holders position ↔ (handle, position) ∈ leases.live := by
  simp [holders]

/-- True of the commands that ask the channel at a position to close through a live handle. -/
def asksToClose (position : Nat) : Command M → Bool
  | .request handle request => request.isClose && (leases.holders position).contains handle
  | .requests handle requests =>
    requests.any Request.isClose && (leases.holders position).contains handle &&
      leases.driven[position]? = some true
  | _ => false

/-- True of the command that drops the last live handle to the channel at a position. -/
def letsGo (position : Nat) : Command M → Bool
  | .drop handle => leases.holders position = [handle]
  | _ => false

/-- The steps, counted from a number on, whose commands pass a test on the leases when they come. -/
def stepsWhere (test : Leases → Command M → Bool) (leases : Leases) (number : Nat) :
    List (Command M × Answer M) → List Nat
  | [] => []
  | exchange :: rest =>
    (if test leases exchange.1 then [number] else []) ++
      stepsWhere test (leases.step exchange) (number + 1) rest

end Leases

namespace Host

/-- True of a channel driven by a task. -/
def isDriven : Host M → Bool
  | direct _ => false
  | driven _ => true

variable (host : Host M) (store : Store M)

theorem isDriven_serve (request : Request M) :
    (host.serve store request).2.1.isDriven = host.isDriven := by
  cases host <;> rfl

theorem isDriven_release : (host.release store).1.isDriven = host.isDriven := by
  cases host <;> rfl

end Host

namespace Broker

/-- The commands of a script with their answers. -/
def exchanges (broker : Broker M) (script : List (Command M)) : List (Command M × Answer M) :=
  script.zip (broker.run script).1

theorem exchanges_cons (broker : Broker M) (command : Command M) (rest : List (Command M)) :
    broker.exchanges (command :: rest) =
      (command, (broker.perform command).1) :: (broker.perform command).2.exchanges rest := rfl

variable {broker after : Broker M} {leases : Leases} {handle position : Nat} {host : Host M}

/-! ## Where handles lead -/

/-- A handle leads to the channel at a position. -/
def Leads (broker : Broker M) (handle position : Nat) : Prop :=
  ∃ n, handle = n + 1 ∧ broker.handles[n]? = some (some position)

/-- In a sound broker a handle that leads to a position finds a host there. -/
theorem Sound.leads_iff (sound : broker.Sound) :
    broker.Leads handle position ↔ ∃ host, broker.find? handle = some (position, host) := by
  constructor
  · rintro ⟨n, rfl, given⟩
    have bound := sound.placed position (isHeld_iff.mpr (List.mem_of_getElem? given))
    exact ⟨broker.hosts[position], find?_eq_some_iff.mpr
      ⟨n, rfl, given, List.getElem?_eq_getElem bound⟩⟩
  · rintro ⟨host, found⟩
    obtain ⟨n, rfl, given, _⟩ := find?_eq_some_iff.mp found
    exact ⟨n, rfl, given⟩

theorem isHeld_iff_leads :
    broker.isHeld position = true ↔ ∃ handle, broker.Leads handle position := by
  rw [isHeld_iff]
  constructor
  · intro member
    obtain ⟨n, given⟩ := List.getElem?_of_mem member
    exact ⟨n + 1, n, rfl, given⟩
  · rintro ⟨_, n, _, given⟩
    exact List.mem_of_getElem? given

/-- The numbers of handles do not go beyond those given out. -/
theorem Leads.le_length (leads : broker.Leads handle position) :
    handle ≤ broker.handles.length := by
  obtain ⟨n, rfl, given⟩ := leads
  exact (List.getElem?_eq_some_iff.mp given).1

/-- A handle leads to one channel. -/
theorem Leads.unique {other : Nat} (leads : broker.Leads handle position)
    (also : broker.Leads handle other) : position = other := by
  obtain ⟨n, rfl, given⟩ := leads
  obtain ⟨_, same, given_again⟩ := also
  rw [← Nat.succ.inj same, given] at given_again
  exact Option.some.inj (Option.some.inj given_again)

/-- One handle more. -/
theorem leads_append {other : Nat} (handles : after.handles = broker.handles ++ [some other]) :
    after.Leads handle position ↔
      broker.Leads handle position ∨ handle = broker.handles.length + 1 ∧ position = other := by
  constructor
  · rintro ⟨n, rfl, given⟩
    rw [handles] at given
    rcases Nat.lt_trichotomy n broker.handles.length with below | rfl | above
    · rw [List.getElem?_append_left below] at given
      exact .inl ⟨n, rfl, given⟩
    · rw [List.getElem?_concat_length] at given
      exact .inr ⟨rfl, (Option.some.inj (Option.some.inj given)).symm⟩
    · rw [List.getElem?_eq_none (by simpa using Nat.succ_le_of_lt above)] at given
      cases given
  · rintro (⟨n, rfl, given⟩ | ⟨rfl, rfl⟩)
    · obtain ⟨below, _⟩ := List.getElem?_eq_some_iff.mp given
      refine ⟨n, rfl, ?_⟩
      rwa [handles, List.getElem?_append_left below]
    · refine ⟨_, rfl, ?_⟩
      rw [handles, List.getElem?_concat_length]

/-- One handle less. -/
theorem leads_set {dropped : Nat} (handles : after.handles = broker.handles.set dropped none) :
    after.Leads handle position ↔ broker.Leads handle position ∧ handle ≠ dropped + 1 := by
  constructor
  · rintro ⟨n, rfl, given⟩
    rw [handles] at given
    have apart : dropped ≠ n := by
      rintro rfl
      rw [List.getElem?_set_self'] at given
      cases found : broker.handles[dropped]? <;> simp [found] at given
    rw [List.getElem?_set_ne apart] at given
    exact ⟨⟨n, rfl, given⟩, fun same => apart (Nat.succ.inj same).symm⟩
  · rintro ⟨⟨n, rfl, given⟩, apart⟩
    refine ⟨n, rfl, ?_⟩
    rwa [handles, List.getElem?_set_ne fun same => apart (congrArg Nat.succ same.symm)]

/-- A handle is the last one unless another leads to the same channel. -/
theorem holdsBeside_iff (broker : Broker M) (n position : Nat) :
    broker.holdsBeside (n + 1) position = true ↔
      ∃ other, broker.Leads other position ∧ other ≠ n + 1 := by
  let later : Broker M := { broker with handles := broker.handles.set n none }
  have held : later.isHeld position = true ↔ ∃ other, later.Leads other position :=
    isHeld_iff_leads
  exact held.trans (exists_congr fun _ => leads_set rfl)

/-! ## Leased brokers -/

/-- A host of the same kind takes the place of another. -/
theorem kinds_set (found : broker.hosts[position]? = some host) {other : Host M}
    (same : other.isDriven = host.isDriven) :
    (broker.hosts.set position other).map Host.isDriven = broker.hosts.map Host.isDriven := by
  have still : (broker.hosts.map Host.isDriven)[position]? = some other.isDriven := by
    rw [List.getElem?_map, found, same]
    rfl
  rw [List.map_set, set_eq_self still]

/-- The handles of a broker are those leased, and its tasks are those opened. -/
structure Leased (broker : Broker M) (leases : Leases) : Prop where
  driven : broker.hosts.map Host.isDriven = leases.driven
  live : ∀ handle position, (handle, position) ∈ leases.live ↔ broker.Leads handle position
  distinct : (leases.live.map (·.1)).Nodup

namespace Leased

/-- Before the first command. -/
theorem fresh (idPrefix : String) (store : Store M) :
    ({ idPrefix, store } : Broker M).Leased {} where
  driven := rfl
  live handle position := by
    refine ⟨nofun, ?_⟩
    rintro ⟨n, _, given⟩
    cases given
  distinct := List.nodup_nil

variable (leased : broker.Leased leases)

include leased

theorem length_driven : leases.driven.length = broker.hosts.length := by
  rw [← leased.driven, List.length_map]

theorem driven_of_found (found : broker.hosts[position]? = some host) :
    leases.driven[position]? = some host.isDriven := by
  rw [← leased.driven, List.getElem?_map, found]
  rfl

theorem mem_holders : handle ∈ leases.holders position ↔ broker.Leads handle position :=
  Leases.mem_holders.trans (leased.live handle position)

theorem isHeld_iff : broker.isHeld position = true ↔ leases.holders position ≠ [] := by
  rw [isHeld_iff_leads, Ne, List.eq_nil_iff_forall_not_mem, Classical.not_forall_not]
  exact exists_congr fun handle => leased.mem_holders.symm

/-- What the leases say of a handle is where it leads. -/
theorem lookup_of_leads (leads : broker.Leads handle position) :
    leases.live.lookup handle = some position := by
  have listed := (leased.live handle position).mpr leads
  cases found : leases.live.lookup handle with
  | none =>
    have different := List.lookup_eq_none_iff.mp found _ listed
    simp at different
  | some other =>
    obtain ⟨before, later, split_eq, _⟩ := List.lookup_eq_some_iff.mp found
    have also : (handle, other) ∈ leases.live := by
      rw [split_eq]
      exact List.mem_append_right before List.mem_cons_self
    rw [leads.unique ((leased.live handle other).mp also)]

/-- The only one to hold a channel. -/
theorem holders_eq_singleton_iff :
    leases.holders position = [handle] ↔ broker.Leads handle position ∧
      ∀ other, broker.Leads other position → other = handle := by
  simp only [← leased.mem_holders]
  constructor
  · intro alone
    rw [alone]
    exact ⟨List.mem_singleton_self handle, fun other => List.mem_singleton.mp⟩
  · rintro ⟨holds, alone⟩
    have distinct : (leases.holders position).Nodup :=
      leased.distinct.sublist (List.filter_sublist.map _)
    apply List.perm_singleton.mp
    rw [List.perm_ext_iff_of_nodup distinct (List.pairwise_singleton _ _)]
    intro other
    rw [List.mem_singleton]
    constructor
    · exact alone other
    · rintro rfl
      exact holds

/-- The handles and the tasks stay. -/
theorem keep (handles : after.handles = broker.handles)
    (hosts : after.hosts.map Host.isDriven = broker.hosts.map Host.isDriven) :
    after.Leased leases where
  driven := hosts.trans leased.driven
  live handle position := by
    rw [leased.live, Leads, Leads, handles]
  distinct := leased.distinct

/-- A host is replaced by one of its kind. -/
theorem set (found : broker.hosts[position]? = some host) {other : Host M}
    (same : other.isDriven = host.isDriven) (handles : after.handles = broker.handles)
    (hosts : after.hosts = broker.hosts.set position other) : after.Leased leases :=
  leased.keep handles (hosts.symm ▸ kinds_set found same)

/-- One handle more, with the next number. -/
theorem append {other : Nat} (handles : after.handles = broker.handles ++ [some other])
    {later : Leases} (driven : after.hosts.map Host.isDriven = later.driven)
    (live : later.live = leases.live ++ [(broker.handles.length + 1, other)]) :
    after.Leased later where
  driven
  live handle position := by
    rw [live, List.mem_append, List.mem_singleton, leased.live, leads_append handles,
      Prod.mk.injEq]
  distinct := by
    rw [live, List.map_append, List.map_singleton, List.nodup_append]
    refine ⟨leased.distinct, List.pairwise_singleton _ _, ?_⟩
    intro handle member new new_member same
    obtain ⟨⟨_, position⟩, listed, rfl⟩ := List.mem_map.mp member
    rw [List.mem_singleton] at new_member
    -- Every number in use is one that was given out.
    have bound := ((leased.live _ position).mp listed).le_length
    omega

/-- One handle less. -/
theorem drop {n : Nat} (handles : after.handles = broker.handles.set n none)
    (hosts : after.hosts.map Host.isDriven = broker.hosts.map Host.isDriven) :
    after.Leased { leases with live := leases.live.filter (·.1 ≠ n + 1) } where
  driven := hosts.trans leased.driven
  live handle position := by
    rw [List.mem_filter, leased.live, leads_set handles, decide_eq_true_eq]
  distinct := leased.distinct.sublist (List.filter_sublist.map _)

/-- **Every command keeps a broker leased**, as its answer tells. -/
theorem perform (sound : broker.Sound) (command : Command M) :
    (broker.perform command).2.Leased (leases.step (command, (broker.perform command).1)) := by
  have asked : ∀ {request : QueueRequest M}, command.queueRequest? = some request →
      (broker.perform command).2.Leased leases := by
    intro request asked
    rw [broker.perform_of_queueRequest? asked]
    exact leased.keep rfl rfl
  -- Handles come with an opened and with a shared channel and go with a drop; everything else at
  -- most puts a host in the place of one of its kind.
  cases command with
  | openChannel id driven =>
    refine leased.append rfl ?_ ?_
    · show (broker.hosts ++ [_]).map Host.isDriven = leases.driven ++ [driven]
      rw [List.map_append, leased.driven]
      cases driven <;> rfl
    · show leases.live ++ [(_, leases.driven.length)] = _
      rw [leased.length_driven]
  | share handle =>
    rw [Broker.perform, share]
    cases found : broker.find? handle with
    | none => exact leased
    | some target =>
      obtain ⟨position, host⟩ := target
      cases host with
      | direct channel => exact leased
      | driven task =>
        have leads := sound.leads_iff.mpr ⟨_, found⟩
        refine leased.append rfl leased.driven ?_
        show leases.live ++ ((leases.live.lookup handle).map _).toList = _
        rw [leased.lookup_of_leads leads]
        rfl
  | drop handle =>
    rw [Broker.perform]
    cases found : broker.find? handle with
    | none =>
      rw [Broker.drop, found]
      exact leased
    | some target =>
      obtain ⟨position, host⟩ := target
      obtain ⟨n, rfl, _, here⟩ := find?_eq_some_iff.mp found
      cases beside : broker.holdsBeside (n + 1) position with
      | true =>
        rw [drop_of_beside found beside]
        exact leased.drop rfl rfl
      | false =>
        rw [drop_of_last found beside]
        exact leased.drop rfl (kinds_set here (host.isDriven_release _))
  | request handle request =>
    rw [Broker.perform]
    cases found : broker.find? handle with
    | none => exact leased
    | some target => exact leased.set (host_of_find? found) (target.2.isDriven_serve _ _) rfl rfl
  | requests handle requests =>
    rw [Broker.perform]
    cases found : broker.find? handle with
    | none => exact leased
    | some target =>
      obtain ⟨position, host⟩ := target
      cases host with
      | direct channel => exact leased
      | driven task =>
        refine serveAllAt_keeps (P := fun later => later.Leased leases) ?_ (host_of_find? found)
          requests leased
        intro later host request here leased
        exact leased.set here (host.isDriven_serve _ _) rfl rfl
  | isClosed handle =>
    rw [Broker.perform]
    split <;> exact leased
  | describe handle =>
    rw [Broker.perform]
    split <;> exact leased
  | _ => exact asked rfl

/-- The same for a script. -/
theorem run (sound : broker.Sound) (script : List (Command M)) :
    (broker.run script).2.Leased (leases.after (broker.exchanges script)) := by
  induction script generalizing broker leases with
  | nil => exact leased
  | cons command rest ih => exact ih (leased.perform sound command) (sound.perform command)

/-! ## What the leases decide -/

variable (sound : broker.Sound)

include sound

theorem reaches_eq (handle position : Nat) :
    (broker.find? handle).any (·.1 = position) = (leases.holders position).contains handle := by
  rw [Bool.eq_iff_iff, List.contains_iff_mem, leased.mem_holders, sound.leads_iff]
  constructor
  · exact exists_of_reached
  · rintro ⟨host, found⟩
    rw [found]
    exact decide_eq_true rfl

theorem asksToClose_eq (position : Nat) (command : Command M) :
    broker.asksToClose position command = leases.asksToClose position command := by
  cases command with
  | request handle request =>
    rw [asksToClose, Leases.asksToClose, leased.reaches_eq sound]
  | requests handle requests =>
    rw [asksToClose, Leases.asksToClose, ← leased.reaches_eq sound, Bool.and_assoc]
    cases found : broker.find? handle with
    | none => simp
    | some target =>
      obtain ⟨reached, host⟩ := target
      have kind := leased.driven_of_found (host_of_find? found)
      by_cases same : reached = position
      · subst same
        rw [kind]
        cases host <;> simp [Host.isDriven]
      · cases host <;> simp [same]
  | _ => rfl

theorem letsGo_eq (position : Nat) (command : Command M) :
    broker.letsGo position command = leases.letsGo position command := by
  cases command with
  | drop handle =>
    rw [letsGo, Leases.letsGo, leased.reaches_eq sound, Bool.eq_iff_iff, decide_eq_true_eq,
      Bool.and_eq_true, Bool.not_eq_true', List.contains_iff_mem, leased.mem_holders,
      leased.holders_eq_singleton_iff]
    -- The handle leads there, so what is left is whether another one does.
    refine and_congr_right fun leads => ?_
    obtain ⟨n, rfl, _⟩ := leads
    rw [← Bool.not_eq_true, holdsBeside_iff, not_exists]
    exact forall_congr' fun other => Decidable.not_and_not_right
  | _ => rfl

/-- **Steps counted on the broker are the steps counted on the leases**, for tests that agree. -/
theorem stepsWhere_eq {test : Broker M → Command M → Bool}
    {leaseTest : Leases → Command M → Bool}
    (same : ∀ {broker : Broker M} {leases : Leases}, broker.Leased leases → broker.Sound →
      ∀ command, test broker command = leaseTest leases command)
    (number : Nat) (script : List (Command M)) :
    stepsWhere test broker number script =
      Leases.stepsWhere leaseTest leases number (broker.exchanges script) := by
  induction script generalizing broker leases number with
  | nil => rfl
  | cons command rest ih =>
    rw [stepsWhere, exchanges_cons, Leases.stepsWhere, same leased sound,
      ih (leased.perform sound command) (sound.perform command)]

end Leased

end Broker

end MessageBroker
