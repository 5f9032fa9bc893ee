import MessageBroker.Proofs.Bookkeeping
import MessageBroker.Proofs.Traffic

/-!
# Order of a queue with one taker

While one channel takes from a queue, delivery and return keep the messages in the order in which
the queue took them in. A line lists these messages and says of each whether it waits, is held by
the channel under a tag or is settled (`Tracked`); it is written from what the channel answers, by
moving single messages between the three and never changing their order (`Channel.track`). One
request keeps the unsettled part of the line equal to the channel's entries from the queue in tag
order followed by the contents of the queue (`Channel.Step.track`), and so does an orderly run
(`ChannelGroup.order_kept`).
-/

set_option autoImplicit false

namespace MessageBroker

variable {M : Type}

/-! ## Lines -/

/-- Where a message is that a queue took in. -/
inductive Whereabouts where
  | waiting
  /-- Delivered under a tag, and neither settled nor returned. -/
  | held (tag : Nat)
  | settled
  deriving DecidableEq, Repr

/-- A message that a queue took in. -/
structure Tracked (M : Type) where
  message : M
  whereabouts : Whereabouts
  deriving DecidableEq, Repr

namespace Tracked

/-- True of a settled message. -/
def isSettled (item : Tracked M) : Bool := item.whereabouts == .settled

/-- True of a message held under one of some tags. -/
def isHeldUnder (tags : List Nat) (item : Tracked M) : Bool :=
  match item.whereabouts with
  | .held tag => tags.contains tag
  | .waiting | .settled => false

/-- Moves a message that is held under one of some tags. -/
def move (tags : List Nat) (dest : Whereabouts) (item : Tracked M) : Tracked M :=
  if item.isHeldUnder tags then { item with whereabouts := dest } else item

/-- Moves the first message that waits. -/
def advance (dest : Whereabouts) : List (Tracked M) → List (Tracked M)
  | [] => []
  | item :: rest =>
    if item.whereabouts = .waiting then { item with whereabouts := dest } :: rest
    else item :: advance dest rest

/-- Messages in order, all of them waiting. -/
def waitingIn (messages : List M) : List (Tracked M) := messages.map (⟨·, .waiting⟩)

/-- The part of a line that is not settled. -/
def unsettled (line : List (Tracked M)) : List (Tracked M) := line.filter (!·.isSettled)

/-- The settled messages of a line. -/
def settledOf (line : List (Tracked M)) : List M := (line.filter (·.isSettled)).map (·.message)

theorem unsettled_cons (item : Tracked M) (rest : List (Tracked M)) :
    unsettled (item :: rest) =
      if item.isSettled then unsettled rest else item :: unsettled rest := by
  rw [unsettled, List.filter_cons]
  cases item.isSettled <;> rfl

theorem settledOf_cons (item : Tracked M) (rest : List (Tracked M)) :
    settledOf (item :: rest) =
      if item.isSettled then item.message :: settledOf rest else settledOf rest := by
  rw [settledOf, List.filter_cons]
  cases item.isSettled <;> rfl

theorem unsettled_append (first second : List (Tracked M)) :
    unsettled (first ++ second) = unsettled first ++ unsettled second :=
  List.filter_append ..

theorem settledOf_append (first second : List (Tracked M)) :
    settledOf (first ++ second) = settledOf first ++ settledOf second := by
  rw [settledOf, List.filter_append, List.map_append, settledOf, settledOf]

theorem unsettled_waitingIn (messages : List M) :
    unsettled (waitingIn messages) = waitingIn messages := by
  refine List.filter_eq_self.mpr fun item member => ?_
  obtain ⟨_, _, rfl⟩ := List.mem_map.mp member
  rfl

theorem map_message_waitingIn (messages : List M) :
    (waitingIn messages).map (·.message) = messages := by
  rw [waitingIn, List.map_map]
  exact List.map_id _

theorem settledOf_waitingIn (messages : List M) : settledOf (waitingIn messages) = [] := by
  rw [settledOf, List.map_eq_nil_iff, List.filter_eq_nil_iff]
  intro item member
  obtain ⟨_, _, rfl⟩ := List.mem_map.mp member
  exact Bool.false_ne_true

theorem waitingIn_append (first second : List M) :
    waitingIn (first ++ second) = waitingIn first ++ waitingIn second :=
  List.map_append

theorem not_isHeldUnder_of_mem_waitingIn {messages : List M} {item : Tracked M}
    (member : item ∈ waitingIn messages) (tags : List Nat) : item.isHeldUnder tags = false := by
  obtain ⟨_, _, rfl⟩ := List.mem_map.mp member
  rfl

theorem filter_isHeldUnder_waitingIn (tags : List Nat) (messages : List M) :
    (waitingIn messages).filter (·.isHeldUnder tags) = [] := by
  refine List.filter_eq_nil_iff.mpr fun item member => ?_
  rw [not_isHeldUnder_of_mem_waitingIn member]
  exact Bool.false_ne_true

theorem filter_not_isHeldUnder_waitingIn (tags : List Nat) (messages : List M) :
    (waitingIn messages).filter (!·.isHeldUnder tags) = waitingIn messages := by
  refine List.filter_eq_self.mpr fun item member => ?_
  rw [not_isHeldUnder_of_mem_waitingIn member]
  rfl

theorem map_move_waitingIn (tags : List Nat) (dest : Whereabouts) (messages : List M) :
    (waitingIn messages).map (move tags dest) = waitingIn messages := by
  refine (List.map_congr_left fun item member => ?_).trans (List.map_id _)
  refine if_neg ?_
  rw [not_isHeldUnder_of_mem_waitingIn member]
  exact Bool.false_ne_true

theorem not_isSettled_of_isHeldUnder {tags : List Nat} {item : Tracked M}
    (held : item.isHeldUnder tags = true) : item.isSettled = false := by
  obtain ⟨message, whereabouts⟩ := item
  cases whereabouts with
  | held tag => rfl
  | waiting => rfl
  | settled => cases held

@[simp] theorem message_move (tags : List Nat) (dest : Whereabouts) (item : Tracked M) :
    (item.move tags dest).message = item.message := by
  unfold move
  split
  · rfl
  · rfl

theorem map_message_map_move (tags : List Nat) (dest : Whereabouts) (line : List (Tracked M)) :
    (line.map (move tags dest)).map (·.message) = line.map (·.message) := by
  rw [List.map_map]
  exact List.map_congr_left fun item _ => message_move tags dest item

theorem map_message_advance (dest : Whereabouts) (line : List (Tracked M)) :
    (advance dest line).map (·.message) = line.map (·.message) := by
  induction line with
  | nil => rfl
  | cons item rest ih =>
    rw [advance]
    split
    · rfl
    · rw [List.map_cons, ih, List.map_cons]

theorem map_move_nil (dest : Whereabouts) (line : List (Tracked M)) :
    line.map (move [] dest) = line := by
  refine (List.map_congr_left fun item _ => ?_).trans line.map_id
  refine if_neg fun held => ?_
  unfold isHeldUnder at held
  split at held
  · cases held
  · cases held
  · cases held

/-! ## The unsettled part when messages move -/

/-- What moves was not settled, and stays so unless it is moved among the settled. -/
theorem isSettled_move (tags : List Nat) (dest : Whereabouts) (item : Tracked M) :
    (item.move tags dest).isSettled =
      if item.isHeldUnder tags then dest == .settled else item.isSettled := by
  unfold move
  split
  · rfl
  · rfl

/-- Settling messages takes them out of the unsettled part. -/
theorem unsettled_map_settle (tags : List Nat) (line : List (Tracked M)) :
    unsettled (line.map (move tags .settled)) =
      (unsettled line).filter (!·.isHeldUnder tags) := by
  induction line with
  | nil => rfl
  | cons item rest ih =>
    rw [List.map_cons, unsettled_cons, ih, isSettled_move, unsettled_cons]
    cases held : item.isHeldUnder tags with
    | true => simp [held, not_isSettled_of_isHeldUnder held]
    | false =>
      have still : item.move tags .settled = item := if_neg (by simp [held])
      rw [still]
      cases item.isSettled with
      | true => rfl
      | false => simp [held]

/-- The messages that are settled add to those that were. -/
theorem settledOf_map_settle (tags : List Nat) (line : List (Tracked M)) :
    (settledOf (line.map (move tags .settled))).Perm
      (settledOf line ++ ((unsettled line).filter (·.isHeldUnder tags)).map (·.message)) := by
  induction line with
  | nil => exact .refl _
  | cons item rest ih =>
    rw [List.map_cons, settledOf_cons, isSettled_move, settledOf_cons, unsettled_cons]
    cases held : item.isHeldUnder tags with
    | true =>
      simp only [not_isSettled_of_isHeldUnder held, held, if_true, beq_self_eq_true,
        Bool.false_eq_true, if_false, List.map_cons, message_move, List.filter_cons]
      exact (ih.cons item.message).trans List.perm_middle.symm
    | false =>
      cases settled : item.isSettled with
      | true => simpa using ih
      | false => simpa [held] using ih

/-- Returned messages stay where they stand in the line. -/
theorem unsettled_map_return (tags : List Nat) (line : List (Tracked M)) :
    unsettled (line.map (move tags .waiting)) = (unsettled line).map (move tags .waiting) := by
  induction line with
  | nil => rfl
  | cons item rest ih =>
    rw [List.map_cons, unsettled_cons, isSettled_move, unsettled_cons, ih]
    cases held : item.isHeldUnder tags with
    | true => simp [not_isSettled_of_isHeldUnder held]
    | false => cases item.isSettled <;> simp

theorem settledOf_map_return (tags : List Nat) (line : List (Tracked M)) :
    settledOf (line.map (move tags .waiting)) = settledOf line := by
  induction line with
  | nil => rfl
  | cons item rest ih =>
    rw [List.map_cons, settledOf_cons, isSettled_move, settledOf_cons, ih, message_move]
    cases held : item.isHeldUnder tags with
    | true => simp [not_isSettled_of_isHeldUnder held]
    | false => rfl

/-- The first message that waits moves in its place. -/
theorem advance_append (dest : Whereabouts) {front : List (Tracked M)}
    (first : ∀ item ∈ front, item.whereabouts ≠ .waiting) (message : M)
    (back : List (Tracked M)) :
    advance dest (front ++ ⟨message, .waiting⟩ :: back) = front ++ ⟨message, dest⟩ :: back := by
  -- The recursion passes over the front, where nothing waits.
  induction front with
  | nil => rfl
  | cons item rest ih =>
    rw [List.cons_append, advance, if_neg (first item List.mem_cons_self),
      ih fun other member => first other (List.mem_cons_of_mem _ member), List.cons_append]

/-- It is the first message that waits in the unsettled part too. -/
theorem advance_of_unsettled (dest : Whereabouts) {line front back : List (Tracked M)} {message : M}
    (split : unsettled line = front ++ ⟨message, .waiting⟩ :: back)
    (first : ∀ item ∈ front, item.whereabouts ≠ .waiting) :
    unsettled (advance dest line) = front ++ unsettled [⟨message, dest⟩] ++ back ∧
      (settledOf (advance dest line)).Perm (settledOf line ++ settledOf [⟨message, dest⟩]) := by
  -- In the whole line, settled messages may stand between the front and the one that moves.
  obtain ⟨before, later, rfl, rfl, later_eq⟩ := List.filter_eq_append_iff.mp split
  obtain ⟨between, after, rfl, settled, _, rfl⟩ := List.filter_eq_cons_iff.mp later_eq
  have before_first : ∀ item ∈ before ++ between, item.whereabouts ≠ .waiting := by
    intro item member waits
    have open_item : item.isSettled = false := by rw [isSettled, waits]; rfl
    rcases List.mem_append.mp member with early | late
    · exact first item (List.mem_filter.mpr ⟨early, by rw [open_item]; rfl⟩) waits
    · exact settled item late (by rw [open_item]; rfl)
  have none_between : unsettled between = [] := List.filter_eq_nil_iff.mpr settled
  have moved : advance dest (before ++ (between ++ ⟨message, .waiting⟩ :: after)) =
      before ++ between ++ ([⟨message, dest⟩] ++ after) := by
    rw [← List.append_assoc, advance_append dest before_first]
    rfl
  have old : settledOf (before ++ (between ++ ⟨message, .waiting⟩ :: after)) =
      settledOf (before ++ between) ++ settledOf after := by
    rw [← List.append_assoc, settledOf_append, settledOf_cons]
    rfl
  rw [moved]
  constructor
  · simp only [unsettled_append, none_between, List.append_assoc]
    rfl
  · rw [old, settledOf_append _ (_ ++ _), settledOf_append [_],
      List.append_assoc _ (settledOf after)]
    exact List.perm_append_comm.append_left _

end Tracked

open Tracked

/-! ## Entries as items of the line -/

namespace UnackedTable

/-- The entries from one queue as items of its line, in tag order. -/
def itemsFrom (table : UnackedTable M) (queue : QueueName) : List (Tracked M) :=
  (table.entries.filter (·.delivery.queue = queue)).map fun entry =>
    ⟨entry.delivery.message, .held entry.tag⟩

theorem map_message_itemsFrom (table : UnackedTable M) (queue : QueueName) :
    (table.itemsFrom queue).map (·.message) =
      messagesFrom queue (table.entries.map (·.delivery)) := by
  rw [itemsFrom, messagesFrom, List.map_map, List.filter_map, List.map_map]
  rfl

theorem not_waiting_of_mem_itemsFrom {table : UnackedTable M} {queue : QueueName}
    {item : Tracked M} (member : item ∈ table.itemsFrom queue) : item.whereabouts ≠ .waiting := by
  obtain ⟨entry, _, rfl⟩ := List.mem_map.mp member
  intro waits
  cases waits

/-- An entry is held under a tag that has left exactly when the other table lacks it. -/
theorem isHeldUnder_departed {before after : UnackedTable M} {entry : UnackedDelivery M}
    (member : entry ∈ before.entries) (message : M) :
    (⟨message, .held entry.tag⟩ : Tracked M).isHeldUnder ((before.departed after).map (·.tag)) =
      !after.contains entry.tag := by
  rw [isHeldUnder, Bool.eq_iff_iff, List.contains_iff_mem, departed, List.map_map, List.mem_map]
  constructor
  · rintro ⟨other, kept, same⟩
    rw [← same]
    exact (List.mem_filter.mp kept).2
  · intro gone
    exact ⟨entry, List.mem_filter.mpr ⟨member, gone⟩, rfl⟩

/-- The held messages that have left the table. -/
theorem filter_isHeldUnder_departed (before after : UnackedTable M) (queue : QueueName) :
    ((before.itemsFrom queue).filter
        (·.isHeldUnder ((before.departed after).map (·.tag)))).map (·.message) =
      messagesFrom queue (before.departed after) := by
  have gone : ∀ entry ∈ before.entries.filter (·.delivery.queue = queue),
      (⟨entry.delivery.message, .held entry.tag⟩ : Tracked M).isHeldUnder
        ((before.departed after).map (·.tag)) = !after.contains entry.tag :=
    fun entry member => isHeldUnder_departed (List.mem_filter.mp member).1 _
  rw [itemsFrom, List.filter_map, List.map_map]
  simp only [Function.comp_def]
  rw [List.filter_congr gone, departed, messagesFrom, List.filter_map, List.map_map,
    List.filter_filter, List.filter_filter]
  congr 1
  exact List.filter_congr fun entry _ => Bool.and_comm _ _

theorem itemsFrom_keep (table : UnackedTable M) (test : UnackedDelivery M → Bool)
    (queue : QueueName) :
    (table.keep test).itemsFrom queue =
      (table.itemsFrom queue).filter
        (!·.isHeldUnder ((table.departed (table.keep test)).map (·.tag))) := by
  rw [itemsFrom, itemsFrom, List.filter_map, entries_keep, List.filter_filter, List.filter_filter]
  congr 1
  refine List.filter_congr fun entry member => ?_
  rw [Function.comp_apply, isHeldUnder_departed member, table.contains_keep test member,
    Bool.not_not, Bool.and_comm]

theorem itemsFrom_adjust (table : UnackedTable M) (change : UnackedDelivery M → UnackedDelivery M)
    (tag_change : ∀ entry, (change entry).tag = entry.tag)
    (origin : ∀ entry, (change entry).delivery.origin = entry.delivery.origin)
    (queue : QueueName) :
    (table.adjust change tag_change).itemsFrom queue = table.itemsFrom queue := by
  have same_queue : ∀ entry, (change entry).delivery.queue = entry.delivery.queue :=
    fun entry => congrArg Prod.fst (origin entry)
  have same_message : ∀ entry, (change entry).delivery.message = entry.delivery.message :=
    fun entry => congrArg Prod.snd (origin entry)
  simp only [itemsFrom, entries_adjust, List.filter_map, List.map_map, Function.comp_def,
    same_queue, same_message, tag_change]

theorem itemsFrom_postponed (table : UnackedTable M) (tag : Nat) (multiple : Bool)
    (queue : QueueName) : (table.postponed tag multiple).itemsFrom queue = table.itemsFrom queue :=
  table.itemsFrom_adjust _ (UnackedDelivery.tag_flagBy tag multiple)
    (fun entry => congrArg Delivery.origin (entry.delivery_flagBy tag multiple)) queue

theorem itemsFrom_release (table : UnackedTable M) (queue : QueueName) :
    table.release.2.itemsFrom queue = table.itemsFrom queue :=
  table.itemsFrom_adjust (fun entry => { entry with ackPending := false }) (fun _ => rfl)
    (fun _ => rfl) queue

theorem itemsFrom_handOutAgain (table : UnackedTable M) (queue : QueueName) :
    table.handOutAgain.2.itemsFrom queue = table.itemsFrom queue := by
  refine table.itemsFrom_adjust _ UnackedDelivery.tag_handOutAgain ?_ queue
  intro entry
  unfold UnackedDelivery.handOutAgain
  split
  · rfl
  · rfl

/-- A new entry with the largest tag stands last. -/
theorem itemsFrom_enter {table after : UnackedTable M} {delivery : Delivery M}
    (entered : table.enter delivery = .ok after)
    (largest : ∀ entry ∈ table.entries, entry.tag < delivery.tag) (queue : QueueName) :
    after.itemsFrom queue =
      table.itemsFrom queue ++
        if delivery.queue = queue then [⟨delivery.message, .held delivery.tag⟩] else [] := by
  rw [itemsFrom, (enter_eq_ok_iff.mp entered).2, insertEntry_of_largest ⟨delivery, false⟩ largest,
    List.filter_append, List.map_append, itemsFrom]
  congr 1
  by_cases same : delivery.queue = queue
  · simp [same]
  · simp [same]

/-- When every entry leaves, the messages from the queue wait where they stood. -/
theorem map_move_departed {before after : UnackedTable M} (emptied : after.entries = [])
    (queue : QueueName) :
    (before.itemsFrom queue).map (move ((before.departed after).map (·.tag)) .waiting) =
      waitingIn (messagesFrom queue (before.departed after)) := by
  obtain rfl : after = .empty := UnackedTable.ext emptied
  rw [← filter_isHeldUnder_departed, waitingIn]
  have all_held : ∀ item ∈ before.itemsFrom queue,
      item.isHeldUnder ((before.departed .empty).map (·.tag)) = true := by
    intro item member
    obtain ⟨entry, kept, rfl⟩ := List.mem_map.mp member
    exact isHeldUnder_departed (List.mem_filter.mp kept).1 _
  rw [List.filter_eq_self.mpr all_held, List.map_map]
  exact List.map_congr_left fun item member => if_pos (all_held item member)

/-! ## The unsettled part of a line -/

/-- The entries from a queue followed by the messages that wait in it. -/
def inLine (table : UnackedTable M) (queue : QueueName) (waiting : List M) : List (Tracked M) :=
  table.itemsFrom queue ++ waitingIn waiting

theorem inLine_append (table : UnackedTable M) (queue : QueueName) (first second : List M) :
    table.inLine queue (first ++ second) = table.inLine queue first ++ waitingIn second := by
  rw [inLine, waitingIn_append, inLine, List.append_assoc]

section InLine

variable {table after : UnackedTable M} {queue : QueueName} {line : List (Tracked M)}
  {waiting : List M}

/-- A delivery moves the head of the queue it takes from. -/
theorem deliver_inLine {store : Store M} {claimed : QueueName} {head : Queued M}
    {tail : List (Queued M)} (contents : store.queue? claimed = some (head :: tail))
    (dest : Whereabouts)
    (entries : after.itemsFrom queue =
      table.itemsFrom queue ++ if claimed = queue then unsettled [⟨head.message, dest⟩] else [])
    (ordered : unsettled line = table.inLine queue (store.messages queue)) :
    let moved := if claimed = queue then advance dest line else line
    unsettled moved =
        after.inLine queue ((store.messages queue).drop (if claimed = queue then 1 else 0)) ∧
      (settledOf moved).Perm
        (settledOf line ++ if claimed = queue then settledOf [⟨head.message, dest⟩] else []) := by
  by_cases mine : claimed = queue
  · subst mine
    have messages := Store.messages_of_queue? contents
    rw [messages] at ordered
    obtain ⟨moved, settled⟩ :=
      advance_of_unsettled dest ordered fun _ => not_waiting_of_mem_itemsFrom
    rw [if_pos rfl] at entries
    simp only [if_true, messages]
    refine ⟨?_, settled⟩
    rw [moved, inLine, entries]
    rfl
  · rw [if_neg mine, List.append_nil] at entries
    simp only [if_neg mine, List.append_nil, List.drop_zero]
    refine ⟨?_, .refl _⟩
    rw [ordered, inLine, inLine, entries]

/-- Entries that leave are settled. -/
theorem settle_inLine (test : UnackedDelivery M → Bool)
    (ordered : unsettled line = table.inLine queue waiting) :
    let departed := table.departed (table.keep test)
    unsettled (line.map (move (departed.map (·.tag)) .settled)) =
        (table.keep test).inLine queue waiting ∧
      (settledOf (line.map (move (departed.map (·.tag)) .settled))).Perm
        (settledOf line ++ messagesFrom queue departed) := by
  intro departed
  have settled := settledOf_map_settle (departed.map (·.tag)) line
  rw [ordered, inLine, List.filter_append, filter_isHeldUnder_waitingIn, List.append_nil,
    filter_isHeldUnder_departed] at settled
  refine ⟨?_, settled⟩
  rw [unsettled_map_settle, ordered, inLine, List.filter_append, filter_not_isHeldUnder_waitingIn,
    inLine, itemsFrom_keep]

/-- Entries that all leave wait again, at the head of their queue. -/
theorem return_inLine {store : Store M}
    (declared : store.has queue = false → table.itemsFrom queue = []) (emptied : after.entries = [])
    (ordered : unsettled line = table.inLine queue waiting) :
    let departed := table.departed after
    let moved := line.map (move (departed.map (·.tag)) .waiting)
    unsettled moved =
        after.inLine queue
          ((if store.has queue then messagesFrom queue departed else []) ++ waiting) ∧
      (settledOf moved).Perm (settledOf line ++ []) := by
  intro departed moved
  -- Were the queue missing, there would be nothing to return to it.
  have all_returned : (if store.has queue then messagesFrom queue departed else []) =
      messagesFrom queue departed := by
    split
    · rfl
    · rename_i missing
      rw [← filter_isHeldUnder_departed, declared (Bool.not_eq_true _ ▸ missing)]
      rfl
  have nothing : after.itemsFrom queue = [] := by
    rw [itemsFrom, emptied]
    rfl
  constructor
  · rw [all_returned, unsettled_map_return, ordered, inLine, List.map_append,
      map_move_departed emptied, map_move_waitingIn, ← waitingIn_append, inLine, nothing]
    rfl
  · rw [settledOf_map_return, List.append_nil]

/-- A request that leaves the entries from the queue alone moves and settles nothing. -/
theorem still_inLine (same : after.itemsFrom queue = table.itemsFrom queue) {settled : List M}
    (nothing : settled = []) (ordered : unsettled line = table.inLine queue waiting) :
    unsettled line = after.inLine queue ([] ++ waiting) ∧
      (settledOf line).Perm (settledOf line ++ settled) := by
  rw [nothing, List.append_nil, inLine, same, List.nil_append]
  exact ⟨ordered, .refl _⟩

/-- Entries that change without leaving move nothing. -/
theorem adjust_inLine (dest : Whereabouts) (stays : table.departed after = [])
    (same : after.itemsFrom queue = table.itemsFrom queue) {settled : List M}
    (nothing : settled = []) (ordered : unsettled line = table.inLine queue waiting) :
    let moved := line.map (move ((table.departed after).map (·.tag)) dest)
    unsettled moved = after.inLine queue ([] ++ waiting) ∧
      (settledOf moved).Perm (settledOf line ++ settled) := by
  intro moved
  have unmoved : moved = line := by
    simp only [moved, stays]
    exact map_move_nil dest line
  rw [unmoved]
  exact still_inLine same nothing ordered

end InLine

end UnackedTable

/-- True of the request that returns deliveries to their queues and leaves the channel open. -/
def Request.returns : Request M → Bool
  | recover requeue => requeue
  | _ => false

namespace Channel

/-- The line of a queue once the channel that takes from it has answered a request, before the
queue takes anything in. -/
def track (queue : QueueName) (before : Channel M) (request : Request M) (reply : Reply M)
    (after : Channel M) (line : List (Tracked M)) : List (Tracked M) :=
  let gone := (before.unacked.departed after.unacked).map (·.tag)
  match request, reply with
  | .ack _ _, .done | .commit, .committed _ => line.map (move gone .settled)
  | .recover _, .recovered _ | .close, .closed _ => line.map (move gone .waiting)
  | request, .delivered (some delivery) =>
    if delivery.queue = queue then
      advance (if (before.pull? request).any (·.noAck) then .settled else .held delivery.tag) line
    else line
  | _, _ => line

theorem track_of_failed (queue : QueueName) (before : Channel M) (request : Request M)
    (error : BrokerError) (after : Channel M) (line : List (Tracked M)) :
    before.track queue request (.failed error) after line = line := by
  cases request <;> rfl

theorem track_of_delivered {before : Channel M} {request : Request M} {claim : Pull}
    (claims : before.pull? request = some claim) (queue : QueueName) (delivery : Delivery M)
    (after : Channel M) (line : List (Tracked M)) :
    before.track queue request (.delivered (some delivery)) after line =
      if delivery.queue = queue then
        advance (if claim.noAck then .settled else .held delivery.tag) line
      else line := by
  cases request with
  | get => simp [track, claims]
  | next => simp [track, claims]
  | _ => cases claims

theorem track_of_foundEmpty {before : Channel M} {request : Request M} {claim : Pull}
    (claims : before.pull? request = some claim) (queue : QueueName) (after : Channel M)
    (line : List (Tracked M)) :
    before.track queue request (.delivered none) after line = line := by
  cases request with
  | get => rfl
  | next => rfl
  | _ => cases claims

/-- The line keeps its messages in their order. -/
theorem map_message_track (queue : QueueName) (before : Channel M) (request : Request M)
    (reply : Reply M) (after : Channel M) (line : List (Tracked M)) :
    (before.track queue request reply after line).map (·.message) = line.map (·.message) := by
  unfold track
  split
  · exact map_message_map_move ..
  · exact map_message_map_move ..
  · exact map_message_map_move ..
  · exact map_message_map_move ..
  · split
    · exact map_message_advance ..
    · rfl
  · rfl

/-! ## One request -/

/-- **A request keeps the line in order**: what the channel holds, followed by what it returns and
by what it leaves in the queue, is the unsettled part of the line; the settled part gains what the
ledger records as settled. -/
theorem Step.track {channel after : Channel M} {store later : Store M} {request : Request M}
    {reply : Reply M} (step : Step channel store request reply after later)
    (coherent : channel.Coherent) {queue : QueueName}
    (declared : store.has queue = false → channel.unacked.itemsFrom queue = [])
    (calm : request.returns = true → channel.unacked.pendingCount = 0) {line : List (Tracked M)}
    (ordered : unsettled line = channel.unacked.inLine queue (store.messages queue)) :
    unsettled (channel.track queue request reply after line) =
        after.unacked.inLine queue (channel.returnedTo store request after queue ++
          (store.messages queue).drop (reply.takenFrom queue)) ∧
      (settledOf (channel.track queue request reply after line)).Perm
        (settledOf line ++ (channel.record store request reply after).settledOn queue) := by
  cases step with
  | refused =>
    rw [track_of_failed, record_of_failed, returnedTo_of_departed channel.unacked.departed_self]
    exact UnackedTable.still_inLine rfl rfl ordered
  | selected => exact UnackedTable.still_inLine rfl rfl ordered
  | published => exact UnackedTable.still_inLine rfl rfl ordered
  | deferredPublish => exact UnackedTable.still_inLine rfl rfl ordered
  | foundEmpty _ claims =>
    rw [track_of_foundEmpty claims, record_of_foundEmpty claims, returnedTo_of_pull? claims]
    exact UnackedTable.still_inLine rfl rfl ordered
  | @consumed _ claim head _ _ claims contents _ noAck =>
    rw [track_of_delivered claims, record_of_delivered claims, returnedTo_of_pull? claims, noAck,
      Ledger.settledOn]
    simp only [if_true, Delivery.origin, messagesOn_singleton]
    refine UnackedTable.deliver_inLine contents .settled ?_ ordered
    exact ((congrArg _ (ite_self _)).trans (List.append_nil _)).symm
  | @handedOut _ claim head _ unacked _ claims contents _ noAck entered =>
    have entries := UnackedTable.itemsFrom_enter entered coherent.lt_next queue
    rw [track_of_delivered claims, record_of_delivered claims, returnedTo_of_pull? claims, noAck]
    have none_settled : (if claim.queue = queue then
        settledOf [(⟨head.message, .held (channel.tags.last + 1)⟩ : Tracked M)] else []) = [] :=
      ite_self _
    have moved := UnackedTable.deliver_inLine contents (.held (channel.tags.last + 1)) entries
      ordered
    rw [none_settled] at moved
    exact moved
  | exhausted _ claims =>
    rw [track_of_failed, record_of_failed, returnedTo_of_pull? claims]
    exact UnackedTable.still_inLine rfl rfl ordered
  | duplicated _ claims =>
    rw [track_of_failed, record_of_failed, returnedTo_of_pull? claims]
    exact UnackedTable.still_inLine rfl rfl ordered
  | registered => exact UnackedTable.still_inLine rfl rfl ordered
  | cancelled => exact UnackedTable.still_inLine rfl rfl ordered
  | acked =>
    rw [Ledger.settledOn, record, messagesOn_origin]
    exact UnackedTable.settle_inLine _ ordered
  | @deferredAck tag multiple =>
    -- The flagged entries stay until the commit.
    have stays : channel.unacked.departed (channel.unacked.postponed tag multiple) = [] :=
      channel.unacked.departed_adjust _ (UnackedDelivery.tag_flagBy tag multiple)
    refine UnackedTable.adjust_inLine .settled stays ?_ ?_ ordered
    · exact channel.unacked.itemsFrom_postponed tag multiple queue
    · rw [Ledger.settledOn, record, stays]
      rfl
  | committed =>
    rw [Ledger.settledOn, record, messagesOn_origin]
    exact UnackedTable.settle_inLine _ ordered
  | rolledBack =>
    exact UnackedTable.still_inLine (channel.unacked.itemsFrom_release queue) rfl ordered
  | returned =>
    -- Nothing is pending, so every entry leaves.
    have none_pending := List.countP_eq_zero.mp (calm rfl)
    exact UnackedTable.return_inLine declared (List.filter_eq_nil_iff.mpr none_pending) ordered
  | redelivered =>
    have stays : channel.unacked.departed channel.unacked.handOutAgain.2 = [] :=
      channel.unacked.departed_adjust _ UnackedDelivery.tag_handOutAgain
    rw [returnedTo_of_departed stays]
    exact UnackedTable.adjust_inLine .waiting stays
      (channel.unacked.itemsFrom_handOutAgain queue) rfl ordered
  | closed => exact UnackedTable.return_inLine declared rfl ordered
  | closedAgain =>
    rw [returnedTo_of_departed channel.unacked.departed_self]
    exact UnackedTable.adjust_inLine .waiting channel.unacked.departed_self rfl rfl ordered

/-- A channel that holds nothing from a queue and takes nothing from it settles nothing there and
returns nothing to it. -/
theorem Step.beside {channel after : Channel M} {store later : Store M} {request : Request M}
    {reply : Reply M} (step : Step channel store request reply after later)
    (coherent : channel.Coherent) {queue : QueueName}
    (none_held : channel.unacked.itemsFrom queue = []) (none_taken : reply.takenFrom queue = 0) :
    after.unacked.itemsFrom queue = [] ∧
      (channel.record store request reply after).settledOn queue = [] ∧
        channel.returnedTo store request after queue = [] := by
  -- Nothing from the queue leaves the table, and no part of the table has anything from it.
  have none_gone : ∀ table, messagesFrom queue (channel.unacked.departed table) = [] := by
    intro table
    rw [← UnackedTable.filter_isHeldUnder_departed, none_held]
    rfl
  have none_returned : ∀ request, channel.returnedTo store request after queue = [] := by
    intro request
    cases request with
    | recover =>
      rw [returnedTo, none_gone]
      exact ite_self _
    | close =>
      rw [returnedTo, none_gone]
      exact ite_self _
    | _ => rfl
  have none_kept : ∀ test, (channel.unacked.keep test).itemsFrom queue = [] := by
    intro test
    rw [UnackedTable.itemsFrom_keep, none_held]
    rfl
  have none_settled : ∀ table,
      messagesOn queue ((channel.unacked.departed table).map Delivery.origin) = [] :=
    fun table => (messagesOn_origin ..).trans (none_gone table)
  refine ⟨?_, ?_, none_returned request⟩
  · cases step with
    | handedOut _ _ _ _ _ entered =>
      have entries := UnackedTable.itemsFrom_enter entered coherent.lt_next queue
      rw [if_neg (Reply.apart_of_takenFrom none_taken), none_held] at entries
      exact entries
    | acked => exact none_kept _
    | deferredAck => exact (UnackedTable.itemsFrom_postponed ..).trans none_held
    | committed => exact none_kept _
    | rolledBack => exact (UnackedTable.itemsFrom_release ..).trans none_held
    | returned => exact none_kept _
    | redelivered => exact (UnackedTable.itemsFrom_handOutAgain ..).trans none_held
    | closed => rfl
    | _ => exact none_held
  · cases step with
    | refused =>
      rw [record_of_failed]
      rfl
    | foundEmpty _ claims =>
      rw [record_of_foundEmpty claims]
      rfl
    | consumed _ claims _ _ noAck =>
      rw [record_of_delivered claims, noAck, Ledger.settledOn, if_pos rfl, Delivery.origin,
        messagesOn_singleton, if_neg (Reply.apart_of_takenFrom none_taken)]
    | handedOut _ claims _ _ noAck =>
      rw [record_of_delivered claims, noAck]
      rfl
    | exhausted =>
      rw [record_of_failed]
      rfl
    | duplicated =>
      rw [record_of_failed]
      rfl
    | acked => exact none_settled _
    | deferredAck => exact none_settled _
    | committed => exact none_settled _
    | _ => rfl

end Channel

/-! ## Runs -/

namespace ChannelGroup

/-- The deliveries that wait for an acknowledgement of the channel at a place. -/
def tableAt (group : ChannelGroup M) (place : Nat) : UnackedTable M :=
  (group.channels[place]?.map (·.unacked)).getD .empty

/-- True of an event after which one channel is still the only one that takes from a queue, and by
which nothing but the publishes to the queue and the returns of this channel puts messages there:
the queue is neither deleted nor purged nor reached into by hand, no other channel gets a delivery
from it, and the channel returns deliveries only while none of them is acknowledged. -/
def permits (group : ChannelGroup M) (queue : QueueName) (place : Nat) : Event M → Bool
  | .queue request => !request.disturbs queue
  | .opening _ | .drop _ => true
  | .request other request =>
    match group.channels[other]? with
    | none => true
    | some channel =>
      if other = place then !request.returns || channel.unacked.pendingCount == 0
      else (channel.serve group.store request).1.takenFrom queue == 0

/-- True of a run whose events are all permitted. -/
def isOrderly (group : ChannelGroup M) (queue : QueueName) (place : Nat) : List (Event M) → Bool
  | [] => true
  | event :: rest =>
    group.permits queue place event && (group.perform event).2.isOrderly queue place rest

/-- The line of a queue once the channel at a place has answered, before the queue takes anything
in. -/
def trackAt (group : ChannelGroup M) (queue : QueueName) (place : Nat) (event : Event M)
    (line : List (Tracked M)) : List (Tracked M) :=
  match event.requestTo? place with
  | none => line
  | some request =>
    match group.channels[place]? with
    | none => line
    | some channel =>
      channel.track queue request (channel.serve group.store request).1
        (channel.serve group.store request).2.1 line

/-- The messages a queue has taken in after some events, in order, with where they are; what it
takes in waits at the end of the line. -/
def line (group : ChannelGroup M) (queue : QueueName) (place : Nat) (sofar : List (Tracked M)) :
    List (Event M) → List (Tracked M)
  | [] => sofar
  | event :: rest =>
    (group.perform event).2.line queue place
      (group.trackAt queue place event sofar ++
        waitingIn ((group.record event).enqueuedOn queue)) rest

/-- The unsettled part of a line is what a channel holds and the queue contains, and no other
channel holds anything from the queue. -/
structure Ordered (group : ChannelGroup M) (queue : QueueName) (place : Nat)
    (line : List (Tracked M)) : Prop where
  unsettled_eq : unsettled line = (group.tableAt place).inLine queue (group.store.messages queue)
  others : ∀ other channel, group.channels[other]? = some channel → other ≠ place →
    channel.unacked.itemsFrom queue = []
  /-- What is held returns to a queue that is there. -/
  declared : group.store.has queue = false → (group.tableAt place).itemsFrom queue = []
  coherent : ∀ channel ∈ group.channels, channel.Coherent

/-- In an empty group nothing is held and nothing waits. -/
theorem ordered_start (queue : QueueName) (place : Nat) :
    ({} : ChannelGroup M).Ordered queue place [] where
  unsettled_eq := rfl
  others := by
    intro other channel found
    cases found
  declared _ := rfl
  coherent := by
    intro channel member
    cases member

theorem trackAt_of_unasked {group : ChannelGroup M} {queue : QueueName} {place : Nat}
    {event : Event M} (unasked : event.requestTo? place = none) (line : List (Tracked M)) :
    group.trackAt queue place event line = line := by
  rw [trackAt, unasked]

theorem trackAt_of_missing {group : ChannelGroup M} {place : Nat}
    (missing : group.channels[place]? = none) (queue : QueueName) (event : Event M)
    (line : List (Tracked M)) : group.trackAt queue place event line = line := by
  rw [trackAt, missing]
  split
  · rfl
  · rfl

theorem map_message_trackAt (group : ChannelGroup M) (queue : QueueName) (place : Nat)
    (event : Event M) (line : List (Tracked M)) :
    (group.trackAt queue place event line).map (·.message) = line.map (·.message) := by
  unfold trackAt
  split
  · rfl
  · split
    · rfl
    · exact Channel.map_message_track ..

theorem tableAt_of_some {group : ChannelGroup M} {place : Nat} {channel : Channel M}
    (found : group.channels[place]? = some channel) : group.tableAt place = channel.unacked := by
  rw [tableAt, found]
  rfl

theorem tableAt_set_ne {store : Store M} {channels : List (Channel M)} {other place : Nat}
    (apart : other ≠ place) (channel : Channel M) :
    (⟨store, channels.set other channel⟩ : ChannelGroup M).tableAt place =
      (⟨store, channels⟩ : ChannelGroup M).tableAt place := by
  rw [tableAt, List.getElem?_set_ne apart, tableAt]

/-- Whatever a channel is asked, the channels stay coherent. -/
theorem coherent_serveAt {group : ChannelGroup M}
    (coherent : ∀ channel ∈ group.channels, channel.Coherent) {place : Nat} {channel : Channel M}
    (found : group.channels[place]? = some channel) (request : Request M) :
    ∀ channel' ∈ (group.serveAt place channel request).2.channels, channel'.Coherent := by
  intro channel' member
  rcases List.mem_or_eq_of_mem_set member with old | rfl
  · exact coherent channel' old
  · exact (channel.step_serve group.store request).coherent
      (coherent channel (List.mem_of_getElem? found))

namespace Ordered

variable {group : ChannelGroup M} {queue : QueueName} {place : Nat} {line : List (Tracked M)}

theorem operation (ordered : group.Ordered queue place line) {request : QueueRequest M}
    (undisturbed : request.disturbs queue = false) :
    (group.perform (.queue request)).2.Ordered queue place
      (line ++ waitingIn ((group.record (.queue request)).enqueuedOn queue)) := by
  obtain ⟨messages, still_there⟩ := group.messages_queue undisturbed
  exact {
    unsettled_eq := by
      rw [unsettled_append, unsettled_waitingIn, ordered.unsettled_eq, ← UnackedTable.inLine_append,
        ← messages]
      rfl
    others := ordered.others
    declared := fun missing => ordered.declared (by
      cases present : group.store.has queue with
      | false => rfl
      | true => exact (missing.symm.trans (still_there present)).symm)
    coherent := ordered.coherent }

/-- A new channel holds nothing. -/
theorem opening (ordered : group.Ordered queue place line) (id : String) :
    (group.perform (.opening id)).2.Ordered queue place line := by
  have same : (group.perform (.opening id)).2.tableAt place = group.tableAt place := by
    rw [tableAt, tableAt]
    cases now : (group.perform (.opening id)).2.channels[place]? with
    | none =>
      rw [perform, List.getElem?_eq_none_iff, List.length_append] at now
      rw [List.getElem?_eq_none (Nat.le_of_add_right_le now)]
    | some channel =>
      rcases getElem?_perform_opening now with old | ⟨missing, rfl⟩
      · rw [old]
      · rw [missing]
        rfl
  exact {
    unsettled_eq := by
      rw [same]
      exact ordered.unsettled_eq
    others := by
      intro other channel found apart
      rcases getElem?_perform_opening found with old | ⟨_, rfl⟩
      · exact ordered.others other channel old apart
      · rfl
    declared := by
      rw [same]
      exact ordered.declared
    coherent := by
      intro channel member
      rcases List.mem_append.mp member with old | new
      · exact ordered.coherent channel old
      · rw [List.mem_singleton.mp new]
        exact Channel.coherent_of_reachable (.opened id) }

/-- The channel that takes from the queue answers. -/
theorem own (ordered : group.Ordered queue place line) {channel : Channel M}
    (found : group.channels[place]? = some channel) {request : Request M}
    (calm : request.returns = true → channel.unacked.pendingCount = 0) :
    let line' := channel.track queue request (channel.serve group.store request).1
      (channel.serve group.store request).2.1 line ++
        waitingIn ((group.recordAt channel request).enqueuedOn queue)
    (group.serveAt place channel request).2.Ordered queue place line' ∧
      (settledOf line').Perm
        (settledOf line ++ (group.recordAt channel request).settledOn queue) := by
  intro line'
  have step := channel.step_serve group.store request
  have coherent := ordered.coherent channel (List.mem_of_getElem? found)
  have table := tableAt_of_some found
  have unsettled_line := ordered.unsettled_eq
  have declared := ordered.declared
  rw [table] at unsettled_line declared
  obtain ⟨unsettled_eq, settled⟩ := step.track coherent declared calm unsettled_line
  have served : (group.serveAt place channel request).2.tableAt place =
      (channel.serve group.store request).2.1.unacked := by
    obtain ⟨bound, _⟩ := List.getElem?_eq_some_iff.mp found
    exact tableAt_of_some (List.getElem?_set_self bound)
  constructor
  · exact {
      unsettled_eq := by
        rw [unsettled_append, unsettled_waitingIn, unsettled_eq, ← UnackedTable.inLine_append,
          served]
        exact congrArg _ (step.messages_eq queue).symm
      others := by
        intro other channel' found' apart
        rw [channels_serveAt, List.getElem?_set_ne (Ne.symm apart)] at found'
        exact ordered.others other channel' found' apart
      declared := by
        -- A missing queue was missing before, so the channel held nothing and takes nothing.
        intro missing
        rw [store_serveAt, step.has_eq] at missing
        rw [served]
        exact (step.beside coherent (declared missing) (step.takenFrom_of_missing missing)).1
      coherent := coherent_serveAt ordered.coherent found request }
  · rw [settledOf_append, settledOf_waitingIn, List.append_nil]
    exact settled

/-- Another channel answers. -/
theorem beside (ordered : group.Ordered queue place line) {other : Nat} {channel : Channel M}
    (found : group.channels[other]? = some channel) (apart : other ≠ place) {request : Request M}
    (none_taken : (channel.serve group.store request).1.takenFrom queue = 0) :
    let line' := line ++ waitingIn ((group.recordAt channel request).enqueuedOn queue)
    (group.serveAt other channel request).2.Ordered queue place line' ∧
      (settledOf line').Perm
        (settledOf line ++ (group.recordAt channel request).settledOn queue) := by
  intro line'
  have step := channel.step_serve group.store request
  have coherent := ordered.coherent channel (List.mem_of_getElem? found)
  have none_held := ordered.others other channel found apart
  obtain ⟨still_none, none_settled, none_returned⟩ := step.beside coherent none_held none_taken
  have messages := step.messages_eq queue
  rw [none_returned, none_taken, List.nil_append, List.drop_zero] at messages
  have same : (group.serveAt other channel request).2.tableAt place = group.tableAt place :=
    tableAt_set_ne apart _
  constructor
  · exact {
      unsettled_eq := by
        rw [unsettled_append, unsettled_waitingIn, ordered.unsettled_eq,
          ← UnackedTable.inLine_append, same]
        exact congrArg _ messages.symm
      others := by
        intro other' channel' found' apart'
        rw [channels_serveAt] at found'
        by_cases asked : other' = other
        · subst asked
          rw [eq_of_getElem?_set found']
          exact still_none
        · rw [List.getElem?_set_ne (Ne.symm asked)] at found'
          exact ordered.others other' channel' found' apart'
      declared := by
        intro missing
        rw [store_serveAt, step.has_eq] at missing
        rw [same]
        exact ordered.declared missing
      coherent := coherent_serveAt ordered.coherent found request }
  · rw [settledOf_append, settledOf_waitingIn, recordAt, none_settled]

/-- An event asks a channel, be it there or not. -/
theorem asked (ordered : group.Ordered queue place line) {event : Event M} {other : Nat}
    {request : Request M}
    (asks : ∀ place, event.requestTo? place = if other = place then some request else none)
    (allowed : ∀ channel, group.channels[other]? = some channel →
      if other = place then request.returns = true → channel.unacked.pendingCount = 0
      else (channel.serve group.store request).1.takenFrom queue = 0) :
    let line' := group.trackAt queue place event line ++
      waitingIn ((group.record event).enqueuedOn queue)
    (group.perform event).2.Ordered queue place line' ∧
      (settledOf line').Perm (settledOf line ++ (group.record event).settledOn queue) := by
  intro line'
  have asked_other : event.requestTo? other = some request := (asks other).trans (if_pos rfl)
  cases found : group.channels[other]? with
  | none =>
    have unmoved : group.trackAt queue place event line = line := by
      by_cases mine : other = place
      · exact trackAt_of_missing (mine ▸ found) queue event line
      · exact trackAt_of_unasked ((asks place).trans (if_neg mine)) line
    have same : line' = line := by
      simp only [line', unmoved, record_of_missing asked_other found]
      exact List.append_nil line
    rw [perform_of_missing found asked_other, record_of_missing asked_other found, same]
    exact ⟨ordered, (List.append_nil (settledOf line)).symm ▸ .refl _⟩
  | some channel =>
    have recorded := record_of_requestTo? asked_other found
    rw [perform_of_requestTo? found asked_other, recorded]
    have permitted := allowed channel found
    by_cases mine : other = place
    · subst mine
      rw [if_pos rfl] at permitted
      simp only [line', trackAt, found, asked_other, recorded]
      exact ordered.own found permitted
    · rw [if_neg mine] at permitted
      simp only [line', trackAt_of_unasked ((asks place).trans (if_neg mine)) line, recorded]
      exact ordered.beside found mine permitted

/-- One event. -/
theorem perform (ordered : group.Ordered queue place line) {event : Event M}
    (permitted : group.permits queue place event = true) :
    let line' := group.trackAt queue place event line ++
      waitingIn ((group.record event).enqueuedOn queue)
    (group.perform event).2.Ordered queue place line' ∧
      (settledOf line').Perm (settledOf line ++ (group.record event).settledOn queue) := by
  intro line'
  cases event with
  | queue request =>
    have nothing : (group.record (.queue request)).settledOn queue = [] := by
      cases request <;> rfl
    constructor
    · exact ordered.operation (by simpa [permits] using permitted)
    · rw [settledOf_append, settledOf_waitingIn, nothing]
      exact .refl _
  | opening id =>
    have same : line' = line := List.append_nil line
    rw [same]
    exact ⟨ordered.opening id, (List.append_nil (settledOf line)).symm ▸ .refl _⟩
  | request other request =>
    refine ordered.asked (fun _ => rfl) fun channel found => ?_
    simp only [permits, found] at permitted
    split
    · rename_i mine
      intro returns
      simpa [mine, returns] using permitted
    · rename_i other_one
      simpa [other_one] using permitted
  | drop other =>
    refine ordered.asked (fun _ => rfl) fun _ _ => ?_
    split
    · intro returns
      cases returns
    · rfl

end Ordered

/-- The line lists what the queue took in, whatever the run. -/
theorem map_message_line (group : ChannelGroup M) (queue : QueueName) (place : Nat)
    (sofar : List (Tracked M)) (events : List (Event M)) :
    (group.line queue place sofar events).map (·.message) =
      sofar.map (·.message) ++ (group.ledger events).enqueuedOn queue := by
  induction events generalizing group sofar with
  | nil => exact (List.append_nil _).symm
  | cons event rest ih =>
    rw [line, ih, List.map_append, map_message_trackAt, map_message_waitingIn, ledger,
      Ledger.enqueuedOn_append, List.append_assoc]

theorem ordered_after {group : ChannelGroup M} {queue : QueueName} {place : Nat}
    {sofar : List (Tracked M)} (ordered : group.Ordered queue place sofar) {events : List (Event M)}
    (orderly : group.isOrderly queue place events = true) :
    (group.after events).Ordered queue place (group.line queue place sofar events) ∧
      (settledOf (group.line queue place sofar events)).Perm
        (settledOf sofar ++ (group.ledger events).settledOn queue) := by
  -- `Ordered` carries the run; the settled part gains the settlements of each event.
  induction events generalizing group sofar with
  | nil => exact ⟨ordered, by rw [ledger]; exact (List.append_nil _).symm ▸ .refl _⟩
  | cons event rest ih =>
    obtain ⟨permitted, later⟩ := Bool.and_eq_true_iff.mp orderly
    obtain ⟨ordered_next, settled_next⟩ := ordered.perform permitted
    obtain ⟨ordered_last, settled_last⟩ := ih ordered_next later
    refine ⟨ordered_last, settled_last.trans ?_⟩
    rw [ledger, Ledger.settledOn_append, ← List.append_assoc]
    exact settled_next.append_right _

/-- Every beginning of an orderly run is orderly. -/
theorem isOrderly_take {group : ChannelGroup M} {queue : QueueName} {place : Nat}
    {events : List (Event M)} (orderly : group.isOrderly queue place events = true) (n : Nat) :
    group.isOrderly queue place (events.take n) = true := by
  induction events generalizing group n with
  | nil => rwa [List.take_nil]
  | cons event rest ih =>
    obtain ⟨permitted, later⟩ := Bool.and_eq_true_iff.mp orderly
    cases n with
    | zero => rfl
    | succ n => exact Bool.and_eq_true_iff.mpr ⟨permitted, ih later n⟩

/-- When the channel closes, or is closed already, all that is unsettled waits in its order. -/
theorem Ordered.close {group : ChannelGroup M} {queue : QueueName} {place : Nat}
    {line : List (Tracked M)} (ordered : group.Ordered queue place line) {event : Event M}
    (closes : event.requestTo? place = some .close) :
    (group.perform event).2.store.messages queue = (unsettled line).map (·.message) := by
  cases found : group.channels[place]? with
  | none =>
    have nothing : (group.tableAt place).itemsFrom queue = [] := by
      rw [tableAt, found]
      rfl
    rw [perform_of_missing found closes, ordered.unsettled_eq, UnackedTable.inLine, nothing,
      List.nil_append, map_message_waitingIn]
  | some channel =>
    have step := channel.step_serve group.store .close
    have coherent := ordered.coherent channel (List.mem_of_getElem? found)
    have unsettled_line := ordered.unsettled_eq
    have declared := ordered.declared
    rw [tableAt_of_some found] at unsettled_line declared
    obtain ⟨tracked, _⟩ := step.track coherent declared (fun returns => by cases returns)
      unsettled_line
    have emptied : (channel.serve group.store .close).2.1.unacked.itemsFrom queue = [] := by
      have none_left := ((step.coherent coherent).cleared (channel.mode_serve_close group.store)).1
      rw [UnackedTable.itemsFrom, none_left]
      rfl
    rw [UnackedTable.inLine, emptied, List.nil_append] at tracked
    -- What was held moves back, all of it, to where it stood, and nothing is taken in.
    have kept : unsettled (channel.track queue .close (channel.serve group.store .close).1
        (channel.serve group.store .close).2.1 line) =
          (unsettled line).map (move ((channel.unacked.departed
            (channel.serve group.store .close).2.1.unacked).map (·.tag)) .waiting) :=
      unsettled_map_return _ line
    rw [perform_of_requestTo? found closes, store_serveAt, step.messages_eq queue]
    refine (List.append_nil _).trans ?_
    rw [← map_message_waitingIn (_ ++ _), ← tracked, kept, map_message_map_move]

/-- **Delivery and return keep the order of a queue.** Let one channel take from a queue, let the
others publish to it, and let nothing else reach into it. At every point of the run the messages
the channel holds from the queue, in tag order, followed by the contents of the queue are the
messages the queue took in, in order, without the settled ones; and when the channel closes, the
queue contains all of these. -/
theorem order_kept {queue : QueueName} {place : Nat} {events : List (Event M)}
    (orderly : ({} : ChannelGroup M).isOrderly queue place events = true) (n : Nat) :
    let start : ChannelGroup M := {}
    let past := events.take n
    let now := start.after past
    let line := start.line queue place [] past
    line.map (·.message) = (start.ledger past).enqueuedOn queue ∧
      (settledOf line).Perm ((start.ledger past).settledOn queue) ∧
      messagesFrom queue ((now.tableAt place).entries.map (·.delivery)) ++
          now.store.messages queue =
        (unsettled line).map (·.message) ∧
      ∀ event : Event M, event.requestTo? place = some .close →
        (now.perform event).2.store.messages queue = (unsettled line).map (·.message) := by
  intro start past now line
  obtain ⟨ordered, settled⟩ := ordered_after (ordered_start queue place) (isOrderly_take orderly n)
  refine ⟨start.map_message_line queue place [] past, settled, ?_, fun event => ordered.close⟩
  rw [ordered.unsettled_eq, UnackedTable.inLine, List.map_append,
    UnackedTable.map_message_itemsFrom, map_message_waitingIn]

/-- Deliveries acknowledged out of order, one taken without acknowledgement, a rollback, a return, a
commit by the channel and one by another that publishes. -/
theorem order_kept_of_return_and_commits :
    let start : ChannelGroup Nat := {}
    let events : List (Event Nat) :=
      [.queue (.declare "q"), .opening "C", .opening "P", .request 1 (.publish 1 "q"),
        .request 1 (.publish 2 "q"), .request 1 (.publish 3 "q"), .request 1 (.publish 4 "q"),
        .request 1 .select, .request 0 (.consume "q" (.named "c") true),
        .request 0 (.get "q" false), .request 0 (.get "q" false), .request 0 (.next (.named "c")),
        .request 0 (.get "q" false), .request 0 (.ack 2 false), .request 1 (.publish 5 "q"),
        .request 0 .select, .request 0 (.ack 0 true), .request 0 (.publish 9 "q"),
        .request 0 .rollback, .request 0 (.recover true), .request 1 .commit,
        .request 0 (.get "q" false), .request 0 (.get "q" false), .request 0 (.ack 5 false),
        .request 0 .commit, .request 1 (.get "other" true), .drop 0, .request 1 (.publish 6 "q")]
    let past := events.take 25
    let now := start.after past
    let line := start.line "q" 0 [] past
    start.isOrderly "q" 0 events = true ∧
      line = [⟨1, .settled⟩, ⟨2, .settled⟩, ⟨3, .settled⟩, ⟨4, .held 6⟩, ⟨5, .waiting⟩] ∧
      line.map (·.message) = (start.ledger past).enqueuedOn "q" ∧
        (settledOf line).Perm ((start.ledger past).settledOn "q") ∧
        messagesFrom "q" ((now.tableAt 0).entries.map (·.delivery)) ++ now.store.messages "q" =
          (unsettled line).map (·.message) ∧
        ∀ event : Event Nat, event.requestTo? 0 = some .close →
          (now.perform event).2.store.messages "q" = (unsettled line).map (·.message) := by
  intro start events past now line
  have orderly : start.isOrderly "q" 0 events = true := by decide
  exact ⟨orderly, by decide, order_kept orderly 25⟩

end ChannelGroup

end MessageBroker
