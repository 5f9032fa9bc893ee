import MessageBroker.Proofs.Commit
import MessageBroker.Proofs.Rollback
import MessageBroker.Proofs.Separation

/-!
# Workers that empty a queue

A worker opens a channel, selects transactional mode, takes deliveries from a queue until it is
given nothing, and ends with some last requests. While it works, others may use every queue but
those in a list (`Channel.Served`); the loop and the session around it are relations between what
the worker finds and the answers it gets (`Channel.Emptied`, `Channel.Worked`), so that a session in
which a request is refused is a session like any other.

A round of the loop loads the channel with the next delivery (`Channel.Ready.exists_round`), so the
loop ends when as many deliveries are out as messages were waiting (`Channel.Ready.emptied_iff`,
`Channel.Ready.ends`). A worker that acknowledges everything at once and rolls back hands all of it
back; the next one, which acknowledges one by one and commits, keeps it (`Channel.emptied_twice`).
-/

set_option autoImplicit false

namespace MessageBroker

variable {M : Type}

/-- An acknowledgement of everything makes every entry pending. -/
theorem UnackedTable.pendingCount_postponed_all (table : UnackedTable M) :
    (table.postponed Tag.all true).pendingCount = table.entries.length := by
  have flagged : (table.postponed Tag.all true).entries.length = table.entries.length :=
    List.length_map _
  rw [← flagged]
  apply List.countP_eq_length.mpr
  intro entry member
  obtain ⟨taken, _, rfl⟩ := List.mem_map.mp member
  exact taken.ackPending_flagBy Tag.all true

theorem Store.Agree.refl (names : List QueueName) (store : Store M) : store.Agree names store :=
  fun _ _ => rfl

theorem Store.set_set (store : Store M) (queue : QueueName)
    (first second : Option (List (Queued M))) :
    (store.set queue first).set queue second = store.set queue second := by
  apply Store.ext
  funext name
  show (if name = queue then second else if name = queue then first else store.queue? name) = _
  by_cases written : name = queue
  · rw [if_pos written]
    exact (if_pos written).symm
  · rw [if_neg written, if_neg written]
    exact (if_neg written).symm

/-- Where a queue is written, it does not matter what it held. -/
theorem Store.Agree.set_again {names : List QueueName} {store other : Store M} {queue : QueueName}
    {contents : Option (List (Queued M))} (agree : (store.set queue contents).Agree names other)
    (new : Option (List (Queued M))) :
    (store.set queue new).Agree names (other.set queue new) := by
  intro name named
  have same := agree name named
  rw [queue?_set] at same
  rw [queue?_set, queue?_set]
  by_cases written : name = queue
  · rw [if_pos written, if_pos written]
  · rw [if_neg written] at same
    rw [if_neg written, if_neg written, same]

theorem Store.Agree.trans {names : List QueueName} {store other third : Store M}
    (first : store.Agree names other) (second : other.Agree names third) :
    store.Agree names third :=
  fun queue named => (second queue named).trans (first queue named)

namespace Channel

/-! ## Requests among those of others -/

/-- Requests that are answered one after another while others use the store, but none of these
queues. -/
inductive Served (names : List QueueName) : Channel M → Store M → List (Request M) →
    List (Reply M) → Channel M → Store M → Prop
  | nil {channel : Channel M} {store found : Store M} (others : store.Agree names found) :
      Served names channel store [] [] channel found
  | cons {channel after : Channel M} {store found later : Store M} {request : Request M}
      {rest : List (Request M)} {replies : List (Reply M)} (others : store.Agree names found)
      (served : Served names (channel.serve found request).2.1 (channel.serve found request).2.2
        rest replies after later) :
      Served names channel store (request :: rest) ((channel.serve found request).1 :: replies)
        after later

/-- What a loop asks about a delivery before it goes on. -/
def followUp (acknowledge : Bool) (tag : Nat) : List (Request M) :=
  if acknowledge then [.ack tag false] else []

/-- A loop that asks for the next message of a queue and goes on as long as it is given one, each
time with an acknowledgement if it is to acknowledge. -/
inductive Emptied (names : List QueueName) (queue : QueueName) (acknowledge : Bool) :
    Channel M → Store M → List (Reply M) → Channel M → Store M → Prop
  | done {channel after : Channel M} {store later : Store M} {reply : Reply M}
      (asked : Served names channel store [.get queue false] [reply] after later)
      (nothing : ∀ delivery, reply ≠ .delivered (some delivery)) :
      Emptied names queue acknowledge channel store [reply] after later
  | again {channel holding next after : Channel M} {store left kept later : Store M}
      {delivery : Delivery M} {answers replies : List (Reply M)}
      (asked : Served names channel store [.get queue false] [.delivered (some delivery)]
        holding left)
      (acked : Served names holding left
        (followUp acknowledge delivery.tag) answers next kept)
      (rest : Emptied names queue acknowledge next kept replies after later) :
      Emptied names queue acknowledge channel store
        (.delivered (some delivery) :: (answers ++ replies)) after later

/-- One turn of such a loop that goes on: there was a message. -/
inductive Turn (names : List QueueName) (queue : QueueName) (acknowledge : Bool) :
    Channel M × Store M → Channel M × Store M → Prop
  | intro {channel holding next : Channel M} {store left kept : Store M} {delivery : Delivery M}
      {answers : List (Reply M)}
      (asked : Served names channel store [.get queue false] [.delivered (some delivery)]
        holding left)
      (acked : Served names holding left (followUp acknowledge delivery.tag) answers next kept) :
      Turn names queue acknowledge (channel, store) (next, kept)

/-- The loop cannot go on forever. -/
def Ends (names : List QueueName) (queue : QueueName) (acknowledge : Bool) (channel : Channel M)
    (store : Store M) : Prop :=
  Acc (fun after before => Turn names queue acknowledge before after) (channel, store)

/-- A session of a worker: its channel is new, selects transactional mode, empties a queue and
serves the last requests. -/
inductive Worked (names : List QueueName) (queue : QueueName) (acknowledge : Bool)
    (last : List (Request M)) (id : String) (store : Store M) : List (Reply M) → Store M → Prop
  | intro {begun holding after : Channel M} {found left later : Store M}
      {first taken ending : List (Reply M)}
      (selected : Served names (new id) store [.select] first begun found)
      (emptied : Emptied names queue acknowledge begun found taken holding left)
      (ended : Served names holding left last ending after later) :
      Worked names queue acknowledge last id store (first ++ taken ++ ending) later

/-- Every session of a worker that finds the first store ends, is given these answers and leaves
these queues as they are in the second one. -/
structure WorksTo (names : List QueueName) (queue : QueueName) (acknowledge : Bool)
    (last : List (Request M)) (store : Store M) (replies : List (Reply M)) (later : Store M) :
    Prop where
  ends : ∀ {id first begun found}, Served names (new id) store [.select] first begun found →
    Ends names queue acknowledge begun found
  worked_iff : ∀ {id given left}, Worked names queue acknowledge last id store given left ↔
    given = replies ∧ later.Agree names left

section Served

variable {names : List QueueName} {channel after : Channel M} {store later : Store M}
  {requests : List (Request M)} {replies : List (Reply M)}

/-- Where others have been before the first request does not show. -/
theorem Served.of_agree {other : Store M} (agree : store.Agree names other)
    (served : Served names channel other requests replies after later) :
    Served names channel store requests replies after later := by
  cases served with
  | nil others => exact .nil (agree.trans others)
  | cons others served => exact .cons (agree.trans others) served

/-- **What others do elsewhere is not noticed**: the requests are answered as if the channel were
alone, and these queues come out as if it were. -/
theorem served_iff (confined : channel.Within names)
    (named : ∀ request ∈ requests, ∀ queue ∈ request.names, queue ∈ names) :
    Served names channel store requests replies after later ↔
      ∃ alone, channel.serveAll store requests = (replies, after, alone) ∧
        alone.Agree names later := by
  induction requests generalizing channel store replies with
  | nil =>
    constructor
    · intro served
      cases served with
      | nil others => exact ⟨store, rfl, others⟩
    · rintro ⟨alone, eq, others⟩
      cases eq
      exact .nil others
  | cons request rest ih =>
    have first_named := named request List.mem_cons_self
    have rest_named := fun other member => named other (List.mem_cons_of_mem request member)
    have still := (channel.step_serve store request).within confined first_named
    rw [serveAll_cons]
    constructor
    · intro served
      cases served with
      | cons others served =>
        obtain ⟨eq, found_eq, agree⟩ := confined.sameServe first_named others
        rw [found_eq] at served ⊢
        rw [eq] at still ⊢
        obtain ⟨alone, rest_eq, same⟩ := (ih still rest_named).mp (served.of_agree agree)
        rw [rest_eq]
        exact ⟨alone, rfl, same⟩
    · rintro ⟨alone, eq, same⟩
      obtain ⟨rfl, rest_eq⟩ := Prod.mk.inj eq
      have served := (ih still rest_named).mpr ⟨alone, Prod.ext rfl rest_eq, same⟩
      exact .cons (Store.Agree.refl names store) served

/-- A script of requests that name only these queues keeps a channel to them. -/
theorem within_serveAll (store : Store M) (confined : channel.Within names)
    (named : ∀ request ∈ requests, ∀ queue ∈ request.names, queue ∈ names) :
    (channel.serveAll store requests).2.1.Within names := by
  induction requests generalizing channel store with
  | nil => exact confined
  | cons request rest ih =>
    rw [serveAll_cons]
    apply ih
    · exact (channel.step_serve store request).within confined (named request List.mem_cons_self)
    · intro other member
      exact named other (List.mem_cons_of_mem request member)

end Served

/-! ## What a worker has taken -/

/-- Messages as the deliveries of a queue under successive tags. -/
def numbered (queue : QueueName) (last : Nat) (waiting : List (Queued M)) : List (Delivery M) :=
  (waiting.zipIdx (last + 1)).map fun (head, tag) =>
    ⟨tag, head.message, queue, .get, head.redelivered⟩

/-- A channel that has taken some deliveries, each acknowledged in the transaction or none. -/
structure Loaded (acknowledge : Bool) (channel : Channel M) (deliveries : List (Delivery M))
    (after : Channel M) : Prop where
  tags : after.tags = ⟨channel.tags.last + deliveries.length⟩
  entries : after.unacked.entries =
    channel.unacked.entries ++ deliveries.map (⟨·, acknowledge⟩)
  effects : after.buffer.effects = channel.buffer.effects ++
    if acknowledge then deliveries.map (.ack ·.tag false) else []
  rest : after =
    { channel with tags := after.tags, unacked := after.unacked, buffer := after.buffer }

/-- The answers of a loop that takes these deliveries. -/
def takings (acknowledge : Bool) (deliveries : List (Delivery M)) : List (Reply M) :=
  deliveries.flatMap (fun delivery =>
    .delivered (some delivery) :: if acknowledge then [.done] else []) ++ [.delivered none]

theorem numbered_cons (queue : QueueName) (channel : Channel M) (head : Queued M)
    (tail : List (Queued M)) :
    numbered queue channel.tags.last (head :: tail) =
      channel.nextDelivery ⟨queue, .get, false⟩ head ::
        numbered queue (channel.tags.last + 1) tail := by
  rw [numbered, List.zipIdx_cons, List.map_cons, numbered, nextDelivery]

section Numbered

variable (queue : QueueName) (last : Nat) (waiting : List (Queued M))

theorem length_numbered : (numbered queue last waiting).length = waiting.length := by
  rw [numbered, List.length_map, List.length_zipIdx]

theorem tags_numbered :
    (numbered queue last waiting).map (·.tag) = List.range' (last + 1) waiting.length := by
  rw [numbered, List.map_map, ← List.zipIdx_map_snd]
  rfl

theorem messages_numbered :
    (numbered queue last waiting).map (·.message) = waiting.map (·.message) := by
  rw [numbered, List.map_map]
  calc (waiting.zipIdx (last + 1)).map _
      = ((waiting.zipIdx (last + 1)).map Prod.fst).map (·.message) := List.map_map.symm
    _ = waiting.map (·.message) := by rw [List.zipIdx_map_fst]

theorem queue_of_mem_numbered {delivery : Delivery M}
    (member : delivery ∈ numbered queue last waiting) : delivery.queue = queue := by
  obtain ⟨_, _, rfl⟩ := List.mem_map.mp member
  rfl

/-- Deliveries of a queue that go back to it while it is empty fill it as it was, but all of them
are redelivered. -/
theorem giveBack_numbered (store : Store M) :
    (store.set queue (some [])).giveBack (numbered queue last waiting) =
      store.set queue (some (waiting.map fun head => ⟨head.message, true⟩)) := by
  apply Store.ext
  funext name
  rw [Store.queue?_giveBack, Store.queue?_set, Store.queue?_set]
  by_cases same : name = queue
  · have all_from : messagesFrom name (numbered queue last waiting) = waiting.map (·.message) := by
      rw [messagesFrom, List.filter_eq_self.mpr, messages_numbered]
      intro delivery member
      have from_queue := queue_of_mem_numbered queue last waiting member
      exact decide_eq_true (from_queue.trans same.symm)
    rw [if_pos same, if_pos same, all_from, Option.map_some, List.append_nil, List.map_map]
    rfl
  · have absent : name ∉ (numbered queue last waiting).map (·.queue) := by
      intro member
      obtain ⟨delivery, listed, named⟩ := List.mem_map.mp member
      have from_queue := queue_of_mem_numbered queue last waiting listed
      exact same (named.symm.trans from_queue)
    rw [if_neg same, if_neg same, map_messagesFrom_of_absent absent]

end Numbered

section Loaded

variable {acknowledge : Bool} {channel next after : Channel M} {delivery : Delivery M}

theorem Loaded.nil_iff : Loaded acknowledge channel [] after ↔ after = channel := by
  constructor
  · rintro ⟨tags, entries, effects, rest⟩
    have same_tags : after.tags = channel.tags := tags
    have same_unacked : after.unacked = channel.unacked :=
      UnackedTable.ext (entries.trans (List.append_nil _))
    have same_buffer : after.buffer = channel.buffer := by
      apply TransactionBuffer.ext
      rw [effects]
      cases acknowledge <;> exact List.append_nil _
    rw [rest, same_tags, same_unacked, same_buffer]
  · rintro rfl
    constructor
    · rfl
    · exact (List.append_nil _).symm
    · cases acknowledge <;> exact (List.append_nil _).symm
    · rfl

/-- A channel that has taken one delivery takes the others. -/
theorem Loaded.cons_iff (first : Loaded acknowledge channel [delivery] next)
    (rest : List (Delivery M)) :
    Loaded acknowledge channel (delivery :: rest) after ↔ Loaded acknowledge next rest after := by
  have tags : next.tags.last + rest.length = channel.tags.last + (delivery :: rest).length := by
    rw [first.tags]
    show channel.tags.last + 1 + rest.length = channel.tags.last + (rest.length + 1)
    omega
  have entries : next.unacked.entries ++ rest.map (⟨·, acknowledge⟩) =
      channel.unacked.entries ++ (delivery :: rest).map (⟨·, acknowledge⟩) := by
    rw [first.entries, List.append_assoc]
    rfl
  have effects : (next.buffer.effects ++
        if acknowledge then rest.map (.ack ·.tag false) else []) =
      channel.buffer.effects ++
        if acknowledge then (delivery :: rest).map (.ack ·.tag false) else [] := by
    rw [first.effects, List.append_assoc]
    cases acknowledge <;> rfl
  have same : { next with tags := after.tags, unacked := after.unacked, buffer := after.buffer } =
      { channel with tags := after.tags, unacked := after.unacked, buffer := after.buffer } := by
    rw [first.rest]
  constructor
  · intro loaded
    exact ⟨by rw [loaded.tags, tags], by rw [loaded.entries, entries],
      by rw [loaded.effects, effects], by rw [same]; exact loaded.rest⟩
  · intro loaded
    exact ⟨by rw [loaded.tags, tags], by rw [loaded.entries, entries],
      by rw [loaded.effects, effects], by rw [← same]; exact loaded.rest⟩

variable {queue : QueueName} {head : Queued M} {tail : List (Queued M)} {store : Store M}

/-- A get from a queue that is not empty loads the channel with the next delivery. -/
theorem Coherent.exists_serve_get (coherent : channel.Coherent) (isOpen : channel.isOpen = true)
    (contents : store.queue? queue = some (head :: tail)) (room : channel.tags.last < Tag.largest) :
    let delivery := channel.nextDelivery ⟨queue, .get, false⟩ head
    ∃ holding, Loaded false channel [delivery] holding ∧
      channel.serve store (.get queue false) =
        (.delivered (some delivery), holding, store.set queue (some tail)) := by
  intro delivery
  cases entered : channel.unacked.enter delivery with
  | error error =>
    -- The tag that is issued next is not in the table.
    have present := (UnackedTable.enter_eq_error_iff.mp entered).1
    cases coherent.contains_next.symm.trans present
  | ok unacked =>
    refine ⟨_, ?_, channel.serve_pull_of_entered store isOpen rfl contents room rfl entered⟩
    constructor
    · rfl
    · exact (UnackedTable.enter_eq_ok_iff.mp entered).2.trans
        (UnackedTable.insertEntry_of_largest _ coherent.lt_next)
    · exact (List.append_nil _).symm
    · rfl

/-- In a transaction the delivery that was taken last can be acknowledged by its tag. -/
theorem Loaded.exists_serve_ack {holding : Channel M}
    (loaded : Loaded false channel [delivery] holding)
    (transactional : channel.mode = .transactional)
    (below : ∀ entry ∈ channel.unacked.entries, entry.tag < delivery.tag) (store : Store M) :
    ∃ next, Loaded true channel [delivery] next ∧
      holding.serve store (.ack delivery.tag false) = (.done, next, store) := by
  have inside : holding.mode = .transactional := by
    rw [loaded.rest]
    exact transactional
  have free : (holding.unacked.contains delivery.tag &&
      !holding.unacked.isPending delivery.tag) = true := by
    apply UnackedTable.contains_and_not_isPending_iff.mpr
    refine ⟨⟨delivery, false⟩, ?_, rfl, rfl⟩
    rw [loaded.entries]
    exact List.mem_append_right _ (List.mem_singleton_self _)
  -- Of the entries only the last one has the tag.
  have kept : ∀ entry ∈ channel.unacked.entries, entry.flagBy delivery.tag false = entry := by
    intro entry member
    apply if_neg
    rw [covers_single]
    exact Nat.ne_of_lt (below entry member)
  have flagged : (⟨delivery, false⟩ : UnackedDelivery M).flagBy delivery.tag false =
      ⟨delivery, true⟩ := if_pos (covers_single.mpr rfl)
  have acked := holding.serve_ack_of_transactional store inside delivery.tag false
  rw [free] at acked
  refine ⟨_, ?_, acked⟩
  constructor
  · exact loaded.tags
  · show (holding.unacked.postponed delivery.tag false).entries = _
    rw [UnackedTable.postponed, UnackedTable.entries_adjust, loaded.entries, List.map_append,
      List.map_congr_left kept, List.map_id', List.map_singleton, List.map_singleton, flagged]
    rfl
  · show holding.buffer.effects ++ [.ack delivery.tag false] = _
    rw [loaded.effects, List.append_assoc]
    rfl
  · rw [loaded.rest]

end Loaded

/-! ## One round of the loop -/

/-- A channel in a transaction that can take all that waits in a queue. -/
structure Ready (names : List QueueName) (queue : QueueName) (channel : Channel M) (store : Store M)
    (waiting : List (Queued M)) : Prop where
  reachable : channel.Reachable
  transactional : channel.mode = .transactional
  confined : channel.Within names
  named : queue ∈ names
  contents : store.queue? queue = some waiting
  room : channel.tags.last + waiting.length ≤ Tag.largest

/-- A round of the loop: the channel asks for the next message and has it, acknowledges it if it is
to, and goes on as it came. -/
structure Round (names : List QueueName) (queue : QueueName) (acknowledge : Bool)
    (channel : Channel M) (store : Store M) (delivery : Delivery M) (left : Store M)
    (holding next : Channel M) : Prop where
  asked : channel.serveAll store [.get queue false] = ([.delivered (some delivery)], holding, left)
  acked : holding.serveAll left (followUp acknowledge delivery.tag) =
    (if acknowledge then [.done] else [], next, left)
  loaded : Loaded acknowledge channel [delivery] next
  held : holding.Within names
  reachable : next.Reachable
  confined : next.Within names

section Loop

variable {names : List QueueName} {queue : QueueName} {acknowledge : Bool}
  {channel after : Channel M} {store later : Store M} {replies : List (Reply M)}
  {waiting : List (Queued M)}

theorem named_get (named : queue ∈ names) :
    ∀ request ∈ ([.get queue false] : List (Request M)), ∀ name ∈ request.names, name ∈ names := by
  intro request member name listed
  rw [List.mem_singleton.mp member] at listed
  rw [List.mem_singleton.mp listed]
  exact named

theorem named_of_nil {requests : List (Request M)}
    (unnamed : ∀ request ∈ requests, request.names = []) :
    ∀ request ∈ requests, ∀ name ∈ request.names, name ∈ names := by
  intro request member name listed
  rw [unnamed request member] at listed
  cases listed

theorem named_followUp (acknowledge : Bool) (tag : Nat) :
    ∀ request ∈ (followUp acknowledge tag : List (Request M)),
      ∀ name ∈ request.names, name ∈ names := by
  apply named_of_nil
  cases acknowledge <;> simp [followUp, Request.names]

/-- What others have done in the meantime is elsewhere. -/
theorem Ready.of_agree (ready : Ready names queue channel store waiting) {found : Store M}
    (agree : store.Agree names found) : Ready names queue channel found waiting where
  reachable := ready.reachable
  transactional := ready.transactional
  confined := ready.confined
  named := ready.named
  contents := (agree queue ready.named).trans ready.contents
  room := ready.room

/-- A queue that is empty gives nothing. -/
theorem Ready.asked_of_empty (ready : Ready names queue channel store []) :
    channel.serveAll store [.get queue false] = ([.delivered none], channel, store) := by
  have isOpen := channel.isOpen_of_transactional ready.transactional
  rw [serveAll_cons, channel.serve_pull_of_empty store isOpen rfl ready.contents]
  rfl

/-- A channel that was given a delivery ends the round with it. -/
theorem exists_round_of_loaded (acknowledge : Bool) {delivery : Delivery M} {holding : Channel M}
    {left : Store M} (transactional : channel.mode = .transactional)
    (below : ∀ entry ∈ channel.unacked.entries, entry.tag < delivery.tag)
    (asked : channel.serveAll store [.get queue false] =
      ([.delivered (some delivery)], holding, left))
    (loaded : Loaded false channel [delivery] holding) (reached : holding.Reachable)
    (held : holding.Within names) :
    ∃ next, Round names queue acknowledge channel store delivery left holding next := by
  cases acknowledge with
  | false => exact ⟨holding, asked, rfl, loaded, held, reached, held⟩
  | true =>
    obtain ⟨next, both, eq⟩ := loaded.exists_serve_ack transactional below left
    have acked : holding.serveAll left (followUp true delivery.tag) = ([.done], next, left) := by
      show holding.serveAll left [.ack delivery.tag false] = _
      rw [serveAll_cons, eq]
      rfl
    have held_next := within_serveAll left held (named_followUp true delivery.tag)
    have reached_next := reached.serveAll left (followUp true delivery.tag)
    rw [acked] at held_next reached_next
    exact ⟨next, asked, acked, both, held, reached_next, held_next⟩

section Round

variable {head : Queued M} {tail : List (Queued M)}

/-- **A round of the loop takes one delivery**, the next one. -/
theorem Ready.exists_round (acknowledge : Bool)
    (ready : Ready names queue channel store (head :: tail)) :
    ∃ holding next, Round names queue acknowledge channel store
      (channel.nextDelivery ⟨queue, .get, false⟩ head) (store.set queue (some tail))
      holding next := by
  have coherent := coherent_of_reachable ready.reachable
  have isOpen := channel.isOpen_of_transactional ready.transactional
  have room : channel.tags.last < Tag.largest := by
    have enough := ready.room
    rw [List.length_cons] at enough
    omega
  obtain ⟨holding, loaded, got⟩ := coherent.exists_serve_get isOpen ready.contents room
  have asked : channel.serveAll store [.get queue false] =
      ([.delivered (some (channel.nextDelivery ⟨queue, .get, false⟩ head))], holding,
        store.set queue (some tail)) := by
    rw [serveAll_cons, got]
    rfl
  have held := within_serveAll store ready.confined (named_get ready.named)
  have reached := ready.reachable.serveAll store [.get queue false]
  rw [asked] at held reached
  obtain ⟨next, round⟩ := exists_round_of_loaded acknowledge ready.transactional
    coherent.lt_next asked loaded reached held
  exact ⟨holding, next, round⟩

variable {delivery : Delivery M} {holding next : Channel M}

theorem Round.last_eq {left : Store M}
    (round : Round names queue acknowledge channel store delivery left holding next) :
    next.tags.last = channel.tags.last + 1 :=
  congrArg TagCounter.last round.loaded.tags

/-- After a round the channel can take the rest. -/
theorem Ready.goes_on (ready : Ready names queue channel store (head :: tail))
    (round : Round names queue acknowledge channel store delivery (store.set queue (some tail))
      holding next) : Ready names queue next (store.set queue (some tail)) tail where
  reachable := round.reachable
  transactional := by
    rw [round.loaded.rest]
    exact ready.transactional
  confined := round.confined
  named := ready.named
  contents := if_pos rfl
  room := by
    have enough := ready.room
    rw [List.length_cons] at enough
    rw [round.last_eq]
    omega

/-- Whatever others do, a turn of the loop is this round. -/
theorem Round.eq_of_turn {given : Delivery M} {left found kept : Store M} {other last : Channel M}
    {answers : List (Reply M)}
    (round : Round names queue acknowledge channel store delivery left holding next)
    (confined : channel.Within names) (named : queue ∈ names)
    (asked : Served names channel store [.get queue false] [.delivered (some given)] other found)
    (acked : Served names other found (followUp acknowledge given.tag) answers last kept) :
    given = delivery ∧ answers = (if acknowledge then [.done] else []) ∧ last = next ∧
      left.Agree names kept := by
  obtain ⟨_, eq, agree⟩ := (served_iff confined (named_get named)).mp asked
  rw [round.asked] at eq
  cases eq
  obtain ⟨_, eq, agree⟩ := (served_iff round.held (named_followUp _ _)).mp (acked.of_agree agree)
  rw [round.acked] at eq
  cases eq
  exact ⟨rfl, rfl, rfl, agree⟩

end Round

/-! ## The loop -/

theorem takings_cons (acknowledge : Bool) (delivery : Delivery M) (rest : List (Delivery M)) :
    takings acknowledge (delivery :: rest) =
      .delivered (some delivery) :: ((if acknowledge then [.done] else []) ++
        takings acknowledge rest) := by
  rw [takings, List.flatMap_cons, List.append_assoc]
  rfl

/-- The loop ends at once where the queue is empty. -/
theorem Ready.emptied_iff_of_empty (ready : Ready names queue channel store []) :
    Emptied names queue acknowledge channel store replies after later ↔
      replies = [.delivered none] ∧ after = channel ∧ store.Agree names later := by
  have get_named := named_get (M := M) ready.named
  constructor
  · intro emptied
    cases emptied with
    | done asked _ =>
      obtain ⟨_, eq, agree⟩ := (served_iff ready.confined get_named).mp asked
      rw [ready.asked_of_empty] at eq
      cases eq
      exact ⟨rfl, rfl, agree⟩
    | again asked =>
      obtain ⟨_, eq, _⟩ := (served_iff ready.confined get_named).mp asked
      rw [ready.asked_of_empty] at eq
      cases eq
  · rintro ⟨rfl, rfl, agree⟩
    have asked := (served_iff ready.confined get_named).mpr ⟨store, ready.asked_of_empty, agree⟩
    exact .done asked fun delivery same => by cases same

/-- **The loop takes all that waits in the queue and ends.** It is given the messages in order under
the tags that come next, then nothing, and leaves the queue empty. -/
theorem Ready.emptied_iff (ready : Ready names queue channel store waiting) :
    Emptied names queue acknowledge channel store replies after later ↔
      replies = takings acknowledge (numbered queue channel.tags.last waiting) ∧
        Loaded acknowledge channel (numbered queue channel.tags.last waiting) after ∧
        (store.set queue (some [])).Agree names later := by
  induction waiting generalizing channel store replies with
  | nil =>
    have empty : store.set queue (some []) = store := by
      rw [← ready.contents]
      exact store.set_queue?_self queue
    rw [ready.emptied_iff_of_empty, empty]
    constructor
    · rintro ⟨rfl, rfl, agree⟩
      exact ⟨rfl, Loaded.nil_iff.mpr rfl, agree⟩
    · rintro ⟨rfl, loaded, agree⟩
      exact ⟨rfl, Loaded.nil_iff.mp loaded, agree⟩
  | cons head tail ih =>
    have get_named := named_get (M := M) ready.named
    obtain ⟨holding, next, round⟩ := ready.exists_round acknowledge
    have ready_next := ready.goes_on round
    rw [numbered_cons, takings_cons, round.loaded.cons_iff, ← round.last_eq]
    constructor
    · intro emptied
      cases emptied with
      | done asked nothing =>
        -- The get is given a delivery, so the loop does not end here.
        obtain ⟨_, eq, _⟩ := (served_iff ready.confined get_named).mp asked
        rw [round.asked] at eq
        cases eq
        exact absurd rfl (nothing _)
      | again asked acked rest =>
        obtain ⟨rfl, rfl, rfl, agree⟩ := round.eq_of_turn ready.confined ready.named asked acked
        obtain ⟨rfl, loaded, same⟩ := (ih (ready_next.of_agree agree)).mp rest
        exact ⟨rfl, loaded, (agree.set_again (some [])).trans same⟩
    · rintro ⟨rfl, loaded, agree⟩
      have left := Store.Agree.refl names (store.set queue (some tail))
      have asked := (served_iff ready.confined get_named).mpr ⟨_, round.asked, left⟩
      have acked := (served_iff round.held (named_followUp _ _)).mpr ⟨_, round.acked, left⟩
      rw [← Store.set_set store queue (some tail)] at agree
      have rest := (ih ready_next).mpr ⟨rfl, loaded, agree⟩
      exact .again asked acked rest

/-- The loop cannot go on for longer than there are messages. -/
theorem Ready.ends (ready : Ready names queue channel store waiting) :
    Ends names queue acknowledge channel store := by
  induction waiting generalizing channel store with
  | nil =>
    constructor
    rintro _ ⟨asked, _⟩
    obtain ⟨_, eq, _⟩ := (served_iff ready.confined (named_get ready.named)).mp asked
    rw [ready.asked_of_empty] at eq
    cases eq
  | cons head tail ih =>
    obtain ⟨_, next, round⟩ := ready.exists_round acknowledge
    constructor
    rintro _ ⟨asked, acked⟩
    obtain ⟨-, -, rfl, agree⟩ := round.eq_of_turn ready.confined ready.named asked acked
    exact ih ((ready.goes_on round).of_agree agree)

/-- There is a channel that has taken all that waits in the queue. -/
theorem Ready.exists_loaded (acknowledge : Bool)
    (ready : Ready names queue channel store waiting) :
    ∃ holding, Loaded acknowledge channel (numbered queue channel.tags.last waiting) holding ∧
      holding.Reachable ∧ holding.Within names := by
  induction waiting generalizing channel store with
  | nil => exact ⟨channel, Loaded.nil_iff.mpr rfl, ready.reachable, ready.confined⟩
  | cons head tail ih =>
    obtain ⟨_, next, round⟩ := ready.exists_round acknowledge
    rw [numbered_cons, ← round.last_eq]
    obtain ⟨holding, loaded, rest⟩ := ih (ready.goes_on round)
    exact ⟨holding, (round.loaded.cons_iff _).mpr loaded, rest⟩

end Loop

/-! ## The session -/

/-- The channel of a worker before its first delivery. -/
def begun (id : String) : Channel M := { new id with mode := .transactional }

theorem serveAll_select (id : String) (store : Store M) :
    (new id).serveAll store [.select] = ([.done], begun id, store) := by
  rw [serveAll_cons, serve_select _ store rfl]
  rfl

section Session

variable {names : List QueueName} {queue : QueueName} {acknowledge : Bool} {id : String}
  {deliveries : List (Delivery M)} {holding : Channel M} {store later : Store M}
  {replies : List (Reply M)}

/-- What a channel has taken does not depend on how it is written down. -/
theorem Loaded.unique {channel other : Channel M}
    (loaded : Loaded acknowledge channel deliveries holding)
    (same : Loaded acknowledge channel deliveries other) : other = holding := by
  have tags : other.tags = holding.tags := same.tags.trans loaded.tags.symm
  have unacked : other.unacked = holding.unacked :=
    UnackedTable.ext (same.entries.trans loaded.entries.symm)
  have buffer : other.buffer = holding.buffer :=
    TransactionBuffer.ext (same.effects.trans loaded.effects.symm)
  rw [same.rest, loaded.rest, tags, unacked, buffer]

/-- A worker begins by selecting transactional mode. -/
theorem served_select_iff {after : Channel M} :
    Served names (new id) store [.select] replies after later ↔
      replies = [.done] ∧ after = begun id ∧ store.Agree names later := by
  have unnamed : ∀ request ∈ ([.select] : List (Request M)), ∀ name ∈ request.names,
      name ∈ names := named_of_nil (by simp [Request.names])
  rw [served_iff (within_new names id) unnamed, serveAll_select]
  constructor
  · rintro ⟨alone, eq, agree⟩
    cases eq
    exact ⟨rfl, rfl, agree⟩
  · rintro ⟨rfl, rfl, agree⟩
    exact ⟨store, rfl, agree⟩

/-- Then it can take all that waits in its queue. -/
theorem ready_begun (named : queue ∈ names) {waiting : List (Queued M)}
    (contents : store.queue? queue = some waiting) (room : waiting.length ≤ Tag.largest)
    (id : String) : Ready names queue (begun id) store waiting where
  reachable := by
    have reached := (Reachable.opened id).serveAll store [.select]
    rwa [serveAll_select] at reached
  transactional := rfl
  confined := ⟨nofun, nofun, nofun⟩
  named := named
  contents := contents
  room := by
    rw [show (begun id : Channel M).tags.last = 0 from rfl, Nat.zero_add]
    exact room

/-- **A worker takes all that waits in its queue and then serves its last requests** on the queue
it has emptied. -/
theorem worksTo_of_last (named : queue ∈ names) {waiting : List (Queued M)}
    (contents : store.queue? queue = some waiting) (room : waiting.length ≤ Tag.largest)
    {last : List (Request M)}
    (last_named : ∀ request ∈ last, ∀ name ∈ request.names, name ∈ names)
    {ending : List (Reply M)}
    (last_eq : ∀ {id holding},
      Loaded acknowledge (begun id) (numbered queue 0 waiting) holding → holding.Reachable →
        ∃ after, holding.serveAll (store.set queue (some [])) last = (ending, after, later)) :
    WorksTo names queue acknowledge last store
      ([.done] ++ takings acknowledge (numbered queue 0 waiting) ++ ending) later := by
  have ready := ready_begun named contents room
  constructor
  case ends =>
    intro id first opened found selected
    obtain ⟨_, rfl, agree⟩ := served_select_iff.mp selected
    exact ((ready id).of_agree agree).ends
  case worked_iff =>
    intro id given left
    obtain ⟨holding, loaded, reached, holds⟩ := (ready id).exists_loaded acknowledge
    obtain ⟨after, alone_eq⟩ := last_eq loaded reached
    constructor
    · rintro ⟨selected, emptied, ended⟩
      obtain ⟨rfl, rfl, agree⟩ := served_select_iff.mp selected
      obtain ⟨rfl, same, emptied_agree⟩ := ((ready id).of_agree agree).emptied_iff.mp emptied
      obtain rfl := loaded.unique same
      -- Others may have changed the store since the session began, but not in these queues.
      have since := (agree.set queue (some [])).trans emptied_agree
      obtain ⟨_, eq, agree⟩ := (served_iff holds last_named).mp (ended.of_agree since)
      rw [alone_eq] at eq
      cases eq
      exact ⟨rfl, agree⟩
    · rintro ⟨rfl, agree⟩
      have selected : Served names (new id) store [.select] [.done] (begun id) store :=
        served_select_iff.mpr ⟨rfl, rfl, Store.Agree.refl names store⟩
      have emptied := (ready id).emptied_iff.mpr ⟨rfl, loaded, Store.Agree.refl names _⟩
      have ended := (served_iff holds last_named).mpr ⟨_, alone_eq, agree⟩
      exact ⟨selected, emptied, ended⟩

theorem Loaded.transactional (loaded : Loaded acknowledge (begun id) deliveries holding) :
    holding.mode = .transactional := by
  rw [loaded.rest]
  rfl

theorem Loaded.consumers (loaded : Loaded acknowledge (begun id) deliveries holding) :
    holding.consumers = .empty := by
  rw [loaded.rest]
  rfl

theorem Loaded.entries_begun (loaded : Loaded acknowledge (begun id) deliveries holding) :
    holding.unacked.entries = deliveries.map (⟨·, acknowledge⟩) :=
  loaded.entries.trans (List.nil_append _)

theorem Loaded.effects_begun (loaded : Loaded acknowledge (begun id) deliveries holding) :
    holding.buffer.effects = if acknowledge then deliveries.map (.ack ·.tag false) else [] :=
  loaded.effects.trans (List.nil_append _)

theorem Loaded.length_entries (loaded : Loaded acknowledge (begun id) deliveries holding) :
    holding.unacked.entries.length = deliveries.length := by
  rw [loaded.entries_begun, List.length_map]

theorem Loaded.ackPending_eq (loaded : Loaded acknowledge (begun id) deliveries holding) :
    ∀ entry ∈ holding.unacked.entries, entry.ackPending = acknowledge := by
  intro entry member
  rw [loaded.entries_begun] at member
  obtain ⟨_, _, rfl⟩ := List.mem_map.mp member
  rfl

/-- An acknowledgement of everything that is rolled back leaves everything to the close. -/
theorem Loaded.serveAll_handBack (loaded : Loaded false (begun id) deliveries holding)
    (store : Store M) :
    ∃ after, holding.serveAll store [.ack Tag.all true, .rollback, .close] =
      ([.done, .rolledBack ⟨0, deliveries.length⟩, .closed ⟨deliveries.length, 0, 0⟩], after,
        store.giveBack deliveries) := by
  have transactional := loaded.transactional
  have unflagged := loaded.ackPending_eq
  have taken : holding.unacked.entries.map (·.delivery) = deliveries := by
    rw [loaded.entries_begun, List.map_map]
    exact List.map_id _
  let acked : Channel M := { holding with
    unacked := holding.unacked.postponed Tag.all true
    buffer := holding.buffer.deferAck Tag.all true }
  let undone : Channel M := { holding with buffer := .empty }
  have pending : acked.unacked.pendingCount = deliveries.length :=
    holding.unacked.pendingCount_postponed_all.trans loaded.length_entries
  have nothing : acked.buffer.publishCount = 0 := by
    show (holding.buffer.effects ++ [_]).countP _ = 0
    rw [loaded.effects_begun]
    rfl
  have acked_eq : holding.serve store (.ack Tag.all true) = (.done, acked, store) :=
    holding.serve_ack_of_transactional store transactional Tag.all true
  have undone_eq : acked.serve store .rollback =
      (.rolledBack ⟨0, deliveries.length⟩, undone, store) := by
    rw [acked.serve_rollback_of_transactional store transactional, pending, nothing,
      UnackedTable.release_postponed, UnackedTable.release_of_not_pending unflagged]
  have closed_eq := undone.serve_close store (undone.isOpen_of_transactional transactional)
  rw [loaded.consumers, loaded.length_entries, taken] at closed_eq
  exact ⟨_, by rw [serveAll_cons, acked_eq, serveAll_two undone_eq closed_eq]; rfl⟩

/-- Acknowledgements of single deliveries that are committed leave nothing to the close. -/
theorem Loaded.serveAll_keep (loaded : Loaded true (begun id) deliveries holding)
    (reachable : holding.Reachable) (store : Store M) :
    ∃ after, holding.serveAll store [.commit, .close] =
      ([.committed ⟨0, 0, deliveries.length⟩, .closed ⟨0, 0, 0⟩], after, store) := by
  have transactional := loaded.transactional
  have flagged := loaded.ackPending_eq
  have pending : holding.unacked.pendingCount = deliveries.length :=
    (List.countP_eq_length.mpr flagged).trans loaded.length_entries
  have none_free : holding.unacked.free = .empty := by
    apply UnackedTable.ext
    apply List.filter_eq_nil_iff.mpr
    intro entry member
    rw [flagged entry member]
    exact Bool.false_ne_true
  have no_publishes : holding.buffer.publishes = [] := by
    rw [TransactionBuffer.publishes, loaded.effects_begun]
    apply List.filterMap_eq_nil_iff.mpr
    intro effect member
    obtain ⟨_, _, rfl⟩ := List.mem_map.mp member
    rfl
  let kept : Channel M := { holding with buffer := .empty, unacked := .empty }
  have kept_eq : holding.serve store .commit =
      (.committed ⟨0, 0, deliveries.length⟩, kept, store) := by
    rw [(coherent_of_reachable reachable).serve_commit transactional store, pending, none_free,
      no_publishes]
    rfl
  have closed_eq := kept.serve_close store (kept.isOpen_of_transactional transactional)
  rw [loaded.consumers] at closed_eq
  exact ⟨_, serveAll_two kept_eq closed_eq⟩

/-- **Take all, give it back, take all again and keep it.** A worker acknowledges everything at once
and rolls back: it was given the messages in order under the tags from 1 on, and on its close they
are all in the queue again, redelivered. The next one acknowledges each delivery and commits, and
leaves the queue empty. Nothing else happens to the queues that others leave alone. -/
theorem emptied_twice (named : queue ∈ names) {waiting : List (Queued M)}
    (contents : store.queue? queue = some waiting) (room : waiting.length ≤ Tag.largest) :
    let redelivered : List (Queued M) := waiting.map fun head => ⟨head.message, true⟩
    let taken := numbered queue 0 waiting
    let retaken := numbered queue 0 redelivered
    let handedBack := store.set queue (some redelivered)
    let numbers := List.range' 1 waiting.length
    taken.map (·.tag) = numbers ∧ taken.map (·.message) = waiting.map (·.message) ∧
      retaken.map (·.tag) = numbers ∧ retaken.map (·.message) = waiting.map (·.message) ∧
      WorksTo names queue false [.ack Tag.all true, .rollback, .close] store
        ([.done] ++ takings false taken ++
          [.done, .rolledBack ⟨0, waiting.length⟩, .closed ⟨waiting.length, 0, 0⟩]) handedBack ∧
      ∀ between, handedBack.Agree names between →
        WorksTo names queue true [.commit, .close] between
          ([.done] ++ takings true retaken ++
            [.committed ⟨0, 0, waiting.length⟩, .closed ⟨0, 0, 0⟩])
          (between.set queue (some [])) := by
  intro redelivered taken retaken handedBack numbers
  have length_again : redelivered.length = waiting.length := List.length_map _
  have same_messages : redelivered.map (·.message) = waiting.map (·.message) := by
    rw [List.map_map]
    rfl
  refine ⟨tags_numbered queue 0 waiting, messages_numbered queue 0 waiting, ?_, ?_, ?_, ?_⟩
  · exact (tags_numbered queue 0 redelivered).trans (congrArg (List.range' 1) length_again)
  · exact (messages_numbered queue 0 redelivered).trans same_messages
  · apply worksTo_of_last named contents room
    · exact named_of_nil (by simp [Request.names])
    · intro id holding loaded _
      obtain ⟨after, eq⟩ := loaded.serveAll_handBack (store.set queue (some []))
      rw [length_numbered, giveBack_numbered] at eq
      exact ⟨after, eq⟩
  · intro between agree
    have contents_now := agree queue named
    rw [Store.queue?_set, if_pos rfl] at contents_now
    apply worksTo_of_last named contents_now
    · rw [length_again]
      exact room
    · exact named_of_nil (by simp [Request.names])
    · intro id holding loaded reached
      obtain ⟨after, eq⟩ := loaded.serveAll_keep reached (between.set queue (some []))
      rw [length_numbered, length_again] at eq
      exact ⟨after, eq⟩

end Session

/-- Three messages, one of them redelivered, beside another queue. -/
theorem emptied_twice_of_three_messages :
    let store : Store Nat :=
      ((Store.empty.set "q" (some [⟨10, false⟩, ⟨20, true⟩, ⟨30, false⟩])).set "r"
        (some [⟨40, false⟩]))
    let handedBack := store.set "q" (some [⟨10, true⟩, ⟨20, true⟩, ⟨30, true⟩])
    let first : List (Reply Nat) :=
      [.done, .delivered (some ⟨1, 10, "q", .get, false⟩),
        .delivered (some ⟨2, 20, "q", .get, true⟩), .delivered (some ⟨3, 30, "q", .get, false⟩),
        .delivered none, .done, .rolledBack ⟨0, 3⟩, .closed ⟨3, 0, 0⟩]
    let second : List (Reply Nat) :=
      [.done, .delivered (some ⟨1, 10, "q", .get, true⟩), .done,
        .delivered (some ⟨2, 20, "q", .get, true⟩), .done,
        .delivered (some ⟨3, 30, "q", .get, true⟩), .done,
        .delivered none, .committed ⟨0, 0, 3⟩, .closed ⟨0, 0, 0⟩]
    "q" ∈ ["q", "r"] ∧ store.queue? "q" = some [⟨10, false⟩, ⟨20, true⟩, ⟨30, false⟩] ∧
      3 ≤ Tag.largest ∧
      WorksTo ["q", "r"] "q" false [.ack Tag.all true, .rollback, .close] store first handedBack ∧
      WorksTo ["q", "r"] "q" true [.commit, .close] handedBack second
        (handedBack.set "q" (some [])) := by
  intro store handedBack first second
  have named : "q" ∈ ["q", "r"] := by decide
  have contents : store.queue? "q" = some [⟨10, false⟩, ⟨20, true⟩, ⟨30, false⟩] := rfl
  have room : 3 ≤ Tag.largest := by decide
  obtain ⟨_, _, _, _, handed, kept⟩ := emptied_twice named contents room
  exact ⟨named, contents, room, handed, kept handedBack (Store.Agree.refl _ _)⟩

end Channel

end MessageBroker
