import MessageBroker.Channel.Recovery
import MessageBroker.Channel.Settlement

/-!
# What the operations do to one queue

Each operation of the store as an equation for `queue?`, so that later modules compare stores name
by name and never open an operation. Appending a batch (`queue?_enqueueAll`) and putting deliveries
back (`queue?_giveBack`) act on the two ends of a queue. They commute, and no operation but
`declare` and `delete` changes which queues exist.
-/

set_option autoImplicit false

namespace MessageBroker

variable {M : Type}

/-- The messages sent to one queue, in order. -/
def messagesTo (queue : QueueName) (publishes : List (M × QueueName)) : List M :=
  (publishes.filter (·.2 = queue)).map (·.1)

theorem messagesTo_eq_nil {queue : QueueName} {publishes : List (M × QueueName)}
    (apart : ∀ publish ∈ publishes, publish.2 ≠ queue) : messagesTo queue publishes = [] := by
  simpa [messagesTo] using fun message target member => apart (message, target) member

theorem messagesTo_append (queue : QueueName) (first second : List (M × QueueName)) :
    messagesTo queue (first ++ second) = messagesTo queue first ++ messagesTo queue second := by
  rw [messagesTo, List.filter_append, List.map_append, messagesTo, messagesTo]

theorem messagesTo_singleton (queue : QueueName) (message : M) (target : QueueName) :
    messagesTo queue [(message, target)] = if target = queue then [message] else [] := by
  by_cases same : target = queue
  · simp [messagesTo, same]
  · simp [messagesTo, same]

theorem messagesFrom_eq_nil {queue : QueueName} {deliveries : List (Delivery M)}
    (absent : queue ∉ deliveries.map (·.queue)) : messagesFrom queue deliveries = [] := by
  rw [messagesFrom, List.map_eq_nil_iff, List.filter_eq_nil_iff]
  intro delivery member same
  exact absent (List.mem_map.mpr ⟨delivery, member, by simpa using same⟩)

/-- Nothing returns to a queue that nothing was taken from. -/
theorem map_messagesFrom_of_absent {queue : QueueName} {deliveries : List (Delivery M)}
    (absent : queue ∉ deliveries.map (·.queue)) (contents : Option (List (Queued M))) :
    contents.map ((messagesFrom queue deliveries).map (⟨·, true⟩) ++ ·) = contents := by
  rw [messagesFrom_eq_nil absent]
  cases contents <;> rfl

theorem messagesFrom_cons (queue : QueueName) (delivery : Delivery M)
    (rest : List (Delivery M)) :
    messagesFrom queue (delivery :: rest) =
      (if delivery.queue = queue then [delivery.message] else []) ++ messagesFrom queue rest := by
  unfold messagesFrom
  by_cases same : delivery.queue = queue
  · simp [same]
  · simp [same]

namespace Store

theorem has_eq_isSome (store : Store M) (queue : QueueName) :
    store.has queue = (store.queue? queue).isSome := rfl

theorem queue?_declare (store : Store M) (queue name : QueueName) :
    (store.declare queue).2.queue? name =
      if name = queue then some ((store.queue? queue).getD []) else store.queue? name := by
  unfold declare
  cases h : store.queue? queue with
  | none => by_cases hn : name = queue <;> simp_all
  | some contents => by_cases hn : name = queue <;> simp_all

theorem queue?_delete (store : Store M) (queue name : QueueName) :
    (store.delete queue).2.queue? name = if name = queue then none else store.queue? name := by
  unfold delete
  cases h : store.queue? queue with
  | none => by_cases hn : name = queue <;> simp_all
  | some contents => by_cases hn : name = queue <;> simp_all

theorem queue?_purge (store : Store M) (queue name : QueueName) :
    (store.purge queue).2.queue? name =
      if name = queue then (store.queue? queue).map fun _ => [] else store.queue? name := by
  unfold purge
  cases h : store.queue? queue with
  | none => by_cases hn : name = queue <;> simp_all
  | some contents => by_cases hn : name = queue <;> simp_all

theorem fate_enqueue (store : Store M) (queue : QueueName) (message : M) :
    (store.enqueue queue message).1 = if store.has queue then .queued else .dropped := by
  unfold enqueue has
  cases store.queue? queue with
  | none => rfl
  | some contents => rfl

theorem has_enqueue (store : Store M) (queue name : QueueName) (message : M) :
    (store.enqueue queue message).2.has name = store.has name := by
  rw [has, has, queue?_enqueue]
  split
  · subst name
    simp
  · rfl

theorem has_putBack (store : Store M) (queue : QueueName) (messages : List M)
    (name : QueueName) : (store.putBack queue messages).has name = store.has name := by
  rw [has, has, queue?_putBack]
  split
  · subst name
    simp
  · rfl

/-! ## Batches at the tail -/

theorem enqueueAll_cons (store : Store M) (message : M) (target : QueueName)
    (rest : List (M × QueueName)) :
    (store.enqueueAll ((message, target) :: rest)).2 =
      ((store.enqueue target message).2.enqueueAll rest).2 := by
  rw [enqueueAll]
  split
  · rename_i after h
    rw [h]
  · rename_i after h
    rw [h]

theorem enqueueAll_append (store : Store M) (first second : List (M × QueueName)) :
    (store.enqueueAll (first ++ second)).2 = ((store.enqueueAll first).2.enqueueAll second).2 := by
  induction first generalizing store with
  | nil => rfl
  | cons publish rest ih =>
    obtain ⟨message, target⟩ := publish
    rw [List.cons_append, enqueueAll_cons, enqueueAll_cons, ih]

/-- Every queue gains the messages sent to it, in order and not redelivered. -/
theorem queue?_enqueueAll (store : Store M) (publishes : List (M × QueueName))
    (name : QueueName) :
    (store.enqueueAll publishes).2.queue? name =
      (store.queue? name).map (· ++ (messagesTo name publishes).map (⟨·, false⟩)) := by
  induction publishes generalizing store with
  | nil => simp [enqueueAll, messagesTo]
  | cons publish rest ih =>
    obtain ⟨message, target⟩ := publish
    rw [enqueueAll_cons, ih, queue?_enqueue]
    by_cases same : name = target
    · subst name
      simp [messagesTo, Function.comp_def]
    · have other : ¬ target = name := fun h => same h.symm
      simp [messagesTo, same, other]

theorem has_enqueueAll (store : Store M) (publishes : List (M × QueueName)) (name : QueueName) :
    (store.enqueueAll publishes).2.has name = store.has name := by
  simp [has_eq_isSome, queue?_enqueueAll]

/-- A batch counts as published the messages whose queue exists and as dropped the others. -/
theorem counts_enqueueAll (store : Store M) (publishes : List (M × QueueName)) :
    (store.enqueueAll publishes).1 =
      (publishes.countP fun publish => store.has publish.2,
        publishes.countP fun publish => !store.has publish.2) := by
  induction publishes generalizing store with
  | nil => rfl
  | cons publish rest ih =>
    obtain ⟨message, target⟩ := publish
    have known : ∀ name, (store.enqueue target message).2.has name = store.has name :=
      fun name => store.has_enqueue target name message
    have fate := store.fate_enqueue target message
    rw [enqueueAll]
    generalize store.enqueue target message = result at known fate ⊢
    obtain ⟨answer, after⟩ := result
    simp only at known fate
    cases present : store.has target with
    | true =>
      obtain rfl : answer = .queued := by simpa [present] using fate
      simp [ih, known, present]
    | false =>
      obtain rfl : answer = .dropped := by simpa [present] using fate
      simp [ih, known, present]

theorem length_of_counts_enqueueAll (store : Store M) (publishes : List (M × QueueName)) :
    (store.enqueueAll publishes).1.1 + (store.enqueueAll publishes).1.2 = publishes.length := by
  rw [counts_enqueueAll, publishes.length_eq_countP_add_countP fun publish => store.has publish.2]
  simp

/-! ## Deliveries put back at the head -/

/-- Putting back one batch for each of some queues, each batch once. -/
theorem queue?_foldl_putBack (batch : QueueName → List M) (names : List QueueName)
    (store : Store M) (name : QueueName) :
    (names.eraseDups.foldl (fun store queue => store.putBack queue (batch queue)) store).queue?
        name =
      if name ∈ names then (store.queue? name).map ((batch name).map (⟨·, true⟩) ++ ·)
      else store.queue? name := by
  match names with
  | [] => simp
  | first :: rest =>
    -- What is left after the first name has no duplicate of it, so it is shorter than the list.
    have shorter : (rest.filter fun other => !other == first).length < (first :: rest).length :=
      Nat.lt_succ_of_le (List.length_filter_le _ _)
    rw [List.eraseDups_cons, List.foldl_cons, queue?_foldl_putBack batch _ _ name, queue?_putBack]
    by_cases same : name = first
    · subst name
      simp
    · simp [same]
termination_by names.length
decreasing_by exact shorter

/-- Every queue gains at its head the deliveries taken from it, in order and redelivered. -/
theorem queue?_giveBack (store : Store M) (deliveries : List (Delivery M)) (name : QueueName) :
    (store.giveBack deliveries).queue? name =
      (store.queue? name).map ((messagesFrom name deliveries).map (⟨·, true⟩) ++ ·) := by
  rw [giveBack, queue?_foldl_putBack (fun queue => messagesFrom queue deliveries)]
  split
  · rfl
  · rename_i absent
    exact (map_messagesFrom_of_absent absent _).symm

theorem has_giveBack (store : Store M) (deliveries : List (Delivery M)) (name : QueueName) :
    (store.giveBack deliveries).has name = store.has name := by
  simp [has_eq_isSome, queue?_giveBack]

/-- The two ends of a queue do not get in each other's way. -/
theorem putBack_enqueueAll (store : Store M) (queue : QueueName) (messages : List M)
    (publishes : List (M × QueueName)) :
    (store.enqueueAll publishes).2.putBack queue messages =
      ((store.putBack queue messages).enqueueAll publishes).2 := by
  ext1
  funext name
  rw [queue?_putBack, queue?_enqueueAll, queue?_enqueueAll, queue?_enqueueAll, queue?_putBack]
  by_cases same : name = queue
  · subst name
    cases store.queue? queue <;> simp
  · simp [same]

theorem giveBack_enqueueAll (store : Store M) (deliveries : List (Delivery M))
    (publishes : List (M × QueueName)) :
    (store.enqueueAll publishes).2.giveBack deliveries =
      ((store.giveBack deliveries).enqueueAll publishes).2 := by
  ext1
  funext name
  rw [queue?_giveBack, queue?_enqueueAll, queue?_enqueueAll, queue?_giveBack]
  cases store.queue? name <;> simp

/-- Only the queues and the messages of the deliveries matter to the store. -/
theorem giveBack_congr (store : Store M) {deliveries others : List (Delivery M)}
    (same : deliveries.map (fun delivery => (delivery.queue, delivery.message)) =
      others.map fun delivery => (delivery.queue, delivery.message)) :
    store.giveBack deliveries = store.giveBack others := by
  have from_pairs : ∀ (name : QueueName) (list : List (Delivery M)), messagesFrom name list =
      ((list.map fun delivery => (delivery.queue, delivery.message)).filter (·.1 = name)).map
        (·.2) := by
    intro name list
    simp [messagesFrom, List.filter_map, Function.comp_def]
  ext1
  funext name
  rw [queue?_giveBack, queue?_giveBack, from_pairs, from_pairs, same]

end Store

end MessageBroker
