import Mathlib.Data.List.Induction
import MessageBroker.Proofs.Keyed
import MessageBroker.Proofs.Numbering

/-!
# The ledger of the unacknowledged table

A history lists the calls a table answered. From the calls and their answers alone one can read
what came into the table and what left it (`TableEvent.entered`, `TableEvent.taken`). Every call is
one of three things (`TableEvent.Effect`): it enters a delivery, it removes entries and lists them,
or it changes entries and leaves their tags. `UnackedTable.accounted` draws the balance of any
history.
-/

set_option autoImplicit false

namespace MessageBroker

variable {M : Type}

/-! ## Histories -/

/-- A call with its answer, and the table that gave it. -/
structure TableEvent (M : Type) where
  before : UnackedTable M
  call : TableCall M
  answer : TableAnswer M

namespace TableAnswer

/-- Deliveries in an answer. -/
def handed : TableAnswer M → List (Delivery M)
  | deliveries list => list
  | _ => []

/-- Tags in an answer, also those of its deliveries. -/
def listed : TableAnswer M → List Nat
  | tags list => list
  | answer => answer.handed.map (·.tag)

end TableAnswer

namespace TableEvent

/-- Deliveries that came into the table. -/
def entered (event : TableEvent M) : List (Delivery M) :=
  match event.call, event.answer with
  | .enter delivery, .entered => [delivery]
  | _, _ => []

/-- Tags that left the table. -/
def taken (event : TableEvent M) : List Nat :=
  match event.call with
  | .settle _ _ | .settlePending _ _ | .removeAll | .removeOutstanding => event.answer.listed
  | _ => []

/-- True of a tag that is handed out again: it is in the table and not pending. -/
def handsOut (event : TableEvent M) (tag : Nat) : Bool :=
  match event.call with
  | .handOutAgain => event.before.contains tag && !event.before.isPending tag
  | _ => false

end TableEvent

namespace UnackedTable

/-- The call with its answer. -/
def event (table : UnackedTable M) (call : TableCall M) : TableEvent M :=
  ⟨table, call, (table.serve call).1⟩

/-- The table after some calls. -/
def after (table : UnackedTable M) (calls : List (TableCall M)) : UnackedTable M :=
  calls.foldl (fun table call => (table.serve call).2) table

/-- The calls with their answers. -/
def history (table : UnackedTable M) : List (TableCall M) → List (TableEvent M)
  | [] => []
  | call :: rest => table.event call :: (table.serve call).2.history rest

section Histories

variable (table : UnackedTable M) (calls : List (TableCall M)) (call : TableCall M)

theorem after_concat : table.after (calls ++ [call]) = ((table.after calls).serve call).2 := by
  rw [after, List.foldl_append]
  rfl

theorem history_concat :
    table.history (calls ++ [call]) = table.history calls ++ [(table.after calls).event call] := by
  induction calls generalizing table with
  | nil => rfl
  | cons first rest ih =>
    rw [List.cons_append, history, ih, history, List.cons_append]
    rfl

end Histories

end UnackedTable

/-! ## What one call does -/

@[simp] theorem Delivery.tag_flaggedIf (delivery : Delivery M) (again : Bool) :
    (delivery.flaggedIf again).tag = delivery.tag := rfl

/-- The three things a call can do to the table. -/
inductive TableEvent.Effect (event : TableEvent M) (after : UnackedTable M) : Prop
  | enters (delivery : Delivery M) (fresh : event.before.contains delivery.tag = false)
      (entries : after.entries = UnackedTable.insertEntry ⟨delivery, false⟩ event.before.entries)
      (entered : event.entered = [delivery]) (taken : event.taken = [])
      (nothing : ∀ tag, event.handsOut tag = false)
  | removes (test : UnackedDelivery M → Bool) (left : after = event.before.keep test)
      (entered : event.entered = [])
      (taken : event.taken = (event.before.keep fun entry => !test entry).tags)
      (nothing : ∀ tag, event.handsOut tag = false)
  | changes (change : UnackedDelivery M → UnackedDelivery M)
      (entries : after.entries = event.before.entries.map change)
      (entered : event.entered = []) (taken : event.taken = [])
      (deliveries : ∀ entry ∈ event.before.entries,
        (change entry).delivery = entry.delivery.flaggedIf (event.handsOut entry.tag))

namespace UnackedTable

section Effects

variable (table : UnackedTable M) (tag : Nat) (multiple : Bool)

/-- A call that leaves all deliveries as they are. -/
theorem effect_of_deliveries {event : TableEvent M} {after : UnackedTable M}
    (change : UnackedDelivery M → UnackedDelivery M)
    (entries : after.entries = event.before.entries.map change) (entered : event.entered = [])
    (taken : event.taken = []) (nothing : ∀ tag, event.handsOut tag = false)
    (delivery_change : ∀ entry, (change entry).delivery = entry.delivery) :
    event.Effect after := by
  refine .changes change entries entered taken fun entry _ => ?_
  rw [delivery_change, nothing, Delivery.flaggedIf_false]

theorem effect_of_unchanged {event : TableEvent M} (entered : event.entered = [])
    (taken : event.taken = []) (nothing : ∀ tag, event.handsOut tag = false) :
    event.Effect event.before :=
  effect_of_deliveries id (List.map_id _).symm entered taken nothing fun _ => rfl

theorem effect_enter (delivery : Delivery M) :
    (table.event (.enter delivery)).Effect (table.serve (.enter delivery)).2 := by
  cases outcome : table.enter delivery with
  | error error =>
    have served : table.serve (.enter delivery) = (.refused error, table) := by
      rw [serve, outcome]
    rw [event, served]
    exact effect_of_unchanged rfl rfl fun _ => rfl
  | ok after =>
    have served : table.serve (.enter delivery) = (.entered, after) := by
      rw [serve, outcome]
    obtain ⟨fresh, entries⟩ := enter_eq_ok_iff.mp outcome
    rw [event, served]
    exact .enters delivery fresh entries rfl rfl fun _ => rfl

theorem effect_settle :
    (table.event (.settle tag multiple)).Effect (table.serve (.settle tag multiple)).2 := by
  by_cases accepted : (multiple || table.contains tag) = true
  · have served : table.serve (.settle tag multiple) =
        (.tags (table.keep fun entry => covers tag multiple entry.tag).tags,
          table.keep fun entry => !covers tag multiple entry.tag) := by
      rw [serve, settle, if_pos accepted]
      rfl
    rw [event, served]
    refine .removes _ rfl rfl ?_ fun _ => rfl
    simp only [Bool.not_not]
    rfl
  · have served : table.serve (.settle tag multiple) =
        (.refused (.unknownDeliveryTag tag), table) := by
      rw [serve, settle, if_neg accepted]
      rfl
    rw [event, served]
    exact effect_of_unchanged rfl rfl fun _ => rfl

theorem effect_postpone :
    (table.event (.postpone tag multiple)).Effect (table.serve (.postpone tag multiple)).2 := by
  by_cases accepted : (multiple || (table.contains tag && !table.isPending tag)) = true
  · have served : table.serve (.postpone tag multiple) =
        (.tags (table.keep fun entry => covers tag multiple entry.tag && !entry.ackPending).tags,
          table.postponed tag multiple) := by
      rw [serve, postpone_eq, if_pos accepted]
      rfl
    rw [event, served]
    exact effect_of_deliveries (·.flagBy tag multiple) rfl rfl rfl (fun _ => rfl)
      (UnackedDelivery.delivery_flagBy tag multiple)
  · have served : table.serve (.postpone tag multiple) =
        (.refused (.unknownDeliveryTag tag), table) := by
      rw [serve, postpone_eq, if_neg accepted]
      rfl
    rw [event, served]
    exact effect_of_unchanged rfl rfl fun _ => rfl

theorem effect_handOutAgain :
    (table.event .handOutAgain).Effect (table.serve .handOutAgain).2 := by
  refine .changes UnackedDelivery.handOutAgain rfl rfl rfl fun entry member => ?_
  have present : table.contains entry.tag = true := contains_iff.mpr ⟨entry, member, rfl⟩
  have pending : table.isPending entry.tag = entry.ackPending := isPending_of_mem member
  have handed : (table.event .handOutAgain).handsOut entry.tag = !entry.ackPending := by
    show (table.contains entry.tag && !table.isPending entry.tag) = !entry.ackPending
    rw [present, pending, Bool.true_and]
  rw [handed, UnackedDelivery.handOutAgain]
  cases entry.ackPending with
  | true => exact (Delivery.flaggedIf_false entry.delivery).symm
  | false =>
    have flagged : (entry.delivery.redelivered || true) = true := Bool.or_true _
    show { entry.delivery with redelivered := true } = entry.delivery.flaggedIf true
    rw [Delivery.flaggedIf, flagged]

/-- Every call does one of the three. -/
theorem effect_serve (call : TableCall M) : (table.event call).Effect (table.serve call).2 := by
  cases call with
  | enter delivery => exact table.effect_enter delivery
  | settle tag multiple => exact table.effect_settle tag multiple
  | postpone tag multiple => exact table.effect_postpone tag multiple
  | settlePending tag multiple =>
    refine .removes _ rfl rfl ?_ fun _ => rfl
    simp only [Bool.not_not]
    rfl
  | release =>
    exact effect_of_deliveries (fun entry => { entry with ackPending := false }) rfl rfl rfl
      (fun _ => rfl) fun _ => rfl
  | removeAll =>
    -- To take everything is to keep what passes a test that nothing passes.
    refine .removes (fun _ => false) (empty_eq_keep table) rfl ?_ fun _ => rfl
    show (table.entries.map _).map _ = (table.entries.filter fun _ => true).map _
    rw [List.map_map, List.filter_true]
    rfl
  | removeOutstanding =>
    refine .removes (·.ackPending) rfl rfl ?_ fun _ => rfl
    exact List.map_map ..
  | handOutAgain => exact table.effect_handOutAgain

end Effects

/-! ## Balance -/

theorem perm_insertEntry (entry : UnackedDelivery M) (entries : List (UnackedDelivery M)) :
    (insertEntry entry entries).Perm (entry :: entries) := by
  induction entries with
  | nil => exact List.Perm.refl _
  | cons first rest ih =>
    rw [insertEntry]
    split
    case isTrue => exact List.Perm.refl _
    case isFalse => exact (ih.cons first).trans (List.Perm.swap entry first rest)

/-- What was there and what came in is what is there and what was taken. -/
theorem tags_of_effect {event : TableEvent M} {after : UnackedTable M}
    (effect : event.Effect after) :
    (event.before.tags ++ event.entered.map (·.tag)).Perm (after.tags ++ event.taken) := by
  cases effect with
  | enters delivery _ entries entered taken _ =>
    have grown := (perm_insertEntry ⟨delivery, false⟩ event.before.entries).map (·.tag)
    rw [entered, taken, List.append_nil, tags, tags, entries]
    exact (List.perm_append_singleton _ _).trans grown.symm
  | removes test left entered taken _ =>
    have split := (List.filter_append_perm test event.before.entries).map (·.tag)
    rw [List.map_append] at split
    rw [entered, taken, left, List.map_nil, List.append_nil]
    exact split.symm
  | changes change entries entered taken deliveries =>
    have same : after.tags = event.before.tags := by
      rw [tags, tags, entries, List.map_map]
      apply List.map_congr_left
      intro entry member
      exact (congrArg Delivery.tag (deliveries entry member)).trans (Delivery.tag_flaggedIf _ _)
    rw [entered, taken, same]
    exact List.Perm.refl _

theorem count_of_history (table : UnackedTable M) (calls : List (TableCall M)) (tag : Nat) :
    table.tags.count tag + (((table.history calls).flatMap (·.entered)).map (·.tag)).count tag =
      (table.after calls).tags.count tag +
        ((table.history calls).flatMap (·.taken)).count tag := by
  -- The last call is split off: it is the one that meets the table the others left.
  induction calls using List.reverseRecOn with
  | nil => rfl
  | append_singleton calls call ih =>
    have step := (tags_of_effect ((table.after calls).effect_serve call)).count_eq tag
    rw [after_concat, history_concat]
    simp only [List.flatMap_append, List.flatMap_singleton, List.map_append, List.count_append]
      at ih step ⊢
    have before : ((table.after calls).event call).before = table.after calls := rfl
    rw [before] at step
    omega

/-- A tag is in the table once or not at all. -/
theorem count_tags (table : UnackedTable M) (tag : Nat) :
    table.tags.count tag = if table.contains tag then 1 else 0 := by
  have distinct : table.tags.Nodup := table.pairwise_tags.imp Nat.ne_of_lt
  rw [distinct.count]
  simp only [mem_tags_iff]

/-! ## What is looked up -/

theorem get?_eq_some_iff {table : UnackedTable M} {tag : Nat} {delivery : Delivery M} :
    table.get? tag = some delivery ↔
      ∃ entry ∈ table.entries, entry.tag = tag ∧ entry.delivery = delivery := by
  simp only [get?, Option.map_eq_some_iff, find?_eq_some_iff, and_assoc]

/-- What a call leaves under a tag has just come in, or it was there before. -/
theorem get?_of_effect {event : TableEvent M} {after : UnackedTable M}
    (effect : event.Effect after) {tag : Nat} {delivery : Delivery M}
    (found : after.get? tag = some delivery) :
    (event.entered = [delivery] ∧ delivery.tag = tag) ∨
      ∃ earlier, event.before.get? tag = some earlier ∧ tag ∉ event.entered.map (·.tag) ∧
        tag ∉ event.taken ∧ delivery = earlier.flaggedIf (event.handsOut tag) := by
  obtain ⟨entry, member, rfl, rfl⟩ := get?_eq_some_iff.mp found
  cases effect with
  | enters new fresh entries entered taken nothing =>
    rw [entries] at member
    rcases mem_insertEntry.mp member with rfl | old
    · exact .inl ⟨entered, rfl⟩
    · -- The new tag was free, so it is not the tag of an old entry.
      right
      refine ⟨entry.delivery, get?_eq_some_iff.mpr ⟨entry, old, rfl, rfl⟩, ?_, ?_, ?_⟩
      · rw [entered, List.map_singleton, List.mem_singleton]
        intro same
        have present : event.before.contains new.tag = true := contains_iff.mpr ⟨entry, old, same⟩
        rw [fresh] at present
        cases present
      · rw [taken]
        exact List.not_mem_nil
      · rw [nothing, Delivery.flaggedIf_false]
  | removes test left entered taken nothing =>
    right
    rw [left] at member
    obtain ⟨old, kept⟩ := List.mem_filter.mp member
    refine ⟨entry.delivery, get?_eq_some_iff.mpr ⟨entry, old, rfl, rfl⟩, ?_, ?_, ?_⟩
    · rw [entered]
      exact List.not_mem_nil
    · rw [taken, mem_tags_iff, event.before.contains_keep _ old, kept]
      decide
    · rw [nothing, Delivery.flaggedIf_false]
  | changes change entries entered taken deliveries =>
    right
    rw [entries] at member
    obtain ⟨old, old_member, rfl⟩ := List.mem_map.mp member
    have same := deliveries old old_member
    have same_tag : (change old).tag = old.tag :=
      (congrArg Delivery.tag same).trans (Delivery.tag_flaggedIf _ _)
    refine ⟨old.delivery, get?_eq_some_iff.mpr ⟨old, old_member, same_tag.symm, rfl⟩, ?_, ?_, ?_⟩
    · rw [entered]
      exact List.not_mem_nil
    · rw [taken]
      exact List.not_mem_nil
    · rw [same_tag]
      exact same

/-- The last delivery that came in under a tag, which has not been taken since, flagged if it was
handed out again since. -/
def Recorded (history : List (TableEvent M)) (tag : Nat) (delivery : Delivery M) : Prop :=
  ∃ earlier entry later recorded, history = earlier ++ entry :: later ∧
    entry.entered = [recorded] ∧ recorded.tag = tag ∧
    (∀ event ∈ later, tag ∉ event.entered.map (·.tag) ∧ tag ∉ event.taken) ∧
    delivery = recorded.flaggedIf (later.any (·.handsOut tag))

/-- A call that neither takes the delivery nor brings one in under its tag. -/
theorem recorded_concat {history : List (TableEvent M)} {tag : Nat} {delivery : Delivery M}
    (known : Recorded history tag delivery) {event : TableEvent M}
    (not_entered : tag ∉ event.entered.map (·.tag)) (not_taken : tag ∉ event.taken) :
    Recorded (history ++ [event]) tag (delivery.flaggedIf (event.handsOut tag)) := by
  obtain ⟨earlier, entry, later, recorded, rfl, entered, named, since, rfl⟩ := known
  refine ⟨earlier, entry, later ++ [event], recorded, ?_, entered, named, ?_, ?_⟩
  · rw [List.append_assoc, List.cons_append]
  · intro other listed
    rcases List.mem_append.mp listed with old | new
    · exact since other old
    · rw [List.mem_singleton.mp new]
      exact ⟨not_entered, not_taken⟩
  · rw [Delivery.flaggedIf_flaggedIf, List.any_append, List.any_cons, List.any_nil,
      Bool.or_false]

/-- What is in the table is what was recorded. -/
theorem recorded_of_get? (calls : List (TableCall M)) {tag : Nat} {delivery : Delivery M}
    (found : (empty.after calls).get? tag = some delivery) :
    Recorded (empty.history calls) tag delivery := by
  induction calls using List.reverseRecOn generalizing delivery with
  | nil => cases found
  | append_singleton calls call ih =>
    rw [after_concat] at found
    rw [history_concat]
    rcases get?_of_effect ((empty.after calls).effect_serve call) found with
      ⟨entered, named⟩ | ⟨earlier, known, not_entered, not_taken, rfl⟩
    · -- It came in just now, so nothing has happened to it since.
      refine ⟨empty.history calls, _, [], delivery, rfl, entered, named, ?_, ?_⟩
      · exact List.forall_mem_nil _
      · rw [List.any_nil, Delivery.flaggedIf_false]
    · exact recorded_concat (ih known) not_entered not_taken

/-! ## Answers -/

/-- The tags in every answer ascend. -/
theorem pairwise_listed (table : UnackedTable M) (call : TableCall M) :
    (table.serve call).1.listed.Pairwise (· < ·) := by
  cases call with
  | enter delivery =>
    rw [serve]
    cases table.enter delivery <;> exact List.Pairwise.nil
  | settle tag multiple =>
    rw [serve, settle]
    split
    case isTrue => exact pairwise_tags _
    case isFalse => exact List.Pairwise.nil
  | postpone tag multiple =>
    rw [serve, postpone]
    split
    case isTrue => exact pairwise_tags _
    case isFalse => exact List.Pairwise.nil
  | settlePending tag multiple => exact pairwise_tags _
  | release => exact List.Pairwise.nil
  | removeAll => exact List.pairwise_map.mpr table.ascending_deliveries
  | removeOutstanding =>
    exact List.pairwise_map.mpr (ascending_deliveries (table.keep (!·.ackPending)))
  | handOutAgain =>
    exact List.pairwise_map.mpr (ascending_deliveries (table.handOutAgain.2.keep (!·.ackPending)))

theorem pairwise_listed_of_history (table : UnackedTable M) (calls : List (TableCall M)) :
    ∀ event ∈ table.history calls, event.answer.listed.Pairwise (· < ·) := by
  induction calls generalizing table with
  | nil => exact List.forall_mem_nil _
  | cons call rest ih => exact List.forall_mem_cons.mpr ⟨table.pairwise_listed call, ih _⟩

theorem get?_of_mem {table : UnackedTable M} {delivery : Delivery M}
    (listed : delivery ∈ table.entries.map (·.delivery)) :
    table.get? delivery.tag = some delivery := by
  obtain ⟨entry, member, rfl⟩ := List.mem_map.mp listed
  exact get?_eq_some_iff.mpr ⟨entry, member, rfl, rfl⟩

/-- Deliveries that a call takes out were in the table. -/
theorem get?_of_taken {table : UnackedTable M} {call : TableCall M}
    (takes : call = .removeAll ∨ call = .removeOutstanding) {delivery : Delivery M}
    (handed : delivery ∈ (table.serve call).1.handed) :
    table.get? delivery.tag = some delivery := by
  rcases takes with rfl | rfl
  · exact get?_of_mem handed
  · exact get?_of_mem ((List.filter_sublist.map _).subset handed)

/-- Deliveries that are handed out again stay in the table. -/
theorem get?_of_handedOut {table : UnackedTable M} {delivery : Delivery M}
    (handed : delivery ∈ (table.serve .handOutAgain).1.handed) :
    (table.serve .handOutAgain).2.get? delivery.tag = some delivery :=
  get?_of_mem ((List.filter_sublist.map _).subset handed)

theorem size_eq (table : UnackedTable M) :
    table.size = table.pendingCount + table.removeOutstanding.1.length := by
  have split := table.entries.length_eq_countP_add_countP (·.ackPending)
  rw [size, split, removeOutstanding, List.length_map, ← List.countP_eq_length_filter, pendingCount]
  simp only [Bool.not_eq_true, Bool.decide_eq_false]

/-! ## Tags of 64 bits -/

end UnackedTable

/-- A call that enters nothing under a tag beyond the largest. -/
def TableCall.Fits : TableCall M → Prop
  | enter delivery => delivery.tag ≤ Tag.largest
  | _ => True

instance : (call : TableCall M) → Decidable call.Fits
  | .enter delivery => inferInstanceAs (Decidable (delivery.tag ≤ Tag.largest))
  | .settle .. | .postpone .. | .settlePending .. | .release | .removeAll | .removeOutstanding
  | .handOutAgain => isTrue trivial

theorem TableEvent.call_of_entered {event : TableEvent M} {delivery : Delivery M}
    (entered : event.entered = [delivery]) : event.call = .enter delivery := by
  obtain ⟨before, call, answer⟩ := event
  cases call with
  | enter other =>
    cases answer with
    | entered =>
      cases entered
      rfl
    | _ => cases entered
  | _ => cases entered

namespace UnackedTable

theorem bounded_serve {table : UnackedTable M}
    (bounded : ∀ entry ∈ table.entries, entry.tag ≤ Tag.largest) {call : TableCall M}
    (fits : call.Fits) : ∀ entry ∈ (table.serve call).2.entries, entry.tag ≤ Tag.largest := by
  intro entry member
  have found := get?_eq_some_iff.mpr ⟨entry, member, rfl, rfl⟩
  rcases get?_of_effect (table.effect_serve call) found with
    ⟨entered, _⟩ | ⟨earlier, known, _, _, _⟩
  · have same : call = .enter entry.delivery := TableEvent.call_of_entered entered
    rw [same] at fits
    exact fits
  · obtain ⟨old, old_member, named, _⟩ := get?_eq_some_iff.mp known
    rw [← named]
    exact bounded old old_member

/-- A map whose keys are the tags gives the answers of the table. -/
theorem run_of (table : UnackedTable M)
    (bounded : ∀ entry ∈ table.entries, entry.tag ≤ Tag.largest) {calls : List (TableCall M)}
    (fit : ∀ call ∈ calls, call.Fits) :
    (KeyedEntries.of table.entries).run calls =
      ((table.history calls).map (·.answer), KeyedEntries.of (table.after calls).entries) := by
  induction calls generalizing table with
  | nil => rfl
  | cons call rest ih =>
    obtain ⟨fits, rest_fit⟩ := List.forall_mem_cons.mp fit
    have others := ih _ (bounded_serve bounded fits) rest_fit
    rw [KeyedEntries.run, KeyedEntries.serve_of bounded, others]
    rfl

/-! ## The balance of a history -/

/-- What holds after some calls to a table that was empty. -/
structure Accounted (calls : List (TableCall M)) : Prop where
  /-- The map gives the same answers, and it ends with the entries of the table under their tags. -/
  keyed : KeyedEntries.run [] calls =
    ((empty.history calls).map (·.answer), KeyedEntries.of (empty.after calls).entries)
  keys_ascend : ((KeyedEntries.run [] calls).2.map (·.1)).Pairwise (· < ·)
  keys_tags : ∀ keyed ∈ (KeyedEntries.run [] calls).2, keyed.1 = keyed.2.delivery.tag
  /-- A tag came in as often as it was taken, and once more if it is there. -/
  balance : ∀ tag, (((empty.history calls).flatMap (·.entered)).map (·.tag)).count tag =
    ((empty.history calls).flatMap (·.taken)).count tag +
      if (empty.after calls).contains tag then 1 else 0
  answers_ascend : ∀ event ∈ empty.history calls, event.answer.listed.Pairwise (· < ·)
  looked_up : ∀ tag delivery, (empty.after calls).get? tag = some delivery →
    Recorded (empty.history calls) tag delivery
  taken_out : ∀ call, call = .removeAll ∨ call = .removeOutstanding →
    ∀ delivery ∈ ((empty.after calls).serve call).1.handed,
      Recorded (empty.history calls) delivery.tag delivery
  handed_out : ∀ delivery ∈ ((empty.after calls).serve .handOutAgain).1.handed,
    Recorded (empty.history (calls ++ [.handOutAgain])) delivery.tag delivery
  size : (empty.after calls).size =
    (empty.after calls).pendingCount + (empty.after calls).removeOutstanding.1.length

/-- **The table loses nothing and invents nothing**, whatever it is called for. -/
theorem accounted {calls : List (TableCall M)} (fit : ∀ call ∈ calls, call.Fits) :
    Accounted calls := by
  have keyed : KeyedEntries.run [] calls =
      ((empty.history calls).map (·.answer), KeyedEntries.of (empty.after calls).entries) :=
    run_of empty (List.forall_mem_nil _) fit
  constructor
  case keyed => exact keyed
  case keys_ascend =>
    rw [keyed, KeyedEntries.keys_of]
    exact pairwise_tags _
  case keys_tags =>
    rw [keyed]
    intro _ listed
    obtain ⟨entry, _, rfl⟩ := List.mem_map.mp listed
    rfl
  case balance =>
    intro tag
    have count := count_of_history empty calls tag
    rw [count_tags (empty.after calls)] at count
    have none : (empty : UnackedTable M).tags.count tag = 0 := rfl
    omega
  case answers_ascend => exact pairwise_listed_of_history empty calls
  case looked_up =>
    intro tag delivery found
    exact recorded_of_get? calls found
  case taken_out =>
    intro call takes delivery handed
    exact recorded_of_get? calls (get?_of_taken takes handed)
  case handed_out =>
    intro delivery handed
    apply recorded_of_get?
    rw [after_concat]
    exact get?_of_handedOut handed
  case size => exact size_eq _

/-- Under 0 and the largest tag: a refused duplicate, a delivery that is pending when the others are
handed out again, and a second delivery under a tag that was taken. -/
theorem accounted_of_reused_tag :
    let delivery := fun (tag message : Nat) (redelivered : Bool) =>
      (⟨tag, message, "q", .get, redelivered⟩ : Delivery Nat)
    let calls : List (TableCall Nat) :=
      [.enter (delivery Tag.largest 1 false), .enter (delivery 0 2 false),
        .enter (delivery 0 3 false), .postpone 0 false, .handOutAgain, .settlePending 0 true,
        .enter (delivery 0 4 false), .removeOutstanding]
    (∀ call ∈ calls, call.Fits) ∧ Accounted calls ∧
      (KeyedEntries.run [] calls).1 =
        [.entered, .entered, .refused (.duplicateTag 0), .tags [0],
          .deliveries [delivery Tag.largest 1 true], .tags [0], .entered,
          .deliveries [delivery 0 4 false, delivery Tag.largest 1 true]] := by
  intro delivery calls
  have fit : ∀ call ∈ calls, call.Fits := by decide +kernel
  exact ⟨fit, accounted fit, by decide +kernel⟩

end UnackedTable

end MessageBroker
