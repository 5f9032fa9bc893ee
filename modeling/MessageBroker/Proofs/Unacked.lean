import MessageBroker.Channel.Settlement

/-!
# What the operations do to the unacknowledged table

An entry is determined by its tag (`eq_of_tag_eq`), so looking a tag up is membership. Every
operation that removes entries keeps exactly those that pass a test (`keep`), and the deliveries
that have left a table are the others (`departed_keep`). Settling the deferred acknowledgements of a
transaction one after another is one such test (`settleAllPending_eq`).
-/

set_option autoImplicit false

namespace MessageBroker

variable {M : Type}

theorem covers_single {tag candidate : Nat} :
    covers tag false candidate = true ↔ candidate = tag := by
  simp [covers]

theorem covers_multiple {tag candidate : Nat} :
    covers tag true candidate = true ↔ tag = Tag.all ∨ candidate ≤ tag := by
  simp [covers, Tag.isAll]

/-- True of a pending entry that one of the given acknowledgements selects. -/
def UnackedDelivery.confirmedBy (acks : List (Nat × Bool)) (entry : UnackedDelivery M) : Bool :=
  entry.ackPending && acks.any fun ack => covers ack.1 ack.2 entry.tag

namespace UnackedDelivery

/-- The entry once an acknowledgement has flagged those it selects. -/
def flagBy (tag : Nat) (multiple : Bool) (entry : UnackedDelivery M) : UnackedDelivery M :=
  if covers tag multiple entry.tag then { entry with ackPending := true } else entry

@[simp] theorem delivery_flagBy (tag : Nat) (multiple : Bool) (entry : UnackedDelivery M) :
    (entry.flagBy tag multiple).delivery = entry.delivery := by
  unfold flagBy
  split <;> rfl

theorem tag_flagBy (tag : Nat) (multiple : Bool) (entry : UnackedDelivery M) :
    (entry.flagBy tag multiple).tag = entry.tag :=
  congrArg Delivery.tag (delivery_flagBy tag multiple entry)

theorem ackPending_flagBy (tag : Nat) (multiple : Bool) (entry : UnackedDelivery M) :
    (entry.flagBy tag multiple).ackPending =
      (covers tag multiple entry.tag || entry.ackPending) := by
  unfold flagBy
  cases covers tag multiple entry.tag <;> rfl

@[simp] theorem ackPending_handOutAgain (entry : UnackedDelivery M) :
    entry.handOutAgain.ackPending = entry.ackPending := by
  unfold handOutAgain
  split <;> rfl

end UnackedDelivery

namespace UnackedTable

/-! ## Looking up -/

theorem eq_of_tag_eq (table : UnackedTable M) {first second : UnackedDelivery M}
    (first_mem : first ∈ table.entries) (second_mem : second ∈ table.entries)
    (same : first.tag = second.tag) : first = second := by
  obtain ⟨entries, ascending⟩ := table
  simp only at first_mem second_mem
  induction ascending with
  | nil => cases first_mem
  | cons below _ ih =>
    -- Tags ascend, so the head differs from every later entry.
    rcases List.mem_cons.mp first_mem with rfl | first_later <;>
      rcases List.mem_cons.mp second_mem with rfl | second_later
    · rfl
    · exact absurd same (Nat.ne_of_lt (below second second_later))
    · exact absurd same.symm (Nat.ne_of_lt (below first first_later))
    · exact ih first_later second_later

theorem find?_eq_some_iff {table : UnackedTable M} {tag : Nat} {entry : UnackedDelivery M} :
    table.find? tag = some entry ↔ entry ∈ table.entries ∧ entry.tag = tag := by
  constructor
  · intro found
    exact ⟨List.mem_of_find?_eq_some found, by simpa using List.find?_some found⟩
  · rintro ⟨member, rfl⟩
    have present : (table.find? entry.tag).isSome = true :=
      List.find?_isSome.mpr ⟨entry, member, by simp⟩
    obtain ⟨other, found⟩ := Option.isSome_iff_exists.mp present
    have other_tag : other.tag = entry.tag := by simpa using List.find?_some found
    rw [found, table.eq_of_tag_eq (List.mem_of_find?_eq_some found) member other_tag]

theorem contains_iff {table : UnackedTable M} {tag : Nat} :
    table.contains tag = true ↔ ∃ entry ∈ table.entries, entry.tag = tag := by
  simp [contains, Option.isSome_iff_exists, find?_eq_some_iff]

theorem isPending_iff {table : UnackedTable M} {tag : Nat} :
    table.isPending tag = true ↔
      ∃ entry ∈ table.entries, entry.tag = tag ∧ entry.ackPending = true := by
  simp [isPending, Option.any_eq_true, find?_eq_some_iff, and_assoc]

/-- A tag names an entry that is not pending exactly when it is in the table without being
pending. -/
theorem contains_and_not_isPending_iff {table : UnackedTable M} {tag : Nat} :
    (table.contains tag && !table.isPending tag) = true ↔
      ∃ entry ∈ table.entries, entry.tag = tag ∧ entry.ackPending = false := by
  rw [Bool.and_eq_true, contains_iff, Bool.not_eq_true', ← Bool.not_eq_true, isPending_iff]
  constructor
  · rintro ⟨⟨entry, member, named⟩, free⟩
    refine ⟨entry, member, named, ?_⟩
    cases flag : entry.ackPending with
    | false => rfl
    | true => exact absurd ⟨entry, member, named, flag⟩ free
  · rintro ⟨entry, member, named, free⟩
    refine ⟨⟨entry, member, named⟩, ?_⟩
    rintro ⟨other, other_mem, other_named, pending⟩
    rw [table.eq_of_tag_eq other_mem member (other_named.trans named.symm), free] at pending
    cases pending

/-- The deliveries of a table stand in the order of their tags. -/
theorem ascending_deliveries (table : UnackedTable M) :
    (table.entries.map (·.delivery)).Pairwise fun first second => first.tag < second.tag :=
  table.ascending.map _ fun _ _ below => below

/-! ## Keeping entries -/

@[simp] theorem entries_keep (table : UnackedTable M) (test : UnackedDelivery M → Bool) :
    (table.keep test).entries = table.entries.filter test := rfl

@[simp] theorem entries_adjust (table : UnackedTable M)
    (change : UnackedDelivery M → UnackedDelivery M)
    (tag_change : ∀ entry, (change entry).tag = entry.tag) :
    (table.adjust change tag_change).entries = table.entries.map change := rfl

@[simp] theorem entries_empty : (empty : UnackedTable M).entries = [] := rfl

theorem keep_keep (table : UnackedTable M) (first second : UnackedDelivery M → Bool) :
    (table.keep first).keep second = table.keep fun entry => second entry && first entry := by
  ext1
  simp [List.filter_filter]

/-- An entry of a table is still there afterwards exactly when it passes the test. -/
theorem contains_keep (table : UnackedTable M) (test : UnackedDelivery M → Bool)
    {entry : UnackedDelivery M} (member : entry ∈ table.entries) :
    (table.keep test).contains entry.tag = test entry := by
  rw [Bool.eq_iff_iff, contains_iff]
  constructor
  · rintro ⟨other, kept, same⟩
    obtain ⟨other_mem, passed⟩ := List.mem_filter.mp kept
    rwa [table.eq_of_tag_eq other_mem member same] at passed
  · intro passed
    exact ⟨entry, List.mem_filter.mpr ⟨member, passed⟩, rfl⟩

/-- The deliveries of a table whose tags are not in another one, in tag order. -/
def departed (before after : UnackedTable M) : List (Delivery M) :=
  (before.entries.filter fun entry => !after.contains entry.tag).map (·.delivery)

theorem departed_keep (table : UnackedTable M) (test : UnackedDelivery M → Bool) :
    table.departed (table.keep test) =
      (table.entries.filter fun entry => !test entry).map (·.delivery) := by
  rw [departed, List.filter_congr fun entry member => by rw [table.contains_keep test member]]

/-- Nothing departs while every tag stays in the table. -/
theorem departed_eq_nil {before after : UnackedTable M}
    (stays : ∀ entry ∈ before.entries, after.contains entry.tag = true) :
    before.departed after = [] := by
  rw [departed, List.map_eq_nil_iff, List.filter_eq_nil_iff]
  intro entry member
  simp [stays entry member]

theorem departed_self (table : UnackedTable M) : table.departed table = [] :=
  departed_eq_nil fun entry member => contains_iff.mpr ⟨entry, member, rfl⟩

theorem departed_adjust (table : UnackedTable M) (change : UnackedDelivery M → UnackedDelivery M)
    (tag_change : ∀ entry, (change entry).tag = entry.tag) :
    table.departed (table.adjust change tag_change) = [] :=
  departed_eq_nil fun entry member =>
    contains_iff.mpr ⟨change entry, List.mem_map_of_mem member, tag_change entry⟩

theorem empty_eq_keep (table : UnackedTable M) : empty = table.keep fun _ => false := by
  ext1
  simp

theorem departed_empty (table : UnackedTable M) :
    table.departed .empty = table.entries.map (·.delivery) := by
  rw [empty_eq_keep table, departed_keep]
  exact congrArg _ (List.filter_eq_self.mpr fun _ _ => rfl)

/-! ## The operations -/

theorem enter_eq_ok_iff {table after : UnackedTable M} {delivery : Delivery M} :
    table.enter delivery = .ok after ↔
      table.contains delivery.tag = false ∧
        after.entries = insertEntry ⟨delivery, false⟩ table.entries := by
  unfold enter
  split
  · rename_i present
    simp [present]
  · rename_i absent
    have free : table.contains delivery.tag = false := by simpa using absent
    rw [Except.ok.injEq, UnackedTable.ext_iff, eq_comm]
    simp [free]

theorem enter_eq_error_iff {table : UnackedTable M} {delivery : Delivery M} {error : BrokerError} :
    table.enter delivery = .error error ↔
      table.contains delivery.tag = true ∧ error = .duplicateTag delivery.tag := by
  unfold enter
  split
  · rename_i present
    simp [present, eq_comm]
  · rename_i absent
    simp [absent]

/-- An entry with the largest tag comes last. -/
theorem insertEntry_of_largest (entry : UnackedDelivery M) {entries : List (UnackedDelivery M)}
    (largest : ∀ other ∈ entries, other.tag < entry.tag) :
    insertEntry entry entries = entries ++ [entry] := by
  induction entries with
  | nil => rfl
  | cons first rest ih =>
    have below := largest first List.mem_cons_self
    rw [insertEntry, if_neg (Nat.not_lt.mpr (Nat.le_of_lt below)), List.cons_append,
      ih fun other member => largest other (List.mem_cons_of_mem _ member)]

/-- Where an entry goes depends on the tags alone. -/
theorem map_insertEntry {change : UnackedDelivery M → UnackedDelivery M}
    (tag_change : ∀ entry, (change entry).tag = entry.tag) (entry : UnackedDelivery M)
    (entries : List (UnackedDelivery M)) :
    (insertEntry entry entries).map change = insertEntry (change entry) (entries.map change) := by
  induction entries with
  | nil => rfl
  | cons first rest ih =>
    rw [List.map_cons, insertEntry, insertEntry, tag_change, tag_change]
    split
    · rfl
    · rw [List.map_cons, ih]

/-- The table once an acknowledgement has flagged the entries it selects. -/
def postponed (table : UnackedTable M) (tag : Nat) (multiple : Bool) : UnackedTable M :=
  table.adjust (·.flagBy tag multiple) (UnackedDelivery.tag_flagBy tag multiple)

/-! ## What stays pending -/

/-- A new entry is not pending. -/
theorem isPending_enter {table after : UnackedTable M} {delivery : Delivery M}
    (entered : table.enter delivery = .ok after) (tag : Nat) :
    after.isPending tag = table.isPending tag := by
  rw [Bool.eq_iff_iff, isPending_iff, isPending_iff, (enter_eq_ok_iff.mp entered).2]
  constructor
  · rintro ⟨entry, member, named, pending⟩
    rcases mem_insertEntry.mp member with rfl | old
    · cases pending
    · exact ⟨entry, old, named, pending⟩
  · rintro ⟨entry, member, rest⟩
    exact ⟨entry, mem_insertEntry.mpr (.inr member), rest⟩

theorem isPending_of_keep {table : UnackedTable M} {test : UnackedDelivery M → Bool} {tag : Nat}
    (pending : (table.keep test).isPending tag = true) : table.isPending tag = true := by
  obtain ⟨entry, kept, rest⟩ := isPending_iff.mp pending
  exact isPending_iff.mpr ⟨entry, (List.mem_filter.mp kept).1, rest⟩

theorem isPending_keep_pending (table : UnackedTable M) (tag : Nat) :
    (table.keep (·.ackPending)).isPending tag = table.isPending tag := by
  rw [Bool.eq_iff_iff]
  refine ⟨isPending_of_keep, fun pending => ?_⟩
  obtain ⟨entry, member, named, flag⟩ := isPending_iff.mp pending
  exact isPending_iff.mpr ⟨entry, List.mem_filter.mpr ⟨member, flag⟩, named, flag⟩

theorem isPending_adjust (table : UnackedTable M) (change : UnackedDelivery M → UnackedDelivery M)
    (tag_change : ∀ entry, (change entry).tag = entry.tag) (tag : Nat) :
    (table.adjust change tag_change).isPending tag = true ↔
      ∃ entry ∈ table.entries, entry.tag = tag ∧ (change entry).ackPending = true := by
  simp only [isPending_iff, entries_adjust, List.mem_map]
  constructor
  · rintro ⟨_, ⟨entry, member, rfl⟩, named, pending⟩
    exact ⟨entry, member, (tag_change entry).symm.trans named, pending⟩
  · rintro ⟨entry, member, named, pending⟩
    exact ⟨change entry, ⟨entry, member, rfl⟩, (tag_change entry).trans named, pending⟩

theorem isPending_handOutAgain (table : UnackedTable M) (tag : Nat) :
    table.handOutAgain.2.isPending tag = table.isPending tag := by
  rw [Bool.eq_iff_iff, handOutAgain, isPending_adjust, isPending_iff]
  simp only [UnackedDelivery.ackPending_handOutAgain]

/-- An acknowledgement flags the entries it selects and keeps the flags there are. -/
theorem isPending_postponed {table : UnackedTable M} {tag candidate : Nat} {multiple : Bool} :
    (table.postponed tag multiple).isPending candidate = true ↔
      (table.contains candidate = true ∧ covers tag multiple candidate = true) ∨
        table.isPending candidate = true := by
  rw [postponed, isPending_adjust, contains_iff, isPending_iff]
  constructor
  · rintro ⟨entry, member, rfl, pending⟩
    rw [UnackedDelivery.ackPending_flagBy, Bool.or_eq_true] at pending
    rcases pending with selected | pending
    · exact .inl ⟨⟨entry, member, rfl⟩, selected⟩
    · exact .inr ⟨entry, member, rfl, pending⟩
  · rintro (⟨⟨entry, member, rfl⟩, selected⟩ | ⟨entry, member, rfl, pending⟩)
    · exact ⟨entry, member, rfl, by simp [UnackedDelivery.ackPending_flagBy, selected]⟩
    · exact ⟨entry, member, rfl, by simp [UnackedDelivery.ackPending_flagBy, pending]⟩

theorem isPending_release (table : UnackedTable M) (tag : Nat) :
    table.release.2.isPending tag = false := by
  rw [← Bool.not_eq_true, release, isPending_adjust]
  rintro ⟨_, _, _, pending⟩
  cases pending

/-! ## Settling a transaction -/

/-- The deferred acknowledgements of a transaction remove exactly the pending entries they select,
each once however many select it. -/
theorem settleAllPending_eq (table : UnackedTable M) (acks : List (Nat × Bool)) :
    table.settleAllPending acks =
      (table.entries.countP (·.confirmedBy acks),
        table.keep fun entry => !entry.confirmedBy acks) := by
  induction acks generalizing table with
  | nil =>
    have none_confirmed : ∀ entry : UnackedDelivery M, entry.confirmedBy [] = false := by
      simp [UnackedDelivery.confirmedBy]
    refine Prod.ext ?_ (UnackedTable.ext ?_)
    · simp [settleAllPending, none_confirmed]
    · exact (List.filter_eq_self.mpr fun entry _ => by simp [none_confirmed]).symm
  | cons ack rest ih =>
    obtain ⟨tag, multiple⟩ := ack
    -- What the first acknowledgement removes, the others no longer find.
    simp only [settleAllPending, settlePending, ih]
    refine Prod.ext ?_ ?_
    · simp only [tags, entries_keep, List.length_map, List.countP_filter]
      rw [← List.countP_eq_length_filter]
      induction table.entries with
      | nil => rfl
      | cons entry entries count_ih =>
        simp only [List.countP_cons, UnackedDelivery.confirmedBy, List.any_cons] at count_ih ⊢
        grind
    · simp only [keep_keep]
      congr 1
      funext entry
      simp only [UnackedDelivery.confirmedBy, List.any_cons]
      grind

end UnackedTable

end MessageBroker
