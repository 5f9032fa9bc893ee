import MessageBroker.Delivery

/-!
# Unacknowledged deliveries

The table of the deliveries a channel still has to acknowledge, in ascending order of their tags.
An acknowledgement names one tag or, when it is multiple, every tag up to the named one (`covers`).
Outside a transaction it removes the entries it selects (`settle`); inside one it only flags them
(`postpone`), and the flagged entries are removed at commit (`settlePending`) or released at
rollback (`release`).
-/

set_option autoImplicit false

namespace MessageBroker

/-- A delivery waiting for its acknowledgement. -/
structure UnackedDelivery (M : Type) where
  delivery : Delivery M
  /-- Acknowledged in a transaction that has not committed yet. -/
  ackPending : Bool
  deriving DecidableEq, Repr

namespace UnackedDelivery

variable {M : Type}

/-- Tag of the delivery. -/
abbrev tag (entry : UnackedDelivery M) : Nat := entry.delivery.tag

/-- Flags the delivery as handed out again, unless its acknowledgement is pending. -/
def handOutAgain (entry : UnackedDelivery M) : UnackedDelivery M :=
  if entry.ackPending then entry
  else { entry with delivery := { entry.delivery with redelivered := true } }

@[simp] theorem tag_handOutAgain (entry : UnackedDelivery M) :
    entry.handOutAgain.tag = entry.tag := by
  unfold handOutAgain
  split <;> rfl

end UnackedDelivery

/-- The tags an acknowledgement of `tag` selects: that tag alone, or, when it is multiple, every
tag up to it, and all tags when it is 0. -/
def covers (tag : Nat) (multiple : Bool) (candidate : Nat) : Bool :=
  if multiple then Tag.isAll tag || candidate ≤ tag else candidate == tag

/-- Deliveries without acknowledgement, in strictly ascending order of their tags. -/
@[ext] structure UnackedTable (M : Type) where
  entries : List (UnackedDelivery M)
  ascending : entries.Pairwise fun a b => a.tag < b.tag

namespace UnackedTable

variable {M : Type}

/-- Nothing is outstanding. -/
def empty : UnackedTable M := ⟨[], .nil⟩

/-! ## Views -/

/-- Number of entries. -/
def size (table : UnackedTable M) : Nat := table.entries.length

/-- Tags, ascending. -/
def tags (table : UnackedTable M) : List Nat := table.entries.map (·.tag)

/-- The entry under a tag. -/
def find? (table : UnackedTable M) (tag : Nat) : Option (UnackedDelivery M) :=
  table.entries.find? (·.tag == tag)

/-- The delivery under a tag. -/
def get? (table : UnackedTable M) (tag : Nat) : Option (Delivery M) :=
  (table.find? tag).map (·.delivery)

/-- True of the tags in the table. -/
def contains (table : UnackedTable M) (tag : Nat) : Bool := (table.find? tag).isSome

/-- True of the tags whose acknowledgement is pending. -/
def isPending (table : UnackedTable M) (tag : Nat) : Bool :=
  (table.find? tag).any (·.ackPending)

/-- Number of entries whose acknowledgement is pending. -/
def pendingCount (table : UnackedTable M) : Nat := table.entries.countP (·.ackPending)

/-! ## Building -/

/-- Keeps the entries that satisfy a test. -/
def keep (table : UnackedTable M) (test : UnackedDelivery M → Bool) : UnackedTable M :=
  ⟨table.entries.filter test, table.ascending.filter _⟩

/-- Changes every entry and leaves its tag. -/
def adjust (table : UnackedTable M) (change : UnackedDelivery M → UnackedDelivery M)
    (tag_change : ∀ entry, (change entry).tag = entry.tag) : UnackedTable M :=
  ⟨table.entries.map change, by
    rw [List.pairwise_map]
    simpa only [tag_change] using table.ascending⟩

/-- Inserts an entry before the first larger tag. -/
def insertEntry (entry : UnackedDelivery M) : List (UnackedDelivery M) → List (UnackedDelivery M)
  | [] => [entry]
  | first :: rest =>
      if entry.tag < first.tag then entry :: first :: rest else first :: insertEntry entry rest

theorem mem_insertEntry {entry other : UnackedDelivery M} {entries : List (UnackedDelivery M)} :
    other ∈ insertEntry entry entries ↔ other = entry ∨ other ∈ entries := by
  induction entries with
  | nil => simp [insertEntry]
  | cons first rest ih =>
    unfold insertEntry
    split
    · simp
    · simp only [List.mem_cons, ih]
      grind

theorem ascending_insertEntry {entry : UnackedDelivery M} {entries : List (UnackedDelivery M)}
    (ascending : entries.Pairwise fun a b => a.tag < b.tag)
    (fresh : ∀ other ∈ entries, other.tag ≠ entry.tag) :
    (insertEntry entry entries).Pairwise fun a b => a.tag < b.tag := by
  induction entries with
  | nil => simp [insertEntry]
  | cons first rest ih =>
    rw [List.pairwise_cons] at ascending
    have first_ne : first.tag ≠ entry.tag := fresh first List.mem_cons_self
    unfold insertEntry
    split
    · rename_i before
      refine List.pairwise_cons.mpr ⟨fun other member => ?_, List.pairwise_cons.mpr ascending⟩
      rcases List.mem_cons.mp member with rfl | member
      · exact before
      · exact Nat.lt_trans before (ascending.1 other member)
    · refine List.pairwise_cons.mpr ⟨fun other member => ?_,
        ih ascending.2 fun other member => fresh other (List.mem_cons_of_mem _ member)⟩
      rcases mem_insertEntry.mp member with rfl | member
      · omega
      · exact ascending.1 other member

theorem tag_ne_of_not_contains {table : UnackedTable M} {tag : Nat}
    (absent : ¬ table.contains tag) : ∀ entry ∈ table.entries, entry.tag ≠ tag := by
  intro entry member same
  apply absent
  rw [contains, find?, List.find?_isSome]
  exact ⟨entry, member, by simp [same]⟩

/-! ## Operations -/

/-- Enters a delivery; its tag must be free. -/
def enter (table : UnackedTable M) (delivery : Delivery M) :
    Except BrokerError (UnackedTable M) :=
  if absent : table.contains delivery.tag then .error (.duplicateTag delivery.tag)
  else .ok ⟨insertEntry ⟨delivery, false⟩ table.entries,
    ascending_insertEntry table.ascending (tag_ne_of_not_contains absent)⟩

/-- Removes the selected entries and returns their tags. A single tag must be in the table. -/
def settle (table : UnackedTable M) (tag : Nat) (multiple : Bool) :
    Except BrokerError (List Nat × UnackedTable M) :=
  if multiple || table.contains tag then
    .ok ((table.keep fun entry => covers tag multiple entry.tag).tags,
      table.keep fun entry => !covers tag multiple entry.tag)
  else .error (.unknownDeliveryTag tag)

/-- Flags the selected entries that are not pending yet and returns their tags. A single tag must
be in the table and not pending. -/
def postpone (table : UnackedTable M) (tag : Nat) (multiple : Bool) :
    Except BrokerError (List Nat × UnackedTable M) :=
  if multiple || (table.contains tag && !table.isPending tag) then
    .ok ((table.keep fun entry => covers tag multiple entry.tag && !entry.ackPending).tags,
      table.adjust
        (fun entry => if covers tag multiple entry.tag then { entry with ackPending := true }
          else entry)
        fun entry => by split <;> rfl)
  else .error (.unknownDeliveryTag tag)

/-- Removes the selected entries that are pending and returns their tags. -/
def settlePending (table : UnackedTable M) (tag : Nat) (multiple : Bool) :
    List Nat × UnackedTable M :=
  ((table.keep fun entry => covers tag multiple entry.tag && entry.ackPending).tags,
    table.keep fun entry => !(covers tag multiple entry.tag && entry.ackPending))

/-- Releases every pending entry and says how many there were. -/
def release (table : UnackedTable M) : Nat × UnackedTable M :=
  (table.pendingCount, table.adjust (fun entry => { entry with ackPending := false }) fun _ => rfl)

/-- All deliveries in tag order; the table is left empty. -/
def removeAll (table : UnackedTable M) : List (Delivery M) × UnackedTable M :=
  (table.entries.map (·.delivery), empty)

/-- The deliveries that are not pending, in tag order; the pending ones stay. -/
def removeOutstanding (table : UnackedTable M) : List (Delivery M) × UnackedTable M :=
  ((table.entries.filter (!·.ackPending)).map (·.delivery), table.keep (·.ackPending))

/-- Flags the deliveries that are not pending as redelivered and returns them. -/
def handOutAgain (table : UnackedTable M) : List (Delivery M) × UnackedTable M :=
  let flagged := table.adjust UnackedDelivery.handOutAgain UnackedDelivery.tag_handOutAgain
  ((flagged.entries.filter (!·.ackPending)).map (·.delivery), flagged)

end UnackedTable

end MessageBroker
