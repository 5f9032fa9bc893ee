import Mathlib.Data.List.Basic
import MessageBroker.Proofs.Selection

/-!
# The unacknowledged table as a map

The table is kept as an ordered map from keys to entries, and an entry has its tag in its delivery.
Nothing in a map says that an entry stands under its own tag: an operation that puts entries in,
cuts the map, walks along it or removes collected keys one by one could leave another one there.
`KeyedEntries` is the map with its operations step by step; `KeyedEntries.serve_of` shows that on a
map whose keys are the tags they do what the operations of the table do and that the keys stay the
tags.
-/

set_option autoImplicit false

namespace MessageBroker

variable {M : Type}

/-! ## Calls -/

/-- A call that may change the table. -/
inductive TableCall (M : Type) where
  | enter (delivery : Delivery M)
  | settle (tag : Nat) (multiple : Bool)
  | postpone (tag : Nat) (multiple : Bool)
  | settlePending (tag : Nat) (multiple : Bool)
  | release
  | removeAll
  | removeOutstanding
  | handOutAgain

/-- What a call answers. -/
inductive TableAnswer (M : Type) where
  | entered
  | refused (error : BrokerError)
  | tags (tags : List Nat)
  | count (count : Nat)
  | deliveries (deliveries : List (Delivery M))
  deriving DecidableEq

namespace UnackedTable

/-- The answer to an acknowledgement; a refused one leaves the table. -/
def answered (table : UnackedTable M) :
    Except BrokerError (List Nat × UnackedTable M) → TableAnswer M × UnackedTable M
  | .ok (tags, after) => (.tags tags, after)
  | .error error => (.refused error, table)

/-- Answers a call. -/
def serve (table : UnackedTable M) : TableCall M → TableAnswer M × UnackedTable M
  | .enter delivery =>
    match table.enter delivery with
    | .ok after => (.entered, after)
    | .error error => (.refused error, table)
  | .settle tag multiple => table.answered (table.settle tag multiple)
  | .postpone tag multiple => table.answered (table.postpone tag multiple)
  | .settlePending tag multiple =>
    (.tags (table.settlePending tag multiple).1, (table.settlePending tag multiple).2)
  | .release => (.count table.release.1, table.release.2)
  | .removeAll => (.deliveries table.removeAll.1, table.removeAll.2)
  | .removeOutstanding => (.deliveries table.removeOutstanding.1, table.removeOutstanding.2)
  | .handOutAgain => (.deliveries table.handOutAgain.1, table.handOutAgain.2)

end UnackedTable

/-! ## The map -/

/-- Entries under keys, in the order of the keys. -/
abbrev KeyedEntries (M : Type) := List (Nat × UnackedDelivery M)

namespace KeyedEntries

/-- Puts an entry under a key. -/
def insert (key : Nat) (entry : UnackedDelivery M) : KeyedEntries M → KeyedEntries M
  | [] => [(key, entry)]
  | first :: rest =>
    if key < first.1 then (key, entry) :: first :: rest
    else if key = first.1 then (key, entry) :: rest
    else first :: insert key entry rest

/-- Removes the entry under a key. -/
def remove (map : KeyedEntries M) (key : Nat) : KeyedEntries M := map.filter (·.1 ≠ key)

/-- Flags the entry under a key. -/
def flag (map : KeyedEntries M) (key : Nat) : KeyedEntries M :=
  map.map fun (other, entry) =>
    (other, if other = key then { entry with ackPending := true } else entry)

/-- What stands before a cut behind the tag, and what stands after it. -/
def cutBehind (map : KeyedEntries M) (tag : Nat) : KeyedEntries M × KeyedEntries M :=
  if Tag.isAll tag then (map, [])
  else match Tag.successor? tag with
    | some bound => map.partition (·.1 < bound)
    | none => (map, [])

/-- Walks from the front as far as the tag and flags; says which keys had no flag. -/
def flagUpTo (tag : Nat) : KeyedEntries M → List Nat × KeyedEntries M
  | [] => ([], [])
  | (key, entry) :: rest =>
    if covers tag true key then
      let (marked, flagged) := flagUpTo tag rest
      if entry.ackPending then (marked, (key, entry) :: flagged)
      else (key :: marked, (key, { entry with ackPending := true }) :: flagged)
    else ([], (key, entry) :: rest)

/-- The flagged keys that an acknowledgement selects. -/
def pendingKeys (map : KeyedEntries M) (tag : Nat) (multiple : Bool) : List Nat :=
  if multiple then
    ((map.takeWhile fun keyed => covers tag true keyed.1).filter (·.2.ackPending)).map (·.1)
  else match map.lookup tag with
    | some entry => if entry.ackPending then [tag] else []
    | none => []

/-- Removes keys one by one and collects the deliveries. -/
def takeEach : List Nat → KeyedEntries M → List (Delivery M) × KeyedEntries M
  | [], map => ([], map)
  | key :: keys, map =>
    let (deliveries, left) := takeEach keys (map.remove key)
    (((map.lookup key).map (·.delivery)).toList ++ deliveries, left)

/-- Walks over all entries, flags those that are not pending as redelivered and copies them. -/
def handOutAgain : KeyedEntries M → List (Delivery M) × KeyedEntries M
  | [] => ([], [])
  | (key, entry) :: rest =>
    let (handed, flagged) := handOutAgain rest
    if entry.ackPending then (handed, (key, entry) :: flagged)
    else
      let delivery := { entry.delivery with redelivered := true }
      (delivery :: handed, (key, { entry with delivery }) :: flagged)

/-- Answers a call. -/
def serve (map : KeyedEntries M) : TableCall M → TableAnswer M × KeyedEntries M
  | .enter delivery =>
    if (map.lookup delivery.tag).isSome then (.refused (.duplicateTag delivery.tag), map)
    else (.entered, map.insert delivery.tag ⟨delivery, false⟩)
  | .settle tag true => (.tags ((map.cutBehind tag).1.map (·.1)), (map.cutBehind tag).2)
  | .settle tag false =>
    match map.lookup tag with
    | some _ => (.tags [tag], map.remove tag)
    | none => (.refused (.unknownDeliveryTag tag), map)
  | .postpone tag true => (.tags (map.flagUpTo tag).1, (map.flagUpTo tag).2)
  | .postpone tag false =>
    match map.lookup tag with
    | some entry =>
      if entry.ackPending then (.refused (.unknownDeliveryTag tag), map)
      else (.tags [tag], map.flag tag)
    | none => (.refused (.unknownDeliveryTag tag), map)
  | .settlePending tag multiple =>
    (.tags (map.pendingKeys tag multiple), (map.pendingKeys tag multiple).foldl remove map)
  | .release =>
    (.count (map.countP (·.2.ackPending)),
      map.map fun (key, entry) => (key, { entry with ackPending := false }))
  | .removeAll => (.deliveries (map.map (·.2.delivery)), [])
  | .removeOutstanding =>
    let taken := takeEach ((map.filter (!·.2.ackPending)).map (·.1)) map
    (.deliveries taken.1, taken.2)
  | .handOutAgain => (.deliveries map.handOutAgain.1, map.handOutAgain.2)

/-- Answers calls one after the other. -/
def run (map : KeyedEntries M) : List (TableCall M) → List (TableAnswer M) × KeyedEntries M
  | [] => ([], map)
  | call :: rest =>
    let (answers, left) := (map.serve call).2.run rest
    ((map.serve call).1 :: answers, left)

/-- Entries under their own tags. -/
def of (entries : List (UnackedDelivery M)) : KeyedEntries M :=
  entries.map fun entry => (entry.tag, entry)

/-! ## Maps whose keys are the tags -/

section Steps

variable (entries : List (UnackedDelivery M)) (tag : Nat)

theorem lookup_of : (of entries).lookup tag = entries.find? (·.tag == tag) := by
  induction entries with
  | nil => rfl
  | cons first rest ih =>
    rw [of, List.map_cons, List.lookup_cons, List.find?_cons, Bool.beq_comm, ← of, ih]

theorem filter_of (test : Nat × UnackedDelivery M → Bool) :
    (of entries).filter test = of (entries.filter fun entry => test (entry.tag, entry)) :=
  List.filter_map ..

theorem map_of (change : UnackedDelivery M → UnackedDelivery M)
    (tag_change : ∀ entry, (change entry).tag = entry.tag) :
    (of entries).map (fun keyed => (keyed.1, change keyed.2)) = of (entries.map change) := by
  rw [of, of, List.map_map, List.map_map]
  apply List.map_congr_left
  intro entry _
  exact Prod.ext (tag_change entry).symm rfl

theorem keys_of : (of entries).map (·.1) = entries.map (·.tag) := List.map_map ..

theorem remove_of : (of entries).remove tag = of (removeTag entries tag) := filter_of ..

theorem flag_of :
    (of entries).flag tag = of (entries.map fun entry =>
      if entry.tag = tag then { entry with ackPending := true } else entry) := by
  rw [flag, of, of, List.map_map, List.map_map]
  apply List.map_congr_left
  intro entry _
  show (entry.tag, if entry.tag = tag then { entry with ackPending := true } else entry) = _
  rw [Function.comp_apply]
  split <;> rfl

theorem foldl_remove_of (keys : List Nat) :
    keys.foldl remove (of entries) = of (keys.foldl removeTag entries) := by
  induction keys generalizing entries with
  | nil => rfl
  | cons key rest ih => rw [List.foldl_cons, remove_of, ih, List.foldl_cons]

/-- A fresh tag goes where the entry goes. -/
theorem insert_of {entry : UnackedDelivery M} (fresh : ∀ other ∈ entries, other.tag ≠ entry.tag) :
    (of entries).insert entry.tag entry = of (UnackedTable.insertEntry entry entries) := by
  induction entries with
  | nil => rfl
  | cons first rest ih =>
    have others := ih fun other listed => fresh other (List.mem_cons_of_mem first listed)
    -- The map could replace an entry under the key; a fresh tag is no key yet.
    have different : entry.tag ≠ first.tag := (fresh first List.mem_cons_self).symm
    rw [of, List.map_cons, insert, UnackedTable.insertEntry]
    by_cases before : entry.tag < first.tag
    · rw [if_pos before, if_pos before]
      rfl
    · rw [if_neg before, if_neg before, if_neg different]
      exact congrArg ((first.tag, first) :: ·) others

theorem flagUpTo_of :
    flagUpTo tag (of entries) =
      ((flagWhile (fun entry => Selects tag true entry.tag) entries).1,
        of (flagWhile (fun entry => Selects tag true entry.tag) entries).2) := by
  induction entries with
  | nil => rfl
  | cons first rest ih =>
    rw [of, List.map_cons, flagUpTo, ← of, ih, flagWhile,
      UnackedTable.covers_eq_decide]
    by_cases reached : Selects tag true first.tag
    · rw [decide_eq_true reached]
      cases first.ackPending <;> rfl
    · rw [decide_eq_false reached]
      rfl

theorem handOutAgain_of :
    (of entries).handOutAgain =
      (((entries.map UnackedDelivery.handOutAgain).filter (!·.ackPending)).map (·.delivery),
        of (entries.map UnackedDelivery.handOutAgain)) := by
  induction entries with
  | nil => rfl
  | cons first rest ih =>
    obtain ⟨delivery, ackPending⟩ := first
    rw [of, List.map_cons, handOutAgain, ← of, ih]
    cases ackPending <;> rfl

end Steps

/-! ## One call -/

/-- The answer to an acknowledgement. -/
def answer : Except BrokerError (List Nat) → TableAnswer M
  | .ok tags => .tags tags
  | .error error => .refused error

theorem answered_eq (table : UnackedTable M)
    (result : Except BrokerError (List Nat × UnackedTable M)) :
    ((table.answered result).1, of (table.answered result).2.entries) =
      (answer (table.outcome result).1, of (table.outcome result).2) := by
  cases result <;> rfl

section Calls

variable (table : UnackedTable M) (tag : Nat) (multiple : Bool)

theorem lookup_of_entries : (of table.entries).lookup tag = table.find? tag :=
  lookup_of table.entries tag

theorem serve_enter (delivery : Delivery M) :
    (of table.entries).serve (.enter delivery) =
      ((table.serve (.enter delivery)).1, of (table.serve (.enter delivery)).2.entries) := by
  rw [serve, lookup_of_entries, UnackedTable.serve, ← UnackedTable.contains]
  cases entered : table.enter delivery with
  | error error =>
    obtain ⟨present, rfl⟩ := UnackedTable.enter_eq_error_iff.mp entered
    exact if_pos present
  | ok after =>
    obtain ⟨absent, entries⟩ := UnackedTable.enter_eq_ok_iff.mp entered
    have free : ¬ table.contains delivery.tag = true := Bool.eq_false_iff.mp absent
    have fresh := UnackedTable.tag_ne_of_not_contains free
    rw [if_neg free]
    show (TableAnswer.entered, _) = (TableAnswer.entered, of after.entries)
    rw [entries, ← insert_of table.entries fresh]

theorem cutBehind_of :
    (of table.entries).cutBehind tag =
      (of (table.cutBehind tag).1, of (table.cutBehind tag).2) := by
  rw [cutBehind, UnackedTable.cutBehind]
  split
  case isTrue => rfl
  case isFalse =>
    cases Tag.successor? tag with
    | none => rfl
    | some bound =>
      simp only [List.partition_eq_filter_filter, filter_of]
      rfl

theorem serve_settle (bounded : ∀ entry ∈ table.entries, entry.tag ≤ Tag.largest) :
    (of table.entries).serve (.settle tag multiple) =
      ((table.serve (.settle tag multiple)).1,
        of (table.serve (.settle tag multiple)).2.entries) := by
  rw [UnackedTable.serve, answered_eq, ← table.settleByCut_eq tag multiple bounded]
  cases multiple with
  | true =>
    rw [serve, cutBehind_of, keys_of]
    rfl
  | false =>
    rw [serve, lookup_of_entries, UnackedTable.settleByCut]
    cases table.find? tag with
    | none => rfl
    | some _ =>
      rw [remove_of]
      rfl

theorem serve_postpone :
    (of table.entries).serve (.postpone tag multiple) =
      ((table.serve (.postpone tag multiple)).1,
        of (table.serve (.postpone tag multiple)).2.entries) := by
  rw [UnackedTable.serve, answered_eq, ← table.postponeByWalk_eq tag multiple]
  cases multiple with
  | true =>
    rw [serve, flagUpTo_of]
    rfl
  | false =>
    rw [serve, lookup_of_entries, UnackedTable.postponeByWalk]
    cases table.find? tag with
    | none => rfl
    | some entry =>
      obtain ⟨_, ackPending⟩ := entry
      rw [flag_of]
      cases ackPending <;> rfl

theorem pendingKeys_of :
    (of table.entries).pendingKeys tag multiple = (table.settlePendingByWalk tag multiple).1 := by
  cases multiple with
  | true =>
    have walked : (of table.entries).takeWhile (fun keyed => covers tag true keyed.1) =
        of (table.upTo tag) := by
      rw [of, List.takeWhile_map, UnackedTable.upTo, of]
      simp only [← UnackedTable.covers_eq_decide]
      rfl
    rw [pendingKeys, if_pos rfl, walked, filter_of, keys_of]
    rfl
  | false =>
    rw [pendingKeys, lookup_of_entries]
    rfl

theorem serve_settlePending :
    (of table.entries).serve (.settlePending tag multiple) =
      ((table.serve (.settlePending tag multiple)).1,
        of (table.serve (.settlePending tag multiple)).2.entries) := by
  have walk := table.settlePendingByWalk_eq tag multiple
  have left : (table.settlePendingByWalk tag multiple).1.foldl removeTag table.entries =
      (table.settlePending tag multiple).2.entries := congrArg Prod.snd walk
  rw [serve, pendingKeys_of, foldl_remove_of, left, walk]
  rfl

theorem lookup_remove {map : KeyedEntries M} {key other : Nat} (different : other ≠ key) :
    (map.remove key).lookup other = map.lookup other := by
  induction map with
  | nil => rfl
  | cons first rest ih =>
    rw [remove, List.filter_cons, List.lookup_cons]
    by_cases named : first.1 = key
    · rw [if_neg (by simpa using named), beq_eq_false_iff_ne.mpr (named ▸ different)]
      exact ih
    · rw [if_pos (by simpa using named), List.lookup_cons]
      cases other == first.1 with
      | true => rfl
      | false => exact ih

/-- As every key is removed once, the ones before it do not matter to what is found under it. -/
theorem takeEach_eq {keys : List Nat} (distinct : keys.Nodup) (map : KeyedEntries M) :
    takeEach keys map =
      (keys.flatMap fun key => ((map.lookup key).map (·.delivery)).toList,
        keys.foldl remove map) := by
  induction keys generalizing map with
  | nil => rfl
  | cons key rest ih =>
    obtain ⟨fresh, rest_distinct⟩ := List.nodup_cons.mp distinct
    have found : ∀ other ∈ rest,
        (((map.remove key).lookup other).map (·.delivery)).toList =
          ((map.lookup other).map (·.delivery)).toList := by
      intro other listed
      have different : other ≠ key := fun same => fresh (same ▸ listed)
      rw [lookup_remove different]
    rw [takeEach, ih rest_distinct, List.flatMap_cons, List.foldl_cons, List.flatMap_congr found]

theorem serve_removeOutstanding :
    (of table.entries).serve .removeOutstanding =
      ((table.serve .removeOutstanding).1, of (table.serve .removeOutstanding).2.entries) := by
  let outstanding := table.keep (!·.ackPending)
  have keys : ((of table.entries).filter (!·.2.ackPending)).map (·.1) = outstanding.tags := by
    rw [filter_of, keys_of]
    rfl
  have distinct : outstanding.tags.Nodup := outstanding.pairwise_tags.imp Nat.ne_of_lt
  have deliveries : (outstanding.tags.flatMap fun key =>
      (((of table.entries).lookup key).map (·.delivery)).toList) = table.removeOutstanding.1 := by
    -- A collected key still has its entry, since it is removed once.
    rw [UnackedTable.tags, List.flatMap_map, UnackedTable.removeOutstanding, List.map_eq_flatMap]
    apply List.flatMap_congr
    intro entry listed
    have found := UnackedTable.find?_eq_some_iff.mpr ⟨(List.mem_filter.mp listed).1, rfl⟩
    rw [lookup_of_entries, found]
    rfl
  have left : outstanding.tags.foldl removeTag table.entries =
      table.removeOutstanding.2.entries := by
    rw [UnackedTable.foldl_removeTag]
    apply List.filter_congr
    intro entry member
    rw [Bool.eq_iff_iff, decide_eq_true_iff, UnackedTable.mem_tags_iff,
      table.contains_keep _ member]
    cases entry.ackPending <;> decide
  rw [serve, keys, takeEach_eq distinct, deliveries, foldl_remove_of, left]
  rfl

end Calls

/-- On a map whose keys are the tags a call does what it does to the table, and the keys stay the
tags. -/
theorem serve_of {table : UnackedTable M}
    (bounded : ∀ entry ∈ table.entries, entry.tag ≤ Tag.largest) (call : TableCall M) :
    (of table.entries).serve call =
      ((table.serve call).1, of (table.serve call).2.entries) := by
  cases call with
  | enter delivery => exact serve_enter table delivery
  | settle tag multiple => exact serve_settle table tag multiple bounded
  | postpone tag multiple => exact serve_postpone table tag multiple
  | settlePending tag multiple => exact serve_settlePending table tag multiple
  | release =>
    have released := map_of table.entries (fun entry => { entry with ackPending := false })
      fun _ => rfl
    have count : (of table.entries).countP (·.2.ackPending) = table.pendingCount :=
      List.countP_map ..
    rw [serve, released, count]
    rfl
  | removeAll =>
    rw [serve, of, List.map_map]
    rfl
  | removeOutstanding => exact serve_removeOutstanding table
  | handOutAgain =>
    rw [serve, handOutAgain_of]
    rfl

end KeyedEntries

end MessageBroker
