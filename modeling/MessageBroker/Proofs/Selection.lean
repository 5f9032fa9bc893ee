import MessageBroker.Proofs.Acknowledgement
import MessageBroker.Proofs.Rollback

/-!
# Acknowledgements at once and in two steps

Outside a transaction an acknowledgement removes entries of the table at once. Inside one it flags
them, and the flagged ones are removed at the commit or released by the rollback. Both must select
the same entries, but they are carried out differently: the first cuts the table behind the tag
(`settleByCut`), the others walk it from the front as far as the tag, and what is to be removed is
removed tag by tag (`postponeByWalk`, `settlePendingByWalk`). There is no place to cut behind the
largest tag, and 0 is a tag like any other in the table but selects everything when it is named by a
multiple acknowledgement.

`UnackedTable.two_steps_eq_one` states what each way takes and that they agree.
-/

set_option autoImplicit false

namespace MessageBroker

variable {M : Type}

/-! ## The operations step by step -/

/-- The tag that follows, unless this one is the largest. -/
def Tag.successor? (tag : Nat) : Option Nat := if tag < Tag.largest then some (tag + 1) else none

/-- Removes the entry under a tag. -/
def removeTag (entries : List (UnackedDelivery M)) (tag : Nat) : List (UnackedDelivery M) :=
  entries.filter (·.tag ≠ tag)

/-- Flags entries from the front on as far as a test goes, and says which had no flag. -/
def flagWhile (inReach : UnackedDelivery M → Bool) :
    List (UnackedDelivery M) → List Nat × List (UnackedDelivery M)
  | [] => ([], [])
  | entry :: rest =>
    if inReach entry then
      let (marked, flagged) := flagWhile inReach rest
      if entry.ackPending then (marked, entry :: flagged)
      else (entry.tag :: marked, { entry with ackPending := true } :: flagged)
    else ([], entry :: rest)

namespace UnackedTable

/-- The entries before a cut behind the tag, and those after it. For 0, and where nothing can follow
the tag, everything is before the cut. -/
def cutBehind (table : UnackedTable M) (tag : Nat) :
    List (UnackedDelivery M) × List (UnackedDelivery M) :=
  if Tag.isAll tag then (table.entries, [])
  else match Tag.successor? tag with
    | some bound => table.entries.partition (·.tag < bound)
    | none => (table.entries, [])

/-- Removes what an acknowledgement selects: one entry, or all before a cut. -/
def settleByCut (table : UnackedTable M) (tag : Nat) (multiple : Bool) :
    Except BrokerError (List Nat) × List (UnackedDelivery M) :=
  if multiple then
    let (removed, left) := table.cutBehind tag
    (.ok (removed.map (·.tag)), left)
  else match table.find? tag with
    | some _ => (.ok [tag], removeTag table.entries tag)
    | none => (.error (.unknownDeliveryTag tag), table.entries)

/-- Flags what an acknowledgement selects: one entry, or all that a walk comes to. -/
def postponeByWalk (table : UnackedTable M) (tag : Nat) (multiple : Bool) :
    Except BrokerError (List Nat) × List (UnackedDelivery M) :=
  if multiple then
    let (marked, flagged) := flagWhile (fun entry => Selects tag true entry.tag) table.entries
    (.ok marked, flagged)
  else match table.find? tag with
    | some entry =>
      if entry.ackPending then (.error (.unknownDeliveryTag tag), table.entries)
      else (.ok [tag], table.entries.map fun entry =>
        if entry.tag = tag then { entry with ackPending := true } else entry)
    | none => (.error (.unknownDeliveryTag tag), table.entries)

/-- Collects the flagged tags an acknowledgement selects, and removes them one by one. -/
def settlePendingByWalk (table : UnackedTable M) (tag : Nat) (multiple : Bool) :
    List Nat × List (UnackedDelivery M) :=
  let tags :=
    if multiple then ((table.upTo tag).filter (·.ackPending)).map (·.tag)
    else match table.find? tag with
      | some entry => if entry.ackPending then [tag] else []
      | none => []
  (tags, tags.foldl removeTag table.entries)

/-- What an operation answers and the entries it leaves; a refused one leaves them all. -/
def outcome (table : UnackedTable M) : Except BrokerError (List Nat × UnackedTable M) →
    Except BrokerError (List Nat) × List (UnackedDelivery M)
  | .ok (tags, after) => (.ok tags, after.entries)
  | .error error => (.error error, table.entries)

/-! ## What they select -/

section Single

variable (table : UnackedTable M) (tag : Nat)

/-- There is one entry under a tag, or none. -/
theorem filter_covers_single :
    table.entries.filter (fun entry => covers tag false entry.tag) =
      (table.find? tag).toList := by
  obtain ⟨entries, ascending⟩ := table
  simp only [find?]
  induction ascending with
  | nil => rfl
  | @cons first rest below _ ih =>
    rw [List.filter_cons, List.find?_cons]
    by_cases named : first.tag = tag
    · -- Tags ascend, so the entries after the named one have other tags.
      have others : rest.filter (fun entry => covers tag false entry.tag) = [] := by
        apply List.filter_eq_nil_iff.mpr
        intro entry member selected
        have later := below entry member
        rw [covers_single.mp selected, named] at later
        exact Nat.lt_irrefl tag later
      rw [if_pos (covers_single.mpr named), others, beq_iff_eq.mpr named]
      rfl
    · rw [if_neg fun selected => named (covers_single.mp selected), ih,
        beq_eq_false_iff_ne.mpr named]

/-- A single acknowledgement that also tests the entry. -/
theorem tags_keep_single (test : UnackedDelivery M → Bool) :
    (table.keep fun entry => covers tag false entry.tag && test entry).tags =
      if (table.find? tag).any test then [tag] else [] := by
  rw [tags, entries_keep]
  have twice : table.entries.filter (fun entry => covers tag false entry.tag && test entry) =
      (table.find? tag).toList.filter test := by
    rw [← filter_covers_single, List.filter_filter]
    congr 1
    funext entry
    exact Bool.and_comm _ _
  rw [twice]
  cases found : table.find? tag with
  | none => rfl
  | some entry =>
    obtain ⟨_, rfl⟩ := find?_eq_some_iff.mp found
    rw [Option.toList_some, List.filter_cons, List.filter_nil, Option.any_some]
    cases test entry <;> rfl

end Single

section Multiple

variable (table : UnackedTable M) (tag : Nat)

theorem covers_eq_decide (tag : Nat) (multiple : Bool) (candidate : Nat) :
    covers tag multiple candidate = decide (Selects tag multiple candidate) := by
  rw [Bool.eq_iff_iff, covers_iff_selects, decide_eq_true_iff]

/-- As tags ascend, what is selected comes first. -/
theorem upTo_eq_filter :
    table.upTo tag = table.entries.filter fun entry => covers tag true entry.tag := by
  have selected : ∀ entry ∈ table.upTo tag, covers tag true entry.tag = true := by
    intro entry member
    rw [covers_eq_decide]
    exact List.all_eq_true.mp List.all_takeWhile entry member
  have unselected : ∀ entry ∈ table.above tag, ¬ covers tag true entry.tag = true := by
    intro entry member
    rw [above_eq_filter] at member
    rw [covers_iff_selects]
    exact of_decide_eq_true (List.mem_filter.mp member).2
  rw [← table.upTo_append_above tag, List.filter_append, List.filter_eq_self.mpr selected,
    List.filter_eq_nil_iff.mpr unselected, List.append_nil]

/-- A walk stops where the test fails first, whatever comes after. -/
theorem flagWhile_eq (inReach : UnackedDelivery M → Bool) (entries : List (UnackedDelivery M)) :
    flagWhile inReach entries =
      (((entries.takeWhile inReach).filter (!·.ackPending)).map (·.tag),
        (entries.takeWhile inReach).map (fun entry => { entry with ackPending := true }) ++
          entries.dropWhile inReach) := by
  induction entries with
  | nil => rfl
  | cons entry rest ih =>
    rw [flagWhile, List.takeWhile_cons, List.dropWhile_cons, ih]
    cases reached : inReach entry with
    | false => rfl
    | true =>
      obtain ⟨delivery, ackPending⟩ := entry
      cases ackPending <;> rfl

end Multiple

section Steps

variable (table : UnackedTable M) (tag : Nat) (multiple : Bool)

/-- A test that can be read off an entry before it is flagged. -/
theorem filter_map_flagBy {test before : UnackedDelivery M → Bool}
    (same : ∀ entry, test (entry.flagBy tag multiple) = before entry)
    (entries : List (UnackedDelivery M)) :
    (entries.map (·.flagBy tag multiple)).filter test =
      (entries.filter before).map (·.flagBy tag multiple) := by
  rw [List.filter_map]
  congr 1
  exact List.filter_congr fun entry _ => same entry

/-- The flags that an acknowledgement sets lead a second one with the same tag to the entries that
the first selected. -/
theorem settlePending_postponed :
    (table.postponed tag multiple).settlePending tag multiple =
      ((table.keep fun entry => covers tag multiple entry.tag).tags,
        table.keep fun entry => !covers tag multiple entry.tag) := by
  have found : ∀ entry : UnackedDelivery M,
      (covers tag multiple (entry.flagBy tag multiple).tag &&
        (entry.flagBy tag multiple).ackPending) = covers tag multiple entry.tag := by
    intro entry
    rw [UnackedDelivery.tag_flagBy, UnackedDelivery.ackPending_flagBy]
    cases covers tag multiple entry.tag <;> rfl
  -- What is left was not selected, so it carries the flag it had.
  have kept : ∀ entry ∈ table.entries.filter (fun entry => !covers tag multiple entry.tag),
      entry.flagBy tag multiple = entry := by
    intro entry member
    have unselected := (List.mem_filter.mp member).2
    rw [Bool.not_eq_true'] at unselected
    apply if_neg
    rw [unselected]
    exact Bool.false_ne_true
  apply Prod.ext
  · show ((table.entries.map _).filter _).map _ = (table.entries.filter _).map _
    rw [filter_map_flagBy tag multiple found, List.map_map]
    exact List.map_congr_left fun entry _ => entry.tag_flagBy tag multiple
  · apply UnackedTable.ext
    show (table.entries.map _).filter _ = table.entries.filter _
    rw [filter_map_flagBy tag multiple fun entry => congrArg not (found entry),
      List.map_congr_left kept, List.map_id']

theorem postpone_eq :
    table.postpone tag multiple =
      if multiple || (table.contains tag && !table.isPending tag) then
        .ok ((table.keep fun entry => covers tag multiple entry.tag && !entry.ackPending).tags,
          table.postponed tag multiple)
      else .error (.unknownDeliveryTag tag) := rfl

/-- A rollback of the first step leaves a table without flags as it was. -/
theorem release_postponed_of_not_pending
    (unflagged : ∀ entry ∈ table.entries, entry.ackPending = false) :
    (table.postponed tag multiple).release =
      ((table.keep fun entry => covers tag multiple entry.tag && !entry.ackPending).tags.length,
        table) := by
  have marked : ∀ entry ∈ table.entries,
      (covers tag multiple entry.tag && !entry.ackPending) =
        (entry.flagBy tag multiple).ackPending := by
    intro entry member
    rw [UnackedDelivery.ackPending_flagBy, unflagged entry member, Bool.not_false, Bool.and_true,
      Bool.or_false]
  apply Prod.ext
  · show (table.entries.map _).countP _ = ((table.entries.filter _).map _).length
    rw [List.countP_map, List.length_map, List.filter_congr marked, ← List.countP_eq_length_filter]
    rfl
  · rw [release_postponed, release_of_not_pending unflagged]

end Steps

/-! ## The steps as operations of the table -/

section Algorithms

variable (table : UnackedTable M) (tag : Nat) (multiple : Bool)

theorem filter_of_all_selected
    (selected : ∀ entry ∈ table.entries, covers tag true entry.tag = true) :
    table.entries.filter (fun entry => covers tag true entry.tag) = table.entries ∧
      table.entries.filter (fun entry => !covers tag true entry.tag) = [] := by
  constructor
  · exact List.filter_eq_self.mpr selected
  · apply List.filter_eq_nil_iff.mpr
    intro entry member
    rw [selected entry member]
    exact Bool.false_ne_true

/-- The cut separates what a multiple acknowledgement selects from the rest. -/
theorem cutBehind_eq (bounded : ∀ entry ∈ table.entries, entry.tag ≤ Tag.largest) :
    table.cutBehind tag =
      (table.entries.filter (fun entry => covers tag true entry.tag),
        table.entries.filter (fun entry => !covers tag true entry.tag)) := by
  rw [cutBehind]
  by_cases all : Tag.isAll tag = true
  · have selected : ∀ entry ∈ table.entries, covers tag true entry.tag = true := by
      intro entry _
      exact covers_multiple.mpr (.inl (beq_iff_eq.mp all))
    obtain ⟨whole, nothing⟩ := table.filter_of_all_selected tag selected
    rw [if_pos all, whole, nothing]
  · rw [if_neg all, Tag.successor?]
    by_cases room : tag < Tag.largest
    · -- Before the cut stand the tags that are smaller than the next one.
      have before : ∀ entry : UnackedDelivery M,
          decide (entry.tag < tag + 1) = covers tag true entry.tag := by
        intro entry
        rw [Bool.eq_iff_iff, decide_eq_true_iff, covers_multiple, Nat.lt_succ_iff]
        constructor
        · exact .inr
        · intro selected
          rcases selected with zero | below
          · exact absurd (beq_iff_eq.mpr zero) all
          · exact below
      rw [if_pos room]
      show table.entries.partition _ = _
      rw [List.partition_eq_filter_filter]
      apply Prod.ext
      · exact List.filter_congr fun entry _ => before entry
      · exact List.filter_congr fun entry _ => congrArg not (before entry)
    · have selected : ∀ entry ∈ table.entries, covers tag true entry.tag = true := by
        intro entry member
        have below := bounded entry member
        exact covers_multiple.mpr (.inr (by omega))
      obtain ⟨whole, nothing⟩ := table.filter_of_all_selected tag selected
      rw [if_neg room, whole, nothing]

theorem settleByCut_eq (bounded : ∀ entry ∈ table.entries, entry.tag ≤ Tag.largest) :
    table.settleByCut tag multiple = table.outcome (table.settle tag multiple) := by
  cases multiple with
  | true =>
    rw [settleByCut, if_pos rfl, table.cutBehind_eq tag bounded]
    rfl
  | false =>
    have single := table.tags_keep_single tag fun _ => true
    simp only [Bool.and_true] at single
    have removed : removeTag table.entries tag =
        table.entries.filter fun entry => !covers tag false entry.tag := by
      apply List.filter_congr
      intro entry _
      rw [covers_eq_decide, ← decide_not]
      rfl
    rw [settleByCut, settle, contains]
    cases found : table.find? tag with
    | none => rfl
    | some entry =>
      rw [found] at single
      show (Except.ok [tag], removeTag table.entries tag) = (Except.ok _, _)
      rw [removed, single]
      rfl

theorem postponeByWalk_eq :
    table.postponeByWalk tag multiple = table.outcome (table.postpone tag multiple) := by
  rw [postpone_eq]
  cases multiple with
  | true =>
    have marked : ((table.upTo tag).filter (!·.ackPending)).map (·.tag) =
        (table.keep fun entry => covers tag true entry.tag && !entry.ackPending).tags := by
      rw [upTo_eq_filter, List.filter_filter, tags, entries_keep]
      simp only [Bool.and_comm]
    have flagged := table.map_flagBy_eq tag
    show (Except.ok (flagWhile _ table.entries).1, (flagWhile _ table.entries).2) = (Except.ok _, _)
    rw [flagWhile_eq]
    exact Prod.ext (congrArg Except.ok marked) flagged.symm
  | false =>
    have marked := table.tags_keep_single tag (!·.ackPending)
    have flagged : ∀ entry : UnackedDelivery M,
        (if entry.tag = tag then { entry with ackPending := true } else entry) =
          entry.flagBy tag false := by
      intro entry
      rw [UnackedDelivery.flagBy]
      simp only [covers_single]
    rw [postponeByWalk, contains, isPending]
    cases found : table.find? tag with
    | none => rfl
    | some entry =>
      rw [found, Option.any_some] at marked
      have all_flagged := List.map_congr_left (l := table.entries) fun entry _ => flagged entry
      show (if entry.ackPending = true then _ else (Except.ok [tag], table.entries.map _)) = _
      rw [all_flagged, Option.any_some]
      cases pending : entry.ackPending with
      | true => rfl
      | false =>
        rw [pending] at marked
        show (Except.ok [tag], _) = (Except.ok _, _)
        rw [marked]
        rfl

theorem mem_tags_iff {table : UnackedTable M} {key : Nat} :
    key ∈ table.tags ↔ table.contains key = true := by
  rw [contains_iff, tags, List.mem_map]

/-- Removing tags one by one. -/
theorem foldl_removeTag (entries : List (UnackedDelivery M)) (tags : List Nat) :
    tags.foldl removeTag entries = entries.filter (·.tag ∉ tags) := by
  induction tags generalizing entries with
  | nil => exact (List.filter_eq_self.mpr fun _ _ => decide_eq_true List.not_mem_nil).symm
  | cons tag rest ih =>
    rw [List.foldl_cons, ih, removeTag, List.filter_filter]
    apply List.filter_congr
    intro entry _
    rw [← Bool.decide_and, decide_eq_decide, List.mem_cons, not_or]
    exact And.comm

theorem settlePendingByWalk_eq :
    table.settlePendingByWalk tag multiple =
      ((table.settlePending tag multiple).1, (table.settlePending tag multiple).2.entries) := by
  let test : UnackedDelivery M → Bool := fun entry =>
    covers tag multiple entry.tag && entry.ackPending
  have collected : (table.settlePendingByWalk tag multiple).1 = (table.keep test).tags := by
    cases multiple with
    | true =>
      show ((table.upTo tag).filter (·.ackPending)).map (·.tag) = (table.entries.filter _).map _
      rw [upTo_eq_filter, List.filter_filter]
      simp only [test, Bool.and_comm]
    | false =>
      rw [tags_keep_single]
      cases found : table.find? tag with
      | none => simp [settlePendingByWalk, found]
      | some entry => simp [settlePendingByWalk, found]
  have left : (table.settlePendingByWalk tag multiple).2 =
      table.entries.filter fun entry => !test entry := by
    show (table.settlePendingByWalk tag multiple).1.foldl removeTag table.entries = _
    rw [collected, foldl_removeTag]
    apply List.filter_congr
    intro entry member
    rw [decide_not]
    congr 1
    rw [Bool.eq_iff_iff, decide_eq_true_iff, mem_tags_iff, table.contains_keep test member]
  exact Prod.ext collected left

end Algorithms

/-! ## One step and two -/

/-- What an acknowledgement takes from a table at once, and what it takes in two steps. -/
structure StepsAgree (table : UnackedTable M) (tag : Nat) : Prop where
  /-- A multiple one takes all tags up to its own, in order, and every tag if its own is 0. The
  first of the two steps passes over what is flagged. -/
  multiple : ∃ taken left marked flagged,
    table.settle tag true = .ok (taken, left) ∧ taken.Pairwise (· < ·) ∧
      (∀ key, key ∈ taken ↔ table.contains key = true ∧ (tag = 0 ∨ key ≤ tag)) ∧
      left.entries = table.entries.filter (fun entry => ¬ (tag = 0 ∨ entry.tag ≤ tag)) ∧
      table.postpone tag true = .ok (marked, flagged) ∧
      flagged.settlePending tag true = (taken, left) ∧
      marked = taken.filter (!table.isPending ·)
  single_accepted : (∃ marked flagged, table.postpone tag false = .ok (marked, flagged)) ↔
    table.contains tag = true ∧ table.isPending tag = false
  single : ∀ marked flagged, table.postpone tag false = .ok (marked, flagged) →
    marked = [tag] ∧ table.settle tag false = .ok (flagged.settlePending tag false)
  unknown : table.contains tag = false →
    table.settle tag false = .error (.unknownDeliveryTag tag) ∧
      table.postpone tag false = .error (.unknownDeliveryTag tag)
  /-- Where nothing is flagged, the first step can be taken back. -/
  released : (∀ entry ∈ table.entries, entry.ackPending = false) →
    table.release = (0, table) ∧ ∀ multiple marked flagged,
      table.postpone tag multiple = .ok (marked, flagged) → flagged.release = (marked.length, table)

section Agreement

variable (table : UnackedTable M) (tag : Nat)

theorem pairwise_tags : table.tags.Pairwise (· < ·) :=
  List.pairwise_map.mpr table.ascending

theorem isPending_of_mem {table : UnackedTable M} {entry : UnackedDelivery M}
    (member : entry ∈ table.entries) : table.isPending entry.tag = entry.ackPending := by
  have found := find?_eq_some_iff.mpr ⟨member, rfl⟩
  rw [isPending, found, Option.any_some]

/-- The first step marks the part of what is selected that has no flag. -/
theorem marked_eq_filter :
    (table.keep fun entry => covers tag true entry.tag && !entry.ackPending).tags =
      (table.keep fun entry => covers tag true entry.tag).tags.filter (!table.isPending ·) := by
  rw [tags, tags, List.filter_map, entries_keep, entries_keep, List.filter_filter]
  congr 1
  apply List.filter_congr
  intro entry member
  rw [Function.comp_apply, isPending_of_mem member, Bool.and_comm]

theorem eq_of_postpone {table flagged : UnackedTable M} {tag : Nat} {multiple : Bool}
    {marked : List Nat} (accepted : table.postpone tag multiple = .ok (marked, flagged)) :
    (multiple || (table.contains tag && !table.isPending tag)) = true ∧
      marked =
        (table.keep fun entry => covers tag multiple entry.tag && !entry.ackPending).tags ∧
      flagged = table.postponed tag multiple := by
  rw [postpone_eq] at accepted
  split at accepted
  · rename_i allowed
    cases accepted
    exact ⟨allowed, rfl, rfl⟩
  · cases accepted

/-- A tag that is in the table without a flag is the one that a single acknowledgement marks. -/
theorem marked_single (free : (table.contains tag && !table.isPending tag) = true) :
    (table.keep fun entry => covers tag false entry.tag && !entry.ackPending).tags = [tag] := by
  obtain ⟨entry, member, named, unflagged⟩ := contains_and_not_isPending_iff.mp free
  have found := find?_eq_some_iff.mpr ⟨member, named⟩
  rw [tags_keep_single, found, Option.any_some, unflagged]
  rfl

theorem stepsAgree : StepsAgree table tag := by
  constructor
  case multiple =>
    refine ⟨_, _, _, _, rfl, ?_, ?_, ?_, rfl, ?_, ?_⟩
    · exact pairwise_tags _
    · intro key
      rw [mem_tags_iff, contains_iff, contains_iff]
      constructor
      · rintro ⟨entry, kept, rfl⟩
        obtain ⟨member, selected⟩ := List.mem_filter.mp kept
        exact ⟨⟨entry, member, rfl⟩, covers_multiple.mp selected⟩
      · rintro ⟨⟨entry, member, rfl⟩, selected⟩
        exact ⟨entry, List.mem_filter.mpr ⟨member, covers_multiple.mpr selected⟩, rfl⟩
    · exact table.entries_left tag true
    · exact table.settlePending_postponed tag true
    · exact table.marked_eq_filter tag
  case single_accepted =>
    rw [← Bool.not_eq_true' (table.isPending tag), ← Bool.and_eq_true]
    constructor
    · rintro ⟨marked, flagged, accepted⟩
      obtain ⟨free, _, _⟩ := eq_of_postpone accepted
      exact free
    · intro free
      exact ⟨_, _, (table.postpone_eq tag false).trans (if_pos free)⟩
  case single =>
    intro marked flagged accepted
    obtain ⟨free, rfl, rfl⟩ := eq_of_postpone accepted
    rw [Bool.false_or] at free
    have present := (Bool.and_eq_true _ _).mp free
    rw [settle, present.1, settlePending_postponed]
    exact ⟨table.marked_single tag free, rfl⟩
  case unknown =>
    intro absent
    rw [settle, postpone_eq, absent]
    exact ⟨rfl, rfl⟩
  case released =>
    intro unflagged
    constructor
    · apply Prod.ext
      · apply List.countP_eq_zero.mpr
        intro entry member
        rw [unflagged entry member]
        exact Bool.false_ne_true
      · exact release_of_not_pending unflagged
    · intro multiple marked flagged accepted
      obtain ⟨_, rfl, rfl⟩ := eq_of_postpone accepted
      exact table.release_postponed_of_not_pending tag multiple unflagged

/-- **Both ways of acknowledging select alike**, whatever is in the table and in whatever way it is
flagged, and the cut and the walk that carry them out do what `settle`, `postpone` and
`settlePending` say. -/
theorem two_steps_eq_one (bounded : ∀ entry ∈ table.entries, entry.tag ≤ Tag.largest) :
    StepsAgree table tag ∧ ∀ multiple,
      table.settleByCut tag multiple = table.outcome (table.settle tag multiple) ∧
        table.postponeByWalk tag multiple = table.outcome (table.postpone tag multiple) ∧
        table.settlePendingByWalk tag multiple =
          ((table.settlePending tag multiple).1, (table.settlePending tag multiple).2.entries) := by
  constructor
  · exact table.stepsAgree tag
  · intro multiple
    refine ⟨?_, ?_, ?_⟩
    · exact table.settleByCut_eq tag multiple bounded
    · exact table.postponeByWalk_eq tag multiple
    · exact table.settlePendingByWalk_eq tag multiple

/-- A table in which 0 and the largest tag are outstanding and a tag between them is flagged. -/
theorem two_steps_eq_one_of_extreme_tags :
    let entry := fun (tag : Nat) (flag : Bool) =>
      (⟨⟨tag, tag + 10, "q", .get, false⟩, flag⟩ : UnackedDelivery Nat)
    let table : UnackedTable Nat :=
      ⟨[entry 0 false, entry 3 true, entry Tag.largest false], by decide⟩
    (∀ entry ∈ table.entries, entry.tag ≤ Tag.largest) ∧ StepsAgree table Tag.largest ∧
      table.outcome (table.settle Tag.largest true) = (.ok [0, 3, Tag.largest], []) ∧
      table.outcome (table.postpone Tag.largest true) =
        (.ok [0, Tag.largest], [entry 0 true, entry 3 true, entry Tag.largest true]) ∧
      table.outcome (table.settle 0 false) = (.ok [0], [entry 3 true, entry Tag.largest false]) ∧
      table.outcome (table.postpone 3 false) = (.error (.unknownDeliveryTag 3), table.entries) := by
  intro entry table
  have bounded : ∀ entry ∈ table.entries, entry.tag ≤ Tag.largest := by decide
  obtain ⟨agree, largest⟩ := two_steps_eq_one table Tag.largest bounded
  obtain ⟨cut, walk, _⟩ := largest true
  obtain ⟨single, _, _⟩ := (two_steps_eq_one table 0 bounded).2 false
  obtain ⟨_, refused, _⟩ := (two_steps_eq_one table 3 bounded).2 false
  refine ⟨bounded, agree, ?_, ?_, ?_, ?_⟩
  · exact cut.symm.trans rfl
  · exact walk.symm.trans rfl
  · exact single.symm.trans rfl
  · exact refused.symm.trans rfl

end Agreement

end UnackedTable

end MessageBroker
