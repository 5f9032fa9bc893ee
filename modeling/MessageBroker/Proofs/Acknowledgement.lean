import MessageBroker.Proofs.Bookkeeping

/-!
# What an acknowledgement takes

Which tags an acknowledgement may name, and which entries of the table it selects, said without the
functions that check and select. A multiple acknowledgement may name 0 or any tag issued so far,
whether its delivery is still in the table or not; a single one must name a delivery of the table
that is not pending (`Channel.Accepts`).

The checks run on different data in the two modes. Outside a transaction a single tag is looked up
and no flag is read; that nothing is pending there (`Bookkeeping.idle`) makes the two modes accept
the same tags. As tags ascend, a multiple acknowledgement may cut the table at one point or walk it
up to there, and it takes what it selects (`UnackedTable.above_eq_filter`,
`UnackedTable.map_flagBy_eq`). `Channel.ack_takes_selected` is the whole account.
-/

set_option autoImplicit false

namespace MessageBroker

variable {M : Type}

/-! ## What is selected -/

/-- The tags an acknowledgement selects: its own or, when it is multiple, every tag up to its own,
and every tag at all when its own is 0. -/
def Selects (tag : Nat) : Bool → Nat → Prop
  | true, candidate => tag = 0 ∨ candidate ≤ tag
  | false, candidate => candidate = tag

instance (tag : Nat) (multiple : Bool) (candidate : Nat) :
    Decidable (Selects tag multiple candidate) :=
  match multiple with
  | true => inferInstanceAs (Decidable (tag = 0 ∨ candidate ≤ tag))
  | false => inferInstanceAs (Decidable (candidate = tag))

theorem covers_iff_selects {tag candidate : Nat} {multiple : Bool} :
    covers tag multiple candidate = true ↔ Selects tag multiple candidate := by
  cases multiple with
  | true => exact covers_multiple
  | false => exact covers_single

/-- An acknowledgement changes the entries that it selects and that are not pending yet. -/
theorem UnackedDelivery.flagBy_eq (tag : Nat) (multiple : Bool) (entry : UnackedDelivery M) :
    entry.flagBy tag multiple =
      if Selects tag multiple entry.tag ∧ entry.ackPending = false then
        { entry with ackPending := true }
      else entry := by
  unfold flagBy
  by_cases selected : Selects tag multiple entry.tag
  · rw [if_pos (covers_iff_selects.mpr selected)]
    obtain ⟨delivery, ackPending⟩ := entry
    cases ackPending with
    | false => rw [if_pos ⟨selected, rfl⟩]
    | true =>
      -- The flag is set already.
      rw [if_neg fun both => Bool.noConfusion both.2]
  · have unselected : ¬ (Selects tag multiple entry.tag ∧ entry.ackPending = false) :=
      fun both => selected both.1
    rw [if_neg fun covered => selected (covers_iff_selects.mp covered), if_neg unselected]

/-- What a multiple acknowledgement selects has nothing but selected tags below it. -/
theorem selects_of_le {tag smaller larger : Nat} (selected : Selects tag true larger)
    (le : smaller ≤ larger) : Selects tag true smaller := by
  rcases selected with all | below
  · exact .inl all
  · exact .inr (Nat.le_trans le below)

namespace UnackedTable

/-- The first entries of a table, as far as a multiple acknowledgement goes. -/
def upTo (table : UnackedTable M) (tag : Nat) : List (UnackedDelivery M) :=
  table.entries.takeWhile fun entry => Selects tag true entry.tag

/-- The entries of a table behind them. -/
def above (table : UnackedTable M) (tag : Nat) : List (UnackedDelivery M) :=
  table.entries.dropWhile fun entry => Selects tag true entry.tag

/-- A multiple acknowledgement cuts a table in two: no tag behind the cut is selected. -/
theorem above_eq_filter (table : UnackedTable M) (tag : Nat) :
    table.above tag = table.entries.filter fun entry => ¬ Selects tag true entry.tag := by
  obtain ⟨entries, ascending⟩ := table
  simp only [above]
  induction ascending with
  | nil => rfl
  | @cons first rest below _ ih =>
    by_cases selected : Selects tag true first.tag
    · rw [List.dropWhile_cons, List.filter_cons, if_pos (decide_eq_true selected), ih,
        if_neg (by simpa using selected)]
    · -- Tags ascend, so nothing after an entry that is not selected is selected.
      have later : ∀ entry ∈ rest, ¬ Selects tag true entry.tag := by
        intro entry member other
        exact selected (selects_of_le other (Nat.le_of_lt (below entry member)))
      have rest_left : rest.filter (fun entry => ¬ Selects tag true entry.tag) = rest := by
        apply List.filter_eq_self.mpr
        intro entry member
        exact decide_eq_true (later entry member)
      rw [List.dropWhile_cons, List.filter_cons, if_neg (by simpa using selected),
        if_pos (decide_eq_true selected), rest_left]

/-- What leaves the table is what is selected. -/
theorem entries_left (table : UnackedTable M) (tag : Nat) (multiple : Bool) :
    (table.keep fun entry => !covers tag multiple entry.tag).entries =
      table.entries.filter fun entry => ¬ Selects tag multiple entry.tag := by
  rw [entries_keep]
  apply List.filter_congr
  intro entry _
  rw [Bool.eq_iff_iff, Bool.not_eq_true', ← Bool.not_eq_true, covers_iff_selects,
    decide_eq_true_iff]

theorem upTo_append_above (table : UnackedTable M) (tag : Nat) :
    table.upTo tag ++ table.above tag = table.entries :=
  List.takeWhile_append_dropWhile

/-- What a multiple acknowledgement flags stands before the cut. -/
theorem map_flagBy_eq (table : UnackedTable M) (tag : Nat) :
    table.entries.map (·.flagBy tag true) =
      (table.upTo tag).map (fun entry => { entry with ackPending := true }) ++ table.above tag := by
  have flags : ∀ entry ∈ table.upTo tag,
      entry.flagBy tag true = { entry with ackPending := true } := by
    intro entry member
    have selected := List.all_eq_true.mp List.all_takeWhile entry member
    exact if_pos (covers_iff_selects.mpr (of_decide_eq_true selected))
  have leaves : ∀ entry ∈ table.above tag, entry.flagBy tag true = entry := by
    intro entry member
    rw [above_eq_filter] at member
    have unselected := of_decide_eq_true (List.mem_filter.mp member).2
    exact if_neg fun covered => unselected (covers_iff_selects.mp covered)
  rw [← table.upTo_append_above tag, List.map_append, List.map_congr_left flags,
    List.map_congr_left leaves, List.map_id']

end UnackedTable

namespace Channel

/-- The tags a channel accepts in an acknowledgement. -/
def Accepts (channel : Channel M) (tag : Nat) : Bool → Prop
  | true => tag = 0 ∨ (1 ≤ tag ∧ tag ≤ channel.tags.last)
  | false => ∃ entry ∈ channel.unacked.entries, entry.tag = tag ∧ entry.ackPending = false

instance (channel : Channel M) (tag : Nat) (multiple : Bool) :
    Decidable (channel.Accepts tag multiple) :=
  match multiple with
  | true => inferInstanceAs (Decidable (tag = 0 ∨ (1 ≤ tag ∧ tag ≤ channel.tags.last)))
  | false => inferInstanceAs
      (Decidable (∃ entry ∈ channel.unacked.entries, entry.tag = tag ∧ entry.ackPending = false))

/-- The channel after an acknowledgement outside a transaction. -/
structure Removed (channel : Channel M) (tag : Nat) (multiple : Bool) (after : Channel M) :
    Prop where
  entries : after.unacked.entries =
    channel.unacked.entries.filter fun entry => ¬ Selects tag multiple entry.tag
  cut : multiple = true → after.unacked.entries = channel.unacked.above tag
  rest : after = { channel with unacked := after.unacked }

/-- The channel after an acknowledgement inside a transaction. -/
structure Flagged (channel : Channel M) (tag : Nat) (multiple : Bool) (after : Channel M) :
    Prop where
  entries : after.unacked.entries = channel.unacked.entries.map fun entry =>
    if Selects tag multiple entry.tag ∧ entry.ackPending = false then
      { entry with ackPending := true }
    else entry
  cut : multiple = true → after.unacked.entries =
    (channel.unacked.upTo tag).map (fun entry => { entry with ackPending := true }) ++
      channel.unacked.above tag
  deferred : after.buffer.effects = channel.buffer.effects ++ [.ack tag multiple]
  rest : after = { channel with unacked := after.unacked, buffer := after.buffer }

/-- What an accepted acknowledgement makes of a channel. -/
structure Acknowledged (channel : Channel M) (tag : Nat) (multiple : Bool) (after : Channel M) :
    Prop where
  outside : channel.mode = .immediate → channel.Removed tag multiple after
  inside : channel.mode = .transactional → channel.Flagged tag multiple after

variable {channel : Channel M}

/-! ## The checks -/

/-- Outside a transaction a tag of the table is never pending. -/
theorem Bookkeeping.contains_iff_of_immediate (books : channel.Bookkeeping)
    (immediate : channel.mode = .immediate) (tag : Nat) :
    channel.unacked.contains tag = true ↔ channel.Accepts tag false := by
  have outside : channel.mode ≠ .transactional := by
    rw [immediate]
    decide
  rw [UnackedTable.contains_iff]
  constructor
  · rintro ⟨entry, member, named⟩
    exact ⟨entry, member, named, (books.idle outside).2 entry member⟩
  · rintro ⟨entry, member, named, _⟩
    exact ⟨entry, member, named⟩

/-- One of the two checks fails exactly when the tag is not accepted. The second check looks a
single tag up, and `present` stands for what it finds in either mode. -/
theorem checks_fail_iff {tag : Nat} {present : Bool}
    (single : present = true ↔ channel.Accepts tag false) (multiple : Bool) :
    ((multiple && !Tag.isAll tag && !channel.tags.hasIssued tag) || !(multiple || present)) =
        true ↔ ¬ channel.Accepts tag multiple := by
  cases multiple with
  | false =>
    rw [← single]
    simp only [Bool.false_and, Bool.false_or, Bool.not_eq_true', Bool.not_eq_true]
  | true =>
    have issued : channel.tags.hasIssued tag = true ↔ 0 < tag ∧ tag ≤ channel.tags.last :=
      TagCounter.hasIssued_iff
    simp only [Bool.true_and, Bool.true_or, Bool.not_true, Bool.or_false, Bool.and_eq_true,
      Bool.not_eq_true', ← Bool.not_eq_true, issued]
    simp only [Accepts, Tag.isAll, Tag.all, beq_iff_eq, not_or, Nat.succ_le_iff]

/-! ## The effect -/

theorem removed_keep (channel : Channel M) (tag : Nat) (multiple : Bool) :
    channel.Removed tag multiple
      { channel with
        unacked := channel.unacked.keep fun entry => !covers tag multiple entry.tag } where
  entries := channel.unacked.entries_left tag multiple
  cut isMultiple := by
    subst isMultiple
    rw [channel.unacked.above_eq_filter tag]
    exact channel.unacked.entries_left tag true
  rest := rfl

theorem flagged_postponed (channel : Channel M) (tag : Nat) (multiple : Bool) :
    channel.Flagged tag multiple
      { channel with
        unacked := channel.unacked.postponed tag multiple
        buffer := channel.buffer.deferAck tag multiple } where
  entries := by
    rw [UnackedTable.postponed, UnackedTable.entries_adjust]
    apply List.map_congr_left
    intro entry _
    exact entry.flagBy_eq tag multiple
  cut isMultiple := by
    subst isMultiple
    exact channel.unacked.map_flagBy_eq tag
  deferred := rfl
  rest := rfl

/-- An acknowledgement is accepted with its effect or refused by the name of its tag. -/
theorem Bookkeeping.serve_ack (books : channel.Bookkeeping) (isOpen : channel.isOpen = true)
    (store : Store M) (tag : Nat) (multiple : Bool) :
    ∃ after, channel.Acknowledged tag multiple after ∧
      channel.serve store (.ack tag multiple) =
        if channel.Accepts tag multiple then (.done, after, store)
        else (.failed (.unknownDeliveryTag tag), channel, store) := by
  by_cases transactional : channel.mode = .transactional
  · have outside : channel.mode ≠ .immediate := by
      rw [transactional]
      decide
    have flagged := channel.flagged_postponed tag multiple
    refine ⟨_, ⟨fun immediate => absurd immediate outside, fun _ => flagged⟩, ?_⟩
    have single : (channel.unacked.contains tag && !channel.unacked.isPending tag) = true ↔
        channel.Accepts tag false := UnackedTable.contains_and_not_isPending_iff
    have checks := checks_fail_iff single multiple
    rw [channel.serve_ack_of_transactional store transactional]
    simp only [checks, ite_not]
  · have immediate := channel.immediate_of_isOpen isOpen transactional
    have removed := channel.removed_keep tag multiple
    refine ⟨_, ⟨fun _ => removed, fun inside => absurd inside transactional⟩, ?_⟩
    have single := books.contains_iff_of_immediate immediate tag
    have checks := checks_fail_iff single multiple
    rw [channel.serve_ack_of_immediate store immediate]
    simp only [checks, ite_not]

/-- **Exactly which acknowledgements are accepted, and what they take.** On every store a reachable
open channel answers an acknowledgement it accepts with success: outside a transaction the selected
entries leave the table, inside one those that were not pending are flagged and the acknowledgement
is deferred, and nothing else changes. It refuses any other tag by name and stays as it is. -/
theorem ack_takes_selected (reachable : channel.Reachable) (isOpen : channel.isOpen = true)
    (store : Store M) (tag : Nat) (multiple : Bool) :
    ((channel.serve store (.ack tag multiple)).1 = .done ↔ channel.Accepts tag multiple) ∧
      (channel.Accepts tag multiple → ∃ after,
        channel.serve store (.ack tag multiple) = (.done, after, store) ∧
          channel.Acknowledged tag multiple after) ∧
      (¬ channel.Accepts tag multiple → channel.serve store (.ack tag multiple) =
        (.failed (.unknownDeliveryTag tag), channel, store)) := by
  have books := bookkeeping_of_reachable reachable
  obtain ⟨after, acknowledged, eq⟩ := books.serve_ack isOpen store tag multiple
  by_cases accepted : channel.Accepts tag multiple
  · rw [if_pos accepted] at eq
    rw [eq]
    refine ⟨?_, ?_, ?_⟩
    · constructor
      · intro _
        exact accepted
      · intro _
        rfl
    · intro _
      exact ⟨after, rfl, acknowledged⟩
    · intro refused
      exact absurd accepted refused
  · rw [if_neg accepted] at eq
    rw [eq]
    refine ⟨?_, ?_, ?_⟩
    · constructor
      · intro done
        cases done
      · intro other
        exact absurd other accepted
    · intro other
      exact absurd other accepted
    · intro _
      rfl

/-- Two channels whose second delivery is settled, one of them in a transaction with the first one
pending: tags that are absent, pending, issued last, larger or 0. -/
theorem ack_takes_selected_of_absent_tag :
    let filled : Store Nat := ((Store.empty.declare "q").2.enqueueAll
      [(10, "q"), (20, "q"), (30, "q")]).2
    let taken : List (Request Nat) :=
      [.get "q" false, .get "q" false, .get "q" false, .ack 2 false]
    let immediate := ((Channel.new "A").serveAll filled taken).2.1
    let transactional := ((Channel.new "A").serveAll filled (taken ++ [.select, .ack 1 false])).2.1
    (immediate.Reachable ∧ immediate.isOpen = true ∧ immediate.Accepts 0 true ∧
      ¬ immediate.Accepts 0 false ∧ ¬ immediate.Accepts Tag.largest true ∧
      ∃ after, immediate.serve filled (.ack 2 true) = (.done, after, filled) ∧
        immediate.Acknowledged 2 true after ∧
        immediate.serve filled (.ack 2 false) =
          (.failed (.unknownDeliveryTag 2), immediate, filled)) ∧
    (transactional.Reachable ∧ transactional.isOpen = true ∧ transactional.Accepts 3 false ∧
      ¬ transactional.Accepts 4 true ∧
      ∃ after, transactional.serve filled (.ack 3 true) = (.done, after, filled) ∧
        transactional.Acknowledged 3 true after ∧
        transactional.serve filled (.ack 1 false) =
          (.failed (.unknownDeliveryTag 1), transactional, filled)) := by
  intro filled taken immediate transactional
  constructor
  · have reachable : immediate.Reachable := (Reachable.opened "A").serveAll filled _
    have isOpen : immediate.isOpen = true := by decide
    obtain ⟨_, accepted, _⟩ := ack_takes_selected reachable isOpen filled 2 true
    obtain ⟨_, _, refused⟩ := ack_takes_selected reachable isOpen filled 2 false
    obtain ⟨after, eq, acknowledged⟩ := accepted (by decide)
    refine ⟨reachable, isOpen, by decide, by decide, by decide, ?_⟩
    exact ⟨after, eq, acknowledged, refused (by decide)⟩
  · have reachable : transactional.Reachable := (Reachable.opened "A").serveAll filled _
    have isOpen : transactional.isOpen = true := by decide
    obtain ⟨_, accepted, _⟩ := ack_takes_selected reachable isOpen filled 3 true
    obtain ⟨_, _, refused⟩ := ack_takes_selected reachable isOpen filled 1 false
    obtain ⟨after, eq, acknowledged⟩ := accepted (by decide)
    refine ⟨reachable, isOpen, by decide, by decide, ?_⟩
    exact ⟨after, eq, acknowledged, refused (by decide)⟩

end Channel

end MessageBroker
