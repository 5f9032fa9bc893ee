import Mathlib.Data.String.Basic
import MessageBroker.Message.Codec
import MessageBroker.Proofs.Layout

/-!
# Values read back

A document has more ways to state a value than the value is written in: members come in any order,
a key may come again, a number may have a point. What the value is written as states the value
again, within the same depth, if the value has no doubles (`Document.value?_document`). Members are
read back one by one, since a double under a key that comes again is gone from the value, and they
may be written in any order (`Json.ofMembers_of_perm`).
-/

set_option autoImplicit false

namespace MessageBroker

/-! ## Ascending members -/

namespace Json

/-- Keys come in ascending order, each once. -/
def Ascending (members : List (String × Json)) : Prop :=
  members.Pairwise fun first second => first.1 < second.1

section Insert

variable {members : List (String × Json)} {member : String × Json} {key : String} {value : Json}

theorem mem_of_mem_insert (listed : member ∈ insert key value members) :
    member = (key, value) ∨ member ∈ members := by
  induction members with
  | nil => exact .inl (List.mem_singleton.mp listed)
  | cons first rest ih =>
    rw [insert] at listed
    split at listed
    case isTrue => exact List.mem_cons.mp listed
    split at listed
    case isTrue =>
      rcases List.mem_cons.mp listed with new | old
      · exact .inl new
      · exact .inr (List.mem_cons_of_mem first old)
    case isFalse =>
      rcases List.mem_cons.mp listed with rfl | deeper
      · exact .inr List.mem_cons_self
      · exact (ih deeper).imp_right (List.mem_cons_of_mem first)

theorem ascending_insert (ascending : Ascending members) :
    Ascending (insert key value members) := by
  induction members with
  | nil => exact List.pairwise_singleton _ _
  | cons first rest ih =>
    obtain ⟨below, rest_ascending⟩ := List.pairwise_cons.mp ascending
    rw [insert]
    split
    case isTrue before =>
      refine List.pairwise_cons.mpr ⟨fun other listed => ?_, ascending⟩
      rcases List.mem_cons.mp listed with rfl | deeper
      · exact before
      · exact lt_trans before (below other deeper)
    case isFalse not_before =>
      split
      case isTrue same =>
        subst same
        exact List.pairwise_cons.mpr ⟨below, rest_ascending⟩
      case isFalse different =>
        have after : first.1 < key := lt_of_le_of_ne (not_lt.mp not_before) (Ne.symm different)
        refine List.pairwise_cons.mpr ⟨fun other listed => ?_, ih rest_ascending⟩
        rcases mem_of_mem_insert listed with rfl | deeper
        · exact after
        · exact below other deeper

/-- A key beyond all others goes to the end. -/
theorem insert_eq_append (beyond : ∀ other ∈ members, other.1 < key) :
    insert key value members = members ++ [(key, value)] := by
  induction members with
  | nil => rfl
  | cons first rest ih =>
    have after : first.1 < key := beyond first List.mem_cons_self
    rw [insert, if_neg (lt_asymm after), if_neg (ne_of_gt after),
      ih fun other listed => beyond other (List.mem_cons_of_mem first listed), List.cons_append]

/-- Under a new key nothing is replaced. -/
theorem perm_insert (fresh : key ∉ members.map (·.1)) :
    (insert key value members).Perm ((key, value) :: members) := by
  induction members with
  | nil => exact .refl _
  | cons first rest ih =>
    rw [List.map_cons, List.mem_cons, not_or] at fresh
    rw [insert]
    split
    · exact .refl _
    · rw [if_neg fresh.1]
      exact ((ih fresh.2).cons first).trans (.swap _ _ _)

end Insert

/-- `ofMembers` from its end. -/
theorem ofMembers_concat (members : List (String × Json)) (member : String × Json) :
    ofMembers (members ++ [member]) = insert member.1 member.2 (ofMembers members) := by
  rw [ofMembers, List.foldl_append]
  rfl

theorem mem_of_mem_ofMembers {members : List (String × Json)} {member : String × Json}
    (listed : member ∈ ofMembers members) : member ∈ members := by
  induction members using List.reverseRecOn with
  | nil => exact listed
  | append_singleton rest last ih =>
    rw [ofMembers_concat] at listed
    rw [List.mem_append]
    rcases mem_of_mem_insert listed with new | old
    · exact .inr (List.mem_singleton.mpr new)
    · exact .inl (ih old)

theorem ascending_ofMembers (members : List (String × Json)) : Ascending (ofMembers members) := by
  induction members using List.reverseRecOn with
  | nil => exact List.Pairwise.nil
  | append_singleton rest last ih =>
    rw [ofMembers_concat]
    exact ascending_insert ih

/-- Ascending members stay as they are. -/
theorem ofMembers_of_ascending {members : List (String × Json)} (ascending : Ascending members) :
    ofMembers members = members := by
  induction members using List.reverseRecOn with
  | nil => rfl
  | append_singleton rest last ih =>
    obtain ⟨rest_ascending, -, below⟩ := List.pairwise_append.mp ascending
    rw [ofMembers_concat, ih rest_ascending]
    exact insert_eq_append fun other listed => below other listed last List.mem_cons_self

/-- Members with distinct keys are put in order, and none is lost. -/
theorem perm_ofMembers {members : List (String × Json)} (distinct : (members.map (·.1)).Nodup) :
    (ofMembers members).Perm members := by
  induction members using List.reverseRecOn with
  | nil => exact .refl _
  | append_singleton rest last ih =>
    rw [List.map_append, List.nodup_append] at distinct
    obtain ⟨rest_distinct, _, apart⟩ := distinct
    have kept := ih rest_distinct
    have fresh : last.1 ∉ (ofMembers rest).map (·.1) := by
      intro listed
      exact apart last.1 ((kept.map _).mem_iff.mp listed) last.1 List.mem_cons_self rfl
    rw [ofMembers_concat]
    have last_first := (List.perm_append_singleton last rest).symm
    exact (perm_insert fresh).trans ((kept.cons last).trans last_first)

/-- **The order of members does not matter** as long as their keys are distinct. -/
theorem ofMembers_of_perm {members others : List (String × Json)} (perm : members.Perm others)
    (distinct : (members.map (·.1)).Nodup) : ofMembers members = ofMembers others := by
  have others_distinct : (others.map (·.1)).Nodup := (perm.map _).nodup_iff.mp distinct
  -- Two ascending lists of the same members are one list.
  apply List.Perm.eq_of_pairwise (fun first second _ _ below above => absurd above (lt_asymm below))
    (ascending_ofMembers members) (ascending_ofMembers others)
  exact (perm_ofMembers distinct).trans (perm.trans (perm_ofMembers others_distinct).symm)

theorem nodup_of_ascending {members : List (String × Json)} (ascending : Ascending members) :
    (members.map (·.1)).Nodup :=
  List.pairwise_map.mpr (ascending.imp fun below => ne_of_lt below)

end Json

/-! ## Numbers -/

namespace NumberLiteral

theorem double?_ne_whole (literal : NumberLiteral) (n : Int) :
    literal.double? ≠ some (.whole n) := by
  intro stated
  obtain ⟨_, _, ⟨⟩⟩ := Option.map_eq_some_iff.mp stated

/-- Whole numbers fit 64 bits, with or without a sign. -/
theorem whole_bounds {literal : NumberLiteral} {n : Int}
    (stated : literal.value? = some (.whole n)) : -9223372036854775808 ≤ n ∧
      n < 18446744073709551616 := by
  simp only [value?] at stated
  have negative_limit : Nat.pow 2 63 = 9223372036854775808 := rfl
  have limit : Nat.pow 2 64 = 18446744073709551616 := rfl
  split at stated
  case isFalse => exact absurd stated (double?_ne_whole literal n)
  split at stated
  case isTrue =>
    split at stated
    case isTrue fits =>
      cases stated
      have minus : Int.negOfNat (Decimal.value literal.whole) =
        -(Decimal.value literal.whole : Int) := Int.negOfNat_eq
      omega
    case isFalse => exact absurd stated (double?_ne_whole literal n)
  case isFalse =>
    split at stated
    case isTrue fits =>
      cases stated
      omega
    case isFalse => exact absurd stated (double?_ne_whole literal n)

/-- The digits of a whole number state the number. -/
theorem value?_ofInt {n : Int} (low : -9223372036854775808 ≤ n) (high : n < 18446744073709551616) :
    (ofInt n).value? = some (.whole n) := by
  have plain : (ofInt n).isPlain = true := rfl
  have magnitude : Decimal.value (ofInt n).whole = n.natAbs := Decimal.value_digits n.natAbs
  have negative_limit : Nat.pow 2 63 = 9223372036854775808 := rfl
  have limit : Nat.pow 2 64 = 18446744073709551616 := rfl
  by_cases negative : n < 0
  · have sign : (ofInt n).negative = true := decide_eq_true negative
    have fits : 0 < n.natAbs ∧ n.natAbs ≤ Nat.pow 2 63 := by omega
    have minus : Int.negOfNat n.natAbs = -(n.natAbs : Int) := Int.negOfNat_eq
    have same : Int.negOfNat n.natAbs = n := by omega
    simp only [value?, plain, sign, magnitude, fits, and_self, if_true, same]
  · have sign : (ofInt n).negative = false := decide_eq_false negative
    have fits : n.natAbs < Nat.pow 2 64 := by omega
    have same : (n.natAbs : Int) = n := by omega
    simp only [value?, plain, sign, magnitude, fits, Bool.false_eq_true, if_true, if_false, same]

end NumberLiteral

/-! ## Documents -/

namespace Document

variable {depth : Nat}

theorem values?_documents {values : List Json}
    (each : ∀ value ∈ values, value? depth value.document = some value) :
    values? depth (Json.documents values) = some values := by
  induction values with
  | nil => rfl
  | cons first rest ih =>
    have others := ih fun value listed => each value (List.mem_cons_of_mem first listed)
    rw [Json.documents, values?, each first List.mem_cons_self, others]

theorem memberValues?_memberDocuments {members : List (String × Json)}
    (each : ∀ member ∈ members, value? depth member.2.document = some member.2) :
    memberValues? depth (Json.memberDocuments members) = some members := by
  induction members with
  | nil => rfl
  | cons first rest ih =>
    have others := ih fun member listed => each member (List.mem_cons_of_mem first listed)
    rw [Json.memberDocuments, memberValues?, TextUnit.text?_ofText, each first List.mem_cons_self,
      others]

/-- Members are read back, in whatever order they are written. -/
theorem memberValues?_of_perm {members written : List (String × Json)}
    (each : ∀ member ∈ members,
      member.2.isWhole = true → value? depth member.2.document = some member.2)
    (whole : Json.membersAreWhole (Json.ofMembers members) = true)
    (perm : written.Perm (Json.ofMembers members)) :
    (memberValues? depth (Json.memberDocuments written)).map Json.ofMembers =
      some (Json.ofMembers members) := by
  have ascending := Json.ascending_ofMembers members
  have again : memberValues? depth (Json.memberDocuments written) = some written := by
    apply memberValues?_memberDocuments
    intro member listed
    have kept := perm.mem_iff.mp listed
    have member_whole := Json.membersAreWhole_iff.mp whole member kept
    exact each member (Json.mem_of_mem_ofMembers kept) member_whole
  rw [again, Option.map_some,
    ← Json.ofMembers_of_perm perm.symm (Json.nodup_of_ascending ascending),
    Json.ofMembers_of_ascending ascending]

theorem exists_of_values?_cons {item : Document} {rest : List Document} {values : List Json}
    (stated : values? depth (item :: rest) = some values) :
    ∃ value others, value? depth item = some value ∧ values? depth rest = some others ∧
      values = value :: others := by
  rw [values?] at stated
  split at stated
  case h_1 value others first tail =>
    cases stated
    exact ⟨value, others, first, tail, rfl⟩
  case h_2 => cases stated

theorem exists_of_memberValues?_cons {key : List TextUnit} {document : Document}
    {rest : List (List TextUnit × Document)} {members : List (String × Json)}
    (stated : memberValues? depth ((key, document) :: rest) = some members) :
    ∃ name value others, value? depth document = some value ∧
      memberValues? depth rest = some others ∧ members = (name, value) :: others := by
  rw [memberValues?] at stated
  split at stated
  case h_1 name value others _ first tail =>
    cases stated
    exact ⟨name, value, others, first, tail, rfl⟩
  case h_2 => cases stated

mutual

/-- **A value without doubles is read back** from what it is written as. -/
theorem value?_document : ∀ {document : Document} {depth : Nat} {value : Json},
    value? depth document = some value → value.isWhole = true →
      value? depth value.document = some value
  | .null, _, _, rfl, _ => rfl
  | .bool _, _, _, rfl, _ => rfl
  | .number literal, _, _, stated, whole => by
    obtain ⟨number, found, rfl⟩ := Option.map_eq_some_iff.mp stated
    cases number with
    | double => cases whole
    | whole n =>
      obtain ⟨low, high⟩ := NumberLiteral.whole_bounds found
      exact congrArg (Option.map Json.number) (NumberLiteral.value?_ofInt low high)
  | .string _, _, _, stated, _ => by
    obtain ⟨s, _, rfl⟩ := Option.map_eq_some_iff.mp stated
    exact congrArg (Option.map Json.string) (TextUnit.text?_ofText s)
  | .array items, depth + 1, _, stated, whole => by
    obtain ⟨values, found, rfl⟩ := Option.map_eq_some_iff.mp stated
    have again := values?_documents fun value listed =>
      values?_each found value listed (Json.areWhole_iff.mp whole value listed)
    exact congrArg (Option.map Json.array) again
  | .object members, depth + 1, _, stated, whole => by
    -- Only members that are still there after later ones have replaced them are known to be whole.
    obtain ⟨values, found, rfl⟩ := Option.map_eq_some_iff.mp stated
    have again := memberValues?_of_perm (memberValues?_each found) whole (.refl _)
    obtain ⟨others, reread, same⟩ := Option.map_eq_some_iff.mp again
    show (memberValues? depth (Json.memberDocuments (Json.ofMembers values))).map _ = _
    rw [reread, Option.map_some, same]

theorem values?_each : ∀ {items : List Document} {depth : Nat} {values : List Json},
    values? depth items = some values → ∀ value ∈ values, value.isWhole = true →
      value? depth value.document = some value
  | [], _, _, rfl, _, listed, _ => nomatch listed
  | _ :: _, _, _, stated, _, listed, whole => by
    obtain ⟨value, others, first, tail, rfl⟩ := exists_of_values?_cons stated
    rcases List.mem_cons.mp listed with rfl | deeper
    · exact value?_document first whole
    · exact values?_each tail _ deeper whole

theorem memberValues?_each : ∀ {members : List (List TextUnit × Document)} {depth : Nat}
    {values : List (String × Json)},
    memberValues? depth members = some values → ∀ member ∈ values, member.2.isWhole = true →
      value? depth member.2.document = some member.2
  | [], _, _, rfl, _, listed, _ => nomatch listed
  | (_, _) :: _, _, _, stated, _, listed, whole => by
    obtain ⟨name, value, others, first, tail, rfl⟩ := exists_of_memberValues?_cons stated
    rcases List.mem_cons.mp listed with rfl | deeper
    · exact value?_document first whole
    · exact memberValues?_each tail _ deeper whole

end

end Document

end MessageBroker
