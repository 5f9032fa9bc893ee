import Mathlib.Data.List.Perm.Subperm
import MessageBroker.Json.Record
import MessageBroker.Proofs.Layout

/-!
# Records that were written

A record is written as an object with one member for each field. From the document of such an
object the reader gets the members back (`Json.record?_document`), and what it finds under a name
is the member with that name (`Record.find?_ofMembers`), wherever it stands and whatever else is
left out (`Json.lookup_of_subperm`).
-/

set_option autoImplicit false

namespace MessageBroker

/-! ## Members by name -/

namespace Json

/-- Names of the members of an object. -/
def keys (members : List (String × Json)) : List String := members.map (·.1)

theorem lookup_of_mem {members : List (String × Json)} {key : String} {value : Json}
    (distinct : (keys members).Nodup) (member : (key, value) ∈ members) :
    members.lookup key = some value := by
  induction members with
  | nil => cases member
  | cons first rest ih =>
    obtain ⟨fresh, distinct⟩ := List.nodup_cons.mp distinct
    rw [List.lookup_cons]
    rcases List.mem_cons.mp member with rfl | member
    · rw [beq_self_eq_true]
    · have listed : key ∈ keys rest := List.mem_map.mpr ⟨_, member, rfl⟩
      have other : key ≠ first.1 := by
        rintro rfl
        exact fresh listed
      rw [beq_eq_false_iff_ne.mpr other]
      exact ih distinct member

theorem lookup_of_not_mem {members : List (String × Json)} {key : String}
    (absent : key ∉ keys members) : members.lookup key = none := by
  rw [List.lookup_eq_none_iff]
  intro member present
  rw [bne_iff_ne]
  rintro rfl
  exact absent (List.mem_map_of_mem present)

section Left

variable {left members : List (String × Json)}

theorem keys_nodup_of_subperm (left_of : left.Subperm members) (distinct : (keys members).Nodup) :
    (keys left).Nodup := by
  obtain ⟨ordered, perm, sub⟩ := left_of
  exact (perm.map _).nodup_iff.mp ((sub.map _).nodup distinct)

theorem keys_subset_of_subperm (left_of : left.Subperm members) : keys left ⊆ keys members :=
  List.map_subset _ left_of.subset

/-- Among some of the members of an object, in any order, a name that is left stands for what it
stood for. -/
theorem lookup_of_subperm (left_of : left.Subperm members) (distinct : (keys members).Nodup)
    (key : String) :
    left.lookup key = if key ∈ keys left then members.lookup key else none := by
  split
  · rename_i present
    obtain ⟨⟨_, value⟩, member, rfl⟩ := List.mem_map.mp present
    have left_distinct := keys_nodup_of_subperm left_of distinct
    rw [lookup_of_mem left_distinct member, lookup_of_mem distinct (left_of.subset member)]
  · rename_i absent
    exact lookup_of_not_mem absent

end Left

end Json

/-! ## Fields of a record -/

namespace Record

/-- The record that is read from an object of these members. -/
def ofMembers (members : List (String × Json)) : Record :=
  ⟨true, members.map fun member => (member.1, member.2.document)⟩

theorem find?_ofMembers (members : List (String × Json)) (name : String) :
    (ofMembers members).find? name = (members.lookup name).map Json.document := by
  rw [find?, ofMembers]
  induction members with
  | nil => rfl
  | cons first rest ih =>
    rw [List.map_cons, List.lookup_cons, List.lookup_cons]
    cases name == first.1 with
    | true => rfl
    | false => exact ih

variable {α : Type}

theorem required?_ofMembers (members : List (String × Json)) (name : String)
    (read : Document → Option α) :
    (ofMembers members).required? name read =
      (members.lookup name).bind fun value => read value.document := by
  rw [required?, find?_ofMembers]
  cases members.lookup name <;> rfl

theorem defaulted?_ofMembers (members : List (String × Json)) (name : String) (default : α)
    (read : Document → Option α) :
    (ofMembers members).defaulted? name default read =
      match members.lookup name with
      | some value => read value.document
      | none => some default := by
  rw [defaulted?, find?_ofMembers]
  cases members.lookup name <;> rfl

end Record

namespace Json

/-- The reader gets all members back when it knows each name and none stands twice. -/
theorem record?_document (names : List String) {members : List (String × Json)}
    (known : ∀ key ∈ keys members, key ∈ names) (distinct : (keys members).Nodup) :
    (object members).document.record? names = some (Record.ofMembers members) := by
  suffices fields : Document.fieldsOfMembers? names (memberDocuments members) =
      some (members.map fun member => (member.1, member.2.document)) by
    show (Document.fieldsOfMembers? names (memberDocuments members)).map _ = _
    rw [fields]
    rfl
  induction members with
  | nil => rfl
  | cons first rest ih =>
    obtain ⟨fresh, distinct⟩ := List.nodup_cons.mp distinct
    have others := ih (fun key member => known key (List.mem_cons_of_mem _ member)) distinct
    have unnamed : (Record.ofMembers rest).find? first.1 = none := by
      rw [Record.find?_ofMembers, lookup_of_not_mem fresh]
      rfl
    rw [memberDocuments, Document.fieldsOfMembers?, TextUnit.text?_ofText, others]
    simp only [if_pos (known first.1 List.mem_cons_self)]
    rw [if_neg]
    · rfl
    · show ¬ ((Record.ofMembers rest).find? first.1).isSome = true
      rw [unnamed]
      exact Bool.false_ne_true

/-- A field with a default, read from some of the members of an object. -/
theorem defaulted?_of_subperm {left members : List (String × Json)} {value : Json} {α : Type}
    {content : α} {read : Document → Option α} (left_of : left.Subperm members)
    (distinct : (keys members).Nodup) (name : String) (stated : members.lookup name = some value)
    (readable : read value.document = some content) (default : α) :
    (Record.ofMembers left).defaulted? name default read =
      some (if name ∈ keys left then content else default) := by
  rw [Record.defaulted?_ofMembers, lookup_of_subperm left_of distinct, stated]
  by_cases kept : name ∈ keys left
  · rw [if_pos kept, if_pos kept]
    exact readable
  · rw [if_neg kept, if_neg kept]

theorem text?_document (s : String) : (string s).document.text? = some s :=
  TextUnit.text?_ofText s

/-- A list whose items are read back. -/
theorem list?_document {α : Type} {write : α → Json} {read : Document → Option α} {items : List α}
    (each : ∀ item ∈ items, read (write item).document = some item) :
    (array (items.map write)).document.list? read = some items := by
  show (documents (items.map write)).mapM read = some items
  induction items with
  | nil => rfl
  | cons item rest ih =>
    have others := ih fun other listed => each other (List.mem_cons_of_mem item listed)
    rw [List.map_cons, documents, List.mapM_cons, each item List.mem_cons_self, others]
    rfl

/-- An unsigned number of 64 bits. -/
theorem word?_document {n : Nat} (fits : n < Nat.pow 2 64) :
    (number (.whole n)).document.word? = some (.ofNat n) := by
  have plain : (NumberLiteral.ofInt n).isPlain = true := rfl
  have unsigned : (NumberLiteral.ofInt n).negative = false :=
    decide_eq_false (Int.not_lt.mpr (Int.natCast_nonneg n))
  have magnitude : Decimal.value (NumberLiteral.ofInt n).whole = n := Decimal.value_digits n
  show (NumberLiteral.ofInt n).word? = _
  simp only [NumberLiteral.word?, plain, unsigned, magnitude, Bool.false_eq_true,
    not_false_eq_true, fits, and_self, if_true]

end Json

end MessageBroker
