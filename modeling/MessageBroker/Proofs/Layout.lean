import MessageBroker.Proofs.Spelling

/-!
# Written values

A value is written by way of a document (`Json.document`): texts become their characters, whole
numbers their digits, items and members keep their order. Both layouts, the compact one and the
indented one, are texts of that document (`Json.isText_compact`, `Json.isText_indented`), so either
reads back as the document. This is said of values whose numbers are whole (`Json.isWhole`).
-/

set_option autoImplicit false

namespace MessageBroker

/-- A number as it is written: the digits of a whole number, and what the text of a double reads
as. -/
def JsonNumber.literal : JsonNumber → NumberLiteral
  | whole n => .ofInt n
  | double x => ((Document.readNumber (Shortest.text x)).map (·.1)).getD (.ofInt 0)

namespace Json

mutual

/-- The document that is written for a value. -/
def document : Json → Document
  | null => .null
  | bool value => .bool value
  | number value => .number value.literal
  | string s => .string (TextUnit.ofText s)
  | array items => .array (documents items)
  | object members => .object (memberDocuments members)

/-- The documents of items. -/
def documents : List Json → List Document
  | [] => []
  | item :: rest => document item :: documents rest

/-- The documents of members. -/
def memberDocuments : List (String × Json) → List (List TextUnit × Document)
  | [] => []
  | (key, value) :: rest => (TextUnit.ofText key, document value) :: memberDocuments rest

end

mutual

/-- True of a value in which every number is whole. -/
def isWhole : Json → Bool
  | number (.double _) => false
  | array items => areWhole items
  | object members => membersAreWhole members
  | _ => true

/-- True of items in which every number is whole. -/
def areWhole : List Json → Bool
  | [] => true
  | item :: rest => isWhole item && areWhole rest

/-- True of members in which every number is whole. -/
def membersAreWhole : List (String × Json) → Bool
  | [] => true
  | (_, value) :: rest => isWhole value && membersAreWhole rest

end

theorem areWhole_iff {items : List Json} :
    areWhole items = true ↔ ∀ item ∈ items, item.isWhole = true := by
  induction items with
  | nil => simp [areWhole]
  | cons item rest ih => simp [areWhole, ih]

theorem membersAreWhole_iff {members : List (String × Json)} :
    membersAreWhole members = true ↔ ∀ member ∈ members, member.2.isWhole = true := by
  induction members with
  | nil => simp [membersAreWhole]
  | cons member rest ih => simp [membersAreWhole, ih]

/-! ## Strings -/

open Document

theorem digit?_hexDigit : ∀ n < 16, Hexadecimal.digit? (hexDigit n) = some n := by decide

/-- A control character is written by its code. -/
theorem spellsChar_control {c : Char} (control : c.toNat < 0x20) :
    SpellsChar c ['\\', 'u', '0', '0', hexDigit (c.toNat / 16), hexDigit (c.toNat % 16)] := by
  have code : hexCode? '0' '0' (hexDigit (c.toNat / 16)) (hexDigit (c.toNat % 16)) =
      some c.toNat := by
    have zero : Hexadecimal.digit? '0' = some 0 := rfl
    simp only [hexCode?, zero, digit?_hexDigit _ (show c.toNat / 16 < 16 by omega),
      digit?_hexDigit _ (Nat.mod_lt c.toNat (by decide)), Option.bind_eq_bind, Option.bind_some,
      Option.pure_def, Option.some.injEq]
    omega
  have notHigh : isHighSurrogate c.toNat = false := by
    rw [isHighSurrogate, decide_eq_false (by omega), Bool.false_and]
  have notLow : isLowSurrogate c.toNat = false := by
    rw [isLowSurrogate, decide_eq_false (by omega), Bool.false_and]
  have spelled := SpellsChar.code code notHigh notLow
  rwa [Char.ofNat_toNat] at spelled

theorem spellsChar_escapeChar (c : Char) : SpellsChar c (escapeChar c) := by
  by_cases quote : c = '"'
  · subst quote
    exact .letter rfl
  by_cases backslash : c = '\\'
  · subst backslash
    exact .letter rfl
  rw [escapeChar, if_neg quote, if_neg backslash]
  split
  case isTrue backspace => subst backspace; exact .letter rfl
  split
  case isTrue tab => subst tab; exact .letter rfl
  split
  case isTrue newline => subst newline; exact .letter rfl
  split
  case isTrue formFeed => subst formFeed; exact .letter rfl
  split
  case isTrue carriageReturn => subst carriageReturn; exact .letter rfl
  split
  case isTrue control => exact spellsChar_control control
  case isFalse visible => exact .plain (Nat.not_lt.mp visible) quote backslash

theorem spellsChars_flatMap (cs : List Char) : SpellsChars cs (cs.flatMap escapeChar) := by
  induction cs with
  | nil => exact .nil
  | cons c _ ih => exact .cons (spellsChar_escapeChar c) ih

theorem spells_writeString (s : String) :
    Spells (.string (TextUnit.ofText s)) (writeString s) :=
  .string (spellsChars_flatMap s.toList)

/-- A member in which the colon follows the key at once. -/
theorem spellsMember_writeString (key : String) {before cs after : List Char} {document : Document}
    (blank_before : Blanks before) (spelled : Spells document cs) (blank_after : Blanks after) :
    SpellsMember (TextUnit.ofText key, document)
      (before ++ (writeString key ++ ':' :: (cs ++ after))) := by
  have member := SpellsMember.mk blank_before (spellsChars_flatMap key.toList) blanks_nil spelled
    blank_after
  rw [writeString, List.cons_append, List.append_assoc]
  exact member

/-! ## The compact layout -/

mutual

theorem spells_compact : ∀ {value : Json}, value.isWhole = true →
    Spells value.document (compact value)
  | .null, _ => .null
  | .bool true, _ => .true
  | .bool false, _ => .false
  | .number (.whole n), _ => .number n
  | .string s, _ => spells_writeString s
  | .array [], _ => .emptyArray blanks_nil
  | .array (_ :: _), whole => .array (spells_compactItems whole (List.cons_ne_nil _ _))
  | .object [], _ => .emptyObject blanks_nil
  | .object (_ :: _), whole => .object (spells_compactMembers whole (List.cons_ne_nil _ _))

theorem spells_compactItems : ∀ {items : List Json}, areWhole items = true → items ≠ [] →
    SpellsItems (documents items) (compactItems items)
  | [_], whole, _ => by
    have spelled := spells_compact ((Bool.and_eq_true _ _).mp whole).1
    have items := SpellsItems.last spelled blanks_nil
    rwa [List.append_nil] at items
  | _ :: _ :: _, whole, _ => by
    obtain ⟨first, others⟩ := (Bool.and_eq_true _ _).mp whole
    have spelled := spells_compact first
    exact .more spelled blanks_nil (spells_compactItems others (List.cons_ne_nil _ _))

theorem spells_compactMembers : ∀ {members : List (String × Json)},
    membersAreWhole members = true → members ≠ [] →
    SpellsMembers (memberDocuments members) (compactMembers members)
  | [(key, _)], whole, _ => by
    have spelled := spells_compact ((Bool.and_eq_true _ _).mp whole).1
    have member := spellsMember_writeString key blanks_nil spelled blanks_nil
    rw [List.append_nil] at member
    exact .last member
  | (key, _) :: next :: rest, whole, _ => by
    obtain ⟨first, others⟩ := (Bool.and_eq_true _ _).mp whole
    have spelled := spells_compact first
    have member := spellsMember_writeString key blanks_nil spelled blanks_nil
    have members := SpellsMembers.more member
      (spells_compactMembers others (List.cons_ne_nil next rest))
    simpa only [memberDocuments, compactMembers, List.append_assoc, List.cons_append,
      List.nil_append, List.append_nil] using members

end

theorem isText_compact {value : Json} (whole : value.isWhole = true) :
    IsText value.document (compact value) :=
  ⟨_, [], spells_compact whole, blanks_nil, (List.append_nil _).symm⟩

/-! ## The indented layout -/

theorem blanks_newLine (level : Nat) : Blanks (newLine level) := by
  intro c member
  rcases List.mem_cons.mp member with rfl | space
  · rfl
  · rw [List.eq_of_mem_replicate space]
    rfl

theorem spells_append {document : Document} {blanks cs : List Char} (blank : Blanks blanks)
    (spelled : Spells document cs) : Spells document (blanks ++ cs) := by
  induction blanks with
  | nil => exact spelled
  | cons c rest ih =>
    have tail := ih fun other member => blank other (List.mem_cons_of_mem c member)
    exact .blank (blank c List.mem_cons_self) tail

/-- A member on a line of its own. -/
theorem spellsMember_line (key : String) {cs after : List Char} {document : Document}
    (level : Nat) (spelled : Spells document cs) (blank : Blanks after) :
    SpellsMember (TextUnit.ofText key, document)
      (newLine level ++ writeString key ++ [':', ' '] ++ cs ++ after) := by
  have space : Blanks [' '] := List.forall_mem_singleton.mpr rfl
  have member := spellsMember_writeString key (blanks_newLine level)
    (spells_append space spelled) blank
  simpa only [List.append_assoc, List.cons_append, List.nil_append] using member

mutual

theorem spells_indented : ∀ (level : Nat) {value : Json}, value.isWhole = true →
    Spells value.document (indented level value)
  | _, .null, _ => .null
  | _, .bool true, _ => .true
  | _, .bool false, _ => .false
  | _, .number (.whole n), _ => .number n
  | _, .string s, _ => spells_writeString s
  | _, .array [], _ => .emptyArray blanks_nil
  | level, .array (_ :: _), whole =>
    .array (spells_indentedItems (level + 1) (blanks_newLine level) whole (List.cons_ne_nil _ _))
  | _, .object [], _ => .emptyObject blanks_nil
  | level, .object ((_, _) :: _), whole =>
    .object (spells_indentedMembers (level + 1) (blanks_newLine level) whole
      (List.cons_ne_nil _ _))

/-- The first of the items has no comma in front. -/
theorem spells_indentedItems : ∀ (level : Nat) {after : List Char}, Blanks after →
    ∀ {items : List Json}, areWhole items = true → items ≠ [] →
      SpellsItems (documents items) ((indentedItems level items).tail ++ after)
  | level, _, blank, [_], whole, _ => by
    have spelled := spells_indented level ((Bool.and_eq_true _ _).mp whole).1
    have items := SpellsItems.last (spells_append (blanks_newLine level) spelled) blank
    simpa only [documents, indentedItems, List.tail_cons, List.append_nil] using items
  | level, _, blank, _ :: next :: rest, whole, _ => by
    obtain ⟨first, others⟩ := (Bool.and_eq_true _ _).mp whole
    have spelled := spells_append (blanks_newLine level) (spells_indented level first)
    have items := SpellsItems.more spelled blanks_nil
      (spells_indentedItems level blank others (List.cons_ne_nil next rest))
    simpa only [documents, indentedItems, List.tail_cons, List.append_assoc, List.cons_append,
      List.nil_append] using items

theorem spells_indentedMembers : ∀ (level : Nat) {after : List Char}, Blanks after →
    ∀ {members : List (String × Json)}, membersAreWhole members = true → members ≠ [] →
      SpellsMembers (memberDocuments members) ((indentedMembers level members).tail ++ after)
  | level, _, blank, [(key, _)], whole, _ => by
    have spelled := spells_indented level ((Bool.and_eq_true _ _).mp whole).1
    have members := SpellsMembers.last (spellsMember_line key level spelled blank)
    simpa only [memberDocuments, indentedMembers, List.tail_cons, List.append_nil] using members
  | level, _, blank, (key, _) :: next :: rest, whole, _ => by
    obtain ⟨first, others⟩ := (Bool.and_eq_true _ _).mp whole
    have spelled := spells_indented level first
    have member := spellsMember_line key level spelled blanks_nil
    have members := SpellsMembers.more member
      (spells_indentedMembers level blank others (List.cons_ne_nil next rest))
    simpa only [memberDocuments, indentedMembers, List.tail_cons, List.append_assoc,
      List.cons_append, List.nil_append] using members

end

theorem isText_indented {value : Json} (whole : value.isWhole = true) :
    IsText value.document (indented 0 value) :=
  ⟨_, [], spells_indented 0 whole, blanks_nil, (List.append_nil _).symm⟩

end Json

end MessageBroker
