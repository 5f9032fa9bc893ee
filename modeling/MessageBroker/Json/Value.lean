import MessageBroker.Json.Document
import MessageBroker.Number.Scaled

/-!
# JSON values

What a document means: texts are plain, numbers are whole numbers of 64 bits or doubles, and the
keys of an object are in ascending order, each once, the last of several members winning. A document
has no value when a text holds half of a surrogate pair or a bare control character, when a number
is out of range, or when arrays and objects nest deeper than allowed.
-/

set_option autoImplicit false

namespace MessageBroker

/-- A number: whole and within 64 bits, or a double. -/
inductive JsonNumber where
  | whole (value : Int)
  | double (value : Binary64)
  deriving DecidableEq, Repr

/-- A JSON value. -/
inductive Json where
  | null
  | bool (value : Bool)
  | number (value : JsonNumber)
  | string (value : String)
  | array (items : List Json)
  | object (members : List (String × Json))
  deriving Repr

namespace Json

/-- Sets the member under a key and keeps the keys ascending. -/
def insert (key : String) (value : Json) : List (String × Json) → List (String × Json)
  | [] => [(key, value)]
  | first :: rest =>
    if key < first.1 then (key, value) :: first :: rest
    else if key = first.1 then (key, value) :: rest
    else first :: insert key value rest

/-- Members with ascending keys; the last of several members under a key wins. -/
def ofMembers (members : List (String × Json)) : List (String × Json) :=
  members.foldl (fun sorted member => insert member.1 member.2 sorted) []

end Json

namespace NumberLiteral

/-- Exponent as a number. -/
def power (literal : NumberLiteral) : Int :=
  match literal.exponent with
  | none => 0
  | some (negative, digits) =>
    if negative then Int.negOfNat (Decimal.value digits) else Decimal.value digits

/-- True of a number without point and exponent. -/
def isPlain (literal : NumberLiteral) : Bool :=
  literal.fraction.isNone && literal.exponent.isNone

/-- The double a literal stands for. -/
def double? (literal : NumberLiteral) : Option JsonNumber :=
  (Scaled.read? literal.whole (literal.fraction.getD []) literal.power).map fun magnitude =>
    .double ⟨literal.negative, magnitude⟩

/-- The number a literal stands for. A plain number is whole when it fits 64 bits, with or without
a sign; minus zero is a double. -/
def value? (literal : NumberLiteral) : Option JsonNumber :=
  let magnitude := Decimal.value literal.whole
  if literal.isPlain then
    if literal.negative then
      if 0 < magnitude ∧ magnitude ≤ Nat.pow 2 63 then some (.whole (Int.negOfNat magnitude))
      else literal.double?
    else if magnitude < Nat.pow 2 64 then some (.whole magnitude)
    else literal.double?
  else literal.double?

/-- The literal as an unsigned number of 64 bits. -/
def word? (literal : NumberLiteral) : Option UInt64 :=
  let magnitude := Decimal.value literal.whole
  if literal.isPlain ∧ ¬literal.negative ∧ magnitude < Nat.pow 2 64 then some (.ofNat magnitude)
  else none

end NumberLiteral

namespace Document

mutual

/-- The value of a document in which at most `depth` arrays and objects are nested. -/
def value? (depth : Nat) : Document → Option Json
  | null => some .null
  | bool value => some (.bool value)
  | number literal => literal.value?.map .number
  | string units => (TextUnit.text? units).map .string
  | array items =>
    match depth with
    | 0 => none
    | depth + 1 => (values? depth items).map .array
  | object members =>
    match depth with
    | 0 => none
    | depth + 1 => (memberValues? depth members).map fun members => .object (Json.ofMembers members)

/-- The values of the items of an array. -/
def values? (depth : Nat) : List Document → Option (List Json)
  | [] => some []
  | item :: rest =>
    match value? depth item, values? depth rest with
    | some value, some values => some (value :: values)
    | _, _ => none

/-- Keys and values of the members of an object, in order. -/
def memberValues? (depth : Nat) :
    List (List TextUnit × Document) → Option (List (String × Json))
  | [] => some []
  | (key, document) :: rest =>
    match TextUnit.text? key, value? depth document, memberValues? depth rest with
    | some key, some value, some values => some ((key, value) :: values)
    | _, _, _ => none

end

/-- Number of arrays and objects that may be nested in one another. -/
def maxDepth : Nat := 127

mutual

/-- True of a document that may be skipped: no bare control character in a string or key. -/
def isSkippable : Document → Bool
  | string units => units.all TextUnit.isEscapedWell
  | array items => areSkippable items
  | object members => membersAreSkippable members
  | _ => true

/-- True of items that may be skipped. -/
def areSkippable : List Document → Bool
  | [] => true
  | item :: rest => isSkippable item && areSkippable rest

/-- True of members that may be skipped. -/
def membersAreSkippable : List (List TextUnit × Document) → Bool
  | [] => true
  | (key, document) :: rest =>
    key.all TextUnit.isEscapedWell && isSkippable document && membersAreSkippable rest

end

end Document

end MessageBroker
