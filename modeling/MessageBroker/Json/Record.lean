import MessageBroker.Json.Value

/-!
# Records in documents

A record is read from an object by the names of its fields, or from an array by their positions. In
an object the members may come in any order, unknown ones are skipped and a field named twice is
refused; an array may be shorter than the record but not longer. A field that is missing has its
default; an optional field without one may be missing from an object only.
-/

set_option autoImplicit false

namespace MessageBroker

/-- The fields a document gives. -/
structure Record where
  /-- The fields come from an object. -/
  byName : Bool
  fields : List (String × Document)

namespace Document

/-- The fields among the members of an object, each at most once; all other members are skipped. -/
def fieldsOfMembers? (names : List String) :
    List (List TextUnit × Document) → Option (List (String × Document))
  | [] => some []
  | (key, document) :: rest =>
    match TextUnit.text? key, fieldsOfMembers? names rest with
    | some key, some fields =>
      if key ∈ names then
        if (fields.lookup key).isSome then none else some ((key, document) :: fields)
      else if document.isSkippable then some fields else none
    | _, _ => none

/-- Reads a record with the given field names. -/
def record? (names : List String) : Document → Option Record
  | object members => (fieldsOfMembers? names members).map (⟨true, ·⟩)
  | array items => if items.length ≤ names.length then some ⟨false, names.zip items⟩ else none
  | _ => none

/-- Reads a plain text. -/
def text? : Document → Option String
  | string units => TextUnit.text? units
  | _ => none

/-- Reads an unsigned number of 64 bits. -/
def word? : Document → Option UInt64
  | number literal => literal.word?
  | _ => none

/-- Reads a list. -/
def list? {α : Type} (read : Document → Option α) : Document → Option (List α)
  | array items => items.mapM read
  | _ => none

/-- Reads one of several names: a text, or an object whose only member has that name and is null. -/
def choice? : Document → Option String
  | string units => TextUnit.text? units
  | object [(key, null)] => TextUnit.text? key
  | _ => none

end Document

namespace Record

variable {α : Type}

/-- What the document gives for a field. -/
def find? (record : Record) (name : String) : Option Document := record.fields.lookup name

/-- A field that must be there. -/
def required? (record : Record) (name : String) (read : Document → Option α) : Option α :=
  (record.find? name).bind read

/-- A field with a default. -/
def defaulted? (record : Record) (name : String) (default : α) (read : Document → Option α) :
    Option α :=
  match record.find? name with
  | some document => read document
  | none => some default

/-- A field that may be null, or missing from an object. -/
def optional? (record : Record) (name : String) (read : Document → Option α) :
    Option (Option α) :=
  match record.find? name with
  | some .null => some none
  | some document => (read document).map some
  | none => if record.byName then some none else none

end Record

end MessageBroker
