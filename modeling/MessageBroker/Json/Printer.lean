import MessageBroker.Json.Value
import MessageBroker.Number.Shortest

/-!
# Writing JSON values

Two layouts: compact, without any blank, and indented, one item or member on a line of its own with
two spaces for each level and empty arrays and objects closed at once. Inside a string a quote, a
backslash and the control characters below U+0020 are escaped, five of these by a letter; all other
characters stand for themselves.
-/

set_option autoImplicit false

namespace MessageBroker.Json

/-- A digit below 16 in lower case. -/
def hexDigit (n : Nat) : Char := n.digitChar

/-- One character inside a string. -/
def escapeChar (c : Char) : List Char :=
  if c = '"' then ['\\', '"']
  else if c = '\\' then ['\\', '\\']
  else if c = '\x08' then ['\\', 'b']
  else if c = '\t' then ['\\', 't']
  else if c = '\n' then ['\\', 'n']
  else if c = '\x0c' then ['\\', 'f']
  else if c = '\r' then ['\\', 'r']
  else if c.toNat < 0x20 then
    ['\\', 'u', '0', '0', hexDigit (c.toNat / 16), hexDigit (c.toNat % 16)]
  else [c]

/-- A string in quotes. -/
def writeString (s : String) : List Char := '"' :: (s.toList.flatMap escapeChar ++ ['"'])

/-- A number. -/
def writeNumber : JsonNumber → List Char
  | .whole value => value.repr.toList
  | .double value => Shortest.text value

mutual

/-- A value without blanks. -/
def compact : Json → List Char
  | null => ['n', 'u', 'l', 'l']
  | bool true => ['t', 'r', 'u', 'e']
  | bool false => ['f', 'a', 'l', 's', 'e']
  | number value => writeNumber value
  | string s => writeString s
  | array items => '[' :: (compactItems items ++ [']'])
  | object members => '{' :: (compactMembers members ++ ['}'])

/-- Items separated by commas. -/
def compactItems : List Json → List Char
  | [] => []
  | [item] => compact item
  | item :: rest => compact item ++ ',' :: compactItems rest

/-- Members separated by commas. -/
def compactMembers : List (String × Json) → List Char
  | [] => []
  | [(key, value)] => writeString key ++ ':' :: compact value
  | (key, value) :: rest => writeString key ++ ':' :: (compact value ++ ',' :: compactMembers rest)

end

/-- A new line and two spaces for each level. -/
def newLine (level : Nat) : List Char := '\n' :: List.replicate (2 * level) ' '

mutual

/-- A value with its items and members indented below the given level. -/
def indented (level : Nat) : Json → List Char
  | null => ['n', 'u', 'l', 'l']
  | bool true => ['t', 'r', 'u', 'e']
  | bool false => ['f', 'a', 'l', 's', 'e']
  | number value => writeNumber value
  | string s => writeString s
  | array [] => ['[', ']']
  | array (item :: rest) =>
    '[' :: (newLine (level + 1) ++ indented (level + 1) item ++ indentedItems (level + 1) rest ++
      newLine level ++ [']'])
  | object [] => ['{', '}']
  | object ((key, value) :: rest) =>
    '{' :: (newLine (level + 1) ++ writeString key ++ [':', ' '] ++ indented (level + 1) value ++
      indentedMembers (level + 1) rest ++ newLine level ++ ['}'])

/-- Further items, each after a comma and on its own line. -/
def indentedItems (level : Nat) : List Json → List Char
  | [] => []
  | item :: rest => ',' :: (newLine level ++ indented level item ++ indentedItems level rest)

/-- Further members, each after a comma and on its own line. -/
def indentedMembers (level : Nat) : List (String × Json) → List Char
  | [] => []
  | (key, value) :: rest =>
    ',' :: (newLine level ++ writeString key ++ [':', ' '] ++ indented level value ++
      indentedMembers level rest)

end

/-- Compact text of a value. -/
def text (value : Json) : String := String.ofList (compact value)

/-- Indented text of a value. -/
def indentedText (value : Json) : String := String.ofList (indented 0 value)

end MessageBroker.Json
