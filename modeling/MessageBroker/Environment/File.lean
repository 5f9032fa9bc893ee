import MessageBroker.Environment
import MessageBroker.Text.Alphanumeric
import MessageBroker.Text.Blank

/-!
# Files of variables

A file of variables holds one assignment `NAME=value` on each line, with an optional `export` before
the name; blank lines and lines that begin with `#` are skipped. A value ends at the first blank
outside quotes, and nothing but a comment may follow it there. Single quotes take everything
literally. Outside them a backslash escapes the next character, and `$name` and `${name}`
stand for the value of a variable.

Lines take effect one after another: a value sees the assignments above it, and a variable that is
set already keeps its value (`find?_addLines`). The first line that is malformed or not text ends
the reading.
-/

set_option autoImplicit false

namespace MessageBroker

/-- Where the reader of a value stands. `quoted` is true inside double quotes. -/
inductive ValueMode where
  | text (quoted : Bool)
  /-- After a backslash. -/
  | escape (quoted : Bool)
  /-- Inside single quotes. -/
  | literal
  /-- In the name of a variable after a dollar sign. -/
  | name (quoted : Bool) (read : List Char)
  /-- In the name of a variable in braces. -/
  | braced (quoted : Bool) (read : List Char)
  /-- Behind the end of the value. -/
  | blank
  | comment
  deriving DecidableEq, Repr

namespace ValueMode

/-- Value of an escaped character. -/
def escaped? (c : Char) : Option Char :=
  if c = '\\' ∨ c = '\x27' ∨ c = '"' ∨ c = '$' ∨ c = ' ' then some c
  else if c = 'n' then some '\n'
  else none

/-- The mode after one character and what the character adds to the value; nothing when the
character is not allowed. -/
def step (resolve : List Char → List Char) : ValueMode → Char → Option (ValueMode × List Char)
  | text quoted, c =>
    if c = '$' then some (name quoted [], [])
    else if c = '\\' then some (escape quoted, [])
    else if c = '"' then some (text (!quoted), [])
    else if quoted then some (text quoted, [c])
    else if c = '\x27' then some (literal, [])
    else if c = ' ' ∨ c = '\t' then some (blank, [])
    else some (text quoted, [c])
  | escape quoted, c => (escaped? c).map fun c => (text quoted, [c])
  | literal, c => if c = '\x27' then some (text false, []) else some (literal, [c])
  | name quoted read, c =>
    if Text.isAlphanumeric c then some (name quoted (read ++ [c]), [])
    else if c = '{' ∧ read = [] then some (braced quoted [], [])
    else if c = '$' then some (name quoted [], resolve read)
    else some (text quoted, resolve read ++ [c])
  | braced quoted read, c =>
    if c = '}' then some (text quoted, resolve read) else some (braced quoted (read ++ [c]), [])
  | blank, c =>
    if c = ' ' ∨ c = '\t' then some (blank, [])
    else if c = '#' then some (comment, [])
    else none
  | comment, _ => some (comment, [])

/-- What the end of the line adds to the value; nothing when a quote or a brace is open. -/
def finish? (resolve : List Char → List Char) : ValueMode → Option (List Char)
  | text quoted => if quoted then none else some []
  | escape quoted => if quoted then none else some []
  | literal => none
  | name quoted read => if quoted then none else some (resolve read)
  | braced _ _ => none
  | blank => some []
  | comment => some []

end ValueMode

/-- Reads a value from the given mode on. -/
def readValue? (resolve : List Char → List Char) (mode : ValueMode) :
    List Char → Option (List Char)
  | [] => mode.finish? resolve
  | c :: rest =>
    match mode.step resolve c with
    | none => none
    | some (mode, added) => (readValue? resolve mode rest).map (added ++ ·)

/-- A line of a file of variables. -/
inductive VariableLine where
  | skipped
  | assignment (name value : String)
  deriving DecidableEq, Repr

namespace VariableLine

/-- Characters of a name; the first one is a letter or an underscore. -/
def isNameChar (c : Char) : Bool := c.isAlphanum || c == '_' || c == '.'

/-- Reads a name and skips the blanks behind it. -/
def readName? : List Char → Option (List Char × List Char)
  | [] => none
  | c :: rest =>
    if c.isAlpha ∨ c = '_' then
      let (name, rest) := (c :: rest).span isNameChar
      some (name, Text.trimStart rest)
    else none

/-- Passes over an equals sign. -/
def afterEquals? : List Char → Option (List Char)
  | '=' :: rest => some rest
  | _ => none

/-- Reads a name with the equals sign behind it. The word `export` before a name is dropped; alone
it is a name itself. -/
def readTarget? (cs : List Char) : Option (List Char × List Char) := do
  let (name, rest) ← readName? cs
  match afterEquals? rest with
  | some rest => return (name, rest)
  | none =>
    if String.ofList name = "export" then
      let (name, rest) ← readName? rest
      return (name, ← afterEquals? rest)
    else none

/-- True of an empty text and of a comment. -/
def isEmptyOrComment (cs : List Char) : Bool := cs = [] || cs.head? == some '#'

/-- Reads a line; nothing when it is malformed. -/
def read? (resolve : List Char → List Char) (line : String) : Option VariableLine :=
  let line := Text.trim line.toList
  if isEmptyOrComment line then some skipped
  else do
    let (name, rest) ← readTarget? line
    let rest := Text.trimStart rest
    let value ← if isEmptyOrComment rest then some [] else readValue? resolve (.text false) rest
    return assignment (String.ofList name) (String.ofList value)

/-- Splits a text into the runs of characters that satisfy a test. -/
def runs (test : Char → Bool) : List Char → List (List Char)
  | [] => [[]]
  | c :: rest =>
    if test c then
      match runs test rest with
      | run :: others => (c :: run) :: others
      | [] => [[c]]
    else [] :: runs test rest

/-- Names of variables that a file may refer to. -/
def mentionedNames (content : ByteArray) : List String :=
  let cs := ((String.fromUTF8? content).getD "").toList
  ((runs Text.isAlphanumeric cs ++ runs isNameChar cs).filter (· ≠ [])).eraseDups.map String.ofList

end VariableLine

namespace Environment

/-- Value that a name stands for, empty when there is none. Variables are stored as texts
`name=value` and found by the text up to an equals sign, so a name with an equals sign of its own
also finds a value that goes on as the name does. -/
def valueOf (environment : Environment) (name : List Char) : List Char :=
  match environment.find? (String.ofList name) with
  | some value => value.toList
  | none =>
    let (key, rest) := name.span (· != '=')
    match environment.find? (String.ofList key) with
    | some value =>
      if (rest ++ ['=']).isPrefixOf ('=' :: value.toList) then value.toList.drop rest.length else []
    | none => []

/-- Sets variables from lines; a line that is not text is `none`. -/
def addLines (environment : Environment) : List (Option String) → Environment
  | [] => environment
  | none :: _ => environment
  | some line :: rest =>
    match VariableLine.read? environment.valueOf line with
    | none => environment
    | some .skipped => environment.addLines rest
    | some (.assignment name value) => (environment.setIfMissing name value).addLines rest

/-- A variable that is set keeps its value. -/
theorem find?_addLines {environment : Environment} {name value : String}
    (present : environment.find? name = some value) (lines : List (Option String)) :
    (environment.addLines lines).find? name = some value := by
  fun_induction addLines environment lines with
  | case1 => exact present
  | case2 => exact present
  | case3 => exact present
  | case4 environment line rest skipped ih => exact ih present
  | case5 environment line rest other new assigned ih =>
    refine ih ?_
    rw [find?_setIfMissing, present]
    rfl

/-- Splits bytes at newlines. -/
def splitLines : List UInt8 → List (List UInt8)
  | [] => [[]]
  | byte :: rest =>
    if byte = 10 then [] :: splitLines rest
    else match splitLines rest with
      | line :: lines => (byte :: line) :: lines
      | [] => [[byte]]

/-- Sets variables from the content of a file. -/
def addFile (environment : Environment) (content : ByteArray) : Environment :=
  environment.addLines ((splitLines content.toList).map fun line =>
    String.fromUTF8? ⟨line.toArray⟩)

/-- Sets variables from a file if there is one. -/
def addFile? (environment : Environment) (content : Option ByteArray) : Environment :=
  match content with
  | some content => environment.addFile content
  | none => environment

end Environment

end MessageBroker
