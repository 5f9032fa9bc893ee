import MessageBroker.Pattern.Escape

/-!
# Classes of a pattern

A class in brackets holds characters, ranges, escapes, ASCII classes such as `[:alpha:]` and classes
in brackets of their own, and `&&`, `--` and `~~` join what stands to the left with what stands to
the right. A closing bracket in front of all members and hyphens in front of all others are members
themselves. Reading gives how deep a class nests: a class nests one deeper than what it holds, and
so do a run of several members and a join.
-/

set_option autoImplicit false

namespace MessageBroker.Pattern

/-- The pieces of a run by how deep they nest. -/
structure Pieces where
  count : Nat := 0
  /-- Depth of the deepest piece before the last one. -/
  before : Nat := 0
  /-- Depth of the last piece. -/
  last : Nat := 0
  deriving DecidableEq, Repr

namespace Pieces

/-- Adds a piece of a depth. -/
def push (pieces : Pieces) (depth : Nat) : Pieces :=
  ⟨pieces.count + 1, max pieces.before pieces.last, depth⟩

/-- Depth of the run; a single piece needs none of its own. -/
def depth (pieces : Pieces) : Nat :=
  if pieces.count ≤ 1 then pieces.last else 1 + max pieces.before pieces.last

end Pieces

/-- A class that is not closed yet. -/
structure OpenClass where
  members : Pieces := {}
  /-- Depth of what stands to the left of a join. -/
  left : Option Nat := none
  /-- True while it holds nothing but hyphens. -/
  fresh : Bool := true
  deriving DecidableEq, Repr

namespace OpenClass

/-- Adds a member of a depth. -/
def push (level : OpenClass) (depth : Nat) : OpenClass :=
  { level with members := level.members.push depth, fresh := false }

/-- Adds a hyphen in front. -/
def pushHyphen (level : OpenClass) : OpenClass :=
  { level with members := level.members.push 0 }

/-- Depth of what the class holds. -/
def depth (level : OpenClass) : Nat :=
  match level.left with
  | some left => 1 + max left level.members.depth
  | none => level.members.depth

/-- The class after a join. -/
def join (level : OpenClass) : OpenClass := { left := some level.depth, fresh := false }

end OpenClass

/-- Names of the ASCII classes. -/
def asciiClassNames : List String :=
  ["alnum", "alpha", "ascii", "blank", "cntrl", "digit", "graph", "lower", "print", "punct",
    "space", "upper", "word", "xdigit"]

/-- Reads an ASCII class after its first bracket; true is a negated one. -/
def readAsciiClass? : List Char → Option (Bool × List Char)
  | ':' :: rest =>
    let (negated, rest) := match rest with
      | '^' :: rest => (true, rest)
      | rest => (false, rest)
    match rest.span (· != ':') with
    | (name, ':' :: ']' :: rest) =>
      if asciiClassNames.contains (String.ofList name) then some (negated, rest) else none
    | _ => none
  | _ => none

/-- Opens a class after its bracket. -/
def openClass? (switches : Switches) (cs : List Char) : Option (OpenClass × List Char) :=
  match switches.skip cs with
  | '^' :: rest => if switches.allowsNegation then some ({}, rest) else none
  | rest => some ({}, rest)

/-- Reads a character or an escape. -/
def readAtom? (switches : Switches) : List Char → Option (Atom × List Char)
  | [] => none
  | '\\' :: rest => readEscape? switches rest
  | c :: rest => some (.literal c false, rest)

/-- Reads the end of a range that starts with a part. -/
def readRangeEnd? (switches : Switches) (first : Atom) (cs : List Char) : Option (List Char) :=
  match first, readAtom? switches (switches.skip cs) with
  | .literal a _, some (.literal b _, rest) =>
    if a ≤ b ∧ switches.allowsMember a ∧ switches.allowsMember b then some rest else none
  | _, _ => none

/-- Reads a member that is a single part or a range. A hyphen makes no range in front of a closing
bracket and of another hyphen. -/
def readMember? (switches : Switches) (cs : List Char) : Option (List Char) :=
  (readAtom? switches cs).bind fun (atom, rest) =>
    match switches.skip rest with
    | '-' :: behind =>
      if switches.peek? behind = some ']' ∨ switches.peek? behind = some '-' then
        if switches.allowsInClass atom then some ('-' :: behind) else none
      else readRangeEnd? switches atom behind
    | rest => if switches.allowsInClass atom then some rest else none

/-- Reads one member, bracket or join inside the innermost of the open classes. A closed class is a
member of the one around it. -/
def classStep? (switches : Switches) (level : OpenClass) (outer : List OpenClass)
    (cs : List Char) : Option (List OpenClass × List Char) :=
  match switches.skip cs with
  | [] => none
  | '-' :: rest =>
    if level.fresh then
      if switches.allowsMember '-' then some (level.pushHyphen :: outer, rest) else none
    else match rest with
      | '-' :: rest => some (level.join :: outer, rest)
      | _ => (readMember? switches ('-' :: rest)).map fun rest => (level.push 0 :: outer, rest)
  | ']' :: rest =>
    if level.fresh ∧ level.members.count = 0 then
      if switches.allowsMember ']' then some (level.push 0 :: outer, rest) else none
    else match outer with
      | around :: outer => some (around.push (1 + level.depth) :: outer, rest)
      | [] => none
  | '[' :: rest =>
    match readAsciiClass? rest with
    | some (negated, rest) =>
      if switches.allowsAsciiClass negated then some (level.push 0 :: outer, rest) else none
    | none => (openClass? switches rest).map fun (inner, rest) => (inner :: level :: outer, rest)
  | '&' :: '&' :: rest => some (level.join :: outer, rest)
  | '~' :: '~' :: rest => some (level.join :: outer, rest)
  | cs => (readMember? switches cs).map fun rest => (level.push 0 :: outer, rest)

/-- Reads until only the level around all classes is left; gives the depth of its last member, the
class that was read, and the rest of the text. -/
def readClasses? (switches : Switches) (levels : List OpenClass) (cs : List Char) :
    Option (Nat × List Char) :=
  match levels with
  | [] => none
  | [around] => some (around.members.last, cs)
  | level :: outer =>
    match classStep? switches level outer cs with
    | some (levels, rest) =>
      if rest.length < cs.length then readClasses? switches levels rest else none
    | none => none
termination_by cs.length

/-- Reads a class after its bracket; gives its depth and the rest of the text. -/
def readClass? (switches : Switches) (cs : List Char) : Option (Nat × List Char) :=
  (openClass? switches cs).bind fun (level, rest) => readClasses? switches [level, {}] rest

end MessageBroker.Pattern
