import MessageBroker.Pattern.Class
import MessageBroker.Text.Alphabetic

/-!
# Patterns

`isPattern` tells which texts are regular expressions that can be matched. A pattern is a choice of
alternatives, each a run of characters, points, classes, edges, groups and repetitions of these. A
group may have a name, which no other group has, or switches; switches without a group hold up to
the end of the group around them. Patterns may nest 250 deep, where groups, repetitions, choices and
runs of several parts each count.

The texts come from places that a closing brace ends, so no repetition with a count is ever
complete, and an opening brace stands for nothing outside a class.
-/

set_option autoImplicit false

namespace MessageBroker.Pattern

/-- Depth to which patterns may nest. -/
def maxDepth : Nat := 250

/-- A group that is not closed yet, or the whole pattern. -/
structure OpenGroup where
  /-- Switches in force after the last part. -/
  switches : Switches := {}
  /-- Parts of the last alternative. -/
  parts : Pieces := {}
  /-- Depth of the deepest alternative before the last one. -/
  alternatives : Option Nat := none
  /-- True when the last part may be repeated. -/
  repeatable : Bool := false
  deriving DecidableEq, Repr

namespace OpenGroup

/-- Adds a part of a depth. -/
def push (level : OpenGroup) (depth : Nat) : OpenGroup :=
  { level with parts := level.parts.push depth, repeatable := true }

/-- Adds switches, which cannot be repeated. -/
def turn (level : OpenGroup) (switches : Switches) : OpenGroup :=
  { level with switches, parts := level.parts.push 0, repeatable := false }

/-- Repeats the last part, if there is one to repeat. -/
def repeatLast? (level : OpenGroup) : Option OpenGroup :=
  if level.repeatable then
    some { level with parts := { level.parts with last := level.parts.last + 1 } }
  else none

/-- Begins another alternative. -/
def choose (level : OpenGroup) : OpenGroup :=
  { switches := level.switches
    alternatives := some (max (level.alternatives.getD 0) level.parts.depth) }

/-- Depth of what the group holds. -/
def depth (level : OpenGroup) : Nat :=
  match level.alternatives with
  | some deepest => 1 + max deepest level.parts.depth
  | none => level.parts.depth

end OpenGroup

/-- What the characters after an opening parenthesis begin. -/
inductive GroupHead where
  | group (switches : Switches)
  | named (name : List Char)
  | switches (switches : Switches)
  deriving DecidableEq, Repr

/-- True of the names of groups. -/
def isGroupName : List Char → Bool
  | [] => false
  | c :: rest =>
    (c == '_' || Text.isAlphabetic c) &&
      rest.all fun c => ['_', '.', '[', ']'].contains c || Text.isAlphanumeric c

/-- Reads the name of a group up to its closing bracket. -/
def readGroupName? (cs : List Char) : Option (GroupHead × List Char) :=
  match cs.span (· != '>') with
  | (name, '>' :: rest) => if isGroupName name then some (.named name, rest) else none
  | _ => none

/-- Reads switches up to a colon, which begins a group, or to a closing parenthesis. -/
def readSwitches? (switches : Switches) (cs : List Char) : Option (GroupHead × List Char) :=
  match cs.span fun c => c != ':' && c != ')' with
  | (text, ':' :: rest) =>
    if isSwitchText text then some (.group (switches.apply text), rest) else none
  | (text, ')' :: rest) =>
    if isSwitchText text ∧ text ≠ [] then some (.switches (switches.apply text), rest) else none
  | _ => none

/-- Reads what follows an opening parenthesis. -/
def readGroupHead? (switches : Switches) (cs : List Char) : Option (GroupHead × List Char) :=
  match switches.skip cs with
  | '?' :: 'P' :: '<' :: rest => readGroupName? rest
  | '?' :: '<' :: rest => readGroupName? rest
  | '?' :: rest => readSwitches? switches rest
  | rest => some (.group switches, rest)

/-- A pattern of which a part is read. -/
structure OpenPattern where
  level : OpenGroup := {}
  /-- Groups around the innermost one. -/
  outer : List OpenGroup := []
  /-- Names of groups. -/
  names : List (List Char) := []
  deriving DecidableEq, Repr

namespace OpenPattern

/-- Adds a part of a depth. -/
def push (pattern : OpenPattern) (depth : Nat) : OpenPattern :=
  { pattern with level := pattern.level.push depth }

/-- Begins a group. -/
def enter (pattern : OpenPattern) (switches : Switches) : OpenPattern :=
  { pattern with level := { switches }, outer := pattern.level :: pattern.outer }

/-- Ends the innermost group. -/
def leave? (pattern : OpenPattern) : Option OpenPattern :=
  match pattern.outer with
  | around :: outer =>
    some { pattern with level := around.push (1 + pattern.level.depth), outer }
  | [] => none

/-- Begins what stands after an opening parenthesis. -/
def start? (pattern : OpenPattern) : GroupHead → Option OpenPattern
  | .group switches => some (pattern.enter switches)
  | .named name =>
    if pattern.names.contains name then none
    else some { pattern.enter pattern.level.switches with names := name :: pattern.names }
  | .switches switches => some { pattern with level := pattern.level.turn switches }

/-- Reads the part that a character begins. A question mark behind a repetition makes it a short
one. -/
def step? (pattern : OpenPattern) (c : Char) (rest : List Char) :
    Option (OpenPattern × List Char) :=
  let switches := pattern.level.switches
  match c with
  | '(' =>
    (readGroupHead? switches rest).bind fun (head, rest) =>
      (pattern.start? head).map fun pattern => (pattern, rest)
  | ')' => pattern.leave?.map fun pattern => (pattern, rest)
  | '|' => some ({ pattern with level := pattern.level.choose }, rest)
  | '[' => (readClass? switches rest).map fun (depth, rest) => (pattern.push depth, rest)
  | '?' | '*' | '+' =>
    pattern.level.repeatLast?.map fun level =>
      ({ pattern with level }, if rest.head? = some '?' then rest.tail else rest)
  | '{' => none
  | '.' => if switches.allowsAnyChar then some (pattern.push 0, rest) else none
  | '^' | '$' => some (pattern.push 0, rest)
  | c =>
    (readAtom? switches (c :: rest)).bind fun (atom, rest) =>
      if switches.allows atom then some (pattern.push 0, rest) else none

/-- True when the rest of a text completes the pattern. -/
def isCompletedBy (pattern : OpenPattern) (cs : List Char) : Bool :=
  match pattern.level.switches.skip cs with
  | [] => pattern.outer = [] && pattern.level.depth ≤ maxDepth
  | c :: rest =>
    match pattern.step? c rest with
    | some (pattern, rest) => if rest.length < cs.length then pattern.isCompletedBy rest else false
    | none => false
termination_by cs.length

end OpenPattern

/-- True of the texts that are patterns. -/
def isPattern (cs : List Char) : Bool := OpenPattern.isCompletedBy {} cs

end MessageBroker.Pattern
