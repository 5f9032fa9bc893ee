import MessageBroker.Log.Event
import MessageBroker.Number.Decimal
import MessageBroker.Pattern
import MessageBroker.Text.Alphanumeric
import MessageBroker.Text.Blank

/-!
# Log filters

A filter is a list of directives separated by commas, each of the form `level`, `target`,
`target=level` or `target[span{field=value}]=level` with optional parts; a value is a number or a
pattern. An event is shown when the most specific directive that concerns it lets its level through:
the one with the longest target, then the one with the most fields, then the one whose fields come
last in order, then the last one. Directives for spans concern no event outside spans, and the
events here are all outside. Without any directive, errors are shown.
-/

set_option autoImplicit false

namespace MessageBroker

/-- One rule of a filter. -/
structure LogDirective where
  /-- Beginning of the targets it concerns; all targets when missing. -/
  target : Option String := none
  span : Option String := none
  /-- Names of fields an event must have; true for a field that must have a value as well. -/
  fields : List (String × Bool) := []
  /-- Lightest level it lets through; `none` lets nothing through. -/
  threshold : Option LogLevel := some .trace
  deriving DecidableEq, Repr

/-- Where the reader of a directive stands, with the position at which the current piece began. -/
inductive DirectiveMode where
  | start
  | word (since : Nat)
  | span (since : Nat)
  | field (since : Nat)
  /-- Behind the fields. -/
  | fields
  /-- Behind the brackets. -/
  | bracketed
  | level (since : Nat)
  deriving DecidableEq, Repr

namespace LogDirective

/-- Reads a level: a name in upper or lower case, or a number from 0 for off to 5. -/
def level? (cs : List Char) : Option (Option LogLevel) :=
  match Decimal.readWord? cs with
  | some 0 => some none
  | some 1 => some (some .error)
  | some 2 => some (some .warn)
  | some 3 => some (some .info)
  | some 4 => some (some .debug)
  | some 5 => some (some .trace)
  | _ =>
    match String.ofList (cs.map Char.toLower) with
    | "off" => some none
    | "error" => some (some .error)
    | "warn" => some (some .warn)
    | "info" => some (some .info)
    | "debug" => some (some .debug)
    | "trace" => some (some .trace)
    | _ => none

/-- Characters a directive may begin with, apart from a bracket. -/
def isFirstChar (c : Char) : Bool := c == '-' || c == ':' || c == '_' || Text.isAlphanumeric c

/-- True of the values a field may be compared with: numbers and patterns. Truth values are
patterns as well. -/
def isFieldValue (cs : List Char) : Bool := Decimal.isReal cs || Pattern.isPattern cs

/-- Reads a field: a name, and a value behind an equals sign, which ends at another one. -/
def field? (cs : List Char) : Option (String × Bool) :=
  match cs.span (· != '=') with
  | (name, []) => some (String.ofList name, false)
  | (name, _ :: rest) =>
    if isFieldValue (rest.takeWhile (· != '=')) then some (String.ofList name, true) else none

/-- The reader after one character at a position; `cut` gives the text between two positions. -/
def step (cut : Nat → Nat → List Char) (position : Nat) (c : Char) (directive : LogDirective) :
    DirectiveMode → Option (DirectiveMode × LogDirective)
  | .start =>
    if c = '[' then some (.span (position + 1), directive)
    else if isFirstChar c then some (.word position, directive)
    else none
  | .word since =>
    let named := { directive with target := some (String.ofList (cut since position)) }
    if c = '=' then some (.level (position + 1), named)
    else if c = '[' then some (.span (position + 1), named)
    else some (.word since, directive)
  | .span since =>
    let span := cut since position
    if c = ']' then some (.bracketed, { directive with span := some (String.ofList span) })
    else if c = '{' then
      some (.field (position + 1),
        { directive with span := if span = [] then none else some (String.ofList span) })
    else some (.span since, directive)
  | .field since =>
    let name := cut since position
    if c = '}' then
      if name = [] then none
      else (field? name).map fun field =>
        (.fields, { directive with fields := directive.fields ++ [field] })
    else some (.field since, directive)
  | .fields => if c = ']' then some (.bracketed, directive) else none
  | .bracketed => if c = '=' then some (.level (position + 1), directive) else none
  | .level since => some (.level since, directive)

/-- The directive at the end of its text; `rest` gives the text from a position on. -/
def finish? (rest : Nat → List Char) (directive : LogDirective) :
    DirectiveMode → Option LogDirective
  | .word since =>
    match level? (rest since) with
    | some threshold => some { directive with threshold }
    | none => some { directive with target := some (String.ofList (rest since)) }
  | .level since =>
    if rest since = [] then some directive
    else (level? (rest since)).map fun threshold => { directive with threshold }
  | .bracketed => some directive
  | _ => none

/-- Reads a directive from the given mode and position on. -/
def scan (cut : Nat → Nat → List Char) (rest : Nat → List Char) (mode : DirectiveMode)
    (directive : LogDirective) (position : Nat) : List Char → Option LogDirective
  | [] => directive.finish? rest mode
  | c :: cs =>
    match step cut position c directive mode with
    | none => none
    | some (mode, directive) => scan cut rest mode directive (position + 1) cs

/-- Reads a directive. The blanks around it are not scanned, but pieces are cut by their positions
from the text as it stands, so a blank becomes part of a piece. -/
def read? (cs : List Char) : Option LogDirective :=
  scan (fun first last => (cs.drop first).take (last - first)) (fun first => cs.drop first)
    .start {} 0 (Text.trim cs)

/-- True of a directive that concerns an event outside spans. -/
def concerns (directive : LogDirective) (event : LogEvent) : Bool :=
  directive.span.isNone &&
    (directive.target.all fun target => target.toList.isPrefixOf event.target.toList) &&
    directive.fields.all fun field =>
      !field.2 && (field.1 == "message" || (event.field? field.1).isSome)

/-- Order by specificity: length of the target, number of fields, names of the fields. Targets of
one length that concern the same event are equal. -/
def specificity (a b : LogDirective) : Ordering :=
  let length (directive : LogDirective) : Nat :=
    (directive.target.map fun target => target.length + 1).getD 0
  (compare (length a) (length b)).then <|
    (compare a.fields.length b.fields.length).then <|
      compare (a.fields.map (·.1)) (b.fields.map (·.1))

/-- True of an event whose level the directive lets through. -/
def letsThrough (directive : LogDirective) (event : LogEvent) : Bool :=
  directive.threshold.any fun threshold => event.level.rank ≤ threshold.rank

end LogDirective

/-- Which events are shown. -/
structure LogFilter where
  directives : List LogDirective
  deriving DecidableEq, Repr

namespace LogFilter

/-- Splits a text at commas. -/
def splitCommas : List Char → List (List Char)
  | [] => [[]]
  | c :: rest =>
    if c = ',' then [] :: splitCommas rest
    else match splitCommas rest with
      | piece :: pieces => (c :: piece) :: pieces
      | [] => [[c]]

/-- Reads a filter; nothing when a directive is malformed. Empty pieces are passed over. -/
def read? (s : String) : Option LogFilter :=
  (((splitCommas s.toList).filter (· ≠ [])).mapM LogDirective.read?).map fun directives =>
    if directives = [] then ⟨[{ threshold := some .error }]⟩ else ⟨directives⟩

/-- The most specific directive that concerns an event. -/
def directiveFor? (filter : LogFilter) (event : LogEvent) : Option LogDirective :=
  (filter.directives.filter (·.concerns event)).foldl
    (fun best directive =>
      match best with
      | some other => if (directive.specificity other).isGE then some directive else some other
      | none => some directive)
    none

/-- True of the events that are shown. -/
def shows (filter : LogFilter) (event : LogEvent) : Bool :=
  (filter.directiveFor? event).any (·.letsThrough event)

end LogFilter

end MessageBroker
