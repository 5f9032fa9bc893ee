/-!
# Log events

What a program says about its run: a level, the part of the program that speaks, a message and named
values.
-/

set_option autoImplicit false

namespace MessageBroker

/-- Weight of an event, heaviest first. -/
inductive LogLevel where
  | error
  | warn
  | info
  | debug
  | trace
  deriving DecidableEq, Repr

namespace LogLevel

/-- Position of a level: the lighter, the larger. -/
def rank : LogLevel → Nat
  | error => 1
  | warn => 2
  | info => 3
  | debug => 4
  | trace => 5

/-- Name of a level. -/
def name : LogLevel → String
  | error => "ERROR"
  | warn => "WARN"
  | info => "INFO"
  | debug => "DEBUG"
  | trace => "TRACE"

end LogLevel

/-- An event. -/
structure LogEvent where
  level : LogLevel
  /-- The part of the program that speaks. -/
  target : String
  message : String
  /-- Named values in order. -/
  fields : List (String × String) := []
  deriving DecidableEq, Repr

namespace LogEvent

/-- The event in one line. -/
def text (event : LogEvent) : String :=
  " ".intercalate (event.level.name :: event.message :: event.fields.map fun field =>
    field.1 ++ "=" ++ field.2)

/-- Value of a field. -/
def field? (event : LogEvent) (name : String) : Option String := event.fields.lookup name

/-- The event without one of its fields. -/
def withoutField (event : LogEvent) (name : String) : LogEvent :=
  { event with fields := event.fields.filter fun field => field.1 ≠ name }

end LogEvent

end MessageBroker
