import MessageBroker.Number.Hexadecimal
import MessageBroker.Pattern.Switches

/-!
# Escapes of a pattern

What a backslash and the characters behind it stand for. Every ASCII character but letters, digits
and angle brackets may be escaped and stands for itself; some letters are control characters, edges
or classes, and `x`, `u` and `U` begin a code point of two, four or eight hexadecimal digits. There
are no references to groups and no classes by property.
-/

set_option autoImplicit false

namespace MessageBroker.Pattern

/-- A single part of a pattern. -/
inductive Atom where
  /-- A character that stands for itself; `isByte` is true of one written as two hexadecimal
  digits. -/
  | literal (c : Char) (isByte : Bool)
  /-- Digits, blanks or letters of words, or all others. -/
  | namedClass (negated : Bool)
  /-- Beginning or end of the text or of a line. -/
  | edge
  /-- Beginning, end or inside of a word. -/
  | wordEdge
  deriving DecidableEq, Repr

/-- Reads hexadecimal digits into a value. -/
def readHex? (switches : Switches) : Nat → Nat → List Char → Option (Nat × List Char)
  | 0, value, cs => some (value, cs)
  | count + 1, value, cs =>
    match switches.skip cs with
    | [] => none
    | c :: rest =>
      (Hexadecimal.digit? c).bind fun digit =>
        readHex? switches count (16 * value + digit) rest

/-- Reads a code point of a number of hexadecimal digits. -/
def readCodePoint? (switches : Switches) (count : Nat) (cs : List Char) :
    Option (Atom × List Char) :=
  (readHex? switches count 0 cs).bind fun (code, rest) =>
    if code.isValidChar then some (.literal (Char.ofNat code) (count == 2), rest) else none

/-- What a character behind a backslash stands for without the ones after it. -/
def shortEscape? (c : Char) : Option Atom :=
  if 127 < c.toNat then none
  else if !c.isAlphanum && c != '<' && c != '>' then some (.literal c false)
  else match c with
    | 'a' => some (.literal '\x07' false)
    | 'f' => some (.literal '\x0c' false)
    | 't' => some (.literal '\t' false)
    | 'n' => some (.literal '\n' false)
    | 'r' => some (.literal '\r' false)
    | 'v' => some (.literal '\x0b' false)
    | 'A' | 'z' => some .edge
    | 'b' | 'B' | '<' | '>' => some .wordEdge
    | 'd' | 's' | 'w' => some (.namedClass false)
    | 'D' | 'S' | 'W' => some (.namedClass true)
    | _ => none

/-- Reads what follows a backslash. -/
def readEscape? (switches : Switches) : List Char → Option (Atom × List Char)
  | [] => none
  | 'x' :: rest => readCodePoint? switches 2 rest
  | 'u' :: rest => readCodePoint? switches 4 rest
  | 'U' :: rest => readCodePoint? switches 8 rest
  | c :: rest => (shortEscape? c).map fun atom => (atom, rest)

/-- True of the parts that a pattern may hold outside classes. -/
def Switches.allows (switches : Switches) : Atom → Bool
  | .literal c isByte => switches.allowsLiteral c isByte
  | .namedClass negated => switches.allowsNamedClass negated
  | .edge => true
  | .wordEdge => switches.allowsWordEdge

/-- True of the parts that a class may hold. -/
def Switches.allowsInClass (switches : Switches) : Atom → Bool
  | .literal c _ => switches.allowsMember c
  | .namedClass negated => switches.allowsNamedClass negated
  | .edge | .wordEdge => false

end MessageBroker.Pattern
