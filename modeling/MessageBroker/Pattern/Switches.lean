import MessageBroker.Text.Blank

/-!
# Switches of a pattern

Letters such as those of `(?i-u)` switch how the pattern behind them is taken: the ones before a
hyphen on, the ones after it off. They decide as well what the pattern may hold. Patterns are
matched without tables of character properties, so a pattern of characters has no named classes, no
edges of words and no letters in either case. A pattern of bytes has all three for ASCII, but
nothing that would match a part of a character.
-/

set_option autoImplicit false

namespace MessageBroker.Pattern

/-- Switches in force at a place of a pattern. -/
structure Switches where
  /-- Letters are matched in either case. -/
  ignoreCase : Bool := false
  /-- The text is matched by characters, not by bytes. -/
  unicode : Bool := true
  /-- Blanks and comments between the parts do not count. -/
  spaced : Bool := false
  deriving DecidableEq, Repr

/-- Letters of the switches, and the hyphen between those for on and those for off. -/
def switchLetters : List Char := ['i', 'm', 's', 'U', 'u', 'R', 'x', '-']

/-- True of a text of switches: each letter at most once, and none missing after a hyphen. -/
def isSwitchText (cs : List Char) : Bool :=
  cs.all switchLetters.contains && cs.eraseDups == cs && cs.getLast? != some '-'

/-- Drops blanks and comments; a comment ends with its line. -/
def skipSpacing (inComment : Bool) : List Char → List Char
  | [] => []
  | c :: rest =>
    if inComment then skipSpacing (c != '\n') rest
    else if Text.isBlank c then skipSpacing false rest
    else if c = '#' then skipSpacing true rest
    else c :: rest

namespace Switches

/-- The switches after a text of switches. -/
def apply (switches : Switches) (text : List Char) : Switches :=
  let state (letter : Char) (current : Bool) : Bool :=
    if (text.takeWhile (· != '-')).contains letter then true
    else current && !text.contains letter
  { ignoreCase := state 'i' switches.ignoreCase
    unicode := state 'u' switches.unicode
    spaced := state 'x' switches.spaced }

/-- Passes over what does not count at the front. -/
def skip (switches : Switches) (cs : List Char) : List Char :=
  if switches.spaced then skipSpacing false cs else cs

/-- The next character that counts; here only the sign that begins a comment is passed over, not
the comment. -/
def peek? (switches : Switches) (cs : List Char) : Option Char :=
  if switches.spaced then
    match Text.trimStart cs with
    | '#' :: rest => (Text.trimStart rest).head?
    | rest => rest.head?
  else cs.head?

/-- True of characters that may stand for themselves; `isByte` is true of one written as two
hexadecimal digits. -/
def allowsLiteral (switches : Switches) (c : Char) (isByte : Bool) : Bool :=
  if switches.unicode then !switches.ignoreCase else !isByte || c.toNat < 128

/-- True of characters that may be members of a class. -/
def allowsMember (switches : Switches) (c : Char) : Bool :=
  if switches.unicode then !switches.ignoreCase else c.toNat < 128

/-- True when a point may stand for any character. -/
def allowsAnyChar (switches : Switches) : Bool := switches.unicode

/-- True when a class may be negated. -/
def allowsNegation (switches : Switches) : Bool := switches.unicode

/-- True of the escapes for digits, blanks and letters of words, and for the opposites. -/
def allowsNamedClass (switches : Switches) (negated : Bool) : Bool :=
  !switches.unicode && !negated

/-- True of ASCII classes by name, and of their opposites. -/
def allowsAsciiClass (switches : Switches) (negated : Bool) : Bool :=
  if switches.unicode then !switches.ignoreCase else !negated

/-- True when edges of words may be asked for. -/
def allowsWordEdge (switches : Switches) : Bool := !switches.unicode

end Switches

end MessageBroker.Pattern
