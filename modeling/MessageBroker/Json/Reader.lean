import MessageBroker.Json.Document
import MessageBroker.Number.Hexadecimal

/-!
# Reading documents

The grammar of JSON over lists of characters. Blanks are space, tab, newline and carriage return; a
number has no leading zeros, at least one digit after a point and in an exponent; nothing but blanks
may follow the outermost value. Each reader gives the value it read and the rest of the text. The
readers of nested values count down a bound that twice the length of the text exceeds.
-/

set_option autoImplicit false

namespace MessageBroker.Document

/-- Blanks between the tokens of a document. -/
def isSeparator (c : Char) : Bool := c == ' ' || c == '\t' || c == '\n' || c == '\r'

/-- Drops blanks. -/
def skipSeparators (cs : List Char) : List Char := cs.dropWhile isSeparator

/-- Value of four hexadecimal digits. -/
def hexCode? (a b c d : Char) : Option Nat := do
  return 0x1000 * (← Hexadecimal.digit? a) + 0x100 * (← Hexadecimal.digit? b) +
    0x10 * (← Hexadecimal.digit? c) + (← Hexadecimal.digit? d)

/-- Character of a one-letter escape. -/
def shortEscape? (c : Char) : Option Char :=
  match c with
  | '"' => some '"'
  | '\\' => some '\\'
  | '/' => some '/'
  | 'b' => some '\x08'
  | 'f' => some '\x0c'
  | 'n' => some '\n'
  | 'r' => some '\r'
  | 't' => some '\t'
  | _ => none

/-- First halves of surrogate pairs. -/
def isHighSurrogate (code : Nat) : Bool := 0xD800 ≤ code && code ≤ 0xDBFF

/-- Second halves of surrogate pairs. -/
def isLowSurrogate (code : Nat) : Bool := 0xDC00 ≤ code && code ≤ 0xDFFF

/-- Puts a code unit in front; a first half joins the second half behind it. -/
def pushCode (code : Nat) (units : List TextUnit) : List TextUnit :=
  if isHighSurrogate code then
    match units with
    | .surrogate low :: rest =>
      if isLowSurrogate low then
        .char (Char.ofNat (0x10000 + 0x400 * (code - 0xD800) + (low - 0xDC00))) :: rest
      else .surrogate code :: units
    | _ => .surrogate code :: units
  else if isLowSurrogate code then .surrogate code :: units
  else .char (Char.ofNat code) :: units

/-- A character that stands for itself. -/
def plainUnit (c : Char) : TextUnit := if c.toNat < 0x20 then .bareControl c else .char c

/-- Reads a string after its opening quote. -/
def readUnits : List Char → Option (List TextUnit × List Char)
  | [] => none
  | '"' :: rest => some ([], rest)
  | '\\' :: 'u' :: a :: b :: c :: d :: rest =>
    match hexCode? a b c d, readUnits rest with
    | some code, some (units, rest) => some (pushCode code units, rest)
    | _, _ => none
  | '\\' :: e :: rest =>
    match shortEscape? e, readUnits rest with
    | some c, some (units, rest) => some (.char c :: units, rest)
    | _, _ => none
  | c :: rest =>
    if c = '\\' then none
    else match readUnits rest with
      | some (units, rest) => some (plainUnit c :: units, rest)
      | none => none

/-- Reads at least one digit. -/
def readDigits (cs : List Char) : Option (List Char × List Char) :=
  match cs.span Char.isDigit with
  | ([], _) => none
  | (digits, rest) => some (digits, rest)

/-- Reads the digits before the point: a zero alone, or digits that begin with another one. -/
def readWhole : List Char → Option (List Char × List Char)
  | '0' :: rest =>
    match rest with
    | c :: _ => if c.isDigit then none else some (['0'], rest)
    | [] => some (['0'], rest)
  | cs => readDigits cs

/-- Reads a point and digits, if there is a point. -/
def readFraction : List Char → Option (Option (List Char) × List Char)
  | '.' :: rest => (readDigits rest).map fun (digits, rest) => (some digits, rest)
  | cs => some (none, cs)

/-- Reads the sign of an exponent; true is negative. -/
def readSign : List Char → Bool × List Char
  | '+' :: rest => (false, rest)
  | '-' :: rest => (true, rest)
  | cs => (false, cs)

/-- Reads an exponent, if there is one. -/
def readExponent : List Char → Option (Option (Bool × List Char) × List Char)
  | c :: rest =>
    if c = 'e' ∨ c = 'E' then
      let (negative, rest) := readSign rest
      (readDigits rest).map fun (digits, rest) => (some (negative, digits), rest)
    else some (none, c :: rest)
  | [] => some (none, [])

/-- Reads a number without its sign. -/
def readUnsigned (negative : Bool) (cs : List Char) : Option (NumberLiteral × List Char) := do
  let (whole, cs) ← readWhole cs
  let (fraction, cs) ← readFraction cs
  let (exponent, cs) ← readExponent cs
  return (⟨negative, whole, fraction, exponent⟩, cs)

/-- Reads a number. -/
def readNumber : List Char → Option (NumberLiteral × List Char)
  | '-' :: rest => readUnsigned true rest
  | cs => readUnsigned false cs

mutual

/-- Reads one value. -/
def readValue : Nat → List Char → Option (Document × List Char)
  | 0, _ => none
  | bound + 1, cs =>
    match skipSeparators cs with
    | 'n' :: 'u' :: 'l' :: 'l' :: rest => some (.null, rest)
    | 't' :: 'r' :: 'u' :: 'e' :: rest => some (.bool true, rest)
    | 'f' :: 'a' :: 'l' :: 's' :: 'e' :: rest => some (.bool false, rest)
    | '"' :: rest => (readUnits rest).map fun (units, rest) => (.string units, rest)
    | '[' :: rest =>
      match skipSeparators rest with
      | ']' :: rest => some (.array [], rest)
      | rest => (readItems bound rest).map fun (items, rest) => (.array items, rest)
    | '{' :: rest =>
      match skipSeparators rest with
      | '}' :: rest => some (.object [], rest)
      | rest => (readMembers bound rest).map fun (members, rest) => (.object members, rest)
    | cs => (readNumber cs).map fun (literal, rest) => (.number literal, rest)

/-- Reads the items of an array up to its closing bracket, at least one. -/
def readItems : Nat → List Char → Option (List Document × List Char)
  | 0, _ => none
  | bound + 1, cs =>
    match readValue bound cs with
    | none => none
    | some (item, rest) =>
      match skipSeparators rest with
      | ',' :: rest => (readItems bound rest).map fun (items, rest) => (item :: items, rest)
      | ']' :: rest => some ([item], rest)
      | _ => none

/-- Reads the members of an object up to its closing brace, at least one. -/
def readMembers : Nat → List Char → Option (List (List TextUnit × Document) × List Char)
  | 0, _ => none
  | bound + 1, cs =>
    match skipSeparators cs with
    | '"' :: rest =>
      match readUnits rest with
      | none => none
      | some (key, rest) =>
        match skipSeparators rest with
        | ':' :: rest =>
          match readValue bound rest with
          | none => none
          | some (value, rest) =>
            match skipSeparators rest with
            | ',' :: rest =>
              (readMembers bound rest).map fun (members, rest) => ((key, value) :: members, rest)
            | '}' :: rest => some ([(key, value)], rest)
            | _ => none
        | _ => none
    | _ => none

end

/-- Reads a whole text. -/
def read? (cs : List Char) : Option Document :=
  match readValue (2 * cs.length + 2) cs with
  | some (document, rest) => if skipSeparators rest = [] then some document else none
  | none => none

end MessageBroker.Document
