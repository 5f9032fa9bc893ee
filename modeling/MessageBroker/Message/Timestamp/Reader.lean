import MessageBroker.Message.Timestamp
import MessageBroker.Text.Blank

/-!
# Reading points in time

A date, a separator, a time of day and a zone. Blanks may stand before each number and separator and
at the end, numbers may be short, and a year with a sign may be long. The separator is a T in either
case or a space. Fraction digits after the ninth are dropped. A zone is `Z` or `UTC` in either case,
or an offset of hours and minutes of less than a day, with or without a colon between them. What is
read is taken to UTC.
-/

set_option autoImplicit false

namespace MessageBroker.Timestamp

open Text (trimStart isBlank)

/-- Reads at least one and at most `width` digits. -/
def takeDigits (width : Nat) (cs : List Char) : Option (Nat × List Char) :=
  let run := (cs.take width).takeWhile Char.isDigit
  if run = [] then none else some (Decimal.value run, cs.drop run.length)

/-- Reads a number of one or two digits after blanks. -/
def takeField (cs : List Char) : Option (Nat × List Char) := takeDigits 2 (trimStart cs)

/-- Passes over one character after blanks. -/
def pass (c : Char) (cs : List Char) : Option (List Char) :=
  match trimStart cs with
  | first :: rest => if first = c then some rest else none
  | [] => none

/-- Reads a year: up to four digits, or any number of digits after a sign. -/
def takeYear (cs : List Char) : Option (Int × List Char) :=
  match trimStart cs with
  | '-' :: rest => (takeDigits rest.length rest).map fun (n, rest) => (Int.negOfNat n, rest)
  | '+' :: rest => (takeDigits rest.length rest).map fun (n, rest) => ((n : Int), rest)
  | cs => (takeDigits 4 cs).map fun (n, rest) => ((n : Int), rest)

/-- Reads a date. -/
def takeDate (cs : List Char) : Option (Date × List Char) := do
  let (year, cs) ← takeYear cs
  let cs ← pass '-' cs
  let (month, cs) ← takeField cs
  let cs ← pass '-' cs
  let (day, cs) ← takeField cs
  return (⟨year, month, day⟩, cs)

/-- Passes over the separator between date and time of day. -/
def passSeparator : List Char → Option (List Char)
  | c :: rest => if c = 'T' ∨ c = 't' ∨ c = ' ' then some rest else none
  | [] => none

/-- Reads a fraction of a second in nanoseconds, if there is a point. -/
def takeFraction : List Char → Option (Nat × List Char)
  | '.' :: rest =>
    let run := (rest.take 9).takeWhile Char.isDigit
    if run = [] then none
    else some (Decimal.value run * Nat.pow 10 (9 - run.length), rest.dropWhile Char.isDigit)
  | cs => some (0, cs)

/-- Digit of a character, if it is one. -/
def digit? (c : Char) : Option Nat := if c.isDigit then some (c.toNat - '0'.toNat) else none

/-- Reads hours and minutes of an offset, in minutes. -/
def takeOffset : List Char → Option (Nat × List Char)
  | h₁ :: h₂ :: rest =>
    match rest.dropWhile fun c => c == ':' || isBlank c with
    | m₁ :: m₂ :: rest => do
      let hours := 10 * (← digit? h₁) + (← digit? h₂)
      let minutes := 10 * (← digit? m₁) + (← digit? m₂)
      if minutes ≤ 59 then some (60 * hours + minutes, rest) else none
    | _ => none
  | _ => none

/-- Reads a zone: its offset from UTC in minutes. -/
def takeZone : List Char → Option (Int × List Char)
  | c :: rest =>
    if c = 'Z' ∨ c = 'z' then some (0, rest)
    else if c = '+' then (takeOffset rest).map fun (n, rest) => ((n : Int), rest)
    else if c = '-' ∨ c = '\u2212' then
      (takeOffset rest).map fun (n, rest) => (Int.negOfNat n, rest)
    else if ((c :: rest).take 3).map Char.toUpper = ['U', 'T', 'C'] then some (0, rest.drop 2)
    else none
  | [] => none

/-- Reads a point in time. -/
def read? (s : String) : Option Timestamp := do
  let (date, cs) ← takeDate s.toList
  let cs ← passSeparator cs
  let (hour, cs) ← takeField cs
  let cs ← pass ':' cs
  let (minute, cs) ← takeField cs
  let cs ← pass ':' cs
  let (second, cs) ← takeField cs
  let (nanosecond, cs) ← takeFraction cs
  let (offset, cs) ← takeZone (trimStart cs)
  let shown : Timestamp := ⟨date, hour, minute, second, nanosecond⟩
  let t := shown.ofLocal offset
  if trimStart cs = [] ∧ shown.isValid ∧ offset.natAbs < 1440 ∧ t.isValid then some t else none

end MessageBroker.Timestamp
