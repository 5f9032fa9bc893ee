import MessageBroker.Number.Hexadecimal
import MessageBroker.Text.Invisible

/-!
# Quoted text

A text in double quotes as it is shown in messages. A quote and a backslash get a backslash before
them, tab, newline, carriage return and NUL have a short form, every other character without a
visible form is written by its code point in braces, and the rest stands for itself.
-/

set_option autoImplicit false

namespace MessageBroker.Text

/-- One character inside quotes. -/
def quoteChar (c : Char) : List Char :=
  if c = '"' then ['\\', '"']
  else if c = '\\' then ['\\', '\\']
  else if c = '\t' then ['\\', 't']
  else if c = '\n' then ['\\', 'n']
  else if c = '\r' then ['\\', 'r']
  else if c.toNat = 0 then ['\\', '0']
  else if isInvisible c then ['\\', 'u', '{'] ++ Hexadecimal.digits c.toNat ++ ['}']
  else [c]

/-- A text in quotes. -/
def quote (s : String) : String :=
  String.ofList ('"' :: s.toList.flatMap quoteChar ++ ['"'])

end MessageBroker.Text
