/-!
# Blank text

The blank characters are those with the Unicode property White_Space. Zero-width characters such as
U+200B and U+FEFF and the information separators U+001C to U+001F are not among them.
-/

set_option autoImplicit false

namespace MessageBroker.Text

/-- Blank characters. -/
def isBlank (c : Char) : Bool :=
  let code := c.toNat
  (9 ≤ code && code ≤ 13) || code == 0x20 || code == 0x85 || code == 0xA0 || code == 0x1680 ||
    (0x2000 ≤ code && code ≤ 0x200A) || code == 0x2028 || code == 0x2029 || code == 0x202F ||
    code == 0x205F || code == 0x3000

/-- Removes blanks from the front. -/
def trimStart (cs : List Char) : List Char := cs.dropWhile isBlank

/-- Removes blanks from the back. -/
def trimEnd (cs : List Char) : List Char := (cs.reverse.dropWhile isBlank).reverse

/-- Removes blanks from both ends. -/
def trim (cs : List Char) : List Char := trimEnd (trimStart cs)

/-- True of a text that holds nothing but blanks. -/
def isBlankText (s : String) : Bool := s.toList.all isBlank

/-- Core's white space is blank. -/
theorem isBlank_of_isWhitespace {c : Char} (h : c.isWhitespace = true) : isBlank c = true := by
  simp only [Char.isWhitespace, Bool.or_eq_true, decide_eq_true_eq] at h
  rcases h with ((rfl | rfl) | rfl) | rfl <;> rfl

end MessageBroker.Text
