import Mathlib.Data.List.DropRight
import Mathlib.Data.List.TakeDrop
import Mathlib.Data.List.TakeWhile
import MessageBroker.Json.Printer
import MessageBroker.Json.Reader

/-!
# Texts of a document

A document can be written in many ways: blanks may stand around its tokens, and a character of a
string may stand for itself, follow a backslash as a letter, or be given by its code or by the two
halves of a surrogate pair. `Document.Spells` is the grammar of these texts, for documents whose
strings are plain and whose numbers are whole.

The reader takes every text of the grammar to its document (`Document.read?_of_isText`). What writes
a value therefore only has to stay inside the grammar.
-/

set_option autoImplicit false

namespace MessageBroker

/-- A whole number as written. -/
def NumberLiteral.ofInt (n : Int) : NumberLiteral :=
  ⟨decide (n < 0), Decimal.digits n.natAbs, none, none⟩

namespace Document

/-! ## The grammar -/

/-- Nothing but blanks. -/
def Blanks (cs : List Char) : Prop := ∀ c ∈ cs, isSeparator c = true

/-- The spellings of one character of a string. -/
inductive SpellsChar : Char → List Char → Prop
  | plain {c : Char} (visible : 0x20 ≤ c.toNat) (notQuote : c ≠ '"') (notBackslash : c ≠ '\\') :
      SpellsChar c [c]
  | letter {e c : Char} (short : shortEscape? e = some c) : SpellsChar c ['\\', e]
  | code {a b c d : Char} {n : Nat} (digits : hexCode? a b c d = some n)
      (notHigh : isHighSurrogate n = false) (notLow : isLowSurrogate n = false) :
      SpellsChar (Char.ofNat n) ['\\', 'u', a, b, c, d]
  | pair {a b c d a' b' c' d' : Char} {high low : Nat} (first : hexCode? a b c d = some high)
      (second : hexCode? a' b' c' d' = some low) (isHigh : isHighSurrogate high = true)
      (isLow : isLowSurrogate low = true) :
      SpellsChar (Char.ofNat (0x10000 + 0x400 * (high - 0xD800) + (low - 0xDC00)))
        ['\\', 'u', a, b, c, d, '\\', 'u', a', b', c', d']

/-- The spellings of the characters of a string, one after the other. -/
inductive SpellsChars : List Char → List Char → Prop
  | nil : SpellsChars [] []
  | cons {c : Char} {cs one rest : List Char} (first : SpellsChar c one)
      (others : SpellsChars cs rest) : SpellsChars (c :: cs) (one ++ rest)

mutual

/-- The texts of a document, with blanks in front. -/
inductive Spells : Document → List Char → Prop
  | blank {document : Document} {c : Char} {cs : List Char} (separator : isSeparator c = true)
      (spelled : Spells document cs) : Spells document (c :: cs)
  | null : Spells .null ['n', 'u', 'l', 'l']
  | true : Spells (.bool true) ['t', 'r', 'u', 'e']
  | false : Spells (.bool false) ['f', 'a', 'l', 's', 'e']
  | number (n : Int) : Spells (.number (.ofInt n)) n.repr.toList
  | string {s cs : List Char} (chars : SpellsChars s cs) :
      Spells (.string (s.map .char)) ('"' :: (cs ++ ['"']))
  | emptyArray {blanks : List Char} (blank : Blanks blanks) :
      Spells (.array []) ('[' :: (blanks ++ [']']))
  | array {items : List Document} {cs : List Char} (body : SpellsItems items cs) :
      Spells (.array items) ('[' :: (cs ++ [']']))
  | emptyObject {blanks : List Char} (blank : Blanks blanks) :
      Spells (.object []) ('{' :: (blanks ++ ['}']))
  | object {members : List (List TextUnit × Document)} {cs : List Char}
      (body : SpellsMembers members cs) : Spells (.object members) ('{' :: (cs ++ ['}']))

/-- The texts of the items of an array, at least one, between its brackets. -/
inductive SpellsItems : List Document → List Char → Prop
  | last {item : Document} {cs after : List Char} (spelled : Spells item cs)
      (blank : Blanks after) : SpellsItems [item] (cs ++ after)
  | more {item : Document} {items : List Document} {cs after others : List Char}
      (spelled : Spells item cs) (blank : Blanks after) (body : SpellsItems items others) :
      SpellsItems (item :: items) (cs ++ (after ++ ',' :: others))

/-- The texts of a member of an object. -/
inductive SpellsMember : List TextUnit × Document → List Char → Prop
  | mk {key chars before between cs after : List Char} {value : Document}
      (blank_before : Blanks before) (key_spelled : SpellsChars key chars)
      (blank_between : Blanks between) (spelled : Spells value cs) (blank_after : Blanks after) :
      SpellsMember (key.map .char, value)
        (before ++ '"' :: (chars ++ '"' :: (between ++ ':' :: (cs ++ after))))

/-- The texts of the members of an object, at least one, between its braces. -/
inductive SpellsMembers : List (List TextUnit × Document) → List Char → Prop
  | last {member : List TextUnit × Document} {cs : List Char} (spelled : SpellsMember member cs) :
      SpellsMembers [member] cs
  | more {member : List TextUnit × Document} {members : List (List TextUnit × Document)}
      {cs others : List Char} (spelled : SpellsMember member cs)
      (body : SpellsMembers members others) :
      SpellsMembers (member :: members) (cs ++ ',' :: others)

end

/-- The whole texts of a document, with blanks before and after it. -/
def IsText (document : Document) (cs : List Char) : Prop :=
  ∃ text after, Spells document text ∧ Blanks after ∧ cs = text ++ after

/-! ## Blanks -/

theorem blanks_nil : Blanks [] := List.forall_mem_nil _

theorem skipSeparators_append {blanks : List Char} (blank : Blanks blanks) (cs : List Char) :
    skipSeparators (blanks ++ cs) = skipSeparators cs :=
  List.dropWhile_append_of_pos blank

theorem skipSeparators_of_blanks {blanks : List Char} (blank : Blanks blanks) :
    skipSeparators blanks = [] :=
  List.dropWhile_eq_nil_iff.mpr blank

theorem skipSeparators_cons {c : Char} (token : isSeparator c = false) (cs : List Char) :
    skipSeparators (c :: cs) = c :: cs :=
  List.dropWhile_cons_of_neg (Bool.eq_false_iff.mp token)

theorem skipSeparators_skipSeparators (cs : List Char) :
    skipSeparators (skipSeparators cs) = skipSeparators cs :=
  List.dropWhile_idempotent _ cs

/-! ## Strings -/

theorem readUnits_plain {c : Char} (notQuote : c ≠ '"') (notBackslash : c ≠ '\\')
    (rest : List Char) :
    readUnits (c :: rest) =
      (readUnits rest).map fun (units, rest) => (plainUnit c :: units, rest) := by
  rw [readUnits, if_neg notBackslash]
  · cases readUnits rest <;> rfl
  · exact notQuote
  · intro _ _ _ _ _ same _
    exact notBackslash same
  · intro _ _ same _
    exact notBackslash same

theorem readUnits_letter {e c : Char} (short : shortEscape? e = some c) (rest : List Char) :
    readUnits ('\\' :: e :: rest) =
      (readUnits rest).map fun (units, rest) => (.char c :: units, rest) := by
  rw [readUnits, short]
  · cases readUnits rest <;> rfl
  · rintro _ _ _ _ _ rfl _
    cases short

theorem readUnits_code {a b c d : Char} {n : Nat} (digits : hexCode? a b c d = some n)
    (rest : List Char) :
    readUnits ('\\' :: 'u' :: a :: b :: c :: d :: rest) =
      (readUnits rest).map fun (units, rest) => (pushCode n units, rest) := by
  rw [readUnits, digits]
  cases readUnits rest <;> rfl

theorem isHighSurrogate_of_isLowSurrogate {code : Nat} (isLow : isLowSurrogate code = true) :
    isHighSurrogate code = false := by
  simp only [isLowSurrogate, isHighSurrogate, Bool.and_eq_true, decide_eq_true_eq,
    Bool.and_eq_false_iff, decide_eq_false_iff_not] at isLow ⊢
  omega

/-- Whatever the spelling of a character, the reader takes it to the character. -/
theorem readUnits_spelled {c : Char} {one : List Char} (spelled : SpellsChar c one)
    (rest : List Char) :
    readUnits (one ++ rest) =
      (readUnits rest).map fun (units, rest) => (.char c :: units, rest) := by
  cases spelled with
  | plain visible notQuote notBackslash =>
    have unit : plainUnit c = .char c := if_neg (Nat.not_lt.mpr visible)
    rw [List.singleton_append, readUnits_plain notQuote notBackslash, unit]
  | letter short => exact readUnits_letter short rest
  | code digits notHigh notLow =>
    show readUnits ('\\' :: 'u' :: _ :: _ :: _ :: _ :: rest) = _
    rw [readUnits_code digits]
    simp only [pushCode, notHigh, notLow, Bool.false_eq_true, if_false]
  | pair first second isHigh isLow =>
    -- The second half is read first and waits for the first one.
    have notHigh := isHighSurrogate_of_isLowSurrogate isLow
    show readUnits ('\\' :: 'u' :: _ :: _ :: _ :: _ :: '\\' :: 'u' :: _ :: _ :: _ :: _ :: rest) = _
    rw [readUnits_code first, readUnits_code second, Option.map_map]
    simp only [pushCode, notHigh, isHigh, isLow, Bool.false_eq_true, if_false, if_true,
      Function.comp_def]

theorem readUnits_chars {s cs : List Char} (spelled : SpellsChars s cs) (rest : List Char) :
    readUnits (cs ++ '"' :: rest) = some (s.map .char, rest) := by
  induction spelled with
  | nil => rfl
  | cons first _ ih => rw [List.append_assoc, readUnits_spelled first, ih]; rfl

/-! ## Whole numbers -/

/-- True of what may follow a number: it does not go on with it. -/
def EndsNumber (rest : List Char) : Prop :=
  ∀ c ∈ rest.head?, c.isDigit = false ∧ c ≠ '.' ∧ c ≠ 'e' ∧ c ≠ 'E'

theorem endsNumber_nil : EndsNumber [] := by
  rintro _ ⟨⟩

theorem endsNumber_cons {c : Char} (rest : List Char)
    (other : c.isDigit = false ∧ c ≠ '.' ∧ c ≠ 'e' ∧ c ≠ 'E') : EndsNumber (c :: rest) := by
  rintro _ ⟨⟩
  exact other

theorem endsNumber_separator {c : Char} (separator : isSeparator c = true) (rest : List Char) :
    EndsNumber (c :: rest) := by
  apply endsNumber_cons
  simp only [isSeparator, Bool.or_eq_true, beq_iff_eq] at separator
  rcases separator with ((rfl | rfl) | rfl) | rfl <;> decide

/-- Blanks may stand between a number and what ends it. -/
theorem endsNumber_append {blanks rest : List Char} (blank : Blanks blanks)
    (ends : EndsNumber rest) : EndsNumber (blanks ++ rest) := by
  cases blanks with
  | nil => exact ends
  | cons c _ => exact endsNumber_separator (blank c List.mem_cons_self) _

/-- A number other than zero does not begin with a zero. -/
theorem head?_digits_ne_zero {n : Nat} (positive : 0 < n) :
    (Decimal.digits n).head? ≠ some '0' := by
  induction n using Nat.strongRecOn with
  | ind n ih =>
    by_cases single : n < 10
    · rw [Decimal.digits, Nat.toDigits_of_lt_base single, List.head?_cons, Ne, Option.some.injEq,
        Nat.digitChar_eq_zero]
      exact Nat.pos_iff_ne_zero.mp positive
    · have whole := ih (n / 10) (by omega) (by omega)
      rw [Decimal.digits, Nat.toDigits_of_base_le (by decide) (by omega), List.head?_append]
      rw [Decimal.digits] at whole
      cases begin : (Nat.toDigits 10 (n / 10)).head? with
      | none => exact absurd (List.head?_eq_none_iff.mp begin) Nat.toDigits_ne_nil
      | some first =>
        rw [begin] at whole
        exact whole

theorem takeWhile_isDigit_of_endsNumber {rest : List Char} (ends : EndsNumber rest) :
    rest.takeWhile Char.isDigit = [] := by
  cases rest with
  | nil => rfl
  | cons c _ => exact List.takeWhile_cons_of_neg (by rw [(ends c rfl).1]; exact Bool.false_ne_true)

/-- A run of digits is read up to its end. -/
theorem readDigits_append {digits rest : List Char} (nonempty : digits ≠ [])
    (all_digits : ∀ c ∈ digits, c.isDigit = true) (ends : EndsNumber rest) :
    readDigits (digits ++ rest) = some (digits, rest) := by
  have taken : (digits ++ rest).takeWhile Char.isDigit = digits := by
    rw [List.takeWhile_append_of_pos all_digits, takeWhile_isDigit_of_endsNumber ends,
      List.append_nil]
  have left : (digits ++ rest).dropWhile Char.isDigit = rest := by
    rw [List.dropWhile_append_of_pos all_digits]
    cases rest with
    | nil => rfl
    | cons c _ =>
      exact List.dropWhile_cons_of_neg (by rw [(ends c rfl).1]; exact Bool.false_ne_true)
  rw [readDigits, List.span_eq_takeWhile_dropWhile, taken, left]
  cases digits with
  | nil => exact absurd rfl nonempty
  | cons _ _ => rfl

theorem readWhole_digits (n : Nat) {rest : List Char} (ends : EndsNumber rest) :
    readWhole (Decimal.digits n ++ rest) = some (Decimal.digits n, rest) := by
  rcases Nat.eq_zero_or_pos n with rfl | positive
  · show readWhole ('0' :: rest) = some (['0'], rest)
    cases rest with
    | nil => rfl
    | cons c _ => simp only [readWhole, (ends c rfl).1, Bool.false_eq_true, if_false]
  · have not_zero := head?_digits_ne_zero positive
    have digit_run := readDigits_append (Decimal.digits_ne_nil n)
      (fun _ member => Decimal.isDigit_of_mem_digits member) ends
    cases digits : Decimal.digits n with
    | nil => exact absurd digits (Decimal.digits_ne_nil n)
    | cons first others =>
      rw [digits] at not_zero digit_run
      rw [← digit_run, List.cons_append, readWhole]
      rintro _ ⟨⟩
      exact not_zero rfl

theorem readUnsigned_digits (negative : Bool) (n : Nat) {rest : List Char}
    (ends : EndsNumber rest) :
    readUnsigned negative (Decimal.digits n ++ rest) =
      some (⟨negative, Decimal.digits n, none, none⟩, rest) := by
  have no_fraction : readFraction rest = some (none, rest) := by
    cases rest with
    | nil => rfl
    | cons c _ =>
      rw [readFraction]
      rintro _ ⟨⟩
      exact (ends '.' rfl).2.1 rfl
  have no_exponent : readExponent rest = some (none, rest) := by
    cases rest with
    | nil => rfl
    | cons c _ => exact if_neg (not_or.mpr (ends c rfl).2.2)
  rw [readUnsigned, readWhole_digits n ends]
  simp only [Option.bind_eq_bind, Option.bind_some, no_fraction, no_exponent, Option.pure_def]

/-- A whole number is written as its digits, behind a minus if it is negative. -/
theorem toList_repr (n : Int) :
    n.repr.toList = (if n < 0 then ['-'] else []) ++ Decimal.digits n.natAbs := by
  cases n with
  | ofNat n =>
    have not_negative : ¬ Int.ofNat n < 0 := Int.not_lt.mpr (Int.natCast_nonneg n)
    rw [if_neg not_negative, List.nil_append]
    exact String.toList_ofList
  | negSucc n =>
    rw [if_pos (Int.negSucc_lt_zero n)]
    show ("-" ++ (n + 1).repr).toList = '-' :: Decimal.digits (n + 1)
    rw [String.toList_append, Nat.repr_eq_ofList_toDigits]
    exact congrArg ('-' :: ·) String.toList_ofList

theorem digits_cons (n : Nat) :
    ∃ first others, Decimal.digits n = first :: others ∧ first.isDigit = true := by
  cases digits : Decimal.digits n with
  | nil => exact absurd digits (Decimal.digits_ne_nil n)
  | cons first others =>
    refine ⟨first, others, rfl, Decimal.isDigit_of_mem_digits (n := n) ?_⟩
    rw [digits]
    exact List.mem_cons_self

theorem readNumber_repr (n : Int) {rest : List Char} (ends : EndsNumber rest) :
    readNumber (n.repr.toList ++ rest) = some (.ofInt n, rest) := by
  rw [toList_repr, NumberLiteral.ofInt]
  by_cases negative : n < 0
  · rw [if_pos negative, decide_eq_true negative]
    exact readUnsigned_digits true n.natAbs ends
  · rw [if_neg negative, decide_eq_false negative, List.nil_append,
      ← readUnsigned_digits false n.natAbs ends]
    obtain ⟨first, others, digits, is_digit⟩ := digits_cons n.natAbs
    rw [digits, List.cons_append, readNumber]
    rintro _ ⟨⟩
    cases is_digit

/-! ## Reading a text of the grammar -/

theorem readValue_skipSeparators (bound : Nat) (cs : List Char) :
    readValue bound (skipSeparators cs) = readValue bound cs := by
  cases bound with
  | zero => rfl
  | succ bound => rw [readValue, readValue, skipSeparators_skipSeparators]

theorem readItems_skipSeparators (bound : Nat) (cs : List Char) :
    readItems bound (skipSeparators cs) = readItems bound cs := by
  cases bound with
  | zero => rfl
  | succ bound => rw [readItems, readItems, readValue_skipSeparators]

theorem readMembers_skipSeparators (bound : Nat) (cs : List Char) :
    readMembers bound (skipSeparators cs) = readMembers bound cs := by
  cases bound with
  | zero => rfl
  | succ bound => rw [readMembers, readMembers, skipSeparators_skipSeparators]

/-- True of the first characters of whole numbers. -/
def beginsNumber (c : Char) : Bool := c == '-' || c.isDigit

theorem repr_cons (n : Int) :
    ∃ c tail, n.repr.toList = c :: tail ∧ beginsNumber c = true := by
  rw [toList_repr]
  by_cases negative : n < 0
  · rw [if_pos negative]
    exact ⟨_, _, rfl, rfl⟩
  · obtain ⟨c, tail, digits, is_digit⟩ := digits_cons n.natAbs
    rw [if_neg negative, digits]
    exact ⟨c, tail, rfl, Bool.or_eq_true_iff.mpr (.inr is_digit)⟩

theorem isSeparator_of_beginsNumber {c : Char} (begins : beginsNumber c = true) :
    isSeparator c = false := by
  rw [← Bool.not_eq_true]
  intro separator
  simp only [isSeparator, Bool.or_eq_true, beq_iff_eq] at separator
  rcases separator with ((rfl | rfl) | rfl) | rfl <;> cases begins

/-- A text of a document does not begin with the end of an array. -/
theorem exists_head {document : Document} {cs : List Char} (spelled : Spells document cs)
    (rest : List Char) : ∃ c tail, skipSeparators (cs ++ rest) = c :: tail ∧ c ≠ ']' := by
  match spelled with
  | .blank separator spelled =>
    obtain ⟨c, tail, skipped, other⟩ := exists_head spelled rest
    exact ⟨c, tail, (List.dropWhile_cons_of_pos separator).trans skipped, other⟩
  | .null => exact ⟨_, _, rfl, by decide⟩
  | .true => exact ⟨_, _, rfl, by decide⟩
  | .false => exact ⟨_, _, rfl, by decide⟩
  | .string _ => exact ⟨_, _, rfl, by decide⟩
  | .emptyArray _ => exact ⟨_, _, rfl, by decide⟩
  | .array _ => exact ⟨_, _, rfl, by decide⟩
  | .emptyObject _ => exact ⟨_, _, rfl, by decide⟩
  | .object _ => exact ⟨_, _, rfl, by decide⟩
  | .number n =>
    obtain ⟨c, tail, text, begins⟩ := repr_cons n
    rw [text]
    refine ⟨c, tail ++ rest, skipSeparators_cons (isSeparator_of_beginsNumber begins) _, ?_⟩
    rintro rfl
    cases begins

theorem exists_head_items {items : List Document} {cs : List Char}
    (spelled : SpellsItems items cs) (rest : List Char) :
    ∃ c tail, skipSeparators (cs ++ rest) = c :: tail ∧ c ≠ ']' := by
  cases spelled with
  | last spelled _ =>
    rw [List.append_assoc]
    exact exists_head spelled _
  | more spelled _ _ =>
    rw [List.append_assoc]
    exact exists_head spelled _

theorem exists_head_members {members : List (List TextUnit × Document)} {cs : List Char}
    (spelled : SpellsMembers members cs) (rest : List Char) :
    ∃ c tail, skipSeparators (cs ++ rest) = c :: tail ∧ c ≠ '}' := by
  have quote : ∀ {member : List TextUnit × Document} {one : List Char} (rest : List Char),
      SpellsMember member one → ∃ c tail, skipSeparators (one ++ rest) = c :: tail ∧ c ≠ '}' := by
    rintro _ _ rest ⟨blank_before, _, _, _, _⟩
    rw [List.append_assoc, skipSeparators_append blank_before]
    exact ⟨_, _, rfl, by decide⟩
  cases spelled with
  | last spelled => exact quote rest spelled
  | more spelled _ =>
    rw [List.append_assoc]
    exact quote _ spelled

theorem readValue_number {c : Char} (begins : beginsNumber c = true) (bound : Nat)
    (cs : List Char) :
    readValue (bound + 1) (c :: cs) =
      (readNumber (c :: cs)).map fun (literal, rest) => (.number literal, rest) := by
  rw [readValue, skipSeparators_cons (isSeparator_of_beginsNumber begins)]
  split
  case h_7 => rfl
  all_goals
    -- No other token begins like a number.
    rename_i same
    obtain ⟨rfl, -⟩ := List.cons.inj same
    cases begins

/-- Brackets around something are brackets around items. -/
theorem readValue_array (bound : Nat) {cs : List Char}
    (head : ∃ c tail, skipSeparators cs = c :: tail ∧ c ≠ ']') :
    readValue (bound + 1) ('[' :: cs) =
      (readItems bound cs).map fun (items, rest) => (.array items, rest) := by
  obtain ⟨c, tail, skipped, other⟩ := head
  rw [← readItems_skipSeparators, readValue, skipSeparators_cons (by decide)]
  simp only [skipped]
  split
  · rename_i same
    cases same
    exact absurd rfl other
  · rfl

theorem readValue_object (bound : Nat) {cs : List Char}
    (head : ∃ c tail, skipSeparators cs = c :: tail ∧ c ≠ '}') :
    readValue (bound + 1) ('{' :: cs) =
      (readMembers bound cs).map fun (members, rest) => (.object members, rest) := by
  obtain ⟨c, tail, skipped, other⟩ := head
  rw [← readMembers_skipSeparators, readValue, skipSeparators_cons (by decide)]
  simp only [skipped]
  split
  · rename_i same
    cases same
    exact absurd rfl other
  · rfl

theorem endsNumber_of_closes {c : Char} (closes : c = ',' ∨ c = ']' ∨ c = '}') (rest : List Char) :
    EndsNumber (c :: rest) := by
  apply endsNumber_cons
  rcases closes with rfl | rfl | rfl <;> decide

/-- Reads on behind a member of an object. -/
def readMembersAfter (bound : Nat) (member : List TextUnit × Document) (cs : List Char) :
    Option (List (List TextUnit × Document) × List Char) :=
  match skipSeparators cs with
  | ',' :: rest => (readMembers bound rest).map fun (members, rest) => (member :: members, rest)
  | '}' :: rest => some ([member], rest)
  | _ => none

mutual

/-- The reader takes a text of a document to the document. Every character of the text allows for
two steps down. -/
theorem readValue_spelled {document : Document} {cs : List Char} (spelled : Spells document cs)
    {bound : Nat} {rest : List Char} (enough : 2 * cs.length ≤ bound) (ends : EndsNumber rest) :
    readValue bound (cs ++ rest) = some (document, rest) := by
  have positive : cs ≠ [] := by
    rintro rfl
    obtain ⟨_, _, ⟨⟩, _⟩ := exists_head spelled []
  have length_pos := List.length_pos_iff.mpr positive
  obtain ⟨bound, rfl⟩ := Nat.exists_eq_add_of_lt (show 0 < bound by omega)
  rw [Nat.zero_add] at enough ⊢
  match spelled with
  | .blank separator spelled =>
    rw [List.length_cons] at enough
    rw [List.cons_append, ← readValue_skipSeparators, skipSeparators,
      List.dropWhile_cons_of_pos separator, ← skipSeparators, readValue_skipSeparators]
    exact readValue_spelled spelled (by omega) ends
  | .null => rfl
  | .true => rfl
  | .false => rfl
  | .number n =>
    obtain ⟨c, tail, text, begins⟩ := repr_cons n
    rw [text, List.cons_append, readValue_number begins, ← List.cons_append, ← text,
      readNumber_repr n ends]
    rfl
  | .string chars =>
    have units := readUnits_chars chars rest
    rw [List.cons_append, List.append_assoc, List.singleton_append]
    show (readUnits _).map _ = _
    rw [units]
    rfl
  | .emptyArray blank =>
    rw [List.cons_append, List.append_assoc, List.singleton_append, readValue,
      skipSeparators_cons (by decide)]
    simp only [skipSeparators_append blank]
    rfl
  | .array body =>
    rw [List.length_cons, List.length_append, List.length_singleton] at enough
    have items := readItems_spelled body rest (show _ ≤ bound by omega)
    rw [List.cons_append, List.append_assoc, List.singleton_append,
      readValue_array bound (exists_head_items body _), items]
    rfl
  | .emptyObject blank =>
    rw [List.cons_append, List.append_assoc, List.singleton_append, readValue,
      skipSeparators_cons (by decide)]
    simp only [skipSeparators_append blank]
    rfl
  | .object body =>
    rw [List.length_cons, List.length_append, List.length_singleton] at enough
    have members := readMembers_spelled body rest (show _ ≤ bound by omega)
    rw [List.cons_append, List.append_assoc, List.singleton_append,
      readValue_object bound (exists_head_members body _), members]
    rfl

/-- The reader takes the items of an array up to the closing bracket. -/
theorem readItems_spelled {items : List Document} {cs : List Char}
    (spelled : SpellsItems items cs) (rest : List Char) {bound : Nat}
    (enough : 2 * cs.length + 1 ≤ bound) :
    readItems bound (cs ++ ']' :: rest) = some (items, rest) := by
  obtain ⟨bound, rfl⟩ := Nat.exists_eq_add_of_lt (show 0 < bound by omega)
  rw [Nat.zero_add] at enough ⊢
  match spelled with
  | .last spelled blank =>
    rw [List.length_append] at enough
    have ends := endsNumber_append blank (endsNumber_of_closes (.inr (.inl rfl)) rest)
    have value := readValue_spelled spelled (show _ ≤ bound by omega) ends
    rw [List.append_assoc, readItems, value]
    simp only [skipSeparators_append blank]
    rfl
  | .more spelled blank body =>
    rw [List.length_append, List.length_append, List.length_cons] at enough
    have items := readItems_spelled body rest (show _ ≤ bound by omega)
    rw [List.append_assoc, List.append_assoc, List.cons_append, readItems,
      readValue_spelled spelled (by omega)
        (endsNumber_append blank (endsNumber_of_closes (.inl rfl) _))]
    simp only [skipSeparators_append blank]
    show (readItems _ _).map _ = _
    rw [items]
    rfl

/-- The reader takes one member and goes on behind it. -/
theorem readMembers_member {member : List TextUnit × Document} {cs : List Char}
    (spelled : SpellsMember member cs) {bound : Nat} {rest : List Char}
    (enough : 2 * cs.length ≤ bound) (ends : EndsNumber rest) :
    readMembers (bound + 1) (cs ++ rest) = readMembersAfter bound member rest := by
  match spelled with
  | .mk blank_before key_spelled blank_between spelled blank_after =>
    simp only [List.length_append, List.length_cons] at enough
    have key := readUnits_chars key_spelled
    have value := readValue_spelled spelled (show _ ≤ bound by omega)
      (endsNumber_append blank_after ends)
    simp only [List.append_assoc, List.cons_append]
    rw [readMembers, skipSeparators_append blank_before, skipSeparators_cons (by decide)]
    simp only [key, skipSeparators_append blank_between]
    rw [skipSeparators_cons (by decide)]
    simp only [value, skipSeparators_append blank_after]
    rfl

/-- The reader takes the members of an object up to the closing brace. -/
theorem readMembers_spelled {members : List (List TextUnit × Document)} {cs : List Char}
    (spelled : SpellsMembers members cs) (rest : List Char) {bound : Nat}
    (enough : 2 * cs.length + 1 ≤ bound) :
    readMembers bound (cs ++ '}' :: rest) = some (members, rest) := by
  obtain ⟨bound, rfl⟩ := Nat.exists_eq_add_of_lt (show 0 < bound by omega)
  rw [Nat.zero_add] at enough ⊢
  match spelled with
  | .last spelled =>
    rw [readMembers_member spelled (by omega) (endsNumber_of_closes (.inr (.inr rfl)) rest)]
    rfl
  | .more spelled body =>
    rw [List.length_append, List.length_cons] at enough
    have members := readMembers_spelled body rest (show _ ≤ bound by omega)
    rw [List.append_assoc, List.cons_append,
      readMembers_member spelled (by omega) (endsNumber_of_closes (.inl rfl) _)]
    show (readMembers _ _).map _ = _
    rw [members]
    rfl

end

/-- **Every text of the grammar reads as its document.** -/
theorem read?_of_isText {document : Document} {cs : List Char} (text : IsText document cs) :
    read? cs = some document := by
  obtain ⟨body, after, spelled, blank, rfl⟩ := text
  have ends : EndsNumber after := by
    have nothing := endsNumber_append blank endsNumber_nil
    rwa [List.append_nil] at nothing
  have enough : 2 * body.length ≤ 2 * (body ++ after).length + 2 := by
    rw [List.length_append]
    omega
  rw [read?, readValue_spelled spelled enough ends]
  exact if_pos (skipSeparators_of_blanks blank)

end Document
end MessageBroker
