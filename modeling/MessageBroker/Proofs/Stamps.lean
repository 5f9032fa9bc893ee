import Mathlib.Algebra.GroupWithZero.Nat
import Mathlib.Data.List.TakeDrop
import Mathlib.Data.List.TakeWhile
import MessageBroker.Message.Timestamp.Reader
import MessageBroker.Message.Uuid

/-!
# Identifiers and points in time read back

Both have one written form and several forms that are read. The written form of an identifier is
read as the identifier (`Uuid.read?_text`), and the written form of a point in time as the point in
time if its year has four digits (`Timestamp.read?_text`). What is read is a day and a time of day
that exist (`Timestamp.isValid_of_read?`).
-/

set_option autoImplicit false

namespace MessageBroker

/-! ## Numbers of a fixed width -/

namespace Decimal

theorem length_padded {width n : Nat} (positive : 0 < width) (fits : n < Nat.pow 10 width) :
    (padded width n).length = width := by
  have short : (digits n).length ≤ width :=
    (Nat.length_toDigits_le_iff (by decide) positive).mpr fits
  rw [padded, List.length_append, List.length_replicate]
  omega

theorem isDigit_of_mem_padded {width n : Nat} : ∀ c ∈ padded width n, c.isDigit = true := by
  intro c member
  rcases List.mem_append.mp member with zero | digit
  · rw [List.eq_of_mem_replicate zero]
    rfl
  · exact isDigit_of_mem_digits digit

/-- Zeros in front do not count. -/
theorem value_padded (width n : Nat) : value (padded width n) = n := by
  have zeros : ∀ count, Nat.ofDigitChars 10 (List.replicate count '0') 0 = 0 := by
    intro count
    induction count with
    | zero => rfl
    | succ count ih =>
      rw [List.replicate_succ, Nat.ofDigitChars_cons]
      exact ih
  rw [value, padded, Nat.ofDigitChars_append, zeros]
  exact value_digits n

theorem padded_ne_nil (width n : Nat) : padded width n ≠ [] :=
  List.append_ne_nil_of_right_ne_nil _ (digits_ne_nil n)

theorem padded_cons (width n : Nat) :
    ∃ first others, padded width n = first :: others ∧ first.isDigit = true := by
  obtain ⟨first, others, begins⟩ := List.exists_cons_of_ne_nil (padded_ne_nil width n)
  have listed : first ∈ padded width n := by
    rw [begins]
    exact List.mem_cons_self
  exact ⟨first, others, begins, isDigit_of_mem_padded first listed⟩

end Decimal

/-! ## Identifiers -/

namespace Uuid

theorem digit?_digitChar : ∀ digit, digit? (digitChar digit) = some digit := by decide

theorem ofDigits?_digits (id : Uuid) : ofDigits? (id.digits.map digitChar) = some id := by
  have each : (id.digits.map digitChar).mapM digit? = some id.digits := by
    induction id.digits with
    | nil => rfl
    | cons digit _ ih =>
      rw [List.map_cons, List.mapM_cons, digit?_digitChar, ih]
      rfl
  simp only [ofDigits?, each, id.length_digits, dite_true]

section Groups

variable {α : Type}

theorem intercalate_groups_cons (separator : List α) (n m : Nat) (lengths : List Nat)
    (items : List α) :
    separator.intercalate (groups (n :: m :: lengths) items) =
      items.take n ++ separator ++ separator.intercalate (groups (m :: lengths) (items.drop n)) :=
  List.intercalate_cons_cons

theorem intercalate_groups_singleton (separator : List α) {n : Nat} {items : List α}
    (all : items.length = n) : separator.intercalate (groups [n] items) = items := by
  show separator.intercalate [items.take n] = items
  rw [List.intercalate_singleton, List.take_of_length_le all.le]

end Groups

/-- The hyphens are found where they were put, whatever stands between them. -/
theorem unhyphenate?_intercalate (n : Nat) (lengths : List Nat) {cs : List Char}
    (all : cs.length = (n :: lengths).sum) :
    unhyphenate? (n :: lengths) (['-'].intercalate (groups (n :: lengths) cs)) = some cs := by
  induction lengths generalizing n cs with
  | nil =>
    rw [List.sum_singleton] at all
    rw [intercalate_groups_singleton _ all]
    exact if_pos all
  | cons m lengths ih =>
    rw [List.sum_cons] at all
    have first : (cs.take n).length = n := List.length_take_of_le (by omega)
    have others : (cs.drop n).length = (m :: lengths).sum := by
      rw [List.length_drop]
      omega
    -- The first hyphen stands right behind the first group, so the cut is at the right place.
    rw [intercalate_groups_cons, List.append_assoc, List.singleton_append, unhyphenate?,
      List.drop_left' first, List.take_left' first]
    · show (unhyphenate? _ _).map _ = _
      rw [ih m others, Option.map_some, List.take_append_drop]
    · exact List.cons_ne_nil m lengths

theorem length_intercalate_groups (n : Nat) (lengths : List Nat) {cs : List Char}
    (all : cs.length = (n :: lengths).sum) :
    (['-'].intercalate (groups (n :: lengths) cs)).length =
      (n :: lengths).sum + lengths.length := by
  induction lengths generalizing n cs with
  | nil =>
    rw [List.sum_singleton] at all
    rw [intercalate_groups_singleton _ all, all, List.sum_singleton, List.length_nil, Nat.add_zero]
  | cons m lengths ih =>
    rw [List.sum_cons] at all
    have others : (cs.drop n).length = (m :: lengths).sum := by
      rw [List.length_drop]
      omega
    have tail := ih m others
    have total : (n :: m :: lengths).sum = n + (m :: lengths).sum := List.sum_cons
    rw [intercalate_groups_cons, List.length_append, List.length_append, tail,
      List.length_take_of_le (by omega), List.length_singleton, total, List.length_cons]
    omega

/-- **An identifier is read back.** -/
theorem read?_text (id : Uuid) : read? id.text = some id := by
  have all : (id.digits.map digitChar).length = groupLengths.sum := by
    rw [List.length_map, id.length_digits]
    rfl
  have length : id.chars.length = 36 := length_intercalate_groups 8 [4, 4, 4, 12] all
  have digits : unhyphenate? groupLengths id.chars = some (id.digits.map digitChar) :=
    unhyphenate?_intercalate 8 [4, 4, 4, 12] all
  have hyphenated : readHyphenated? id.chars = some id := by
    rw [readHyphenated?, digits, Option.bind_some, ofDigits?_digits]
  simp only [read?, text, String.toList_ofList, length]
  exact hyphenated

end Uuid

/-! ## Points in time -/

namespace Timestamp

open Text (trimStart isBlank)

theorem isBlank_of_isDigit {c : Char} (digit : c.isDigit = true) : isBlank c = false := by
  have bounds : 48 ≤ c.toNat ∧ c.toNat ≤ 57 := Char.isDigit_iff_toNat.mp digit
  simp only [isBlank, Bool.or_eq_false_iff, Bool.and_eq_false_iff, beq_eq_false_iff_ne,
    decide_eq_false_iff_not]
  omega

theorem trimStart_cons {c : Char} (visible : isBlank c = false) (rest : List Char) :
    trimStart (c :: rest) = c :: rest :=
  List.dropWhile_cons_of_neg (Bool.eq_false_iff.mp visible)

theorem trimStart_padded (width n : Nat) (rest : List Char) :
    trimStart (Decimal.padded width n ++ rest) = Decimal.padded width n ++ rest := by
  obtain ⟨first, others, padded, digit⟩ := Decimal.padded_cons width n
  rw [padded]
  exact trimStart_cons (isBlank_of_isDigit digit) (others ++ rest)

/-- A number of a fixed width is taken as a whole, whatever follows. -/
theorem takeDigits_padded {width n : Nat} (positive : 0 < width) (fits : n < Nat.pow 10 width)
    (rest : List Char) :
    takeDigits width (Decimal.padded width n ++ rest) = some (n, rest) := by
  have length := Decimal.length_padded positive fits
  have run : (Decimal.padded width n).takeWhile Char.isDigit = Decimal.padded width n :=
    List.takeWhile_eq_self_iff.mpr Decimal.isDigit_of_mem_padded
  rw [takeDigits, List.take_left' length, run]
  simp only [Decimal.padded_ne_nil, if_false, Decimal.value_padded, length,
    List.drop_left' length]

theorem takeField_padded {n : Nat} (fits : n < 100) (rest : List Char) :
    takeField (Decimal.padded 2 n ++ rest) = some (n, rest) := by
  rw [takeField, trimStart_padded]
  exact takeDigits_padded (by decide) fits rest

theorem pass_cons {c : Char} (visible : isBlank c = false) (rest : List Char) :
    pass c (c :: rest) = some rest := by
  rw [pass, trimStart_cons visible]
  exact if_pos rfl

theorem takeYear_yearChars {year : Int} (first : 0 ≤ year) (last : year ≤ 9999)
    (rest : List Char) : takeYear (yearChars year ++ rest) = some (year, rest) := by
  have fits : year.toNat < Nat.pow 10 4 := by
    show year.toNat < 10000
    omega
  have digits := takeDigits_padded (by decide) fits rest
  rw [yearChars, if_pos ⟨first, last⟩, takeYear, trimStart_padded]
  -- What begins with a digit has no sign.
  obtain ⟨c, others, padded, digit⟩ := Decimal.padded_cons 4 year.toNat
  rw [padded, List.cons_append] at digits ⊢
  split
  case h_1 same =>
    cases same
    cases digit
  case h_2 same =>
    cases same
    cases digit
  case h_3 =>
    rw [digits]
    show some ((year.toNat : Int), rest) = some (year, rest)
    rw [Int.toNat_of_nonneg first]

theorem takeDate_chars {date : Date} (first : 0 ≤ date.year) (last : date.year ≤ 9999)
    (month : date.month < 100) (day : date.day < 100) (rest : List Char) :
    takeDate (yearChars date.year ++ '-' :: (Decimal.padded 2 date.month ++ '-' ::
      (Decimal.padded 2 date.day ++ rest))) = some (date, rest) := by
  simp only [takeDate, takeYear_yearChars first last, Option.bind_eq_bind, Option.bind_some,
    pass_cons (show isBlank '-' = false by decide), takeField_padded month, takeField_padded day,
    Option.pure_def]

/-- A fraction of the given number of digits. -/
theorem takeFraction_padded {width n : Nat} (positive : 0 < width) (short : width ≤ 9)
    (fits : n < Nat.pow 10 width) {c : Char} (ends : c.isDigit = false) (rest : List Char) :
    takeFraction ('.' :: (Decimal.padded width n ++ c :: rest)) =
      some (n * Nat.pow 10 (9 - width), c :: rest) := by
  have length := Decimal.length_padded positive fits
  have nothing : (c :: rest).takeWhile Char.isDigit = [] :=
    List.takeWhile_cons_of_neg (Bool.eq_false_iff.mp ends)
  have run : ((Decimal.padded width n ++ c :: rest).take 9).takeWhile Char.isDigit =
      Decimal.padded width n := by
    rw [List.take_append, length, List.take_of_length_le (by omega),
      List.takeWhile_append_of_pos Decimal.isDigit_of_mem_padded]
    cases left : 9 - width with
    | zero => exact List.append_nil _
    | succ _ =>
      rw [List.take_succ_cons, List.takeWhile_cons_of_neg (Bool.eq_false_iff.mp ends),
        List.append_nil]
  have left : (Decimal.padded width n ++ c :: rest).dropWhile Char.isDigit = c :: rest := by
    rw [List.dropWhile_append_of_pos Decimal.isDigit_of_mem_padded,
      List.dropWhile_cons_of_neg (Bool.eq_false_iff.mp ends)]
  simp only [takeFraction, run, left, Decimal.padded_ne_nil, if_false, Decimal.value_padded, length]

/-- The fewest digits that are exact lose nothing. -/
theorem takeFraction_fractionChars {nanosecond : Nat} (below : nanosecond < Nat.pow 10 9)
    (rest : List Char) :
    takeFraction (fractionChars nanosecond ++ 'Z' :: rest) = some (nanosecond, 'Z' :: rest) := by
  have ends : 'Z'.isDigit = false := by decide
  have bound : nanosecond < 1000000000 := below
  rw [fractionChars]
  split
  case isTrue zero =>
    subst zero
    rfl
  split
  case isTrue exact =>
    have fits : nanosecond / 1000000 < Nat.pow 10 3 := by
      show _ < 1000
      omega
    rw [List.cons_append, takeFraction_padded (by decide) (by decide) fits ends]
    show some (nanosecond / 1000000 * 1000000, _) = _
    rw [Nat.div_mul_cancel (Nat.dvd_of_mod_eq_zero exact)]
  split
  case isTrue exact =>
    have fits : nanosecond / 1000 < Nat.pow 10 6 := by
      show _ < 1000000
      omega
    rw [List.cons_append, takeFraction_padded (by decide) (by decide) fits ends]
    show some (nanosecond / 1000 * 1000, _) = _
    rw [Nat.div_mul_cancel (Nat.dvd_of_mod_eq_zero exact)]
  case isFalse =>
    rw [List.cons_append, takeFraction_padded (by decide) (by decide) below ends]
    show some (nanosecond * 1, _) = _
    rw [Nat.mul_one]

/-- A clock in UTC shows the point in time. -/
theorem ofLocal_zero {t : Timestamp} (hour : t.hour ≤ 23) (minute : t.minute ≤ 59) :
    t.ofLocal 0 = t := by
  have start : ¬ (60 * t.hour + t.minute - 0 : Int) < 0 := by omega
  have stop : ¬ (1440 : Int) ≤ 60 * t.hour + t.minute - 0 := by omega
  have minutes : ((60 * t.hour + t.minute - 0 : Int) % 1440).toNat = 60 * t.hour + t.minute := by
    omega
  have hours : (60 * t.hour + t.minute) / 60 = t.hour := by omega
  have rest : (60 * t.hour + t.minute) % 60 = t.minute := by omega
  simp only [ofLocal, start, stop, if_false, minutes, hours, rest]

/-- What is read exists. -/
theorem isValid_of_read? {s : String} {t : Timestamp} (found : read? s = some t) :
    t.isValid = true := by
  -- Only the last step tests whether the point in time exists.
  simp only [read?, Option.bind_eq_bind, Option.bind_eq_some_iff] at found
  obtain ⟨_, _, _, _, _, _, _, _, _, _, _, _, _, _, _, _, _, _, found⟩ := found
  split at found
  case isTrue accepted =>
    cases found
    exact accepted.2.2.2
  case isFalse => cases found

/-- **A point in time is read back** when its year is written without a sign. -/
theorem read?_text {t : Timestamp} (valid : t.isValid = true) (first : 0 ≤ t.date.year)
    (last : t.date.year ≤ 9999) : read? t.text = some t := by
  have parts := valid
  simp only [isValid, Date.isValid, Bool.and_eq_true, decide_eq_true_eq] at parts
  obtain ⟨⟨⟨⟨⟨⟨⟨⟨⟨-, -⟩, -⟩, month⟩, -⟩, day⟩, hour⟩, minute⟩, second⟩, nanosecond⟩ := parts
  have colon : isBlank ':' = false := by decide
  have days : t.date.day < 100 := by
    have most : Date.daysIn t.date.year t.date.month ≤ 31 := by
      unfold Date.daysIn
      split_ifs <;> omega
    omega
  have date := takeDate_chars first last (show t.date.month < 100 by omega) days
  have zone : takeZone (trimStart ['Z']) = some (0, []) := rfl
  have shown := ofLocal_zero hour minute
  rw [read?, text, String.toList_ofList, chars]
  simp only [List.append_assoc, List.cons_append, date, Option.bind_eq_bind, Option.bind_some,
    passSeparator, true_or, if_true, takeField_padded (show t.hour < 100 by omega),
    takeField_padded (show t.minute < 100 by omega),
    takeField_padded (show t.second < 100 by omega), pass_cons colon,
    takeFraction_fractionChars nanosecond, zone]
  show (if trimStart [] = [] ∧ t.isValid = true ∧ Int.natAbs 0 < 1440 ∧
    (t.ofLocal 0).isValid = true then some (t.ofLocal 0) else none) = some t
  rw [shown]
  exact if_pos ⟨rfl, valid, by decide, valid⟩

end Timestamp

end MessageBroker
