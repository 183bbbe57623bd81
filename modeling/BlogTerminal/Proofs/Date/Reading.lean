import BlogTerminal.Date
import BlogTerminal.Proofs.Date.Calendar
import BlogTerminal.Text.Basic
import Mathlib.Algebra.Order.Floor.Semifield
import Mathlib.Data.List.TakeWhile
import Mathlib.Data.Nat.Basic
import Mathlib.Data.Rat.Floor
import Mathlib.Tactic.Ring

/-!
What the readers of dates take from the front of a text. Every step is said once, as the texts that
it takes and what it leaves, and a reader made of steps is read off them. A date that is read exists
and a time that is read is one of its day, so every moment that is read lies on the time line.
-/

namespace BlogTerminal

/-! ## Decimal digits

A run of digits spells a number, each number has one spelling of every width that is wide enough,
and behind a point the digits spell a fraction, of which zeros at the end are no part.
-/

namespace Text

variable {digits other : Text} {c : Char} {n width : Nat}

/-- The text holds nothing but decimal digits. -/
def AllDigits (text : Text) : Prop := ∀ c ∈ text, c.isDigit = true

/-- The number that digits spell. -/
def value (digits : Text) : Nat := Nat.ofDigitChars 10 digits 0

/-- The fraction that digits spell behind a point. -/
def fraction (digits : Text) : ℚ := value digits / 10 ^ digits.length

/-! ### Numbers -/

private theorem value_append (digits other : Text) :
    value (digits ++ other) = 10 ^ other.length * value digits + value other := by
  rw [value, Nat.ofDigitChars_append, Nat.ofDigitChars_eq_ofDigitChars_zero]
  rfl

private theorem value_cons (c : Char) (digits : Text) :
    value (c :: digits) = 10 ^ digits.length * (c.toNat - '0'.toNat) + value digits := by
  rw [value, Nat.ofDigitChars_cons, Nat.ofDigitChars_eq_ofDigitChars_zero, Nat.mul_zero,
    Nat.zero_add]
  rfl

private theorem digit_lt (digit : c.isDigit = true) : c.toNat - '0'.toNat < 10 := by
  obtain ⟨low, high⟩ := Char.isDigit_iff_toNat.mp digit
  have zero : '0'.toNat = 48 := rfl
  have nine : '9'.toNat = 57 := rfl
  omega

/-- A digit is no blank. -/
theorem digit_solid (digit : c.isDigit = true) : isBlank c = false := by
  obtain ⟨low, high⟩ := Char.isDigit_iff_toNat.mp digit
  have zero : '0'.toNat = 48 := rfl
  have nine : '9'.toNat = 57 := rfl
  simp only [isBlank, blanks, Ranges.covers, Bool.and_eq_false_iff, Bool.or_eq_false_iff,
    decide_eq_false_iff_not]
  omega

private theorem value_lt (all : AllDigits digits) : value digits < 10 ^ digits.length := by
  induction digits with
  | nil => exact Nat.one_pos
  | cons c digits ih =>
    obtain ⟨digit, later⟩ := List.forall_mem_cons.mp all
    have below := ih later
    have leading : 10 ^ digits.length * (c.toNat - '0'.toNat) ≤ 10 ^ digits.length * 9 :=
      Nat.mul_le_mul_left _ (Nat.le_of_lt_succ (digit_lt digit))
    rw [value_cons, List.length_cons, Nat.pow_succ]
    omega

private theorem leading_digit {p m r : Nat} (below : r < p) : (p * m + r) / p = m := by
  rw [Nat.mul_add_div (Nat.zero_lt_of_lt below), Nat.div_eq_of_lt below, Nat.add_zero]

/-- Digits of one width that spell the same number are the same. -/
theorem value_injective (all : AllDigits digits) (each : AllDigits other)
    (width : digits.length = other.length) (same : value digits = value other) :
    digits = other := by
  induction digits generalizing other with
  | nil => exact (List.eq_nil_of_length_eq_zero width.symm).symm
  | cons c digits ih =>
    obtain ⟨d, rest, rfl⟩ := List.exists_cons_of_length_eq_add_one width.symm
    obtain ⟨digit, later⟩ := List.forall_mem_cons.mp all
    obtain ⟨digit', later'⟩ := List.forall_mem_cons.mp each
    have lengths : digits.length = rest.length := Nat.succ.inj width
    have below := lengths ▸ value_lt later
    have below' := value_lt later'
    rw [value_cons, value_cons, lengths] at same
    have leading : c.toNat - '0'.toNat = d.toNat - '0'.toNat := by
      have quotients := congrArg (· / 10 ^ rest.length) same
      simpa only [leading_digit below, leading_digit below'] using quotients
    have head : c = d := by
      obtain ⟨low, _⟩ := Char.isDigit_iff_toNat.mp digit
      obtain ⟨low', _⟩ := Char.isDigit_iff_toNat.mp digit'
      exact Char.toNat_inj.mp (by omega)
    rw [leading] at same
    rw [head, ih later later' lengths (Nat.add_left_cancel same)]

/-- A number of digits that is read is the one that they spell. -/
theorem toNat_digits (all : AllDigits digits) : (toNat? digits).getD 0 = value digits := by
  cases digits with
  | nil => rfl
  | cons c digits =>
    have whole : (c :: digits).all Char.isDigit = true := List.all_eq_true.mpr all
    rw [toNat?, if_pos (by simp [whole])]
    rfl

/-! ### Widths -/

/-- A number that is filled up with zeros is made of digits. -/
theorem zeroPadded_digits : AllDigits (zeroPadded width n) := by
  intro c member
  rcases List.mem_append.mp member with zero | digit
  · rw [List.eq_of_mem_replicate zero]
    rfl
  · exact Nat.isDigit_of_mem_toDigits (by decide) (by decide) digit

private theorem value_zeroPadded : value (zeroPadded width n) = n := by
  have number : value (ofNat n) = n := Nat.ofDigitChars_ten_toDigits
  have zeros (k : Nat) : value (List.replicate k '0') = 0 := Nat.ofDigitChars_replicate_zero
  rw [zeroPadded, List.leftpad, value_append, zeros, number, Nat.mul_zero, Nat.zero_add]

/-- A number that fits is filled up to the width exactly. -/
theorem zeroPadded_length (given : 0 < width) (bound : n < 10 ^ width) :
    (zeroPadded width n).length = width := by
  have short : (ofNat n).length ≤ width := (Nat.length_toDigits_le_iff (by decide) given).mpr bound
  rw [zeroPadded, List.length_leftpad]
  omega

private theorem zeroPadded_value (given : digits ≠ []) (all : AllDigits digits) :
    zeroPadded digits.length (value digits) = digits := by
  apply value_injective zeroPadded_digits all
  · exact zeroPadded_length (List.length_pos_iff.mpr given) (value_lt all)
  · exact value_zeroPadded

/-! ### Fractions -/

/-- Zeros behind digits are digits. -/
theorem AllDigits.filled (all : AllDigits digits) (width : Nat) :
    AllDigits (digits ++ List.replicate width '0') := by
  intro c member
  rcases List.mem_append.mp member with digit | zero
  · exact all c digit
  · rw [List.eq_of_mem_replicate zero]
    rfl

/-- The first digits behind a point, filled up with zeros, count the whole parts of that size. -/
theorem value_take (all : AllDigits digits) (width : Nat) :
    value ((digits ++ List.replicate width '0').take width) = ⌊fraction digits * 10 ^ width⌋₊ := by
  let filled := digits ++ List.replicate width '0'
  have zeros : value (List.replicate width '0') = 0 := Nat.ofDigitChars_replicate_zero
  have whole : value filled = 10 ^ width * value digits := by
    rw [value_append, zeros, List.length_replicate, Nat.add_zero]
  have behind : (filled.drop width).length = digits.length := by simp [filled]
  have rest : AllDigits (filled.drop width) :=
    fun c member => all.filled width c (List.mem_of_mem_drop member)
  have split : 10 ^ digits.length * value (filled.take width) + value (filled.drop width) =
      10 ^ width * value digits := by
    rw [← whole, ← behind, ← value_append, List.take_append_drop]
  have below := behind ▸ value_lt rest
  have quotient : value (filled.take width) = value digits * 10 ^ width / 10 ^ digits.length := by
    rw [Nat.mul_comm (value digits), ← split, leading_digit below]
  have scaled : fraction digits * 10 ^ width =
      ((value digits * 10 ^ width : ℕ) : ℚ) / ((10 ^ digits.length : ℕ) : ℚ) := by
    push_cast
    rw [fraction, div_mul_eq_mul_div]
  rw [scaled, Nat.floor_div_eq_div]
  exact quotient

/-- As many digits as the width has spell the fraction, cut off there. -/
theorem toNat_take (all : AllDigits digits) (width : Nat) :
    (toNat? ((digits ++ List.replicate width '0').take width)).getD 0 =
      ⌊fraction digits * 10 ^ width⌋₊ := by
  have front : AllDigits ((digits ++ List.replicate width '0').take width) :=
    fun c member => all.filled width c (List.mem_of_mem_take member)
  rw [toNat_digits front, value_take all]

end Text

/-! ## Readers -/

section

/-! ### Steps -/

namespace Reading

variable {α β : Type} {reader : Reading α} {next : α → Reading β} {text rest choices : Text}
  {digits : Text} {c : Char} {m n least width limit : Nat}

/-- Two steps succeed when the first does and the second goes on from its rest. -/
theorem bind_eq_some {result : β × Text} : (reader >>= next) text = some result ↔
    ∃ value rest, reader text = some (value, rest) ∧ next value rest = some result := by
  simp only [bind, StateT.bind, Option.bind_eq_some_iff, Prod.exists]

/-- A step that takes nothing leaves everything. -/
theorem pure_eq_some {value other : α} :
    (pure value : Reading α) text = some (other, rest) ↔ other = value ∧ rest = text := by
  have given : (pure value : Reading α) text = some (value, text) := rfl
  rw [given, Option.some.injEq, Prod.mk.injEq, eq_comm, @eq_comm _ text]

/-- A number is let through up to its limit. -/
theorem atMost_eq_some :
    atMost limit n text = some (m, rest) ↔ n ≤ limit ∧ m = n ∧ rest = text := by
  unfold atMost
  split
  · rename_i below
    rw [pure_eq_some]
    exact (and_iff_right below).symm
  · rename_i above
    exact iff_of_false (by rintro ⟨⟩) fun ⟨below, _⟩ => above below

/-- One of the characters is taken from the front. -/
theorem oneOf_eq_some : oneOf choices text = some (c, rest) ↔ c ∈ choices ∧ text = c :: rest := by
  cases text with
  | nil => exact iff_of_false (by rintro ⟨⟩) (by rintro ⟨_, ⟨⟩⟩)
  | cons d text =>
    rw [oneOf]
    split
    · rename_i known
      simp only [Option.some.injEq, Prod.mk.injEq, List.cons.injEq]
      exact ⟨fun ⟨same, left⟩ => ⟨same ▸ known, same, left⟩, fun ⟨_, same, left⟩ => ⟨same, left⟩⟩
    · rename_i unknown
      refine iff_of_false (by rintro ⟨⟩) ?_
      rintro ⟨known, same⟩
      exact unknown ((List.cons.inj same).1 ▸ known)

/-- A text is read as a whole when nothing is left of it. -/
theorem all_eq_some {value : α} :
    reader.all? text = some value ↔ reader text = some (value, []) := by
  unfold all?
  split
  · rename_i read
    rw [read]
    simp
  · rename_i other
    exact iff_of_false (by rintro ⟨⟩) (other value)

/-- As many digits as are asked for at most are all taken. -/
theorem number_front (all : Text.AllDigits digits) (enough : least ≤ digits.length) :
    number least digits.length (digits ++ rest) = some (Text.value digits, rest) := by
  have front : (digits ++ rest).take digits.length = digits := List.take_left
  have whole : digits.takeWhile Char.isDigit = digits := List.takeWhile_eq_self_iff.mpr all
  unfold number
  simp only
  rw [front, whole, if_neg (Nat.not_lt.mpr enough), Text.toNat_digits all, List.drop_left]

/-- A number of a width is taken in its one spelling of that width. -/
theorem number_eq_some (given : 0 < width) : number width width text = some (n, rest) ↔
    n < 10 ^ width ∧ text = Text.zeroPadded width n ++ rest := by
  constructor
  · intro read
    unfold number at read
    simp only at read
    split at read
    · cases read
    · rename_i enough
      have whole : (text.take width).takeWhile Char.isDigit = text.take width := by
        apply (List.takeWhile_prefix _).eq_of_length_le
        rw [List.length_take]
        omega
      have all : Text.AllDigits (text.take width) := List.takeWhile_eq_self_iff.mp whole
      rw [whole] at enough read
      have size : (text.take width).length = width := by
        rw [List.length_take] at enough ⊢
        omega
      rw [Text.toNat_digits all, size] at read
      obtain ⟨rfl, rfl⟩ := Prod.mk.inj (Option.some.inj read)
      have spelled := Text.zeroPadded_value (List.ne_nil_of_length_pos (size.symm ▸ given)) all
      have bound := Text.value_lt all
      rw [size] at spelled bound
      exact ⟨bound, by rw [spelled, List.take_append_drop]⟩
  · rintro ⟨bound, rfl⟩
    have size := Text.zeroPadded_length given bound
    have read : number width (Text.zeroPadded width n).length (Text.zeroPadded width n ++ rest) =
        some (Text.value (Text.zeroPadded width n), rest) :=
      number_front Text.zeroPadded_digits size.ge
    rwa [size, Text.value_zeroPadded] at read

/-- Two digits are a number below a hundred with a zero in front if need be. -/
theorem twoDigits_eq_some : twoDigits text = some (n, rest) ↔
    n < 100 ∧ text = Text.zeroPadded 2 n ++ rest :=
  number_eq_some (by decide)

private theorem trimStart_digits (all : Text.AllDigits digits) (given : digits ≠ []) :
    (digits ++ rest).trimStart = digits ++ rest := by
  obtain ⟨c, more, rfl⟩ := List.exists_cons_of_ne_nil given
  have solid := Text.digit_solid (all c (.head _))
  exact List.dropWhile_cons_of_neg (by simp [solid])

private theorem oneOrTwoDigits_front (bound : n < 100) :
    oneOrTwoDigits (Text.zeroPadded 2 n ++ rest) = some (n, rest) := by
  have size : (Text.zeroPadded 2 n).length = 2 := Text.zeroPadded_length (by decide) bound
  have given : Text.zeroPadded 2 n ≠ [] := List.ne_nil_of_length_pos (by omega)
  have read : number 1 (Text.zeroPadded 2 n).length (Text.zeroPadded 2 n ++ rest) =
      some (Text.value (Text.zeroPadded 2 n), rest) :=
    number_front Text.zeroPadded_digits (by omega)
  rw [size, Text.value_zeroPadded] at read
  rw [oneOrTwoDigits, trimStart_digits Text.zeroPadded_digits given, read]

private theorem bind_of_some {value : α} (read : reader text = some (value, rest)) :
    (reader >>= next) text = next value rest := by
  simp only [bind, StateT.bind, read, Option.bind_some]

end Reading

open Reading

/-! ### Dates -/

variable {text rest : Text} {date given : Date} {moment : Moment} {hour minute second nano : Nat}

/-- A date is let through when it exists and its year can be held. -/
theorem Date.checked_eq_some : Date.checked given text = some (date, rest) ↔
    (Date.yearInRange given.year = true ∧ given.Exists) ∧ date = given ∧ rest = text := by
  unfold Date.checked
  rw [← Date.isValid_iff]
  split
  · rename_i known
    rw [pure_eq_some, ← Bool.and_eq_true]
    exact (and_iff_right known).symm
  · rename_i unknown
    rw [← Bool.and_eq_true]
    exact iff_of_false (by rintro ⟨⟩) fun ⟨known, _⟩ => unknown known

private theorem Date.readYear_front {year : Nat} (bound : year < 10 ^ 4) :
    Date.readYear (Text.zeroPadded 4 year ++ rest) = some ((year : Int), rest) := by
  have size : (Text.zeroPadded 4 year).length = 4 := Text.zeroPadded_length (by decide) bound
  have given : Text.zeroPadded 4 year ≠ [] := List.ne_nil_of_length_pos (by omega)
  have all : Text.AllDigits (Text.zeroPadded 4 year) := Text.zeroPadded_digits
  have read : number 1 (Text.zeroPadded 4 year).length (Text.zeroPadded 4 year ++ rest) =
      some (Text.value (Text.zeroPadded 4 year), rest) := number_front all (by omega)
  rw [size, Text.value_zeroPadded] at read
  obtain ⟨c, digits, split⟩ := List.exists_cons_of_ne_nil given
  have digit : c.isDigit = true := all c (split ▸ .head _)
  rw [Date.readYear, trimStart_digits all given]
  split
  · rename_i sign
    rw [split] at sign
    rw [(List.cons.inj sign).1] at digit
    cases digit
  · rename_i sign
    rw [split] at sign
    rw [(List.cons.inj sign).1] at digit
    cases digit
  · rw [read]
    rfl

/-- Where a plain date of full width is read, everything behind it is left. -/
theorem Date.read_front {year month day : Nat} (years : year < 10 ^ 4) (months : month < 100)
    (days : day < 100) : Date.read (Text.zeroPadded 4 year ++ '-' ::
      (Text.zeroPadded 2 month ++ '-' :: (Text.zeroPadded 2 day ++ rest))) =
        Date.checked ⟨year, month, day⟩ rest := by
  have dash (rest : Text) : oneOf "-" ('-' :: rest) = some ('-', rest) := rfl
  rw [Date.read, bind_of_some (Date.readYear_front years), bind_of_some (dash _),
    bind_of_some (oneOrTwoDigits_front months), bind_of_some (dash _),
    bind_of_some (oneOrTwoDigits_front days)]

/-- A date that is read exists. -/
theorem Date.read_exists (read : Date.read text = some (date, rest)) : date.Exists := by
  simp only [Date.read, bind_eq_some, Date.checked_eq_some] at read
  obtain ⟨_, _, _, _, _, _, _, _, _, _, _, _, _, _, _, ⟨_, valid⟩, rfl, _⟩ := read
  exact valid

/-! ### Moments -/

namespace Moment

/-- A time within the limits of a day is a moment of it. -/
theorem atTime_exists (valid : date.Exists) (hours : hour ≤ 23) (minutes : minute ≤ 59) :
    (atTime date hour minute second nano).Exists := by
  unfold atTime
  split
  · exact ⟨valid, by simp only; omega⟩
  · exact ⟨valid, by simp only; omega⟩

/-- A local moment that is read exists. -/
theorem readLocal_exists (read : readLocal text = some (moment, rest)) : moment.Exists := by
  simp only [readLocal, bind_eq_some, atMost_eq_some, pure_eq_some] at read
  obtain ⟨date, _, dated, _, _, _, hour, _, ⟨_, _, _, hours, rfl, _⟩, _, _, _,
    minute, _, ⟨_, _, _, minutes, rfl, _⟩, _, _, _, second, _, _, rfl, _⟩ := read
  exact atTime_exists (Date.read_exists dated) hours minutes

end Moment

end

end BlogTerminal
