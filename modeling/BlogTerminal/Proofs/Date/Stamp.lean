import BlogTerminal.Proofs.Date.Reading
import BlogTerminal.Proofs.Text.Pieces

/-!
RFC 3339 stamps. A stamp writes down a local date and time together with the zone that they are
local to, and it denotes an instant of universal time, which many other stamps denote as well. What
stamps there are and what they denote is said here without the reader of stamps. A text is read as a
stamp exactly when it spells one, and the moment that is read is where the instant lies on the time
line, to the nanosecond.
-/

namespace BlogTerminal

/-- An instant of universal time. -/
structure Instant where
  /-- The minutes since the start of the year 1. -/
  minute : ℤ
  /-- The second of the minute. A leap second is second 60. -/
  second : ℕ
  /-- The part of the second. -/
  fraction : ℚ

/-- Where an instant lies on the time line, to the nanosecond. A leap second lies behind the
nanoseconds of second 59. -/
def Instant.place (instant : Instant) : ℤ ×ₗ ℕ :=
  toLex (60 * instant.minute + min instant.second 59,
    1000000000 * (instant.second - 59) + ⌊instant.fraction * 10 ^ 9⌋₊)

/-- The zone of a stamp: universal time as a letter, or the hours and minutes by which it is ahead
of universal time or behind. -/
inductive Zone where
  | universal (letter : Char) (known : letter ∈ ['Z', 'z'])
  | shifted (sign : Char) (hours minutes : Nat) (known : sign ∈ ['+', '-', '−'])
      (hours_le : hours ≤ 23) (minutes_le : minutes ≤ 59)

namespace Zone

/-- The spelling of a zone. -/
def text : Zone → Text
  | universal letter _ => [letter]
  | shifted sign hours minutes _ _ _ =>
    [sign] ++ Text.zeroPadded 2 hours ++ ":" ++ Text.zeroPadded 2 minutes

/-- The minutes by which a zone is ahead of universal time. -/
def ahead : Zone → ℤ
  | universal _ _ => 0
  | shifted sign hours minutes _ _ _ =>
    if sign = '+' then 60 * hours + minutes else -(60 * hours + minutes)

end Zone

/-- A stamp. -/
structure Stamp where
  year : Nat
  month : Nat
  day : Nat
  /-- The sign between date and time. -/
  separator : Char
  hour : Nat
  minute : Nat
  second : Nat
  /-- The digits of the part of the second; without any there is no point either. -/
  digits : Text
  zone : Zone
  year_le : year ≤ 9999
  day_exists : Date.Exists ⟨year, month, day⟩
  separator_known : separator ∈ ['T', 't', ' ']
  hour_le : hour ≤ 23
  minute_le : minute ≤ 59
  second_le : second ≤ 60
  digits_all : Text.AllDigits digits

namespace Stamp

/-- The local date. -/
def date (stamp : Stamp) : Date := ⟨stamp.year, stamp.month, stamp.day⟩

/-- The spelling of the part of a second. -/
def pointed (digits : Text) : Text := if digits = [] then [] else '.' :: digits

/-- The spelling of a stamp. -/
def text (stamp : Stamp) : Text :=
  Text.zeroPadded 4 stamp.year ++ "-" ++ Text.zeroPadded 2 stamp.month ++ "-" ++
    Text.zeroPadded 2 stamp.day ++ [stamp.separator] ++ Text.zeroPadded 2 stamp.hour ++ ":" ++
    Text.zeroPadded 2 stamp.minute ++ ":" ++ Text.zeroPadded 2 stamp.second ++
    pointed stamp.digits ++ stamp.zone.text

/-- The instant that a stamp denotes. -/
def instant (stamp : Stamp) : Instant where
  minute := 1440 * stamp.date.dayNumber + 60 * stamp.hour + stamp.minute - stamp.zone.ahead
  second := stamp.second
  fraction := Text.fraction stamp.digits

/-- The moment at which its instant is the case. -/
def moment (stamp : Stamp) : Moment :=
  (Moment.atTime stamp.date stamp.hour stamp.minute stamp.second
    ⌊Text.fraction stamp.digits * 10 ^ 9⌋₊).earlier stamp.zone.ahead

end Stamp

open Reading

variable {text rest : Text} {offset : ℤ} {nano : Nat} {moment : Moment}

private theorem dash_text : ("-" : Text) = ['-'] := rfl

private theorem colon_text : (":" : Text) = [':'] := rfl

/-! ## Zones -/

namespace Zone

private theorem ahead_bounds (zone : Zone) : -1440 < zone.ahead ∧ zone.ahead < 1440 := by
  cases zone with
  | universal letter known =>
    simp only [ahead]
    omega
  | shifted sign hours minutes known hours_le minutes_le =>
    unfold ahead
    split <;> omega

private theorem text_shifted {sign : Char} {hours minutes : Nat} (known : sign ∈ ['+', '-', '−'])
    (hours_le : hours ≤ 23) (minutes_le : minutes ≤ 59) (rest : Text) :
    (shifted sign hours minutes known hours_le minutes_le).text ++ rest =
      sign :: (Text.zeroPadded 2 hours ++ ':' :: (Text.zeroPadded 2 minutes ++ rest)) := by
  simp only [text, colon_text, List.append_assoc, List.cons_append, List.nil_append]

/-- What a zone begins with is neither part of a number nor blank. -/
private theorem sign_apart {sign : Char} (known : sign ∈ ['Z', 'z'] ++ ['+', '-', '−']) :
    sign ≠ '.' ∧ sign.isDigit = false ∧ Text.isBlank sign = false := by
  revert sign
  simp [Char.isDigit, Text.isBlank, Text.blanks, Text.Ranges.covers]

private theorem text_apart (zone : Zone) (rest : Text) :
    ∃ sign behind, zone.text ++ rest = sign :: behind ∧ sign ≠ '.' ∧ sign.isDigit = false := by
  cases zone with
  | universal letter known =>
    obtain ⟨point, digit, _⟩ := sign_apart (List.mem_append_left _ known)
    exact ⟨letter, rest, rfl, point, digit⟩
  | shifted sign hours minutes known hours_le minutes_le =>
    obtain ⟨point, digit, _⟩ := sign_apart (List.mem_append_right _ known)
    exact ⟨sign, _, text_shifted known hours_le minutes_le rest, point, digit⟩

private theorem text_solid (zone : Zone) : ∀ c ∈ zone.text, Text.isBlank c = false := by
  intro c member
  cases zone with
  | universal letter known =>
    rw [List.mem_singleton.mp member]
    exact (sign_apart (List.mem_append_left _ known)).2.2
  | shifted sign hours minutes known hours_le minutes_le =>
    simp only [text, colon_text, List.mem_append, List.mem_singleton] at member
    rcases member with ((rfl | digit) | rfl) | digit
    · exact (sign_apart (List.mem_append_right _ known)).2.2
    · exact Text.digit_solid (Text.zeroPadded_digits c digit)
    · decide
    · exact Text.digit_solid (Text.zeroPadded_digits c digit)

/-- Offsets are read as zones are spelled. -/
theorem readOffset_eq_some : Moment.readOffset text = some (offset, rest) ↔
    ∃ zone : Zone, text = zone.text ++ rest ∧ offset = zone.ahead := by
  simp only [Moment.readOffset, bind_eq_some, oneOf_eq_some]
  constructor
  · rintro ⟨sign, _, ⟨known, rfl⟩, read⟩
    split at read
    · rename_i letter
      obtain ⟨rfl, rfl⟩ := pure_eq_some.mp read
      exact ⟨.universal sign (by simpa using letter), rfl, rfl⟩
    · rename_i other
      simp only [bind_eq_some, twoDigits_eq_some, atMost_eq_some, oneOf_eq_some, pure_eq_some,
        colon_text, List.mem_singleton] at read
      obtain ⟨hours, _, ⟨_, _, ⟨_, rfl⟩, hours_le, rfl, rfl⟩, _, _, ⟨rfl, rfl⟩,
        minutes, _, ⟨_, _, ⟨_, rfl⟩, minutes_le, rfl, rfl⟩, rfl, rfl⟩ := read
      have shifts : sign ∈ ['+', '-', '−'] := by
        simpa [not_or.mp other] using known
      exact ⟨.shifted sign hours minutes shifts hours_le minutes_le,
        (text_shifted shifts hours_le minutes_le _).symm, rfl⟩
  · rintro ⟨zone, rfl, rfl⟩
    cases zone with
    | universal letter known =>
      have letters : letter = 'Z' ∨ letter = 'z' := by simpa using known
      refine ⟨letter, rest, ⟨?_, rfl⟩, ?_⟩
      · rcases letters with rfl | rfl <;> decide
      · rw [if_pos letters]
        rfl
    | shifted sign hours minutes known hours_le minutes_le =>
      have signs : sign = '+' ∨ sign = '-' ∨ sign = '−' := by simpa using known
      have other : ¬ (sign = 'Z' ∨ sign = 'z') := by
        rcases signs with rfl | rfl | rfl <;> decide
      refine ⟨sign, _, ⟨?_, text_shifted known hours_le minutes_le rest⟩, ?_⟩
      · rcases signs with rfl | rfl | rfl <;> decide
      · rw [if_neg other]
        simp only [bind_eq_some, twoDigits_eq_some, atMost_eq_some, oneOf_eq_some, pure_eq_some]
        exact ⟨hours, _, ⟨_, _, ⟨by omega, rfl⟩, hours_le, rfl, rfl⟩, ':', _, ⟨.head _, rfl⟩,
          minutes, _, ⟨_, _, ⟨by omega, rfl⟩, minutes_le, rfl, rfl⟩, rfl, rfl⟩

end Zone

/-! ## Stamps -/

namespace Stamp

private theorem readFraction_spelled (read : Moment.readFraction text = some (nano, rest)) :
    ∃ digits, Text.AllDigits digits ∧ text = pointed digits ++ rest ∧
      nano = ⌊Text.fraction digits * 10 ^ 9⌋₊ := by
  unfold Moment.readFraction at read
  split at read
  · rename_i behind
    simp only at read
    split at read
    · cases read
    · rename_i given
      have all : Text.AllDigits (behind.takeWhile Char.isDigit) :=
        fun c member => List.mem_takeWhile_imp member
      have parts : behind.takeWhile Char.isDigit ++
          behind.drop (behind.takeWhile Char.isDigit).length = behind :=
        List.prefix_iff_eq_append.mp (List.takeWhile_prefix _)
      rw [Text.toNat_take all] at read
      obtain ⟨rfl, rfl⟩ := Prod.mk.inj (Option.some.inj read)
      refine ⟨_, all, ?_, rfl⟩
      rw [pointed, if_neg (by simpa using given), List.cons_append, parts]
  · cases read
    exact ⟨[], fun c member => absurd member List.not_mem_nil, rfl,
      by simp [Text.fraction, Text.value]⟩

private theorem readFraction_pointed {digits : Text} {sign : Char} (all : Text.AllDigits digits)
    (point : sign ≠ '.') (ends : sign.isDigit = false) (behind : Text) :
    Moment.readFraction (pointed digits ++ sign :: behind) =
      some (⌊Text.fraction digits * 10 ^ 9⌋₊, sign :: behind) := by
  by_cases given : digits = []
  · subst given
    have none : ⌊Text.fraction [] * 10 ^ 9⌋₊ = 0 := by simp [Text.fraction, Text.value]
    rw [none, pointed, if_pos rfl, List.nil_append, Moment.readFraction]
    intro rest same
    exact point (List.cons.inj same).1
  · have run : (digits ++ sign :: behind).takeWhile Char.isDigit = digits := by
      rw [List.takeWhile_append_of_pos all, List.takeWhile_cons_of_neg (by simp [ends]),
        List.append_nil]
    rw [pointed, if_neg given, List.cons_append, Moment.readFraction]
    simp only [run]
    rw [if_neg (by simpa using given), Text.toNat_take all, List.drop_left]

private theorem year_inRange (stamp : Stamp) : Date.yearInRange stamp.date.year = true := by
  have year_le := stamp.year_le
  have low : -262143 ≤ (stamp.year : ℤ) := by omega
  have high : (stamp.year : ℤ) ≤ 262142 := by omega
  rw [Date.yearInRange, Bool.and_eq_true]
  exact ⟨decide_eq_true low, decide_eq_true high⟩

/-- A stamp in front of a text, part by part. -/
theorem text_append (stamp : Stamp) (rest : Text) : stamp.text ++ rest =
    Text.zeroPadded 4 stamp.year ++ '-' :: (Text.zeroPadded 2 stamp.month ++ '-' ::
      (Text.zeroPadded 2 stamp.day ++ stamp.separator :: (Text.zeroPadded 2 stamp.hour ++ ':' ::
        (Text.zeroPadded 2 stamp.minute ++ ':' :: (Text.zeroPadded 2 stamp.second ++
          (pointed stamp.digits ++ (stamp.zone.text ++ rest))))))) := by
  simp only [text, dash_text, colon_text, List.append_assoc, List.cons_append, List.nil_append]

private theorem readStamp_spelled (read : Moment.readStamp text = some (moment, rest)) :
    ∃ stamp : Stamp, text = stamp.text ++ rest ∧ moment = stamp.moment := by
  simp only [Moment.readStamp, bind_eq_some, twoDigits_eq_some, atMost_eq_some, oneOf_eq_some,
    pure_eq_some, Date.checked_eq_some, Zone.readOffset_eq_some, number_eq_some, Nat.zero_lt_succ,
    dash_text, colon_text, List.mem_singleton] at read
  obtain ⟨year, _, ⟨year_lt, rfl⟩, _, _, ⟨rfl, rfl⟩, month, _, ⟨_, rfl⟩, _, _, ⟨rfl, rfl⟩,
    day, _, ⟨_, rfl⟩, separator, _, ⟨separates, rfl⟩, read⟩ := read
  obtain ⟨hour, _, ⟨_, _, ⟨_, rfl⟩, hour_le, rfl, rfl⟩, _, _, ⟨rfl, rfl⟩, read⟩ := read
  obtain ⟨minute, _, ⟨_, _, ⟨_, rfl⟩, minute_le, rfl, rfl⟩, _, _, ⟨rfl, rfl⟩, read⟩ := read
  obtain ⟨second, _, ⟨_, _, ⟨_, rfl⟩, second_le, rfl, rfl⟩, read⟩ := read
  obtain ⟨nano, _, fraction, offset, _, ⟨zone, rfl, rfl⟩, read⟩ := read
  obtain ⟨date, _, ⟨⟨_, valid⟩, rfl, rfl⟩, rfl, rfl⟩ := read
  obtain ⟨digits, all, rfl, rfl⟩ := readFraction_spelled fraction
  let stamp : Stamp := ⟨year, month, day, separator, hour, minute, second, digits, zone,
    Nat.le_of_lt_succ year_lt, valid, separates, hour_le, minute_le, second_le, all⟩
  exact ⟨stamp, (stamp.text_append rest).symm, rfl⟩

private theorem readStamp_text (stamp : Stamp) (rest : Text) :
    Moment.readStamp (stamp.text ++ rest) = some (stamp.moment, rest) := by
  obtain ⟨_, month_le, _, day_le⟩ := stamp.day_exists
  have days := Date.daysIn_le stamp.year stamp.month
  have hour_le := stamp.hour_le
  have minute_le := stamp.minute_le
  have second_le := stamp.second_le
  have year_lt := Nat.lt_succ_of_le stamp.year_le
  have fraction : Moment.readFraction (pointed stamp.digits ++ (stamp.zone.text ++ rest)) =
      some (⌊Text.fraction stamp.digits * 10 ^ 9⌋₊, stamp.zone.text ++ rest) := by
    obtain ⟨sign, behind, split, point, ends⟩ := stamp.zone.text_apart rest
    rw [split]
    exact readFraction_pointed stamp.digits_all point ends behind
  simp only at month_le day_le
  rw [text_append]
  simp only [Moment.readStamp, bind_eq_some, twoDigits_eq_some, atMost_eq_some, oneOf_eq_some,
    pure_eq_some, Date.checked_eq_some, Zone.readOffset_eq_some, number_eq_some, Nat.zero_lt_succ,
    dash_text, colon_text, List.mem_singleton]
  exact ⟨stamp.year, _, ⟨year_lt, rfl⟩, '-', _, ⟨rfl, rfl⟩, stamp.month, _, ⟨by omega, rfl⟩,
    '-', _, ⟨rfl, rfl⟩, stamp.day, _, ⟨by omega, rfl⟩, stamp.separator, _,
    ⟨stamp.separator_known, rfl⟩, stamp.hour, _, ⟨_, _, ⟨by omega, rfl⟩, hour_le, rfl, rfl⟩,
    ':', _, ⟨rfl, rfl⟩, stamp.minute, _, ⟨_, _, ⟨by omega, rfl⟩, minute_le, rfl, rfl⟩,
    ':', _, ⟨rfl, rfl⟩, stamp.second, _, ⟨_, _, ⟨by omega, rfl⟩, second_le, rfl, rfl⟩,
    _, _, fraction, stamp.zone.ahead, _, ⟨stamp.zone, rfl, rfl⟩, stamp.date, _,
    ⟨⟨stamp.year_inRange, stamp.day_exists⟩, rfl, rfl⟩, rfl, rfl⟩

/-- A text is read as a stamp exactly when it spells one. -/
theorem readStamp_eq_some : Moment.readStamp.all? text = some moment ↔
    ∃ stamp : Stamp, text = stamp.text ∧ moment = stamp.moment := by
  rw [all_eq_some]
  constructor
  · intro read
    obtain ⟨stamp, spelled, same⟩ := readStamp_spelled read
    exact ⟨stamp, spelled.trans (List.append_nil _), same⟩
  · rintro ⟨stamp, spelled, same⟩
    have read := stamp.readStamp_text []
    rwa [List.append_nil, ← spelled, ← same] at read

/-- A stamp is no plain date: there is more behind its date. -/
theorem text_undated (stamp : Stamp) : Date.read.all? stamp.text = none := by
  obtain ⟨_, month_le, _, day_le⟩ := stamp.day_exists
  have days := Date.daysIn_le stamp.year stamp.month
  have years := Nat.lt_succ_of_le stamp.year_le
  simp only at month_le day_le
  cases read : Date.read.all? stamp.text with
  | none => rfl
  | some date =>
    have front := all_eq_some.mp read
    rw [← List.append_nil stamp.text, text_append, Date.read_front years (by omega) (by omega),
      Date.checked_eq_some] at front
    cases front.2.2

private theorem text_trim (stamp : Stamp) : stamp.text.trim = stamp.text := by
  apply Text.trim_kept
  · intro c first
    have year : Text.zeroPadded 4 stamp.year ≠ [] := by
      apply List.ne_nil_of_length_pos
      rw [Text.zeroPadded_length (by decide) (Nat.lt_succ_of_le stamp.year_le)]
      decide
    rw [← List.append_nil stamp.text, text_append, List.head?_append_of_ne_nil _ year] at first
    exact Text.digit_solid (Text.zeroPadded_digits c (List.mem_of_mem_head? first))
  · intro c last
    obtain ⟨sign, behind, split, _⟩ := stamp.zone.text_apart []
    rw [List.append_nil] at split
    rw [text, List.getLast?_append_of_ne_nil _ (by rw [split]; simp)] at last
    exact stamp.zone.text_solid c (List.mem_of_getLast? last)

/-- A stamp is read as its moment, whatever else can be read as a date. -/
theorem ofText_text (stamp : Stamp) : Moment.ofText? stamp.text = some stamp.moment := by
  have read : Moment.readStamp.all? stamp.text = some stamp.moment :=
    readStamp_eq_some.mpr ⟨stamp, rfl, rfl⟩
  simp only [Moment.ofText?, stamp.text_trim, stamp.text_undated, read]
  rfl

/-! ## The moment of a stamp -/

private theorem moment_exists (stamp : Stamp) : stamp.moment.Exists := by
  obtain ⟨low, high⟩ := stamp.zone.ahead_bounds
  exact (Moment.atTime_exists stamp.day_exists stamp.hour_le stamp.minute_le).earlier low high

/-- The moment of a stamp lies where its instant does. -/
theorem instant_moment (stamp : Stamp) : stamp.moment.instant = stamp.instant.place := by
  obtain ⟨low, high⟩ := stamp.zone.ahead_bounds
  have second_le := stamp.second_le
  have valid : (Moment.atTime stamp.date stamp.hour stamp.minute stamp.second
      ⌊Text.fraction stamp.digits * 10 ^ 9⌋₊).Exists :=
    Moment.atTime_exists stamp.day_exists stamp.hour_le stamp.minute_le
  rw [Moment.instant, moment, Moment.seconds_earlier valid low high, Moment.nano_earlier]
  apply congrArg toLex
  unfold Moment.atTime Moment.seconds
  split
  · simp only [instant, Prod.mk.injEq]
    omega
  · -- the leap second: its fraction lies behind the whole of second 59
    simp only [instant, Prod.mk.injEq]
    omega

/-- Stamps that denote the same instant have the same moment, whatever they look like. -/
theorem moment_congr {first second : Stamp} (same : first.instant = second.instant) :
    first.moment = second.moment := by
  apply Moment.instant_injective first.moment_exists second.moment_exists
  rw [instant_moment, instant_moment, same]

end Stamp

/-- Every date that is read is a moment on the time line. -/
theorem Moment.ofText_exists (read : Moment.ofText? text = some moment) : moment.Exists := by
  simp only [Moment.ofText?, Option.orElse_eq_orElse, Option.orElse_eq_or, Option.or_eq_some_iff,
    Option.map_eq_some_iff] at read
  rcases read with ⟨date, dated, rfl⟩ | ⟨_, stamped | ⟨_, timed⟩⟩
  · exact ⟨Date.read_exists (all_eq_some.mp dated), Nat.zero_lt_succ _⟩
  · obtain ⟨stamp, _, rfl⟩ := Stamp.readStamp_eq_some.mp stamped
    exact stamp.moment_exists
  · exact Moment.readLocal_exists (all_eq_some.mp timed)

end BlogTerminal
