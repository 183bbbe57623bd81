import BlogTerminal.Date
import Mathlib.Data.Prod.Lex
import Mathlib.Order.Monotone.Basic
import Mathlib.Tactic.IntervalCases

/-!
The calendar counts days. Every year begins where the one before it ends, and so does every month,
so the number of a day lies between the start of its month and the start of the next one. From this
follow that the next day has the next number, that earlier days have lower numbers, and that no two
days share one.
-/

namespace BlogTerminal

namespace Date

variable {date first second : Date} {year : Int} {month : Nat}

/-! ## Years -/

/-- The number of the first day of a year. -/
def yearStart (year : Int) : Int :=
  365 * (year - 1) + (year - 1) / 4 - (year - 1) / 100 + (year - 1) / 400

private theorem isLeap_iff :
    isLeap year = true ↔ year % 4 = 0 ∧ (year % 100 ≠ 0 ∨ year % 400 = 0) := by
  simp [isLeap]

private theorem daysBefore_year : daysBefore year 13 = if isLeap year then 366 else 365 := by
  simp only [daysBefore, daysIn]
  split <;> rfl

private theorem yearStart_succ (year : Int) :
    yearStart (year + 1) = yearStart year + daysBefore year 13 := by
  rw [daysBefore_year]
  unfold yearStart
  split
  · rename_i leap
    have := isLeap_iff.mp leap
    omega
  · rename_i common
    rw [isLeap_iff] at common
    omega

private theorem yearStart_le {later : Int} (before : year ≤ later) :
    yearStart year ≤ yearStart later := by
  unfold yearStart
  omega

/-! ## Months -/

private theorem daysBefore_succ (given : 1 ≤ month) :
    daysBefore year (month + 1) = daysBefore year month + daysIn year month := by
  obtain ⟨before, rfl⟩ := Nat.exists_eq_add_of_le' given
  rfl

private theorem daysBefore_mono : Monotone (daysBefore year) := by
  apply monotone_nat_of_le_succ
  intro month
  cases month with
  | zero => exact Nat.le_refl 0
  | succ month => exact Nat.le_add_right _ _

private theorem daysIn_outside (outside : month = 0 ∨ 12 < month) : daysIn year month = 0 := by
  unfold daysIn
  split <;> omega

private theorem daysIn_pos (low : 1 ≤ month) (high : month ≤ 12) : 0 < daysIn year month := by
  have february : 0 < daysIn year 2 := by
    simp only [daysIn]
    split <;> decide
  interval_cases month
  case «2» => exact february
  all_goals exact Nat.zero_lt_succ _

/-- No month is longer than 31 days. -/
theorem daysIn_le (year : Int) (month : Nat) : daysIn year month ≤ 31 := by
  unfold daysIn
  split
  case h_12 => split <;> decide
  all_goals decide

/-! ## Days -/

/-- A day that exists, field by field. -/
structure Exists (date : Date) : Prop where
  month_pos : 1 ≤ date.month
  month_le : date.month ≤ 12
  day_pos : 1 ≤ date.day
  day_le : date.day ≤ daysIn date.year date.month

/-- The check of a date accepts exactly the dates that exist. -/
theorem isValid_iff : date.isValid = true ↔ date.Exists := by
  simp only [isValid, Bool.and_eq_true, decide_eq_true_eq]
  constructor
  · rintro ⟨low, high⟩
    have inside : ¬ (date.month = 0 ∨ 12 < date.month) := by
      intro outside
      rw [daysIn_outside outside] at high
      omega
    exact ⟨by omega, by omega, low, high⟩
  · exact fun valid => ⟨valid.day_pos, valid.day_le⟩

private theorem dayNumber_eq (date : Date) : date.dayNumber =
    yearStart date.year + daysBefore date.year date.month + (date.day - 1 : Int) := rfl

/-- A day lies in its month. -/
theorem Exists.in_month (valid : date.Exists) :
    yearStart date.year + daysBefore date.year date.month ≤ date.dayNumber ∧
      date.dayNumber < yearStart date.year + daysBefore date.year (date.month + 1) := by
  obtain ⟨month_pos, _, day_pos, day_le⟩ := valid
  rw [dayNumber_eq, daysBefore_succ month_pos]
  omega

/-- A day lies in its year. -/
theorem Exists.in_year (valid : date.Exists) :
    yearStart date.year ≤ date.dayNumber ∧ date.dayNumber < yearStart (date.year + 1) := by
  obtain ⟨low, high⟩ := valid.in_month
  have last : daysBefore date.year (date.month + 1) ≤ daysBefore date.year 13 :=
    daysBefore_mono (Nat.succ_le_succ valid.month_le)
  rw [yearStart_succ]
  omega

/-! ## The next day and the day before -/

/-- Behind a date that exists comes another one. -/
theorem Exists.next (valid : date.Exists) : date.next.Exists := by
  obtain ⟨month_pos, month_le, day_pos, day_le⟩ := valid
  unfold Date.next
  split
  · exact ⟨month_pos, month_le, Nat.le_add_left 1 _, by assumption⟩
  · split
    · have below : date.month + 1 ≤ 12 := by omega
      exact ⟨Nat.le_add_left 1 _, below, Nat.le_refl 1, daysIn_pos (Nat.le_add_left 1 _) below⟩
    · have positive : 0 < daysIn (date.year + 1) 1 := daysIn_pos (by decide) (by decide)
      exact ⟨Nat.le_refl 1, Nat.le_add_left 1 11, Nat.le_refl 1, positive⟩

private theorem dayNumber_next (valid : date.Exists) :
    date.next.dayNumber = date.dayNumber + 1 := by
  obtain ⟨month_pos, month_le, day_pos, day_le⟩ := valid
  have behind : daysBefore date.year (date.month + 1) =
      daysBefore date.year date.month + daysIn date.year date.month := daysBefore_succ month_pos
  have december : daysBefore date.year 13 = daysBefore date.year 12 + daysIn date.year 12 := rfl
  simp only [dayNumber_eq]
  unfold Date.next
  split
  · simp only
    omega
  · rename_i last
    split
    · simp only
      omega
    · have month : date.month = 12 := by omega
      have start := yearStart_succ date.year
      have first : daysBefore (date.year + 1) 1 = 0 := rfl
      rw [month] at last day_le
      simp only [first, start, month]
      omega

/-- Before a date that exists comes another one. -/
theorem Exists.previous (valid : date.Exists) : date.previous.Exists := by
  obtain ⟨month_pos, month_le, day_pos, day_le⟩ := valid
  unfold Date.previous
  split
  · exact ⟨month_pos, month_le, by simp only; omega, by simp only; omega⟩
  · split
    · have positive : 0 < daysIn date.year (date.month - 1) := daysIn_pos (by omega) (by omega)
      exact ⟨by simp only; omega, by simp only; omega, positive, Nat.le_refl _⟩
    · exact ⟨Nat.le_add_left 1 11, Nat.le_refl 12, Nat.le_add_left 1 30, Nat.le_refl 31⟩

private theorem dayNumber_previous (valid : date.Exists) :
    date.previous.dayNumber = date.dayNumber - 1 := by
  obtain ⟨month_pos, month_le, day_pos, day_le⟩ := valid
  simp only [dayNumber_eq]
  unfold Date.previous
  split
  · simp only
    omega
  · split
    · have behind : daysBefore date.year (date.month - 1 + 1) =
          daysBefore date.year (date.month - 1) + daysIn date.year (date.month - 1) :=
        daysBefore_succ (by omega)
      rw [Nat.sub_add_cancel month_pos] at behind
      simp only
      omega
    · have january : date.month = 1 := by omega
      have start := yearStart_succ (date.year - 1)
      have year : daysBefore (date.year - 1) 13 = daysBefore (date.year - 1) 12 + 31 := rfl
      have first : daysBefore date.year 1 = 0 := rfl
      rw [Int.sub_add_cancel] at start
      simp only [january, first]
      omega

/-! ## The order of days -/

/-- The first day comes before the second, compared from the year down. -/
def Before (first second : Date) : Prop :=
  first.year < second.year ∨ first.year = second.year ∧
    (first.month < second.month ∨ first.month = second.month ∧ first.day < second.day)

private theorem before_or (first second : Date) :
    first.Before second ∨ first = second ∨ second.Before first := by
  obtain ⟨year, month, day⟩ := first
  obtain ⟨year', month', day'⟩ := second
  simp only [Before, mk.injEq]
  omega

private theorem Before.dayNumber_lt (before : first.Before second) (valid : first.Exists)
    (known : second.Exists) : first.dayNumber < second.dayNumber := by
  rcases before with year | ⟨year, month | ⟨month, day⟩⟩
  · have starts : yearStart (first.year + 1) ≤ yearStart second.year := yearStart_le year
    have := valid.in_year.2
    have := known.in_year.1
    omega
  · have starts : daysBefore second.year (first.month + 1) ≤ daysBefore second.year second.month :=
      daysBefore_mono month
    have := valid.in_month.2
    have := known.in_month.1
    rw [year] at *
    omega
  · rw [dayNumber_eq, dayNumber_eq, year, month]
    omega

/-- Days have different numbers. -/
theorem dayNumber_injective (valid : first.Exists) (known : second.Exists)
    (same : first.dayNumber = second.dayNumber) : first = second := by
  rcases before_or first second with before | equal | behind
  · have := before.dayNumber_lt valid known
    omega
  · exact equal
  · have := behind.dayNumber_lt known valid
    omega

end Date

/-! ## The time line

Moments on the time line. A moment lies at a number of seconds and of nanoseconds behind them, so it
can be moved by minutes without a look at the calendar. That its fields are compared from the year
down is then a fact about the calendar: it puts moments in the order in which they come.
-/

namespace Moment

variable {moment first second : Moment} {minutes : Int}

/-- The date exists, and the time is one of that day. -/
structure Exists (moment : Moment) : Prop where
  date : moment.date.Exists
  second_lt : moment.second < 86400

/-- The seconds since the start of the year 1. -/
def seconds (moment : Moment) : ℤ := 86400 * moment.date.dayNumber + moment.second

/-- Where the moment lies on the time line: its seconds, and the nanoseconds behind them, which go
on through a leap second. -/
def instant (moment : Moment) : ℤ ×ₗ ℕ := toLex (moment.seconds, moment.nano)

private theorem instant_lt_iff : first.instant < second.instant ↔
    first.seconds < second.seconds ∨ first.seconds = second.seconds ∧ first.nano < second.nano :=
  Prod.Lex.toLex_lt_toLex

/-- No two moments lie at the same place. -/
theorem instant_injective (valid : first.Exists) (known : second.Exists)
    (same : first.instant = second.instant) : first = second := by
  obtain ⟨seconds, nanos⟩ := Prod.mk.injEq _ _ _ _ ▸ toLex_inj.mp same
  have := valid.second_lt
  have := known.second_lt
  unfold Moment.seconds at seconds
  have days : first.date = second.date :=
    Date.dayNumber_injective valid.date known.date (by omega)
  rw [days] at seconds
  obtain ⟨date, time, nano⟩ := first
  simp only at days seconds nanos
  rw [days, nanos, show time = second.second by omega]

/-! ### The order of moments -/

/-- Moments are compared date first, then by the second of the day and by the fraction. -/
theorem rank_lt_iff_fields : first.rank < second.rank ↔ first.date.Before second.date ∨
    first.date = second.date ∧
      (first.second < second.second ∨ first.second = second.second ∧ first.nano < second.nano) := by
  obtain ⟨⟨year, month, day⟩, time, nano⟩ := first
  obtain ⟨⟨year', month', day'⟩, time', nano'⟩ := second
  simp only [rank, List.cons_lt_cons_iff, List.lt_irrefl, Date.Before, Date.mk.injEq, Int.ofNat_lt,
    Int.natCast_inj, and_false, or_false, and_or_left, and_assoc, or_assoc]

/-- The order of the fields is the order of time. -/
theorem rank_lt_iff (valid : first.Exists) (known : second.Exists) :
    first.rank < second.rank ↔ first.instant < second.instant := by
  have := valid.second_lt
  have := known.second_lt
  rw [rank_lt_iff_fields, instant_lt_iff]
  unfold seconds
  rcases Date.before_or first.date second.date with before | same | behind
  · have := before.dayNumber_lt valid.date known.date
    exact iff_of_true (.inl before) (.inl (by omega))
  · have irreflexive : ¬ second.date.Before second.date := by
      unfold Date.Before
      omega
    rw [same]
    simp only [irreflexive, false_or, true_and]
    omega
  · have := behind.dayNumber_lt known.date valid.date
    have missed : ¬ first.date.Before second.date := by
      unfold Date.Before at behind ⊢
      omega
    have different : first.date ≠ second.date := by
      rintro same
      rw [same] at behind
      unfold Date.Before at behind
      omega
    refine iff_of_false ?_ (by omega)
    rintro (before | ⟨same, _⟩)
    · exact missed before
    · exact different same

/-! ### Moving a moment -/

/-- A moment that is moved by less than a day stays a moment that exists. -/
theorem Exists.earlier (valid : moment.Exists) (low : -1440 < minutes) (high : minutes < 1440) :
    (moment.earlier minutes).Exists := by
  obtain ⟨date, time⟩ := valid
  unfold Moment.earlier
  simp only
  split
  · exact ⟨date.previous, by simp only; omega⟩
  · split
    · exact ⟨date, by simp only; omega⟩
    · exact ⟨date.next, by simp only; omega⟩

/-- A moment is moved by as many minutes as are asked for, across every boundary of the calendar. -/
theorem seconds_earlier (valid : moment.Exists) (low : -1440 < minutes) (high : minutes < 1440) :
    (moment.earlier minutes).seconds = moment.seconds - 60 * minutes := by
  obtain ⟨date, time⟩ := valid
  unfold earlier
  simp only
  split
  · simp only [seconds, Date.dayNumber_previous date]
    omega
  · split
    · simp only [seconds]
      omega
    · simp only [seconds, Date.dayNumber_next date]
      omega

/-- Moving a moment by minutes keeps its fraction. -/
theorem nano_earlier : (moment.earlier minutes).nano = moment.nano := by
  unfold earlier
  simp only
  split
  · rfl
  · split <;> rfl

end Moment

end BlogTerminal
