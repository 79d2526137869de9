import Mathlib.Tactic.IntervalCases
import Mnemes.Lib.Rfc3339.Digits

/-!
# The calendar

Dates of the proleptic Gregorian calendar by their number (`Date.dayNumber`), which orders them by
year, month and day, and the times of a day, which may be a leap second. The texts of dates with a
four-digit year are ordered like the dates (`textLe_date`), those of times like the times
(`textLe_time`).
-/

namespace Rfc3339

/-! ## The calendar -/

/-- Leap years of the proleptic Gregorian calendar. -/
def isLeap (year : Int) : Bool := year % 4 = 0 && (year % 100 ≠ 0 || year % 400 = 0)

/-- The days of a month. -/
def monthLength (leap : Bool) : Nat → Nat
  | 2 => if leap then 29 else 28
  | 4 | 6 | 9 | 11 => 30
  | 1 | 3 | 5 | 7 | 8 | 10 | 12 => 31
  | _ => 0

/-- The days of a year before a month. -/
def daysBeforeMonth (leap : Bool) : Nat → Nat
  | 0 => 0
  | month + 1 => daysBeforeMonth leap month + monthLength leap month

/-- The days between the first of January of year 1 and that of a year. -/
def daysBeforeYear (year : Int) : Int :=
  365 * (year - 1) + (year - 1) / 4 - (year - 1) / 100 + (year - 1) / 400

/-- A date of the calendar. -/
structure Date where
  year : Int
  month : Nat
  day : Nat
  month_mem : 1 ≤ month ∧ month ≤ 12
  day_mem : 1 ≤ day ∧ day ≤ monthLength (isLeap year) month
  deriving DecidableEq

/-- A time of day. A leap second is the second 60 of its minute. -/
structure TimeOfDay where
  hour : Nat
  minute : Nat
  second : Nat
  hour_lt : hour < 24
  minute_lt : minute < 60
  second_le : second ≤ 60
  deriving DecidableEq

/-- The dates that four year digits write. -/
def Date.FourDigit (d : Date) : Prop := 0 ≤ d.year ∧ d.year ≤ 9999

instance (d : Date) : Decidable d.FourDigit := inferInstanceAs (Decidable (_ ∧ _))

/-- The number of a date, counted from the first of January of year 1. -/
def Date.dayNumber (d : Date) : Int :=
  daysBeforeYear d.year + daysBeforeMonth (isLeap d.year) d.month + d.day - 1

/-- `yyyy-mm-dd`. -/
def Date.text (d : Date) : List Char :=
  chars (digits 4 d.year.toNat) ++
    '-' :: (chars (digits 2 d.month) ++ '-' :: chars (digits 2 d.day))

/-- `hh:mm:ss`. -/
def TimeOfDay.text (t : TimeOfDay) : List Char :=
  chars (digits 2 t.hour) ++ ':' :: (chars (digits 2 t.minute) ++ ':' :: chars (digits 2 t.second))

/-- The minutes of the day that have passed. -/
def TimeOfDay.minutes (t : TimeOfDay) : Nat := t.hour * 60 + t.minute

section
variable {leap : Bool} {year year' : Int} {month month' : Nat} {a b : Date}

/-- A month is over before a later one begins. -/
theorem daysBeforeMonth_le (h : month < month') :
    daysBeforeMonth leap month + monthLength leap month ≤ daysBeforeMonth leap month' := by
  induction month' with
  | zero => omega
  | succ m ih =>
    rcases Nat.lt_or_eq_of_le (Nat.le_of_lt_succ h) with h | rfl
    · exact Nat.le_trans (ih h) (Nat.le_add_right _ _)
    · exact Nat.le_refl _

/-- A year has 365 days, and 366 if it is a leap year. -/
theorem daysBeforeMonth_year : daysBeforeMonth leap 13 = if leap then 366 else 365 := by
  cases leap <;> rfl

/-- The days before the next year are those before this one, and its own. -/
theorem daysBeforeYear_succ :
    daysBeforeYear (year + 1) = daysBeforeYear year + daysBeforeMonth (isLeap year) 13 := by
  rw [daysBeforeMonth_year]
  unfold daysBeforeYear isLeap
  split
  · next h =>
    simp only [Bool.and_eq_true, Bool.or_eq_true, decide_eq_true_eq] at h
    push_cast
    omega
  · next h =>
    simp only [Bool.and_eq_true, Bool.or_eq_true, decide_eq_true_eq] at h
    push_cast
    omega

/-- A year is over before a later one begins. -/
theorem daysBeforeYear_le (h : year < year') :
    daysBeforeYear year + daysBeforeMonth (isLeap year) 13 ≤ daysBeforeYear year' := by
  rw [← daysBeforeYear_succ]
  unfold daysBeforeYear
  omega

/-- A month has at most 31 days. -/
theorem Date.day_le (d : Date) : d.day ≤ 31 := by
  have := d.day_mem.2
  unfold monthLength at this
  split at this <;> (try split at this) <;> omega

/-- A date lies within its year. -/
theorem Date.dayNumber_lt_year (d : Date) :
    daysBeforeYear d.year ≤ d.dayNumber ∧
      d.dayNumber < daysBeforeYear d.year + daysBeforeMonth (isLeap d.year) 13 := by
  have h : daysBeforeMonth (isLeap d.year) d.month + monthLength (isLeap d.year) d.month ≤
      daysBeforeMonth (isLeap d.year) 13 := daysBeforeMonth_le (Nat.lt_succ_of_le d.month_mem.2)
  have := d.day_mem
  unfold Date.dayNumber
  omega

/-- Dates are ordered by year, month and day. -/
theorem Date.dayNumber_lt (h : a.year < b.year ∨ (a.year = b.year ∧
    (a.month < b.month ∨ (a.month = b.month ∧ a.day < b.day)))) : a.dayNumber < b.dayNumber := by
  rcases h with h | ⟨hyear, h | ⟨hmonth, h⟩⟩
  · have := a.dayNumber_lt_year.2
    have := b.dayNumber_lt_year.1
    have := daysBeforeYear_le h
    omega
  · have : daysBeforeMonth (isLeap a.year) a.month + monthLength (isLeap a.year) a.month ≤
        daysBeforeMonth (isLeap a.year) b.month := daysBeforeMonth_le h
    have := a.day_mem
    have := b.day_mem
    unfold Date.dayNumber
    rw [← hyear]
    omega
  · unfold Date.dayNumber
    rw [hyear, hmonth]
    omega

/-- A date is its year, month and day. -/
theorem Date.ext_iff' : a = b ↔ a.year = b.year ∧ a.month = b.month ∧ a.day = b.day := by
  cases a
  cases b
  simp

/-- Day numbers are ordered by year, month and day. -/
theorem Date.dayNumber_lt_iff : a.dayNumber < b.dayNumber ↔ a.year < b.year ∨ (a.year = b.year ∧
    (a.month < b.month ∨ (a.month = b.month ∧ a.day < b.day))) := by
  refine ⟨fun h => ?_, Date.dayNumber_lt⟩
  by_contra hn
  by_cases hab : a = b
  · subst hab
    omega
  · rw [Date.ext_iff'] at hab
    have := Date.dayNumber_lt (a := b) (b := a) (by omega)
    omega

/-- A day number is that of one date. -/
theorem Date.dayNumber_inj : a.dayNumber = b.dayNumber ↔ a = b := by
  refine ⟨fun h => ?_, fun h => h ▸ rfl⟩
  have h1 := mt Date.dayNumber_lt_iff.2 (by omega : ¬ a.dayNumber < b.dayNumber)
  have h2 := mt Date.dayNumber_lt_iff.2 (by omega : ¬ b.dayNumber < a.dayNumber)
  rw [Date.ext_iff']
  omega

/-- The last date that four year digits write. -/
def Date.last : Date where
  year := 9999
  month := 12
  day := 31
  month_mem := by decide
  day_mem := by decide

/-- The last four-digit date comes after all others. -/
theorem Date.FourDigit.le_last (h : a.FourDigit) : a.dayNumber ≤ Date.last.dayNumber := by
  by_contra hn
  have := Date.dayNumber_lt_iff.1 (Int.not_le.1 hn)
  have := a.month_mem
  have := a.day_le
  have := h.2
  simp only [Date.last] at *
  omega

/-- Every date of the years 0 to 9999 but the last has a next one there. -/
theorem Date.FourDigit.next (h : a.FourDigit) (hlast : a ≠ Date.last) :
    ∃ b : Date, b.FourDigit ∧ b.dayNumber = a.dayNumber + 1 := by
  have hmonth := a.month_mem
  have hday := a.day_mem
  by_cases hd : a.day < monthLength (isLeap a.year) a.month
  · refine ⟨⟨a.year, a.month, a.day + 1, hmonth, by omega⟩, h, ?_⟩
    simp only [Date.dayNumber]
    omega
  · have hd : a.day = monthLength (isLeap a.year) a.month := by omega
    by_cases hm : a.month < 12
    · have h31 : 1 ≤ monthLength (isLeap a.year) (a.month + 1) := by
        have : 2 ≤ a.month + 1 ∧ a.month + 1 ≤ 12 := by omega
        generalize a.month + 1 = m at this
        obtain ⟨h2, h12⟩ := this
        interval_cases m <;> cases isLeap a.year <;> decide
      refine ⟨⟨a.year, a.month + 1, 1, by omega, by omega⟩, h, ?_⟩
      simp only [Date.dayNumber, daysBeforeMonth]
      omega
    · have hm : a.month = 12 := by omega
      have hy : a.year ≠ 9999 := by
        intro hy
        refine hlast (Date.ext_iff'.2 ⟨hy, hm, ?_⟩)
        rw [hd, hm]
        rfl
      have hyear := h
      unfold Date.FourDigit at hyear
      refine ⟨⟨a.year + 1, 1, 1, by omega, by simp [monthLength]⟩,
        ⟨by simp only; omega, by simp only; omega⟩, ?_⟩
      have h13 : daysBeforeMonth (isLeap a.year) 13 =
          daysBeforeMonth (isLeap a.year) 12 + monthLength (isLeap a.year) 12 := rfl
      have hfirst : daysBeforeMonth (isLeap (a.year + 1)) 1 = 0 := rfl
      simp only [Date.dayNumber, daysBeforeYear_succ, h13, hfirst, hd, hm]
      push_cast
      omega

end

/-! ## Texts of dates and times -/

section
variable {a b : Date} {t u : TimeOfDay} {x y : List Char}

/-- Texts that begin with dates are ordered by the dates, and then by what follows. -/
theorem textLe_date (ha : a.FourDigit) (hb : b.FourDigit) :
    TextLe (a.text ++ x) (b.text ++ y) ↔ a.dayNumber < b.dayNumber ∨ (a = b ∧ TextLe x y) := by
  have := a.month_mem
  have := b.month_mem
  have := a.day_le
  have := b.day_le
  unfold Date.FourDigit at ha hb
  simp only [Date.text, List.append_assoc, List.cons_append]
  rw [textLe_digits (by omega) (by omega), textLe_cons_self, textLe_digits (by omega) (by omega),
    textLe_cons_self, textLe_digits (by omega) (by omega), Date.dayNumber_lt_iff, Date.ext_iff']
  have hyear : a.year.toNat = b.year.toNat ↔ a.year = b.year := by omega
  have hyear' : a.year.toNat < b.year.toNat ↔ a.year < b.year := by omega
  rw [hyear, hyear']
  tauto

/-- The number of the second in its day. Each minute has a place for a leap second. -/
def TimeOfDay.rank (t : TimeOfDay) : Nat := t.minutes * 61 + t.second

/-- A time of day is its hour, minute and second. -/
theorem TimeOfDay.ext_iff' :
    t = u ↔ t.hour = u.hour ∧ t.minute = u.minute ∧ t.second = u.second := by
  cases t
  cases u
  simp

/-- Times of day are ordered by hour, minute and second. -/
theorem TimeOfDay.rank_lt_iff : t.rank < u.rank ↔ t.hour < u.hour ∨ (t.hour = u.hour ∧
    (t.minute < u.minute ∨ (t.minute = u.minute ∧ t.second < u.second))) := by
  have := t.minute_lt
  have := u.minute_lt
  have := t.second_le
  have := u.second_le
  unfold TimeOfDay.rank TimeOfDay.minutes
  omega

/-- Texts that begin with times of day are ordered by these, and then by what follows. -/
theorem textLe_time :
    TextLe (t.text ++ x) (u.text ++ y) ↔ t.rank < u.rank ∨ (t = u ∧ TextLe x y) := by
  have := t.hour_lt
  have := u.hour_lt
  have := t.minute_lt
  have := u.minute_lt
  have := t.second_le
  have := u.second_le
  simp only [TimeOfDay.text, List.append_assoc, List.cons_append]
  rw [textLe_digits (by omega) (by omega), textLe_cons_self, textLe_digits (by omega) (by omega),
    textLe_cons_self, textLe_digits (by omega) (by omega), TimeOfDay.rank_lt_iff,
    TimeOfDay.ext_iff']
  tauto

end

end Rfc3339
