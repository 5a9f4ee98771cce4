import Mathlib.Tactic.Linarith

/-! The Gregorian calendar, extended to all years: the number of a day, counted from the
first of January of the year 1, and the date of a day. -/
namespace Calendar

def isLeap (year : Int) : Bool := year % 4 = 0 && (year % 100 ≠ 0 || year % 400 = 0)

/-- The days before each month of a year that is not a leap year, and before the next year. -/
def daysBefore (month : Nat) : Nat := [0,31,59,90,120,151,181,212,243,273,304,334,365].getD (month-1) 0

def daysBeforeMonth (leap : Bool) (month : Nat) : Nat := daysBefore month + if leap && 3 ≤ month then 1 else 0

def daysIn (leap : Bool) (month : Nat) : Nat :=
  if leap && month = 2 then 29 else daysBefore (month+1) - daysBefore month

def daysBeforeYear (year : Int) : Int := 365 * (year-1) + (year-1) / 4 - (year-1) / 100 + (year-1) / 400

def dayNumber (year : Int) (month day : Nat) : Int :=
  daysBeforeYear year + daysBeforeMonth (isLeap year) month + day - 1

/-- The year of a day and the days before it in that year, by cycles of 400, 100, 4 and 1 years. -/
def yearOf (days : Int) : Int × Nat :=
  let rest := days % 146097
  let n100 := rest / 36524 - rest / 36524 / 4
  let rest := rest - 36524 * n100
  let n4 := rest / 1461
  let rest := rest - 1461 * n4
  let n1 := rest / 365 - rest / 365 / 4
  (400 * (days / 146097) + 100 * n100 + 4 * n4 + n1 + 1,(rest - 365 * n1).toNat)

/-- The month and the day of the month, on the assumption that no month has more than 31 days. -/
def monthOf (leap : Bool) (yday : Nat) : Nat × Nat :=
  if leap && yday = 59 then (2,29)
  else
    let day := if leap && 59 < yday then yday-1 else yday
    let month := day / 31 + 1
    if daysBefore (month+1) ≤ day then (month+1,day - daysBefore (month+1) + 1) else (month,day - daysBefore month + 1)

def dateOf (days : Int) : Int × Nat × Nat := ((yearOf days).1,monthOf (isLeap (yearOf days).1) (yearOf days).2)

def yearLength (leap : Bool) : Nat := if leap then 366 else 365

theorem daysBeforeYear_cycles (n400 : Int) {n100 n4 n1 : Int} (hundreds : 0 ≤ n100 ∧ n100 ≤ 3)
    (fours : 0 ≤ n4 ∧ n4 ≤ 24) (ones : 0 ≤ n1 ∧ n1 ≤ 3) :
    daysBeforeYear (400 * n400 + 100 * n100 + 4 * n4 + n1 + 1) = 146097 * n400 + 36524 * n100 + 1461 * n4 +
      365 * n1 := by
  unfold daysBeforeYear
  omega

theorem isLeap_cycles (n400 : Int) {n100 n4 n1 : Int} (hundreds : 0 ≤ n100 ∧ n100 ≤ 3) (fours : 0 ≤ n4 ∧ n4 ≤ 24)
    (ones : 0 ≤ n1 ∧ n1 ≤ 3) :
    isLeap (400 * n400 + 100 * n100 + 4 * n4 + n1 + 1) = true ↔ n1 = 3 ∧ (n4 ≠ 24 ∨ n100 = 3) := by
  simp only [isLeap,Bool.and_eq_true,Bool.or_eq_true,decide_eq_true_eq]
  omega

theorem yearOf_spec (days : Int) :
    daysBeforeYear (yearOf days).1 + (yearOf days).2 = days ∧ (yearOf days).2 < yearLength
      (isLeap (yearOf days).1) := by
  unfold yearOf
  extract_lets rest n100 rest' n4 rest'' n1
  have hundreds : 0 ≤ n100 ∧ n100 ≤ 3 := by omega
  have left : 0 ≤ rest' ∧ (rest' < 36524 ∨ n100 = 3 ∧ rest' ≤ 36524) := by omega
  have fours : 0 ≤ n4 ∧ n4 ≤ 24 := by omega
  have ones : 0 ≤ n1 ∧ n1 ≤ 3 := by omega
  have whole := daysBeforeYear_cycles (days / 146097) hundreds fours ones
  have leap := isLeap_cycles (days / 146097) hundreds fours ones
  refine ⟨?_,?_⟩
  · rw [whole]
    omega
  · unfold yearLength
    split
    · omega
    · rename_i common
      rw [leap] at common
      omega

theorem monthOf_spec : ∀ leap, ∀ yday < yearLength leap,
    1 ≤ (monthOf leap yday).1 ∧ (monthOf leap yday).1 ≤ 12 ∧ 1 ≤ (monthOf leap yday).2 ∧
      (monthOf leap yday).2 ≤ daysIn leap (monthOf leap yday).1 ∧
      daysBeforeMonth leap (monthOf leap yday).1 + (monthOf leap yday).2 = yday + 1 := by
  decide +kernel

/-- The dates there are. -/
structure ValidDate (year : Int) (month day : Nat) : Prop where
  firstMonth : 1 ≤ month
  lastMonth : month ≤ 12
  firstDay : 1 ≤ day
  lastDay : day ≤ daysIn (isLeap year) month

theorem dateOf_valid (days : Int) : ValidDate (dateOf days).1 (dateOf days).2.1 (dateOf days).2.2 := by
  obtain ⟨first,last,start,within,_⟩ := monthOf_spec _ _ (yearOf_spec days).2
  exact ⟨first,last,start,within⟩

theorem dayNumber_dateOf (days : Int) : dayNumber (dateOf days).1 (dateOf days).2.1 (dateOf days).2.2 = days := by
  obtain ⟨whole,within⟩ := yearOf_spec days
  obtain ⟨_,_,_,_,counted⟩ := monthOf_spec _ _ within
  simp only [dayNumber,dateOf]
  omega

theorem within_year : ∀ leap, ∀ month < 13, 1 ≤ month → daysBeforeMonth leap month + daysIn leap month ≤
    yearLength leap := by
  decide

theorem daysIn_le : ∀ leap, ∀ month < 13, daysIn leap month ≤ 31 := by
  decide

/-- The days of the years 0 to 9999. -/
def FourDigitYear (days : Int) : Prop := -366 ≤ days ∧ days ≤ 3652058

theorem yearLength_odd {year : Int} (odd : year % 2 = 1) : yearLength (isLeap year) = 365 := by
  have common : isLeap year = false := by
    simp only [isLeap,Bool.and_eq_false_iff,decide_eq_false_iff_not]
    omega
  rw [common]
  rfl

theorem yearLength_le (leap : Bool) : yearLength leap ≤ 366 := by
  cases leap <;> decide

theorem dayNumber_fourDigits {year : Int} {month day : Nat} (valid : ValidDate year month day)
    (years : 0 ≤ year ∧ year ≤ 9999) : FourDigitYear (dayNumber year month day) := by
  have last := within_year (isLeap year) month (Nat.lt_succ_of_le valid.lastMonth) valid.firstMonth
  have bound := valid.lastDay
  have start := valid.firstDay
  have length := yearLength_le (isLeap year)
  have odd := @yearLength_odd year
  unfold FourDigitYear dayNumber daysBeforeYear
  omega

theorem fourDigits_year {days : Int} (fits : FourDigitYear days) : 0 ≤ (dateOf days).1 ∧ (dateOf days).1 ≤ 9999 := by
  obtain ⟨whole,within⟩ := yearOf_spec days
  have length := yearLength_le (isLeap (yearOf days).1)
  have odd := @yearLength_odd (yearOf days).1
  unfold FourDigitYear at fits
  unfold daysBeforeYear at whole
  change 0 ≤ (yearOf days).1 ∧ (yearOf days).1 ≤ 9999
  rcases Int.lt_trichotomy (yearOf days).1 (-1) with before | last | after
  · omega
  · rw [last] at whole odd within
    omega
  · omega

end Calendar
