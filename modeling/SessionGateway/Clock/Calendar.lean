/-! The Gregorian calendar carried back and forward without end. Years are counted from the first of
March inside, so that the day that leap years add is the last of the year. -/

namespace SessionGateway

structure Date where
  year : Int
  month : Nat
  day : Nat
deriving DecidableEq

namespace Calendar

def isLeap (year : Int) : Bool :=
  year % 4 = 0 && (year % 100 ≠ 0 || year % 400 = 0)

def daysInMonth (year : Int) (month : Nat) : Nat :=
  if month = 2 then (if isLeap year then 29 else 28)
  else if month = 4 ∨ month = 6 ∨ month = 9 ∨ month = 11 then 30
  else 31

/-- Days from the first of March of the year 0 to that of `year`. -/
def daysBefore (year : Int) : Int :=
  365 * year + year / 4 - year / 100 + year / 400

/-- The years that begin no later than the day, counted in years of average length, miss at most the
last one. -/
def yearOfDay (n : Int) : Int :=
  let year := 400 * n / 146097
  if daysBefore (year + 1) ≤ n then year + 1 else year

/-- Days from the first of March to the start of a month, March being month 0. -/
def daysBeforeMonth (m : Nat) : Nat :=
  (153 * m + 2) / 5

def epochOffset : Int := 719468

end Calendar

namespace Date

open Calendar

def IsValid (d : Date) : Prop :=
  1 ≤ d.month ∧ d.month ≤ 12 ∧ 1 ≤ d.day ∧ d.day ≤ daysInMonth d.year d.month

instance (d : Date) : Decidable d.IsValid :=
  inferInstanceAs (Decidable (_ ∧ _))

def dayNumber (d : Date) : Int :=
  let year := if d.month ≤ 2 then d.year - 1 else d.year
  daysBefore year + daysBeforeMonth ((d.month + 9) % 12) + d.day - 1 - epochOffset

def ofDayNumber (n : Int) : Date :=
  let year := yearOfDay (n + epochOffset)
  let dayOfYear := (n + epochOffset - daysBefore year).toNat
  let month := (5 * dayOfYear + 2) / 153
  let day := dayOfYear - daysBeforeMonth month + 1
  if month < 10 then ⟨year, month + 3, day⟩ else ⟨year + 1, month - 9, day⟩

end Date

end SessionGateway
