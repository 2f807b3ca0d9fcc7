import SessionGateway.Clock.Calendar

/-! Days and dates. Every day has a date of the calendar, and the date has the number of the day. -/

namespace SessionGateway

namespace Calendar

theorem daysBefore_yearOfDay_le (n : Int) : daysBefore (yearOfDay n) ≤ n := by
  unfold yearOfDay
  dsimp only
  split
  · assumption
  · unfold daysBefore
    omega

theorem lt_daysBefore_yearOfDay (n : Int) : n < daysBefore (yearOfDay n + 1) := by
  unfold yearOfDay
  dsimp only
  split
  · unfold daysBefore
    omega
  · omega

theorem daysBefore_succ (y : Int) :
    daysBefore (y + 1) = daysBefore y + if isLeap (y + 1) then 366 else 365 := by
  unfold daysBefore isLeap
  by_cases h4 : (y + 1) % 4 = 0 <;> by_cases h100 : (y + 1) % 100 = 0 <;>
    by_cases h400 : (y + 1) % 400 = 0 <;> simp [h4, h100, h400] <;> omega

theorem month_bounds {d : Nat} (h : d < 366) :
    (5 * d + 2) / 153 < 12 ∧ daysBeforeMonth ((5 * d + 2) / 153) ≤ d := by
  unfold daysBeforeMonth
  omega

theorem day_le_daysInMonth {d : Nat} (h : d < 366) (year : Int)
    (last : d = 365 → isLeap year = true) :
    let m := (5 * d + 2) / 153
    d - daysBeforeMonth m + 1 ≤ daysInMonth year (if m < 10 then m + 3 else m - 9) := by
  intro m
  have hm : m < 12 := (month_bounds h).1
  have lower : 153 * m ≤ 5 * d + 2 := Nat.mul_comm _ _ ▸ Nat.div_mul_le_self (5 * d + 2) 153
  have upper : 5 * d + 2 < 153 * (m + 1) := by omega
  unfold daysBeforeMonth daysInMonth
  by_cases h365 : d = 365
  · subst h365
    simp [m, last rfl]
  · have short : d ≤ 364 := by omega
    obtain hm | hm | hm | hm | hm | hm | hm | hm | hm | hm | hm | hm :
        m = 0 ∨ m = 1 ∨ m = 2 ∨ m = 3 ∨ m = 4 ∨ m = 5 ∨ m = 6 ∨ m = 7 ∨ m = 8 ∨ m = 9 ∨
          m = 10 ∨ m = 11 := by omega
    all_goals
      rw [hm] at lower upper
      simp [hm]
      try split
      all_goals omega

end Calendar

namespace Date

open Calendar

theorem dayOfYear_spec (n : Int) : ∃ d : Nat, n = daysBefore (yearOfDay n) + d ∧ d < 366 ∧
    (d = 365 → isLeap (yearOfDay n + 1) = true) := by
  have lower := daysBefore_yearOfDay_le n
  have upper := lt_daysBefore_yearOfDay n
  rw [daysBefore_succ] at upper
  refine ⟨(n - daysBefore (yearOfDay n)).toNat, by omega, ?_, ?_⟩
  · split at upper <;> omega
  · intro last
    split at upper
    · assumption
    · omega

theorem ofDayNumber_eq {n : Int} {d : Nat}
    (hn : n + epochOffset = daysBefore (yearOfDay (n + epochOffset)) + d) :
    ofDayNumber n =
      let m := (5 * d + 2) / 153
      let y := yearOfDay (n + epochOffset)
      ⟨if m < 10 then y else y + 1, if m < 10 then m + 3 else m - 9,
        d - daysBeforeMonth m + 1⟩ := by
  have hd : (n + epochOffset - daysBefore (yearOfDay (n + epochOffset))).toNat = d := by omega
  unfold ofDayNumber
  simp only [hd]
  split <;> rfl

theorem isValid_ofDayNumber (n : Int) : (ofDayNumber n).IsValid := by
  obtain ⟨d, hn, hd, leap⟩ := dayOfYear_spec (n + epochOffset)
  have hm := (month_bounds hd).1
  rw [ofDayNumber_eq hn]
  by_cases early : (5 * d + 2) / 153 < 10
  · have short : d ≠ 365 := by omega
    have size := day_le_daysInMonth hd (yearOfDay (n + epochOffset)) (by simp [short])
    simp only [early, if_true] at size ⊢
    exact ⟨by simp, by dsimp only; omega, by simp, size⟩
  · have size := day_le_daysInMonth hd (yearOfDay (n + epochOffset) + 1) leap
    simp only [early, if_false] at size ⊢
    exact ⟨by dsimp only; omega, by dsimp only; omega, by simp, size⟩

theorem lt_hundred_ofDayNumber (n : Int) :
    (ofDayNumber n).month < 100 ∧ (ofDayNumber n).day < 100 := by
  obtain ⟨-, month, -, day⟩ := isValid_ofDayNumber n
  have longest : ∀ year month, daysInMonth year month ≤ 31 := by
    intro year month
    unfold daysInMonth
    repeat' split
    all_goals decide
  have := longest (ofDayNumber n).year (ofDayNumber n).month
  omega

theorem dayNumber_ofDayNumber (n : Int) : (ofDayNumber n).dayNumber = n := by
  obtain ⟨d, hn, hd, -⟩ := dayOfYear_spec (n + epochOffset)
  obtain ⟨hm, start⟩ := month_bounds hd
  rw [ofDayNumber_eq hn]
  unfold dayNumber
  by_cases early : (5 * d + 2) / 153 < 10
  · have month : ((5 * d + 2) / 153 + 3 + 9) % 12 = (5 * d + 2) / 153 := by omega
    have late : ¬ (5 * d + 2) / 153 + 3 ≤ 2 := by omega
    simp only [early, if_true, month, late, if_false]
    omega
  · have month : ((5 * d + 2) / 153 - 9 + 9) % 12 = (5 * d + 2) / 153 := by omega
    have late : (5 * d + 2) / 153 - 9 ≤ 2 := by omega
    simp only [early, if_false, month, late, if_true, Int.add_sub_cancel]
    omega

end Date

end SessionGateway
