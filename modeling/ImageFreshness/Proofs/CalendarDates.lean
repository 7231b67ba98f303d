import ImageFreshness.Time.Date

/-!
# Days and dates

Every day has a valid date (`Date.ofDayNumber_isValid`), and the number of this date is that of the
day (`Date.dayNumber_ofDayNumber`).  The mean length of a year gives the year of a day up to one,
before the year 0 as after it, and the lengths of the months lead to the month.
-/

namespace ImageFreshness.Date

/-! ### Years -/

theorem yearStart_succ (year : Int) :
    yearStart (year + 1) = yearStart year + daysBefore (monthLengths year) 12 := by
  have hlength : (daysBefore (monthLengths year) 12 : Int) = if isLeap year then 366 else 365 := by
    by_cases hleap : isLeap year = true
    · simp [daysBefore, monthLengths, hleap]
    · simp [daysBefore, monthLengths, hleap]
  rw [hlength]
  simp only [yearStart, isLeap, decide_eq_true_eq]
  split
  · omega
  · omega

/-- The mean length of a year gives the year of a day up to one. -/
theorem yearStart_estimate (n : Int) :
    yearStart (400 * (n + 719528) / 146097 - 1) ≤ n ∧
      n < yearStart (400 * (n + 719528) / 146097 + 2) := by
  simp only [yearStart]
  constructor
  · omega
  · omega

theorem yearStart_yearOf (n : Int) :
    yearStart (yearOf n) ≤ n ∧ n < yearStart (yearOf n + 1) := by
  obtain ⟨hlower, hupper⟩ := yearStart_estimate n
  simp only [yearOf]
  split
  · next hbefore => exact ⟨hlower, by rwa [Int.sub_add_cancel]⟩
  · next hfrom =>
    split
    · next hbefore => exact ⟨Int.not_lt.mp hfrom, hbefore⟩
    · next hfrom => exact ⟨Int.not_lt.mp hfrom, by rwa [Int.add_assoc]⟩

/-! ### Months -/

/-- A day within some months lies in one of them. -/
theorem splitDays_spec {lengths : List Nat} {n : Nat} (h : n < daysBefore lengths lengths.length) :
    (splitDays lengths n).1 < lengths.length ∧
      (splitDays lengths n).2 < lengths.getD (splitDays lengths n).1 0 ∧
      daysBefore lengths (splitDays lengths n).1 + (splitDays lengths n).2 = n := by
  induction lengths generalizing n with
  | nil => simp [daysBefore] at h
  | cons length rest ih =>
    rw [splitDays]
    split
    · next hfirst => simp [daysBefore, hfirst]
    · next hlater =>
      have hrest : n - length < daysBefore rest rest.length := by
        simp only [daysBefore, List.take_length, List.foldr_cons] at h ⊢
        omega
      obtain ⟨hmonth, hday, hsum⟩ := ih hrest
      refine ⟨Nat.succ_lt_succ hmonth, hday, ?_⟩
      simp only [daysBefore, List.take_succ_cons, List.foldr_cons] at hsum ⊢
      omega

/-! ### Dates -/

/-- A day of a year, with the first one as 0. -/
theorem ofDayNumber_spec (n : Int) :
    (ofDayNumber n).month - 1 < 12 ∧
      (ofDayNumber n).day - 1 < (monthLengths (yearOf n)).getD ((ofDayNumber n).month - 1) 0 ∧
      yearStart (yearOf n) + daysBefore (monthLengths (yearOf n)) ((ofDayNumber n).month - 1) +
        ((ofDayNumber n).day - 1 : Nat) = n := by
  obtain ⟨hlower, hupper⟩ := yearStart_yearOf n
  rw [yearStart_succ] at hupper
  have hday : (n - yearStart (yearOf n)).toNat <
      daysBefore (monthLengths (yearOf n)) (monthLengths (yearOf n)).length := by
    change _ < daysBefore (monthLengths (yearOf n)) 12
    omega
  obtain ⟨hmonth, hlength, hsum⟩ := splitDays_spec hday
  simp only [ofDayNumber, Nat.add_sub_cancel]
  refine ⟨hmonth, hlength, ?_⟩
  omega

theorem ofDayNumber_isValid (n : Int) : (ofDayNumber n).IsValid := by
  obtain ⟨hmonth, hday, -⟩ := ofDayNumber_spec n
  refine ⟨Nat.succ_pos _, ?_, Nat.succ_pos _, ?_⟩
  · omega
  · exact Nat.le_of_pred_lt hday

theorem dayNumber_ofDayNumber (n : Int) : (ofDayNumber n).dayNumber = n :=
  (ofDayNumber_spec n).2.2

end ImageFreshness.Date
