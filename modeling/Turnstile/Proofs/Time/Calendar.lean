import Turnstile.Time.Calendar

/-!
# Days as Dates

Every day has a date, and the date counts back to it. The year of an era is found by one
division that has to be off by the leap days before it, so the whole argument is about
how many of those there are: `yearOfEra_spec` says that the division finds a year
that begins on or before the day, and that the day is one of its 366 at most.

The counts of leap days by centuries and by fours are compared one by one. Within a century
the quotient by 1460 is the number of leap years that are over, or one more in the last
days of a cycle of four, and only then does a year have a day 365.

## Theorems

* `yearOfEra_spec`: The year of a day within an era, and that the day lies in it.
* `month_spec`: The month of a day within a year, and that the day lies in it.
* `toDay_ofDay`: The date of a day counts to that day.
* `ofDay_month`, `ofDay_day`: Months and days of the month are where they should be.
* `exists?_ofDay`: The date of a day exists.
-/

namespace Turnstile

namespace Date

/-- The leap days of whole centuries and of whole cycles of four years, against the quotients
    that stand for them when the year is not yet known. -/
theorem leapDays_spec {d cycles centuries eras y : Int} (hleast : 0 ≤ d) (hmost : d < daysPerEra)
    (hcycles : cycles = d / 1460) (hcenturies : centuries = d / 36524) (heras : eras = d / 146096)
    (hy : y = (d - cycles + centuries - eras) / 365) :
    y / 100 = centuries - eras ∧ y / 4 ≤ cycles ∧ cycles ≤ y / 4 + 1 := by
  simp only [daysPerEra] at hmost
  -- The last day of an era would be the first of a fifth century.
  have hcases : centuries = 0 ∨ centuries = 1 ∨ centuries = 2 ∨ centuries = 3 ∨ centuries = 4 := by
    omega
  -- With the centuries fixed, the leap days of the fours are linear in the day.
  rcases hcases with rfl | rfl | rfl | rfl | rfl <;> refine ⟨?_, ?_, ?_⟩ <;> omega

theorem yearOfEra_spec {d y : Int} (hleast : 0 ≤ d) (hmost : d < daysPerEra)
    (hy : y = (d - d / 1460 + d / 36524 - d / 146096) / 365) :
    0 ≤ y ∧ y < 400 ∧ 0 ≤ d - (365 * y + y / 4 - y / 100) ∧
      d - (365 * y + y / 4 - y / 100) ≤ 365 := by
  rcases leapDays_spec hleast hmost rfl rfl rfl hy with ⟨hcenturies, hpast, hnext⟩
  simp only [daysPerEra] at hmost
  refine ⟨?_, ?_, ?_, ?_⟩ <;> omega

theorem month_spec {d m : Int} (hleast : 0 ≤ d) (hmost : d ≤ 365) (hm : m = (5 * d + 2) / 153) :
    0 ≤ m ∧ m < 12 ∧ 0 ≤ d - (153 * m + 2) / 5 ∧ d - (153 * m + 2) / 5 < 31 := by
  refine ⟨?_, ?_, ?_, ?_⟩ <;> omega

/-- What the date of a day is made of: a year of an era, a month counted from March, and a day
    of that month, which add up to the day. -/
theorem ofDay_spec (n : Int) : ∃ era y m d : Int,
    0 ≤ y ∧ y < 400 ∧ 0 ≤ m ∧ m < 12 ∧ 0 ≤ d ∧ d < 31 ∧
    n = era * daysPerEra + (365 * y + y / 4 - y / 100) + (153 * m + 2) / 5 + d - epochShift ∧
    ofDay n = {
      year := if m < 10 then y + era * 400 else y + era * 400 + 1
      month := if m < 10 then (m + 3).toNat else (m - 9).toNat
      day := (d + 1).toNat } := by
  have hpos : 0 < daysPerEra := by decide
  have hleast := Int.emod_nonneg (n + epochShift) (Int.ne_of_gt hpos)
  have hmost := Int.emod_lt_of_pos (n + epochShift) hpos
  rcases yearOfEra_spec hleast hmost rfl with ⟨hy, hy', hday, hday'⟩
  rcases month_spec hday hday' rfl with ⟨hm, hm', hd, hd'⟩
  refine ⟨_, _, _, _, hy, hy', hm, hm', hd, hd', ?_, rfl⟩
  have hsplit := Int.emod_add_mul_ediv (n + epochShift) daysPerEra
  rw [Int.mul_comm] at hsplit
  omega

theorem toDay_ofDay (n : Int) : (ofDay n).toDay = n := by
  rcases ofDay_spec n with ⟨era, y, m, d, hy, hy', hm, hm', hd, hd', hn, hofDay⟩
  have hera : (y + era * 400) / 400 = era := by omega
  have hyear : (y + era * 400) % 400 = y := by omega
  rw [hofDay]
  by_cases hlt : m < 10
  · -- March to December: the year of the date is the one that the month lies in.
    have hmonth : ¬(m + 3).toNat ≤ 2 := by omega
    have hback : ((m + 3).toNat : Int) - 3 = m := by omega
    simp only [toDay, if_pos hlt, if_neg hmonth, hera, hyear, hback]
    omega
  · -- January and February are counted with the year before.
    have hmonth : (m - 9).toNat ≤ 2 := by omega
    have hback : ((m - 9).toNat : Int) + 9 = m := by omega
    simp only [toDay, if_neg hlt, if_pos hmonth, Int.add_sub_cancel, hera, hyear, hback]
    omega

theorem ofDay_month (n : Int) : 1 ≤ (ofDay n).month ∧ (ofDay n).month ≤ 12 := by
  rcases ofDay_spec n with ⟨era, y, m, d, -, -, hm, hm', -, -, -, hofDay⟩
  rw [hofDay]
  by_cases hlt : m < 10
  · simp only [if_pos hlt]
    omega
  · simp only [if_neg hlt]
    omega

theorem ofDay_day (n : Int) : 1 ≤ (ofDay n).day ∧ (ofDay n).day ≤ 31 := by
  rcases ofDay_spec n with ⟨era, y, m, d, -, -, -, -, hd, hd', -, hofDay⟩
  rw [hofDay]
  simp only
  omega

theorem exists?_ofDay (n : Int) : (ofDay n).exists? = true := by
  have hmonth := ofDay_month n
  simp only [exists?, toDay_ofDay, beq_self_eq_true, Bool.and_true, Bool.and_eq_true,
    decide_eq_true_eq]
  exact hmonth

end Date

end Turnstile
