import Switchboard.Time.Calendar

namespace Switchboard.Time

/-- So many centuries, groups of four years, years and days of an era lie before a day of it. A year
has 365 days; one more comes at the end of a group of four, unless the group ends one of the first
three centuries. -/
structure Elapsed (centuries groups years days : Int) : Prop where
  century : 0 ≤ centuries ∧ centuries ≤ 3
  group : 0 ≤ groups ∧ groups ≤ 24
  year : 0 ≤ years ∧ years ≤ 3
  day : 0 ≤ days ∧ days ≤ 365
  leap : days = 365 → years = 3 ∧ (groups = 24 → centuries = 3)

variable {centuries groups years days : Int}

theorem exists_elapsed {day : Int} (h : 0 ≤ day) (hday : day < daysPerEra) :
    ∃ centuries groups years days, Elapsed centuries groups years days ∧
      day = 36524 * centuries + 1461 * groups + 365 * years + days := by
  unfold daysPerEra at hday
  -- The last day of an era belongs to its fourth century, the last one of a group to its fourth year.
  obtain ⟨c, rest, rfl, hc, hrest, hlast⟩ : ∃ c rest, day = 36524 * c + rest ∧ (0 ≤ c ∧ c ≤ 3) ∧
      (0 ≤ rest ∧ rest ≤ 36524) ∧ (rest = 36524 → c = 3) :=
    ⟨min (day / 36524) 3, day - 36524 * min (day / 36524) 3, by omega, by omega, by omega, by omega⟩
  refine ⟨c, rest / 1461, min (rest % 1461 / 365) 3,
    rest % 1461 - 365 * min (rest % 1461 / 365) 3, ⟨hc, ?_, ?_, ?_, ?_⟩, ?_⟩ <;> omega

theorem Elapsed.daysBeforeYear (h : Elapsed centuries groups years days) :
    daysBeforeYear (100 * centuries + 4 * groups + years) =
      36524 * centuries + 1461 * groups + 365 * years := by
  obtain ⟨hcenturies, hgroups, hyears, -, -⟩ := h
  unfold Time.daysBeforeYear
  omega

theorem Elapsed.yearOfEraDay (h : Elapsed centuries groups years days) :
    yearOfEraDay (36524 * centuries + 1461 * groups + 365 * years + days) =
      100 * centuries + 4 * groups + years := by
  obtain ⟨hcenturies, hgroups, hyears, hdays, hleap⟩ := h
  unfold Time.yearOfEraDay
  generalize hday : 36524 * centuries + 1461 * groups + 365 * years + days = day
  have hwhole : day / 36524 - day / 146096 = centuries := by
    by_cases hlast : day = 146096
    · subst hlast
      omega
    · have hcentury : day / 36524 = centuries := by omega
      omega
  have hquarter : day / 1460 =
      25 * centuries + groups + (24 * centuries + groups + 365 * years + days) / 1460 := by omega
  have hsum : day - day / 1460 + day / 36524 - day / 146096 =
      365 * (100 * centuries + 4 * groups + years) +
        (days - (24 * centuries + groups + 365 * years + days) / 1460) := by omega
  rw [hsum]
  omega

theorem Elapsed.isLeapYear (h : Elapsed centuries groups years 365) (era : Int) :
    isLeapYear (era * 400 + (100 * centuries + 4 * groups + years) + 1) = true := by
  obtain ⟨hcenturies, hgroups, -, -, hleap⟩ := h
  obtain ⟨rfl, hcentury⟩ := hleap rfl
  simp only [Time.isLeapYear, Bool.and_eq_true, Bool.or_eq_true, decide_eq_true_eq]
  omega

def Date.afterMarch (year days : Int) : Date :=
  let months := (5 * days + 2) / 153
  { year := if months < 10 then year else year + 1
    month := (if months < 10 then months + 3 else months - 9).toNat
    day := (days - daysBeforeMonth months + 1).toNat }

theorem dayNumber_afterMarch (year : Int) {days : Int} (h : 0 ≤ days ∧ days ≤ 365) :
    (Date.afterMarch year days).dayNumber =
      year / 400 * daysPerEra + daysBeforeYear (year % 400) + days - daysBeforeEpoch := by
  have hmonth : daysBeforeMonth ((5 * days + 2) / 153) ≤ days := by
    unfold daysBeforeMonth
    omega
  unfold Date.dayNumber Date.afterMarch
  dsimp only
  by_cases hmonths : (5 * days + 2) / 153 < 10
  · have hmarch : 3 ≤ ((5 * days + 2) / 153 + 3).toNat := by omega
    have hback : (((5 * days + 2) / 153 + 3).toNat : Int) - 3 = (5 * days + 2) / 153 := by omega
    simp only [hmonths, if_true, hmarch, hback]
    omega
  · have hmarch : ¬ 3 ≤ ((5 * days + 2) / 153 - 9).toNat := by omega
    have hback : (((5 * days + 2) / 153 - 9).toNat : Int) + 9 = (5 * days + 2) / 153 := by omega
    simp only [hmonths, if_false, hmarch, hback, Int.add_sub_cancel]
    omega

theorem exists_afterMarch {year days : Int} (h : 0 ≤ days ∧ days ≤ 365)
    (hleap : days = 365 → isLeapYear (year + 1)) : (Date.afterMarch year days).Exists := by
  unfold Date.Exists Date.afterMarch
  dsimp only
  have hmonths : (5 * days + 2) / 153 = 0 ∨ (5 * days + 2) / 153 = 1 ∨ (5 * days + 2) / 153 = 2 ∨
    (5 * days + 2) / 153 = 3 ∨ (5 * days + 2) / 153 = 4 ∨ (5 * days + 2) / 153 = 5 ∨
    (5 * days + 2) / 153 = 6 ∨ (5 * days + 2) / 153 = 7 ∨ (5 * days + 2) / 153 = 8 ∨
    (5 * days + 2) / 153 = 9 ∨ (5 * days + 2) / 153 = 10 ∨ (5 * days + 2) / 153 = 11 := by omega
  by_cases hlast : days = 365
  · subst hlast
    have := hleap rfl
    simp [daysInMonth, daysBeforeMonth, this]
  · rcases hmonths with hm | hm | hm | hm | hm | hm | hm | hm | hm | hm | hm | hm <;> rw [hm] <;>
      simp [daysInMonth, daysBeforeMonth] <;> (try split) <;> omega

theorem ofDayNumber_eq (number : Int) :
    ∃ era centuries groups years days, Elapsed centuries groups years days ∧
      number + daysBeforeEpoch = era * daysPerEra +
        (daysBeforeYear (100 * centuries + 4 * groups + years) + days) ∧
      Date.ofDayNumber number =
        .afterMarch (era * 400 + (100 * centuries + 4 * groups + years)) days := by
  have hpos : 0 < daysPerEra := by decide
  obtain ⟨centuries, groups, years, days, h, hday⟩ := exists_elapsed
    (Int.emod_nonneg (number + daysBeforeEpoch) (by decide)) (Int.emod_lt_of_pos _ hpos)
  have hdays : (number + daysBeforeEpoch) % daysPerEra -
      daysBeforeYear (100 * centuries + 4 * groups + years) = days := by
    rw [h.daysBeforeYear, hday]
    omega
  have hyear : yearOfEraDay ((number + daysBeforeEpoch) % daysPerEra) =
      100 * centuries + 4 * groups + years := by
    rw [hday, h.yearOfEraDay]
  refine ⟨(number + daysBeforeEpoch) / daysPerEra, centuries, groups, years, days, h, ?_, ?_⟩
  · rw [h.daysBeforeYear, ← hday]
    exact (Int.ediv_mul_add_emod _ _).symm
  · unfold Date.ofDayNumber
    simp only [hyear, hdays]
    rfl

theorem dayNumber_ofDayNumber (number : Int) : (Date.ofDayNumber number).dayNumber = number := by
  obtain ⟨era, centuries, groups, years, days, h, hnumber, hdate⟩ := ofDayNumber_eq number
  have hyear : 0 ≤ 100 * centuries + 4 * groups + years ∧
      100 * centuries + 4 * groups + years < 400 := by
    obtain ⟨hcentury, hgroup, hyear, -, -⟩ := h
    omega
  rw [hdate, dayNumber_afterMarch _ h.day]
  generalize 100 * centuries + 4 * groups + years = year at *
  have hera : (era * 400 + year) / 400 = era := by omega
  have hrest : (era * 400 + year) % 400 = year := by omega
  rw [hera, hrest]
  omega

theorem exists_ofDayNumber (number : Int) : (Date.ofDayNumber number).Exists := by
  obtain ⟨era, centuries, groups, years, days, h, -, hdate⟩ := ofDayNumber_eq number
  rw [hdate]
  refine exists_afterMarch h.day fun hlast => ?_
  subst hlast
  exact h.isLeapYear era

theorem Date.Exists.bounds {date : Date} (h : date.Exists) : date.month ≤ 12 ∧ date.day ≤ 31 := by
  obtain ⟨-, hmonth, -, hday⟩ := h
  have hdays : daysInMonth date.year date.month ≤ 31 := by
    unfold daysInMonth
    repeat' split
    all_goals decide
  exact ⟨hmonth, Nat.le_trans hday hdays⟩

theorem year_ofDayNumber {number : Int} (h : -96465292 ≤ number) (hlast : number ≤ 95026236) :
    -262143 ≤ (Date.ofDayNumber number).year ∧ (Date.ofDayNumber number).year ≤ 262142 := by
  obtain ⟨era, centuries, groups, years, days, helapsed, hnumber, hdate⟩ := ofDayNumber_eq number
  rw [helapsed.daysBeforeYear, daysBeforeEpoch, daysPerEra] at hnumber
  obtain ⟨hcentury, hgroup, hyear, hday, -⟩ := helapsed
  rw [hdate]
  unfold Date.afterMarch
  dsimp only
  have hera : era ≤ 654 ∨ era = 655 ∨ 656 ≤ era := by omega
  have hcenturies : centuries = 0 ∨ centuries = 1 ∨ 2 ≤ centuries := by omega
  split
  · omega
  · -- The last year is one of the second century of its era.
    obtain hera | rfl | hera := hera <;> obtain rfl | rfl | hcenturies := hcenturies <;> omega

end Switchboard.Time
