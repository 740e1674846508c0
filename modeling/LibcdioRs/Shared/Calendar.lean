import Mathlib.Tactic

/-!
# The proleptic Gregorian calendar

Days are counted from the first of January 1970, seconds from the midnight
before it; there are no leap seconds. Every reading of a clock has its fields,
and only these.
-/

namespace Calendar

set_option autoImplicit false

def Leap (year : Int) : Prop := 4 ∣ year ∧ (100 ∣ year → 400 ∣ year)

instance (year : Int) : Decidable (Leap year) := by
  unfold Leap
  infer_instance

def daysInYear (year : Int) : Int := if Leap year then 366 else 365

def daysBeforeYear (year : Int) : Int :=
  365 * (year - 1970) + ((year - 1) / 4 - (year - 1) / 100 + (year - 1) / 400) - 477

/-- `ordinal` counts the days of the year from one. -/
def dayNumber (year ordinal : Int) : Int := daysBeforeYear year + (ordinal - 1)

def secondNumber (day hour minute second : Int) : Int :=
  day * 86400 + hour * 3600 + minute * 60 + second

example : daysBeforeYear 1970 = 0 ∧ dayNumber 2021 87 = 18714 := by decide

theorem daysBeforeYear_succ (year : Int) :
    daysBeforeYear (year + 1) = daysBeforeYear year + daysInYear year := by
  by_cases h : Leap year
  · simp only [daysBeforeYear, daysInYear, if_pos h]
    unfold Leap at h
    omega
  · simp only [daysBeforeYear, daysInYear, if_neg h]
    unfold Leap at h
    omega

theorem daysInYear_pos (year : Int) : 0 < daysInYear year := by
  unfold daysInYear
  split <;> decide

theorem daysInYear_le (year : Int) : daysInYear year ≤ 366 := by
  unfold daysInYear
  split <;> decide

theorem daysBeforeYear_strictMono : StrictMono daysBeforeYear := by
  apply strictMono_int_of_lt_succ
  intro year
  have := daysInYear_pos year
  rw [daysBeforeYear_succ]
  omega

theorem exists_year (day : Int) :
    ∃ year, daysBeforeYear year ≤ day ∧ day < daysBeforeYear (year + 1) := by
  have hbounded : ∀ year, daysBeforeYear year ≤ day → year ≤ max day 0 + 1970 := by
    intro year h
    unfold daysBeforeYear at h
    omega
  have hinhabited : daysBeforeYear (1970 + min day 0) ≤ day := by
    unfold daysBeforeYear
    omega
  obtain ⟨year, hle, hgreatest⟩ := Int.exists_greatest_of_bdd ⟨_, hbounded⟩ ⟨_, hinhabited⟩
  refine ⟨year, hle, Int.lt_of_not_ge ?_⟩
  intro hnext
  have := hgreatest (year + 1) hnext
  omega

theorem year_unique (day : Int) {y y' : Int} (h : daysBeforeYear y ≤ day ∧ day < daysBeforeYear (y + 1))
    (h' : daysBeforeYear y' ≤ day ∧ day < daysBeforeYear (y' + 1)) : y = y' := by
  have hlt := daysBeforeYear_strictMono.lt_iff_lt.mp (lt_of_le_of_lt h.1 h'.2)
  have hlt' := daysBeforeYear_strictMono.lt_iff_lt.mp (lt_of_le_of_lt h'.1 h.2)
  omega

/-- What a clock shows at the second `l`; `yday` counts the days of the year from zero. -/
structure Fields (l year yday hour minute second : Int) : Prop where
  yday_range : 0 ≤ yday ∧ yday < daysInYear year
  hour_range : 0 ≤ hour ∧ hour < 24
  minute_range : 0 ≤ minute ∧ minute < 60
  second_range : 0 ≤ second ∧ second < 60
  eq : secondNumber (dayNumber year (yday + 1)) hour minute second = l

theorem exists_fields (l : Int) : ∃ year yday hour minute second,
    Fields l year yday hour minute second := by
  obtain ⟨year, hle, hlt⟩ := exists_year (l / 86400)
  rw [daysBeforeYear_succ] at hlt
  refine ⟨year, l / 86400 - daysBeforeYear year, l % 86400 / 3600, l % 3600 / 60, l % 60,
    ?_, ?_, ?_, ?_, ?_⟩
  · omega
  · omega
  · omega
  · omega
  · unfold secondNumber dayNumber
    omega

section Unique
variable {l year yday hour minute second year' yday' hour' minute' second' : Int}

theorem Fields.day (h : Fields l year yday hour minute second) :
    l / 86400 = daysBeforeYear year + yday := by
  obtain ⟨_, hhour, hminute, hsecond, heq⟩ := h
  unfold secondNumber dayNumber at heq
  omega

theorem Fields.unique (h : Fields l year yday hour minute second)
    (h' : Fields l year' yday' hour' minute' second') :
    year = year' ∧ yday = yday' ∧ hour = hour' ∧ minute = minute' ∧ second = second' := by
  have hday := h.day
  have hday' := h'.day
  obtain ⟨hyday, hhour, hminute, hsecond, heq⟩ := h
  obtain ⟨hyday', hhour', hminute', hsecond', heq'⟩ := h'
  obtain rfl : year = year' := by
    apply year_unique (l / 86400)
    · rw [daysBeforeYear_succ]
      omega
    · rw [daysBeforeYear_succ]
      omega
  unfold secondNumber dayNumber at heq heq'
  omega

end Unique

end Calendar
