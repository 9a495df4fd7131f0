import QueryDesk.Time.Date

/-!
# The calendar and the count of days

Counting on from a first of March, an era of four hundred years has 146097 days, and a year of it
begins `yearStart` days after the era. The year of a day is found by a division that leaves the leap
days out of the count. Main statements: the day with a number exists, and has that number.
-/

namespace QueryDesk.Date

/-- The days of an era before one of its years. -/
def yearStart (q : Int) : Int := 365 * q + q / 4 - q / 100

/-- The days of an era up to one of them, without its leap days. -/
def plainDays (n : Int) : Int := n - n / 1460 + n / 36524 - n / 146096

theorem plainDays_mono {a b : Int} (h : a ≤ b) : plainDays a ≤ plainDays b := by
  have hfours : a - a / 1460 ≤ b - b / 1460 := by omega
  have hcenturies : a / 36524 - a / 146096 ≤ b / 36524 - b / 146096 := by omega
  unfold plainDays
  omega

theorem plainDays_start : ∀ q ∈ List.range 400, 365 * (q : Int) ≤ plainDays (yearStart q) := by
  decide +kernel

theorem plainDays_before : ∀ q ∈ List.range 399,
    plainDays (yearStart (q + 1 : Nat) - 1) < 365 * (q + 1 : Nat) := by
  decide +kernel

/-- The year of an era that a day belongs to. -/
structure InYear (q n : Int) : Prop where
  low : 0 ≤ q
  high : q ≤ 399
  start : yearStart q ≤ n
  before : q = 399 ∨ n < yearStart (q + 1)

theorem inYear_plainDays {n : Int} (hlow : 0 ≤ n) (hhigh : n ≤ 146096) :
    InYear (plainDays n / 365) n := by
  have hzero : plainDays 0 ≤ plainDays n := plainDays_mono hlow
  have hlast : plainDays n ≤ plainDays 146096 := plainDays_mono hhigh
  have hfirst : plainDays 0 = 0 := rfl
  have htop : plainDays 146096 = 145999 := rfl
  have hq : 0 ≤ plainDays n / 365 ∧ plainDays n / 365 ≤ 399 := by omega
  obtain ⟨q, hqn⟩ : ∃ q : Nat, plainDays n / 365 = q := ⟨_, (Int.toNat_of_nonneg hq.1).symm⟩
  have hbounds : 365 * (q : Int) ≤ plainDays n ∧ plainDays n < 365 * (q + 1) := by omega
  rw [hqn] at hq ⊢
  refine ⟨hq.1, hq.2, ?_, ?_⟩
  · -- a day before the start of the year has fewer plain days
    refine Int.not_lt.1 fun hlt => ?_
    rcases q with - | q
    · exact absurd hlow (Int.not_le.2 hlt)
    · have hle : plainDays n ≤ plainDays (yearStart (q + 1 : Nat) - 1) :=
        plainDays_mono (by omega)
      have hbefore := plainDays_before q (List.mem_range.2 (by omega))
      omega
  · by_cases hend : (q : Int) = 399
    · exact .inl hend
    · refine .inr ?_
      refine Int.not_le.1 fun hge => ?_
      have hle : plainDays (yearStart (q + 1 : Nat)) ≤ plainDays n :=
        plainDays_mono (by push_cast; omega)
      have hstart := plainDays_start (q + 1) (List.mem_range.2 (by omega))
      push_cast at hstart hle
      omega

/-- The day of the year; only a year with a leap day at its end has a 366th. -/
theorem InYear.dayOfYear {q n : Int} (h : InYear q n) (hhigh : n ≤ 146096) :
    0 ≤ n - yearStart q ∧ (n - yearStart q ≤ 364 ∨
      n - yearStart q = 365 ∧ ((q + 1) % 4 = 0 ∧ (q + 1) % 100 ≠ 0 ∨ q = 399)) := by
  obtain ⟨hlow, htop, hstart, hbefore⟩ := h
  unfold yearStart at *
  refine ⟨by omega, ?_⟩
  rcases hbefore with hlast | hbefore
  · subst hlast
    omega
  · omega

/-- A day by its era, the year of that era and the day of that year, which begins in March. -/
structure Placed (n era q r : Int) (d : Date) : Prop where
  number : n = era * 146097 + (yearStart q + r) - 719468
  inYear : InYear q (yearStart q + r)
  inEra : yearStart q + r ≤ 146096
  month : d.month = if (5 * r + 2) / 153 < 10 then (5 * r + 2) / 153 + 3 else (5 * r + 2) / 153 - 9
  day : d.day = r - (153 * ((5 * r + 2) / 153) + 2) / 5 + 1
  year : d.year = q + era * 400 + if 10 ≤ (5 * r + 2) / 153 then 1 else 0

theorem placed_ofDays (n : Int) : ∃ era q r, Placed n era q r (ofDays n) := by
  have hdoe : 0 ≤ (n + 719468) - (n + 719468) / 146097 * 146097 ∧
      (n + 719468) - (n + 719468) / 146097 * 146097 ≤ 146096 := by omega
  have hyear := inYear_plainDays hdoe.1 hdoe.2
  obtain ⟨hlow, hr⟩ := hyear.dayOfYear hdoe.2
  unfold ofDays
  simp only []
  generalize hera : (n + 719468) / 146097 = era at *
  generalize hn : n + 719468 - era * 146097 = m at *
  have hq : (m - m / 1460 + m / 36524 - m / 146096) / 365 = plainDays m / 365 := rfl
  rw [hq]
  generalize plainDays m / 365 = q at *
  have hstart : m - (365 * q + q / 4 - q / 100) = m - yearStart q := rfl
  rw [hstart]
  have hback : yearStart q + (m - yearStart q) = m := by omega
  refine ⟨era, q, m - yearStart q, by omega, hback.symm ▸ hyear, by omega, ?_, ?_, ?_⟩
  · generalize m - yearStart q = r at *
    dsimp only
    split <;> omega
  · generalize m - yearStart q = r at *
    dsimp only
    omega
  · generalize m - yearStart q = r at *
    dsimp only
    split <;> split <;> omega

theorem toDays_ofDays (n : Int) : (ofDays n).toDays = n := by
  obtain ⟨era, q, r, h⟩ := placed_ofDays n
  obtain ⟨hlow, hr⟩ := h.inYear.dayOfYear h.inEra
  obtain ⟨hnumber, ⟨hq, htop, -, -⟩, -, hmonth, hday, hyear⟩ := h
  generalize ofDays n = d at *
  -- counted from March, the month and the year come back
  have hmarch : (if d.month ≤ 2 then (d.month : Int) + 9 else d.month - 3) =
      (5 * r + 2) / 153 := by
    split at hmonth <;> split <;> omega
  have hback : (if d.month ≤ 2 then d.year - 1 else d.year) = q + era * 400 := by
    split at hmonth <;> split at hyear <;> split <;> omega
  have hera : (q + era * 400) / 400 = era := by omega
  simp only [toDays, hmarch, hback, hera, hday]
  unfold yearStart at hnumber
  omega

theorem of?_ofDays (n : Int) :
    of? (ofDays n).year (ofDays n).month (ofDays n).day = some (ofDays n) := by
  obtain ⟨era, q, r, h⟩ := placed_ofDays n
  obtain ⟨hlow, hr⟩ := h.inYear.dayOfYear h.inEra
  obtain ⟨-, -, -, hmonth, hday, hyear⟩ := h
  generalize ofDays n = d at *
  have hmarch : 0 ≤ (5 * r + 2) / 153 ∧ (5 * r + 2) / 153 ≤ 11 := by omega
  have hbounds : 1 ≤ d.month ∧ d.month ≤ 12 ∧ 1 ≤ d.day := by
    split at hmonth <;> omega
  have hlast : d.day ≤ daysInMonth d.year d.month := by
    unfold daysInMonth
    split
    · -- February ends the year that begins in March
      have hfebruary : (5 * r + 2) / 153 = 11 := by
        split at hmonth <;> omega
      rw [hfebruary] at hday hyear
      split
      · omega
      · rename_i hcommon
        have hno : ¬(d.year % 4 = 0 ∧ (d.year % 100 ≠ 0 ∨ d.year % 400 = 0)) := by
          simpa [isLeapYear] using hcommon
        omega
    · split
      · split at hmonth <;> omega
      · split at hmonth <;> omega
  exact if_pos ⟨hbounds.1, hbounds.2.1, hbounds.2.2, hlast⟩

end QueryDesk.Date
