import QueryCache.Calendar.Iso
import QueryCache.Codec.MessagePack

/-! Days by their number, and times by their microseconds since 1970: what has a number is found by it.

Days that exist are told apart by their numbers, and texts are read as no others. -/

set_option autoImplicit false

namespace QueryCache

namespace Date

/-- The day of a year that is found among the months from one on, the days before it being past. -/
theorem of_ofYearDayFrom {year day month months : Nat} {d : Date} (past : daysBeforeMonth year month ≤ day)
    (found : ofYearDayFrom? year day month months = some d) :
    d.year = year ∧ daysBeforeMonth d.year d.month + d.day = day + 1 ∧ d.isValid = true := by
  induction months generalizing month with
  | zero => cases found
  | succ months ih =>
    rw [ofYearDayFrom?] at found
    split at found
    · rw [of?] at found
      split at found
      · next valid =>
        cases found
        refine ⟨rfl, ?_, valid⟩
        dsimp only
        omega
      · cases found
    · next later => exact ih (by omega) found

theorem of_ofYearDay {year day : Nat} {d : Date} (found : ofYearDay? year day = some d) :
    d.year = year ∧ daysBeforeMonth d.year d.month + d.day = day + 1 ∧ d.isValid = true :=
  of_ofYearDayFrom (show daysBeforeMonth year 1 ≤ day from Nat.zero_le day) found

/-- The days before a year in cycles of 400, 100, 4 and 1 years. -/
theorem daysBeforeYear_cycles {cycles centuries quads years : Nat} (fewCenturies : centuries ≤ 3) (fewQuads : quads ≤ 24)
    (fewYears : years ≤ 3) : daysBeforeYear (400 * cycles + 100 * centuries + 4 * quads + years + 1) =
      146097 * cycles + 36524 * centuries + 1461 * quads + 365 * years := by
  rw [daysBeforeYear, Nat.add_sub_cancel]
  omega

/-- So many spans of some size fit, unless there may be no more of them. -/
theorem min_div_spec (most n : Nat) {size : Nat} (positive : 0 < size) :
    min most (n / size) * size ≤ n ∧ (min most (n / size) < most → n < min most (n / size) * size + size) := by
  constructor
  · exact Nat.le_trans (Nat.mul_le_mul_right size (Nat.min_le_right _ _)) (Nat.div_mul_le_self n size)
  · intro fewer
    have after := Nat.lt_mul_div_succ n positive
    rwa [Nat.min_eq_right (by omega), ← Nat.succ_mul, Nat.mul_comm]

/-- The day with a number has that number, which is one from 1 to 3652059. -/
theorem of_ofOrdinal {ordinal : Nat} {d : Date} (found : ofOrdinal? ordinal = some d) :
    d.ordinal = ordinal ∧ 1 ≤ ordinal ∧ ordinal ≤ 3652059 := by
  unfold ofOrdinal? at found
  dsimp only at found
  generalize cyclesEq : (ordinal - 1) / 146097 = cycles at found
  generalize dayEq : (ordinal - 1) % 146097 = day at found
  generalize centuriesEq : min 3 (day / 36524) = centuries at found
  generalize leftEq : day - centuries * 36524 = left at found
  generalize quadsEq : left / 1461 = quads at found
  generalize restEq : left % 1461 = rest at found
  generalize yearsEq : min 3 (rest / 365) = years at found
  split at found
  · cases found
  · next positive =>
    obtain ⟨year, days, valid⟩ := of_ofYearDay found
    have inCycle := min_div_spec 3 day (by decide : 0 < 36524)
    have inQuad := min_div_spec 3 rest (by decide : 0 < 365)
    have byCycles := Nat.div_add_mod (ordinal - 1) 146097
    have byQuads := Nat.div_add_mod left 1461
    have few := Nat.min_le_left 3 (day / 36524)
    have fewYears := Nat.min_le_left 3 (rest / 365)
    have short := Nat.mod_lt (ordinal - 1) (by decide : 0 < 146097)
    have short' := Nat.mod_lt left (by decide : 0 < 1461)
    rw [cyclesEq, dayEq] at byCycles
    rw [quadsEq, restEq] at byQuads
    rw [dayEq] at short
    rw [restEq] at short'
    rw [centuriesEq] at inCycle few
    rw [yearsEq] at inQuad fewYears
    clear cyclesEq dayEq centuriesEq quadsEq restEq yearsEq
    have most : d.year ≤ 9999 := by
      simp only [isValid, Bool.and_eq_true, decide_eq_true_eq] at valid
      exact valid.1.1.1.1.2
    have before : daysBeforeYear d.year = 146097 * cycles + 36524 * centuries + 1461 * quads + 365 * years := by
      rw [year]
      exact daysBeforeYear_cycles few (by omega) fewYears
    have last : ordinal ≤ 3652059 := by
      -- The last day is the 365th of the third year, in the last four years of a last century.
      rcases Nat.lt_or_ge cycles 24 with early | late
      · omega
      rcases Nat.lt_or_ge centuries 3 with early | late'
      · omega
      rcases Nat.lt_or_ge quads 24 with early | late''
      · omega
      · omega
    refine ⟨?_, by omega, last⟩
    rw [Date.ordinal, before]
    omega

end Date

namespace DateTime

/-- The time at some microseconds is at these, in a day of the calendar. -/
theorem of_ofEpochMicros {micros : Int} {t : DateTime} (found : ofEpochMicros? micros = some t) :
    t.epochMicros = micros ∧ t.offset = some 0 ∧ -62135596800 * 1000000 ≤ micros ∧ micros < 253402300800 * 1000000 := by
  unfold ofEpochMicros? at found
  dsimp only at found
  generalize totalEq : micros + (Date.daysBefore1970 + 1) * microsPerDay = total at found
  split at found
  · cases found
  · next positive =>
    obtain ⟨date, numbered, same⟩ := Option.bind_eq_some_iff.1 found
    cases same
    obtain ⟨ordinal, first, last⟩ := Date.of_ofOrdinal numbered
    simp only [Date.daysBefore1970, microsPerDay, microsPerSecond] at totalEq ordinal first last
    refine ⟨?_, rfl, by omega, by omega⟩
    simp only [epochMicros, instant, localMicros, ordinal, Option.getD_some, Date.daysBefore1970, microsPerDay, microsPerSecond]
    omega

end DateTime

namespace Date

/-! ## Days by their numbers -/

theorem daysBeforeMonth_succ (year : Nat) {month : Nat} (first : 1 ≤ month) :
    daysBeforeMonth year (month + 1) = daysBeforeMonth year month + daysInMonth year month := by
  obtain ⟨past, rfl⟩ : ∃ past, month = past + 1 := ⟨month - 1, by omega⟩
  rw [daysBeforeMonth, daysBeforeMonth, Nat.add_sub_cancel, Nat.add_sub_cancel, List.range_succ, List.foldl_append]
  rfl

theorem daysBeforeMonth_mono (year : Nat) {month month' : Nat} (first : 1 ≤ month) (later : month ≤ month') :
    daysBeforeMonth year month ≤ daysBeforeMonth year month' := by
  induction later with
  | refl => exact Nat.le_refl _
  | step later ih =>
    rw [Nat.succ_eq_add_one, daysBeforeMonth_succ year (Nat.le_trans first later)]
    omega

theorem daysBeforeMonth_thirteen (year : Nat) : daysBeforeMonth year 13 = daysInYear year := by
  cases leap : isLeap year <;> simp [daysBeforeMonth, List.range, List.range.loop, daysInMonth, daysInYear, leap]

theorem isLeap_iff (year : Nat) : isLeap year = true ↔ 4 ∣ year ∧ (¬100 ∣ year ∨ 400 ∣ year) := by
  simp [isLeap, Nat.dvd_iff_mod_eq_zero]

theorem daysBeforeYear_succ {year : Nat} (first : 1 ≤ year) :
    daysBeforeYear (year + 1) = daysBeforeYear year + daysInYear year := by
  obtain ⟨past, rfl⟩ : ∃ past, year = past + 1 := ⟨year - 1, by omega⟩
  have fourth : 100 ∣ past + 1 → 4 ∣ past + 1 := Nat.dvd_trans (by decide)
  have hundredth : 400 ∣ past + 1 → 100 ∣ past + 1 := Nat.dvd_trans (by decide)
  have few : past / 100 ≤ past / 4 := Nat.div_le_div_left (by decide) (by decide)
  simp only [daysBeforeYear, daysInYear, isLeap_iff, Nat.add_sub_cancel, Nat.succ_div]
  by_cases quad : 4 ∣ past + 1 <;> by_cases century : 100 ∣ past + 1 <;> by_cases cycle : 400 ∣ past + 1 <;>
    simp_all <;> omega

theorem daysBeforeYear_mono {year year' : Nat} (first : 1 ≤ year) (later : year ≤ year') :
    daysBeforeYear year ≤ daysBeforeYear year' := by
  induction later with
  | refl => exact Nat.le_refl _
  | step later ih =>
    rw [Nat.succ_eq_add_one, daysBeforeYear_succ (Nat.le_trans first later)]
    omega

/-- The day of a month lies among those before the next month, and before the next year. -/
theorem bounds_of_isValid {d : Date} (valid : d.isValid = true) : 1 ≤ d.year ∧ 1 ≤ d.month ∧ 1 ≤ d.day ∧
    daysBeforeMonth d.year d.month + d.day ≤ daysBeforeMonth d.year (d.month + 1) ∧
    d.ordinal ≤ daysBeforeYear (d.year + 1) := by
  simp only [isValid, Bool.and_eq_true, decide_eq_true_eq] at valid
  obtain ⟨⟨⟨⟨⟨year, -⟩, month⟩, december⟩, day⟩, last⟩ := valid
  have next := daysBeforeMonth_succ d.year month
  have within := daysBeforeMonth_mono d.year (by omega : 1 ≤ d.month + 1) (by omega : d.month + 1 ≤ 13)
  rw [daysBeforeMonth_thirteen] at within
  have following := daysBeforeYear_succ year
  refine ⟨year, month, day, by omega, ?_⟩
  rw [ordinal]
  omega

theorem year_le_of_ordinal_le {d e : Date} (valid : d.isValid = true) (valid' : e.isValid = true)
    (le : d.ordinal ≤ e.ordinal) : d.year ≤ e.year := by
  refine Nat.le_of_not_lt fun later => ?_
  obtain ⟨-, -, -, -, ends⟩ := bounds_of_isValid valid'
  obtain ⟨-, -, day, -⟩ := bounds_of_isValid valid
  have past := daysBeforeYear_mono (by omega : 1 ≤ e.year + 1) (by omega : e.year + 1 ≤ d.year)
  rw [ordinal] at le
  omega

/-- No two days have one number. -/
theorem ordinal_injective {d e : Date} (valid : d.isValid = true) (valid' : e.isValid = true)
    (same : d.ordinal = e.ordinal) : d = e := by
  have month_le {d e : Date} (valid : d.isValid = true) (valid' : e.isValid = true) (years : d.year = e.year)
      (same : d.ordinal = e.ordinal) : d.month ≤ e.month := by
    refine Nat.le_of_not_lt fun later => ?_
    obtain ⟨-, -, day, -⟩ := bounds_of_isValid valid
    obtain ⟨-, month, -, ends, -⟩ := bounds_of_isValid valid'
    have past := daysBeforeMonth_mono e.year (by omega : 1 ≤ e.month + 1) (by omega : e.month + 1 ≤ d.month)
    rw [ordinal, ordinal, years] at same
    omega
  have years : d.year = e.year := Nat.le_antisymm (year_le_of_ordinal_le valid valid' (Nat.le_of_eq same))
    (year_le_of_ordinal_le valid' valid (Nat.le_of_eq same.symm))
  have months : d.month = e.month :=
    Nat.le_antisymm (month_le valid valid' years same) (month_le valid' valid years.symm same.symm)
  have days : d.day = e.day := by
    rw [ordinal, ordinal, years, months] at same
    omega
  cases d
  cases e
  simp_all

/-! ## Days that are read -/

theorem isValid_of {year month day : Nat} {d : Date} (found : of? year month day = some d) : d.isValid = true := by
  unfold of? at found
  dsimp only at found
  split at found
  · next valid =>
    cases found
    exact valid
  · cases found

theorem isValid_ofWeek {year week day : Nat} {d : Date} (found : ofWeek? year week day = some d) :
    d.isValid = true := by
  unfold ofWeek? at found
  split at found
  · cases found
  · -- The first Monday lies before the year or in it, and so may the day, or after it.
    dsimp only at found
    repeat' split at found
    all_goals exact (of_ofYearDay found).2.2

end Date

namespace Iso

theorem isValid_of_readDatePart {length : Nat} {text : List Char} {d : Date}
    (found : readDatePart? length text = some d) : d.isValid = true := by
  obtain ⟨⟨year, rest⟩, -, found⟩ := Option.bind_eq_some_iff.1 found
  dsimp only at found
  split at found
  · obtain ⟨⟨week, rest⟩, -, found⟩ := Option.bind_eq_some_iff.1 found
    have weekday {after : Option (List Char)}
        (found : (after.bind fun rest => (readDigits? 1 rest).bind fun day => Date.ofWeek? year week day.1) = some d) :
        d.isValid = true := by
      obtain ⟨rest, -, found⟩ := Option.bind_eq_some_iff.1 found
      obtain ⟨day, -, found⟩ := Option.bind_eq_some_iff.1 found
      exact Date.isValid_ofWeek found
    -- How long a week date with a weekday is depends on whether there are hyphens.
    split at found
    · split at found
      · exact weekday found
      · exact Date.isValid_ofWeek found
    · split at found
      · exact weekday found
      · exact Date.isValid_ofWeek found
  · obtain ⟨⟨month, rest⟩, -, found⟩ := Option.bind_eq_some_iff.1 found
    obtain ⟨rest, -, found⟩ := Option.bind_eq_some_iff.1 found
    obtain ⟨⟨day, rest⟩, -, found⟩ := Option.bind_eq_some_iff.1 found
    exact Date.isValid_of found

theorem isValid_of_date {text : String} {d : Date} (found : date? text = some d) : d.isValid = true := by
  unfold date? at found
  dsimp only at found
  split at found
  · exact isValid_of_readDatePart found
  · cases found

theorem isValid_of_dateTime {text : String} {t : DateTime} (found : dateTime? text = some t) : t.isValid = true := by
  obtain ⟨length, -, found⟩ := Option.bind_eq_some_iff.1 found
  obtain ⟨date, read, found⟩ := Option.bind_eq_some_iff.1 found
  split at found
  · cases found
    simp [DateTime.isValid, isValid_of_readDatePart read]
  · obtain ⟨⟨clock, offset⟩, -, found⟩ := Option.bind_eq_some_iff.1 found
    dsimp only at found
    split at found
    · next valid =>
      cases found
      exact valid
    · cases found

end Iso

end QueryCache
