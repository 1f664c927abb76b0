import FleetIdentity.Pki.Time
import FleetIdentity.Proofs.Asn1.Elements

/-!
# Written moments are read back

A moment from the first day of year 1 to the last of year 9999 is written as the date and time that
it is read from. The date is computed in years that begin with March, of which 400 make an era of
146097 days; the year of a day is right because it never decreases from one day to the next and is
right on the first and the last day of each year.
-/

namespace FleetIdentity.CertificateTime

open Asn1

/-! ### Years that begin with March -/

/-- The days of an era before one of its years. -/
def yearStart (year : Nat) : Nat :=
  365 * year + year / 4 - year / 100

/-- A year has 366 days if the next January is one of a leap year of the era. -/
theorem yearStart_succ (year : Nat) : yearStart (year + 1) = yearStart year + 365 +
    if (year + 1) % 4 = 0 ∧ (year + 1) % 100 ≠ 0 then 1 else 0 := by
  have fewer : year / 100 ≤ 365 * year := by omega
  unfold yearStart
  split
  · have fours : (year + 1) / 4 = year / 4 + 1 := by omega
    have centuries : (year + 1) / 100 = year / 100 := by omega
    omega
  · by_cases century : (year + 1) % 100 = 0
    · have fours : (year + 1) / 4 = year / 4 + 1 := by omega
      have centuries : (year + 1) / 100 = year / 100 + 1 := by omega
      omega
    · have fours : (year + 1) / 4 = year / 4 := by omega
      have centuries : (year + 1) / 100 = year / 100 := by omega
      omega

/-- The year of an era that a day of the era falls in. -/
def yearOfEra (day : Nat) : Nat :=
  (day - day / 1460 + day / 36524 - day / 146096) / 365

theorem yearOfEra_mono {a b : Nat} (le : a ≤ b) : yearOfEra a ≤ yearOfEra b := by
  induction le with
  | refl => exact Nat.le_refl _
  | @step b _ ih =>
    refine Nat.le_trans ih (Nat.div_le_div_right ?_)
    rw [Nat.succ_eq_add_one]
    omega

theorem yearOfEra_yearStart : ∀ year < 400,
    yearOfEra (yearStart year) = year ∧ yearOfEra (yearStart (year + 1) - 1) = year := by
  decide +kernel

/-- A day of an era lies in the year that is computed for it; the last day of the era is one more
than its last year would have otherwise. -/
theorem yearOfEra_spec {day : Nat} (in_era : day < 146097) :
    yearOfEra day < 400 ∧ yearStart (yearOfEra day) ≤ day ∧
      (day < yearStart (yearOfEra day + 1) ∨ yearOfEra day = 399 ∧ day = 146096) := by
  have last : yearOfEra 146096 = 399 := by decide
  have below : yearOfEra day ≤ 399 := last ▸ yearOfEra_mono (Nat.le_of_lt_succ in_era)
  refine ⟨by omega, ?_, ?_⟩
  -- A day before the computed year would be at most the last day of the year before, whose computed
  -- year is smaller.
  · refine Nat.le_of_not_lt fun early => ?_
    have positive : yearOfEra day ≠ 0 := by
      intro zero
      rw [zero] at early
      exact Nat.not_lt_zero day early
    obtain ⟨year, eq⟩ := Nat.exists_eq_succ_of_ne_zero positive
    rw [eq, Nat.succ_eq_add_one] at early
    have before := yearOfEra_mono (show day ≤ yearStart (year + 1) - 1 by omega)
    rw [(yearOfEra_yearStart year (by omega)).2, eq] at before
    omega
  · by_cases final : yearOfEra day = 399
    · have start : yearStart 400 = 146096 := by decide
      rw [final, start]
      omega
    · refine .inl (Nat.lt_of_not_le fun late => ?_)
      have after := yearOfEra_mono late
      rw [(yearOfEra_yearStart (yearOfEra day + 1) (by omega)).1] at after
      omega

/-- The month of a day of a year that begins with March, counted from March. -/
def marchMonth (day : Nat) : Nat :=
  (5 * day + 2) / 153

/-- The month counted from January. -/
def civilMonth (month : Nat) : Nat :=
  if month < 10 then month + 3 else month - 9

/-- The day of the month, from one on. -/
def dayOfMonth (day : Nat) : Nat :=
  day - (153 * marchMonth day + 2) / 5 + 1

theorem marchMonth_le {day : Nat} (in_year : day ≤ 365) : marchMonth day ≤ 11 := by
  unfold marchMonth
  omega

theorem civilMonth_spec {month : Nat} (le : month ≤ 11) : 1 ≤ civilMonth month ∧
    civilMonth month ≤ 12 ∧ (civilMonth month + 9) % 12 = month ∧
      (civilMonth month ≤ 2 ↔ 10 ≤ month) := by
  unfold civilMonth
  split
  · omega
  · omega

theorem isLeap_iff {year : Nat} :
    isLeap year = true ↔ year % 4 = 0 ∧ (year % 100 ≠ 0 ∨ year % 400 = 0) := by
  simp [isLeap]

/-- A month is not shorter than in a common year. -/
theorem daysOf_common_le (year month : Nat) : daysOf 1 month ≤ daysOf year month := by
  have common : isLeap 1 = false := by decide
  by_cases february : month = 2
  · rw [daysOf, daysOf, if_pos february, if_pos february, common]
    cases isLeap year
    · decide
    · decide
  · exact Nat.le_of_eq (by rw [daysOf, daysOf, if_neg february, if_neg february])

/-- The day of the month is one of the month; only a leap year has the day after its 365th. -/
theorem dayOfMonth_le {day year : Nat} (in_year : day ≤ 365)
    (leap : day = 365 → isLeap year = true) :
    dayOfMonth day ≤ daysOf year (civilMonth (marchMonth day)) := by
  have common : ∀ day < 365, dayOfMonth day ≤ daysOf 1 (civilMonth (marchMonth day)) := by
    decide +kernel
  by_cases last : day = 365
  · subst last
    have february : civilMonth (marchMonth 365) = 2 := by decide
    rw [february, daysOf, if_pos rfl, if_pos (leap rfl)]
    decide
  · exact Nat.le_trans (common day (by omega)) (daysOf_common_le year _)

theorem marchMonth_start_le (day : Nat) : (153 * marchMonth day + 2) / 5 ≤ day := by
  unfold marchMonth
  omega

/-! ### Dates -/

theorem dayNumber_epoch : dayNumber 1970 1 1 = 719468 := by decide

/-- The date with a year that begins with March, as a day. -/
theorem dayNumber_march {year day : Nat} (in_year : day ≤ 365) (extra : Nat)
    (extra_eq : extra = if civilMonth (marchMonth day) ≤ 2 then 1 else 0) :
    dayNumber (year + extra) (civilMonth (marchMonth day)) (dayOfMonth day) =
      365 * year + year / 4 - year / 100 + year / 400 + day := by
  obtain ⟨_, _, month_eq, _⟩ := civilMonth_spec (marchMonth_le in_year)
  have start := marchMonth_start_le day
  have year_eq : (if civilMonth (marchMonth day) ≤ 2 then ((year + extra : Nat) : Int) - 1
      else ((year + extra : Nat) : Int)) = year := by
    rw [extra_eq]
    split
    · omega
    · omega
  have month_eq' : ((civilMonth (marchMonth day) : Nat) + 9 : Int) % 12 = marchMonth day := by
    omega
  simp only [dayNumber, year_eq, month_eq']
  simp only [Int.fdiv_eq_ediv_of_nonneg _ (by decide : (0 : Int) ≤ 4),
    Int.fdiv_eq_ediv_of_nonneg _ (by decide : (0 : Int) ≤ 100),
    Int.fdiv_eq_ediv_of_nonneg _ (by decide : (0 : Int) ≤ 400)]
  unfold dayOfMonth
  omega

/-- The date that is computed for a day is that day's. -/
theorem civil_spec {days : Int} (lower : -719162 ≤ days) (upper : days < 2932897) :
    ∃ year month day, civil days = (year, month, day) ∧ 1 ≤ year ∧ year ≤ 9999 ∧
      1 ≤ month ∧ month ≤ 12 ∧ 1 ≤ day ∧ day ≤ daysOf year month ∧
      dayNumber year month day = days + dayNumber 1970 1 1 := by
  obtain ⟨z, z_eq⟩ := Int.eq_ofNat_of_zero_le (show 0 ≤ days + 719468 by omega)
  have in_era : z % 146097 < 146097 := Nat.mod_lt _ (by decide)
  have era_eq : (z : Int).fdiv 146097 = (z / 146097 : Nat) := by
    rw [Int.fdiv_eq_ediv_of_nonneg _ (by decide)]
    omega
  have day_eq : ((z : Int) - (z / 146097 : Nat) * 146097).toNat = z % 146097 := by omega
  have years_eq : (((z / 146097 : Nat) : Int) * 400).toNat = z / 146097 * 400 := by omega
  obtain ⟨year_lt, start_le, before_next⟩ := yearOfEra_spec in_era
  obtain ⟨y, y_eq⟩ : ∃ y, yearOfEra (z % 146097) = y := ⟨_, rfl⟩
  obtain ⟨doy, doy_eq⟩ : ∃ doy, z % 146097 - yearStart y = doy := ⟨_, rfl⟩
  rw [y_eq] at year_lt start_le before_next
  have in_year : doy ≤ 365 := by
    have next := yearStart_succ y
    rcases before_next with before_next | ⟨rfl, last⟩
    · split at next
      · omega
      · omega
    · have start : yearStart 399 = 145731 := by decide
      omega
  obtain ⟨month_pos, month_le, _, february⟩ := civilMonth_spec (marchMonth_le in_year)
  obtain ⟨extra, extra_eq⟩ :
      ∃ extra, extra = if civilMonth (marchMonth doy) ≤ 2 then 1 else 0 := ⟨_, rfl⟩
  refine ⟨y + z / 146097 * 400 + extra, civilMonth (marchMonth doy), dayOfMonth doy,
    ?_, ?_, ?_, month_pos, month_le, ?_, ?_, ?_⟩
  -- The computation itself, with its intermediate numbers under the names that they have here.
  · have year_eq : (z % 146097 - z % 146097 / 1460 + z % 146097 / 36524 - z % 146097 / 146096) /
        365 = y := y_eq
    have day_of_year : z % 146097 - (365 * y + y / 4 - y / 100) = doy := doy_eq
    simp only [civil, dayNumber_epoch, z_eq, era_eq, day_eq, years_eq, year_eq, day_of_year]
    rw [extra_eq]
    rfl
  · unfold yearStart marchMonth at *
    split at extra_eq
    · omega
    · omega
  · unfold yearStart marchMonth at *
    split at extra_eq
    · omega
    · omega
  · exact Nat.succ_pos _
  · refine dayOfMonth_le in_year fun last => isLeap_iff.2 ?_
    have january : civilMonth (marchMonth 365) ≤ 2 := by decide
    rw [last, if_pos january] at extra_eq
    have leap : (y + 1) % 4 = 0 ∧ ((y + 1) % 100 ≠ 0 ∨ y + 1 = 400) := by
      have next := yearStart_succ y
      split at next
      · omega
      · omega
    rw [extra_eq]
    omega
  -- The days before the year are those of whole eras and those of the years of its own era.
  · have fours : (y + z / 146097 * 400) / 4 = y / 4 + z / 146097 * 100 := by omega
    have centuries : (y + z / 146097 * 400) / 100 = y / 100 + z / 146097 * 4 := by omega
    have eras : (y + z / 146097 * 400) / 400 = z / 146097 := by omega
    have whole : z / 146097 * 146097 + (yearStart y + doy) = z := by omega
    unfold yearStart at whole
    rw [dayNumber_march in_year extra extra_eq, dayNumber_epoch, z_eq]
    omega

/-! ### Digits -/

theorem pair?_writePair (n : Nat) (rest : Octets) :
    pair? (writePair n ++ rest) = some (n % 100, rest) := by
  have tens : (UInt8.ofNat (48 + n / 10 % 10)).toNat = 48 + n / 10 % 10 := by
    rw [UInt8.toNat_ofNat']
    omega
  have ones : (UInt8.ofNat (48 + n % 10)).toNat = 48 + n % 10 := by
    rw [UInt8.toNat_ofNat']
    omega
  have digits : ∀ k < 10, (decide (0x30 ≤ 48 + k) && decide (48 + k ≤ 0x39)) = true := by decide
  have value : (48 + n / 10 % 10 - 48) * 10 + (48 + n % 10 - 48) = n % 100 := by omega
  rw [writePair, List.cons_append, List.cons_append, List.nil_append, pair?]
  simp only [tens, ones, digits _ (Nat.mod_lt _ (show 0 < 10 by decide)), Bool.and_self, if_true,
    value]

theorem optionalPair?_writePair (n : Nat) (rest : Octets) :
    optionalPair? (writePair n ++ rest) = some (n % 100, rest) :=
  pair?_writePair n rest

/-- The octets of a date and a time of day after the first two digits of the year. -/
def writeParts (year month day time : Nat) : Octets :=
  writePair year ++ (writePair month ++ (writePair day ++ (writePair (time / 3600) ++
    (writePair (time / 60 % 60) ++ (writePair (time % 60) ++ [0x5A])))))

/-- A date and a second of its day. -/
structure IsDate (year month day time : Nat) : Prop where
  year_le : year ≤ 9999
  month_in : 1 ≤ month ∧ month ≤ 12
  day_in : 1 ≤ day ∧ day ≤ daysOf year month
  time_lt : time < 86400

variable {year month day time : Nat}

theorem IsDate.moment? (date : IsDate year month day time) :
    moment? year month day (time / 3600) (time / 60 % 60) (time % 60) =
      some (seconds year month day (time / 3600) (time / 60 % 60) (time % 60)) := by
  have hours := date.time_lt
  exact if_pos ⟨date.month_in.1, date.month_in.2, date.day_in.1, date.day_in.2, by omega, by omega,
    by omega⟩

theorem IsDate.day_lt (date : IsDate year month day time) : day < 100 := by
  have le := date.day_in.2
  unfold daysOf at le
  split at le
  · split at le
    · omega
    · omega
  · split at le
    · omega
    · omega

theorem short?_writeParts (date : IsDate year month day time) (low : 1950 ≤ year)
    (high : year < 2050) : short? (writeParts year month day time) =
      some (seconds year month day (time / 3600) (time / 60 % 60) (time % 60)) := by
  have hours := date.time_lt
  have months := date.month_in.2
  have century : (if 50 ≤ year % 100 then 1900 + year % 100 else 2000 + year % 100) = year := by
    split
    · omega
    · omega
  rw [short?, writeParts]
  simp only [Option.bind_eq_bind, pair?_writePair, optionalPair?_writePair, Option.bind_some,
    Nat.mod_eq_of_lt (show month < 100 by omega), Nat.mod_eq_of_lt date.day_lt,
    Nat.mod_eq_of_lt (show time / 3600 < 100 by omega),
    Nat.mod_eq_of_lt (show time / 60 % 60 < 100 by omega),
    Nat.mod_eq_of_lt (show time % 60 < 100 by omega), century, date.moment?]
  simp [offset?]

theorem long?_writeParts (date : IsDate year month day time) :
    long? (writePair (year / 100) ++ writeParts year month day time) =
      some (seconds year month day (time / 3600) (time / 60 % 60) (time % 60)) := by
  have hours := date.time_lt
  have months := date.month_in.2
  have years := date.year_le
  have whole : 100 * (year / 100) + year % 100 = year := by omega
  rw [long?, writeParts]
  simp only [Option.bind_eq_bind, pair?_writePair, optionalPair?_writePair, Option.bind_some,
    Nat.mod_eq_of_lt (show month < 100 by omega), Nat.mod_eq_of_lt date.day_lt,
    Nat.mod_eq_of_lt (show time / 3600 < 100 by omega),
    Nat.mod_eq_of_lt (show time / 60 % 60 < 100 by omega),
    Nat.mod_eq_of_lt (show time % 60 < 100 by omega),
    Nat.mod_eq_of_lt (show year / 100 < 100 by omega), whole, date.moment?]
  rfl

/-- The moment lies in a year of one to four digits. -/
def InCalendar (moment : Int) : Prop :=
  -62135596800 ≤ moment ∧ moment < 253402300800

/-- A moment in the calendar is the date and the time of day that it is written as. -/
theorem InCalendar.date {moment : Int} (calendar : InCalendar moment) : ∃ year month day,
    civil (moment.fdiv 86400) = (year, month, day) ∧
      IsDate year month day (moment.fmod 86400).toNat ∧
      seconds year month day ((moment.fmod 86400).toNat / 3600)
        ((moment.fmod 86400).toNat / 60 % 60) ((moment.fmod 86400).toNat % 60) = moment := by
  obtain ⟨lower, upper⟩ := calendar
  have split : moment.fdiv 86400 * 86400 + moment.fmod 86400 = moment := by
    rw [Int.mul_comm]
    exact Int.mul_fdiv_add_fmod moment 86400
  have time_pos : 0 ≤ moment.fmod 86400 := Int.fmod_nonneg_of_pos moment (by decide)
  have time_lt : moment.fmod 86400 < 86400 := Int.fmod_lt_of_pos moment (by decide)
  have first : -719162 ≤ moment.fdiv 86400 := by omega
  have last : moment.fdiv 86400 < 2932897 := by omega
  obtain ⟨year, month, day, civil_eq, _, year_le, month_pos, month_le, day_pos, day_le, number⟩ :=
    civil_spec first last
  refine ⟨year, month, day, civil_eq, ⟨year_le, ⟨month_pos, month_le⟩, ⟨day_pos, day_le⟩,
    by omega⟩, ?_⟩
  rw [seconds, number]
  omega

theorem writePair_length (n : Nat) : (writePair n).length = 2 := rfl

theorem writeParts_length (year month day time : Nat) :
    (writeParts year month day time).length = 13 := rfl

/-- The octets of a moment whose date is known. -/
theorem write_eq {moment : Int}
    (date : civil (moment.fdiv 86400) = (year, month, day)) :
    write moment = if 1950 ≤ year ∧ year < 2050 then
        writeTag .utcTime (writeParts year month day (moment.fmod 86400).toNat)
      else writeTag .generalizedTime
        (writePair (year / 100) ++ writeParts year month day (moment.fmod 86400).toNat) := by
  simp only [write, date, writeParts, List.append_assoc]

/-- A moment that is written is read back. -/
theorem reads_write {moment : Int} (calendar : InCalendar moment) :
    Reads read? (write moment) moment := by
  obtain ⟨year, month, day, civil_eq, date, same⟩ := calendar.date
  intro rest
  rw [write_eq civil_eq]
  split
  · next recent =>
    have fits : Fits (writeParts year month day (moment.fmod 86400).toNat) := by
      rw [Fits, writeParts_length]
      decide
    rw [read?, writeTag, Asn1.reads_write (Tag.single_octet .utcTime) fits]
    simp only [Option.bind_eq_bind, Option.bind_some]
    rw [if_pos (Tag.number_octet .utcTime), short?_writeParts date recent.1 recent.2, same]
    rfl
  · have fits : Fits (writePair (year / 100) ++
        writeParts year month day (moment.fmod 86400).toNat) := by
      rw [Fits, List.length_append, writePair_length, writeParts_length]
      decide
    rw [read?, writeTag, Asn1.reads_write (Tag.single_octet .generalizedTime) fits]
    simp only [Option.bind_eq_bind, Option.bind_some]
    rw [if_neg (by rw [Tag.number_octet]; decide), if_pos (Tag.number_octet .generalizedTime),
      long?_writeParts date, same]
    rfl

end FleetIdentity.CertificateTime
