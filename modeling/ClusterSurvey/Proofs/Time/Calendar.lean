import ClusterSurvey.Time.Calendar
import Mathlib.Tactic.Common

/-!
The order of dates. Years are counted from March, so that each begins a known number of days after
the first; the day that a date is asked for lies in the year that is found for it. Dates are
compared by the number that year, month and day make up when they are written one after the other.
-/
namespace ClusterSurvey.Date

def yearStart (year : Int) : Int := 365 * year + year / 4 - year / 100 + year / 400

def yearOfEra (dayOfEra : Int) : Int :=
  (dayOfEra - dayOfEra / 1460 + dayOfEra / 36524 - dayOfEra / 146096) / 365

def marchYear (days : Int) : Int :=
  yearOfEra ((days + 719468) % 146097) + (days + 719468) / 146097 * 400

def dayOfYear (days : Int) : Int := days + 719468 - yearStart (marchYear days)

/-- The number that year, month and day make up. -/
def key (d : Date) : Int := (d.year * 100 + d.month) * 100 + d.day

theorem yearStart_mono {a b : Int} (le : a ≤ b) : yearStart a ≤ yearStart b := by
  unfold yearStart
  omega

theorem yearStart_add_eras (year eras : Int) :
    yearStart (year + eras * 400) = yearStart year + eras * 146097 := by
  have fours : (year + eras * 400) / 4 = year / 4 + eras * 100 := by omega
  have hundreds : (year + eras * 400) / 100 = year / 100 + eras * 4 := by omega
  have cycles : (year + eras * 400) / 400 = year / 400 + eras := by omega
  unfold yearStart
  omega

theorem yearStart_parts {century four year : Int} (centuries : 0 ≤ century ∧ century ≤ 3)
    (fours : 0 ≤ four ∧ four ≤ 24) (years : 0 ≤ year ∧ year ≤ 3) :
    yearStart (100 * century + 4 * four + year) = 36524 * century + 1461 * four + 365 * year := by
  have leaps : (100 * century + 4 * four + year) / 4 = 25 * century + four := by omega
  have hundreds : (100 * century + 4 * four + year) / 100 = century :=
    (Int.ediv_eq_iff_of_pos (by decide)).mpr (by omega)
  have cycles : (100 * century + 4 * four + year) / 400 = 0 := by omega
  unfold yearStart
  omega

theorem yearStart_succ (year : Int) : yearStart (year + 1) ≤ yearStart year + 366 := by
  unfold yearStart
  omega

/-- A day of a cycle of 400 years lies in a century, in four years of that and in a year of these.
Only the last year of the four has a day 365, and the last four years of a century have it only in
the last century. -/
theorem exists_parts {day : Int} (low : 0 ≤ day) (high : day < 146097) :
    ∃ century four year rest : Int, day = 36524 * century + 1461 * four + 365 * year + rest ∧
      (0 ≤ century ∧ century ≤ 3) ∧ (0 ≤ four ∧ four ≤ 24) ∧ (0 ≤ year ∧ year ≤ 3) ∧
      (0 ≤ rest ∧ rest ≤ 365) ∧ (rest = 365 → year = 3 ∧ (four = 24 → century = 3)) := by
  have centuries : ∃ century inside : Int, day = 36524 * century + inside ∧
      (0 ≤ century ∧ century ≤ 3) ∧
      (0 ≤ inside ∧ inside ≤ 36524) ∧ (inside = 36524 → century = 3) := by
    by_cases last : day = 146096
    · exact ⟨3, 36524, by omega⟩
    · exact ⟨day / 36524, day % 36524, by omega⟩
  obtain ⟨century, inside, split, whole, part, lastCentury⟩ := centuries
  have years : ∃ year rest : Int, inside % 1461 = 365 * year + rest ∧ (0 ≤ year ∧ year ≤ 3) ∧
      (0 ≤ rest ∧ rest ≤ 365) ∧ (rest = 365 → year = 3) := by
    by_cases last : inside % 1461 = 1460
    · exact ⟨3, 365, by omega⟩
    · exact ⟨inside % 1461 / 365, inside % 1461 % 365, by omega⟩
  obtain ⟨year, rest, splitYear, wholeYear, partYear, lastYear⟩ := years
  exact ⟨century, inside / 1461, year, rest, by omega⟩

theorem yearOfEra_parts {century four year rest : Int} (centuries : 0 ≤ century ∧ century ≤ 3)
    (fours : 0 ≤ four ∧ four ≤ 24) (years : 0 ≤ year ∧ year ≤ 3) (days : 0 ≤ rest ∧ rest ≤ 365)
    (last : rest = 365 → year = 3 ∧ (four = 24 → century = 3)) :
    yearOfEra (36524 * century + 1461 * four + 365 * year + rest) =
      100 * century + 4 * four + year := by
  have eras : (36524 * century + 1461 * four + 365 * year + rest) / 36524 -
      (36524 * century + 1461 * four + 365 * year + rest) / 146096 = century := by
    by_cases final : 36524 * century + 1461 * four + 365 * year + rest = 146096
    · rw [final]
      omega
    · have none : (36524 * century + 1461 * four + 365 * year + rest) / 146096 = 0 := by omega
      have same : (36524 * century + 1461 * four + 365 * year + rest) / 36524 = century :=
        (Int.ediv_eq_iff_of_pos (by decide)).mpr (by omega)
      omega
  have leaps : (36524 * century + 1461 * four + 365 * year + rest) / 1460 =
      25 * century + four + if 1460 ≤ 24 * century + four + 365 * year + rest then 1 else 0 := by
    split
    · exact (Int.ediv_eq_iff_of_pos (by decide)).mpr (by omega)
    · exact (Int.ediv_eq_iff_of_pos (by decide)).mpr (by omega)
  unfold yearOfEra
  split at leaps
  · exact (Int.ediv_eq_iff_of_pos (by decide)).mpr (by omega)
  · exact (Int.ediv_eq_iff_of_pos (by decide)).mpr (by omega)

theorem yearOfEra_within {day : Int} (low : 0 ≤ day) (high : day < 146097) :
    (0 ≤ yearOfEra day ∧ yearOfEra day < 400) ∧ yearStart (yearOfEra day) ≤ day ∧
      day < yearStart (yearOfEra day + 1) := by
  obtain ⟨century, four, year, rest, split, centuries, fours, years, days, last⟩ :=
    exists_parts low high
  rw [split, yearOfEra_parts centuries fours years days last, yearStart_parts centuries fours years]
  refine ⟨by omega, by omega, ?_⟩
  -- the next year is the next of the four, or the first of the next four, of the next century or of
  -- the next cycle
  by_cases sameFour : year < 3
  · have next := yearStart_parts centuries fours (show 0 ≤ year + 1 ∧ year + 1 ≤ 3 by omega)
    rw [← Int.add_assoc] at next
    omega
  · by_cases sameCentury : four < 24
    · have next := yearStart_parts centuries (show 0 ≤ four + 1 ∧ four + 1 ≤ 24 by omega)
        (show (0 : Int) ≤ 0 ∧ (0 : Int) ≤ 3 by omega)
      have same : 100 * century + 4 * four + year + 1 =
          100 * century + 4 * (four + 1) + 0 := by omega
      rw [same]
      omega
    · have same : 100 * century + 4 * four + year + 1 = 100 * (century + 1) := by omega
      rw [same]
      unfold yearStart
      omega

theorem marchYear_within (days : Int) :
    yearStart (marchYear days) ≤ days + 719468 ∧
      days + 719468 < yearStart (marchYear days + 1) := by
  have within := yearOfEra_within (show 0 ≤ (days + 719468) % 146097 by omega) (by omega)
  have next :=
    yearStart_add_eras (yearOfEra ((days + 719468) % 146097) + 1) ((days + 719468) / 146097)
  rw [Int.add_right_comm] at next
  unfold marchYear
  rw [next, yearStart_add_eras]
  omega

theorem dayOfYear_within (days : Int) : 0 ≤ dayOfYear days ∧ dayOfYear days ≤ 365 := by
  have within := marchYear_within days
  have long := yearStart_succ (marchYear days)
  unfold dayOfYear
  omega

theorem marchYear_mono {a b : Int} (le : a ≤ b) : marchYear a ≤ marchYear b := by
  have first := (marchYear_within a).1
  have second := (marchYear_within b).2
  by_contra later
  have := yearStart_mono (a := marchYear b + 1) (b := marchYear a) (by omega)
  omega

theorem ofDays_eq (days : Int) :
    ofDays days =
      (let shifted := (5 * dayOfYear days + 2) / 153
       let month := if shifted < 10 then shifted + 3 else shifted - 9
       ⟨marchYear days + (if month ≤ 2 then 1 else 0), month.toNat,
        (dayOfYear days - (153 * shifted + 2) / 5 + 1).toNat⟩) := by
  have within := yearOfEra_within (show 0 ≤ (days + 719468) % 146097 by omega) (by omega)
  have same : (days + 719468) % 146097 - (365 * yearOfEra ((days + 719468) % 146097) +
      yearOfEra ((days + 719468) % 146097) / 4 - yearOfEra ((days + 719468) % 146097) / 100) =
        dayOfYear days := by
    unfold dayOfYear marchYear
    rw [yearStart_add_eras]
    unfold yearStart
    omega
  rw [← same]
  rfl

theorem ofDays_bounds (days : Int) : (ofDays days).month ≤ 12 ∧ (ofDays days).day ≤ 31 := by
  have within := dayOfYear_within days
  rw [ofDays_eq]
  dsimp only
  omega

def keyOfDay (day : Int) : Int :=
  let shifted := (5 * day + 2) / 153
  (if shifted < 10 then (shifted + 3) * 100 else 10000 + (shifted - 9) * 100) +
    (day - (153 * shifted + 2) / 5 + 1)

theorem key_ofDays (days : Int) :
    key (ofDays days) = marchYear days * 10000 + keyOfDay (dayOfYear days) := by
  have within := dayOfYear_within days
  rw [ofDays_eq]
  unfold key keyOfDay
  dsimp only
  by_cases early : (5 * dayOfYear days + 2) / 153 < 10
  · simp only [if_pos early]
    omega
  · simp only [if_neg early]
    omega

theorem keyOfDay_bounds {day : Int} (low : 0 ≤ day) (high : day ≤ 365) :
    301 ≤ keyOfDay day ∧ keyOfDay day ≤ 10300 := by
  have month : 0 ≤ (5 * day + 2) / 153 ∧ (5 * day + 2) / 153 ≤ 11 := by omega
  have begun : (153 * ((5 * day + 2) / 153) + 2) / 5 ≤ day := by omega
  have short : day ≤ (153 * ((5 * day + 2) / 153) + 2) / 5 + 30 := by omega
  unfold keyOfDay
  dsimp only
  omega

theorem keyOfDay_lt {a b : Int} (less : a < b) : keyOfDay a < keyOfDay b := by
  have months : (5 * a + 2) / 153 ≤ (5 * b + 2) / 153 := by omega
  unfold keyOfDay
  dsimp only
  omega

theorem key_ofDays_lt {a b : Int} (less : a < b) : key (ofDays a) < key (ofDays b) := by
  have first := dayOfYear_within a
  have second := dayOfYear_within b
  rw [key_ofDays, key_ofDays]
  rcases Int.lt_or_eq_of_le (marchYear_mono (Int.le_of_lt less)) with earlier | same
  · have high := (keyOfDay_bounds first.1 first.2).2
    have low := (keyOfDay_bounds second.1 second.2).1
    omega
  · have later : dayOfYear a < dayOfYear b := by
      unfold dayOfYear
      rw [same]
      omega
    have := keyOfDay_lt later
    omega

theorem key_ofDays_lt_iff (a b : Int) : key (ofDays a) < key (ofDays b) ↔ a < b := by
  constructor
  · intro less
    rcases Int.lt_trichotomy a b with before | same | after
    · exact before
    · rw [same] at less
      exact absurd less (Int.lt_irrefl _)
    · have := key_ofDays_lt after
      omega
  · exact key_ofDays_lt

end ClusterSurvey.Date
