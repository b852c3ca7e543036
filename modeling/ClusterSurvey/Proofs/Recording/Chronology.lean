import ClusterSurvey.Proofs.Recording.Flush
import ClusterSurvey.Proofs.Recording.Newest
import ClusterSurvey.Proofs.Recording.Session
import ClusterSurvey.Proofs.Time.Calendar
import ClusterSurvey.Proofs.Time.Digits

/-!
The names of archives have the order of the times that they are made of, down to the second. So in a
directory of archives that flushes wrote, the greatest name is that of the archive with the latest
record.
-/
namespace ClusterSurvey

open Rfc3339 (OrderedAs)

namespace Instant

/-- A time in a year of four digits that is no leap second. -/
structure Ordinary (t : Instant) : Prop where
  notBefore : 0 ≤ (Date.ofDays t.day).year
  notAfter : (Date.ofDays t.day).year ≤ 9999
  noLeap : t.isLeap = false

def clockSecond (t : Instant) : Nat :=
  ((Rfc3339.clock t).hour * 100 + (Rfc3339.clock t).minute) * 100 + (Rfc3339.clock t).second

/-- The number that the digits of date and time make up. -/
def stamp (t : Instant) : Nat := (Date.key (Date.ofDays t.day)).toNat * 1000000 + t.clockSecond

theorem Ordinary.second {t : Instant} (ordinary : t.Ordinary) :
    (Rfc3339.clock t).second = t.secondOfDay % 60 := by
  have less := of_decide_eq_false ordinary.noLeap
  have none : t.nano / nanosPerSecond = 0 := Nat.div_eq_of_lt (Nat.lt_of_not_le less)
  have told : (Rfc3339.clock t).second = t.secondOfDay % 60 + t.nano / nanosPerSecond := rfl
  rw [told, none, Nat.add_zero]

theorem secondOfDay_lt (t : Instant) : t.secondOfDay < 86400 := by
  unfold secondOfDay secondsPerDay
  omega

theorem second_eq (t : Instant) : t.second = t.day * 86400 + t.secondOfDay := by
  unfold day secondOfDay secondsPerDay
  omega

theorem Ordinary.clockSecond_eq {t : Instant} (ordinary : t.Ordinary) :
    t.clockSecond = (t.secondOfDay / 3600 * 100 + t.secondOfDay / 60 % 60) * 100 +
      t.secondOfDay % 60 := by
  unfold clockSecond
  rw [ordinary.second]
  rfl

theorem Ordinary.clockSecond_lt_iff {a b : Instant} (first : a.Ordinary) (second : b.Ordinary) :
    a.clockSecond < b.clockSecond ↔ a.secondOfDay < b.secondOfDay := by
  rw [first.clockSecond_eq, second.clockSecond_eq]
  generalize a.secondOfDay = s
  generalize b.secondOfDay = t
  have hour : s / 3600 = s / 60 / 60 := (Nat.div_div_eq_div_mul s 60 60).symm
  have hour' : t / 3600 = t / 60 / 60 := (Nat.div_div_eq_div_mul t 60 60).symm
  rw [Rfc3339.multiples_lt_iff (by omega) (by omega),
    Rfc3339.multiples_lt_iff (by omega) (by omega),
    Rfc3339.multiples_eq_iff (by omega) (by omega), hour, hour']
  omega

theorem Ordinary.clockSecond_bound {t : Instant} (ordinary : t.Ordinary) :
    t.clockSecond < 1000000 := by
  have short := t.secondOfDay_lt
  rw [ordinary.clockSecond_eq]
  omega

theorem Ordinary.key_nonneg {t : Instant} (ordinary : t.Ordinary) :
    0 ≤ Date.key (Date.ofDays t.day) := by
  have := ordinary.notBefore
  unfold Date.key
  omega

theorem Ordinary.stamp_lt_iff {a b : Instant} (first : a.Ordinary) (second : b.Ordinary) :
    a.stamp < b.stamp ↔ a.second < b.second := by
  have keys := first.key_nonneg
  have keys' := second.key_nonneg
  have days : (Date.key (Date.ofDays a.day)).toNat < (Date.key (Date.ofDays b.day)).toNat ↔
      a.day < b.day := by
    rw [← Date.key_ofDays_lt_iff]
    omega
  have daysBack : (Date.key (Date.ofDays b.day)).toNat < (Date.key (Date.ofDays a.day)).toNat ↔
      b.day < a.day := by
    rw [← Date.key_ofDays_lt_iff]
    omega
  have seconds := first.clockSecond_lt_iff second
  have short := a.secondOfDay_lt
  have short' := b.secondOfDay_lt
  unfold stamp
  rw [Rfc3339.multiples_lt_iff first.clockSecond_bound second.clockSecond_bound, seconds,
    second_eq a, second_eq b]
  omega

theorem Ordinary.stamp_eq_iff {a b : Instant} (first : a.Ordinary) (second : b.Ordinary) :
    a.stamp = b.stamp ↔ a.second = b.second := by
  have less := first.stamp_lt_iff second
  have greater := second.stamp_lt_iff first
  omega

theorem Ordinary.stamp_eq {t : Instant} (ordinary : t.Ordinary) :
    t.stamp = (((((Date.ofDays t.day).year.toNat * 100 + (Date.ofDays t.day).month) * 100 +
      (Date.ofDays t.day).day) * 100 + (Rfc3339.clock t).hour) * 100 +
      (Rfc3339.clock t).minute) * 100 + (Rfc3339.clock t).second := by
  have := ordinary.notBefore
  unfold stamp clockSecond Date.key
  omega

structure TwoDigits (t : Instant) : Prop where
  month : (Date.ofDays t.day).month < 100
  day : (Date.ofDays t.day).day < 100
  hour : (Rfc3339.clock t).hour < 100
  minute : (Rfc3339.clock t).minute < 100
  second : (Rfc3339.clock t).second < 100

theorem Ordinary.twoDigits {t : Instant} (ordinary : t.Ordinary) : t.TwoDigits := by
  have date := Date.ofDays_bounds t.day
  have short := t.secondOfDay_lt
  have hour : (Rfc3339.clock t).hour = t.secondOfDay / 3600 := rfl
  have minute : (Rfc3339.clock t).minute = t.secondOfDay / 60 % 60 := rfl
  have second := ordinary.second
  constructor <;> omega

end Instant

namespace Recording
open Keyed

theorem archiveTime_eq {t : Instant} (ordinary : t.Ordinary) :
    archiveTime t = Rfc3339.padded 4 (Date.ofDays t.day).year.toNat
      ++ '-' :: Rfc3339.padded 2 (Date.ofDays t.day).month
        ++ '-' :: Rfc3339.padded 2 (Date.ofDays t.day).day
      ++ '-' :: Rfc3339.padded 2 (Rfc3339.clock t).hour ++ Rfc3339.padded 2 (Rfc3339.clock t).minute
      ++ Rfc3339.padded 2 (Rfc3339.clock t).second := by
  have year : Rfc3339.year (Rfc3339.clock t).date.year =
      Rfc3339.padded 4 (Date.ofDays t.day).year.toNat :=
    if_pos ⟨ordinary.notBefore, ordinary.notAfter⟩
  unfold archiveTime
  dsimp only
  rw [year]
  rfl

theorem archiveTime_ordered {a b : Instant} (first : a.Ordinary) (second : b.Ordinary) :
    OrderedAs (archiveTime a) (archiveTime b) a.stamp b.stamp := by
  have low := first.twoDigits
  have high := second.twoDigits
  have two : ∀ {i j : Nat}, i < 100 → j < 100 →
      OrderedAs (Rfc3339.padded 2 i) (Rfc3339.padded 2 j) i j :=
    fun iBound jBound => Rfc3339.padded_ordered (by decide) iBound jBound
  have years : OrderedAs (Rfc3339.padded 4 (Date.ofDays a.day).year.toNat)
      (Rfc3339.padded 4 (Date.ofDays b.day).year.toNat) (Date.ofDays a.day).year.toNat
      (Date.ofDays b.day).year.toNat := by
    have := first.notAfter
    have := second.notAfter
    exact Rfc3339.padded_ordered (by decide) (by omega) (by omega)
  have months := years.append ((two low.month high.month).cons '-') low.month high.month
  have days := months.append ((two low.day high.day).cons '-') low.day high.day
  have hours := days.append ((two low.hour high.hour).cons '-') low.hour high.hour
  have minutes := hours.append (two low.minute high.minute) low.minute high.minute
  have seconds := minutes.append (two low.second high.second) low.second high.second
  rw [archiveTime_eq first, archiveTime_eq second, first.stamp_eq, second.stamp_eq]
  exact seconds

theorem archiveName_ordered {a b : Instant} (first : a.Ordinary) (second : b.Ordinary) :
    OrderedAs (archiveName a).toList (archiveName b).toList a.stamp b.stamp := by
  have time := archiveTime_ordered first second
  have start :=
    (OrderedAs.refl archiveStart.toList).append time (show a.stamp < a.stamp + b.stamp + 1 by omega)
    (by omega)
  have whole := start.append (OrderedAs.refl archiveEnd.toList) Nat.one_pos Nat.one_pos
  unfold archiveName
  simp only [String.toList_append, String.toList_ofList]
  simpa using whole

theorem archiveName_lt_iff {a b : Instant} (first : a.Ordinary) (second : b.Ordinary) :
    archiveName a < archiveName b ↔ a.second < b.second := by
  rw [String.lt_iff_toList_lt, (archiveName_ordered first second).less, first.stamp_lt_iff second]

theorem archiveName_eq_iff {a b : Instant} (first : a.Ordinary) (second : b.Ordinary) :
    archiveName a = archiveName b ↔ a.second = b.second := by
  rw [← String.toList_inj, (archiveName_ordered first second).same, first.stamp_eq_iff second]

def Archived (name : String) (content : Content) (newest : Instant) : Prop :=
  ∃ w now before after modified, Recorder.flush w now before = (.ok (some name), after) ∧
    IsNewest newest before.buffer.pending ∧
    (after.storage.bind fun d => d.get? name) = some (.file content modified)

theorem Archived.name {name : String} {content : Content} {newest : Instant}
    (archived : Archived name content newest) :
    name = archiveName newest := by
  obtain ⟨w, now, before, after, modified, flushed, isNewest, _⟩ := archived
  unfold Recorder.flush Recorder.write at flushed
  dsimp only at flushed
  rw [Recorder.newest?_eq_some_iff.mpr isNewest] at flushed
  dsimp only at flushed
  cases outcome : writeArchive w now (archiveName newest) before.buffer.pending before.storage with
  | mk result storage =>
    rw [outcome] at flushed
    cases result with
    | error e => cases flushed
    | ok done =>
      cases done with
      | false => cases flushed
      | true => exact (Option.some.inj (Except.ok.inj (Prod.mk.inj flushed).1)).symm

/-- A directory of archives that flushes wrote. They may have been changed at any time since. -/
structure HoldsArchives (d : Directory) (newest : String → Instant) : Prop where
  ordered : Ascending d.nodes
  archived : ∀ name node, d.get? name = some node →
    ∃ content modified, node = .file content modified ∧ Archived name content (newest name)
  ordinary : ∀ name node, d.get? name = some node → (newest name).Ordinary

theorem Archived.isArchiveName {name : String} {content : Content} {newest : Instant}
    (archived : Archived name content newest) : isArchiveName name = true := by
  apply isArchiveName_iff.mpr
  exact ⟨String.ofList (archiveTime newest), archived.name⟩

theorem HoldsArchives.mem_archives_iff {d : Directory} {newest : String → Instant}
    (holds : HoldsArchives d newest) {name : String} {content : Content} {modified : Instant} :
    (name, content, modified) ∈ archives d ↔ d.get? name = some (.file content modified) := by
  rw [Recording.mem_archives_iff, Directory.mem_nodes_iff holds.ordered]
  constructor
  · intro both
    exact both.1
  · intro there
    obtain ⟨_, _, _, archived⟩ := holds.archived name _ there
    exact ⟨there, archived.isArchiveName⟩

theorem HoldsArchives.archived_at {d : Directory} {newest : String → Instant}
    (holds : HoldsArchives d newest) {name : String} {content : Content} {modified : Instant}
    (there : d.get? name = some (.file content modified)) :
    Archived name content (newest name) := by
  obtain ⟨_, _, same, archived⟩ := holds.archived name _ there
  cases same
  exact archived

theorem HoldsArchives.newest_lt {d : Directory} {newest : String → Instant}
    (holds : HoldsArchives d newest) {first second : String} {c c' : Content} {m m' : Instant}
    (there : d.get? first = some (.file c m)) (there' : d.get? second = some (.file c' m'))
    (less : first < second) : newest first < newest second := by
  rw [(holds.archived_at there).name, (holds.archived_at there').name] at less
  exact Or.inl ((archiveName_lt_iff (holds.ordinary _ _ there) (holds.ordinary _ _ there')).mp less)

/-- Names of archives are ordered like the seconds that they stand for, and are equal for equal
seconds. In a directory of archives that flushes wrote, the archive that a reader is given is the
one with the latest record of those that were changed after a time, and nothing if there is none. -/
theorem latest_record_handed_out {s : Recorder} {d : Directory} {newest : String → Instant}
    (there : s.storage = some d) (holds : HoldsArchives d newest) (since : Instant) :
    (∀ a b : Instant, a.Ordinary → b.Ordinary →
      (archiveName a < archiveName b ↔ a.second < b.second) ∧
      (archiveName a = archiveName b ↔ a.second = b.second)) ∧ ((s.summary since = .ok none ∧
        ∀ name content modified, d.get? name = some (.file content modified) → ¬ since < modified) ∨
      ∃ name content modified, s.summary since = .ok (some (name, content)) ∧
        d.get? name = some (.file content modified) ∧ since < modified ∧
          Archived name content (newest name) ∧
        ∀ other content' modified', d.get? other = some (.file content' modified') →
          since < modified' →
          other ≠ name → newest other < newest name) := by
  constructor
  · intro a b first second
    exact ⟨archiveName_lt_iff first second, archiveName_eq_iff first second⟩
  · unfold Recorder.summary
    rw [there]
    rcases newestArchive_cases holds.ordered since with
      ⟨nothing, none⟩ | ⟨name, content, modified, found, member, later, greatest⟩
    · left
      refine ⟨nothing, ?_⟩
      intro name content modified stands
      exact none _ (holds.mem_archives_iff.mpr stands)
    · right
      have stands := holds.mem_archives_iff.mp member
      refine ⟨name, content, modified, found, stands, later, holds.archived_at stands, ?_⟩
      intro other content' modified' stands' later' differs
      exact holds.newest_lt stands' stands
        (greatest _ (holds.mem_archives_iff.mpr stands') later' differs)

def oneWaiting (t : Instant) : Recorder where
  bounds := ⟨100, 100⟩
  interval := 60
  buffer := ⟨[("version", ⟨"version", "a", t, some [1]⟩)], 1⟩
  storage := some .empty
  flushWanted := false
  looping := false

def newYear : Directory :=
  ⟨[("insights-1999-12-31-235959.tar.gz",
    .file (.archive [⟨"version", entryMode, 946684799, [1]⟩]) ⟨946684900, 0⟩),
    ("insights-2000-01-01-000000.tar.gz",
        .file (.archive [⟨"version", entryMode, 946684800, [1]⟩]) ⟨946684850, 0⟩)]⟩

def newYearTime (name : String) : Instant :=
  if name = "insights-1999-12-31-235959.tar.gz" then ⟨946684799, 999999999⟩ else ⟨946684800, 0⟩

theorem oneWaiting_archived {t : Instant} {name : String} {content : Content}
    (flushed : ((oneWaiting t).flush (.calm false) ⟨0, 0⟩).1 = .ok (some name))
    (written : (((oneWaiting t).flush (.calm false) ⟨0, 0⟩).2.storage.bind fun d => d.get? name) =
      some (.file content ⟨0, 0⟩)) : Archived name content t :=
  ⟨.calm false, ⟨0, 0⟩, oneWaiting t, _, ⟨0, 0⟩, Prod.ext flushed rfl,
    Recorder.newest?_eq_some_iff.mp rfl, written⟩

theorem newYear_holds : HoldsArchives newYear newYearTime := by
  have ordered : Ascending newYear.nodes := by
    unfold Ascending
    decide
  have last : Archived "insights-1999-12-31-235959.tar.gz"
      (.archive [⟨"version", entryMode, 946684799, [1]⟩])
      ⟨946684799, 999999999⟩ := oneWaiting_archived (by decide +kernel) (by decide +kernel)
  have first : Archived "insights-2000-01-01-000000.tar.gz"
      (.archive [⟨"version", entryMode, 946684800, [1]⟩])
      ⟨946684800, 0⟩ := oneWaiting_archived (by decide +kernel) (by decide +kernel)
  constructor
  · exact ordered
  · intro name node stands
    rcases List.mem_pair.mp ((Directory.mem_nodes_iff ordered).mpr stands) with here | here
    · cases here
      exact ⟨_, _, rfl, last⟩
    · cases here
      exact ⟨_, _, rfl, first⟩
  · intro name node stands
    rcases List.mem_pair.mp ((Directory.mem_nodes_iff ordered).mpr stands) with here | here
    · cases here
      exact ⟨by decide, by decide, by decide⟩
    · cases here
      exact ⟨by decide, by decide, by decide⟩

theorem newYear_handed_out :
    HoldsArchives newYear newYearTime ∧ Instant.Ordinary ⟨946684799, 999999999⟩ ∧
      Instant.Ordinary ⟨946684800, 0⟩ ∧
    archiveName ⟨946684799, 999999999⟩ < archiveName ⟨946684800, 0⟩ ∧
    ∃ content, { oneWaiting ⟨0, 0⟩ with storage := some newYear }.summary ⟨946684800, 0⟩ =
      .ok (some ("insights-2000-01-01-000000.tar.gz", content)) := by
  have before : Instant.Ordinary ⟨946684799, 999999999⟩ := ⟨by decide, by decide, by decide⟩
  have after : Instant.Ordinary ⟨946684800, 0⟩ := ⟨by decide, by decide, by decide⟩
  obtain ⟨names, found⟩ :=
    latest_record_handed_out (s := { oneWaiting ⟨0, 0⟩ with storage := some newYear }) rfl
    newYear_holds ⟨946684800, 0⟩
  refine ⟨newYear_holds, before, after, (names _ _ before after).1.mpr (by decide), ?_⟩
  rcases found with ⟨_, none⟩ | ⟨name, content, modified, found, stands, _, _, latest⟩
  · exact absurd (by decide) (none "insights-2000-01-01-000000.tar.gz" _ _ rfl)
  · rcases List.mem_pair.mp ((Directory.mem_nodes_iff newYear_holds.ordered).mpr stands)
      with here | here
    · cases here
      have later := latest "insights-2000-01-01-000000.tar.gz" _ _ rfl (by decide) (by decide)
      exact absurd later (by decide)
    · cases here
      exact ⟨_, found⟩

end Recording

end ClusterSurvey
