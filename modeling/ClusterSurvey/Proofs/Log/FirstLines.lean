import ClusterSurvey.Survey.Metrics
import Mathlib.Data.Nat.Find
import Mathlib.Data.List.Basic

/-!
Readers of the first lines of a source. However the source cuts its bytes and however many are asked
for at a time, the reads up to the first one that gives nothing give together the first lines, and
nothing is taken from the source afterwards. What is carried from read to read is one split of the
bytes: those that were given, those that were dropped behind the last line, and those that the
source still has. The newlines of the first two are counted by the reader and those of the last by
counting on, so that none is counted twice or left out.
-/
namespace ClusterSurvey.Log

/-- The bytes up to and including the `n`-th newline, all bytes if there are fewer. -/
structure FirstLines (n : Nat) (bytes out : Bytes) : Prop where
  front : out <+: bytes
  all : newlines bytes < n → out = bytes
  cut : n ≤ newlines bytes → newlines out = n ∧ (out = [] ∨ ∃ line, out = line ++ [newline])

def Source.Gives (s : Source) : Prop := ∀ limit ∈ s.limits, 0 < limit

theorem newlines_nil : newlines [] = 0 := rfl

theorem newlines_append (a b : Bytes) : newlines (a ++ b) = newlines a + newlines b :=
  List.count_append

theorem newlines_of_cutLine {bs line rest : Bytes} (cut : cutLine? bs = some (line, rest)) :
    newlines line = 1 := by
  obtain ⟨front, none, rfl⟩ := line_of_cutLine cut
  rw [newlines_append, newlines, List.count_eq_zero.mpr none]
  rfl

namespace Source

theorem Gives.read {s : Source} (gives : s.Gives) (capacity : Nat) : (s.read capacity).2.Gives :=
  fun limit member => gives limit (List.mem_of_mem_drop member)

theorem eq_nil_of_read {s : Source} (gives : s.Gives) {capacity : Nat} (room : 0 < capacity)
    (nothing : (s.read capacity).1 = []) : s.data = [] := by
  rcases List.take_eq_nil_iff.mp nothing with none | empty
  · cases limits : s.limits with
    | nil =>
      simp only [limits] at none
      omega
    | cons limit rest =>
      have positive := gives limit (limits ▸ List.mem_cons_self)
      simp only [limits] at none
      omega
  · exact empty

end Source

theorem countFrom_eq (lines : Nat) {s : Source} (gives : s.Gives) :
    countFrom lines s = lines + newlines s.data := by
  fun_induction countFrom lines s with
  | case1 lines s rest nothing =>
    have empty := s.eq_nil_of_read gives (by decide) (congrArg Prod.fst nothing)
    rw [empty]
    rfl
  | case2 lines s b chunk rest some ih =>
    have whole := s.read_data countSize
    have gives' := gives.read countSize
    rw [some] at whole gives'
    rw [ih gives', ← whole, newlines_append, Nat.add_assoc]

theorem countLines_eq {s : Source} (gives : s.Gives) : countLines s = 1 + newlines s.data :=
  countFrom_eq 1 gives

theorem passLines_split (offset : Nat) (rest : Bytes) {remaining : Nat} (some : 0 < remaining) :
    ∃ front behind left, rest = front ++ behind ∧
      passLines offset rest remaining = (offset + front.length, left) ∧
        left + newlines front = remaining ∧
      (left = 0 → ∃ line, front = line ++ [newline]) ∧ (left ≠ 0 → behind = []) := by
  fun_induction passLines offset rest remaining with
  | case1 offset rest remaining uncut =>
    refine ⟨rest, [], remaining, (List.append_nil rest).symm, rfl, ?_, fun none => ?_, fun _ => rfl⟩
    · rw [newlines, List.count_eq_zero.mpr (not_mem_of_cutLine uncut), Nat.add_zero]
    · exact absurd none (Nat.ne_of_gt some)
  | case2 offset bytes remaining line rest cut last =>
    obtain ⟨front, _, ending⟩ := line_of_cutLine cut
    refine ⟨line, rest, 0, (append_of_cutLine cut).symm, rfl, ?_, fun _ => ⟨front, ending⟩,
      fun more => absurd rfl more⟩
    rw [newlines_of_cutLine cut]
    omega
  | case3 offset bytes remaining line rest cut more ih =>
    obtain ⟨front, behind, left, split, passed, counted, ending, whole⟩ :=
      ih (Nat.pos_of_ne_zero more)
    refine ⟨line ++ front, behind, left, ?_, ?_, ?_, ?_, whole⟩
    · rw [← append_of_cutLine cut, split, List.append_assoc]
    · rw [passed, List.length_append, Nat.add_assoc]
    · rw [newlines_append, newlines_of_cutLine cut]
      omega
    · intro none
      obtain ⟨last, rfl⟩ := ending none
      exact ⟨line ++ last, (List.append_assoc _ _ _).symm⟩

namespace LineLimit

/-- Between two reads of a reader of the first `n` lines of `data`: `given` was passed on, what was
dropped stands behind it, and the source has the rest. Nothing is dropped before the last line. -/
structure Progress (data : Bytes) (n : Nat) (given : Bytes) (r : LineLimit) : Prop where
  split : ∃ dropped, data = given ++ dropped ++ r.source.data ∧
    r.total = newlines (given ++ dropped) ∧
    (r.remaining ≠ 0 → dropped = [])
  remaining : r.remaining + newlines given = n
  ending : r.remaining = 0 → given = [] ∨ ∃ line, given = line ++ [newline]

theorem start_progress (data : Bytes) (limits : List Nat) (n : Nat) :
    Progress data n [] (of ⟨data, limits⟩ n) where
  split := ⟨[], rfl, rfl, fun _ => rfl⟩
  remaining := rfl
  ending := fun _ => Or.inl rfl

theorem read_of_none {r : LineLimit} (none : r.remaining = 0) (capacity : Nat) :
    r.read capacity = ([], r) := by
  rw [read, if_pos none]

theorem read_of_some {r : LineLimit} (some : r.remaining ≠ 0) (capacity : Nat) :
    ∃ front behind left, (r.source.read capacity).1 = front ++ behind ∧
      r.read capacity =
        (front, ⟨(r.source.read capacity).2, left, r.total + newlines (r.source.read capacity).1⟩) ∧
      left + newlines front = r.remaining ∧ (left = 0 → ∃ line, front = line ++ [newline]) ∧
      (left ≠ 0 → behind = []) := by
  obtain ⟨front, behind, left, split, passed, counted, ending, whole⟩ :=
    passLines_split 0 (r.source.read capacity).1 (Nat.pos_of_ne_zero some)
  refine ⟨front, behind, left, split, ?_, counted, ending, whole⟩
  rw [read, if_neg some]
  simp only [passed, Nat.zero_add]
  rw [split, List.take_left]

variable {data given : Bytes} {n : Nat} {r : LineLimit}

theorem Progress.read (p : Progress data n given r) (capacity : Nat) :
    Progress data n (given ++ (r.read capacity).1) (r.read capacity).2 := by
  by_cases none : r.remaining = 0
  · rw [read_of_none none, List.append_nil]
    exact p
  · obtain ⟨front, behind, left, chunk, read, counted, ending, whole⟩ := read_of_some none capacity
    obtain ⟨dropped, split, total, before⟩ := p.split
    have nothing := before none
    subst nothing
    rw [read]
    refine ⟨⟨behind, ?_, ?_, whole⟩, ?_, ?_⟩
    · rw [split, ← r.source.read_data capacity, chunk]
      simp only [List.append_assoc, List.append_nil]
    · simp only [total, chunk, newlines_append, List.append_nil]
      omega
    · have remaining := p.remaining
      simp only [newlines_append]
      omega
    · intro last
      obtain ⟨line, rfl⟩ := ending last
      exact Or.inr ⟨given ++ line, (List.append_assoc _ _ _).symm⟩

/-- No read gives anything any more: all lines were read, or the source has nothing. -/
def Exhausted (r : LineLimit) : Prop := r.remaining = 0 ∨ r.source.data = []

theorem Exhausted.read (done : r.Exhausted) (capacity : Nat) :
    (r.read capacity).1 = [] ∧ (r.read capacity).2.source.data = r.source.data ∧
    (r.read capacity).2.Exhausted := by
  by_cases none : r.remaining = 0
  · rw [read_of_none none]
    exact ⟨rfl, rfl, done⟩
  · have empty := done.resolve_left none
    obtain ⟨front, behind, left, chunk, read, _⟩ := read_of_some none capacity
    have whole := r.source.read_data capacity
    rw [empty, chunk] at whole
    obtain ⟨nothing, rest⟩ := List.append_eq_nil_iff.mp whole
    rw [read]
    exact ⟨(List.append_eq_nil_iff.mp nothing).1, rest.trans empty.symm, Or.inr rest⟩

theorem exhausted_of_nil (gives : r.source.Gives) {capacity : Nat} (room : 0 < capacity)
    (nothing : (r.read capacity).1 = []) : r.Exhausted := by
  by_cases none : r.remaining = 0
  · exact Or.inl none
  · obtain ⟨front, behind, left, chunk, read, counted, _, whole⟩ := read_of_some none capacity
    have empty : front = [] := by simpa only [read] using nothing
    subst empty
    have more : left ≠ 0 := by
      rw [newlines_nil] at counted
      omega
    rw [whole more] at chunk
    exact Or.inr (r.source.eq_nil_of_read gives room chunk)

theorem gives_read (gives : r.source.Gives) (capacity : Nat) :
    (r.read capacity).2.source.Gives := by
  by_cases none : r.remaining = 0
  · rw [read_of_none none]
    exact gives
  · obtain ⟨_, _, _, _, read, _⟩ := read_of_some none capacity
    rw [read]
    exact gives.read capacity

theorem Progress.firstLines (p : Progress data n given r) (done : r.Exhausted) :
    FirstLines n data given := by
  obtain ⟨dropped, split, _, before⟩ := p.split
  have remaining := p.remaining
  have counted : newlines data = newlines given + newlines dropped + newlines r.source.data := by
    rw [split, newlines_append, newlines_append]
  refine ⟨⟨dropped ++ r.source.data, by rw [split, List.append_assoc]⟩, ?_, ?_⟩
  · intro few
    have some : r.remaining ≠ 0 := by omega
    rw [split, before some, done.resolve_left some, List.append_nil, List.append_nil]
  · intro enough
    have none : r.remaining = 0 := by
      by_contra some
      rw [before some, done.resolve_left some, newlines_nil] at counted
      omega
    exact ⟨by omega, p.ending none⟩

theorem Progress.counted (p : Progress data n given r) (gives : r.source.Gives) :
    r.total + countLines r.source = 1 + newlines data := by
  obtain ⟨dropped, split, total, _⟩ := p.split
  rw [countLines_eq gives, total, split, newlines_append _ r.source.data]
  omega

/-! Reads of any sizes, one after the other. -/

section Reads

variable (sizes : Nat → Nat) (r : LineLimit)

def before : Nat → LineLimit
  | 0 => r
  | k + 1 => ((before k).read (sizes k)).2

def piece (k : Nat) : Bytes := ((before sizes r k).read (sizes k)).1

def givenBefore (k : Nat) : Bytes := (List.range k).flatMap (piece sizes r)

/-- A reader of the first `n` lines of `data` under reads of some sizes. The number of lines that
remain and those that were given always make up `n`, so the reader never subtracts from 0. -/
structure GivesFirstLines (data : Bytes) (n : Nat) : Prop where
  ends : ∃ k, piece sizes r k = [] ∧ (∀ j < k, piece sizes r j ≠ []) ∧
    FirstLines n data (givenBefore sizes r k) ∧
    ∀ j ≥ k, piece sizes r j = [] ∧ (before sizes r j).source.data = (before sizes r k).source.data
  taken : ∀ k, ∃ taken, data = taken ++ (before sizes r k).source.data ∧
    (before sizes r k).total = newlines taken
  counted : ∀ k, (before sizes r k).total + countLines (before sizes r k).source = 1 + newlines data
  remaining : ∀ k, (before sizes r k).remaining + newlines (givenBefore sizes r k) = n

variable {sizes r}

theorem givenBefore_succ (k : Nat) :
    givenBefore sizes r (k + 1) = givenBefore sizes r k ++ piece sizes r k := by
  simp [givenBefore, List.range_succ]

theorem Progress.before (p : Progress data n [] r) (k : Nat) :
    Progress data n (givenBefore sizes r k) (before sizes r k) := by
  induction k with
  | zero => exact p
  | succ k ih =>
    rw [givenBefore_succ]
    exact ih.read (sizes k)

theorem gives_before (gives : r.source.Gives) (k : Nat) : (before sizes r k).source.Gives := by
  induction k with
  | zero => exact gives
  | succ k ih => exact gives_read ih (sizes k)

theorem length_before {k : Nat} (some : ∀ j < k, piece sizes r j ≠ []) :
    k + (before sizes r k).source.data.length ≤ r.source.data.length := by
  induction k with
  | zero => simp [before]
  | succ k ih =>
    have earlier := ih fun j less => some j (Nat.lt_succ_of_lt less)
    obtain ⟨b, rest, front⟩ := List.exists_cons_of_ne_nil (some k k.lt_succ_self)
    have shorter : (before sizes r (k + 1)).source.data.length <
        (before sizes r k).source.data.length :=
      length_read (Prod.ext front rfl)
    omega

theorem exists_nil (sizes : Nat → Nat) (r : LineLimit) : ∃ k, piece sizes r k = [] := by
  by_contra never
  have some : ∀ j < r.source.data.length + 1, piece sizes r j ≠ [] :=
    fun j _ nothing => never ⟨j, nothing⟩
  have bound := length_before some
  omega

theorem Exhausted.before {k j : Nat} (done : (before sizes r k).Exhausted) (later : k ≤ j) :
    (LineLimit.before sizes r j).Exhausted ∧
      (LineLimit.before sizes r j).source.data = (LineLimit.before sizes r k).source.data := by
  induction j, later using Nat.le_induction with
  | base => exact ⟨done, rfl⟩
  | succ j _ ih =>
    obtain ⟨_, same, exhausted⟩ := ih.1.read (sizes j)
    exact ⟨exhausted, same.trans ih.2⟩

theorem Progress.givesFirstLines (p : Progress data n [] r) (gives : r.source.Gives)
    (room : ∀ k, 0 < sizes k) :
    GivesFirstLines sizes r data n := by
  refine ⟨?_, ?_, fun k => (p.before k).counted (gives_before gives k), fun k =>
    (p.before k).remaining⟩
  · have nothing := Nat.find_spec (exists_nil sizes r)
    have done := exhausted_of_nil (gives_before gives _) (room _) nothing
    refine ⟨_, nothing, fun j less => Nat.find_min (exists_nil sizes r) less,
      (p.before _).firstLines done, ?_⟩
    intro j later
    obtain ⟨exhausted, same⟩ := done.before later
    exact ⟨(exhausted.read (sizes j)).1, same⟩
  · intro k
    obtain ⟨dropped, split, total, _⟩ := (p.before k).split
    exact ⟨_, split, total⟩

end Reads

theorem readToEnd_progress (acc : List Bytes) (p : Progress data n acc.reverse.flatten r)
    (gives : r.source.Gives) :
    FirstLines n data (Survey.readToEnd acc r).1 ∧
      (Survey.readToEnd acc r).2.total + countLines
      (Survey.readToEnd acc r).2.source = 1 + newlines data := by
  fun_induction Survey.readToEnd acc r with
  | case1 acc r rest nothing =>
    have next := p.read Survey.readSize
    have gives' := gives_read gives Survey.readSize
    have done := exhausted_of_nil gives (by decide) (congrArg Prod.fst nothing)
    rw [nothing] at next gives'
    exact ⟨p.firstLines done, next.counted gives'⟩
  | case2 acc r b piece rest some ih =>
    have next := p.read Survey.readSize
    have gives' := gives_read gives Survey.readSize
    rw [some] at next gives'
    exact ih (by simpa using next) gives'

/-- A reader of the first lines gives them under reads of any sizes, and all lines of the source are
counted; the record of metrics has the first lines of the alerts behind a line that tells the
count. -/
theorem first_lines_and_count (data : Bytes) {limits : List Nat} (sizes : Nat → Nat) (n : Nat)
    (gives : ∀ limit ∈ limits, 0 < limit) (room : ∀ k, 0 < sizes k) :
    GivesFirstLines sizes (of ⟨data, limits⟩ n) data n ∧
      ∀ series, ∃ kept, FirstLines Survey.alertLines data kept ∧
        Survey.metricsText series data =
          series ++ Bytes.ofString s!"# ALERTS {1 + newlines data}/{Survey.alertLines}\n"
            ++ kept := by
  refine ⟨(start_progress data limits n).givesFirstLines gives room, fun series => ?_⟩
  have all : (of ⟨data, []⟩ Survey.alertLines).source.Gives :=
    fun limit member => absurd member List.not_mem_nil
  obtain ⟨kept, counted⟩ := readToEnd_progress [] (start_progress data [] Survey.alertLines) all
  refine ⟨_, kept, ?_⟩
  rw [← counted]
  rfl

def threeLines : Bytes := [97, 10, 98, 10, 99]

theorem threeLines_firstTwo :
    (∀ limit ∈ [2, 1], 0 < limit) ∧ (∀ k, 0 < k + 1) ∧
      GivesFirstLines (· + 1) (of ⟨threeLines, [2, 1]⟩ 2) threeLines 2 ∧
      ∃ kept, FirstLines Survey.alertLines threeLines kept ∧
        Survey.metricsText [] threeLines = Bytes.ofString "# ALERTS 3/1000\n" ++ kept := by
  have gives : ∀ limit ∈ [2, 1], 0 < limit := by decide
  obtain ⟨lines, record⟩ := first_lines_and_count threeLines (· + 1) 2 gives Nat.succ_pos
  obtain ⟨kept, front, text⟩ := record []
  have told : Bytes.ofString s!"# ALERTS {1 + newlines threeLines}/{Survey.alertLines}\n" =
      Bytes.ofString "# ALERTS 3/1000\n" := by decide +kernel
  refine ⟨gives, Nat.succ_pos, lines, kept, front, ?_⟩
  rw [text, told, List.nil_append]

end LineLimit

end ClusterSurvey.Log
