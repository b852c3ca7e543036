import ClusterSurvey.Proofs.Recording.Flush
import ClusterSurvey.Proofs.Recording.Session
import ClusterSurvey.Proofs.Recording.Writing
import Mathlib.Data.List.Forall2

/-!
What a reader of the directory sees while flushes write. Each flush that created its file owns the
name of it until the file is removed, and no two own one name; all other files were there before. So
the newest archive that a reader is given is complete, if its owner closed it, and unfinished as
long as its owner is at work or if it could not be removed.
-/
namespace ClusterSurvey.Recording
open Keyed

def nodeAt (storage : Option Directory) (name : String) : Option FileNode :=
  storage.bind fun d => d.get? name

namespace Writing

def isOpen : Writing → Bool
  | under .. | failed _ | abandoned _ => true
  | _ => false

/-- Whether there is a file. -/
def owns : Writing → Bool
  | ended (.ok true) => true
  | s => s.isOpen

/-- What the file has in it. -/
def Leaves (snapshot : List Kept) : Writing → Content → Prop
  | under _ rest, content =>
      ∃ done written, content = .unfinished done ∧ snapshot = written ++ rest ∧
      List.Forall₂ StandsFor done.reverse written
  | failed _, content | abandoned _, content => ∃ done, content = .unfinished done
  | ended (.ok true), content =>
      ∃ entries, content = .archive entries ∧ List.Forall₂ StandsFor entries snapshot
  | _, _ => False

end Writing

structure Writer where
  draft : Draft
  stage : Writing
  cleared : Bool

/-- A recorder, and the flushes in the order in which they took their snapshots. -/
structure Publication where
  recorder : Recorder
  writers : List Writer

inductive Move where
  | record (now : Instant) (r : Record)
  | begin (w : Circumstances) (now : Instant)
  | work (i : Nat)
  | clear (i : Nat)

namespace Publication

def start (bounds : Bounds) (interval : Nat) (storage : Option Directory) : Publication :=
  ⟨⟨bounds, interval, .empty, storage, false, false⟩, []⟩

def begin (w : Circumstances) (now : Instant) (v : Publication) : Publication :=
  let snapshot := v.recorder.buffer.pending
  match Recorder.newest? snapshot with
  | none => v
  | some newest =>
      { v with writers := v.writers ++ [⟨⟨archiveName newest, snapshot, w, now⟩, .ready, false⟩] }

def work (i : Nat) (v : Publication) : Publication :=
  match v.writers[i]? with
  | none => v
  | some f =>
    let (stage, storage) := f.draft.step (f.stage, v.recorder.storage)
    ⟨{ v.recorder with storage }, v.writers.set i { f with stage }⟩

def clear (i : Nat) (v : Publication) : Publication :=
  match v.writers[i]? with
  | some ⟨draft, .ended (.ok true), false⟩ =>
    ⟨v.recorder.clear draft.snapshot, v.writers.set i ⟨draft, .ended (.ok true), true⟩⟩
  | _ => v

def step (v : Publication) : Move → Publication
  | .record now r => { v with recorder := (v.recorder.record now r).2 }
  | .begin w now => v.begin w now
  | .work i => v.work i
  | .clear i => v.clear i

def run (v : Publication) (moves : List Move) : Publication := moves.foldl step v

theorem run_append (v : Publication) (moves more : List Move) :
    v.run (moves ++ more) = (v.run moves).run more :=
  List.foldl_append

theorem run_work {v : Publication} {i : Nat} {f : Writer}
    (found : v.writers[i]? = some f) (n : Nat) :
    let reached := f.draft.step^[n] (f.stage, v.recorder.storage)
    (v.run (List.replicate n (.work i))).recorder = { v.recorder with storage := reached.2 } ∧
      (v.run (List.replicate n (.work i))).writers[i]? = some { f with stage := reached.1 } := by
  induction n generalizing v f with
  | zero => exact ⟨rfl, found⟩
  | succ n ih =>
    have worked : v.work i =
        ⟨{ v.recorder with storage := (f.draft.step (f.stage, v.recorder.storage)).2 },
        v.writers.set i { f with stage := (f.draft.step (f.stage, v.recorder.storage)).1 }⟩ := by
      simp only [work, found]
    have there : (v.work i).writers[i]? =
        some { f with stage := (f.draft.step (f.stage, v.recorder.storage)).1 } := by
      rw [worked]
      exact List.getElem?_set_self (List.getElem?_eq_some_iff.mp found).1
    have later := ih there
    rw [worked] at later
    rw [List.replicate_succ, Function.iterate_succ_apply]
    change ((v.work i).run _).recorder = _ ∧ ((v.work i).run _).writers[i]? = _
    rw [worked]
    exact later

theorem run_flush (v : Publication) (w : Circumstances) (now : Instant) :
    ∃ moves, (v.run moves).recorder = (v.recorder.flush w now).2 := by
  cases newest : Recorder.newest? v.recorder.buffer.pending with
  | none =>
    refine ⟨[], ?_⟩
    simp only [Recorder.flush, Recorder.write, newest]
    rfl
  | some t =>
    have begun : v.begin w now = { v with
        writers :=
          v.writers ++ [⟨⟨archiveName t, v.recorder.buffer.pending, w, now⟩, .ready, false⟩] } := by
      simp only [begin, newest]
    have found : (v.begin w now).writers[v.writers.length]? =
        some ⟨⟨archiveName t, v.recorder.buffer.pending, w, now⟩, .ready, false⟩ := by
      rw [begun]
      exact List.getElem?_concat_length
    obtain ⟨n, s, reached, ends⟩ :=
      Draft.steps_writeArchive ⟨archiveName t, v.recorder.buffer.pending, w, now⟩ v.recorder.storage
    obtain ⟨recorder, there⟩ := run_work found n
    have same : (v.begin w now).recorder = v.recorder := by rw [begun]
    rw [same, reached] at recorder there
    dsimp only at recorder there ends
    cases outcome : writeArchive w now (archiveName t) v.recorder.buffer.pending v.recorder.storage
      with
    | mk result storage =>
      rw [outcome] at recorder ends
      by_cases written : result = .ok true
      · subst written
        have ended : s = .ended (.ok true) := by
          cases s <;> simp_all [Writing.result?]
        refine ⟨.begin w now :: List.replicate n (.work v.writers.length)
          ++ [.clear v.writers.length], ?_⟩
        rw [run_append]
        change (clear _ ((v.begin w now).run _)).recorder = _
        rw [clear, there, ended]
        simp only [Recorder.flush, Recorder.write, newest, outcome]
        exact congrArg (Recorder.clear _) recorder
      · refine ⟨.begin w now :: List.replicate n (.work v.writers.length), ?_⟩
        rw [Recorder.flush_unwritten newest outcome written]
        exact recorder

/-- Whatever stands in the directory was there before or is what its one owner left. -/
structure Tidy (before : Option Directory) (v : Publication) : Prop where
  ascending : ∀ d, v.recorder.storage = some d → Ascending d.nodes
  waiting : ∀ f ∈ v.writers, ∀ k ∈ f.draft.snapshot, k.isPending = true
  owned : ∀ {i : Nat} {f : Writer}, v.writers[i]? = some f → f.stage.owns = true →
    ∃ content, nodeAt v.recorder.storage f.draft.name = some (.file content f.draft.now) ∧
      f.stage.Leaves f.draft.snapshot content
  apart : ∀ {i j : Nat} {f g : Writer}, v.writers[i]? = some f → v.writers[j]? = some g →
    f.stage.owns = true →
    g.stage.owns = true → f.draft.name = g.draft.name → i = j
  origin : ∀ {name : String} {node : FileNode}, nodeAt v.recorder.storage name = some node →
    nodeAt before name = some node ∨
      ∃ (i : Nat) (f : Writer), v.writers[i]? = some f ∧ f.stage.owns = true ∧ f.draft.name = name

theorem start_tidy (bounds : Bounds) (interval : Nat) {storage : Option Directory}
    (ordered : ∀ d, storage = some d → Ascending d.nodes) :
    (start bounds interval storage).Tidy storage where
  ascending := ordered
  waiting := by simp [start]
  owned := by simp [start]
  apart := by simp [start]
  origin here := Or.inl here

/-- One flush moves on and touches no file but its own. It becomes an owner only where nothing
stood, and gives its name up only with the file. -/
structure Advances (v : Publication) (i : Nat) (f f' : Writer) (storage : Option Directory) :
    Prop where
  ordered : ∀ d, storage = some d → Ascending d.nodes
  found : v.writers[i]? = some f
  draft : f'.draft = f.draft
  others : ∀ name, name ≠ f.draft.name → nodeAt storage name = nodeAt v.recorder.storage name
  kept : f'.stage.owns = true →
    (f.stage.owns = true ∨ nodeAt v.recorder.storage f.draft.name = none) ∧
    ∃ content, nodeAt storage f.draft.name = some (.file content f.draft.now) ∧
      f'.stage.Leaves f.draft.snapshot content
  dropped : f'.stage.owns = false → (f.stage.owns = true ∧ nodeAt storage f.draft.name = none) ∨
    f.stage.owns = false ∧ nodeAt storage f.draft.name = nodeAt v.recorder.storage f.draft.name

section Advance

variable {before storage : Option Directory} {v : Publication} {i : Nat} {f f' : Writer}

theorem Advances.here (advances : v.Advances i f f' storage) : (v.writers.set i f')[i]? = some f' :=
  List.getElem?_set_self (List.getElem?_eq_some_iff.mp advances.found).1

theorem Advances.unlike (advances : v.Advances i f f' storage) (tidy : v.Tidy before)
    {j : Nat} {g : Writer} (other : j ≠ i) (there : v.writers[j]? = some g)
    (owns : g.stage.owns = true) (after : f'.stage.owns = true) :
    g.draft.name ≠ f.draft.name := by
  intro same
  rcases (advances.kept after).1 with owned | free
  · exact other (tidy.apart there advances.found owns owned same)
  · obtain ⟨content, stands, _⟩ := tidy.owned there owns
    rw [same, free] at stands
    cases stands

theorem Advances.owned (advances : v.Advances i f f' storage) (tidy : v.Tidy before)
    {j : Nat} {g : Writer} (there : (v.writers.set i f')[j]? = some g)
    (owns : g.stage.owns = true) :
    ∃ content, nodeAt storage g.draft.name = some (.file content g.draft.now) ∧
      g.stage.Leaves g.draft.snapshot content := by
  by_cases same : j = i
  · subst same
    rw [advances.here] at there
    cases there
    rw [advances.draft]
    exact (advances.kept owns).2
  · rw [List.getElem?_set_ne (Ne.symm same)] at there
    obtain ⟨content, stands, leaves⟩ := tidy.owned there owns
    refine ⟨content, ?_, leaves⟩
    by_cases named : g.draft.name = f.draft.name
    · cases after : f'.stage.owns with
      | true => exact absurd named (advances.unlike tidy same there owns after)
      | false =>
        rcases advances.dropped after with ⟨owned, _⟩ | ⟨_, unchanged⟩
        · exact absurd (tidy.apart there advances.found owns owned named) same
        · rw [named] at stands ⊢
          exact unchanged.trans stands
    · exact (advances.others _ named).trans stands

theorem Advances.apart (advances : v.Advances i f f' storage) (tidy : v.Tidy before)
    {j k : Nat} {g h : Writer} (first : (v.writers.set i f')[j]? = some g)
    (second : (v.writers.set i f')[k]? = some h) (ownsFirst : g.stage.owns = true)
    (ownsSecond : h.stage.owns = true) (named : g.draft.name = h.draft.name) :
    j = k := by
  by_cases isFirst : j = i
  · by_cases isSecond : k = i
    · exact isFirst.trans isSecond.symm
    · subst isFirst
      rw [advances.here] at first
      cases first
      rw [List.getElem?_set_ne (Ne.symm isSecond)] at second
      rw [advances.draft] at named
      exact absurd named.symm (advances.unlike tidy isSecond second ownsSecond ownsFirst)
  · rw [List.getElem?_set_ne (Ne.symm isFirst)] at first
    by_cases isSecond : k = i
    · subst isSecond
      rw [advances.here] at second
      cases second
      rw [advances.draft] at named
      exact absurd named (advances.unlike tidy isFirst first ownsFirst ownsSecond)
    · rw [List.getElem?_set_ne (Ne.symm isSecond)] at second
      exact tidy.apart first second ownsFirst ownsSecond named

theorem Advances.owner (advances : v.Advances i f f' storage) {name : String}
    (owner : ∃ (j : Nat) (g : Writer), v.writers[j]? = some g ∧ g.stage.owns = true ∧
      g.draft.name = name)
    (other : name ≠ f.draft.name ∨ f.stage.owns = false) :
    ∃ (j : Nat) (g : Writer), (v.writers.set i f')[j]? = some g ∧ g.stage.owns = true ∧
      g.draft.name = name := by
  obtain ⟨j, g, there, owns, rfl⟩ := owner
  refine ⟨j, g, ?_, owns, rfl⟩
  rw [List.getElem?_set_ne]
  · exact there
  · rintro rfl
    cases advances.found.symm.trans there
    rcases other with differs | idle
    · exact differs rfl
    · rw [idle] at owns
      cases owns

theorem Advances.origin (advances : v.Advances i f f' storage)
    (tidy : v.Tidy before) {name : String} {node : FileNode}
    (stands : nodeAt storage name = some node) : nodeAt before name = some node ∨
      ∃ (j : Nat) (g : Writer), (v.writers.set i f')[j]? = some g ∧ g.stage.owns = true ∧
        g.draft.name = name := by
  by_cases named : name = f.draft.name
  · subst named
    cases after : f'.stage.owns with
    | true => exact Or.inr ⟨i, f', advances.here, after, by rw [advances.draft]⟩
    | false =>
      rcases advances.dropped after with ⟨_, gone⟩ | ⟨idle, unchanged⟩
      · cases gone.symm.trans stands
      · exact (tidy.origin (unchanged.symm.trans stands)).imp_right fun owner =>
          advances.owner owner (Or.inr idle)
  · exact (tidy.origin ((advances.others name named).symm.trans stands)).imp_right
      fun owner => advances.owner owner (Or.inl named)

theorem Advances.tidy {recorder : Recorder} (advances : v.Advances i f f' recorder.storage)
    (tidy : v.Tidy before) :
    Tidy before ⟨recorder, v.writers.set i f'⟩ := by
  refine ⟨advances.ordered, ?_, advances.owned tidy, advances.apart tidy, advances.origin tidy⟩
  intro g member
  rcases List.mem_or_eq_of_mem_set member with old | new
  · exact tidy.waiting g old
  · rw [new, advances.draft]
    exact tidy.waiting f (List.mem_of_getElem? advances.found)

theorem Tidy.without (tidy : v.Tidy before) (found : v.writers[i]? = some f)
    (idle : f.stage.owns = false) {s : Writing} (after : s.owns = false) :
    v.Advances i f { f with stage := s } v.recorder.storage where
  ordered := tidy.ascending
  found := found
  draft := rfl
  others _ _ := rfl
  kept owns := by
    rw [after] at owns
    cases owns
  dropped _ := Or.inr ⟨idle, rfl⟩

theorem Tidy.keeping (tidy : v.Tidy before) (found : v.writers[i]? = some f)
    (owns : f.stage.owns = true) {s : Writing} (after : s.owns = true)
    (leaves : ∀ content, f.stage.Leaves f.draft.snapshot content →
      s.Leaves f.draft.snapshot content) :
    v.Advances i f { f with stage := s } v.recorder.storage where
  ordered := tidy.ascending
  found := found
  draft := rfl
  others _ _ := rfl
  kept _ := by
    obtain ⟨content, stands, left⟩ := tidy.owned found owns
    exact ⟨Or.inl owns, content, stands, leaves content left⟩
  dropped none := by
    rw [after] at none
    cases none

theorem Tidy.writing (tidy : v.Tidy before) (found : v.writers[i]? = some f)
    {d : Directory} (there : v.recorder.storage = some d)
    (free : f.stage.owns = true ∨ d.get? f.draft.name = none) {s : Writing} (after : s.owns = true)
    {content : Content} (leaves : s.Leaves f.draft.snapshot content) :
    v.Advances i f { f with stage := s }
      (some (d.set f.draft.name (.file content f.draft.now))) where
  ordered d' same := by
    cases same
    exact ascending_insert (tidy.ascending d there) _ _
  found := found
  draft := rfl
  others name other := by
    rw [there]
    exact Directory.get?_set_of_ne other d _
  kept _ := by
    rw [there]
    exact ⟨free, content, Directory.get?_set_self d _ _, leaves⟩
  dropped none := by
    rw [after] at none
    cases none

theorem Tidy.removing (tidy : v.Tidy before) (found : v.writers[i]? = some f)
    {d : Directory} (there : v.recorder.storage = some d) (owns : f.stage.owns = true)
    {s : Writing} (after : s.owns = false) :
    v.Advances i f { f with stage := s } (some (d.remove f.draft.name)) where
  ordered d' same := by
    cases same
    exact List.Pairwise.filter _ (tidy.ascending d there)
  found := found
  draft := rfl
  others name other := by
    rw [there]
    exact (Directory.get?_remove d f.draft.name name).trans (if_neg other)
  kept owns := by
    rw [after] at owns
    cases owns
  dropped _ := Or.inl ⟨owns, (Directory.get?_remove d f.draft.name f.draft.name).trans (if_pos rfl)⟩

theorem Tidy.unfinished (tidy : v.Tidy before) (found : v.writers[i]? = some f) {d : Directory}
    (there : v.recorder.storage = some d) {n : Nat} {rest : List Kept}
    (under : f.stage = .under n rest) :
    ∃ done written, d.get? f.draft.name = some (.file (.unfinished done) f.draft.now) ∧
      f.draft.snapshot = written ++ rest ∧ List.Forall₂ StandsFor done.reverse written := by
  obtain ⟨content, stands, leaves⟩ := tidy.owned found (by rw [under]; rfl)
  rw [under] at leaves
  obtain ⟨done, written, rfl, split, pairs⟩ := leaves
  rw [there] at stands
  exact ⟨done, written, stands, split, pairs⟩

theorem under_advances (tidy : v.Tidy before) (found : v.writers[i]? = some f) {d : Directory}
    (there : v.recorder.storage = some d) {n : Nat} {rest : List Kept}
    (under : f.stage = .under n rest) :
    v.Advances i f { f with stage := (f.draft.stepIn d (.under n rest)).1 }
      (some (f.draft.stepIn d (.under n rest)).2) := by
  have owns : f.stage.owns = true := by
    rw [under]
    rfl
  obtain ⟨done, written, stands, split, pairs⟩ := tidy.unfinished found there under
  have failing : ∀ e, v.Advances i f { f with stage := .failed e } (some d) := by
    intro e
    rw [← there]
    refine tidy.keeping found owns rfl ?_
    intro content left
    rw [under] at left
    obtain ⟨done, _, same, _⟩ := left
    exact ⟨done, same⟩
  cases rest with
  | nil =>
    simp only [Draft.stepIn]
    split
    · exact failing _
    · have closed : d.finish f.draft.name =
          d.set f.draft.name (.file (.archive done.reverse) f.draft.now) := by
        simp only [Directory.finish, stands]
      rw [closed]
      refine tidy.writing found there (Or.inl owns) rfl ?_
      rw [split, List.append_nil]
      exact ⟨done.reverse, rfl, pairs⟩
  | cons k rest =>
    simp only [Draft.stepIn]
    split
    · exact failing _
    · have inside : k ∈ f.draft.snapshot := by simp [split]
      obtain ⟨data, present⟩ :=
        Option.isSome_iff_exists.mp (tidy.waiting f (List.mem_of_getElem? found) k inside)
      rw [present]
      dsimp only
      split
      · exact failing _
      · rename_i entry made
        have added : d.addEntry f.draft.name entry =
            d.set f.draft.name (.file (.unfinished (entry :: done)) f.draft.now) := by
          simp only [Directory.addEntry, stands]
        have entered : entryOf k data = .ok entry := by
          unfold nextEntry at made
          split at made
          · cases made
          · exact made
        rw [added]
        refine tidy.writing found there (Or.inl owns) rfl ?_
        refine ⟨entry :: done, written ++ [k], rfl, ?_, ?_⟩
        · rw [split, List.append_assoc]
          rfl
        · rw [List.reverse_cons]
          exact List.rel_append pairs
            (List.Forall₂.cons (entryOf_ok entered present) List.Forall₂.nil)

theorem step_advances (tidy : v.Tidy before) (found : v.writers[i]? = some f) :
    v.Advances i f { f with stage := (f.draft.step (f.stage, v.recorder.storage)).1 }
      (f.draft.step (f.stage, v.recorder.storage)).2 := by
  cases there : v.recorder.storage with
  | none =>
    have idle : f.stage.owns = false := by
      by_contra owns
      obtain ⟨content, stands, _⟩ := tidy.owned found (Bool.not_eq_false _ ▸ owns)
      rw [there] at stands
      cases stands
    have result : (f.draft.step (f.stage, none)).2 = none ∧
        (f.draft.step (f.stage, none)).1.owns = false := by
      revert idle
      cases f.stage <;> exact fun idle => ⟨rfl, idle⟩
    rw [result.1, ← there]
    exact tidy.without found idle (there ▸ result.2)
  | some d =>
    change v.Advances i f { f with stage := (f.draft.stepIn d f.stage).1 }
      (some (f.draft.stepIn d f.stage).2)
    cases stage : f.stage with
    | ready =>
      have idle : f.stage.owns = false := by rw [stage]; rfl
      simp only [Draft.stepIn]
      split
      · rw [← there]
        exact tidy.without found idle rfl
      · rename_i free
        split
        · rw [← there]
          exact tidy.without found idle rfl
        · refine tidy.writing found there (Or.inr (Option.not_isSome_iff_eq_none.mp free)) rfl ?_
          exact ⟨[], [], rfl, rfl, List.Forall₂.nil⟩
    | under n rest => exact under_advances tidy found there stage
    | failed e =>
      have owns : f.stage.owns = true := by rw [stage]; rfl
      simp only [Draft.stepIn]
      split
      · exact tidy.removing found there owns rfl
      · rw [← there]
        refine tidy.keeping found owns rfl ?_
        intro content left
        rw [stage] at left
        exact left
    | abandoned e =>
      simp only [Draft.stepIn]
      rw [← there]
      refine tidy.keeping found (by rw [stage]; rfl) rfl ?_
      intro content left
      rw [stage] at left
      exact left
    | ended result =>
      simp only [Draft.stepIn]
      rw [← there]
      cases owns : f.stage.owns with
      | true =>
        refine tidy.keeping found owns (by rw [stage] at owns; exact owns) ?_
        intro content left
        rw [stage] at left
        exact left
      | false => exact tidy.without found owns (by rw [stage] at owns; exact owns)

end Advance

theorem work_tidy {before : Option Directory} {v : Publication} (tidy : v.Tidy before) (i : Nat) :
    (v.work i).Tidy before := by
  unfold work
  split
  · exact tidy
  · rename_i f found
    have advances := step_advances tidy found
    exact advances.tidy tidy

theorem begin_tidy {before : Option Directory} {v : Publication} (tidy : v.Tidy before)
    (w : Circumstances) (now : Instant) : (v.begin w now).Tidy before := by
  unfold begin
  dsimp only
  split
  · exact tidy
  · rename_i newest _
    have old : ∀ {j : Nat} {g : Writer},
        (v.writers ++
            [⟨⟨archiveName newest, v.recorder.buffer.pending, w, now⟩, .ready, false⟩])[j]? =
              some g →
        g.stage.owns = true → v.writers[j]? = some g := by
      intro j g there owns
      rcases Nat.lt_or_ge j v.writers.length with less | more
      · rwa [List.getElem?_append_left less] at there
      · rw [List.getElem?_append_right more] at there
        rw [List.mem_singleton.mp (List.mem_of_getElem? there)] at owns
        cases owns
    refine ⟨tidy.ascending, ?_, fun there owns => tidy.owned (old there owns) owns, ?_, ?_⟩
    · intro f member k inside
      rcases List.mem_append.mp member with earlier | fresh
      · exact tidy.waiting f earlier k inside
      · rw [List.mem_singleton.mp fresh] at inside
        exact (List.mem_filter.mp inside).2
    · intro j k g h first second ownsFirst ownsSecond named
      exact tidy.apart (old first ownsFirst) (old second ownsSecond) ownsFirst ownsSecond named
    · intro name node stands
      rcases tidy.origin stands with before | ⟨j, g, there, owns, named⟩
      · exact Or.inl before
      · refine Or.inr ⟨j, g, ?_, owns, named⟩
        dsimp only
        rw [List.getElem?_append_left (List.getElem?_eq_some_iff.mp there).1]
        exact there

theorem clear_tidy {before : Option Directory} {v : Publication} (tidy : v.Tidy before) (i : Nat) :
    (v.clear i).Tidy before := by
  unfold clear
  split
  · rename_i draft found
    have advances : v.Advances i ⟨draft, .ended (.ok true), false⟩ ⟨draft, .ended (.ok true), true⟩
        (v.recorder.clear draft.snapshot).storage := by
      refine ⟨tidy.ascending, found, rfl, fun _ _ => rfl, fun _ =>
        ⟨Or.inl rfl, tidy.owned found rfl⟩, nofun⟩
    exact advances.tidy tidy
  · exact tidy

theorem step_tidy {before : Option Directory} {v : Publication} (tidy : v.Tidy before) (m : Move) :
    (v.step m).Tidy before := by
  cases m with
  | record now r => exact ⟨tidy.ascending, tidy.waiting, tidy.owned, tidy.apart, tidy.origin⟩
  | begin w now => exact begin_tidy tidy w now
  | work i => exact work_tidy tidy i
  | clear i => exact clear_tidy tidy i

theorem run_tidy {before : Option Directory} {v : Publication} (tidy : v.Tidy before)
    (moves : List Move) :
    (v.run moves).Tidy before := by
  induction moves generalizing v with
  | nil => exact tidy
  | cons m rest ih => exact ih (step_tidy tidy m)

theorem newestArchive_stands {since : Instant} {storage : Option Directory}
    (ordered : ∀ d, storage = some d → Ascending d.nodes) {name : String} {content : Content}
    (found : newestArchive since storage = .ok (some (name, content))) :
    ∃ modified, nodeAt storage name = some (.file content modified) := by
  cases storage with
  | none => cases found
  | some d =>
    simp only [newestArchive, Except.ok.injEq, Option.map_eq_some_iff] at found
    obtain ⟨⟨name', content', modified⟩, last, same⟩ := found
    cases same
    have member := (List.mem_filter.mp (List.mem_of_getLast? last)).1
    obtain ⟨⟨other, node⟩, inside, made⟩ := List.mem_filterMap.mp member
    cases node with
    | file content'' modified' =>
      dsimp only at made
      split at made
      · cases made
        exact ⟨modified, lookup_of_mem (ordered d rfl) inside⟩
      · cases made
    | directory => cases made
    | link target => cases made

/-- An archive has all records of the snapshot of a flush that has closed it. -/
def Complete (v : Publication) (name : String) (content : Content) : Prop :=
  ∃ f ∈ v.writers, f.draft.name = name ∧ f.stage = .ended (.ok true) ∧
    ∃ entries, content = .archive entries ∧ List.Forall₂ StandsFor entries f.draft.snapshot

/-- An archive is unfinished, and a flush is at work on it or could not remove it. -/
def Open (v : Publication) (name : String) (content : Content) : Prop :=
  ∃ f ∈ v.writers, f.draft.name = name ∧ f.stage.isOpen = true ∧ ∃ done, content = .unfinished done

theorem not_complete_unfinished (v : Publication) (name : String) (done : List ArchiveEntry) :
    ¬ v.Complete name (.unfinished done) := by
  rintro ⟨f, _, _, _, entries, same, _⟩
  cases same

/-- The newest archive that a reader is given, in whatever order records and the steps of flushes
come, is complete, unless it was there before, or a flush created it and has neither closed nor
removed it. -/
theorem summary_complete_unless_open (bounds : Bounds) (interval : Nat) (storage : Option Directory)
    (ordered : ∀ d, storage = some d → Ascending d.nodes) (moves : List Move)
    (since : Instant) (name : String) (content : Content)
    (found : ((start bounds interval storage).run moves).recorder.summary since =
      .ok (some (name, content))) :
    (∃ modified, nodeAt storage name = some (.file content modified)) ∨
      ((start bounds interval storage).run moves).Open name content ∨
      ((start bounds interval storage).run moves).Complete name content := by
  have tidy := run_tidy (start_tidy bounds interval ordered) moves
  generalize (start bounds interval storage).run moves = v at found tidy
  obtain ⟨modified, stands⟩ := newestArchive_stands tidy.ascending found
  rcases tidy.origin stands with old | ⟨i, f, there, owns, rfl⟩
  · exact Or.inl ⟨modified, old⟩
  · right
    obtain ⟨content', stands', leaves⟩ := tidy.owned there owns
    cases stands.symm.trans stands'
    have opened : f.stage.isOpen = true → (∃ done, content = .unfinished done) →
        v.Open f.draft.name content ∨ v.Complete f.draft.name content :=
      fun isOpen unfinished => Or.inl ⟨f, List.mem_of_getElem? there, rfl, isOpen, unfinished⟩
    cases stage : f.stage with
    | ready =>
      rw [stage] at owns
      cases owns
    | under n rest =>
      rw [stage] at leaves
      obtain ⟨done, _, same, _⟩ := leaves
      exact opened (by rw [stage]; rfl) ⟨done, same⟩
    | failed e =>
      rw [stage] at leaves
      exact opened (by rw [stage]; rfl) leaves
    | abandoned e =>
      rw [stage] at leaves
      exact opened (by rw [stage]; rfl) leaves
    | ended result =>
      rw [stage] at leaves owns
      cases result with
      | error e => cases leaves
      | ok done =>
        cases done with
        | false => cases leaves
        | true => exact Or.inr ⟨f, List.mem_of_getElem? there, rfl, stage, leaves⟩

def flushBegun (w : Circumstances) : List Move :=
  [.record ⟨10, 0⟩ ⟨"version", .raw [1, 2], none, "a"⟩, .begin w ⟨30, 0⟩]

theorem flushBegun_closed :
    let moves := flushBegun (.calm false) ++ [.work 0, .work 0, .work 0]
    let v := (start ⟨100, 100⟩ 60 (some .empty)).run moves
    ∃ name content, v.recorder.summary ⟨20, 0⟩ = .ok (some (name, content)) ∧
      v.Complete name content := by
  intro moves v
  have found : v.recorder.summary ⟨20, 0⟩ =
      .ok (some ("insights-1970-01-01-000010.tar.gz",
        .archive [⟨"version", entryMode, 10, [1, 2]⟩])) := by
    decide +kernel
  have ordered : ∀ d, some Directory.empty = some d → Ascending d.nodes := by
    intro d same
    cases same
    exact List.Pairwise.nil
  refine ⟨_, _, found, ?_⟩
  rcases summary_complete_unless_open ⟨100, 100⟩ 60 (some .empty) ordered moves ⟨20, 0⟩ _ _ found
    with
    ⟨modified, old⟩ | ⟨f, _, _, _, done, unfinished⟩ | complete
  · cases old
  · cases unfinished
  · exact complete

/-- A reader is given an archive that was only just created, and one that was cut short and could
not be removed. -/
theorem flushBegun_seen :
    let created := (start ⟨100, 100⟩ 60 (some .empty)).run (flushBegun (.calm false) ++ [.work 0])
    let left := (start ⟨100, 100⟩ 60 (some .empty)).run
      (flushBegun { Circumstances.calm true with removable := false }
          ++ [.work 0, .work 0, .work 0])
    ∃ name, created.recorder.summary ⟨20, 0⟩ = .ok (some (name, .unfinished [])) ∧
      ¬ created.Complete name (.unfinished []) ∧
      left.recorder.summary ⟨20, 0⟩ = .ok (some (name, .unfinished [])) ∧
        ¬ left.Complete name (.unfinished []) := by
  intro created left
  exact ⟨"insights-1970-01-01-000010.tar.gz",
    by decide +kernel, created.not_complete_unfinished _ _, by decide +kernel,
    left.not_complete_unfinished _ _⟩

end Publication

end ClusterSurvey.Recording
