import ClusterSurvey.Proofs.Keyed
import ClusterSurvey.Recording.Archive

/-!
What writing an archive does to a directory. The entries are worked out apart from the directory:
either all of them are there, or the first thing that went wrong. The directory then differs from
the one before at the name of the archive only, and not at all if a file that was begun is removed
again.
-/
namespace ClusterSurvey.Recording
open Keyed

namespace Directory

theorem get?_set_self (d : Directory) (name : String) (node : FileNode) :
    (d.set name node).get? name = some node := lookup_insert_self name node d.nodes

theorem get?_set_of_ne {name other : String} (differs : other ≠ name) (d : Directory)
    (node : FileNode) :
    (d.set name node).get? other = d.get? other := lookup_insert_of_ne differs node d.nodes

theorem get?_remove (d : Directory) (name other : String) :
    (d.remove name).get? other = if other = name then none else d.get? other :=
  lookup_filter_ne name d.nodes other

theorem set_set (d : Directory) (name : String) (a b : FileNode) :
    (d.set name a).set name b = d.set name b :=
  congrArg Directory.mk (insert_insert name a b d.nodes)

theorem remove_set {d : Directory} {name : String} (free : d.get? name = none) (node : FileNode) :
    (d.set name node).remove name = d := congrArg Directory.mk (filter_insert node free)

theorem addEntry_set (d : Directory) (name : String) (entries : List ArchiveEntry) (t : Instant)
    (entry : ArchiveEntry) : (d.set name (.file (.unfinished entries) t)).addEntry name entry =
      d.set name (.file (.unfinished (entry :: entries)) t) := by
  simp only [addEntry, get?_set_self, set_set]

theorem finish_set (d : Directory) (name : String) (entries : List ArchiveEntry) (t : Instant) :
    (d.set name (.file (.unfinished entries) t)).finish name =
      d.set name (.file (.archive entries.reverse) t) := by
  simp only [finish, get?_set_self, set_set]

end Directory

/-- The entries of the records that wait, from the `i`-th record on, or what keeps them from being
written. -/
def entriesOf (w : Circumstances) : (i : Nat) → List Kept → Except GatherError (List ArchiveEntry)
  | _, [] =>
    match w.closingFailure with
    | some (layer, text) => .error (.recorder ("unable to close " ++ layer.text ++ ": " ++ text))
    | none => .ok []
  | i, k :: rest =>
    if w.cancelled i then .error .cancelled
    else match k.data with
      | none => entriesOf w (i + 1) rest
      | some data =>
        match nextEntry w i k data with
        | .error e => .error e
        | .ok entry => (entriesOf w (i + 1) rest).map (entry :: ·)

theorem writeEntries_eq (w : Circumstances) (name : String) (t : Instant) (d : Directory)
    (records : List Kept) (i : Nat) (done : List ArchiveEntry) :
    ∃ left, writeEntries w name i records (d.set name (.file (.unfinished done) t)) =
      match entriesOf w i records with
      | .ok entries => (.ok (), d.set name (.file (.archive (done.reverse ++ entries)) t))
      | .error e => (.error e, d.set name (.file (.unfinished left) t)) := by
  induction records generalizing i done with
  | nil =>
    refine ⟨done, ?_⟩
    simp only [writeEntries, entriesOf]
    cases w.closingFailure with
    | none => simp only [Directory.finish_set, List.append_nil]
    | some failure => rfl
  | cons k rest ih =>
    simp only [writeEntries, entriesOf]
    cases w.cancelled i with
    | true => exact ⟨done, rfl⟩
    | false =>
      cases k.data with
      | none => exact ih (i + 1) done
      | some data =>
        dsimp only
        cases nextEntry w i k data with
        | error e => exact ⟨done, rfl⟩
        | ok entry =>
          obtain ⟨left, later⟩ := ih (i + 1) (entry :: done)
          refine ⟨left, ?_⟩
          simp only [Bool.false_eq_true, ↓reduceIte, Directory.addEntry_set, later]
          cases entriesOf w (i + 1) rest with
          | error e => rfl
          | ok entries => simp [Except.map]

theorem writeArchive_taken {d : Directory} {name : String} (taken : (d.get? name).isSome = true)
    (w : Circumstances) (now : Instant) (records : List Kept) :
    writeArchive w now name records (some d) = (.ok false, some d) := by
  simp [writeArchive, taken]

theorem writeArchive_free {d : Directory} {name : String} (free : d.get? name = none)
    {w : Circumstances} (created : w.creationFailure = none) (now : Instant) (records : List Kept) :
    ∃ left, writeArchive w now name records (some d) =
      match entriesOf w 0 records with
      | .ok entries => (.ok true, some (d.set name (.file (.archive entries) now)))
      | .error e =>
          (.error e, some (if w.removable then d
              else d.set name (.file (.unfinished left) now))) := by
  obtain ⟨left, written⟩ := writeEntries_eq w name now d records 0 []
  refine ⟨left, ?_⟩
  simp only [writeArchive, free, Option.isSome_none, Bool.false_eq_true, ↓reduceIte,
    created, written]
  cases entriesOf w 0 records with
  | error e => simp only [Directory.remove_set free]
  | ok entries => rfl

theorem writeArchive_ok {w : Circumstances} {now : Instant} {name : String} {records : List Kept}
    {storage after : Option Directory}
    (written : writeArchive w now name records storage = (.ok true, after)) :
    ∃ d entries, storage = some d ∧ d.get? name = none ∧ entriesOf w 0 records = .ok entries ∧
      after = some (d.set name (.file (.archive entries) now)) := by
  cases storage with
  | none => simp [writeArchive] at written
  | some d =>
    cases taken : d.get? name with
    | some node =>
      rw [writeArchive_taken (by rw [taken]; rfl)] at written
      simp at written
    | none =>
      cases created : w.creationFailure with
      | some text => simp [writeArchive, taken, created] at written
      | none =>
        obtain ⟨left, outcome⟩ := writeArchive_free taken created now records
        rw [outcome] at written
        cases planned : entriesOf w 0 records with
        | error e => simp [planned] at written
        | ok entries =>
          simp only [planned, Prod.mk.injEq, true_and] at written
          exact ⟨d, entries, rfl, taken, rfl, written.symm⟩

/-- An entry that holds the bytes of a record, with its time, under the name that is stored for
it. -/
structure StandsFor (e : ArchiveEntry) (k : Kept) : Prop where
  name : EntryName.stored k.fileName = .ok e.name
  data : k.data = some e.data
  mode : e.mode = entryMode
  modified : e.modified = k.capturedAt.second.toNat

theorem entryOf_ok {k : Kept} {data : Bytes} {e : ArchiveEntry} (h : entryOf k data = .ok e)
    (waiting : k.data = some data) : StandsFor e k := by
  unfold entryOf at h
  split at h
  · rename_i name stored
    cases h
    exact ⟨stored, waiting, rfl, rfl⟩
  · cases h

theorem entriesOf_ok {w : Circumstances} {i : Nat} {records : List Kept}
    {entries : List ArchiveEntry} (h : entriesOf w i records = .ok entries) :
    List.Forall₂ StandsFor entries (records.filter Kept.isPending) := by
  induction records generalizing i entries with
  | nil =>
    unfold entriesOf at h
    split at h
    · cases h
    · cases h
      exact List.Forall₂.nil
  | cons k rest ih =>
    unfold entriesOf at h
    split at h
    · cases h
    · split at h
      · rename_i idle
        rw [List.filter_cons_of_neg (by simp [Kept.isPending, idle])]
        exact ih h
      · rename_i data waiting
        split at h
        · cases h
        · rename_i entry made
          rw [List.filter_cons_of_pos (by simp [Kept.isPending, waiting])]
          cases later : entriesOf w (i + 1) rest with
          | error e => simp [later, Except.map] at h
          | ok more =>
            simp only [later, Except.map, Except.ok.injEq] at h
            subst h
            refine List.Forall₂.cons (entryOf_ok ?_ waiting) (ih later)
            unfold nextEntry at made
            split at made
            · cases made
            · exact made

theorem exists_entry {w : Circumstances} {i : Nat} {records : List Kept}
    {entries : List ArchiveEntry} (h : entriesOf w i records = .ok entries) {k : Kept}
    (member : k ∈ records) (waiting : k.isPending = true) : ∃ e ∈ entries, StandsFor e k := by
  have each : ∀ {es ks}, List.Forall₂ StandsFor es ks → k ∈ ks → ∃ e ∈ es, StandsFor e k := by
    intro es ks pairs
    induction pairs with
    | nil => simp
    | cons stands rest ih =>
      intro here
      rcases List.mem_cons.mp here with first | later
      · exact ⟨_, List.mem_cons_self, first ▸ stands⟩
      · obtain ⟨e, inside, found⟩ := ih later
        exact ⟨e, List.mem_cons_of_mem _ inside, found⟩
  exact each (entriesOf_ok h) (List.mem_filter.mpr ⟨member, waiting⟩)

def Circumstances.Interrupts (w : Circumstances) (i : Nat) (records : List Kept) : Prop :=
  (∃ j, j < records.length ∧
      (w.cancelled (i + j) = true ∨ (w.entryFailure (i + j)).isSome = true)) ∨
    (∃ k ∈ records, ∃ fault, EntryName.stored k.fileName = .error fault) ∨
      w.closingFailure.isSome = true

theorem interrupts_cons (w : Circumstances) (i : Nat) (k : Kept) (rest : List Kept) :
    w.Interrupts i (k :: rest) ↔ (w.cancelled i = true ∨ (w.entryFailure i).isSome = true ∨
      ∃ fault, EntryName.stored k.fileName = .error fault) ∨ w.Interrupts (i + 1) rest := by
  have shift : ∀ P : Nat → Prop, (∃ j, j < (k :: rest).length ∧ P (i + j)) ↔
      P i ∨ ∃ j, j < rest.length ∧ P (i + 1 + j) := by
    intro P
    rw [List.length_cons]
    constructor
    · rintro ⟨j, less, h⟩
      cases j with
      | zero => exact Or.inl h
      | succ j => exact Or.inr ⟨j, by omega, by rwa [show i + 1 + j = i + (j + 1) by omega]⟩
    · rintro (h | ⟨j, less, h⟩)
      · exact ⟨0, by omega, h⟩
      · exact ⟨j + 1, by omega, by rwa [show i + (j + 1) = i + 1 + j by omega]⟩
  simp only [Circumstances.Interrupts,
    shift fun n => w.cancelled n = true ∨ (w.entryFailure n).isSome = true, List.mem_cons,
    exists_eq_or_imp]
  simp only [or_assoc, or_left_comm]

theorem entriesOf_error_iff (w : Circumstances) (i : Nat) {records : List Kept}
    (waiting : ∀ k ∈ records, k.isPending = true) :
    (∃ e, entriesOf w i records = .error e) ↔ w.Interrupts i records := by
  induction records generalizing i with
  | nil =>
    simp only [entriesOf, Circumstances.Interrupts]
    cases w.closingFailure with
    | none => simp
    | some failure => simp
  | cons k rest ih =>
    obtain ⟨data, present⟩ := Option.isSome_iff_exists.mp (waiting k List.mem_cons_self)
    have later := ih (i + 1) fun l member => waiting l (List.mem_cons_of_mem _ member)
    rw [interrupts_cons, ← later]
    simp only [entriesOf, present]
    cases w.cancelled i with
    | true => simp
    | false =>
      have made : (∃ e, nextEntry w i k data = .error e) ↔ (w.entryFailure i).isSome = true ∨
          ∃ fault, EntryName.stored k.fileName = .error fault := by
        unfold nextEntry
        cases w.entryFailure i with
        | some text => simp
        | none =>
          simp only [entryOf]
          cases EntryName.stored k.fileName with
          | ok name => simp
          | error fault => simp
      simp only [Bool.false_eq_true, ↓reduceIte, false_or, ← made]
      cases nextEntry w i k data with
      | error e => simp
      | ok entry =>
        cases entriesOf w (i + 1) rest with
        | error e => simp [Except.map]
        | ok entries => simp [Except.map]

theorem entriesOf_uncancelled {w : Circumstances} (never : ∀ i, w.cancelled i = false) (i : Nat)
    (records : List Kept) : entriesOf w i records ≠ .error .cancelled := by
  induction records generalizing i with
  | nil =>
    unfold entriesOf
    split <;> simp
  | cons k rest ih =>
    unfold entriesOf
    rw [never i, if_neg Bool.false_ne_true]
    split
    · exact ih (i + 1)
    · rename_i data _
      have other : nextEntry w i k data ≠ .error .cancelled := by
        unfold nextEntry entryOf
        split
        · simp
        · split <;> simp
      split
      · rename_i e failed
        intro same
        cases same
        exact other failed
      · cases later : entriesOf w (i + 1) rest with
        | error e =>
          have := ih (i + 1)
          rw [later] at this
          simpa [Except.map] using this
        | ok entries => simp [Except.map]

end ClusterSurvey.Recording
