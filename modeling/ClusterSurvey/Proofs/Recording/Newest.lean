import ClusterSurvey.Proofs.Keyed
import ClusterSurvey.Recording.Archive

/-!
What a directory tells of its archives. They are the files whose names begin and end like those of
archives, in the order of the names, so the last one that was changed after a time is the one with
the greatest name.
-/
namespace ClusterSurvey.Recording
open Keyed

theorem isArchiveName_iff {name : String} :
    isArchiveName name = true ↔ ∃ middle, name = archiveStart ++ middle ++ archiveEnd := by
  unfold isArchiveName
  rw [Bool.and_eq_true, List.isPrefixOf_iff_prefix, List.isSuffixOf_iff_suffix]
  constructor
  · rintro ⟨⟨rest, front⟩, before, back⟩
    -- the end begins with a character that is not in the beginning, so the two do not overlap
    have long : archiveStart.toList.length ≤ before.length := by
      by_contra short
      have part : before.length < archiveStart.toList.length := by omega
      have inside : name.toList[before.length]? = archiveStart.toList[before.length]? := by
        rw [← front, List.getElem?_append_left part]
      have marked : name.toList[before.length]? = some '.' := by
        rw [← back, List.getElem?_append_right (Nat.le_refl _), Nat.sub_self]
        rfl
      have unmarked : '.' ∉ archiveStart.toList := by decide
      exact unmarked (List.mem_of_getElem? (inside.symm.trans marked))
    obtain ⟨middle, split⟩ := List.prefix_of_prefix_length_le ⟨rest, front⟩ ⟨_, back⟩ long
    refine ⟨String.ofList middle, ?_⟩
    apply String.toList_injective
    rw [String.toList_append, String.toList_append, String.toList_ofList, split, back]
  · rintro ⟨middle, rfl⟩
    rw [String.toList_append, String.toList_append]
    constructor
    · rw [List.append_assoc]
      exact List.prefix_append _ _
    · exact List.suffix_append _ _

theorem mem_archives_iff {d : Directory} {name : String} {content : Content} {modified : Instant} :
    (name, content, modified) ∈ archives d ↔
      (name, .file content modified) ∈ d.nodes ∧ isArchiveName name = true := by
  unfold archives
  rw [List.mem_filterMap]
  constructor
  · rintro ⟨⟨other, node⟩, inside, made⟩
    cases node with
    | file content' modified' =>
      dsimp only at made
      split at made
      · rename_i named
        cases made
        exact ⟨inside, named⟩
      · cases made
    | directory => cases made
    | link target => cases made
  · rintro ⟨inside, named⟩
    exact ⟨_, inside, if_pos named⟩

theorem Directory.mem_nodes_iff {d : Directory} (ordered : Ascending d.nodes) {name : String}
    {node : FileNode} :
    (name, node) ∈ d.nodes ↔ d.get? name = some node :=
  ⟨lookup_of_mem ordered, mem_of_lookup⟩

theorem names_archives_sublist (d : Directory) :
    ((archives d).map fun a => a.1).Sublist (d.nodes.map fun n => n.1) := by
  unfold archives
  induction d.nodes with
  | nil => exact List.Sublist.slnil
  | cons n rest ih =>
    obtain ⟨name, node⟩ := n
    cases node with
    | file content modified =>
      by_cases named : isArchiveName name = true
      · simpa [named] using ih
      · simpa [named] using ih.cons name
    | directory => simpa using ih.cons name
    | link target => simpa using ih.cons name

theorem archives_ascending {d : Directory} (ordered : Ascending d.nodes) :
    Ascending (archives d) := by
  apply List.pairwise_map.mp
  exact (List.pairwise_map.mpr ordered).sublist (names_archives_sublist d)

theorem newestArchive_cases {d : Directory} (ordered : Ascending d.nodes) (since : Instant) :
    (newestArchive since (some d) = .ok none ∧ ∀ a ∈ archives d, ¬ since < a.2.2) ∨
      ∃ name content modified, newestArchive since (some d) = .ok (some (name, content)) ∧
        (name, content, modified) ∈ archives d ∧ since < modified ∧
        ∀ a ∈ archives d, since < a.2.2 → a.1 ≠ name → a.1 < name := by
  have changed := (archives_ascending ordered).filter fun a => decide (since < a.2.2)
  have told : newestArchive since (some d) = .ok
      (((archives d).filter fun a => since < a.2.2).getLast?.map fun a => (a.1, a.2.1)) := rfl
  rw [told]
  rcases List.eq_nil_or_concat' ((archives d).filter fun a => since < a.2.2) with none |
    ⟨others, last, split⟩
  · left
    constructor
    · rw [none]
      rfl
    · intro a member later
      exact List.filter_eq_nil_iff.mp none a member (decide_eq_true later)
  · right
    obtain ⟨name, content, modified⟩ := last
    rw [split] at changed
    have inside : (name, content, modified) ∈ (archives d).filter fun a => since < a.2.2 := by
      rw [split]
      exact List.mem_append_right _ List.mem_cons_self
    obtain ⟨member, later⟩ := List.mem_filter.mp inside
    refine ⟨name, content, modified, ?_, member, of_decide_eq_true later, ?_⟩
    · rw [split, List.getLast?_concat]
      rfl
    · intro a present after other
      have here : a ∈ others ++ [(name, content, modified)] := by
        rw [← split]
        exact List.mem_filter.mpr ⟨present, decide_eq_true after⟩
      rcases List.mem_append.mp here with before | same
      · exact (List.pairwise_append.mp changed).2.2 a before _ List.mem_cons_self
      · rw [List.mem_singleton.mp same] at other
        exact absurd rfl other

end ClusterSurvey.Recording
