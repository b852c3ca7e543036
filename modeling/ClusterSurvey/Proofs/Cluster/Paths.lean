import ClusterSurvey.Cluster.Resource
import ClusterSurvey.Proofs.Text.Split

/-!
Paths of collections and objects as segments between slashes. Groups have a root of their own, and
behind it the number of segments tells whether a namespace and a name are there, so a path tells all
that it was made from.
-/
namespace ClusterSurvey.ApiResource

def root (group version : String) : List String :=
  if group.isEmpty then ["api", version] else ["apis", group, version]

def place (ns : Option String) (plural : String) (name : Option String) : List String :=
  ns.elim [] (["namespaces", ·]) ++ plural :: name.toList

/-- No text that gets into a path has a slash. -/
structure Unslashed (r : ApiResource) (ns name : Option String) : Prop where
  group : '/' ∉ r.group.toList
  version : '/' ∉ r.version.toList
  plural : '/' ∉ r.plural.toList
  ns : ∀ n ∈ ns, r.namespaced = true → '/' ∉ n.toList
  name : ∀ n ∈ name, '/' ∉ n.toList

variable {r r' : ApiResource} {ns ns' name name' : Option String}

theorem mem_effectiveNamespace {n : String} :
    n ∈ r.effectiveNamespace ns ↔ r.namespaced = true ∧ ns = some n ∧ n ≠ "" := by
  simp only [effectiveNamespace, Option.mem_def, Option.filter_eq_some_iff, Bool.and_eq_true,
    Bool.not_eq_true', String.isEmpty_eq_false_iff]
  tauto

theorem effectiveNamespace_eq_iff :
    r.effectiveNamespace ns = r'.effectiveNamespace ns' ↔
      ∀ n, r.namespaced = true ∧ ns = some n ∧ n ≠ "" ↔
        r'.namespaced = true ∧ ns' = some n ∧ n ≠ "" := by
  simp only [← mem_effectiveNamespace, Option.mem_def]
  exact ⟨fun same n => by rw [same], Option.ext⟩

def segments (r : ApiResource) (ns name : Option String) : List String :=
  root r.group r.version ++ place (r.effectiveNamespace ns) r.plural name

theorem toList_path (r : ApiResource) (ns name : Option String) :
    (r.path ns name).toList = ((r.segments ns name).map String.toList).flatMap ('/' :: ·) := by
  unfold path segments root place
  cases r.effectiveNamespace ns <;> cases name <;> split <;> simp

theorem slash_not_mem_root {group version : String} (plain : '/' ∉ group.toList)
    (plain' : '/' ∉ version.toList) :
    ∀ s ∈ root group version, '/' ∉ s.toList := by
  unfold root
  split <;> simp [plain, plain']

theorem slash_not_mem_place {plural : String} (plain : ∀ n ∈ ns, '/' ∉ n.toList)
    (plain' : '/' ∉ plural.toList) (plain'' : ∀ n ∈ name, '/' ∉ n.toList) :
    ∀ s ∈ place ns plural name, '/' ∉ s.toList := by
  unfold place
  cases ns <;> cases name <;> simp_all

theorem Unslashed.segments (plain : r.Unslashed ns name) :
    ∀ s ∈ r.segments ns name, '/' ∉ s.toList := by
  have counts : ∀ n ∈ r.effectiveNamespace ns, '/' ∉ n.toList := by
    intro n member
    obtain ⟨lives, given, _⟩ := mem_effectiveNamespace.mp member
    exact plain.ns n given lives
  exact List.forall_mem_append.mpr ⟨slash_not_mem_root plain.group plain.version,
    slash_not_mem_place counts plain.plural plain.name⟩

theorem segments_of_path (plain : r.Unslashed ns name) (plain' : r'.Unslashed ns' name')
    (same : r.path ns name = r'.path ns' name') : r.segments ns name = r'.segments ns' name' := by
  have whole := congrArg String.toList same
  rw [toList_path, toList_path] at whole
  have parts :=
    Text.parts_of_flatMap (List.forall_mem_map.mpr plain.segments)
      (List.forall_mem_map.mpr plain'.segments)
    whole
  exact List.map_injective_iff.mpr (fun _ _ => String.toList_inj.mp) parts

theorem root_append_inj {g g' v v' : String} {rest rest' : List String}
    (same : root g v ++ rest = root g' v' ++ rest') : g = g' ∧ v = v' ∧ rest = rest' := by
  unfold root at same
  split at same <;> split at same <;> simp_all

/-- Each combination of namespace and name has a number of segments of its own: two more with a
namespace, one more with a name. -/
theorem place_inj {p p' : String} (same : place ns p name = place ns' p' name') :
    ns = ns' ∧ p = p' ∧ name = name' := by
  unfold place at same
  cases ns <;> cases ns' <;> cases name <;> cases name' <;> simp_all

/-- Two paths are the same exactly if group, version, plural and name are the same, and so is the
namespace that counts: one that is not empty, for a kind of resource whose objects live in
namespaces. -/
theorem path_eq_iff (plain : r.Unslashed ns name) (plain' : r'.Unslashed ns' name') :
    r.path ns name = r'.path ns' name' ↔
      r.group = r'.group ∧ r.version = r'.version ∧ r.plural = r'.plural ∧ name = name' ∧
        ∀ n, r.namespaced = true ∧ ns = some n ∧ n ≠ "" ↔
          r'.namespaced = true ∧ ns' = some n ∧ n ≠ "" := by
  rw [← effectiveNamespace_eq_iff]
  constructor
  · intro same
    obtain ⟨group, version, rest⟩ := root_append_inj (segments_of_path plain plain' same)
    obtain ⟨counts, plural, name⟩ := place_inj rest
    exact ⟨group, version, plural, name, counts⟩
  · rintro ⟨group, version, plural, rfl, counts⟩
    simp only [path, group, version, plural, counts]

theorem namespaceOfPods_told :
    (nodes.Unslashed (some "a/b") (some "n") ∧ nodes.Unslashed none (some "n") ∧
      nodes.path (some "a/b") (some "n") = nodes.path none (some "n")) ∧
    (namespaces.Unslashed none (some "pods") ∧ pods.Unslashed (some "pods") none ∧
      namespaces.path none (some "pods") ≠ pods.path (some "pods") none) := by
  have node : nodes.Unslashed (some "a/b") (some "n") :=
    ⟨by decide, by decide, by decide, by decide, by decide⟩
  have plain : nodes.Unslashed none (some "n") :=
    ⟨by decide, by decide, by decide, by decide, by decide⟩
  have object : namespaces.Unslashed none (some "pods") :=
    ⟨by decide, by decide, by decide, by decide, by decide⟩
  have collection : pods.Unslashed (some "pods") none :=
    ⟨by decide, by decide, by decide, by decide, by decide⟩
  have unused : nodes.path (some "a/b") (some "n") = nodes.path none (some "n") :=
    (path_eq_iff node plain).mpr ⟨rfl, rfl, rfl, rfl, fun n => by simp [nodes]⟩
  refine ⟨⟨node, plain, unused⟩, object, collection, fun same => ?_⟩
  exact absurd ((path_eq_iff object collection).mp same).2.2.1 (by decide)

end ClusterSurvey.ApiResource
