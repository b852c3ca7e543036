import ClusterSurvey.Json.Path
import ClusterSurvey.Proofs.Keyed

/-!
Trees seen place by place. A place is a way down from the root, and what stands there is a node: a
scalar, or an array or an object without the values in it. Of members with one name only the first
is seen, as everywhere in this library; where no object has two members of one name the nodes
determine the tree.
-/
namespace ClusterSurvey

namespace Json

inductive Step where
  | member (name : String)
  | item (index : Nat)
  deriving DecidableEq

abbrev Place := List Step

/-- What stands at a place, without what stands below. -/
inductive Node where
  | null
  | bool (b : Bool)
  | int (n : Int)
  | real (x : Binary64)
  | text (s : String)
  | array (length : Nat)
  | object (names : List String)

def node : Json → Node
  | .null => .null
  | .bool b => .bool b
  | .int n => .int n
  | .real x => .real x
  | .str s => .text s
  | .arr items => .array items.length
  | .obj members => .object (members.map fun m => m.1)

def child (v : Json) : Step → Option Json
  | .member name => v.get? name
  | .item index => v.asArray?.bind fun items => items[index]?

/-- The node at each place, nothing where there is no value. -/
def view (v : Json) : Place → Option Node
  | [] => some v.node
  | t :: p => (v.child t).bind fun w => view w p

/-- No object in the tree has two members of one name. -/
def NamesOnce (v : Json) : Prop := ∀ p names, v.view p = some (.object names) → names.Nodup

@[simp] theorem view_root (v : Json) : v.view [] = some v.node := rfl

theorem view_step (v : Json) (t : Step) (p : Place) :
    v.view (t :: p) = (v.child t).bind fun w => w.view p := rfl

theorem view_child {v w : Json} {t : Step} (found : v.child t = some w) (p : Place) :
    v.view (t :: p) = w.view p := by
  rw [view_step, found, Option.bind_some]

theorem NamesOnce.child {v w : Json} {t : Step} (once : v.NamesOnce) (found : v.child t = some w) :
    w.NamesOnce := by
  intro p names here
  exact once (t :: p) names (by rw [view_child found, here])

theorem namesOnce_of_child {v : Json} (root : ∀ names, v.node = .object names → names.Nodup)
    (below : ∀ t w, v.child t = some w → w.NamesOnce) : v.NamesOnce := by
  intro p names here
  cases p with
  | nil => exact root names (Option.some.inj here)
  | cons t p =>
    rw [view_step] at here
    obtain ⟨w, found, inside⟩ := Option.bind_eq_some_iff.mp here
    exact below t w found p names inside

theorem namesOnce_str (s : String) : (str s).NamesOnce := by
  refine namesOnce_of_child (fun names root => by cases root) fun t w found => ?_
  cases t <;> cases found

theorem namesOnce_obj {members : List (String × Json)} (once : (members.map fun m => m.1).Nodup)
    (below : ∀ m ∈ members, m.2.NamesOnce) : (obj members).NamesOnce := by
  refine namesOnce_of_child (fun names root => ?_) fun t w found => ?_
  · injection root with same
    exact same ▸ once
  · cases t with
    | member name => exact below _ (Keyed.mem_of_lookup found)
    | item index => cases found

theorem view_below {v w a b : Json} (same : v.view = w.view) {t : Step} (first : v.child t = some a)
    (second : w.child t = some b) : a.view = b.view := by
  funext p
  rw [← view_child first, ← view_child second, same]

theorem sizeOf_child {v w : Json} {t : Step} (found : v.child t = some w) :
    sizeOf w < sizeOf v := by
  cases t with
  | member name =>
    cases v with
    | obj members =>
      have inside := List.sizeOf_lt_of_mem (Keyed.mem_of_lookup found)
      simp only [Prod.mk.sizeOf_spec, obj.sizeOf_spec] at inside ⊢
      omega
    | _ => cases found
  | item index =>
    cases v with
    | arr items =>
      have inside := List.sizeOf_lt_of_mem (List.mem_of_getElem? found)
      simp only [arr.sizeOf_spec]
      omega
    | _ => cases found

theorem induction_below {motive : Json → Prop}
    (below : ∀ v, (∀ t w, v.child t = some w → motive w) → motive v) (v : Json) : motive v :=
  below v fun _ w _ => induction_below below w
termination_by sizeOf v
decreasing_by exact sizeOf_child ‹_›

/-- The nodes determine a tree in which no object has two members of one name. -/
theorem eq_of_view {a b : Json} (once_a : a.NamesOnce) (once_b : b.NamesOnce)
    (same : a.view = b.view) : a = b := by
  induction a using induction_below generalizing b with
  | below a ih =>
    have nodes : a.node = b.node := Option.some.inj (congrFun same [])
    have equal_child : ∀ {t v w}, a.child t = some v → b.child t = some w → v = w :=
      fun first second =>
      ih _ _ first (once_a.child first) (once_b.child second) (view_below same first second)
    cases a with
    | arr items =>
      cases b with
      | arr items' =>
        have lengths : items.length = items'.length := by injection nodes
        refine congrArg arr (List.ext_getElem lengths fun i left right => ?_)
        exact equal_child (t := .item i) (List.getElem?_eq_getElem left)
          (List.getElem?_eq_getElem right)
      | _ => cases nodes
    | obj members =>
      cases b with
      | obj members' =>
        have names : members.map (fun m => m.1) = members'.map (fun m => m.1) := by injection nodes
        have lengths : members.length = members'.length := by
          rw [← List.length_map (fun m : String × Json => m.1), names, List.length_map]
        refine congrArg obj (List.ext_getElem lengths fun i left right => ?_)
        have keys : members[i].1 = members'[i].1 := by
          have both := congrArg (fun l => l[i]?) names
          simpa [left, right] using both
        have first := Keyed.lookup_of_mem_nodup (once_a [] _ rfl) (List.getElem_mem left)
        have second := Keyed.lookup_of_mem_nodup (once_b [] _ rfl) (List.getElem_mem right)
        exact Prod.ext keys (equal_child (t := .member members[i].1) first (keys ▸ second))
      | _ => cases nodes
    | _ => (cases b <;> cases nodes); rfl

/-! What each change to a tree does to the root and one step down. -/

def Node.mapText (f : String → String) : Node → Node
  | .text s => .text (f s)
  | n => n

/-- Leaves out names of an object. -/
def Node.without (dropped : String → Bool) : Node → Node
  | .object names => .object (names.filter fun n => !dropped n)
  | n => n

theorem node_mapString (f : String → String) (v : Json) :
    (v.mapString f).node = v.node.mapText f := by
  cases v <;> rfl

theorem child_mapString (f : String → String) (v : Json) (t : Step) :
    (v.mapString f).child t = v.child t := by
  cases v <;> cases t <;> rfl

theorem node_modifyAt (key : String) (f : Json → Json) (v : Json) :
    (v.modifyAt [key] f).node = v.node := by
  cases v with
  | obj members => exact congrArg Node.object (Keyed.keys_modify key f members)
  | _ => rfl

theorem child_modifyAt (key : String) (f : Json → Json) (v : Json) (t : Step) :
    (v.modifyAt [key] f).child t = (v.child t).map (if t = .member key then f else id) := by
  cases v with
  | obj members =>
    cases t with
    | member name =>
      simp only [Step.member.injEq]
      exact Keyed.lookup_modify key f members name
    | item index => rfl
  | arr items =>
    cases t with
    | member name => rfl
    | item index => simp [modifyAt]
  | _ => cases t <;> rfl

theorem modifyAt_cons (key : String) (path : List String) (f : Json → Json) (v : Json) :
    v.modifyAt (key :: path) f = v.modifyAt [key] (modifyAt path f) := by
  cases v <;> rfl

theorem modifyAt_modifyAt (key : String) (f g : Json → Json) (v : Json) :
    (v.modifyAt [key] f).modifyAt [key] g = v.modifyAt [key] (g ∘ f) := by
  cases v with
  | obj members => exact congrArg obj (Keyed.modify_modify key f g members)
  | _ => rfl

theorem node_mapItems (f : Json → Json) (v : Json) : (v.mapItems f).node = v.node := by
  cases v with
  | arr items => exact congrArg Node.array (List.length_map f)
  | _ => rfl

theorem child_mapItems_member (f : Json → Json) (v : Json) (name : String) :
    (v.mapItems f).child (.member name) = v.child (.member name) := by
  cases v <;> rfl

theorem child_mapItems_item (f : Json → Json) (v : Json) (index : Nat) :
    (v.mapItems f).child (.item index) = (v.child (.item index)).map f := by
  cases v with
  | arr items => exact List.getElem?_map
  | _ => rfl

theorem node_mapMembers (f : String → Json → Json) (v : Json) : (v.mapMembers f).node = v.node := by
  cases v with
  | obj members => simp [mapMembers, node, Function.comp_def]
  | _ => rfl

theorem child_mapMembers_member (f : String → Json → Json) (v : Json) (name : String) :
    (v.mapMembers f).child (.member name) = (v.child (.member name)).map (f name) := by
  cases v with
  | obj members => exact Keyed.lookup_mapValues f members name
  | _ => rfl

theorem child_mapMembers_item (f : String → Json → Json) (v : Json) (index : Nat) :
    (v.mapMembers f).child (.item index) = v.child (.item index) := by
  cases v <;> rfl

theorem node_removeMember (key : String) (v : Json) :
    (v.removeMember key).node = v.node.without fun n => n = key := by
  cases v with
  | obj members =>
      simp [removeMember, erase, node, Node.without, List.filter_map, Function.comp_def]
  | _ => rfl

theorem child_removeMember (key : String) (v : Json) (t : Step) :
    (v.removeMember key).child t = if t = .member key then none else v.child t := by
  cases v with
  | obj members =>
    cases t with
    | member name =>
      simp only [Step.member.injEq]
      exact Keyed.lookup_filter_ne key members name
    | item index => rfl
  | _ =>
    cases t with
    | member name => exact (ite_self none).symm
    | item index => rfl

/-! What is seen of a tree after a change, place by place. -/

/-- The change is seen at some places and nowhere else. -/
def ChangesOnly (f : Json → Json) (places : Place → Prop) : Prop :=
  ∀ v p, ¬ places p → (f v).view p = v.view p

theorem changesOnly_mapString (f : String → String) :
    ChangesOnly (mapString f) fun p => p = [] := by
  intro v p below
  cases p with
  | nil => exact absurd rfl below
  | cons t p => rw [view_step, child_mapString, view_step]

theorem changesOnly_member {f : Json → Json} {places : Place → Prop}
    (changes : ChangesOnly f places) (key : String) :
    ChangesOnly (modifyAt [key] f) fun p => ∃ q, p = .member key :: q ∧ places q := by
  intro v p other
  cases p with
  | nil => exact congrArg some (node_modifyAt key f v)
  | cons t p =>
    rw [view_step, child_modifyAt, Option.bind_map, view_step]
    by_cases here : t = .member key
    · have elsewhere : ¬ places p := fun place => other ⟨p, by rw [here], place⟩
      simp only [here, ↓reduceIte, Function.comp_def, changes _ p elsewhere]
    · simp only [here, ↓reduceIte, Function.comp_def, id_eq]

theorem changesOnly_modifyAt {f : Json → Json} {places : Place → Prop}
    (changes : ChangesOnly f places) (path : List String) :
    ChangesOnly (modifyAt path f) fun p => ∃ q, p = path.map .member ++ q ∧ places q := by
  induction path with
  | nil => exact fun v p other => changes v p fun place => other ⟨p, rfl, place⟩
  | cons key path ih =>
    intro v p other
    rw [modifyAt_cons]
    refine changesOnly_member ih key v p fun ⟨_, same, q, behind, place⟩ => other ⟨q, ?_, place⟩
    rw [same, behind]
    rfl

theorem view_modifyAt (key : String) (f : Json → Json) (v : Json) (p : Place) :
    (v.modifyAt [key] f).view (.member key :: p) = (v.get? key).bind fun w => (f w).view p := by
  rw [view_step, child_modifyAt, if_pos rfl, Option.bind_map]
  rfl

theorem view_path (path : List String) (v : Json) :
    v.view (path.map .member) = (v.walk? path).map node := by
  induction path generalizing v with
  | nil => rfl
  | cons key path ih =>
    rw [List.map_cons, view_step, walk?, child]
    cases v.get? key with
    | none => rfl
    | some w => exact ih w

theorem stringAt?_eq_some_iff {path : List String} {v : Json} {s : String} :
    v.stringAt? path = some s ↔ v.view (path.map .member) = some (.text s) := by
  rw [view_path, stringAt?]
  cases v.walk? path with
  | none => simp
  | some w => cases w <;> simp [asString?, node]

end Json

end ClusterSurvey
