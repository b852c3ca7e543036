import ClusterSurvey.Proofs.Json.View
import Mathlib.Logic.Function.Conjugate

/-!
Changes that are made twice. A change settles if it leaves what it made as it is. It then settles in
every item and below every path too, and changes that settle and can be swapped settle together;
changes at paths that part can be swapped.
-/
namespace ClusterSurvey.Json

variable {f g : Json → Json}

/-- Made again, the change changes nothing. -/
def Settles (f : Json → Json) : Prop := ∀ v, f (f v) = f v

theorem settles_mapString {f : String → String} (twice : ∀ s, f (f s) = f s) :
    Settles (mapString f) := by
  intro v
  cases v with
  | str s => exact congrArg str (twice s)
  | _ => rfl

theorem settles_mapItems (settles : Settles f) : Settles (mapItems f) := by
  intro v
  cases v with
  | arr items => simp [mapItems, settles _]
  | _ => rfl

theorem settles_mapMembers {f : String → Json → Json} (settles : ∀ key, Settles (f key)) :
    Settles (mapMembers f) := by
  intro v
  cases v with
  | obj members => simp [mapMembers, settles _ _]
  | _ => rfl

theorem settles_removeMember (key : String) : Settles (removeMember key) := by
  intro v
  cases v with
  | obj members => simp [removeMember, erase]
  | _ => rfl

theorem settles_modifyAt (path : List String) (settles : Settles f) :
    Settles (modifyAt path f) := by
  induction path with
  | nil => exact settles
  | cons key path ih =>
    intro v
    have below : modifyAt path f ∘ modifyAt path f = modifyAt path f := funext ih
    rw [modifyAt_cons, modifyAt_cons key path f v, modifyAt_modifyAt, below]

theorem Settles.comp (first : Settles f) (second : Settles g) (swap : Function.Commute f g) :
    Settles (g ∘ f) := by
  intro v
  calc g (f (g (f v))) = g (g (f (f v))) := by rw [swap.eq (f v)]
    _ = g (f v) := by rw [first, second]

/-! What is found after a change. -/

theorem get?_modifyAt (key : String) (f : Json → Json) (v : Json) (name : String) :
    (v.modifyAt [key] f).get? name = (v.get? name).map (if name = key then f else id) := by
  have found := child_modifyAt key f v (.member name)
  simpa [child] using found

theorem walk_modifyAt (path : List String) (f : Json → Json) (v : Json) :
    (v.modifyAt path f).walk? path = (v.walk? path).map f := by
  induction path generalizing v with
  | nil => rfl
  | cons key path ih =>
    rw [modifyAt_cons, walk?, walk?, get?_modifyAt, if_pos rfl]
    cases v.get? key with
    | none => rfl
    | some w => exact ih w

/-! Changes that can be swapped. -/

theorem commute_member (key : String) (swap : Function.Commute f g) :
    Function.Commute (modifyAt [key] f) (modifyAt [key] g) := by
  intro v
  rw [modifyAt_modifyAt, modifyAt_modifyAt, swap.comp_eq]

theorem commute_members {key other : String} (apart : key ≠ other) :
    Function.Commute (modifyAt [key] f) (modifyAt [other] g) := by
  intro v
  cases v with
  | obj members => exact congrArg obj (Keyed.modify_comm apart f g members)
  | _ => rfl

theorem commute_removeMember {key other : String} (apart : key ≠ other) :
    Function.Commute (modifyAt [key] f) (removeMember other) := by
  intro v
  cases v with
  | obj members => exact congrArg obj (Keyed.modify_filter_ne apart f members)
  | _ => rfl

/-- Whether two paths part, so that neither is the beginning of the other. -/
def part : List String → List String → Bool
  | key :: path, other :: path' => if key = other then part path path' else true
  | _, _ => false

theorem commute_of_part {path path' : List String} (apart : part path path' = true) :
    Function.Commute (modifyAt path f) (modifyAt path' g) := by
  induction path generalizing path' with
  | nil => cases apart
  | cons key path ih =>
    cases path' with
    | nil => cases apart
    | cons other path' =>
      rw [funext (modifyAt_cons key path f), funext (modifyAt_cons other path' g)]
      by_cases same : key = other
      · subst same
        rw [part, if_pos rfl] at apart
        exact commute_member key (ih apart)
      · exact commute_members same

theorem commute_removeAt {path : List String} (place : List String) {key : String}
    (apart : part path (place ++ [key]) = true) :
    Function.Commute (modifyAt path f) (modifyAt place (removeMember key)) := by
  induction path generalizing place with
  | nil => cases place <;> cases apart
  | cons first path ih =>
    rw [funext (modifyAt_cons first path f)]
    cases place with
    | nil =>
      have other : first ≠ key := by
        intro same
        rw [List.nil_append, part, if_pos same] at apart
        cases path <;> cases apart
      exact commute_removeMember other
    | cons second place =>
      rw [funext (modifyAt_cons second place (removeMember key))]
      by_cases same : first = second
      · subst same
        rw [List.cons_append, part, if_pos rfl] at apart
        exact commute_member first (ih place apart)
      · exact commute_members same

def changeAll (changes : List (List String × (Json → Json))) (v : Json) : Json :=
  changes.foldl (fun t c => t.modifyAt c.1 c.2) v

theorem commute_changeAll {changes : List (List String × (Json → Json))}
    (swap : ∀ c ∈ changes, Function.Commute (modifyAt c.1 c.2) g) :
    Function.Commute (changeAll changes) g := by
  induction changes with
  | nil => exact fun v => rfl
  | cons c changes ih =>
    obtain ⟨here, later⟩ := List.forall_mem_cons.mp swap
    intro v
    have first : modifyAt c.1 c.2 (g v) = g (modifyAt c.1 c.2 v) := here v
    calc changeAll changes (modifyAt c.1 c.2 (g v)) =
      changeAll changes (g (modifyAt c.1 c.2 v)) := by rw [first]
      _ = g (changeAll changes (modifyAt c.1 c.2 v)) := ih later _

theorem settles_changeAll {changes : List (List String × (Json → Json))}
    (settle : ∀ c ∈ changes, Settles c.2)
    (apart : (changes.map Prod.fst).Pairwise fun path path' => part path path' = true) :
    Settles (changeAll changes) := by
  induction changes with
  | nil => exact fun v => rfl
  | cons c changes ih =>
    obtain ⟨here, later⟩ := List.forall_mem_cons.mp settle
    obtain ⟨first, rest⟩ := List.pairwise_cons.mp apart
    have swap : Function.Commute (changeAll changes) (modifyAt c.1 c.2) := by
      apply commute_changeAll
      intro c' member
      exact (commute_of_part (first c'.1 (List.mem_map_of_mem member))).symm
    exact (settles_modifyAt c.1 here).comp (ih later rest) swap.symm

end ClusterSurvey.Json
