import ClusterSurvey.Proofs.Json.View
import ClusterSurvey.Redaction.Mask
import Mathlib.Data.List.Forall2

/-!
Redaction told by rules. A rule leads to places of a tree, step by step, and says what becomes of
the values there. From the rules follow two things that do not mention how a tree is redacted: which
trees a reader of the result must not tell apart, and what the result has at each place.
-/
namespace ClusterSurvey

namespace Redaction

open Json (Step Place Node)

inductive Mask where
  | text
  | address
  | addressList
  deriving DecidableEq

def Mask.apply : Mask → String → String
  | .text => maskText
  | .address => maskAddress
  | .addressList => maskAddressList

/-- Texts with the same characters, except where both have one that is no mark. -/
def SameMarks (isMark : Char → Bool) (s t : String) : Prop :=
  List.Forall₂ (fun c d => c = d ∨ isMark c = false ∧ isMark d = false) s.toList t.toList

/-- The texts that a mask must not tell apart: those with as many bytes, or those with the same
marks. -/
def Mask.Alike : Mask → String → String → Prop
  | .text, s, t => s.utf8ByteSize = t.utf8ByteSize
  | .address, s, t => SameMarks isAddressMark s t
  | .addressList, s, t => SameMarks (fun c => isAddressMark c || c = ',') s t

/-- What becomes of a value: a text is masked, any value is replaced by the empty text, or it is
left out. -/
inductive Sensitivity where
  | masked (mask : Mask)
  | emptied
  | dropped
  deriving DecidableEq

abbrev Marking := Place → Option Sensitivity

abbrev View := Place → Option Node

def Marking.below (m : Marking) (t : Step) : Marking := fun p => m (t :: p)

def Marking.drops (m : Marking) (name : String) : Bool := m [.member name] = some .dropped

/-- What is left of a node of the tree: nothing at or below a value that is left out and nothing
below one that is emptied, the mask of a text that is masked, and otherwise the node, less the names
that are left out. -/
def redactedAt (m : Marking) : Place → Option Node → Option Node
  | [], n =>
    match m [] with
    | some .dropped => none
    | some .emptied => n.map fun _ => .text ""
    | some (.masked mask) => n.map fun n => (n.mapText mask.apply).without m.drops
    | none => n.map fun n => n.without m.drops
  | t :: p, n =>
    match m [] with
    | some .dropped | some .emptied => none
    | _ => redactedAt (m.below t) p n

/-- Nodes that a reader of the result must not tell apart: any two at or below a value that is left
out and below one that is emptied, two texts that the mask treats alike, and otherwise equal nodes,
up to names that are left out. -/
def alikeAt (m : Marking) : Place → Option Node → Option Node → Prop
  | [], a, b =>
    let equal := (a.map fun n => n.without m.drops) = b.map fun n => n.without m.drops
    match m [] with
    | some .dropped => True
    | some .emptied => a.isSome = b.isSome
    | some (.masked mask) => equal ∨ ∃ s t, a = some (.text s) ∧ b = some (.text t) ∧ mask.Alike s t
    | none => equal
  | t :: p, a, b =>
    match m [] with
    | some .dropped | some .emptied => True
    | _ => alikeAt (m.below t) p a b

/-- Trees that agree except for what is sensitive. -/
def Alike (m : Marking) (a b : Json) : Prop := ∀ p, alikeAt m p (a.view p) (b.view p)

/-- Selects steps: to one member, to the members with some names, to all items of an array, or to
the items with some names, as the member `name` of the item tells them. -/
inductive Selector where
  | member (name : String)
  | members (which : String → Bool)
  | items
  | itemsNamed (which : String → Bool)

def Selector.selects : Selector → View → Step → Bool
  | .member name, _, .member n => n = name
  | .members which, _, .member n => which n
  | .items, _, .item _ => true
  | .itemsNamed which, look, .item i =>
    match look [.item i, .member "name"] with
    | some (.text name) => which name
    | _ => false
  | _, _, _ => false

/-- Whether the selectors lead to a place. -/
def leadsTo : List Selector → View → Place → Bool
  | [], _, [] => true
  | s :: path, look, t :: p => s.selects look t && leadsTo path (fun q => look (t :: q)) p
  | _, _, _ => false

structure Rule where
  path : List Selector
  sensitivity : Sensitivity

def Rule.at (r : Rule) (look : View) (p : Place) : Option Sensitivity :=
  if leadsTo r.path look p then some r.sensitivity else none

def marking (rules : List Rule) (look : View) : Marking :=
  fun p => rules.findSome? fun r => r.at look p

/-- A function redacts by rules: what it leaves of each tree is what the rules say. -/
def Redacts (f : Json → Json) (rules : List Rule) : Prop :=
  ∀ v p, (f v).view p = redactedAt (marking rules v.view) p (v.view p)

/-! Alike trees, built from the root down. -/

theorem alikeAt_none (m : Marking) (p : Place) : alikeAt m p none none := by
  induction p generalizing m with
  | nil =>
    unfold alikeAt
    cases m [] with
    | none => rfl
    | some s =>
      cases s with
      | masked mask => exact Or.inl rfl
      | emptied => rfl
      | dropped => trivial
  | cons t p ih =>
    unfold alikeAt
    split
    · trivial
    · trivial
    · exact ih _

theorem alike_text {m : Marking} {mask : Mask} (masked : m [] = some (.masked mask)) {s t : String}
    (same : mask.Alike s t) : Alike m (.str s) (.str t) := by
  intro p
  cases p with
  | nil =>
    unfold alikeAt
    rw [masked]
    exact Or.inr ⟨s, t, rfl, rfl, same⟩
  | cons u p => cases u <;> exact alikeAt_none m (_ :: p)

theorem alike_emptied {m : Marking} (emptied : m [] = some .emptied) (v w : Json) :
    Alike m v w := by
  intro p
  unfold alikeAt
  rw [emptied]
  cases p with
  | nil => rfl
  | cons t p => trivial

theorem lookup_alike {m : Marking} {members members' : List (String × Json)}
    (below : List.Forall₂ (fun x y => x.1 = y.1 ∧
      Alike (m.below (.member x.1)) x.2 y.2) members members')
    (name : String) :
    members.lookup name = none ∧ members'.lookup name = none ∨
      ∃ v w, members.lookup name = some v ∧ members'.lookup name = some w ∧
        Alike (m.below (.member name)) v w := by
  induction below with
  | nil => exact Or.inl ⟨rfl, rfl⟩
  | @cons x y _ _ here _ ih =>
    obtain ⟨k, v⟩ := x
    obtain ⟨k', w⟩ := y
    obtain ⟨rfl, alike⟩ := here
    rw [Keyed.lookup_cons, Keyed.lookup_cons]
    by_cases same : k = name
    · subst same
      exact Or.inr ⟨v, w, if_pos rfl, if_pos rfl, alike⟩
    · rw [if_neg same, if_neg same]
      exact ih

theorem alike_obj {m : Marking} (root : m [] = none) {members members' : List (String × Json)}
    (below : List.Forall₂ (fun x y => x.1 = y.1 ∧
      Alike (m.below (.member x.1)) x.2 y.2) members members') :
    Alike m (.obj members) (.obj members') := by
  intro p
  cases p with
  | nil =>
    have names : members.map (fun x => x.1) = members'.map fun x => x.1 := by
      rw [← List.forall₂_eq_eq_eq, List.forall₂_map_left_iff, List.forall₂_map_right_iff]
      exact below.imp fun _ _ both => both.1
    unfold alikeAt
    rw [root]
    simp only [Json.view_root, Json.node, names]
  | cons t p =>
    rw [alikeAt, root, Json.view_step, Json.view_step]
    cases t with
    | item index => exact alikeAt_none _ p
    | member name =>
      rcases lookup_alike below name with ⟨first, second⟩ | ⟨v, w, first, second, alike⟩
      · have missing : (Json.obj members).child (.member name) = none := first
        have missing' : (Json.obj members').child (.member name) = none := second
        rw [missing, missing']
        exact alikeAt_none _ p
      · have found : (Json.obj members).child (.member name) = some v := first
        have found' : (Json.obj members').child (.member name) = some w := second
        rw [found, found']
        exact alike p

/-! Alike trees are redacted to equal ones. -/

theorem maskText_eq {s t : String} (alike : Mask.text.Alike s t) : maskText s = maskText t :=
  congrArg (fun n => String.ofList (List.replicate n 'x')) alike

theorem map_mask_eq {isMark : Char → Bool} {s t : String} (alike : SameMarks isMark s t) :
    (s.toList.map fun c => if isMark c then c else 'x') = t.toList.map fun c => if isMark c then
      c else 'x' := by
  rw [← List.forall₂_eq_eq_eq, List.forall₂_map_left_iff, List.forall₂_map_right_iff]
  refine List.Forall₂.imp (fun c d same => ?_) alike
  rcases same with rfl | ⟨first, second⟩
  · rfl
  · simp [first, second]

theorem Mask.apply_eq {mask : Mask} {s t : String} (alike : mask.Alike s t) :
    mask.apply s = mask.apply t := by
  cases mask with
  | text => exact maskText_eq alike
  | address => exact congrArg String.ofList (map_mask_eq alike)
  | addressList => exact congrArg String.ofList (map_mask_eq alike)

theorem without_mapText (f : String → String) (dropped : String → Bool) (n : Node) :
    (n.mapText f).without dropped = (n.without dropped).mapText f := by
  cases n <;> rfl

theorem redactedAt_eq {m : Marking} {p : Place} {a b : Option Node} (alike : alikeAt m p a b) :
    redactedAt m p a = redactedAt m p b := by
  induction p generalizing m with
  | nil =>
    unfold alikeAt at alike
    unfold redactedAt
    cases marked : m [] with
    | none => simpa only [marked] using alike
    | some s =>
      simp only [marked] at alike ⊢
      cases s with
      | dropped => rfl
      | emptied =>
        -- only whether there is a value is left
        cases a <;> cases b <;> first | rfl | cases alike
      | masked mask =>
        rcases alike with equal | ⟨s, t, rfl, rfl, alike⟩
        · simp only [without_mapText]
          have mapped := congrArg (Option.map (Node.mapText mask.apply)) equal
          simpa only [Option.map_map, Function.comp_def] using mapped
        · simp only [Option.map_some, Node.mapText, Mask.apply_eq alike]
  | cons t p ih =>
    unfold alikeAt at alike
    unfold redactedAt
    cases marked : m [] with
    | none => exact ih (by simpa only [marked] using alike)
    | some s =>
      cases s with
      | masked mask => exact ih (by simpa only [marked] using alike)
      | _ => rfl

theorem object_of_mapText {f : String → String} {n : Node} {names : List String}
    (left : n.mapText f = .object names) : n = .object names := by
  cases n with
  | text s => cases left
  | _ => exact left

theorem object_of_without {dropped : String → Bool} {n : Node} {names : List String}
    (left : n.without dropped = .object names) :
    ∃ before, n = .object before ∧ names.Sublist before := by
  cases n with
  | object before =>
    injection left with left
    exact ⟨before, rfl, left ▸ List.filter_sublist⟩
  | _ => cases left

theorem object_of_redactedAt {m : Marking} {p : Place} {n : Option Node} {names : List String}
    (left : redactedAt m p n = some (.object names)) :
    ∃ before, n = some (.object before) ∧ names.Sublist before := by
  induction p generalizing m with
  | nil =>
    unfold redactedAt at left
    cases n with
    | none => split at left <;> cases left
    | some n =>
      split at left
      · cases left
      · cases left
      · obtain ⟨before, same, sublist⟩ := object_of_without (Option.some.inj left)
        exact ⟨before, congrArg some (object_of_mapText same), sublist⟩
      · obtain ⟨before, same, sublist⟩ := object_of_without (Option.some.inj left)
        exact ⟨before, congrArg some same, sublist⟩
  | cons t p ih =>
    unfold redactedAt at left
    split at left
    · cases left
    · cases left
    · exact ih left

theorem Redacts.namesOnce {f : Json → Json} {rules : List Rule}
    (redacts : Redacts f rules) {v : Json} (once : v.NamesOnce) : (f v).NamesOnce := by
  intro p names left
  obtain ⟨before, present, sublist⟩ := object_of_redactedAt ((redacts v p).symm.trans left)
  exact (once p before present).sublist sublist

/-- Where the rules mark the same places in both, trees that agree except for what is sensitive
become equal. -/
theorem Redacts.eq_of_alike {f : Json → Json} {rules : List Rule}
    (redacts : Redacts f rules) {a b : Json} (once_a : a.NamesOnce) (once_b : b.NamesOnce)
    (marks : marking rules a.view = marking rules b.view)
    (alike : Alike (marking rules a.view) a b) : f a = f b := by
  refine Json.eq_of_view (redacts.namesOnce once_a) (redacts.namesOnce once_b) (funext fun p => ?_)
  rw [redacts a p, redacts b p, ← marks]
  exact redactedAt_eq (alike p)

end Redaction

end ClusterSurvey
