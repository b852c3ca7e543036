import ClusterSurvey.Proofs.Redaction.Sensitive

/-!
Which rules a redaction follows, from its parts: what masks or empties a value follows a rule at the
root, a change to members or items follows the rules of the change one step further down, and one
redaction after another follows both lists of rules where no place is marked by both.
-/
namespace ClusterSurvey

namespace Redaction

open Json (Step Place Node)

def Rule.under (s : Selector) (r : Rule) : Rule := ⟨s :: r.path, r.sensitivity⟩

def Rule.underPath (path : List String) (r : Rule) : Rule :=
  ⟨path.map .member ++ r.path, r.sensitivity⟩

def masks (mask : Mask) (path : List String) : Rule := ⟨path.map .member, .masked mask⟩

theorem redactedAt_none (m : Marking) (p : Place) : redactedAt m p none = none := by
  induction p generalizing m with
  | nil => unfold redactedAt; split <;> rfl
  | cons t p ih =>
    unfold redactedAt
    split
    · rfl
    · rfl
    · exact ih _

theorem without_nothing {dropped : String → Bool}
    (nothing : ∀ name, dropped name = false) (n : Node) :
    n.without dropped = n := by
  cases n <;> simp [Node.without, nothing]

theorem redactedAt_root {m : Marking} (root : m [] = none) (n : Option Node) :
    redactedAt m [] n = n.map fun n => n.without m.drops := by
  rw [redactedAt, root]

theorem redactedAt_step {m : Marking} (root : m [] = none) (t : Step) (p : Place)
    (n : Option Node) :
    redactedAt m (t :: p) n = redactedAt (m.below t) p n := by
  rw [redactedAt, root]

theorem redactedAt_untouched {m : Marking} {p : Place} (clear : ∀ q, q <+: p → m q = none)
    (names : ∀ name, m (p ++ [.member name]) ≠ some .dropped) (n : Option Node) :
    redactedAt m p n = n := by
  induction p generalizing m with
  | nil =>
    have kept : ∀ name, m.drops name = false := fun name => decide_eq_false (names name)
    rw [redactedAt_root (clear [] List.prefix_rfl)]
    simp only [without_nothing kept, Option.map_id']
  | cons t p ih =>
    rw [redactedAt_step (clear [] List.nil_prefix)]
    exact ih (fun q inside => clear (t :: q) (List.cons_prefix_cons.mpr ⟨rfl, inside⟩)) names

theorem redactedAt_unmarked {m : Marking} (unmarked : ∀ p, m p = none) (p : Place)
    (n : Option Node) :
    redactedAt m p n = n :=
  redactedAt_untouched (fun q _ => unmarked q) (fun name => by simp [unmarked]) n

theorem without_text (dropped : String → Bool) (s : String) :
    (Node.text s).without dropped = .text s := rfl

theorem without_without (dropped more : String → Bool) (n : Node) :
    (n.without dropped).without more = n.without fun name => dropped name || more name := by
  cases n <;> simp [Node.without, List.filter_filter, Bool.and_comm]

theorem redactedAt_redactedAt {m k : Marking} (apart : ∀ p, m p = none ∨ k p = none) (p : Place)
    (n : Option Node) :
    redactedAt k p (redactedAt m p n) = redactedAt (fun q => (m q).or (k q)) p n := by
  -- at each step at most one of the two does anything to the root
  induction p generalizing m k with
  | nil =>
    have drops : (fun name => m.drops name || k.drops name) = Marking.drops fun q =>
        (m q).or (k q) := by
      funext name
      rcases apart [.member name] with first | second
      · simp [Marking.drops, first]
      · simp [Marking.drops, second]
    rcases apart [] with first | second
    · rw [redactedAt_root first, redactedAt, redactedAt, first, Option.none_or, ← drops]
      cases k [] with
      | none => simp [Function.comp_def, without_without]
      | some s => cases s <;> simp [Function.comp_def, without_without, without_mapText]
    · rw [redactedAt_root second, redactedAt, redactedAt, second, Option.or_none, ← drops]
      cases m [] with
      | none => simp [Function.comp_def, without_without]
      | some s => cases s <;> simp [Function.comp_def, without_without, without_text]
  | cons t p ih =>
    have below := ih fun q => apart (t :: q)
    rcases apart [] with first | second
    · rw [redactedAt_step first, redactedAt, redactedAt, first, Option.none_or]
      cases k [] with
      | none => exact below
      | some s =>
        cases s with
        | masked mask => exact below
        | _ => rfl
    · rw [redactedAt_step second, redactedAt, redactedAt, second, Option.or_none]
      cases m [] with
      | none => exact below
      | some s =>
        cases s with
        | masked mask => exact below
        | _ => exact redactedAt_none _ p

/-! The places that lists of rules mark. -/

theorem selects_member (key : String) (look : View) (t : Step) :
    (Selector.member key).selects look t = decide (t = .member key) := by
  cases t <;> simp [Selector.selects]

theorem leadsTo_root (path : List Selector) (look : View) :
    leadsTo path look [] = path.isEmpty := by
  cases path <;> rfl

theorem marking_root (rules : List Rule) (look look' : View) :
    marking rules look [] = marking rules look' [] := by
  simp only [marking, Rule.at, leadsTo_root]

theorem marking_append (rules more : List Rule) (look : View) (p : Place) :
    marking (rules ++ more) look p = (marking rules look p).or (marking more look p) :=
  List.findSome?_append

theorem marking_eq_none {rules : List Rule} {look : View} {p : Place}
    (missed : ∀ r ∈ rules, leadsTo r.path look p = false) : marking rules look p = none := by
  refine List.findSome?_eq_none_iff.mpr fun r member => ?_
  rw [Rule.at, missed r member]
  rfl

theorem marking_under_root (s : Selector) (rules : List Rule) (look : View) :
    marking (rules.map (Rule.under s)) look [] = none := by
  simp [marking, Rule.at, Rule.under, leadsTo_root]

theorem marking_under_step (s : Selector) (rules : List Rule) (look : View) (t : Step) (p : Place) :
    marking (rules.map (Rule.under s)) look (t :: p) =
      if s.selects look t then marking rules (fun q => look (t :: q)) p else none := by
  cases selected : s.selects look t <;>
    simp [marking, Rule.at, Rule.under, leadsTo, selected, List.findSome?_map, Function.comp_def]

theorem leadsTo_congr {path : List Selector} {look look' : View}
    (same : ∀ s ∈ path, ∀ q t,
      s.selects (fun r => look (q ++ r)) t = s.selects (fun r => look' (q ++ r)) t) (p : Place) :
    leadsTo path look p = leadsTo path look' p := by
  induction path generalizing look look' p with
  | nil => cases p <;> rfl
  | cons s path ih =>
    cases p with
    | nil => rfl
    | cons t p =>
      have step : s.selects look t = s.selects look' t := same s List.mem_cons_self [] t
      have tail : leadsTo path (fun q => look (t :: q)) p =
          leadsTo path (fun q => look' (t :: q)) p :=
        ih (fun s' member q => same s' (List.mem_cons_of_mem _ member) (t :: q)) p
      rw [leadsTo, leadsTo, step, tail]

theorem marking_congr {rules : List Rule} {look look' : View}
    (same : ∀ r ∈ rules, ∀ s ∈ r.path, ∀ q t,
      s.selects (fun p => look (q ++ p)) t = s.selects (fun p => look' (q ++ p)) t) :
    marking rules look = marking rules look' := by
  funext p
  induction rules with
  | nil => rfl
  | cons r rules ih =>
    obtain ⟨here, later⟩ := List.forall_mem_cons.mp same
    have first : r.at look p = r.at look' p := by rw [Rule.at, Rule.at, leadsTo_congr here p]
    have tail := ih later
    simp only [marking] at tail ⊢
    rw [List.findSome?_cons, List.findSome?_cons, first, tail]

theorem leadsTo_last {s : Selector} {t : Step} (missed : ∀ look, s.selects look t = false)
    (path : List Selector) (look : View) (q : Place) :
    leadsTo (path ++ [s]) look (q ++ [t]) = false := by
  induction path generalizing look q with
  | nil =>
    cases q with
    | nil => simp [leadsTo, missed]
    | cons u q => cases q <;> simp [leadsTo]
  | cons s' path ih =>
    cases q with
    | nil => simp [leadsTo, leadsTo_root]
    | cons u q => simp [leadsTo, ih]

/-! The parts of a redaction. -/

theorem redacts_mask (mask : Mask) : Redacts (Json.mapString mask.apply) [⟨[], .masked mask⟩] := by
  intro v p
  cases p with
  | nil =>
    have kept : ∀ name, (marking [⟨[], .masked mask⟩] v.view).drops name = false := fun name => rfl
    simp only [Json.view_root, Json.node_mapString]
    exact congrArg some (without_nothing kept _).symm
  | cons t p =>
    have unmarked : ∀ q, ((marking [⟨[], .masked mask⟩] v.view).below t) q = none := fun q => rfl
    rw [Json.view_step, Json.child_mapString]
    exact (redactedAt_unmarked unmarked p _).symm

theorem redacts_empty : Redacts (fun _ => .str "") [⟨[], .emptied⟩] := by
  intro v p
  cases p with
  | nil => rfl
  | cons t p => cases t <;> rfl

theorem redacts_remove (key : String) :
    Redacts (Json.removeMember key) [⟨[.member key], .dropped⟩] := by
  intro v p
  have marks : ∀ t q, marking [⟨[.member key], .dropped⟩] v.view (t :: q) =
      if t = .member key ∧ q = [] then some .dropped else none := by
    intro t q
    cases q <;> simp [marking, Rule.at, leadsTo, selects_member]
  cases p with
  | nil =>
    have drops : (marking [⟨[.member key], .dropped⟩] v.view).drops =
        fun n => decide (n = key) := by
      funext name
      simp [Marking.drops, marks]
    simp only [Json.view_root, Json.node_removeMember, ← drops]
    rfl
  | cons t p =>
    rw [Json.view_step, Json.child_removeMember, redactedAt_step rfl]
    by_cases here : t = .member key
    · have dropped : (marking [⟨[.member key], .dropped⟩] v.view).below t [] = some .dropped := by
        rw [Marking.below, marks, if_pos ⟨here, rfl⟩]
      rw [if_pos here]
      cases p <;> rw [redactedAt, dropped] <;> rfl
    · have unmarked : ∀ q, (marking [⟨[.member key], .dropped⟩] v.view).below t q = none := by
        intro q
        rw [Marking.below, marks, if_neg fun both => here both.1]
      rw [if_neg here, redactedAt_unmarked unmarked]
      rfl

theorem Redacts.root_kept {f : Json → Json} {rules : List Rule}
    (redacts : Redacts f rules) (look : View) :
    marking rules look [] ≠ some .dropped := by
  intro dropped
  have gone := redacts .null []
  rw [marking_root rules look Json.null.view] at dropped
  rw [redactedAt, dropped] at gone
  cases gone

theorem redacts_below {f g : Json → Json} {rules : List Rule}
    (redacts : Redacts f rules) (s : Selector) (root : ∀ v, (g v).node = v.node)
    (child : ∀ v t, (g v).child t = (v.child t).map (if s.selects v.view t then f else id)) :
    Redacts g (rules.map (Rule.under s)) := by
  intro v p
  have unmarked := marking_under_root s rules v.view
  cases p with
  | nil =>
    have kept : ∀ name, (marking (rules.map (Rule.under s)) v.view).drops name = false := by
      intro name
      rw [Marking.drops, marking_under_step]
      split
      · simpa using redacts.root_kept _
      · rfl
    rw [redactedAt_root unmarked, Json.view_root, Json.view_root, root, Option.map_some,
      without_nothing kept]
  | cons t p =>
    rw [redactedAt_step unmarked, Json.view_step, Json.view_step, child]
    cases found : v.child t with
    | none => exact (redactedAt_none _ p).symm
    | some w =>
      have below : (marking (rules.map (Rule.under s)) v.view).below t =
          if s.selects v.view t then marking rules w.view else fun _ => none := by
        funext q
        rw [Marking.below, marking_under_step]
        simp only [Json.view_child found]
        split <;> rfl
      rw [below, Option.map_some, Option.bind_some, Option.bind_some]
      split
      · exact redacts w p
      · exact (redactedAt_unmarked (fun _ => rfl) p _).symm

theorem redacts_member {f : Json → Json} {rules : List Rule} (redacts : Redacts f rules)
    (key : String) :
    Redacts (Json.modifyAt [key] f) (rules.map (Rule.under (.member key))) := by
  refine redacts_below redacts (.member key) (Json.node_modifyAt key f) fun v t => ?_
  rw [Json.child_modifyAt, selects_member]
  simp only [decide_eq_true_eq]

theorem redacts_members {f : Json → Json} {rules : List Rule} (redacts : Redacts f rules)
    (which : String → Bool) :
    Redacts (Json.mapMembers fun key v => if which key then f v else v)
      (rules.map (Rule.under (.members which))) := by
  refine redacts_below redacts (.members which) (Json.node_mapMembers _) fun v t => ?_
  cases t with
  | member name =>
    rw [Json.child_mapMembers_member]
    cases chosen : which name <;> simp [Selector.selects, chosen]
  | item index => simp [Json.child_mapMembers_item, Selector.selects]

theorem redacts_items {f : Json → Json} {rules : List Rule} (redacts : Redacts f rules) :
    Redacts (Json.mapItems f) (rules.map (Rule.under .items)) := by
  refine redacts_below redacts .items (Json.node_mapItems f) fun v t => ?_
  cases t with
  | member name => simp [Json.child_mapItems_member, Selector.selects]
  | item index => simp [Json.child_mapItems_item, Selector.selects]

def named (which : String → Bool) (v : Json) : Bool :=
  ((v.get? "name").bind Json.asString?).any which

theorem selects_itemsNamed (which : String → Bool) {v w : Json} {i : Nat}
    (found : v.child (.item i) = some w) :
    (Selector.itemsNamed which).selects v.view (.item i) = named which w := by
  have name : v.view [.item i, .member "name"] = (w.get? "name").map Json.node := by
    rw [Json.view_child found, Json.view_step, Option.map_eq_bind]
    rfl
  rw [Selector.selects, name, named]
  cases w.get? "name" with
  | none => rfl
  | some text => cases text <;> rfl

theorem redacts_itemsNamed {f : Json → Json} {rules : List Rule} (redacts : Redacts f rules)
    (which : String → Bool) :
    Redacts (Json.mapItems fun v => if named which v then f v else v)
      (rules.map (Rule.under (.itemsNamed which))) := by
  refine redacts_below redacts (.itemsNamed which) (Json.node_mapItems _) fun v t => ?_
  cases t with
  | member name => simp [Json.child_mapItems_member, Selector.selects]
  | item index =>
    rw [Json.child_mapItems_item]
    cases found : v.child (.item index) with
    | none => rfl
    | some w =>
      rw [selects_itemsNamed which found]
      cases chosen : named which w <;> simp [chosen]

theorem redacts_path {f : Json → Json} {rules : List Rule} (redacts : Redacts f rules)
    (path : List String) :
    Redacts (Json.modifyAt path f) (rules.map (Rule.underPath path)) := by
  induction path with
  | nil =>
    have unchanged : Rule.underPath [] = id := rfl
    rw [unchanged, List.map_id]
    intro v
    rw [Json.modifyAt]
    exact redacts v
  | cons key path ih =>
    have steps : Json.modifyAt (key :: path) f = Json.modifyAt [key] (Json.modifyAt path f) :=
      funext (Json.modifyAt_cons key path f)
    have rules' : rules.map (Rule.underPath (key :: path)) =
        (rules.map (Rule.underPath path)).map (Rule.under (.member key)) := by
      rw [List.map_map]
      rfl
    rw [steps, rules']
    exact redacts_member ih key

theorem redacts_masks (mask : Mask) (path : List String) :
    Redacts (Json.modifyAt path (Json.mapString mask.apply)) [masks mask path] := by
  have rule : [⟨[], .masked mask⟩].map (Rule.underPath path) = [masks mask path] := by
    simp [Rule.underPath, masks]
  rw [← rule]
  exact redacts_path (redacts_mask mask) path

theorem redacts_nothing : Redacts (fun v => v) [] :=
  fun _ p => (redactedAt_unmarked (fun _ => rfl) p _).symm

/-! One redaction after another. -/

def Selector.apart : Selector → Selector → Bool
  | .member a, .member b => a ≠ b
  | .member a, .members which => !which a
  | .members which, .member a => !which a
  | .member _, .items | .member _, .itemsNamed _ | .members _, .items | .members _, .itemsNamed _ =>
      true
  | .items, .member _ | .itemsNamed _, .member _ | .items, .members _ | .itemsNamed _, .members _ =>
      true
  | _, _ => false

def apartPaths : List Selector → List Selector → Bool
  | s :: path, s' :: path' => s.apart s' || apartPaths path path'
  | [], [] => false
  | _, _ => true

def Selector.isFixed : Selector → Bool
  | .itemsNamed _ => false
  | _ => true

theorem selects_apart {s s' : Selector} (apart : s.apart s' = true) (look look' : View) (t : Step) :
    s.selects look t = false ∨ s'.selects look' t = false := by
  cases s <;> cases s' <;> cases t <;> grind [Selector.apart, Selector.selects]

theorem leadsTo_apart {path path' : List Selector} (apart : apartPaths path path' = true)
    (look look' : View) (p : Place) :
    leadsTo path look p = false ∨ leadsTo path' look' p = false := by
  induction path generalizing path' look look' p with
  | nil =>
    cases path' with
    | nil => cases apart
    | cons s' path' => cases p <;> simp [leadsTo]
  | cons s path ih =>
    cases path' with
    | nil => cases p <;> simp [leadsTo]
    | cons s' path' =>
      cases p with
      | nil => exact Or.inl rfl
      | cons t p =>
        simp only [leadsTo, Bool.and_eq_false_iff]
        rcases Bool.or_eq_true_iff.mp apart with here | later
        · rcases selects_apart here look look' t with first | second
          · exact Or.inl (Or.inl first)
          · exact Or.inr (Or.inl second)
        · rcases ih later (fun q => look (t :: q)) (fun q => look' (t :: q)) p with first | second
          · exact Or.inl (Or.inr first)
          · exact Or.inr (Or.inr second)

theorem marking_apart {rules more : List Rule}
    (apart : ∀ r ∈ rules, ∀ r' ∈ more, apartPaths r.path r'.path = true)
    (look look' : View) (p : Place) :
    marking rules look p = none ∨ marking more look' p = none := by
  by_cases reached : ∃ r ∈ rules, leadsTo r.path look p = true
  · obtain ⟨r, member, leads⟩ := reached
    refine Or.inr (marking_eq_none fun r' member' => ?_)
    rcases leadsTo_apart (apart r member r' member') look look' p with first | second
    · rw [leads] at first
      cases first
    · exact second
  · refine Or.inl (marking_eq_none fun r member => ?_)
    exact Bool.eq_false_of_not_eq_true fun leads => reached ⟨r, member, leads⟩

theorem marking_fixed {rules : List Rule} (fixed : ∀ r ∈ rules, r.path.all Selector.isFixed = true)
    (look look' : View) : marking rules look = marking rules look' := by
  refine marking_congr fun r member s inside q t => ?_
  have here := List.all_eq_true.mp (fixed r member) s inside
  cases s <;> cases t <;> first | rfl | cases here

/-- The redactions of two lists of rules one after the other. What the second list marks must not
depend on what the first redaction does. -/
theorem redacts_then {f g : Json → Json} {rules more : List Rule} (first : Redacts f rules)
    (second : Redacts g more) (stable : ∀ v, marking more (f v).view = marking more v.view)
    (apart : ∀ r ∈ rules, ∀ r' ∈ more, apartPaths r.path r'.path = true) :
    Redacts (fun v => g (f v)) (rules ++ more) := by
  intro v p
  have both : marking (rules ++ more) v.view =
      fun q => (marking rules v.view q).or (marking more v.view q) :=
    funext (marking_append rules more v.view)
  rw [second, first, stable, both]
  exact redactedAt_redactedAt (marking_apart apart v.view v.view) p (v.view p)

end Redaction

end ClusterSurvey
