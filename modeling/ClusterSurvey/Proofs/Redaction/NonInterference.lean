import ClusterSurvey.Proofs.Redaction.Kinds

/-!
The record of a resource does not depend on what is sensitive in it, and it keeps everything else.
-/
namespace ClusterSurvey

namespace Redaction

open Json (Step Place Node)

/-- What is sensitive in a resource. -/
def sensitive (rules : List Rule) (tree : Json) : Marking :=
  marking (managedRules ++ rules) tree.view

/-- A tree is what the rules leave of another: everywhere what they say, so the same node wherever
nothing on the way is sensitive and no name there is left out. -/
structure LeftOf (m : Marking) (tree out : Json) : Prop where
  nodes : ∀ p, out.view p = redactedAt m p (tree.view p)
  untouched : ∀ p, (∀ q, q <+: p → m q = none) → (∀ name, m (p ++ [.member name]) ≠ some .dropped) →
    out.view p = tree.view p
  namesOnce : tree.NamesOnce → out.NamesOnce

theorem Redacts.leftOf {f : Json → Json} {rules : List Rule}
    (redacts : Redacts f rules) (tree : Json) :
    LeftOf (marking rules tree.view) tree (f tree) where
  nodes := redacts tree
  untouched p clear names := (redacts tree p).trans (redactedAt_untouched clear names _)
  namesOnce := redacts.namesOnce

theorem eq_of_alikeAt {m : Marking}
    (texts : ∀ p, m p = none ∨ ∃ mask, m p = some (.masked mask)) {p : Place}
    (unmarked : m p = none) {a b : Option Node} (alike : alikeAt m p a b) : a = b := by
  induction p generalizing m with
  | nil =>
    have kept : ∀ name, m.drops name = false := by
      intro name
      rcases texts [.member name] with plain | ⟨mask, masked⟩
      · simp [Marking.drops, plain]
      · simp [Marking.drops, masked]
    rw [alikeAt, unmarked] at alike
    simpa only [without_nothing kept, Option.map_id'] using alike
  | cons t p ih =>
    rw [alikeAt] at alike
    rcases texts [] with plain | ⟨mask, masked⟩
    · rw [plain] at alike
      exact ih (fun q => texts (t :: q)) unmarked alike
    · rw [masked] at alike
      exact ih (fun q => texts (t :: q)) unmarked alike

theorem sensitive_pod_spec (tree : Json) (p : Place) :
    (sensitive podRules tree).below (.member "spec") p =
      marking environmentRules (fun q => tree.view (.member "spec" :: q)) p := by
  have unmanaged : marking managedRules tree.view (.member "spec" :: p) = none :=
    marking_eq_none (by simp [managedRules, leadsTo, Selector.selects])
  rw [Marking.below, sensitive, marking_append, unmanaged, Option.none_or, podRules,
    marking_under_step]
  rfl

theorem environment_texts (look : View) (p : Place) :
    marking environmentRules look p = none ∨
      ∃ mask, marking environmentRules look p = some (.masked mask) := by
  cases marked : marking environmentRules look p with
  | none => exact Or.inl rfl
  | some s =>
    obtain ⟨r, member, here⟩ := List.exists_of_findSome?_eq_some marked
    obtain ⟨list, _, rfl⟩ := List.mem_map.mp member
    rw [Rule.at, Option.ite_none_right_eq_some] at here
    exact Or.inr ⟨.text, here.2.symm⟩

theorem environment_name (look : View) (q : Place) :
    marking environmentRules look (q ++ [.member "name"]) = none := by
  refine marking_eq_none fun r member => ?_
  obtain ⟨list, _, rfl⟩ := List.mem_map.mp member
  exact leadsTo_last (fun _ => rfl) [.member list, .items, .member "env",
    .itemsNamed (holdsOneOf ["HTTP_PROXY", "HTTPS_PROXY"])] look q

/-- Alike pods have the same names of variables, so the same places are sensitive in them. -/
theorem sensitive_pod {a b : Json} (alike : Alike (sensitive podRules a) a b) :
    sensitive podRules a = sensitive podRules b := by
  have names : ∀ q, a.view (.member "spec" :: (q ++ [.member "name"])) =
      b.view (.member "spec" :: (q ++ [.member "name"])) := by
    intro q
    have root : sensitive podRules a [] = none := rfl
    have here := alike (.member "spec" :: (q ++ [.member "name"]))
    rw [alikeAt, root] at here
    refine eq_of_alikeAt (fun p => ?_) ?_ here
    · rw [sensitive_pod_spec]
      exact environment_texts _ p
    · rw [sensitive_pod_spec]
      exact environment_name _ q
  -- names of variables are all that the rules ask of a tree
  have environment : marking environmentRules (fun p => a.view (.member "spec" :: p)) =
      marking environmentRules fun p => b.view (.member "spec" :: p) := by
    refine marking_congr fun r _ s _ q t => ?_
    cases s with
    | itemsNamed which =>
      cases t with
      | member name => rfl
      | item i =>
        have name := names (q ++ [.item i])
        rw [List.append_assoc, List.singleton_append] at name
        simp only [Selector.selects, name]
    | _ => cases t <;> rfl
  have containers : marking podRules a.view = marking podRules b.view := by
    funext p
    cases p with
    | nil => exact marking_root _ _ _
    | cons t p =>
      rw [podRules, marking_under_step, marking_under_step, selects_member, selects_member]
      by_cases spec : t = .member "spec"
      · subst spec
        rw [environment]
      · simp only [decide_eq_false spec, Bool.false_eq_true, ↓reduceIte]
  have managed : marking managedRules a.view = marking managedRules b.view :=
    marking_fixed (by decide) _ _
  funext p
  rw [sensitive, sensitive, marking_append, marking_append, managed, containers]

theorem sensitive_eq {kind : Kind} {rules : List Rule}
    (placed : kind.rules? = some rules) {a b : Json} (alike : Alike (sensitive rules a) a b) :
    sensitive rules a = sensitive rules b := by
  cases kind with
  | pod =>
    cases placed
    exact sensitive_pod alike
  | mutatingWebhook => cases placed
  | operatorResource => cases placed
  | _ =>
    cases placed
    exact marking_fixed (by decide) _ _

/-- The record of a resource has at each place what the rules of its kind leave of the resource, so
all that is not sensitive is kept. Resources that agree except for what is sensitive have the same
record. -/
theorem record_independent_of_sensitive {kind : Kind} {rules : List Rule}
    (placed : kind.rules? = some rules) (a : Json) :
    (∃ out, (Item.redacted kind a).marshal = .ok (Item.jsonBytes out) ∧
      LeftOf (sensitive rules a) a out) ∧
    ∀ b, a.NamesOnce → b.NamesOnce → Alike (sensitive rules a) a b →
      (Item.redacted kind a).marshal = (Item.redacted kind b).marshal := by
  obtain ⟨f, result, redacts⟩ := redacts_kind placed
  refine ⟨⟨f a, ?_, redacts.leftOf a⟩, fun b once_a once_b alike => ?_⟩
  · rw [Item.marshal, result]
    rfl
  · have same : f a = f b := redacts.eq_of_alike once_a once_b (sensitive_eq placed alike) alike
    rw [Item.marshal, Item.marshal, result, result, same]

def labelledNode (note team : String) : Json :=
  .obj [("metadata", .obj [("annotations", .obj [("note", .str note)]),
    ("labels", .obj [("team", .str team)])])]

theorem labelledNode_namesOnce (note team : String) : (labelledNode note team).NamesOnce := by
  have annotations : (Json.obj [("note", .str note)]).NamesOnce :=
    Json.namesOnce_obj (by simp) (by simp [Json.namesOnce_str])
  have labels : (Json.obj [("team", .str team)]).NamesOnce :=
    Json.namesOnce_obj (by simp) (by simp [Json.namesOnce_str])
  have metadata : (Json.obj [("annotations", .obj [("note", .str note)]),
      ("labels", .obj [("team", .str team)])]).NamesOnce :=
    Json.namesOnce_obj (by simp) (by simp [annotations, labels])
  exact Json.namesOnce_obj (by simp) (by simp [metadata])

theorem labelledNode_alike (note note' : String) {team team' : String}
    (bytes : Mask.text.Alike team team') :
    Alike (sensitive nodeRules (labelledNode note team)) (labelledNode note team)
      (labelledNode note' team') := by
  have foreign : isForeign "note" = true ∧ isForeign "team" = true := by decide
  refine alike_obj rfl (.cons ⟨rfl,
    alike_obj rfl (.cons ⟨rfl, ?annotations⟩ (.cons ⟨rfl, ?labels⟩ .nil))⟩ .nil)
  case annotations =>
    refine alike_obj rfl (.cons ⟨rfl, alike_emptied ?_ _ _⟩ .nil)
    simp [Marking.below, sensitive, marking, managedRules, nodeRules, Rule.at, leadsTo,
      Selector.selects, foreign, lastAppliedAnnotation]
  case labels =>
    refine alike_obj rfl (.cons ⟨rfl, alike_text ?_ bytes⟩ .nil)
    simp [Marking.below, sensitive, marking, managedRules, nodeRules, Rule.at, leadsTo,
      Selector.selects, foreign]

theorem labelledNode_recorded :
    Kind.node.rules? = some nodeRules ∧
    Alike (sensitive nodeRules (labelledNode "rack 7" "red")) (labelledNode "rack 7" "red")
      (labelledNode "moved in May" "tan") ∧
    (Item.redacted .node (labelledNode "rack 7" "red")).marshal =
      (Item.redacted .node (labelledNode "moved in May" "tan")).marshal := by
  have bytes : Mask.text.Alike "red" "tan" := show "red".utf8ByteSize = "tan".utf8ByteSize from rfl
  have alike := labelledNode_alike "rack 7" "moved in May" bytes
  have recorded := record_independent_of_sensitive (rfl : Kind.node.rules? = some nodeRules)
    (labelledNode "rack 7" "red")
  exact ⟨rfl, alike, recorded.2 _ (labelledNode_namesOnce _ _) (labelledNode_namesOnce _ _) alike⟩

end Redaction

end ClusterSurvey
