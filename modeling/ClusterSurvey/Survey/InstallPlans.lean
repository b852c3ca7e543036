import ClusterSurvey.Survey.Output

/-!
Install plans of operators, counted by namespace, generated name and first version that they
install. The most frequent ones are reported.
-/
namespace ClusterSurvey.Survey

structure CountedPlan where
  ns : String
  name : String
  csv : String
  count : Nat
  deriving DecidableEq, Repr

structure PlanCounter where
  plans : List (String × CountedPlan)
  total : Nat

def noVersion : String := "[NONE]"

def planOf (plan : Json) : CountedPlan where
  ns := plan.namespaceOf
  name := plan.stringAt ["metadata", "generateName"]
  csv :=
    ((plan.itemsAt ["spec", "clusterServiceVersionNames"]).head?.bind Json.asString?).getD noVersion
  count := 1

def CountedPlan.key (p : CountedPlan) : String := p.ns ++ "." ++ p.name ++ "." ++ p.csv

namespace PlanCounter

/-- Counts a plan: under a key that is known the count grows, else the plan gets its place. -/
def insert (p : CountedPlan) : List (String × CountedPlan) → List (String × CountedPlan)
  | [] => [(p.key, p)]
  | (k, q) :: rest =>
    if k = p.key then (k, { q with count := q.count + 1 }) :: rest
    else if p.key < k then (p.key, p) :: (k, q) :: rest
    else (k, q) :: insert p rest

def empty : PlanCounter := ⟨[], 0⟩

def add (c : PlanCounter) (plan : Json) : PlanCounter := ⟨insert (planOf plan) c.plans, c.total + 1⟩

def counted (c : PlanCounter) : List CountedPlan := c.plans.map (·.2)

/-- The count from which on plans are reported: that of the last of the `limit` most frequent ones,
0 if there are no more than `limit`. -/
def threshold (c : PlanCounter) (limit : Nat) : Nat :=
  let counts := (c.counted.map (·.count)).mergeSort fun a b => decide (b ≤ a)
  if limit < counts.length then (counts[limit - 1]?).getD 0 else 0

def top (c : PlanCounter) (limit : Nat) : List CountedPlan :=
  ((c.counted.filter fun p => c.threshold limit ≤ p.count).take limit).mergeSort
    fun a b => decide (b.count ≤ a.count)

end PlanCounter

def CountedPlan.toJson (p : CountedPlan) : Json :=
  .obj [("ns", .str p.ns), ("name", .str p.name), ("csv", .str p.csv), ("count", .int p.count)]

def PlanCounter.report (c : PlanCounter) (limit : Nat) : Json :=
  .obj
    [("stats", .obj [("TOTAL_COUNT", .int c.total), ("TOTAL_NONUNIQ_COUNT", .int c.plans.length)]),
    ("items", .arr ((c.top limit).map CountedPlan.toJson))]

def reportedPlans : Nat := 100

def plansOf {σ : Type} (c : Client σ) (ns : String) : Gather σ (Option (List Json)) := do
  let pager := ((Pager.of .installPlans).within ns).withLimit pageSize
  return (← Gather.callUnlessMissing (pager.collect c)).map (·.items)

def plansOfAll {σ : Type} (c : Client σ) : List String → Gather σ (Option (List Json))
  | [] => return some []
  | ns :: rest => do
    match ← plansOf c ns with
    | none => return none
    | some plans => return (← plansOfAll c rest).map (plans ++ ·)

def installPlans {σ : Type} (c : Client σ) : Gather σ (List Record) := do
  match ← Gather.callUnlessMissing (platformNamespaces c) with
  | none => return []
  | some namespaces =>
    match ← plansOfAll c namespaces with
    | none => return []
    | some plans =>
      return [.of "config/installplans"
        (.json ((plans.foldl PlanCounter.add .empty).report reportedPlans))]

end ClusterSurvey.Survey
