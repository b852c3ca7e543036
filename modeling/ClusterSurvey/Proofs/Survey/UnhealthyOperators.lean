import ClusterSurvey.Proofs.Survey.LogBudget
import ClusterSurvey.Proofs.Survey.LogRequests
import ClusterSurvey.Proofs.Text.Split
import ClusterSurvey.Survey.Operators
import Mathlib.Data.List.Flatten
import Mathlib.Data.List.Nodup
import Mathlib.Data.List.Pairwise

/-!
What is gathered for unhealthy operators. The events of a namespace are gathered once, but its pods
are gathered as often as operators name it. So nothing is there twice exactly when no unhealthy pod
is in two of the namespaces that are looked at, one that is named twice counted as two.
-/
namespace ClusterSurvey.Survey

variable {σ : Type}

/-- Whether a pod is listed for a namespace. That without a name stands for all. -/
def Within (pod : Json) (ns : String) : Prop := ns = "" ∨ pod.namespaceOf = ns

instance (pod : Json) (ns : String) : Decidable (Within pod ns) :=
  inferInstanceAs (Decidable (_ ∨ _))

structure Shows (c : Client σ) (operators pods : List Json) (readable : String → Bool) : Prop where
  operators : ∀ s, ∃ t, (listAll c .clusterOperators none).run s = (.ok operators, t)
  pods : ∀ ns, readable ns = true → ∀ s, ∃ t,
    (listAll c .pods (some ns)).run s = (.ok (pods.filter fun pod => Within pod ns), t)
  others : ∀ ns, readable ns = false → ∀ s, ∃ e t, (listAll c .pods (some ns)).run s = (.error e, t)

/-- No two pods share namespace and name, and no two containers of a pod their name. Names of
namespaces and of pods are without slashes. -/
structure PodsApart (pods : List Json) : Prop where
  places : (pods.map fun pod => (pod.namespaceOf, pod.name)).Nodup
  containers : ∀ pod ∈ pods, (containerNames pod).Nodup
  plain : ∀ pod ∈ pods, '/' ∉ pod.namespaceOf.toList ∧ '/' ∉ pod.name.toList

/-- The namespaces that are looked at: those that unhealthy operators name, as often as they do, if
they can be read. -/
def lookedAt (operators : List Json) (readable : String → Bool) : List String :=
  ((operators.filter fun o => !isHealthyOperator o).flatMap operatorNamespaces).filter readable

def unhealthyIn (pods : List Json) (now : Instant) (ns : String) : List Json :=
  (pods.filter fun pod => Within pod ns).filter fun pod => !isHealthyPod pod now

def unhealthyPods (pods : List Json) (now : Instant) (namespaces : List String) : List Json :=
  namespaces.flatMap (unhealthyIn pods now)

def countedContainers (pods : List Json) : List (String × String × String) :=
  pods.flatMap fun pod => (containerNames pod).map (pod.namespaceOf, pod.name, ·)

def requestsFor (pods : List Json) : List LogRequest :=
  match logBufferSize (countedContainers pods).length with
  | none => []
  | some size => (readTargets pods).map (logRequest size)

/-- Whether no unhealthy pod of some kind is in two of some namespaces. -/
def InOneOf (namespaces : List String) (pods : List Json) (now : Instant) (kind : Json → Prop) :
    Prop :=
  namespaces.Pairwise fun a b =>
    ∀ pod ∈ pods, isHealthyPod pod now = false → kind pod → ¬ (Within pod a ∧ Within pod b)

section Apart

theorem mem_unhealthyIn {pods : List Json} {now : Instant} {ns : String} {pod : Json} :
    pod ∈ unhealthyIn pods now ns ↔ pod ∈ pods ∧ Within pod ns ∧ isHealthyPod pod now = false := by
  simp only [unhealthyIn, List.mem_filter, decide_eq_true_eq, Bool.not_eq_true', and_assoc]

theorem nodup_flatMap_unhealthy {α : Type} {pods : List Json} {g : Json → List α}
    (apart : (pods.flatMap g).Nodup) (now : Instant) (namespaces : List String) :
    ((unhealthyPods pods now namespaces).flatMap g).Nodup ↔
      InOneOf namespaces pods now fun pod => g pod ≠ [] := by
  have part : ∀ ns, ((unhealthyIn pods now ns).flatMap g).Nodup := fun ns =>
    apart.sublist ((List.filter_sublist.trans List.filter_sublist).flatMap g)
  have one : ∀ pod ∈ pods, ∀ pod' ∈ pods, ∀ x, x ∈ g pod → x ∈ g pod' → pod = pod' := by
    intro pod member pod' member' x here there
    by_contra other
    have : Std.Symm (Function.onFun List.Disjoint g) :=
      ⟨fun _ _ disjoint _ here there => disjoint there here⟩
    exact (List.nodup_flatMap.mp apart).2.forall member member' other here there
  rw [unhealthyPods, List.flatMap_assoc, List.nodup_flatMap, and_iff_right fun ns _ => part ns]
  refine List.Pairwise.iff fun a b => ?_
  constructor
  · intro disjoint pod member sick some ⟨here, there⟩
    obtain ⟨x, inside⟩ := List.exists_mem_of_ne_nil _ some
    have among : ∀ ns, Within pod ns → x ∈ (unhealthyIn pods now ns).flatMap g := fun ns within =>
      List.mem_flatMap.mpr ⟨pod, mem_unhealthyIn.mpr ⟨member, within, sick⟩, inside⟩
    exact disjoint (among a here) (among b there)
  · intro once x here there
    obtain ⟨pod, member, inside⟩ := List.mem_flatMap.mp here
    obtain ⟨pod', member', inside'⟩ := List.mem_flatMap.mp there
    obtain ⟨known, within, sick⟩ := mem_unhealthyIn.mp member
    obtain ⟨known', within', _⟩ := mem_unhealthyIn.mp member'
    obtain rfl := one pod known pod' known' x inside inside'
    exact once pod known sick (List.ne_nil_of_mem inside) ⟨within, within'⟩

theorem PodsApart.counted {pods : List Json} (apart : PodsApart pods) :
    (countedContainers pods).Nodup := by
  refine List.nodup_flatMap.mpr ⟨fun pod member => ?_, ?_⟩
  · exact (apart.containers pod member).map fun _ _ same => (Prod.mk.inj (Prod.mk.inj same).2).2
  · refine (List.pairwise_map.mp apart.places).imp fun {pod pod'} other x here there => ?_
    obtain ⟨name, _, rfl⟩ := List.mem_map.mp here
    obtain ⟨name', _, same⟩ := List.mem_map.mp there
    obtain ⟨ns, rest⟩ := Prod.mk.inj same
    exact other (Prod.ext ns.symm (Prod.mk.inj rest).1.symm)

theorem unhealthyPods_subset (pods : List Json) (now : Instant) (namespaces : List String) :
    unhealthyPods pods now namespaces ⊆ pods := by
  intro pod member
  obtain ⟨ns, _, inside⟩ := List.mem_flatMap.mp member
  exact (mem_unhealthyIn.mp inside).1

end Apart

section Names

def logPlace (target : Bool × Json × String) : Bool × String × String × String :=
  (target.1, target.2.1.namespaceOf, target.2.1.name, target.2.2)

theorem nodup_logPlaces (pods : List Json) :
    ((readTargets pods).map logPlace).Nodup ↔ (countedContainers pods).Nodup := by
  have places : ∀ l : List Json, ∀ previous : Bool,
      (l.flatMap fun pod => (containerNames pod).map (pod, ·)).map (logPlace ∘ (previous, ·)) =
        (countedContainers l).map (previous, ·) := by
    intro l previous
    simp [countedContainers, List.map_flatMap, logPlace, Function.comp_def]
  have apart : ∀ previous : Bool, Function.Injective fun place : String × String × String =>
      (previous, place) :=
    fun _ _ _ same => (Prod.mk.inj same).2
  rw [readTargets, List.map_append, List.map_map, List.map_map, logTargets, logTargets, if_pos rfl,
    if_neg (by decide), places, places, List.nodup_append, List.nodup_map_iff (apart _),
    List.nodup_map_iff (apart _)]
  constructor
  · exact fun once => once.2.1
  · intro once
    refine ⟨once.sublist (List.filter_sublist.flatMap _), once, ?_⟩
    intro a here b there same
    obtain ⟨_, _, rfl⟩ := List.mem_map.mp here
    obtain ⟨_, _, rfl⟩ := List.mem_map.mp there
    cases same

theorem nodup_logRequests (size : Nat) (targets : List (Bool × Json × String)) :
    (targets.map (logRequest size)).Nodup ↔ (targets.map logPlace).Nodup := by
  let request : Bool × String × String × String → LogRequest := fun place =>
    ⟨place.2.1, place.2.2.1, tailOptions place.2.2.2 size place.1⟩
  have told : Function.Injective request := by
    rintro ⟨previous, ns, pod, container⟩ ⟨previous', ns', pod', container'⟩ same
    simp only [request, tailOptions, LogRequest.mk.injEq, LogOptions.mk.injEq] at same
    obtain ⟨rfl, rfl, rfl, -, -, -, rfl⟩ := same
    rfl
  have whole : targets.map (logRequest size) = (targets.map logPlace).map request := by
    rw [List.map_map]
    rfl
  rw [whole, List.nodup_map_iff told]

theorem nodup_requestsFor (pods : List Json) :
    (requestsFor pods).Nodup ↔
      logBufferSize (countedContainers pods).length = none ∨ (countedContainers pods).Nodup := by
  unfold requestsFor
  cases logBufferSize (countedContainers pods).length with
  | none => simp
  | some size => simp [nodup_logRequests, nodup_logPlaces]

def podName (ns name : String) : String := "config/pod/" ++ ns ++ "/" ++ name

def eventsName (ns : String) : String := "events/" ++ ns

theorem podName_inj {ns ns' name name' : String} (plain : '/' ∉ ns.toList)
    (plain' : '/' ∉ ns'.toList) (same : podName ns name = podName ns' name') :
    ns = ns' ∧ name = name' := by
  have text := congrArg String.toList same
  simp only [podName, String.toList_append, List.append_assoc] at text
  obtain ⟨first, rest⟩ := Text.parts_of_joined plain plain' (List.append_cancel_left text)
  exact ⟨String.toList_injective first, String.toList_injective rest⟩

theorem eventsName_inj {ns ns' : String} (same : eventsName ns = eventsName ns') : ns = ns' := by
  have text := congrArg String.toList same
  rw [eventsName, eventsName, String.toList_append, String.toList_append] at text
  exact String.toList_injective (List.append_cancel_left text)

theorem podName_ne_eventsName (ns name ns' : String) : podName ns name ≠ eventsName ns' := by
  intro same
  have first := congrArg (fun s => s.toList.head?) same
  simp [podName, eventsName] at first

def logEnding (previous : Bool) : String := if previous then "_previous.log" else "_current.log"

theorem logName_eq (ns pod container : String) (previous : Bool) :
    logName ns pod container previous =
      podName ns ("logs/" ++ (pod ++ ("/" ++ (container ++ logEnding previous)))) := by
  apply String.toList_injective
  simp [logName, podName, logEnding]

theorem logName_ne_eventsName (ns pod container : String) (previous : Bool) (ns' : String) :
    logName ns pod container previous ≠ eventsName ns' := by
  rw [logName_eq]
  exact podName_ne_eventsName _ _ _

theorem podName_ne_logName {ns ns' name : String} (plain : '/' ∉ ns.toList)
    (plain' : '/' ∉ ns'.toList) (short : '/' ∉ name.toList) (pod container : String)
    (previous : Bool) :
    podName ns name ≠ logName ns' pod container previous := by
  intro same
  rw [logName_eq] at same
  obtain ⟨_, rfl⟩ := podName_inj plain plain' same
  exact short (by simp)

theorem logName_inj {ns ns' pod pod' container container' : String} {previous previous' : Bool}
    (plain : '/' ∉ ns.toList) (plain' : '/' ∉ ns'.toList) (short : '/' ∉ pod.toList)
    (short' : '/' ∉ pod'.toList)
    (same : logName ns pod container previous = logName ns' pod' container' previous') :
    ns = ns' ∧ pod = pod' ∧ container = container' ∧ previous = previous' := by
  rw [logName_eq, logName_eq] at same
  obtain ⟨rfl, rest⟩ := podName_inj plain plain' same
  have text := congrArg String.toList rest
  simp only [String.toList_append] at text
  obtain ⟨pod, last⟩ := Text.parts_of_joined short short' (List.append_cancel_left text)
  -- The letter in front of the extension tells the runs apart.
  have run : previous = previous' := by
    have letter := congrArg (fun cs => cs.reverse[4]?) last
    cases previous <;> cases previous' <;> simp [logEnding] at letter ⊢
  subst run
  exact ⟨rfl, String.toList_injective pod,
    String.toList_injective (List.append_cancel_right last), rfl⟩

end Names

section Findings

variable {c : Client σ} {operators pods : List Json} {readable : String → Bool} {now : Instant}

theorem namespaceEvents_lists (c : Client σ) (ns : String) (now : Instant) :
    Lists (namespaceEvents c.heard ns now) (namespaceEvents c ns now) := by
  unfold namespaceEvents
  split
  · exact .pure _
  · refine .bind (.list c _ _ _) fun answer => ?_
    cases answer <;> exact .pure _

theorem names_namespaceEvents {ns : String} {s : σ} {records : List Record}
    (answered : ((namespaceEvents c ns now).run s).1 = .ok records) :
    (records.map Record.name).Sublist [eventsName ns] := by
  unfold namespaceEvents at answered
  split at answered
  · cases answered
    exact List.nil_sublist _
  · cases listed : (c.list .events (some ns) .all).run s with
    | mk answer t =>
      rw [Gather.run_state_bind listed] at answered
      cases answer with
      | error e => cases answered
      | ok page =>
        cases answered
        exact List.Sublist.refl _

inductive EventsAdded (ns : String) (known : List String) : List Record → List String → Prop
  | none : EventsAdded ns known [] known
  | asked {records : List Record} : ns ∉ known → (records.map Record.name).Sublist [eventsName ns] →
      EventsAdded ns known records (ns :: known)

theorem addNamespace_run (shows : Shows c operators pods readable) (f : Findings)
    (ns : String) (s : σ) :
    ∃ events known t, (f.addNamespace c now ns).run s =
        (⟨f.records ++ (unhealthyPods pods now ([ns].filter readable)).map podRecord ++ events,
          f.pods ++ unhealthyPods pods now ([ns].filter readable), known⟩, t) ∧
      EventsAdded ns f.withEvents events known := by
  unfold Findings.addNamespace
  cases seen : readable ns with
  | false =>
    obtain ⟨e, t, failed⟩ := shows.others ns seen s
    rw [Gather.run_state_bind failed, List.filter_cons_of_neg (by simp [seen])]
    refine ⟨[], f.withEvents, t, ?_, .none⟩
    simp only [List.filter_nil, unhealthyPods, List.flatMap_nil, List.map_nil, List.append_nil]
    rfl
  | true =>
    obtain ⟨t, listed⟩ := shows.pods ns seen s
    have sick : unhealthyPods pods now ([ns].filter readable) = unhealthyIn pods now ns := by
      rw [List.filter_cons_of_pos seen]
      exact List.append_nil _
    rw [Gather.run_state_bind listed, sick]
    dsimp only
    by_cases known : ns ∈ f.withEvents
    · rw [if_pos known]
      exact ⟨[], f.withEvents, t, by rw [List.append_nil]; rfl, .none⟩
    · rw [if_neg known]
      cases told : (namespaceEvents c ns now).run t with
      | mk answer u =>
        rw [Gather.run_state_bind told]
        cases answer with
        | error e => exact ⟨[], f.withEvents, u, by rw [List.append_nil]; rfl, .none⟩
        | ok records =>
          exact ⟨records, ns :: f.withEvents, u, rfl,
            .asked known (names_namespaceEvents (congrArg Prod.fst told))⟩

/-- The records of findings are those of the pods, and one at most for the events of each
namespace. -/
def Tells (f : Findings) : Prop :=
  ∃ named : List String, named.Nodup ∧ named ⊆ f.withEvents ∧
    (f.records.map Record.name).Perm (f.pods.map (fun pod => podName pod.namespaceOf pod.name)
        ++ named.map eventsName)

theorem Tells.add {f : Findings} (tells : Tells f) (more : List Json) {ns : String}
    {events : List Record} {known : List String}
    (added : EventsAdded ns f.withEvents events known) :
    Tells ⟨f.records ++ more.map podRecord ++ events, f.pods ++ more, known⟩ := by
  obtain ⟨named, once, inside, names⟩ := tells
  have podNames : (more.map podRecord).map Record.name =
      more.map fun pod => podName pod.namespaceOf pod.name := by
    rw [List.map_map]
    rfl
  -- The names of the new records come behind those of all namespaces before, so they are put in
  -- order.
  have inOrder : ∀ named' :
      List String, (named'.map eventsName).Perm (events.map Record.name ++ named.map eventsName) →
      ((f.records ++ more.map podRecord ++ events).map Record.name).Perm
        ((f.pods ++ more).map (fun pod => podName pod.namespaceOf pod.name)
            ++ named'.map eventsName) := by
    intro named' same
    rw [List.perm_iff_count] at names same ⊢
    intro name
    have before := names name
    have here := same name
    rw [List.map_append, List.map_append, List.map_append, podNames]
    simp only [List.count_append] at before here ⊢
    omega
  cases added with
  | none => exact ⟨named, once, inside, inOrder named (List.Perm.refl _)⟩
  | asked unasked names' =>
    have later : named ⊆ ns :: f.withEvents := List.subset_cons_of_subset ns inside
    cases events with
    | nil => exact ⟨named, once, later, inOrder named (List.Perm.refl _)⟩
    | cons event events =>
      have same := names'.eq_of_length_le (by simp)
      refine ⟨ns :: named, List.nodup_cons.mpr ⟨fun known => unasked (inside known), once⟩,
        List.cons_subset_cons ns inside, inOrder _ ?_⟩
      rw [same]
      exact List.Perm.refl _

theorem unhealthyPods_append (pods : List Json) (now : Instant) (front back : List String) :
    unhealthyPods pods now (front ++ back) = unhealthyPods pods now front
      ++ unhealthyPods pods now back :=
  List.flatMap_append

theorem findings_run (shows : Shows c operators pods readable)
    (namespaces : List String) {f : Findings} (tells : Tells f) (s : σ) :
    ∃ f' t, (namespaces.foldlM (Findings.addNamespace c now) f).run s = (f', t) ∧
      f'.pods = f.pods ++ unhealthyPods pods now (namespaces.filter readable) ∧ Tells f' := by
  induction namespaces generalizing f s with
  | nil => exact ⟨f, s, rfl, (List.append_nil _).symm, tells⟩
  | cons ns namespaces ih =>
    obtain ⟨events, known, t, first, added⟩ := addNamespace_run shows f ns s
    obtain ⟨f', u, rest, gathered, told⟩ :=
      ih (tells.add (unhealthyPods pods now ([ns].filter readable)) added) t
    refine ⟨f', u, ?_, ?_, told⟩
    · rw [List.foldlM_cons, Gather.run_state_bind first, rest]
    · rw [gathered, List.append_assoc, ← unhealthyPods_append, ← List.filter_append]
      rfl

theorem addNamespace_lists (c : Client σ) (now : Instant) (f : Findings) (ns : String) :
    Lists (f.addNamespace c.heard now ns) (f.addNamespace c now ns) := by
  unfold Findings.addNamespace
  refine .bind (listAll_lists c _ _) fun answer => ?_
  cases answer with
  | error e => exact .pure _
  | ok pods =>
    dsimp only
    split
    · exact .pure _
    · refine .bind (namespaceEvents_lists c ns now) fun told => ?_
      cases told <;> exact .pure _

theorem operatorPodsAndEvents_run (shows : Shows c operators pods readable) (now : Instant)
    (s : σ) :
    let found := unhealthyPods pods now (lookedAt operators readable)
    ∃ (f : Findings) (logs : List Record) (t : σ) (exchanges : List Exchange),
      (operatorPodsAndEvents c now false).run.run s = (.ok (f.records ++ logs), t) ∧
      (operatorPodsAndEvents c.heard now false).run.run (s, []) =
        (.ok (f.records ++ logs), t, exchanges) ∧
      exchanges.filterMap Exchange.log? = requestsFor found ∧
      f.pods = found ∧ Tells f ∧
      (logs.map Record.name).Sublist ((readTargets found).map targetName) := by
  intro found
  obtain ⟨t, listed⟩ := shows.operators s
  obtain ⟨first, lists, listed'⟩ := listAll_lists c .clusterOperators none s
  replace listed' := listed' []
  rw [listed] at listed'
  have nothing : Tells ⟨[], [], []⟩ := ⟨[], List.nodup_nil, List.nil_subset _, List.Perm.refl _⟩
  obtain ⟨f, u, run, gathered, tells⟩ := findings_run shows
    ((operators.filter fun o => !isHealthyOperator o).flatMap operatorNamespaces) nothing t
  obtain ⟨further, lists', run'⟩ := Lists.foldlM (addNamespace_lists c now)
    ((operators.filter fun o => !isHealthyOperator o).flatMap operatorNamespaces) ⟨[], [], []⟩ t
  have same : f.pods = found := gathered
  have count : (f.pods.flatMap containerNames).length = (countedContainers found).length := by
    rw [same, countedContainers, List.length_flatMap, List.length_flatMap]
    simp only [List.length_map]
  have silent : (([] ++ first) ++ further).filterMap Exchange.log? = [] := by
    rw [List.nil_append, List.filterMap_append, Exchange.no_log_of_lists lists,
      Exchange.no_log_of_lists lists', List.append_nil]
  unfold operatorPodsAndEvents
  rw [Gather.run_bind_of_ok (Gather.run_call listed),
    Gather.run_bind_of_ok (Gather.run_call listed'), Gather.run_lift_bind, Gather.run_lift_bind,
    run', run]
  dsimp only
  rw [requestsFor, count]
  cases share : logBufferSize (countedContainers found).length with
  | none =>
    have whole : f.records ++ [] = f.records := List.append_nil _
    exact ⟨f, [], u, _, by rw [whole]; rfl, by rw [whole]; rfl, silent, same, tells,
      List.nil_sublist _⟩
  | some size =>
    dsimp only
    obtain ⟨requests, asked, read⟩ := containerLogs_heard c f.pods (share_lt share) u
    have logs := containerLogs_run c f.pods (share_lt share) u
    rw [logs] at read
    rw [Gather.run_bind_of_ok logs, Gather.run_bind_of_ok (read _), same]
    refine ⟨f, _, _, _, rfl, rfl, ?_, same, tells, names_logRecords _ _ _⟩
    rw [List.filterMap_append, silent, asked, same]
    rfl

end Findings

section Once

theorem PodsApart.part {pods part : List Json} (apart : PodsApart pods) (inside : part ⊆ pods)
    (places : (part.map fun pod => (pod.namespaceOf, pod.name)).Nodup) : PodsApart part where
  places := places
  containers := fun pod member => apart.containers pod (inside member)
  plain := fun pod member => apart.plain pod (inside member)

theorem PodsApart.podNames {pods : List Json} (apart : PodsApart pods) :
    (pods.map fun pod => podName pod.namespaceOf pod.name).Nodup := by
  have whole : (pods.map fun pod => podName pod.namespaceOf pod.name) =
      (pods.map fun pod => (pod.namespaceOf, pod.name)).map fun place =>
        podName place.1 place.2 := by
    rw [List.map_map]
    rfl
  rw [whole]
  refine apart.places.map_on fun place here place' there same => ?_
  obtain ⟨pod, member, rfl⟩ := List.mem_map.mp here
  obtain ⟨pod', member', rfl⟩ := List.mem_map.mp there
  obtain ⟨ns, name⟩ := podName_inj (apart.plain pod member).1 (apart.plain pod' member').1 same
  exact Prod.ext ns name

theorem pod_of_readTargets {pods : List Json} {target : Bool × Json × String}
    (read : target ∈ readTargets pods) :
    target.2.1 ∈ pods := by
  have inside : ∀ previous, ∀ t ∈ logTargets pods previous, t.1 ∈ pods := by
    intro previous t member
    obtain ⟨pod, chosen, named⟩ := List.mem_flatMap.mp member
    obtain ⟨_, _, rfl⟩ := List.mem_map.mp named
    split at chosen
    · exact (List.mem_filter.mp chosen).1
    · exact chosen
  rcases List.mem_append.mp read with earlier | present
  · obtain ⟨t, member, rfl⟩ := List.mem_map.mp earlier
    exact inside true t member
  · obtain ⟨t, member, rfl⟩ := List.mem_map.mp present
    exact inside false t member

theorem PodsApart.targetNames {pods : List Json} (apart : PodsApart pods) :
    ((readTargets pods).map targetName).Nodup := by
  have whole : (readTargets pods).map targetName =
      ((readTargets pods).map logPlace).map fun place =>
        logName place.2.1 place.2.2.1 place.2.2.2 place.1 := by
    rw [List.map_map]
    rfl
  rw [whole]
  refine ((nodup_logPlaces pods).mpr apart.counted).map_on fun place here place' there same => ?_
  obtain ⟨target, read, rfl⟩ := List.mem_map.mp here
  obtain ⟨target', read', rfl⟩ := List.mem_map.mp there
  have plain := apart.plain _ (pod_of_readTargets read)
  have plain' := apart.plain _ (pod_of_readTargets read')
  obtain ⟨ns, pod, container, run⟩ := logName_inj plain.1 plain'.1 plain.2 plain'.2 same
  exact Prod.ext run (Prod.ext ns (Prod.ext pod container))

theorem nodup_names_iff {pods : List Json} (apart : PodsApart pods) {f : Findings}
    (inside : f.pods ⊆ pods) (tells : Tells f) {logs : List Record}
    (read : (logs.map Record.name).Sublist ((readTargets f.pods).map targetName)) :
    ((f.records ++ logs).map Record.name).Nodup ↔
    (f.pods.map fun pod => (pod.namespaceOf, pod.name)).Nodup := by
  obtain ⟨named, once, _, order⟩ := tells
  rw [List.map_append, (order.append_right _).nodup_iff]
  constructor
  · intro all
    have names := all.of_append_left.of_append_left
    refine List.Nodup.of_map (fun place : String × String => podName place.1 place.2) ?_
    rw [List.map_map]
    exact names
  · intro places
    have apart' := apart.part inside places
    have events : (named.map eventsName).Nodup := once.map fun _ _ => eventsName_inj
    refine List.nodup_append.mpr ⟨List.nodup_append.mpr ⟨apart'.podNames, events, ?podsAndEvents⟩,
      apart'.targetNames.sublist read, ?logs⟩
    case podsAndEvents =>
      intro name here name' there
      obtain ⟨pod, _, rfl⟩ := List.mem_map.mp here
      obtain ⟨ns, _, rfl⟩ := List.mem_map.mp there
      exact podName_ne_eventsName _ _ _
    case logs =>
      intro name here name' there
      obtain ⟨target, member, rfl⟩ := List.mem_map.mp (read.subset there)
      have plain := apart'.plain _ (pod_of_readTargets member)
      rcases List.mem_append.mp here with ofPod | ofEvents
      · obtain ⟨pod, member', rfl⟩ := List.mem_map.mp ofPod
        exact podName_ne_logName (apart'.plain pod member').1 plain.1
          (apart'.plain pod member').2 _ _ _
      · obtain ⟨ns, _, rfl⟩ := List.mem_map.mp ofEvents
        exact (logName_ne_eventsName _ _ _ _ _).symm

theorem InOneOf.congr {namespaces : List String} {pods : List Json} {now : Instant}
    {kind kind' : Json → Prop} (same : ∀ pod, kind pod ↔ kind' pod) :
    InOneOf namespaces pods now kind ↔ InOneOf namespaces pods now kind' := by
  rw [funext fun pod => propext (same pod)]

theorem inOneOf_of_nodup {namespaces : List String} (once : namespaces.Nodup)
    (some : "" ∉ namespaces) (pods : List Json) (now : Instant) (kind : Json → Prop) :
    InOneOf namespaces pods now kind := by
  refine once.imp_of_mem fun {a b} here there other pod _ _ _ ⟨first, second⟩ => ?_
  rcases first with rfl | first
  · exact some here
  · rcases second with rfl | second
    · exact some there
    · exact other (first.symm.trans second)

end Once

/-- Records have different names exactly if no unhealthy pod is in two of the namespaces that are
looked at, and containers are counted once, and their logs asked for once, exactly if no such pod
with a container is. So it is where no namespace is named twice, nor the one that stands for all. -/
theorem gathered_once_iff {c : Client σ} {operators pods : List Json} {readable : String → Bool}
    (shows : Shows c operators pods readable) (apart : PodsApart pods) (now : Instant) (s : σ) :
    let namespaces := lookedAt operators readable
    let found := unhealthyPods pods now namespaces
    ∃ records t,
      (operatorPodsAndEvents c now false).run.run s = (.ok records, t) ∧
      (∃ exchanges, (operatorPodsAndEvents c.heard now false).run.run (s, []) =
          (.ok records, t, exchanges) ∧ exchanges.filterMap Exchange.log? = requestsFor found) ∧
      ((records.map Record.name).Nodup ↔ InOneOf namespaces pods now fun _ => True) ∧
      ((countedContainers found).Nodup ↔
          InOneOf namespaces pods now fun pod => containerNames pod ≠ []) ∧
      ((requestsFor found).Nodup ↔
        logBufferSize (countedContainers found).length = none ∨ (countedContainers found).Nodup) ∧
      (namespaces.Nodup → "" ∉ namespaces →
        (records.map Record.name).Nodup ∧ (countedContainers found).Nodup ∧
          (requestsFor found).Nodup) := by
  intro namespaces found
  obtain ⟨f, logs, t, exchanges, run, heard, asked, gathered, tells, read⟩ :=
    operatorPodsAndEvents_run shows now s
  have names : ((f.records ++ logs).map Record.name).Nodup ↔
      InOneOf namespaces pods now fun _ => True := by
    have place : (pods.flatMap fun pod => [(pod.namespaceOf, pod.name)]).Nodup := by
      rw [← List.map_eq_flatMap]
      exact apart.places
    have inside : f.pods ⊆ pods := gathered ▸ unhealthyPods_subset pods now namespaces
    rw [nodup_names_iff apart inside tells (gathered ▸ read), gathered, List.map_eq_flatMap,
      nodup_flatMap_unhealthy place]
    exact InOneOf.congr fun pod => by simp
  have counted : (countedContainers found).Nodup ↔
      InOneOf namespaces pods now fun pod => containerNames pod ≠ [] :=
    (nodup_flatMap_unhealthy apart.counted now namespaces).trans (InOneOf.congr fun pod => by simp)
  have once := nodup_requestsFor found
  refine ⟨_, t, run, ⟨exchanges, heard, asked⟩, names, counted, once, fun distinct some => ?_⟩
  have each := inOneOf_of_nodup distinct some pods now
  exact ⟨names.mpr (each _), counted.mpr (each _), once.mpr (Or.inr (counted.mpr (each _)))⟩

def showing (operators pods : List Json) : Client Unit where
  pageBound := 1
  list r ns _ :=
    return .ok ⟨if r = .clusterOperators then operators
      else if r = .pods then pods.filter fun pod => Within pod (ns.getD "")
      else [], none⟩
  get _ _ name := return .error (.notFound name)
  logs _ _ _ := return .ok ⟨[Bytes.ofString "ready"], none⟩
  raw path _ := return .error (.notFound path)

theorem shows_showing (operators pods : List Json) :
    Shows (showing operators pods) operators pods fun _ => true where
  operators s := by
    refine ⟨(), ?_⟩
    change (Except.ok [operators].flatten, ()) = _
    rw [List.flatten_singleton]
  pods ns _ s := by
    refine ⟨(), ?_⟩
    change (Except.ok [pods.filter fun pod => Within pod ns].flatten, ()) = _
    rw [List.flatten_singleton]
  others _ never := by cases never

def degraded (namespaces : List String) : Json :=
  .obj [("metadata", .obj [("name", .str "web")]),
    ("status", .obj [
      ("conditions", .arr [.obj [("type", .str "Degraded"), ("status", .str "True")]]),
      ("relatedObjects", .arr (namespaces.map fun ns =>
        .obj [("group", .str ""), ("resource", .str "namespaces"), ("name", .str ns)]))])]

theorem webPod_apart : PodsApart [webPod 1] where
  places := List.nodup_singleton _
  containers := by decide +kernel
  plain := by decide +kernel

theorem namedOnce_gathered_once :
    Shows (showing [degraded ["shop"]] [webPod 1]) [degraded ["shop"]] [webPod 1] (fun _ => true) ∧
      PodsApart [webPod 1] ∧
      ∃ records exchanges, (operatorPodsAndEvents (showing [degraded ["shop"]] [webPod 1]).heard
          (Instant.ofSeconds 0) false).run.run ((), []) = (.ok records, (), exchanges) ∧
        (records.map Record.name).Nodup ∧ (exchanges.filterMap Exchange.log?).Nodup := by
  have shows := shows_showing [degraded ["shop"]] [webPod 1]
  obtain ⟨records, t, _, ⟨exchanges, run, asked⟩, _, _, _, once⟩ :=
    gathered_once_iff shows webPod_apart (Instant.ofSeconds 0) ()
  obtain ⟨names, _, requests⟩ := once (by decide +kernel) (by decide +kernel)
  exact ⟨shows, webPod_apart, records, exchanges, run, names, asked ▸ requests⟩

/-- All pods of a namespace that an operator names twice are gathered twice, their containers are
counted twice, and so each log is asked for twice, with half of the share. -/
theorem namedTwice_gathered_twice :
    Shows (showing [degraded ["shop", "shop"]] [webPod 1]) [degraded ["shop", "shop"]] [webPod 1]
      (fun _ => true) ∧
      PodsApart [webPod 1] ∧
      ∃ records exchanges,
        (operatorPodsAndEvents (showing [degraded ["shop", "shop"]] [webPod 1]).heard
          (Instant.ofSeconds 0) false).run.run ((), []) = (.ok records, (), exchanges) ∧
        ¬ (records.map Record.name).Nodup ∧
        exchanges.filterMap Exchange.log? = [true, true, false, false].map fun previous =>
          ⟨"shop", "web-0", tailOptions "app" (Settings.maxLogSize / 2) previous⟩ := by
  have shows := shows_showing [degraded ["shop", "shop"]] [webPod 1]
  obtain ⟨f, logs, t, exchanges, _, run, asked, gathered, tells, read⟩ :=
    operatorPodsAndEvents_run shows (Instant.ofSeconds 0) ()
  have found : unhealthyPods [webPod 1] (Instant.ofSeconds 0)
      (lookedAt [degraded ["shop", "shop"]] fun _ => true) = [webPod 1, webPod 1] := rfl
  rw [found] at asked gathered read
  refine ⟨shows, webPod_apart, f.records ++ logs, exchanges, run, ?_,
    asked.trans (by decide +kernel)⟩
  rw [nodup_names_iff webPod_apart (by rw [gathered]; simp) tells (gathered ▸ read), gathered]
  decide +kernel

end ClusterSurvey.Survey
