import ClusterSurvey.Proofs.Log.Filtering
import ClusterSurvey.Proofs.Log.Maximum
import ClusterSurvey.Proofs.Recording.Overwriting
import ClusterSurvey.Proofs.Survey.Gathering
import ClusterSurvey.Proofs.Text.Split
import Mathlib.Data.List.Nodup

/-!
The names of filtered logs. A log is named for its namespace and its pod, and not for its container.
Where names of pods and containers are clear, two logs have one name exactly when they are of one
pod, and of those a recorder keeps the last.
-/
namespace ClusterSurvey.Log

variable {σ : Type}

structure ContainerLog where
  ns : String
  pod : String
  container : String
  data : Bytes

namespace ContainerLog

def record (l : ContainerLog) : Record := .of (errorsLogName l.ns l.pod l.container) (.raw l.data)

def place (l : ContainerLog) : String × String × String := (l.ns, l.pod, l.container)

theorem fileName_record (l : ContainerLog) :
    l.record.fileName = errorsLogName l.ns l.pod l.container := rfl

theorem bytes_record (l : ContainerLog) : l.record.bytes = l.data := rfl

theorem readable_records (logs : List ContainerLog) : Recording.Readable (logs.map record) := by
  intro r member
  obtain ⟨l, _, rfl⟩ := List.mem_map.mp member
  exact ⟨_, rfl⟩

theorem fileName_eq_iff {a b : ContainerLog} (plain : '/' ∉ a.ns.toList)
    (plain' : '/' ∉ b.ns.toList) :
    a.record.fileName = b.record.fileName ↔ a.ns = b.ns ∧ a.pod = b.pod := by
  have text : ∀ l : ContainerLog, l.record.fileName.toList =
      "config/pod/".toList ++ (l.ns.toList
        ++ '/' :: ("logs/".toList ++ (l.pod.toList ++ "/errors.log".toList))) := by
    intro l
    simp [fileName_record, errorsLogName]
  constructor
  · intro same
    have whole := congrArg String.toList same
    rw [text, text] at whole
    obtain ⟨ns, rest⟩ := Text.parts_of_joined plain plain' (List.append_cancel_left whole)
    exact ⟨String.toList_injective ns,
      String.toList_injective (List.append_cancel_right (List.append_cancel_left rest))⟩
  · rintro ⟨ns, pod⟩
    rw [fileName_record, fileName_record, errorsLogName, errorsLogName, ns, pod]

end ContainerLog

/-- What the filter leaves of a log that a client hands out, with the lines that it left. -/
def Left (c : Client σ) (cancelled : Bool) (filter : Filter) (place : String × String × String)
    (text : String) :
    Prop :=
  ∃ stream, (Gather.call (c.logs place.1 place.2.1 (filter.options place.2.2))).Gives stream ∧
    filterLog stream filter id cancelled = .ok text

/-- The logs of containers at some places: each has what is left there, and where none is only white
space is left. -/
structure LogsOf (c : Client σ) (cancelled : Bool) (filter : Filter)
    (places : List (String × String × String)) (logs : List ContainerLog) : Prop where
  order : (logs.map ContainerLog.place).Sublist places
  told : ∀ l ∈ logs, ∃ text, Left c cancelled filter l.place text ∧ l.data = Bytes.ofString text
  others : ∀ place ∈ places, place ∈ logs.map ContainerLog.place ∨
    ∃ text, Left c cancelled filter place text ∧ (Text.trim text.toList).isEmpty = true

theorem LogsOf.nil (c : Client σ) (cancelled : Bool) (filter : Filter) :
    LogsOf c cancelled filter [] [] :=
  ⟨List.Sublist.refl _, List.forall_mem_nil _, List.forall_mem_nil _⟩

theorem LogsOf.append {c : Client σ} {cancelled : Bool} {filter : Filter}
    {front back : List (String × String × String)} {logs more : List ContainerLog}
    (first : LogsOf c cancelled filter front logs) (second : LogsOf c cancelled filter back more) :
    LogsOf c cancelled filter (front ++ back) (logs ++ more) where
  order := by
    rw [List.map_append]
    exact first.order.append second.order
  told := by
    intro l member
    rcases List.mem_append.mp member with here | there
    · exact first.told l here
    · exact second.told l there
  others := by
    intro place member
    rw [List.map_append, List.mem_append]
    rcases List.mem_append.mp member with here | there
    · exact (first.others place here).imp_left Or.inl
    · exact (second.others place there).imp_left Or.inr

/-- The pods that a client can list for a selection in a namespace. -/
def Listed (c : Client σ) (s : Selection) (ns : String) (pods : List Json) : Prop :=
  ∃ truncated, (Gather.call
    ((((Pager.of .pods).within ns).withOptions s.options).withLimit podsPageSize
      |>.collect c)).Gives ⟨pods, truncated⟩

structure NamesOnce (c : Client σ) (s : Selection) : Prop where
  namespaces : s.namespaces.Nodup
  pods : ∀ ns ∈ s.namespaces, ∀ pods, Listed c s ns pods → (pods.map Json.name).Nodup
  containers : ∀ ns ∈ s.namespaces, ∀ pods, Listed c s ns pods →
    ∀ pod ∈ pods, (s.containers pod).Nodup

/-- The places whose logs are read, if these pods are listed in the namespaces. -/
def Selection.places (s : Selection) :
    List String → List (List Json) → List (String × String × String)
  | ns :: namespaces, pods :: listings =>
      (s.read (s.chosen pods)).map (ns, ·) ++ s.places namespaces listings
  | _, _ => []

section Collect

variable {c : Client σ} {cancelled : Bool} {s : Selection} {filter : Filter}

theorem collectOne_gives {ns pod container : String} {records : List Record}
    (given : (collectOne c cancelled filter errorsLogName ns pod container).Gives records) :
    ∃ logs : List ContainerLog, records = logs.map ContainerLog.record ∧
      LogsOf c cancelled filter [(ns, pod, container)] logs := by
  obtain ⟨stream, answered, rest⟩ := Gather.gives_bind given
  obtain ⟨text, filtered, rest⟩ := Gather.gives_bind rest
  have left : Left c cancelled filter (ns, pod, container) text :=
    ⟨stream, answered, Gather.gives_ofExcept filtered⟩
  split at rest
  · rename_i blank
    refine ⟨[], Gather.gives_pure rest,
      ⟨List.nil_sublist _, List.forall_mem_nil _, fun place member => ?_⟩⟩
    rw [List.mem_singleton.mp member]
    exact Or.inr ⟨text, left, blank⟩
  · refine ⟨[⟨ns, pod, container, Bytes.ofString text⟩], Gather.gives_pure rest,
      ⟨List.Sublist.refl _, ?_, ?_⟩⟩
    · intro l member
      rw [List.mem_singleton.mp member]
      exact ⟨text, left, rfl⟩
    · exact fun place member => Or.inl member

theorem logs_of_containers {ns : String} {read : List (String × String)}
    {results : List (List Record)}
    (each : List.Forall₂ (fun p records =>
      (collectOne c cancelled filter errorsLogName ns p.1 p.2).Gives records) read
      results) :
    ∃ logs : List ContainerLog, results.flatten = logs.map ContainerLog.record ∧
      LogsOf c cancelled filter (read.map (ns, ·)) logs := by
  induction each with
  | nil => exact ⟨[], rfl, .nil c cancelled filter⟩
  | cons first _ ih =>
    obtain ⟨front, same, there⟩ := collectOne_gives first
    obtain ⟨back, same', there'⟩ := ih
    exact ⟨front ++ back, by rw [List.flatten_cons, same, same',
      List.map_append], there.append there'⟩

theorem collectNamespace_gives {ns : String} {part : List Record × List GatherError}
    (given : (collectNamespace c cancelled s filter errorsLogName ns).Gives part) :
    ∃ pods, Listed c s ns pods ∧ ∃ logs : List ContainerLog, part.1 = logs.map ContainerLog.record ∧
      LogsOf c cancelled filter ((s.read (s.chosen pods)).map (ns, ·)) logs := by
  rw [collectNamespace_eq] at given
  obtain ⟨⟨pods, truncated⟩, listed, rest⟩ := Gather.gives_bind given
  obtain ⟨results, read, rest⟩ := Gather.gives_bind rest
  cases Gather.gives_pure rest
  exact ⟨pods, ⟨truncated, listed⟩, logs_of_containers (Gather.gives_mapM read)⟩

theorem logs_of_namespaces {namespaces : List String}
    {parts : List (List Record × List GatherError)}
    (each : List.Forall₂ (fun ns part =>
      (collectNamespace c cancelled s filter errorsLogName ns).Gives part) namespaces
      parts) :
    ∃ listings, List.Forall₂ (Listed c s) namespaces listings ∧
      ∃ logs : List ContainerLog, parts.flatMap (·.1) = logs.map ContainerLog.record ∧
        LogsOf c cancelled filter (s.places namespaces listings) logs := by
  induction each with
  | nil => exact ⟨[], .nil, [], rfl, .nil c cancelled filter⟩
  | cons first _ ih =>
    obtain ⟨pods, listed, front, same, there⟩ := collectNamespace_gives first
    obtain ⟨listings, others, back, same', there'⟩ := ih
    exact ⟨pods :: listings, .cons listed others, front ++ back,
      by rw [List.flatMap_cons, same, same', List.map_append], there.append there'⟩

theorem read_sublist (s : Selection) (all : List (String × String)) : (s.read all).Sublist all := by
  unfold Selection.read
  split
  · exact List.Sublist.refl all
  · exact List.take_sublist _ _

theorem chosen_nodup {pods : List Json} (names : (pods.map Json.name).Nodup)
    (containers : ∀ pod ∈ pods, (s.containers pod).Nodup) : (s.chosen pods).Nodup := by
  have kept : ((pods.filter fun pod => Selection.allows s.podName pod.name).map Json.name).Nodup :=
    names.sublist (List.filter_sublist.map _)
  unfold Selection.chosen
  rw [List.nodup_flatMap]
  refine ⟨fun pod member => ?_, ?_⟩
  · rw [← Selection.containers_eq]
    exact (containers pod (List.mem_of_mem_filter member)).map fun a b same => (Prod.mk.inj same).2
  · refine (List.pairwise_map.mp kept).imp fun other => ?_
    intro p inside inside'
    obtain ⟨_, _, rfl⟩ := List.mem_map.mp inside
    obtain ⟨_, _, same⟩ := List.mem_map.mp inside'
    exact other (Prod.mk.inj same).1.symm

theorem namespace_of_place {namespaces : List String} {listings : List (List Json)}
    {place : String × String × String} (member : place ∈ s.places namespaces listings) :
    place.1 ∈ namespaces := by
  induction namespaces generalizing listings with
  | nil => cases member
  | cons ns rest ih =>
    cases listings with
    | nil => cases member
    | cons pods listings =>
      rcases List.mem_append.mp member with here | there
      · obtain ⟨_, _, rfl⟩ := List.mem_map.mp here
        exact List.mem_cons_self
      · exact List.mem_cons_of_mem ns (ih there)

theorem places_nodup (once : NamesOnce c s) {namespaces : List String}
    (selected : namespaces ⊆ s.namespaces) (apart : namespaces.Nodup) {listings : List (List Json)}
    (listed : List.Forall₂ (Listed c s) namespaces listings) :
    (s.places namespaces listings).Nodup := by
  induction listed with
  | nil => exact List.nodup_nil
  | @cons ns pods namespaces listings first _ ih =>
    obtain ⟨other, apart⟩ := List.nodup_cons.mp apart
    obtain ⟨inside, selected⟩ := List.cons_subset.mp selected
    have chosen :=
      chosen_nodup (once.pods ns inside pods first) (once.containers ns inside pods first)
    have here := (chosen.sublist (read_sublist s _)).map (Prod.mk_right_injective ns)
    refine here.append (ih selected apart) fun place member member' => ?_
    obtain ⟨_, _, rfl⟩ := List.mem_map.mp member
    exact other (namespace_of_place member')

end Collect

/-- The records are the logs of the containers that are read, each once. Their names differ exactly
when no two logs are of one pod; and a recorder with room for all of them has all of them in the end
exactly when the logs of one pod are the same. -/
theorem log_names_distinct_iff {c : Client σ} {cancelled : Bool} {s : Selection} {filter : Filter}
    (once : NamesOnce c s) (plain : ∀ ns ∈ s.namespaces, '/' ∉ ns.toList) {records : List Record}
    {warnings : List GatherError} {before after : σ}
    (collected : (collect c cancelled s filter errorsLogName).run.run before =
      (.ok (records, warnings), after)) :
    ∃ listings, List.Forall₂ (Listed c s) s.namespaces listings ∧
      (s.places s.namespaces listings).Nodup ∧
      ∃ logs : List ContainerLog, records = logs.map ContainerLog.record ∧
        LogsOf c cancelled filter (s.places s.namespaces listings) logs ∧
        ((records.map Record.fileName).Nodup ↔ (logs.map fun l => (l.ns, l.pod)).Nodup) ∧
        ∀ now (r : Recording.Recorder), r.buffer = .empty →
          Recording.totalBytes records ≤ r.bounds.archive →
          ((∀ x ∈ records, (r.recordAll now records).2.Holds x) ↔
            ∀ a ∈ logs, ∀ b ∈ logs, a.ns = b.ns → a.pod = b.pod → a.data = b.data) := by
  obtain ⟨parts, read, rest⟩ := Gather.gives_bind ⟨before, after, collected⟩
  cases Gather.gives_pure rest
  obtain ⟨listings, listed, logs, same, there⟩ := logs_of_namespaces (Gather.gives_mapM read)
  have clear : ∀ l ∈ logs, '/' ∉ l.ns.toList := fun l member =>
    plain l.ns (namespace_of_place (there.order.subset (List.mem_map_of_mem member)))
  have names : ∀ a ∈ logs, ∀ b ∈ logs, a.record.fileName = b.record.fileName ↔
      a.ns = b.ns ∧ a.pod = b.pod :=
    fun a here b there => ContainerLog.fileName_eq_iff (clear a here) (clear b there)
  refine ⟨listings, listed, places_nodup once (List.Subset.refl _) once.namespaces listed, logs,
    same, there, ?_, ?_⟩
  · rw [same, List.map_map, List.Nodup, List.Nodup, List.pairwise_map, List.pairwise_map]
    refine List.Pairwise.iff_of_mem fun here there => not_congr ?_
    rw [Prod.mk.injEq]
    exact names _ here _ there
  · intro now r empty room
    rw [same] at room ⊢
    rw [(Recording.Recorder.recordAll_empty now empty (ContainerLog.readable_records logs) room).2]
    simp only [Recording.Buffer.Agree, List.forall_mem_map, ContainerLog.bytes_record]
    refine forall₂_congr fun a here => forall₂_congr fun b there => ?_
    rw [names a here b there, and_imp]

def onePage (pods : List Json) : Client Unit where
  pageBound := 1
  list _ _ _ := return .ok ⟨pods, none⟩
  get _ _ name := return .error (.notFound name)
  logs _ _ o := return .ok ⟨[Bytes.ofString o.container], none⟩
  raw path _ := return .error (.notFound path)

def podOf (name : String) (containers : List String) : Json :=
  .object [("metadata", .object [("name", .str name)]),
    ("spec", .object [("containers", .arr (containers.map fun c => .object [("name", .str c)]))])]

def ownLog (ns : String) (p : String × String) : ContainerLog := ⟨ns, p.1, p.2, Bytes.ofString p.2⟩

section OnePage

variable (pods : List Json) (ns : String)

theorem call_onePage (s : Selection) :
    Gather.call ((((Pager.of .pods).within ns).withOptions s.options).withLimit podsPageSize
      |>.collect (onePage pods)) = (pure ⟨pods, false⟩ : Gather Unit _) := by
  have told :
      Gather.call ((((Pager.of .pods).within ns).withOptions s.options).withLimit podsPageSize
      |>.collect (onePage pods)) = (pure ⟨pods ++ [], false⟩ : Gather Unit _) := rfl
  rw [told, List.append_nil]

theorem listed_onePage {s : Selection} {listed : List Json}
    (given : Listed (onePage pods) s ns listed) :
    listed = pods := by
  obtain ⟨truncated, given⟩ := given
  rw [call_onePage] at given
  cases Gather.gives_pure given
  rfl

theorem namesOnce_onePage (names : (pods.map Json.name).Nodup)
    (containers : ∀ pod ∈ pods, ((Selection.of ns).containers pod).Nodup) :
    NamesOnce (onePage pods) (.of ns) where
  namespaces := List.nodup_singleton ns
  pods := fun _ _ _ listed => listed_onePage pods _ listed ▸ names
  containers := fun _ _ _ listed => listed_onePage pods _ listed ▸ containers

def Plain (container : String) : Prop :=
  (Filter.substrings []).reference id (Bytes.ofString container) = container ∧
    (Text.trim container.toList).isEmpty = false

theorem collectOne_onePage {p : String × String} (plain : Plain p.2) :
    collectOne (onePage pods) false (.substrings []) errorsLogName ns p.1 p.2 =
      pure [(ownLog ns p).record] := by
  have answered : Gather.call ((onePage pods).logs ns p.1 ((Filter.substrings []).options p.2)) =
      pure ⟨[Bytes.ofString p.2], none⟩ := rfl
  have filtered : filterLog ⟨[Bytes.ofString p.2], none⟩ (.substrings []) id false = .ok p.2 := by
    rw [filterLog_pieces (fun none => absurd rfl none), List.flatten_singleton, plain.1]
  have left : (Gather.ofExcept (.ok p.2) : Gather Unit String) = pure p.2 := rfl
  rw [collectOne, answered, pure_bind, filtered, left, pure_bind,
    if_neg (Bool.eq_false_iff.mp plain.2)]
  rfl

theorem read_onePage {read : List (String × String)} (plain : ∀ p ∈ read, Plain p.2) :
    read.mapM (fun (pod, container) =>
      collectOne (onePage pods) false (.substrings []) errorsLogName ns pod container) =
      pure (read.map fun p => [(ownLog ns p).record]) := by
  induction read with
  | nil => rfl
  | cons p rest ih =>
    rw [List.mapM_cons, ih fun q member => plain q (List.mem_cons_of_mem p member)]
    dsimp only
    rw [collectOne_onePage pods ns (plain p List.mem_cons_self)]
    rfl

theorem collect_onePage (plain : ∀ p ∈ (Selection.of ns).chosen pods, Plain p.2) :
    ∃ warnings, collect (onePage pods) false (.of ns) (.substrings []) errorsLogName =
      pure ((((Selection.of ns).chosen pods).map (ownLog ns)).map ContainerLog.record,
        warnings) := by
  have part : ∃ warnings, collectNamespace (onePage pods) false (.of ns)
      (.substrings []) errorsLogName ns =
      pure ((((Selection.of ns).chosen pods).map (ownLog ns)).map ContainerLog.record,
        warnings) := by
    refine ⟨(Selection.of ns).warnings ns ((Selection.of ns).chosen pods), ?_⟩
    have all : (Selection.of ns).read ((Selection.of ns).chosen pods) =
        (Selection.of ns).chosen pods := rfl
    rw [collectNamespace_eq]
    simp only [call_onePage, pure_bind]
    rw [all, read_onePage pods ns plain, pure_bind, ← List.flatMap_def,
      ← List.map_eq_flatMap, List.map_map]
    rfl
  obtain ⟨warnings, part⟩ := part
  have one : (Selection.of ns).namespaces = [ns] := rfl
  refine ⟨warnings, ?_⟩
  rw [collect, one, List.mapM_cons, part, List.mapM_nil]
  simp only [pure_bind, List.flatMap_singleton]

end OnePage

theorem twoPods_apart :
    let pods := [podOf "web-0" ["app"], podOf "web-1" ["app"]]
    let logs := [ownLog "shop" ("web-0", "app"), ownLog "shop" ("web-1", "app")]
    NamesOnce (onePage pods) (.of "shop") ∧
      (∀ ns ∈ (Selection.of "shop").namespaces, '/' ∉ ns.toList) ∧
      ∃ warnings, (collect (onePage pods) false (.of "shop") (.substrings []) errorsLogName).run.run
        () =
          (.ok (logs.map ContainerLog.record, warnings), ()) ∧
        ((logs.map ContainerLog.record).map Record.fileName).Nodup ∧
        ∀ now (r : Recording.Recorder), r.buffer = .empty → 6 ≤ r.bounds.archive →
          ∀ x ∈ logs.map ContainerLog.record,
            (r.recordAll now (logs.map ContainerLog.record)).2.Holds x := by
  intro pods logs
  have once : NamesOnce (onePage pods) (.of "shop") :=
    namesOnce_onePage pods "shop" (by decide +kernel) (by decide +kernel)
  have plain : ∀ ns ∈ (Selection.of "shop").namespaces, '/' ∉ ns.toList := by decide +kernel
  have chosen : (Selection.of "shop").chosen pods =
      [("web-0", "app"), ("web-1", "app")] := by decide +kernel
  have texts : ∀ p ∈ (Selection.of "shop").chosen pods, Plain p.2 := by
    rw [chosen]
    unfold Plain
    decide +kernel
  obtain ⟨warnings, collected⟩ := collect_onePage pods "shop" texts
  rw [chosen] at collected
  have answered : (collect (onePage pods) false (.of "shop") (.substrings []) errorsLogName).run.run
      () =
      (.ok (logs.map ContainerLog.record, warnings), ()) := by
    rw [collected]
    rfl
  have distinct : ((logs.map ContainerLog.record).map Record.fileName).Nodup := by decide +kernel
  obtain ⟨_, _, _, found, _, _, names, kept⟩ := log_names_distinct_iff once plain answered
  refine ⟨once, plain, warnings, answered, distinct, fun now r empty room =>
    (kept now r empty room).mpr ?_⟩
  intro a here b there ns pod
  rw [List.inj_on_of_nodup_map (names.mp distinct) here there (Prod.ext ns pod)]

/-- Two containers of a pod leave two logs of one name, and a recorder loses one of them. -/
theorem onePod_overwritten :
    let pods := [podOf "web-0" ["app", "proxy"]]
    let logs := [ownLog "shop" ("web-0", "app"), ownLog "shop" ("web-0", "proxy")]
    NamesOnce (onePage pods) (.of "shop") ∧
      ∃ warnings, (collect (onePage pods) false (.of "shop") (.substrings []) errorsLogName).run.run
        () =
          (.ok (logs.map ContainerLog.record, warnings), ()) ∧
        ¬ ((logs.map ContainerLog.record).map Record.fileName).Nodup ∧
        ∀ now (r : Recording.Recorder), r.buffer = .empty → 8 ≤ r.bounds.archive →
          ¬ ∀ x ∈ logs.map ContainerLog.record,
            (r.recordAll now (logs.map ContainerLog.record)).2.Holds x := by
  intro pods logs
  have once : NamesOnce (onePage pods) (.of "shop") :=
    namesOnce_onePage pods "shop" (by decide +kernel) (by decide +kernel)
  have chosen : (Selection.of "shop").chosen pods =
      [("web-0", "app"), ("web-0", "proxy")] := by decide +kernel
  have texts : ∀ p ∈ (Selection.of "shop").chosen pods, Plain p.2 := by
    rw [chosen]
    unfold Plain
    decide +kernel
  obtain ⟨warnings, collected⟩ := collect_onePage pods "shop" texts
  rw [chosen] at collected
  refine ⟨once, warnings, by rw [collected]; rfl, by decide +kernel, fun now r empty room all => ?_⟩
  have agree :=
    (Recording.Recorder.recordAll_empty now empty (ContainerLog.readable_records logs) room).2.mp
      all
  have differ : ¬ Recording.Buffer.Agree (logs.map ContainerLog.record) := by
    unfold Recording.Buffer.Agree
    decide +kernel
  exact differ agree

end ClusterSurvey.Log
