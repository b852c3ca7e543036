import ClusterSurvey.Proofs.Log.Names
import ClusterSurvey.Proofs.Survey.Exchanges

/-!
What a collection of logs asks for. In each namespace the pods are listed, and then the logs of the
first chosen containers are asked for, one after the other; the containers that remain are told by a
warning. What the filter leaves of the logs makes the records.
-/
namespace ClusterSurvey.Log

variable {σ : Type}

structure Reading where
  pod : String
  container : String
  stream : ByteStream
  text : String

namespace Reading

def place (l : Reading) : String × String := (l.pod, l.container)

def blank (l : Reading) : Bool := (Text.trim l.text.toList).isEmpty

def exchange (filter : Filter) (ns : String) (l : Reading) : Exchange :=
  .logs ns l.pod (filter.options l.container) (.ok l.stream)

def record (fileName : String → String → String → String) (ns : String) (l : Reading) : Record :=
  .of (fileName ns l.pod l.container) (.raw (Bytes.ofString l.text))

def records (fileName : String → String → String → String) (ns : String)
    (l : Reading) : List Record :=
  if l.blank then [] else [l.record fileName ns]

end Reading

structure Round where
  ns : String
  pages : List ResourcePage
  readings : List Reading

namespace Round

def pods (r : Round) : List Json := r.pages.flatMap ResourcePage.items

/-- All calls of the namespace: those for the pages of pods, and then one for each log. -/
def exchanges (s : Selection) (filter : Filter) (r : Round) : List Exchange :=
  listed .pods (some r.ns) { s.options with limit := some podsPageSize } none r.pages ++
    r.readings.map (Reading.exchange filter r.ns)

def records (fileName : String → String → String → String) (r : Round) : List Record :=
  (r.readings.filter fun l => !l.blank).map (Reading.record fileName r.ns)

def count (s : Selection) (r : Round) : Nat := (s.chosen r.pods).length

def warnings (s : Selection) (r : Round) : List GatherError :=
  if 0 < s.maxContainers ∧ s.maxContainers < r.count s then
    [.warning
      s!"skipping {r.count s - s.maxContainers} containers on namespace {r.ns} (max: {s.maxContainers})"]
  else []

/-- The listing is complete, and the logs are those of the first chosen containers. -/
structure Reads (c : Client σ) (cancelled : Bool) (s : Selection) (filter : Filter)
    (ns : String) (r : Round) :
    Prop where
  ns : r.ns = ns
  listing : Listing c.pageBound r.pages
  first : r.readings.map Reading.place =
    (s.chosen r.pods).take (if s.maxContainers = 0 then r.count s
        else min s.maxContainers (r.count s))
  filtered : ∀ l ∈ r.readings, filterLog l.stream filter id cancelled = .ok l.text

end Round

theorem read_eq_take (s : Selection) (all : List (String × String)) :
    s.read all = all.take (if s.maxContainers = 0 then all.length
      else min s.maxContainers all.length) := by
  unfold Selection.read
  split
  · exact List.take_length.symm
  · rw [Nat.min_def]
    split
    · rfl
    · rename_i more
      rw [List.take_length, List.take_of_length_le (Nat.le_of_not_le more)]

theorem warnings_eq (s : Selection) (r : Round) :
    s.warnings r.ns (s.chosen r.pods) = r.warnings s := by
  unfold Selection.warnings Round.warnings Round.count Selection.read
  by_cases all : s.maxContainers = 0
  · simp [all]
  · by_cases more : s.maxContainers < (s.chosen r.pods).length
    · have some : (s.chosen r.pods).length - s.maxContainers ≠ 0 := by omega
      simp [all, more, Nat.pos_of_ne_zero all, Nat.min_eq_left (Nat.le_of_lt more), some]
    · have full : (s.chosen r.pods).take s.maxContainers = s.chosen r.pods :=
        List.take_of_length_le (Nat.le_of_not_lt more)
      simp [all, more, full]

theorem records_eq (fileName : String → String → String → String) (r : Round) :
    r.records fileName = r.readings.flatMap (Reading.records fileName r.ns) := by
  unfold Round.records
  induction r.readings with
  | nil => rfl
  | cons l readings ih =>
    rw [List.flatMap_cons, ← ih, Reading.records]
    by_cases blank : l.blank = true <;> simp [blank]

theorem readings_of_places {cancelled : Bool} {filter : Filter} {places : List (String × String)}
    {readings : List Reading}
    (each : List.Forall₂ (fun p (l : Reading) => l.place = p ∧
      filterLog l.stream filter id cancelled = .ok l.text)
      places readings) :
    readings.map Reading.place = places ∧
      ∀ l ∈ readings, filterLog l.stream filter id cancelled = .ok l.text := by
  induction each with
  | nil => exact ⟨rfl, List.forall_mem_nil _⟩
  | cons first _ ih =>
    exact ⟨congrArg₂ List.cons first.1 ih.1, List.forall_mem_cons.mpr ⟨first.2, ih.2⟩⟩

section Collect

variable (c : Client σ) (cancelled : Bool) (s : Selection) (filter : Filter)
  (fileName : String → String → String → String) (ns : String)

theorem collectOne_eq (pod container : String) :
    collectOne c cancelled filter fileName ns pod container =
      Gather.call (c.logs ns pod (filter.options container)) >>= fun stream =>
        Gather.ofExcept (filterLog stream filter id cancelled) >>= fun text =>
          pure (Reading.records fileName ns ⟨pod, container, stream, text⟩) := by
  unfold collectOne
  refine bind_congr fun stream => bind_congr fun text => ?_
  unfold Reading.records Reading.blank
  split <;> rfl

theorem collectOne_heard (p : String × String) :
    Gather.Heard (collectOne c.heard cancelled filter fileName ns p.1 p.2)
      (collectOne c cancelled filter fileName ns p.1 p.2) fun exchanges records =>
        ∃ l : Reading, (l.place = p ∧ filterLog l.stream filter id cancelled = .ok l.text) ∧
          exchanges = [l.exchange filter ns] ∧ records = l.records fileName ns := by
  rw [collectOne_eq, collectOne_eq]
  refine ((Gather.Heard.logs c ns p.1 _).bind fun stream =>
    (Gather.Heard.ofExcept _).bind fun text => .pure _).imp ?_
  rintro _ _ ⟨stream, _, _, rfl, rfl, text, _, _, rfl, ⟨rfl, filtered⟩, rfl, rfl⟩
  exact ⟨⟨p.1, p.2, stream, text⟩, ⟨rfl, filtered⟩, rfl, rfl⟩

theorem collectNamespace_heard :
    Gather.Heard (collectNamespace c.heard cancelled s filter fileName ns)
      (collectNamespace c cancelled s filter fileName ns) fun exchanges result =>
        ∃ r : Round, r.Reads c cancelled s filter ns ∧ exchanges = r.exchanges s filter ∧
          result = (r.records fileName, r.warnings s) := by
  rw [collectNamespace_eq, collectNamespace_eq]
  refine ((Gather.Heard.collect c rfl rfl).bind fun pods =>
    (Gather.Heard.mapM (collectOne_heard c cancelled filter fileName ns) _).bind
      fun records => .pure _).imp ?_
  -- What is heard comes in three parts: the calls for pages, one part for each log that is read,
  -- and nothing at the end.
  rintro _ _ ⟨⟨pods, _⟩, _, _, rfl, ⟨pages, listing, rfl, rfl⟩, _, _, _, rfl,
    ⟨readings, each, rfl, rfl⟩, rfl, rfl⟩
  obtain ⟨places, filtered⟩ := readings_of_places each
  let r : Round := ⟨ns, pages, readings⟩
  refine ⟨r, ⟨rfl, listing, places.trans (read_eq_take s _), filtered⟩, ?_,
    Prod.ext ?_ (warnings_eq s r)⟩
  · rw [List.append_nil, ← List.map_eq_flatMap]
    rfl
  · exact (List.flatMap_def ..).symm.trans (records_eq fileName r).symm

/-- The maximum parts the chosen containers of each namespace: the first are read, each once and in
their order, and the others are told by one warning; the records are those of the logs of which
anything is left. -/
theorem containers_parted {before after : σ} {records : List Record} {warnings : List GatherError}
    (collected : (collect c cancelled s filter fileName).run.run before =
      (.ok (records, warnings), after)) :
    ∃ rounds : List Round, List.Forall₂ (Round.Reads c cancelled s filter) s.namespaces rounds ∧
      (∀ noted, (collect c.heard cancelled s filter fileName).run.run (before, noted) =
        (.ok (records, warnings), after, noted ++ rounds.flatMap (Round.exchanges s filter))) ∧
      records = rounds.flatMap (Round.records fileName) ∧
        warnings = rounds.flatMap (Round.warnings s) := by
  have each := Gather.Heard.mapM (collectNamespace_heard c cancelled s filter fileName) s.namespaces
  have heard : Gather.Heard (collect c.heard cancelled s filter fileName)
      (collect c cancelled s filter fileName) _ :=
    each.bind fun parts => Gather.Heard.pure (parts.flatMap (·.1), parts.flatMap (·.2))
  obtain ⟨_, told, same⟩ := heard before
  rw [collected] at told same
  obtain ⟨_, _, _, rfl, ⟨rounds, each, rfl, rfl⟩, rfl, parts⟩ := told _ rfl
  obtain ⟨rfl, rfl⟩ := Prod.mk.inj parts
  rw [List.append_nil] at same
  refine ⟨rounds, each, same, ?_, ?_⟩
  · rw [List.flatMap_map]
  · rw [List.flatMap_map]

end Collect

theorem thirdContainer_skipped :
    let pods := [podOf "web-0" ["app", "proxy"], podOf "web-1" ["app"]]
    let s : Selection := { Selection.of "shop" with maxContainers := 2 }
    let filter : Filter := .substrings []
    let records :=
      [ownLog "shop" ("web-0", "app"), ownLog "shop" ("web-0", "proxy")].map ContainerLog.record
    let warnings := [GatherError.warning "skipping 1 containers on namespace shop (max: 2)"]
    (collect (onePage pods) false s filter errorsLogName).run.run () =
      (.ok (records, warnings), ()) ∧
      ∃ rounds : List Round, List.Forall₂
        (Round.Reads (onePage pods) false s filter) ["shop"] rounds ∧
        (collect (onePage pods).heard false s filter errorsLogName).run.run ((), []) =
          (.ok (records, warnings), (), rounds.flatMap (Round.exchanges s filter)) ∧
        warnings = rounds.flatMap (Round.warnings s) := by
  intro pods s filter records warnings
  have read : s.read (s.chosen pods) = [("web-0", "app"), ("web-0", "proxy")] := by decide +kernel
  have texts : ∀ p ∈ s.read (s.chosen pods), Plain p.2 := by
    rw [read]
    unfold Plain
    decide +kernel
  have told : s.warnings "shop" (s.chosen pods) = warnings := by decide +kernel
  have part : collectNamespace (onePage pods) false s filter errorsLogName "shop" =
      pure (records, warnings) := by
    rw [collectNamespace_eq]
    simp only [call_onePage, pure_bind]
    rw [told, read_onePage pods "shop" texts, read]
    rfl
  have collected : (collect (onePage pods) false s filter errorsLogName).run.run () =
      (.ok (records, warnings), ()) := by
    have one : s.namespaces = ["shop"] := rfl
    rw [collect, one, List.mapM_cons, part, List.mapM_nil]
    rfl
  obtain ⟨rounds, each, heard, _, skipped⟩ := containers_parted _ _ _ _ _ collected
  exact ⟨collected, rounds, each, heard [], skipped⟩

end ClusterSurvey.Log
