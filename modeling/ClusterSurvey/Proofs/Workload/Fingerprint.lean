import ClusterSurvey.Proofs.Cluster.Collect
import ClusterSurvey.Proofs.Keyed
import ClusterSurvey.Proofs.Survey.Gathering
import ClusterSurvey.Proofs.Workload.Tally
import Mathlib.Algebra.BigOperators.Ring.Finset

/-!
The fingerprint of a listing of pods that comes in pages. Reading stops at the limit, and from there
on the tally stays as it is, so it is the tally of the whole listing, however that is cut into
pages. Entries stand under the hashes of their namespaces; where these differ, each namespace keeps
its own.
-/
namespace ClusterSurvey

variable {σ τ : Type}

namespace Workload

def podPager : Pager := Pager.setUp .pods [.limit podsPageSize]

/-- Hashes tell the namespaces of pods apart. -/
def HashesApart (pods : List Json) : Prop :=
  ∀ a ∈ pods, ∀ b ∈ pods, hash a.namespaceOf = hash b.namespaceOf → a.namespaceOf = b.namespaceOf

/-- A client that answers each request for an image by its name. -/
def Describes (c : Client σ) (known : String → Except ClusterError Json) : Prop :=
  ∀ id s, ∃ t, (c.get .images none id).run s = (known id, t)

/-- The number in a member that is left out if it is zero. -/
def numberAt (key : String) (v : Json) : Int :=
  match v.get? key with
  | some (.int n) => n
  | _ => 0

/-- What a fingerprint tells of the pods that were looked at: their number, and under the hash of
each of their namespaces how many there are in it, each in one class. The entries tell of no other
pods. -/
structure CountsPods (info : Json) (pods : List Json) : Prop where
  counted : info.get? "pods" = some (.int pods.length)
  namespaces : ∃ entries : List (String × NamespacePods),
    info.get? "namespaces" = some (.obj (entries.map fun e => (e.1, e.2.toJson))) ∧
    (entries.map fun e => e.1).Nodup ∧ (entries.map fun e => e.2.count).sum = pods.length ∧
    ∀ pod ∈ pods, ∃ p, (hash pod.namespaceOf, p) ∈ entries ∧
      p.count = pods.countP (fun q => q.namespaceOf = pod.namespaceOf) ∧ p.Balanced
  recorded : ∃ members : List (String × Json),
    info.get? "namespaces" = some (.obj members) ∧
    (members.map fun m => m.1).Nodup ∧
      (members.map fun m => numberAt "count" m.2).sum = pods.length ∧
    ∀ pod ∈ pods, ∃ entry, (hash pod.namespaceOf, entry) ∈ members ∧
      numberAt "count" entry = pods.countP (fun q => q.namespaceOf = pod.namespaceOf) ∧
      numberAt "count" entry = numberAt "terminalCount" entry + numberAt "ignoredCount" entry +
        numberAt "invalidCount" entry +
        ((entry.itemsAt ["shapes"]).map fun shape => 1 + numberAt "duplicates" shape).sum

def conclude (c : Client σ) (cancelled : Bool) (cache : ImageCache) (t : Tally) :
    StateM σ (Output × ImageCache) := do
  if cancelled then return (output t [], cache.resizeFor t.counted)
  let (images, cache) ← lookUpAll c (cache.resizeFor t.counted) t.images.reverse
  return (output t images, cache)

theorem tallyPages_finished (c : Client σ) {p : Pager} (finished : p.finished = true) (fuel : Nat)
    (t : Tally) (s : σ) :
    (tallyPages c fuel p t).run.run s = (.ok t, s) := by
  cases fuel with
  | zero => rfl
  | succ fuel =>
    rw [tallyPages, Gather.run_lift_bind, Pager.nextPage_finished c finished]
    rfl

theorem tallyPages_page {c : Client σ} {p : Pager} (unfinished : p.finished = false) {s u : σ}
    {page : ResourcePage} (called : (c.list p.resource p.ns p.options).run s = (.ok page, u))
    (fuel : Nat) (t : Tally) :
    (tallyPages c (fuel + 1) p t).run.run s =
      if ((p.take page).1.foldl Tally.add t).limitReached then
        (.ok ((p.take page).1.foldl Tally.add t), u)
      else (tallyPages c fuel (p.take page).2 ((p.take page).1.foldl Tally.add t)).run.run u := by
  rw [tallyPages, Gather.run_lift_bind, Pager.nextPage_unfinished unfinished called]
  dsimp only [Pager.answered]
  split <;> rfl

theorem tallyPages_run {c : Client σ} {serve : Option String → ResourcePage} {token : Option String}
    {ahead : List (List Json)} (served : Pager.Served serve token ahead) {fuel : Nat}
    (enough : ahead.length ≤ fuel) {p : Pager} (answers : Pager.AlwaysAnswers c p serve)
    (asks : p.options.continueToken = token) (unended : p.done = false) (uncapped : p.cap = none)
    (t : Tally) (s : σ) :
    ∃ u, (tallyPages c fuel p t).run.run s = (.ok (ahead.flatten.foldl Tally.add t), u) := by
  induction served generalizing fuel p t s with
  | @last token ends =>
    have some : 1 ≤ fuel := enough
    obtain ⟨fuel, rfl⟩ := Nat.exists_eq_add_of_le' some
    have unfinished : p.finished = false := by
      simp [Pager.finished, unended, Pager.capReached, uncapped]
    obtain ⟨u, told⟩ := answers p.options.continueToken s
    have called : (c.list p.resource p.ns p.options).run s =
        (.ok (serve p.options.continueToken), u) := told
    have items : (p.take (serve token)).1 = (serve token).items := by
      rw [Pager.take_items, Pager.leaves, uncapped]
    refine ⟨u, ?_⟩
    rw [tallyPages_page unfinished called, asks, items, List.flatten_singleton]
    split
    · rfl
    · apply tallyPages_finished
      rw [Pager.finished, Pager.take_pager, ends]
      simp
  | @more token following rest goes later ih =>
    obtain ⟨fuel, rfl⟩ :=
      Nat.exists_eq_add_of_le' (Nat.le_trans (Nat.le_add_left 1 rest.length) enough)
    have unfinished : p.finished = false := by
      simp [Pager.finished, unended, Pager.capReached, uncapped]
    obtain ⟨u, told⟩ := answers p.options.continueToken s
    have called : (c.list p.resource p.ns p.options).run s =
        (.ok (serve p.options.continueToken), u) := told
    have items : (p.take (serve token)).1 = (serve token).items := by
      rw [Pager.take_items, Pager.leaves, uncapped]
    rw [tallyPages_page unfinished called, asks, items, List.flatten_cons, List.foldl_append]
    by_cases reached : ((serve token).items.foldl Tally.add t).limitReached = true
    · rw [if_pos reached, Tally.foldl_add_of_limit reached]
      exact ⟨u, rfl⟩
    · rw [if_neg reached]
      apply ih (Nat.le_of_succ_le_succ enough) (answers.take _)
      · rw [Pager.take_pager, goes]
        rfl
      · rw [Pager.take_pager, goes, unended]
        rfl
      · rw [Pager.take_pager]
        exact uncapped

theorem survey_eq {c : Client σ} {serve : Option String → ResourcePage} {pages : List (List Json)}
    (served : Pager.Served serve none pages) (answers : Pager.AlwaysAnswers c podPager serve)
    (bounded : pages.length ≤ c.pageBound) (cancelled : Bool) (cache : ImageCache) (s : σ) :
    (survey c cancelled cache).run s =
      (conclude c cancelled cache (pages.flatten.foldl Tally.add .start).close).run
        ((tallyPages c c.pageBound podPager .start).run.run s).2 := by
  obtain ⟨u, read⟩ := tallyPages_run served bounded answers rfl rfl rfl .start s
  have here :
      (tallyPages c c.pageBound ((Pager.of .pods).withLimit podsPageSize) .start).run.run s =
      (.ok (pages.flatten.foldl Tally.add .start), u) := read
  rw [survey, StateT.run_bind, here, read]
  rfl

theorem survey_run {c : Client σ} {serve : Option String → ResourcePage} {pages : List (List Json)}
    (served : Pager.Served serve none pages) (answers : Pager.AlwaysAnswers c podPager serve)
    (bounded : pages.length ≤ c.pageBound) (cancelled : Bool) (cache : ImageCache) (s : σ) :
    ∃ u, (survey c cancelled cache).run s =
      (conclude c cancelled cache (pages.flatten.foldl Tally.add .start).close).run u :=
  ⟨_, survey_eq served answers bounded cancelled cache s⟩

theorem conclude_output (c : Client σ) (cancelled : Bool) (cache : ImageCache) (t : Tally) (s : σ) :
    ∃ images cache' u, (conclude c cancelled cache t).run s = ((output t images, cache'), u) := by
  cases cancelled with
  | true => exact ⟨_, _, _, rfl⟩
  | false => exact ⟨_, _, _, rfl⟩

theorem lookUp_told {c : Client σ} {d : Client τ} {known : String → Except ClusterError Json}
    (describes : Describes c known) (describes' : Describes d known) (cache : ImageCache)
    (id : String) (s : σ) (u : τ) :
    ((lookUp c cache id).run s).1 = ((lookUp d cache id).run u).1 := by
  obtain ⟨t, told⟩ := describes id s
  obtain ⟨v, told'⟩ := describes' id u
  unfold lookUp
  cases cache.get? id with
  | mk found cache' =>
    cases found with
    | some image => rfl
    | none =>
      dsimp only
      rw [StateT.run_bind, StateT.run_bind, told, told']
      cases known id <;> rfl

theorem lookUpAll_told {c : Client σ} {d : Client τ} {known : String → Except ClusterError Json}
    (describes : Describes c known) (describes' : Describes d known) (cache : ImageCache)
    (ids : List String) (s : σ) (u : τ) :
    ((lookUpAll c cache ids).run s).1 = ((lookUpAll d cache ids).run u).1 := by
  induction ids generalizing cache s u with
  | nil => rfl
  | cons id rest ih =>
    have first := lookUp_told describes describes' cache id s u
    have later :=
      ih ((lookUp c cache id).run s).1.2 ((lookUp c cache id).run s).2 ((lookUp d cache id).run u).2
    have unfolded : ∀ {ρ : Type} (e : Client ρ) (v : ρ),
        ((lookUpAll e cache (id :: rest)).run v).1 =
        (let one := (lookUp e cache id).run v
         let others := (lookUpAll e one.1.2 rest).run one.2
         ((id, one.1.1) :: others.1.1, others.1.2)) := fun _ _ => rfl
    rw [unfolded, unfolded]
    dsimp only
    rw [later, first]

theorem conclude_told {c : Client σ} {d : Client τ} {known : String → Except ClusterError Json}
    (describes : Describes c known) (describes' : Describes d known) (cancelled : Bool)
    (cache : ImageCache) (t : Tally) (s : σ) (u : τ) :
    ((conclude c cancelled cache t).run s).1 = ((conclude d cancelled cache t).run u).1 := by
  cases cancelled with
  | true => rfl
  | false =>
    have looked :=
      lookUpAll_told describes describes' (cache.resizeFor t.counted) t.images.reverse s u
    have unfolded : ∀ {ρ : Type} (e : Client ρ) (v : ρ), ((conclude e false cache t).run v).1 =
        (let looked := ((lookUpAll e (cache.resizeFor t.counted) t.images.reverse).run v).1
         (output t looked.1, looked.2)) := fun _ _ => rfl
    rw [unfolded, unfolded, looked]

theorem sum_entries (groups : List Group) :
    (groups.map fun g => g.entry.2.count).sum = (Group.podsOf groups).length := by
  induction groups with
  | nil => rfl
  | cons g closed ih =>
    rw [List.map_cons, List.sum_cons, ih, Group.podsOf_cons, List.length_append, Group.entry,
      NamespacePods.ofPods_count, Nat.add_comm]

theorem entries_nodup {groups : List Group} {pods : List Json}
    (partition : Tally.Partition groups pods) (apart : HashesApart pods) :
    (groups.map fun g => g.entry.1).Nodup := by
  apply List.pairwise_map.mpr
  apply (List.pairwise_map.mp partition.apart).imp_of_mem
  intro g h first second other same
  obtain ⟨a, insideA, hereA⟩ := partition.occurs g first
  obtain ⟨b, insideB, hereB⟩ := partition.occurs h second
  apply other
  rw [← hereA, ← hereB]
  apply apart a insideA b insideB
  rw [hereA, hereB]
  exact same

theorem namespaces_perm {groups : List Group} {pods : List Json}
    (partition : Tally.Partition groups pods) (apart : HashesApart pods) {t : Tally}
    (done : t.done = groups.map Group.entry) :
    (Keyed.ofPairs t.done.reverse).Perm (groups.map Group.entry) := by
  have keys : ((t.done.reverse).map fun e => e.1).Nodup := by
    rw [List.map_reverse, List.nodup_reverse, done, List.map_map]
    exact entries_nodup partition apart
  rw [← done]
  exact (Keyed.ofPairs_perm keys).trans (List.reverse_perm _)

theorem get?_namespaces (t : Tally) (images : List (String × Image)) :
    (fingerprint t images).get? "namespaces" =
      some (.obj ((Keyed.ofPairs t.done.reverse).map fun e => (e.1, e.2.toJson))) := by
  rw [← Keyed.ofPairs_map]
  rfl

theorem itemsAt_member (v : Json) (key : String) :
    v.itemsAt [key] = ((v.get? key).bind Json.asArray?).getD [] := by
  rw [Json.itemsAt, Json.walk?]
  cases v.get? key <;> rfl

theorem lookup_countMember {name other : String} (apart : other ≠ name) (n : Nat)
    (rest : List (String × Json)) :
    (countMember name n ++ rest).lookup other = rest.lookup other := by
  unfold countMember
  split
  · rfl
  · rw [List.singleton_append, Keyed.lookup_cons, if_neg (Ne.symm apart)]

theorem numberAt_countMember {name : String} {rest : List (String × Json)}
    (absent : rest.lookup name = none) (n : Nat) :
    numberAt name (.obj (countMember name n ++ rest)) = n := by
  unfold numberAt countMember
  by_cases zero : n = 0
  · rw [if_pos zero, List.nil_append, Json.get?, absent, zero]
    rfl
  · rw [if_neg zero, List.singleton_append, Json.get?, Keyed.lookup_cons, if_pos rfl]

theorem numberAt_other {name other : String} (apart : other ≠ name) (n : Nat)
    (rest : List (String × Json)) :
    numberAt other (.obj (countMember name n ++ rest)) = numberAt other (.obj rest) := by
  unfold numberAt
  rw [Json.get?, Json.get?, lookup_countMember apart]

theorem PodShape.duplicates_toJson (s : PodShape) :
    numberAt "duplicates" s.toJson = s.duplicates := by
  rw [toJson, List.append_assoc, List.append_assoc]
  apply numberAt_countMember
  cases s.initContainers <;> rfl

namespace NamespacePods

theorem itemsAt_shapes (p : NamespacePods) :
    p.toJson.itemsAt ["shapes"] = p.shapes.reverse.map PodShape.toJson := by
  rw [itemsAt_member, toJson, Json.get?, Keyed.lookup_cons, if_neg (by decide), List.append_assoc,
    List.append_assoc, lookup_countMember (by decide), lookup_countMember (by decide),
    lookup_countMember (by decide)]
  rfl

theorem numbers_toJson (p : NamespacePods) :
    numberAt "count" p.toJson = p.count ∧ numberAt "terminalCount" p.toJson = p.terminal ∧
    numberAt "ignoredCount" p.toJson = p.ignored ∧ numberAt "invalidCount" p.toJson = p.invalid ∧
    ((p.toJson.itemsAt ["shapes"]).map fun shape => 1 + numberAt "duplicates" shape).sum =
      p.shaped := by
  have others : ∀ key, key ≠ "count" → numberAt key p.toJson = numberAt key
      (.obj (countMember "terminalCount" p.terminal ++ (countMember "ignoredCount" p.ignored ++
        (countMember "invalidCount" p.invalid ++
          [("shapes", .arr (p.shapes.reverse.map PodShape.toJson))])))) := by
    intro key other
    simp only [numberAt, toJson, Json.get?, Keyed.lookup_cons, if_neg (Ne.symm other),
      List.append_assoc]
  refine ⟨rfl, ?_, ?_, ?_, ?_⟩
  · rw [others _ (by decide)]
    apply numberAt_countMember
    rw [lookup_countMember (by decide), lookup_countMember (by decide)]
    rfl
  · rw [others _ (by decide), numberAt_other (by decide)]
    apply numberAt_countMember
    rw [lookup_countMember (by decide)]
    rfl
  · rw [others _ (by decide), numberAt_other (by decide), numberAt_other (by decide)]
    exact numberAt_countMember rfl _
  · rw [itemsAt_shapes, shaped, List.map_map, List.map_reverse, List.sum_reverse, Nat.cast_list_sum,
      List.map_map]
    congr 1
    refine List.map_congr_left fun s _ => ?_
    simp [PodShape.duplicates_toJson]

end NamespacePods

theorem namespaces_counted {pods : List Json} (grouped : Grouped pods) (apart : HashesApart pods)
    (images : List (String × Image)) :
    ∃ entries : List (String × NamespacePods),
      (fingerprint (pods.foldl Tally.add .start).close images).get? "namespaces" =
        some (.obj (entries.map fun e => (e.1, e.2.toJson))) ∧
      (entries.map fun e => e.1).Nodup ∧
      (entries.map fun e => e.2.count).sum = (pods.take maxPods).length ∧
      ∀ pod ∈ pods.take maxPods, ∃ p, (hash pod.namespaceOf, p) ∈ entries ∧
        p.count = (pods.take maxPods).countP (fun q => q.namespaceOf = pod.namespaceOf) ∧
        p.Balanced := by
  obtain ⟨groups, partition, holds, _⟩ := Tally.exists_partition grouped
  obtain ⟨done, _, _⟩ := holds.close
  generalize (pods.foldl Tally.add .start).close = t at done
  have perm := namespaces_perm partition apart done
  refine ⟨Keyed.ofPairs t.done.reverse, get?_namespaces t images, ?_, ?_, ?_⟩
  · apply (perm.map _).nodup_iff.mpr
    rw [List.map_map]
    exact entries_nodup partition apart
  · rw [(perm.map fun e => e.2.count).sum_nat, List.map_map, ← partition.whole]
    exact sum_entries groups
  · intro pod inside
    rw [← partition.whole] at inside ⊢
    obtain ⟨g, member, here⟩ := Group.mem_podsOf inside
    have ns := partition.belongs g member pod here
    refine ⟨.ofPods g.pods, ?_, ?_, NamespacePods.ofPods_balanced g.pods⟩
    · apply perm.mem_iff.mpr
      rw [ns]
      exact List.mem_map_of_mem (f := Group.entry) member
    · rw [NamespacePods.ofPods_count, List.countP_eq_length_filter, ns,
        Group.filter_podsOf partition.belongs partition.apart member]

theorem fingerprint_counts {pods : List Json} (grouped : Grouped pods) (apart : HashesApart pods)
    (images : List (String × Image)) :
    CountsPods (fingerprint (pods.foldl Tally.add .start).close images) (pods.take maxPods) := by
  obtain ⟨groups, partition, holds, _⟩ := Tally.exists_partition grouped
  obtain ⟨_, counted, _⟩ := holds.close
  have namespaces := namespaces_counted grouped apart images
  refine ⟨?_, namespaces, ?_⟩
  · rw [← partition.whole, ← counted]
    rfl
  · obtain ⟨entries, here, once, total, each⟩ := namespaces
    refine ⟨_, here, ?_, ?_, fun pod inside => ?_⟩
    · rw [List.map_map]
      exact once
    · rw [List.map_map, ← total, Nat.cast_list_sum, List.map_map]
      rfl
    · obtain ⟨p, member, same, balanced⟩ := each pod inside
      obtain ⟨count, terminal, ignored, invalid, shaped⟩ := p.numbers_toJson
      refine ⟨_, List.mem_map.mpr ⟨_, member, rfl⟩, ?_, ?_⟩
      · rw [count, same]
      · rw [count, terminal, ignored, invalid, shaped]
        exact_mod_cast balanced

theorem output_errors {pods : List Json} (grouped : Grouped pods) (images : List (String × Image)) :
    (output (pods.foldl Tally.add .start).close images).errors =
      if maxPods < pods.length then
        [.warning s!"The {maxPods} limit for number of pods gathered was reached"]
      else [] := by
  obtain ⟨groups, _, holds, reached⟩ := Tally.exists_partition grouped
  have limit := holds.close.2.2
  rw [reached] at limit
  simp only [output, limit, Tally.limitPassed, decide_eq_true_eq]

/-- However a listing is cut into pages, its fingerprint tells of the pods up to the limit, each
once, and of the limit if there are more. If the pods of each namespace stand together and hashes
tell the namespaces apart, the entry of a namespace has its pods. The same listing in other pages
has the same fingerprint. -/
theorem fingerprint_counts_every_pod {c : Client σ} {serve : Option String → ResourcePage}
    {pages : List (List Json)} (served : Pager.Served serve none pages)
    (answers : Pager.AlwaysAnswers c podPager serve) (bounded : pages.length ≤ c.pageBound)
    (grouped : Grouped pages.flatten) (apart : HashesApart pages.flatten) (cancelled : Bool)
    (cache : ImageCache) (s : σ) :
    (∃ info errors cache' t, (survey c cancelled cache).run s =
        ((⟨[.of "config/workload_info" (.json info)], errors⟩, cache'), t) ∧
      CountsPods info (pages.flatten.take maxPods) ∧
      errors = if maxPods < pages.flatten.length then
        [.warning s!"The {maxPods} limit for number of pods gathered was reached"] else []) ∧
    ∀ {τ : Type} (d : Client τ) (serve' : Option String → ResourcePage) (pages' : List (List Json)),
      Pager.Served serve' none pages' → Pager.AlwaysAnswers d podPager serve' →
        pages'.length ≤ d.pageBound →
      pages'.flatten = pages.flatten → ∀ known, Describes c known → Describes d known →
      ∀ u, ((survey d cancelled cache).run u).1 = ((survey c cancelled cache).run s).1 := by
  obtain ⟨t, surveyed⟩ := survey_run served answers bounded cancelled cache s
  constructor
  · obtain ⟨images, cache', u, concluded⟩ :=
      conclude_output c cancelled cache (pages.flatten.foldl Tally.add .start).close t
    refine ⟨_, _, cache', u, surveyed.trans concluded, ?_, ?_⟩
    · exact fingerprint_counts grouped apart images
    · exact output_errors grouped images
  · intro τ d serve' pages' served' answers' bounded' same known describes describes' u
    obtain ⟨v, surveyed'⟩ := survey_run served' answers' bounded' cancelled cache u
    rw [surveyed, surveyed', same]
    exact conclude_told describes' describes cancelled cache _ v t

def bare (ns phase : String) : Json :=
  .obj [("metadata", .obj [("namespace", .str ns)]), ("status", .obj [("phase", .str phase)])]

def podPages : Option String → ResourcePage
  | none => ⟨[bare "alpha" "Running", bare "alpha" "Failed"], some "2"⟩
  | some _ => ⟨[bare "alpha" "Running", bare "beta" "Unknown"], none⟩

def fourPods : List Json :=
  [bare "alpha" "Running", bare "alpha" "Failed", bare "alpha" "Running", bare "beta" "Unknown"]

def groupedNames : List String → Bool
  | [] => true
  | name :: rest => (rest.head? = some name || name ∉ rest) && groupedNames rest

theorem Grouped.cons {pod : Json} {pods : List Json} (grouped : Grouped pods)
    (next : (pods.map Json.namespaceOf).head? = some pod.namespaceOf ∨
      pod.namespaceOf ∉ pods.map Json.namespaceOf) : Grouped (pod :: pods) := by
  intro before a between b after split same other inside
  cases before with
  | cons first before =>
    exact grouped before a between b after (List.cons.inj split).2 same other inside
  | nil =>
    obtain ⟨rfl, rfl⟩ := List.cons.inj split
    rcases next with follows | fresh
    · cases between with
      | nil => cases inside
      | cons c between =>
        have first : c.namespaceOf = pod.namespaceOf := Option.some.inj follows
        rcases List.mem_cons.mp inside with rfl | later
        · exact first
        · exact (grouped [] c between b after rfl (first.trans same) other later).trans first
    · have again : pod.namespaceOf ∈ (between ++ b :: after).map Json.namespaceOf := by
        rw [same]
        exact List.mem_map_of_mem (by simp)
      exact absurd again fresh

theorem grouped_of_names {pods : List Json}
    (checked : groupedNames (pods.map Json.namespaceOf) = true) : Grouped pods := by
  induction pods with
  | nil =>
    intro before a between b after split
    simp at split
  | cons pod pods ih =>
    rw [List.map_cons, groupedNames, Bool.and_eq_true, Bool.or_eq_true] at checked
    exact (ih checked.2).cons (checked.1.imp of_decide_eq_true of_decide_eq_true)

theorem apart_of_names {pods : List Json}
    (checked : ∀ m ∈ pods.map Json.namespaceOf, ∀ n ∈ pods.map Json.namespaceOf,
      hash m = hash n → m = n) : HashesApart pods := by
  intro a first b second
  exact checked _ (List.mem_map_of_mem first) _ (List.mem_map_of_mem second)

theorem podPages_fingerprint :
    Pager.Served podPages none [fourPods.take 2, fourPods.drop 2] ∧ Grouped fourPods ∧
      HashesApart fourPods ∧
    ∃ info errors cache' t, (survey (Pager.reading podPages) false (.empty 1)).run () =
        ((⟨[.of "config/workload_info" (.json info)], errors⟩, cache'), t) ∧
          CountsPods info fourPods ∧ errors = [] := by
  have served : Pager.Served podPages none [fourPods.take 2, fourPods.drop 2] :=
    .more rfl (.last rfl)
  have grouped : Grouped fourPods := grouped_of_names (by decide)
  have apart : HashesApart fourPods := apart_of_names (by decide +kernel)
  obtain ⟨⟨info, errors, cache', t, surveyed, accounts, limit⟩, _⟩ :=
    fingerprint_counts_every_pod served (c := Pager.reading podPages)
      (fun _ _ => ⟨_, rfl⟩) (Nat.le_refl 2)
      grouped apart false (.empty 1) ()
  exact ⟨served, grouped, apart, info, errors, cache', t, surveyed, accounts, limit⟩

end Workload

end ClusterSurvey
