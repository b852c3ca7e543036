import ClusterSurvey.Proofs.Workload.Fingerprint

/-!
What the limit cuts off. Pods beyond it are not counted and bring no images, so a listing that is
longer has the fingerprint of its first pods; only the first pod beyond the limit is looked at, and
if it is of another namespace than the one before it, an entry without pods is left under the hash
of that namespace.
-/
namespace ClusterSurvey.Workload

variable {σ τ : Type}

namespace Tally

theorem foldl_add_filled {pods : List Json} (within : pods.length ≤ maxPods) :
    ∀ e ∈ (pods.foldl add start).close.done, 1 ≤ e.2.count := by
  induction pods using List.reverseRecOn with
  | nil =>
    intro e member
    cases member
  | append_singleton pods pod ih =>
    rw [List.length_append, List.length_singleton] at within
    have inside : pods.length ≤ maxPods := by omega
    obtain ⟨open_, counted⟩ := foldl_add_within inside
    have filled := ih inside
    rw [List.foldl_append, List.foldl_cons, List.foldl_nil]
    obtain ⟨p, present, added⟩ := add_within open_ (by omega) pod
    generalize pods.foldl add start = t at filled present added
    have before : ∀ e ∈ (t.opened pod.namespaceOf).done, 1 ≤ e.2.count := by
      intro e member
      rcases opened_cases pod.namespaceOf t with ⟨q, here, same⟩ | ⟨_, fresh⟩
      · rw [same] at member
        apply filled e
        rw [close_of_present here]
        exact List.mem_cons_of_mem _ member
      · rw [fresh] at member
        exact filled e member
    have done : (t.add pod).close.done = (hash pod.namespaceOf, (p.add pod).1) ::
        (t.opened pod.namespaceOf).done := by
      rw [added, close_of_present rfl]
    have one : 1 ≤ (p.add pod).1.count := by
      rw [NamespacePods.add_count]
      exact Nat.le_add_left 1 _
    rw [done]
    exact List.forall_mem_cons.mpr ⟨one, before⟩

theorem foldl_add_present {pods : List Json} (within : pods.length < maxPods) (last : Json) :
    ((pods ++ [last]).foldl add start).present.map (fun e => e.1) = some last.namespaceOf := by
  obtain ⟨open_, counted⟩ := foldl_add_within (Nat.le_of_lt within)
  obtain ⟨p, _, added⟩ := add_within open_ (by omega) last
  rw [List.foldl_append, List.foldl_cons, List.foldl_nil, added]
  rfl

theorem close_atLimit (t : Tally) : t.atLimit.close = t.close.atLimit := by
  cases present : t.present with
  | none =>
    have unchanged : ∀ u : Tally, u.present = none → u.close = u := by
      intro u none
      unfold close
      rw [none]
    rw [unchanged t present, unchanged t.atLimit present]
  | some e =>
    obtain ⟨ns, p⟩ := e
    rw [close_of_present present, close_of_present (t := t.atLimit) present]
    rfl

theorem close_opened (ns : String) (t : Tally) :
    (t.opened ns).close = if t.present.map (fun e => e.1) = some ns then t.close
      else { t.close with done := (hash ns, .empty) :: t.close.done } := by
  rcases opened_cases ns t with ⟨p, present, same⟩ | ⟨other, fresh⟩
  · rw [same, present, Option.map_some, if_pos rfl]
  · rw [fresh, if_neg other, close_of_present rfl, ← close_present t]
    rfl

end Tally

def lookedUp (c : Client σ) (cancelled : Bool) (cache : ImageCache) (t : Tally) (s : σ) :
    List (String × Image) × ImageCache :=
  if cancelled then ([], cache.resizeFor t.counted)
  else ((lookUpAll c (cache.resizeFor t.counted) t.images.reverse).run s).1

theorem conclude_lookedUp (c : Client σ) (cancelled : Bool) (cache : ImageCache)
    (t : Tally) (s : σ) :
    ((conclude c cancelled cache t).run s).1 =
      (output t (lookedUp c cancelled cache t s).1, (lookedUp c cancelled cache t s).2) := by
  cases cancelled with
  | true => rfl
  | false => rfl

theorem lookedUp_told {c : Client σ} {d : Client τ} {known : String → Except ClusterError Json}
    (describes : Describes c known) (describes' : Describes d known) {t t' : Tally}
    (counted : t.counted = t'.counted) (images : t.images = t'.images) (cancelled : Bool)
    (cache : ImageCache) (s : σ) (u : τ) :
    lookedUp c cancelled cache t s = lookedUp d cancelled cache t' u := by
  unfold lookedUp
  rw [counted, images]
  cases cancelled with
  | true => rfl
  | false => exact lookUpAll_told describes describes' _ _ s u

def entryMembers (entries : List (String × NamespacePods)) : Json :=
  .obj (entries.map fun e => (e.1, e.2.toJson))

def entriesOf (t : Tally) : List (String × NamespacePods) := Keyed.ofPairs t.done.reverse

theorem entryMembers_insert_ne {entries : List (String × NamespacePods)}
    (filled : ∀ e ∈ entries, 1 ≤ e.2.count) (key : String) :
    entryMembers (Keyed.insert key .empty entries) ≠ entryMembers entries := by
  intro same
  have member : (key, NamespacePods.empty.toJson) ∈ entries.map fun e => (e.1, e.2.toJson) := by
    rw [← Json.obj.inj same]
    exact List.mem_map_of_mem (f := fun e => (e.1, NamespacePods.toJson e.2))
      (Keyed.mem_of_lookup (Keyed.lookup_insert_self key .empty entries))
  obtain ⟨e, inside, told⟩ := List.mem_map.mp member
  have counts : some (Json.int e.2.count) = some (Json.int 0) :=
    congrArg (Json.get? "count") (congrArg Prod.snd told)
  have none := Json.int.inj (Option.some.inj counts)
  have some := filled e inside
  omega

/-- The tally of a listing that goes on beyond the limit is that of its first pods, but for the
entry without pods. -/
structure CutOff (t t' : Tally) (last next : Json) : Prop where
  within : t.limitReached = false
  reached : t'.limitReached = true
  counted : t'.counted = t.counted
  images : t'.images = t.images
  filled : ∀ e ∈ entriesOf t, 1 ≤ e.2.count
  entries : entriesOf t' = if last.namespaceOf = next.namespaceOf then entriesOf t
    else Keyed.insert (hash next.namespaceOf) .empty (entriesOf t)

theorem foldl_add_cutOff {before : List Json} (full : before.length + 1 = maxPods)
    (last next : Json) (behind : List Json) :
    CutOff ((before ++ [last]).foldl Tally.add .start).close
      ((before ++ last :: next :: behind).foldl Tally.add .start).close last next := by
  have length : (before ++ [last]).length = maxPods := by
    rw [List.length_append, List.length_singleton, full]
  have listing : before ++ last :: next :: behind = (before ++ [last]) ++ next :: behind := by simp
  have present := Tally.foldl_add_present (Nat.le_of_eq full) last
  have open_ := (Tally.foldl_add_within (Nat.le_of_eq length)).1
  have filled := Tally.foldl_add_filled (Nat.le_of_eq length)
  -- The next pod is not counted, but the group of its namespace is there before the limit is looked
  -- at.
  rw [listing, Tally.foldl_add_beyond length, Tally.close_atLimit, Tally.close_opened, present]
  generalize (before ++ [last]).foldl Tally.add .start = t at open_ filled
  have still : t.close.limitReached = false := (Tally.close_limitReached t).trans open_
  have filled' : ∀ e ∈ entriesOf t.close, 1 ≤ e.2.count := by
    intro e member
    exact filled e (List.mem_reverse.mp (Keyed.mem_of_mem_ofPairs member))
  by_cases same : last.namespaceOf = next.namespaceOf
  · rw [if_pos (congrArg some same)]
    exact ⟨still, rfl, rfl, rfl, filled', (if_pos same).symm⟩
  · rw [if_neg fun here => same (Option.some.inj here)]
    refine ⟨still, rfl, rfl, rfl, filled', ?_⟩
    rw [if_neg same, entriesOf, Tally.atLimit, List.reverse_cons]
    exact Keyed.ofPairs_concat _ _ _

theorem fingerprint_eq (t : Tally) (images : List (String × Image)) :
    fingerprint t images = .obj [("pods", .int t.counted), ("imageCount", .int images.length),
      ("images", Json.object ((images.filter fun i => !i.2.isUnknown).map fun i =>
        (i.1, i.2.toJson))), ("namespaces", entryMembers (entriesOf t))] := by
  have entries : Json.object (t.done.reverse.map fun e => (e.1, e.2.toJson)) =
      entryMembers (entriesOf t) :=
    congrArg Json.obj (Keyed.ofPairs_map NamespacePods.toJson t.done.reverse)
  rw [← entries]
  rfl

theorem get?_namespaces_entries (t : Tally) (images : List (String × Image)) :
    (fingerprint t images).get? "namespaces" = some (entryMembers (entriesOf t)) :=
  get?_namespaces t images

theorem CutOff.namespaces_ne {t t' : Tally} {last next : Json} (cut : CutOff t t' last next)
    (other : last.namespaceOf ≠ next.namespaceOf) (images : List (String × Image)) :
    (fingerprint t' images).get? "namespaces" ≠ (fingerprint t images).get? "namespaces" := by
  rw [get?_namespaces_entries, get?_namespaces_entries, cut.entries, if_neg other]
  exact fun same => entryMembers_insert_ne cut.filled _ (Option.some.inj same)

theorem CutOff.fingerprint_eq_iff {t t' : Tally} {last next : Json} (cut : CutOff t t' last next)
    (images : List (String × Image)) :
    fingerprint t' images = fingerprint t images ↔ last.namespaceOf = next.namespaceOf := by
  constructor
  · intro same
    by_contra other
    exact cut.namespaces_ne other images (congrArg (Json.get? "namespaces") same)
  · intro same
    rw [fingerprint_eq, fingerprint_eq, cut.counted, cut.entries, if_pos same]

theorem surveys_cutOff {c : Client σ} {d : Client τ} {serve serve' : Option String → ResourcePage}
    {pages pages' : List (List Json)} {known : String → Except ClusterError Json}
    (served : Pager.Served serve none pages) (served' : Pager.Served serve' none pages')
    (answers : Pager.AlwaysAnswers c podPager serve)
    (answers' : Pager.AlwaysAnswers d podPager serve') (bounded : pages.length ≤ c.pageBound)
    (bounded' : pages'.length ≤ d.pageBound) (describes : Describes c known)
    (describes' : Describes d known) {before behind : List Json} {last next : Json}
    (full : before.length + 1 = maxPods)
    (listing : pages.flatten = before ++ last :: next :: behind)
    (cut : pages'.flatten = before ++ [last]) (cancelled : Bool) (cache : ImageCache)
    (s : σ) (u : τ) :
    ∃ t t' images cache' s' u', CutOff t t' last next ∧
      (survey c cancelled cache).run s =
      ((⟨[.of "config/workload_info" (.json (fingerprint t' images))],
        [.warning s!"The {maxPods} limit for number of pods gathered was reached"]⟩, cache'), s') ∧
        (survey d cancelled cache).run u =
        ((⟨[.of "config/workload_info" (.json (fingerprint t images))], []⟩, cache'), u') := by
  obtain ⟨v, surveyed⟩ := survey_run served answers bounded cancelled cache s
  obtain ⟨v', surveyed'⟩ := survey_run served' answers' bounded' cancelled cache u
  rw [listing] at surveyed
  rw [cut] at surveyed'
  have cutOff := foldl_add_cutOff full last next behind
  generalize ((before ++ [last]).foldl Tally.add .start).close = t at surveyed' cutOff
  generalize ((before ++ last :: next :: behind).foldl Tally.add .start).close = t'
    at surveyed cutOff
  have looked :=
    lookedUp_told describes describes' cutOff.counted cutOff.images cancelled cache v v'
  have told := conclude_lookedUp c cancelled cache t' v
  have told' := conclude_lookedUp d cancelled cache t v'
  rw [← surveyed, looked] at told
  rw [← surveyed'] at told'
  refine ⟨t, t', (lookedUp d cancelled cache t v').1,
    (lookedUp d cancelled cache t v').2, _, _, cutOff,
    Prod.ext (told.trans ?_) rfl, Prod.ext (told'.trans ?_) rfl⟩
  · rw [output, cutOff.reached]
    rfl
  · rw [output, cutOff.within]
    rfl

/-- A listing beyond the limit has the fingerprint of its first pods, whose entries all have pods,
but for one entry without pods if the first pod beyond the limit is of another namespace than the
pod before it. -/
theorem fingerprint_of_first_pods {c : Client σ} {d : Client τ}
    {serve serve' : Option String → ResourcePage} {pages pages' : List (List Json)}
    {known : String → Except ClusterError Json} (served : Pager.Served serve none pages)
    (served' : Pager.Served serve' none pages') (answers : Pager.AlwaysAnswers c podPager serve)
    (answers' : Pager.AlwaysAnswers d podPager serve') (bounded : pages.length ≤ c.pageBound)
    (bounded' : pages'.length ≤ d.pageBound) (describes : Describes c known)
    (describes' : Describes d known) (beyond : maxPods < pages.flatten.length)
    (cut : pages'.flatten = pages.flatten.take maxPods) (cancelled : Bool) (cache : ImageCache)
    (s : σ) (u : τ) :
    let last := pages.flatten[maxPods - 1]
    let next := pages.flatten[maxPods]
    ∃ info info' cache' s' u' entries,
      (survey c cancelled cache).run s = ((⟨[.of "config/workload_info" (.json info)],
        [.warning s!"The {maxPods} limit for number of pods gathered was reached"]⟩, cache'), s') ∧
      (survey d cancelled cache).run u =
        ((⟨[.of "config/workload_info" (.json info')], []⟩, cache'), u') ∧
      (∀ key, key ≠ "namespaces" → info.get? key = info'.get? key) ∧
      info'.get? "namespaces" = some (entryMembers entries) ∧ (∀ e ∈ entries, 1 ≤ e.2.count) ∧
      info.get? "namespaces" =
        some (entryMembers (if last.namespaceOf = next.namespaceOf then entries
        else Keyed.insert (hash next.namespaceOf) .empty entries)) ∧
      (info = info' ↔ last.namespaceOf = next.namespaceOf) := by
  intro last next
  have one : maxPods - 1 + 1 = maxPods := rfl
  have from_next : pages.flatten.drop maxPods = next :: pages.flatten.drop (maxPods + 1) :=
    List.drop_eq_getElem_cons beyond
  have from_last : pages.flatten.drop (maxPods - 1) = last :: pages.flatten.drop maxPods :=
    List.drop_eq_getElem_cons (by omega)
  have listing : pages.flatten =
      pages.flatten.take (maxPods - 1) ++ last :: next :: pages.flatten.drop (maxPods + 1) := by
    rw [← from_next, ← from_last, List.take_append_drop]
  have first : pages'.flatten = pages.flatten.take (maxPods - 1) ++ [last] := by
    rw [cut, ← one, List.take_add_one, List.getElem?_eq_getElem (by omega)]
    rfl
  have full : (pages.flatten.take (maxPods - 1)).length + 1 = maxPods := by
    rw [List.length_take]
    omega
  obtain ⟨t, t', images, cache', s', u', cutOff, surveyed, surveyed'⟩ :=
    surveys_cutOff served served' answers answers'
    bounded bounded' describes describes' full listing first cancelled cache s u
  refine ⟨_, _, cache', s', u', entriesOf t, surveyed, surveyed', ?_, ?_, cutOff.filled, ?_,
    cutOff.fingerprint_eq_iff images⟩
  · intro key other
    rw [fingerprint_eq, fingerprint_eq, cutOff.counted]
    simp only [Json.get?, Keyed.lookup_cons]
    rw [if_neg (Ne.symm other), if_neg (Ne.symm other)]
  · exact get?_namespaces_entries t images
  · rw [get?_namespaces_entries, cutOff.entries]

def onePage (pods : List Json) : Option String → ResourcePage := fun _ => ⟨pods, none⟩

theorem onePage_served (pods : List Json) : Pager.Served (onePage pods) none [pods] := .last rfl

theorem onePage_answers (pods : List Json) :
    Pager.AlwaysAnswers (Pager.reading (onePage pods)) podPager (onePage pods) :=
  fun _ _ => ⟨_, rfl⟩

theorem onePage_describes (pods : List Json) :
    Describes (Pager.reading (onePage pods)) fun name => .error (.notFound name) :=
  fun _ _ => ⟨_, rfl⟩

def oneNamespace : List Json := List.replicate (maxPods + 1) (bare "alpha" "Failed")

theorem oneNamespace_first_pods :
    let pods := oneNamespace
    maxPods < pods.length ∧ ∃ info cache' s' u',
      (survey (Pager.reading (onePage pods)) false (.empty 1)).run () =
        ((⟨[.of "config/workload_info" (.json info)],
        [.warning s!"The {maxPods} limit for number of pods gathered was reached"]⟩, cache'), s') ∧
      (survey (Pager.reading (onePage (pods.take maxPods))) false (.empty 1)).run () =
        ((⟨[.of "config/workload_info" (.json info)], []⟩, cache'), u') := by
  intro pods
  have beyond : maxPods < [pods].flatten.length := by simp [pods, oneNamespace]
  have cut : [pods.take maxPods].flatten = [pods].flatten.take maxPods := by simp
  obtain ⟨info, info', cache', s', u', _, surveyed, surveyed', _, _, _, _, same⟩ :=
    fingerprint_of_first_pods (onePage_served pods) (onePage_served (pods.take maxPods))
      (onePage_answers _)
      (onePage_answers _) (Nat.le_succ 1) (Nat.le_succ 1) (onePage_describes _)
        (onePage_describes _) beyond cut
      false (.empty 1) () ()
  have names : info = info' := same.mpr (by simp [pods, oneNamespace])
  rw [← names] at surveyed'
  exact ⟨by simpa using beyond, info, cache', s', u', surveyed, surveyed'⟩

def twoNamespaces : List Json :=
  List.replicate maxPods (bare "alpha" "Failed") ++ [bare "beta" "Failed"]

/-- The fingerprint has an entry without pods that the one of the first pods does not have. -/
theorem twoNamespaces_first_pods :
    let pods := twoNamespaces
    maxPods < pods.length ∧ ∃ info info' cache' errors s' u',
      (survey (Pager.reading (onePage pods)) false (.empty 1)).run () =
        ((⟨[.of "config/workload_info" (.json info)], errors⟩, cache'), s') ∧
      (survey (Pager.reading (onePage (pods.take maxPods))) false (.empty 1)).run () =
        ((⟨[.of "config/workload_info" (.json info')], []⟩, cache'), u') ∧
      info.get? "namespaces" ≠ info'.get? "namespaces" := by
  intro pods
  have alphas : List.replicate maxPods (bare "alpha" "Failed") =
      List.replicate (maxPods - 1) (bare "alpha" "Failed") ++ [bare "alpha" "Failed"] :=
        List.replicate_succ'
  have listing : [pods].flatten = List.replicate (maxPods - 1) (bare "alpha" "Failed") ++
      bare "alpha" "Failed" :: bare "beta" "Failed" :: [] := by
    rw [List.flatten_singleton, show pods = twoNamespaces from rfl, twoNamespaces, alphas,
      List.append_assoc]
    rfl
  have cut : [pods.take maxPods].flatten = List.replicate (maxPods - 1) (bare "alpha" "Failed") ++
      [bare "alpha" "Failed"] := by
    rw [List.flatten_singleton, ← alphas]
    exact List.take_left' List.length_replicate
  have full : (List.replicate (maxPods - 1) (bare "alpha" "Failed")).length + 1 = maxPods := by
    rw [List.length_replicate]
    rfl
  obtain ⟨t, t', images, cache', s', u', cutOff, surveyed, surveyed'⟩ :=
    surveys_cutOff (onePage_served pods) (onePage_served (pods.take maxPods)) (onePage_answers _)
      (onePage_answers _)
      (Nat.le_succ 1) (Nat.le_succ 1) (onePage_describes _)
        (onePage_describes _) full listing cut false (.empty 1)
      () ()
  exact ⟨by simp [pods, twoNamespaces], _, _, cache', _, s', u', surveyed, surveyed',
    cutOff.namespaces_ne (by decide) images⟩

end ClusterSurvey.Workload
