import ClusterSurvey.Proofs.Workload.Images

/-!
Taking a fingerprint again. What is looked up comes to the front of the cache, so while there is
room for all images of one fingerprint, none of them is dropped by another one or by what was in the
cache before. The next fingerprint finds them all.
-/
namespace ClusterSurvey.Workload

variable {σ τ : Type}

/-- The images that are served. -/
def Serves (known : String → Except ClusterError Json) (ids : List String) : Prop :=
  ∀ id ∈ ids, ∃ resource, known id = .ok resource

theorem lookUp_recent {c : Client σ} {known : String → Except ClusterError Json}
    (describes : Describes c known) {id : String} (served : ∃ resource, known id = .ok resource)
    {cache : ImageCache} {recent : List (String × Image)} (front : recent <+: cache.entries)
    (fresh : ∀ p ∈ recent, p.1 ≠ id) (room : recent.length < cache.capacity) (s : σ) :
    (id, ((lookUp c cache id).run s).1.1) :: recent <+: ((lookUp c cache id).run s).1.2.entries ∧
      ((lookUp c cache id).run s).1.2.capacity = cache.capacity := by
  cases found : (cache.get? id).1 with
  | some image =>
    rw [lookUp_cached found]
    exact ⟨Lru.front_get? front fresh found, cache.capacity_get? id⟩
  | none =>
    obtain ⟨t, told⟩ := describes id s
    obtain ⟨resource, here⟩ := served
    rw [here] at told
    have unchanged : (cache.get? id).2 = cache := Lru.get?_missing found
    rw [lookUp_asked found told, unchanged]
    exact ⟨Lru.front_put front fresh room _, rfl⟩

theorem lookUpAll_recent {c : Client σ} {known : String → Except ClusterError Json}
    (describes : Describes c known) {ids : List String} (once : ids.Nodup)
    (served : Serves known ids) {cache : ImageCache} {recent : List (String × Image)}
    (front : recent <+: cache.entries) (fresh : ∀ p ∈ recent, p.1 ∉ ids)
    (room : recent.length + ids.length ≤ cache.capacity) (s : σ) :
    ((lookUpAll c cache ids).run s).1.1.reverse ++ recent <+:
    ((lookUpAll c cache ids).run s).1.2.entries ∧
    ((lookUpAll c cache ids).run s).1.2.capacity = cache.capacity := by
  induction ids generalizing cache recent s with
  | nil => exact ⟨front, rfl⟩
  | cons id rest ih =>
    obtain ⟨new, later⟩ := List.nodup_cons.mp once
    obtain ⟨here, others⟩ := List.forall_mem_cons.mp served
    rw [List.length_cons] at room
    have apart : ∀ p ∈ recent, p.1 ≠ id := by
      intro p member same
      exact fresh p member (same ▸ List.mem_cons_self)
    obtain ⟨first, capacity⟩ := lookUp_recent describes here front apart (by omega) s
    rw [lookUpAll_cons]
    generalize (lookUp c cache id).run s = one at first capacity
    -- For the rest of the images one more stands in front, and there is one less to come.
    have fresh' : ∀ p ∈ (id, one.1.1) :: recent, p.1 ∉ rest := by
      intro p member
      rcases List.mem_cons.mp member with rfl | behind
      · exact new
      · exact fun inside => fresh p behind (List.mem_cons_of_mem _ inside)
    obtain ⟨all, capacity'⟩ :=
      ih later others first fresh' (by rw [List.length_cons, capacity]; omega) one.2
    dsimp only
    rw [List.reverse_cons, List.append_assoc, List.singleton_append]
    exact ⟨all, capacity'.trans capacity⟩

theorem lookUpAll_cached (c : Client σ) {looked : List (String × Image)}
    (once : (looked.map fun p => p.1).Nodup) {cache : ImageCache}
    (held : ∀ p ∈ looked, (cache.get? p.1).1 = some p.2) (s : σ) :
    ∃ cache', (lookUpAll c cache (looked.map fun p => p.1)).run s = ((looked, cache'), s) := by
  induction looked generalizing cache with
  | nil => exact ⟨cache, rfl⟩
  | cons p rest ih =>
    obtain ⟨new, later⟩ := List.nodup_cons.mp once
    obtain ⟨here, others⟩ := List.forall_mem_cons.mp held
    have kept : ∀ q ∈ rest, ((cache.get? p.1).2.get? q.1).1 = some q.2 := by
      intro q member
      have other : q.1 ≠ p.1 := fun same => new (List.mem_map.mpr ⟨q, member, same⟩)
      rw [Lru.get?_get? other]
      exact others q member
    obtain ⟨cache', all⟩ := ih later kept
    refine ⟨cache', ?_⟩
    rw [List.map_cons, lookUpAll_cons, lookUp_cached here]
    dsimp only
    rw [all]

theorem lookUpAll_again {c : Client σ} {known : String → Except ClusterError Json}
    (describes : Describes c known) {ids : List String} (once : ids.Nodup)
    (served : Serves known ids) {cache : ImageCache} {estimate : Nat}
    (room : ids.length ≤ (cache.resizeFor estimate).capacity) (s : σ) (d : Client τ) (u : τ) :
    let looked := ((lookUpAll c (cache.resizeFor estimate) ids).run s).1
    ∃ cache', (lookUpAll d (looked.2.resizeFor estimate) ids).run u = ((looked.1, cache'), u) := by
  intro looked
  have names : looked.1.map (fun p => p.1) = ids := by
    rw [lookUpAll_described describes once, List.map_map]
    exact List.map_id' ids
  have size : looked.1.length = ids.length := by rw [← names, List.length_map]
  have start : [] <+: (cache.resizeFor estimate).entries := List.nil_prefix
  have fresh : ∀ p ∈ ([] : List (String × Image)), p.1 ∉ ids :=
    fun p member => absurd member List.not_mem_nil
  have enough : ([] : List (String × Image)).length + ids.length ≤
      (cache.resizeFor estimate).capacity := by
    rwa [List.length_nil, Nat.zero_add]
  obtain ⟨recent, _⟩ := lookUpAll_recent describes once served start fresh enough s
  rw [List.append_nil] at recent
  -- Making the cache as large as it was cuts off nothing that stands in front.
  have front : looked.1.reverse <+: (looked.2.resizeFor estimate).entries := by
    apply Lru.front_resizeFor recent
    rw [List.length_reverse, size]
    exact room
  have apart : (looked.1.reverse.map fun p => p.1).Nodup := by
    rw [List.map_reverse, names]
    exact List.nodup_reverse.mpr once
  have held : ∀ p ∈ looked.1, ((looked.2.resizeFor estimate).get? p.1).1 = some p.2 := by
    intro p member
    exact Lru.get?_of_front front apart (List.mem_reverse.mpr member)
  obtain ⟨cache', again⟩ := lookUpAll_cached d (by rw [names]; exact once) held u
  rw [names] at again
  exact ⟨cache', again⟩

theorem survey_lookUps {c : Client σ} {serve : Option String → ResourcePage}
    {pages : List (List Json)} (served : Pager.Served serve none pages)
    (answers : Pager.AlwaysAnswers c podPager serve) (bounded : pages.length ≤ c.pageBound)
    (cache : ImageCache) (s : σ) :
    (survey c false cache).run s =
      let looked :=
        (lookUpAll c (cache.resizeFor (pages.flatten.take maxPods).length)
            (imagesOf pages.flatten)).run ((tallyPages c c.pageBound podPager .start).run.run s).2
      ((output (pages.flatten.foldl Tally.add .start).close looked.1.1, looked.1.2), looked.2) := by
  rw [survey_eq served answers bounded, conclude_run, Tally.images_close, Tally.counted_close]

theorem survey_heard {c : Client σ} {serve : Option String → ResourcePage}
    {pages : List (List Json)} {known : String → Except ClusterError Json}
    (served : Pager.Served serve none pages) (answers : Pager.AlwaysAnswers c podPager serve)
    (bounded : pages.length ≤ c.pageBound) (describes : Describes c known) (cache : ImageCache)
    (s : σ) (noted : List Exchange) :
    ((survey c.heard false cache).run (s, noted)).1 = ((survey c false cache).run s).1 := by
  have plain := survey_eq served answers bounded false cache s
  have heard := survey_eq served (Pager.answers_heard answers) bounded false cache (s, noted)
  rw [plain]
  exact (congrArg Prod.fst heard).trans
    (conclude_told (describes_heard describes) describes false cache _ _ _)

theorem capacity_counted (cache : ImageCache) (pods : List Json) :
    (cache.resizeFor (pods.take maxPods).length).capacity = max 1
    ((6 * (pods.take maxPods).length + 4) / 5) := by
  have most : (pods.take maxPods).length ≤ maxPods := List.length_take_le _ _
  have small : maxPods * 6 ≤ Lru.wordMax := by decide
  exact Lru.capacity_resizeFor cache (by omega)

/-- However pods are listed and whatever the cache has at first: where all images of the shapes are
served and the cache that a survey makes room in can hold them, another survey asks for none of them
and tells the same. -/
theorem repeated_survey_asks_nothing {c : Client σ} {serve : Option String → ResourcePage}
    {pages : List (List Json)} {known : String → Except ClusterError Json}
    (served : Pager.Served serve none pages) (answers : Pager.AlwaysAnswers c podPager serve)
    (bounded : pages.length ≤ c.pageBound) (describes : Describes c known)
    (catalogue : Serves known (imagesOf pages.flatten))
    (room : (imagesOf pages.flatten).length ≤
      max 1 ((6 * (pages.flatten.take maxPods).length + 4) / 5)) (cache : ImageCache) (s : σ) :
    let first := (survey c false cache).run s
    let again := (survey c.heard false first.1.2).run (first.2, [])
    (∃ info errors, first.1.1 = ⟨[.of "config/workload_info" (.json info)], errors⟩ ∧
      info.get? "pods" = some (.int (pages.flatten.take maxPods).length)) ∧
    again.1 = ((survey c false first.1.2).run first.2).1 ∧
    again.1.1 = first.1.1 ∧
    again.2.2.filterMap Exchange.object? = [] := by
  intro first again
  have once : (imagesOf pages.flatten).Nodup := eraseDups_nodup _
  have surveyed : first = _ := survey_lookUps served answers bounded cache s
  have repeated : again = _ :=
    survey_lookUps served (Pager.answers_heard answers) bounded first.1.2 (first.2, [])
  obtain ⟨exchanges, lists, same⟩ := tallyPages_lists c c.heard.pageBound podPager .start first.2
  rw [← capacity_counted cache] at room
  rw [same] at repeated
  generalize ((tallyPages c c.pageBound podPager .start).run.run s).2 = u at surveyed
  generalize ((tallyPages c c.heard.pageBound podPager .start).run.run first.2).2 = v at repeated
  obtain ⟨cache', found⟩ :=
    lookUpAll_again describes once catalogue room u c.heard (v, [] ++ exchanges)
  rw [surveyed] at repeated
  dsimp only at repeated
  rw [found] at repeated
  refine ⟨⟨_, _, by rw [surveyed]; rfl, ?_⟩,
    survey_heard served answers bounded describes _ _ _, ?_, ?_⟩
  · rw [← Tally.counted_close]
    rfl
  · rw [repeated, surveyed]
  · rw [repeated]
    exact Exchange.no_object_of_lists lists

def layered (id : String) : Except ClusterError Json :=
  .ok (.obj [("dockerImageLayers", .arr [.obj [("name", .str id)]])])

def layeredClient : Client Unit :=
  { Pager.reading shapedPages with get := fun _ _ name => return layered name }

theorem shapedPages_again :
    let pages := [(shapedPages none).items, (shapedPages (some "2")).items]
    let cache : ImageCache := ⟨2, [("md5:x", ⟨["old"], "", ""⟩), ("md5:c", ⟨["layer"], "", ""⟩)]⟩
    Pager.Served shapedPages none pages ∧ Pager.AlwaysAnswers layeredClient podPager shapedPages ∧
    pages.length ≤ layeredClient.pageBound ∧ Describes layeredClient layered ∧
    Serves layered (imagesOf pages.flatten) ∧
    (imagesOf pages.flatten).length ≤ max 1 ((6 * (pages.flatten.take maxPods).length + 4) / 5) ∧
    ((survey layeredClient.heard false cache).run ((), [])).2.2.filterMap Exchange.object? =
      [⟨.images, none, "md5:a"⟩, ⟨.images, none, "md5:b"⟩] ∧
    let first := (survey layeredClient false cache).run ()
    ((survey layeredClient.heard false first.1.2).run (first.2, [])).2.2.filterMap
        Exchange.object? = [] ∧
      ((survey layeredClient false first.1.2).run first.2).1.1 = first.1.1 := by
  intro pages cache
  have served : Pager.Served shapedPages none pages := .more rfl (.last rfl)
  have answers : Pager.AlwaysAnswers layeredClient podPager shapedPages := fun _ _ => ⟨_, rfl⟩
  have describes : Describes layeredClient layered := fun _ _ => ⟨_, rfl⟩
  have catalogue : Serves layered (imagesOf pages.flatten) := fun _ _ => ⟨_, rfl⟩
  have room : (imagesOf pages.flatten).length ≤
      max 1 ((6 * (pages.flatten.take maxPods).length + 4) / 5) := by
    decide +kernel
  obtain ⟨_, plain, same, silent⟩ :=
    repeated_survey_asks_nothing served answers (Nat.le_refl 2) describes catalogue room cache ()
  refine ⟨served, answers, Nat.le_refl 2, describes, catalogue, room, by decide +kernel, silent, ?_⟩
  rw [← plain]
  exact same

end ClusterSurvey.Workload
