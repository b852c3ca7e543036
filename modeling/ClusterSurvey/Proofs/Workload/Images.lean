import ClusterSurvey.Proofs.Messages
import ClusterSurvey.Proofs.Workload.LookUps

/-!
The images of a fingerprint are those of its shapes. A shape that equals the one before brings no
images, since these were noted when that one came; so all images of all shaped pods are noted, each
once, in the order of their first appearance. Each of them is described by what its turn brings.
-/
namespace ClusterSurvey.Workload

variable {σ : Type}

def podImages (pod : Json) : List String :=
  match classify pod with
  | .shaped shape => shape.images
  | _ => []

/-- The images of the pods that are looked at, in the order of their first appearance. -/
def imagesOf (pods : List Json) : List String := ((pods.take maxPods).flatMap podImages).eraseDups

namespace NamespacePods

def images (p : NamespacePods) : List String := p.shapes.reverse.flatMap PodShape.images

theorem images_of_sameContainers {a b : PodShape} (same : a.sameContainers b = true) :
    a.images = b.images := by
  simp only [PodShape.sameContainers, Bool.and_eq_true, decide_eq_true_eq] at same
  rw [PodShape.images, PodShape.images, same.1, same.2]

theorem addShape_images (p : NamespacePods) (shape : PodShape) :
    (p.addShape shape).1.images = p.images ++ (p.addShape shape).2 ∧
      ((p.addShape shape).2 = shape.images ∨ (p.addShape shape).2 = [] ∧
        shape.images ⊆ p.images) := by
  unfold addShape images
  cases shapes : p.shapes with
  | nil => simp
  | cons last rest =>
    by_cases same : last.sameContainers shape = true
    · have known : shape.images = last.images := (images_of_sameContainers same).symm
      have kept : PodShape.images { last with duplicates := last.duplicates + 1 } = last.images :=
        rfl
      simp [same, known, kept]
    · simp [same]

theorem add_images (p : NamespacePods) (pod : Json) :
    (p.add pod).1.images = p.images ++ (p.add pod).2 ∧
      ((p.add pod).2 = podImages pod ∨ (p.add pod).2 = [] ∧ podImages pod ⊆ p.images) := by
  unfold add podImages
  cases classify pod with
  | terminal => exact ⟨(List.append_nil _).symm, Or.inl rfl⟩
  | ignored => exact ⟨(List.append_nil _).symm, Or.inl rfl⟩
  | invalid => exact ⟨(List.append_nil _).symm, Or.inl rfl⟩
  | shaped shape => exact addShape_images { p with count := p.count + 1 } shape

theorem mem_images_ofPods {pods : List Json} {id : String} :
    id ∈ (ofPods pods).images ↔ id ∈ pods.flatMap podImages := by
  induction pods using List.reverseRecOn with
  | nil => exact Iff.rfl
  | append_singleton pods pod ih =>
    obtain ⟨whole, added⟩ := add_images (ofPods pods) pod
    rw [ofPods_concat, whole, List.flatMap_append, List.flatMap_singleton, List.mem_append,
      List.mem_append, ih]
    rcases added with own | ⟨none, inside⟩
    · rw [own]
    · rw [none]
      have known : id ∈ podImages pod → id ∈ pods.flatMap podImages :=
        fun member => ih.mp (inside member)
      simp only [List.not_mem_nil, or_false]
      tauto

end NamespacePods

namespace Tally

theorem addImages_append (images first second : List String) :
    addImages images (first ++ second) = addImages (addImages images first) second :=
  List.foldl_append

theorem addImages_of_subset {images ids : List String} (known : ids ⊆ images) :
    addImages images ids = images := by
  induction ids with
  | nil => rfl
  | cons id rest ih =>
    obtain ⟨here, later⟩ := List.cons_subset.mp known
    rw [addImages, List.foldl_cons, if_pos here]
    exact ih later

theorem reverse_addImages (images ids : List String) :
    (addImages images ids).reverse = images.reverse ++ uniqueFrom images ids := by
  induction ids generalizing images with
  | nil => exact (List.append_nil _).symm
  | cons id rest ih =>
    rw [addImages, List.foldl_cons, uniqueFrom]
    by_cases known : id ∈ images
    · rw [if_pos known, if_pos known]
      exact ih images
    · rw [if_neg known, if_neg known]
      have later := ih (id :: images)
      rw [List.reverse_cons, List.append_assoc] at later
      exact later

theorem mem_addImages {images ids : List String} {id : String} :
    id ∈ addImages images ids ↔ id ∈ images ∨ id ∈ ids := by
  induction ids generalizing images with
  | nil => simp [addImages]
  | cons first rest ih =>
    have step : addImages images (first :: rest) =
        addImages (if first ∈ images then images else first :: images) rest := rfl
    rw [step, ih, List.mem_cons]
    split
    · rename_i known
      constructor
      · tauto
      · rintro (old | rfl | new)
        · exact Or.inl old
        · exact Or.inl known
        · exact Or.inr new
    · rw [List.mem_cons]
      tauto

theorem close_images (t : Tally) : t.close.images = t.images := by
  unfold close
  split <;> rfl

theorem opened_images (ns : String) (t : Tally) : (t.opened ns).images = t.images := by
  unfold opened
  split
  · split
    · rfl
    · exact close_images t
  · rfl

theorem foldl_add_noted {pods : List Json} (within : pods.length ≤ maxPods) :
    (pods.foldl add start).images = addImages [] (pods.flatMap podImages) ∧
      ∀ ns p, (pods.foldl add start).present = some (ns, p) →
        p.images ⊆ (pods.foldl add start).images := by
  induction pods using List.reverseRecOn with
  | nil =>
    refine ⟨rfl, ?_⟩
    intro ns p present
    cases present
  | append_singleton pods pod ih =>
    rw [List.length_append, List.length_singleton] at within
    have inside : pods.length ≤ maxPods := by omega
    obtain ⟨open_, counted⟩ := foldl_add_within inside
    obtain ⟨images, noted⟩ := ih inside
    rw [List.foldl_append, List.foldl_cons, List.foldl_nil, List.flatMap_append,
      List.flatMap_singleton, addImages_append, ← images]
    obtain ⟨p, present, added⟩ := add_within open_ (by omega) pod
    generalize pods.foldl add start = t at noted present added
    have known : p.images ⊆ t.images := by
      rcases opened_cases pod.namespaceOf t with ⟨q, here, same⟩ | ⟨_, fresh⟩
      · rw [same] at present
        exact noted _ p present
      · rw [fresh] at present
        cases present
        exact List.nil_subset _
    obtain ⟨whole, own⟩ := NamespacePods.add_images p pod
    rw [added, opened_images]
    constructor
    · rcases own with own | ⟨none, inside⟩
      · rw [own]
      · rw [none, addImages_of_subset (List.Subset.trans inside known)]
        rfl
    · intro ns q here
      cases here
      intro id member
      rw [whole] at member
      exact mem_addImages.mpr ((List.mem_append.mp member).imp_left fun old => known old)

theorem foldl_add_images (pods : List Json) :
    (pods.foldl add start).images = addImages [] ((pods.take maxPods).flatMap podImages) := by
  by_cases within : pods.length ≤ maxPods
  · rw [List.take_of_length_le within]
    exact (foldl_add_noted within).1
  · obtain ⟨next, behind, listing⟩ := exists_beyond (Nat.lt_of_not_le within)
    have full : (pods.take maxPods).length = maxPods :=
      List.length_take_of_le (Nat.le_of_not_le within)
    have beyond := foldl_add_beyond full next behind
    rw [← listing] at beyond
    rw [beyond, atLimit, opened_images]
    exact (foldl_add_noted (Nat.le_of_eq full)).1

theorem images_close (pods : List Json) :
    (pods.foldl add start).close.images.reverse = imagesOf pods := by
  rw [close_images, foldl_add_images, reverse_addImages, List.reverse_nil, List.nil_append]
  exact uniqueMessages_eq_eraseDups _

end Tally

/-! What can be read from a fingerprint. -/

def shapeIds (shape : Json) : List String :=
  (shape.itemsAt ["initContainers"] ++ shape.itemsAt ["containers"]).filterMap fun c =>
    c.stringAt? ["imageID"]

/-- The ids of the images of all shapes of a fingerprint. -/
def recordedIds (info : Json) : List String :=
  (((info.get? "namespaces").bind Json.asObject?).getD []).flatMap fun entry =>
    (entry.2.itemsAt ["shapes"]).flatMap shapeIds

theorem shapeIds_toJson (s : PodShape) : shapeIds s.toJson = s.images := by
  have initial : s.toJson.itemsAt ["initContainers"] =
      s.initContainers.map ContainerShape.toJson := by
    rw [itemsAt_member, PodShape.toJson, Json.get?, List.append_assoc, List.append_assoc,
      lookup_countMember (by decide)]
    cases s.initContainers <;> rfl
  have others : s.toJson.itemsAt ["containers"] = s.containers.map ContainerShape.toJson := by
    rw [itemsAt_member, PodShape.toJson, Json.get?, List.append_assoc, List.append_assoc,
      lookup_countMember (by decide)]
    cases s.initContainers <;> rfl
  have each : (fun c => Json.stringAt? ["imageID"] c) ∘ ContainerShape.toJson =
      fun c => some c.image := rfl
  rw [shapeIds, initial, others, ← List.map_append, List.filterMap_map, each,
    List.filterMap_eq_map', PodShape.images]

theorem shapes_toJson (p : NamespacePods) :
    (p.toJson.itemsAt ["shapes"]).flatMap shapeIds = p.images := by
  rw [NamespacePods.itemsAt_shapes, List.flatMap_map, NamespacePods.images]
  simp only [shapeIds_toJson]

theorem mem_recordedIds {pods : List Json} (grouped : Grouped pods) (apart : HashesApart pods)
    (images : List (String × Image)) {id : String} :
    id ∈ recordedIds (fingerprint (pods.foldl Tally.add .start).close images) ↔
      id ∈ imagesOf pods := by
  obtain ⟨groups, partition, holds, _⟩ := Tally.exists_partition grouped
  obtain ⟨done, _, _⟩ := holds.close
  have perm := namespaces_perm partition apart done
  rw [recordedIds, get?_namespaces, imagesOf, List.mem_eraseDups, ← partition.whole]
  simp only [Option.bind_some, Json.asObject?, Option.getD_some, List.flatMap_map, shapes_toJson]
  rw [(perm.flatMap_right fun e => e.2.images).mem_iff, List.flatMap_map, List.mem_flatMap,
    List.mem_flatMap]
  constructor
  · rintro ⟨g, member, inside⟩
    obtain ⟨pod, here, brings⟩ := List.mem_flatMap.mp (NamespacePods.mem_images_ofPods.mp inside)
    exact ⟨pod, Group.mem_podsOf_of_mem member here, brings⟩
  · rintro ⟨pod, looked, brings⟩
    obtain ⟨g, member, here⟩ := Group.mem_podsOf looked
    exact ⟨g, member, NamespacePods.mem_images_ofPods.mpr
      (List.mem_flatMap.mpr ⟨pod, here, brings⟩)⟩

theorem get?_images (t : Tally) {ids : List String} (once : ids.Nodup) (told : String → Image) :
    ∃ members, (fingerprint t (ids.map fun id => (id, told id))).get? "images" =
      some (.obj members) ∧
      (members.map fun m => m.1).Nodup ∧
      (∀ id, id ∈ members.map (fun m => m.1) ↔ id ∈ ids ∧ (told id).layers ≠ []) ∧
      ∀ m ∈ members, m.2 = (told m.1).toJson := by
  let known := ids.filter fun id => !(told id).isUnknown
  let pairs := known.map fun id => (id, (told id).toJson)
  have filtered : ((ids.map fun id => (id, told id)).filter fun i => !i.2.isUnknown).map
      (fun i => (i.1, i.2.toJson)) =
      pairs := by
    rw [List.filter_map, List.map_map]
    rfl
  have keys : pairs.map (fun m => m.1) = known := by
    rw [List.map_map]
    exact List.map_id' known
  have perm : (Keyed.ofPairs pairs).Perm pairs := by
    apply Keyed.ofPairs_perm
    rw [keys]
    exact once.filter _
  refine ⟨Keyed.ofPairs pairs, ?_, ?_, ?_, ?_⟩
  · rw [← filtered]
    rfl
  · rw [(perm.map _).nodup_iff, keys]
    exact once.filter _
  · intro id
    rw [(perm.map _).mem_iff, keys, List.mem_filter]
    simp [Image.isUnknown]
  · intro m member
    obtain ⟨id, _, rfl⟩ := List.mem_map.mp (perm.mem_iff.mp member)
    rfl

/-- The images of a fingerprint are those of its shapes: all of them are counted, and those of which
layers are known are told as they are known. -/
structure TellsImages (info : Json) (ids : List String) (told : String → Image) : Prop where
  recorded : ids.Perm (recordedIds info).eraseDups
  counted : info.get? "imageCount" = some (.int (recordedIds info).eraseDups.length)
  images : ∃ members, info.get? "images" = some (.obj members) ∧ (members.map fun m => m.1).Nodup ∧
    (∀ id, id ∈ members.map (fun m => m.1) ↔ id ∈ recordedIds info ∧ (told id).layers ≠ []) ∧
    ∀ m ∈ members, m.2 = (told m.1).toJson

theorem fingerprint_tells {pods : List Json} (grouped : Grouped pods) (apart : HashesApart pods)
    (told : String → Image) :
    TellsImages (fingerprint (pods.foldl Tally.add .start).close
      ((imagesOf pods).map fun id => (id, told id))) (imagesOf pods) told := by
  have once : (imagesOf pods).Nodup := eraseDups_nodup _
  generalize images : (imagesOf pods).map (fun id => (id, told id)) = looked
  have recorded : (imagesOf pods).Perm
      (recordedIds (fingerprint (pods.foldl Tally.add .start).close looked)).eraseDups := by
    apply (List.perm_ext_iff_of_nodup once (eraseDups_nodup _)).mpr
    intro id
    rw [List.mem_eraseDups, mem_recordedIds grouped apart]
  refine ⟨recorded, ?_, ?_⟩
  · rw [← recorded.length_eq, ← List.length_map, images]
    rfl
  · obtain ⟨members, here, keys, known, told⟩ :=
      get?_images (pods.foldl Tally.add .start).close once told
    rw [images] at here
    refine ⟨members, here, keys, ?_, told⟩
    intro id
    rw [known, mem_recordedIds grouped apart]

theorem conclude_run (c : Client σ) (cache : ImageCache) (t : Tally) (s : σ) :
    (conclude c false cache t).run s =
      let looked := (lookUpAll c (cache.resizeFor t.counted) t.images.reverse).run s
      ((output t looked.1.1, looked.1.2), looked.2) := rfl

/-- However a listing is cut into pages and whatever the cache has, the images of the fingerprint
are those of its shapes, told as the cache has them when their turn comes, or else as they are
served. Exactly those that it does not have then are asked for, each once, in the order of their
first appearance. -/
theorem images_match_shapes {c : Client σ} {serve : Option String → ResourcePage}
    {pages : List (List Json)} {known : String → Except ClusterError Json}
    (served : Pager.Served serve none pages) (answers : Pager.AlwaysAnswers c podPager serve)
    (bounded : pages.length ≤ c.pageBound) (grouped : Grouped pages.flatten)
    (apart : HashesApart pages.flatten) (describes : Describes c known)
    (cache : ImageCache) (s : σ) :
    let ids := imagesOf pages.flatten
    let turn := fun id => cacheAt c (cache.resizeFor (pages.flatten.take maxPods).length) ids id s
    (∃ info errors cache' t, (survey c false cache).run s =
        ((⟨[.of "config/workload_info" (.json info)], errors⟩, cache'), t) ∧
      TellsImages info ids fun id => described known (turn id) id) ∧
    (∀ id image, ((turn id).get? id).1 = some image → (cache.get? id).1 = some image) ∧
    let heard := (survey c.heard false cache).run (s, [])
    heard.1 = ((survey c false cache).run s).1 ∧
      heard.2.2.filterMap Exchange.object? =
        (ids.filter fun id => ((turn id).get? id).1.isNone).map fun id => ⟨.images, none, id⟩ := by
  intro ids turn
  have once : ids.Nodup := eraseDups_nodup _
  have images : (pages.flatten.foldl Tally.add .start).close.images.reverse = ids :=
    Tally.images_close _
  have counted : (pages.flatten.foldl Tally.add .start).close.counted =
      (pages.flatten.take maxPods).length := by
    obtain ⟨groups, partition, holds, _⟩ := Tally.exists_partition grouped
    rw [holds.close.2.1, partition.whole]
  have surveyed := survey_eq served answers bounded false cache s
  have heard := survey_eq served (Pager.answers_heard answers) bounded false cache (s, [])
  refine ⟨?_, ?_, ?_, ?_⟩
  · rw [surveyed, conclude_run, images, counted]
    generalize ((tallyPages c c.pageBound podPager .start).run.run s).2 = u
    refine ⟨_, _, _, _, rfl, ?_⟩
    have told : ∀ id, cacheAt c (cache.resizeFor (pages.flatten.take maxPods).length) ids id u =
        turn id := fun id =>
      cacheAt_told describes describes _ ids id u s
    rw [lookUpAll_described describes once]
    simp only [told]
    exact fingerprint_tells grouped apart _
  · intro id image found
    exact Lru.get?_resizeFor (get?_of_cacheAt found)
  · rw [heard, surveyed]
    exact conclude_told (describes_heard describes) describes false cache _ _ _
  · rw [heard, conclude_run, images, counted]
    obtain ⟨exchanges, lists, same⟩ := tallyPages_lists c c.heard.pageBound podPager .start s
    have told : ∀ u id,
        cacheAt c (cache.resizeFor (pages.flatten.take maxPods).length) ids id u = turn id :=
      fun u id => cacheAt_told describes describes _ ids id u s
    rw [same, lookUpAll_heard describes once, List.nil_append, Exchange.no_object_of_lists lists,
      List.nil_append]
    simp only [told]

def pulled (name image : String) : Json :=
  .obj [("name", .str name), ("imageID", .str ("docker-pullable://quay.io/app@" ++ image))]

def podOf (ns : String) (initContainers containers : List Json) : Json :=
  .obj [("metadata", .obj [("namespace", .str ns)]),
    ("spec", .obj [("initContainers", .arr initContainers), ("containers", .arr containers)]),
    ("status", .obj [("phase", .str "Running"), ("initContainerStatuses", .arr initContainers),
      ("containerStatuses", .arr containers)])]

def shapedPages : Option String → ResourcePage
  | none => ⟨[podOf "alpha" [pulled "init" "md5:a"] [pulled "main" "md5:b"],
      podOf "alpha" [pulled "init" "md5:a"] [pulled "main" "md5:b"]], some "2"⟩
  | some _ =>
      ⟨[podOf "alpha" [] [pulled "main" "md5:c"], podOf "beta" [] [pulled "main" "md5:b"]], none⟩

def servedImage (id : String) : Except ClusterError Json :=
  if id = "md5:b" then .ok (.obj [("dockerImageLayers", .arr [.obj [("name", .str "base")]])])
  else .error (.notFound id)

def shapedClient : Client Unit :=
  { Pager.reading shapedPages with get := fun _ _ name => return servedImage name }

theorem shapedPages_images :
    let pages := [(shapedPages none).items, (shapedPages (some "2")).items]
    let cache : ImageCache := ⟨1, [("md5:a", ⟨["layer"], "", ""⟩)]⟩
    Pager.Served shapedPages none pages ∧ Pager.AlwaysAnswers shapedClient podPager shapedPages ∧
    pages.length ≤ shapedClient.pageBound ∧ Grouped pages.flatten ∧ HashesApart pages.flatten ∧
    Describes shapedClient servedImage ∧
    (∃ info errors cache' t, (survey shapedClient false cache).run () =
        ((⟨[.of "config/workload_info" (.json info)], errors⟩, cache'), t) ∧
      info.get? "imageCount" = some (.int 3) ∧
      ∃ members, info.get? "images" = some (.obj members) ∧
        ∀ id, id ∈ members.map (fun m => m.1) ↔ id = "md5:a" ∨ id = "md5:b") ∧
    ((survey shapedClient.heard false cache).run ((), [])).2.2.filterMap Exchange.object? =
      [⟨.images, none, "md5:b"⟩, ⟨.images, none, "md5:c"⟩] := by
  intro pages cache
  have served : Pager.Served shapedPages none pages := .more rfl (.last rfl)
  have answers : Pager.AlwaysAnswers shapedClient podPager shapedPages := fun _ _ => ⟨_, rfl⟩
  have grouped : Grouped pages.flatten := grouped_of_names (by decide)
  have apart : HashesApart pages.flatten := apart_of_names (by decide +kernel)
  have describes : Describes shapedClient servedImage := fun _ _ => ⟨_, rfl⟩
  obtain ⟨⟨info, errors, cache', t, surveyed, tells⟩, _, _, asked⟩ :=
    images_match_shapes served answers (Nat.le_refl 2) grouped apart describes cache ()
  have ids : imagesOf pages.flatten = ["md5:a", "md5:b", "md5:c"] := by decide +kernel
  obtain ⟨recorded, counted, members, here, _, keys, _⟩ := tells
  rw [ids] at recorded
  refine ⟨served, answers, Nat.le_refl 2, grouped, apart, describes,
    ⟨info, errors, cache', t, surveyed, ?_, members, here, ?_⟩, ?_⟩
  · rw [counted, ← recorded.length_eq]
    rfl
  · intro id
    rw [keys, ← List.mem_eraseDups, ← recorded.mem_iff]
    constructor
    · rintro ⟨member, layers⟩
      have unknown : (described servedImage
          (cacheAt shapedClient (cache.resizeFor (pages.flatten.take maxPods).length)
          (imagesOf pages.flatten) "md5:c" ()) "md5:c").layers = [] := by decide +kernel
      have other : id ≠ "md5:c" := by
        rintro rfl
        exact layers unknown
      simpa [other] using member
    · rintro (rfl | rfl)
      · exact ⟨by simp, by decide +kernel⟩
      · exact ⟨by simp, by decide +kernel⟩
  · rw [asked]
    decide +kernel

end ClusterSurvey.Workload
