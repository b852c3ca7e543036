import ClusterSurvey.Proofs.Lru
import ClusterSurvey.Proofs.Survey.Exchanges
import ClusterSurvey.Proofs.Workload.Fingerprint

/-!
Which images are asked for. Images are looked up one after another, so what the cache has of one
when its turn comes depends on those before it. An image that it has is not asked for, every other
one is, once.
-/
namespace ClusterSurvey

variable {σ τ : Type}

namespace Workload

theorem describes_heard {c : Client σ} {known : String → Except ClusterError Json}
    (describes : Describes c known) : Describes c.heard known := by
  intro id (s, noted)
  obtain ⟨t, told⟩ := describes id s
  exact ⟨_, Client.get_heard told noted⟩

theorem tallyPages_lists (c : Client σ) (fuel : Nat) (p : Pager) (t : Tally) :
    Lists (tallyPages c.heard fuel p t).run (tallyPages c fuel p t).run := by
  induction fuel generalizing p t with
  | zero => exact .pure _
  | succ fuel ih =>
    unfold tallyPages
    refine Lists.lift_bind (.nextPage c p) fun answer => ?_
    split
    · exact .pure _
    · exact .pure _
    · dsimp only
      split
      · exact .pure _
      · exact ih _ _

/-- What is known of an image whose turn has come: what the cache has, or else what is served. -/
def described (known : String → Except ClusterError Json) (cache : ImageCache)
    (id : String) : Image :=
  match (cache.get? id).1, known id with
  | some image, _ => image
  | none, .ok resource => .ofResource resource
  | none, .error _ => .unknown

/-- The cache when the turn of an image comes, behind the images that stand before it. -/
def cacheAt (c : Client σ) (cache : ImageCache) (ids : List String) (id : String)
    (s : σ) : ImageCache :=
  ((lookUpAll c cache (ids.takeWhile (· ≠ id))).run s).1.2

theorem cacheAt_told {c : Client σ} {d : Client τ} {known : String → Except ClusterError Json}
    (describes : Describes c known) (describes' : Describes d known) (cache : ImageCache)
    (ids : List String) (id : String) (s : σ) (u : τ) :
    cacheAt c cache ids id s = cacheAt d cache ids id u :=
  congrArg Prod.snd (lookUpAll_told describes describes' cache _ s u)

theorem lookUpAll_cons (c : Client σ) (cache : ImageCache) (id : String)
    (rest : List String) (s : σ) :
    (lookUpAll c cache (id :: rest)).run s =
      let one := (lookUp c cache id).run s
      let others := (lookUpAll c one.1.2 rest).run one.2
      (((id, one.1.1) :: others.1.1, others.1.2), others.2) := rfl

theorem cacheAt_first (c : Client σ) (cache : ImageCache) (id : String)
    (rest : List String) (s : σ) :
    cacheAt c cache (id :: rest) id s = cache := by
  rw [cacheAt, List.takeWhile_cons_of_neg (by simp)]
  rfl

theorem cacheAt_later {id n : String} (other : n ≠ id) (c : Client σ) (cache : ImageCache)
    (rest : List String) (s : σ) :
    cacheAt c cache (id :: rest) n s =
      cacheAt c ((lookUp c cache id).run s).1.2 rest n ((lookUp c cache id).run s).2 := by
  rw [cacheAt, List.takeWhile_cons_of_pos (by simpa using Ne.symm other), lookUpAll_cons]
  rfl

theorem lookUp_cached {cache : ImageCache} {id : String} {image : Image}
    (found : (cache.get? id).1 = some image) (c : Client σ) (s : σ) :
    (lookUp c cache id).run s = ((image, (cache.get? id).2), s) := by
  unfold lookUp
  cases here : cache.get? id with
  | mk held cache' =>
    rw [here] at found
    cases found
    rfl

def learnt (cache : ImageCache) (id : String) : Except ClusterError Json → Image × ImageCache
  | .ok resource => (.ofResource resource, cache.put id (.ofResource resource))
  | .error _ => (.unknown, cache)

theorem lookUp_asked {c : Client σ} {cache : ImageCache} {id : String}
    (missing : (cache.get? id).1 = none) {s t : σ} {answer : Except ClusterError Json}
    (told : (c.get .images none id).run s = (answer, t)) :
    (lookUp c cache id).run s = (learnt (cache.get? id).2 id answer, t) := by
  unfold lookUp
  cases here : cache.get? id with
  | mk held cache' =>
    rw [here] at missing
    cases missing
    dsimp only
    rw [StateT.run_bind, told]
    cases answer <;> rfl

theorem lookUp_described {c : Client σ} {known : String → Except ClusterError Json}
    (describes : Describes c known) (cache : ImageCache) (id : String) (s : σ) :
    ((lookUp c cache id).run s).1.1 = described known cache id := by
  obtain ⟨t, told⟩ := describes id s
  cases found : (cache.get? id).1 with
  | some image => rw [lookUp_cached found, described, found]
  | none =>
    rw [lookUp_asked found told, described, found]
    cases known id <;> rfl

theorem lookUp_heard {c : Client σ} {known : String → Except ClusterError Json}
    (describes : Describes c known) (cache : ImageCache) (id : String) (s : σ)
    (noted : List Exchange) :
    ((lookUp c.heard cache id).run (s, noted)).2.2.filterMap Exchange.object? =
      noted.filterMap Exchange.object? ++
        if (cache.get? id).1.isNone then [⟨.images, none, id⟩] else [] := by
  obtain ⟨t, told⟩ := describes id s
  cases found : (cache.get? id).1 with
  | some image =>
    rw [lookUp_cached found]
    exact (List.append_nil _).symm
  | none =>
    rw [lookUp_asked found (Client.get_heard told noted)]
    exact List.filterMap_append

theorem get?_of_lookUp {n id : String} (other : n ≠ id) {c : Client σ} {cache : ImageCache}
    {s : σ} {image : Image} (found : (((lookUp c cache id).run s).1.2.get? n).1 = some image) :
    (cache.get? n).1 = some image := by
  cases held : (cache.get? id).1 with
  | some _ =>
    rw [lookUp_cached held] at found
    rwa [Lru.get?_get? other] at found
  | none =>
    cases told : (c.get .images none id).run s with
    | mk answer t =>
      rw [lookUp_asked held told] at found
      rw [← Lru.get?_get? other]
      cases answer with
      | ok resource => exact Lru.get?_put other found
      | error e => exact found

theorem lookUpAll_described {c : Client σ} {known : String → Except ClusterError Json}
    (describes : Describes c known) {ids : List String} (once : ids.Nodup)
    (cache : ImageCache) (s : σ) :
    ((lookUpAll c cache ids).run s).1.1 = ids.map fun id =>
    (id, described known (cacheAt c cache ids id s) id) := by
  induction ids generalizing cache s with
  | nil => rfl
  | cons id rest ih =>
    obtain ⟨fresh, later⟩ := List.nodup_cons.mp once
    rw [lookUpAll_cons, List.map_cons, cacheAt_first]
    dsimp only
    rw [lookUp_described describes, ih later]
    congr 1
    apply List.map_congr_left
    intro n member
    have other : n ≠ id := fun same => fresh (same ▸ member)
    rw [cacheAt_later other]

theorem lookUpAll_heard {c : Client σ} {known : String → Except ClusterError Json}
    (describes : Describes c known) {ids : List String} (once : ids.Nodup) (cache : ImageCache)
    (s : σ) (noted : List Exchange) :
    ((lookUpAll c.heard cache ids).run (s, noted)).2.2.filterMap Exchange.object? =
      noted.filterMap Exchange.object? ++
        (ids.filter fun id => ((cacheAt c cache ids id s).get? id).1.isNone).map
          fun id => ⟨.images, none, id⟩ := by
  induction ids generalizing cache s noted with
  | nil => exact (List.append_nil _).symm
  | cons id rest ih =>
    obtain ⟨fresh, later⟩ := List.nodup_cons.mp once
    have first := lookUp_heard describes cache id s noted
    have told := lookUp_told (describes_heard describes) describes cache id (s, noted) s
    generalize one : (lookUp c.heard cache id).run (s, noted) = after at first told
    obtain ⟨⟨image, cache'⟩, u, noted'⟩ := after
    have asked := ih later cache' u noted'
    have same : (rest.filter fun n => ((cacheAt c cache (id :: rest) n s).get? n).1.isNone) =
        rest.filter fun n => ((cacheAt c cache' rest n u).get? n).1.isNone := by
      apply List.filter_congr
      intro n member
      have other : n ≠ id := fun same => fresh (same ▸ member)
      rw [cacheAt_later other, ← told, cacheAt_told describes describes cache' rest n _ u]
    rw [lookUpAll_cons, one]
    dsimp only at first ⊢
    rw [asked, first, List.filter_cons, cacheAt_first, same, List.append_assoc]
    split <;> rfl

theorem get?_of_cacheAt {c : Client σ} {cache : ImageCache} {ids : List String} {id : String}
    {s : σ} {image : Image} (found : ((cacheAt c cache ids id s).get? id).1 = some image) :
    (cache.get? id).1 = some image := by
  induction ids generalizing cache s with
  | nil => exact found
  | cons first rest ih =>
    by_cases here : id = first
    · subst here
      rwa [cacheAt_first] at found
    · rw [cacheAt_later here] at found
      exact get?_of_lookUp here (ih found)

end Workload

end ClusterSurvey
