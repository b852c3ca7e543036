import ClusterSurvey.Proofs.Json.Change

/-!
Texts replaced at a path. Looking below a path and replacing there obey the laws of reading and
writing: what was written is read again, what is written back changes nothing, and paths that part
do not see each other. A tree is written to only where the path leads to a text.
-/
namespace ClusterSurvey.Json

/-! Walking. -/

theorem walk?_append (path below : List String) (v : Json) :
    v.walk? (path ++ below) = (v.walk? path).bind fun found => found.walk? below := by
  induction path generalizing v with
  | nil => rfl
  | cons key path ih =>
    rw [List.cons_append, walk?, walk?]
    cases v.get? key with
    | none => rfl
    | some member => exact ih member

/-- The failure with another path in it. -/
def failedAt (path : List String) : GatherError → GatherError
  | .fieldNotFound _ => .fieldNotFound (pathText path)
  | other => other

theorem walk_eq_ok_iff {path : List String} {v found : Json} :
    v.walk path = .ok found ↔ v.walk? path = some found := by
  unfold walk
  cases v.walk? path <;> simp

theorem walk_append (path below : List String) (v : Json) :
    v.walk (path ++ below) = (v.walk path >>= walk below).mapError (failedAt (path ++ below)) := by
  unfold walk
  rw [walk?_append]
  cases v.walk? path with
  | none => rfl
  | some found =>
    simp only [Option.bind_some, bind, Except.bind]
    cases found.walk? below <;> rfl

/-! Paths that part. -/

theorem part_iff {path other : List String} :
    part path other = true ↔ ¬ path <+: other ∧ ¬ other <+: path := by
  induction path generalizing other with
  | nil => simp [part]
  | cons key path ih =>
    cases other with
    | nil => simp [part]
    | cons key' other =>
      rw [part, List.cons_prefix_cons, List.cons_prefix_cons]
      by_cases same : key = key'
      · simp [same, ih]
      · simp [same, Ne.symm same]

theorem walk?_modifyAt_of_part {path other : List String} (apart : part path other = true)
    (f : Json → Json) (v : Json) : (v.modifyAt path f).walk? other = v.walk? other := by
  induction path generalizing other v with
  | nil => cases apart
  | cons key path ih =>
    cases other with
    | nil => cases apart
    | cons key' other =>
      rw [modifyAt_cons, walk?, walk?, get?_modifyAt]
      cases v.get? key' with
      | none => rfl
      | some member =>
        by_cases same : key' = key
        · rw [part, if_pos same.symm] at apart
          rw [if_pos same]
          exact ih apart member
        · rw [if_neg same]
          rfl

/-! What is written. -/

theorem modifyAt_member_congr {f g : Json → Json} {key : String} {v : Json}
    (same : ∀ member, v.get? key = some member → f member = g member) :
    v.modifyAt [key] f = v.modifyAt [key] g := by
  cases v with
  | obj members => exact congrArg obj (Keyed.modify_congr same)
  | _ => rfl

theorem modifyAt_congr {f g : Json → Json} {path : List String} {v : Json}
    (same : ∀ found, v.walk? path = some found → f found = g found) :
    v.modifyAt path f = v.modifyAt path g := by
  induction path generalizing v with
  | nil => exact same v rfl
  | cons key path ih =>
    rw [modifyAt_cons, modifyAt_cons key path g]
    refine modifyAt_member_congr fun member here => ih fun found below => same found ?_
    rw [walk?, here]
    exact below

theorem modifyAt_id (path : List String) (v : Json) : v.modifyAt path id = v := by
  induction path generalizing v with
  | nil => rfl
  | cons key path ih =>
    rw [modifyAt_cons, funext (f := modifyAt path id) ih]
    cases v with
    | obj members => exact congrArg obj (Keyed.modify_id key members)
    | _ => rfl

theorem modifyAt_found {path : List String} {v found : Json} (here : v.walk? path = some found) :
    (v.modifyAt path fun _ => found) = v := by
  calc (v.modifyAt path fun _ => found) = v.modifyAt path id :=
        modifyAt_congr fun other there => Option.some.inj (here.symm.trans there)
    _ = v := modifyAt_id path v

theorem replaceStringIfPresent_text {path : List String} {v : Json} {s : String}
    (here : v.walk? path = some (.str s)) (f : String → String) :
    v.replaceStringIfPresent path f = v.modifyAt path fun _ => .str (f s) := by
  apply modifyAt_congr
  intro found there
  cases here.symm.trans there
  rfl

theorem replaceStringIfPresent_other {path : List String} {v : Json}
    (none : ∀ s, v.walk? path ≠ some (.str s)) (f : String → String) :
    v.replaceStringIfPresent path f = v := by
  calc v.replaceStringIfPresent path f = v.modifyAt path id := by
        apply modifyAt_congr
        intro found there
        cases found with
        | str s => exact absurd there (none s)
        | _ => rfl
    _ = v := modifyAt_id path v

/-! A tree that is kept. -/

/-- The value at a path, and the tree with another value in its place. -/
def focus? : (path : List String) → Json → Option (Json × (Json → Json))
  | [], v => some (v, id)
  | key :: rest, v =>
    match v.get? key with
    | some member => (focus? rest member).map fun focus =>
        (focus.1, fun w => v.modifyAt [key] fun _ => focus.2 w)
    | none => none

/-- The replacement of a text in a tree that is kept: what it tells, and the tree that it leaves.
What stands at the path is put back if it is no text. -/
def replaceInPlace (path : List String) (f : String → String) (v : Json) :
    Except GatherError Unit × Json :=
  match focus? path v with
  | none => (.error (.fieldNotFound (pathText path)), v)
  | some (.str s, put) => (.ok (), put (.str (f s)))
  | some (other, put) => (.error (.anonymization (pathText path ++ " is not a string")), put other)

theorem focus?_eq (path : List String) (v : Json) :
    focus? path v = (v.walk? path).map fun found =>
      (found, fun w => v.modifyAt path fun _ => w) := by
  induction path generalizing v with
  | nil => rfl
  | cons key path ih =>
    rw [focus?, walk?]
    cases here : v.get? key with
    | none => rfl
    | some member =>
      dsimp only
      rw [ih, Option.map_map]
      cases member.walk? path with
      | none => rfl
      | some found =>
        -- Below the member the tree is put together from what is put there, and the member is the
        -- only one that counts.
        refine congrArg some (Prod.ext rfl (funext fun w => ?_))
        dsimp only [Function.comp_apply]
        rw [modifyAt_cons key path]
        apply modifyAt_member_congr
        intro other there
        cases here.symm.trans there
        rfl

theorem replaceInPlace_eq (path : List String) (f : String → String) (v : Json) :
    v.replaceInPlace path f =
      match v.replaceString path f with
      | .ok w => (.ok (), w)
      | .error e => (.error e, v) := by
  rw [replaceInPlace, focus?_eq, replaceString]
  cases here : v.walk? path with
  | none => rfl
  | some found =>
    cases found with
    | str s => exact congrArg _ (replaceStringIfPresent_text here f).symm
    | _ => exact congrArg _ (modifyAt_found here)

/-! What a replacement does. -/

structure Replaced (path : List String) (f : String → String) (v w : Json) : Prop where
  written : ∃ s, v.walk path = .ok (.str s) ∧ w.walk path = .ok (.str (f s))
  elsewhere : ∀ other, ¬ path <+: other → ¬ other <+: path → w.walk other = v.walk other

structure Refused (path : List String) (v : Json) (e : GatherError) : Prop where
  missing_iff : (∃ told, e = .fieldNotFound told) ↔ ∃ failure, v.walk path = .error failure
  noText_iff : (∃ told, e = .anonymization told) ↔ ∃ found, v.walk path = .ok found
  told : e = .fieldNotFound (pathText path) ∨
    e = .anonymization (pathText path ++ " is not a string")

theorem replaceString_text {path : List String} {v : Json} {s : String}
    (here : v.walk? path = some (.str s)) (f : String → String) :
    v.replaceString path f = .ok (v.replaceStringIfPresent path f) := by
  rw [replaceString, here, replaceStringIfPresent]

theorem replaced_of_text {path : List String} {v : Json} {s : String}
    (here : v.walk? path = some (.str s)) (f : String → String) :
    Replaced path f v (v.replaceStringIfPresent path f) where
  written := by
    refine ⟨s, walk_eq_ok_iff.mpr here, walk_eq_ok_iff.mpr ?_⟩
    rw [replaceStringIfPresent, walk_modifyAt, here]
    rfl
  elsewhere := by
    intro other apart apart'
    rw [walk, walk, replaceStringIfPresent, walk?_modifyAt_of_part (part_iff.mpr ⟨apart, apart'⟩)]

theorem replaceString_other {path : List String} {v : Json}
    (none : ∀ s, v.walk? path ≠ some (.str s)) (f : String → String) :
    ∃ e, v.replaceString path f = .error e ∧ Refused path v e := by
  unfold replaceString
  cases here : v.walk? path with
  | none => exact ⟨_, rfl, by simp [walk, here], by simp [walk, here], Or.inl rfl⟩
  | some found =>
    cases found with
    | str s => exact absurd here (none s)
    | _ => exact ⟨_, rfl, by simp [walk, here], by simp [walk, here], Or.inr rfl⟩

/-- A replacement succeeds exactly if the path leads to a text. Then that text is replaced, and
nothing is changed on paths that part from it; else the failure is that of the walk, or tells that
there is no text, and nothing is changed at all. Without the need for a text the same is done, and
nothing where the replacement fails. A path is walked part by part. -/
theorem replacement_lawful_and_local (v : Json) (path : List String) (f : String → String) :
    ((∃ w, v.replaceString path f = .ok w) ↔ ∃ s, v.walk path = .ok (.str s)) ∧
    (∀ w, v.replaceString path f = .ok w →
      Replaced path f v w ∧ v.replaceInPlace path f = (.ok (), w) ∧
        v.replaceStringIfPresent path f = w) ∧
    (∀ e, v.replaceString path f = .error e →
      Refused path v e ∧ v.replaceInPlace path f = (.error e, v) ∧
        v.replaceStringIfPresent path f = v) ∧
    ∀ below, v.walk (path ++ below) =
      (v.walk path >>= walk below).mapError (failedAt (path ++ below)) := by
  simp only [walk_eq_ok_iff, replaceInPlace_eq]
  by_cases text : ∃ s, v.walk? path = some (.str s)
  · obtain ⟨s, here⟩ := text
    rw [replaceString_text here]
    refine ⟨⟨fun _ => ⟨s, here⟩, fun _ => ⟨_, rfl⟩⟩, ?_, nofun, fun below =>
      walk_append path below v⟩
    rintro w ⟨⟩
    exact ⟨replaced_of_text here f, rfl, rfl⟩
  · have none : ∀ s, v.walk? path ≠ some (.str s) := fun s here => text ⟨s, here⟩
    obtain ⟨e, failed, refused⟩ := replaceString_other none f
    rw [failed]
    refine ⟨⟨nofun, fun here => absurd here text⟩, nofun, ?_, fun below => walk_append path below v⟩
    rintro e' ⟨⟩
    exact ⟨refused, rfl, replaceStringIfPresent_other none f⟩

theorem domain_replaced :
    let v := obj [("spec", obj [("domain", str "apps.shop.io"), ("replicas", int 3)])]
    let w := obj [("spec", obj [("domain", str "hidden"), ("replicas", int 3)])]
    let f := fun _ => "hidden"
    (v.replaceString ["spec", "domain"] f = .ok w ∧
        w.walk ["spec", "replicas"] = v.walk ["spec", "replicas"]) ∧
      v.replaceString ["spec", "replicas"] f =
        .error (.anonymization "spec.replicas is not a string") ∧
      v.replaceInPlace ["spec", "replicas"] f =
        (.error (.anonymization "spec.replicas is not a string"), v) := by
  intro v w f
  have done : v.replaceString ["spec", "domain"] f = .ok w := rfl
  have failed : v.replaceString ["spec", "replicas"] f =
      .error (.anonymization "spec.replicas is not a string") := rfl
  have replaced := ((replacement_lawful_and_local v ["spec", "domain"] f).2.1 w done).1
  have kept := ((replacement_lawful_and_local v ["spec", "replicas"] f).2.2.1 _ failed).2.1
  exact ⟨⟨done, replaced.elsewhere ["spec", "replicas"] (by decide) (by decide)⟩, failed, kept⟩

end ClusterSurvey.Json
