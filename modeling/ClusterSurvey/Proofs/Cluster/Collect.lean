import ClusterSurvey.Proofs.Cluster.Listing

/-!
What reading to the end returns and what it says of it. The mark that objects were left out is set
when the cap is reached before the last page is asked for. When the last page is asked for and the
cap cuts it, objects are left out without the mark; and a cap of nothing sets it also where there is
nothing.
-/
namespace ClusterSurvey.Pager

variable {σ : Type} {serve : Option String → ResourcePage}

/-- A token is brought only where objects remain. -/
def Honest (pages : List (List Json)) : Prop :=
  ∀ page rest, page :: rest <:+ pages → rest ≠ [] → rest.flatten ≠ []

/-- Whether the cap is reached before the last of the pages that come is asked for. -/
def stopsShort (p : Pager) (pages : List (List Json)) : Bool :=
  p.cap.any (· ≤ p.fetched + pages.dropLast.flatten.length)

theorem Served.ne_nil {token : Option String} {pages : List (List Json)}
    (served : Served serve token pages) :
    pages ≠ [] := by
  cases served <;> exact List.cons_ne_nil _ _

theorem AlwaysAnswers.take {c : Client σ} {p : Pager} (answers : AlwaysAnswers c p serve)
    (page : ResourcePage) :
    AlwaysAnswers c (p.take page).2 serve := by
  intro token s
  rw [take_pager]
  exact answers token s

theorem collectWithin_finished (c : Client σ) {p : Pager}
    (finished : p.finished = true) (fuel : Nat) (acc : List (List Json)) (s : σ) :
    (collectWithin c fuel acc p).run s = (.ok ⟨acc.reverse.flatten, p.truncated⟩, s) := by
  cases fuel with
  | zero => rfl
  | succ fuel =>
    unfold collectWithin
    rw [StateT.run_bind, nextPage_finished c finished]
    rfl

theorem collectWithin_answered {c : Client σ} {p : Pager} (answers : AlwaysAnswers c p serve)
    (unfinished : p.finished = false) (fuel : Nat) (acc : List (List Json)) (s : σ) :
    ∃ t, (collectWithin c (fuel + 1) acc p).run s =
      (collectWithin c fuel (p.leaves (serve p.options.continueToken).items :: acc)
        (p.take (serve p.options.continueToken)).2).run t := by
  obtain ⟨t, called⟩ := answers p.options.continueToken s
  refine ⟨t, ?_⟩
  rw [collectWithin, StateT.run_bind, nextPage_unfinished unfinished called, ← take_items]
  rfl

theorem stopsShort_take (p : Pager) (page : ResourcePage) {rest : List (List Json)}
    (more : rest ≠ []) :
    (p.take page).2.stopsShort rest = p.stopsShort (page.items :: rest) := by
  unfold stopsShort
  rw [List.dropLast_cons_of_ne_nil more, List.flatten_cons, List.length_append,
    take_pager, take_items]
  cases bound : p.cap with
  | none => rfl
  | some cap =>
    simp only [Option.any_some, leaves, bound, List.length_take, decide_eq_decide]
    omega

theorem collectWithin_full (c : Client σ) {p : Pager} (full : p.capReached = true)
    (unended : p.done = false) (fuel : Nat) (acc ahead : List (List Json)) (s : σ) :
    (collectWithin c fuel acc p).run s =
      (.ok ⟨acc.reverse.flatten ++ p.leaves ahead.flatten, p.stopsShort ahead⟩, s) := by
  have finished : p.finished = true := by rw [finished, full, Bool.or_true]
  obtain ⟨cap, bound, reached⟩ := p.capReached_eq.mp full
  have none : p.leaves ahead.flatten = [] := by
    simp only [leaves, bound, Nat.sub_eq_zero_of_le reached, List.take_zero]
  have cut : p.stopsShort ahead = true := by
    simp only [stopsShort, bound, Option.any_some, decide_eq_true_eq]
    omega
  rw [collectWithin_finished c finished, none, List.append_nil, cut, truncated, unended, full]
  rfl

theorem collectWithin_run {c : Client σ} {token : Option String} {ahead : List (List Json)}
    (served : Served serve token ahead) {fuel : Nat} (enough : ahead.length ≤ fuel) {p : Pager}
    (answers : AlwaysAnswers c p serve) (asks : p.options.continueToken = token)
    (unended : p.done = false) (acc : List (List Json)) (s : σ) :
    ∃ t, (collectWithin c fuel acc p).run s =
      (.ok ⟨acc.reverse.flatten ++ p.leaves ahead.flatten, p.stopsShort ahead⟩, t) := by
  induction served generalizing fuel p acc s with
  | last ends =>
    cases full : p.capReached with
    | true => exact ⟨s, collectWithin_full c full unended fuel acc _ s⟩
    | false =>
      -- The last page comes, so the mark is not set, however much of the page the cap leaves out.
      obtain ⟨fuel, rfl⟩ := Nat.exists_eq_add_of_le' enough
      have unfinished : p.finished = false := by rw [finished, unended, full]; rfl
      obtain ⟨t, next⟩ := collectWithin_answered answers unfinished fuel acc s
      have done : (p.take (serve p.options.continueToken)).2.done = true := by
        rw [take_pager, asks, ends]
        simp
      have finished' : (p.take (serve p.options.continueToken)).2.finished = true := by
        rw [finished, done]; rfl
      have uncut : ∀ items, p.stopsShort [items] = false := fun _ => full
      refine ⟨t, next.trans ?_⟩
      rw [collectWithin_finished c finished', truncated, done, asks, uncut]
      simp
  | @more token following rest goes later ih =>
    cases full : p.capReached with
    | true => exact ⟨s, collectWithin_full c full unended fuel acc _ s⟩
    | false =>
      obtain ⟨fuel, rfl⟩ :=
        Nat.exists_eq_add_of_le' (Nat.le_trans (Nat.le_add_left 1 rest.length) enough)
      have unfinished : p.finished = false := by rw [finished, unended, full]; rfl
      obtain ⟨t, next⟩ := collectWithin_answered answers unfinished fuel acc s
      rw [asks] at next
      have asks' : (p.take (serve token)).2.options.continueToken = some following := by
        rw [take_pager, goes]
        rfl
      have unended' : (p.take (serve token)).2.done = false := by
        rw [take_pager, goes, unended]
        rfl
      have same : (p.take (serve token)).2.cap = p.cap := by rw [take_pager]
      have counted : (p.take (serve token)).2.fetched =
          p.fetched + (p.leaves (serve token).items).length := by
        rw [take_pager, take_items]
      obtain ⟨u, others⟩ := ih (Nat.le_of_succ_le_succ enough) (answers.take _) asks' unended'
        (p.leaves (serve token).items :: acc) t
      refine ⟨u, next.trans (others.trans ?_)⟩
      rw [stopsShort_take p _ later.ne_nil, List.flatten_cons, leaves_append same counted]
      simp

theorem dropLast_flatten_le (pages : List (List Json)) :
    pages.dropLast.flatten.length ≤ pages.flatten.length := by
  rcases List.eq_nil_or_concat pages with rfl | ⟨before, last, rfl⟩
  · simp
  · rw [List.concat_eq_append, List.dropLast_concat, List.flatten_append, List.length_append]
    omega

theorem Honest.last_brings {pages : List (List Json)} (honest : Honest pages)
    (same : pages.dropLast.flatten.length = pages.flatten.length) : pages.flatten = [] := by
  rcases List.eq_nil_or_concat pages with rfl | ⟨before, last, rfl⟩
  · rfl
  · rw [List.concat_eq_append] at same honest ⊢
    rw [List.dropLast_concat, List.flatten_append, List.flatten_singleton, List.length_append]
      at same
    have empty : last = [] := List.eq_nil_of_length_eq_zero (by omega)
    subst empty
    rcases List.eq_nil_or_concat before with rfl | ⟨earlier, page, rfl⟩
    · rfl
    · have behind : [page, []] <:+ earlier.concat page ++ [[]] := ⟨earlier, by simp⟩
      exact absurd rfl (honest page [[]] behind (List.cons_ne_nil _ _))

/-- Reading to the end returns what the cap leaves, and marks it when the cap is reached before the
last page is asked for. The mark tells whether objects were left out, but for two caps: one that
cuts the last page leaves objects out without the mark, and a cap of nothing marks a listing of
nothing. -/
theorem truncated_unless_last_page_cut {c : Client σ} (resource : ApiResource)
    (settings : List Setting) {pages : List (List Json)} (served : Served serve none pages)
    (honest : Honest pages) (answers : AlwaysAnswers c (setUp resource settings) serve)
    (bounded : pages.length ≤ c.pageBound) (s : σ) :
    let start := setUp resource settings
    ∃ paged t, (start.collect c).run s = (.ok paged, t) ∧
      paged.items = start.capped pages.flatten ∧
      (paged.truncated = true ↔ ∃ cap, start.cap = some cap ∧ cap ≤ pages.dropLast.flatten.length) ∧
      ((paged.truncated = true ↔ paged.items.length < pages.flatten.length) ↔
        ∀ cap, start.cap = some cap →
          ¬ (pages.dropLast.flatten.length < cap ∧ cap < pages.flatten.length) ∧
            ¬ (cap = 0 ∧ pages.flatten = [])) := by
  dsimp only
  have fresh := setUp_fresh resource settings
  generalize setUp resource settings = start at answers fresh
  obtain ⟨t, read⟩ := collectWithin_run served bounded answers fresh.token fresh.done [] s
  refine ⟨_, t, read, ?_, ?_, ?_⟩
  · exact (capped_eq_leaves fresh.fetched _).symm
  · unfold stopsShort
    rw [fresh.fetched]
    cases start.cap <;> simp
  · have front := dropLast_flatten_le pages
    have whole := honest.last_brings
    unfold stopsShort leaves
    rw [fresh.fetched]
    cases start.cap with
    | none => simp
    | some cap =>
      simp only [← List.length_eq_zero_iff] at whole ⊢
      simp only [Option.any_some, decide_eq_true_eq, Option.some.injEq, forall_eq',
        List.reverse_nil, List.flatten_nil, List.nil_append, List.length_take]
      omega

def reading (serve : Option String → ResourcePage) : Client Unit where
  pageBound := 2
  list _ _ o := return .ok (serve o.continueToken)
  get _ _ name := return .error (.notFound name)
  logs _ pod _ := return .error (.notFound pod)
  raw path _ := return .error (.notFound path)

/-- Three objects, two on a page. -/
def twoAndOne : Option String → ResourcePage
  | none => ⟨[.int 1, .int 2], some "2"⟩
  | some _ => ⟨[.int 3], none⟩

theorem twoAndOne_marked :
    let start := setUp ApiResource.pods [.cap 2]
    Served twoAndOne none [[.int 1, .int 2], [.int 3]] ∧ Honest [[.int 1, .int 2], [.int 3]] ∧
    AlwaysAnswers (reading twoAndOne) start twoAndOne ∧
    ∃ paged t, (start.collect (reading twoAndOne)).run () = (.ok paged, t) ∧
      paged.items = [.int 1, .int 2] ∧ paged.truncated = true := by
  have served : Served twoAndOne none [[.int 1, .int 2], [.int 3]] := .more rfl (.last rfl)
  have honest : Honest [[.int 1, .int 2], [.int 3]] := by
    intro page rest behind more
    rcases List.suffix_cons_iff.mp behind with whole | later
    · cases whole
      exact List.cons_ne_nil _ _
    · rcases List.suffix_cons_iff.mp later with last | none
      · cases last
        exact absurd rfl more
      · cases List.suffix_nil.mp none
  have answers : AlwaysAnswers (reading twoAndOne) (setUp ApiResource.pods [.cap 2]) twoAndOne :=
    fun _ _ => ⟨_, rfl⟩
  obtain ⟨paged, t, read, items, marked, _⟩ :=
    truncated_unless_last_page_cut ApiResource.pods [.cap 2] served honest answers
      (Nat.le_refl 2) ()
  exact ⟨served, honest, answers, paged, t, read, items, marked.mpr ⟨2, rfl, Nat.le_refl 2⟩⟩

def allThree (_ : Option String) : ResourcePage := ⟨[.int 1, .int 2, .int 3], none⟩

/-- An object is left out without the mark, where smaller pages bring it. -/
theorem allThree_unmarked :
    let start := setUp ApiResource.pods [.cap 2]
    Served allThree none [[.int 1, .int 2, .int 3]] ∧ Honest [[.int 1, .int 2, .int 3]] ∧
    AlwaysAnswers (reading allThree) start allThree ∧
    ∃ paged t, (start.collect (reading allThree)).run () = (.ok paged, t) ∧
      paged.items = [.int 1, .int 2] ∧ ¬ (paged.truncated = true ↔ paged.items.length < 3) := by
  refine ⟨.last rfl, ?_, fun _ _ => ⟨_, rfl⟩, ⟨[.int 1, .int 2], false⟩, (), rfl, rfl, by simp⟩
  intro page rest behind more
  rcases List.suffix_cons_iff.mp behind with whole | none
  · cases whole
    exact absurd rfl more
  · cases List.suffix_nil.mp none

end ClusterSurvey.Pager
