import ClusterSurvey.Proofs.Cluster.Listing

/-!
A pager returns a listing once and in order, in whatever pages it comes and whichever list calls
fail. The list calls are written down with their answers, and a history ties the pager to them: it
has returned what the cap leaves of the objects that came, and the pages that did not come yet are
those behind its token. Each call for the next page adds to the history.
-/
namespace ClusterSurvey

variable {σ : Type}

structure Request where
  resource : ApiResource
  ns : Option String
  options : ListOptions
  answer : Except ClusterError ResourcePage

def Request.page? (r : Request) : Option ResourcePage := r.answer.toOption

def Client.logged (c : Client σ) : Client (σ × List Request) where
  pageBound := c.pageBound
  list r ns o := fun (s, log) =>
    let (answer, s) := c.list r ns o s
    (answer, s, log ++ [⟨r, ns, o, answer⟩])
  get r ns name := fun (s, log) =>
    let (answer, s) := c.get r ns name s
    (answer, s, log)
  logs ns pod o := fun (s, log) =>
    let (answer, s) := c.logs ns pod o s
    (answer, s, log)
  raw path query := fun (s, log) =>
    let (answer, s) := c.raw path query s
    (answer, s, log)

namespace Pager

abbrev Result : Type := Except ClusterError (Option (List Json))

/-- So many calls for the next page, each with the pager that the one before left. -/
def nextPages (c : Client σ) (p : Pager) : Nat → StateM σ (List Result × Pager)
  | 0 => return ([], p)
  | n + 1 => do
    let (results, p) ← nextPages c p n
    let (result, p) ← p.nextPage c
    return (results ++ [result], p)

def Result.items : Result → List Json
  | .ok (some items) => items
  | _ => []

def Result.failed : Result → Bool
  | .error _ => true
  | .ok _ => false

def Result.ended : Result → Bool
  | .ok none => true
  | _ => false

def Result.brought : Result → Bool
  | .ok (some _) => true
  | _ => false

def returned (results : List Result) : List Json := results.flatMap Result.items

def received (log : List Request) : List ResourcePage := log.filterMap Request.page?

def objectsIn (log : List Request) : List Json := (received log).flatMap (·.items)

/-- The token of the last answer that was no failure. -/
def lastToken (log : List Request) : Option String := (received log).getLast?.bind (·.continueToken)

def Ended (log : List Request) : Prop :=
  ∃ page, (received log).getLast? = some page ∧ page.continueToken = none

/-- A call that is made after others: it asks for what the last answer told, and there is more to
come and room for it. -/
structure Due (start : Pager) (before : List Request) (r : Request) : Prop where
  options : r.options = { start.options with continueToken := lastToken before }
  more : ¬ Ended before
  room : ∀ cap, start.cap = some cap → (objectsIn before).length < cap

structure History (serve : Option String → ResourcePage) (pages : List (List Json))
    (start p : Pager) (results : List Result) (log : List Request) : Prop where
  same : p = { start with
    fetched := p.fetched
    done := p.done
    options := { start.options with continueToken := p.options.continueToken } }
  fetched : p.fetched = (returned results).length
  returned : returned results = start.capped (objectsIn log)
  done : p.done = true ↔ Ended log
  token : p.done = false → p.options.continueToken = lastToken log
  ahead : ∃ ahead, (received log).map (·.items) ++ ahead = pages ∧ (p.done = true → ahead = []) ∧
    (p.done = false → Served serve p.options.continueToken ahead)
  counted : (received log).length = results.countP Result.brought
  due : ∀ before r after, log = before ++ r :: after → Due start before r
  ends : ∃ live k, results = live ++ List.replicate k (.ok none) ∧ .ok none ∉ live ∧
    (k ≠ 0 → p.finished = true)

theorem start_history {serve : Option String → ResourcePage}
    {pages : List (List Json)} {start : Pager} (fresh : start.Fresh)
    (served : Served serve none pages) : History serve pages start start [] [] where
  same := rfl
  fetched := fresh.fetched
  returned := by cases cap : start.cap <;> simp [capped, cap, Pager.returned, objectsIn, received]
  done := by simp [fresh.done, Ended, received]
  token _ := fresh.token
  ahead := ⟨pages, rfl, by simp [fresh.done], fun _ => fresh.token ▸ served⟩
  counted := rfl
  due before r after split := by simp at split
  ends := ⟨[], 0, rfl, List.not_mem_nil, fun none => absurd rfl none⟩

theorem received_concat (log : List Request) (r : Request) :
    received (log ++ [r]) = received log ++ r.page?.toList := by
  cases here : r.page? <;> simp [received, here]

theorem returned_concat (results : List Result) (result : Result) :
    Pager.returned (results ++ [result]) = Pager.returned results ++ result.items := by
  simp [Pager.returned]

theorem due_concat {start : Pager} {log : List Request} {r : Request}
    (all : ∀ before q after, log = before ++ q :: after → Due start before q)
    (last : Due start log r) :
    ∀ before q after, log ++ [r] = before ++ q :: after → Due start before q := by
  intro before q after split
  rcases List.eq_nil_or_concat after with none | ⟨later, l, some⟩
  · subst none
    obtain ⟨same, here⟩ := List.append_inj' split rfl
    cases here
    exact same ▸ last
  · subst some
    rw [List.concat_eq_append, ← List.cons_append, ← List.append_assoc] at split
    exact all before q later (List.append_inj' split rfl).1

variable {serve : Option String → ResourcePage} {pages : List (List Json)} {start p : Pager}
  {results : List Result} {log : List Request}

theorem History.fetched_eq (history : History serve pages start p results log) (cap : Nat)
    (bound : start.cap = some cap) : p.fetched = min cap (objectsIn log).length := by
  rw [history.fetched, history.returned, capped, bound, List.length_take]

theorem History.cap_eq (history : History serve pages start p results log) : p.cap = start.cap := by
  rw [history.same]

theorem History.next_due (history : History serve pages start p results log)
    (unfinished : p.finished = false) (answer : Except ClusterError ResourcePage) :
    Due start log ⟨p.resource, p.ns, p.options, answer⟩ := by
  obtain ⟨more, room⟩ := Bool.or_eq_false_iff.mp unfinished
  refine ⟨?_, ?_, ?_⟩
  · rw [← history.token more, history.same]
  · rw [← history.done, more]
    exact Bool.false_ne_true
  · intro cap bound
    by_contra full
    have reached : p.capReached = true := by
      refine p.capReached_eq.mpr ⟨cap, history.cap_eq.trans bound, ?_⟩
      rw [history.fetched_eq cap bound]
      omega
    rw [room] at reached
    cases reached

theorem History.end_step (history : History serve pages start p results log)
    (finished : p.finished = true) :
    History serve pages start p (results ++ [.ok none]) log := by
  have nothing : Pager.returned (results ++ [.ok none]) = Pager.returned results := by
    rw [returned_concat]
    exact List.append_nil _
  obtain ⟨live, k, split, working, _⟩ := history.ends
  refine ⟨history.same, ?_, ?_, history.done, history.token, history.ahead, ?_, history.due, ?_⟩
  · rw [nothing]
    exact history.fetched
  · rw [nothing]
    exact history.returned
  · rw [List.countP_append]
    exact history.counted
  · refine ⟨live, k + 1, ?_, working, fun _ => finished⟩
    rw [split, List.replicate_succ', List.append_assoc]

theorem History.live_step (history : History serve pages start p results log)
    (unfinished : p.finished = false) {q : Pager} {result : Result} (going : result ≠ .ok none) :
    ∃ live k, results ++ [result] = live ++ List.replicate k (.ok none) ∧ .ok none ∉ live ∧
      (k ≠ 0 → q.finished = true) := by
  obtain ⟨live, k, split, working, ended⟩ := history.ends
  have none : k = 0 := by
    by_contra some
    rw [ended some] at unfinished
    cases unfinished
  subst none
  refine ⟨live ++ [result], 0, ?_, ?_, fun some => absurd rfl some⟩
  · rw [split]
    simp
  · rw [List.mem_append, List.mem_singleton]
    rintro (old | new)
    · exact working old
    · exact going new.symm

theorem History.fail_step (history : History serve pages start p results log)
    (unfinished : p.finished = false) (e : ClusterError) :
    History serve pages start p (results ++ [.error e])
      (log ++ [⟨p.resource, p.ns, p.options, .error e⟩]) := by
  have nothing : Pager.returned (results ++ [.error e]) = Pager.returned results := by
    rw [returned_concat]
    exact List.append_nil _
  have unchanged : received (log ++ [⟨p.resource, p.ns, p.options, .error e⟩]) = received log := by
    rw [received_concat]
    exact List.append_nil _
  refine ⟨history.same, ?_, ?_, ?_, ?_, ?_, ?_,
    due_concat history.due (history.next_due unfinished _),
    history.live_step unfinished (by simp)⟩
  · rw [nothing]
    exact history.fetched
  · rw [nothing, objectsIn, unchanged]
    exact history.returned
  · rw [Ended, unchanged]
    exact history.done
  · rw [lastToken, unchanged]
    exact history.token
  · rw [unchanged]
    exact history.ahead
  · rw [unchanged, List.countP_append]
    exact history.counted

theorem History.page_step (history : History serve pages start p results log)
    (unfinished : p.finished = false) :
    History serve pages start (p.take (serve p.options.continueToken)).2
      (results ++ [.ok (some (p.take (serve p.options.continueToken)).1)])
      (log ++ [⟨p.resource, p.ns, p.options, .ok (serve p.options.continueToken)⟩]) := by
  generalize asked : serve p.options.continueToken = page
  have more : p.done = false := (Bool.or_eq_false_iff.mp unfinished).1
  have came : received (log ++ [⟨p.resource, p.ns, p.options, .ok page⟩]) = received log
      ++ [page] := received_concat _ _
  have gave : Pager.returned (results ++ [.ok (some (p.take page).1)]) = Pager.returned results
      ++ (p.take page).1 :=
    returned_concat _ _
  have fetched := history.fetched
  refine ⟨?_, ?_, ?_, ?_, ?_, ?_, ?_, due_concat history.due (history.next_due unfinished _),
    history.live_step unfinished (by simp)⟩
  · rw [take_pager, history.same]
  · rw [take_pager, gave, List.length_append, ← fetched]
  · rw [gave, objectsIn, came, List.flatMap_append, List.flatMap_singleton, take_items,
      history.returned]
    exact (capped_append history.cap_eq (history.returned ▸ fetched) page.items).symm
  · rw [take_pager, Ended, came, List.getLast?_concat]
    simp [more]
  · intro unended
    rw [take_pager, more, Bool.false_or] at unended
    obtain ⟨next, goes⟩ := Option.isSome_iff_exists.mp (by simpa using unended)
    rw [take_pager, lastToken, came, List.getLast?_concat]
    simp [goes]
  · -- The page that came is the first of those behind the token.
    obtain ⟨ahead, whole, _, served⟩ := history.ahead
    have behind := served more
    rw [came, List.map_append, ← whole, take_pager, more, Bool.false_or]
    cases behind with
    | last ends =>
      rw [asked] at ends
      exact ⟨[], by simp [asked], fun _ => rfl, by simp [ends]⟩
    | @more _ next rest goes later =>
      rw [asked] at goes
      refine ⟨rest, by simp [asked], by simp [goes], fun _ => ?_⟩
      rw [goes]
      exact later
  · rw [came, List.countP_append, List.length_append, history.counted]
    rfl

theorem logged_list {c : Client σ} {r : ApiResource} {ns : Option String}
    {o : ListOptions} {s t : σ} {answer : Except ClusterError ResourcePage}
    (called : (c.list r ns o).run s = (answer, t)) (log : List Request) :
    (c.logged.list r ns o).run (s, log) = (answer, t, log ++ [⟨r, ns, o, answer⟩]) := by
  have here : c.list r ns o s = (answer, t) := called
  unfold Client.logged
  simp only [StateT.run, here]

theorem History.step {c : Client σ} (answers : Answers c start serve)
    (history : History serve pages start p results log) (s : σ) :
    let after := (p.nextPage c.logged).run (s, log)
    History serve pages start after.1.2 (results ++ [after.1.1]) after.2.2 := by
  have told := answers p.options.continueToken s
  have same : (c.list start.resource start.ns { start.options with
      continueToken := p.options.continueToken }).run s =
      (c.list p.resource p.ns p.options).run s := by rw [history.same]
  rw [same] at told
  cases finished : p.finished with
  | true =>
    rw [nextPage_finished c.logged finished]
    exact history.end_step finished
  | false =>
    rcases told with ⟨e, t, failed⟩ | ⟨t, came⟩
    · rw [nextPage_unfinished finished (logged_list failed log)]
      exact history.fail_step finished e
    · rw [nextPage_unfinished finished (logged_list came log)]
      exact history.page_step finished

theorem nextPage_logged (c : Client σ) (p : Pager) (s : σ) (log : List Request) :
    ((p.nextPage c.logged).run (s, log)).1 = ((p.nextPage c).run s).1 ∧
      ((p.nextPage c.logged).run (s, log)).2.1 = ((p.nextPage c).run s).2 := by
  cases finished : p.finished with
  | true =>
    rw [nextPage_finished c finished, nextPage_finished c.logged finished]
    exact ⟨rfl, rfl⟩
  | false =>
    cases called : (c.list p.resource p.ns p.options).run s with
    | mk answer t =>
      rw [nextPage_unfinished finished called,
        nextPage_unfinished finished (logged_list called log)]
      exact ⟨rfl, rfl⟩

theorem nextPages_succ (c : Client σ) (p : Pager) (n : Nat) (s : σ) :
    (nextPages c p (n + 1)).run s =
      let before := (nextPages c p n).run s
      let after := (before.1.2.nextPage c).run before.2
      ((before.1.1 ++ [after.1.1], after.1.2), after.2) := rfl

theorem nextPages_logged (c : Client σ) (p : Pager) (n : Nat) (s : σ) (log : List Request) :
    ((nextPages c.logged p n).run (s, log)).1 = ((nextPages c p n).run s).1 ∧
      ((nextPages c.logged p n).run (s, log)).2.1 = ((nextPages c p n).run s).2 := by
  induction n with
  | zero => exact ⟨rfl, rfl⟩
  | succ n ih =>
    rw [nextPages_succ, nextPages_succ]
    dsimp only
    obtain ⟨results, state⟩ := ih
    obtain ⟨result, after⟩ := nextPage_logged c ((nextPages c.logged p n).run (s, log)).1.2
      ((nextPages c.logged p n).run (s, log)).2.1 ((nextPages c.logged p n).run (s, log)).2.2
    rw [result, after, results, state]
    exact ⟨rfl, rfl⟩

theorem nextPages_length (c : Client σ) (p : Pager) (n : Nat) (s : σ) :
    ((nextPages c p n).run s).1.1.length = n := by
  induction n with
  | zero => rfl
  | succ n ih =>
    rw [nextPages_succ]
    simp only [List.length_append, ih, List.length_singleton]

theorem nextPages_history {c : Client σ} (fresh : start.Fresh) (served : Served serve none pages)
    (answers : Answers c start serve) (n : Nat) (s : σ) :
    let after := (nextPages c.logged start n).run (s, [])
    History serve pages start after.1.2 after.1.1 after.2.2 := by
  induction n with
  | zero => exact start_history fresh served
  | succ n ih =>
    have next := History.step answers ih ((nextPages c.logged start n).run (s, [])).2.1
    exact next

theorem History.whole (history : History serve pages start p results log) :
    ∃ ahead, objectsIn log ++ ahead = pages.flatten ∧ (p.done = true → ahead = []) := by
  obtain ⟨ahead, whole, done, _⟩ := history.ahead
  refine ⟨ahead.flatten, ?_, fun ended => by rw [done ended]; rfl⟩
  rw [← whole, List.flatten_append, objectsIn, List.flatMap_def]

theorem capped_isPrefix (start : Pager) (objects more : List Json) :
    start.capped objects <+: start.capped (objects ++ more) := by
  let taken : Pager := { start with fetched := (start.capped objects).length }
  have same : taken.cap = start.cap := rfl
  rw [capped_append same rfl more]
  exact List.prefix_append _ _

theorem History.complete (history : History serve pages start p results log)
    (finished : p.finished = true) :
    Pager.returned results = start.capped pages.flatten := by
  obtain ⟨ahead, whole, done⟩ := history.whole
  rw [history.returned, ← whole]
  rcases Bool.or_eq_true_iff.mp finished with ended | reached
  · rw [done ended, List.append_nil]
  · -- What is still to come finds no room.
    obtain ⟨cap, bound, full⟩ := p.capReached_eq.mp reached
    rw [history.cap_eq] at bound
    have enough := history.fetched_eq cap bound
    simp only [capped, bound]
    rw [List.take_append_of_le_length (by omega)]

theorem History.finished_of_end (history : History serve pages start p results log)
    (ended : .ok none ∈ results) :
    p.finished = true := by
  obtain ⟨live, k, split, working, finished⟩ := history.ends
  refine finished fun none => ?_
  rw [split, none, List.replicate_zero, List.append_nil] at ended
  exact working ended

theorem length_eq_countP (results : List Result) : results.length =
    results.countP Result.failed + results.countP Result.brought + results.countP Result.ended := by
  induction results with
  | nil => rfl
  | cons result rest ih =>
    simp only [List.length_cons, List.countP_cons, ih]
    match result with
    | .error _ => simp [Result.failed, Result.brought, Result.ended]; omega
    | .ok none => simp [Result.failed, Result.brought, Result.ended]; omega
    | .ok (some _) => simp [Result.failed, Result.brought, Result.ended]; omega

theorem History.ends_in_time (history : History serve pages start p results log)
    (enough : results.countP Result.failed + pages.length < results.length) :
    .ok none ∈ results := by
  obtain ⟨ahead, whole, _⟩ := history.ahead
  have came : (received log).length ≤ pages.length := by
    have lengths := congrArg List.length whole
    rw [List.length_append, List.length_map] at lengths
    omega
  have some : 0 < results.countP Result.ended := by
    have kinds := length_eq_countP results
    have counted := history.counted
    omega
  obtain ⟨result, member, ended⟩ := List.countP_pos_iff.mp some
  match result, ended with
  | .ok none, _ => exact member

/-- A pager that is set up in any way and called any number of times, whichever list calls fail,
returns what the cap leaves of the listing, in order: a beginning of it at any time, all of it when
it returns nothing for the first time, and nothing from then on. It does so after as many calls that
do not fail as there are pages, at the latest. Each list call asks with the token of the last answer
that was no failure, and none is made when the listing has ended or the cap is reached. -/
theorem listing_returned_once {c : Client σ} (resource : ApiResource) (settings : List Setting)
    {serve : Option String → ResourcePage} {pages : List (List Json)}
    (served : Served serve none pages) (answers : Answers c (setUp resource settings) serve)
    (n : Nat) (s : σ) :
    let start := setUp resource settings
    let results := ((nextPages c start n).run s).1.1
    let log := ((nextPages c.logged start n).run (s, [])).2.2
    (∃ live k, results = live ++ List.replicate k (.ok none) ∧ .ok none ∉ live) ∧
    returned results <+: start.capped pages.flatten ∧
    (.ok none ∈ results → returned results = start.capped pages.flatten) ∧
    (results.countP Result.failed + pages.length < n → .ok none ∈ results) ∧
    (∀ before r after, log = before ++ r :: after →
      r.options = { start.options with continueToken := lastToken before } ∧ ¬ Ended before ∧
        ∀ cap, start.cap = some cap → (objectsIn before).length < cap) := by
  intro start results log
  have history := nextPages_history (setUp_fresh resource settings) served answers n s
  dsimp only at history
  rw [(nextPages_logged c start n s []).1] at history
  obtain ⟨live, k, split, working, _⟩ := history.ends
  refine ⟨⟨live, k, split, working⟩, ?_, fun ended =>
    history.complete (history.finished_of_end ended), ?_, ?_⟩
  · obtain ⟨ahead, whole, _⟩ := history.whole
    rw [← whole]
    exact history.returned ▸ capped_isPrefix start _ ahead
  · intro enough
    refine history.ends_in_time ?_
    rw [nextPages_length]
    exact enough
  · intro before r after here
    have due := history.due before r after here
    exact ⟨due.options, due.more, due.room⟩

def onSchedule (serve : Option String → ResourcePage) : Client (List Bool) where
  pageBound := 3
  list _ _ o := fun
    | true :: later => (.error (.transient 503 "busy"), later)
    | false :: later => (.ok (serve o.continueToken), later)
    | [] => (.ok (serve o.continueToken), [])
  get _ _ name := return .error (.notFound name)
  logs _ pod _ := return .error (.notFound pod)
  raw path _ := return .error (.notFound path)

def twoPages : Option String → ResourcePage
  | none => ⟨[.int 1, .int 2], some "2"⟩
  | some _ => ⟨[.int 3, .int 4], none⟩

def withinThree : List Setting :=
  [.options { ListOptions.all with continueToken := some "9" }, .limit 2, .cap 3]

theorem withinThree_broken_off :
    Served twoPages none [[.int 1, .int 2], [.int 3, .int 4]] ∧
    Answers (onSchedule twoPages) (setUp ApiResource.pods withinThree) twoPages ∧
    let results :=
      ((nextPages (onSchedule twoPages) (setUp ApiResource.pods withinThree) 6).run [true,
          false, true]).1.1
    results.countP Result.failed = 2 ∧ .ok none ∈ results ∧
      returned results = [.int 1, .int 2, .int 3] := by
  have served : Served twoPages none [[.int 1, .int 2], [.int 3, .int 4]] := .more rfl (.last rfl)
  have answers : Answers (onSchedule twoPages) (setUp ApiResource.pods withinThree) twoPages := by
    intro token schedule
    match schedule with
    | [] => exact Or.inr ⟨_, rfl⟩
    | false :: later => exact Or.inr ⟨later, rfl⟩
    | true :: later => exact Or.inl ⟨_, later, rfl⟩
  obtain ⟨_, _, complete, ends, _⟩ :=
    listing_returned_once ApiResource.pods withinThree served answers 6 [true, false, true]
  have failed : (((nextPages (onSchedule twoPages) (setUp ApiResource.pods withinThree) 6).run
      [true, false, true]).1.1).countP Result.failed = 2 := by rfl
  have ended := ends (by rw [failed]; decide)
  exact ⟨served, answers, failed, ended, complete ended⟩

end Pager

end ClusterSurvey
