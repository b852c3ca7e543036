import ClusterSurvey.Cluster.Pager
import Mathlib.Data.List.Basic

/-!
Listings in pages and what one call for the next page does. A server is told by its answers to the
tokens; the pages behind a token are those that come when each answer's token is asked for in turn.
A call does one of three things: it finds nothing left to do, it fails and leaves the pager as it
was, or it takes a page.
-/
namespace ClusterSurvey.Pager

variable {σ : Type}

/-- The pages that a server has from a token on. Each but the last brings the token of the next. -/
inductive Served (serve : Option String → ResourcePage) : Option String → List (List Json) → Prop
  | last {token : Option String} (ends : (serve token).continueToken = none) :
      Served serve token [(serve token).items]
  | more {token : Option String} {next : String} {rest : List (List Json)}
      (goes : (serve token).continueToken = some next) (later : Served serve (some next) rest) :
      Served serve token ((serve token).items :: rest)

/-- A client that answers the calls of a pager by their tokens, or fails, as it likes each time. -/
def Answers (c : Client σ) (p : Pager) (serve : Option String → ResourcePage) : Prop :=
  ∀ token s, (∃ e t, (c.list p.resource p.ns { p.options with continueToken := token }).run s =
    (.error e, t)) ∨
    ∃ t, (c.list p.resource p.ns { p.options with continueToken := token }).run s =
      (.ok (serve token), t)

def AlwaysAnswers (c : Client σ) (p : Pager) (serve : Option String → ResourcePage) : Prop :=
  ∀ token s, ∃ t, (c.list p.resource p.ns { p.options with continueToken := token }).run s =
    (.ok (serve token), t)

/-- What the cap leaves of objects when nothing was taken before. -/
def capped (p : Pager) (objects : List Json) : List Json :=
  match p.cap with
  | some cap => objects.take cap
  | none => objects

inductive Setting where
  | within (ns : String)
  | options (o : ListOptions)
  | limit (n : Nat)
  | cap (n : Nat)

def set (p : Pager) : Setting → Pager
  | .within ns => p.within ns
  | .options o => p.withOptions o
  | .limit n => p.withLimit n
  | .cap n => p.withCap n

def setUp (resource : ApiResource) (settings : List Setting) : Pager :=
  settings.foldl set (of resource)

structure Fresh (p : Pager) : Prop where
  token : p.options.continueToken = none
  fetched : p.fetched = 0
  done : p.done = false

theorem set_fresh {p : Pager} (fresh : p.Fresh) (setting : Setting) : (p.set setting).Fresh := by
  cases setting with
  | within ns => exact ⟨fresh.token, fresh.fetched, fresh.done⟩
  | options o => exact ⟨rfl, fresh.fetched, fresh.done⟩
  | limit n => exact ⟨fresh.token, fresh.fetched, fresh.done⟩
  | cap n => exact ⟨fresh.token, fresh.fetched, fresh.done⟩

theorem setUp_fresh (resource : ApiResource) (settings : List Setting) :
    (setUp resource settings).Fresh := by
  have run : ∀ p : Pager, p.Fresh → (settings.foldl set p).Fresh := by
    induction settings with
    | nil => exact fun _ fresh => fresh
    | cons setting rest ih => exact fun p fresh => ih _ (set_fresh fresh setting)
  exact run (of resource) ⟨rfl, rfl, rfl⟩

theorem capReached_eq (p : Pager) :
    p.capReached = true ↔ ∃ cap, p.cap = some cap ∧ cap ≤ p.fetched := by
  unfold capReached
  cases p.cap <;> simp

def leaves (p : Pager) (objects : List Json) : List Json :=
  match p.cap with
  | some cap => objects.take (cap - p.fetched)
  | none => objects

theorem take_items (p : Pager) (page : ResourcePage) : (p.take page).1 = p.leaves page.items := by
  unfold take
  cases page.continueToken <;> rfl

theorem leaves_append {p q : Pager} {objects : List Json} (same : q.cap = p.cap)
    (fetched : q.fetched = p.fetched + (p.leaves objects).length) (more : List Json) :
    p.leaves (objects ++ more) = p.leaves objects ++ q.leaves more := by
  cases bound : p.cap with
  | none => simp [leaves, same, bound]
  | some cap =>
    simp only [leaves, same, bound, List.take_append] at fetched ⊢
    rw [fetched, List.length_take]
    by_cases within : objects.length ≤ cap - p.fetched
    · rw [Nat.min_eq_right within, Nat.sub_sub]
    · -- There is no room either way.
      have full : cap - p.fetched - objects.length = 0 := by omega
      have still : cap - (p.fetched + min (cap - p.fetched) objects.length) = 0 := by omega
      rw [full, still]

theorem capped_eq_leaves {p : Pager} (fetched : p.fetched = 0) (objects : List Json) :
    p.capped objects = p.leaves objects := by
  unfold leaves capped
  rw [fetched]
  rfl

theorem capped_append {start p : Pager} {objects : List Json} (same : p.cap = start.cap)
    (fetched : p.fetched = (start.capped objects).length) (more : List Json) :
    start.capped (objects ++ more) = start.capped objects ++ p.leaves more := by
  let fresh : Pager := { start with fetched := 0 }
  have whole : ∀ objects, start.capped objects = fresh.leaves objects :=
    capped_eq_leaves (p := fresh) rfl
  have counted : p.fetched = fresh.fetched + (fresh.leaves objects).length := by
    rw [← whole, Nat.zero_add]
    exact fetched
  rw [whole, whole]
  exact leaves_append (p := fresh) same counted more

theorem take_pager (p : Pager) (page : ResourcePage) : (p.take page).2 =
    { p with
      fetched := p.fetched + (p.take page).1.length
      done := p.done || page.continueToken.isNone
      options :=
        { p.options with continueToken := page.continueToken.or p.options.continueToken } } := by
  unfold take
  cases page.continueToken <;> simp

def answered (p : Pager) :
    Except ClusterError ResourcePage → Except ClusterError (Option (List Json)) × Pager
  | .error e => (.error e, p)
  | .ok page => (.ok (some (p.take page).1), (p.take page).2)

theorem nextPage_finished (c : Client σ) {p : Pager} (finished : p.finished = true) (s : σ) :
    (p.nextPage c).run s = ((.ok none, p), s) := by
  unfold nextPage
  rw [finished]
  rfl

theorem nextPage_unfinished {c : Client σ} {p : Pager} (unfinished : p.finished = false) {s t : σ}
    {answer : Except ClusterError ResourcePage}
    (called : (c.list p.resource p.ns p.options).run s = (answer, t)) :
    (p.nextPage c).run s = (p.answered answer, t) := by
  unfold nextPage
  rw [unfinished, if_neg Bool.false_ne_true, StateT.run_bind, called]
  cases answer <;> rfl

end ClusterSurvey.Pager
