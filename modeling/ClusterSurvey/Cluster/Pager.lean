import ClusterSurvey.Cluster.Client

/-!
Lists that come in pages. The token of a page asks for the next one; a call that fails leaves the
pager as it was, so it can be made again. A cap ends paging early.
-/
namespace ClusterSurvey

structure Pager where
  resource : ApiResource
  ns : Option String
  options : ListOptions
  cap : Option Nat
  fetched : Nat
  done : Bool
  deriving DecidableEq, Repr

namespace Pager

def of (resource : ApiResource) : Pager := ⟨resource, none, .all, none, 0, false⟩

def within (ns : String) (p : Pager) : Pager := { p with ns := some ns }

/-- With selectors. A limit that was set holds unless the options bring one; a continue token is
dropped. -/
def withOptions (o : ListOptions) (p : Pager) : Pager :=
  { p with options := { o with limit := o.limit.or p.options.limit, continueToken := none } }

/-- With at most so many objects on a page. -/
def withLimit (n : Nat) (p : Pager) : Pager :=
  { p with options := { p.options with limit := some n } }

def withCap (n : Nat) (p : Pager) : Pager := { p with cap := some n }

def capReached (p : Pager) : Bool := p.cap.any (· ≤ p.fetched)

def finished (p : Pager) : Bool := p.done || p.capReached

def take (p : Pager) (page : ResourcePage) : List Json × Pager :=
  let items := match p.cap with
    | some cap => page.items.take (cap - p.fetched)
    | none => page.items
  let p := { p with fetched := p.fetched + items.length }
  match page.continueToken with
  | some token => (items, { p with options := { p.options with continueToken := some token } })
  | none => (items, { p with done := true })

def nextPage {σ : Type} (c : Client σ) (p : Pager) :
    StateM σ (Except ClusterError (Option (List Json)) × Pager) := do
  if p.finished then return (.ok none, p)
  match ← c.list p.resource p.ns p.options with
  | .error e => return (.error e, p)
  | .ok page =>
    let (items, p) := p.take page
    return (.ok (some items), p)

/-- Whether the cap ended paging while there were more objects. -/
def truncated (p : Pager) : Bool := !p.done && p.capReached

structure Paged where
  items : List Json
  truncated : Bool

/-- Reads pages until the end or the first failure, at most `fuel` of them. -/
def collectWithin {σ : Type} (c : Client σ) : (fuel : Nat) → (acc : List (List Json)) → Pager →
    StateM σ (Except ClusterError Paged)
  | 0, acc, p => return .ok ⟨acc.reverse.flatten, p.truncated⟩
  | fuel + 1, acc, p => do
    match ← p.nextPage c with
    | (.error e, _) => return .error e
    | (.ok none, p) => return .ok ⟨acc.reverse.flatten, p.truncated⟩
    | (.ok (some items), p) => collectWithin c fuel (items :: acc) p

def collect {σ : Type} (c : Client σ) (p : Pager) : StateM σ (Except ClusterError Paged) :=
  collectWithin c c.pageBound [] p

end Pager

end ClusterSurvey
