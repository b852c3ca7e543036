import ClusterSurvey.Proofs.Cluster.Collect
import ClusterSurvey.Proofs.Survey.Gathering

/-!
What is asked of a cluster. All calls are written down with their answers. Steps do the same with
and without that, and what they write down is put together from what each of them wrote down, in
their order.
-/
namespace ClusterSurvey

variable {σ α β ρ : Type}

inductive Exchange where
  | list (resource : ApiResource) (ns : Option String) (options : ListOptions)
      (answer : Except ClusterError ResourcePage)
  | get (resource : ApiResource) (ns : Option String) (name : String)
      (answer : Except ClusterError Json)
  | logs (ns pod : String) (options : LogOptions) (answer : Except ClusterError ByteStream)
  | raw (path : String) (query : List (String × String)) (answer : Except ClusterError Bytes)

structure ObjectRequest where
  resource : ApiResource
  ns : Option String
  name : String
  deriving DecidableEq

structure LogRequest where
  ns : String
  pod : String
  options : LogOptions
  deriving DecidableEq

namespace Exchange

def object? : Exchange → Option ObjectRequest
  | .get resource ns name _ => some ⟨resource, ns, name⟩
  | _ => none

def log? : Exchange → Option LogRequest
  | .logs ns pod options _ => some ⟨ns, pod, options⟩
  | _ => none

def isList : Exchange → Bool
  | .list .. => true
  | _ => false

theorem filterMap_of_lists (kind : Exchange → Option ρ)
    (silent : ∀ resource ns options answer, kind (.list resource ns options answer) = none)
    {exchanges : List Exchange} (lists : ∀ e ∈ exchanges, e.isList = true) :
    exchanges.filterMap kind = [] := by
  rw [List.filterMap_eq_nil_iff]
  intro e member
  have list := lists e member
  cases e with
  | list resource ns options answer => exact silent resource ns options answer
  | get => cases list
  | logs => cases list
  | raw => cases list

theorem no_object_of_lists {exchanges : List Exchange} (lists : ∀ e ∈ exchanges, e.isList = true) :
    exchanges.filterMap object? = [] :=
  filterMap_of_lists object? (fun _ _ _ _ => rfl) lists

theorem no_log_of_lists {exchanges : List Exchange} (lists : ∀ e ∈ exchanges, e.isList = true) :
    exchanges.filterMap log? = [] :=
  filterMap_of_lists log? (fun _ _ _ _ => rfl) lists

end Exchange

def Client.heard (c : Client σ) : Client (σ × List Exchange) where
  pageBound := c.pageBound
  list r ns o := fun (s, noted) =>
    let (answer, s) := c.list r ns o s
    (answer, s, noted ++ [.list r ns o answer])
  get r ns name := fun (s, noted) =>
    let (answer, s) := c.get r ns name s
    (answer, s, noted ++ [.get r ns name answer])
  logs ns pod o := fun (s, noted) =>
    let (answer, s) := c.logs ns pod o s
    (answer, s, noted ++ [.logs ns pod o answer])
  raw path query := fun (s, noted) =>
    let (answer, s) := c.raw path query s
    (answer, s, noted ++ [.raw path query answer])

theorem Client.list_heard {c : Client σ} {r : ApiResource} {ns : Option String} {o : ListOptions}
    {s t : σ} {answer : Except ClusterError ResourcePage}
    (called : (c.list r ns o).run s = (answer, t)) (noted : List Exchange) :
    (c.heard.list r ns o).run (s, noted) = (answer, t, noted ++ [.list r ns o answer]) := by
  have told : c.list r ns o s = (answer, t) := called
  unfold Client.heard
  simp only [StateT.run, told]

theorem Client.get_heard {c : Client σ} {r : ApiResource} {ns : Option String} {name : String}
    {s t : σ} {answer : Except ClusterError Json}
    (called : (c.get r ns name).run s = (answer, t)) (noted : List Exchange) :
    (c.heard.get r ns name).run (s, noted) = (answer, t, noted ++ [.get r ns name answer]) := by
  have told : c.get r ns name s = (answer, t) := called
  unfold Client.heard
  simp only [StateT.run, told]

theorem Pager.answers_heard {c : Client σ} {p : Pager} {serve : Option String → ResourcePage}
    (answers : AlwaysAnswers c p serve) : AlwaysAnswers c.heard p serve := by
  intro token (s, noted)
  obtain ⟨t, called⟩ := answers token s
  exact ⟨_, Client.list_heard called noted⟩

/-- Whether steps do the same if their calls are written down, and what is told of the calls and of
the value that they come to. -/
def Heard (x : StateM (σ × List Exchange) α) (y : StateM σ α) (told : List Exchange → α → Prop) :
    Prop :=
  ∀ s, ∃ exchanges, told exchanges (y.run s).1 ∧
    ∀ noted, x.run (s, noted) = ((y.run s).1, (y.run s).2, noted ++ exchanges)

namespace Heard

theorem pure (a : α) :
    Heard (σ := σ) (pure a) (pure a) fun exchanges b => exchanges = [] ∧ b = a :=
  fun _ => ⟨[], ⟨rfl, rfl⟩, fun noted => by rw [List.append_nil]; rfl⟩

theorem imp {x : StateM (σ × List Exchange) α} {y : StateM σ α}
    {told wider : List Exchange → α → Prop} (heard : Heard x y told)
    (weaker : ∀ exchanges a, told exchanges a → wider exchanges a) : Heard x y wider := by
  intro s
  obtain ⟨exchanges, there, same⟩ := heard s
  exact ⟨exchanges, weaker _ _ there, same⟩

theorem bind {x : StateM (σ × List Exchange) α} {y : StateM σ α}
    {f : α → StateM (σ × List Exchange) β} {g : α → StateM σ β}
    {told : List Exchange → α → Prop} {later : α → List Exchange → β → Prop}
    (first : Heard x y told) (rest : ∀ a, Heard (f a) (g a) (later a)) :
    Heard (x >>= f) (y >>= g) fun exchanges b =>
      ∃ a front back, exchanges = front ++ back ∧ told front a ∧ later a back b := by
  intro s
  obtain ⟨front, before, same⟩ := first s
  obtain ⟨back, after, same'⟩ := rest (y.run s).1 (y.run s).2
  refine ⟨front ++ back, ⟨_, front, back, rfl, before, after⟩, fun noted => ?_⟩
  rw [StateT.run_bind, StateT.run_bind, same, ← List.append_assoc]
  exact same' (noted ++ front)

theorem list (c : Client σ) (r : ApiResource) (ns : Option String) (o : ListOptions) :
    Heard (c.heard.list r ns o) (c.list r ns o) fun exchanges answer =>
      exchanges = [.list r ns o answer] :=
  fun _ => ⟨_, rfl, Client.list_heard rfl⟩

theorem logs (c : Client σ) (ns pod : String) (o : LogOptions) :
    Heard (c.heard.logs ns pod o) (c.logs ns pod o) fun exchanges answer =>
      exchanges = [.logs ns pod o answer] :=
  fun _ => ⟨_, rfl, fun _ => rfl⟩

theorem mapM {f : α → StateM (σ × List Exchange) β} {g : α → StateM σ β}
    {kind : Exchange → Option ρ} {asked : α → ρ}
    (each : ∀ a, Heard (f a) (g a) fun exchanges _ => exchanges.filterMap kind = [asked a])
    (items : List α) :
    Heard (items.mapM f) (items.mapM g) fun exchanges _ =>
      exchanges.filterMap kind = items.map asked := by
  induction items with
  | nil =>
    refine (pure []).imp ?_
    rintro _ _ ⟨rfl, _⟩
    rfl
  | cons a items ih =>
    rw [List.mapM_cons, List.mapM_cons]
    refine (bind (each a) fun b => bind ih fun bs => pure (b :: bs)).imp ?_
    rintro _ _ ⟨_, front, _, rfl, here, _, back, _, rfl, there, rfl, _⟩
    rw [List.append_nil, List.filterMap_append, here, there]
    rfl

end Heard

/-- Whether steps do the same if their calls are written down, and all of these are calls for
lists. -/
def Lists (x : StateM (σ × List Exchange) α) (y : StateM σ α) : Prop :=
  Heard x y fun exchanges _ => ∀ e ∈ exchanges, e.isList = true

namespace Lists

theorem pure (a : α) : Lists (σ := σ) (pure a) (pure a) :=
  (Heard.pure a).imp fun _ _ ⟨silent, _⟩ => silent ▸ List.forall_mem_nil _

theorem bind {x : StateM (σ × List Exchange) α} {y : StateM σ α}
    {f : α → StateM (σ × List Exchange) β} {g : α → StateM σ β} (first : Lists x y)
    (rest : ∀ a, Lists (f a) (g a)) : Lists (x >>= f) (y >>= g) := by
  refine (Heard.bind first rest).imp ?_
  rintro _ _ ⟨_, front, back, rfl, before, after⟩
  exact List.forall_mem_append.mpr ⟨before, after⟩

theorem lift_bind {x : StateM (σ × List Exchange) α} {y : StateM σ α}
    {f : α → Gather (σ × List Exchange) β} {g : α → Gather σ β} (first : Lists x y)
    (rest : ∀ a, Lists (f a).run (g a).run) :
    Lists (liftM x >>= f : Gather (σ × List Exchange) β).run (liftM y >>= g : Gather σ β).run :=
  bind first rest

theorem foldlM {f : β → α → StateM (σ × List Exchange) β} {g : β → α → StateM σ β}
    (each : ∀ b a, Lists (f b a) (g b a)) (items : List α) (b : β) :
    Lists (items.foldlM f b) (items.foldlM g b) := by
  induction items generalizing b with
  | nil => exact pure b
  | cons a items ih =>
    rw [List.foldlM_cons, List.foldlM_cons]
    exact bind (each b a) ih

theorem list (c : Client σ) (r : ApiResource) (ns : Option String) (o : ListOptions) :
    Lists (c.heard.list r ns o) (c.list r ns o) := by
  refine (Heard.list c r ns o).imp ?_
  rintro _ _ rfl
  exact List.forall_mem_singleton.mpr rfl

theorem nextPage (c : Client σ) (p : Pager) : Lists (p.nextPage c.heard) (p.nextPage c) := by
  unfold Pager.nextPage
  split
  · exact pure _
  · refine bind (list c _ _ _) fun answer => ?_
    cases answer <;> exact pure _

theorem collectWithin (c : Client σ) (fuel : Nat) (acc : List (List Json)) (p : Pager) :
    Lists (Pager.collectWithin c.heard fuel acc p) (Pager.collectWithin c fuel acc p) := by
  induction fuel generalizing acc p with
  | zero => exact pure _
  | succ fuel ih =>
    unfold Pager.collectWithin
    refine bind (nextPage c p) fun answer => ?_
    split
    · exact pure _
    · exact pure _
    · exact ih _ _

end Lists

inductive Listing : Nat → List ResourcePage → Prop
  | bound : Listing 0 []
  | last {bound : Nat} {page : ResourcePage} (ends : page.continueToken = none) :
      Listing (bound + 1) [page]
  | more {bound : Nat} {page : ResourcePage} {rest : List ResourcePage}
      (goes : page.continueToken.isSome) (later : Listing bound rest) :
      Listing (bound + 1) (page :: rest)

def listed (resource : ApiResource) (ns : Option String) (options : ListOptions) :
    Option String → List ResourcePage → List Exchange
  | _, [] => []
  | token, page :: rest =>
    .list resource ns { options with continueToken := token } (.ok page) ::
      listed resource ns options page.continueToken rest

theorem listed_token (resource : ApiResource) (ns : Option String) (options : ListOptions)
    (former token : Option String) (pages : List ResourcePage) :
    listed resource ns { options with continueToken := former } token pages =
      listed resource ns options token pages := by
  induction pages generalizing token with
  | nil => rfl
  | cons page rest ih => rw [listed, listed, ih]

namespace Pager

theorem collectWithin_error {c : Client σ} {p : Pager} (unfinished : p.finished = false) {s t : σ}
    {e : ClusterError} (called : (c.list p.resource p.ns p.options).run s = (.error e, t))
    (fuel : Nat) (acc : List (List Json)) :
    (collectWithin c (fuel + 1) acc p).run s = (.error e, t) := by
  rw [collectWithin, StateT.run_bind, nextPage_unfinished unfinished called]
  rfl

theorem collectWithin_page {c : Client σ} {p : Pager} (unfinished : p.finished = false) {s t : σ}
    {page : ResourcePage} (called : (c.list p.resource p.ns p.options).run s = (.ok page, t))
    (fuel : Nat) (acc : List (List Json)) :
    (collectWithin c (fuel + 1) acc p).run s =
      (collectWithin c fuel ((p.take page).1 :: acc) (p.take page).2).run t := by
  rw [collectWithin, StateT.run_bind, nextPage_unfinished unfinished called]
  rfl

theorem collectWithin_last {c : Client σ} {p : Pager} (unfinished : p.finished = false) {s t : σ}
    {page : ResourcePage} (called : (c.list p.resource p.ns p.options).run s = (.ok page, t))
    (ends : page.continueToken = none) (fuel : Nat) (acc : List (List Json)) :
    (collectWithin c (fuel + 1) acc p).run s =
      (.ok ⟨((p.take page).1 :: acc).reverse.flatten, (p.take page).2.truncated⟩, t) := by
  have done : (p.take page).2.finished = true := by
    rw [take_pager, finished, ends]
    simp
  rw [collectWithin_page unfinished called, collectWithin_finished c done]

theorem flatten_take {p : Pager} (uncapped : p.cap = none) (page : ResourcePage)
    (acc : List (List Json)) :
    ((p.take page).1 :: acc).reverse.flatten = acc.reverse.flatten ++ page.items := by
  rw [take_items, leaves, uncapped, List.reverse_cons, List.flatten_append, List.flatten_singleton]

theorem collectWithin_heard (c : Client σ) {p : Pager} (uncapped : p.cap = none)
    (unended : p.done = false) (fuel : Nat) (acc : List (List Json)) :
    Heard (collectWithin c.heard fuel acc p) (collectWithin c fuel acc p) fun exchanges result =>
      ∀ paged, result = .ok paged → ∃ pages, Listing fuel pages ∧
        paged.items = acc.reverse.flatten ++ pages.flatMap ResourcePage.items ∧
        exchanges = listed p.resource p.ns p.options p.options.continueToken pages := by
  -- The induction is on the pages that may still be asked for. It goes through any pager on the
  -- way, since a pager with a token of its own asks for the pages behind that token.
  induction fuel generalizing p acc with
  | zero =>
    refine (Heard.pure _).imp ?_
    rintro _ _ ⟨rfl, rfl⟩ paged read
    cases read
    exact ⟨[], .bound, (List.append_nil _).symm, rfl⟩
  | succ fuel ih =>
    have unfinished : p.finished = false := by rw [finished, unended, capReached, uncapped]; rfl
    intro s
    cases called : (c.list p.resource p.ns p.options).run s with
    | mk answer t =>
      have heard := Client.list_heard called
      cases answer with
      | error e =>
        rw [collectWithin_error unfinished called]
        refine ⟨[.list p.resource p.ns p.options (.error e)], ?_, fun noted =>
          collectWithin_error unfinished (heard noted) fuel acc⟩
        intro paged read
        cases read
      | ok page =>
        cases token : page.continueToken with
        | none =>
          rw [collectWithin_last unfinished called token]
          refine ⟨[.list p.resource p.ns p.options (.ok page)], ?_, fun noted =>
            collectWithin_last unfinished (heard noted) token fuel acc⟩
          intro paged read
          cases read
          refine ⟨[page], .last token, ?_, rfl⟩
          rw [flatten_take uncapped, List.flatMap_singleton]
        | some next =>
          have uncapped' : (p.take page).2.cap = none := by rw [take_pager, uncapped]
          have unended' : (p.take page).2.done = false := by rw [take_pager, unended, token]; rfl
          obtain ⟨exchanges, told, same⟩ := ih uncapped' unended' ((p.take page).1 :: acc) t
          rw [collectWithin_page unfinished called]
          refine ⟨.list p.resource p.ns p.options (.ok page) :: exchanges, ?_, fun noted => ?_⟩
          · intro paged read
            obtain ⟨pages, listing, whole, rfl⟩ := told paged read
            refine ⟨page :: pages, .more (by rw [token]; rfl) listing, ?_, ?_⟩
            · rw [whole, flatten_take uncapped, List.flatMap_cons, List.append_assoc]
            · rw [listed, token, take_pager, token]
              exact congrArg _ (listed_token ..)
          · rw [collectWithin_page unfinished (heard noted), same, List.append_assoc]
            rfl

end Pager

namespace Gather

/-- Whether a gathering does the same if its calls are written down, and what is told of the calls
and of the value that it comes to, if it does not fail. -/
def Heard (x : Gather (σ × List Exchange) α) (y : Gather σ α) (told : List Exchange → α → Prop) :
    Prop :=
  ClusterSurvey.Heard x.run y.run fun exchanges result => ∀ a, result = .ok a → told exchanges a

namespace Heard

theorem pure (a : α) :
    Heard (σ := σ) (pure a) (pure a) fun exchanges b => exchanges = [] ∧ b = a := by
  refine (ClusterSurvey.Heard.pure (Except.ok a)).imp ?_
  rintro _ _ ⟨rfl, rfl⟩ b same
  exact ⟨rfl, (Except.ok.inj same).symm⟩

theorem imp {x : Gather (σ × List Exchange) α} {y : Gather σ α}
    {told wider : List Exchange → α → Prop} (heard : Heard x y told)
    (weaker : ∀ exchanges a, told exchanges a → wider exchanges a) : Heard x y wider :=
  ClusterSurvey.Heard.imp heard fun _ _ there a same => weaker _ a (there a same)

theorem bind {x : Gather (σ × List Exchange) α} {y : Gather σ α}
    {f : α → Gather (σ × List Exchange) β} {g : α → Gather σ β} {told : List Exchange → α → Prop}
    {later : α → List Exchange → β → Prop} (first : Heard x y told)
    (rest : ∀ a, Heard (f a) (g a) (later a)) :
    Heard (x >>= f) (y >>= g) fun exchanges b =>
      ∃ a front back, exchanges = front ++ back ∧ told front a ∧ later a back b := by
  have goesOn : ∀ result : Except GatherError α, ClusterSurvey.Heard
      (ExceptT.bindCont f result) (ExceptT.bindCont g result)
      fun exchanges answer => ∀ b, answer = .ok b → ∃ a, result = .ok a ∧ later a exchanges b := by
    intro result
    cases result with
    | error e =>
      refine (ClusterSurvey.Heard.pure _).imp ?_
      rintro _ _ ⟨_, rfl⟩ b same
      cases same
    | ok a =>
      refine ClusterSurvey.Heard.imp (rest a) ?_
      exact fun _ _ there b same => ⟨a, rfl, there b same⟩
  refine (ClusterSurvey.Heard.bind first goesOn).imp ?_
  rintro _ _ ⟨_, front, back, rfl, before, after⟩ b same
  obtain ⟨a, rfl, there⟩ := after b same
  exact ⟨a, front, back, rfl, before a rfl, there⟩

theorem ofExcept (x : Except GatherError α) :
    Heard (σ := σ) (ofExcept x) (ofExcept x) fun exchanges a => exchanges = [] ∧ x = .ok a := by
  cases x with
  | error e =>
    refine (ClusterSurvey.Heard.pure _).imp ?_
    rintro _ _ ⟨_, rfl⟩ a same
    cases same
  | ok b => exact (pure b).imp fun _ _ ⟨silent, same⟩ => ⟨silent, congrArg Except.ok same.symm⟩

theorem call {x : StateM (σ × List Exchange) (Except ClusterError α)}
    {y : StateM σ (Except ClusterError α)}
    {told : List Exchange → Except ClusterError α → Prop}
    (heard : ClusterSurvey.Heard x y told) :
    Heard (Gather.call x) (Gather.call y) fun exchanges a => told exchanges (.ok a) := by
  intro s
  obtain ⟨exchanges, there, same⟩ := heard s
  refine ⟨exchanges, fun a run => ?_, fun noted => ?_⟩
  · have called : y.run s = (.ok a, _) := run_of_call (Prod.ext run rfl)
    rwa [called] at there
  · unfold Gather.call
    rw [run_lift_bind, run_lift_bind, same]
    cases (y.run s).1 <;> rfl

theorem logs (c : Client σ) (ns pod : String) (o : LogOptions) :
    Heard (Gather.call (c.heard.logs ns pod o)) (Gather.call (c.logs ns pod o))
      fun exchanges stream => exchanges = [.logs ns pod o (.ok stream)] :=
  call (.logs c ns pod o)

theorem collect (c : Client σ) {p : Pager} (uncapped : p.cap = none) (unended : p.done = false) :
    Heard (Gather.call (p.collect c.heard)) (Gather.call (p.collect c)) fun exchanges paged =>
      ∃ pages, Listing c.pageBound pages ∧ paged.items = pages.flatMap ResourcePage.items ∧
        exchanges = listed p.resource p.ns p.options p.options.continueToken pages :=
  (call (Pager.collectWithin_heard c uncapped unended c.pageBound [])).imp
    fun _ paged there => there paged rfl

theorem mapM {f : α → Gather (σ × List Exchange) β} {g : α → Gather σ β} {part : α → ρ → Prop}
    {exchanges : ρ → List Exchange} {result : ρ → β}
    (each : ∀ a, Heard (f a) (g a) fun heard b =>
      ∃ r, part a r ∧ heard = exchanges r ∧ b = result r) (items : List α) :
    Heard (items.mapM f) (items.mapM g) fun heard bs =>
      ∃ parts, List.Forall₂ part items parts ∧ heard = parts.flatMap exchanges ∧
        bs = parts.map result := by
  induction items with
  | nil => exact (pure []).imp fun _ _ ⟨silent, same⟩ => ⟨[], .nil, silent, same⟩
  | cons a items ih =>
    rw [List.mapM_cons, List.mapM_cons]
    refine (bind (each a) fun b => bind ih fun bs => pure (b :: bs)).imp ?_
    rintro _ _ ⟨_, _, _, rfl, ⟨r, here, rfl, rfl⟩, _, _, _, rfl, ⟨parts, there, rfl, rfl⟩, rfl, rfl⟩
    exact ⟨r :: parts, .cons here there, by rw [List.append_nil, List.flatMap_cons], rfl⟩

end Heard

end Gather

end ClusterSurvey
