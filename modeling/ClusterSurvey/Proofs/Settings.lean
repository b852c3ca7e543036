import ClusterSurvey.Proofs.Text.Split
import ClusterSurvey.Proofs.Text.Trim
import ClusterSurvey.Settings

/-!
What settings can be once they are read. Times are positive and the names of the tasks are usable
whatever the environment is. The address of the cluster's interface is not: slashes are taken off
its end after it was found not to be blank, and a port is taken as it is.
-/
namespace ClusterSurvey.Settings

def Blank (s : String) : Prop := ∀ c ∈ s.toList, Text.isBlank c = true

instance : DecidablePred Blank := fun s =>
  decidable_of_iff (s.toList.all Text.isBlank = true) List.all_eq_true

/-- A name that a list of names can hold: it has no comma and no white space at its ends. -/
structure TaskName (name : String) : Prop where
  some : name ≠ ""
  single : ',' ∉ name.toList
  trimmed : Text.Trimmed name.toList

instance (name : String) : Decidable (TaskName name) :=
  decidable_of_iff (name ≠ "" ∧ ',' ∉ name.toList ∧ Text.Trimmed name.toList)
    ⟨fun told => ⟨told.1, told.2.1, told.2.2⟩,
      fun usable => ⟨usable.some, usable.single, usable.trimmed⟩⟩

/-- Names among items of a list, each with white space around it, and with blank items between
them. -/
inductive Spaced : List String → List String → Prop where
  | nil : Spaced [] []
  | blank {item : String} {names items : List String} : Blank item → Spaced names items →
      Spaced names (item :: items)
  | name {before name after : String} {names items : List String} : Blank before → Blank after →
      Spaced names items → Spaced (name :: names) ((before ++ name ++ after) :: items)

/-- The address of the cluster's interface is given, and not blank. -/
def Given (env : Environment) (url : String) : Prop :=
  env "INSIGHTS_API_URL" = some url ∧ ¬ Blank url

/-! Lists of names. -/

theorem toList_names (s : String) :
    (names s).map String.toList = ((s.toList.splitOn ',').map Text.trim).filter (!·.isEmpty) := by
  rw [names, Text.splitAt_eq_splitOn, List.map_map]
  simp

theorem taskName_of_mem_names {s n : String} (member : n ∈ names s) : TaskName n := by
  have there : n.toList ∈ ((s.toList.splitOn ',').map Text.trim).filter (!·.isEmpty) :=
    toList_names s ▸ List.mem_map_of_mem member
  obtain ⟨trimmed, some⟩ := List.mem_filter.mp there
  obtain ⟨part, of, same⟩ := List.mem_map.mp trimmed
  refine ⟨by simpa using some, fun comma => ?_, same ▸ Text.trimmed_trim part⟩
  have inside : ',' ∈ part := (Text.trim_isInfix part).subset (same ▸ comma)
  exact (Text.mem_splitOn_iff.mp ⟨part, of, inside⟩).2 rfl

theorem Blank.no_comma {s : String} (blank : Blank s) : ',' ∉ s.toList := fun member => by
  have comma := blank ',' member
  revert comma
  decide

theorem trim_spaced {ns items : List String} (spaced : Spaced ns items)
    (usable : ∀ n ∈ ns, TaskName n) :
    (items.map fun item => Text.trim item.toList).filter (!·.isEmpty) = ns.map String.toList := by
  induction spaced with
  | nil => rfl
  | @blank item ns items empty _ ih =>
    have nothing : Text.trim item.toList = [] := Text.trim_eq_nil_iff.mpr empty
    rw [List.map_cons, nothing]
    exact ih usable
  | @name before n after ns items front back _ ih =>
    obtain ⟨here, rest⟩ := List.forall_mem_cons.mp usable
    have alone : Text.trim (before ++ n ++ after).toList = n.toList := by
      rw [String.toList_append, String.toList_append]
      exact Text.trim_padded here.trimmed front back
    have some : (!n.toList.isEmpty) = true := by simpa using here.some
    rw [List.map_cons, alone, List.map_cons, ← ih rest]
    exact List.filter_cons_of_pos some

theorem Spaced.no_comma {ns items : List String} (spaced : Spaced ns items)
    (usable : ∀ n ∈ ns, TaskName n) :
    ∀ item ∈ items, ',' ∉ item.toList := by
  induction spaced with
  | nil => exact List.forall_mem_nil _
  | blank empty _ ih => exact List.forall_mem_cons.mpr ⟨empty.no_comma, ih usable⟩
  | name front back _ ih =>
    obtain ⟨here, rest⟩ := List.forall_mem_cons.mp usable
    refine List.forall_mem_cons.mpr ⟨?_, ih rest⟩
    simp [front.no_comma, back.no_comma, here.single]

theorem names_of_spaced {ns items : List String} (some : ns ≠ []) (usable : ∀ n ∈ ns, TaskName n)
    (spaced : Spaced ns items) : names (",".intercalate items) = ns := by
  have filled : items.map String.toList ≠ [] := by
    cases spaced with
    | nil => exact absurd rfl some
    | blank => exact List.cons_ne_nil _ _
    | name => exact List.cons_ne_nil _ _
  have parts : (",".intercalate items).toList.splitOn ',' = items.map String.toList := by
    rw [String.toList_intercalate]
    exact List.splitOn_intercalate ',' (List.forall_mem_map.mpr (spaced.no_comma usable)) filled
  refine List.map_injective_iff.mpr (fun _ _ => String.toList_inj.mp) ?_
  rw [toList_names, parts, List.map_map]
  exact trim_spaced spaced usable

/-! The address. -/

theorem toList_dropSlashes (s : String) : (dropSlashes s).toList = s.toList.rdropWhile (· = '/') :=
  String.toList_ofList

theorem dropSlashes_eq_empty_iff (s : String) : dropSlashes s = "" ↔ ∀ c ∈ s.toList, c = '/' := by
  rw [← String.toList_eq_nil_iff, toList_dropSlashes, List.rdropWhile_eq_nil_iff]
  simp

theorem getLast?_dropSlashes (s : String) : (dropSlashes s).toList.getLast? ≠ some '/' := by
  rw [toList_dropSlashes]
  intro last
  have filled : s.toList.rdropWhile (· = '/') ≠ [] := fun none => by simp [none] at last
  rw [List.getLast?_eq_some_getLast filled, Option.some.injEq] at last
  exact List.rdropWhile_last_not (· = '/') s.toList filled (by simp [last])

theorem isBlankText_iff {s : String} : isBlankText s = true ↔ Blank s := by
  rw [isBlankText, List.isEmpty_iff, Text.trim_eq_nil_iff, Blank]

theorem filter_given {env : Environment} {url : String} :
    ((env "INSIGHTS_API_URL").filter fun url => !isBlankText url) = some url ↔ Given env url := by
  rw [Option.filter_eq_some_iff, Given, Bool.not_eq_true', ← Bool.not_eq_true, isBlankText_iff]

theorem apiUrl?_eq_ok {env : Environment} {url : String} (read : apiUrl? env = .ok url) :
    (∃ given, Given env given ∧ url = dropSlashes (Text.trimmed given)) ∨
      (∀ given, ¬ Given env given) ∧ ∃ host, url = host ++
      (":" ++ (env "KUBERNETES_SERVICE_PORT").getD "443") := by
  unfold apiUrl? at read
  cases address : (env "INSIGHTS_API_URL").filter fun url => !isBlankText url with
  | some given =>
    rw [address] at read
    exact Or.inl ⟨given, filter_given.mp address, (Except.ok.inj read).symm⟩
  | none =>
    refine Or.inr ⟨fun given here => by simp [filter_given.mpr here] at address, ?_⟩
    rw [address] at read
    cases host : env "KUBERNETES_SERVICE_HOST" with
    | none =>
      rw [host] at read
      cases read
    | some name =>
      rw [host] at read
      have whole := (Except.ok.inj read).symm
      split at whole
      · exact ⟨"https://[" ++ name ++ "]", by rw [whole, ← String.toList_inj]; simp⟩
      · exact ⟨"https://" ++ name, by rw [whole, ← String.toList_inj]; simp⟩

theorem apiUrl?_eq_error_iff {env : Environment} {fault : SettingsFault} :
    apiUrl? env = .error fault ↔
      (∀ given, ¬ Given env given) ∧ env "KUBERNETES_SERVICE_HOST" = none := by
  cases fault
  unfold apiUrl?
  cases address : (env "INSIGHTS_API_URL").filter fun url => !isBlankText url with
  | some given => simpa using fun missing => absurd (filter_given.mp address) (missing given)
  | none =>
    have missing : ∀ given, ¬ Given env given :=
      fun given here => by simp [filter_given.mpr here] at address
    cases env "KUBERNETES_SERVICE_HOST" <;> simp [missing]

/-! The settings. -/

theorem ofEnvironment_error_iff {env : Environment} {fault : SettingsFault} :
    ofEnvironment env = .error fault ↔ apiUrl? env = .error fault := by
  unfold ofEnvironment
  cases apiUrl? env <;> simp [bind, Except.bind, pure, Except.pure]

theorem ofEnvironment_ok {env : Environment} {s : Settings} (read : ofEnvironment env = .ok s) :
    apiUrl? env = .ok s.apiUrl ∧
      s.gatherInterval = seconds env "INSIGHTS_GATHER_INTERVAL_SECS" 7200 ∧
      s.requestTimeout = seconds env "INSIGHTS_REQUEST_TIMEOUT_SECS" 30 ∧
      s.gatherers = if ((env "INSIGHTS_GATHERERS").elim [] names).isEmpty then ["all"]
        else (env "INSIGHTS_GATHERERS").elim [] names := by
  unfold ofEnvironment at read
  cases url : apiUrl? env with
  | error fault =>
    rw [url] at read
    cases read
  | ok address =>
    rw [url] at read
    cases read
    exact ⟨rfl, rfl, rfl, rfl⟩

theorem seconds_pos (env : Environment) (name : String) {default : Nat} (some : 1 ≤ default) :
    1 ≤ seconds env name default := by
  unfold seconds
  cases number : ((env name).bind word?).filter (0 < ·) with
  | none => exact some
  | some n =>
    exact of_decide_eq_true (Option.filter_eq_some_iff.mp number).2

theorem apiUrl_eq_empty_iff {env : Environment} {s : Settings} (read : ofEnvironment env = .ok s) :
    s.apiUrl = "" ↔ ∃ url, Given env url ∧ ∀ c ∈ (Text.trimmed url).toList, c = '/' := by
  rcases apiUrl?_eq_ok (ofEnvironment_ok read).1 with ⟨url, given, address⟩ |
    ⟨missing, host, address⟩
  · rw [address, dropSlashes_eq_empty_iff]
    constructor
    · exact fun all => ⟨url, given, all⟩
    · rintro ⟨other, there, all⟩
      rwa [Option.some.inj (given.1.symm.trans there.1)]
  · rw [address]
    exact iff_of_false (by simp) fun ⟨url, given, _⟩ => missing url given

theorem apiUrl_slash_iff {env : Environment} {s : Settings} (read : ofEnvironment env = .ok s) :
    s.apiUrl.toList.getLast? = some '/' ↔ (∀ url, ¬ Given env url) ∧
      ∃ port, env "KUBERNETES_SERVICE_PORT" = some port ∧ port.toList.getLast? = some '/' := by
  rcases apiUrl?_eq_ok (ofEnvironment_ok read).1 with ⟨url, given, address⟩ |
    ⟨missing, host, address⟩
  · rw [address]
    exact iff_of_false (getLast?_dropSlashes _) fun ⟨missing, _⟩ => missing url given
  · rw [address, and_iff_right missing, String.toList_append, String.toList_append]
    cases port : env "KUBERNETES_SERVICE_PORT" with
    | none => simp
    | some p =>
      have last : (host.toList ++ (":".toList ++ p.toList)).getLast? = some '/' ↔
          p.toList.getLast? = some '/' := by
        rw [← List.append_assoc, List.getLast?_append]
        cases p.toList.getLast? <;> simp
      rw [Option.getD_some, last]
      simp

theorem gatherers_usable {env : Environment} {s : Settings} (read : ofEnvironment env = .ok s) :
    s.gatherers ≠ [] ∧ ∀ n ∈ s.gatherers, TaskName n := by
  rw [(ofEnvironment_ok read).2.2.2]
  split
  · exact ⟨by simp, by decide⟩
  · rename_i some
    refine ⟨fun none => some (List.isEmpty_iff.mpr none), fun n member => ?_⟩
    cases value : env "INSIGHTS_GATHERERS" with
    | none => simp [value] at member
    | some listed =>
      rw [value] at member
      exact taskName_of_mem_names member

theorem gatherers_of_spaced {env : Environment} {s : Settings} (read : ofEnvironment env = .ok s)
    {ns items : List String} (some : ns ≠ []) (usable : ∀ n ∈ ns, TaskName n)
    (spaced : Spaced ns items) (listed : env "INSIGHTS_GATHERERS" = .some (",".intercalate items)) :
    s.gatherers = ns := by
  rw [(ofEnvironment_ok read).2.2.2, listed, Option.elim_some, names_of_spaced some usable spaced,
    if_neg fun none => some (List.isEmpty_iff.mp none)]

/-- Settings cannot be read exactly if the address is not given, or blank, and there is no host
either. Otherwise the times are at least a second, and the names of the tasks are usable and, if
they are given as a list, those of the list. The address is not empty unless one of slashes only is
given, and it ends with a slash only if a port does. -/
theorem settings_usable (env : Environment) :
    ((∃ fault, ofEnvironment env = .error fault) ↔
      (∀ url, ¬ Given env url) ∧ env "KUBERNETES_SERVICE_HOST" = none) ∧
    ∀ s, ofEnvironment env = .ok s →
      (s.apiUrl ≠ "" ↔ ∀ url, Given env url → ∃ c ∈ (Text.trimmed url).toList, c ≠ '/') ∧
      (s.apiUrl.toList.getLast? ≠ some '/' ↔ (∃ url, Given env url) ∨
        ∀ port, env "KUBERNETES_SERVICE_PORT" = some port → port.toList.getLast? ≠ some '/') ∧
      1 ≤ s.gatherInterval ∧ 1 ≤ s.requestTimeout ∧ s.gatherers ≠ [] ∧
        (∀ n ∈ s.gatherers, TaskName n) ∧
      ∀ ns, ns ≠ [] → (∀ n ∈ ns, TaskName n) → ∀ items, Spaced ns items →
        env "INSIGHTS_GATHERERS" = some (",".intercalate items) → s.gatherers = ns := by
  refine ⟨?_, fun s read => ⟨?_, ?_, ?_, ?_, (gatherers_usable read).1, (gatherers_usable read).2,
    fun ns some usable items spaced listed => gatherers_of_spaced read some usable spaced listed⟩⟩
  · simp only [ofEnvironment_error_iff, apiUrl?_eq_error_iff]
    exact ⟨fun ⟨_, missing⟩ => missing, fun missing => ⟨.noAddress, missing⟩⟩
  · rw [Ne, apiUrl_eq_empty_iff read]
    simp
  · rw [Ne, apiUrl_slash_iff read]
    simp [imp_iff_not_or]
  · rw [(ofEnvironment_ok read).2.1]
    exact seconds_pos env _ (by decide)
  · rw [(ofEnvironment_ok read).2.2.1]
    exact seconds_pos env _ (by decide)

def environmentOf (values : List (String × String)) : Environment := fun name => values.lookup name

theorem threeNames_read :
    let env := environmentOf [("KUBERNETES_SERVICE_HOST", "fd02::1"),
      ("INSIGHTS_GATHERERS", " nodes ,,\tversion, ,metrics")]
    ∃ s, ofEnvironment env = .ok s ∧ s.apiUrl ≠ "" ∧ s.apiUrl.toList.getLast? ≠ some '/' ∧
      s.gatherers = ["nodes", "version", "metrics"] := by
  intro env
  obtain ⟨failure, success⟩ := settings_usable env
  have unset : env "INSIGHTS_API_URL" = none ∧ env "KUBERNETES_SERVICE_PORT" = none := by decide
  have usable : ∀ n ∈ ["nodes", "version", "metrics"], TaskName n := by decide
  have spaced : Spaced ["nodes", "version", "metrics"]
      [" " ++ "nodes" ++ " ", "", "\t" ++ "version" ++ "", " ", "" ++ "metrics" ++ ""] :=
    .name (by decide) (by decide) <| .blank (by decide) <| .name (by decide) (by decide) <|
      .blank (by decide) <|
      .name (by decide) (by decide) .nil
  cases read : ofEnvironment env with
  | error fault => exact absurd (failure.mp ⟨fault, read⟩).2 (by decide)
  | ok s =>
    obtain ⟨filled, ends, -, -, -, -, listed⟩ := success s read
    exact ⟨s, rfl, filled.mpr fun url given => absurd (unset.1.symm.trans given.1) nofun,
      ends.mpr (Or.inr fun port given => absurd (unset.2.symm.trans given) nofun),
      listed _ (List.cons_ne_nil _ _) usable _ spaced (by decide)⟩

/-- Slashes alone are no blank text, but nothing is left of them; and a port may end with one. -/
theorem onlySlashes_read :
    let slashes :=
      environmentOf [("INSIGHTS_API_URL", "/"), ("KUBERNETES_SERVICE_HOST", "172.30.0.1")]
    let port :=
      environmentOf [("KUBERNETES_SERVICE_HOST", "172.30.0.1"),
        ("KUBERNETES_SERVICE_PORT", "6443/")]
    (∃ s, ofEnvironment slashes = .ok s ∧ s.apiUrl = "") ∧
      ∃ s, ofEnvironment port = .ok s ∧ s.apiUrl.toList.getLast? = some '/' :=
  ⟨⟨_, rfl, by decide +kernel⟩, _, rfl, by decide +kernel⟩

end ClusterSurvey.Settings
