import ClusterSurvey.Proofs.Bytes.Base64
import ClusterSurvey.Proofs.Json.Change
import ClusterSurvey.Proofs.Redaction.FreeText
import ClusterSurvey.Proofs.Redaction.Sensitive

/-!
Redacting twice. Each mask leaves what it wrote as it is, and the places that a rule masks part, so
it does not matter that one was masked before another. The rule for webhooks reads the base64 it has
written; the one for the resources of operators finds no address in what it left.
-/
namespace ClusterSurvey.Redaction

open Json (Settles)

theorem utf8ByteSize_replicate (n : Nat) :
    (String.ofList (List.replicate n 'x')).utf8ByteSize = n := by
  induction n with
  | zero => rfl
  | succ n ih =>
    rw [List.replicate_succ, String.ofList_cons, String.utf8ByteSize_append, ih]
    exact Nat.add_comm 1 n

theorem sameMarks_masked (isMark : Char → Bool) (plain : isMark 'x' = false) (s : String) :
    SameMarks isMark (String.ofList (s.toList.map fun c => if isMark c then c else 'x')) s := by
  rw [SameMarks, String.toList_ofList, List.forall₂_map_left_iff, List.forall₂_same]
  intro c _
  cases mark : isMark c with
  | false => exact Or.inr ⟨plain, rfl⟩
  | true => exact Or.inl rfl

theorem Mask.alike_apply (mask : Mask) (s : String) : mask.Alike (mask.apply s) s := by
  cases mask with
  | text => exact utf8ByteSize_replicate s.utf8ByteSize
  | address => exact sameMarks_masked isAddressMark (by decide) s
  | addressList => exact sameMarks_masked (fun c => isAddressMark c || c = ',') (by decide) s

theorem Mask.settles (mask : Mask) : Settles (Json.mapString mask.apply) :=
  Json.settles_mapString fun s => Mask.apply_eq (mask.alike_apply s)

theorem maskFreeText_maskFreeText (s : String) : maskFreeText (maskFreeText s) = maskFreeText s :=
  (maskFreeText_masked (maskFreeText s)).kept (maskFreeText_masked s).noWebAddress
    (maskFreeText_masked s).noDottedAddress

def maskings (mask : Mask) (paths : List (List String)) : List (List String × (Json → Json)) :=
  paths.map fun path => (path, Json.mapString mask.apply)

theorem maskings_settle (mask : Mask) (paths : List (List String)) :
    ∀ c ∈ maskings mask paths, Settles c.2 := by
  intro c member
  obtain ⟨path, _, rfl⟩ := List.mem_map.mp member
  exact mask.settles

theorem settles_maskAll (mask : Mask) {paths : List (List String)}
    (apart : paths.Pairwise fun path path' => Json.part path path' = true) :
    Settles (maskAll mask.apply paths) := by
  have changes : maskAll mask.apply paths = Json.changeAll (maskings mask paths) := by
    funext tree
    rw [maskAll, Json.changeAll, maskings, List.foldl_map]
    rfl
  rw [changes]
  apply Json.settles_changeAll (maskings_settle mask paths)
  simpa [maskings, Function.comp_def] using apart

/-- What settles settles too where it is made only to the members that are not the platform's
own. -/
theorem settles_foreignMembers {f : Json → Json} (settles : Settles f) :
    Settles (Json.mapMembers fun key v => if isProductKey key then v else f v) := by
  apply Json.settles_mapMembers
  intro key v
  cases isProductKey key with
  | false => exact settles v
  | true => rfl

def nodeChanges : List (List String × (Json → Json)) :=
  (["metadata", "annotations"],
      Json.mapMembers fun key v => if isProductKey key then v else .str "")
    :: (["metadata", "labels"], Json.mapMembers fun key v => if isProductKey key then v
      else v.mapString maskText)
    :: (["status", "addresses"],
      Json.mapItems fun a => a.replaceStringIfPresent ["address"] maskAddress)
    :: maskings .text
      [["status", "nodeInfo", "bootID"], ["status", "nodeInfo", "systemUUID"],
        ["status", "nodeInfo", "machineID"]]

theorem nodeChanges_settle : ∀ c ∈ nodeChanges, Settles c.2 := by
  intro c member
  rcases List.mem_cons.mp member with rfl | member
  · exact settles_foreignMembers (f := fun _ => .str "") fun _ => rfl
  rcases List.mem_cons.mp member with rfl | member
  · exact settles_foreignMembers Mask.text.settles
  rcases List.mem_cons.mp member with rfl | member
  · exact Json.settles_mapItems (Json.settles_modifyAt ["address"] Mask.address.settles)
  · exact maskings_settle .text _ c member

theorem settles_redactNode : Settles redactNode := by
  have node : redactNode =
      Json.modifyAt ["status"] (Json.removeMember "images") ∘ Json.changeAll nodeChanges := rfl
  have aside : ∀ path ∈ nodeChanges.map Prod.fst, Json.part path ["status", "images"] =
      true := by decide
  have swap : Function.Commute (Json.changeAll nodeChanges)
      (Json.modifyAt ["status"] (Json.removeMember "images")) := by
    apply Json.commute_changeAll
    intro c member
    exact Json.commute_removeAt ["status"] (aside c.1 (List.mem_map_of_mem member))
  rw [node]
  exact (Json.settles_changeAll nodeChanges_settle (by decide)).comp
    (Json.settles_modifyAt ["status"] (Json.settles_removeMember "images")) swap

def proxyChanges : List (List String × (Json → Json)) :=
  maskings .addressList
    [["spec", "httpProxy"], ["spec", "httpsProxy"], ["spec", "noProxy"], ["status", "httpProxy"],
      ["status", "httpsProxy"], ["status", "noProxy"]]
    ++ [(["spec", "readinessEndpoints"], Json.mapItems (Json.mapString maskAddress))]

theorem settles_redactProxy : Settles redactProxy := by
  have proxy : redactProxy = Json.changeAll proxyChanges := rfl
  rw [proxy]
  apply Json.settles_changeAll
  · intro c member
    rcases List.mem_append.mp member with field | endpoints
    · exact maskings_settle .addressList _ c field
    · rw [List.mem_singleton.mp endpoints]
      exact Json.settles_mapItems Mask.address.settles
  · decide

theorem settles_redactVariable : Settles redactVariable := by
  intro entry
  cases name : (entry.get? "name").bind Json.asString? with
  | none => simp only [redactVariable, name]
  | some text =>
    by_cases proxy : isProxyVariable text = true
    · have masked : redactVariable entry = entry.modifyAt ["value"] (Json.mapString maskText) := by
        simp only [redactVariable, name, proxy, ↓reduceIte]
        rfl
      have name' : (entry.modifyAt ["value"] (Json.mapString maskText)).get? "name" =
          entry.get? "name" := by
        rw [Json.get?_modifyAt, if_neg (by decide), Option.map_id, id]
      rw [masked, redactVariable, name', name]
      simp only [proxy, ↓reduceIte]
      exact Json.settles_modifyAt ["value"] Mask.text.settles entry
    · have kept : redactVariable entry = entry := by
        simp only [redactVariable, name, proxy, Bool.false_eq_true, ↓reduceIte]
      rw [kept, kept]

def podChanges : List (List String × (Json → Json)) :=
  ["containers", "initContainers"].map fun list => (["spec", list], Json.mapItems redactEnvironment)

theorem settles_redactPod : Settles redactPod := by
  have pod : redactPod = Json.changeAll podChanges := rfl
  rw [pod]
  apply Json.settles_changeAll
  · intro c member
    obtain ⟨list, _, rfl⟩ := List.mem_map.mp member
    exact Json.settles_mapItems
      (Json.settles_modifyAt ["env"] (Json.settles_mapItems settles_redactVariable))
  · decide

mutual

theorem maskTexts_maskTexts : ∀ v : Json, maskTexts (maskTexts v) = maskTexts v
  | .null | .bool _ | .int _ | .real _ => rfl
  | .str s => congrArg Json.str (maskFreeText_maskFreeText s)
  | .arr items => congrArg Json.arr (maskItemTexts_maskItemTexts items)
  | .obj members => congrArg Json.obj (maskMemberTexts_maskMemberTexts members)

theorem maskItemTexts_maskItemTexts :
    ∀ items, maskItemTexts (maskItemTexts items) = maskItemTexts items
  | [] => rfl
  | v :: rest => congrArg₂ List.cons (maskTexts_maskTexts v) (maskItemTexts_maskItemTexts rest)

theorem maskMemberTexts_maskMemberTexts : ∀ members,
    maskMemberTexts (maskMemberTexts members) = maskMemberTexts members
  | [] => rfl
  | (k, v) :: rest =>
    congrArg₂ (fun v rest => (k, v) :: rest) (maskTexts_maskTexts v)
      (maskMemberTexts_maskMemberTexts rest)

end

/-! The bundles of webhooks. -/

theorem maskBundle_masked {encoded masked : String} (done : maskBundle encoded = .ok masked) :
    maskBundle masked = .ok masked := by
  unfold maskBundle at done
  cases decoded : Base64.decode (Bytes.ofString encoded) with
  | error e =>
    rw [decoded] at done
    cases done
  | ok bytes =>
    rw [decoded] at done
    injection done with written
    subst written
    rw [maskBundle, Base64.decode_encode]
    simp only [List.length_replicate]

theorem ok_of_bind {α β ε : Type} {x : Except ε α} {f : α → Except ε β} {b : β}
    (done : (x >>= f) = .ok b) :
    ∃ a, x = .ok a ∧ f a = .ok b := by
  cases x with
  | error e => cases done
  | ok a => exact ⟨a, rfl, done⟩

theorem redactWebhook_redacted {webhook out : Json} (done : redactWebhook webhook = .ok out) :
    redactWebhook out = .ok out := by
  cases bundle : webhook.stringAt? ["clientConfig", "caBundle"] with
  | none =>
    rw [redactWebhook, bundle] at done
    injection done with kept
    rw [← kept, redactWebhook, bundle]
  | some encoded =>
    rw [redactWebhook, bundle] at done
    obtain ⟨masked, written, changed⟩ := ok_of_bind done
    injection changed with changed
    have found : out.stringAt? ["clientConfig", "caBundle"] = some masked := by
      obtain ⟨text, here, isText⟩ := Option.bind_eq_some_iff.mp bundle
      cases text with
      | str s =>
        rw [← changed, Json.stringAt?, Json.replaceStringIfPresent, Json.walk_modifyAt, here]
        rfl
      | _ => cases isText
    have constant : Settles (Json.mapString fun _ => masked) := Json.settles_mapString fun _ => rfl
    have settled : (out.replaceStringIfPresent ["clientConfig", "caBundle"] fun _ => masked) =
        out := by
      rw [← changed]
      exact Json.settles_modifyAt ["clientConfig", "caBundle"] constant webhook
    rw [redactWebhook, found]
    dsimp only
    rw [maskBundle_masked written]
    exact congrArg Except.ok settled

theorem mapM_eq_ok_iff {α β ε : Type} {f : α → Except ε β} {l : List α} {out : List β} :
    l.mapM f = .ok out ↔ List.Forall₂ (fun a b => f a = .ok b) l out := by
  induction l generalizing out with
  | nil =>
    rw [List.mapM_nil, List.forall₂_nil_left_iff, eq_comm]
    exact ⟨Except.ok.inj, congrArg Except.ok⟩
  | cons a l ih =>
    rw [List.mapM_cons, List.forall₂_cons_left_iff]
    constructor
    · intro done
      obtain ⟨b, first, done⟩ := ok_of_bind done
      obtain ⟨rest, later, done⟩ := ok_of_bind done
      exact ⟨b, rest, first, ih.mp later, (Except.ok.inj done).symm⟩
    · rintro ⟨b, rest, first, later, rfl⟩
      rw [first, ih.mpr later]
      rfl

theorem mapM_error {α β ε : Type} {f : α → Except ε β} {l : List α} {e : ε}
    (failed : l.mapM f = .error e) :
    ∃ a ∈ l, f a = .error e := by
  induction l with
  | nil => cases failed
  | cons a l ih =>
    rw [List.mapM_cons] at failed
    cases first : f a with
    | error e' =>
      rw [first] at failed
      cases failed
      exact ⟨a, List.mem_cons_self, first⟩
    | ok b =>
      rw [first] at failed
      cases later : l.mapM f with
      | error e' =>
        rw [later] at failed
        cases failed
        obtain ⟨a', member, here⟩ := ih later
        exact ⟨a', List.mem_cons_of_mem a member, here⟩
      | ok rest =>
        rw [later] at failed
        cases failed

theorem mapM_settled {α ε : Type} {f : α → Except ε α} (twice : ∀ {a b}, f a = .ok b → f b = .ok b)
    {l out : List α} (done : l.mapM f = .ok out) : out.mapM f = .ok out := by
  rw [mapM_eq_ok_iff] at done ⊢
  induction done with
  | nil => exact .nil
  | cons first _ ih => exact .cons (twice first) ih

theorem redactWebhooks_redacted {configuration out : Json}
    (done : redactWebhooks configuration = .ok out) :
    redactWebhooks out = .ok out := by
  cases list : (configuration.get? "webhooks").bind Json.asArray? with
  | none =>
    rw [redactWebhooks, list] at done
    injection done with kept
    rw [← kept, redactWebhooks, list]
  | some webhooks =>
    rw [redactWebhooks, list] at done
    obtain ⟨masked, all, changed⟩ := ok_of_bind done
    injection changed with changed
    have found : (out.get? "webhooks").bind Json.asArray? = some masked := by
      obtain ⟨v, here, _⟩ := Option.bind_eq_some_iff.mp list
      rw [← changed, Json.get?_modifyAt, here]
      rfl
    have constant : Settles fun _ => .arr masked := fun _ => rfl
    have settled : (out.modifyAt ["webhooks"] fun _ => .arr masked) = out := by
      rw [← changed]
      exact Json.settles_modifyAt ["webhooks"] constant configuration
    rw [redactWebhooks, found]
    dsimp only
    rw [mapM_settled redactWebhook_redacted all]
    exact congrArg Except.ok settled

/-- A rule that succeeds succeeds on what it left, and leaves it as it is. -/
theorem redaction_of_redacted (kind : Kind) {tree out : Json} (done : kind.redact tree = .ok out) :
    kind.redact out = .ok out := by
  have whole : ∀ {f : Json → Json}, Settles f → (.ok (f tree) : Except GatherError Json) = .ok out →
      (.ok (f out) : Except GatherError Json) = .ok out := by
    intro f settles same
    injection same with same
    rw [← same, settles]
  cases kind with
  | node => exact whole settles_redactNode done
  | infrastructure => exact whole (settles_maskAll .address (by decide)) done
  | ingress => exact whole (settles_maskAll .address (by decide)) done
  | clusterVersion => exact whole (settles_maskAll .address (by decide)) done
  | proxy => exact whole settles_redactProxy done
  | imageRegistry => exact whole (settles_maskAll .text (by decide)) done
  | mutatingWebhook => exact redactWebhooks_redacted done
  | pod => exact whole settles_redactPod done
  | operatorResource => exact whole maskTexts_maskTexts done

def twoWebhooks (bundle : String) : Json :=
  .obj [("webhooks", .arr [.obj [("clientConfig", .obj [("caBundle", .str bundle)])],
    .obj [("clientConfig", .obj []), ("name", .str "pods")]])]

theorem twoWebhooks_redacted :
    Kind.mutatingWebhook.redact (twoWebhooks "Y2VydA==") = .ok (twoWebhooks "eHh4eA==") ∧
      Kind.mutatingWebhook.redact (twoWebhooks "eHh4eA==") = .ok (twoWebhooks "eHh4eA==") := by
  have done : Kind.mutatingWebhook.redact (twoWebhooks "Y2VydA==") = .ok (twoWebhooks "eHh4eA==") :=
    rfl
  exact ⟨done, redaction_of_redacted .mutatingWebhook done⟩

end ClusterSurvey.Redaction
