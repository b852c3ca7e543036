import ClusterSurvey.Proofs.Bytes.Canonical
import ClusterSurvey.Proofs.Redaction.Idempotence
import ClusterSurvey.Record.Item

/-!
The bundles of webhooks. A bundle is replaced by one of the same length, which decodes to as many
bytes and tells nothing else of them; the rest of the configuration stays. One bundle that is no
base64 is enough for the rule to fail, and then there is no record.
-/
namespace ClusterSurvey.Redaction

open Json (Step Place Node ChangesOnly)

/-- The place of the bundle of a webhook. -/
def bundleAt (index : Nat) : Place :=
  [.member "webhooks", .item index, .member "clientConfig", .member "caBundle"]

/-- Base64 of the same length for as many bytes, each of which is an `x`. -/
structure MaskOf (encoded masked : String) : Prop where
  length : masked.length = encoded.length
  canonical : Base64.Canonical (Bytes.ofString masked)
  decoded : ∃ bytes, Base64.decode (Bytes.ofString encoded) = .ok bytes ∧
    Base64.decode (Bytes.ofString masked) = .ok (List.replicate bytes.length 120)

structure BundlesMasked (configuration out : Json) : Prop where
  bundles : ∀ index encoded, configuration.view (bundleAt index) = some (.text encoded) →
    ∃ masked, out.view (bundleAt index) = some (.text masked) ∧ MaskOf encoded masked
  others : ∀ p, (∀ index encoded, p = bundleAt index →
    configuration.view p ≠ some (.text encoded)) →
    out.view p = configuration.view p

def bundleFailure (reason : Base64.DecodeError) : GatherError :=
  .anonymization ("invalid caBundle: " ++ reason.message)

theorem maskBundle_ok {encoded masked : String} (done : maskBundle encoded = .ok masked) :
    MaskOf encoded masked := by
  unfold maskBundle at done
  split at done
  · rename_i bytes decoded
    have text : encoded = Base64.encode bytes :=
      Bytes.ofString_injective (Base64.decode_eq_ok_iff.mp decoded)
    rw [← Except.ok.inj done]
    refine ⟨?_, Base64.canonical_encode _, bytes, decoded, Base64.decode_encode _⟩
    rw [text, Base64.length_encode, Base64.length_encode, List.length_replicate]
  · cases done

theorem maskBundle_error {encoded : String} {e : GatherError}
    (failed : maskBundle encoded = .error e) :
    ¬ Base64.Canonical (Bytes.ofString encoded) ∧ ∃ reason, e = bundleFailure reason := by
  unfold maskBundle at failed
  split at failed
  · cases failed
  · rename_i reason undecoded
    refine ⟨fun canonical => ?_, _, (Except.error.inj failed).symm⟩
    obtain ⟨bytes, decoded⟩ := Base64.exists_decode_iff.mpr canonical
    rw [decoded] at undecoded
    cases undecoded

/-! One webhook. -/

def bundlePath : List String := ["clientConfig", "caBundle"]

structure WebhookMasked (webhook out : Json) : Prop where
  bundle : ∀ encoded, webhook.view (bundlePath.map .member) = some (.text encoded) →
    ∃ masked, out.view (bundlePath.map .member) = some (.text masked) ∧ MaskOf encoded masked
  others : ∀ p, (∀ encoded, p = bundlePath.map .member → webhook.view p ≠ some (.text encoded)) →
    out.view p = webhook.view p

theorem redactWebhook_ok {webhook out : Json} (done : redactWebhook webhook = .ok out) :
    WebhookMasked webhook out := by
  cases bundle : webhook.stringAt? bundlePath with
  | none =>
    rw [redactWebhook, ← bundlePath, bundle] at done
    rw [← Except.ok.inj done]
    refine ⟨fun encoded here => ?_, fun _ _ => rfl⟩
    rw [Json.stringAt?_eq_some_iff.mpr here] at bundle
    cases bundle
  | some encoded =>
    rw [redactWebhook, ← bundlePath, bundle] at done
    obtain ⟨masked, written, changed⟩ := ok_of_bind done
    have here := Json.stringAt?_eq_some_iff.mp bundle
    rw [← Except.ok.inj changed]
    constructor
    · intro encoded' here'
      obtain rfl : encoded = encoded' := by
        rw [here] at here'
        injection Option.some.inj here'
      refine ⟨masked, ?_, maskBundle_ok written⟩
      rw [Json.view_path, Option.map_eq_some_iff] at here
      obtain ⟨w, found, text⟩ := here
      rw [Json.replaceStringIfPresent, Json.view_path, Json.walk_modifyAt, found, Option.map_some,
        Option.map_some, Json.node_mapString, text]
      rfl
    · intro p other
      have only := Json.changesOnly_modifyAt (Json.changesOnly_mapString fun _ => masked) bundlePath
      refine only webhook p fun below => ?_
      obtain ⟨q, behind, root⟩ := below
      rw [root, List.append_nil] at behind
      exact other encoded behind (behind ▸ here)

theorem redactWebhook_error {webhook : Json} {e : GatherError}
    (failed : redactWebhook webhook = .error e) :
    (∃ encoded, webhook.view (bundlePath.map .member) = some (.text encoded) ∧
      ¬ Base64.Canonical (Bytes.ofString encoded)) ∧ ∃ reason, e = bundleFailure reason := by
  cases bundle : webhook.stringAt? bundlePath with
  | none =>
    rw [redactWebhook, ← bundlePath, bundle] at failed
    cases failed
  | some encoded =>
    rw [redactWebhook, ← bundlePath, bundle] at failed
    dsimp only at failed
    cases written : maskBundle encoded with
    | ok masked =>
      rw [written] at failed
      cases failed
    | error e' =>
      rw [written] at failed
      cases failed
      obtain ⟨invalid, told⟩ := maskBundle_error written
      exact ⟨⟨encoded, Json.stringAt?_eq_some_iff.mp bundle, invalid⟩, told⟩

/-! All webhooks. -/

def webhooksOf? (configuration : Json) : Option (List Json) :=
  (configuration.get? "webhooks").bind Json.asArray?

theorem webhooksOf?_eq_some_iff {configuration : Json} {webhooks : List Json} :
    webhooksOf? configuration = some webhooks ↔
      configuration.get? "webhooks" = some (.arr webhooks) := by
  rw [webhooksOf?, Option.bind_eq_some_iff]
  constructor
  · rintro ⟨v, found, items⟩
    cases v <;> cases items
    exact found
  · exact fun found => ⟨_, found, rfl⟩

theorem redactWebhooks_error_iff {configuration : Json} {e : GatherError} :
    redactWebhooks configuration = .error e ↔
      ∃ webhooks, webhooksOf? configuration = some webhooks ∧
        webhooks.mapM redactWebhook = .error e := by
  rw [redactWebhooks, ← webhooksOf?]
  cases webhooksOf? configuration with
  | none => simp
  | some webhooks =>
      cases all : webhooks.mapM redactWebhook <;> simp [bind, Except.bind, pure, Except.pure, all]

theorem redactWebhooks_ok_iff {configuration out : Json} :
    redactWebhooks configuration = .ok out ↔
      webhooksOf? configuration = none ∧ out = configuration ∨
      ∃ webhooks masked, webhooksOf? configuration = some webhooks ∧
        webhooks.mapM redactWebhook = .ok masked ∧
        out = configuration.modifyAt ["webhooks"] fun _ => .arr masked := by
  rw [redactWebhooks, ← webhooksOf?]
  cases webhooksOf? configuration with
  | none => simp [eq_comm]
  | some webhooks =>
    cases all : webhooks.mapM redactWebhook <;> simp [bind, Except.bind, pure,
      Except.pure, all, eq_comm]

theorem view_webhook {configuration : Json} {webhooks : List Json}
    (list : configuration.get? "webhooks" = some (.arr webhooks)) (index : Nat) (p : Place) :
    configuration.view (.member "webhooks" :: .item index :: p) =
      webhooks[index]?.bind fun w => w.view p := by
  rw [Json.view_step, Json.child, list]
  rfl

theorem exists_webhook {configuration : Json} {index : Nat} {p : Place} {n : Node}
    (here : configuration.view (.member "webhooks" :: .item index :: p) = some n) :
    ∃ webhooks, webhooksOf? configuration = some webhooks := by
  rw [Json.view_step] at here
  obtain ⟨list, found, here⟩ := Option.bind_eq_some_iff.mp here
  rw [Json.view_step] at here
  obtain ⟨w, item, here⟩ := Option.bind_eq_some_iff.mp here
  obtain ⟨webhooks, items, item⟩ := Option.bind_eq_some_iff.mp item
  exact ⟨webhooks, Option.bind_eq_some_iff.mpr ⟨list, found, items⟩⟩

theorem view_changed {configuration : Json} {webhooks : List Json}
    (list : configuration.get? "webhooks" = some (.arr webhooks)) (masked : List Json)
    (index : Nat) (p : Place) :
    (configuration.modifyAt ["webhooks"] fun _ => .arr masked).view
    (.member "webhooks" :: .item index :: p) =
      masked[index]?.bind fun w => w.view p :=
  view_webhook (by rw [Json.get?_modifyAt, list]; rfl) index p

theorem exists_masked {webhooks masked : List Json}
    (all : List.Forall₂ WebhookMasked webhooks masked) {index : Nat} {w : Json}
    (here : webhooks[index]? = some w) : ∃ w', masked[index]? = some w' ∧ WebhookMasked w w' := by
  obtain ⟨inside, rfl⟩ := List.getElem?_eq_some_iff.mp here
  have inside' : index < masked.length := all.length_eq ▸ inside
  exact ⟨masked[index], List.getElem?_eq_getElem inside', all.get inside inside'⟩

section Masked

variable {configuration : Json} {webhooks masked : List Json}
  (list : configuration.get? "webhooks" = some (.arr webhooks))
  (all : List.Forall₂ WebhookMasked webhooks masked)

include list all

theorem bundle_masked {index : Nat} {encoded : String}
    (text : configuration.view (bundleAt index) = some (.text encoded)) :
    ∃ masked', (configuration.modifyAt ["webhooks"] fun _ => .arr masked).view (bundleAt index) =
      some (.text masked') ∧ MaskOf encoded masked' := by
  have before : configuration.view (bundleAt index) = webhooks[index]?.bind fun w =>
      w.view (bundlePath.map .member) :=
    view_webhook list index _
  rw [before] at text
  obtain ⟨w, here, text⟩ := Option.bind_eq_some_iff.mp text
  obtain ⟨w', here', told⟩ := exists_masked all here
  obtain ⟨masked', text', mask⟩ := told.bundle encoded text
  refine ⟨masked', ?_, mask⟩
  calc (configuration.modifyAt ["webhooks"] fun _ => .arr masked).view (bundleAt index)
      = masked[index]?.bind fun w => w.view (bundlePath.map .member) :=
        view_changed list masked index _
    _ = some (.text masked') := by rw [here', Option.bind_some, text']

theorem webhook_others {index : Nat} {q : Place}
    (other : ∀ encoded, q = bundlePath.map .member →
      configuration.view (.member "webhooks" :: .item index :: q) ≠ some (.text encoded)) :
    (configuration.modifyAt ["webhooks"] fun _ => .arr masked).view
    (.member "webhooks" :: .item index :: q) =
      configuration.view (.member "webhooks" :: .item index :: q) := by
  rw [view_changed list, view_webhook list]
  cases here : webhooks[index]? with
  | none =>
    have beyond : masked[index]? = none := by
      rw [List.getElem?_eq_none_iff, ← all.length_eq]
      exact List.getElem?_eq_none_iff.mp here
    rw [beyond]
  | some w =>
    obtain ⟨w', here', told⟩ := exists_masked all here
    rw [here', Option.bind_some, Option.bind_some]
    refine told.others q fun encoded bundle text => other encoded bundle ?_
    rw [view_webhook list, here, Option.bind_some, text]

theorem others_masked {p : Place}
    (other : ∀ index encoded, p = bundleAt index → configuration.view p ≠ some (.text encoded)) :
    (configuration.modifyAt ["webhooks"] fun _ => .arr masked).view p = configuration.view p := by
  have before := Json.view_child (t := .member "webhooks") list
  by_cases inside : ∃ q, p = .member "webhooks" :: q
  · obtain ⟨q, rfl⟩ := inside
    cases q with
    | nil =>
      rw [Json.view_modifyAt, list, before]
      exact congrArg (fun n => some (Node.array n)) all.length_eq.symm
    | cons t q =>
      cases t with
      | member name =>
        rw [Json.view_modifyAt, list, before]
        rfl
      | item index =>
        exact webhook_others list all fun encoded bundle =>
          other index encoded (by rw [bundle]; rfl)
  · have anywhere : ChangesOnly (fun _ => Json.arr masked) fun _ => True :=
      fun _ _ never => absurd trivial never
    exact Json.changesOnly_member anywhere "webhooks" configuration p fun ⟨q, behind, _⟩ =>
      inside ⟨q, behind⟩

end Masked

theorem bundlesMasked_of_ok {configuration out : Json}
    (done : redactWebhooks configuration = .ok out) :
    BundlesMasked configuration out := by
  rcases redactWebhooks_ok_iff.mp done with ⟨none, rfl⟩ | ⟨webhooks, masked, some, all, rfl⟩
  · refine ⟨fun index encoded here => ?_, fun _ _ => rfl⟩
    obtain ⟨webhooks, some⟩ := exists_webhook here
    rw [none] at some
    cases some
  · have list := webhooksOf?_eq_some_iff.mp some
    have each := (mapM_eq_ok_iff.mp all).imp fun _ _ => redactWebhook_ok
    exact ⟨fun _ _ => bundle_masked list each, fun _ => others_masked list each⟩

theorem invalid_of_error {configuration : Json} {e : GatherError}
    (failed : redactWebhooks configuration = .error e) :
    (∃ index encoded, configuration.view (bundleAt index) = some (.text encoded) ∧
      ¬ Base64.Canonical (Bytes.ofString encoded)) ∧ ∃ reason, e = bundleFailure reason := by
  obtain ⟨webhooks, list, all⟩ := redactWebhooks_error_iff.mp failed
  obtain ⟨w, member, first⟩ := mapM_error all
  obtain ⟨⟨encoded, text, invalid⟩, told⟩ := redactWebhook_error first
  obtain ⟨index, inside, rfl⟩ := List.getElem_of_mem member
  refine ⟨⟨index, encoded, ?_, invalid⟩, told⟩
  calc configuration.view (bundleAt index)
      = webhooks[index]?.bind fun w => w.view (bundlePath.map .member) :=
        view_webhook (webhooksOf?_eq_some_iff.mp list) index _
    _ = some (.text encoded) := by rw [List.getElem?_eq_getElem inside, Option.bind_some, text]

theorem webhooksOf?_stripManaged (configuration : Json) :
    webhooksOf? (stripManaged configuration) = webhooksOf? configuration := by
  rw [webhooksOf?, stripManaged, Json.get?_modifyAt, if_neg (by decide), Option.map_id]
  rfl

/-- Where the rule for webhooks succeeds, each bundle that is a text is replaced by base64 of the
same length for as many bytes, which tells nothing else of them, and the rest stays as it is. It
fails if one of the bundles is not padded base64, and only then; there is no record in that case. -/
theorem bundles_masked_or_refused (configuration : Json) :
    (∀ out, Kind.mutatingWebhook.redact configuration = .ok out → BundlesMasked configuration out) ∧
    ((∃ e, Kind.mutatingWebhook.redact configuration = .error e) ↔
      ∃ index encoded, configuration.view (bundleAt index) = some (.text encoded) ∧
        ¬ Base64.Canonical (Bytes.ofString encoded)) ∧
    ∀ e, Kind.mutatingWebhook.redact configuration = .error e →
      (∃ reason, e = bundleFailure reason) ∧
      (Item.redacted .mutatingWebhook configuration).marshal = .error e := by
  refine ⟨fun out => bundlesMasked_of_ok, ⟨?_, ?_⟩, fun e failed =>
    ⟨(invalid_of_error failed).2, ?_⟩⟩
  · rintro ⟨e, failed⟩
    exact (invalid_of_error failed).1
  · rintro ⟨index, encoded, text, invalid⟩
    cases result : Kind.mutatingWebhook.redact configuration with
    | error e => exact ⟨e, rfl⟩
    | ok out =>
      obtain ⟨_, _, mask⟩ := (bundlesMasked_of_ok result).bundles index encoded text
      obtain ⟨bytes, decoded, _⟩ := mask.decoded
      exact absurd (Base64.exists_decode_iff.mp ⟨bytes, decoded⟩) invalid
  · have stripped : Kind.mutatingWebhook.redact (stripManaged configuration) = .error e := by
      refine redactWebhooks_error_iff.mpr ?_
      rw [webhooksOf?_stripManaged]
      exact redactWebhooks_error_iff.mp failed
    rw [Item.marshal, stripped]
    rfl

end ClusterSurvey.Redaction
