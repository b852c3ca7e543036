import ClusterSurvey.Proofs.Redaction.Addresses
import ClusterSurvey.Redaction.Resource

/-!
Redaction of the resources of operators. The tree keeps all but its texts, and each text keeps its
length in bytes, byte by byte as it was or an `x`. No text of the result has an address, wherever
addresses touched or overlapped in the input: masking dotted addresses cannot bring about a web
address, since it writes nothing but `x`.
-/
namespace ClusterSurvey

namespace Json

mutual

/-- The tree with nothing in its texts. -/
def skeleton : Json → Json
  | .str _ => .str ""
  | .arr items => .arr (itemSkeletons items)
  | .obj members => .obj (memberSkeletons members)
  | v => v

def itemSkeletons : List Json → List Json
  | [] => []
  | v :: rest => skeleton v :: itemSkeletons rest

def memberSkeletons : List (String × Json) → List (String × Json)
  | [] => []
  | (k, v) :: rest => (k, skeleton v) :: memberSkeletons rest

end

mutual

/-- The texts of a tree in the order in which they stand; names of members are none. -/
def texts : Json → List String
  | .str s => [s]
  | .arr items => itemTexts items
  | .obj members => memberTexts members
  | _ => []

def itemTexts : List Json → List String
  | [] => []
  | v :: rest => texts v ++ itemTexts rest

def memberTexts : List (String × Json) → List String
  | [] => []
  | (_, v) :: rest => texts v ++ memberTexts rest

end

end Json

namespace Redaction

mutual

theorem skeleton_maskTexts : ∀ v : Json, (maskTexts v).skeleton = v.skeleton
  | .null | .bool _ | .int _ | .real _ | .str _ => rfl
  | .arr items => congrArg Json.arr (itemSkeletons_mask items)
  | .obj members => congrArg Json.obj (memberSkeletons_mask members)

theorem itemSkeletons_mask :
    ∀ items, Json.itemSkeletons (maskItemTexts items) = Json.itemSkeletons items
  | [] => rfl
  | v :: rest => congrArg₂ List.cons (skeleton_maskTexts v) (itemSkeletons_mask rest)

theorem memberSkeletons_mask : ∀ members,
    Json.memberSkeletons (maskMemberTexts members) = Json.memberSkeletons members
  | [] => rfl
  | (k, v) :: rest =>
    congrArg₂ (fun v rest => (k, v) :: rest) (skeleton_maskTexts v) (memberSkeletons_mask rest)

end

mutual

theorem texts_maskTexts : ∀ v : Json, (maskTexts v).texts = v.texts.map maskFreeText
  | .null | .bool _ | .int _ | .real _ | .str _ => rfl
  | .arr items => itemTexts_mask items
  | .obj members => memberTexts_mask members

theorem itemTexts_mask :
    ∀ items, Json.itemTexts (maskItemTexts items) = (Json.itemTexts items).map maskFreeText
  | [] => rfl
  | v :: rest => by
    rw [maskItemTexts, Json.itemTexts, Json.itemTexts, texts_maskTexts v, itemTexts_mask rest,
      List.map_append]

theorem memberTexts_mask : ∀ members,
    Json.memberTexts (maskMemberTexts members) = (Json.memberTexts members).map maskFreeText
  | [] => rfl
  | (k, v) :: rest => by
    rw [maskMemberTexts, Json.memberTexts, Json.memberTexts, texts_maskTexts v,
      memberTexts_mask rest, List.map_append]

end

/-- What becomes of a text: each byte is kept or an `x`, no address is left, and without an address
nothing changes. -/
structure FreeTextMasked (before after : String) : Prop where
  bytes : List.Forall₂ KeptOrMasked (Bytes.ofString before) (Bytes.ofString after)
  noWebAddress : ¬ Contains IsWebAddress after.toList
  noDottedAddress : ¬ Contains IsDottedAddress after.toList
  kept : ¬ Contains IsWebAddress before.toList →
    ¬ Contains IsDottedAddress before.toList → after = before

theorem maskFreeText_masked (s : String) : FreeTextMasked s (maskFreeText s) := by
  have result : (maskFreeText s).toList =
      maskMatches ipv4Address? (maskMatches webAddress? s.toList) :=
    String.toList_ofList
  refine ⟨?_, ?_, ?_, ?_⟩
  · rw [Bytes.ofString, Bytes.ofString, result]
    exact keptOrMasked_trans (maskMatches_bytes webAddress? _) (maskMatches_bytes ipv4Address? _)
  · rw [result]
    intro left
    exact not_contains_maskMatches finds_webAddress _
      (contains_of_contains_maskMatches finds_webAddress left)
  · rw [result]
    exact not_contains_maskMatches finds_dottedAddress _
  · intro noWeb noDotted
    rw [maskFreeText, maskMatches_eq_self finds_webAddress noWeb,
      maskMatches_eq_self finds_dottedAddress noDotted, String.ofList_toList]

/-- The redaction of a resource of an operator keeps the tree up to its texts, and masks each text
as free text. -/
theorem operatorResource_masked (tree : Json) :
    ∃ out, Kind.operatorResource.redact tree = .ok out ∧ out.skeleton = tree.skeleton ∧
      List.Forall₂ FreeTextMasked tree.texts out.texts := by
  refine ⟨maskTexts tree, rfl, skeleton_maskTexts tree, ?_⟩
  rw [texts_maskTexts]
  exact List.forall₂_map_right_iff.mpr (List.forall₂_same.mpr fun s _ => maskFreeText_masked s)

end Redaction

end ClusterSurvey
