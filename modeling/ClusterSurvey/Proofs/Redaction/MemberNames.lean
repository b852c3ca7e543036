import ClusterSurvey.Proofs.Redaction.FreeText

/-!
Where addresses are left in the resources of operators. The redaction rewrites the texts of a tree
at any depth and never a name of a member, so an address that is left stands in a name, and each
name that holds one holds it still.
-/
namespace ClusterSurvey

namespace Json

mutual

/-- The names of the members of all objects in a tree, in the order in which they stand. -/
def names : Json → List String
  | .arr items => itemNames items
  | .obj members => memberNames members
  | _ => []

def itemNames : List Json → List String
  | [] => []
  | v :: rest => names v ++ itemNames rest

def memberNames : List (String × Json) → List String
  | [] => []
  | (k, v) :: rest => k :: (names v ++ memberNames rest)

end

end Json

namespace Redaction

/-- A text without a web address and without a dotted address. -/
def FreeOfAddresses (s : String) : Prop :=
  ¬ Contains IsWebAddress s.toList ∧ ¬ Contains IsDottedAddress s.toList

mutual

theorem names_maskTexts : ∀ v : Json, (maskTexts v).names = v.names
  | .null | .bool _ | .int _ | .real _ | .str _ => rfl
  | .arr items => itemNames_mask items
  | .obj members => memberNames_mask members

theorem itemNames_mask : ∀ items, Json.itemNames (maskItemTexts items) = Json.itemNames items
  | [] => rfl
  | v :: rest => congrArg₂ List.append (names_maskTexts v) (itemNames_mask rest)

theorem memberNames_mask :
    ∀ members, Json.memberNames (maskMemberTexts members) = Json.memberNames members
  | [] => rfl
  | (k, v) :: rest =>
    congrArg₂ (fun below beside => k :: (below ++ beside)) (names_maskTexts v)
      (memberNames_mask rest)

end

theorem texts_free_of_addresses {tree : Json} {text : String}
    (member : text ∈ (maskTexts tree).texts) :
    FreeOfAddresses text := by
  rw [texts_maskTexts] at member
  obtain ⟨before, _, rfl⟩ := List.mem_map.mp member
  exact ⟨(maskFreeText_masked before).noWebAddress, (maskFreeText_masked before).noDottedAddress⟩

/-- No text of the redacted resource has an address, all names are kept, and so the resource is free
of addresses exactly when no name had one. -/
theorem addresses_left_in_names (tree : Json) :
    ∃ out, Kind.operatorResource.redact tree = .ok out ∧
      (∀ text ∈ out.texts, FreeOfAddresses text) ∧
      out.names = tree.names ∧
      ((∀ text ∈ out.texts ++ out.names, FreeOfAddresses text) ↔
        ∀ name ∈ tree.names, FreeOfAddresses name) := by
  refine ⟨maskTexts tree, rfl, fun _ => texts_free_of_addresses, names_maskTexts tree, ?_⟩
  rw [names_maskTexts]
  constructor
  · intro free name member
    exact free name (List.mem_append_right _ member)
  · intro free text member
    rcases List.mem_append.mp member with value | name
    · exact texts_free_of_addresses value
    · exact free text name

def peersByAddress : Json :=
  .obj [("status", .obj [("ready", .obj [("https://10.1.2.3:2379", .bool true)])])]

/-- The redaction leaves a web address and a dotted address in a name. -/
theorem peersByAddress_left :
    Kind.operatorResource.redact peersByAddress = .ok peersByAddress ∧
      ∃ name ∈ peersByAddress.names,
        Contains IsWebAddress name.toList ∧ Contains IsDottedAddress name.toList := by
  refine ⟨rfl, "https://10.1.2.3:2379", by decide, ?_, ?_⟩
  · have unblank : ("10.1.2.3:2379".toList.all fun c => !Text.isBlank c) = true := by decide
    refine ⟨_, ⟨"https".toList, "10.1.2.3:2379".toList, Or.inl rfl, rfl, fun c member => ?_⟩,
      List.infix_rfl⟩
    exact (Bool.not_eq_true' _).mp (List.all_eq_true.mp unblank c member)
  · have numbers : IsOctetTail 3 ".1.2.3".toList :=
      .cons (.one '1' (by decide))
        (.cons (.one '2' (by decide)) (.cons (.one '3' (by decide)) .nil))
    exact ⟨"10.1.2.3".toList,
      ⟨"10".toList, ".1.2.3".toList, .two '1' '0' (by decide) (by decide), numbers, rfl⟩,
      "https://".toList, ":2379".toList, rfl⟩

end Redaction

end ClusterSurvey
