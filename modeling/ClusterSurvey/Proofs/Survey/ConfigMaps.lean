import ClusterSurvey.Proofs.Bytes.Canonical
import ClusterSurvey.Proofs.Redaction.Blocks
import ClusterSurvey.Survey.ConfigMaps
import Mathlib.Data.List.Forall2

/-!
The records of a configuration map. Each text has one, and so has each binary value that is padded
base64; the others have none. Such a value is decoded when its record is made and encoded again when
the record is stored, which gives the same text unless there were blocks to mask in it.
-/
namespace ClusterSurvey.Survey

open Redaction (AllOrNothing maskedBlocks)
open Pem (SplitsInto)

/-- The members of the object that is a member of another. -/
def membersOf (key : String) (o : Json) : List (String × Json) :=
  ((o.get? key).bind Json.asObject?).getD []

structure Stores (r : Record) (name : String) (bytes : Bytes) : Prop where
  fileName : r.fileName = name
  marshal : ∃ fingerprint, r.marshal = .ok (bytes, fingerprint)

/-- What is stored for binary data: the text that it was decoded from, or the text of masked blocks
if the data splits into blocks. -/
structure RoundTrip (text : String) (data stored : Bytes) : Prop where
  masked : ∀ n, n ≠ 0 → SplitsInto n data → stored = Bytes.ofString (Base64.encode (maskedBlocks n))
  kept : (∀ n, n ≠ 0 → ¬ SplitsInto n data) → stored = Bytes.ofString text

inductive TextRecord (path : String → String) : String × Json → Option Record → Prop
  | text {key text : String} {r : Record} {stored : Bytes} (stores : Stores r (path key) stored)
      (masked : AllOrNothing (Bytes.ofString text) stored) :
        TextRecord path (key, .str text) (some r)
  | other {key : String} {v : Json} (noText : ∀ text, v ≠ .str text) : TextRecord path (key, v) none

inductive BinaryRecord (path : String → String) : String × Json → Option Record → Prop
  | base64 {key text : String} {data stored : Bytes} {r : Record}
      (canonical : Base64.Canonical (Bytes.ofString text))
      (decoded : Base64.decode (Bytes.ofString text) = .ok data)
      (stores : Stores r (path key) stored) (kept : RoundTrip text data stored) :
      BinaryRecord path (key, .str text) (some r)
  | other {key : String} {v : Json} (noBase64 : ∀ text, v = .str text →
      ¬ Base64.Canonical (Bytes.ofString text)) :
      BinaryRecord path (key, v) none

def textRecord? (path : String → String) (m : String × Json) : Option Record :=
  m.2.asString?.map fun text => .of (path m.1) (.config .text (Bytes.ofString text))

def binaryRecord? (path : String → String) (m : String × Json) : Option Record :=
  m.2.asString?.bind fun text =>
    (Base64.decode (Bytes.ofString text)).toOption.map fun data =>
      .of (path m.1) (.config .base64 data)

theorem configMapRecords_eq (configMap : Json) :
    configMapRecords configMap =
      let path := configMapPath configMap.namespaceOf configMap.name
      (membersOf "data" configMap).filterMap (textRecord? path)
        ++ (membersOf "binaryData" configMap).filterMap (binaryRecord? path) := by
  unfold configMapRecords textMembers
  dsimp only
  rw [List.map_filterMap, List.filterMap_filterMap]
  congr 1
  · refine List.filterMap_congr fun m _ => ?_
    rw [Option.map_map]
    rfl
  · refine List.filterMap_congr fun m _ => ?_
    rw [binaryRecord?, Option.bind_map]
    congr 1
    funext text
    dsimp only [Function.comp_apply]
    cases Base64.decode (Bytes.ofString text) <;> rfl

theorem textRecord?_told (path : String → String) (m : String × Json) :
    TextRecord path m (textRecord? path m) := by
  obtain ⟨key, v⟩ := m
  cases v with
  | str text => exact .text ⟨rfl, _, rfl⟩ (Redaction.maskBlocks_allOrNothing _)
  | _ => exact .other fun _ same => by cases same

theorem roundTrip_maskBlocks {text : String} {data : Bytes}
    (decoded : Base64.decode (Bytes.ofString text) = .ok data) :
    RoundTrip text data (Bytes.ofString (Base64.encode (Redaction.maskBlocks data))) where
  masked := by
    intro n some splits
    rw [(Redaction.maskBlocks_allOrNothing data).all n some splits]
  kept := by
    intro never
    rw [(Redaction.maskBlocks_allOrNothing data).nothing never, Base64.decode_eq_ok_iff.mp decoded]

theorem binaryRecord?_told (path : String → String) (m : String × Json) :
    BinaryRecord path m (binaryRecord? path m) := by
  obtain ⟨key, v⟩ := m
  cases v with
  | str text =>
    cases decoded : Base64.decode (Bytes.ofString text) with
    | ok data =>
      have made : binaryRecord? path (key, .str text) =
          some (.of (path key) (.config .base64 data)) := by
        rw [binaryRecord?, Json.asString?, Option.bind_some, decoded]
        rfl
      rw [made]
      exact .base64 (Base64.exists_decode_iff.mp ⟨data, decoded⟩) decoded ⟨rfl, _, rfl⟩
        (roundTrip_maskBlocks decoded)
    | error e =>
      have none : binaryRecord? path (key, .str text) = none := by
        rw [binaryRecord?, Json.asString?, Option.bind_some, decoded]
        rfl
      rw [none]
      refine .other fun text' same canonical => ?_
      cases same
      obtain ⟨data, decoded'⟩ := Base64.exists_decode_iff.mpr canonical
      rw [decoded] at decoded'
      cases decoded'
  | _ => exact .other fun _ same => by cases same

/-- The records of a configuration map are those of its texts and of its binary values, in their
order. A text is stored as it is and a binary value as the base64 that it came as, but for blocks,
which are masked. -/
theorem config_values_round_trip (configMap : Json) :
    ∃ texts binaries : List (Option Record),
      configMapRecords configMap = texts.filterMap id ++ binaries.filterMap id ∧
      List.Forall₂ (TextRecord (configMapPath configMap.namespaceOf configMap.name))
        (membersOf "data" configMap)
        texts ∧
      List.Forall₂ (BinaryRecord (configMapPath configMap.namespaceOf configMap.name))
        (membersOf "binaryData" configMap) binaries := by
  let path := configMapPath configMap.namespaceOf configMap.name
  refine ⟨(membersOf "data" configMap).map (textRecord? path),
    (membersOf "binaryData" configMap).map (binaryRecord? path), ?_, ?_, ?_⟩
  · rw [configMapRecords_eq, List.filterMap_map, List.filterMap_map]
    rfl
  · rw [List.forall₂_map_right_iff, List.forall₂_same]
    exact fun m _ => textRecord?_told path m
  · rw [List.forall₂_map_right_iff, List.forall₂_same]
    exact fun m _ => binaryRecord?_told path m

end ClusterSurvey.Survey
