import ClusterSurvey.Json.Printer
import ClusterSurvey.Record.Managed
import ClusterSurvey.Redaction.Blocks
import ClusterSurvey.Redaction.Resource
import ClusterSurvey.Yaml.Core

/-!
What a record holds, and the bytes that are stored for it. Sensitive parts are masked when the bytes
are made, so nothing unmasked is ever stored.
-/
namespace ClusterSurvey

/-- How a value of a configuration map is stored: as text, as base64 of binary data, or as the JSON
value of a YAML text. Blocks of certificates are masked in the first two. -/
inductive ConfigEncoding where
  | text
  | base64
  | yaml
  deriving DecidableEq, Repr

inductive Item where
  /-- Bytes as they are. -/
  | raw (data : Bytes)
  /-- A JSON value as it is. -/
  | json (value : Json)
  /-- A resource without the cluster's bookkeeping. -/
  | resource (tree : Json)
  /-- A resource without bookkeeping, to which the rule of its kind is applied. -/
  | redacted (kind : Redaction.Kind) (tree : Json)
  /-- A value of a configuration map. -/
  | config (encoding : ConfigEncoding) (value : Bytes)
  /-- A value that has no JSON text, because the keys of a mapping in it are no strings. -/
  | unencodable

namespace Item

def jsonBytes (v : Json) : Bytes := Bytes.ofChars v.chars

def marshal : Item → Except GatherError Bytes
  | raw data => .ok data
  | json value => .ok (jsonBytes value)
  | resource tree => .ok (jsonBytes (stripManaged tree))
  | redacted kind tree => (kind.redact (stripManaged tree)).map jsonBytes
  | config .text value => .ok (Redaction.maskBlocks value)
  | config .base64 value => .ok (Bytes.ofString (Base64.encode (Redaction.maskBlocks value)))
  | config .yaml value =>
    match Yaml.read? value with
    | some v => .ok (jsonBytes v)
    | none => .error (.marshal "no YAML document")
  | unencodable => .error (.marshal "key must be a string")

def extension : Item → String
  | raw _ | config .text _ | config .base64 _ => ""
  | _ => "json"

end Item

end ClusterSurvey
