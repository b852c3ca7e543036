import ClusterSurvey.Certificate.Pem

/-!
Redaction of certificates and keys in PEM form. A byte string that consists of blocks is replaced by
as many blocks that say nothing; any other byte string is no PEM text and stays as it is.
-/
namespace ClusterSurvey.Redaction

def maskedBlock : String := "-----BEGIN CERTIFICATE-----\nANONYMIZED\n-----END CERTIFICATE-----\n"

def maskBlocks (data : Bytes) : Bytes :=
  match Pem.blocks? (Pem.lines data) with
  | some blocks => blocks.flatMap fun _ => Bytes.ofString maskedBlock
  | none => data

end ClusterSurvey.Redaction
