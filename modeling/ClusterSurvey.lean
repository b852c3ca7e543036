import ClusterSurvey.Bytes.Base64
import ClusterSurvey.Bytes.Basic
import ClusterSurvey.Bytes.Hex
import ClusterSurvey.Bytes.Utf8
import ClusterSurvey.Certificate.Der
import ClusterSurvey.Certificate.Extension
import ClusterSurvey.Certificate.Issued
import ClusterSurvey.Certificate.Key
import ClusterSurvey.Certificate.Name
import ClusterSurvey.Certificate.Pem
import ClusterSurvey.Certificate.Request
import ClusterSurvey.Certificate.Validity
import ClusterSurvey.Cluster.Client
import ClusterSurvey.Cluster.Pager
import ClusterSurvey.Cluster.Replay
import ClusterSurvey.Cluster.Resource
import ClusterSurvey.Cluster.Snapshot
import ClusterSurvey.Decimal.Binary64
import ClusterSurvey.Decimal.Shortest
import ClusterSurvey.Digest.Sha1
import ClusterSurvey.Digest.Sha2
import ClusterSurvey.Error
import ClusterSurvey.Json.Basic
import ClusterSurvey.Json.Path
import ClusterSurvey.Json.Printer
import ClusterSurvey.Json.Reader
import ClusterSurvey.Keyed
import ClusterSurvey.Log.Collect
import ClusterSurvey.Log.Filter
import ClusterSurvey.Log.LineLimit
import ClusterSurvey.Log.Lines
import ClusterSurvey.Lru
import ClusterSurvey.Pattern.Basic
import ClusterSurvey.Pattern.CharSet
import ClusterSurvey.Pattern.Expression
import ClusterSurvey.Pattern.Meaning
import ClusterSurvey.Pattern.Property
import ClusterSurvey.Proofs.Bytes.Base64
import ClusterSurvey.Proofs.Bytes.Canonical
import ClusterSurvey.Proofs.Bytes.Groups
import ClusterSurvey.Proofs.Bytes.Replacement
import ClusterSurvey.Proofs.Certificate.Pem
import ClusterSurvey.Proofs.Cluster.Collect
import ClusterSurvey.Proofs.Cluster.Listing
import ClusterSurvey.Proofs.Cluster.Pager
import ClusterSurvey.Proofs.Cluster.Paths
import ClusterSurvey.Proofs.Json.Change
import ClusterSurvey.Proofs.Json.Replacement
import ClusterSurvey.Proofs.Json.View
import ClusterSurvey.Proofs.Keyed
import ClusterSurvey.Proofs.Log.Alternation
import ClusterSurvey.Proofs.Log.Filtering
import ClusterSurvey.Proofs.Log.FirstLines
import ClusterSurvey.Proofs.Log.Maximum
import ClusterSurvey.Proofs.Log.Names
import ClusterSurvey.Proofs.Log.Partition
import ClusterSurvey.Proofs.Log.Substrings
import ClusterSurvey.Proofs.Lru
import ClusterSurvey.Proofs.Messages
import ClusterSurvey.Proofs.Pattern.Alternation
import ClusterSurvey.Proofs.Pattern.Alternatives
import ClusterSurvey.Proofs.Pattern.Brackets
import ClusterSurvey.Proofs.Pattern.Carrying
import ClusterSurvey.Proofs.Pattern.Groups
import ClusterSurvey.Proofs.Pattern.Joining
import ClusterSurvey.Proofs.Pattern.Places
import ClusterSurvey.Proofs.Pattern.Steps
import ClusterSurvey.Proofs.Recording.Acceptance
import ClusterSurvey.Proofs.Recording.Archive
import ClusterSurvey.Proofs.Recording.Buffer
import ClusterSurvey.Proofs.Recording.Chronology
import ClusterSurvey.Proofs.Recording.Durability
import ClusterSurvey.Proofs.Recording.EntryName
import ClusterSurvey.Proofs.Recording.ExactlyOnce
import ClusterSurvey.Proofs.Recording.Flush
import ClusterSurvey.Proofs.Recording.Limit
import ClusterSurvey.Proofs.Recording.Loop
import ClusterSurvey.Proofs.Recording.Newest
import ClusterSurvey.Proofs.Recording.Overwriting
import ClusterSurvey.Proofs.Recording.Pruning
import ClusterSurvey.Proofs.Recording.Separate
import ClusterSurvey.Proofs.Recording.Session
import ClusterSurvey.Proofs.Recording.Shutdown
import ClusterSurvey.Proofs.Recording.Visible
import ClusterSurvey.Proofs.Recording.Wish
import ClusterSurvey.Proofs.Redaction.Addresses
import ClusterSurvey.Proofs.Redaction.Blocks
import ClusterSurvey.Proofs.Redaction.Bundles
import ClusterSurvey.Proofs.Redaction.FreeText
import ClusterSurvey.Proofs.Redaction.Idempotence
import ClusterSurvey.Proofs.Redaction.Kinds
import ClusterSurvey.Proofs.Redaction.Matches
import ClusterSurvey.Proofs.Redaction.MemberNames
import ClusterSurvey.Proofs.Redaction.NonInterference
import ClusterSurvey.Proofs.Redaction.Rules
import ClusterSurvey.Proofs.Redaction.Sensitive
import ClusterSurvey.Proofs.Redaction.SigningRequest
import ClusterSurvey.Proofs.Registry
import ClusterSurvey.Proofs.Run.Accounting
import ClusterSurvey.Proofs.Run.Collect
import ClusterSurvey.Proofs.Run.Failures
import ClusterSurvey.Proofs.Run.Order
import ClusterSurvey.Proofs.Run.Reports
import ClusterSurvey.Proofs.Settings
import ClusterSurvey.Proofs.Survey.ConfigMaps
import ClusterSurvey.Proofs.Survey.Connectivity
import ClusterSurvey.Proofs.Survey.Exchanges
import ClusterSurvey.Proofs.Survey.Gathering
import ClusterSurvey.Proofs.Survey.ImageHosts
import ClusterSurvey.Proofs.Survey.InstallPlans
import ClusterSurvey.Proofs.Survey.LogBudget
import ClusterSurvey.Proofs.Survey.LogRequests
import ClusterSurvey.Proofs.Survey.RunningImages
import ClusterSurvey.Proofs.Survey.UnhealthyOperators
import ClusterSurvey.Proofs.Text.Lower
import ClusterSurvey.Proofs.Text.Split
import ClusterSurvey.Proofs.Text.Trim
import ClusterSurvey.Proofs.Time.Calendar
import ClusterSurvey.Proofs.Time.Digits
import ClusterSurvey.Proofs.Time.Instant
import ClusterSurvey.Proofs.Workload.Argument
import ClusterSurvey.Proofs.Workload.Fingerprint
import ClusterSurvey.Proofs.Workload.Images
import ClusterSurvey.Proofs.Workload.Limit
import ClusterSurvey.Proofs.Workload.LookUps
import ClusterSurvey.Proofs.Workload.Repetition
import ClusterSurvey.Proofs.Workload.Shape
import ClusterSurvey.Proofs.Workload.Tally
import ClusterSurvey.Record.Basic
import ClusterSurvey.Record.Item
import ClusterSurvey.Record.Managed
import ClusterSurvey.Recording.Archive
import ClusterSurvey.Recording.Buffer
import ClusterSurvey.Recording.Directory
import ClusterSurvey.Recording.EntryName
import ClusterSurvey.Recording.Recorder
import ClusterSurvey.Recording.Schedule
import ClusterSurvey.Redaction.Blocks
import ClusterSurvey.Redaction.FreeText
import ClusterSurvey.Redaction.Mask
import ClusterSurvey.Redaction.Resource
import ClusterSurvey.Redaction.SigningRequest
import ClusterSurvey.Registry
import ClusterSurvey.Run.Engine
import ClusterSurvey.Run.Report
import ClusterSurvey.Settings
import ClusterSurvey.Signature.Ecdsa
import ClusterSurvey.Signature.Ed25519
import ClusterSurvey.Signature.Modular
import ClusterSurvey.Signature.Rsa
import ClusterSurvey.Signature.Verify
import ClusterSurvey.Survey.Catalogue
import ClusterSurvey.Survey.ClusterConfig
import ClusterSurvey.Survey.ConfigMaps
import ClusterSurvey.Survey.Connectivity
import ClusterSurvey.Survey.ContainerLogs
import ClusterSurvey.Survey.Datahubs
import ClusterSurvey.Survey.ErrorLogs
import ClusterSurvey.Survey.Events
import ClusterSurvey.Survey.InstallPlans
import ClusterSurvey.Survey.InstalledOperators
import ClusterSurvey.Survey.Inventory
import ClusterSurvey.Survey.Metrics
import ClusterSurvey.Survey.Operators
import ClusterSurvey.Survey.Output
import ClusterSurvey.Survey.PodHealth
import ClusterSurvey.Survey.RunningImages
import ClusterSurvey.Survey.ServiceAccounts
import ClusterSurvey.Survey.SigningRequests
import ClusterSurvey.Text.Blank
import ClusterSurvey.Text.Case
import ClusterSurvey.Text.Category
import ClusterSurvey.Text.Folding
import ClusterSurvey.Text.Ranges
import ClusterSurvey.Text.Script
import ClusterSurvey.Text.Split
import ClusterSurvey.Text.Word
import ClusterSurvey.Time.Calendar
import ClusterSurvey.Time.Instant
import ClusterSurvey.Time.Rfc3339
import ClusterSurvey.Transport.Address
import ClusterSurvey.Transport.ApiClient
import ClusterSurvey.Transport.Host
import ClusterSurvey.Transport.Percent
import ClusterSurvey.Transport.Punycode
import ClusterSurvey.Transport.TrustAnchors
import ClusterSurvey.Workload.Argument
import ClusterSurvey.Workload.Fingerprint
import ClusterSurvey.Workload.Shape
import ClusterSurvey.Yaml.Core
import ClusterSurvey.Yaml.Cursor
import ClusterSurvey.Yaml.Encoding
import ClusterSurvey.Yaml.Node
import ClusterSurvey.Yaml.Scalar
import ClusterSurvey.Yaml.Token
