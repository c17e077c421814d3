import ClusterPlan.Address.Printer
import ClusterPlan.Definition
import ClusterPlan.Proofs.Footprint
import ClusterPlan.Proofs.History
import ClusterPlan.Proofs.Locality
import ClusterPlan.Proofs.Update
import ClusterPlan.Proofs.Catalogue
import ClusterPlan.Proofs.Acceptance
import ClusterPlan.Proofs.Access
import ClusterPlan.Proofs.Network
import ClusterPlan.Proofs.Upgrade
import ClusterPlan.Proofs.KubernetesPlan
import ClusterPlan.Proofs.Sections
import ClusterPlan.Proofs.WindowsVersion
import ClusterPlan.Proofs.MinorRelease
import ClusterPlan.Proofs.RoundTrip
import ClusterPlan.Proofs.WrittenForm
import ClusterPlan.Proofs.Diagnostic
import ClusterPlan.Proofs.Unstatable
import ClusterPlan.Proofs.Outcome
import ClusterPlan.Proofs.JsonNumeral
import ClusterPlan.Proofs.YamlToken
import ClusterPlan.Proofs.YamlStream
import ClusterPlan.Proofs.YamlGraph
import ClusterPlan.Proofs.YamlValue
import ClusterPlan.Proofs.Loading
import ClusterPlan.Proofs.Credentials
import ClusterPlan.Proofs.Grouping
import ClusterPlan.Proofs.Services
import ClusterPlan.Proofs.Retries
import ClusterPlan.Proofs.DurationGrammar
import ClusterPlan.Proofs.DurationSum
import ClusterPlan.Proofs.SubnetPath
import ClusterPlan.Proofs.Resolution
import ClusterPlan.Proofs.NewestPatch
import ClusterPlan.Proofs.VersionGates
import ClusterPlan.Proofs.DeclaredContent
import ClusterPlan.Proofs.Pattern
import ClusterPlan.Proofs.NameGrammar
import ClusterPlan.Proofs.VaultPath
import ClusterPlan.Proofs.NumeralGrammar
import ClusterPlan.Proofs.Environment
import ClusterPlan.Proofs.UuidGrammar
import ClusterPlan.Proofs.EncryptionKey
import ClusterPlan.Proofs.AddressText
import ClusterPlan.Proofs.NetworkText
