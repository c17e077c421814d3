import ClusterPlan.Identifier.Name
import ClusterPlan.Identifier.ResourcePath

/-!
# Patterns

Which texts count as names, as labels and as resource paths is a setting. `Patterns` holds a
recogniser for each kind of text; the one for subnets takes a path apart as well. The rules know
these texts by their patterns only, and `Patterns.standard` are the recognisers that hold where
nothing else is said. They are written as regular expressions, too (`Patterns.sources`).
-/

namespace ClusterPlan.Identifier

/-- The recognisers of names, labels and resource paths. -/
structure Patterns where
  poolName : String → Bool
  dnsName : String → Bool
  /-- The value of a label that is not empty. -/
  labelValue : String → Bool
  labelKey : String → Bool
  keyVaultPath : String → Bool
  /-- The parts of the path of a subnet. A pattern that is not the standard one may make any number
  of parts, and leave parts out. -/
  subnetPath : String → Option (List (Option String))

namespace Patterns

/-- The recognisers that hold where nothing else is said. -/
def standard : Patterns where
  poolName := isPoolName
  dnsName := isDnsName
  labelValue := isLabelValue
  labelKey := isLabelKey
  keyVaultPath := isKeyVaultPath
  subnetPath := fun s => (SubnetPath.read? s).map SubnetPath.parts

/-- The same recognisers as regular expressions, by the names of their settings. -/
def sources : List (String × String) :=
  [("pool_name_pattern", "^([a-z][a-z0-9]\x7b0,11\x7d)$"),
    ("dns_name_pattern", "^([A-Za-z][A-Za-z0-9-]\x7b1,43\x7d[A-Za-z0-9])$"),
    ("label_value_pattern", "^([A-Za-z0-9][-A-Za-z0-9_.]\x7b0,61\x7d)?[A-Za-z0-9]$"),
    ("label_key_pattern", "^(([a-zA-Z0-9-]+[.])*[a-zA-Z0-9-]+[/])?" ++
      "([A-Za-z0-9][-A-Za-z0-9_.]\x7b0,61\x7d)?[A-Za-z0-9]$"),
    ("keyvault_id_pattern", "^/subscriptions/\\S+/resourceGroups/\\S+" ++
      "/providers/Microsoft.KeyVault/vaults/[^/\\s]+$"),
    ("vnet_subnet_id_pattern", "^/subscriptions/([^/]*)/resourceGroups/([^/]*)" ++
      "/providers/Microsoft.Network/virtualNetworks/([^/]*)/subnets/([^/]*)$")]

end Patterns

end ClusterPlan.Identifier
