import ClusterPlan.Address.Reader
import ClusterPlan.Fault
import ClusterPlan.Plan
import ClusterPlan.Settings

/-!
# Custom subnets

Either the master nodes and all pools join subnets of one's own, or none of them does. The subnets
may differ, but they belong to one virtual network.
-/

namespace ClusterPlan

open ClusterPlan.Identifier

/-- The four parts of the path of a subnet. -/
def readSubnet (path : String) (patterns : Patterns := .standard) : Except Fault SubnetPath :=
  match patterns.subnetPath path with
  | none => .error (.malformed (.subnetPath path))
  | some parts =>
    match SubnetPath.ofParts? parts with
    | some p => .ok p
    | none => .error .subnetParts

/-- A pool joins the virtual network of a given subnet. -/
def Pool.checkSubnet (s : Settings) (master : SubnetPath) (p : Pool) : Verdict := do
  let own ← readSubnet p.vnetSubnetID s.patterns
  refuse (!own.sameNetwork master) (.conflict .severalNetworks)

/-- The addresses of master nodes in a custom subnet. -/
def Master.checkAddresses (m : Master) : Verdict := do
  refuse (Address.read? m.firstConsecutiveStaticIP).isNone
    (.malformed (.firstStaticAddress m.firstConsecutiveStaticIP))
  refuse (!m.vnetCidr.isEmpty && (Network.read? m.vnetCidr).isNone)
    (.malformed (.vnetNetwork m.vnetCidr))

/-- The subnets of all nodes. -/
def Plan.checkSubnets (s : Settings) (p : Plan) : Verdict := do
  refuse (p.pools.any fun pool => pool.isCustomVnet != p.master.isCustomVnet)
    (.conflict .mixedSubnets)
  checkWhen p.master.isCustomVnet do
    let master ← readSubnet p.master.vnetSubnetID s.patterns
    checkEach (Pool.checkSubnet s master) p.pools
    p.master.checkAddresses

end ClusterPlan
