import ClusterPlan.Fault
import ClusterPlan.Plan

/-!
# Single fields

What every field has to look like by itself: texts that are present, numbers in their range, lists
of an allowed length. These rules come before all others, so that those need not ask again.
-/

namespace ClusterPlan

/-- A value has to be there. -/
def checkPresent (substantial : Bool) (path : String) : Verdict :=
  refuse (!substantial) (.missing (.field path))

/-- A text must not be empty. -/
def checkText (text path : String) : Verdict :=
  checkPresent (!text.isEmpty) path

/-- A number is one of those allowed. -/
def checkOneOf (value : Int) (allowed : List Int) (path : String) : Verdict :=
  refuse (!allowed.contains value) (.malformed (.notOneOf path allowed value))

/-- A number lies between two others, or is one of them. -/
def checkRange (value low high : Int) (path : String) : Verdict :=
  refuse (!(low ≤ value && value ≤ high)) (.malformed (.outOfRange path low high value))

/-- The numbers of master nodes that form a quorum. -/
def masterCounts : List Int := [1, 3, 5]

/-- The greatest size of a disk in gigabytes. -/
def maxDiskSize : Int := 1023

/-- The fields of the master nodes. -/
def Master.checkFields (m : Master) : Verdict := do
  checkOneOf m.count masterCounts "masterProfile.count"
  checkText m.dnsPrefix "masterProfile.dnsPrefix"
  checkText m.vmSize "masterProfile.vmSize"
  checkRange m.osDiskSizeGB 0 maxDiskSize "masterProfile.osDiskSizeGB"

/-- The fields of the pool at a position. -/
def Pool.checkFields (position : Int) (p : Pool) : Verdict := do
  let path := s!"agentPoolProfiles[{position}]"
  checkText p.name s!"{path}.name"
  checkRange p.count 1 100 s!"{path}.count"
  checkText p.vmSize s!"{path}.vmSize"
  checkRange p.osDiskSizeGB 0 maxDiskSize s!"{path}.osDiskSizeGB"
  checkEach (checkRange · 1 65535 s!"{path}.ports") p.ports
  refuse (maxDataDisks < p.diskSizesGB.length)
    (.malformed (.diskCount path p.diskSizesGB.length))
  checkEach (checkRange · 1 maxDiskSize s!"{path}.diskSizesGB") p.diskSizesGB

/-- The fields of the pools from a position on. -/
def Pool.checkAllFields (position : Nat) : List Pool → Verdict
  | [] => .ok ()
  | p :: ps => do
    p.checkFields position
    checkAllFields (position + 1) ps

/-- The fields of the Linux administrator. -/
def LinuxAccess.checkFields (l : LinuxAccess) : Verdict := do
  checkText l.adminUsername "linuxProfile.adminUsername"
  refuse (l.ssh.publicKeys.length != 1) (.malformed (.keyCount l.ssh.publicKeys.length))

/-- All fields of a plan. -/
def Plan.checkFields (p : Plan) : Verdict := do
  p.master.checkFields
  Pool.checkAllFields 0 p.pools
  p.linux.checkFields

end ClusterPlan
