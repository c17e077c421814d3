/-!
# Powers

Powers of the two bases in which numbers are written here.
-/

namespace ClusterPlan

/-- A power of two. -/
def twoTo (n : Nat) : Nat := Nat.pow 2 n

/-- A power of ten. -/
def tenTo (n : Nat) : Nat := Nat.pow 10 n

end ClusterPlan
