import ClusterPlan.Proofs.Verdict
import ClusterPlan.Rules.Network

/-!
# What the rules for networks and add-ons say

Each of these rules, as the property that it checks. What Windows does not support concerns a plan
with a pool of Windows, and the autoscaler concerns all pools, since it is enough for one of them
not to be a scale set explicitly.
-/

namespace ClusterPlan.Plan

variable {p : Plan}

/-- When the network policy is in order. -/
theorem checkNetworkPolicy_eq_ok :
    p.checkNetworkPolicy = .ok () ↔
      (p.orchestration.runs .kubernetes = true →
        p.kubernetesText (·.networkPolicy) ∈ Network.policies ∧
        (p.hasWindows = true →
          p.kubernetesText (·.networkPolicy) ∉ Network.policiesNotOnWindows)) := by
  simp only [checkNetworkPolicy, then_eq_ok, refuse_eq_ok]
  cases p.orchestration.runs .kubernetes <;> cases p.hasWindows <;> simp

/-- When the network plugin and the network policy go together. -/
theorem checkNetworkPair_eq_ok :
    p.checkNetworkPair = .ok () ↔
      (p.kubernetesText (·.networkPlugin), p.kubernetesText (·.networkPolicy)) ∈
        Network.supported := by
  simp [checkNetworkPair, Network.isSupported, refuse_eq_ok]

/-- When the container runtime is in order. -/
theorem checkContainerRuntime_eq_ok :
    p.checkContainerRuntime = .ok () ↔
      (p.orchestration.runs .kubernetes = true →
        p.kubernetesText (·.containerRuntime) ∈ Network.runtimes ∧
        (p.hasWindows = true →
          p.kubernetesText (·.containerRuntime) ∉ Network.runtimesNotOnWindows)) := by
  simp only [checkContainerRuntime, then_eq_ok, refuse_eq_ok]
  cases p.orchestration.runs .kubernetes <;> cases p.hasWindows <;> simp

/-- When the add-ons are in order. -/
theorem checkAddons_eq_ok :
    p.checkAddons = .ok () ↔
      ∀ k ∈ p.kubernetes, ∀ a ∈ k.addons, a.name = autoscaler → a.enabled = some true →
        ∀ pool ∈ p.pools, pool.availabilityProfile ≠ "" ∧
          pool.availabilityProfile ≠ "AvailabilitySet" := by
  rw [checkAddons, refuse_eq_ok, hasAvailabilitySets]
  cases p.kubernetes with
  | none => simp
  | some k =>
    simp only [Option.any_some, Bool.and_eq_false_iff, List.any_eq_false, Option.mem_def,
      Option.some.injEq, forall_eq', Addon.isEnabled, Pool.isAvailabilitySet]
    constructor
    · rintro (hnone | hpools) a ha hname henabled
      · exact absurd henabled (by simpa [hname] using hnone a ha)
      · simpa using hpools
    · intro h
      by_cases hnone : ∃ a ∈ k.addons, a.name = autoscaler ∧ a.enabled = some true
      · obtain ⟨a, ha, hname, henabled⟩ := hnone
        exact .inr (by simpa using h a ha hname henabled)
      · exact .inl (by simpa using hnone)

end ClusterPlan.Plan
