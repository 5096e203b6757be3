import UnifyMatterBridge.DeviceType.Selection
import UnifyMatterBridge.Lib.StrictWeak

/-! The laws that `std::sort` asks of the comparison of scores. -/
namespace UnifyMatterBridge

namespace DeviceType

/-- Every score comes before itself, so that the laws hold of no scores at all. Those for different
scores hold if and only if no two of them have the same counts. -/
theorem scoreLess_strictWeak_iff (S : Set ClusterScore) :
    (StrictWeak.On (fun a b => scoreLess a b = true) S ↔ S = ∅) ∧
      (StrictWeak.OnDistinct (fun a b => scoreLess a b = true) S ↔
        ∀ a ∈ S, ∀ b ∈ S, a ≠ b →
          a.matterMissCount ≠ b.matterMissCount ∨
            a.requiredMatterClustersCount ≠ b.requiredMatterClustersCount ∨
            a.extraMatterClustersCount ≠ b.extraMatterClustersCount) := by
  refine ⟨StrictWeak.on_iff_of_le scoreLess_iff, ?_⟩
  rw [StrictWeak.onDistinct_iff_of_le scoreLess_iff]
  constructor
  · intro hinj a ha b hb hne
    by_contra hsame
    push Not at hsame
    exact hne (hinj ha hb (sortKey_eq_iff.mpr hsame))
  · intro hcounts a ha b hb hkey
    by_contra hne
    obtain ⟨hmissed, hrequired, hextra⟩ := sortKey_eq_iff.mp hkey
    rcases hcounts a ha b hb hne with h | h | h
    · exact h hmissed
    · exact h hrequired
    · exact h hextra

section Example

def sensorTranslator : DeviceTranslator where
  specCompliant := true
  getMatterClusterId name :=
    [("Identify", 0x0003), ("PressureMeasurement", 0x0403), ("FlowMeasurement", 0x0404)].lookup name
  getMatterAttributeId _ name := [("IdentifyTime", 0), ("IdentifyType", 1)].lookup name
  getMatterCommandId _ name := [("Identify", 0)].lookup name

def sensorTypes : List (ℕ × List DeviceClusterData) :=
  let identify : DeviceClusterData :=
    ⟨"Identify", true, ["Identify"], ["IdentifyTime", "IdentifyType"]⟩
  [(0x0305, [identify, ⟨"PressureMeasurement", true, [], []⟩]),
    (0x0306, [⟨"FlowMeasurement", true, [], []⟩, identify])]

def sensorClusters : List EmberAfCluster :=
  [⟨0x0003, [⟨0, 0, 2, .code 0x21, true, true⟩, ⟨0, 1, 1, .code 0x30, true, true⟩], 2,
      [0, kInvalidCommandId], [kInvalidCommandId]⟩,
    ⟨0x0403, [], 0, [kInvalidCommandId], [kInvalidCommandId]⟩,
    ⟨0x0404, [], 0, [kInvalidCommandId], [kInvalidCommandId]⟩]

/-- The scores of the two sensors come before each other. -/
theorem not_scoreLess_strictWeak_of_sensors : ∃ pressure flow : ClusterScore,
    matchScores 8 sensorTranslator sensorClusters sensorTypes = .ok [pressure, flow] ∧
      scoreLess pressure flow = true ∧ scoreLess flow pressure = true ∧
      scoreLess pressure pressure = true ∧
      ¬ StrictWeak.On (fun a b => scoreLess a b = true) (Set.univ : Set ClusterScore) := by
  refine ⟨⟨1, 0, 2, 0x0305⟩, ⟨1, 0, 2, 0x0306⟩, by decide, ?_⟩
  refine ⟨by decide, by decide, by decide, ?_⟩
  intro h
  have hasymm := h.asymm ⟨1, 0, 2, 0x0305⟩ trivial ⟨1, 0, 2, 0x0306⟩ trivial
  exact hasymm (by decide) (by decide)

end Example

end DeviceType

end UnifyMatterBridge
