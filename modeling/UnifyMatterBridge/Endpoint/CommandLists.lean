import UnifyMatterBridge.Endpoint.Builder

/-! The ends of the command lists of a built endpoint: the interactor puts the terminator after the
commands that the names map to, before the emulators change the lists. -/
namespace UnifyMatterBridge

namespace ClusterInteractor

def WellTerminated (commands : List ℕ) : Prop :=
  commands ≠ [] → ∃ ids, kInvalidCommandId ∉ ids ∧ commands = ids ++ [kInvalidCommandId]

def CommandsWellTerminated (clusters : List EmberAfCluster) : Prop :=
  ∀ c ∈ clusters, WellTerminated c.acceptedCommandList ∧ WellTerminated c.generatedCommandList

theorem wellTerminated_mapped (clusterName : String) (commands : List String) :
    WellTerminated (commands.filterMap (getCommandId clusterName) ++ [kInvalidCommandId]) := by
  refine fun _ => ⟨_, fun hmem => ?_, rfl⟩
  obtain ⟨command, -, hid⟩ := List.mem_filterMap.mp hmem
  exact getCommandId_ne hid rfl

theorem not_wellTerminated_append {commands added : List ℕ} (hne : added ≠ [])
    (hadded : kInvalidCommandId ∉ added) : ¬ WellTerminated (commands ++ added) := by
  intro h
  obtain ⟨ids, -, heq⟩ := h (List.append_ne_nil_of_right_ne_nil _ hne)
  have hlast : (commands ++ added).getLast? = some kInvalidCommandId := by
    rw [heq, List.getLast?_concat]
  rw [List.getLast?_append_of_ne_nil _ hne] at hlast
  exact hadded (List.mem_of_getLast? hlast)

variable {getAttributeTypeSize : (clusterId attributeId : ℕ) → AttrTypeSize}

theorem buildCluster_wellTerminated {entry : String × Cluster} {c : EmberAfCluster}
    (h : buildCluster getAttributeTypeSize entry = some c) :
    WellTerminated c.acceptedCommandList ∧ WellTerminated c.generatedCommandList ↔
      entry.1 ≠ "Groups" ∧ entry.1 ≠ "DoorLock" := by
  obtain ⟨-, clusterId, -, rfl⟩ := buildCluster_eq_some.mp h
  obtain ⟨hincoming, houtgoing, -⟩ := MatterClusterBuilder.addEmulatedCommandsAndAttributes_spec
    entry.1 (clusterBuilder getAttributeTypeSize clusterId entry.1 entry.2)
  dsimp only [MatterClusterBuilder.registerCluster]
  rw [hincoming, houtgoing]
  by_cases hgroups : entry.1 = "Groups"
  · rw [if_pos hgroups]
    refine iff_of_false (fun hterminated => ?_) (fun hne => hne.1 hgroups)
    exact @not_wellTerminated_append [] _ (by simp) (by decide) hterminated.1
  · rw [if_neg hgroups, if_neg hgroups]
    by_cases hdoorLock : entry.1 = "DoorLock"
    · rw [if_pos hdoorLock]
      refine iff_of_false (fun hterminated => ?_) (fun hne => hne.2 hdoorLock)
      exact not_wellTerminated_append (by simp) (by decide) hterminated.1
    · rw [if_neg hdoorLock]
      refine iff_of_true ⟨?_, ?_⟩ ⟨hgroups, hdoorLock⟩
      · exact wellTerminated_mapped entry.1 _
      · exact wellTerminated_mapped entry.1 _

/-- The command lists are terminated if and only if there is no cluster whose emulator changes
them. -/
theorem commandsWellTerminated_iff (getAttributeTypeSize : (clusterId attributeId : ℕ) → AttrTypeSize)
    (clusters : List (String × Cluster)) :
    CommandsWellTerminated (buildMatterCluster getAttributeTypeSize clusters) ↔
      ∀ entry ∈ clusters, entry.2.attributes ≠ [] →
        entry.1 ≠ "Groups" ∧ entry.1 ≠ "DoorLock" := by
  constructor
  · intro h entry he hattributes
    cases hid : getClusterId entry.1 with
    | none =>
      -- both names have a cluster id
      have hgroups : getClusterId "Groups" ≠ none := by decide
      have hdoorLock : getClusterId "DoorLock" ≠ none := by decide
      exact ⟨fun heq => hgroups (heq ▸ hid), fun heq => hdoorLock (heq ▸ hid)⟩
    | some clusterId =>
      obtain ⟨c, hbuild⟩ := exists_buildCluster getAttributeTypeSize hattributes hid
      have hmem := mem_buildMatterCluster_of_entry he hbuild
      exact (buildCluster_wellTerminated hbuild).mp (h _ hmem)
  · intro h c hc
    rcases mem_buildMatterCluster hc with ⟨entry, he, hbuild⟩ | rfl | rfl
    · have hattributes := (buildCluster_eq_some.mp hbuild).1
      exact (buildCluster_wellTerminated hbuild).mpr (h entry he hattributes)
    · exact ⟨fun hne => absurd rfl hne, fun hne => absurd rfl hne⟩
    · exact ⟨fun hne => absurd rfl hne, fun hne => absurd rfl hne⟩

/-- The lists of a `Groups` cluster have no terminator. -/
theorem not_commandsWellTerminated_of_groups :
    ¬ ∀ (getAttributeTypeSize : (clusterId attributeId : ℕ) → AttrTypeSize) (ep : Endpoint),
      CommandsWellTerminated (buildMatterCluster getAttributeTypeSize ep.clusters) := by
  intro h
  have hterminated := h (fun _ _ => ⟨.code 0x20, 1⟩)
    ⟨[("Groups", ⟨["NameSupport"], ["AddGroup"], []⟩)], by decide⟩
  have hbuild : buildCluster (fun _ _ => ⟨.code 0x20, 1⟩)
      ("Groups", ⟨["NameSupport"], ["AddGroup"], []⟩) =
        some (MatterClusterBuilder.emulateGroups {} |>.registerCluster 0x0004) := rfl
  have hgroups := hterminated _ (mem_buildMatterCluster_of_entry (List.mem_singleton_self _) hbuild)
  exact @not_wellTerminated_append [] _ (by simp) (by decide) hgroups.1

end ClusterInteractor

end UnifyMatterBridge
