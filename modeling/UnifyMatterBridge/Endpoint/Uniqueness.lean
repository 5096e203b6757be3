import UnifyMatterBridge.Endpoint.Builder

/-! Distinct ids in a built endpoint: of its clusters, of the attributes of a cluster and of its
accepted commands. -/
namespace UnifyMatterBridge

namespace ClusterInteractor

structure NoDuplicates (clusters : List EmberAfCluster) : Prop where
  clusterIds : (clusters.map (·.clusterId)).Nodup
  attributeIds : ∀ c ∈ clusters, (c.attributes.map (·.attributeId)).Nodup
  acceptedCommands : ∀ c ∈ clusters, c.acceptedCommandList.Nodup

/-- Condition: the device does not report itself what is added to its cluster, and does not support
two commands with the same id. -/
structure ReportedOnce (clusterName : String) (c : Cluster) : Prop where
  basic : clusterName = "Basic" → "PhysicalEnvironment" ∉ c.attributes
  doorLockAttributes : clusterName = "DoorLock" →
    ∀ name ∈ ["OperatingMode", "SupportedOperatingModes", "FeatureMap"], name ∉ c.attributes
  doorLockCommands : clusterName = "DoorLock" →
    ∀ name ∈ ["LockDoor", "LockDoorResponse", "UnlockDoor", "UnlockDoorResponse"],
      name ∉ c.supportedCommands
  identify : clusterName = "Identify" →
    ¬ ("Identify" ∈ c.supportedCommands ∧ "IdentifyQueryResponse" ∈ c.supportedCommands)
  thermostat : clusterName = "Thermostat" →
    ¬ ("SetpointRaiseOrLower" ∈ c.supportedCommands ∧
      "GetWeeklyScheduleResponse" ∈ c.supportedCommands)

section Tables

/-- The ids that are added to those of the attributes of a cluster. -/
def addedAttributeIds (clusterName : String) : List ℕ :=
  (if clusterName = "Basic" then [0x05, 0x11] else []) ++
    ([0xFFFC, 0xFFFD, 0xFFFA] ++ MatterClusterBuilder.emulatedAttributeIds clusterName)

def repeatedAttributes (clusterName : String) : List String :=
  if clusterName = "Basic" then ["PhysicalEnvironment"]
  else if clusterName = "DoorLock" then ["OperatingMode", "SupportedOperatingModes", "FeatureMap"]
  else []

/-- The ids that are added to those of the accepted commands. -/
def addedCommandIds (clusterName : String) : List ℕ :=
  if clusterName = "DoorLock" then [0x00, 0x01] else []

def repeatedCommands (clusterName : String) : List String :=
  if clusterName = "DoorLock" then
    ["LockDoor", "LockDoorResponse", "UnlockDoor", "UnlockDoorResponse"]
  else []

/-- Two names of commands with one id. -/
def commandAliases (clusterName : String) : List (String × String) :=
  if clusterName = "Identify" then [("Identify", "IdentifyQueryResponse")]
  else if clusterName = "Thermostat" then [("SetpointRaiseOrLower", "GetWeeklyScheduleResponse")]
  else []

theorem reportedOnce_iff {clusterName : String} {c : Cluster} : ReportedOnce clusterName c ↔
    (∀ name ∈ c.attributes, name ∉ repeatedAttributes clusterName) ∧
      (∀ name ∈ c.supportedCommands, name ∉ repeatedCommands clusterName) ∧
      ∀ p ∈ commandAliases clusterName,
        ¬ (p.1 ∈ c.supportedCommands ∧ p.2 ∈ c.supportedCommands) := by
  have hdisjoint : ∀ names reported : List String,
      (∀ name ∈ names, name ∉ reported) ↔ ∀ name ∈ reported, name ∉ names :=
    fun names reported => List.disjoint_comm
  rw [hdisjoint c.attributes, hdisjoint c.supportedCommands]
  unfold repeatedAttributes repeatedCommands commandAliases
  constructor
  · intro h
    refine ⟨?_, ?_, ?_⟩
    · split_ifs with hbasic hdoorLock
      · simpa using h.basic hbasic
      · exact h.doorLockAttributes hdoorLock
      · simp
    · split_ifs with hdoorLock
      · exact h.doorLockCommands hdoorLock
      · simp
    · split_ifs with hidentify hthermostat
      · simpa using h.identify hidentify
      · simpa using h.thermostat hthermostat
      · simp
  · intro h
    obtain ⟨hattributes, hcommands, haliases⟩ := h
    constructor
    · rintro rfl
      simpa using hattributes
    · rintro rfl
      exact hattributes
    · rintro rfl
      exact hcommands
    · rintro rfl
      simpa using haliases
    · rintro rfl
      simpa using haliases

theorem attributeTables : ∀ p ∈ unifyToMatterAttributeIdMap, (p.2.map Prod.snd).Nodup ∧
    (p.1 ≠ "Groups" → (∀ q ∈ p.2, q.2 ∈ addedAttributeIds p.1 → q.1 ∈ repeatedAttributes p.1) ∧
      ∀ name ∈ repeatedAttributes p.1, ∃ id ∈ addedAttributeIds p.1, p.2.lookup name = some id) := by
  decide

theorem commandTables : ∀ p ∈ unifyToMatterCommandIdMap, p.1 ≠ "Groups" →
    (∀ q ∈ p.2, q.2 ∈ addedCommandIds p.1 → q.1 ∈ repeatedCommands p.1) ∧
      (∀ name ∈ repeatedCommands p.1, ∃ id ∈ addedCommandIds p.1, p.2.lookup name = some id) ∧
      (∀ q ∈ p.2, ∀ q' ∈ p.2, q.2 = q'.2 → q.1 = q'.1 ∨ q.1 ∈ repeatedCommands p.1 ∨
        (q.1, q'.1) ∈ commandAliases p.1 ∨ (q'.1, q.1) ∈ commandAliases p.1) ∧
      ∀ a ∈ commandAliases p.1, a.1 ≠ a.2 ∧ ∃ q ∈ p.2, p.2.lookup a.1 = some q.2 ∧
        p.2.lookup a.2 = some q.2 := by
  decide

end Tables

variable {clusterName : String} {clusterId : ℕ}

theorem nodup_addedAttributeIds : (addedAttributeIds clusterName).Nodup := by
  unfold addedAttributeIds MatterClusterBuilder.emulatedAttributeIds
  split_ifs <;> decide

theorem nodup_attributeIds (hknown : getClusterId clusterName = some clusterId)
    (hgroups : clusterName ≠ "Groups") {names : List String} (hnames : names.Nodup) :
    (names.filterMap (getAttributeId clusterName) ++ addedAttributeIds clusterName).Nodup ↔
      ∀ name ∈ names, name ∉ repeatedAttributes clusterName := by
  obtain ⟨⟨table, htable⟩, -⟩ := exists_tables_of_clusterId hknown
  obtain ⟨hids, hadded⟩ := attributeTables _ (NameTable.mem_of_lookup htable)
  obtain ⟨hadded, hrepeated⟩ := hadded hgroups
  have hlookup : getAttributeId clusterName = fun name => table.lookup name := by
    funext name
    rw [getAttributeId, htable, Option.bind_some]
  rw [hlookup, NameTable.nodup_filterMap_append,
    and_iff_right (NameTable.nodup_filterMap_lookup hids hnames),
    and_iff_right nodup_addedAttributeIds]
  constructor
  · intro h name hname hmem
    obtain ⟨id, hid, hname'⟩ := hrepeated name hmem
    exact h name hname id hid hname'
  · intro h name hname id hid hname'
    exact h name hname (hadded _ (NameTable.mem_of_lookup hname') hid)

theorem nodup_commandIds (hknown : getClusterId clusterName = some clusterId)
    (hgroups : clusterName ≠ "Groups") {names : List String} (hnames : names.Nodup) :
    (names.filterMap (getCommandId clusterName) ++
        ([kInvalidCommandId] ++ addedCommandIds clusterName)).Nodup ↔
      (∀ name ∈ names, name ∉ repeatedCommands clusterName) ∧
        ∀ p ∈ commandAliases clusterName, ¬ (p.1 ∈ names ∧ p.2 ∈ names) := by
  obtain ⟨-, table, htable⟩ := exists_tables_of_clusterId hknown
  obtain ⟨hadded, hrepeated, hsame, haliases⟩ :=
    commandTables _ (NameTable.mem_of_lookup htable) hgroups
  have hlookup : ∀ name, getCommandId clusterName name = table.lookup name := by
    intro name
    rw [getCommandId, htable, Option.bind_some]
  have hnodup : ([kInvalidCommandId] ++ addedCommandIds clusterName).Nodup := by
    unfold addedCommandIds
    split_ifs <;> decide
  rw [NameTable.nodup_filterMap_append, NameTable.nodup_filterMap hnames, and_iff_right hnodup]
  simp only [hlookup]
  constructor
  · intro h
    obtain ⟨hdistinct, hnew⟩ := h
    constructor
    · intro name hname hmem
      obtain ⟨id, hid, hname'⟩ := hrepeated name hmem
      exact hnew name hname id (List.mem_append_right _ hid) hname'
    · intro p hp hboth
      obtain ⟨hne, q, -, hfirst, hsecond⟩ := haliases p hp
      exact hne (hdistinct _ hboth.1 _ hboth.2 _ hfirst hsecond)
  · intro h
    obtain ⟨hnew, hdistinct⟩ := h
    constructor
    · intro a ha b hb id hai hbi
      rcases hsame _ (NameTable.mem_of_lookup hai) _ (NameTable.mem_of_lookup hbi) rfl with
        heq | hmem | hmem | hmem
      · exact heq
      · exact absurd hmem (hnew a ha)
      · exact absurd ⟨ha, hb⟩ (hdistinct _ hmem)
      · exact absurd ⟨hb, ha⟩ (hdistinct _ hmem)
    · intro name hname id hid hname'
      rcases List.mem_append.mp hid with hid | hid
      · rw [← hlookup] at hname'
        exact getCommandId_ne hname' (List.mem_singleton.mp hid)
      · exact hnew name hname (hadded _ (NameTable.mem_of_lookup hname') hid)

variable {getAttributeTypeSize : (clusterId attributeId : ℕ) → AttrTypeSize}
  {entry : String × Cluster} {c : EmberAfCluster}

theorem buildCluster_ids (h : buildCluster getAttributeTypeSize entry = some c)
    (hgroups : entry.1 ≠ "Groups") :
    c.attributes.map (·.attributeId) =
        entry.2.attributes.filterMap (getAttributeId entry.1) ++ addedAttributeIds entry.1 ∧
      c.acceptedCommandList = entry.2.supportedCommands.filterMap (getCommandId entry.1) ++
        ([kInvalidCommandId] ++ addedCommandIds entry.1) := by
  obtain ⟨-, clusterId, -, rfl⟩ := buildCluster_eq_some.mp h
  obtain ⟨hincoming, -, hattributes⟩ := MatterClusterBuilder.addEmulatedCommandsAndAttributes_spec
    entry.1 (clusterBuilder getAttributeTypeSize clusterId entry.1 entry.2)
  dsimp only [MatterClusterBuilder.registerCluster]
  rw [hincoming, hattributes, if_neg hgroups, if_neg hgroups]
  unfold clusterBuilder addedAttributeIds addedCommandIds
  constructor
  · split_ifs <;> simp [bridgedDeviceAttributes, Function.comp_def]
  · split_ifs <;> simp

/-- The attributes and the commands of a built cluster are distinct if and only if the condition
holds. -/
theorem buildCluster_nodup (hattributes : entry.2.attributes.Nodup)
    (hcommands : entry.2.supportedCommands.Nodup)
    (h : buildCluster getAttributeTypeSize entry = some c) :
    (c.attributes.map (·.attributeId)).Nodup ∧ c.acceptedCommandList.Nodup ↔
      ReportedOnce entry.1 entry.2 := by
  by_cases hgroups : entry.1 = "Groups"
  · obtain ⟨-, clusterId, -, rfl⟩ := buildCluster_eq_some.mp h
    obtain ⟨hincoming, -, hids⟩ := MatterClusterBuilder.addEmulatedCommandsAndAttributes_spec
      entry.1 (clusterBuilder getAttributeTypeSize clusterId entry.1 entry.2)
    dsimp only [MatterClusterBuilder.registerCluster]
    rw [hincoming, hids, if_pos hgroups, if_pos hgroups]
    refine iff_of_true ⟨by decide, by decide⟩ ?_
    constructor <;> simp [hgroups]
  · obtain ⟨hids, haccepted⟩ := buildCluster_ids h hgroups
    obtain ⟨-, clusterId, hknown, -⟩ := buildCluster_eq_some.mp h
    rw [hids, haccepted, nodup_attributeIds hknown hgroups hattributes,
      nodup_commandIds hknown hgroups hcommands, reportedOnce_iff]

theorem clusterId_of_buildCluster (h : buildCluster getAttributeTypeSize entry = some c) :
    getClusterId entry.1 = some c.clusterId := by
  obtain ⟨-, clusterId, hknown, rfl⟩ := buildCluster_eq_some.mp h
  exact hknown

theorem getClusterId_inj {name name' : String} (h : getClusterId name = some clusterId)
    (h' : getClusterId name' = some clusterId) : name = name' := by
  have hids : (unifyClusterIdMap.map Prod.snd).Nodup := by decide
  exact NameTable.lookup_inj hids h h'

theorem nodup_clusterIds {clusters : List (String × Cluster)}
    (hnames : (clusters.map Prod.fst).Nodup) :
    ((buildMatterCluster getAttributeTypeSize clusters).map (·.clusterId)).Nodup := by
  have hbuilt : ((clusters.filterMap (buildCluster getAttributeTypeSize)).map
      (·.clusterId)).Nodup := by
    refine List.pairwise_map.mpr (List.pairwise_filterMap.mpr ?_)
    refine (List.pairwise_map.mp hnames).imp fun {e e'} hne c hc c' hc' heq => hne ?_
    have hid := clusterId_of_buildCluster hc'
    rw [← heq] at hid
    exact getClusterId_inj (clusterId_of_buildCluster hc) hid
  rw [buildMatterCluster_eq, List.map_append, List.nodup_append]
  refine ⟨hbuilt, ?_, ?_⟩
  · split_ifs <;> simp [MatterClusterBuilder.registerCluster]
  · intro id hid id' hid' heq
    subst heq
    obtain ⟨c, hc, rfl⟩ := List.mem_map.mp hid
    obtain ⟨entry, he, hbuild⟩ := List.mem_filterMap.mp hc
    have hknown := clusterId_of_buildCluster hbuild
    rw [List.map_append, List.mem_append] at hid'
    rcases hid' with hid' | hid'
    · split_ifs at hid' with hbasic
      · cases hid'
      · have hlabel : c.clusterId = 0x0039 := List.mem_singleton.mp hid'
        rw [hlabel] at hknown
        have hname : entry.1 = "Basic" := getClusterId_inj hknown rfl
        exact hbasic ⟨entry, he, hname, Option.isSome_of_eq_some hbuild⟩
    · have hdescriptor : c.clusterId = 0x001D := List.mem_singleton.mp hid'
      have hids : ∀ p ∈ unifyClusterIdMap, p.2 ≠ 0x001D := by decide
      exact hids _ (NameTable.mem_of_lookup hknown) hdescriptor

/-- The endpoint has no duplicates if and only if no cluster reports what is added to it or two
commands with one id. -/
theorem noDuplicates_iff (getAttributeTypeSize : (clusterId attributeId : ℕ) → AttrTypeSize)
    (clusters : List (String × Cluster)) (hnames : (clusters.map Prod.fst).Nodup)
    (hattributes : ∀ entry ∈ clusters, entry.2.attributes.Nodup)
    (hcommands : ∀ entry ∈ clusters, entry.2.supportedCommands.Nodup) :
    NoDuplicates (buildMatterCluster getAttributeTypeSize clusters) ↔
      ∀ entry ∈ clusters, entry.2.attributes ≠ [] → ReportedOnce entry.1 entry.2 := by
  constructor
  · intro h entry he hne
    cases hknown : getClusterId entry.1 with
    | none =>
      -- the condition is about clusters with an id
      have hids : ∀ name ∈ ["Basic", "DoorLock", "Identify", "Thermostat"],
          getClusterId name ≠ none := by decide
      have hother : ∀ name ∈ ["Basic", "DoorLock", "Identify", "Thermostat"],
          entry.1 ≠ name := fun name hname heq => hids name hname (heq ▸ hknown)
      simp only [List.forall_mem_cons] at hother
      obtain ⟨hbasic, hdoorLock, hidentify, hthermostat, -⟩ := hother
      exact ⟨fun heq => absurd heq hbasic, fun heq => absurd heq hdoorLock,
        fun heq => absurd heq hdoorLock, fun heq => absurd heq hidentify,
        fun heq => absurd heq hthermostat⟩
    | some clusterId =>
      obtain ⟨c, hbuild⟩ := exists_buildCluster getAttributeTypeSize hne hknown
      have hmem := mem_buildMatterCluster_of_entry he hbuild
      exact (buildCluster_nodup (hattributes entry he) (hcommands entry he) hbuild).mp
        ⟨h.attributeIds c hmem, h.acceptedCommands c hmem⟩
  · intro h
    have hcluster : ∀ c ∈ buildMatterCluster getAttributeTypeSize clusters,
        (c.attributes.map (·.attributeId)).Nodup ∧ c.acceptedCommandList.Nodup := by
      intro c hc
      rcases mem_buildMatterCluster hc with ⟨entry, he, hbuild⟩ | rfl | rfl
      · have hne := (buildCluster_eq_some.mp hbuild).1
        exact (buildCluster_nodup (hattributes entry he) (hcommands entry he) hbuild).mpr
          (h entry he hne)
      · exact ⟨by decide, by decide⟩
      · exact ⟨by decide, by decide⟩
    exact ⟨nodup_clusterIds hnames, fun c hc => (hcluster c hc).1, fun c hc => (hcluster c hc).2⟩

section Example

/-- A lock that reports no operating mode and supports no command. -/
theorem noDuplicates_of_lock :
    NoDuplicates (buildMatterCluster (fun _ _ => ⟨.code 0x20, 1⟩)
      [("Identify", ⟨["IdentifyTime"], ["Identify", "TriggerEffect"], []⟩),
        ("DoorLock", ⟨["LockState", "LockType"], [], ["LockDoorResponse"]⟩)]) := by
  refine (noDuplicates_iff _ _ (by decide) (by decide) (by decide)).mpr fun entry he _ => ?_
  rcases List.mem_pair.mp he with rfl | rfl
  · constructor <;> simp
  · constructor <;> simp

/-- A lock that supports the commands which its emulator adds. -/
theorem not_noDuplicates_of_lock_commands :
    ¬ ∀ (getAttributeTypeSize : (clusterId attributeId : ℕ) → AttrTypeSize) (ep : Endpoint),
      (∀ entry ∈ ep.clusters, entry.2.attributes.Nodup ∧ entry.2.supportedCommands.Nodup ∧
        entry.2.generatedCommands.Nodup) →
      NoDuplicates (buildMatterCluster getAttributeTypeSize ep.clusters) := by
  intro h
  have hunique := h (fun _ _ => ⟨.code 0x20, 1⟩)
    ⟨[("DoorLock", ⟨["LockState"], ["LockDoor", "UnlockDoor"], []⟩)], by decide⟩ (by decide)
  have hbuild : buildCluster (fun _ _ => ⟨.code 0x20, 1⟩)
      ("DoorLock", ⟨["LockState"], ["LockDoor", "UnlockDoor"], []⟩) =
        some ((MatterClusterBuilder.mk [0x00, 0x01, kInvalidCommandId, 0x00, 0x01]
          [kInvalidCommandId] [⟨0, 0x00, 1, .code 0x20, true, true⟩,
            ⟨0, 0xFFFC, 4, .bitmap32, true, false⟩, ⟨0, 0xFFFD, 2, .int16u, true, false⟩,
            ⟨0, 0xFFFA, 4, .eventId, true, false⟩, ⟨0, 0x25, 1, .enum8, true, false⟩,
            ⟨0, 0x26, 2, .bitmap16, true, false⟩]).registerCluster 0x0101) := by
    decide
  have hmem := mem_buildMatterCluster_of_entry (List.mem_singleton_self _) hbuild
  exact absurd (hunique.acceptedCommands _ hmem) (by decide)

end Example

end ClusterInteractor

end UnifyMatterBridge
