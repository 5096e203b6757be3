import UnifyMatterBridge.Endpoint.Names

/-! The Matter endpoint that is built for the clusters of a Unify endpoint (`build_matter_cluster`):
what the names map to, what is always added, and what the emulators add. -/
namespace UnifyMatterBridge

structure AttrTypeSize where
  attrType : ZclType
  attrSize : ℕ

structure MatterClusterBuilder where
  incomingCommands : List ℕ := []
  outgoingCommands : List ℕ := []
  attributes : List EmberAfAttributeMetadata := []
  deriving DecidableEq, Repr

namespace MatterClusterBuilder

/-- `register_cluster`: the cluster that is there when the builder is done. -/
def registerCluster (b : MatterClusterBuilder) (clusterId : ℕ) : EmberAfCluster where
  clusterId := clusterId
  attributes := b.attributes
  attributeCount := b.attributes.length % 65536
  acceptedCommandList := b.incomingCommands
  generatedCommandList := b.outgoingCommands

def emulateIdentify (b : MatterClusterBuilder) : MatterClusterBuilder :=
  { b with attributes := b.attributes ++ [⟨0, 0x01, 1, .enum8, true, false⟩] }

def emulateDoorLock (b : MatterClusterBuilder) : MatterClusterBuilder :=
  { b with
    attributes := b.attributes ++
      [⟨0, 0x25, 1, .enum8, true, false⟩, ⟨0, 0x26, 2, .bitmap16, true, false⟩]
    incomingCommands := b.incomingCommands ++ [0x00, 0x01] }

def emulateWindowCovering (b : MatterClusterBuilder) : MatterClusterBuilder :=
  { b with
    attributes := b.attributes ++
      [⟨0, 0x0A, 1, .bitmap8, true, false⟩, ⟨0, 0x0D, 2, .enum8, true, false⟩] }

/-- The lists are cleared first. -/
def emulateGroups (_ : MatterClusterBuilder) : MatterClusterBuilder where
  attributes := [⟨128, 0x00, 1, .bitmap8, true, false⟩, ⟨4, 0xFFFD, 2, .int16u, true, false⟩,
    ⟨1, 0xFFFC, 2, .int16u, true, false⟩]
  incomingCommands := [0x00, 0x01, 0x02, 0x03, 0x04, 0x05]
  outgoingCommands := [0x00, 0x01, 0x02, 0x03]

/-- The emulators by cluster name; those that do not override `emulate` add nothing. -/
def clusterEmulatorsStringMap : List (String × (MatterClusterBuilder → MatterClusterBuilder)) :=
  [("Identify", emulateIdentify), ("Level", id), ("DoorLock", emulateDoorLock),
    ("WindowCovering", emulateWindowCovering), ("Groups", emulateGroups), ("Thermostat", id),
    ("ColorControl", id)]

/-- `FeatureMap`, `ClusterRevision` and `EventList`, and what the emulator of the cluster adds. -/
def addEmulatedCommandsAndAttributes (clusterName : String) (b : MatterClusterBuilder) :
    MatterClusterBuilder :=
  let b := { b with
    attributes := b.attributes ++
      [⟨0, 0xFFFC, 4, .bitmap32, true, false⟩, ⟨0, 0xFFFD, 2, .int16u, true, false⟩,
        ⟨0, 0xFFFA, 4, .eventId, true, false⟩] }
  match clusterEmulatorsStringMap.lookup clusterName with
  | some emulate => emulate b
  | none => b

/-- What the emulator of a cluster adds to its attributes, after the global ones. -/
def emulatedAttributeIds (clusterName : String) : List ℕ :=
  if clusterName = "Identify" then [0x01]
  else if clusterName = "DoorLock" then [0x25, 0x26]
  else if clusterName = "WindowCovering" then [0x0A, 0x0D]
  else []

/-- Only the emulators of the groups and of the door lock change the commands. -/
theorem addEmulatedCommandsAndAttributes_spec (clusterName : String) (b : MatterClusterBuilder) :
    (b.addEmulatedCommandsAndAttributes clusterName).incomingCommands =
        (if clusterName = "Groups" then [0x00, 0x01, 0x02, 0x03, 0x04, 0x05]
          else if clusterName = "DoorLock" then b.incomingCommands ++ [0x00, 0x01]
          else b.incomingCommands) ∧
      (b.addEmulatedCommandsAndAttributes clusterName).outgoingCommands =
        (if clusterName = "Groups" then [0x00, 0x01, 0x02, 0x03] else b.outgoingCommands) ∧
      (b.addEmulatedCommandsAndAttributes clusterName).attributes.map (·.attributeId) =
        if clusterName = "Groups" then [0x00, 0xFFFD, 0xFFFC]
        else b.attributes.map (·.attributeId) ++
          ([0xFFFC, 0xFFFD, 0xFFFA] ++ emulatedAttributeIds clusterName) := by
  unfold addEmulatedCommandsAndAttributes emulatedAttributeIds
  cases hlookup : clusterEmulatorsStringMap.lookup clusterName with
  | none =>
    have hne := List.lookup_eq_none_iff.mp hlookup
    simp only [clusterEmulatorsStringMap, List.forall_mem_cons, bne_iff_ne] at hne
    obtain ⟨hidentify, -, hdoorLock, hcovering, hgroups, -, -⟩ := hne
    simp [hidentify, hdoorLock, hcovering, hgroups]
  | some emulate =>
    have hmem := NameTable.mem_of_lookup hlookup
    simp only [clusterEmulatorsStringMap, List.mem_cons, Prod.mk.injEq, List.not_mem_nil,
      or_false] at hmem
    rcases hmem with ⟨rfl, rfl⟩ | ⟨rfl, rfl⟩ | ⟨rfl, rfl⟩ | ⟨rfl, rfl⟩ | ⟨rfl, rfl⟩ | ⟨rfl, rfl⟩ |
      ⟨rfl, rfl⟩ <;>
      simp [emulateIdentify, emulateDoorLock, emulateWindowCovering, emulateGroups]

end MatterClusterBuilder

namespace ClusterInteractor

def bridgedDeviceAttributes : List EmberAfAttributeMetadata :=
  [⟨0, 0x05, 32, .charString, false, false⟩, ⟨0, 0x11, 1, .boolean, false, false⟩]

def bridgedDeviceBasicInformation : MatterClusterBuilder where
  attributes := bridgedDeviceAttributes ++
    [⟨0, 0xFFFC, 4, .bitmap32, false, false⟩, ⟨0, 0xFFFD, 2, .int16u, false, false⟩]

/-- `append_bridged_clusters`. -/
def descriptor : MatterClusterBuilder where
  attributes := [⟨0, 0x00, 254, .array, false, false⟩, ⟨0, 0x01, 254, .array, false, false⟩,
    ⟨0, 0x02, 254, .array, false, false⟩, ⟨0, 0x03, 254, .array, false, false⟩,
    ⟨0, 0xFFFD, 2, .int16u, false, false⟩]

variable (getAttributeTypeSize : (clusterId attributeId : ℕ) → AttrTypeSize)

def clusterBuilder (clusterId : ℕ) (clusterName : String) (c : Cluster) :
    MatterClusterBuilder where
  incomingCommands :=
    c.supportedCommands.filterMap (getCommandId clusterName) ++ [kInvalidCommandId]
  outgoingCommands :=
    c.generatedCommands.filterMap (getCommandId clusterName) ++ [kInvalidCommandId]
  attributes :=
    (c.attributes.filterMap (getAttributeId clusterName)).map (fun attributeId =>
      let typeSize := getAttributeTypeSize clusterId attributeId
      ⟨0, attributeId, typeSize.attrSize, typeSize.attrType, true, true⟩) ++
    if clusterName = "Basic" then bridgedDeviceAttributes else []

/-- The body of the loop over the clusters: the cluster it registers, unless it is skipped. -/
def buildCluster (entry : String × Cluster) : Option EmberAfCluster :=
  if entry.2.attributes = [] then none
  else if entry.1 = "NameAndLocation" then none
  else
    match getClusterId entry.1 with
    | none => none
    | some clusterId =>
      some ((clusterBuilder getAttributeTypeSize clusterId entry.1 entry.2
        |>.addEmulatedCommandsAndAttributes entry.1).registerCluster clusterId)

def buildStep (s : List EmberAfCluster × Bool) (entry : String × Cluster) :
    List EmberAfCluster × Bool :=
  match buildCluster getAttributeTypeSize entry with
  | none => s
  | some c => (s.1 ++ [c], s.2 || entry.1 = "Basic")

def buildMatterCluster (clusters : List (String × Cluster)) : List EmberAfCluster :=
  let s := clusters.foldl (buildStep getAttributeTypeSize) ([], false)
  (if s.2 then s.1
    else s.1 ++ [bridgedDeviceBasicInformation.registerCluster 0x0039]) ++
      [descriptor.registerCluster 0x001D]

variable {getAttributeTypeSize}

theorem buildMatterCluster_eq (clusters : List (String × Cluster)) :
    buildMatterCluster getAttributeTypeSize clusters =
      clusters.filterMap (buildCluster getAttributeTypeSize) ++
        ((if ∃ entry ∈ clusters, entry.1 = "Basic" ∧
            (buildCluster getAttributeTypeSize entry).isSome then []
          else [bridgedDeviceBasicInformation.registerCluster 0x0039]) ++
          [descriptor.registerCluster 0x001D]) := by
  have hfold : ∀ (built : List EmberAfCluster) (basic : Bool),
      clusters.foldl (buildStep getAttributeTypeSize) (built, basic) =
        (built ++ clusters.filterMap (buildCluster getAttributeTypeSize),
          basic || clusters.any fun entry => decide (entry.1 = "Basic") &&
            (buildCluster getAttributeTypeSize entry).isSome) := by
    induction clusters with
    | nil => simp
    | cons entry clusters ih =>
      intro built basic
      rw [List.foldl_cons, List.any_cons, buildStep]
      cases hbuild : buildCluster getAttributeTypeSize entry with
      | none =>
        rw [List.filterMap_cons_none hbuild]
        simpa using ih built basic
      | some c =>
        rw [List.filterMap_cons_some hbuild, ih]
        simp [Bool.or_assoc]
  have hbasic : (clusters.any fun entry => decide (entry.1 = "Basic") &&
      (buildCluster getAttributeTypeSize entry).isSome) = true ↔ ∃ entry ∈ clusters,
        entry.1 = "Basic" ∧ (buildCluster getAttributeTypeSize entry).isSome := by
    simp
  unfold buildMatterCluster
  rw [hfold]
  simp only [List.nil_append, Bool.false_or, hbasic]
  split_ifs with h
  · simp
  · simp

theorem buildCluster_eq_some {entry : String × Cluster} {c : EmberAfCluster} :
    buildCluster getAttributeTypeSize entry = some c ↔ entry.2.attributes ≠ [] ∧
      ∃ clusterId, getClusterId entry.1 = some clusterId ∧
        c = ((clusterBuilder getAttributeTypeSize clusterId entry.1 entry.2
          ).addEmulatedCommandsAndAttributes entry.1).registerCluster clusterId := by
  unfold buildCluster
  split_ifs with hattributes hname
  · simp [hattributes]
  · -- this name has no cluster id
    have hunknown : getClusterId "NameAndLocation" = none := rfl
    simp [hname, hunknown]
  · cases getClusterId entry.1 with
    | none => simp
    | some clusterId => simp [hattributes, eq_comm]

theorem exists_buildCluster (getAttributeTypeSize : (clusterId attributeId : ℕ) → AttrTypeSize)
    {entry : String × Cluster} {clusterId : ℕ} (hattributes : entry.2.attributes ≠ [])
    (hid : getClusterId entry.1 = some clusterId) :
    ∃ c, buildCluster getAttributeTypeSize entry = some c :=
  ⟨_, buildCluster_eq_some.mpr ⟨hattributes, clusterId, hid, rfl⟩⟩

/-- A cluster of the endpoint is built from a Unify cluster with attributes and a known name, or is
one of the two that are appended. -/
theorem mem_buildMatterCluster {clusters : List (String × Cluster)} {c : EmberAfCluster}
    (h : c ∈ buildMatterCluster getAttributeTypeSize clusters) :
    (∃ entry ∈ clusters, buildCluster getAttributeTypeSize entry = some c) ∨
      c = bridgedDeviceBasicInformation.registerCluster 0x0039 ∨
      c = descriptor.registerCluster 0x001D := by
  rw [buildMatterCluster_eq, List.mem_append, List.mem_append, List.mem_singleton] at h
  rcases h with h | h | h
  · exact Or.inl (List.mem_filterMap.mp h)
  · split_ifs at h
    · cases h
    · exact Or.inr (Or.inl (List.mem_singleton.mp h))
  · exact Or.inr (Or.inr h)

theorem mem_buildMatterCluster_of_entry {clusters : List (String × Cluster)}
    {entry : String × Cluster} {c : EmberAfCluster} (he : entry ∈ clusters)
    (h : buildCluster getAttributeTypeSize entry = some c) :
    c ∈ buildMatterCluster getAttributeTypeSize clusters := by
  rw [buildMatterCluster_eq]
  exact List.mem_append_left _ (List.mem_filterMap.mpr ⟨entry, he, h⟩)

end ClusterInteractor

end UnifyMatterBridge
