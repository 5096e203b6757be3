import UnifyMatterBridge.Endpoint.Uniqueness
import UnifyMatterBridge.DeviceType.Selection
import UnifyMatterBridge.NodeStateMonitor.Convergence

/-! The order in which the `unordered_map` of an endpoint holds its clusters: what is built and
selected does not depend on it, where the selection answers at all, but the guard on endpoints with
nothing to bridge looks at the first cluster. -/
namespace UnifyMatterBridge

namespace NodeStateMonitor

/-- One of the two clusters that an endpoint is not bridged for. -/
def IsAuxiliary (entry : String × Cluster) : Prop :=
  entry.1 = "Groups" ∨ entry.1 = "NameAndLocation"

instance : DecidablePred IsAuxiliary := fun entry =>
  inferInstanceAs (Decidable (entry.1 = "Groups" ∨ entry.1 = "NameAndLocation"))

end NodeStateMonitor

namespace ClusterInteractor

/-- `get_matter_type`: the first of the possible device types. -/
def getMatterType (pointerSize : ℕ) (tr : DeviceTranslator)
    (sort : List ClusterScore → List ClusterScore) (table : List (ℕ × List DeviceClusterData))
    (clusters : List EmberAfCluster) : Except Fault (Option ℕ) := do
  return (← DeviceType.getDeviceTypes pointerSize tr sort table clusters).head?

def monitorEnv {Table : Type} (counts : EndpointCounts)
    (ember : EmberApi Table (EndpointContext (List EmberAfCluster)))
    (getAttributeTypeSize : (clusterId attributeId : ℕ) → AttrTypeSize) (pointerSize : ℕ)
    (tr : DeviceTranslator) (sort : List ClusterScore → List ClusterScore)
    (table : List (ℕ × List DeviceClusterData)) : MonitorEnv Table (List EmberAfCluster) where
  counts := counts
  ember := ember
  getClusterId := getClusterId
  buildMatterCluster := buildMatterCluster getAttributeTypeSize
  getMatterType clusters :=
    getMatterType pointerSize tr sort table (buildMatterCluster getAttributeTypeSize clusters)

variable {getAttributeTypeSize : (clusterId attributeId : ℕ) → AttrTypeSize}
  {clusters clusters' : List (String × Cluster)}

theorem exists_getMatterType {pointerSize : ℕ} {tr : DeviceTranslator}
    {sort : List ClusterScore → List ClusterScore} {table : List (ℕ × List DeviceClusterData)}
    {clusters : List EmberAfCluster} :
    (∃ r, getMatterType pointerSize tr sort table clusters = .ok r) ↔ ∀ entry ∈ table, ∃ answer,
      DeviceType.matterClustersConformToDeviceType pointerSize tr clusters entry.2 = .ok answer := by
  rw [← DeviceType.exists_matchScores]
  unfold getMatterType DeviceType.getDeviceTypes
  rw [DeviceType.select_eq]
  cases DeviceType.matchScores pointerSize tr clusters table with
  | error e => simp [Except.map, bind, Except.bind]
  | ok scores => simp [Except.map, bind, Except.bind, pure, Except.pure]

theorem buildMatterCluster_perm (h : clusters.Perm clusters') :
    (buildMatterCluster getAttributeTypeSize clusters).Perm
      (buildMatterCluster getAttributeTypeSize clusters') := by
  have hbasic : (∃ entry ∈ clusters, entry.1 = "Basic" ∧
      (buildCluster getAttributeTypeSize entry).isSome = true) ↔
      ∃ entry ∈ clusters', entry.1 = "Basic" ∧
        (buildCluster getAttributeTypeSize entry).isSome = true := by
    simp only [h.mem_iff]
  rw [buildMatterCluster_eq, buildMatterCluster_eq]
  simp only [hbasic]
  exact (h.filterMap _).append_right _

theorem validClusters_buildMatterCluster (hnames : (clusters.map Prod.fst).Nodup) :
    DeviceType.ValidClusters (buildMatterCluster getAttributeTypeSize clusters) := by
  have hnodup := @nodup_clusterIds getAttributeTypeSize clusters hnames
  refine ⟨hnodup, ?_⟩
  have hsub : (buildMatterCluster getAttributeTypeSize clusters).map (·.clusterId) ⊆
      unifyClusterIdMap.map Prod.snd ++ [0x0039, 0x001D] := by
    intro id hid
    obtain ⟨c, hc, rfl⟩ := List.mem_map.mp hid
    rcases mem_buildMatterCluster hc with ⟨entry, -, hbuild⟩ | rfl | rfl
    · have hmem := NameTable.mem_of_lookup (clusterId_of_buildCluster hbuild)
      exact List.mem_append_left _ (List.mem_map.mpr ⟨_, hmem, rfl⟩)
    · exact List.mem_append_right _ List.mem_cons_self
    · exact List.mem_append_right _ (List.mem_cons_of_mem _ List.mem_cons_self)
  have hlength := (hnodup.subperm hsub).length_le
  rw [List.length_map] at hlength
  have hbound : (unifyClusterIdMap.map Prod.snd ++ [0x0039, 0x001D]).length ≤ 100 := by decide
  omega

/-- The same device type is selected for every order of the clusters. -/
theorem getMatterType_perm (hnames : (clusters.map Prod.fst).Nodup) (h : clusters.Perm clusters')
    (pointerSize : ℕ) (tr : DeviceTranslator) (sort : List ClusterScore → List ClusterScore)
    (table : List (ℕ × List DeviceClusterData)) :
    getMatterType pointerSize tr sort table (buildMatterCluster getAttributeTypeSize clusters') =
      getMatterType pointerSize tr sort table (buildMatterCluster getAttributeTypeSize clusters) := by
  have hvalid := @validClusters_buildMatterCluster getAttributeTypeSize clusters hnames
  have hscores : DeviceType.matchScores pointerSize tr
      (buildMatterCluster getAttributeTypeSize clusters') table =
      DeviceType.matchScores pointerSize tr (buildMatterCluster getAttributeTypeSize clusters) table :=
    DeviceType.matchScores_perm hvalid (buildMatterCluster_perm h) table
  unfold getMatterType DeviceType.getDeviceTypes
  rw [DeviceType.select_eq, DeviceType.select_eq, hscores]

end ClusterInteractor

namespace NodeStateMonitor

open ClusterInteractor

variable {Table Content : Type}

section Definitions

variable (env : MonitorEnv Table (List EmberAfCluster)) (pointerSize : ℕ) (tr : DeviceTranslator)
  (table : List (ℕ × List DeviceClusterData)) (clusters : List (String × Cluster))

/-- In every order the guard skips the endpoint exactly if it has nothing to bridge, the same clusters
are counted and built, and the loop body comes to the same device type, or to none. -/
structure OrderIndependent : Prop where
  guard : ∀ clusters', clusters.Perm clusters' →
    skipsEndpoint clusters' = .ok (decide (∀ entry ∈ clusters, IsAuxiliary entry))
  counted : ∀ clusters', clusters.Perm clusters' →
    clustersMatchedToMatter env clusters' = clustersMatchedToMatter env clusters
  deviceType : ∃ r, ∀ clusters', clusters.Perm clusters' → selectDeviceType env clusters' = .ok r
  endpoint : ∀ clusters', clusters.Perm clusters' →
    (env.buildMatterCluster clusters').Perm (env.buildMatterCluster clusters)

/-- Two clusters, one of them auxiliary. -/
def Mixed : Prop := clusters.length = 2 ∧ clusters.countP (fun entry => IsAuxiliary entry) = 1

/-- The clusters of the endpoint can be checked against every device type, if it comes to that. -/
def ChecksAnswer : Prop :=
  (∃ entry ∈ clusters, ¬ IsAuxiliary entry) → clustersMatchedToMatter env clusters ≠ 0 →
    ∀ entry ∈ table, ∃ answer, DeviceType.matterClustersConformToDeviceType pointerSize tr
      (env.buildMatterCluster clusters) entry.2 = .ok answer

end Definitions

section Guard

variable {entry : String × Cluster} {clusters : List (String × Cluster)}

theorem skipsEndpoint_cons (h : (entry :: clusters).length ≤ 2) :
    skipsEndpoint (entry :: clusters) = .ok (decide (IsAuxiliary entry)) := by
  unfold skipsEndpoint
  rw [if_pos h]
  refine congrArg Except.ok (Bool.eq_iff_iff.mpr ?_)
  rw [Bool.or_eq_true, beq_iff_eq, beq_iff_eq, decide_eq_true_eq, IsAuxiliary]

theorem skipsEndpoint_of_two_lt (h : 2 < clusters.length) : skipsEndpoint clusters = .ok false :=
  if_neg (not_le.mpr h)

theorem length_le_of_forall_auxiliary (hnames : (clusters.map Prod.fst).Nodup)
    (h : ∀ entry ∈ clusters, IsAuxiliary entry) : clusters.length ≤ 2 := by
  have hsub : clusters.map Prod.fst ⊆ ["Groups", "NameAndLocation"] := by
    intro name hname
    obtain ⟨entry, he, rfl⟩ := List.mem_map.mp hname
    simpa [IsAuxiliary] using h entry he
  have hlength := (hnames.subperm hsub).length_le
  rwa [List.length_map] at hlength

/-- For two clusters the guard is right in both orders unless they are mixed. -/
theorem skipsEndpoint_pair_iff {entry entry' : String × Cluster} :
    (∀ clusters', [entry, entry'].Perm clusters' →
        skipsEndpoint clusters' = .ok (decide (∀ e ∈ [entry, entry'], IsAuxiliary e))) ↔
      ¬ Mixed [entry, entry'] := by
  have hboth : (∀ e ∈ [entry, entry'], IsAuxiliary e) ↔
      IsAuxiliary entry ∧ IsAuxiliary entry' := by simp
  have hmixed : Mixed [entry, entry'] ↔ (IsAuxiliary entry ↔ ¬ IsAuxiliary entry') := by
    by_cases hentry : IsAuxiliary entry <;> by_cases hentry' : IsAuxiliary entry' <;>
      simp [Mixed, hentry, hentry']
  constructor
  · intro h hmix
    have hfirst := h [entry, entry'] (List.Perm.refl _)
    have hsecond := h [entry', entry] (List.Perm.swap _ _ _)
    rw [skipsEndpoint_cons (by simp)] at hfirst hsecond
    simp only [Except.ok.injEq, decide_eq_decide, hboth] at hfirst hsecond
    have hnot := hmixed.mp hmix
    tauto
  · intro hnot clusters' hperm
    have hsame : IsAuxiliary entry ↔ IsAuxiliary entry' := by
      rw [hmixed, not_iff, not_iff_not] at hnot
      exact hnot
    have hlength : clusters'.length = 2 := hperm.length_eq.symm
    cases clusters' with
    | nil => cases hlength
    | cons first rest =>
      have hfirst : first = entry ∨ first = entry' := by
        simpa using hperm.mem_iff.mpr List.mem_cons_self
      rw [skipsEndpoint_cons hlength.le]
      simp only [Except.ok.injEq, decide_eq_decide, hboth]
      rcases hfirst with rfl | rfl
      · rw [hsame, and_self]
      · rw [hsame, and_self]

/-- The guard is right in every order, unless there is no cluster to look at or what it sees depends
on which of two comes first. -/
theorem skipsEndpoint_iff (hnames : (clusters.map Prod.fst).Nodup) :
    (∀ clusters', clusters.Perm clusters' →
        skipsEndpoint clusters' = .ok (decide (∀ entry ∈ clusters, IsAuxiliary entry))) ↔
      clusters ≠ [] ∧ ¬ Mixed clusters := by
  match clusters with
  | [] =>
    refine iff_of_false (fun h => ?_) (fun h => h.1 rfl)
    have hguard := h [] (List.Perm.refl _)
    cases hguard
  | [entry] =>
    refine iff_of_true (fun clusters' hperm => ?_) ⟨List.cons_ne_nil _ _, fun h => ?_⟩
    · rw [List.perm_singleton.mp hperm.symm, skipsEndpoint_cons (by simp)]
      simp
    · have hlength := h.1
      cases hlength
  | [entry, entry'] =>
    rw [skipsEndpoint_pair_iff]
    exact (and_iff_right (List.cons_ne_nil _ _)).symm
  | entry :: entry' :: entry'' :: rest =>
    have hlength : 2 < (entry :: entry' :: entry'' :: rest).length := by simp
    refine iff_of_true (fun clusters' hperm => ?_) ⟨List.cons_ne_nil _ _, fun h => ?_⟩
    · rw [skipsEndpoint_of_two_lt (hperm.length_eq ▸ hlength), eq_comm]
      refine congrArg Except.ok (decide_eq_false fun hall => ?_)
      have hle := length_le_of_forall_auxiliary hnames hall
      omega
    · have htwo := h.1
      omega

end Guard

section Order

variable {counts : EndpointCounts} {ember : EmberApi Table (EndpointContext (List EmberAfCluster))}
  {getAttributeTypeSize : (clusterId attributeId : ℕ) → AttrTypeSize} {pointerSize : ℕ}
  {tr : DeviceTranslator} {sort : List ClusterScore → List ClusterScore}
  {table : List (ℕ × List DeviceClusterData)} {clusters clusters' : List (String × Cluster)}

theorem clustersMatchedToMatter_perm (env : MonitorEnv Table Content)
    (h : clusters.Perm clusters') :
    clustersMatchedToMatter env clusters' = clustersMatchedToMatter env clusters := by
  unfold clustersMatchedToMatter
  rw [h.countP_eq]

theorem selectDeviceType_perm (hnames : (clusters.map Prod.fst).Nodup) (h : clusters.Perm clusters')
    (hguard : skipsEndpoint clusters' = skipsEndpoint clusters) :
    selectDeviceType (monitorEnv counts ember getAttributeTypeSize pointerSize tr sort table)
        clusters' =
      selectDeviceType (monitorEnv counts ember getAttributeTypeSize pointerSize tr sort table)
        clusters := by
  let env := monitorEnv counts ember getAttributeTypeSize pointerSize tr sort table
  have htype : env.getMatterType clusters' = env.getMatterType clusters :=
    getMatterType_perm hnames h pointerSize tr sort table
  unfold selectDeviceType
  rw [hguard, clustersMatchedToMatter_perm env h, htype]

/-- With the guard right, the loop body comes to a result if the checks answer. -/
theorem answers_iff_checksAnswer
    (hguard : skipsEndpoint clusters = .ok (decide (∀ entry ∈ clusters, IsAuxiliary entry))) :
    Answers (monitorEnv counts ember getAttributeTypeSize pointerSize tr sort table) clusters ↔
      ChecksAnswer (monitorEnv counts ember getAttributeTypeSize pointerSize tr sort table)
        pointerSize tr table clusters := by
  have hskips : skipsEndpoint clusters = .ok false ↔ ∃ entry ∈ clusters, ¬ IsAuxiliary entry := by
    rw [hguard, Except.ok.injEq, decide_eq_false_iff_not]
    push Not
    rfl
  have hanswers := @exists_getMatterType pointerSize tr sort table
    (buildMatterCluster getAttributeTypeSize clusters)
  constructor
  · intro h hentry hmatched
    exact hanswers.mp (h.selected (hskips.mpr hentry) hmatched)
  · intro h
    refine ⟨exists_skipsEndpoint.mp ⟨_, hguard⟩, fun hskipped hmatched => ?_⟩
    exact hanswers.mpr (h (hskips.mp hskipped) hmatched)

end Order

/-- Filtering and building an endpoint do not depend on the order of its clusters if and only if it
has clusters, and not two of which one is auxiliary, and they can be checked against the device
types. -/
theorem orderIndependent_iff (counts : EndpointCounts)
    (ember : EmberApi Table (EndpointContext (List EmberAfCluster)))
    (getAttributeTypeSize : (clusterId attributeId : ℕ) → AttrTypeSize) (pointerSize : ℕ)
    (tr : DeviceTranslator) (sort : List ClusterScore → List ClusterScore)
    (table : List (ℕ × List DeviceClusterData)) (ep : Endpoint) :
    OrderIndependent (monitorEnv counts ember getAttributeTypeSize pointerSize tr sort table)
        ep.clusters ↔
      ep.clusters ≠ [] ∧ ¬ Mixed ep.clusters ∧
        ChecksAnswer (monitorEnv counts ember getAttributeTypeSize pointerSize tr sort table)
          pointerSize tr table ep.clusters := by
  let env := monitorEnv counts ember getAttributeTypeSize pointerSize tr sort table
  have hself := List.Perm.refl ep.clusters
  rw [← and_assoc, ← skipsEndpoint_iff ep.names_nodup]
  constructor
  · intro h
    obtain ⟨r, hr⟩ := h.deviceType
    have hanswers : Answers env ep.clusters := exists_selectDeviceType.mp ⟨r, hr _ hself⟩
    exact ⟨h.guard, (answers_iff_checksAnswer (h.guard _ hself)).mp hanswers⟩
  · intro h
    obtain ⟨hguard, hchecks⟩ := h
    have hanswers := (answers_iff_checksAnswer (hguard _ hself)).mpr hchecks
    obtain ⟨r, hr⟩ := exists_selectDeviceType.mpr hanswers
    constructor
    · exact hguard
    · exact fun clusters' h => clustersMatchedToMatter_perm env h
    · refine ⟨r, fun clusters' h => ?_⟩
      have hsame := (hguard clusters' h).trans (hguard _ hself).symm
      exact (selectDeviceType_perm ep.names_nodup h hsame).trans hr
    · exact fun clusters' h => (buildMatterCluster_perm h).symm

section Example

def groupedLight : Endpoint where
  clusters := [("Groups", ⟨["NameSupport"], [], []⟩), ("OnOff", ⟨["OnOff"], ["On", "Off"], []⟩)]
  names_nodup := by simp

/-- A light with groups is skipped if its map begins with the groups. -/
theorem not_orderIndependent_groupedLight :
    ¬ ∀ (getAttributeTypeSize : (clusterId attributeId : ℕ) → AttrTypeSize) (pointerSize : ℕ)
        (tr : DeviceTranslator) (sort : List ClusterScore → List ClusterScore)
        (table : List (ℕ × List DeviceClusterData)) (ep : Endpoint),
      OrderIndependent (monitorEnv ⟨2, 257, by decide, by decide, by decide⟩ (slotTableApi _ 255)
        getAttributeTypeSize pointerSize tr sort table) ep.clusters := by
  intro h
  have hguard := (h (fun _ _ => ⟨.code 0x10, 1⟩) 8 ⟨false, fun _ => none, fun _ _ => none,
    fun _ _ => none⟩ id [] groupedLight).guard groupedLight.clusters (List.Perm.refl _)
  exact absurd hguard (by decide)

end Example

end NodeStateMonitor

end UnifyMatterBridge
