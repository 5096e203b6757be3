import UnifyMatterBridge.Endpoint.Metadata
import UnifyMatterBridge.NodeStateMonitor.Model
import Mathlib.Data.Finset.Dedup
import Mathlib.Data.Finset.Insert

/-! The clusters of a Matter endpoint id (`get_supported_cluster`): from the id to the node, and from
the node back to one of its endpoints. -/
namespace UnifyMatterBridge

/-- The endpoint that the builder hands to the stack; its count is a `uint8_t`. -/
structure EmberAfEndpointType where
  cluster : List EmberAfCluster
  clusterCount : ℕ
  count_lt : clusterCount < 256
  count_le : clusterCount ≤ cluster.length

namespace EmberAfEndpointType

def finalize (clusters : List EmberAfCluster) : EmberAfEndpointType where
  cluster := clusters
  clusterCount := clusters.length % 256
  count_lt := Nat.mod_lt _ (by omega)
  count_le := Nat.mod_le _ _

/-- The ids of the clusters that are counted. -/
def clusterIds (endpoint : EmberAfEndpointType) : Finset ℕ :=
  ((endpoint.cluster.take endpoint.clusterCount).map (·.clusterId)).toFinset

end EmberAfEndpointType

namespace NodeStateMonitor

variable {Table : Type}
  (find : Multimap.Find fun e : BridgedEndpoint EmberAfEndpointType => e.unifyUnid)
  (s : MonitorState Table EmberAfEndpointType) (endpoint : ℕ)

/-- `get_supported_cluster`; `none` where it reads a member through a null pointer. -/
def getSupportedCluster : Option (Finset ℕ) :=
  match bridgedEndpointOfMatter s endpoint with
  | none => none
  | some ep =>
    match find.find s.bridgedEndpoints ep.unifyUnid with
    | some e => some e.emberEndpoint.content.clusterIds
    | none => some ∅

/-- The ids are those of the endpoint bridged under the Matter id, and none if there is none. -/
def SupportedExactly : Prop :=
  ∃ clusters, getSupportedCluster find s endpoint = some clusters ∧
    ∀ id, id ∈ clusters ↔ ∃ e ∈ s.bridgedEndpoints, e.matterEndpoint = endpoint ∧
      id ∈ e.emberEndpoint.content.clusterIds

/-- Condition: an endpoint is bridged under the Matter id, and the entry found for its node, be it its
own or another one, has the same clusters. -/
def FoundAlike : Prop :=
  ∃ e ∈ s.bridgedEndpoints, e.matterEndpoint = endpoint ∧
    ∀ e', find.find s.bridgedEndpoints e.unifyUnid = some e' →
      e'.emberEndpoint.content.clusterIds = e.emberEndpoint.content.clusterIds

variable {find s endpoint}

section Bridged

variable {e : BridgedEndpoint EmberAfEndpointType}
  (hdistinct : (s.bridgedEndpoints.map (·.matterEndpoint)).Nodup) (he : e ∈ s.bridgedEndpoints)
  (hid : e.matterEndpoint = endpoint)

include hdistinct he hid

theorem eq_of_matterEndpoint {x : BridgedEndpoint EmberAfEndpointType}
    (hx : x ∈ s.bridgedEndpoints) (hxid : x.matterEndpoint = endpoint) : x = e :=
  List.inj_on_of_nodup_map hdistinct hx he (hxid.trans hid.symm)

theorem getSupportedCluster_of_mem : ∃ e', find.find s.bridgedEndpoints e.unifyUnid = some e' ∧
    getSupportedCluster find s endpoint = some e'.emberEndpoint.content.clusterIds := by
  have hbridged : bridgedEndpointOfMatter s endpoint = some e := by
    apply Multimap.find?_eq_of_unique he (decide_eq_true hid)
    intro x hx hxid
    exact eq_of_matterEndpoint hdistinct he hid hx (of_decide_eq_true hxid)
  unfold getSupportedCluster
  rw [hbridged]
  dsimp only
  cases hfind : find.find s.bridgedEndpoints e.unifyUnid with
  | none => exact absurd rfl (find.find_none hfind e he)
  | some e' => exact ⟨e', rfl, rfl⟩

theorem mem_clusterIds_iff (id : ℕ) :
    (∃ x ∈ s.bridgedEndpoints, x.matterEndpoint = endpoint ∧
      id ∈ x.emberEndpoint.content.clusterIds) ↔ id ∈ e.emberEndpoint.content.clusterIds := by
  constructor
  · intro h
    obtain ⟨x, hx, hxid, hcluster⟩ := h
    rwa [← eq_of_matterEndpoint hdistinct he hid hx hxid]
  · intro h
    exact ⟨e, he, hid, h⟩

theorem supportedExactly_of_get {clusters : Finset ℕ}
    (hget : getSupportedCluster find s endpoint = some clusters) :
    SupportedExactly find s endpoint ↔ clusters = e.emberEndpoint.content.clusterIds := by
  unfold SupportedExactly
  simp only [mem_clusterIds_iff hdistinct he hid]
  constructor
  · intro h
    obtain ⟨returned, hreturned, hmem⟩ := h
    rw [Option.some.inj (hget.symm.trans hreturned)]
    exact Finset.ext hmem
  · intro h
    exact ⟨clusters, hget, fun id => by rw [h]⟩

end Bridged

theorem getSupportedCluster_of_not_bridged
    (hnone : ∀ e ∈ s.bridgedEndpoints, e.matterEndpoint ≠ endpoint) :
    getSupportedCluster find s endpoint = none := by
  have hbridged : bridgedEndpointOfMatter s endpoint = none := by
    apply List.find?_eq_none.mpr
    intro e he
    simpa using hnone e he
  unfold getSupportedCluster
  rw [hbridged]

end NodeStateMonitor

/-- The clusters are exact if and only if there is an endpoint whose node is found with its clusters. -/
theorem NodeStateMonitor.supportedExactly_iff {Table : Type}
    (find : Multimap.Find fun e : BridgedEndpoint EmberAfEndpointType => e.unifyUnid)
    (s : MonitorState Table EmberAfEndpointType)
    (hdistinct : (s.bridgedEndpoints.map (·.matterEndpoint)).Nodup) (endpoint : ℕ) :
    SupportedExactly find s endpoint ↔ FoundAlike find s endpoint := by
  by_cases hbridged : ∃ e ∈ s.bridgedEndpoints, e.matterEndpoint = endpoint
  · obtain ⟨e, he, hid⟩ := hbridged
    obtain ⟨e', hfind, hget⟩ := @getSupportedCluster_of_mem _ find s endpoint e hdistinct he hid
    rw [supportedExactly_of_get hdistinct he hid hget]
    constructor
    · intro h
      refine ⟨e, he, hid, fun x hx => ?_⟩
      rw [← Option.some.inj (hfind.symm.trans hx)]
      exact h
    · intro h
      obtain ⟨x, hx, hxid, hsame⟩ := h
      rw [eq_of_matterEndpoint hdistinct he hid hx hxid] at hsame
      exact hsame e' hfind
  · have hnone : ∀ e ∈ s.bridgedEndpoints, e.matterEndpoint ≠ endpoint := by
      intro e he hid
      exact hbridged ⟨e, he, hid⟩
    refine iff_of_false ?_ ?_
    · intro h
      obtain ⟨clusters, hclusters, -⟩ := h
      rw [getSupportedCluster_of_not_bridged hnone] at hclusters
      cases hclusters
    · intro h
      obtain ⟨e, he, hid, -⟩ := h
      exact hnone e he hid

namespace NodeStateMonitor

section Example

def oneClusterEndpoint (unifyEndpoint matterEndpoint clusterId : ℕ) :
    BridgedEndpoint EmberAfEndpointType where
  unifyUnid := "zb-1"
  unifyEndpoint := ⟨unifyEndpoint % 256, Nat.mod_lt _ (by decide)⟩
  matterEndpoint := matterEndpoint
  index := matterEndpoint - 3
  matterType := 0x0100
  emberEndpoint := ⟨unifyEndpoint, .finalize [⟨clusterId, [], 0, [], []⟩]⟩
  reachable := some true

def lightAndSensor : MonitorState Unit EmberAfEndpointType where
  bridgedEndpoints := [oneClusterEndpoint 0 3 0x0006, oneClusterEndpoint 1 4 0x0406]
  lastReturnedAvailableEndpointId := 4
  ember := ()
  kvs := KeyValueStore.empty fun _ => false
  nextAllocation := 2
  calls := []

private theorem nodup_lightAndSensor :
    (lightAndSensor.bridgedEndpoints.map (·.matterEndpoint)).Nodup := by decide

/-- The light. -/
theorem supportedExactly_iff_of_light :
    SupportedExactly (Multimap.Find.first _) lightAndSensor 3 ↔
      FoundAlike (Multimap.Find.first _) lightAndSensor 3 :=
  supportedExactly_iff (Multimap.Find.first _) lightAndSensor nodup_lightAndSensor 3

/-- For the sensor the clusters of the light are returned. -/
theorem not_supportedExactly_of_sensor :
    ¬ ∀ (find : Multimap.Find fun e : BridgedEndpoint EmberAfEndpointType => e.unifyUnid)
        (s : MonitorState Unit EmberAfEndpointType) (endpoint : ℕ),
      (s.bridgedEndpoints.map (·.matterEndpoint)).Nodup → SupportedExactly find s endpoint := by
  intro h
  obtain ⟨clusters, hclusters, hmem⟩ := h (Multimap.Find.first _) lightAndSensor 4
    nodup_lightAndSensor
  have hlight : getSupportedCluster (Multimap.Find.first _) lightAndSensor 4 = some {0x0006} := by
    decide
  rw [hlight] at hclusters
  cases hclusters
  have hsensor : 0x0406 ∈ ({0x0006} : Finset ℕ) :=
    (hmem 0x0406).mpr ⟨oneClusterEndpoint 1 4 0x0406, by simp [lightAndSensor], rfl, by decide⟩
  exact absurd hsensor (by decide)

end Example

end NodeStateMonitor

end UnifyMatterBridge
