import UnifyMatterBridge.NodeStateMonitor.SupportedClusters

/-! The storage for data versions that an endpoint is registered with (`data_version_span`). -/
namespace UnifyMatterBridge

/-- `chip::Span`: elements in memory, and how many of them it is said to have. -/
structure Span (α : Type) where
  data : List α
  size : ℕ

/-- `matter_endpoint_context` with the storage that it owns. -/
structure MatterEndpointContext extends EndpointContext EmberAfEndpointType where
  dataVersions : List ℕ

namespace MatterEndpointContext

def ofBuilt (context : EndpointContext EmberAfEndpointType) : MatterEndpointContext :=
  { context with dataVersions := [] }

section Definitions

variable (sizeofDataVersion : ℕ)

/-- A version is appended for each cluster. The size is that of all versions in bytes. -/
def dataVersionSpan (context : MatterEndpointContext) : MatterEndpointContext × Span ℕ :=
  let versions := context.dataVersions ++ List.replicate context.content.clusterCount 0
  ({ context with dataVersions := versions }, ⟨versions, versions.length * sizeofDataVersion⟩)

def afterCalls (context : MatterEndpointContext) : ℕ → MatterEndpointContext
  | 0 => context
  | calls + 1 => (dataVersionSpan sizeofDataVersion (afterCalls context calls)).1

/-- The context and the span that a call leaves: every cluster has an element, and every element is
one of the versions that are stored. -/
structure Covered (result : MatterEndpointContext × Span ℕ) : Prop where
  clusters : result.1.content.clusterCount ≤ result.2.size
  stored : result.2.size ≤ result.1.dataVersions.length
  access : ∀ i < result.2.size, ∃ version, result.2.data[i]? = some version

end Definitions

variable {sizeofDataVersion : ℕ} (context : MatterEndpointContext)

@[simp] theorem content_dataVersionSpan :
    (dataVersionSpan sizeofDataVersion context).1.content = context.content := rfl

@[simp] theorem size_dataVersionSpan : (dataVersionSpan sizeofDataVersion context).2.size =
    (dataVersionSpan sizeofDataVersion context).1.dataVersions.length * sizeofDataVersion := rfl

theorem length_dataVersionSpan :
    (dataVersionSpan sizeofDataVersion context).1.dataVersions.length =
      context.dataVersions.length + context.content.clusterCount := by
  unfold dataVersionSpan
  rw [List.length_append, List.length_replicate]

theorem content_afterCalls (calls : ℕ) :
    (afterCalls sizeofDataVersion context calls).content = context.content := by
  induction calls with
  | zero => rfl
  | succ calls ih =>
    rw [afterCalls, content_dataVersionSpan]
    exact ih

theorem length_afterCalls (calls : ℕ) :
    (afterCalls sizeofDataVersion context calls).dataVersions.length =
      context.dataVersions.length + calls * context.content.clusterCount := by
  induction calls with
  | zero => rw [afterCalls, Nat.zero_mul, Nat.add_zero]
  | succ calls ih =>
    rw [afterCalls, length_dataVersionSpan, ih, content_afterCalls, Nat.succ_mul, Nat.add_assoc]

/-- What is spanned after a call is stored if and only if the bytes are no more than the versions. -/
theorem covered_dataVersionSpan : Covered (dataVersionSpan sizeofDataVersion context) ↔
    let stored := context.dataVersions.length + context.content.clusterCount
    context.content.clusterCount ≤ stored * sizeofDataVersion ∧
      stored * sizeofDataVersion ≤ stored := by
  dsimp only
  rw [← @length_dataVersionSpan sizeofDataVersion context]
  constructor
  · intro h
    exact ⟨h.clusters, h.stored⟩
  · intro h
    obtain ⟨hclusters, hstored⟩ := h
    refine ⟨hclusters, hstored, fun i hi => ?_⟩
    rw [size_dataVersionSpan] at hi
    have hlt : i < (dataVersionSpan sizeofDataVersion context).1.dataVersions.length := by omega
    exact ⟨_, List.getElem?_eq_getElem hlt⟩

/-- A call on a context that has been built, after any number of other calls: the span is covered if
and only if there is no cluster, or a version is a single byte. -/
theorem dataVersionSpan_covered_iff (sizeofDataVersion : ℕ)
    (built : EndpointContext EmberAfEndpointType) (calls : ℕ) :
    Covered (dataVersionSpan sizeofDataVersion
        (afterCalls sizeofDataVersion (ofBuilt built) calls)) ↔
      built.content.clusterCount = 0 ∨ sizeofDataVersion = 1 := by
  rw [covered_dataVersionSpan, length_afterCalls, content_afterCalls]
  have hempty : (ofBuilt built).dataVersions.length = 0 := rfl
  have hcontent : (ofBuilt built).content = built.content := rfl
  rw [hempty, hcontent, Nat.zero_add]
  dsimp only
  constructor
  · intro h
    obtain ⟨hclusters, hstored⟩ := h
    by_contra hneither
    push Not at hneither
    obtain ⟨hsome, hsize⟩ := hneither
    have hpos : 0 < calls * built.content.clusterCount + built.content.clusterCount := by omega
    have hle : sizeofDataVersion ≤ 1 := by
      rw [← Nat.mul_le_mul_left_iff hpos, Nat.mul_one]
      exact hstored
    have hzero : sizeofDataVersion = 0 := by omega
    rw [hzero, Nat.mul_zero] at hclusters
    omega
  · intro h
    cases h with
    | inl hnone => simp [hnone]
    | inr hbyte =>
      rw [hbyte, Nat.mul_one]
      exact ⟨Nat.le_add_left _ _, Nat.le_refl _⟩

section Example

/-- An endpoint with an `OnOff` cluster has a single version, and the span has four elements. -/
theorem not_dataVersionSpan_covered_of_onOff :
    ¬ ∀ (built : EndpointContext EmberAfEndpointType) (calls : ℕ),
      Covered (dataVersionSpan 4 (afterCalls 4 (ofBuilt built) calls)) := by
  intro h
  have hcovered := h ⟨0, .finalize [⟨0x0006, [], 0, [], []⟩]⟩ 0
  exact absurd hcovered.stored (by decide)

end Example

end MatterEndpointContext

end UnifyMatterBridge
