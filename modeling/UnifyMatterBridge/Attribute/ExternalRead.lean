import UnifyMatterBridge.Attribute.Cache
import UnifyMatterBridge.Endpoint.Builder

/-! Reading attributes with external storage behind the access interfaces
(`emberAfExternalAttributeReadCallback`): where the bytes come from, and how many are copied. -/
namespace UnifyMatterBridge

/-- What is copied to the buffer: an identify time that is cached or the default one, a `uint16_t`, or
the union that holds the default value. -/
inductive CopySource where
  | cachedIdentifyTime (value : ℤ)
  | defaultIdentifyTime (value : ℕ)
  | defaultValue (value : ℕ)
  deriving DecidableEq

def CopySource.size (unionSize : ℕ) : CopySource → ℕ
  | .cachedIdentifyTime _ | .defaultIdentifyTime _ => 2
  | .defaultValue _ => unionSize

structure BufferCopy where
  source : CopySource
  length : ℕ

namespace ExternalRead

def identifyId : ℕ := 0x0003
def identifyTimeId : ℕ := 0x0000

variable (unionSize : ℕ) (cache : AttributeCache) (endpoint clusterId : ℕ)
  (attributeMetadata : EmberAfAttributeMetadata) (maxReadLength : ℕ)

/-- `maxReadLength` is not looked at. -/
def emberAfExternalAttributeReadCallback (_maxReadLength : ℕ) : Except CxxException BufferCopy :=
  if attributeMetadata.attributeId = identifyTimeId then do
    match ← cache.getInt .uint16 ⟨endpoint, clusterId, attributeMetadata.attributeId⟩ with
    | some identifyTime => return ⟨.cachedIdentifyTime identifyTime, attributeMetadata.size⟩
    | none =>
      return ⟨.defaultIdentifyTime (attributeMetadata.defaultValue % 65536), attributeMetadata.size⟩
  else .ok ⟨.defaultValue attributeMetadata.defaultValue, attributeMetadata.size⟩

/-- No exception; a cached value for the identify time only; and neither more bytes than may be read
nor more than there are. -/
def BoundedAndSpecific : Prop :=
  ∃ copy, emberAfExternalAttributeReadCallback cache endpoint clusterId attributeMetadata
      maxReadLength = .ok copy ∧
    (∀ value, copy.source = .cachedIdentifyTime value →
      clusterId = identifyId ∧ attributeMetadata.attributeId = identifyTimeId) ∧
    copy.length ≤ maxReadLength ∧ copy.length ≤ copy.source.size unionSize

/-- What the cache may hold for an attribute 0: a `uint16_t` if this is the identify time, and nothing
for any other cluster. -/
def CacheFits : Prop :=
  match cache ⟨endpoint, clusterId, identifyTimeId⟩ with
  | none => True
  | some value => clusterId = identifyId ∧ value.alternative = .int .uint16

/-- Condition: the size of the attribute is within the length, and within the object copied from, which
is a `uint16_t` for every attribute 0; and the cache fits. -/
def WithinBounds : Prop :=
  attributeMetadata.size ≤ maxReadLength ∧
    if attributeMetadata.attributeId = identifyTimeId then
      attributeMetadata.size ≤ 2 ∧ CacheFits cache endpoint clusterId
    else attributeMetadata.size ≤ unionSize

variable {unionSize cache endpoint clusterId attributeMetadata maxReadLength}

/-- What the callback does for an attribute 0, by what the cache holds. -/
theorem callback_cases (h : attributeMetadata.attributeId = identifyTimeId) :
    (cache ⟨endpoint, clusterId, identifyTimeId⟩ = none ∧
        emberAfExternalAttributeReadCallback cache endpoint clusterId attributeMetadata
            maxReadLength =
          .ok ⟨.defaultIdentifyTime (attributeMetadata.defaultValue % 65536),
            attributeMetadata.size⟩) ∨
      (∃ n, cache ⟨endpoint, clusterId, identifyTimeId⟩ = some (.int .uint16 n) ∧
        emberAfExternalAttributeReadCallback cache endpoint clusterId attributeMetadata
            maxReadLength = .ok ⟨.cachedIdentifyTime n, attributeMetadata.size⟩) ∨
      ∃ value, cache ⟨endpoint, clusterId, identifyTimeId⟩ = some value ∧
        value.alternative ≠ .int .uint16 ∧
        emberAfExternalAttributeReadCallback cache endpoint clusterId attributeMetadata
          maxReadLength = .error .badVariantAccess := by
  unfold emberAfExternalAttributeReadCallback AttributeCache.getInt
  rw [if_pos h, h]
  cases cache ⟨endpoint, clusterId, identifyTimeId⟩ with
  | none => exact Or.inl ⟨rfl, rfl⟩
  | some value =>
    right
    cases value with
    | int t n =>
      by_cases ht : t = .uint16
      · subst ht
        exact Or.inl ⟨n, rfl, rfl⟩
      · refine Or.inr ⟨_, rfl, fun heq => ht (Alternative.int.inj heq), ?_⟩
        dsimp only
        rw [if_neg ht]
        rfl
    | bool b => exact Or.inr ⟨_, rfl, by simp [CacheValue.alternative], rfl⟩
    | float q => exact Or.inr ⟨_, rfl, by simp [CacheValue.alternative], rfl⟩
    | string t => exact Or.inr ⟨_, rfl, by simp [CacheValue.alternative], rfl⟩
    | chars b => exact Or.inr ⟨_, rfl, by simp [CacheValue.alternative], rfl⟩
    | bytes b => exact Or.inr ⟨_, rfl, by simp [CacheValue.alternative], rfl⟩

theorem boundedAndSpecific_of_ok {copy : BufferCopy}
    (h : emberAfExternalAttributeReadCallback cache endpoint clusterId attributeMetadata
      maxReadLength = .ok copy) :
    BoundedAndSpecific unionSize cache endpoint clusterId attributeMetadata maxReadLength ↔
      (∀ value, copy.source = .cachedIdentifyTime value →
        clusterId = identifyId ∧ attributeMetadata.attributeId = identifyTimeId) ∧
      copy.length ≤ maxReadLength ∧ copy.length ≤ copy.source.size unionSize := by
  unfold BoundedAndSpecific
  rw [h]
  constructor
  · intro hexists
    obtain ⟨copy', hcopy, hbounds⟩ := hexists
    cases hcopy
    exact hbounds
  · exact fun hbounds => ⟨copy, rfl, hbounds⟩

theorem not_boundedAndSpecific_of_error {e : CxxException}
    (h : emberAfExternalAttributeReadCallback cache endpoint clusterId attributeMetadata
      maxReadLength = .error e) :
    ¬ BoundedAndSpecific unionSize cache endpoint clusterId attributeMetadata maxReadLength := by
  intro hbounded
  obtain ⟨copy, hcopy, -⟩ := hbounded
  rw [h] at hcopy
  cases hcopy

theorem boundedAndSpecific_of_attribute_zero
    (h : attributeMetadata.attributeId = identifyTimeId) :
    BoundedAndSpecific unionSize cache endpoint clusterId attributeMetadata maxReadLength ↔
      attributeMetadata.size ≤ maxReadLength ∧ attributeMetadata.size ≤ 2 ∧
        CacheFits cache endpoint clusterId := by
  unfold CacheFits
  rcases @callback_cases cache endpoint clusterId attributeMetadata maxReadLength h with
    ⟨hcache, hcall⟩ | ⟨n, hcache, hcall⟩ | ⟨value, hcache, hother, hcall⟩
  · rw [boundedAndSpecific_of_ok hcall, hcache]
    simp [CopySource.size]
  · rw [boundedAndSpecific_of_ok hcall, hcache]
    simp only [CopySource.size, CopySource.cachedIdentifyTime.injEq, forall_eq', h, and_true,
      CacheValue.alternative]
    rw [and_comm, and_assoc]
  · rw [hcache]
    exact iff_of_false (not_boundedAndSpecific_of_error hcall) fun hfits => hother hfits.2.2.2

end ExternalRead

/-- A read is bounded and specific if and only if the sizes and the cache fit. -/
theorem ExternalRead.boundedAndSpecific_iff (unionSize : ℕ) (cache : AttributeCache)
    (endpoint clusterId : ℕ) (attributeMetadata : EmberAfAttributeMetadata) (maxReadLength : ℕ) :
    BoundedAndSpecific unionSize cache endpoint clusterId attributeMetadata maxReadLength ↔
      WithinBounds unionSize cache endpoint clusterId attributeMetadata maxReadLength := by
  unfold WithinBounds
  by_cases hzero : attributeMetadata.attributeId = identifyTimeId
  · rw [boundedAndSpecific_of_attribute_zero hzero, if_pos hzero]
  · have hcall : emberAfExternalAttributeReadCallback cache endpoint clusterId attributeMetadata
        maxReadLength = .ok ⟨.defaultValue attributeMetadata.defaultValue,
          attributeMetadata.size⟩ := if_neg hzero
    rw [boundedAndSpecific_of_ok hcall, if_neg hzero]
    simp [CopySource.size]

namespace ExternalRead

section Example

def onOffCluster : String × Cluster := ("OnOff", ⟨["OnOff"], [], []⟩)

def booleanSize (_clusterId _attributeId : ℕ) : AttrTypeSize := ⟨.boolean, 1⟩

/-- The read of the attribute 0 of a light whose value is cached throws. -/
theorem not_boundedAndSpecific_of_onOff :
    ¬ ∀ (clusters : List (String × Cluster)) (c : EmberAfCluster)
        (attributeMetadata : EmberAfAttributeMetadata) (cache : AttributeCache)
        (endpoint maxReadLength : ℕ),
      c ∈ ClusterInteractor.buildMatterCluster booleanSize clusters →
      attributeMetadata ∈ c.attributes →
      BoundedAndSpecific 8 cache endpoint c.clusterId attributeMetadata maxReadLength := by
  intro h
  have hbounded := h [onOffCluster]
    ⟨0x0006, [⟨0, 0x00, 1, .boolean, true, true⟩, ⟨0, 0xFFFC, 4, .bitmap32, true, false⟩,
      ⟨0, 0xFFFD, 2, .int16u, true, false⟩, ⟨0, 0xFFFA, 4, .eventId, true, false⟩], 4,
      [kInvalidCommandId], [kInvalidCommandId]⟩
    ⟨0, 0x00, 1, .boolean, true, true⟩
    (AttributeCache.empty.set ⟨3, 0x0006, 0x00⟩ (.bool true)) 3 1 (by decide) (by decide)
  exact not_boundedAndSpecific_of_error rfl hbounded

end Example

end ExternalRead

end UnifyMatterBridge
