import UnifyMatterBridge.Attribute.Write
import UnifyMatterBridge.Lib.Outcome

/-! The dispatch of attributes to the emulators (`is_attribute_emulated`, `read_attribute` and
`write_attribute` of `ClusterEmulator`): where the three agree. -/
namespace UnifyMatterBridge

namespace ClusterEmulator

def readType (clusterId attributeId : ℕ) : Option IntType :=
  match clusterId, attributeId with
  | 0x0008, 0x00 | 0x0008, 0x02 | 0x0008, 0x03 => some .uint8
  | 0x0101, 0x25 | 0x0102, 0x0A | 0x0102, 0x0D => some .uint8
  | 0x0101, 0x26 | 0x0300, 0x400A => some .uint16
  | 0x0201, 0x11 | 0x0201, 0x12 => some .int16
  | 0x0403, 0x10 | 0x0403, 0x11 | 0x0403, 0x12 => some .int16
  | 0x0403, 0x14 => some .int8
  | _, _ => none

end ClusterEmulator

structure ReadableModel extends DataModel where
  readable : ∀ {clusterId attributeId t}, ClusterEmulator.readType clusterId attributeId = some t →
    ∃ info, attributeInfo clusterId attributeId = some info ∧ info.type.alternative = .int t

theorem StateCache.returns_getInt {m : DataModel} (c : StateCache m) {path : AttrPath} {t : IntType}
    (h : ∃ info, m.attributeInfo path.clusterId path.attributeId = some info ∧
      info.type.alternative = .int t) : Outcome.Returns (c.values.getInt t path) := by
  obtain ⟨info, hinfo, halternative⟩ := h
  exact AttributeCache.exists_getInt fun v hv =>
    (c.holds path info v hinfo hv).typed.trans halternative

namespace ClusterEmulator

section Dispatch

variable {Table Content : Type} (s : MonitorState Table Content) (find : ℕ → ℕ → Bool)
  (cache : AttributeCache) (path : AttrPath) (decoder : AttributeValueDecoder)

/-- `ClusterRevision`, `FeatureMap` or `EventList`, of any cluster. -/
def IsGlobal : Prop :=
  path.attributeId = clusterRevisionId ∨ path.attributeId = featureMapId ∨
    path.attributeId = eventListId

/-- An emulated attribute is read and written without an exception; a global one is not written, nor
sent by the `Write` of its cluster; for any other one that is not emulated both functions fail. -/
structure DispatchConsistent : Prop where
  read_emulated : isAttributeEmulated path = true → Outcome.Returns (readAttribute find cache path)
  write_emulated : isAttributeEmulated path = true →
    Outcome.Returns (writeAttribute cache path decoder)
  write_global : IsGlobal path →
    (∃ error, writeAttribute cache path decoder = .ok error ∧ error ≠ .noError) ∧
      ∀ a : ClusterAttributeAccess, a.clusterId = path.clusterId →
        (NodeStateMonitor.bridgedEndpointOfMatter s path.endpointId).isSome = true →
          WriteResult.Refused (a.write path decoder s cache)
  read_other : isAttributeEmulated path = false →
    ∃ error, readAttribute find cache path = .ok (.failed error) ∧ error ≠ .noError
  write_other : isAttributeEmulated path = false →
    ∃ error, writeAttribute cache path decoder = .ok error ∧ error ≠ .noError

variable {s find cache path decoder}

theorem isAttributeEmulated_of_not_global (h : ¬ IsGlobal path) :
    isAttributeEmulated path = decide (path.attributeId ∈ emulatedAttributes path.clusterId) := by
  unfold IsGlobal at h
  push Not at h
  simp [isAttributeEmulated, h.1, h.2.1, h.2.2]

theorem not_mem_emulatedAttributes_of_global (h : IsGlobal path) :
    path.attributeId ∉ emulatedAttributes path.clusterId := by
  have hglobal : ∀ clusterId, clusterRevisionId ∉ emulatedAttributes clusterId ∧
      featureMapId ∉ emulatedAttributes clusterId ∧ eventListId ∉ emulatedAttributes clusterId := by
    intro clusterId
    unfold emulatedAttributes
    split <;> decide
  obtain ⟨hrevision, hfeatures, hevents⟩ := hglobal path.clusterId
  rcases h with h | h | h
  · rw [h]
    exact hrevision
  · rw [h]
    exact hfeatures
  · rw [h]
    exact hevents

theorem isAttributeEmulated_of_global (h : IsGlobal path) : isAttributeEmulated path = true := by
  rcases h with h | h | h
  · simp [isAttributeEmulated, h]
  · simp [isAttributeEmulated, h]
  · simp [isAttributeEmulated, h]

/-- The write of a global attribute finds no emulator, and `at` throws. -/
theorem writeAttribute_of_global (h : IsGlobal path) :
    writeAttribute cache path decoder = .error .outOfRange := by
  unfold writeAttribute
  rw [if_pos (isAttributeEmulated_of_global h), if_neg (not_mem_emulatedAttributes_of_global h)]

section Typed

variable {m : ReadableModel} {c : StateCache m.toDataModel}

theorem returns_readOr {t : IntType} {absent : ReadResult} {present : ℤ → ReadResult}
    (ht : readType path.clusterId path.attributeId = some t) :
    Outcome.Returns (readOr c.values path t absent present) := by
  unfold readOr
  exact (c.returns_getInt (m.readable ht)).bind fun r => Outcome.Returns.ok _

theorem returns_readEmulator (hmem : path.attributeId ∈ emulatedAttributes path.clusterId) :
    Outcome.Returns (readEmulator c.values path) := by
  obtain ⟨endpointId, clusterId, attributeId⟩ := path
  unfold readEmulator
  dsimp only at hmem ⊢
  split
  case h_2 =>
    -- The start-up level has a reader, but is not registered.
    exact absurd hmem (by decide)
  all_goals first
    | exact Outcome.Returns.ok _
    | exact returns_readOr rfl

theorem returns_readFeatureMap : Outcome.Returns (readFeatureMap find c.values path) := by
  obtain ⟨endpointId, clusterId, attributeId⟩ := path
  have hget : ∀ {clusterId attributeId t}, readType clusterId attributeId = some t →
      Outcome.Returns (c.values.getInt t ⟨endpointId, clusterId, attributeId⟩) :=
    fun ht => c.returns_getInt (m.readable ht)
  unfold readFeatureMap
  dsimp only [sibling]
  split
  · exact (hget rfl).bind fun _ => Outcome.Returns.ok _
  · exact Outcome.Returns.ok _
  · exact Outcome.Returns.ok _
  · exact (hget rfl).bind fun _ => (hget rfl).bind fun _ => Outcome.Returns.ok _
  · exact Outcome.Returns.ok _
  · exact Outcome.Returns.ok _
  · exact (hget rfl).bind fun _ => (hget rfl).bind fun _ => (hget rfl).bind fun _ =>
      (hget rfl).bind fun _ => Outcome.Returns.ok _
  · exact Outcome.Returns.ok _

theorem returns_readAttribute (h : isAttributeEmulated path = true) :
    Outcome.Returns (readAttribute find c.values path) := by
  unfold readAttribute
  split_ifs with hrevision hfeatures hevents
  · exact Outcome.Returns.ok _
  · exact returns_readFeatureMap.bind fun _ => Outcome.Returns.ok _
  · exact Outcome.Returns.ok _
  · have hglobal : ¬ IsGlobal path := by
      simp [IsGlobal, hrevision, hfeatures, hevents]
    rw [isAttributeEmulated_of_not_global hglobal] at h
    exact returns_readEmulator (of_decide_eq_true h)

/-- The setpoints of a thermostat are checked against limits that are got with their types. -/
theorem returns_thermostat (hcluster : path.clusterId = 0x0201) :
    Outcome.Returns (EmulateThermostat.writeAttribute c.values path decoder) := by
  obtain ⟨endpointId, clusterId, attributeId⟩ := path
  have hget : ∀ {attributeId}, emulatorType clusterId attributeId = some .int16 →
      Outcome.Returns (c.values.getInt .int16 ⟨endpointId, clusterId, attributeId⟩) :=
    fun ht => c.returns_getInt (m.emulated ht)
  have hcheck : ∀ setpoint, emulatorType clusterId setpoint.minLimit = some .int16 →
      emulatorType clusterId setpoint.maxLimit = some .int16 →
      Outcome.Returns (EmulateThermostat.checkLimits c.values ⟨endpointId, clusterId, attributeId⟩
        decoder setpoint) := by
    intro setpoint hmin hmax
    unfold EmulateThermostat.checkLimits
    split_ifs
    · exact Outcome.Returns.ok _
    · exact (hget hmin).bind fun _ => (hget hmax).bind fun _ => Outcome.Returns.ok _
  dsimp only at hcluster
  subst hcluster
  unfold EmulateThermostat.writeAttribute
  split
  · exact hcheck _ rfl rfl
  · exact hcheck _ rfl rfl
  · exact Outcome.Returns.ok _

theorem returns_writeAttribute (h : ¬ IsGlobal path) :
    Outcome.Returns (writeAttribute c.values path decoder) := by
  unfold writeAttribute
  split_ifs with hemulated hmem
  · split
    · next hcluster => exact returns_thermostat hcluster
    · exact Outcome.Returns.ok _
  · rw [isAttributeEmulated_of_not_global h] at hemulated
    exact absurd (of_decide_eq_true hemulated) hmem
  · exact Outcome.Returns.ok _

end Typed

theorem readAttribute_of_not_emulated (h : isAttributeEmulated path = false) :
    readAttribute find cache path = .ok (.failed .invalidArgument) := by
  have hglobal : ¬ IsGlobal path := by
    intro hglobal
    rw [isAttributeEmulated_of_global hglobal] at h
    cases h
  unfold IsGlobal at hglobal
  push Not at hglobal
  unfold readAttribute
  rw [if_neg hglobal.1, if_neg hglobal.2.1, if_neg hglobal.2.2, h]
  rfl

theorem writeAttribute_of_not_emulated (h : isAttributeEmulated path = false) :
    writeAttribute cache path decoder = .ok .notImplemented := by
  unfold writeAttribute
  rw [h]
  rfl

end Dispatch

/-- The dispatch is consistent for an attribute if and only if this is no global one. -/
theorem dispatchConsistent_iff {Table Content : Type} {m : ReadableModel}
    (s : MonitorState Table Content) (find : ℕ → ℕ → Bool) (cache : StateCache m.toDataModel)
    (path : AttrPath) (decoder : AttributeValueDecoder) :
    DispatchConsistent s find cache.values path decoder ↔ ¬ IsGlobal path := by
  constructor
  · intro h hglobal
    obtain ⟨error, herror⟩ := h.write_emulated (isAttributeEmulated_of_global hglobal)
    rw [writeAttribute_of_global hglobal] at herror
    cases herror
  · intro hglobal
    constructor
    · exact returns_readAttribute
    · exact fun _ => returns_writeAttribute hglobal
    · exact fun h => absurd h hglobal
    · exact fun h => ⟨_, readAttribute_of_not_emulated h, by decide⟩
    · exact fun h => ⟨_, writeAttribute_of_not_emulated h, by decide⟩

section Example

def readableModel : ReadableModel where
  toDataModel := { homeModel with
    attributeInfo := fun clusterId attributeId =>
      match homeModel.attributeInfo clusterId attributeId with
      | some info => some info
      | none => (readType clusterId attributeId).map fun t => ⟨.int t, true, true⟩
    emulated := by
      intro clusterId attributeId t h
      obtain ⟨info, hinfo, halternative⟩ := homeModel.emulated h
      exact ⟨info, by rw [hinfo], halternative⟩
    operationalStatus := by
      obtain ⟨b, hb⟩ := homeModel.operationalStatus
      exact ⟨b, by rw [hb]⟩
    lift := rfl
    liftPercentage := rfl }
  readable := by
    intro clusterId attributeId t h
    unfold readType at h
    split at h
    all_goals first
      | cases h
        exact ⟨_, rfl, rfl⟩
      | cases h

/-- Writing the feature map throws. -/
theorem not_dispatchConsistent_of_featureMap :
    ¬ ∀ (m : ReadableModel) (s : MonitorState (List ℕ) Unit) (find : ℕ → ℕ → Bool)
        (cache : StateCache m.toDataModel) (path : AttrPath) (decoder : AttributeValueDecoder),
      DispatchConsistent s find cache.values path decoder := by
  intro h
  have hconsistent := h readableModel ⟨[], 2, [], KeyValueStore.empty fun _ => false, 0, []⟩
    (fun _ _ => true) (StateCache.empty _) ⟨3, 0x0006, featureMapId⟩ ⟨.noError, .number 1⟩
  have hglobal : IsGlobal ⟨3, 0x0006, featureMapId⟩ := Or.inr (Or.inl rfl)
  obtain ⟨⟨error, hwrite, -⟩, -⟩ := hconsistent.write_global hglobal
  rw [writeAttribute_of_global hglobal] at hwrite
  cases hwrite

end Example

end ClusterEmulator

end UnifyMatterBridge
