import UnifyMatterBridge.Lib.NameTable
import UnifyMatterBridge.Bridge.NonInterference
import UnifyMatterBridge.Command.Setpoint

/-! What a write does: a value that does not decode is sent all the same unless an emulator looks at
it first, and a setpoint is sent if it is within its limits. -/
namespace UnifyMatterBridge

namespace ClusterAttributeAccess

variable {Table Content : Type} {s : MonitorState Table Content} {cache : AttributeCache}
  {a : ClusterAttributeAccess} {path : AttrPath} {decoder : AttributeValueDecoder} {name : String}

/-- A write for a bridged endpoint passes the emulator, if there is one, and reaches the switch. -/
theorem write_of_bridged {e : BridgedEndpoint Content} (hcluster : path.clusterId = a.clusterId)
    (hb : NodeStateMonitor.bridgedEndpointOfMatter s path.endpointId = some e) :
    a.write path decoder s cache =
      if ClusterEmulator.isAttributeEmulated path then do
        match ← ClusterEmulator.writeAttribute cache path decoder with
        | .inProgress => a.writeSwitch path decoder e.address
        | error => return .failed error
      else a.writeSwitch path decoder e.address := by
  unfold write
  refine (if_neg (not_not.mpr hcluster)).trans ?_
  generalize NodeStateMonitor.bridgedEndpointOfMatter s path.endpointId = found at hb ⊢
  subst hb
  rfl

theorem not_refused_writeSwitch {address : String × ℕ}
    (hwritable : (path.attributeId, name) ∈ writableAttributes a.clusterId) :
    ¬ WriteResult.Refused (a.writeSwitch path decoder address) := by
  rintro ⟨error, hwrite, hne⟩
  obtain ⟨name', hname⟩ := NameTable.lookup_isSome_of_mem hwritable
  unfold writeSwitch at hwrite
  rw [hname] at hwrite
  dsimp only at hwrite
  cases hdump : (Json.null.setField name' decoder.value.toJson).dump with
  | error e =>
    rw [hdump] at hwrite
    cases hwrite
  | ok message =>
    rw [hdump] at hwrite
    cases hwrite

theorem writable_ne_global (clusterId : ℕ) :
    ∀ p ∈ writableAttributes clusterId, p.1 ≠ ClusterEmulator.clusterRevisionId ∧
      p.1 ≠ ClusterEmulator.featureMapId ∧ p.1 ≠ ClusterEmulator.eventListId := by
  unfold writableAttributes
  split <;> decide

theorem isAttributeEmulated_of_writable
    (hwritable : (path.attributeId, name) ∈ writableAttributes a.clusterId) :
    ClusterEmulator.isAttributeEmulated path = true ↔
      path.attributeId ∈ ClusterEmulator.emulatedAttributes path.clusterId := by
  obtain ⟨hrevision, hfeatures, hevents⟩ := writable_ne_global a.clusterId _ hwritable
  simp [ClusterEmulator.isAttributeEmulated, hrevision, hfeatures, hevents]

/-- The thermostat passes on that a value does not decode; the other emulators write nothing. -/
theorem writeAttribute_of_error
    (hwritable : (path.attributeId, name) ∈ writableAttributes a.clusterId)
    (hemulated : ClusterEmulator.isAttributeEmulated path = true)
    (herror : decoder.error ≠ .noError) :
    ClusterEmulator.writeAttribute cache path decoder =
      .ok (if path.clusterId = 0x0201 then decoder.error else .notImplemented) := by
  have hmem := (isAttributeEmulated_of_writable hwritable).mp hemulated
  unfold ClusterEmulator.writeAttribute
  rw [if_pos hemulated, if_pos hmem]
  by_cases hthermostat : path.clusterId = 0x0201
  · rw [hthermostat] at hmem ⊢
    simp only [ClusterEmulator.emulatedAttributes, List.mem_cons, List.not_mem_nil, or_false] at hmem
    have hcheck : ∀ setpoint, EmulateThermostat.checkLimits cache path decoder setpoint =
        .ok decoder.error := fun setpoint => if_pos herror
    rcases hmem with hid | hid
    · simp only [EmulateThermostat.writeAttribute, hid, hcheck, if_true]
    · simp only [EmulateThermostat.writeAttribute, hid, hcheck, if_true]
  · rw [if_neg hthermostat]
    split
    · exact absurd ‹_› hthermostat
    · rfl

/-- A value that does not decode is refused if and only if the attribute is emulated, for an
endpoint that is bridged. -/
theorem write_undecodable_iff (s : MonitorState Table Content) (cache : AttributeCache)
    (hcluster : path.clusterId = a.clusterId)
    (hwritable : (path.attributeId, name) ∈ writableAttributes a.clusterId)
    (herror : decoder.error ≠ .noError) :
    WriteResult.Refused (a.write path decoder s cache) ↔
      (NodeStateMonitor.bridgedEndpointOfMatter s path.endpointId).isSome = true ∧
        ClusterEmulator.isAttributeEmulated path = true ∧
        (path.clusterId = 0x0201 → decoder.error ≠ .inProgress) := by
  have hanswer : ∀ address (error : ChipError), error ≠ .noError → (WriteResult.Refused (match error with
      | .inProgress => a.writeSwitch path decoder address
      | error => .ok (.failed error)) ↔ error ≠ .inProgress) := by
    intro address error hne
    by_cases hprogress : error = .inProgress
    · rw [hprogress]
      exact iff_of_false (not_refused_writeSwitch hwritable) (not_not.mpr rfl)
    · refine iff_of_true ⟨error, ?_, hne⟩ hprogress
      cases error <;> first | rfl | exact absurd rfl hprogress
  cases hb : NodeStateMonitor.bridgedEndpointOfMatter s path.endpointId with
  | none =>
    have hnone : a.write path decoder s cache = .ok ⟨.noError, none⟩ := by
      unfold write
      rw [if_neg (not_not.mpr hcluster), hb]
    rw [hnone]
    refine iff_of_false ?_ (fun h => Bool.false_ne_true h.1)
    rintro ⟨error, heq, hne⟩
    cases heq
    exact hne rfl
  | some e =>
    rw [write_of_bridged hcluster hb]
    by_cases hemulated : ClusterEmulator.isAttributeEmulated path = true
    · rw [if_pos hemulated, writeAttribute_of_error hwritable hemulated herror]
      have hne : (if path.clusterId = 0x0201 then decoder.error else .notImplemented) ≠
          ChipError.noError := by
        split_ifs
        · exact herror
        · decide
      refine (hanswer e.address _ hne).trans ?_
      simp only [Option.isSome_some, hemulated, true_and]
      split_ifs with hthermostat <;> simp [hthermostat]
    · rw [if_neg hemulated]
      exact iff_of_false (not_refused_writeSwitch hwritable) (fun h => hemulated h.2.1)

def thermostat : ClusterAttributeAccess := ⟨0x0201, "Thermostat"⟩

/-- A text for a heating setpoint. -/
theorem write_undecodable_setpoint :
    WriteResult.Refused (thermostat.write ⟨2, 0x0201, 0x12⟩ ⟨.wrongTlvType, .number 0⟩
      NodeStateMonitor.oneNode AttributeCache.empty) :=
  (@write_undecodable_iff _ _ thermostat ⟨2, 0x0201, 0x12⟩ ⟨.wrongTlvType, .number 0⟩
    "OccupiedHeatingSetpoint" NodeStateMonitor.oneNode AttributeCache.empty rfl (by decide)
    (by decide)).mpr ⟨by decide, by decide, fun _ => by decide⟩

/-- A text for the time that a light is on is sent as the time that it may have been before. -/
theorem not_refused_undecodable_onTime :
    ¬ ∀ (s : MonitorState (SlotTable (EndpointContext (List (String × Cluster))))
          (List (String × Cluster))) (cache : AttributeCache) (a : ClusterAttributeAccess)
        (path : AttrPath) (decoder : AttributeValueDecoder) (name : String),
      (NodeStateMonitor.bridgedEndpointOfMatter s path.endpointId).isSome = true →
      path.clusterId = a.clusterId → (path.attributeId, name) ∈ writableAttributes a.clusterId →
      decoder.error ≠ .noError → WriteResult.Refused (a.write path decoder s cache) := by
  intro h
  obtain ⟨error, hwrite, -⟩ := h NodeStateMonitor.oneNode AttributeCache.empty ⟨0x0006, "OnOff"⟩
    ⟨2, 0x0006, 0x4001⟩ ⟨.wrongTlvType, .number 0⟩ "OnTime" (by decide) rfl (by decide) (by decide)
  cases hwrite

end ClusterAttributeAccess

namespace EmulateThermostat

def Setpoint.name (s : Setpoint) : String :=
  if s.occupied = 0x12 then "OccupiedHeatingSetpoint" else "OccupiedCoolingSetpoint"

variable {s : Setpoint} {endpointId : ℕ} {decoder : AttributeValueDecoder} {v : ℤ}

theorem writeAttribute_of_number (hs : s = heating ∨ s = cooling) (c : TypedCache)
    (herror : decoder.error = .noError) (hvalue : decoder.value = .number v) :
    ClusterEmulator.writeAttribute c.values (attrPath endpointId s.occupied) decoder =
      .ok (if s.minLimitIn c endpointId ≤ v ∧ v ≤ s.maxLimitIn c endpointId then .inProgress
        else .constraintError) := by
  have hnumber : decoder.number = v := by simp [AttributeValueDecoder.number, hvalue]
  have hcheck : checkLimits c.values (attrPath endpointId s.occupied) decoder s =
      .ok (if s.minLimitIn c endpointId ≤ v ∧ v ≤ s.maxLimitIn c endpointId then .inProgress
        else .constraintError) := by
    have hmin := getInt_setpoint c hs endpointId (Or.inr (Or.inl rfl))
    have hmax := getInt_setpoint c hs endpointId (Or.inr (Or.inr rfl))
    have houtside : v < s.minLimitIn c endpointId ∨ v > s.maxLimitIn c endpointId ↔
        ¬ (s.minLimitIn c endpointId ≤ v ∧ v ≤ s.maxLimitIn c endpointId) := by omega
    simp only [checkLimits, herror, ne_eq, not_true_eq_false, if_false, attrPath, hmin, hmax,
      hnumber]
    change Except.ok (if v < s.minLimitIn c endpointId ∨ v > s.maxLimitIn c endpointId
      then ChipError.constraintError else .inProgress) = _
    simp only [houtside, ite_not]
  rcases hs with rfl | rfl
  · exact hcheck
  · exact hcheck

end EmulateThermostat

namespace Bridge

open EmulateThermostat

variable {Table Content P : Type} (env : BridgeEnv Table Content P)
  (monitor : MonitorState Table Content) (c : TypedCache) (pending : PendingTable) (now : ℤ)

/-- A setpoint is sent as it was written if it is within its limits, and rejected otherwise; nothing
is cached. -/
theorem write_setpoint {s : Setpoint} (hs : s = heating ∨ s = cooling) {endpointId : ℕ}
    {e : BridgedEndpoint Content}
    (hb : NodeStateMonitor.bridgedEndpointOfMatter monitor endpointId = some e)
    {decoder : AttributeValueDecoder} (herror : decoder.error = .noError) {v : ℤ}
    (hvalue : decoder.value = .number v) :
    let before : BridgeState Table Content := ⟨monitor, c.values, pending, now⟩
    let ev : Event P :=
      .write ClusterAttributeAccess.thermostat (attrPath endpointId s.occupied) decoder
    observe env before ev = .write (.ok
        (if s.minLimitIn c endpointId ≤ v ∧ v ≤ s.maxLimitIn c endpointId then
          ⟨.noError, some (unidTopic e.unifyUnid e.unifyEndpoint ++ "/" ++ "Thermostat" ++
            "/Commands/WriteAttributes", .object [(s.name, .integer v)])⟩
        else .failed .constraintError)) ∧
      (step env before ev).cache = before.cache := by
  intro before ev
  refine ⟨?_, rfl⟩
  have hcheck := @writeAttribute_of_number s endpointId decoder v hs c herror hvalue
  have hemulated : ClusterEmulator.isAttributeEmulated (attrPath endpointId s.occupied) = true := by
    rcases hs with rfl | rfl <;> rfl
  have hswitch : ClusterAttributeAccess.thermostat.writeSwitch (attrPath endpointId s.occupied)
      decoder e.address = .ok ⟨.noError, some (unidTopic e.unifyUnid e.unifyEndpoint ++ "/" ++
        "Thermostat" ++ "/Commands/WriteAttributes", .object [(s.name, .integer v)])⟩ := by
    have hlookup : (ClusterAttributeAccess.writableAttributes 0x0201).lookup s.occupied =
        some s.name := by
      rcases hs with rfl | rfl <;> rfl
    simp only [ClusterAttributeAccess.writeSwitch, ClusterAttributeAccess.thermostat, attrPath,
      hlookup, hvalue]
    rfl
  have hobserve : observe env before ev = .write (ClusterAttributeAccess.thermostat.write
      (attrPath endpointId s.occupied) decoder monitor c.values) := rfl
  rw [hobserve, ClusterAttributeAccess.write_of_bridged rfl hb, if_pos hemulated, hcheck]
  split_ifs with hwithin
  · exact congrArg Observation.write hswitch
  · rfl

/-- A heating setpoint of 21 °C. -/
theorem write_setpoint_twentyOne :
    let decoder : AttributeValueDecoder := ⟨.noError, .number 2100⟩
    let before : BridgeState _ _ :=
      ⟨NodeStateMonitor.oneNode, (heatedTo 2000 (by decide)).typed.values, fun _ => none, 0⟩
    let ev := Event.write ClusterAttributeAccess.thermostat (attrPath 2 heating.occupied) decoder
    ∃ e, NodeStateMonitor.bridgedEndpointOfMatter NodeStateMonitor.oneNode 2 = some e ∧
      observe homeEnv before ev = .write (.ok ⟨.noError, some (unidTopic e.unifyUnid
        e.unifyEndpoint ++ "/" ++ "Thermostat" ++ "/Commands/WriteAttributes",
        .object [("OccupiedHeatingSetpoint", .integer 2100)])⟩) ∧
      (step homeEnv before ev).cache = before.cache := by
  intro decoder before ev
  refine ⟨_, rfl, ?_⟩
  exact write_setpoint homeEnv NodeStateMonitor.oneNode (heatedTo 2000 (by decide)).typed
    (fun _ => none) 0 (Or.inl rfl) rfl (rfl : decoder.error = .noError) rfl

end Bridge

end UnifyMatterBridge
