import UnifyMatterBridge.Command.Response
import UnifyMatterBridge.Endpoint.Metadata
import UnifyMatterBridge.Lib.NameTable

/-! The generated maps from the names of the Unify data model to Matter ids (`matter_device_mapper`),
cluster by cluster, and the lookups of `device_translator` in them. -/
namespace UnifyMatterBridge

def basicAttributeIdMap : List (String × ℕ) :=
  [("PhysicalEnvironment", 0x11), ("DeviceEnabled", 0x12)]

def identifyAttributeIdMap : List (String × ℕ) :=
  [("IdentifyTime", 0x00)]

def groupsAttributeIdMap : List (String × ℕ) :=
  [("NameSupport", 0x00)]

def onOffAttributeIdMap : List (String × ℕ) :=
  [("OnOff", 0x00), ("GlobalSceneControl", 0x4000), ("OnTime", 0x4001), ("OffWaitTime", 0x4002),
    ("StartUpOnOff", 0x4003)]

def levelAttributeIdMap : List (String × ℕ) :=
  [("CurrentLevel", 0x00), ("RemainingTime", 0x01), ("MinLevel", 0x02), ("MaxLevel", 0x03),
    ("CurrentFrequency", 0x04), ("MinFrequency", 0x05), ("MaxFrequency", 0x06), ("Options", 0x0F),
    ("OnOffTransitionTime", 0x10), ("OnLevel", 0x11), ("OnTransitionTime", 0x12),
    ("OffTransitionTime", 0x13), ("DefaultMoveRate", 0x14), ("StartUpCurrentLevel", 0x4000)]

def doorLockAttributeIdMap : List (String × ℕ) :=
  [("LockState", 0x00), ("LockType", 0x01), ("ActuatorEnabled", 0x02), ("DoorState", 0x03),
    ("OperatingMode", 0x25), ("SupportedOperatingModes", 0x26), ("FeatureMap", 0xFFFC)]

def windowCoveringAttributeIdMap : List (String × ℕ) :=
  [("WindowCoveringType", 0x00), ("CurrentPositionLift", 0x03), ("ConfigOrStatus", 0x07),
    ("CurrentPositionLiftPercentage", 0x08), ("InstalledOpenLimitLift", 0x10),
    ("InstalledClosedLimitLift", 0x11), ("Mode", 0x17)]

def thermostatAttributeIdMap : List (String × ℕ) :=
  [("LocalTemperature", 0x00), ("OccupiedCoolingSetpoint", 0x11),
    ("OccupiedHeatingSetpoint", 0x12), ("MinHeatSetpointLimit", 0x15),
    ("MaxHeatSetpointLimit", 0x16), ("MinCoolSetpointLimit", 0x17),
    ("MaxCoolSetpointLimit", 0x18), ("ControlSequenceOfOperation", 0x1B), ("SystemMode", 0x1C)]

def colorControlAttributeIdMap : List (String × ℕ) :=
  [("CurrentHue", 0x00), ("CurrentSaturation", 0x01), ("RemainingTime", 0x02), ("CurrentX", 0x03),
    ("CurrentY", 0x04), ("DriftCompensation", 0x05), ("ColorTemperatureMireds", 0x07),
    ("ColorMode", 0x08), ("Options", 0x0F), ("NumberOfPrimaries", 0x10), ("Primary1X", 0x11),
    ("Primary1Y", 0x12), ("Primary1Intensity", 0x13), ("Primary2X", 0x15), ("Primary2Y", 0x16),
    ("Primary2Intensity", 0x17), ("Primary3X", 0x19), ("Primary3Y", 0x1A),
    ("Primary3Intensity", 0x1B), ("Primary4X", 0x20), ("Primary4Y", 0x21),
    ("Primary4Intensity", 0x22), ("Primary5X", 0x24), ("Primary5Y", 0x25),
    ("Primary5Intensity", 0x26), ("Primary6X", 0x28), ("Primary6Y", 0x29),
    ("Primary6Intensity", 0x2A), ("WhitePointX", 0x30), ("WhitePointY", 0x31),
    ("ColorPointRX", 0x32), ("ColorPointRY", 0x33), ("ColorPointRIntensity", 0x34),
    ("ColorPointGX", 0x36), ("ColorPointGY", 0x37), ("ColorPointGIntensity", 0x38),
    ("ColorPointBX", 0x3A), ("ColorPointBY", 0x3B), ("ColorPointBIntensity", 0x3C),
    ("EnhancedCurrentHue", 0x4000), ("EnhancedColorMode", 0x4001), ("ColorLoopActive", 0x4002),
    ("ColorLoopDirection", 0x4003), ("ColorLoopTime", 0x4004),
    ("ColorLoopStartEnhancedHue", 0x4005), ("ColorLoopStoredEnhancedHue", 0x4006),
    ("ColorCapabilities", 0x400A), ("ColorTempPhysicalMinMireds", 0x400B),
    ("ColorTempPhysicalMaxMireds", 0x400C), ("CoupleColorTempToLevelMinMireds", 0x400D),
    ("StartUpColorTemperatureMireds", 0x4010)]

def illuminanceMeasurementAttributeIdMap : List (String × ℕ) :=
  [("MeasuredValue", 0x00), ("MinMeasuredValue", 0x01), ("MaxMeasuredValue", 0x02),
    ("Tolerance", 0x03), ("LightSensorType", 0x04)]

def temperatureMeasurementAttributeIdMap : List (String × ℕ) :=
  [("MeasuredValue", 0x00), ("MinMeasuredValue", 0x01), ("MaxMeasuredValue", 0x02),
    ("Tolerance", 0x03)]

def pressureMeasurementAttributeIdMap : List (String × ℕ) :=
  [("MeasuredValue", 0x00), ("MinMeasuredValue", 0x01), ("MaxMeasuredValue", 0x02),
    ("Tolerance", 0x03), ("ScaledValue", 0x10), ("MinScaledValue", 0x11),
    ("MaxScaledValue", 0x12), ("ScaledTolerance", 0x13), ("Scale", 0x14)]

def flowMeasurementAttributeIdMap : List (String × ℕ) :=
  [("MeasuredValue", 0x00), ("MinMeasuredValue", 0x01), ("MaxMeasuredValue", 0x02),
    ("Tolerance", 0x03)]

def relativityHumidityAttributeIdMap : List (String × ℕ) :=
  [("MeasuredValue", 0x00), ("MinMeasuredValue", 0x01), ("MaxMeasuredValue", 0x02),
    ("Tolerance", 0x03)]

def occupancySensingAttributeIdMap : List (String × ℕ) :=
  [("Occupancy", 0x00), ("OccupancySensorType", 0x01), ("OccupancySensorTypeBitmap", 0x02)]

def unifyToMatterAttributeIdMap : List (String × List (String × ℕ)) :=
  [("Basic", basicAttributeIdMap), ("Identify", identifyAttributeIdMap),
    ("Groups", groupsAttributeIdMap), ("OnOff", onOffAttributeIdMap),
    ("Level", levelAttributeIdMap), ("DoorLock", doorLockAttributeIdMap),
    ("WindowCovering", windowCoveringAttributeIdMap), ("Thermostat", thermostatAttributeIdMap),
    ("ColorControl", colorControlAttributeIdMap),
    ("IlluminanceMeasurement", illuminanceMeasurementAttributeIdMap),
    ("TemperatureMeasurement", temperatureMeasurementAttributeIdMap),
    ("PressureMeasurement", pressureMeasurementAttributeIdMap),
    ("FlowMeasurement", flowMeasurementAttributeIdMap),
    ("RelativityHumidity", relativityHumidityAttributeIdMap),
    ("OccupancySensing", occupancySensingAttributeIdMap)]

def identifyCommandIdMap : List (String × ℕ) :=
  [("Identify", 0x00), ("IdentifyQueryResponse", 0x00), ("TriggerEffect", 0x40)]

def groupsCommandIdMap : List (String × ℕ) :=
  [("AddGroup", 0x00), ("AddGroupResponse", 0x00), ("ViewGroup", 0x01),
    ("ViewGroupResponse", 0x01), ("GetGroupMembership", 0x02),
    ("GetGroupMembershipResponse", 0x02), ("RemoveGroup", 0x03), ("RemoveGroupResponse", 0x03),
    ("RemoveAllGroups", 0x04), ("AddGroupIfIdentifying", 0x05)]

def onOffCommandIdMap : List (String × ℕ) :=
  [("Off", 0x00), ("On", 0x01), ("Toggle", 0x02), ("OffWithEffect", 0x40),
    ("OnWithRecallGlobalScene", 0x41), ("OnWithTimedOff", 0x42)]

def levelCommandIdMap : List (String × ℕ) :=
  [("MoveToLevel", 0x00), ("Move", 0x01), ("Step", 0x02), ("Stop", 0x03),
    ("MoveToLevelWithOnOff", 0x04), ("MoveWithOnOff", 0x05), ("StepWithOnOff", 0x06),
    ("StopWithOnOff", 0x07), ("MoveToClosestFrequency", 0x08)]

def windowCoveringCommandIdMap : List (String × ℕ) :=
  [("UpOrOpen", 0x00), ("DownOrClose", 0x01), ("Stop", 0x02)]

def thermostatCommandIdMap : List (String × ℕ) :=
  [("SetpointRaiseOrLower", 0x00), ("GetWeeklyScheduleResponse", 0x00)]

def colorControlCommandIdMap : List (String × ℕ) :=
  [("MoveToHue", 0x00), ("MoveHue", 0x01), ("StepHue", 0x02), ("MoveToSaturation", 0x03),
    ("MoveSaturation", 0x04), ("StepSaturation", 0x05), ("MoveToHueAndSaturation", 0x06),
    ("MoveToColor", 0x07), ("MoveColor", 0x08), ("StepColor", 0x09),
    ("MoveToColorTemperature", 0x0A), ("EnhancedMoveToHue", 0x40), ("EnhancedMoveHue", 0x41),
    ("EnhancedStepHue", 0x42), ("EnhancedMoveToHueAndSaturation", 0x43), ("ColorLoopSet", 0x44),
    ("StopMoveStep", 0x47), ("MoveColorTemperature", 0x4B), ("StepColorTemperature", 0x4C)]

def unifyToMatterCommandIdMap : List (String × List (String × ℕ)) :=
  [("Basic", []), ("Identify", identifyCommandIdMap), ("Groups", groupsCommandIdMap),
    ("OnOff", onOffCommandIdMap), ("Level", levelCommandIdMap),
    ("DoorLock", doorLockCommandIdMap), ("WindowCovering", windowCoveringCommandIdMap),
    ("Thermostat", thermostatCommandIdMap), ("ColorControl", colorControlCommandIdMap),
    ("IlluminanceMeasurement", []), ("TemperatureMeasurement", []), ("PressureMeasurement", []),
    ("FlowMeasurement", []), ("RelativityHumidity", []), ("OccupancySensing", [])]

def getAttributeId (clusterName attributeName : String) : Option ℕ :=
  (unifyToMatterAttributeIdMap.lookup clusterName).bind (·.lookup attributeName)

def getCommandId (clusterName commandName : String) : Option ℕ :=
  (unifyToMatterCommandIdMap.lookup clusterName).bind (·.lookup commandName)

theorem getCommandId_ne {clusterName commandName : String} {id : ℕ}
    (h : getCommandId clusterName commandName = some id) : id ≠ kInvalidCommandId := by
  have hids : ∀ p ∈ unifyToMatterCommandIdMap, ∀ q ∈ p.2, q.2 ≠ kInvalidCommandId := by decide
  obtain ⟨commandIds, hcluster, hcommand⟩ := Option.bind_eq_some_iff.mp h
  exact hids _ (NameTable.mem_of_lookup hcluster) _ (NameTable.mem_of_lookup hcommand)

theorem exists_tables_of_clusterId {clusterName : String} {clusterId : ℕ}
    (h : getClusterId clusterName = some clusterId) :
    (∃ attributeIds, unifyToMatterAttributeIdMap.lookup clusterName = some attributeIds) ∧
      ∃ commandIds, unifyToMatterCommandIdMap.lookup clusterName = some commandIds := by
  have hattributes : unifyToMatterAttributeIdMap.map Prod.fst = unifyClusterIdMap.map Prod.fst := by
    decide
  have hcommands : unifyToMatterCommandIdMap.map Prod.fst = unifyClusterIdMap.map Prod.fst := by
    decide
  have hmem : clusterName ∈ unifyClusterIdMap.map Prod.fst :=
    List.mem_map.mpr ⟨_, NameTable.mem_of_lookup h, rfl⟩
  constructor
  · rw [← hattributes] at hmem
    obtain ⟨⟨name, attributeIds⟩, hp, rfl⟩ := List.mem_map.mp hmem
    exact NameTable.lookup_isSome_of_mem hp
  · rw [← hcommands] at hmem
    obtain ⟨⟨name, commandIds⟩, hp, rfl⟩ := List.mem_map.mp hmem
    exact NameTable.lookup_isSome_of_mem hp

end UnifyMatterBridge
