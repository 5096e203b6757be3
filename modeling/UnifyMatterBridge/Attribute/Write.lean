import UnifyMatterBridge.Attribute.Read

/-! Writing attributes: the generated `Write`, and the setpoints of a thermostat, which the emulator
checks first. -/
namespace UnifyMatterBridge

/-- What decoding a value makes of it: the result of `Decode`, and what the variable then holds, also
when nothing was decoded. -/
structure AttributeValueDecoder where
  error : ChipError
  value : ArgValue

/-- The result of `Write`, with the topic and the message that it has published. -/
structure WriteResult where
  error : ChipError
  published : Option (String × Json)

namespace WriteResult

def failed (error : ChipError) : WriteResult := ⟨error, none⟩

/-- The write fails, and nothing is published. -/
def Refused (r : Except CxxException WriteResult) : Prop :=
  ∃ error, r = .ok (.failed error) ∧ error ≠ .noError

end WriteResult

def AttributeValueDecoder.number (decoder : AttributeValueDecoder) : ℤ :=
  match decoder.value with
  | .number n => n
  | _ => 0

namespace EmulateThermostat

variable (cache : AttributeCache) (path : AttrPath) (decoder : AttributeValueDecoder)

/-- A setpoint outside its limits is rejected; the generated `Write` sends any other one. -/
def checkLimits (s : Setpoint) : Except CxxException ChipError :=
  if decoder.error ≠ .noError then .ok decoder.error
  else do
    let limit (attributeId : ℕ) : AttrPath := ⟨path.endpointId, path.clusterId, attributeId⟩
    let minLimit := (← cache.getInt .int16 (limit s.minLimit)).getD s.minDefault
    let maxLimit := (← cache.getInt .int16 (limit s.maxLimit)).getD s.maxDefault
    return if decoder.number < minLimit ∨ decoder.number > maxLimit then .constraintError
      else .inProgress

def writeAttribute : Except CxxException ChipError :=
  match path.attributeId with
  | 0x11 => checkLimits cache path decoder cooling
  | 0x12 => checkLimits cache path decoder heating
  | _ => .ok .notImplemented

end EmulateThermostat

/-- `ClusterEmulator::write_attribute`. The global attributes have no emulator, and looking it up
throws. -/
def ClusterEmulator.writeAttribute (cache : AttributeCache) (path : AttrPath)
    (decoder : AttributeValueDecoder) : Except CxxException ChipError :=
  if isAttributeEmulated path then
    if path.attributeId ∈ emulatedAttributes path.clusterId then
      match path.clusterId with
      | 0x0201 => EmulateThermostat.writeAttribute cache path decoder
      | _ => .ok .notImplemented
    else .error .outOfRange
  else .ok .notImplemented

namespace ClusterAttributeAccess

/-- The cases of the switch in `Write`, with the names that the attributes have in Unify. -/
def writableAttributes (clusterId : ℕ) : List (ℕ × String) :=
  match clusterId with
  | 0x0003 => [(0x0000, "IdentifyTime")]
  | 0x0006 => [(0x4001, "OnTime"), (0x4002, "OffWaitTime"), (0x4003, "StartUpOnOff")]
  | 0x0008 =>
    [(0x000F, "Options"), (0x0010, "OnOffTransitionTime"), (0x0011, "OnLevel"),
      (0x0012, "OnTransitionTime"), (0x0013, "OffTransitionTime"), (0x0014, "DefaultMoveRate"),
      (0x4000, "StartUpCurrentLevel")]
  | 0x0101 =>
    [(0x04, "DoorOpenEvents"), (0x05, "DoorClosedEvents"), (0x06, "OpenPeriod"),
      (0x21, "Language"), (0x22, "LEDSettings"), (0x23, "AutoRelockTime"), (0x24, "SoundVolume"),
      (0x25, "OperatingMode"), (0x28, "EnableLocalProgramming"), (0x29, "EnableOneTouchLocking"),
      (0x2A, "EnableInsideStatusLED"), (0x2B, "EnablePrivacyModeButton"),
      (0x2C, "LocalProgrammingFeatures"), (0x30, "WrongCodeEntryLimit"),
      (0x31, "UserCodeTemporaryDisableTime"), (0x32, "SendPINOverTheAir"),
      (0x33, "RequirePINforRFOperation"), (0x35, "ExpiringUserTimeout")]
  | 0x0102 => [(0x17, "Mode")]
  | 0x0201 =>
    [(0x09, "HVACSystemTypeConfiguration"), (0x10, "LocalTemperatureCalibration"),
      (0x11, "OccupiedCoolingSetpoint"), (0x12, "OccupiedHeatingSetpoint"),
      (0x13, "UnoccupiedCoolingSetpoint"), (0x14, "UnoccupiedHeatingSetpoint"),
      (0x15, "MinHeatSetpointLimit"), (0x16, "MaxHeatSetpointLimit"),
      (0x17, "MinCoolSetpointLimit"), (0x18, "MaxCoolSetpointLimit"), (0x19, "MinSetpointDeadBand"),
      (0x1A, "RemoteSensing"), (0x1B, "ControlSequenceOfOperation"), (0x1C, "SystemMode"),
      (0x23, "TemperatureSetpointHold"), (0x24, "TemperatureSetpointHoldDuration"),
      (0x25, "ThermostatProgrammingOperationMode"), (0x34, "OccupiedSetback"),
      (0x37, "UnoccupiedSetback"), (0x3A, "EmergencyHeatDelta"), (0x40, "ACType"),
      (0x41, "ACCapacity"), (0x42, "ACRefrigerantType"), (0x43, "ACCompressorType"),
      (0x44, "ACErrorCode"), (0x45, "ACLouverPosition"), (0x47, "ACCapacityFormat")]
  | 0x0300 =>
    [(0x000F, "Options"), (0x0030, "WhitePointX"), (0x0031, "WhitePointY"),
      (0x0032, "ColorPointRX"), (0x0033, "ColorPointRY"), (0x0034, "ColorPointRIntensity"),
      (0x0036, "ColorPointGX"), (0x0037, "ColorPointGY"), (0x0038, "ColorPointGIntensity"),
      (0x003A, "ColorPointBX"), (0x003B, "ColorPointBY"), (0x003C, "ColorPointBIntensity"),
      (0x4010, "StartUpColorTemperatureMireds")]
  | 0x0406 =>
    [(0x10, "PIROccupiedToUnoccupiedDelay"), (0x11, "PIRUnoccupiedToOccupiedDelay"),
      (0x12, "PIRUnoccupiedToOccupiedThreshold"), (0x20, "UltrasonicOccupiedToUnoccupiedDelay"),
      (0x21, "UltrasonicUnoccupiedToOccupiedDelay"),
      (0x22, "UltrasonicUnoccupiedToOccupiedThreshold"),
      (0x30, "PhysicalContactOccupiedToUnoccupiedDelay"),
      (0x31, "PhysicalContactUnoccupiedToOccupiedDelay"),
      (0x32, "PhysicalContactUnoccupiedToOccupiedThreshold")]
  | _ => []

variable (a : ClusterAttributeAccess) (path : AttrPath) (decoder : AttributeValueDecoder)

/-- The switch of `Write`, for the endpoint at a Unify address. The result of `Decode` is not
looked at. -/
def writeSwitch (address : String × ℕ) : Except CxxException WriteResult :=
  match (writableAttributes a.clusterId).lookup path.attributeId with
  | none => .ok (.failed .noMessageHandler)
  | some name => do
    let message ← (Json.null.setField name decoder.value.toJson).dump
    return ⟨.noError, some
      (unidTopic address.1 address.2 ++ "/" ++ a.clusterName ++ "/Commands/WriteAttributes", message)⟩

/-- The generated `Write`. It catches nothing. -/
def write {Table Content : Type} (s : MonitorState Table Content) (cache : AttributeCache) :
    Except CxxException WriteResult :=
  if path.clusterId ≠ a.clusterId then .ok (.failed .invalidArgument)
  else
    match NodeStateMonitor.bridgedEndpointOfMatter s path.endpointId with
    | none => .ok ⟨.noError, none⟩
    | some e =>
      if ClusterEmulator.isAttributeEmulated path then do
        match ← ClusterEmulator.writeAttribute cache path decoder with
        | .inProgress => a.writeSwitch path decoder e.address
        | error => return .failed error
      else a.writeSwitch path decoder e.address

end ClusterAttributeAccess

section Congruence

variable {c c' : AttributeCache} {path : AttrPath} {decoder : AttributeValueDecoder}

theorem ClusterEmulator.writeAttribute_congr
    (h : ∀ attributeId, c (sibling path attributeId) = c' (sibling path attributeId)) :
    writeAttribute c path decoder = writeAttribute c' path decoder := by
  have hlimits : ∀ s, EmulateThermostat.checkLimits c path decoder s =
      EmulateThermostat.checkLimits c' path decoder s := by
    intro s
    have hmin : c.getInt .int16 (sibling path s.minLimit) =
        c'.getInt .int16 (sibling path s.minLimit) := AttributeCache.getInt_congr (h s.minLimit)
    have hmax : c.getInt .int16 (sibling path s.maxLimit) =
        c'.getInt .int16 (sibling path s.maxLimit) := AttributeCache.getInt_congr (h s.maxLimit)
    unfold EmulateThermostat.checkLimits
    dsimp only [sibling] at hmin hmax ⊢
    rw [hmin, hmax]
  unfold writeAttribute EmulateThermostat.writeAttribute
  simp only [hlimits]

theorem write_congr {Table Content : Type} {s : MonitorState Table Content}
    {a : ClusterAttributeAccess} (h : ∀ attributeId, c (ClusterEmulator.sibling path attributeId) =
      c' (ClusterEmulator.sibling path attributeId)) :
    a.write path decoder s c = a.write path decoder s c' := by
  unfold ClusterAttributeAccess.write
  rw [ClusterEmulator.writeAttribute_congr h]

end Congruence

end UnifyMatterBridge
