import UnifyMatterBridge.Command.Interface
import UnifyMatterBridge.Attribute.Cache

/-! The command emulators (`cluster_emulator`): they see a command before the generated switch
does, and either answer it themselves or hand a payload on. -/
namespace UnifyMatterBridge

/-- A decoded argument. The label of an enumerator and the names of flags are those that
`to_json` writes; an enumerator without a label is unknown to it. -/
inductive ArgValue where
  | null
  | boolean (b : Bool)
  | number (n : ℤ)
  | text (s : Text)
  | enum (value : ℕ) (label : Option String)
  | flags (fields : List (String × Bool))
  | list
  | credential (label : Option String) (credentialIndex : ℕ)
  deriving DecidableEq

namespace ArgValue

def labelJson (label : Option String) : Json := .string (.utf8 (label.getD "{}"))

def toJson : ArgValue → Json
  | .null => .null
  | .boolean b => .boolean b
  | .number n => .integer n
  | .text s => .string s
  | .enum _ label => labelJson label
  | .flags fields => fields.foldl (fun obj f => obj.setField f.1 (.boolean f.2)) .null
  | .list => .string (.utf8 "{}")
  | .credential label credentialIndex =>
    (Json.null.setField "CredentialType" (labelJson label)).setField "CredentialIndex"
      (.integer credentialIndex)

def isText : ArgValue → Bool
  | .text (.malformed _) => false
  | _ => true

end ArgValue

/-- The fields of a decoded command, under the keys of the Unify payload. -/
abbrev Args := String → Option ArgValue

namespace Args

def isNull (data : Args) (key : String) : Bool := data key = some .null

/-- A numeric field; fields are zero-initialised. -/
def number (data : Args) (key : String) : ℤ :=
  match data key with
  | some (.number n) => n
  | some (.enum value _) => value
  | _ => 0

end Args

/-- `payload[key] = to_json(..)` for every argument that is present. -/
def addArguments (arguments : List String) (data : Args) (payload : Json) : Json :=
  arguments.foldl (fun payload key =>
    match data key with
    | some a => payload.setField key a.toJson
    | none => payload) payload

/-- A command as it reaches a handler. Each attempt to decode the arguments reads on in the same
TLV reader: `decode n` is the result of the attempt after `n` others. -/
structure Invocation where
  endpointId : ℕ
  commandId : ℕ
  exchange : Exchange
  handle : ℕ
  decode : ℕ → Option Args

def emulatorType (clusterId attributeId : ℕ) : Option IntType :=
  match clusterId, attributeId with
  | 0x0102, 0x03 | 0x0102, 0x10 | 0x0102, 0x11 => some .uint16
  | 0x0102, 0x08 | 0x0102, 0x0A | 0x0102, 0x17 => some .uint8
  | 0x0201, 0x11 | 0x0201, 0x12 | 0x0201, 0x15 | 0x0201, 0x16 | 0x0201, 0x17 | 0x0201, 0x18 =>
    some .int16
  | _, _ => none

/-- A cache in which the attributes that the emulators read have the types they are set with. -/
structure TypedCache where
  values : AttributeCache
  typed : ∀ path t, emulatorType path.clusterId path.attributeId = some t →
    ∀ v, values path = some v → v.alternative = .int t

namespace TypedCache

def empty : TypedCache := ⟨AttributeCache.empty, fun _ _ _ _ h => by cases h⟩

def int (c : TypedCache) (path : AttrPath) : Option ℤ :=
  match c.values path with
  | some (.int _ n) => some n
  | _ => none

theorem getInt_eq (c : TypedCache) {path : AttrPath} {t : IntType}
    (ht : emulatorType path.clusterId path.attributeId = some t) :
    c.values.getInt t path = .ok (c.int path) := by
  unfold AttributeCache.getInt int
  cases hc : c.values path with
  | none => rfl
  | some v =>
    have hv := c.typed path t ht v hc
    cases v with
    | int t' n =>
      cases hv
      exact if_pos rfl
    | bool | float | string | chars | bytes => cases hv

end TypedCache

structure EmulatedCmdPayload where
  cmd : String
  payload : Json
  cmdEmulationCompleted : Bool

/-- What an emulator did, and how often it tried to decode the arguments. -/
structure Emulation where
  effects : List Effect
  cache : AttributeCache
  decodes : ℕ
  cdata : EmulatedCmdPayload

namespace Emulation

def reject (cache : AttributeCache) (decodes : ℕ) (path : CommandPath) (status : ImStatus)
    (cmd : String) : Emulation :=
  ⟨[.addStatus path status], cache, decodes, ⟨cmd, .null, true⟩⟩

def forward (cache : AttributeCache) (decodes : ℕ) (cmd : String) (payload : Json) : Emulation :=
  ⟨[], cache, decodes, ⟨cmd, payload, false⟩⟩

end Emulation

section Emulators

variable (cache : AttributeCache) (path : CommandPath) (decode : ℕ → Option Args)

namespace EmulateLevelControl

/-- The name of the command is set after the check. -/
def command : Emulation :=
  match decode 0 with
  | none => .forward cache 1 "" .null
  | some data =>
    if data.isNull "Rate" ∨ data.number "Rate" = 0 then
      .reject cache 1 path .invalidCommand ""
    else
      .forward cache 1 "Move"
        (addArguments ["MoveMode", "Rate", "OptionsMask", "OptionsOverride"] data .null)

end EmulateLevelControl

namespace EmulateColorControl

/-- Every case sets the name, rejects some arguments and copies the others. -/
def emulate (cmd : String) (invalid : Args → Bool) (arguments : List String) : Emulation :=
  match decode 0 with
  | none => .forward cache 1 cmd .null
  | some data =>
    if invalid data then .reject cache 1 path .invalidCommand cmd
    else .forward cache 1 cmd (addArguments arguments data .null)

/-- A rate of zero makes no sense when moving up (1) or down (3). -/
def invalidMove (data : Args) : Bool :=
  (data.number "MoveMode" = 1 || data.number "MoveMode" = 3) && data.number "Rate" = 0

def invalidStep (data : Args) : Bool := data.number "StepSize" = 0

def invalidStepColor (data : Args) : Bool :=
  data.number "StepX" = 0 && data.number "StepY" = 0

def command : Emulation :=
  match path.commandId with
  | 1 => emulate cache path decode "MoveHue" invalidMove
      ["MoveMode", "Rate", "OptionsMask", "OptionsOverride"]
  | 2 => emulate cache path decode "StepHue" invalidStep
      ["StepMode", "StepSize", "TransitionTime", "OptionsMask", "OptionsOverride"]
  | 4 => emulate cache path decode "MoveSaturation" invalidMove
      ["MoveMode", "Rate", "OptionsMask", "OptionsOverride"]
  | 5 => emulate cache path decode "StepSaturation" invalidStep
      ["StepMode", "StepSize", "TransitionTime", "OptionsMask", "OptionsOverride"]
  | 9 => emulate cache path decode "StepColor" invalidStepColor
      ["StepX", "StepY", "TransitionTime", "OptionsMask", "OptionsOverride"]
  | 75 => emulate cache path decode "MoveColorTemperature" invalidMove
      ["MoveMode", "Rate", "ColorTemperatureMinimumMireds", "ColorTemperatureMaximumMireds",
        "OptionsMask", "OptionsOverride"]
  | 76 => emulate cache path decode "StepColorTemperature" invalidStep
      ["StepMode", "StepSize", "TransitionTime", "ColorTemperatureMinimumMireds",
        "ColorTemperatureMaximumMireds", "OptionsMask", "OptionsOverride"]
  | 65 => emulate cache path decode "EnhancedMoveHue" invalidMove
      ["MoveMode", "Rate", "OptionsMask", "OptionsOverride"]
  | 66 => emulate cache path decode "EnhancedStepHue" invalidStep
      ["StepMode", "StepSize", "TransitionTime", "OptionsMask", "OptionsOverride"]
  | _ => .forward cache 0 "" .null

end EmulateColorControl

namespace EmulateDoorLock

/-- A lock command without a PIN is sent with an empty one. -/
def pinPayload (data : Args) : Json :=
  Json.null.setField "PINOrRFIDCode"
    (match data "PINOrRFIDCode" with
    | some pin => pin.toJson
    | none => .string (.utf8 ""))

def command : Emulation :=
  match path.commandId with
  | 0 => .forward cache 1 "LockDoor" (((decode 0).map pinPayload).getD .null)
  | 1 => .forward cache 1 "UnlockDoor" (((decode 0).map pinPayload).getD .null)
  | _ => .forward cache 0 "" .null

end EmulateDoorLock

namespace EmulateWindowCovering

def attrPath (endpointId attributeId : ℕ) : AttrPath := ⟨endpointId, 0x0102, attributeId⟩

def currentPositionLift (endpointId : ℕ) : AttrPath := attrPath endpointId 0x03
def currentPositionLiftPercentage (endpointId : ℕ) : AttrPath := attrPath endpointId 0x08
def operationalStatus (endpointId : ℕ) : AttrPath := attrPath endpointId 0x0A
def installedOpenLimitLift (endpointId : ℕ) : AttrPath := attrPath endpointId 0x10
def installedClosedLimitLift (endpointId : ℕ) : AttrPath := attrPath endpointId 0x11
def mode (endpointId : ℕ) : AttrPath := attrPath endpointId 0x17

/-- What completes a command in a mode that does not allow it. Without a mode there is nothing to
answer with. -/
def modeAnswer (mode : Option ℤ) : Option (List Effect) :=
  match mode with
  | none => some []
  | some mode =>
    -- kCalibrationMode and kMaintenanceMode
    if mode.toNat.testBit 1 then some [.addStatus path .failure]
    else if mode.toNat.testBit 2 then some [.addStatus path .busy]
    else none

def isCommandAllowed : Except CxxException (Option (List Effect)) := do
  return modeAnswer path (← cache.getInt .uint8 (mode path.endpointId))

/-- The covering has to move: it is known not to be at the end asked for. -/
def moves (percentage : Option ℤ) (endPercentage : ℤ) (position limit : Option ℤ) : Bool :=
  (match percentage with
    | some p => p ≠ endPercentage
    | none => false) ||
  (match limit, position with
    | some l, some p => p ≠ l
    | _, _ => false)

def setOperationalStatus (status : ℤ) : AttributeCache :=
  cache.set (operationalStatus path.endpointId) (.int .uint8 status)

def move (percentage position : Option ℤ) : Except CxxException Emulation :=
  match path.commandId with
  | 0 => do
    let limit ← cache.getInt .uint16 (installedOpenLimitLift path.endpointId)
    return .forward (setOperationalStatus cache path
      (if moves percentage 0 position limit then 0x05 else 0x00)) 0 "UpOrOpen" .null
  | 1 => do
    let limit ← cache.getInt .uint16 (installedClosedLimitLift path.endpointId)
    return .forward (setOperationalStatus cache path
      (if moves percentage 0x64 position limit then 0x0A else 0x00)) 0 "DownOrClose" .null
  | 2 => return .forward (setOperationalStatus cache path 0x00) 0 "StopMotion" .null
  | _ => return .forward cache 0 "" .null

def command : Except CxxException Emulation := do
  let percentage ← cache.getInt .uint8 (currentPositionLiftPercentage path.endpointId)
  let position ← cache.getInt .uint16 (currentPositionLift path.endpointId)
  match ← isCommandAllowed cache path with
  | some effects => return ⟨effects, cache, 0, ⟨"", .null, true⟩⟩
  | none => move cache path percentage position

end EmulateWindowCovering

namespace EmulateThermostat

structure Setpoint where
  occupied : ℕ
  minLimit : ℕ
  maxLimit : ℕ
  minDefault : ℤ
  maxDefault : ℤ

def heating : Setpoint := ⟨0x12, 0x15, 0x16, 700, 3000⟩
def cooling : Setpoint := ⟨0x11, 0x17, 0x18, 1600, 3200⟩

/-- The amount that keeps the setpoint within its limits; none if there is no setpoint to change. -/
def updateSetpoint (s : Setpoint) (amount : ℤ) (both : Bool) :
    Except CxxException (Option ℤ) := do
  let attrPath (attributeId : ℕ) : AttrPath := ⟨path.endpointId, 0x0201, attributeId⟩
  match ← cache.getInt .int16 (attrPath s.occupied) with
  | none => return if both then some amount else none
  | some occupied =>
    let minLimit := (← cache.getInt .int16 (attrPath s.minLimit)).getD s.minDefault
    let maxLimit := (← cache.getInt .int16 (attrPath s.maxLimit)).getD s.maxDefault
    let updated := IntType.int16.cast (occupied + amount * 10)
    let amount :=
      if updated < minLimit then IntType.int8.cast ((minLimit - occupied).tdiv 10) else amount
    return some
      (if updated > maxLimit then IntType.int8.cast ((maxLimit - occupied).tdiv 10) else amount)

def updateHeatingSetpoint := updateSetpoint cache path heating
def updateCoolingSetpoint := updateSetpoint cache path cooling

/-- The heating setpoint is changed in mode `kHeat` (0) or `kBoth` (2), the cooling setpoint in
mode `kCool` (1). -/
def updateAmount (mode amount : ℤ) : Except CxxException (Option ℤ) :=
  if mode = 0 ∨ mode = 2 then updateHeatingSetpoint cache path amount (mode = 2)
  else if mode = 1 ∨ mode = 2 then updateCoolingSetpoint cache path amount (mode = 2)
  else .ok none

/-- An error leaves the payload empty, but not the name of the command. -/
def command : Except CxxException Emulation := do
  match decode 0 with
  | none => return .forward cache 1 "SetpointRaiseLower" .null
  | some data =>
    match ← updateAmount cache path (data.number "Mode") (data.number "Amount") with
    | none => return .forward cache 1 "SetpointRaiseLower" .null
    | some amount =>
      return .forward cache 1 "SetpointRaiseLower"
        ((addArguments ["Mode"] data .null).setField "Amount" (.integer amount))

end EmulateThermostat

/-- `emulated_commands` of the emulator of a cluster. -/
def emulatedCommands (clusterId : ℕ) : List ℕ :=
  match clusterId with
  | 0x0008 => [1]
  | 0x0101 => [0, 1]
  | 0x0102 => [0, 1, 2]
  | 0x0201 => [0]
  | 0x0300 => [1, 2, 4, 5, 9, 75, 76, 65, 66]
  | _ => []

def isCommandEmulated : Bool := path.commandId ∈ emulatedCommands path.clusterId

def invokeEmulator : Except CxxException Emulation :=
  match path.clusterId with
  | 0x0008 => .ok (EmulateLevelControl.command cache path decode)
  | 0x0101 => .ok (EmulateDoorLock.command cache path decode)
  | 0x0102 => EmulateWindowCovering.command cache path
  | 0x0201 => EmulateThermostat.command cache path decode
  | 0x0300 => .ok (EmulateColorControl.command cache path decode)
  | _ => .ok ⟨[], cache, 0, ⟨"", .null, true⟩⟩

end Emulators

theorem ArgValue.isText_toJson (a : ArgValue) : a.toJson.isText = a.isText := by
  cases a with
  | text s => cases s <;> rfl
  | flags fields =>
    -- every member that the fold has set is a boolean
    have hfold : ∀ (obj : Json), obj.IsPayload → obj.isText = true →
        (fields.foldl (fun obj f => obj.setField f.1 (.boolean f.2)) obj).isText = true := by
      induction fields with
      | nil => exact fun _ _ h => h
      | cons f fields ih =>
        intro obj hobj htext
        apply ih _ (hobj.setField f.1 _)
        rw [(hobj.setField f.1 _).isText_eq_true]
        intro g hg
        cases hobj.mem_setField.mp hg with
        | inl heq => exact heq ▸ rfl
        | inr hmem => exact hobj.isText_eq_true.mp htext g hmem.2
    exact hfold .null trivial rfl
  | null | boolean | number | enum | list | credential => rfl

section Arguments

variable {arguments : List String} {data : Args} {payload : Json}

theorem addArguments_isPayload (h : payload.IsPayload) :
    (addArguments arguments data payload).IsPayload := by
  induction arguments generalizing payload with
  | nil => exact h
  | cons key arguments ih =>
    apply ih
    dsimp only
    split
    · exact h.setField key _
    · exact h

theorem mem_addArguments (h : payload.IsPayload) {f : String × Json} :
    f ∈ (addArguments arguments data payload).fields ↔
      (f.1 ∈ arguments ∧ ∃ a, data f.1 = some a ∧ f.2 = a.toJson) ∨
        (f.1 ∈ arguments → data f.1 = none) ∧ f ∈ payload.fields := by
  induction arguments generalizing payload with
  | nil => simp [addArguments]
  | cons key arguments ih =>
    have hcons : addArguments (key :: arguments) data payload =
        addArguments arguments data
          (match data key with
          | some a => payload.setField key a.toJson
          | none => payload) := rfl
    cases hkey : data key with
    | none =>
      rw [hcons, hkey, ih h]
      have hne : ∀ a, data f.1 = some a → f.1 ≠ key := by
        intro a ha heq
        rw [heq, hkey] at ha
        cases ha
      grind
    | some a =>
      rw [hcons, hkey, ih (h.setField key _), h.mem_setField]
      have hpair : f = (key, a.toJson) ↔ f.1 = key ∧ f.2 = a.toJson := Prod.ext_iff
      grind

end Arguments

namespace Emulation

/-- The emulator leaves the command to the switch. -/
def Forwards (em : Emulation) : Prop :=
  em.cdata.cmdEmulationCompleted = false ∧ em.effects = []

def Rejects (em : Emulation) (path : CommandPath) : Prop :=
  em.cdata.cmdEmulationCompleted = true ∧
    ∃ status, status ≠ ImStatus.success ∧ em.effects = [.addStatus path status]

/-- The emulator has completed the command without an answer. -/
def Drops (em : Emulation) : Prop :=
  em.cdata.cmdEmulationCompleted = true ∧ em.effects = []

theorem reject_rejects (cache : AttributeCache) (decodes : ℕ) (path : CommandPath) (cmd : String) :
    (reject cache decodes path .invalidCommand cmd).Rejects path :=
  ⟨rfl, .invalidCommand, by decide, rfl⟩

theorem forward_forwards (cache : AttributeCache) (decodes : ℕ) (cmd : String) (payload : Json) :
    (forward cache decodes cmd payload).Forwards := ⟨rfl, rfl⟩

end Emulation

section Outcomes

variable {path : CommandPath} {decode : ℕ → Option Args}

theorem EmulateLevelControl.command_outcome (cache : AttributeCache) :
    (command cache path decode).Forwards ∨
      (command cache path decode).Rejects path ∧ decode 0 ≠ none := by
  unfold command
  cases hdecode : decode 0 with
  | none => exact Or.inl (Emulation.forward_forwards _ _ _ _)
  | some data =>
    dsimp only
    split_ifs with hrate
    · exact Or.inr ⟨Emulation.reject_rejects _ _ _ _, by simp⟩
    · exact Or.inl (Emulation.forward_forwards _ _ _ _)

theorem EmulateColorControl.emulate_outcome (cache : AttributeCache) (cmd : String)
    (invalid : Args → Bool) (arguments : List String) :
    (emulate cache path decode cmd invalid arguments).Forwards ∨
      (emulate cache path decode cmd invalid arguments).Rejects path ∧ decode 0 ≠ none := by
  unfold emulate
  cases hdecode : decode 0 with
  | none => exact Or.inl (Emulation.forward_forwards _ _ _ _)
  | some data =>
    dsimp only
    split_ifs with hinvalid
    · exact Or.inr ⟨Emulation.reject_rejects _ _ _ _, by simp⟩
    · exact Or.inl (Emulation.forward_forwards _ _ _ _)

theorem EmulateColorControl.command_outcome (cache : AttributeCache) :
    (command cache path decode).Forwards ∨
      (command cache path decode).Rejects path ∧ decode 0 ≠ none := by
  unfold command
  split
  all_goals first
    | exact emulate_outcome cache _ _ _
    | exact Or.inl (Emulation.forward_forwards _ _ _ _)

theorem EmulateDoorLock.command_forwards (cache : AttributeCache) :
    (command cache path decode).Forwards := by
  unfold command
  split <;> exact Emulation.forward_forwards _ _ _ _

theorem EmulateThermostat.getInt_setpoint (c : TypedCache) {s : Setpoint}
    (hs : s = heating ∨ s = cooling) (endpointId : ℕ) {id : ℕ}
    (hid : id = s.occupied ∨ id = s.minLimit ∨ id = s.maxLimit) :
    c.values.getInt .int16 ⟨endpointId, 0x0201, id⟩ = .ok (c.int ⟨endpointId, 0x0201, id⟩) := by
  apply c.getInt_eq
  rcases hs with rfl | rfl <;> rcases hid with rfl | rfl | rfl <;> rfl

theorem EmulateThermostat.updateSetpoint_eq_ok (c : TypedCache) {s : Setpoint}
    (hs : s = heating ∨ s = cooling) (amount : ℤ) (both : Bool) :
    ∃ updated, updateSetpoint c.values path s amount both = .ok updated := by
  have hoccupied := getInt_setpoint c hs path.endpointId (Or.inl rfl)
  have hmin := getInt_setpoint c hs path.endpointId (Or.inr (Or.inl rfl))
  have hmax := getInt_setpoint c hs path.endpointId (Or.inr (Or.inr rfl))
  simp only [updateSetpoint, hoccupied, hmin, hmax]
  cases c.int ⟨path.endpointId, 0x0201, s.occupied⟩ with
  | none => exact ⟨_, rfl⟩
  | some occupied => exact ⟨_, rfl⟩

theorem EmulateThermostat.command_forwards (c : TypedCache) :
    ∃ em, command c.values path decode = .ok em ∧ em.Forwards := by
  unfold command
  cases decode 0 with
  | none => exact ⟨_, rfl, Emulation.forward_forwards _ _ _ _⟩
  | some data =>
    have hupdated : ∃ updated, updateAmount c.values path (data.number "Mode")
        (data.number "Amount") = .ok updated := by
      unfold updateAmount
      split_ifs
      · exact updateSetpoint_eq_ok c (Or.inl rfl) _ _
      · exact updateSetpoint_eq_ok c (Or.inr rfl) _ _
      · exact ⟨none, rfl⟩
    obtain ⟨updated, hupdated⟩ := hupdated
    simp only [hupdated]
    cases updated with
    | none => exact ⟨_, rfl, Emulation.forward_forwards _ _ _ _⟩
    | some amount => exact ⟨_, rfl, Emulation.forward_forwards _ _ _ _⟩

/-- The covering takes no motion command: its mode is unknown, or one of the modes of calibration
and maintenance. -/
def EmulateWindowCovering.MotionBlocked (c : TypedCache) (endpointId : ℕ) : Prop :=
  match c.int (mode endpointId) with
  | none => True
  | some mode => mode.toNat.testBit 1 = true ∨ mode.toNat.testBit 2 = true

instance (c : TypedCache) (endpointId : ℕ) :
    Decidable (EmulateWindowCovering.MotionBlocked c endpointId) := by
  unfold EmulateWindowCovering.MotionBlocked
  split <;> infer_instance

namespace EmulateWindowCovering

theorem isCommandAllowed_eq (c : TypedCache) :
    isCommandAllowed c.values path = .ok (modeAnswer path (c.int (mode path.endpointId))) := by
  have hmode : c.values.getInt .uint8 (mode path.endpointId) =
      .ok (c.int (mode path.endpointId)) := c.getInt_eq rfl
  rw [isCommandAllowed, hmode]
  rfl

theorem move_forwards (c : TypedCache) (percentage position : Option ℤ) :
    ∃ em, move c.values path percentage position = .ok em ∧ em.Forwards := by
  have hopen : c.values.getInt .uint16 (installedOpenLimitLift path.endpointId) =
      .ok (c.int (installedOpenLimitLift path.endpointId)) := c.getInt_eq rfl
  have hclosed : c.values.getInt .uint16 (installedClosedLimitLift path.endpointId) =
      .ok (c.int (installedClosedLimitLift path.endpointId)) := c.getInt_eq rfl
  unfold move
  split
  · rw [hopen]
    exact ⟨_, rfl, Emulation.forward_forwards _ _ _ _⟩
  · rw [hclosed]
    exact ⟨_, rfl, Emulation.forward_forwards _ _ _ _⟩
  · exact ⟨_, rfl, Emulation.forward_forwards _ _ _ _⟩
  · exact ⟨_, rfl, Emulation.forward_forwards _ _ _ _⟩

theorem command_eq (c : TypedCache) : command c.values path =
    match modeAnswer path (c.int (mode path.endpointId)) with
    | some effects => .ok ⟨effects, c.values, 0, ⟨"", .null, true⟩⟩
    | none => move c.values path (c.int (currentPositionLiftPercentage path.endpointId))
        (c.int (currentPositionLift path.endpointId)) := by
  have hpercentage : c.values.getInt .uint8 (currentPositionLiftPercentage path.endpointId) =
      .ok (c.int (currentPositionLiftPercentage path.endpointId)) := c.getInt_eq rfl
  have hposition : c.values.getInt .uint16 (currentPositionLift path.endpointId) =
      .ok (c.int (currentPositionLift path.endpointId)) := c.getInt_eq rfl
  simp only [command, hpercentage, hposition, isCommandAllowed_eq]
  cases modeAnswer path (c.int (mode path.endpointId)) with
  | none => rfl
  | some effects => rfl

/-- There is an answer to a command exactly in the modes that do not allow it. -/
theorem modeAnswer_isSome_iff (c : TypedCache) :
    (modeAnswer path (c.int (mode path.endpointId))).isSome = true ↔
      MotionBlocked c path.endpointId := by
  unfold MotionBlocked modeAnswer
  cases c.int (mode path.endpointId) with
  | none => simp
  | some mode =>
    dsimp only
    split_ifs with hcalibration hmaintenance
    · simp [hcalibration]
    · simp [hmaintenance]
    · simp [hcalibration, hmaintenance]

/-- A motion command that is not allowed is answered only if the mode is known. -/
theorem command_outcome (c : TypedCache) :
    ∃ em, command c.values path = .ok em ∧
      (¬ MotionBlocked c path.endpointId ∧ em.Forwards ∨
        MotionBlocked c path.endpointId ∧ c.int (mode path.endpointId) ≠ none ∧ em.Rejects path ∨
        c.int (mode path.endpointId) = none ∧ em.Drops) := by
  obtain ⟨em, hem, hforwards⟩ := @move_forwards path c
    (c.int (currentPositionLiftPercentage path.endpointId))
    (c.int (currentPositionLift path.endpointId))
  have hblocked := @modeAnswer_isSome_iff path c
  rw [command_eq, ← hblocked]
  cases hmode : c.int (mode path.endpointId) with
  | none => exact ⟨_, rfl, Or.inr (Or.inr ⟨rfl, rfl, rfl⟩)⟩
  | some mode =>
    unfold modeAnswer
    dsimp only
    split_ifs
    · exact ⟨_, rfl, Or.inr (Or.inl ⟨rfl, by simp, rfl, .failure, by decide, rfl⟩)⟩
    · exact ⟨_, rfl, Or.inr (Or.inl ⟨rfl, by simp, rfl, .busy, by decide, rfl⟩)⟩
    · exact ⟨em, hem, Or.inl ⟨Bool.false_ne_true, hforwards⟩⟩

end EmulateWindowCovering

theorem clusterId_of_isCommandEmulated (h : isCommandEmulated path = true) :
    path.clusterId = 0x0008 ∨ path.clusterId = 0x0101 ∨ path.clusterId = 0x0102 ∨
      path.clusterId = 0x0201 ∨ path.clusterId = 0x0300 := by
  simp only [isCommandEmulated, decide_eq_true_eq] at h
  unfold emulatedCommands at h
  split at h
  all_goals simp_all

/-- The other emulators always answer or forward; a rejected command was decoded. -/
theorem invokeEmulator_outcome (c : TypedCache) (h : isCommandEmulated path = true)
    (hne : path.clusterId ≠ 0x0102) :
    ∃ em, invokeEmulator c.values path decode = .ok em ∧
      (em.Forwards ∨ em.Rejects path ∧ decode 0 ≠ none ∧ path.clusterId ≠ 0x0101) := by
  rcases clusterId_of_isCommandEmulated h with hid | hid | hid | hid | hid
  · refine ⟨EmulateLevelControl.command c.values path decode, by simp only [invokeEmulator, hid], ?_⟩
    refine (EmulateLevelControl.command_outcome c.values).imp_right fun hr => ?_
    exact ⟨hr.1, hr.2, by rw [hid]; decide⟩
  · refine ⟨EmulateDoorLock.command c.values path decode, by simp only [invokeEmulator, hid], ?_⟩
    exact Or.inl (EmulateDoorLock.command_forwards c.values)
  · exact absurd hid hne
  · obtain ⟨em, hem, hforwards⟩ := @EmulateThermostat.command_forwards path decode c
    exact ⟨em, by simpa only [invokeEmulator, hid] using hem, Or.inl hforwards⟩
  · refine ⟨EmulateColorControl.command c.values path decode, by simp only [invokeEmulator, hid], ?_⟩
    refine (EmulateColorControl.command_outcome c.values).imp_right fun hr => ?_
    exact ⟨hr.1, hr.2, by rw [hid]; decide⟩

end Outcomes

end UnifyMatterBridge
