import Mathlib.Data.Nat.Notation

/-! The tables of the generated cluster handlers (`command_translator`): for every cluster the
commands of the switch in `InvokeCommand`, with the name of the Unify command, the keys of its
arguments and the name of its response. -/
namespace UnifyMatterBridge

/-- One case of the switch. A command that Unify does not have is passed to its `Invoke_` method;
an empty response name means that no response is awaited. -/
structure CommandCase where
  id : ℕ
  cmd : Option String
  arguments : List String
  cmdResponse : String
  deriving DecidableEq, Repr

structure ClusterCommandHandler where
  clusterId : ℕ
  clusterName : String
  commands : List CommandCase
  deriving DecidableEq, Repr

namespace ClusterCommandHandler

/-- The case taken for a command id. -/
def switch (h : ClusterCommandHandler) (commandId : ℕ) : Option CommandCase :=
  h.commands.find? fun c => c.id = commandId

def identify : ClusterCommandHandler where
  clusterId := 3
  clusterName := "Identify"
  commands := [
    ⟨0, some "Identify", ["IdentifyTime"], ""⟩,
    ⟨64, some "TriggerEffect", ["EffectIdentifier", "EffectVariant"], ""⟩]

def groups : ClusterCommandHandler where
  clusterId := 4
  clusterName := "Groups"
  commands := [
    ⟨0, some "AddGroup", ["GroupId", "GroupName"], ""⟩,
    ⟨1, some "ViewGroup", ["GroupId"], ""⟩,
    ⟨2, some "GetGroupMembership", ["GroupList"], ""⟩,
    ⟨3, some "RemoveGroup", ["GroupId"], ""⟩,
    ⟨4, some "RemoveAllGroups", [], ""⟩,
    ⟨5, some "AddGroupIfIdentifying", ["GroupId", "GroupName"], ""⟩]

def onOff : ClusterCommandHandler where
  clusterId := 6
  clusterName := "OnOff"
  commands := [
    ⟨0, some "Off", [], ""⟩,
    ⟨1, some "On", [], ""⟩,
    ⟨2, some "Toggle", [], ""⟩,
    ⟨64, some "OffWithEffect", ["EffectIdentifier", "EffectVariant"], ""⟩,
    ⟨65, some "OnWithRecallGlobalScene", [], ""⟩,
    ⟨66, some "OnWithTimedOff", ["OnOffControl", "OnTime", "OffWaitTime"], ""⟩]

def levelControl : ClusterCommandHandler where
  clusterId := 8
  clusterName := "Level"
  commands := [
    ⟨0, some "MoveToLevel", ["Level", "TransitionTime", "OptionsMask", "OptionsOverride"], ""⟩,
    ⟨1, some "Move", ["MoveMode", "Rate", "OptionsMask", "OptionsOverride"], ""⟩,
    ⟨2, some "Step",
      ["StepMode", "StepSize", "TransitionTime", "OptionsMask", "OptionsOverride"], ""⟩,
    ⟨3, some "Stop", ["OptionsMask", "OptionsOverride"], ""⟩,
    ⟨4, some "MoveToLevelWithOnOff",
      ["Level", "TransitionTime", "OptionsMask", "OptionsOverride"], ""⟩,
    ⟨5, some "MoveWithOnOff", ["MoveMode", "Rate", "OptionsMask", "OptionsOverride"], ""⟩,
    ⟨6, some "StepWithOnOff",
      ["StepMode", "StepSize", "TransitionTime", "OptionsMask", "OptionsOverride"], ""⟩,
    ⟨7, some "StopWithOnOff", ["OptionsMask", "OptionsOverride"], ""⟩,
    ⟨8, some "MoveToClosestFrequency", ["Frequency"], ""⟩]

def doorLock : ClusterCommandHandler where
  clusterId := 257
  clusterName := "DoorLock"
  commands := [
    ⟨0, some "LockDoor", ["PINOrRFIDCode"], "LockDoorResponse"⟩,
    ⟨1, some "UnlockDoor", ["PINOrRFIDCode"], "UnlockDoorResponse"⟩,
    ⟨3, some "UnlockWithTimeout",
      ["TimeoutInSeconds", "PINOrRFIDCode"], "UnlockWithTimeoutResponse"⟩,
    -- SetWeekDaySchedule
    ⟨11, some "SetWeekdaySchedule",
      ["ScheduleID", "UserID", "DaysMask", "StartHour",
        "StartMinute", "EndHour", "EndMinute"], "SetWeekdayScheduleResponse"⟩,
    -- GetWeekDaySchedule
    ⟨12, some "GetWeekdaySchedule",
      ["ScheduleID", "UserID"], "GetWeekdayScheduleResponse"⟩,
    -- ClearWeekDaySchedule
    ⟨13, some "ClearWeekdaySchedule",
      ["ScheduleID", "UserID"], "ClearWeekdayScheduleResponse"⟩,
    ⟨14, some "SetYearDaySchedule",
      ["ScheduleID", "UserID", "LocalStartTime", "LocalEndTime"], "SetYearDayScheduleResponse"⟩,
    ⟨15, some "GetYearDaySchedule", ["ScheduleID", "UserID"], "GetYearDayScheduleResponse"⟩,
    ⟨16, some "ClearYearDaySchedule", ["ScheduleID", "UserID"], "ClearYearDayScheduleResponse"⟩,
    ⟨17, some "SetHolidaySchedule",
      ["HolidayScheduleID", "LocalStartTime",
        "LocalEndTime", "OperatingModeDuringHoliday"], "SetHolidayScheduleResponse"⟩,
    ⟨18, some "GetHolidaySchedule", ["HolidayScheduleID"], "GetHolidayScheduleResponse"⟩,
    ⟨19, some "ClearHolidaySchedule", ["HolidayScheduleID"], "ClearHolidayScheduleResponse"⟩,
    ⟨26, some "SetUser",
      ["OperationType", "UserIndex", "UserName", "UserUniqueID",
        "UserStatus", "UserType", "CredentialRule"], ""⟩,
    ⟨27, some "GetUser", ["UserIndex"], ""⟩,
    ⟨29, some "ClearUser", ["UserIndex"], ""⟩,
    ⟨34, some "SetCredential",
      ["OperationType", "Credential", "CredentialData", "UserIndex", "UserStatus", "UserType"], ""⟩,
    ⟨36, some "GetCredentialStatus", ["Credential"], ""⟩,
    ⟨38, some "ClearCredential", ["Credential"], ""⟩,
    ⟨39, some "UnboltDoor", ["PINCode"], ""⟩,
    -- Invoke_SetAliroReaderConfig
    ⟨40, none, [], ""⟩,
    -- Invoke_ClearAliroReaderConfig
    ⟨41, none, [], ""⟩]

def windowCovering : ClusterCommandHandler where
  clusterId := 258
  clusterName := "WindowCovering"
  commands := [
    ⟨0, some "UpOrOpen", [], ""⟩,
    ⟨1, some "DownOrClose", [], ""⟩,
    -- StopMotion
    ⟨2, some "Stop", [], ""⟩,
    ⟨4, some "GoToLiftValue", ["LiftValue"], ""⟩,
    ⟨5, some "GoToLiftPercentage", ["PercentageLiftValue"], ""⟩,
    ⟨7, some "GoToTiltValue", ["TiltValue"], ""⟩,
    ⟨8, some "GoToTiltPercentage", ["PercentageTiltValue"], ""⟩]

def thermostat : ClusterCommandHandler where
  clusterId := 513
  clusterName := "Thermostat"
  commands := [
    -- SetpointRaiseLower
    ⟨0, some "SetpointRaiseOrLower", ["Mode", "Amount"], ""⟩,
    ⟨1, some "SetWeeklySchedule", ["NumberOfTransitions", "DayOfWeek", "Mode", "Transitions"], ""⟩,
    ⟨2, some "GetWeeklySchedule", ["DaysToReturn", "ModeToReturn"], ""⟩,
    ⟨3, some "ClearWeeklySchedule", [], ""⟩,
    -- Invoke_SetActiveScheduleRequest
    ⟨5, none, [], ""⟩,
    -- Invoke_SetActivePresetRequest
    ⟨6, none, [], ""⟩,
    -- Invoke_AtomicRequest
    ⟨254, none, [], ""⟩]

def colorControl : ClusterCommandHandler where
  clusterId := 768
  clusterName := "ColorControl"
  commands := [
    ⟨0, some "MoveToHue",
      ["Hue", "Direction", "TransitionTime", "OptionsMask", "OptionsOverride"], ""⟩,
    ⟨1, some "MoveHue", ["MoveMode", "Rate", "OptionsMask", "OptionsOverride"], ""⟩,
    ⟨2, some "StepHue",
      ["StepMode", "StepSize", "TransitionTime", "OptionsMask", "OptionsOverride"], ""⟩,
    ⟨3, some "MoveToSaturation",
      ["Saturation", "TransitionTime", "OptionsMask", "OptionsOverride"], ""⟩,
    ⟨4, some "MoveSaturation", ["MoveMode", "Rate", "OptionsMask", "OptionsOverride"], ""⟩,
    ⟨5, some "StepSaturation",
      ["StepMode", "StepSize", "TransitionTime", "OptionsMask", "OptionsOverride"], ""⟩,
    ⟨6, some "MoveToHueAndSaturation",
      ["Hue", "Saturation", "TransitionTime", "OptionsMask", "OptionsOverride"], ""⟩,
    ⟨7, some "MoveToColor",
      ["ColorX", "ColorY", "TransitionTime", "OptionsMask", "OptionsOverride"], ""⟩,
    ⟨8, some "MoveColor", ["RateX", "RateY", "OptionsMask", "OptionsOverride"], ""⟩,
    ⟨9, some "StepColor",
      ["StepX", "StepY", "TransitionTime", "OptionsMask", "OptionsOverride"], ""⟩,
    ⟨10, some "MoveToColorTemperature",
      ["ColorTemperatureMireds", "TransitionTime", "OptionsMask", "OptionsOverride"], ""⟩,
    ⟨64, some "EnhancedMoveToHue",
      ["EnhancedHue", "Direction", "TransitionTime", "OptionsMask", "OptionsOverride"], ""⟩,
    ⟨65, some "EnhancedMoveHue", ["MoveMode", "Rate", "OptionsMask", "OptionsOverride"], ""⟩,
    ⟨66, some "EnhancedStepHue",
      ["StepMode", "StepSize", "TransitionTime", "OptionsMask", "OptionsOverride"], ""⟩,
    ⟨67, some "EnhancedMoveToHueAndSaturation",
      ["EnhancedHue", "Saturation", "TransitionTime", "OptionsMask", "OptionsOverride"], ""⟩,
    ⟨68, some "ColorLoopSet",
      ["UpdateFlags", "Action", "Direction", "Time",
        "StartHue", "OptionsMask", "OptionsOverride"], ""⟩,
    ⟨71, some "StopMoveStep", ["OptionsMask", "OptionsOverride"], ""⟩,
    ⟨75, some "MoveColorTemperature",
      ["MoveMode", "Rate", "ColorTemperatureMinimumMireds",
        "ColorTemperatureMaximumMireds", "OptionsMask", "OptionsOverride"], ""⟩,
    ⟨76, some "StepColorTemperature",
      ["StepMode", "StepSize", "TransitionTime", "ColorTemperatureMinimumMireds",
        "ColorTemperatureMaximumMireds", "OptionsMask", "OptionsOverride"], ""⟩]

def illuminanceMeasurement : ClusterCommandHandler where
  clusterId := 1024
  clusterName := "IlluminanceMeasurement"
  commands := []

def temperatureMeasurement : ClusterCommandHandler where
  clusterId := 1026
  clusterName := "TemperatureMeasurement"
  commands := []

def pressureMeasurement : ClusterCommandHandler where
  clusterId := 1027
  clusterName := "PressureMeasurement"
  commands := []

def flowMeasurement : ClusterCommandHandler where
  clusterId := 1028
  clusterName := "FlowMeasurement"
  commands := []

def relativeHumidityMeasurement : ClusterCommandHandler where
  clusterId := 1029
  clusterName := "RelativityHumidity"
  commands := []

def occupancySensing : ClusterCommandHandler where
  clusterId := 1030
  clusterName := "OccupancySensing"
  commands := []

def all : List ClusterCommandHandler :=
  [identify, groups, onOff, levelControl, doorLock, windowCovering, thermostat, colorControl,
    illuminanceMeasurement, temperatureMeasurement, pressureMeasurement, flowMeasurement,
    relativeHumidityMeasurement, occupancySensing]

end ClusterCommandHandler

end UnifyMatterBridge
