import UnifyMatterBridge.Command.Generic
import UnifyMatterBridge.Command.Setpoint

/-! `SetpointRaiseLower` from its arguments to the published message: the emulator clamps the
amount for one setpoint, and an error of the emulator is not looked at. -/
namespace UnifyMatterBridge

namespace EmulateThermostat

/-- The setpoints that a mode is about: `kHeat` (0), `kCool` (1) or `kBoth` (2). -/
def affected (mode : ℤ) : List Setpoint :=
  if mode = 0 then [heating]
  else if mode = 1 then [cooling]
  else if mode = 2 then [heating, cooling]
  else []

section Delivery

variable (c : TypedCache) (endpointId : ℕ)

/-- The limits are within 100 degrees, and a cached setpoint is within its limits. -/
structure WithinLimits (s : Setpoint) : Prop where
  min : -10000 ≤ s.minLimitIn c endpointId
  max : s.maxLimitIn c endpointId ≤ 10000
  cached : ∀ occupied, s.cached c endpointId = some occupied →
    s.minLimitIn c endpointId ≤ occupied ∧ occupied ≤ s.maxLimitIn c endpointId

def Keeps (s : Setpoint) (amount : ℤ) : Prop :=
  ∀ occupied, s.cached c endpointId = some occupied →
    s.minLimitIn c endpointId ≤ occupied + 10 * amount ∧
      occupied + 10 * amount ≤ s.maxLimitIn c endpointId

/-- What the handler should do: a message keeps every setpoint of the mode within its limits, and an
error of the emulator is neither sent nor reported as a success. -/
structure Delivers (mode amount : ℤ) (effects : List Effect) : Prop where
  message : ∀ topic message, .publish topic message ∈ effects →
    ∃ n, ("Amount", .integer n) ∈ message.fields ∧ ∀ s ∈ affected mode, Keeps c endpointId s n
  error : updateAmount c.values ⟨endpointId, 0x0201, 0⟩ mode amount = .ok none → Silent effects

/-- The mode is known, and the setpoint that it is about is cached; one is enough for both. -/
def Accepted (mode : ℤ) : Prop :=
  (mode = 0 ∧ heating.cached c endpointId ≠ none) ∨
    (mode = 1 ∧ cooling.cached c endpointId ≠ none) ∨ mode = 2

/-- The cooling setpoint has room for the amount, or the heating setpoint has no more room than it
on that side. -/
structure CoolingFits (amount : ℤ) (occupied : ℤ) : Prop where
  down : cooling.minLimitIn c endpointId ≤ occupied + 10 * amount ∨
    ∃ heated, heating.cached c endpointId = some heated ∧
      (heated - heating.minLimitIn c endpointId) / 10 ≤
        (occupied - cooling.minLimitIn c endpointId) / 10
  up : occupied + 10 * amount ≤ cooling.maxLimitIn c endpointId ∨
    ∃ heated, heating.cached c endpointId = some heated ∧
      (heating.maxLimitIn c endpointId - heated) / 10 ≤
        (cooling.maxLimitIn c endpointId - occupied) / 10

/-- Condition: the mode has a setpoint, and what is sent for both also fits the cooling setpoint. -/
structure DeliveryCondition (mode amount : ℤ) (sent : Prop) : Prop where
  accepted : Accepted c endpointId mode
  both : mode = 2 → sent → ∀ occupied, cooling.cached c endpointId = some occupied →
    CoolingFits c endpointId amount occupied

end Delivery

section Amount

variable {c : TypedCache} {endpointId : ℕ} {mode amount : ℤ}

def cut (s : Setpoint) (c : TypedCache) (endpointId : ℕ) (amount : ℤ) : ℤ :=
  match s.cached c endpointId with
  | none => amount
  | some occupied => max (-((occupied - s.minLimitIn c endpointId) / 10))
      (min amount ((s.maxLimitIn c endpointId - occupied) / 10))

theorem updateSetpoint_eq_cut {s : Setpoint} (hs : s = heating ∨ s = cooling)
    (hwithin : WithinLimits c endpointId s) (hamount : IntType.int8.InRange amount) (both : Bool) :
    updateSetpoint c.values ⟨endpointId, 0x0201, 0⟩ s amount both =
      .ok (if (s.cached c endpointId).isSome ∨ both = true then some (cut s c endpointId amount)
        else none) := by
  rw [updateSetpoint_eq c hs, cut]
  cases hcached : s.cached c endpointId with
  | none => cases both <;> rfl
  | some occupied =>
    obtain ⟨hlo, hhi⟩ := hwithin.cached occupied hcached
    have hmin := hwithin.min
    have hmax := hwithin.max
    have hbounds := IntType.inRange_int8.mp hamount
    have hsum : IntType.int16.InRange (occupied + amount * 10) :=
      IntType.inRange_int16.mpr ⟨by omega, by omega⟩
    dsimp only
    rw [clamp_of_inRange hamount hlo hhi hsum]
    rfl

theorem keeps_cut {s : Setpoint} (hwithin : WithinLimits c endpointId s) :
    Keeps c endpointId s (cut s c endpointId amount) := by
  intro occupied hcached
  obtain ⟨hlo, hhi⟩ := hwithin.cached occupied hcached
  simp only [cut, hcached]
  omega

/-- What is left for the heating setpoint fits the cooling setpoint. -/
theorem keeps_cooling_iff (hheating : WithinLimits c endpointId heating)
    (hcooling : WithinLimits c endpointId cooling) :
    Keeps c endpointId cooling (cut heating c endpointId amount) ↔
      ∀ occupied, cooling.cached c endpointId = some occupied →
        CoolingFits c endpointId amount occupied := by
  apply forall₂_congr
  intro occupied hcached
  obtain ⟨hlo, hhi⟩ := hcooling.cached occupied hcached
  cases hheated : heating.cached c endpointId with
  | none =>
    have hcut : cut heating c endpointId amount = amount := by simp only [cut, hheated]
    rw [hcut]
    constructor
    · exact fun ⟨hdown, hup⟩ => ⟨Or.inl hdown, Or.inl hup⟩
    · rintro ⟨hdown, hup⟩
      rw [hheated] at hdown hup
      simpa using And.intro hdown hup
  | some heated =>
    obtain ⟨hlo', hhi'⟩ := hheating.cached heated hheated
    have hcut : cut heating c endpointId amount =
        max (-((heated - heating.minLimitIn c endpointId) / 10))
          (min amount ((heating.maxLimitIn c endpointId - heated) / 10)) := by
      simp only [cut, hheated]
    have hfits : CoolingFits c endpointId amount occupied ↔
        (cooling.minLimitIn c endpointId ≤ occupied + 10 * amount ∨
          (heated - heating.minLimitIn c endpointId) / 10 ≤
            (occupied - cooling.minLimitIn c endpointId) / 10) ∧
        (occupied + 10 * amount ≤ cooling.maxLimitIn c endpointId ∨
          (heating.maxLimitIn c endpointId - heated) / 10 ≤
            (cooling.maxLimitIn c endpointId - occupied) / 10) := by
      constructor
      · rintro ⟨hdown, hup⟩
        rw [hheated] at hdown hup
        simpa using And.intro hdown hup
      · rintro ⟨hdown, hup⟩
        exact ⟨hdown.imp_right fun h => ⟨heated, hheated, h⟩,
          hup.imp_right fun h => ⟨heated, hheated, h⟩⟩
    rw [hcut, hfits]
    omega

theorem updateAmount_eq (hheating : WithinLimits c endpointId heating)
    (hcooling : WithinLimits c endpointId cooling) (hamount : IntType.int8.InRange amount) :
    (Accepted c endpointId mode ∧
      updateAmount c.values ⟨endpointId, 0x0201, 0⟩ mode amount =
        .ok (some (cut (if mode = 1 then cooling else heating) c endpointId amount))) ∨
    (¬ Accepted c endpointId mode ∧
      updateAmount c.values ⟨endpointId, 0x0201, 0⟩ mode amount = .ok none) := by
  have hheat := fun both => updateSetpoint_eq_cut (Or.inl rfl) hheating hamount both
  have hcool := fun both => updateSetpoint_eq_cut (Or.inr rfl) hcooling hamount both
  unfold updateAmount updateHeatingSetpoint updateCoolingSetpoint
  simp only [hheat, hcool, Accepted]
  by_cases h0 : mode = 0
  · subst h0
    cases heating.cached c endpointId with
    | none => right; simp
    | some occupied => left; simp
  · by_cases h1 : mode = 1
    · subst h1
      cases cooling.cached c endpointId with
      | none => right; simp
      | some occupied => left; simp
    · by_cases h2 : mode = 2
      · left
        simp [h2]
      · right
        simp [h0, h1, h2]

/-- The amount sent keeps the setpoints of an accepted mode if and only if it fits the cooling
setpoint too. -/
theorem keeps_affected_iff (hheating : WithinLimits c endpointId heating)
    (hcooling : WithinLimits c endpointId cooling) (haccepted : Accepted c endpointId mode) :
    (∀ s ∈ affected mode,
      Keeps c endpointId s (cut (if mode = 1 then cooling else heating) c endpointId amount)) ↔
      (mode = 2 → ∀ occupied, cooling.cached c endpointId = some occupied →
        CoolingFits c endpointId amount occupied) := by
  rcases haccepted with ⟨rfl, -⟩ | ⟨rfl, -⟩ | rfl
  · simp [affected, keeps_cut hheating]
  · simp [affected, keeps_cut hcooling]
  · simp [affected, keeps_cut hheating, keeps_cooling_iff hheating hcooling]

end Amount

end EmulateThermostat

namespace ClusterCommandHandler

open EmulateThermostat

section Payload

variable {data : Args} {mode : ℕ} {label : Option String} {amount : ℤ}

theorem setpointPayload_eq (hmode : data "Mode" = some (.enum mode label)) (amount : ℤ) :
    (addArguments ["Mode"] data .null).setField "Amount" (.integer amount) =
      .object [("Amount", .integer amount), ("Mode", ArgValue.labelJson label)] := by
  have hnull : addArguments ["Mode"] data .null =
      .object [("Mode", ArgValue.labelJson label)] := by
    simp [addArguments, hmode, Json.setField, ArgValue.toJson]
  rw [hnull]
  rfl

theorem commandMessage_setpointPayload (label : Option String) (amount : ℤ) :
    commandMessage (.object [("Amount", .integer amount), ("Mode", ArgValue.labelJson label)]) =
      .ok (.object [("Amount", .integer amount), ("Mode", ArgValue.labelJson label)]) := rfl

theorem amount_eq_of_mem {n : ℤ}
    (h : ("Amount", Json.integer n) ∈ Json.fields
      (.object [("Amount", .integer amount), ("Mode", ArgValue.labelJson label)])) : n = amount := by
  cases h with
  | head => rfl
  | tail _ h =>
    have hkey : "Amount" = "Mode" := congrArg Prod.fst (List.mem_singleton.mp h)
    exact absurd hkey (by decide)

end Payload

variable {env : SendEnv} {now : ℤ} {c : TypedCache} {pending : PendingTable} {inv : Invocation}
  {data : Args} {mode : ℕ} {label : Option String} {amount : ℤ} {unid : String} {ep : ℕ}

theorem emulate_thermostat (hid : inv.commandId = 0) (hdecode : inv.decode 0 = some data)
    (hmode : data "Mode" = some (.enum mode label)) (hamount : data "Amount" = some (.number amount))
    {left : Option ℤ}
    (hupdate : updateAmount c.values ⟨inv.endpointId, 0x0201, 0⟩ mode amount = .ok left) :
    thermostat.emulate c.values inv = .ok (.forward c.values 1 "SetpointRaiseLower"
      (match left with
      | none => .null
      | some n => .object [("Amount", .integer n), ("Mode", ArgValue.labelJson label)])) := by
  have hpath : thermostat.requestPath inv = ⟨inv.endpointId, 0x0201, 0⟩ := by
    rw [requestPath, hid]
    rfl
  have hnumber : data.number "Mode" = mode ∧ data.number "Amount" = amount := by
    simp [Args.number, hmode, hamount]
  have hemulate : thermostat.emulate c.values inv =
      EmulateThermostat.command c.values ⟨inv.endpointId, 0x0201, 0⟩ inv.decode := by
    rw [emulate, hpath]
    rfl
  rw [hemulate, EmulateThermostat.command, hdecode]
  simp only [hnumber.1, hnumber.2, hupdate]
  cases left with
  | none => rfl
  | some n => exact congrArg (fun payload => Except.ok (Emulation.forward c.values 1
      "SetpointRaiseLower" payload)) (setpointPayload_eq hmode n)

theorem effects_setpointRaiseLower (hb : env.bridgedEndpoint inv.endpointId = some (unid, ep))
    (hid : inv.commandId = 0) (hconsumed : inv.decode 1 = none) {payload message : Json}
    (hem : thermostat.emulate c.values inv =
      .ok (.forward c.values 1 "SetpointRaiseLower" payload))
    (hmessage : commandMessage payload = .ok message) :
    (thermostat.invokeCommand env now c.values pending inv).effects =
      .addStatus (thermostat.requestPath inv) .success ::
        match commandTopic env inv.exchange unid ep with
        | none => []
        | some topic => [.publish (topic ++ "/" ++ "Thermostat" ++ "/Commands/" ++
            "SetpointRaiseOrLower") message] := by
  have hswitch : thermostat.switch inv.commandId =
      some ⟨0, some "SetpointRaiseOrLower", ["Mode", "Amount"], ""⟩ := by
    rw [hid]
    rfl
  rw [invokeCommand_of_emulate hb hem, proceed_forward hswitch rfl (by decide) rfl, hconsumed]
  dsimp only
  rw [sendUnifyMqttCmd_no_response hb, hmessage]
  cases commandTopic env inv.exchange unid ep <;> rfl

/-- A setpoint command does what it should if and only if its mode has a setpoint and the amount
that is left for heating, when it is meant for both, fits the cooling setpoint. -/
theorem invokeCommand_delivers_iff (hid : inv.commandId = 0) (hdecode : inv.decode 0 = some data)
    (hconsumed : inv.decode 1 = none) (hmode : data "Mode" = some (.enum mode label))
    (hamount : data "Amount" = some (.number amount)) (hrange : IntType.int8.InRange amount)
    (hheating : WithinLimits c inv.endpointId heating)
    (hcooling : WithinLimits c inv.endpointId cooling) :
    Delivers c inv.endpointId mode amount
        (thermostat.invokeCommand env now c.values pending inv).effects ↔
      ∀ unid ep, env.bridgedEndpoint inv.endpointId = some (unid, ep) →
        DeliveryCondition c inv.endpointId mode amount
          ((commandTopic env inv.exchange unid ep).isSome = true) := by
  cases hb : env.bridgedEndpoint inv.endpointId with
  | none =>
    rw [invokeCommand_of_not_bridged hb]
    refine iff_of_true ⟨?_, ?_⟩ ?_
    · exact fun topic message hmem => absurd hmem List.not_mem_nil
    · exact fun _ e hmem => absurd hmem List.not_mem_nil
    · exact fun unid ep hsome => absurd hsome (Option.some_ne_none _).symm
  | some node =>
    obtain ⟨unid, ep⟩ := node
    have hforall : (∀ unid' ep', some (unid, ep) = some (unid', ep') →
        DeliveryCondition c inv.endpointId mode amount
          ((commandTopic env inv.exchange unid' ep').isSome = true)) ↔
        DeliveryCondition c inv.endpointId mode amount
          ((commandTopic env inv.exchange unid ep).isSome = true) := by
      constructor
      · exact fun h => h unid ep rfl
      · rintro h _ _ ⟨⟩
        exact h
    rw [hforall]
    rcases @updateAmount_eq c inv.endpointId mode amount hheating hcooling hrange with
      ⟨haccepted, hupdate⟩ | ⟨hnot, hupdate⟩
    · have hem := emulate_thermostat hid hdecode hmode hamount hupdate
      rw [effects_setpointRaiseLower hb hid hconsumed hem (commandMessage_setpointPayload _ _)]
      have hkeeps := @keeps_affected_iff c inv.endpointId mode amount hheating hcooling haccepted
      have hno : updateAmount c.values ⟨inv.endpointId, 0x0201, 0⟩ mode amount ≠ .ok none := by
        rw [hupdate]
        exact fun h => Option.some_ne_none _ (Except.ok.inj h)
      cases htopic : commandTopic env inv.exchange unid ep with
      | none =>
        refine iff_of_true ⟨?_, fun e => absurd e hno⟩ ⟨haccepted, ?_⟩
        · intro topic message hmem
          cases List.mem_singleton.mp hmem
        · exact fun _ hsent => absurd hsent Bool.false_ne_true
      | some topic =>
        constructor
        · intro hdelivers
          obtain ⟨n, hn, hkept⟩ :=
            hdelivers.message _ _ (List.mem_cons_of_mem _ (List.mem_singleton.mpr rfl))
          rw [amount_eq_of_mem hn] at hkept
          exact ⟨haccepted, fun hboth _ => hkeeps.mp hkept hboth⟩
        · intro hcondition
          refine ⟨fun _ message hmem => ?_, fun e => absurd e hno⟩
          cases List.mem_singleton.mp (List.mem_of_ne_of_mem (by rintro ⟨⟩) hmem)
          exact ⟨_, List.mem_cons_self, hkeeps.mpr fun hboth => hcondition.both hboth rfl⟩
    · have hem := emulate_thermostat hid hdecode hmode hamount hupdate
      rw [effects_setpointRaiseLower hb hid hconsumed hem rfl]
      refine iff_of_false (fun hdelivers => ?_) (fun hcondition => hnot hcondition.accepted)
      have hsilent := hdelivers.error hupdate _ List.mem_cons_self
      simp [Effect.isSilent] at hsilent

section Example

def raiseLower (mode : ℕ) (label : String) (amount : ℤ) : Args := fun key =>
  if key = "Mode" then some (.enum mode (some label))
  else if key = "Amount" then some (.number amount)
  else none

def raiseLowerCommand (mode : ℕ) (label : String) (amount : ℤ) : Invocation :=
  ⟨2, 0, .unicast 1, 0, fun n => if n = 0 then some (raiseLower mode label amount) else none⟩

/-- One degree up from 20 °C. -/
theorem invokeCommand_delivers_twenty :
    Delivers (heatedTo 2000 (by decide)).typed 2 0 10
      (thermostat.invokeCommand oneEndpoint 0 (heatedTo 2000 (by decide)).typed.values
        (fun _ => none) (raiseLowerCommand 0 "Heat" 10)).effects := by
  apply (@invokeCommand_delivers_iff oneEndpoint 0 (heatedTo 2000 (by decide)).typed (fun _ => none)
    (raiseLowerCommand 0 "Heat" 10) (raiseLower 0 "Heat" 10) 0 (some "Heat") 10 rfl rfl rfl rfl rfl
    (by decide) ?_ ?_).mpr
  · rintro unid ep -
    refine ⟨Or.inl ⟨rfl, ?_⟩, fun hboth => absurd hboth (by decide)⟩
    exact Option.some_ne_none 2000
  · refine ⟨by decide, by decide, ?_⟩
    rintro _ ⟨⟩
    decide
  · refine ⟨by decide, by decide, ?_⟩
    rintro _ ⟨⟩

/-- Without a setpoint the command is sent without an amount. -/
theorem not_delivers_without_setpoint :
    ¬ ∀ (env : SendEnv) (now : ℤ) (c : TypedCache) (pending : PendingTable) (inv : Invocation)
        (data : Args) (mode : ℕ) (label : Option String) (amount : ℤ), inv.commandId = 0 →
      inv.decode 0 = some data → inv.decode 1 = none → data "Mode" = some (.enum mode label) →
      data "Amount" = some (.number amount) → IntType.int8.InRange amount →
      WithinLimits c inv.endpointId heating → WithinLimits c inv.endpointId cooling →
      Delivers c inv.endpointId mode amount
        (thermostat.invokeCommand env now c.values pending inv).effects := by
  intro h
  have hdelivers := h oneEndpoint 0 TypedCache.empty (fun _ => none) (raiseLowerCommand 0 "Heat" 10)
    (raiseLower 0 "Heat" 10) 0 (some "Heat") 10 rfl rfl rfl rfl rfl (by decide)
    ⟨by decide, by decide, by rintro _ ⟨⟩⟩ ⟨by decide, by decide, by rintro _ ⟨⟩⟩
  have hsilent := hdelivers.error rfl _ List.mem_cons_self
  exact Bool.false_ne_true hsilent

end Example

end ClusterCommandHandler

end UnifyMatterBridge
