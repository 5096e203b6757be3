import UnifyMatterBridge.Command.Invoke

/-! The generic path of a generated cluster handler, on which no emulator is registered, and the
move and step commands whose emulators rebuild what it would send. -/
namespace UnifyMatterBridge

namespace ClusterCommandHandler

section Proceed

variable (h : ClusterCommandHandler) (env : SendEnv) (now : ℤ) (cache : AttributeCache)
  (pending : PendingTable) (inv : Invocation)

/-- What `InvokeCommand` does after the emulation. -/
def proceed (em : Emulation) : InvokeResult :=
  if em.cdata.cmdEmulationCompleted then ⟨em.effects, pending, em.cache, none⟩
  else
    let t := h.translate inv em
    let s := h.answer env now pending inv t
    ⟨em.effects ++ t.effects ++ s.effects, s.pending, em.cache, s.exception⟩

/-- `InvokeCommand` with no emulator registered. -/
def invokeGeneric : InvokeResult :=
  match env.bridgedEndpoint inv.endpointId with
  | none => ⟨[], pending, cache, none⟩
  | some _ => h.proceed env now pending inv (.forward cache 0 "" .null)

end Proceed

variable {h : ClusterCommandHandler} {env : SendEnv} {now : ℤ} {cache : AttributeCache}
  {pending : PendingTable} {inv : Invocation} {node : String × ℕ} {c : CommandCase} {data : Args}
  {cmd : String}

theorem invokeCommand_of_not_bridged (hb : env.bridgedEndpoint inv.endpointId = none) :
    h.invokeCommand env now cache pending inv = ⟨[], pending, cache, none⟩ := by
  simp only [invokeCommand, hb]

theorem invokeCommand_of_emulate {em : Emulation}
    (hb : env.bridgedEndpoint inv.endpointId = some node) (hem : h.emulate cache inv = .ok em) :
    h.invokeCommand env now cache pending inv = h.proceed env now pending inv em := by
  simp only [invokeCommand, hb, hem]
  rfl

theorem proceed_reject {decodes : ℕ} {path : CommandPath} {status : ImStatus} :
    h.proceed env now pending inv (.reject cache decodes path status cmd) =
      ⟨[.addStatus path status], pending, cache, none⟩ := rfl

/-- A mapped command that awaits no response is answered with success and sent, with the payload of
the emulator unless there is something left to decode. -/
theorem proceed_forward {decodes : ℕ} {name : String} {payload : Json}
    (hc : h.switch inv.commandId = some c) (hcmd : c.cmd = some cmd) (hne : cmd ≠ "")
    (hr : c.cmdResponse = "") :
    h.proceed env now pending inv (.forward cache decodes name payload) =
      let sent := sendUnifyMqttCmd env now pending h.clusterName (h.requestPath inv) inv.exchange
        inv.handle cmd (match inv.decode decodes with
          | some data => addArguments c.arguments data payload
          | none => payload) ""
      ⟨.addStatus (h.requestPath inv) .success :: sent.effects, sent.pending, cache,
        sent.exception⟩ := by
  have htranslate : h.translate inv (.forward cache decodes name payload) =
      ⟨[], cmd, match inv.decode decodes with
        | some data => addArguments c.arguments data payload
        | none => payload, ""⟩ := by
    unfold translate
    simp only [hc, hcmd, hr]
    rfl
  have hanswer : ∀ t : Translation, t.cmd = cmd → t.cmdResponse = "" →
      h.answer env now pending inv t =
        let sent := sendUnifyMqttCmd env now pending h.clusterName (h.requestPath inv) inv.exchange
          inv.handle cmd t.payload ""
        { sent with effects := .addStatus (h.requestPath inv) .success :: sent.effects } := by
    rintro ⟨effects, _, payload', _⟩ rfl rfl
    simp [answer, hne]
  unfold proceed
  rw [if_neg (by exact Bool.false_ne_true), htranslate]
  dsimp only
  rw [hanswer _ rfl rfl]
  rfl

section Motionless

variable (data : Args)

/-- A rate of zero in a mode up (1) or down (3). -/
def ZeroRate : Prop :=
  (data.number "MoveMode" = 1 ∨ data.number "MoveMode" = 3) ∧ data.number "Rate" = 0

/-- A move or step command that asks for no movement. -/
def Motionless (clusterId commandId : ℕ) : Prop :=
  (clusterId = 0x0300 ∧ commandId ∈ [1, 4, 65, 75] ∧ ZeroRate data) ∨
    (clusterId = 0x0300 ∧ commandId ∈ [2, 5, 66, 76] ∧ data.number "StepSize" = 0) ∨
    (clusterId = 0x0300 ∧ commandId = 9 ∧ data.number "StepX" = 0 ∧ data.number "StepY" = 0) ∨
    (clusterId = 0x0008 ∧ commandId = 1 ∧
      (data "Rate" = some .null ∨ data.number "Rate" = 0))

end Motionless

/-- An emulator that rejects some arguments and copies the others under the keys of the switch. -/
theorem invokeCommand_of_copied (invalid : Prop) [Decidable invalid] {rejected : String}
    (hb : env.bridgedEndpoint inv.endpointId = some node)
    (hc : h.switch inv.commandId = some c) (hcmd : c.cmd = some cmd) (hne : cmd ≠ "")
    (hr : c.cmdResponse = "") (hdecode : inv.decode 0 = some data) (hconsumed : inv.decode 1 = none)
    (hem : h.emulate cache inv = .ok (if invalid then
        .reject cache 1 (h.requestPath inv) .invalidCommand rejected
      else .forward cache 1 cmd (addArguments c.arguments data .null))) :
    h.invokeCommand env now cache pending inv =
      if invalid then ⟨[.addStatus (h.requestPath inv) .invalidCommand], pending, cache, none⟩
      else h.invokeGeneric env now cache pending inv := by
  rw [invokeCommand_of_emulate hb hem]
  by_cases hinvalid : invalid
  · rw [if_pos hinvalid, if_pos hinvalid]
    exact proceed_reject
  · have hgeneric : h.invokeGeneric env now cache pending inv =
        h.proceed env now pending inv (.forward cache 0 "" .null) := by
      simp only [invokeGeneric, hb]
    rw [if_neg hinvalid, if_neg hinvalid, hgeneric, proceed_forward hc hcmd hne hr,
      proceed_forward hc hcmd hne hr, hdecode, hconsumed]

theorem addStatus_invokeGeneric {path : CommandPath} {status : ImStatus}
    (hc : h.switch inv.commandId = some c) (hcmd : c.cmd = some cmd) (hne : cmd ≠ "")
    (hr : c.cmdResponse = "")
    (hmem : .addStatus path status ∈ (h.invokeGeneric env now cache pending inv).effects) :
    status = .success := by
  unfold invokeGeneric at hmem
  cases hb : env.bridgedEndpoint inv.endpointId with
  | none =>
    rw [hb] at hmem
    cases hmem
  | some node =>
    obtain ⟨unid, ep⟩ := node
    rw [hb] at hmem
    dsimp only at hmem
    rw [proceed_forward hc hcmd hne hr] at hmem
    cases hmem with
    | head => rfl
    | tail _ hmem =>
      rw [sendUnifyMqttCmd_no_response hb] at hmem
      cases htopic : commandTopic env inv.exchange unid ep with
      | none =>
        rw [htopic] at hmem
        cases hmem
      | some topic =>
        rw [htopic] at hmem
        dsimp only at hmem
        split at hmem
        · cases hmem
        · cases List.mem_singleton.mp hmem

section Motionless

variable {commandId : ℕ}

theorem invalidMove_iff (hid : commandId ∈ [1, 4, 65, 75]) :
    EmulateColorControl.invalidMove data = true ↔ Motionless data 0x0300 commandId := by
  have hne : commandId ∉ [2, 5, 66, 76] ∧ commandId ≠ 9 := by
    simp only [List.mem_cons, List.not_mem_nil, or_false] at hid ⊢
    omega
  simp [Motionless, ZeroRate, EmulateColorControl.invalidMove, hid, hne.1, hne.2]

theorem invalidStep_iff (hid : commandId ∈ [2, 5, 66, 76]) :
    EmulateColorControl.invalidStep data = true ↔ Motionless data 0x0300 commandId := by
  have hne : commandId ∉ [1, 4, 65, 75] ∧ commandId ≠ 9 := by
    simp only [List.mem_cons, List.not_mem_nil, or_false] at hid ⊢
    omega
  simp [Motionless, EmulateColorControl.invalidStep, hid, hne.1, hne.2]

theorem invalidStepColor_iff :
    EmulateColorControl.invalidStepColor data = true ↔ Motionless data 0x0300 9 := by
  simp [Motionless, EmulateColorControl.invalidStepColor]

end Motionless

/-- A case of the color control emulator sends what the one of the switch does, and rejects what
would not move. -/
structure SameCase (data : Args) (commandId : ℕ) (name : String) (invalid : Args → Bool)
    (c : CommandCase) : Prop where
  switch : colorControl.switch commandId = some c
  cmd : c.cmd = some name
  named : name ≠ ""
  unanswered : c.cmdResponse = ""
  emulated : ∀ cache endpointId decode,
    EmulateColorControl.command cache ⟨endpointId, 0x0300, commandId⟩ decode =
      EmulateColorControl.emulate cache ⟨endpointId, 0x0300, commandId⟩ decode name invalid
        c.arguments
  rejected : invalid data = true ↔ Motionless data 0x0300 commandId

open EmulateColorControl in
theorem exists_sameCase {commandId : ℕ} (hmem : commandId ∈ emulatedCommands 0x0300)
    (data : Args) : ∃ name invalid c, SameCase data commandId name invalid c := by
  simp only [emulatedCommands, List.mem_cons, List.not_mem_nil, or_false] at hmem
  rcases hmem with rfl | rfl | rfl | rfl | rfl | rfl | rfl | rfl | rfl
  all_goals first
    | exact ⟨_, invalidMove, _, rfl, rfl, by decide, rfl, fun _ _ _ => rfl,
        invalidMove_iff (by decide)⟩
    | exact ⟨_, invalidStep, _, rfl, rfl, by decide, rfl, fun _ _ _ => rfl,
        invalidStep_iff (by decide)⟩
    | exact ⟨_, invalidStepColor, _, rfl, rfl, by decide, rfl, fun _ _ _ => rfl,
        invalidStepColor_iff⟩

/-- The commands whose emulators stand in for the switch: nine of color control, and one of level
control. -/
def Replaced (h : ClusterCommandHandler) (commandId : ℕ) : Prop :=
  (h = colorControl ∧ commandId ∈ emulatedCommands 0x0300) ∨ (h = levelControl ∧ commandId = 1)

/-- What the switch and the emulator make of such a command. -/
theorem exists_emulate (hreplaced : Replaced h inv.commandId)
    (hdecode : inv.decode 0 = some data) (cache : AttributeCache) :
    ∃ c name name', ∃ invalid : Bool, h.switch inv.commandId = some c ∧ c.cmd = some name ∧
      name ≠ "" ∧ c.cmdResponse = "" ∧
      (invalid = true ↔ Motionless data h.clusterId inv.commandId) ∧
      h.emulate cache inv = .ok (if invalid = true then
          .reject cache 1 (h.requestPath inv) .invalidCommand name'
        else .forward cache 1 name (addArguments c.arguments data .null)) := by
  rcases hreplaced with ⟨rfl, hmem⟩ | ⟨rfl, hid⟩
  · obtain ⟨name, invalid, c, hcase⟩ := exists_sameCase hmem data
    refine ⟨c, name, name, invalid data, hcase.switch, hcase.cmd, hcase.named, hcase.unanswered,
      hcase.rejected, ?_⟩
    have hemulated : isCommandEmulated (colorControl.requestPath inv) = true :=
      decide_eq_true hmem
    have hemulate : colorControl.emulate cache inv =
        .ok (EmulateColorControl.command cache (colorControl.requestPath inv) inv.decode) :=
      if_pos hemulated
    have hcommand : EmulateColorControl.command cache (colorControl.requestPath inv) inv.decode =
        EmulateColorControl.emulate cache (colorControl.requestPath inv) inv.decode name invalid
          c.arguments := hcase.emulated cache inv.endpointId inv.decode
    rw [hemulate, hcommand, EmulateColorControl.emulate, hdecode]
  · refine ⟨⟨1, some "Move", ["MoveMode", "Rate", "OptionsMask", "OptionsOverride"], ""⟩, "Move", "",
      decide (data "Rate" = some .null ∨ data.number "Rate" = 0), by rw [hid]; rfl, rfl, by decide,
      rfl, ?_, ?_⟩
    · rw [hid]
      simp [Motionless, levelControl]
    · have hemulated : isCommandEmulated (levelControl.requestPath inv) = true := by
        simp [isCommandEmulated, requestPath, levelControl, emulatedCommands, hid]
      have hemulate : levelControl.emulate cache inv =
          .ok (EmulateLevelControl.command cache (levelControl.requestPath inv) inv.decode) :=
        if_pos hemulated
      rw [hemulate, EmulateLevelControl.command, hdecode]
      simp only [Args.isNull, decide_eq_true_eq]

/-- With arguments that move nothing such a command is answered with `InvalidCommand` and not
sent; otherwise it is handled as if there were no emulator. -/
theorem invokeCommand_replaced (hreplaced : Replaced h inv.commandId)
    (hdecode : inv.decode 0 = some data) (hconsumed : inv.decode 1 = none) :
    let rejected := (env.bridgedEndpoint inv.endpointId).isSome = true ∧
      Motionless data h.clusterId inv.commandId
    (rejected → h.invokeCommand env now cache pending inv =
      ⟨[.addStatus (h.requestPath inv) .invalidCommand], pending, cache, none⟩) ∧
    (¬ rejected → h.invokeCommand env now cache pending inv =
      h.invokeGeneric env now cache pending inv) ∧
    ∀ path, .addStatus path .invalidCommand ∉
      (h.invokeGeneric env now cache pending inv).effects := by
  intro rejected
  obtain ⟨c, name, name', invalid, hc, hcmd, hne, hr, hinvalid, hem⟩ :=
    exists_emulate hreplaced hdecode cache
  refine ⟨fun ⟨hb, hmotionless⟩ => ?_, fun hnot => ?_, fun path hmem => ?_⟩
  · obtain ⟨node, hb⟩ := Option.isSome_iff_exists.mp hb
    rw [invokeCommand_of_copied _ hb hc hcmd hne hr hdecode hconsumed hem]
    exact if_pos (hinvalid.mpr hmotionless)
  · cases hb : env.bridgedEndpoint inv.endpointId with
    | none => rw [invokeCommand_of_not_bridged hb, invokeGeneric, hb]
    | some node =>
      have hmoving : ¬ Motionless data h.clusterId inv.commandId :=
        fun hmotionless => hnot ⟨by rw [hb]; rfl, hmotionless⟩
      rw [invokeCommand_of_copied _ hb hc hcmd hne hr hdecode hconsumed hem]
      exact if_neg (mt hinvalid.mp hmoving)
  · cases addStatus_invokeGeneric hc hcmd hne hr hmem

/-- A hue is moved up. -/
theorem invokeCommand_replaced_moveHue :
    let data : Args := fun key =>
      if key = "MoveMode" then some (.enum 1 (some "MoveUp"))
      else if key = "Rate" then some (.number 5)
      else none
    let inv : Invocation := ⟨2, 1, .unicast 1, 0, fun n => if n = 0 then some data else none⟩
    colorControl.invokeCommand oneEndpoint 0 AttributeCache.empty (fun _ => none) inv =
      colorControl.invokeGeneric oneEndpoint 0 AttributeCache.empty (fun _ => none) inv := by
  intro data inv
  apply (invokeCommand_replaced (Or.inl ⟨rfl, by decide⟩) rfl rfl).2.1
  rintro ⟨-, hmotionless⟩
  have hinvalid := (invalidMove_iff (by decide : 1 ∈ [1, 4, 65, 75])).mpr hmotionless
  exact absurd hinvalid (by decide)

end ClusterCommandHandler

end UnifyMatterBridge
