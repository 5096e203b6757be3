import UnifyMatterBridge.Command.Table
import UnifyMatterBridge.Command.Emulators

/-! `InvokeCommand` of a generated cluster handler: emulation, the switch, and the answer. -/
namespace UnifyMatterBridge

/-- What the switch makes of a command. -/
structure Translation where
  effects : List Effect
  cmd : String
  payload : Json
  cmdResponse : String

structure InvokeResult where
  effects : List Effect
  pending : PendingTable
  cache : AttributeCache
  exception : Option CxxException

namespace ClusterCommandHandler

variable (h : ClusterCommandHandler) (env : SendEnv) (now : ℤ) (cache : AttributeCache)
  (pending : PendingTable) (inv : Invocation)

/-- `mRequestPath`: a handler is registered for its cluster. -/
def requestPath : CommandPath := ⟨inv.endpointId, h.clusterId, inv.commandId⟩

/-- The switch. The name of a mapped command is set whether or not its arguments decode. -/
def translate (em : Emulation) : Translation :=
  match h.switch inv.commandId with
  | none => ⟨[], em.cdata.cmd, em.cdata.payload, ""⟩
  | some c =>
    match c.cmd with
    | none =>
      -- the default of every `Invoke_` method
      ⟨if (inv.decode em.decodes).isSome then
          [.addStatus (h.requestPath inv) .unsupportedCommand]
        else [], em.cdata.cmd, em.cdata.payload, c.cmdResponse⟩
    | some cmd =>
      ⟨[], cmd,
        match inv.decode em.decodes with
        | some data => addArguments c.arguments data em.cdata.payload
        | none => em.cdata.payload,
        c.cmdResponse⟩

/-- What follows the switch. -/
def answer (t : Translation) : SendResult :=
  if t.cmd = "" then ⟨[.addStatus (h.requestPath inv) .unsupportedCommand], pending, none⟩
  else
    let sent := sendUnifyMqttCmd env now pending h.clusterName (h.requestPath inv) inv.exchange
      inv.handle t.cmd t.payload t.cmdResponse
    if t.cmdResponse ≠ "" then sent
    else { sent with effects := .addStatus (h.requestPath inv) .success :: sent.effects }

def emulate : Except CxxException Emulation :=
  if isCommandEmulated (h.requestPath inv) then
    invokeEmulator cache (h.requestPath inv) inv.decode
  else .ok (.forward cache 0 "" .null)

def invokeCommand : InvokeResult :=
  match env.bridgedEndpoint inv.endpointId with
  | none => ⟨[], pending, cache, none⟩
  | some _ =>
    match h.emulate cache inv with
    | .error e => ⟨[], pending, cache, some e⟩
    | .ok em =>
      if em.cdata.cmdEmulationCompleted then ⟨em.effects, pending, em.cache, none⟩
      else
        let t := h.translate inv em
        let s := h.answer env now pending inv t
        ⟨em.effects ++ t.effects ++ s.effects, s.pending, em.cache, s.exception⟩

end ClusterCommandHandler

/-- The invoker gets a status, or its handle is kept for a response. -/
def Effect.isAnswer : Effect → Bool
  | .addStatus _ _ | .storeHandle _ _ => true
  | .publish _ _ => false

/-- Nothing is published and no success is reported. -/
def Effect.isSilent : Effect → Bool
  | .publish _ _ => false
  | .addStatus _ status => status ≠ .success
  | .storeHandle _ _ => true

def answers (effects : List Effect) : ℕ := effects.countP Effect.isAnswer

def Silent (effects : List Effect) : Prop := ∀ e ∈ effects, e.isSilent = true

section Send

variable {env : SendEnv} {now : ℤ} {pending : PendingTable} {clusterName : String}
  {path : CommandPath} {exchange : Exchange} {handle : ℕ} {cmd : String} {payload : Json}
  {cmdResponse : String} {unid : String} {ep : ℕ}

theorem answers_sendUnifyMqttCmd_no_response
    (hb : env.bridgedEndpoint path.endpointId = some (unid, ep)) :
    answers (sendUnifyMqttCmd env now pending clusterName path exchange handle cmd payload
      "").effects = 0 := by
  rw [sendUnifyMqttCmd_no_response hb]
  cases commandTopic env exchange unid ep with
  | none => rfl
  | some topic => cases commandMessage payload <;> rfl

theorem answers_sendUnifyMqttCmd_response
    (hb : env.bridgedEndpoint path.endpointId = some (unid, ep)) (hr : cmdResponse ≠ "") :
    answers (sendUnifyMqttCmd env now pending clusterName path exchange handle cmd payload
        cmdResponse).effects =
      if (clearTimedoutHandlers now pending
            (cmdResponseKey unid ep clusterName cmdResponse)).isSome = true ∨
          (commandTopic env exchange unid ep).isSome = true ∧ payload.isText = true then 1
      else 0 := by
  cases hkey : clearTimedoutHandlers now pending (cmdResponseKey unid ep clusterName cmdResponse) with
  | some info =>
    rw [sendUnifyMqttCmd_busy hb hr (by rw [hkey]; rfl)]
    rfl
  | none =>
    rw [sendUnifyMqttCmd_response hb hr hkey]
    cases htopic : commandTopic env exchange unid ep with
    | none => simp [answers]
    | some topic =>
      cases htext : payload.isText with
      | false => simp [commandMessage_eq_error htext, answers]
      | true => simp [commandMessage_eq_ok htext, answers, Effect.isAnswer]

theorem silent_sendUnifyMqttCmd_response
    (hb : env.bridgedEndpoint path.endpointId = some (unid, ep)) (hr : cmdResponse ≠ "") :
    Silent (sendUnifyMqttCmd env now pending clusterName path exchange handle cmd payload
        cmdResponse).effects ↔
      (clearTimedoutHandlers now pending
          (cmdResponseKey unid ep clusterName cmdResponse)).isSome = true ∨
        ¬ ((commandTopic env exchange unid ep).isSome = true ∧ payload.isText = true) := by
  cases hkey : clearTimedoutHandlers now pending (cmdResponseKey unid ep clusterName cmdResponse) with
  | some info =>
    rw [sendUnifyMqttCmd_busy hb hr (by rw [hkey]; rfl)]
    simp [Silent, Effect.isSilent]
  | none =>
    rw [sendUnifyMqttCmd_response hb hr hkey]
    cases htopic : commandTopic env exchange unid ep with
    | none => simp [Silent]
    | some topic =>
      cases htext : payload.isText with
      | false => simp [commandMessage_eq_error htext, Silent]
      | true => simp [commandMessage_eq_ok htext, Silent, Effect.isSilent]

end Send

namespace ClusterCommandHandler

section Conditions

variable (h : ClusterCommandHandler) (env : SendEnv) (now : ℤ) (cache : TypedCache)
  (pending : PendingTable) (inv : Invocation) (unid : String) (ep : ℕ)

/-- The argument sent under a key: the one the switch decodes or, if there is none, the one the
emulator has decoded before it. -/
def sentArgument (key : String) : Option ArgValue :=
  if isCommandEmulated (h.requestPath inv) then
    ((inv.decode 1).bind fun data => data key).or ((inv.decode 0).bind fun data => data key)
  else (inv.decode 0).bind fun data => data key

/-- A command with the same key is still waiting for its response. -/
def Busy (c : CommandCase) : Prop :=
  (clearTimedoutHandlers now pending
    (cmdResponseKey unid ep h.clusterName c.cmdResponse)).isSome = true

structure Sendable (c : CommandCase) : Prop where
  topic : (commandTopic env inv.exchange unid ep).isSome = true
  text : ∀ key ∈ c.arguments, ∀ a, h.sentArgument inv key = some a → a.isText = true

def IsMotion : Prop :=
  h.clusterId = 0x0102 ∧ isCommandEmulated (h.requestPath inv) = true

/-- When a command gets its answer. -/
structure Answerable : Prop where
  /-- A command without a Unify command does not decode. -/
  mapped : ∀ c, h.switch inv.commandId = some c → c.cmd = none → inv.decode 0 = none
  /-- A motion command finds a mode. -/
  modeKnown : h.IsMotion inv → cache.int (EmulateWindowCovering.mode inv.endpointId) ≠ none
  /-- A command that awaits a response is rejected with `Busy` or sent. -/
  awaited : ∀ c, h.switch inv.commandId = some c → c.cmdResponse ≠ "" →
    h.Busy now pending unid ep c ∨ h.Sendable env inv unid ep c

end Conditions

/-- What the tables have in common: no Unify command has the empty name, an unmapped command
neither awaits a response nor is emulated, and only door locks respond. -/
structure Regular (h : ClusterCommandHandler) (c : CommandCase) : Prop where
  named : c.cmd ≠ some ""
  unmapped : c.cmd = none →
    c.cmdResponse = "" ∧ isCommandEmulated ⟨0, h.clusterId, c.id⟩ = false
  awaited : c.cmdResponse ≠ "" → h.clusterId = 0x0101 ∧ c.cmd ≠ none
  pin : h.clusterId = 0x0101 → isCommandEmulated ⟨0, h.clusterId, c.id⟩ = true →
    c.arguments = ["PINOrRFIDCode"]

theorem regular_of_mem : ∀ h ∈ all, ∀ c ∈ h.commands, Regular h c := by
  have hall : ∀ h ∈ all, ∀ c ∈ h.commands, c.cmd ≠ some "" ∧
      (c.cmd = none → c.cmdResponse = "" ∧ isCommandEmulated ⟨0, h.clusterId, c.id⟩ = false) ∧
      (c.cmdResponse ≠ "" → h.clusterId = 0x0101 ∧ c.cmd ≠ none) ∧
      (h.clusterId = 0x0101 → isCommandEmulated ⟨0, h.clusterId, c.id⟩ = true →
        c.arguments = ["PINOrRFIDCode"]) := by
    decide
  intro h hh c hc
  obtain ⟨hnamed, hunmapped, hawaited, hpin⟩ := hall h hh c hc
  exact ⟨hnamed, hunmapped, hawaited, hpin⟩

variable {h : ClusterCommandHandler} {env : SendEnv} {now : ℤ} {pending : PendingTable}
  {inv : Invocation} {unid : String} {ep : ℕ} {c : CommandCase}

theorem regular_of_switch (hh : h ∈ all) (hc : h.switch inv.commandId = some c) :
    Regular h c ∧ c.id = inv.commandId := by
  have hmem : c ∈ h.commands := List.mem_of_find?_eq_some hc
  have hid := List.find?_some hc
  exact ⟨regular_of_mem h hh c hmem, by simpa using hid⟩

theorem isCommandEmulated_requestPath (hid : c.id = inv.commandId) :
    isCommandEmulated (h.requestPath inv) = isCommandEmulated ⟨0, h.clusterId, c.id⟩ := by
  rw [hid]
  rfl

section Emulate

variable (cache : TypedCache)

/-- A command is forwarded to the switch, rejected after its arguments were decoded, or stopped by
the mode of a window covering. -/
theorem emulate_outcome :
    ∃ em, h.emulate cache.values inv = .ok em ∧
      (em.Forwards ∧ (h.IsMotion inv → ¬ EmulateWindowCovering.MotionBlocked cache inv.endpointId) ∨
        em.Rejects (h.requestPath inv) ∧ isCommandEmulated (h.requestPath inv) = true ∧
          h.clusterId ≠ 0x0101 ∧
          (h.IsMotion inv → EmulateWindowCovering.MotionBlocked cache inv.endpointId ∧
            cache.int (EmulateWindowCovering.mode inv.endpointId) ≠ none) ∧
          (¬ h.IsMotion inv → inv.decode 0 ≠ none) ∨
        em.Drops ∧ h.IsMotion inv ∧
          cache.int (EmulateWindowCovering.mode inv.endpointId) = none) := by
  by_cases hemulated : isCommandEmulated (h.requestPath inv) = true
  · have hemulate : h.emulate cache.values inv =
        invokeEmulator cache.values (h.requestPath inv) inv.decode := if_pos hemulated
    by_cases hcluster : h.clusterId = 0x0102
    · have hmotion : h.IsMotion inv := ⟨hcluster, hemulated⟩
      obtain ⟨em, hem, hout⟩ := @EmulateWindowCovering.command_outcome (h.requestPath inv) cache
      refine ⟨em, ?_, ?_⟩
      · rw [hemulate, invokeEmulator]
        have hid : (h.requestPath inv).clusterId = 0x0102 := hcluster
        simpa only [hid] using hem
      · rcases hout with ⟨hallowed, hforwards⟩ | ⟨hblocked, hmode, hrejects⟩ | ⟨hmode, hdrops⟩
        · exact Or.inl ⟨hforwards, fun _ => hallowed⟩
        · refine Or.inr (Or.inl ⟨hrejects, hemulated, by rw [hcluster]; decide, ?_, ?_⟩)
          · exact fun _ => ⟨hblocked, hmode⟩
          · exact fun hno => absurd hmotion hno
        · exact Or.inr (Or.inr ⟨hdrops, hmotion, hmode⟩)
    · have hno : ¬ h.IsMotion inv := fun hmotion => hcluster hmotion.1
      obtain ⟨em, hem, hout⟩ := @invokeEmulator_outcome (h.requestPath inv) inv.decode cache
        hemulated hcluster
      refine ⟨em, hemulate.trans hem, ?_⟩
      rcases hout with hforwards | ⟨hrejects, hdecode, hlock⟩
      · exact Or.inl ⟨hforwards, fun hmotion => absurd hmotion hno⟩
      · refine Or.inr (Or.inl ⟨hrejects, hemulated, hlock, ?_, fun _ => hdecode⟩)
        exact fun hmotion => absurd hmotion hno
  · refine ⟨_, if_neg hemulated, Or.inl ⟨Emulation.forward_forwards _ _ _ _, ?_⟩⟩
    exact fun hmotion => absurd hmotion.2 hemulated

end Emulate

variable {em : Emulation}

theorem eq_forward_of_not_emulated {cache : AttributeCache}
    (hemulated : ¬ isCommandEmulated (h.requestPath inv) = true)
    (hem : h.emulate cache inv = .ok em) : em = .forward cache 0 "" .null := by
  rw [emulate, if_neg hemulated] at hem
  exact (Except.ok.inj hem).symm

theorem isText_addArguments {arguments : List String} {data : Args} {payload : Json}
    (hp : payload.IsPayload) :
    (addArguments arguments data payload).isText = true ↔
      (∀ key ∈ arguments, ∀ a, data key = some a → a.isText = true) ∧
        ∀ f ∈ payload.fields, (f.1 ∈ arguments → data f.1 = none) → f.2.isText = true := by
  rw [(addArguments_isPayload hp).isText_eq_true]
  constructor
  · intro htext
    constructor
    · intro key hkey a ha
      have hmem := htext (key, a.toJson)
        ((mem_addArguments hp).mpr (Or.inl ⟨hkey, a, ha, rfl⟩))
      rwa [← ArgValue.isText_toJson]
    · exact fun f hf hnone => htext f ((mem_addArguments hp).mpr (Or.inr ⟨hnone, hf⟩))
  · rintro ⟨harguments, hpayload⟩ f hf
    rcases (mem_addArguments hp).mp hf with ⟨hkey, a, ha, hvalue⟩ | ⟨hnone, hf⟩
    · rw [hvalue, ArgValue.isText_toJson]
      exact harguments f.1 hkey a ha
    · exact hpayload f hf hnone

/-- What the door lock emulator has decoded: the PIN, if anything. -/
def pinPayload (data : Option Args) : Json := (data.map EmulateDoorLock.pinPayload).getD .null

theorem isPayload_pinPayload (data : Option Args) : (pinPayload data).IsPayload := by
  cases data with
  | none => exact Json.isPayload_null
  | some data => exact Json.isPayload_null.setField _ _

theorem key_pinPayload {data : Option Args} {f : String × Json}
    (hf : f ∈ (pinPayload data).fields) : f.1 = "PINOrRFIDCode" := by
  cases data with
  | none => cases hf
  | some data => exact congrArg Prod.fst (List.mem_singleton.mp hf)

theorem isText_pinPayload (data : Option Args) :
    (pinPayload data).isText = true ↔
      ∀ a, (data.bind fun d => d "PINOrRFIDCode") = some a → a.isText = true := by
  cases data with
  | none => simp [pinPayload, Json.isText]
  | some data =>
    rw [(isPayload_pinPayload _).isText_eq_true]
    cases hpin : data "PINOrRFIDCode" with
    | none => simp [pinPayload, EmulateDoorLock.pinPayload, Json.fields, Json.setField, hpin,
        Json.isText]
    | some pin => simp [pinPayload, EmulateDoorLock.pinPayload, Json.fields, Json.setField, hpin,
        ArgValue.isText_toJson]

theorem emulate_doorLock {cache : AttributeCache} (hcluster : h.clusterId = 0x0101)
    (hemulated : isCommandEmulated (h.requestPath inv) = true)
    (hem : h.emulate cache inv = .ok em) :
    em.decodes = 1 ∧
      em.cdata.payload = pinPayload (inv.decode 0) := by
  have hid : (h.requestPath inv).clusterId = 0x0101 := hcluster
  have hcommand : inv.commandId = 0 ∨ inv.commandId = 1 := by
    rw [isCommandEmulated, hid] at hemulated
    simpa [emulatedCommands, requestPath] using hemulated
  have hem' : EmulateDoorLock.command cache (h.requestPath inv) inv.decode = em := by
    rw [emulate, if_pos hemulated, invokeEmulator] at hem
    simpa only [hid, Except.ok.injEq] using hem
  rw [← hem']
  unfold EmulateDoorLock.command requestPath
  cases hcommand with
  | inl h0 => simp [h0, Emulation.forward, pinPayload]
  | inr h1 => simp [h1, Emulation.forward, pinPayload]

/-- With the PIN copied onto the one that the emulator has set, only the last PIN matters. -/
theorem isText_addArguments_pin (before : Option Args) (data : Args) :
    (addArguments ["PINOrRFIDCode"] data (pinPayload before)).isText = true ↔
      ∀ a, ((data "PINOrRFIDCode").or (before.bind fun d => d "PINOrRFIDCode")) = some a →
        a.isText = true := by
  simp only [isText_addArguments (isPayload_pinPayload _), List.mem_singleton, forall_eq]
  cases hpin : data "PINOrRFIDCode" with
  | none =>
    have hkeys : (∀ f ∈ (pinPayload before).fields,
          (f.1 = "PINOrRFIDCode" → data f.1 = none) → f.2.isText = true) ↔
        (pinPayload before).isText = true := by
      rw [(isPayload_pinPayload _).isText_eq_true]
      constructor
      · exact fun htext f hf => htext f hf fun hkey => hkey ▸ hpin
      · exact fun htext f hf _ => htext f hf
    rw [hkeys, Option.none_or, ← isText_pinPayload]
    simp
  | some pin =>
    have hkeys : ∀ f ∈ (pinPayload before).fields,
        (f.1 = "PINOrRFIDCode" → data f.1 = none) → f.2.isText = true := by
      intro f hf hnone
      have hkey := key_pinPayload hf
      rw [hkey, hpin] at hnone
      cases hnone rfl
    simp only [Option.some_or, Option.some.injEq, forall_eq', and_iff_left hkeys]

theorem isText_translate {cache : AttributeCache} (hh : h ∈ all)
    (hc : h.switch inv.commandId = some c) (hr : c.cmdResponse ≠ "")
    (hem : h.emulate cache inv = .ok em) :
    (h.translate inv em).payload.isText = true ↔
      ∀ key ∈ c.arguments, ∀ a, h.sentArgument inv key = some a → a.isText = true := by
  obtain ⟨hregular, hid⟩ := regular_of_switch hh hc
  obtain ⟨hcluster, hmapped⟩ := hregular.awaited hr
  obtain ⟨cmd, hcmd⟩ := Option.ne_none_iff_exists'.mp hmapped
  simp only [translate, hc, hcmd]
  by_cases hemulated : isCommandEmulated (h.requestPath inv) = true
  · have harguments : c.arguments = ["PINOrRFIDCode"] :=
      hregular.pin hcluster (isCommandEmulated_requestPath hid ▸ hemulated)
    obtain ⟨hdecodes, hpayload⟩ := emulate_doorLock hcluster hemulated hem
    simp only [hdecodes, hpayload, harguments, sentArgument, hemulated, if_true, List.mem_singleton,
      forall_eq]
    cases inv.decode 1 with
    | none => simpa using isText_pinPayload (inv.decode 0)
    | some data =>
      rw [isText_addArguments_pin]
      rfl
  · have hforward : em = .forward cache 0 "" .null := by
      rw [emulate, if_neg hemulated] at hem
      exact (Except.ok.inj hem).symm
    simp only [hforward, Emulation.forward, sentArgument, hemulated]
    cases inv.decode 0 with
    | none => simp [Json.isText]
    | some data => simp [isText_addArguments Json.isPayload_null, Json.fields]

theorem translate_of_mapped {cmd : String} (hc : h.switch inv.commandId = some c)
    (hcmd : c.cmd = some cmd) :
    (h.translate inv em).effects = [] ∧ (h.translate inv em).cmd = cmd ∧
      (h.translate inv em).cmdResponse = c.cmdResponse := by
  simp only [translate, hc, hcmd, and_self]

theorem answer_awaited {cmd : String} (hh : h ∈ all) (hc : h.switch inv.commandId = some c)
    (hcmd : c.cmd = some cmd) (hr : c.cmdResponse ≠ "") :
    h.answer env now pending inv (h.translate inv em) =
      sendUnifyMqttCmd env now pending h.clusterName (h.requestPath inv) inv.exchange inv.handle cmd
        (h.translate inv em).payload c.cmdResponse := by
  obtain ⟨-, hname, hresponse⟩ := @translate_of_mapped h inv c em cmd hc hcmd
  have hnamed : cmd ≠ "" := fun hempty =>
    (regular_of_switch hh hc).1.named (by rw [hcmd, hempty])
  rw [answer, if_neg (by rw [hname]; exact hnamed), if_pos (by rw [hresponse]; exact hr), hname,
    hresponse]

theorem sendable_iff {cache : AttributeCache} (hh : h ∈ all)
    (hc : h.switch inv.commandId = some c) (hr : c.cmdResponse ≠ "")
    (hem : h.emulate cache inv = .ok em) :
    h.Sendable env inv unid ep c ↔
      (commandTopic env inv.exchange unid ep).isSome = true ∧
        (h.translate inv em).payload.isText = true := by
  rw [isText_translate hh hc hr hem]
  exact ⟨fun hs => ⟨hs.topic, hs.text⟩, fun hs => ⟨hs.1, hs.2⟩⟩

theorem effects_invokeCommand {node : String × ℕ} {cache : AttributeCache}
    (hb : env.bridgedEndpoint inv.endpointId = some node) (hem : h.emulate cache inv = .ok em) :
    (h.invokeCommand env now cache pending inv).effects =
      if em.cdata.cmdEmulationCompleted then em.effects
      else em.effects ++ (h.translate inv em).effects ++
        (h.answer env now pending inv (h.translate inv em)).effects := by
  simp only [invokeCommand, hb, hem]
  split <;> rfl

theorem answers_append (effects effects' : List Effect) :
    answers (effects ++ effects') = answers effects + answers effects' :=
  List.countP_append

/-- A command that awaits no response is answered once after the switch. -/
theorem answers_answer_no_response (hb : env.bridgedEndpoint inv.endpointId = some (unid, ep))
    {t : Translation} (hr : t.cmdResponse = "") :
    answers (h.answer env now pending inv t).effects = 1 := by
  unfold answer
  split_ifs with hcmd hne
  · rfl
  · exact absurd hr hne
  · have hsent := @answers_sendUnifyMqttCmd_no_response env now pending h.clusterName
      (h.requestPath inv) inv.exchange inv.handle t.cmd t.payload unid ep hb
    rw [hr]
    exact (List.countP_cons_of_pos rfl).trans (congrArg (· + 1) hsent)

/-- The answers to a command that the emulation has forwarded. -/
theorem answers_forwarded {cache : AttributeCache} (hh : h ∈ all)
    (hb : env.bridgedEndpoint inv.endpointId = some (unid, ep))
    (hem : h.emulate cache inv = .ok em) :
    answers ((h.translate inv em).effects ++
        (h.answer env now pending inv (h.translate inv em)).effects) = 1 ↔
      (∀ c, h.switch inv.commandId = some c → c.cmd = none → inv.decode 0 = none) ∧
        ∀ c, h.switch inv.commandId = some c → c.cmdResponse ≠ "" →
          h.Busy now pending unid ep c ∨ h.Sendable env inv unid ep c := by
  rw [answers_append]
  cases hc : h.switch inv.commandId with
  | none =>
    have htranslate : h.translate inv em = ⟨[], em.cdata.cmd, em.cdata.payload, ""⟩ := by
      simp only [translate, hc]
    rw [htranslate, answers_answer_no_response hb rfl]
    simp [answers]
  | some c =>
    obtain ⟨hregular, hid⟩ := regular_of_switch hh hc
    simp only [Option.some.injEq, forall_eq']
    cases hcmd : c.cmd with
    | none =>
      obtain ⟨hresponse, hemulated⟩ := hregular.unmapped hcmd
      have hforward := eq_forward_of_not_emulated
        (by rw [isCommandEmulated_requestPath hid, hemulated]; exact Bool.false_ne_true) hem
      have hone : answers (h.answer env now pending inv (h.translate inv em)).effects = 1 := by
        apply answers_answer_no_response hb
        simp only [translate, hc, hcmd, hresponse]
      have hswitch : (h.translate inv em).effects =
          if (inv.decode 0).isSome then [.addStatus (h.requestPath inv) .unsupportedCommand]
          else [] := by
        simp only [translate, hc, hcmd, hforward, Emulation.forward]
      rw [hone, hswitch]
      cases inv.decode 0 with
      | none => simp [answers, hresponse]
      | some data => simp [answers, Effect.isAnswer]
    | some cmd =>
      obtain ⟨hswitch, -, hresponse⟩ := @translate_of_mapped h inv c em cmd hc hcmd
      rw [hswitch]
      by_cases hr : c.cmdResponse = ""
      · rw [answers_answer_no_response hb (hresponse.trans hr)]
        simp [answers, hr]
      · rw [answer_awaited hh hc hcmd hr, answers_sendUnifyMqttCmd_response hb hr,
          sendable_iff hh hc hr hem]
        simp only [answers, List.countP_nil, Nat.zero_add, ite_eq_left_iff, Nat.zero_ne_one,
          imp_false, not_not, reduceCtorEq, false_implies, true_and, ne_eq, hr, not_false_eq_true,
          true_implies, Busy]

section DoorLock

variable {cache : AttributeCache}

theorem emulate_doorLock_forwards (inv : Invocation) :
    ∃ em, doorLock.emulate cache inv = .ok em ∧ em.Forwards ∧ em.cache = cache := by
  unfold emulate
  split_ifs with hemulated
  · refine ⟨EmulateDoorLock.command cache (doorLock.requestPath inv) inv.decode, rfl,
      EmulateDoorLock.command_forwards cache, ?_⟩
    unfold EmulateDoorLock.command
    split <;> rfl
  · exact ⟨_, rfl, Emulation.forward_forwards _ _ _ _, rfl⟩

/-- A door lock command that awaits a response is sent or rejected, and nothing else. -/
theorem invokeCommand_awaited (hb : env.bridgedEndpoint inv.endpointId = some (unid, ep))
    (hc : doorLock.switch inv.commandId = some c) (hr : c.cmdResponse ≠ "") :
    ∃ cmd payload, ∀ sent, sent = sendUnifyMqttCmd env now pending "DoorLock"
        (doorLock.requestPath inv) inv.exchange inv.handle cmd payload c.cmdResponse →
      doorLock.invokeCommand env now cache pending inv =
        ⟨sent.effects, sent.pending, cache, sent.exception⟩ := by
  have hh : doorLock ∈ all := by decide
  obtain ⟨em, hem, ⟨hcontinue, hnone⟩, hcache⟩ := @emulate_doorLock_forwards cache inv
  obtain ⟨cmd, hcmd⟩ :=
    Option.ne_none_iff_exists'.mp ((regular_of_switch hh hc).1.awaited hr).2
  refine ⟨cmd, (doorLock.translate inv em).payload, fun sent hsent => ?_⟩
  have hswitch := (@translate_of_mapped doorLock inv c em cmd hc hcmd).1
  have hanswer := @answer_awaited doorLock env now pending inv c em cmd hh hc hcmd hr
  simp only [invokeCommand, hb, hem, hcontinue, hnone, hswitch, hanswer, hcache, hsent,
    List.nil_append, Bool.false_eq_true, if_false]
  rfl

theorem invokeCommand_not_awaited
    (hnot : ∀ c, doorLock.switch inv.commandId = some c → c.cmdResponse = "") :
    (doorLock.invokeCommand env now cache pending inv).pending = pending ∧
      ∀ key handle, .storeHandle key handle ∉
        (doorLock.invokeCommand env now cache pending inv).effects := by
  cases hb : env.bridgedEndpoint inv.endpointId with
  | none => simp [invokeCommand, hb]
  | some node =>
    obtain ⟨unid, ep⟩ := node
    obtain ⟨em, hem, ⟨hcontinue, hnone⟩, -⟩ := @emulate_doorLock_forwards cache inv
    have htranslate : (doorLock.translate inv em).cmdResponse = "" ∧
        ∀ key handle, .storeHandle key handle ∉ (doorLock.translate inv em).effects := by
      cases hc : doorLock.switch inv.commandId with
      | none => simp [translate, hc]
      | some c =>
        cases hcmd : c.cmd with
        | none =>
          simp only [translate, hc, hcmd, hnot c hc]
          split_ifs <;> simp
        | some cmd => simp [translate, hc, hcmd, hnot c hc]
    have hanswer : (doorLock.answer env now pending inv (doorLock.translate inv em)).pending =
          pending ∧
        ∀ key handle, .storeHandle key handle ∉
          (doorLock.answer env now pending inv (doorLock.translate inv em)).effects := by
      unfold answer
      rw [htranslate.1, if_neg (not_not.mpr rfl), sendUnifyMqttCmd_no_response hb]
      split_ifs
      · simp
      · cases commandTopic env inv.exchange unid ep with
        | none => simp
        | some topic => cases commandMessage (doorLock.translate inv em).payload <;> simp
    have heffects := @effects_invokeCommand doorLock env now pending inv em (unid, ep) cache hb hem
    constructor
    · simp only [invokeCommand, hb, hem, hcontinue, Bool.false_eq_true, if_false]
      exact hanswer.1
    · intro key handle hmem
      rw [heffects, hcontinue, hnone] at hmem
      cases List.mem_append.mp hmem with
      | inl hmem => exact htranslate.2 key handle hmem
      | inr hmem => exact hanswer.2 key handle hmem

end DoorLock

/-- A command on a bridged endpoint is answered exactly once if and only if it is answerable. -/
theorem answers_invokeCommand_eq_one_iff (hh : h ∈ all) (cache : TypedCache)
    (hb : env.bridgedEndpoint inv.endpointId = some (unid, ep)) :
    answers (h.invokeCommand env now cache.values pending inv).effects = 1 ↔
      h.Answerable env now cache pending inv unid ep := by
  obtain ⟨em, hem, hout⟩ := @emulate_outcome h inv cache
  have hresult := @effects_invokeCommand h env now pending inv em (unid, ep) cache.values hb hem
  -- the switch of a command that the emulator completes
  have hcompleted : isCommandEmulated (h.requestPath inv) = true → h.clusterId ≠ 0x0101 →
      ∀ c, h.switch inv.commandId = some c → c.cmd ≠ none ∧ c.cmdResponse = "" := by
    intro hemulated hlock c hc
    obtain ⟨hregular, hid⟩ := regular_of_switch hh hc
    rw [isCommandEmulated_requestPath hid] at hemulated
    constructor
    · intro hcmd
      rw [(hregular.unmapped hcmd).2] at hemulated
      cases hemulated
    · by_contra hr
      exact hlock (hregular.awaited hr).1
  rcases hout with ⟨⟨hcontinue, hnone⟩, hallowed⟩ | ⟨⟨hstop, status, -, heffects⟩, hemulated, hlock,
    hblocked, -⟩ | ⟨⟨hstop, heffects⟩, hmotion, hmode⟩
  · rw [hresult, hcontinue, hnone]
    have hmodeKnown : h.IsMotion inv →
        cache.int (EmulateWindowCovering.mode inv.endpointId) ≠ none := by
      intro hmotion hmode
      apply hallowed hmotion
      simp only [EmulateWindowCovering.MotionBlocked, hmode]
    refine (answers_forwarded hh hb hem).trans ⟨?_, ?_⟩
    · exact fun hcases => ⟨hcases.1, hmodeKnown, hcases.2⟩
    · exact fun hanswerable => ⟨hanswerable.mapped, hanswerable.awaited⟩
  · rw [hresult, hstop, heffects]
    refine ⟨fun _ => ⟨?_, fun hmotion => (hblocked hmotion).2, ?_⟩, fun _ => rfl⟩
    · exact fun c hc hcmd => absurd hcmd (hcompleted hemulated hlock c hc).1
    · exact fun c hc hr => absurd (hcompleted hemulated hlock c hc).2 hr
  · rw [hresult, hstop, heffects]
    constructor
    · intro hzero
      cases hzero
    · exact fun hanswerable => absurd hmode (hanswerable.modeKnown hmotion)

def oneEndpoint : SendEnv where
  bridgedEndpoint id := if id = 2 then some ("zw-0001", 1) else none
  getUnifyGroup _ := none

def bareCommand (commandId : ℕ) : Invocation :=
  ⟨2, commandId, .unicast 1, 0, fun _ => some fun _ => none⟩

theorem answers_invokeCommand_lockDoor :
    answers (doorLock.invokeCommand oneEndpoint 0 TypedCache.empty.values (fun _ => none)
      (bareCommand 0)).effects = 1 := by
  apply (answers_invokeCommand_eq_one_iff (by decide) TypedCache.empty rfl).mpr
  have hswitch : doorLock.switch 0 =
      some ⟨0, some "LockDoor", ["PINOrRFIDCode"], "LockDoorResponse"⟩ := rfl
  constructor
  · intro c hc hcmd
    cases hswitch.symm.trans hc
    cases hcmd
  · exact fun hmotion => absurd hmotion.1 (by decide)
  · intro c hc hr
    cases hswitch.symm.trans hc
    refine Or.inr ⟨rfl, fun key _ a ha => ?_⟩
    cases ha

/-- A covering without a mode does not answer; a command without a Unify command gets two
answers. -/
theorem answers_invokeCommand_ne_one :
    answers (windowCovering.invokeCommand oneEndpoint 0 TypedCache.empty.values (fun _ => none)
        (bareCommand 0)).effects = 0 ∧
      answers (thermostat.invokeCommand oneEndpoint 0 TypedCache.empty.values (fun _ => none)
        (bareCommand 254)).effects = 2 := ⟨rfl, rfl⟩

/-- When nothing comes of a command whose arguments do not decode. -/
inductive Withheld (h : ClusterCommandHandler) (env : SendEnv) (now : ℤ) (cache : TypedCache)
    (pending : PendingTable) (inv : Invocation) (c : CommandCase) : Prop
  | notBridged (hb : env.bridgedEndpoint inv.endpointId = none)
  | motionBlocked (hmotion : h.IsMotion inv)
      (hblocked : EmulateWindowCovering.MotionBlocked cache inv.endpointId)
  | notSent {unid : String} {ep : ℕ} (hb : env.bridgedEndpoint inv.endpointId = some (unid, ep))
      (hr : c.cmdResponse ≠ "")
      (hnot : h.Busy now pending unid ep c ∨ ¬ h.Sendable env inv unid ep c)

/-- For a bridged endpoint and a covering that may move, only what is to be answered later is
withheld. -/
theorem withheld_iff {cache : TypedCache} {unid : String} {ep : ℕ}
    (hb : env.bridgedEndpoint inv.endpointId = some (unid, ep))
    (hallowed : h.IsMotion inv → ¬ EmulateWindowCovering.MotionBlocked cache inv.endpointId) :
    h.Withheld env now cache pending inv c ↔
      c.cmdResponse ≠ "" ∧ (h.Busy now pending unid ep c ∨ ¬ h.Sendable env inv unid ep c) := by
  constructor
  · intro hwithheld
    cases hwithheld with
    | notBridged hnode => cases hb.symm.trans hnode
    | motionBlocked hmotion hblocked => exact absurd hblocked (hallowed hmotion)
    | notSent hnode hr hnot =>
      cases hb.symm.trans hnode
      exact ⟨hr, hnot⟩
  · intro hlater
    exact .notSent hb hlater.1 hlater.2

/-- A mapped command that is sent on is acknowledged at once, unless it is to be answered later. -/
theorem silent_answer_iff {cache : AttributeCache} {cmd : String} {unid : String} {ep : ℕ}
    (hh : h ∈ all) (hc : h.switch inv.commandId = some c) (hcmd : c.cmd = some cmd)
    (hb : env.bridgedEndpoint inv.endpointId = some (unid, ep))
    (hem : h.emulate cache inv = .ok em) :
    Silent (h.answer env now pending inv (h.translate inv em)).effects ↔
      c.cmdResponse ≠ "" ∧ (h.Busy now pending unid ep c ∨ ¬ h.Sendable env inv unid ep c) := by
  obtain ⟨-, hname, hresponse⟩ := @translate_of_mapped h inv c em cmd hc hcmd
  by_cases hr : c.cmdResponse = ""
  · have hnamed : cmd ≠ "" := fun hempty =>
      (regular_of_switch hh hc).1.named (by rw [hcmd, hempty])
    have hsuccess : .addStatus (h.requestPath inv) .success ∈
        (h.answer env now pending inv (h.translate inv em)).effects := by
      rw [answer, if_neg (by rw [hname]; exact hnamed),
        if_neg (by rw [hresponse]; exact not_not.mpr hr)]
      exact List.mem_cons_self
    refine iff_of_false (fun hsilent => ?_) fun hlater => hlater.1 hr
    cases hsilent _ hsuccess
  · have hsilent := @silent_sendUnifyMqttCmd_response env now pending h.clusterName
      (h.requestPath inv) inv.exchange inv.handle cmd (h.translate inv em).payload
      c.cmdResponse unid ep hb hr
    rw [answer_awaited hh hc hcmd hr, hsilent, sendable_iff hh hc hr hem, ne_eq, and_iff_right hr]
    rfl

/-- A mapped command whose arguments do not decode goes unpublished and unacknowledged only if it
is withheld for another reason. -/
theorem silent_invokeCommand_iff (hh : h ∈ all) (cache : TypedCache)
    (hc : h.switch inv.commandId = some c) (hmapped : c.cmd ≠ none) (hd : inv.decode 0 = none) :
    Silent (h.invokeCommand env now cache.values pending inv).effects ↔
      h.Withheld env now cache pending inv c := by
  cases hb : env.bridgedEndpoint inv.endpointId with
  | none =>
    have hresult : (h.invokeCommand env now cache.values pending inv).effects = [] := by
      simp only [invokeCommand, hb]
    rw [hresult]
    exact ⟨fun _ => .notBridged hb, fun _ e he => by cases he⟩
  | some node =>
    obtain ⟨unid, ep⟩ := node
    obtain ⟨em, hem, hout⟩ := @emulate_outcome h inv cache
    have hresult := @effects_invokeCommand h env now pending inv em (unid, ep) cache.values hb hem
    rcases hout with ⟨⟨hcontinue, hnone⟩, hallowed⟩ | ⟨⟨hstop, status, hstatus, heffects⟩, -, -,
      hblocked, hdecoded⟩ | ⟨⟨hstop, heffects⟩, hmotion, hmode⟩
    · obtain ⟨cmd, hcmd⟩ := Option.ne_none_iff_exists'.mp hmapped
      have hswitch := (@translate_of_mapped h inv c em cmd hc hcmd).1
      rw [hresult, hcontinue, hnone, hswitch, withheld_iff hb hallowed]
      exact silent_answer_iff hh hc hcmd hb hem
    · have hmotion : h.IsMotion inv := by
        by_contra hno
        exact hdecoded hno hd
      rw [hresult, hstop, heffects]
      refine ⟨fun _ => .motionBlocked hmotion (hblocked hmotion).1, fun _ => ?_⟩
      simpa [Silent, Effect.isSilent] using hstatus
    · rw [hresult, hstop, heffects]
      refine ⟨fun _ => .motionBlocked hmotion ?_, fun _ e he => by cases he⟩
      simp only [EmulateWindowCovering.MotionBlocked, hmode]

/-- A lock command whose arguments do not decode is withheld while another one is pending. -/
theorem silent_invokeCommand_busy :
    Silent (doorLock.invokeCommand oneEndpoint 0 TypedCache.empty.values
      (fun _ => some ⟨1, true, 0⟩) ⟨2, 0, .unicast 1, 0, fun _ => none⟩).effects := by
  have hswitch : doorLock.switch 0 =
      some ⟨0, some "LockDoor", ["PINOrRFIDCode"], "LockDoorResponse"⟩ := rfl
  apply (silent_invokeCommand_iff (by decide) TypedCache.empty hswitch (by decide) rfl).mpr
  exact .notSent rfl (by decide) (Or.inl rfl)

/-- `MoveToLevel` is published and acknowledged although its arguments do not decode. -/
theorem not_silent_invokeCommand_moveToLevel :
    ¬ Silent (levelControl.invokeCommand oneEndpoint 0 TypedCache.empty.values (fun _ => none)
      ⟨2, 0, .unicast 1, 0, fun _ => none⟩).effects := by
  intro hsilent
  have hstatus := hsilent (.addStatus ⟨2, 8, 0⟩ .success) List.mem_cons_self
  cases hstatus

end ClusterCommandHandler

end UnifyMatterBridge
