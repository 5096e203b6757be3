import UnifyMatterBridge.Bridge.Locality
import UnifyMatterBridge.Command.PendingResponse
import UnifyMatterBridge.Lib.Execution

/-! The delivery of a group command: it is invoked on every member of the group, and every member
that takes it sends it to the whole group. -/
namespace UnifyMatterBridge

open ClusterCommandHandler

def Effect.message? : Effect → Option (String × Json)
  | .publish topic message => some (topic, message)
  | .addStatus _ _ | .storeHandle _ _ => none

def messages (effects : List Effect) : List (String × Json) := effects.filterMap Effect.message?

/-- A Matter command that is sent to a group. -/
structure Groupcast where
  handler : ClusterCommandHandler
  handler_mem : handler ∈ ClusterCommandHandler.all
  commandId : ℕ
  group : MatterGroup
  handle : ℕ
  decode : ℕ → Option Args

structure MemberCall where
  endpointId : ℕ
  now : ℤ
  deriving DecidableEq, Repr

structure CommandState where
  cache : AttributeCache
  pending : PendingTable

namespace Groupcast

variable (g : Groupcast) (env : SendEnv) (st : CommandState) (call : MemberCall)

def invocation : Invocation :=
  ⟨call.endpointId, g.commandId, .group g.group.group g.group.fabricIndex, g.handle, g.decode⟩

def invokeCommand : InvokeResult :=
  g.handler.invokeCommand env call.now st.cache st.pending (g.invocation call)

def step : CommandState :=
  ⟨(g.invokeCommand env st call).cache, (g.invokeCommand env st call).pending⟩

def published : List (String × Json) := messages (g.invokeCommand env st call).effects

def publishedBy (calls : List MemberCall) : List (String × Json) :=
  (EventSystem.trace (g.step env) (g.published env) st calls).flatten

/-- The topic of a command to the group. -/
def OnTopic (unifyGroup : ℕ) (topic : String) : Prop :=
  ∃ cmd, topic = "ucl/by-group/" ++ toString unifyGroup ++ "/" ++ g.handler.clusterName ++
    "/Commands/" ++ cmd

/-- One message is published to the mapped group, and none to a group without a mapping. -/
def DeliveredOnce (calls : List MemberCall) : Prop :=
  match env.getUnifyGroup g.group with
  | none => g.publishedBy env st calls = []
  | some unifyGroup =>
    ∃ message, g.OnTopic unifyGroup message.1 ∧ g.publishedBy env st calls = [message]

/-- A member that is bridged takes a command that has a Unify command: its emulator leaves the
command to the switch, no other command of its key is waiting for a response, and the payload is
text. -/
structure TakenAs (unid : String) (ep : ℕ) (c : CommandCase) (em : Emulation) : Prop where
  bridged : env.bridgedEndpoint call.endpointId = some (unid, ep)
  switch : g.handler.switch g.commandId = some c
  mapped : c.cmd ≠ none
  emulated : g.handler.emulate st.cache (g.invocation call) = .ok em
  forwarded : em.cdata.cmdEmulationCompleted = false
  idle : c.cmdResponse ≠ "" → ¬ g.handler.Busy call.now st.pending unid ep c
  text : (g.handler.translate (g.invocation call) em).payload.isText = true

def Taken : Prop := ∃ unid ep c em, g.TakenAs env st call unid ep c em

end Groupcast

section Messages

theorem messages_append (effects effects' : List Effect) :
    messages (effects ++ effects') = messages effects ++ messages effects' :=
  List.filterMap_append

theorem messages_emulate {cache : AttributeCache} {path : CommandPath}
    {decode : ℕ → Option Args} {cmd : String} {check : Args → Bool} {arguments : List String} :
    messages (EmulateColorControl.emulate cache path decode cmd check arguments).effects = [] := by
  unfold EmulateColorControl.emulate
  cases decode 0 with
  | none => rfl
  | some data =>
    dsimp only
    split_ifs <;> rfl

theorem messages_windowCovering {cache : AttributeCache} {path : CommandPath} {em : Emulation}
    (h : EmulateWindowCovering.command cache path = .ok em) : messages em.effects = [] := by
  obtain ⟨percentage, -, h⟩ := Outcome.bind_eq_ok h
  obtain ⟨position, -, h⟩ := Outcome.bind_eq_ok h
  obtain ⟨answer, hanswer, h⟩ := Outcome.bind_eq_ok h
  cases answer with
  | some effects =>
    cases h
    obtain ⟨mode, -, hmode⟩ := Outcome.bind_eq_ok hanswer
    have hmode : EmulateWindowCovering.modeAnswer path mode = some effects := Except.ok.inj hmode
    unfold EmulateWindowCovering.modeAnswer at hmode
    split at hmode
    · cases hmode
      rfl
    · split_ifs at hmode <;> cases hmode <;> rfl
  | none =>
    dsimp only [EmulateWindowCovering.move] at h
    split at h
    · obtain ⟨limit, -, h⟩ := Outcome.bind_eq_ok h
      cases h
      rfl
    · obtain ⟨limit, -, h⟩ := Outcome.bind_eq_ok h
      cases h
      rfl
    · cases h
      rfl
    · cases h
      rfl

theorem messages_invokeEmulator {cache : AttributeCache} {path : CommandPath}
    {decode : ℕ → Option Args} {em : Emulation} (h : invokeEmulator cache path decode = .ok em) :
    messages em.effects = [] := by
  unfold invokeEmulator at h
  split at h
  · cases h
    unfold EmulateLevelControl.command
    cases decode 0 with
    | none => rfl
    | some data =>
      dsimp only
      split_ifs <;> rfl
  · cases h
    unfold EmulateDoorLock.command
    split <;> rfl
  · exact messages_windowCovering h
  · unfold EmulateThermostat.command at h
    cases hdecode : decode 0 with
    | none =>
      rw [hdecode] at h
      cases h
      rfl
    | some data =>
      rw [hdecode] at h
      obtain ⟨amount, -, h⟩ := Outcome.bind_eq_ok h
      cases amount <;> cases h <;> rfl
  · cases h
    unfold EmulateColorControl.command
    split <;> first
      | exact messages_emulate
      | rfl
  · cases h
    rfl

section Send

variable {env : SendEnv} {now : ℤ} {pending : PendingTable} {clusterName : String}
  {path : CommandPath} {group : MatterGroup} {handle : ℕ} {cmd : String} {payload : Json}
  {cmdResponse : String} {unid : String} {ep : ℕ}

/-- What is sent to a group: nothing to one without a mapping, nor while another command is waiting,
nor what is no text. -/
theorem messages_sendUnifyMqttCmd
    (hb : env.bridgedEndpoint path.endpointId = some (unid, ep)) :
    messages (sendUnifyMqttCmd env now pending clusterName path (.group group.group group.fabricIndex)
        handle cmd payload cmdResponse).effects =
      match env.getUnifyGroup group with
      | none => []
      | some unifyGroup =>
        if (cmdResponse ≠ "" → ¬ (clearTimedoutHandlers now pending
            (cmdResponseKey unid ep clusterName cmdResponse)).isSome = true) ∧
          payload.isText = true
        then [("ucl/by-group/" ++ toString unifyGroup ++ "/" ++ clusterName ++ "/Commands/" ++ cmd,
          if payload.isEmpty then .object [] else payload)]
        else [] := by
  have htopic : commandTopic env (.group group.group group.fabricIndex) unid ep =
      (env.getUnifyGroup group).map fun g => "ucl/by-group/" ++ toString g := rfl
  by_cases hr : cmdResponse = ""
  · subst hr
    rw [sendUnifyMqttCmd_no_response hb, htopic]
    cases env.getUnifyGroup group with
    | none => rfl
    | some unifyGroup =>
      cases htext : payload.isText with
      | false => simp [commandMessage_eq_error htext, messages]
      | true => simp [commandMessage_eq_ok htext, messages, Effect.message?]
  · cases hkey : clearTimedoutHandlers now pending
        (cmdResponseKey unid ep clusterName cmdResponse) with
    | some info =>
      rw [sendUnifyMqttCmd_busy hb hr (by rw [hkey]; rfl)]
      cases env.getUnifyGroup group with
      | none => rfl
      | some unifyGroup => simp [hr, messages, Effect.message?]
    | none =>
      rw [sendUnifyMqttCmd_response hb hr hkey, htopic]
      cases env.getUnifyGroup group with
      | none => rfl
      | some unifyGroup =>
        cases htext : payload.isText with
        | false => simp [commandMessage_eq_error htext, messages]
        | true => simp [commandMessage_eq_ok htext, messages, Effect.message?]

end Send

end Messages

namespace Groupcast

section Call

variable {g : Groupcast} {env : SendEnv} {st : CommandState} {call : MemberCall} {unid : String}
  {ep : ℕ} {c : CommandCase} {cmd : String} {em : Emulation}

theorem switch_of_emulated
    (h : isCommandEmulated (g.handler.requestPath (g.invocation call)) = true) :
    ∃ c, g.handler.switch g.commandId = some c ∧ c.cmd ≠ none := by
  have hall : ∀ h ∈ ClusterCommandHandler.all, ∀ id ∈ emulatedCommands h.clusterId,
      (h.switch id).any (fun c => c.cmd.isSome) = true := by
    decide
  have hmapped := hall g.handler g.handler_mem g.commandId (of_decide_eq_true h)
  obtain ⟨c, hc, hcmd⟩ := (Option.any_eq_true _ _).mp hmapped
  exact ⟨c, hc, Option.isSome_iff_ne_none.mp hcmd⟩

theorem published_of_not_bridged (hb : env.bridgedEndpoint call.endpointId = none) :
    g.published env st call = [] := by
  have hb' : env.bridgedEndpoint (g.invocation call).endpointId = none := hb
  simp only [published, invokeCommand, ClusterCommandHandler.invokeCommand, hb']
  rfl

theorem published_of_error {e : CxxException}
    (hem : g.handler.emulate st.cache (g.invocation call) = .error e) :
    g.published env st call = [] := by
  unfold published invokeCommand ClusterCommandHandler.invokeCommand
  rw [hem]
  split <;> rfl

theorem messages_of_emulate (hem : g.handler.emulate st.cache (g.invocation call) = .ok em) :
    messages em.effects = [] := by
  unfold ClusterCommandHandler.emulate at hem
  split_ifs at hem
  · exact messages_invokeEmulator hem
  · cases hem
    rfl

/-- Unless the emulator completes a command, what is published is sent by the switch. -/
theorem published_eq (hb : env.bridgedEndpoint call.endpointId = some (unid, ep))
    (hem : g.handler.emulate st.cache (g.invocation call) = .ok em) :
    g.published env st call =
      if em.cdata.cmdEmulationCompleted then [] else
        messages (g.handler.translate (g.invocation call) em).effects ++
          messages (g.handler.answer env call.now st.pending (g.invocation call)
            (g.handler.translate (g.invocation call) em)).effects := by
  have heffects := @effects_invokeCommand g.handler env call.now st.pending (g.invocation call) em
    (unid, ep) st.cache hb hem
  unfold published invokeCommand
  rw [heffects]
  split_ifs
  · exact messages_of_emulate hem
  · rw [messages_append, messages_append, messages_of_emulate hem, List.nil_append]

theorem published_of_not_mapped (hb : env.bridgedEndpoint call.endpointId = some (unid, ep))
    (hem : g.handler.emulate st.cache (g.invocation call) = .ok em)
    (hmapped : ∀ c, g.handler.switch g.commandId = some c → c.cmd = none) :
    g.published env st call = [] := by
  have hforward : em = .forward st.cache 0 "" .null := by
    apply eq_forward_of_not_emulated _ hem
    intro hemulated
    obtain ⟨c, hc, hcmd⟩ := switch_of_emulated hemulated
    exact hcmd (hmapped c hc)
  have htranslate : (g.handler.translate (g.invocation call) em).cmd = "" ∧
      messages (g.handler.translate (g.invocation call) em).effects = [] := by
    have hid : (g.invocation call).commandId = g.commandId := rfl
    unfold ClusterCommandHandler.translate
    rw [hid, hforward]
    cases hc : g.handler.switch g.commandId with
    | none => exact ⟨rfl, rfl⟩
    | some c =>
      simp only [hmapped c hc]
      refine ⟨rfl, ?_⟩
      split_ifs <;> rfl
  have hanswer : messages (g.handler.answer env call.now st.pending (g.invocation call)
      (g.handler.translate (g.invocation call) em)).effects = [] := by
    unfold ClusterCommandHandler.answer
    rw [if_pos htranslate.1]
    rfl
  rw [published_eq hb hem, htranslate.2, hanswer]
  split_ifs <;> rfl

theorem published_of_mapped (hb : env.bridgedEndpoint call.endpointId = some (unid, ep))
    (hem : g.handler.emulate st.cache (g.invocation call) = .ok em)
    (hc : g.handler.switch g.commandId = some c) (hcmd : c.cmd = some cmd) :
    g.published env st call =
      if em.cdata.cmdEmulationCompleted then [] else
        messages (sendUnifyMqttCmd env call.now st.pending g.handler.clusterName
          (g.handler.requestPath (g.invocation call))
          (.group g.group.group g.group.fabricIndex) g.handle cmd
          (g.handler.translate (g.invocation call) em).payload c.cmdResponse).effects := by
  have hc' : g.handler.switch (g.invocation call).commandId = some c := hc
  obtain ⟨hswitch, hname, hresponse⟩ := @translate_of_mapped g.handler (g.invocation call) c em cmd
    hc' hcmd
  have hnamed : cmd ≠ "" := by
    intro hempty
    exact (regular_of_switch g.handler_mem hc').1.named (hempty ▸ hcmd)
  have hanswer : messages (g.handler.answer env call.now st.pending (g.invocation call)
      (g.handler.translate (g.invocation call) em)).effects =
      messages (sendUnifyMqttCmd env call.now st.pending g.handler.clusterName
        (g.handler.requestPath (g.invocation call)) (.group g.group.group g.group.fabricIndex)
        g.handle cmd (g.handler.translate (g.invocation call) em).payload c.cmdResponse).effects := by
    unfold ClusterCommandHandler.answer
    rw [hname, hresponse, if_neg hnamed]
    split_ifs <;> rfl
  rw [published_eq hb hem, hswitch, hanswer]
  rfl

/-- A member that takes the command sends it to the group, if the group is mapped. -/
theorem published_of_taken (h : g.Taken env st call) :
    ∃ cmd message, g.published env st call = (env.getUnifyGroup g.group).toList.map fun unifyGroup =>
      ("ucl/by-group/" ++ toString unifyGroup ++ "/" ++ g.handler.clusterName ++ "/Commands/" ++ cmd,
        message) := by
  obtain ⟨unid, ep, c, em, htaken⟩ := h
  obtain ⟨cmd, hcmd⟩ := Option.ne_none_iff_exists'.mp htaken.mapped
  have hb : env.bridgedEndpoint (g.handler.requestPath (g.invocation call)).endpointId =
      some (unid, ep) := htaken.bridged
  let payload := (g.handler.translate (g.invocation call) em).payload
  refine ⟨cmd, if payload.isEmpty then .object [] else payload, ?_⟩
  rw [published_of_mapped htaken.bridged htaken.emulated htaken.switch hcmd, htaken.forwarded,
    messages_sendUnifyMqttCmd hb]
  cases env.getUnifyGroup g.group with
  | none => rfl
  | some unifyGroup =>
    dsimp only
    rw [if_neg Bool.false_ne_true, if_pos ⟨htaken.idle, htaken.text⟩]
    rfl

theorem published_of_not_taken (h : ¬ g.Taken env st call) : g.published env st call = [] := by
  cases hb : env.bridgedEndpoint call.endpointId with
  | none => exact published_of_not_bridged hb
  | some address =>
    obtain ⟨unid, ep⟩ := address
    have hb' : env.bridgedEndpoint (g.handler.requestPath (g.invocation call)).endpointId =
      some (unid, ep) := hb
    cases hem : g.handler.emulate st.cache (g.invocation call) with
    | error e => exact published_of_error hem
    | ok em =>
      by_cases hmapped : ∀ c, g.handler.switch g.commandId = some c → c.cmd = none
      · exact published_of_not_mapped hb hem hmapped
      · push Not at hmapped
        obtain ⟨c, hc, hne⟩ := hmapped
        obtain ⟨cmd, hcmd⟩ := Option.ne_none_iff_exists'.mp hne
        rw [published_of_mapped hb hem hc hcmd]
        split_ifs with hcompleted
        · rfl
        · rw [messages_sendUnifyMqttCmd hb']
          cases env.getUnifyGroup g.group with
          | none => rfl
          | some unifyGroup =>
            refine if_neg fun hsent => h ⟨unid, ep, c, em, ?_⟩
            exact ⟨hb, hc, hne, hem, Bool.eq_false_iff.mpr hcompleted, hsent.1, hsent.2⟩

theorem published_of_no_group (hgroup : env.getUnifyGroup g.group = none) :
    g.published env st call = [] := by
  by_cases h : g.Taken env st call
  · obtain ⟨cmd, message, hpublished⟩ := published_of_taken h
    rw [hpublished, hgroup]
    rfl
  · exact published_of_not_taken h

end Call

end Groupcast

section Frame

theorem cmdResponseKey_inj {unid unid' clusterName cmdResponse clusterName' cmdResponse' : String}
    {ep ep' : ℕ} (h : '/' ∉ unid.toList) (h' : '/' ∉ unid'.toList)
    (heq : cmdResponseKey unid ep clusterName cmdResponse =
      cmdResponseKey unid' ep' clusterName' cmdResponse') : unid = unid' ∧ ep = ep' := by
  have hdigits : ∀ n : ℕ, '/' ∉ (toString n).toList := by
    intro n hmem
    exact absurd (DecimalKey.isDigit_of_mem_toString hmem) (by decide)
  have hlist := congrArg String.toList heq
  simp only [cmdResponseKey, unidTopic, String.toList_append, List.append_assoc,
    List.append_cancel_left_eq] at hlist
  obtain ⟨hunid, hrest⟩ := (DecimalKey.append_cons_inj_left h h').mp hlist
  have hep := ((DecimalKey.append_cons_inj_left (hdigits ep) (hdigits ep')).mp
    (List.append_cancel_left hrest)).1
  exact ⟨String.toList_inj.mp hunid, DecimalKey.toString_inj.mp (String.toList_inj.mp hep)⟩

theorem clearTimedoutHandlers_congr {now : ℤ} {pending pending' : PendingTable} {key : String}
    (h : pending key = pending' key) :
    clearTimedoutHandlers now pending key = clearTimedoutHandlers now pending' key := by
  unfold clearTimedoutHandlers
  rw [h]

/-- Entries that were cleared earlier would be cleared now. -/
theorem clearTimedoutHandlers_clear {now now' : ℤ} (hle : now ≤ now') (pending : PendingTable)
    (key : String) : clearTimedoutHandlers now' (clearTimedoutHandlers now pending) key =
      clearTimedoutHandlers now' pending key := by
  apply Option.ext
  intro info
  rw [clearTimedoutHandlers_eq_some, clearTimedoutHandlers_eq_some, clearTimedoutHandlers_eq_some]
  constructor
  · exact fun h => ⟨h.1.1, h.2⟩
  · exact fun h => ⟨⟨h.1, ishandlerTimedout_mono hle h.2⟩, h.2⟩

variable {env : SendEnv} {now now' : ℤ} {pending pending' : PendingTable} {h : ClusterCommandHandler}
  {inv : Invocation} {cache : AttributeCache}

theorem clear_sendUnifyMqttCmd {clusterName key : String} {path : CommandPath} {exchange : Exchange}
    {handle : ℕ} {cmd : String} {payload : Json} {cmdResponse : String} (hle : now ≤ now')
    (hkey : ∀ unid ep, env.bridgedEndpoint path.endpointId = some (unid, ep) →
      key ≠ cmdResponseKey unid ep clusterName cmdResponse) :
    clearTimedoutHandlers now' (sendUnifyMqttCmd env now pending clusterName path exchange handle cmd
      payload cmdResponse).pending key = clearTimedoutHandlers now' pending key := by
  cases hb : env.bridgedEndpoint path.endpointId with
  | none => rw [sendUnifyMqttCmd_of_not_bridged hb]
  | some address =>
    obtain ⟨unid, ep⟩ := address
    by_cases hr : cmdResponse = ""
    · rw [hr, pending_sendUnifyMqttCmd]
    · cases hpending : clearTimedoutHandlers now pending
          (cmdResponseKey unid ep clusterName cmdResponse) with
      | some info =>
        rw [sendUnifyMqttCmd_busy hb hr (by rw [hpending]; rfl)]
        exact clearTimedoutHandlers_clear hle pending key
      | none =>
        rw [sendUnifyMqttCmd_response hb hr hpending]
        split
        · exact clearTimedoutHandlers_clear hle pending key
        · split
          · exact clearTimedoutHandlers_clear hle pending key
          · have hother : Function.update (clearTimedoutHandlers now pending)
                (cmdResponseKey unid ep clusterName cmdResponse) (some ⟨handle, true, now⟩) key =
                clearTimedoutHandlers now pending key :=
              Function.update_of_ne (hkey unid ep hb) _ _
            exact (clearTimedoutHandlers_congr hother).trans
              (clearTimedoutHandlers_clear hle pending key)

theorem clear_invokeCommand {key : String} (hle : now ≤ now')
    (hkey : ∀ unid ep cmdResponse, env.bridgedEndpoint inv.endpointId = some (unid, ep) →
      key ≠ cmdResponseKey unid ep h.clusterName cmdResponse) :
    clearTimedoutHandlers now' (h.invokeCommand env now cache pending inv).pending key =
      clearTimedoutHandlers now' pending key := by
  unfold ClusterCommandHandler.invokeCommand
  split
  · rfl
  · split
    · rfl
    · dsimp only
      split_ifs
      · rfl
      · unfold ClusterCommandHandler.answer
        split_ifs
        · rfl
        · exact clear_sendUnifyMqttCmd hle fun unid ep hb => hkey unid ep _ hb
        · exact clear_sendUnifyMqttCmd hle fun unid ep hb => hkey unid ep _ hb

theorem effects_sendUnifyMqttCmd_congr {clusterName : String} {path : CommandPath}
    {exchange : Exchange} {handle : ℕ} {cmd : String} {payload : Json} {cmdResponse : String}
    (hsame : ∀ unid ep, env.bridgedEndpoint path.endpointId = some (unid, ep) →
      clearTimedoutHandlers now pending (cmdResponseKey unid ep clusterName cmdResponse) =
        clearTimedoutHandlers now pending' (cmdResponseKey unid ep clusterName cmdResponse)) :
    (sendUnifyMqttCmd env now pending clusterName path exchange handle cmd payload
        cmdResponse).effects =
      (sendUnifyMqttCmd env now pending' clusterName path exchange handle cmd payload
        cmdResponse).effects := by
  cases hb : env.bridgedEndpoint path.endpointId with
  | none => rw [sendUnifyMqttCmd_of_not_bridged hb, sendUnifyMqttCmd_of_not_bridged hb]
  | some address =>
    obtain ⟨unid, ep⟩ := address
    by_cases hr : cmdResponse = ""
    · rw [hr, sendUnifyMqttCmd_no_response hb, sendUnifyMqttCmd_no_response hb]
      split
      · rfl
      · split <;> rfl
    · have hkey := hsame unid ep hb
      cases hpending : clearTimedoutHandlers now pending
          (cmdResponseKey unid ep clusterName cmdResponse) with
      | some info =>
        rw [hpending] at hkey
        rw [sendUnifyMqttCmd_busy hb hr (by rw [hpending]; rfl),
          sendUnifyMqttCmd_busy hb hr (by rw [← hkey]; rfl)]
      | none =>
        rw [hpending] at hkey
        rw [sendUnifyMqttCmd_response hb hr hpending, sendUnifyMqttCmd_response hb hr hkey.symm]
        split
        · rfl
        · split <;> rfl

/-- What a command does depends only on what is pending for its endpoint. -/
theorem effects_invokeCommand_congr
    (hsame : ∀ unid ep cmdResponse, env.bridgedEndpoint inv.endpointId = some (unid, ep) →
      clearTimedoutHandlers now pending (cmdResponseKey unid ep h.clusterName cmdResponse) =
        clearTimedoutHandlers now pending' (cmdResponseKey unid ep h.clusterName cmdResponse)) :
    (h.invokeCommand env now cache pending inv).effects =
      (h.invokeCommand env now cache pending' inv).effects := by
  have hanswer : ∀ t, (h.answer env now pending inv t).effects =
      (h.answer env now pending' inv t).effects := by
    intro t
    have hsent := @effects_sendUnifyMqttCmd_congr env now pending pending' h.clusterName
      (h.requestPath inv) inv.exchange inv.handle t.cmd t.payload t.cmdResponse
      fun unid ep hb => hsame unid ep t.cmdResponse hb
    unfold ClusterCommandHandler.answer
    split_ifs
    · rfl
    · exact hsent
    · exact congrArg (List.cons _) hsent
  unfold ClusterCommandHandler.invokeCommand
  split
  · rfl
  · split
    · rfl
    · dsimp only
      split_ifs
      · rfl
      · rw [hanswer]

end Frame

section Delivery

/-- What the node state monitor has of the endpoints: no Unify endpoint has two ids, and a UNID is a
level of a topic. -/
structure BridgedEnv extends SendEnv where
  address_inj : ∀ {id id' address}, bridgedEndpoint id = some address →
    bridgedEndpoint id' = some address → id = id'
  unid_level : ∀ {id unid ep}, bridgedEndpoint id = some (unid, ep) → '/' ∉ unid.toList

def BridgedEnv.ofMonitor {Table Content : Type} (s : MonitorState Table Content)
    (getUnifyGroup : MatterGroup → Option ℕ)
    (haddresses : s.bridgedEndpoints.Pairwise fun a b => a.address ≠ b.address)
    (hlevel : ∀ e ∈ s.bridgedEndpoints, '/' ∉ e.address.1.toList) : BridgedEnv where
  toSendEnv := PendingResponse.sendEnv s getUnifyGroup
  address_inj {id id' address} h h' := by
    obtain ⟨e, he, haddress⟩ := Option.map_eq_some_iff.mp h
    obtain ⟨e', he', haddress'⟩ := Option.map_eq_some_iff.mp h'
    have hnodup : (s.bridgedEndpoints.map BridgedEndpoint.address).Nodup :=
      List.pairwise_map.mpr haddresses
    have heq : e = e' := List.inj_on_of_nodup_map hnodup (List.mem_of_find?_eq_some he)
      (List.mem_of_find?_eq_some he') (haddress.trans haddress'.symm)
    have hid : ∀ {id e}, NodeStateMonitor.bridgedEndpointOfMatter s id = some e →
        e.matterEndpoint = id := by
      intro id e he
      unfold NodeStateMonitor.bridgedEndpointOfMatter at he
      simpa using List.find?_some he
    rw [← hid he, ← hid he', heq]
  unid_level {id unid ep} h := by
    obtain ⟨e, he, haddress⟩ := Option.map_eq_some_iff.mp h
    have hunid := hlevel e (List.mem_of_find?_eq_some he)
    rwa [haddress] at hunid

/-- The calls for the members of a group, at least one: each is bridged and called once, and time
does not go back. -/
structure MemberCalls (env : SendEnv) where
  calls : List MemberCall
  nonempty : calls ≠ []
  bridged : ∀ call ∈ calls, (env.bridgedEndpoint call.endpointId).isSome = true
  once : calls.Pairwise fun call call' => call.endpointId ≠ call'.endpointId
  inTime : calls.Pairwise fun call call' => call.now ≤ call'.now

namespace Groupcast

variable {g : Groupcast} {env : BridgedEnv} {st : CommandState}

/-- A call changes nothing of what a later call for another member publishes. -/
theorem published_step {call call' : MemberCall} (hne : call.endpointId ≠ call'.endpointId)
    (hle : call.now ≤ call'.now) :
    g.published env.toSendEnv (g.step env.toSendEnv st call) call' =
      g.published env.toSendEnv st call' := by
  have hcache : SameEndpoint (g.invocation call').endpointId
      (g.step env.toSendEnv st call).cache st.cache := invokeCommand_frame hne
  have hpending : ∀ unid ep cmdResponse,
      env.bridgedEndpoint (g.invocation call').endpointId = some (unid, ep) →
      clearTimedoutHandlers call'.now (g.step env.toSendEnv st call).pending
          (cmdResponseKey unid ep g.handler.clusterName cmdResponse) =
        clearTimedoutHandlers call'.now st.pending
          (cmdResponseKey unid ep g.handler.clusterName cmdResponse) := by
    intro unid ep cmdResponse hb'
    apply clear_invokeCommand hle
    intro unid' ep' cmdResponse' hb heq
    obtain ⟨rfl, rfl⟩ := cmdResponseKey_inj (env.unid_level hb') (env.unid_level hb) heq
    exact hne (env.address_inj hb hb')
  have heffects := (@invokeCommand_same _ _ g.handler env.toSendEnv call'.now
    (g.step env.toSendEnv st call).pending (g.invocation call') hcache).1.effects
  exact congrArg messages (heffects.trans (effects_invokeCommand_congr hpending))

theorem trace_published (calls : MemberCalls env.toSendEnv) :
    EventSystem.trace (g.step env.toSendEnv) (g.published env.toSendEnv) st calls.calls =
      calls.calls.map (g.published env.toSendEnv st) :=
  EventSystem.trace_eq_map (fun _ _ _ h => published_step h.1 h.2) (calls.once.and calls.inTime)

/-- A group command is delivered once if and only if the group has no mapping, or exactly one of its
members takes the command: every member that takes it sends it to the whole group. -/
theorem deliveredOnce_iff (g : Groupcast) (env : BridgedEnv) (st : CommandState)
    (calls : MemberCalls env.toSendEnv) :
    g.DeliveredOnce env.toSendEnv st calls.calls ↔
      env.getUnifyGroup g.group = none ∨
        ∃! call, call ∈ calls.calls ∧ g.Taken env.toSendEnv st call := by
  have hnodup : calls.calls.Nodup :=
    calls.once.imp fun hne heq => hne (congrArg MemberCall.endpointId heq)
  unfold DeliveredOnce publishedBy
  rw [trace_published]
  cases hgroup : env.getUnifyGroup g.group with
  | none =>
    refine iff_of_true ?_ (Or.inl rfl)
    rw [List.flatten_eq_nil_iff, List.forall_mem_map]
    exact fun call _ => published_of_no_group hgroup
  | some unifyGroup =>
    have hone : ∀ call, g.Taken env.toSendEnv st call →
        ∃ message, g.OnTopic unifyGroup message.1 ∧
          g.published env.toSendEnv st call = [message] := by
      intro call htaken
      obtain ⟨cmd, message, hpublished⟩ := published_of_taken htaken
      rw [hgroup] at hpublished
      exact ⟨_, ⟨cmd, rfl⟩, hpublished⟩
    have hunique := EventSystem.flatten_map_eq_singleton_iff
      (fun call h => published_of_not_taken h) hone hnodup
    exact hunique.trans (by simp)

def twoLights : BridgedEnv where
  bridgedEndpoint id := if id = 2 then some ("A", 1) else if id = 3 then some ("B", 1) else none
  getUnifyGroup _ := some 7
  address_inj {id id' address} h h' := by
    have hne : (some ("A", 1) : Option (String × ℕ)) ≠ some ("B", 1) := by decide
    split_ifs at h h'
    · omega
    · exact absurd (h.trans h'.symm) hne
    · exact absurd (h'.trans h.symm) hne
    · omega
  unid_level {id unid ep} h := by
    split_ifs at h <;> cases h <;> decide

def toggle : Groupcast where
  handler := onOff
  handler_mem := by decide
  commandId := 2
  group := ⟨1, 1⟩
  handle := 0
  decode := fun _ => none

def bothLights : MemberCalls twoLights.toSendEnv where
  calls := [⟨2, 0⟩, ⟨3, 0⟩]
  nonempty := by decide
  bridged := by decide
  once := by decide
  inTime := by decide

/-- A `Toggle` for the two lights is sent to their group twice. -/
theorem not_deliveredOnce_toggle :
    ¬ ∀ (g : Groupcast) (env : BridgedEnv) (st : CommandState) (calls : MemberCalls env.toSendEnv),
      g.DeliveredOnce env.toSendEnv st calls.calls := by
  intro h
  have hdelivered : toggle.DeliveredOnce twoLights.toSendEnv ⟨AttributeCache.empty, fun _ => none⟩
      bothLights.calls := h toggle twoLights ⟨AttributeCache.empty, fun _ => none⟩ bothLights
  obtain ⟨message, -, hpublished⟩ := hdelivered
  have htwice : (toggle.publishedBy twoLights.toSendEnv ⟨AttributeCache.empty, fun _ => none⟩
      bothLights.calls).length = 2 := by
    decide
  rw [hpublished] at htwice
  cases htwice

end Groupcast

end Delivery

end UnifyMatterBridge
