import UnifyMatterBridge.Group.Translator
import UnifyMatterBridge.Json

/-! What every command translator shares (`command_translator_interface`): a command is sent to
one device or to a group, and one that expects a response is remembered until then. -/
namespace UnifyMatterBridge

structure CommandPath where
  endpointId : ℕ
  clusterId : ℕ
  commandId : ℕ
  deriving DecidableEq, Repr

inductive ImStatus where
  | success
  | failure
  | unsupportedCommand
  | invalidCommand
  | constraintError
  | busy
  deriving DecidableEq, Repr

inductive Exchange where
  | none
  | unicast (fabricIndex : ℕ)
  | group (groupId fabricIndex : ℕ)
  deriving DecidableEq, Repr

/-- What handling a command does outside the translator. -/
inductive Effect where
  | addStatus (path : CommandPath) (status : ImStatus)
  | publish (topic : String) (message : Json)
  | storeHandle (key : String) (handle : ℕ)

/-- `commandInfo`: the handle of a command, whether it can still be used (`Get()` is not null),
and when it was sent, in nanoseconds. -/
structure CommandInfo where
  handle : ℕ
  live : Bool
  timeout : ℤ
  deriving DecidableEq, Repr

/-- `cmd_responsestruct_map`. -/
abbrev PendingTable := String → Option CommandInfo

/-- What a translator sees of the node state monitor and of the group translator. -/
structure SendEnv where
  bridgedEndpoint : ℕ → Option (String × ℕ)
  getUnifyGroup : MatterGroup → Option ℕ

/-- The table and the effects after a call, and the exception that leaves it, if one does. -/
structure SendResult where
  effects : List Effect
  pending : PendingTable
  exception : Option CxxException

/-- More than ten whole seconds have passed (`duration_cast` truncates). -/
def ishandlerTimedout (now start : ℤ) : Bool := 10 < (now - start).tdiv 1000000000

def clearTimedoutHandlers (now : ℤ) (pending : PendingTable) : PendingTable := fun key =>
  match pending key with
  | some info => if ishandlerTimedout now info.timeout then none else some info
  | none => none

def unidTopic (unid : String) (ep : ℕ) : String := "ucl/by-unid/" ++ unid ++ "/ep" ++ toString ep

def cmdResponseKey (unid : String) (ep : ℕ) (clusterName cmdResponse : String) : String :=
  unidTopic unid ep ++ "/" ++ clusterName ++ "/GeneratedCommands/" ++ cmdResponse

/-- The topic of the device or of the mapped group; no topic for a group without a mapping. -/
def commandTopic (env : SendEnv) (exchange : Exchange) (unid : String) (ep : ℕ) : Option String :=
  match exchange with
  | .group groupId fabricIndex =>
    (env.getUnifyGroup ⟨groupId, fabricIndex⟩).map fun g => "ucl/by-group/" ++ toString g
  | .unicast _ | .none => some (unidTopic unid ep)

def commandMessage (payload : Json) : Except CxxException Json :=
  if payload.isEmpty then .ok (.object []) else payload.dump

/-- `send_unify_mqtt_cmd`; an empty `cmdResponse` means that no response is expected. -/
def sendUnifyMqttCmd (env : SendEnv) (now : ℤ) (pending : PendingTable) (clusterName : String)
    (path : CommandPath) (exchange : Exchange) (handle : ℕ) (cmd : String) (payload : Json)
    (cmdResponse : String) : SendResult :=
  match env.bridgedEndpoint path.endpointId with
  | none => ⟨[], pending, none⟩
  | some (unid, ep) =>
    let key := cmdResponseKey unid ep clusterName cmdResponse
    let pending := if cmdResponse = "" then pending else clearTimedoutHandlers now pending
    if cmdResponse ≠ "" ∧ (pending key).isSome then
      ⟨[.addStatus path .busy], pending, none⟩
    else
      match commandTopic env exchange unid ep with
      | none => ⟨[], pending, none⟩
      | some topic =>
        match commandMessage payload with
        | .error e => ⟨[], pending, some e⟩
        | .ok message =>
          let published := Effect.publish (topic ++ "/" ++ clusterName ++ "/Commands/" ++ cmd) message
          if cmdResponse = "" then ⟨[published], pending, none⟩
          else
            ⟨[published, .storeHandle key handle],
              Function.update pending key (some ⟨handle, true, now⟩), none⟩

theorem clearTimedoutHandlers_eq_some {now : ℤ} {pending : PendingTable} {key : String}
    {info : CommandInfo} :
    clearTimedoutHandlers now pending key = some info ↔
      pending key = some info ∧ ishandlerTimedout now info.timeout = false := by
  unfold clearTimedoutHandlers
  cases pending key with
  | none => simp
  | some info' =>
    dsimp only
    split_ifs with htimeout
    · constructor
      · intro h
        cases h
      · rintro ⟨h, hnot⟩
        cases h
        rw [htimeout] at hnot
        cases hnot
    · constructor
      · intro h
        cases h
        exact ⟨rfl, by simpa using htimeout⟩
      · exact fun h => h.1

theorem ishandlerTimedout_mono {now now' start : ℤ} (hle : now ≤ now')
    (h : ishandlerTimedout now' start = false) : ishandlerTimedout now start = false := by
  have hdiv : (now - start).tdiv 1000000000 ≤ (now' - start).tdiv 1000000000 :=
    Int.tdiv_le_tdiv (by decide) (by omega)
  simp only [ishandlerTimedout, decide_eq_false_iff_not, not_lt] at h ⊢
  exact hdiv.trans h

theorem commandMessage_eq_ok {payload : Json} (h : payload.isText = true) :
    commandMessage payload = .ok (if payload.isEmpty then .object [] else payload) := by
  unfold commandMessage Json.dump
  rw [if_pos h]
  split <;> rfl

theorem commandMessage_eq_error {payload : Json} (h : payload.isText = false) :
    commandMessage payload = .error .jsonTypeError := by
  have hempty : payload.isEmpty = false := by
    by_contra hne
    rw [Json.isText_of_isEmpty (by simpa using hne)] at h
    cases h
  simp [commandMessage, Json.dump, hempty, h]

section Send

variable {env : SendEnv} {now : ℤ} {pending : PendingTable} {clusterName : String}
  {path : CommandPath} {exchange : Exchange} {handle : ℕ} {cmd : String} {payload : Json}
  {cmdResponse : String} {unid : String} {ep : ℕ}

theorem sendUnifyMqttCmd_of_not_bridged (h : env.bridgedEndpoint path.endpointId = none) :
    sendUnifyMqttCmd env now pending clusterName path exchange handle cmd payload cmdResponse =
      ⟨[], pending, none⟩ := by
  simp only [sendUnifyMqttCmd, h]

theorem sendUnifyMqttCmd_no_response (h : env.bridgedEndpoint path.endpointId = some (unid, ep)) :
    sendUnifyMqttCmd env now pending clusterName path exchange handle cmd payload "" =
      match commandTopic env exchange unid ep with
      | none => ⟨[], pending, none⟩
      | some topic =>
        match commandMessage payload with
        | .error e => ⟨[], pending, some e⟩
        | .ok message =>
          ⟨[.publish (topic ++ "/" ++ clusterName ++ "/Commands/" ++ cmd) message], pending, none⟩ := by
  simp [sendUnifyMqttCmd, h]

theorem sendUnifyMqttCmd_busy (h : env.bridgedEndpoint path.endpointId = some (unid, ep))
    (hr : cmdResponse ≠ "")
    (hkey : (clearTimedoutHandlers now pending
      (cmdResponseKey unid ep clusterName cmdResponse)).isSome = true) :
    sendUnifyMqttCmd env now pending clusterName path exchange handle cmd payload cmdResponse =
      ⟨[.addStatus path .busy], clearTimedoutHandlers now pending, none⟩ := by
  simp [sendUnifyMqttCmd, h, hr, hkey]

theorem sendUnifyMqttCmd_response (h : env.bridgedEndpoint path.endpointId = some (unid, ep))
    (hr : cmdResponse ≠ "")
    (hkey : clearTimedoutHandlers now pending
      (cmdResponseKey unid ep clusterName cmdResponse) = none) :
    sendUnifyMqttCmd env now pending clusterName path exchange handle cmd payload cmdResponse =
      match commandTopic env exchange unid ep with
      | none => ⟨[], clearTimedoutHandlers now pending, none⟩
      | some topic =>
        match commandMessage payload with
        | .error e => ⟨[], clearTimedoutHandlers now pending, some e⟩
        | .ok message =>
          ⟨[.publish (topic ++ "/" ++ clusterName ++ "/Commands/" ++ cmd) message,
              .storeHandle (cmdResponseKey unid ep clusterName cmdResponse) handle],
            Function.update (clearTimedoutHandlers now pending)
              (cmdResponseKey unid ep clusterName cmdResponse) (some ⟨handle, true, now⟩), none⟩ := by
  simp [sendUnifyMqttCmd, h, hr, hkey]

theorem sendUnifyMqttCmd_exception (h : payload.isText = true) :
    (sendUnifyMqttCmd env now pending clusterName path exchange handle cmd payload
      cmdResponse).exception = none := by
  cases hb : env.bridgedEndpoint path.endpointId with
  | none => rw [sendUnifyMqttCmd_of_not_bridged hb]
  | some a =>
    by_cases hr : cmdResponse = ""
    · rw [hr, sendUnifyMqttCmd_no_response hb, commandMessage_eq_ok h]
      cases commandTopic env exchange a.1 a.2 <;> rfl
    · cases hkey : clearTimedoutHandlers now pending
          (cmdResponseKey a.1 a.2 clusterName cmdResponse) with
      | none =>
        rw [sendUnifyMqttCmd_response hb hr hkey, commandMessage_eq_ok h]
        cases commandTopic env exchange a.1 a.2 <;> rfl
      | some info => rw [sendUnifyMqttCmd_busy hb hr (by rw [hkey]; rfl)]

end Send

end UnifyMatterBridge
