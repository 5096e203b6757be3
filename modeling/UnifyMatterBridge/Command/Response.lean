import UnifyMatterBridge.Command.Invoke
import UnifyMatterBridge.Lib.Topic
import UnifyMatterBridge.NodeStateMonitor.Lookup

/-! The responses of Unify: `on_mqtt_message_cb` of the command translators and
`command_response` of the door lock handler, the only one that awaits responses. -/
namespace UnifyMatterBridge

def unifyClusterIdMap : List (String × ℕ) :=
  [("Basic", 0x0039), ("Identify", 0x0003), ("Groups", 0x0004), ("OnOff", 0x0006), ("Level", 0x0008),
    ("DoorLock", 0x0101), ("WindowCovering", 0x0102), ("Thermostat", 0x0201),
    ("ColorControl", 0x0300), ("IlluminanceMeasurement", 0x0400),
    ("TemperatureMeasurement", 0x0402), ("PressureMeasurement", 0x0403), ("FlowMeasurement", 0x0404),
    ("RelativityHumidity", 0x0405), ("OccupancySensing", 0x0406)]

def getClusterId (clusterName : String) : Option ℕ := unifyClusterIdMap.lookup clusterName

/-- `unify_to_matter_command_id_cluster_map` of the `DoorLock` cluster. -/
def doorLockCommandIdMap : List (String × ℕ) :=
  [("LockDoor", 0), ("LockDoorResponse", 0), ("UnlockDoor", 1), ("UnlockDoorResponse", 1)]

structure HandleStatus where
  handle : ℕ
  path : CommandPath
  status : ImStatus
  deriving DecidableEq, Repr

/-- The table after a message, the status added, and the exception that leaves the callback. -/
structure ResponseResult where
  answer : Option HandleStatus
  pending : PendingTable
  exception : Option CxxException

/-- `unify_value["Status"]` of a constant value, assigned to a string. The library asserts that the
member of an object is there. -/
def responseStatus : Json → Except CxxException String
  | .object fields =>
    match fields.lookup "Status" with
    | none => .error .jsonAssertion
    | some (.string (.utf8 status)) => .ok status
    | some _ => .error .jsonTypeError
  | _ => .error .jsonTypeError

/-- `command_response`: the status for the stored handle, unless the command is not known or the
handle is gone. -/
def commandResponse (matterEndpoint : ℕ) (cluster cmdResponse : String) (value : Json)
    (info : CommandInfo) : Except CxxException (Option HandleStatus) := do
  if getClusterId cluster ≠ some ClusterCommandHandler.doorLock.clusterId then return none
  match doorLockCommandIdMap.lookup cmdResponse with
  | none => return none
  | some commandId =>
    let status ← responseStatus value
    if info.live then
      let succeeded ← stoi status
      return some ⟨info.handle, ⟨matterEndpoint, ClusterCommandHandler.doorLock.clusterId, commandId⟩,
        if succeeded = 1 then .success else .failure⟩
    else return none

/-- `bridged_endpoint(unid, epid)`, of which the Matter endpoint is used. -/
def matterEndpointOf {Table Content : Type} (s : MonitorState Table Content) (unid : String)
    (epid : ℤ) : Option ℕ :=
  if 0 ≤ epid then
    (NodeStateMonitor.bridgedEndpoint s unid epid.toNat).map (·.matterEndpoint)
  else none

/-- A unid is a level of a topic. -/
def Addressable {Table Content : Type} (s : MonitorState Table Content) : Prop :=
  ∀ e ∈ s.bridgedEndpoints, '/' ∉ e.unifyUnid.toList

def generatedCommandsPattern : List Topic.Piece :=
  [.lit "ucl/by-unid/".toList, .level, .lit "/ep".toList, .level, .lit "/".toList, .level,
    .lit "/GeneratedCommands/".toList, .level]

/-- The exceptions that the callback catches around the table lookup, the parser and the handler. -/
def CxxException.caughtByResponse : CxxException → Bool
  | .outOfRange | .jsonParseError | .jsonTypeError => true
  | _ => false

def ResponseResult.failed (pending : PendingTable) (e : CxxException) : ResponseResult :=
  ⟨none, pending, if e.caughtByResponse then none else some e⟩

/-- `on_mqtt_message_cb` of the command translators. A missing table entry is an `out_of_range`,
which is caught. -/
def onMqttResponseCb {Table Content : Type} (s : MonitorState Table Content) (now : ℤ)
    (pending : PendingTable) (topic : String) (message : Message) : ResponseResult :=
  match Topic.search generatedCommandsPattern topic.toList with
  | some [unid, endpointId, cluster, cmdResponse] =>
    match stoi (String.ofList endpointId) with
    | .error e => ⟨none, pending, some e⟩
    | .ok epid =>
      match matterEndpointOf s (String.ofList unid) epid with
      | none => ⟨none, pending, none⟩
      | some matterEndpoint =>
        match message with
        | .empty => ⟨none, pending, none⟩
        | .text parsed =>
          if cmdResponse = [] ∨ cluster = [] then ⟨none, pending, none⟩
          else
            match pending topic with
            | none => ⟨none, pending, none⟩
            | some info =>
              if ishandlerTimedout now info.timeout then
                ⟨none, Function.update pending topic none, none⟩
              else
                match parsed with
                | .error e => .failed pending e.exception
                | .ok value =>
                  match commandResponse matterEndpoint (String.ofList cluster)
                      (String.ofList cmdResponse) value info with
                  | .error e => .failed pending e
                  | .ok none => ⟨none, pending, none⟩
                  | .ok (some answer) =>
                    -- `Release`: the entry stays, with a handle that is gone
                    ⟨some answer, Function.update pending topic (some { info with live := false }),
                      none⟩
  | _ => ⟨none, pending, none⟩

section Lookups

variable {Table Content : Type} {s : MonitorState Table Content}

theorem matterEndpointOf_isSome {e : BridgedEndpoint Content} (he : e ∈ s.bridgedEndpoints) :
    ∃ m, matterEndpointOf s e.unifyUnid e.unifyEndpoint = some m := by
  have hsome : (NodeStateMonitor.bridgedEndpoint s e.unifyUnid e.unifyEndpoint).isSome = true := by
    rw [NodeStateMonitor.bridgedEndpoint, List.find?_isSome]
    exact ⟨e, Multimap.mem_equalRange.mpr ⟨he, rfl⟩, by simp⟩
  obtain ⟨f, hf⟩ := Option.isSome_iff_exists.mp hsome
  refine ⟨f.matterEndpoint, ?_⟩
  rw [matterEndpointOf, if_pos (by omega), Int.toNat_natCast, hf]
  rfl

end Lookups

theorem addressable_oneNode : Addressable NodeStateMonitor.oneNode := by
  have haddresses : NodeStateMonitor.oneNode.bridgedEndpoints.map (·.address) = [("A", 1)] := by decide
  have hmem : ∀ e ∈ NodeStateMonitor.oneNode.bridgedEndpoints, e.address = ("A", 1) := by
    intro e he
    have hadr := List.mem_map_of_mem (f := fun e => e.address) he
    rw [haddresses] at hadr
    exact List.mem_singleton.mp hadr
  intro e he
  have hunid : e.unifyUnid = "A" := congrArg Prod.fst (hmem e he)
  rw [hunid]
  decide

theorem search_cmdResponseKey {unid clusterName cmdResponse : String} (ep : ℕ)
    (hunid : '/' ∉ unid.toList) (hcluster : '/' ∉ clusterName.toList)
    (hresponse : '/' ∉ cmdResponse.toList) :
    Topic.search generatedCommandsPattern
        (cmdResponseKey unid ep clusterName cmdResponse).toList =
      some [unid.toList, (toString ep).toList, clusterName.toList, cmdResponse.toList] := by
  have hep : '/' ∉ (toString ep).toList := by
    intro hmem
    exact absurd (DecimalKey.isDigit_of_mem_toString hmem) (by decide)
  have hrender : (cmdResponseKey unid ep clusterName cmdResponse).toList =
      Topic.render generatedCommandsPattern
        [unid.toList, (toString ep).toList, clusterName.toList, cmdResponse.toList] := by
    simp [cmdResponseKey, unidTopic, generatedCommandsPattern, Topic.render]
  rw [hrender]
  apply Topic.search_render
  exact ⟨hunid, trivial, hep, trivial, hcluster, trivial, hresponse, trivial, rfl⟩

section Response

variable {Table Content : Type} {s : MonitorState Table Content} {now : ℤ}
  {pending : PendingTable} {topic : String} {message : Message}

theorem onMqttResponseCb_of_none (h : pending topic = none) :
    (onMqttResponseCb s now pending topic message).answer = none ∧
      (onMqttResponseCb s now pending topic message).pending = pending := by
  simp only [onMqttResponseCb, h]
  repeat' split
  all_goals exact ⟨rfl, rfl⟩

/-- The answer to a well-formed response: only commands of the id map have one, and only while
their handle is there. -/
theorem commandResponse_eq_ok {value : Json} {status : String} {n : ℤ} (m : ℕ)
    (cmdResponse : String) (info : CommandInfo) (hvalue : responseStatus value = .ok status)
    (hn : stoi status = .ok n) :
    commandResponse m "DoorLock" cmdResponse value info =
      .ok ((doorLockCommandIdMap.lookup cmdResponse).bind fun commandId =>
        if info.live then
          some ⟨info.handle, ⟨m, 0x0101, commandId⟩, if n = 1 then .success else .failure⟩
        else none) := by
  have hcluster : getClusterId "DoorLock" = some ClusterCommandHandler.doorLock.clusterId := rfl
  unfold commandResponse
  rw [if_neg (not_not.mpr hcluster)]
  cases doorLockCommandIdMap.lookup cmdResponse with
  | none => rfl
  | some commandId =>
    cases hlive : info.live with
    | false => simp [hvalue, Bind.bind, Except.bind, Pure.pure, Except.pure]
    | true => simp [hvalue, hn, Bind.bind, Except.bind, Pure.pure, Except.pure]; rfl

/-- A well-formed response on the topic of an entry. -/
theorem onMqttResponseCb_of_some {unid cmdResponse : String} {ep m : ℕ} {info : CommandInfo}
    {value : Json} {status : String} {n : ℤ} (hunid : '/' ∉ unid.toList) (hep : ep ≤ 2147483647)
    (hm : matterEndpointOf s unid ep = some m) (hresponse : '/' ∉ cmdResponse.toList)
    (hne : cmdResponse ≠ "") (hvalue : responseStatus value = .ok status) (hn : stoi status = .ok n)
    (hinfo : pending (cmdResponseKey unid ep "DoorLock" cmdResponse) = some info) :
    onMqttResponseCb s now pending (cmdResponseKey unid ep "DoorLock" cmdResponse)
        (.text (.ok value)) =
      if ishandlerTimedout now info.timeout then
        ⟨none, Function.update pending (cmdResponseKey unid ep "DoorLock" cmdResponse) none, none⟩
      else
        match doorLockCommandIdMap.lookup cmdResponse, info.live with
        | some commandId, true =>
          ⟨some ⟨info.handle, ⟨m, 0x0101, commandId⟩, if n = 1 then .success else .failure⟩,
            Function.update pending (cmdResponseKey unid ep "DoorLock" cmdResponse)
              (some { info with live := false }), none⟩
        | _, _ => ⟨none, pending, none⟩ := by
  have hsearch := search_cmdResponseKey ep hunid (by decide : '/' ∉ "DoorLock".toList) hresponse
  have hstoi := stoi_toString hep
  have hnonempty : ¬ (cmdResponse.toList = [] ∨ "DoorLock".toList = []) := by
    simpa using hne
  have hcommand := commandResponse_eq_ok m cmdResponse info hvalue hn
  simp only [onMqttResponseCb, hsearch, String.ofList_toList, hstoi, hm, hnonempty, if_false, hinfo]
  by_cases htimeout : ishandlerTimedout now info.timeout = true
  · rw [if_pos htimeout, if_pos htimeout]
  · rw [if_neg htimeout, if_neg htimeout]
    simp only [hcommand]
    cases doorLockCommandIdMap.lookup cmdResponse with
    | none => rfl
    | some commandId =>
      cases info.live with
      | false => rfl
      | true => rfl

end Response

end UnifyMatterBridge
