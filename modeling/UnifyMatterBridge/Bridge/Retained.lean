import UnifyMatterBridge.Attribute.NodeLabel
import UnifyMatterBridge.Attribute.WrittenValues
import UnifyMatterBridge.Bridge.GroupDelivery
import UnifyMatterBridge.Bridge.System
import UnifyMatterBridge.Lib.Mqtt

/-! What the bridge leaves with the broker. Commands, writes and the QR code are published to be
retained; `QRCodePublisher::unretain` publishes an empty message that is not. -/
namespace UnifyMatterBridge.Bridge

open NodeStateMonitor Mqtt

inductive Payload where
  | json (message : Json)
  | text (message : String)

namespace QRCodePublisher

inductive DeviceEvent where
  | dnssdInitialized (isCommissioningWindowOpen : Bool)
  | failSafeTimerExpired
  | commissioningComplete
  | other

def topic (qrcode : String) : String := "ucl/SmartStart/CommissionableDevice/" ++ qrcode

/-- `publish`. There is no code if the stack does not make one. -/
def publish (qrcode : String) : List (Publication Payload) :=
  if qrcode ≠ "" then
    [⟨topic qrcode, some (.text ("\x7b \"QRCode\" : \"" ++ qrcode ++ "\" \x7d ")), true⟩]
  else []

def unretain (qrcode : String) : List (Publication Payload) :=
  if qrcode ≠ "" then [⟨topic qrcode, none, false⟩] else []

def deviceEvent (qrcode : String) : DeviceEvent → List (Publication Payload)
  | .dnssdInitialized isCommissioningWindowOpen =>
    if isCommissioningWindowOpen then publish qrcode else []
  | .failSafeTimerExpired | .commissioningComplete => unretain qrcode
  | .other => []

end QRCodePublisher

/-- What the process handles, with the QR code of the moment. The command line publishes it, too. -/
inductive ProcessEvent (P : Type) where
  | bridge (ev : Event P)
  | writeLabel (path : AttrPath) (decoder : AttributeValueDecoder)
  | device (ev : QRCodePublisher.DeviceEvent) (qrcode : String)
  | qrCodePublish (qrcode : String)

section Definitions

variable {Table Content P : Type}

namespace ProcessEvent

def endpoint : ProcessEvent P → Option ℕ
  | .bridge ev => ev.endpoint
  | .writeLabel path _ => some path.endpointId
  | .device _ _ | .qrCodePublish _ => none

def exchange : ProcessEvent P → Exchange
  | .bridge (.invoke _ _ inv _) => inv.exchange
  | .bridge (.invokeGroup inv _ _) => inv.exchange
  | _ => .none

def qrcode : ProcessEvent P → Option String
  | .device (.dnssdInitialized true) qrcode | .qrCodePublish qrcode => some qrcode
  | _ => none

end ProcessEvent

variable (env : BridgeEnv Table Content P) (s : BridgeState Table Content)

def messagesOf : Event P → List (String × Json)
  | .write a path decoder =>
    ((a.write path decoder s.monitor s.cache).toOption.bind WriteResult.published).toList
  | .invoke h _ inv getUnifyGroup => messages (invokeCommand s h inv getUnifyGroup).effects
  | .invokeGroup inv p t => messages (invokeGroupCommand env s inv p t).effects
  | .node _ | .reported _ _ _ | .response _ _ | .read _ _ | .tick _ => []

/-- The messages of a write of a label. A process that dereferences null publishes nothing. -/
def messagesOfLabel (path : AttrPath) (decoder : AttributeValueDecoder) : List (String × Json) :=
  (((BridgedDeviceBasicInfoAttributeAccess.write s.monitor path decoder).bind
    Except.toOption).bind WriteResult.published).toList

def retainedMessage (m : String × Json) : Publication Payload := ⟨m.1, some (.json m.2), true⟩

def publications : ProcessEvent P → List (Publication Payload)
  | .bridge ev => (messagesOf env s ev).map retainedMessage
  | .writeLabel path decoder => (messagesOfLabel s path decoder).map retainedMessage
  | .device ev qrcode => QRCodePublisher.deviceEvent qrcode ev
  | .qrCodePublish qrcode => QRCodePublisher.publish qrcode

/-- What an event leaves with the broker. -/
def left (ev : ProcessEvent P) : Option (String × Payload) :=
  ((publications env s ev).filterMap Publication.left).head?

def processStep : ProcessEvent P → BridgeState Table Content
  | .bridge ev => step env s ev
  | .writeLabel _ _ | .device _ _ | .qrCodePublish _ => s

structure Served (Table Content : Type) where
  bridge : BridgeState Table Content
  retained : String → Option Payload

def servedStep (l : Served Table Content) (ev : ProcessEvent P) : Served Table Content :=
  ⟨processStep env l.bridge ev, (publications env l.bridge ev).foldl Mqtt.retained l.retained⟩

/-- The event may publish on the topic: that of an endpoint that is bridged for its Matter endpoint, of a
group that its command is sent to, or of the QR code it shows. -/
inductive MayPublish : ProcessEvent P → String → Prop
  | device {ev : ProcessEvent P} {e : BridgedEndpoint Content} (he : e ∈ s.monitor.bridgedEndpoints)
      (hid : ev.endpoint = some e.matterEndpoint) (rest : String) :
      MayPublish ev (unidTopic e.unifyUnid e.unifyEndpoint ++ "/" ++ rest)
  | group {ev : ProcessEvent P} {e : BridgedEndpoint Content} (he : e ∈ s.monitor.bridgedEndpoints)
      (hid : ev.endpoint = some e.matterEndpoint) {groupId fabricIndex : ℕ}
      (hgroup : ev.exchange = .group groupId fabricIndex) (unifyGroup : ℕ) (rest : String) :
      MayPublish ev ("ucl/by-group/" ++ toString unifyGroup ++ "/" ++ rest)
  | qrcode {ev : ProcessEvent P} {qrcode : String} (hqr : ev.qrcode = some qrcode) :
      MayPublish ev (QRCodePublisher.topic qrcode)

end Definitions

section Topics

variable {Table Content P : Type} {env : BridgeEnv Table Content P} {s : BridgeState Table Content}

theorem mem_of_bridgedEndpointOfMatter {m : MonitorState Table Content} {id : ℕ}
    {e : BridgedEndpoint Content} (h : bridgedEndpointOfMatter m id = some e) :
    e ∈ m.bridgedEndpoints ∧ e.matterEndpoint = id :=
  ⟨List.mem_of_find?_eq_some h, of_decide_eq_true (List.find?_some h :)⟩

/-- A command is sent on the topic of the device or of the group, or not at all. -/
theorem messages_sendUnifyMqttCmd_cases {sendEnv : SendEnv} {now : ℤ} {pending : PendingTable}
    {clusterName : String} {path : CommandPath} {exchange : Exchange} {handle : ℕ} {cmd : String}
    {payload : Json} {cmdResponse : String} :
    messages (sendUnifyMqttCmd sendEnv now pending clusterName path exchange handle cmd payload
        cmdResponse).effects = [] ∨
      ∃ address topic message, sendEnv.bridgedEndpoint path.endpointId = some address ∧
        commandTopic sendEnv exchange address.1 address.2 = some topic ∧
        messages (sendUnifyMqttCmd sendEnv now pending clusterName path exchange handle cmd payload
          cmdResponse).effects =
            [(topic ++ "/" ++ (clusterName ++ "/Commands/" ++ cmd), message)] := by
  cases hb : sendEnv.bridgedEndpoint path.endpointId with
  | none =>
    rw [sendUnifyMqttCmd_of_not_bridged hb]
    exact Or.inl rfl
  | some address =>
    have hrest : ∀ topic : String, topic ++ "/" ++ (clusterName ++ "/Commands/" ++ cmd) =
        topic ++ "/" ++ clusterName ++ "/Commands/" ++ cmd := by
      intro topic
      simp only [String.append_assoc]
    by_cases hr : cmdResponse = ""
    · rw [hr, sendUnifyMqttCmd_no_response hb]
      cases htopic : commandTopic sendEnv exchange address.1 address.2 with
      | none => exact Or.inl rfl
      | some topic =>
        cases commandMessage payload with
        | error e => exact Or.inl rfl
        | ok message => exact Or.inr ⟨address, topic, message, rfl, htopic, by rw [hrest]; rfl⟩
    · cases hkey : clearTimedoutHandlers now pending
          (cmdResponseKey address.1 address.2 clusterName cmdResponse) with
      | some info =>
        rw [sendUnifyMqttCmd_busy hb hr (by rw [hkey]; rfl)]
        exact Or.inl rfl
      | none =>
        rw [sendUnifyMqttCmd_response hb hr hkey]
        cases htopic : commandTopic sendEnv exchange address.1 address.2 with
        | none => exact Or.inl rfl
        | some topic =>
          cases commandMessage payload with
          | error e => exact Or.inl rfl
          | ok message => exact Or.inr ⟨address, topic, message, rfl, htopic, by rw [hrest]; rfl⟩

theorem messages_invokeCommand_cases {sendEnv : SendEnv} {h : ClusterCommandHandler} {now : ℤ}
    {cache : AttributeCache} {pending : PendingTable} {inv : Invocation} :
    messages (h.invokeCommand sendEnv now cache pending inv).effects = [] ∨
      ∃ t : Translation, messages (h.invokeCommand sendEnv now cache pending inv).effects =
        messages (sendUnifyMqttCmd sendEnv now pending h.clusterName (h.requestPath inv) inv.exchange
          inv.handle t.cmd t.payload t.cmdResponse).effects := by
  unfold ClusterCommandHandler.invokeCommand
  cases sendEnv.bridgedEndpoint inv.endpointId with
  | none => exact Or.inl rfl
  | some address =>
    cases hem : h.emulate cache inv with
    | error e => exact Or.inl rfl
    | ok em =>
      have hemulated : messages em.effects = [] := by
        unfold ClusterCommandHandler.emulate at hem
        split_ifs at hem
        · exact messages_invokeEmulator hem
        · cases hem
          rfl
      have htranslated : messages (h.translate inv em).effects = [] := by
        unfold ClusterCommandHandler.translate
        split
        · rfl
        · split
          · dsimp only
            split_ifs <;> rfl
          · rfl
      dsimp only
      split_ifs
      · exact Or.inl hemulated
      · rw [messages_append, messages_append, hemulated, htranslated, List.nil_append, List.nil_append]
        unfold ClusterCommandHandler.answer
        split_ifs
        · exact Or.inl rfl
        · exact Or.inr ⟨h.translate inv em, rfl⟩
        · exact Or.inr ⟨h.translate inv em, rfl⟩

/-- The topic of a command is that of the endpoint of a device, or of the group it is sent to. -/
theorem mayPublish_of_commandTopic {sendEnv : SendEnv} {ev : ProcessEvent P}
    {e : BridgedEndpoint Content} {topic : String} (he : e ∈ s.monitor.bridgedEndpoints)
    (hid : ev.endpoint = some e.matterEndpoint)
    (htopic : commandTopic sendEnv ev.exchange e.unifyUnid e.unifyEndpoint = some topic)
    (rest : String) : MayPublish s ev (topic ++ "/" ++ rest) := by
  unfold commandTopic at htopic
  cases hexchange : ev.exchange with
  | none =>
    rw [hexchange] at htopic
    obtain rfl := Option.some.inj htopic
    exact .device he hid rest
  | unicast fabricIndex =>
    rw [hexchange] at htopic
    obtain rfl := Option.some.inj htopic
    exact .device he hid rest
  | group groupId fabricIndex =>
    rw [hexchange] at htopic
    obtain ⟨unifyGroup, -, rfl⟩ := Option.map_eq_some_iff.mp htopic
    exact .group he hid hexchange unifyGroup rest

theorem messages_sent {ev : ProcessEvent P} {sendEnv : SendEnv} {now : ℤ} {pending : PendingTable}
    {clusterName : String} {path : CommandPath} {handle : ℕ} {cmd : String} {payload : Json}
    {cmdResponse : String} (hid : ev.endpoint = some path.endpointId)
    (hbridged : ∀ id, sendEnv.bridgedEndpoint id =
      (bridgedEndpointOfMatter s.monitor id).map (·.address)) :
    messages (sendUnifyMqttCmd sendEnv now pending clusterName path ev.exchange handle cmd payload
        cmdResponse).effects = [] ∨
      ∃ topic message, MayPublish s ev topic ∧
        messages (sendUnifyMqttCmd sendEnv now pending clusterName path ev.exchange handle cmd payload
          cmdResponse).effects = [(topic, message)] := by
  rcases @messages_sendUnifyMqttCmd_cases sendEnv now pending clusterName path ev.exchange handle cmd
    payload cmdResponse with hnone | ⟨address, topic, message, hb, htopic, hsent⟩
  · exact Or.inl hnone
  · rw [hbridged] at hb
    obtain ⟨e, hfound, rfl⟩ := Option.map_eq_some_iff.mp hb
    obtain ⟨he, hmatter⟩ := mem_of_bridgedEndpointOfMatter hfound
    rw [← hmatter] at hid
    exact Or.inr ⟨_, message, mayPublish_of_commandTopic he hid htopic _, hsent⟩

theorem messages_write {a : ClusterAttributeAccess} {path : AttrPath}
    {decoder : AttributeValueDecoder} {r : WriteResult} {m : String × Json}
    (hr : a.write path decoder s.monitor s.cache = .ok r) (hm : r.published = some m) :
    ∃ e ∈ s.monitor.bridgedEndpoints, e.matterEndpoint = path.endpointId ∧
      ∃ rest, m.1 = unidTopic e.unifyUnid e.unifyEndpoint ++ "/" ++ rest := by
  obtain ⟨-, -, e, hfound, name, -, htopic, -⟩ := published_of_write hr hm
  obtain ⟨he, hid⟩ := mem_of_bridgedEndpointOfMatter hfound
  refine ⟨e, he, hid, a.clusterName ++ "/Commands/WriteAttributes", ?_⟩
  rw [htopic, String.append_assoc]

theorem messages_writeLabel {path : AttrPath} {decoder : AttributeValueDecoder} {r : WriteResult}
    {m : String × Json}
    (hr : BridgedDeviceBasicInfoAttributeAccess.write s.monitor path decoder = some (.ok r))
    (hm : r.published = some m) :
    ∃ e ∈ s.monitor.bridgedEndpoints, e.matterEndpoint = path.endpointId ∧
      ∃ rest, m.1 = unidTopic e.unifyUnid e.unifyEndpoint ++ "/" ++ rest := by
  obtain ⟨e, hfound, htopic, -⟩ := BridgedDeviceBasicInfoAttributeAccess.published_of_write hr hm
  obtain ⟨he, hid⟩ := mem_of_bridgedEndpointOfMatter hfound
  refine ⟨e, he, hid, "NameAndLocation/Attributes/Name/Desired", ?_⟩
  have hlevels : "/NameAndLocation/Attributes/Name/" ++ "Desired" =
      "/" ++ "NameAndLocation/Attributes/Name/Desired" := by decide
  rw [htopic, BridgedDeviceBasicInfoAttributeAccess.nameTopic, String.append_assoc, hlevels,
    String.append_assoc]

/-- A message of an event: what it leaves is left where the event may publish, and it removes nothing. -/
structure Leaves (s : BridgeState Table Content) (ev : ProcessEvent P) (p : Publication Payload) :
    Prop where
  mayPublish : ∀ w, p.left = some w → MayPublish s ev w.1
  kept : p.payload = none → p.retain = false

theorem leaves_retainedMessage {ev : ProcessEvent P} {ms : List (String × Json)}
    (h : ms = [] ∨ ∃ topic message, MayPublish s ev topic ∧ ms = [(topic, message)]) :
    ms.map retainedMessage = [] ∨ ∃ p, ms.map retainedMessage = [p] ∧ Leaves s ev p := by
  rcases h with rfl | ⟨topic, message, hmay, rfl⟩
  · exact Or.inl rfl
  · exact Or.inr ⟨_, rfl, fun w hw => Option.some.inj hw ▸ hmay, fun hpayload => nomatch hpayload⟩

theorem mayPublish_written {ev : ProcessEvent P} {published : Option (String × Json)}
    (h : ∀ m, published = some m → ∃ e ∈ s.monitor.bridgedEndpoints,
      ev.endpoint = some e.matterEndpoint ∧
        ∃ rest, m.1 = unidTopic e.unifyUnid e.unifyEndpoint ++ "/" ++ rest) :
    published.toList = [] ∨ ∃ topic message, MayPublish s ev topic ∧
      published.toList = [(topic, message)] := by
  cases published with
  | none => exact Or.inl rfl
  | some m =>
    obtain ⟨e, he, hid, rest, htopic⟩ := h m rfl
    exact Or.inr ⟨m.1, m.2, htopic ▸ .device he hid rest, rfl⟩

theorem leaves_publish {ev : ProcessEvent P} {qrcode : String} (h : ev.qrcode = some qrcode) :
    QRCodePublisher.publish qrcode = [] ∨
      ∃ p, QRCodePublisher.publish qrcode = [p] ∧ Leaves s ev p := by
  unfold QRCodePublisher.publish
  split_ifs
  · exact Or.inr ⟨_, rfl, fun w hw => Option.some.inj hw ▸ .qrcode h, fun hpayload => nomatch hpayload⟩
  · exact Or.inl rfl

theorem leaves_unretain (ev : ProcessEvent P) (qrcode : String) :
    QRCodePublisher.unretain qrcode = [] ∨
      ∃ p, QRCodePublisher.unretain qrcode = [p] ∧ Leaves s ev p := by
  unfold QRCodePublisher.unretain
  split_ifs
  · exact Or.inr ⟨_, rfl, fun w hw => (nomatch hw), fun _ => rfl⟩
  · exact Or.inl rfl

/-- An event publishes one message or none. -/
theorem publications_cases (ev : ProcessEvent P) :
    publications env s ev = [] ∨ ∃ p, publications env s ev = [p] ∧ Leaves s ev p := by
  cases ev with
  | bridge ev =>
    apply leaves_retainedMessage
    cases ev with
    | write a path decoder =>
      apply mayPublish_written
      intro m hm
      obtain ⟨r, hr, hpublished⟩ := Option.bind_eq_some_iff.mp hm
      obtain ⟨e, he, hid, hrest⟩ := messages_write (Outcome.toOption_eq_some.mp hr) hpublished
      exact ⟨e, he, congrArg some hid.symm, hrest⟩
    | invoke h hh inv getUnifyGroup =>
      rw [messagesOf, invokeCommand]
      rcases @messages_invokeCommand_cases (PendingResponse.sendEnv s.monitor getUnifyGroup) h s.now
        s.cache s.pending inv with hnone | ⟨t, hsent⟩
      · exact Or.inl hnone
      · rw [hsent]
        exact @messages_sent _ _ _ s (.bridge (.invoke h hh inv getUnifyGroup)) _ _ _ _ _ _ _ _ _ rfl
          fun id => rfl
    | invokeGroup inv p t =>
      rw [messagesOf, invokeGroupCommand, GroupClusterCommandHandler.invokeCommand]
      split
      · exact Or.inl rfl
      · exact Or.inl rfl
      · exact @messages_sent _ _ _ s (.bridge (.invokeGroup inv p t)) _ _ _ _ _ _ _ _ _ rfl fun id => rfl
    | node | reported | response | read | tick => exact Or.inl rfl
  | writeLabel path decoder =>
    apply leaves_retainedMessage
    apply mayPublish_written
    intro m hm
    obtain ⟨r, hr, hpublished⟩ := Option.bind_eq_some_iff.mp hm
    obtain ⟨result, hwrite, hr⟩ := Option.bind_eq_some_iff.mp hr
    rw [Outcome.toOption_eq_some.mp hr] at hwrite
    obtain ⟨e, he, hid, hrest⟩ := messages_writeLabel hwrite hpublished
    exact ⟨e, he, congrArg some hid.symm, hrest⟩
  | device ev qrcode =>
    cases ev with
    | dnssdInitialized isCommissioningWindowOpen =>
      cases isCommissioningWindowOpen with
      | false => exact Or.inl rfl
      | true => exact leaves_publish rfl
    | failSafeTimerExpired => exact leaves_unretain _ qrcode
    | commissioningComplete => exact leaves_unretain _ qrcode
    | other => exact Or.inl rfl
  | qrCodePublish qrcode => exact leaves_publish rfl

end Topics

section Broker

variable {Table Content P : Type} {env : BridgeEnv Table Content P} {s : BridgeState Table Content}
  {ev : ProcessEvent P}

theorem mayPublish_of_left {w : String × Payload} (h : left env s ev = some w) :
    MayPublish s ev w.1 := by
  unfold left at h
  rcases @publications_cases _ _ _ env s ev with hnone | ⟨p, hone, hleaves⟩
  · rw [hnone] at h
    cases h
  · rw [hone, List.filterMap_cons] at h
    cases hp : p.left with
    | none =>
      rw [hp] at h
      cases h
    | some w' =>
      rw [hp] at h
      cases h
      exact hleaves.mayPublish _ hp

theorem foldl_publications (store : String → Option Payload) :
    (publications env s ev).foldl Mqtt.retained store = (left env s ev).elim store
      fun w => Function.update store w.1 (some w.2) := by
  unfold left
  rcases @publications_cases _ _ _ env s ev with hnone | ⟨p, hone, hleaves⟩
  · rw [hnone]
    rfl
  · rw [hone, List.foldl_cons, List.foldl_nil, List.filterMap_cons]
    cases hp : p.left with
    | none => exact Mqtt.retained_of_not_left hp hleaves.kept
    | some w => exact Mqtt.retained_of_left hp

theorem retained_of_left {l : Served Table Content} {w : String × Payload}
    (h : left env l.bridge ev = some w) :
    (servedStep env l ev).retained = Function.update l.retained w.1 (some w.2) := by
  rw [servedStep, foldl_publications, h]
  rfl

theorem retained_of_not_left {l : Served Table Content} (h : left env l.bridge ev = none) :
    (servedStep env l ev).retained = l.retained := by
  rw [servedStep, foldl_publications, h]
  rfl

/-- Nothing that is retained is taken back. -/
theorem isSome_retained_step {l : Served Table Content} {topic : String}
    (h : (l.retained topic).isSome = true) :
    ((servedStep env l ev).retained topic).isSome = true := by
  cases hleft : left env l.bridge ev with
  | none =>
    rw [retained_of_not_left hleft]
    exact h
  | some w =>
    rw [retained_of_left hleft, Function.update_apply]
    split_ifs
    · rfl
    · exact h

theorem publications_of_shows {qrcode : String} (h : ev.qrcode = some qrcode) :
    publications env s ev = QRCodePublisher.publish qrcode := by
  unfold ProcessEvent.qrcode at h
  split at h
  · cases h
    rfl
  · cases h
    rfl
  · cases h

/-- An event that shows a code leaves a message, unless there is none to show. -/
theorem left_of_shows {qrcode : String} (h : ev.qrcode = some qrcode) :
    (left env s ev).map Prod.fst = if qrcode ≠ "" then some (QRCodePublisher.topic qrcode) else none := by
  rw [left, publications_of_shows h, QRCodePublisher.publish]
  split_ifs <;> rfl

/-- The topic of a QR code is not that of a device or of a group. -/
theorem qrcode_of_mayPublish {qrcode : String}
    (h : MayPublish s ev (QRCodePublisher.topic qrcode)) : ev.qrcode = some qrcode := by
  have hfifth : (QRCodePublisher.topic qrcode).toList[4]? = some 'S' := by
    change ("ucl/SmartStart/CommissionableDevice/" ++ qrcode).toList[4]? = some 'S'
    rw [String.toList_append]
    rfl
  generalize htopic : QRCodePublisher.topic qrcode = topic at h
  rw [htopic] at hfifth
  cases h with
  | @device e he hid rest =>
    have hby : (unidTopic e.unifyUnid e.unifyEndpoint ++ "/" ++ rest).toList[4]? = some 'b' := by
      simp only [unidTopic, String.toList_append, List.append_assoc]
      rfl
    cases hby.symm.trans hfifth
  | @group e he hid groupId fabricIndex hgroup unifyGroup rest =>
    have hby : ("ucl/by-group/" ++ toString unifyGroup ++ "/" ++ rest).toList[4]? = some 'b' := by
      simp only [String.toList_append, List.append_assoc]
      rfl
    cases hby.symm.trans hfifth
  | @qrcode qrcode' hqr =>
    have hlist : ("ucl/SmartStart/CommissionableDevice/" ++ qrcode).toList =
        ("ucl/SmartStart/CommissionableDevice/" ++ qrcode').toList := congrArg String.toList htopic
    rw [String.toList_append, String.toList_append] at hlist
    have hcode := List.append_cancel_left hlist
    rw [String.toList_inj.mp hcode, hqr]

theorem retained_eq_some_iff {kvs : KeyValueStore} {now : ℤ} {evs : List (ProcessEvent P)}
    {topic : String} {message : Payload} :
    (EventSystem.run (servedStep env) ⟨start env kvs now, fun _ => none⟩ evs).retained topic =
        some message ↔
      ∃ before ev after, EventSystem.LastWrite (processStep env) (left env) (start env kvs now) evs
        topic message before ev after := by
  have hlast := @EventSystem.lastWrite_run_iff _ _ _ _ _ (servedStep env)
    (fun l ev => left env l.bridge ev) Served.retained (fun l ev w h => retained_of_left h)
    (fun l ev h => retained_of_not_left h) ⟨start env kvs now, fun _ => none⟩ evs topic message rfl
  have hbridge : ∀ (l : Served Table Content) ev,
      Served.bridge (servedStep env l ev) = processStep env l.bridge ev := fun _ _ => rfl
  rw [hlast]
  apply exists_congr
  intro before
  apply exists_congr
  intro ev
  apply exists_congr
  intro after
  exact EventSystem.lastWrite_map hbridge

end Broker

/-- After every run, the message that the broker retains for a topic is the one that was left on it last:
for an endpoint that was bridged then, a group, or a QR code. Nothing takes it back. -/
theorem retained_run {Table Content P : Type} (env : BridgeEnv Table Content P) (kvs : KeyValueStore)
    (now : ℤ) (evs : List (ProcessEvent P)) (topic : String) (message : Payload) :
    (EventSystem.run (servedStep env) ⟨start env kvs now, fun _ => none⟩ evs).retained topic =
        some message ↔
      ∃ before ev after, EventSystem.LastWrite (processStep env) (left env) (start env kvs now) evs
          topic message before ev after ∧
        MayPublish (EventSystem.run (processStep env) (start env kvs now) before) ev topic := by
  rw [retained_eq_some_iff]
  constructor
  · rintro ⟨before, ev, after, h⟩
    exact ⟨before, ev, after, h, mayPublish_of_left h.2.1⟩
  · rintro ⟨before, ev, after, h, -⟩
    exact ⟨before, ev, after, h⟩

/-- After every run, the broker retains a message with a QR code if and only if the code has been shown:
that the device has been commissioned since makes no difference. -/
theorem qrcodeRetained_run_iff {Table Content P : Type} (env : BridgeEnv Table Content P)
    (kvs : KeyValueStore) (now : ℤ) (evs : List (ProcessEvent P)) (qrcode : String) :
    ((EventSystem.run (servedStep env) ⟨start env kvs now, fun _ => none⟩ evs).retained
        (QRCodePublisher.topic qrcode)).isSome = true ↔
      qrcode ≠ "" ∧ ∃ ev ∈ evs, ev.qrcode = some qrcode := by
  constructor
  · intro h
    obtain ⟨message, hmessage⟩ := Option.isSome_iff_exists.mp h
    obtain ⟨before, ev, after, rfl, hleft, -⟩ := retained_eq_some_iff.mp hmessage
    have hshows := qrcode_of_mayPublish (mayPublish_of_left hleft)
    have htopic := @left_of_shows _ _ _ env (EventSystem.run (processStep env) (start env kvs now) before)
      ev qrcode hshows
    rw [hleft] at htopic
    refine ⟨?_, ev, List.mem_append_right _ List.mem_cons_self, hshows⟩
    intro hempty
    rw [if_neg (not_not_intro hempty)] at htopic
    cases htopic
  · rintro ⟨hne, ev, hev, hshows⟩
    obtain ⟨before, after, rfl⟩ := List.append_of_mem hev
    rw [EventSystem.run_append, EventSystem.run_cons]
    refine @EventSystem.invariant_run' (Served Table Content) _ (servedStep env)
      (fun l => (l.retained (QRCodePublisher.topic qrcode)).isSome = true)
      (fun l ev h => isSome_retained_step h) _ ?_ after
    have hleft := @left_of_shows _ _ _ env (EventSystem.run (servedStep env)
      ⟨start env kvs now, fun _ => none⟩ before).bridge ev qrcode hshows
    rw [if_pos hne] at hleft
    obtain ⟨w, hw, htopic⟩ := Option.map_eq_some_iff.mp hleft
    rw [retained_of_left hw, htopic, Function.update_self]
    rfl

end UnifyMatterBridge.Bridge
