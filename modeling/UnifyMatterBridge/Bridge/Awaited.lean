import UnifyMatterBridge.Bridge.NonInterference
import UnifyMatterBridge.Bridge.Routing

/-! The bridge with its subscriptions: what is published in answer to a command that waits is received by
the translator of the door lock, which answers the command, as long as the endpoint is bridged. -/
namespace UnifyMatterBridge.Bridge

open NodeStateMonitor

section Definitions

variable {Table Content P σ : Type} (client : Mqtt.Client σ Translator)

structure Connected (Table Content σ : Type) where
  bridge : BridgeState Table Content
  session : σ

def Connected.subscribed (l : Connected Table Content σ) : Subscribed Table Content σ :=
  ⟨l.bridge.monitor, l.session⟩

variable (env : BridgeEnv Table Content P)

def connectedStart (kvs : KeyValueStore) (now : ℤ) : Connected Table Content σ :=
  ⟨start env kvs now, client.none⟩

/-- Only nodes that come and go change the subscriptions. -/
def connectedStep (l : Connected Table Content σ) (ev : Event P) : Connected Table Content σ :=
  ⟨step env l.bridge ev, match ev with
    | .node ev => (subscribedStep client env.monitor l.subscribed ev).session
    | _ => l.session⟩

/-- Condition on an event: no endpoint gets the id of another one of its node, and unids are levels. -/
def ConnectedCondition (s : BridgeState Table Content) : Event P → Prop
  | .node ev => DirectoryCondition env.monitor s.monitor ev ∧ WellAddressed ev
  | _ => True

/-- A response that a command under the key waits for. While the endpoint of the address is bridged, the
translator of the door lock and no other receives it, and the command is answered if it has not timed
out; without the endpoint nobody receives it. -/
structure Awaited (l : Connected Table Content σ) (key : String) (info : CommandInfo)
    (a : String × ℕ) (response : String) : Prop where
  key_eq : key = cmdResponseKey a.1 a.2 "DoorLock" response
  received : a ∈ addresses l.bridge.monitor →
    client.receivers l.session key = {.commands .doorLock}
  unheard : a ∉ addresses l.bridge.monitor → client.receivers l.session key = ∅
  answered : a ∈ addresses l.bridge.monitor → info.live = true →
    ishandlerTimedout l.bridge.now info.timeout = false →
      ∀ commandId, doorLockCommandIdMap.lookup response = some commandId →
        ∀ message : PendingResponse.StatusResponse, ∃ e ∈ l.bridge.monitor.bridgedEndpoints, e.address = a ∧
          (onMqttResponseCb l.bridge.monitor l.bridge.now l.bridge.pending key
              (.text (.ok message.value))).answer =
            some ⟨info.handle, ⟨e.matterEndpoint, ClusterCommandHandler.doorLock.clusterId, commandId⟩,
              message.status⟩

/-- The key of a response to a command of the door lock. -/
def ResponseKey (key : String) : Prop :=
  ∃ a response, Addressed a ∧ '/' ∉ response.toList ∧ response ≠ "" ∧
    key = cmdResponseKey a.1 a.2 "DoorLock" response

structure Listening (slots : EmberSlots env.monitor.ember) (l : Connected Table Content σ) : Prop where
  placed : Placed slots l.bridge.monitor
  upToDate : UpToDate client l.subscribed
  addressed : ∀ a ∈ addresses l.bridge.monitor, Addressed a
  keys : ∀ key info, l.bridge.pending key = some info → ResponseKey key

end Definitions

section Pending

variable {Table Content : Type} {s : BridgeState Table Content} {key : String}

theorem isKey_of_stored {h : ClusterCommandHandler} (hh : h ∈ ClusterCommandHandler.all)
    {inv : Invocation} {getUnifyGroup : MatterGroup → Option ℕ} {info : CommandInfo}
    (hstored : (invokeCommand s h inv getUnifyGroup).pending key = some info) :
    (∃ info', s.pending key = some info') ∨ PendingResponse.IsKey s.monitor key := by
  have hcleared : ∀ {info'}, clearTimedoutHandlers s.now s.pending key = some info' →
      ∃ info', s.pending key = some info' := by
    intro info' h
    exact ⟨info', (clearTimedoutHandlers_eq_some.mp h).1⟩
  by_cases hlock : h.clusterId = 0x0101
  · have heq : ∀ h ∈ ClusterCommandHandler.all, h.clusterId = 0x0101 → h = .doorLock := by decide
    rw [heq h hh hlock] at hstored
    let st : PendingResponse.State := ⟨s.pending, s.now, inv.handle, []⟩
    have hinvoke : invokeCommand s .doorLock inv getUnifyGroup =
        PendingResponse.invokeCommand s.monitor getUnifyGroup s.cache st inv := rfl
    rw [hinvoke] at hstored
    by_cases hkey : ∃ key, PendingResponse.AwaitedKey s.monitor getUnifyGroup inv key
    · obtain ⟨awaited, hkey⟩ := hkey
      rcases (@PendingResponse.invokeCommand_of_awaited _ _ s.monitor getUnifyGroup s.cache st inv
        awaited hkey).2 with ⟨-, hpending⟩ | ⟨-, -, hpending⟩
      · rw [hpending] at hstored
        exact Or.inl (hcleared hstored)
      · rw [hpending, Function.update_apply] at hstored
        split_ifs at hstored with hsame
        · exact Or.inr (hsame ▸ hkey.isKey)
        · exact Or.inl (hcleared hstored)
    · have hpending := (@PendingResponse.invokeCommand_of_not_awaited _ _ s.monitor getUnifyGroup
        s.cache st inv (not_exists.mp hkey)).2
      rw [hpending] at hstored
      exact Or.inl ⟨info, hstored⟩
  · have hpending : (invokeCommand s h inv getUnifyGroup).pending = s.pending :=
      pending_invokeCommand_of_ne hh hlock
    rw [hpending] at hstored
    exact Or.inl ⟨info, hstored⟩

theorem stored_of_response {topic : String} {message : Message} {info : CommandInfo}
    (hstored : (onMqttResponseCb s.monitor s.now s.pending topic message).pending key = some info) :
    ∃ info', s.pending key = some info' := by
  cases htopic : s.pending topic with
  | none =>
    rw [(onMqttResponseCb_of_none htopic).2] at hstored
    exact ⟨info, hstored⟩
  | some entry =>
    have hupdate : ∀ value, Function.update s.pending topic value key = some info →
        ∃ info', s.pending key = some info' := by
      intro value h
      rw [Function.update_apply] at h
      split_ifs at h with hsame
      · exact ⟨entry, hsame ▸ htopic⟩
      · exact ⟨info, h⟩
    revert hstored
    unfold onMqttResponseCb ResponseResult.failed
    rw [htopic]
    repeat' split
    all_goals
      intro hstored
      first
        | exact ⟨info, hstored⟩
        | exact hupdate _ hstored

end Pending

section Steps

variable {Table Content P σ : Type} {client : Mqtt.Client σ Translator}
  {env : BridgeEnv Table Content P} {slots : EmberSlots env.monitor.ember}
  {l : Connected Table Content σ}

theorem listening_start (client : Mqtt.Client σ Translator) (env : BridgeEnv Table Content P)
    (slots : EmberSlots env.monitor.ember) (now : ℤ) :
    Listening client env slots
      (connectedStart client env (KeyValueStore.empty fun _ => false) now) where
  placed := placed_run env.monitor slots []
  upToDate := upToDate_start client env.monitor
  addressed := by
    intro a ha
    obtain ⟨e, he, -⟩ := ha
    exact absurd he (by simp [connectedStart, start, NodeStateMonitor.start])
  keys := fun key info h => nomatch h

/-- A key of an endpoint that is bridged is one of a response. -/
theorem Listening.responseKey (h : Listening client env slots l) {key : String}
    (hkey : PendingResponse.IsKey l.bridge.monitor key) : ResponseKey key := by
  obtain ⟨e, he, c, hc, hne, rfl⟩ := hkey
  exact ⟨e.address, c.cmdResponse, h.addressed e.address ⟨e, he, rfl⟩,
    (PendingResponse.responseNames c hc hne).1, hne, rfl⟩

theorem Listening.step (h : Listening client env slots l) {ev : Event P}
    (hev : ConnectedCondition env l.bridge ev) :
    Listening client env slots (connectedStep client env l ev) := by
  have hsame : ∀ {bridge : BridgeState Table Content}, bridge.monitor = l.bridge.monitor →
      (∀ key info, bridge.pending key = some info → ResponseKey key) →
      Listening client env slots ⟨bridge, l.session⟩ := by
    intro bridge hmonitor hkeys
    constructor
    · exact hmonitor ▸ h.placed
    · have hsubscribed : Connected.subscribed ⟨bridge, l.session⟩ = l.subscribed := by
        rw [Connected.subscribed, Connected.subscribed, hmonitor]
      rw [hsubscribed]
      exact h.upToDate
    · exact hmonitor ▸ h.addressed
    · exact hkeys
  cases ev with
  | node ev =>
    have hmonitor : (nodeStep env l.bridge ev).monitor =
        NodeStateMonitor.step env.monitor l.bridge.monitor ev := by
      cases ev <;> rfl
    have hsubscribed : (connectedStep client env l (.node ev)).subscribed =
        subscribedStep client env.monitor l.subscribed ev := by
      cases ev <;> rfl
    have hpending : ∀ key info, (nodeStep env l.bridge ev).pending key = some info →
        l.bridge.pending key = some info := by
      intro key info hstored
      cases ev with
      | restart => cases hstored
      | nodeAdded node => exact hstored
      | nodeRemoved unid => exact hstored
      | nodeStateChanged node => exact hstored
    constructor
    · exact hmonitor.symm ▸ h.placed.step ev
    · rw [hsubscribed]
      exact (upToDate_step_iff (l := l.subscribed) h.placed h.upToDate ev).mpr hev.1
    · exact hmonitor.symm ▸ addressed_step (l := l.subscribed) h.placed h.addressed hev.1 hev.2
    · exact fun key info hstored => h.keys key info (hpending key info hstored)
  | reported translator topic message => exact hsame rfl h.keys
  | response topic message =>
    refine hsame rfl fun key info hstored => ?_
    obtain ⟨info', hinfo⟩ := stored_of_response hstored
    exact h.keys key info' hinfo
  | read translator path => exact hsame rfl h.keys
  | write a path decoder => exact hsame rfl h.keys
  | invoke handler hh inv getUnifyGroup =>
    refine hsame rfl fun key info hstored => ?_
    rcases isKey_of_stored hh hstored with ⟨info', hinfo⟩ | hkey
    · exact h.keys key info' hinfo
    · exact h.responseKey hkey
  | invokeGroup inv p t => exact hsame rfl h.keys
  | tick nanoseconds => exact hsame rfl h.keys

/-- The invariant says who receives a response that is waited for, and what it does. -/
theorem Listening.awaited (h : Listening client env slots l) {key : String} {info : CommandInfo}
    (hinfo : l.bridge.pending key = some info) :
    ∃ a response, Awaited client l key info a response := by
  obtain ⟨a, response, haddr, hresponse, hne, hkey⟩ := h.keys key info hinfo
  have hdoorLock : Translator.commands .doorLock ∈ translators := by decide
  have hcluster : "DoorLock" ∈ (Translator.commands .doorLock).unifyClusterNames := by decide
  have hreceivers : ∀ t, t ∈ client.receivers l.session key ↔
      t = .commands .doorLock ∧ a ∈ addresses l.bridge.monitor := by
    intro t
    rw [hkey]
    exact mem_receivers_topic_iff (l := l.subscribed) h.upToDate h.addressed haddr hdoorLock hcluster
      hresponse
  refine ⟨a, response, hkey, ?_, ?_, ?_⟩
  · intro hbridged
    ext t
    rw [hreceivers t, Set.mem_singleton_iff]
    exact and_iff_left hbridged
  · intro hgone
    ext t
    rw [hreceivers t, Set.mem_empty_iff_false, iff_false]
    exact fun hreached => hgone hreached.2
  · intro hbridged hlive htime commandId hknown message
    obtain ⟨e, he, rfl⟩ := hbridged
    refine ⟨e, he, rfl, ?_⟩
    have hmatter := matterEndpointOf_of_mem h.placed.addresses he
    have hep : e.unifyEndpoint.val ≤ 2147483647 := haddr.2.trans (by decide)
    have hinfo' := hinfo
    rw [hkey] at hinfo'
    have hresult := @onMqttResponseCb_of_some _ _ l.bridge.monitor l.bridge.now l.bridge.pending _ _ _ _
      info _ _ _ haddr.1.separator hep hmatter hresponse hne message.isStatus message.isNumber hinfo'
    rw [hkey]
    refine (congrArg ResponseResult.answer hresult).trans ?_
    rw [htime, if_neg Bool.false_ne_true, hknown, hlive]
    rfl

end Steps

theorem listening_run {Table Content P σ : Type} (client : Mqtt.Client σ Translator)
    (env : BridgeEnv Table Content P) (slots : EmberSlots env.monitor.ember) (now : ℤ)
    {evs : List (Event P)}
    (h : EventSystem.Guarded (step env) (ConnectedCondition env)
      (start env (KeyValueStore.empty fun _ => false) now) evs) :
    Listening client env slots (EventSystem.run (connectedStep client env)
      (connectedStart client env (KeyValueStore.empty fun _ => false) now) evs) := by
  have hbridge : ∀ (l : Connected Table Content σ) ev,
      (connectedStep client env l ev).bridge = step env l.bridge ev := fun _ _ => rfl
  have hguarded := (EventSystem.guarded_map hbridge (s :=
    connectedStart client env (KeyValueStore.empty fun _ => false) now)).mpr h
  exact EventSystem.invariant_run (I := fun l => Listening client env slots l)
    (fun l ev hl hev => hl.step hev) (listening_start client env slots now) hguarded

/-- In every state that is reached, whatever commands, reports and responses come in between, the
response to a command that waits is received by the translator of the door lock and answers it, until
the endpoint is gone. -/
theorem awaited_run {Table Content P σ : Type} (client : Mqtt.Client σ Translator)
    (env : BridgeEnv Table Content P) (slots : EmberSlots env.monitor.ember) (now : ℤ)
    (evs : List (Event P))
    (h : EventSystem.Guarded (step env) (ConnectedCondition env)
      (start env (KeyValueStore.empty fun _ => false) now) evs) (key : String) (info : CommandInfo)
    (hinfo : (EventSystem.run (step env)
      (start env (KeyValueStore.empty fun _ => false) now) evs).pending key = some info) :
    ∃ a response, Awaited client (EventSystem.run (connectedStep client env)
      (connectedStart client env (KeyValueStore.empty fun _ => false) now) evs)
      key info a response := by
  have hbridge : ∀ (l : Connected Table Content σ) ev,
      (connectedStep client env l ev).bridge = step env l.bridge ev := fun _ _ => rfl
  have hlistening := listening_run client env slots now h
  apply hlistening.awaited
  rw [EventSystem.run_map hbridge]
  exact hinfo

/-- The lock of a node is told to lock, and the response is not there yet after three seconds. -/
theorem awaited_run_locking :
    ∃ a response, Awaited (Mqtt.Client.listed Translator) (EventSystem.run
      (connectedStep (Mqtt.Client.listed Translator) homeEnv)
      (connectedStart (Mqtt.Client.listed Translator) homeEnv (KeyValueStore.empty fun _ => false) 0)
        [.node (.nodeAdded (lightNode "A")), .invoke .doorLock (by decide)
          (ClusterCommandHandler.bareCommand 0) (fun _ => none), .tick 3000000000])
      "ucl/by-unid/A/ep1/DoorLock/GeneratedCommands/LockDoorResponse" ⟨0, true, 0⟩ a response := by
  have hguarded : EventSystem.Guarded (step homeEnv) (ConnectedCondition homeEnv)
      (start homeEnv (KeyValueStore.empty fun _ => false) 0)
        [.node (.nodeAdded (lightNode "A")), .invoke .doorLock (by decide)
          (ClusterCommandHandler.bareCommand 0) (fun _ => none), .tick 3000000000] := by
    have hA := @wellAddressed_light "A" ⟨by decide, by decide, by decide⟩
    exact ⟨⟨⟨fun _ e he => (nomatch he), trivial⟩, hA⟩, trivial, trivial, trivial⟩
  apply awaited_run (Mqtt.Client.listed Translator) homeEnv lightSlots 0 _ hguarded
  decide

end UnifyMatterBridge.Bridge
