import UnifyMatterBridge.Attribute.BasicReports
import UnifyMatterBridge.Bridge.NonInterference
import UnifyMatterBridge.Bridge.Routing
import UnifyMatterBridge.Lib.NameTable
import UnifyMatterBridge.NodeStateMonitor.Mirror

/-! The attribute Reachable of the bridged endpoints: whatever else the bridge does, Matter reads of it
what Unify has told last of the state of the node. -/
namespace UnifyMatterBridge.Bridge

open NodeStateMonitor AttributeTranslatorInterface BridgedDeviceBasicInfoAttributeAccess

section Definitions

variable {Table Content P : Type}

def Event.node? : Event P → Option NodeStateMonitor.Event
  | .node ev => some ev
  | _ => none

def noticed (c : AttributeCache) (n : Notice Content) : AttributeCache :=
  unifyNodeReachableStateUpdate c n.1 n.2

/-- What is cached of an entry is whether it is reachable. -/
def Coherent (s : MonitorState Table Content) (c : AttributeCache) : Prop :=
  ∀ e ∈ s.bridgedEndpoints, ∃ b, e.reachable = some b ∧
    c (reachable e.matterEndpoint) = some (.bool b)

variable (env : BridgeEnv Table Content P)

/-- Condition on an event: endpoints are registered under ids of their own, and reports come from the
translators that there are. -/
def ReachableCondition (s : BridgeState Table Content) : Event P → Prop
  | .node ev => MirrorCondition env.monitor s.monitor ev
  | .reported (.generated a) _ _ => a ∈ ClusterAttributeAccess.all
  | _ => True

end Definitions

section Notices

variable {Table Content : Type} {env : MonitorEnv Table Content} {slots : EmberSlots env.ember}
  {s : MonitorState Table Content} {c : AttributeCache} {node : Node}

theorem foldl_notify_eq (records : List (CallRecord Table Content)) :
    records.foldl notify c = (records.filterMap fun r => Call.notice r.call).foldl noticed c := by
  induction records generalizing c with
  | nil => rfl
  | cons record records ih =>
    rw [List.foldl_cons, ih, List.filterMap_cons]
    unfold notify
    cases record.call with
    | listener ep update => rfl
    | emberAfClearDynamicEndpoint index => rfl
    | emberAfSetDynamicEndpoint => rfl

/-- Nothing else than what is told changes the cache. -/
theorem foldl_notify_newCalls {s' : MonitorState Table Content} (h : s.calls <+: s'.calls) :
    (newCalls s s').foldl notify c = (toldBetween s s').foldl noticed c := by
  obtain ⟨records, hrecords⟩ := h
  have htold : told s' = told s ++ records.filterMap fun r => Call.notice r.call := by
    unfold told
    rw [← hrecords, List.filterMap_append]
  rw [toldBetween_of_append htold, newCalls, ← hrecords, List.drop_left, foldl_notify_eq]

theorem reachable_inj {id id' : ℕ} : reachable id = reachable id' ↔ id = id' :=
  ⟨congrArg AttrPath.endpointId, congrArg reachable⟩

theorem Coherent.addEndpoint (hR : Registered slots s) {ep : Fin 256 × Endpoint}
    (hok : ¬ RegistrationFails env node s ep) (hunused : RecordedIdUnused env node s ep)
    (h : Coherent s c) :
    Coherent (addEndpoint env node s ep) ((noticesOf env node s ep).foldl noticed c) := by
  have hdistinct := fun hmapped => hR.assigned_unused hok hunused hmapped
  cases hm : mappedDeviceType env ep.2.clusters with
  | none =>
    simp only [NodeStateMonitor.addEndpoint, noticesOf, hm]
    exact h
  | some matterType =>
    have hmapped : mappedDeviceType env ep.2.clusters ≠ none := by simp [hm]
    have hunshared : IdUnshared env node s ep :=
      fun _ e he _ hid => Fin.ext (congrArg Prod.snd (hdistinct hmapped e he hid))
    simp only [NodeStateMonitor.addEndpoint, noticesOf, hm]
    intro e he
    have hset : ([(newEntry env node s ep.1 ep.2 matterType, Update.nodeAdded),
        (bridgedEntry env node s ep.1 ep.2 matterType, Update.nodeStateChanged)].foldl noticed c) =
          c.set (reachable (assignMatterEndpoint env s node.unid ep.1).1)
            (.bool (node.state == .onlineFunctional)) := rfl
    rw [hset]
    rcases (mem_bridgeEndpoint_of_unshared hR.toPlaced hm hunshared e).mp he with rfl | ⟨hold, hne⟩
    · refine ⟨node.state == .onlineFunctional, rfl, ?_⟩
      rw [AttributeCache.set_apply]
      exact if_pos rfl
    · obtain ⟨b, hb, hcached⟩ := h e hold
      refine ⟨b, hb, ?_⟩
      have hid : ¬ reachable e.matterEndpoint =
          reachable (assignMatterEndpoint env s node.unid ep.1).1 :=
        fun heq => hne (hdistinct hmapped e hold (reachable_inj.mp heq))
      rw [AttributeCache.set_apply, if_neg hid]
      exact hcached

theorem Coherent.foldl_addEndpoint (eps : List (Fin 256 × Endpoint)) (hR : Registered slots s)
    (hc : EventSystem.Guarded (NodeStateMonitor.addEndpoint env node) (fun s ep =>
      ¬ RegistrationFails env node s ep ∧ RecordedIdUnused env node s ep) s eps) (h : Coherent s c) :
    ∃ ns, told (eps.foldl (NodeStateMonitor.addEndpoint env node) s) = told s ++ ns ∧
      Coherent (eps.foldl (NodeStateMonitor.addEndpoint env node) s) (ns.foldl noticed c) := by
  induction eps generalizing s c with
  | nil => exact ⟨[], (List.append_nil _).symm, h⟩
  | cons ep eps ih =>
    obtain ⟨⟨hok, hunused⟩, hrest⟩ := hc
    obtain ⟨ns, hns, hcoherent⟩ := ih (hR.addEndpoint hok hunused) hrest (h.addEndpoint hR hok hunused)
    refine ⟨noticesOf env node s ep ++ ns, ?_, ?_⟩
    · rw [List.foldl_cons, hns, told_addEndpoint, List.append_assoc]
    · rw [List.foldl_append]
      exact hcoherent

theorem foldl_noticed_changed (l : List (BridgedEndpoint Content)) (b : Bool) (id : ℕ) :
    ((l.map fun e => (({ e with reachable := some b } : BridgedEndpoint Content),
        Update.nodeStateChanged)).foldl noticed c) (reachable id) =
      if ∃ e ∈ l, e.matterEndpoint = id then some (.bool b) else c (reachable id) := by
  induction l generalizing c with
  | nil => simp
  | cons e l ih =>
    have hfirst : noticed c (({ e with reachable := some b } : BridgedEndpoint Content),
        Update.nodeStateChanged) = c.set (reachable e.matterEndpoint) (.bool b) := rfl
    rw [List.map_cons, List.foldl_cons, ih, hfirst, AttributeCache.set_apply]
    by_cases hid : e.matterEndpoint = id
    · simp [hid]
    · have hne : ¬ id = e.matterEndpoint := fun heq => hid heq.symm
      simp [hid, hne, reachable_inj]

theorem Coherent.step (hR : Registered slots s) (h : Coherent s c) {ev : NodeStateMonitor.Event}
    (hev : MirrorCondition env s ev) (hrestart : ev ≠ .restart) :
    Coherent (NodeStateMonitor.step env s ev)
      ((toldBetween s (NodeStateMonitor.step env s ev)).foldl noticed c) := by
  cases ev with
  | nodeAdded node =>
    obtain ⟨ns, hns, hcoherent⟩ := h.foldl_addEndpoint (visited env node) hR hev
    have htold : toldBetween s (onUnifyNodeAdded env s node) = ns := toldBetween_of_append hns
    show Coherent (onUnifyNodeAdded env s node) _
    rw [NodeStateMonitor.step, htold]
    exact hcoherent
  | nodeRemoved unid =>
    have hdeleted : ∀ l : List (BridgedEndpoint Content),
        (l.map fun e => (e, Update.nodeDeleted)).foldl noticed c = c := by
      intro l
      induction l with
      | nil => rfl
      | cons e l ih => exact ih
    have htold : toldBetween s (onUnifyNodeRemoved env s unid) = _ :=
      toldBetween_of_append (told_onUnifyNodeRemoved unid)
    rw [NodeStateMonitor.step, htold, hdeleted]
    exact fun e he => h e (mem_onUnifyNodeRemoved.mp he).1
  | nodeStateChanged node =>
    have htold : toldBetween s (onUnifyNodeStateChanged s node) = _ :=
      toldBetween_of_append (told_foldl_changeState _ _)
    rw [NodeStateMonitor.step, htold]
    intro e he
    rw [hR.bridgedEndpoints_onUnifyNodeStateChanged] at he
    obtain ⟨x, hx, rfl⟩ := List.mem_map.mp he
    rw [foldl_noticed_changed]
    by_cases hunid : x.unifyUnid = node.unid
    · rw [if_pos hunid]
      refine ⟨node.state == .onlineFunctional, rfl, ?_⟩
      rw [if_pos]
      exact ⟨x, Multimap.mem_equalRange.mpr ⟨hx, hunid⟩, rfl⟩
    · rw [if_neg hunid]
      obtain ⟨b, hb, hcached⟩ := h x hx
      refine ⟨b, hb, ?_⟩
      rw [if_neg]
      · exact hcached
      · intro hexists
        obtain ⟨f, hf, hid⟩ := hexists
        obtain ⟨hmem, hfunid⟩ := Multimap.mem_equalRange.mp hf
        exact hunid (hR.eq_of_id hmem hx hid ▸ hfunid)
  | restart => exact absurd rfl hrestart

end Notices

section Frame

variable {Table Content P : Type} {s : MonitorState Table Content} {c : AttributeCache} {id : ℕ}

theorem reachable_ne_status (endpointId : ℕ) :
    reachable id ≠ EmulateWindowCovering.operationalStatus endpointId := by
  intro h
  have hcluster : (0x0039 : ℕ) = 0x0102 := congrArg AttrPath.clusterId h
  omega

def Spares (f : ReportedUpdated) : Prop :=
  ∀ {c endpointId cluster name value r}, f c endpointId cluster name value = .ok r →
    ∀ id, r.1 (reachable id) = c (reachable id)

theorem spares_generated {a : ClusterAttributeAccess} (ha : a ∈ ClusterAttributeAccess.all)
    (m : DataModel) : Spares (a.reportedUpdated m) := by
  intro c endpointId cluster name value r hr id
  unfold ClusterAttributeAccess.reportedUpdated at hr
  cases hcase : a.reportedCase m cluster name with
  | none =>
    rw [hcase] at hr
    cases hr
    rfl
  | some case =>
    rw [hcase] at hr
    obtain ⟨v, -, hr⟩ := Outcome.bind_eq_ok hr
    cases v with
    | none =>
      cases hr
      rfl
    | some v =>
      cases hr
      have hcluster : ∀ a ∈ ClusterAttributeAccess.all, a.clusterId ≠ 0x0039 := by decide
      have hne : reachable id ≠ a.attrPath endpointId case.1 :=
        fun h => hcluster a ha (congrArg AttrPath.clusterId h).symm
      dsimp only [AttributeInfo.set]
      split_ifs
      · rfl
      · exact (AttributeCache.set_apply _ _ _ _).trans (if_neg hne)

theorem spares_basic : Spares BridgedDeviceBasicInfoAttributeAccess.reportedUpdated := by
  have hlookup : ∀ name attributeId, basicInformationMap.lookup name = some attributeId →
      attributeId ≠ 0x11 := by
    intro name attributeId h
    have hmem := NameTable.mem_of_lookup h
    have hall : ∀ entry ∈ basicInformationMap, entry.2 ≠ 0x11 := by decide
    exact hall _ hmem
  intro c endpointId cluster name value r hr id
  unfold BridgedDeviceBasicInfoAttributeAccess.reportedUpdated at hr
  split_ifs at hr
  · cases hid : basicInformationMap.lookup name with
    | none =>
      rw [hid] at hr
      cases hr
      rfl
    | some attributeId =>
      rw [hid] at hr
      obtain ⟨stored, -, hr⟩ := Outcome.bind_eq_ok hr
      cases stored with
      | none =>
        cases hr
        rfl
      | some v =>
        cases hr
        have hne : reachable id ≠ attrPath endpointId attributeId :=
          fun h => hlookup name attributeId hid (congrArg AttrPath.attributeId h).symm
        exact (AttributeCache.set_apply _ _ _ _).trans (if_neg hne)
  · obtain ⟨label, -, hr⟩ := Outcome.bind_eq_ok hr
    cases hr
    have hne : reachable id ≠ nodeLabel endpointId := by
      intro h
      have hattribute : (0x11 : ℕ) = 0x05 := congrArg AttrPath.attributeId h
      omega
    exact (AttributeCache.set_apply _ _ _ _).trans (if_neg hne)
  · cases hr
    rfl

/-- What a message does: it may make a callback set a status, and then there may be an update. -/
theorem onMqttMessageCb_cases (f : ReportedUpdated) (c : AttributeCache) (topic : String)
    (message : Message) :
    ∃ called, (called = c ∨ ∃ endpointId, called =
        c.set (EmulateWindowCovering.operationalStatus endpointId) (.int .uint8 0x00)) ∧
      ((onMqttMessageCb s f c topic message).cache = called ∧
          (onMqttMessageCb s f c topic message).notified = [] ∨
        ∃ endpointId cluster name value, f called endpointId cluster name value =
          .ok ((onMqttMessageCb s f c topic message).cache,
            (onMqttMessageCb s f c topic message).notified)) := by
  have hreport : ∀ endpointId cluster name parsed, ∃ called,
      (called = c ∨ ∃ endpointId, called =
        c.set (EmulateWindowCovering.operationalStatus endpointId) (.int .uint8 0x00)) ∧
      ((handleReport f c endpointId cluster name parsed).cache = called ∧
          (handleReport f c endpointId cluster name parsed).notified = [] ∨
        ∃ endpointId' cluster' name' value, f called endpointId' cluster' name' value =
          .ok ((handleReport f c endpointId cluster name parsed).cache,
            (handleReport f c endpointId cluster name parsed).notified)) := by
    intro endpointId cluster name parsed
    unfold handleReport
    cases parsed with
    | error failure => exact ⟨c, Or.inl rfl, Or.inl ⟨rfl, rfl⟩⟩
    | ok jsn =>
      dsimp only
      cases jsn.subscript "value" with
      | error e => exact ⟨c, Or.inl rfl, Or.inl ⟨rfl, rfl⟩⟩
      | ok value =>
        dsimp only
        cases hcallback : applyRegisteredCallback (cluster ++ "::" ++ name) value endpointId c with
        | error e => exact ⟨c, Or.inl rfl, Or.inl ⟨rfl, rfl⟩⟩
        | ok called =>
          have hcalled : called = c ∨ ∃ endpointId, called =
              c.set (EmulateWindowCovering.operationalStatus endpointId) (.int .uint8 0x00) :=
            (applyRegisteredCallback_eq_ok hcallback).imp_right fun h => ⟨endpointId, h⟩
          refine ⟨called, hcalled, ?_⟩
          dsimp only
          cases hupdated : f called endpointId cluster name value with
          | error e => exact Or.inl ⟨rfl, rfl⟩
          | ok r => exact Or.inr ⟨endpointId, cluster, name, value, hupdated⟩
  unfold onMqttMessageCb
  repeat' split
  all_goals first
    | exact ⟨c, Or.inl rfl, Or.inl ⟨rfl, rfl⟩⟩
    | exact hreport _ _ _ _

/-- No message of any kind changes whether an endpoint is cached as reachable. -/
theorem onMqttMessageCb_reachable {f : ReportedUpdated} (hf : Spares f) (topic : String)
    (message : Message) :
    (onMqttMessageCb s f c topic message).cache (reachable id) = c (reachable id) := by
  obtain ⟨called, hcalled, hresult⟩ := @onMqttMessageCb_cases _ _ s f c topic message
  have hkept : called (reachable id) = c (reachable id) := by
    rcases hcalled with rfl | ⟨endpointId, rfl⟩
    · rfl
    · exact (AttributeCache.set_apply _ _ _ _).trans (if_neg (reachable_ne_status endpointId))
  rcases hresult with ⟨hcache, -⟩ | ⟨endpointId, cluster, name, value, hupdated⟩
  · rw [hcache, hkept]
  · exact (hf hupdated id).trans hkept

theorem invokeCommand_reachable (s : BridgeState Table Content) (h : ClusterCommandHandler)
    (inv : Invocation) (getUnifyGroup : MatterGroup → Option ℕ) :
    (invokeCommand s h inv getUnifyGroup).cache (reachable id) = s.cache (reachable id) := by
  rw [invokeCommand, cache_invokeCommand]
  split
  · next em _ hem =>
    unfold ClusterCommandHandler.emulate at hem
    split_ifs at hem
    · rcases invokeEmulator_cache hem with hsame | ⟨status, hset⟩
      · rw [hsame]
      · rw [hset]
        exact (AttributeCache.set_apply _ _ _ _).trans (if_neg (reachable_ne_status _))
    · cases hem
      rfl
  · rfl

end Frame

section Runs

variable {Table Content P : Type} {env : BridgeEnv Table Content P}
  {slots : EmberSlots env.monitor.ember} {s : BridgeState Table Content}

theorem coherent_step (hR : Registered slots s.monitor) (h : Coherent s.monitor s.cache)
    {ev : Event P} (hev : ReachableCondition env s ev) :
    Registered slots (step env s ev).monitor ∧
      Coherent (step env s ev).monitor (step env s ev).cache := by
  cases ev with
  | node ev =>
    have hmonitor : (step env s (.node ev)).monitor =
        NodeStateMonitor.step env.monitor s.monitor ev := by
      cases ev <;> rfl
    rw [hmonitor]
    refine ⟨hR.step hev, ?_⟩
    by_cases hrestart : ev = .restart
    · subst hrestart
      intro e he
      cases he
    · have hcache : (step env s (.node ev)).cache =
          (newCalls s.monitor (NodeStateMonitor.step env.monitor s.monitor ev)).foldl notify
            s.cache := by
        cases ev with
        | restart => exact absurd rfl hrestart
        | nodeAdded | nodeRemoved | nodeStateChanged => rfl
      rw [hcache, foldl_notify_newCalls (calls_step ev)]
      exact h.step hR hev hrestart
  | reported translator topic message =>
    refine ⟨hR, fun e he => ?_⟩
    obtain ⟨b, hb, hcached⟩ := h e he
    have hspares : Spares (reportedUpdated env translator) := by
      cases translator with
      | generated a => exact spares_generated hev env.dataModel
      | basicInformation => exact spares_basic
    exact ⟨b, hb, (onMqttMessageCb_reachable hspares topic message).trans hcached⟩
  | invoke handler hh inv getUnifyGroup =>
    refine ⟨hR, fun e he => ?_⟩
    obtain ⟨b, hb, hcached⟩ := h e he
    exact ⟨b, hb, (invokeCommand_reachable s handler inv getUnifyGroup).trans hcached⟩
  | response | read | write | invokeGroup | tick => exact ⟨hR, h⟩

theorem directory_monitor_run {evs : List (Event P)} (hR : Registered slots s.monitor)
    (h : Coherent s.monitor s.cache)
    (hc : EventSystem.Guarded (step env) (ReachableCondition env) s evs) :
    directory (EventSystem.run (step env) s evs).monitor =
      EventSystem.run (directoryStep env.monitor) (directory s.monitor)
        (evs.filterMap Event.node?) := by
  induction evs generalizing s with
  | nil => rfl
  | cons ev evs ih =>
    obtain ⟨hR', h'⟩ := coherent_step hR h hc.1
    have hrest := ih hR' h' hc.2
    rw [EventSystem.run_cons, hrest]
    cases ev with
    | node ev =>
      have hmonitor : (step env s (.node ev)).monitor =
          NodeStateMonitor.step env.monitor s.monitor ev := by
        cases ev <;> rfl
      have hdirectory := (directory_step_iff hR.toPlaced ev).mpr (hR.directoryCondition hc.1)
      rw [hmonitor, hdirectory]
      rfl
    | reported | response | read | write | invoke | invokeGroup | tick => rfl

end Runs

/-- After every run in which endpoints are registered under ids of their own, what is read of Reachable,
on the id of every endpoint that Unify lists, is what Unify has told last, whatever is reported, written
and sent in between. -/
theorem reachable_run {Table Content P : Type} (env : BridgeEnv Table Content P)
    (slots : EmberSlots env.monitor.ember) (now : ℤ) (evs : List (Event P))
    (h : EventSystem.Guarded (step env) (ReachableCondition env)
      (start env (KeyValueStore.empty fun _ => false) now) evs) (a : String × ℕ) (l : Listing Content)
    (hl : EventSystem.run (directoryStep env.monitor) (fun _ => none) (evs.filterMap Event.node?) a =
      some l) :
    ∃ id b, matterEndpointOf (EventSystem.run (step env)
        (start env (KeyValueStore.empty fun _ => false) now) evs).monitor a.1 a.2 = some id ∧
      l.reachable = some b ∧
      read env (EventSystem.run (step env) (start env (KeyValueStore.empty fun _ => false) now) evs)
        (reachable id) .basicInformation = .ok (.encode (.value (.bool b))) := by
  have hstart : Registered slots (start env (KeyValueStore.empty fun _ => false) now).monitor :=
    ⟨placed_run env.monitor slots [], fun e he => absurd he (by simp [start, NodeStateMonitor.start])⟩
  have hcoherent : Coherent (start env (KeyValueStore.empty fun _ => false) now).monitor
      (start env (KeyValueStore.empty fun _ => false) now).cache :=
    fun e he => absurd he (by simp [start, NodeStateMonitor.start])
  have hempty : directory (start env (KeyValueStore.empty fun _ => false) now).monitor =
      fun _ => none := rfl
  have hdirectory := directory_monitor_run hstart hcoherent h
  rw [hempty] at hdirectory
  have hinv := EventSystem.invariant_run (I := fun s : BridgeState Table Content =>
    Registered slots s.monitor ∧ Coherent s.monitor s.cache)
    (fun s ev hs hev => coherent_step hs.1 hs.2 hev) ⟨hstart, hcoherent⟩ h
  rw [← hdirectory] at hl
  obtain ⟨e, he, rfl, rfl⟩ := hinv.1.directory_eq_some.mp hl
  obtain ⟨b, hb, hcached⟩ := hinv.2 e he
  refine ⟨e.matterEndpoint, b, matterEndpointOf_of_mem hinv.1.addresses he, hb, ?_⟩
  have halternative : readAlternative 0x11 = some (CacheValue.bool b).alternative := rfl
  exact read_of_stored halternative hcached

/-- A light reports that it is on, and goes offline. -/
theorem reachable_run_of_offline_light :
    ∃ id b, matterEndpointOf (EventSystem.run (step homeEnv)
        (start homeEnv (KeyValueStore.empty fun _ => false) 0)
        [.node (.nodeAdded (lightNode "A")), lightReport true,
          .node (.nodeStateChanged { lightNode "A" with state := .other 2 })]).monitor "A" 1 = some id ∧
      some false = some b ∧
      read homeEnv (EventSystem.run (step homeEnv)
        (start homeEnv (KeyValueStore.empty fun _ => false) 0)
        [.node (.nodeAdded (lightNode "A")), lightReport true,
          .node (.nodeStateChanged { lightNode "A" with state := .other 2 })])
        (reachable id) .basicInformation = .ok (.encode (.value (.bool b))) := by
  have hguarded : EventSystem.Guarded (step homeEnv) (ReachableCondition homeEnv)
      (start homeEnv (KeyValueStore.empty fun _ => false) 0)
        [.node (.nodeAdded (lightNode "A")), lightReport true,
          .node (.nodeStateChanged { lightNode "A" with state := .other 2 })] := by
    refine ⟨⟨⟨?_, fun _ => ?_⟩, trivial⟩, ?_, trivial, trivial⟩
    · exact light_registered rfl (by decide) (by decide)
    · intro id hid
      cases hid
    · have hmem : (⟨0x0006, "OnOff"⟩ : ClusterAttributeAccess) ∈ ClusterAttributeAccess.all := by decide
      exact hmem
  exact reachable_run homeEnv lightSlots 0 _ hguarded ("A", 1)
    ⟨256, [("OnOff", ⟨["OnOff"], ["On", "Off", "Toggle"], []⟩)], some false⟩ rfl

end UnifyMatterBridge.Bridge
