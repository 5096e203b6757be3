import UnifyMatterBridge.Bridge.Reachable

/-! What Matter subscribers know: they read an attribute again when the change callback
(`MatterReportingAttributeChangeCallback`) is called for it. -/
namespace UnifyMatterBridge.Bridge

open NodeStateMonitor AttributeTranslatorInterface BridgedDeviceBasicInfoAttributeAccess

section Definitions

variable {Table Content P : Type}

/-- What the listener of the basic information calls the change callback for. -/
def reachableReported (record : CallRecord Table Content) : Option AttrPath :=
  match record.call with
  | .listener ep .nodeStateChanged => some (reachable ep.matterEndpoint)
  | _ => none

/-- The status of window coverings, which the emulator sets in the cache. -/
def IsOperationalStatus (path : AttrPath) : Prop := path.clusterId = 0x0102 ∧ path.attributeId = 0x0A

instance : DecidablePred IsOperationalStatus := fun _ => inferInstanceAs (Decidable (_ ∧ _))

structure Watched (Table Content : Type) where
  bridge : BridgeState Table Content
  seen : AttributeCache

variable (env : BridgeEnv Table Content P)

def changeReported (s : BridgeState Table Content) : Event P → List AttrPath
  | .node ev => (newCalls s.monitor (NodeStateMonitor.step env.monitor s.monitor ev)).filterMap
      reachableReported
  | .reported translator topic message =>
    (onMqttMessageCb s.monitor (reportedUpdated env translator) s.cache topic message).notified
  | .response _ _ | .read _ _ | .write _ _ _ | .invoke _ _ _ _ | .invokeGroup _ _ _ | .tick _ => []

/-- Subscribers subscribe anew to a process that has started anew, and read everything. -/
def watchedStep (w : Watched Table Content) (ev : Event P) : Watched Table Content :=
  let bridge := step env w.bridge ev
  match ev with
  | .node .restart => ⟨bridge, bridge.cache⟩
  | _ => ⟨bridge, Partition.refresh (changeReported env w.bridge ev) bridge.cache w.seen⟩

/-- Subscribers have seen everything but the status of coverings, of which they are never told. -/
structure WellInformed (w : Watched Table Content) : Prop where
  seen : ∀ path, w.seen path = if IsOperationalStatus path then none else w.bridge.cache path
  reads : ∀ translator path,
    EmulateWindowCovering.operationalStatus path.endpointId ∉ readsFrom path →
      read env { w.bridge with cache := w.seen } path translator = read env w.bridge path translator

end Definitions

section Changes

variable {Table Content P : Type} {c : AttributeCache} {path : AttrPath}

theorem isOperationalStatus_iff :
    IsOperationalStatus path ↔ path = EmulateWindowCovering.operationalStatus path.endpointId := by
  constructor
  · intro h
    obtain ⟨endpointId, clusterId, attributeId⟩ := path
    obtain ⟨hcluster, hattribute⟩ := h
    dsimp only at hcluster hattribute
    rw [hcluster, hattribute]
    rfl
  · intro h
    rw [h]
    exact ⟨rfl, rfl⟩

theorem cache_set_status (h : ¬ IsOperationalStatus path) (endpointId : ℕ) (v : CacheValue) :
    c.set (EmulateWindowCovering.operationalStatus endpointId) v path = c path := by
  have hne : ¬ path = EmulateWindowCovering.operationalStatus endpointId := by
    intro heq
    rw [heq] at h
    exact h ⟨rfl, rfl⟩
  rw [AttributeCache.set_apply, if_neg hne]

structure TellsChanges (f : ReportedUpdated) : Prop where
  kept : ∀ {c endpointId cluster name value r}, f c endpointId cluster name value = .ok r →
    ∀ path, path ∉ r.2 → r.1 path = c path
  told : ∀ {c endpointId cluster name value r}, f c endpointId cluster name value = .ok r →
    ∀ path ∈ r.2, ¬ IsOperationalStatus path

theorem tellsChanges_basic : TellsChanges BridgedDeviceBasicInfoAttributeAccess.reportedUpdated := by
  have hresult : ∀ {c endpointId cluster name value r},
      BridgedDeviceBasicInfoAttributeAccess.reportedUpdated c endpointId cluster name value = .ok r →
      r = (c, []) ∨ ∃ attributeId v, r = (c.set (attrPath endpointId attributeId) v,
        [attrPath endpointId attributeId]) := by
    intro c endpointId cluster name value r h
    rcases reportedUpdated_cases endpointId cluster name value with
      ⟨e, herror⟩ | hnone | ⟨attributeId, v, hset⟩
    · cases (herror c).symm.trans h
    · exact Or.inl (Except.ok.inj (h.symm.trans (hnone c)))
    · exact Or.inr ⟨attributeId, v, Except.ok.inj (h.symm.trans (hset c))⟩
  constructor
  · intro c endpointId cluster name value r h path hpath
    rcases hresult h with rfl | ⟨attributeId, v, rfl⟩
    · rfl
    · exact (AttributeCache.set_apply _ _ _ _).trans (if_neg (List.ne_of_not_mem_cons hpath))
  · intro c endpointId cluster name value r h path hpath
    rcases hresult h with rfl | ⟨attributeId, v, rfl⟩
    · cases hpath
    · rw [List.mem_singleton.mp hpath]
      intro hstatus
      have hcluster : (0x0039 : ℕ) = 0x0102 := hstatus.1
      omega

/-- The status of coverings is not reportable. -/
theorem tellsChanges_generated (a : ClusterAttributeAccess) (m : DataModel) :
    TellsChanges (a.reportedUpdated m) := by
  have hresult : ∀ {c endpointId cluster name value r},
      a.reportedUpdated m c endpointId cluster name value = .ok r → r = (c, []) ∨
      ∃ attributeId info v, a.reportedCase m cluster name = some (attributeId, info) ∧
        r = (info.set c (a.attrPath endpointId attributeId) v, [a.attrPath endpointId attributeId]) := by
    intro c endpointId cluster name value r h
    unfold ClusterAttributeAccess.reportedUpdated at h
    cases hcase : a.reportedCase m cluster name with
    | none =>
      rw [hcase] at h
      exact Or.inl (Except.ok.inj h).symm
    | some case =>
      rw [hcase] at h
      obtain ⟨v, -, h⟩ := Outcome.bind_eq_ok h
      cases v with
      | none => exact Or.inl (Except.ok.inj h).symm
      | some v => exact Or.inr ⟨case.1, case.2, _, rfl, (Except.ok.inj h).symm⟩
  constructor
  · intro c endpointId cluster name value r h path hpath
    rcases hresult h with rfl | ⟨attributeId, info, v, -, rfl⟩
    · rfl
    · dsimp only [AttributeInfo.set]
      split_ifs
      · rfl
      · exact (AttributeCache.set_apply _ _ _ _).trans (if_neg (List.ne_of_not_mem_cons hpath))
  · intro c endpointId cluster name value r h path hpath
    rcases hresult h with rfl | ⟨attributeId, info, v, hcase, rfl⟩
    · cases hpath
    · rw [List.mem_singleton.mp hpath]
      intro hstatus
      obtain ⟨-, hinfo, hreportable⟩ := reportedCase_eq_some hcase
      obtain ⟨b, hb⟩ := m.operationalStatus
      have hcluster : a.clusterId = 0x0102 := hstatus.1
      have hattribute : attributeId = 0x0A := hstatus.2
      rw [hcluster, hattribute, hb] at hinfo
      rw [← Option.some.inj hinfo] at hreportable
      cases hreportable

theorem foldl_notify_of_notMem (records : List (CallRecord Table Content))
    (hpath : path ∉ records.filterMap reachableReported) : records.foldl notify c path = c path := by
  induction records generalizing c with
  | nil => rfl
  | cons record records ih =>
    have hrest : path ∉ records.filterMap reachableReported := by
      intro hmem
      obtain ⟨record', hrecord, hreported⟩ := List.mem_filterMap.mp hmem
      exact hpath (List.mem_filterMap.mpr ⟨record', List.mem_cons_of_mem _ hrecord, hreported⟩)
    rw [List.foldl_cons, ih hrest]
    unfold notify
    cases hcall : record.call with
    | listener ep update =>
      cases update with
      | nodeStateChanged =>
        have hne : path ≠ reachable ep.matterEndpoint := by
          intro heq
          apply hpath
          refine List.mem_filterMap.mpr ⟨record, List.mem_cons_self, ?_⟩
          rw [reachableReported, hcall, heq]
        exact (AttributeCache.set_apply _ _ _ _).trans (if_neg hne)
      | nodeAdded => rfl
      | nodeDeleted => rfl
    | emberAfClearDynamicEndpoint index => rfl
    | emberAfSetDynamicEndpoint => rfl

variable {env : BridgeEnv Table Content P} {s : BridgeState Table Content}

theorem tellsChanges (translator : AttributeTranslator) :
    TellsChanges (reportedUpdated env translator) := by
  cases translator with
  | generated a => exact tellsChanges_generated a env.dataModel
  | basicInformation => exact tellsChanges_basic

theorem not_isOperationalStatus_of_changeReported {ev : Event P}
    (h : path ∈ changeReported env s ev) : ¬ IsOperationalStatus path := by
  cases ev with
  | node ev =>
    obtain ⟨record, -, hreported⟩ := List.mem_filterMap.mp h
    unfold reachableReported at hreported
    split at hreported
    · cases hreported
      intro hstatus
      have hcluster : (0x0039 : ℕ) = 0x0102 := hstatus.1
      omega
    · cases hreported
  | reported translator topic message =>
    obtain ⟨called, -, ⟨-, hnone⟩ | ⟨endpointId, cluster, name, value, hupdated⟩⟩ :=
      onMqttMessageCb_cases (s := s.monitor) (reportedUpdated env translator) s.cache topic message
    · rw [changeReported, hnone] at h
      cases h
    · exact (tellsChanges translator).told hupdated path h
  | response | read | write | invoke | invokeGroup | tick => cases h

/-- What is not told of has not changed. -/
theorem cache_step_of_not_reported {ev : Event P} (hrestart : ev ≠ .node .restart)
    (hpath : ¬ IsOperationalStatus path) (h : path ∉ changeReported env s ev) :
    (step env s ev).cache path = s.cache path := by
  cases ev with
  | node ev =>
    have hcache : (step env s (.node ev)).cache =
        (newCalls s.monitor (NodeStateMonitor.step env.monitor s.monitor ev)).foldl notify
          s.cache := by
      cases ev with
      | restart => exact absurd rfl hrestart
      | nodeAdded | nodeRemoved | nodeStateChanged => rfl
    rw [hcache]
    exact foldl_notify_of_notMem _ h
  | reported translator topic message =>
    obtain ⟨called, hcalled, hresult⟩ :=
      onMqttMessageCb_cases (s := s.monitor) (reportedUpdated env translator) s.cache topic message
    have hkept : called path = s.cache path := by
      rcases hcalled with rfl | ⟨endpointId, rfl⟩
      · rfl
      · exact cache_set_status hpath endpointId _
    rcases hresult with ⟨hcache, -⟩ | ⟨endpointId, cluster, name, value, hupdated⟩
    · exact (congrFun hcache path).trans hkept
    · exact ((tellsChanges translator).kept hupdated path h).trans hkept
  | invoke handler hh inv getUnifyGroup =>
    have hcache : (step env s (.invoke handler hh inv getUnifyGroup)).cache =
        (invokeCommand s handler inv getUnifyGroup).cache := rfl
    rw [hcache, invokeCommand, cache_invokeCommand]
    split
    · next em _ hem =>
      unfold ClusterCommandHandler.emulate at hem
      split_ifs at hem
      · rcases invokeEmulator_cache hem with hsame | ⟨status, hset⟩
        · rw [hsame]
        · rw [hset]
          exact cache_set_status hpath _ _
      · cases hem
        rfl
    · rfl
  | response | read | write | invokeGroup | tick => rfl

end Changes

section Runs

variable {Table Content P : Type} {env : BridgeEnv Table Content P} {w : Watched Table Content}

theorem seen_step (ev : Event P)
    (h : ∀ path, w.seen path = if IsOperationalStatus path then none else w.bridge.cache path)
    (path : AttrPath) : (watchedStep env w ev).seen path =
      if IsOperationalStatus path then none else (watchedStep env w ev).bridge.cache path := by
  by_cases hrestart : ev = .node .restart
  · subst hrestart
    show AttributeCache.empty path = if IsOperationalStatus path then none else AttributeCache.empty path
    split_ifs <;> rfl
  · have hstep : watchedStep env w ev = ⟨step env w.bridge ev,
        Partition.refresh (changeReported env w.bridge ev) (step env w.bridge ev).cache w.seen⟩ := by
      cases ev with
      | node ev =>
        cases ev with
        | restart => exact absurd rfl hrestart
        | nodeAdded | nodeRemoved | nodeStateChanged => rfl
      | reported | response | read | write | invoke | invokeGroup | tick => rfl
    have hseen := h path
    rw [hstep]
    by_cases hpath : IsOperationalStatus path
    · have hnot : path ∉ changeReported env w.bridge ev :=
        fun hmem => not_isOperationalStatus_of_changeReported hmem hpath
      rw [if_pos hpath] at hseen ⊢
      exact (if_neg hnot).trans hseen
    · rw [if_neg hpath] at hseen ⊢
      exact Partition.refresh_eq (cache_step_of_not_reported hrestart hpath) hseen

/-- Subscribers compute from what they have seen what is read. -/
theorem read_seen
    (h : ∀ path, w.seen path = if IsOperationalStatus path then none else w.bridge.cache path)
    (translator : AttributeTranslator) (path : AttrPath)
    (hpath : EmulateWindowCovering.operationalStatus path.endpointId ∉ readsFrom path) :
    read env { w.bridge with cache := w.seen } path translator = read env w.bridge path translator := by
  have hsame : ∀ p ∈ readsFrom path, w.seen p = w.bridge.cache p := by
    intro p hp
    have hne : ¬ IsOperationalStatus p := by
      intro hstatus
      have hendpoint : p.endpointId = path.endpointId := by
        rcases hp with rfl | hp
        · rfl
        · exact hp.2.1
      have heq := isOperationalStatus_iff.mp hstatus
      rw [hendpoint] at heq
      exact hpath (heq ▸ hp)
    rw [h p, if_neg hne]
  cases translator with
  | generated a => exact UnifyMatterBridge.read_congr hsame
  | basicInformation => exact BridgedDeviceBasicInfoAttributeAccess.read_congr (hsame path (Or.inl rfl))

end Runs

/-- After every run subscribers that read again what they are told of have seen what is cached, except
for the status of coverings, of which they have seen nothing. -/
theorem wellInformed_run {Table Content P : Type} (env : BridgeEnv Table Content P)
    (kvs : KeyValueStore) (now : ℤ) (evs : List (Event P)) :
    WellInformed env (EventSystem.run (watchedStep env)
      ⟨start env kvs now, AttributeCache.empty⟩ evs) := by
  have hstart : ∀ path, AttributeCache.empty path =
      if IsOperationalStatus path then none else (start env kvs now).cache path := by
    intro path
    split_ifs <;> rfl
  have hseen := EventSystem.invariant_run' (I := fun w : Watched Table Content => ∀ path,
    w.seen path = if IsOperationalStatus path then none else w.bridge.cache path)
    (fun w ev h => @seen_step _ _ _ env w ev h) (s := ⟨start env kvs now, AttributeCache.empty⟩) hstart evs
  exact ⟨hseen, read_seen hseen⟩

end UnifyMatterBridge.Bridge
