import UnifyMatterBridge.Attribute.BasicReports
import UnifyMatterBridge.Attribute.Dispatch
import UnifyMatterBridge.Attribute.Handling
import UnifyMatterBridge.Bridge.Awaited

/-! The types of what the bridge has in its cache: every attribute is stored with the type it is read
with but for the software version, so that reading throws for that one and emulating a command never
does. -/
namespace UnifyMatterBridge.Bridge

open NodeStateMonitor AttributeTranslatorInterface BridgedDeviceBasicInfoAttributeAccess

section Definitions

def storedAlternative (attributeId : ℕ) : Option Alternative :=
  if attributeId = 0x09 then some (.int .uint16) else readAlternative attributeId

def Translator.access : Translator → List ClusterAttributeAccess
  | .attributes (.generated a) => [a]
  | .attributes .basicInformation | .commands _ | .groupCommands => []

structure TypedValues (m : DataModel) (c : AttributeCache) : Prop where
  holds : ∀ path info v, m.attributeInfo path.clusterId path.attributeId = some info →
    c path = some v → info.Holds v
  basic : ∀ endpointId attributeId v, c (attrPath endpointId attributeId) = some v →
    storedAlternative attributeId = some v.alternative

/-- The tables that the translators are generated from: without the basic information, and with the
attributes that are read, each with the type it is read with. -/
structure Readable (m : DataModel) : Prop where
  basic : ∀ attributeId, m.attributeInfo BridgedDeviceBasicInfoAttributeAccess.clusterId attributeId =
    none
  readable : ∀ {clusterId attributeId t}, ClusterEmulator.readType clusterId attributeId = some t →
    ∃ info, m.attributeInfo clusterId attributeId = some info ∧ info.type.alternative = .int t

variable {Table Content P σ : Type} (client : Mqtt.Client σ Translator)
  (env : BridgeEnv Table Content P)

def DeliveredCondition (l : Connected Table Content σ) : Event P → Prop
  | .reported translator topic _ => .attributes translator ∈ client.receivers l.session topic
  | ev => ConnectedCondition env l.bridge ev

def IsDoorLockEventList (s : BridgeState Table Content) (path : AttrPath) : Prop :=
  path = ⟨path.endpointId, 0x0101, ClusterEmulator.eventListId⟩ ∧
    (bridgedEndpointOfMatter s.monitor path.endpointId).isSome = true

/-- Reading throws for the software version that a device has reported, and encodes what nothing
determines for the events of a door lock; and emulating a command never throws. -/
structure ReadsSafely (s : BridgeState Table Content) : Prop where
  read_iff : ∀ translator path, (∃ r, read env s path translator = .ok r) ↔
    ¬ (translator = .basicInformation ∧ path = attrPath path.endpointId 0x09 ∧ s.cache path ≠ none)
  dangling_iff : ∀ translator path, (∃ n, read env s path translator = .ok (.encode (.dangling n))) ↔
    (∃ a, translator = .generated a ∧ a.clusterId = 0x0101) ∧ IsDoorLockEventList s path
  emulate : ∀ (h : ClusterCommandHandler) (inv : Invocation), ∃ em, h.emulate s.cache inv = .ok em

end Definitions

namespace TypedValues

variable {m : DataModel} {c : AttributeCache}

def stateCache (h : TypedValues m c) : StateCache m := ⟨c, h.holds⟩

theorem empty (m : DataModel) : TypedValues m AttributeCache.empty :=
  ⟨fun _ _ _ _ h => (nomatch h), fun _ _ _ h => (nomatch h)⟩

theorem set_basic (h : TypedValues m c) (hm : Readable m) {endpointId attributeId : ℕ} {v : CacheValue}
    (hv : storedAlternative attributeId = some v.alternative) :
    TypedValues m (c.set (attrPath endpointId attributeId) v) := by
  constructor
  · intro path info w hinfo hw
    rw [AttributeCache.set_apply] at hw
    split_ifs at hw with hpath
    · rw [hpath] at hinfo
      have hnone := (hm.basic attributeId).symm.trans hinfo
      cases hnone
    · exact h.holds path info w hinfo hw
  · intro id other w hw
    rw [AttributeCache.set_apply] at hw
    split_ifs at hw with hpath
    · have hattribute : other = attributeId := congrArg AttrPath.attributeId hpath
      cases hw
      rw [hattribute]
      exact hv
    · exact h.basic id other w hw

end TypedValues

section Steps

variable {Table Content P σ : Type} {m : DataModel} {s : MonitorState Table Content}
  {c : AttributeCache}

theorem TypedValues.handle (h : TypedValues m c) (msg : ReportMessage) :
    TypedValues m (msg.handle s m c).cache := by
  have hcluster : ∀ access ∈ ClusterAttributeAccess.all, access.clusterId ≠ 0x0039 := by decide
  have hvalues : h.stateCache.values = c := rfl
  have hholds := fun path => msg.holds_handle (s := s) h.stateCache path
  have hframe := fun p => msg.handle_frame (s := s) (p := p) h.stateCache
  rw [hvalues] at hholds hframe
  constructor
  · exact hholds
  · intro endpointId attributeId v hv
    by_cases hsame : (msg.handle s m c).cache (attrPath endpointId attributeId) =
        c (attrPath endpointId attributeId)
    · exact h.basic endpointId attributeId v (hsame ▸ hv)
    · obtain ⟨id, -, ⟨other, -, hpath⟩ | ⟨-, hpath⟩⟩ := hframe _ hsame
      · have hid : (0x0039 : ℕ) = msg.access.clusterId := congrArg AttrPath.clusterId hpath
        exact absurd hid.symm (hcluster msg.access msg.access_mem)
      · have hid : (0x0039 : ℕ) = 0x0102 := congrArg AttrPath.clusterId hpath
        omega

theorem storedAlternative_of_storedValue {attributeId : ℕ} {value : Json} {v : CacheValue}
    (hv : storedValue attributeId value = .ok (some v)) :
    storedAlternative attributeId = some v.alternative := by
  unfold storedValue at hv
  split at hv
  case h_9 =>
    cases hv
    rfl
  case h_12 => cases hv
  all_goals
    obtain ⟨text, -, hv⟩ := Outcome.bind_eq_ok hv
    cases hv
    rfl

theorem TypedValues.reportedUpdated (h : TypedValues m c) (hm : Readable m) {endpointId : ℕ}
    {cluster name : String} {value : Json} {r : AttributeCache × List AttrPath}
    (hr : BridgedDeviceBasicInfoAttributeAccess.reportedUpdated c endpointId cluster name value =
      .ok r) : TypedValues m r.1 := by
  unfold BridgedDeviceBasicInfoAttributeAccess.reportedUpdated at hr
  split_ifs at hr
  · cases hid : basicInformationMap.lookup name with
    | none =>
      rw [hid] at hr
      cases hr
      exact h
    | some attributeId =>
      rw [hid] at hr
      obtain ⟨stored, hstored, hr⟩ := Outcome.bind_eq_ok hr
      cases stored with
      | none =>
        cases hr
        exact h
      | some v =>
        cases hr
        exact h.set_basic hm (storedAlternative_of_storedValue hstored)
  · obtain ⟨label, -, hr⟩ := Outcome.bind_eq_ok hr
    cases hr
    exact h.set_basic hm rfl
  · cases hr
    exact h

theorem windowCovering_status {path : CommandPath} {em : Emulation}
    (h : EmulateWindowCovering.command c path = .ok em) :
    em.cache = c ∨ ∃ status ∈ [(0x00 : ℤ), 0x05, 0x0A],
      em.cache = EmulateWindowCovering.setOperationalStatus c path status := by
  obtain ⟨percentage, -, h⟩ := Outcome.bind_eq_ok h
  obtain ⟨position, -, h⟩ := Outcome.bind_eq_ok h
  obtain ⟨answer, -, h⟩ := Outcome.bind_eq_ok h
  cases answer with
  | some effects =>
    cases h
    exact Or.inl rfl
  | none =>
    dsimp only [EmulateWindowCovering.move] at h
    split at h
    · obtain ⟨limit, -, h⟩ := Outcome.bind_eq_ok h
      cases h
      refine Or.inr ⟨_, ?_, rfl⟩
      split_ifs <;> simp
    · obtain ⟨limit, -, h⟩ := Outcome.bind_eq_ok h
      cases h
      refine Or.inr ⟨_, ?_, rfl⟩
      split_ifs <;> simp
    · cases h
      exact Or.inr ⟨0x00, by simp, rfl⟩
    · cases h
      exact Or.inl rfl

/-- A command sets the status of a covering, or nothing. -/
theorem emulate_cache {h : ClusterCommandHandler} {inv : Invocation} {em : Emulation}
    (hem : h.emulate c inv = .ok em) : em.cache = c ∨ ∃ status ∈ [(0x00 : ℤ), 0x05, 0x0A],
      em.cache = c.set (EmulateWindowCovering.operationalStatus inv.endpointId)
        (.int .uint8 status) := by
  unfold ClusterCommandHandler.emulate invokeEmulator at hem
  split_ifs at hem
  · split at hem
    · cases hem
      rw [levelControl_eq]
      exact Or.inl rfl
    · cases hem
      rw [doorLock_eq]
      exact Or.inl rfl
    · exact windowCovering_status hem
    · exact Or.inl (thermostat_cache hem)
    · cases hem
      rw [colorControl_eq]
      exact Or.inl rfl
    · cases hem
      exact Or.inl rfl
  · cases hem
    exact Or.inl rfl

theorem TypedValues.set_status (h : TypedValues m c) (endpointId : ℕ) {status : ℤ}
    (hstatus : status ∈ [(0x00 : ℤ), 0x05, 0x0A]) :
    TypedValues m (c.set (EmulateWindowCovering.operationalStatus endpointId)
      (.int .uint8 status)) := by
  obtain ⟨b, hb⟩ := m.operationalStatus
  have hemulated : emulatorType 0x0102 0x0A = some .uint8 := rfl
  obtain ⟨info', hinfo', halternative⟩ := m.emulated hemulated
  constructor
  · intro path info v hinfo hv
    rw [AttributeCache.set_apply] at hv
    split_ifs at hv with hpath
    · cases hv
      rw [hpath] at hinfo
      have hsame : info' = info := Option.some.inj (hinfo'.symm.trans hinfo)
      have hbitmap : info = ⟨.bitmap b, false, false⟩ := Option.some.inj (hinfo.symm.trans hb)
      constructor
      · exact (hsame ▸ halternative).symm
      · have hrange : ∀ status ∈ [(0x00 : ℤ), 0x05, 0x0A], IntType.uint8.InRange status := by decide
        exact hrange status hstatus
      · intro hnullable
        rw [hbitmap] at hnullable
        cases hnullable
    · exact h.holds path info v hinfo hv
  · intro id attributeId v hv
    rw [AttributeCache.set_apply] at hv
    split_ifs at hv with hpath
    · have hcluster : (0x0039 : ℕ) = 0x0102 := congrArg AttrPath.clusterId hpath
      omega
    · exact h.basic id attributeId v hv

theorem TypedValues.foldl_notify (hm : Readable m) (records : List (CallRecord Table Content))
    (h : TypedValues m c) : TypedValues m (records.foldl notify c) := by
  induction records generalizing c with
  | nil => exact h
  | cons record records ih =>
    apply ih
    unfold notify
    cases record.call with
    | listener ep update =>
      cases update with
      | nodeStateChanged => exact h.set_basic hm rfl
      | nodeAdded => exact h
      | nodeDeleted => exact h
    | emberAfClearDynamicEndpoint index => exact h
    | emberAfSetDynamicEndpoint => exact h

end Steps

/-- A message with basic information. No callback is registered for its clusters. -/
theorem TypedValues.handleReport {m : DataModel} {c : AttributeCache} (h : TypedValues m c)
    (hm : Readable m) (endpointId : ℕ) {cluster : String}
    (hcluster : cluster ∈ ["Basic", "NameAndLocation"]) (name : String)
    (parsed : Except ParseFailure Json) :
    TypedValues m (AttributeTranslatorInterface.handleReport
      BridgedDeviceBasicInfoAttributeAccess.reportedUpdated c endpointId cluster name parsed).cache := by
  by_cases hparsed : ∃ jsn value, parsed = .ok jsn ∧ jsn.subscript "value" = .ok value
  · obtain ⟨jsn, value, rfl, hvalue⟩ := hparsed
    obtain ⟨-, herror, hok⟩ :=
      @handleReport_of_value c endpointId cluster name value jsn hcluster hvalue
    cases hupdated : BridgedDeviceBasicInfoAttributeAccess.reportedUpdated c endpointId cluster name
        value with
    | error e =>
      rw [herror e hupdated]
      exact h
    | ok r =>
      rw [hok r hupdated]
      exact h.reportedUpdated hm hupdated
  · push Not at hparsed
    obtain ⟨e, hhandle, -⟩ := @handleReport_of_no_value none
      BridgedDeviceBasicInfoAttributeAccess.reportedUpdated c endpointId cluster name parsed hparsed
    rw [hhandle]
    exact h

theorem mem_all_of_generated {a : ClusterAttributeAccess}
    (h : .attributes (.generated a) ∈ translators) : a ∈ ClusterAttributeAccess.all := by
  have hall : ∀ t ∈ translators, ∀ a ∈ t.access, a ∈ ClusterAttributeAccess.all := by decide
  exact hall _ h a List.mem_cons_self

section Delivered

variable {Table Content P σ : Type} {client : Mqtt.Client σ Translator}
  {env : BridgeEnv Table Content P} {slots : EmberSlots env.monitor.ember}
  {l : Connected Table Content σ}

/-- A report that is delivered is one of a cluster of its translator. -/
theorem TypedValues.reported (h : TypedValues env.dataModel l.bridge.cache)
    (hm : Readable env.dataModel) (hl : Listening client env slots l) {translator : AttributeTranslator}
    {topic : String} (message : Message)
    (hdelivered : .attributes translator ∈ client.receivers l.session topic) :
    TypedValues env.dataModel (onMqttMessageCb l.bridge.monitor (Bridge.reportedUpdated env translator)
      l.bridge.cache topic message).cache := by
  have hmem := (@mem_receivers_iff _ _ _ client l.subscribed _ hl.upToDate hl.addressed topic).mp
    hdelivered
  obtain ⟨ht, e, he, cluster, hcluster, name, hname, rfl⟩ := hmem
  have haddr := hl.addressed e.address ⟨e, he, rfl⟩
  have hreaches := reaches_of_mem hl.placed.addresses he haddr ht hcluster hname
  cases translator with
  | generated a =>
    have haccess := mem_all_of_generated ht
    have hname' : cluster = a.clusterName := List.mem_singleton.mp hcluster
    subst hname'
    exact h.handle (s := l.bridge.monitor) ⟨⟨e.unifyUnid, e.unifyEndpoint, name, message,
      haddr.1.separator, haddr.2, hname⟩, a, haccess⟩
  | basicInformation =>
    have hbasic := hreaches (Bridge.reportedUpdated env .basicInformation) l.bridge.cache message
    refine (congrArg (fun r => TypedValues env.dataModel (ReportResult.cache r)) hbasic).mpr ?_
    cases message with
    | empty => exact h
    | text parsed =>
      dsimp only
      split_ifs
      · exact h
      · exact h.handleReport hm e.matterEndpoint hcluster name parsed

/-- One event keeps the types of all values. -/
theorem TypedValues.step (h : TypedValues env.dataModel l.bridge.cache) (hm : Readable env.dataModel)
    (hl : Listening client env slots l) {ev : Event P} (hev : DeliveredCondition client env l ev) :
    TypedValues env.dataModel (connectedStep client env l ev).bridge.cache := by
  cases ev with
  | node ev =>
    cases ev with
    | restart => exact TypedValues.empty _
    | nodeAdded node => exact h.foldl_notify hm _
    | nodeRemoved unid => exact h.foldl_notify hm _
    | nodeStateChanged node => exact h.foldl_notify hm _
  | reported translator topic message => exact h.reported hm hl message hev
  | response topic message => exact h
  | read translator path => exact h
  | write a path decoder => exact h
  | invoke handler hh inv getUnifyGroup =>
    have hcache : (connectedStep client env l (.invoke handler hh inv getUnifyGroup)).bridge.cache =
        (invokeCommand l.bridge handler inv getUnifyGroup).cache := rfl
    rw [hcache, invokeCommand, cache_invokeCommand]
    split
    · next em _ hem =>
      rcases emulate_cache hem with hsame | ⟨status, hstatus, hset⟩
      · rw [hsame]
        exact h
      · rw [hset]
        exact h.set_status inv.endpointId hstatus
    · exact h
  | invokeGroup inv p t => exact h
  | tick nanoseconds => exact h

end Delivered

section Reads

variable {Table Content P : Type} {env : BridgeEnv Table Content P} {s : BridgeState Table Content}

theorem exists_get {c : AttributeCache} {alt : Alternative} {path : AttrPath}
    (h : ∀ v, c path = some v → v.alternative = alt) : ∃ r, c.get alt path = .ok r := by
  unfold AttributeCache.get
  cases hv : c path with
  | none => exact ⟨none, rfl⟩
  | some v => exact ⟨some v, if_pos (h v hv)⟩

theorem TypedValues.basicRead_iff (h : TypedValues env.dataModel s.cache) (path : AttrPath) :
    (∃ r, BridgedDeviceBasicInfoAttributeAccess.read s.cache path = .ok r) ↔
      ¬ (path = attrPath path.endpointId 0x09 ∧ s.cache path ≠ none) := by
  by_cases hversion : path = attrPath path.endpointId 0x09
  · rw [and_iff_right hversion, not_not, hversion]
    cases hv : s.cache (attrPath path.endpointId 0x09) with
    | none =>
      have halt : readAlternative 0x09 = some (.int .uint32) := rfl
      exact iff_of_true ⟨_, read_of_missing halt hv⟩ rfl
    | some v =>
      have hstored := h.basic path.endpointId 0x09 v hv
      have htype : v.alternative = .int .uint16 := (Option.some.inj hstored).symm
      have hget : s.cache.get (.int .uint32) (attrPath path.endpointId 0x09) =
          .error .badVariantAccess := by
        unfold AttributeCache.get
        rw [hv]
        exact if_neg (by rw [htype]; decide)
      have hthrows : BridgedDeviceBasicInfoAttributeAccess.read s.cache
          (attrPath path.endpointId 0x09) = .error .badVariantAccess := by
        simp only [BridgedDeviceBasicInfoAttributeAccess.read, readAlternative, attrPath] at hget ⊢
        rw [if_neg (not_not_intro rfl), hget]
        rfl
      rw [hthrows]
      simp
  · refine iff_of_true ?_ fun hboth => hversion hboth.1
    unfold BridgedDeviceBasicInfoAttributeAccess.read
    split_ifs with hcluster
    · exact ⟨_, rfl⟩
    · rw [not_not] at hcluster
      have hpath : path = attrPath path.endpointId path.attributeId := by
        rw [attrPath, ← hcluster]
      split
      · exact ⟨_, rfl⟩
      · exact ⟨_, rfl⟩
      · exact ⟨_, rfl⟩
      · cases halt : readAlternative path.attributeId with
        | none => exact ⟨_, rfl⟩
        | some alt =>
          have hreturns : Outcome.Returns (s.cache.get alt path) := by
            apply exists_get
            intro v hv
            rw [hpath] at hv
            have hstored := h.basic path.endpointId path.attributeId v hv
            have hne : ¬ path.attributeId = 0x09 := fun heq => hversion (hpath.trans (by rw [heq]))
            rw [storedAlternative, if_neg hne, halt] at hstored
            exact (Option.some.inj hstored).symm
          exact hreturns.bind fun stored => Outcome.Returns.ok _

theorem TypedValues.generatedRead (h : TypedValues env.dataModel s.cache) (hm : Readable env.dataModel)
    (a : ClusterAttributeAccess) (find : ℕ → ℕ → Bool) (path : AttrPath) :
    ∃ r, a.read s.monitor env.dataModel find s.cache path = .ok r := by
  let m : ReadableModel := ⟨env.dataModel, hm.readable⟩
  let c : StateCache m.toDataModel := h.stateCache
  unfold ClusterAttributeAccess.read
  split_ifs with hcluster hbridged hemulated
  · exact ⟨_, rfl⟩
  · exact ⟨_, rfl⟩
  · exact @ClusterEmulator.returns_readAttribute find path m c hemulated
  · cases hinfo : env.dataModel.attributeInfo path.clusterId path.attributeId with
    | none => exact ⟨_, rfl⟩
    | some info =>
      have hreturns : Outcome.Returns (s.cache.get info.type.alternative path) :=
        exists_get fun v hv => (h.holds path info v hinfo hv).typed
      have hget : Outcome.Returns (info.get s.cache path) :=
        hreturns.bind fun stored => Outcome.Returns.ok _
      exact hget.bind fun encoded => Outcome.Returns.ok _

section Dangling

variable {find : ℕ → ℕ → Bool} {c : AttributeCache} {path : AttrPath} {n : ℕ}

theorem readOr_ne_dangling {t : IntType} {absent : ReadResult} {present : ℤ → ReadResult}
    (habsent : absent ≠ .encode (.dangling n)) (hpresent : ∀ k, present k ≠ .encode (.dangling n)) :
    ClusterEmulator.readOr c path t absent present ≠ .ok (.encode (.dangling n)) := by
  intro h
  obtain ⟨stored, -, h⟩ := Outcome.bind_eq_ok h
  cases stored with
  | none => exact habsent (Except.ok.inj h)
  | some k => exact hpresent k (Except.ok.inj h)

theorem number_ne_dangling (t : IntType) (k : ℤ) :
    ReadResult.number t k ≠ .encode (.dangling n) := by
  intro h
  cases h

theorem readEmulator_ne_dangling :
    ClusterEmulator.readEmulator c path ≠ .ok (.encode (.dangling n)) := by
  unfold ClusterEmulator.readEmulator
  split
  all_goals first
    | exact fun h => absurd (Except.ok.inj h) (number_ne_dangling _ _)
    | apply readOr_ne_dangling
      · intro h
        cases h
      · intro k
        first
          | exact number_ne_dangling _ _
          | intro h
            split_ifs at h <;> cases h
    | intro h
      cases h

theorem readAttribute_eq_dangling
    (h : ClusterEmulator.readAttribute find c path = .ok (.encode (.dangling n))) :
    path.attributeId = ClusterEmulator.eventListId ∧ path.clusterId = 0x0101 := by
  unfold ClusterEmulator.readAttribute at h
  split_ifs at h with hrevision hfeature hevents hemulated
  · cases h
  · obtain ⟨features, -, h⟩ := Outcome.bind_eq_ok h
    cases h
  · refine ⟨hevents, ?_⟩
    unfold ClusterEmulator.readEventList at h
    split at h
    · next hcluster => exact hcluster
    · cases h
  · exact absurd h readEmulator_ne_dangling
  · cases h

/-- Only the events of a door lock are a span of an array that is gone. -/
theorem generatedRead_dangling_iff (a : ClusterAttributeAccess) (find : ℕ → ℕ → Bool)
    (path : AttrPath) :
    (∃ n, a.read s.monitor env.dataModel find s.cache path = .ok (.encode (.dangling n))) ↔
      a.clusterId = 0x0101 ∧ IsDoorLockEventList s path := by
  constructor
  · rintro ⟨n, h⟩
    unfold ClusterAttributeAccess.read at h
    split_ifs at h with hcluster hbridged hemulated
    · cases h
    · cases h
    · obtain ⟨hevents, hlock⟩ := readAttribute_eq_dangling h
      refine ⟨(not_not.mp hcluster).symm.trans hlock, ?_, ?_⟩
      · rw [← hlock, ← hevents]
      · rw [← Option.not_isNone, Bool.eq_false_iff.mpr hbridged]
        rfl
    · cases hinfo : env.dataModel.attributeInfo path.clusterId path.attributeId with
      | none =>
        rw [hinfo] at h
        cases h
      | some info =>
        rw [hinfo] at h
        obtain ⟨encoded, hget, h⟩ := Outcome.bind_eq_ok h
        cases h
        obtain ⟨stored, -, hget⟩ := Outcome.bind_eq_ok hget
        cases stored with
        | none =>
          dsimp only at hget
          split_ifs at hget <;> cases hget
        | some v => cases hget
  · rintro ⟨hcluster, hpath, hbridged⟩
    refine ⟨2, ?_⟩
    have hsome : (bridgedEndpointOfMatter s.monitor path.endpointId).isNone = false := by
      rw [← Option.not_isSome, hbridged]
      rfl
    rw [hpath]
    unfold ClusterAttributeAccess.read
    simp only [hcluster, ne_eq, not_true_eq_false, if_false, hsome, Bool.false_eq_true]
    rfl

theorem basicRead_ne_dangling (c : AttributeCache) (path : AttrPath) (n : ℕ) :
    BridgedDeviceBasicInfoAttributeAccess.read c path ≠ .ok (.encode (.dangling n)) := by
  intro h
  unfold BridgedDeviceBasicInfoAttributeAccess.read at h
  split_ifs at h
  · cases h
  · split at h
    · cases h
    · cases h
    · cases h
    · split at h
      · cases h
      · obtain ⟨stored, -, h⟩ := Outcome.bind_eq_ok h
        cases stored <;> cases h

end Dangling

theorem TypedValues.readsSafely (h : TypedValues env.dataModel s.cache) (hm : Readable env.dataModel) :
    ReadsSafely env s := by
  constructor
  · intro translator path
    cases translator with
    | generated a =>
      apply iff_of_true
      · exact h.generatedRead hm a (env.emberAfFindServerCluster s.monitor.ember) path
      · exact fun hall => AttributeTranslator.noConfusion hall.1
    | basicInformation =>
      rw [and_iff_right rfl]
      exact h.basicRead_iff path
  · intro translator path
    cases translator with
    | generated a =>
      refine (generatedRead_dangling_iff a _ path).trans ⟨?_, ?_⟩
      · rintro ⟨hcluster, hpath⟩
        exact ⟨⟨a, rfl, hcluster⟩, hpath⟩
      · rintro ⟨⟨a', ha, hcluster⟩, hpath⟩
        cases ha
        exact ⟨hcluster, hpath⟩
    | basicInformation =>
      refine iff_of_false (fun ⟨n, hn⟩ => basicRead_ne_dangling _ _ n hn) ?_
      rintro ⟨⟨a, ha, -⟩, -⟩
      cases ha
  · intro handler inv
    obtain ⟨em, hem, -⟩ := @ClusterCommandHandler.emulate_outcome handler inv h.stateCache.typed
    exact ⟨em, hem⟩

end Reads

/-- In every state that is reached from reports on subscribed topics, whatever they hold, reading an
attribute throws if and only if it is a software version that has been reported, and emulating a command
never throws. -/
theorem readsSafely_run {Table Content P σ : Type} (client : Mqtt.Client σ Translator)
    (env : BridgeEnv Table Content P) (slots : EmberSlots env.monitor.ember) (now : ℤ)
    (hm : Readable env.dataModel) (evs : List (Event P))
    (h : EventSystem.Guarded (connectedStep client env) (DeliveredCondition client env)
      (connectedStart client env (KeyValueStore.empty fun _ => false) now) evs) :
    ReadsSafely env (EventSystem.run (connectedStep client env)
      (connectedStart client env (KeyValueStore.empty fun _ => false) now) evs).bridge := by
  have hinv := EventSystem.invariant_run (I := fun l : Connected Table Content σ =>
    Listening client env slots l ∧ TypedValues env.dataModel l.bridge.cache) ?_
    ⟨listening_start client env slots now, TypedValues.empty _⟩ h
  · exact hinv.2.readsSafely hm
  · intro l ev hl hev
    refine ⟨hl.1.step ?_, hl.2.step hm hl.1 hev⟩
    cases ev with
    | reported translator topic message => trivial
    | node | response | read | write | invoke | invokeGroup | tick => exact hev

def readableEnv : BridgeEnv (SlotTable (EndpointContext (List (String × Cluster))))
    (List (String × Cluster)) (List (ℕ × ℕ × ℕ)) :=
  { homeEnv with dataModel := ClusterEmulator.readableModel.toDataModel }

theorem readable_readableEnv : Readable readableEnv.dataModel := by
  constructor
  · intro attributeId
    have hhome : homeModel.attributeInfo BridgedDeviceBasicInfoAttributeAccess.clusterId attributeId =
        none := by
      simp [homeModel, homeRows, BridgedDeviceBasicInfoAttributeAccess.clusterId]
    simp only [readableEnv, ClusterEmulator.readableModel, hhome]
    rfl
  · exact ClusterEmulator.readableModel.readable

/-- A light reports its software version. -/
theorem readsSafely_run_of_version :
    ReadsSafely readableEnv (EventSystem.run
      (connectedStep (Mqtt.Client.listed Translator) readableEnv)
      (connectedStart (Mqtt.Client.listed Translator) readableEnv (KeyValueStore.empty fun _ => false) 0)
        [.node (.nodeAdded (lightNode "A")), .reported .basicInformation
          "ucl/by-unid/A/ep1/Basic/Attributes/ApplicationVersion/Reported"
          (.text (.ok (.object [("value", .integer 3)])))]).bridge := by
  apply readsSafely_run (Mqtt.Client.listed Translator) readableEnv lightSlots 0 readable_readableEnv
  have hA := @wellAddressed_light "A" ⟨by decide, by decide, by decide⟩
  refine ⟨⟨⟨fun _ e he => (nomatch he), trivial⟩, hA⟩, ?_, trivial⟩
  have hlisted : ("ucl/by-unid/A/ep1/Basic/Attributes/+/Reported",
      Translator.attributes .basicInformation) ∈ (connectedStep (Mqtt.Client.listed Translator)
        readableEnv (connectedStart (Mqtt.Client.listed Translator) readableEnv
          (KeyValueStore.empty fun _ => false) 0)
        (.node (.nodeAdded (lightNode "A")))).session := by
    decide
  exact ⟨"ucl/by-unid/A/ep1/Basic/Attributes/+/Reported", hlisted, by decide⟩

end UnifyMatterBridge.Bridge
