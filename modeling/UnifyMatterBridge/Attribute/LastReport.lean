import UnifyMatterBridge.Attribute.ReportedIntegers
import UnifyMatterBridge.Lib.Execution

/-! The last report of an attribute is what `Read` returns, whatever is reported before it and for
other attributes after it. -/
namespace UnifyMatterBridge

/-- A model whose attributes are those of the generated translators. -/
structure GeneratedModel extends DataModel where
  basic : ∀ attributeId,
    attributeInfo BridgedDeviceBasicInfoAttributeAccess.clusterId attributeId = none

/-- The values that Unify reports for attributes of a type, and what they are to Matter. Unknown
members of a bitmap are ignored, missing ones are false. -/
inductive Denotes : AttributeType → Json → CacheValue → Prop where
  | bool (b : Bool) : Denotes .bool (.boolean b) (.bool b)
  | int {t : IntType} {n : ℤ} (hn : t.InRange n) : Denotes (.int t) (.integer n) (.int t n)
  | enum {e : EnumType} {label : String} {n : ℤ} (hn : e.table.lookup label = some n) :
      Denotes (.enum e) (.string (.utf8 label)) (.int e.type n)
  | bitmap {b : BitmapType} {fields : List (String × Json)} {raw : ℕ}
      (hfields : ∀ f ∈ b.fields, ∀ j, fields.lookup f.1 = some j → ∃ set, j = .boolean set)
      (hraw : ∀ bit, raw.testBit bit = true ↔
        ∃ f ∈ b.fields, f.2 = bit ∧ fields.lookup f.1 = some (.boolean true)) :
      Denotes (.bitmap b) (.object fields) (.int b.type raw)

section Conversion

variable {fields : List (String × Json)}

theorem flag_object {name : String}
    (h : ∀ j, fields.lookup name = some j → ∃ set, j = .boolean set) :
    ∃ set, (Json.object fields).flag name = .ok set ∧
      (set = true ↔ fields.lookup name = some (.boolean true)) := by
  cases hlookup : fields.lookup name with
  | none => exact ⟨false, by simp only [Json.flag, hlookup], by simp⟩
  | some j =>
    obtain ⟨set, hset⟩ := h j hlookup
    refine ⟨set, by simp only [Json.flag, hlookup, hset, Json.getBool], ?_⟩
    rw [hset]
    simp

theorem flags_object {names : List (String × ℕ)}
    (h : ∀ f ∈ names, ∀ j, fields.lookup f.1 = some j → ∃ set, j = .boolean set) :
    ∃ raw, (Json.object fields).flags names 0 = .ok raw ∧
      ∀ bit, raw.testBit bit = true ↔
        ∃ f ∈ names, f.2 = bit ∧ fields.lookup f.1 = some (.boolean true) := by
  have hflag : ∀ f ∈ names, ∃ set, (Json.object fields).flag f.1 = .ok set ∧
      (set = true ↔ fields.lookup f.1 = some (.boolean true)) :=
    fun f hf => flag_object (h f hf)
  obtain ⟨raw, hraw⟩ := Json.exists_flags (fun f hf => (hflag f hf).imp fun _ h => h.1) 0
  refine ⟨raw, hraw, fun bit => ?_⟩
  rw [Json.testBit_flags hraw bit]
  simp only [Nat.zero_testBit, Bool.false_eq_true, false_or]
  refine exists_congr fun f => and_congr_right fun hf => and_congr_right fun _ => ?_
  obtain ⟨set, hset, htrue⟩ := hflag f hf
  rw [hset, Except.ok.injEq, htrue]

theorem fromJson_of_denotes {type : AttributeType} {value : Json} {v : CacheValue}
    (h : Denotes type value v) : fromJson type value = .ok (some v) := by
  cases h with
  | bool b => rfl
  | int hn =>
    rw [fromJson_int_ok rfl, IntType.cast_of_inRange hn]
  | @enum e label n hn =>
    simp only [fromJson, Json.getString]
    exact congrArg (fun x => Except.ok (Option.map (CacheValue.int e.type) x)) hn
  | @bitmap b fields raw hfields hraw =>
    obtain ⟨raw', hflags, hbits⟩ := flags_object hfields
    have heq : raw' = raw := by
      apply Nat.eq_of_testBit_eq
      intro bit
      apply Bool.eq_iff_iff.mpr
      rw [hbits bit, hraw bit]
    simp only [fromJson, hflags, heq]
    rfl

end Conversion

def openLimitMessage : ReportMessage :=
  numberMessage ⟨0x0102, "WindowCovering"⟩ "InstalledOpenLimitLift" 65535
    (percentageMessage 0).access_mem (by decide)

def coolingMessage : ReportMessage :=
  numberMessage ⟨0x0201, "Thermostat"⟩ "OccupiedCoolingSetpoint" 2500 (by decide) (by decide)

section LastReport

variable {Table Content : Type} {s : MonitorState Table Content} {m : DataModel}
  {emberAfFindServerCluster : ℕ → ℕ → Bool} {msg : ReportMessage} {endpointId attributeId : ℕ}
  {info : AttributeInfo} {v : CacheValue}

/-- A message that reports the value `v` of an attribute, as it is or by a label that stands for
it. -/
structure ReportsValue (m : DataModel) (msg : ReportMessage) (attributeId : ℕ)
    (info : AttributeInfo) (v : CacheValue) : Prop where
  value : ∃ jsn value, msg.parsed = some (.ok jsn) ∧ jsn.subscript "value" = .ok value ∧
    Denotes info.type (getSpecialValues msg.access.clusterId attributeId value) v
  reportedCase : msg.access.reportedCase m msg.access.clusterName msg.attributeName =
    some (attributeId, info)

/-- The value is not the one that stands for null once it is limited. -/
def NotNull (msg : ReportMessage) (attributeId : ℕ) (info : AttributeInfo) (v : CacheValue) : Prop :=
  ¬ info.IsNull (limitMax msg.access.clusterId attributeId v)

/-- The message is for the attribute of the path. -/
def ReportMessage.IsFor (s : MonitorState Table Content) (m : DataModel) (msg : ReportMessage)
    (path : AttrPath) : Prop :=
  ∃ endpointId attributeId, msg.endpoint s = some endpointId ∧
    m.getAttributeId msg.access.clusterName msg.attributeName = some attributeId ∧
    path = msg.path endpointId attributeId

/-- What is read of the path depends on other attributes of the message's cluster: a feature map,
and the status that the callbacks of the window covering set. -/
def ReportMessage.Derives (s : MonitorState Table Content) (msg : ReportMessage)
    (path : AttrPath) : Prop :=
  msg.endpoint s = some path.endpointId ∧ path.clusterId = msg.access.clusterId ∧
    (path.attributeId = ClusterEmulator.featureMapId ∨
      CallbackRegistered msg.access.clusterName msg.attributeName ∧ path.attributeId = 0x0A)

theorem ReportsValue.report (h : ReportsValue m msg attributeId info v) :
    msg.report m =
      some ⟨attributeId, info, limitMax msg.access.clusterId attributeId v⟩ := by
  obtain ⟨jsn, value, hparsed, hvalue, hdenotes⟩ := h.value
  rw [ReportMessage.parsed_eq_some hparsed]
  exact report_eq_some_iff.mpr ⟨jsn, value, v, rfl, hvalue, h.reportedCase,
    fromJson_of_denotes hdenotes, rfl⟩

theorem ReportsValue.afterReport_apply (h : ReportsValue m msg attributeId info v)
    (c : StateCache m) (hendpoint : msg.endpoint s = some endpointId)
    (hnull : NotNull msg attributeId info v) :
    (c.afterReport s msg).values (msg.path endpointId attributeId) =
      some (limitMax msg.access.clusterId attributeId v) := by
  obtain ⟨jsn, value, c', -, -, -, -, hhandle⟩ :=
    ReportMessage.handle_of_report c hendpoint h.report
  rw [StateCache.afterReport_values, hhandle]
  dsimp only
  rw [AttributeInfo.set_of_not_isNull hnull, AttributeCache.set_apply, if_pos rfl]

theorem afterReport_apply_of_not (c : StateCache m) {p : AttrPath} (hfor : ¬ msg.IsFor s m p)
    (hderives : ¬ msg.Derives s p) : (c.afterReport s msg).values p = c.values p := by
  rw [StateCache.afterReport_values]
  by_contra hp
  obtain ⟨endpointId, hendpoint, hchanged⟩ := ReportMessage.handle_frame c hp
  rcases hchanged with ⟨attributeId, hid, hpath⟩ | ⟨hregistered, hpath⟩
  · exact hfor ⟨endpointId, attributeId, hendpoint, hid, hpath⟩
  · have hcluster := ClusterAttributeAccess.clusterId_windowCovering msg.access_mem hregistered.1
    rw [hpath] at hderives
    exact hderives ⟨hendpoint, hcluster.symm, Or.inr ⟨hregistered, rfl⟩⟩

/-- A report changes nothing of what is read of attributes that it is not for and that do not
depend on it. -/
theorem read_afterReport_of_not (c : StateCache m) (a : ClusterAttributeAccess) {path : AttrPath}
    (hfor : ¬ msg.IsFor s m path) (hderives : ¬ msg.Derives s path) :
    a.read s m emberAfFindServerCluster (c.afterReport s msg).values path =
      a.read s m emberAfFindServerCluster c.values path := by
  apply read_congr
  intro p hp
  rcases hp with hp | ⟨hfeature, hendpointId, hclusterId⟩
  · rw [hp]
    exact afterReport_apply_of_not c hfor hderives
  · rw [StateCache.afterReport_values]
    by_contra hchanged
    obtain ⟨endpointId, hendpoint, hpath⟩ := ReportMessage.handle_frame c hchanged
    have hsame : p.endpointId = endpointId ∧ p.clusterId = msg.access.clusterId := by
      rcases hpath with ⟨attributeId, -, hpath⟩ | ⟨hregistered, hpath⟩
      · rw [hpath]
        exact ⟨rfl, rfl⟩
      · have hcluster := ClusterAttributeAccess.clusterId_windowCovering msg.access_mem hregistered.1
        rw [hpath]
        exact ⟨rfl, hcluster.symm⟩
    apply hderives
    refine ⟨?_, ?_, Or.inl hfeature⟩
    · rw [hendpoint, ← hendpointId, hsame.1]
    · rw [← hclusterId, hsame.2]

theorem ReportMessage.not_derives {path : AttrPath}
    (h : ClusterEmulator.isAttributeEmulated path = false) : ¬ msg.Derives s path := by
  intro hderives
  obtain ⟨-, hcluster, hattribute⟩ := hderives
  have hemulated : ClusterEmulator.isAttributeEmulated path = true := by
    unfold ClusterEmulator.isAttributeEmulated
    rcases hattribute with hfeature | ⟨hregistered, hstatus⟩
    · simp [hfeature]
    · have hid := ClusterAttributeAccess.clusterId_windowCovering msg.access_mem hregistered.1
      simp [hstatus, hcluster, hid, ClusterEmulator.emulatedAttributes]
  rw [h] at hemulated
  cases hemulated

theorem ReportMessage.isBridged (h : msg.endpoint s = some endpointId) :
    (NodeStateMonitor.bridgedEndpointOfMatter s endpointId).isNone = false := by
  unfold TopicMessage.endpoint matterEndpointOf at h
  rw [if_pos (by omega)] at h
  obtain ⟨e, he, hid⟩ := Option.map_eq_some_iff.mp h
  have hmem : e ∈ s.bridgedEndpoints := (Multimap.mem_equalRange.mp (List.mem_of_find?_eq_some he)).1
  rw [Option.isNone_eq_false_iff, NodeStateMonitor.bridgedEndpointOfMatter, List.find?_isSome]
  exact ⟨e, hmem, decide_eq_true hid⟩

/-- What is cached of an attribute that is not emulated is encoded as it is. -/
theorem read_of_entry {a : ClusterAttributeAccess} {path : AttrPath} (c : StateCache m)
    (hcluster : path.clusterId = a.clusterId)
    (hbridged : (NodeStateMonitor.bridgedEndpointOfMatter s path.endpointId).isNone = false)
    (hemulated : ClusterEmulator.isAttributeEmulated path = false)
    (hinfo : m.attributeInfo path.clusterId path.attributeId = some info)
    (hentry : c.values path = some v) :
    a.read s m emberAfFindServerCluster c.values path = .ok (.encode (.value v)) := by
  have htyped := (c.holds path info v hinfo hentry).typed
  have hget : c.values.get info.type.alternative path = .ok (some v) := by
    simp only [AttributeCache.get, hentry, htyped, if_true]
  simp only [ClusterAttributeAccess.read, hcluster, ne_eq, not_true_eq_false, if_false, hbridged,
    Bool.false_eq_true, hemulated]
  rw [← hcluster, hinfo]
  simp only [AttributeInfo.get, hget]
  rfl

/-- A cache that holds values of its attributes does so after any message. -/
theorem SubscribedMessage.holds_handle {m : GeneratedModel} (c : StateCache m.toDataModel)
    (msg : SubscribedMessage) (path : AttrPath) (info : AttributeInfo) (v : CacheValue)
    (hinfo : m.attributeInfo path.clusterId path.attributeId = some info)
    (hv : (msg.handle s m.toDataModel c.values).cache path = some v) : info.Holds v := by
  by_cases hchanged : (msg.handle s m.toDataModel c.values).cache path = c.values path
  · exact c.holds path info v hinfo (hchanged ▸ hv)
  · cases msg with
    | generated msg => exact msg.holds_handle c path info v hinfo hv
    | basicInformation msg =>
      obtain ⟨endpointId, -, ⟨target, htarget, rfl⟩ | ⟨hregistered, -⟩⟩ := handle_frame c hchanged
      · obtain ⟨attributeId, -, rfl⟩ := Option.map_eq_some_iff.mp htarget
        have hnone := (m.basic attributeId).symm.trans hinfo
        cases hnone
      · exact absurd hregistered msg.not_callbackRegistered

def StateCache.afterMessage {m : GeneratedModel} (s : MonitorState Table Content)
    (c : StateCache m.toDataModel) (msg : SubscribedMessage) : StateCache m.toDataModel where
  values := (msg.handle s m.toDataModel c.values).cache
  holds := msg.holds_handle c

namespace SubscribedMessage

section Definitions

variable (s : MonitorState Table Content) (m : DataModel) (emberAfFindServerCluster : ℕ → ℕ → Bool)

/-- The message is for the attribute of the path. -/
def IsFor (msg : SubscribedMessage) (path : AttrPath) : Prop :=
  ∃ endpointId target, msg.toTopicMessage.endpoint s = some endpointId ∧
    msg.target m = some target ∧ path = pathOf endpointId target

def Derives (path : AttrPath) : SubscribedMessage → Prop
  | .generated msg => msg.Derives s path
  | .basicInformation _ => False

def read (cache : AttributeCache) (path : AttrPath) :
    SubscribedMessage → Except CxxException ReadResult
  | .generated msg => msg.access.read s m emberAfFindServerCluster cache path
  | .basicInformation _ => BridgedDeviceBasicInfoAttributeAccess.read cache path

/-- The message reports a value for the attribute, `v` once it is limited: one of a generated attribute
that is not null, or a hardware version. -/
inductive Reports : SubscribedMessage → ℕ × ℕ → CacheValue → Prop where
  | generated {msg : ReportMessage} {attributeId : ℕ} {info : AttributeInfo} {v : CacheValue}
      (h : ReportsValue m msg attributeId info v) (hnull : NotNull msg attributeId info v) :
      Reports (.generated msg) (msg.access.clusterId, attributeId)
        (limitMax msg.access.clusterId attributeId v)
  | hardwareVersion {msg : BasicMessage} {jsn : Json} {n : ℤ} (hcluster : msg.cluster = "Basic")
      (hname : msg.attributeName = "HWVersion") (hparsed : msg.parsed = some (.ok jsn))
      (hvalue : jsn.subscript "value" = .ok (.integer n)) (hn : IntType.uint16.InRange n) :
      Reports (.basicInformation msg) (BridgedDeviceBasicInfoAttributeAccess.clusterId, 0x07)
        (.int .uint16 n)

end Definitions

variable {m : GeneratedModel} {msg : SubscribedMessage} {target : ℕ × ℕ}

theorem isFor_generated {msg : ReportMessage} {path : AttrPath} (h : msg.IsFor s m.toDataModel path) :
    (SubscribedMessage.generated msg).IsFor s m.toDataModel path := by
  obtain ⟨endpointId, attributeId, hendpoint, hid, hpath⟩ := h
  exact ⟨endpointId, (msg.access.clusterId, attributeId), hendpoint,
    Option.map_eq_some_iff.mpr ⟨attributeId, hid, rfl⟩, hpath⟩

theorem afterMessage_apply_of_not (c : StateCache m.toDataModel) {path : AttrPath}
    (hfor : ¬ msg.IsFor s m.toDataModel path) (hderives : ¬ msg.Derives s path) :
    (c.afterMessage s msg).values path = c.values path := by
  cases msg with
  | generated msg => exact afterReport_apply_of_not c (mt isFor_generated hfor) hderives
  | basicInformation msg =>
    by_contra hchanged
    obtain ⟨endpointId, hendpoint, ⟨target, htarget, hpath⟩ | ⟨hregistered, -⟩⟩ :=
      handle_frame c hchanged
    · exact hfor ⟨endpointId, target, hendpoint, htarget, hpath⟩
    · exact msg.not_callbackRegistered hregistered

theorem not_derives {path : AttrPath} (h : ClusterEmulator.isAttributeEmulated path = false) :
    ¬ msg.Derives s path := by
  cases msg with
  | generated msg => exact ReportMessage.not_derives h
  | basicInformation msg => exact id

theorem Reports.afterMessage_apply (h : msg.Reports m.toDataModel target v)
    (c : StateCache m.toDataModel) (hendpoint : msg.toTopicMessage.endpoint s = some endpointId) :
    (c.afterMessage s msg).values (pathOf endpointId target) = some v := by
  cases h with
  | generated hreports hnull => exact hreports.afterReport_apply c hendpoint hnull
  | @hardwareVersion msg jsn n hcluster hname hparsed hvalue hn =>
    have hversion : BridgedDeviceBasicInfoAttributeAccess.integerAttribute msg.cluster
        msg.attributeName = some ⟨BridgedDeviceBasicInfoAttributeAccess.clusterId, 0x07, false,
          .uint16, .uint16⟩ := by
      rw [hcluster, hname]
      exact BridgedDeviceBasicInfoAttributeAccess.integerAttribute_hardwareVersion
    have hstored := BasicMessage.handle_apply c.values hendpoint hparsed hvalue hversion
    have hcast : IntType.uint16.cast (IntType.uint16.cast n) = n := by
      rw [IntType.cast_of_inRange hn, IntType.cast_of_inRange hn]
    have hvalues : (c.afterMessage s (.basicInformation msg)).values = (msg.handle s c.values).cache :=
      rfl
    have hpath : pathOf endpointId (BridgedDeviceBasicInfoAttributeAccess.clusterId, 0x07) =
        (⟨BridgedDeviceBasicInfoAttributeAccess.clusterId, 0x07, false, .uint16, .uint16⟩ :
          IntegerAttribute).path endpointId := rfl
    rw [hvalues, hpath, hstored, hcast]

theorem Reports.read_of_entry (h : msg.Reports m.toDataModel target v) (c : StateCache m.toDataModel)
    {emberAfFindServerCluster : ℕ → ℕ → Bool}
    (hendpoint : msg.toTopicMessage.endpoint s = some endpointId)
    (hemulated : ClusterEmulator.isAttributeEmulated (pathOf endpointId target) = false)
    (hentry : c.values (pathOf endpointId target) = some v) :
    msg.read s m.toDataModel emberAfFindServerCluster c.values (pathOf endpointId target) =
      .ok (.encode (.value v)) := by
  cases h with
  | generated hreports hnull =>
    obtain ⟨-, hinfo, -⟩ := reportedCase_eq_some hreports.reportedCase
    exact UnifyMatterBridge.read_of_entry c rfl (ReportMessage.isBridged hendpoint) hemulated hinfo
      hentry
  | @hardwareVersion msg jsn n hcluster hname hparsed hvalue hn =>
    have halt : BridgedDeviceBasicInfoAttributeAccess.readAlternative 0x07 =
        some (CacheValue.int .uint16 n).alternative := rfl
    exact BridgedDeviceBasicInfoAttributeAccess.read_of_stored halt hentry

end SubscribedMessage

section Runs

variable {m : GeneratedModel}

theorem run_afterMessage_apply (c : StateCache m.toDataModel) {path : AttrPath}
    {msgs : List SubscribedMessage} (hemulated : ClusterEmulator.isAttributeEmulated path = false)
    (hfor : ∀ msg ∈ msgs, ¬ msg.IsFor s m.toDataModel path) :
    (EventSystem.run (StateCache.afterMessage s) c msgs).values path = c.values path := by
  induction msgs generalizing c with
  | nil => rfl
  | cons msg msgs ih =>
    rw [EventSystem.run_cons, ih _ fun msg hmsg => hfor msg (List.mem_cons_of_mem _ hmsg)]
    exact SubscribedMessage.afterMessage_apply_of_not c (hfor msg List.mem_cons_self)
      (SubscribedMessage.not_derives hemulated)

theorem clusterId_ne_basic {a : ClusterAttributeAccess} (ha : a ∈ ClusterAttributeAccess.all) :
    a.clusterId ≠ BridgedDeviceBasicInfoAttributeAccess.clusterId := by
  have hall : ∀ a ∈ ClusterAttributeAccess.all,
      a.clusterId ≠ BridgedDeviceBasicInfoAttributeAccess.clusterId := by
    decide
  exact hall a ha

/-- A message changes nothing of what the generated translators read of attributes that it is not for
and that do not depend on it. -/
theorem read_afterMessage_of_not (c : StateCache m.toDataModel) {msg : SubscribedMessage}
    {a : ClusterAttributeAccess} (ha : a ∈ ClusterAttributeAccess.all) {path : AttrPath}
    (hfor : ¬ msg.IsFor s m.toDataModel path) (hderives : ¬ msg.Derives s path) :
    a.read s m.toDataModel emberAfFindServerCluster (c.afterMessage s msg).values path =
      a.read s m.toDataModel emberAfFindServerCluster c.values path := by
  cases msg with
  | generated msg =>
    exact read_afterReport_of_not c a (mt SubscribedMessage.isFor_generated hfor) hderives
  | basicInformation msg =>
    by_cases hcluster : path.clusterId = a.clusterId
    · apply read_congr
      intro p hp
      have hsame : p.clusterId = path.clusterId := by
        rcases hp with rfl | ⟨-, -, hsame⟩
        · rfl
        · exact hsame
      apply SubscribedMessage.afterMessage_apply_of_not c _ id
      rintro ⟨endpointId, target, -, htarget, hpath⟩
      obtain ⟨attributeId, -, rfl⟩ := Option.map_eq_some_iff.mp htarget
      have hbasic : p.clusterId = BridgedDeviceBasicInfoAttributeAccess.clusterId :=
        congrArg AttrPath.clusterId hpath
      exact clusterId_ne_basic ha (hcluster.symm.trans (hsame.symm.trans hbasic))
    · simp only [ClusterAttributeAccess.read, ne_eq, hcluster, not_false_eq_true, if_true]

/-- After any messages, the last one for an attribute being the report of a value, that value is
read of the attribute; and a message changes nothing of what is read of attributes that it is not
for and that do not derive from it. -/
theorem read_last_report (s : MonitorState Table Content) (m : GeneratedModel)
    (emberAfFindServerCluster : ℕ → ℕ → Bool) (c : StateCache m.toDataModel) :
    (∀ (before after : List SubscribedMessage) (msg : SubscribedMessage) (endpointId : ℕ)
        (target : ℕ × ℕ) (v : CacheValue), msg.toTopicMessage.endpoint s = some endpointId →
      msg.Reports m.toDataModel target v →
      ClusterEmulator.isAttributeEmulated (pathOf endpointId target) = false →
      (∀ later ∈ after, ¬ later.IsFor s m.toDataModel (pathOf endpointId target)) →
      msg.read s m.toDataModel emberAfFindServerCluster
          (EventSystem.run (StateCache.afterMessage s) c (before ++ msg :: after)).values
          (pathOf endpointId target) =
        .ok (.encode (.value v))) ∧
    (∀ (msg : SubscribedMessage) (path : AttrPath), ¬ msg.IsFor s m.toDataModel path →
      ¬ msg.Derives s path →
      (∀ a ∈ ClusterAttributeAccess.all,
        a.read s m.toDataModel emberAfFindServerCluster (c.afterMessage s msg).values path =
          a.read s m.toDataModel emberAfFindServerCluster c.values path) ∧
      BridgedDeviceBasicInfoAttributeAccess.read (c.afterMessage s msg).values path =
        BridgedDeviceBasicInfoAttributeAccess.read c.values path) := by
  constructor
  · intro before after msg endpointId target v hendpoint hreports hemulated hafter
    rw [EventSystem.run_append, EventSystem.run_cons]
    apply hreports.read_of_entry _ hendpoint hemulated
    rw [run_afterMessage_apply _ hemulated hafter]
    exact hreports.afterMessage_apply _ hendpoint
  · intro msg path hfor hderives
    constructor
    · exact fun a ha => read_afterMessage_of_not c ha hfor hderives
    · apply BridgedDeviceBasicInfoAttributeAccess.read_congr
      exact SubscribedMessage.afterMessage_apply_of_not c hfor hderives

def homeGenerated : GeneratedModel where
  toDataModel := homeModel
  basic attributeId := by
    simp [homeModel, homeRows, BridgedDeviceBasicInfoAttributeAccess.clusterId]

/-- A lift percentage of 50, after one of 20 and before a cooling setpoint. -/
theorem read_last_report_percentage :
    (SubscribedMessage.generated (percentageMessage 50)).read NodeStateMonitor.oneNode homeModel
        (fun _ _ => true)
        (EventSystem.run (StateCache.afterMessage NodeStateMonitor.oneNode)
          (StateCache.empty homeGenerated.toDataModel)
          ([.generated (percentageMessage 20)] ++
            .generated (percentageMessage 50) :: [.generated coolingMessage])).values
        (pathOf 2 (0x0102, 0x08)) =
      .ok (.encode (.value (.int .uint8 50))) ∧
    BridgedDeviceBasicInfoAttributeAccess.read
        ((StateCache.empty homeGenerated.toDataModel).afterMessage NodeStateMonitor.oneNode
          (.generated coolingMessage)).values ⟨2, 0x0039, 0x07⟩ =
      BridgedDeviceBasicInfoAttributeAccess.read
        (StateCache.empty homeGenerated.toDataModel).values ⟨2, 0x0039, 0x07⟩ := by
  have hfor : ∀ path : AttrPath, path.clusterId ≠ 0x0201 →
      ¬ (SubscribedMessage.generated coolingMessage).IsFor NodeStateMonitor.oneNode homeModel path := by
    rintro path hne ⟨endpointId, target, -, htarget, hpath⟩
    unfold SubscribedMessage.target at htarget
    obtain ⟨attributeId, -, rfl⟩ := Option.map_eq_some_iff.mp htarget
    exact hne (congrArg AttrPath.clusterId hpath)
  have hreports : ReportsValue homeModel (percentageMessage 50) 0x08 percentageInfo
      (.int .uint8 50) := by
    constructor
    · exact ⟨_, _, rfl, rfl, .int (by decide)⟩
    · rfl
  have hnull : NotNull (percentageMessage 50) 0x08 percentageInfo (.int .uint8 50) :=
    fun hnull => absurd hnull.2 (by decide)
  constructor
  · apply (read_last_report NodeStateMonitor.oneNode homeGenerated (fun _ _ => true)
      (StateCache.empty homeModel)).1 [.generated (percentageMessage 20)] [.generated coolingMessage]
      (.generated (percentageMessage 50)) 2 (0x0102, 0x08) (.int .uint8 50)
      (endpoint_percentageMessage 50) (.generated hreports hnull)
    · decide
    · intro later hlater
      rw [List.mem_singleton.mp hlater]
      exact hfor _ (by decide)
  · apply ((read_last_report NodeStateMonitor.oneNode homeGenerated (fun _ _ => true)
      (StateCache.empty homeModel)).2 (.generated coolingMessage) _ (hfor _ (by decide)) _).2
    intro hderives
    cases hderives.2.1

end Runs

/-- A window covering that moves. -/
def moving : StateCache homeModel :=
  (StateCache.empty homeModel).set (EmulateWindowCovering.operationalStatus 2) (.int .uint8 0x05) (by
    intro info hinfo
    rw [← Option.some.inj hinfo]
    constructor
    · rfl
    · exact (by decide : IntType.uint8.InRange 0x05)
    · intro hnull
      cases hnull)

/-- The greatest limit is read as the one below it, a covering that arrives changes its status, and
a cooling setpoint the feature map. -/
theorem reports_read_otherwise :
    ClusterAttributeAccess.read NodeStateMonitor.oneNode homeModel (fun _ _ => true)
        ⟨0x0102, "WindowCovering"⟩
        ((StateCache.empty homeModel).afterReport NodeStateMonitor.oneNode openLimitMessage).values
        ⟨2, 0x0102, 0x10⟩ =
      .ok (.number .uint16 65534) ∧
    ClusterAttributeAccess.read NodeStateMonitor.oneNode homeModel (fun _ _ => true)
        ⟨0x0102, "WindowCovering"⟩
        (moving.afterReport NodeStateMonitor.oneNode (percentageMessage 100)).values
        ⟨2, 0x0102, 0x0A⟩ ≠
      ClusterAttributeAccess.read NodeStateMonitor.oneNode homeModel (fun _ _ => true)
        ⟨0x0102, "WindowCovering"⟩ moving.values ⟨2, 0x0102, 0x0A⟩ ∧
    ClusterAttributeAccess.read NodeStateMonitor.oneNode homeModel (fun _ _ => true)
        ⟨0x0201, "Thermostat"⟩
        ((StateCache.empty homeModel).afterReport NodeStateMonitor.oneNode coolingMessage).values
        ⟨2, 0x0201, 0xFFFC⟩ ≠
      ClusterAttributeAccess.read NodeStateMonitor.oneNode homeModel (fun _ _ => true)
        ⟨0x0201, "Thermostat"⟩ (StateCache.empty homeModel).values ⟨2, 0x0201, 0xFFFC⟩ := by
  simp only [StateCache.afterReport_values]
  refine ⟨?_, ?_, ?_⟩
  all_goals decide

end LastReport

end UnifyMatterBridge
