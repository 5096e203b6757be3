import UnifyMatterBridge.Attribute.BasicInformation

/-! What a message on a subscribed topic does: it is applied as a whole or not at all, up to a few
slips. -/
namespace UnifyMatterBridge

open AttributeTranslatorInterface

/-- A message on a topic that a generated translator subscribes to. -/
structure ReportMessage extends TopicMessage where
  access : ClusterAttributeAccess
  access_mem : access ∈ ClusterAttributeAccess.all

namespace ReportMessage

variable {Table Content : Type} (s : MonitorState Table Content) (m : DataModel)
  (msg : ReportMessage)

def topic : String := reportedTopic msg.unid msg.ep msg.access.clusterName msg.attributeName

def path (endpointId attributeId : ℕ) : AttrPath := msg.access.attrPath endpointId attributeId

def report : Option AttributeReport :=
  msg.parsed.bind (msg.access.report m msg.attributeName)

def handle (cache : AttributeCache) : ReportResult :=
  onMqttMessageCb s (msg.access.reportedUpdated m) cache msg.topic msg.message

variable {s m msg}

theorem handle_eq (cache : AttributeCache) :
    msg.handle s m cache = match msg.endpoint s, msg.parsed with
      | some endpointId, some parsed => handleReport (msg.access.reportedUpdated m) cache endpointId
          msg.access.clusterName msg.attributeName parsed
      | _, _ => ⟨cache, [], none⟩ := by
  obtain ⟨-, hcluster, -, hne⟩ := ClusterAttributeAccess.names_of_mem_all msg.access_mem
  exact onMqttMessageCb_eq s _ cache msg.toTopicMessage hcluster hne

theorem parsed_eq_some {parsed : Except ParseFailure Json} (h : msg.parsed = some parsed) :
    msg.report m = msg.access.report m msg.attributeName parsed := by
  simp only [report, h, Option.bind_some]

/-- A message without a report changes nothing; one that is not convertible throws. -/
theorem handle_of_no_report {endpointId : ℕ} (c : StateCache m)
    (hendpoint : msg.endpoint s = some endpointId) (h : msg.report m = none) :
    ∃ e, msg.handle s m c.values = ⟨c.values, [], e⟩ ∧
      (e = none ↔ ∀ parsed, msg.parsed = some parsed →
        Convertible (msg.access.integerAttribute m msg.attributeName) parsed) := by
  rw [handle_eq, hendpoint]
  cases hparsed : msg.parsed with
  | none => exact ⟨none, rfl, iff_of_true rfl nofun⟩
  | some parsed =>
    rw [parsed_eq_some hparsed] at h
    obtain ⟨e, hhandle, he⟩ := @handleReport_of_no_report m msg.access endpointId msg.attributeName c
      msg.access_mem parsed h
    refine ⟨e, hhandle, he.trans ?_⟩
    simp only [Option.some.injEq, forall_eq']

theorem handle_of_report {endpointId : ℕ} {r : AttributeReport} (c : StateCache m)
    (hendpoint : msg.endpoint s = some endpointId) (h : msg.report m = some r) :
    ∃ jsn value c', msg.parsed = some (.ok jsn) ∧ jsn.subscript "value" = .ok value ∧
      (c' = c ∨ CallbackRegistered msg.access.clusterName msg.attributeName ∧
        c' = c.stopped endpointId) ∧
      applyRegisteredCallback (msg.access.clusterName ++ "::" ++ msg.attributeName) value endpointId
        c.values = .ok c'.values ∧
      msg.handle s m c.values = ⟨r.info.set c'.values (msg.path endpointId r.attributeId) r.stored,
        [msg.path endpointId r.attributeId], none⟩ := by
  obtain ⟨parsed, hparsed, hreport⟩ := Option.bind_eq_some_iff.mp h
  obtain ⟨jsn, value, c', hjsn, hvalue, hc', happly, hhandle⟩ :=
    @handleReport_of_report m msg.access endpointId msg.attributeName c msg.access_mem parsed r hreport
  refine ⟨jsn, value, c', hjsn ▸ hparsed, hvalue, hc', happly, ?_⟩
  rw [handle_eq, hendpoint, hparsed]
  exact hhandle

end ReportMessage

structure BasicMessage extends TopicMessage where
  cluster : String
  cluster_mem : cluster ∈ ["Basic", "NameAndLocation"]

namespace BasicMessage

open BridgedDeviceBasicInfoAttributeAccess

variable {Table Content : Type} (s : MonitorState Table Content) (msg : BasicMessage)

def topic : String := reportedTopic msg.unid msg.ep msg.cluster msg.attributeName

def report : Option (ℕ × CacheValue) :=
  msg.parsed.bind (BridgedDeviceBasicInfoAttributeAccess.report msg.cluster msg.attributeName)

def handle (cache : AttributeCache) : ReportResult :=
  onMqttMessageCb s reportedUpdated cache msg.topic msg.message

variable {s msg}

theorem handle_eq (cache : AttributeCache) :
    msg.handle s cache = match msg.endpoint s, msg.parsed with
      | some endpointId, some parsed =>
        handleReport reportedUpdated cache endpointId msg.cluster msg.attributeName parsed
      | _, _ => ⟨cache, [], none⟩ := by
  have hnames : ∀ cluster ∈ ["Basic", "NameAndLocation"], '/' ∉ cluster.toList ∧ cluster ≠ "" := by
    decide
  obtain ⟨hcluster, hne⟩ := hnames msg.cluster msg.cluster_mem
  exact onMqttMessageCb_eq s _ cache msg.toTopicMessage hcluster hne

theorem handle_of_no_report {endpointId : ℕ} (c : AttributeCache)
    (hendpoint : msg.endpoint s = some endpointId) (h : msg.report = none) :
    ∃ e, msg.handle s c = ⟨c, [], e⟩ ∧ (e = none ↔ ∀ parsed, msg.parsed = some parsed →
      Convertible (integerAttribute msg.cluster msg.attributeName) parsed) := by
  rw [handle_eq, hendpoint]
  cases hparsed : msg.parsed with
  | none => exact ⟨none, rfl, iff_of_true rfl nofun⟩
  | some parsed =>
    rw [report, hparsed] at h
    obtain ⟨e, hhandle, he⟩ := @BridgedDeviceBasicInfoAttributeAccess.handleReport_of_no_report c endpointId
      msg.cluster msg.attributeName msg.cluster_mem parsed h
    refine ⟨e, hhandle, he.trans ?_⟩
    simp only [Option.some.injEq, forall_eq']

theorem handle_of_report {endpointId attributeId : ℕ} {v : CacheValue} (c : AttributeCache)
    (hendpoint : msg.endpoint s = some endpointId) (h : msg.report = some (attributeId, v)) :
    ∃ jsn value, msg.parsed = some (.ok jsn) ∧ jsn.subscript "value" = .ok value ∧
      reportedAttribute msg.cluster msg.attributeName = some attributeId ∧
      applyRegisteredCallback (msg.cluster ++ "::" ++ msg.attributeName) value endpointId c = .ok c ∧
      msg.handle s c =
        ⟨c.set (attrPath endpointId attributeId) v, [attrPath endpointId attributeId], none⟩ := by
  obtain ⟨parsed, hparsed, hreport⟩ := Option.bind_eq_some_iff.mp h
  obtain ⟨-, -, -, -, hid, -⟩ :=
    BridgedDeviceBasicInfoAttributeAccess.report_eq_some_iff.mp hreport
  obtain ⟨jsn, value, hjsn, hvalue, hcallback, hhandle⟩ :=
    @BridgedDeviceBasicInfoAttributeAccess.handleReport_of_report c endpointId msg.cluster
      msg.attributeName attributeId msg.cluster_mem parsed v hreport
  refine ⟨jsn, value, hjsn ▸ hparsed, hvalue, hid, hcallback, ?_⟩
  rw [handle_eq, hendpoint, hparsed]
  exact hhandle

theorem not_callbackRegistered (msg : BasicMessage) :
    ¬ CallbackRegistered msg.cluster msg.attributeName := by
  rintro ⟨hcluster, -⟩
  have hmem := msg.cluster_mem
  rw [hcluster] at hmem
  exact absurd hmem (by decide)

end BasicMessage

/-- A message on a topic that a translator subscribes to. -/
inductive SubscribedMessage where
  | generated (msg : ReportMessage)
  | basicInformation (msg : BasicMessage)

namespace SubscribedMessage

variable {Table Content : Type} (s : MonitorState Table Content) (m : DataModel)

def toTopicMessage : SubscribedMessage → TopicMessage
  | .generated msg => msg.toTopicMessage
  | .basicInformation msg => msg.toTopicMessage

def cluster : SubscribedMessage → String
  | .generated msg => msg.access.clusterName
  | .basicInformation msg => msg.cluster

def handle (cache : AttributeCache) : SubscribedMessage → ReportResult
  | .generated msg => msg.handle s m cache
  | .basicInformation msg => msg.handle s cache

/-- The ids of the cluster and the attribute that the topic is for. -/
def target : SubscribedMessage → Option (ℕ × ℕ)
  | .generated msg =>
    (m.getAttributeId msg.access.clusterName msg.attributeName).map (msg.access.clusterId, ·)
  | .basicInformation msg =>
    (BridgedDeviceBasicInfoAttributeAccess.reportedAttribute msg.cluster msg.attributeName).map
      (BridgedDeviceBasicInfoAttributeAccess.clusterId, ·)

def integerAttribute : SubscribedMessage → Option IntegerAttribute
  | .generated msg => msg.access.integerAttribute m msg.attributeName
  | .basicInformation msg =>
    BridgedDeviceBasicInfoAttributeAccess.integerAttribute msg.cluster msg.attributeName

/-- The value that a message reports, as it is stored. -/
def stored : SubscribedMessage → Option CacheValue
  | .generated msg => (msg.report m).map (·.stored)
  | .basicInformation msg => msg.report.map (·.2)

/-- The value that is reported stands for the null of its attribute. -/
def ReportsNull : SubscribedMessage → Prop
  | .generated msg => ∃ r, msg.report m = some r ∧ r.info.IsNull r.stored
  | .basicInformation _ => False

end SubscribedMessage

/-- The path of an attribute at an endpoint. -/
def pathOf (endpointId : ℕ) (target : ℕ × ℕ) : AttrPath := ⟨endpointId, target.1, target.2⟩

def numberMessage (access : ClusterAttributeAccess) (attributeName : String) (n : ℤ)
    (haccess : access ∈ ClusterAttributeAccess.all) (hname : '/' ∉ attributeName.toList) :
    ReportMessage where
  unid := "A"
  ep := 1
  access := access
  attributeName := attributeName
  message := .text (.ok (.object [("value", .integer n)]))
  unid_level := by decide
  ep_le := by decide
  access_mem := haccess
  attributeName_level := hname

theorem endpoint_numberMessage (access : ClusterAttributeAccess) (attributeName : String) (n : ℤ)
    (haccess : access ∈ ClusterAttributeAccess.all) (hname : '/' ∉ attributeName.toList) :
    (numberMessage access attributeName n haccess hname).endpoint NodeStateMonitor.oneNode =
      some 2 := by
  have hendpoint : matterEndpointOf NodeStateMonitor.oneNode "A" 1 = some 2 := by decide
  exact hendpoint

def percentageMessage (n : ℤ) : ReportMessage :=
  numberMessage ⟨0x0102, "WindowCovering"⟩ "CurrentPositionLiftPercentage" n (by decide) (by decide)

theorem endpoint_percentageMessage (n : ℤ) :
    (percentageMessage n).endpoint NodeStateMonitor.oneNode = some 2 :=
  endpoint_numberMessage _ _ _ _ _

def percentageInfo : AttributeInfo := ⟨.int .uint8, true, true⟩

section Messages

variable {Table Content : Type} {s : MonitorState Table Content} {m : DataModel}
  {msg : ReportMessage}

theorem ReportMessage.reportedCase {r : AttributeReport} (h : msg.report m = some r) :
    m.getAttributeId msg.access.clusterName msg.attributeName = some r.attributeId ∧
      m.attributeInfo msg.access.clusterId r.attributeId = some r.info ∧
      r.info.reportable = true := by
  obtain ⟨parsed, -, hreport⟩ := Option.bind_eq_some_iff.mp h
  obtain ⟨jsn, value, v, -, -, hcase, -⟩ := report_eq_some_iff.mp hreport
  exact reportedCase_eq_some hcase

theorem ReportMessage.holds_stored {r : AttributeReport} (h : msg.report m = some r)
    (hnull : ¬ r.info.IsNull r.stored) : r.info.Holds r.stored := by
  obtain ⟨parsed, -, hreport⟩ := Option.bind_eq_some_iff.mp h
  obtain ⟨jsn, value, v, -, -, -, hv, hstored⟩ := report_eq_some_iff.mp hreport
  obtain ⟨htyped, hrange⟩ := fromJson_typed hv
  constructor
  · rw [hstored, limitMax_alternative, htyped]
  · rw [hstored]
    exact limitMax_inRange hrange
  · intro hnullable
    by_contra hvalue
    exact hnull ⟨hnullable, Bool.eq_true_of_not_eq_false hvalue⟩

/-- The status that a callback sets has no case of its own. -/
theorem ReportMessage.path_ne_operationalStatus {r : AttributeReport} (h : msg.report m = some r)
    (endpointId : ℕ) : msg.path endpointId r.attributeId ≠
      EmulateWindowCovering.operationalStatus endpointId := by
  intro hpath
  obtain ⟨-, hinfo, hreportable⟩ := reportedCase h
  have hcluster : msg.access.clusterId = 0x0102 := congrArg AttrPath.clusterId hpath
  have hid : r.attributeId = 0x0A := congrArg AttrPath.attributeId hpath
  obtain ⟨b, hb⟩ := m.operationalStatus
  rw [hcluster, hid, hb] at hinfo
  rw [← Option.some.inj hinfo] at hreportable
  cases hreportable

/-- A cache that holds values of its attributes does so after any message. -/
theorem ReportMessage.holds_handle (c : StateCache m) (path : AttrPath) (info : AttributeInfo)
    (v : CacheValue) (hinfo : m.attributeInfo path.clusterId path.attributeId = some info)
    (hv : (msg.handle s m c.values).cache path = some v) : info.Holds v := by
  cases hendpoint : msg.endpoint s with
  | none =>
    rw [handle_eq, hendpoint] at hv
    exact c.holds path info v hinfo hv
  | some endpointId =>
    cases hreport : msg.report m with
    | none =>
      obtain ⟨e, hhandle, -⟩ := handle_of_no_report c hendpoint hreport
      rw [hhandle] at hv
      exact c.holds path info v hinfo hv
    | some r =>
      obtain ⟨-, hinfo', -⟩ := reportedCase hreport
      obtain ⟨jsn, value, c', -, -, -, -, hhandle⟩ := handle_of_report c hendpoint hreport
      rw [hhandle] at hv
      dsimp only at hv
      by_cases hnull : r.info.IsNull r.stored
      · rw [AttributeInfo.set_of_isNull hnull] at hv
        exact c'.holds path info v hinfo hv
      · rw [AttributeInfo.set_of_not_isNull hnull, AttributeCache.set_apply] at hv
        split_ifs at hv with hpath
        · cases hv
          rw [hpath] at hinfo
          rw [← Option.some.inj (hinfo'.symm.trans hinfo)]
          exact holds_stored hreport hnull
        · exact c'.holds path info v hinfo hv

def StateCache.afterReport (s : MonitorState Table Content) (c : StateCache m)
    (msg : ReportMessage) : StateCache m where
  values := (msg.handle s m c.values).cache
  holds := msg.holds_handle c

theorem StateCache.afterReport_values (c : StateCache m) :
    (c.afterReport s msg).values = (msg.handle s m c.values).cache := by
  simp only [afterReport]

namespace SubscribedMessage

variable {msg : SubscribedMessage} {endpointId : ℕ} {v : CacheValue}

/-- A message without a value to store changes nothing; one that is not convertible throws. -/
theorem handle_of_not_stored (c : StateCache m)
    (hendpoint : msg.toTopicMessage.endpoint s = some endpointId) (h : msg.stored m = none) :
    ∃ e, msg.handle s m c.values = ⟨c.values, [], e⟩ ∧
      (e = none ↔ ∀ parsed, msg.toTopicMessage.parsed = some parsed →
        Convertible (msg.integerAttribute m) parsed) := by
  cases msg with
  | generated msg =>
    exact ReportMessage.handle_of_no_report c hendpoint (Option.map_eq_none_iff.mp h)
  | basicInformation msg =>
    exact BasicMessage.handle_of_no_report c.values hendpoint (Option.map_eq_none_iff.mp h)

/-- A value that is reported is stored after the callback has been applied, unless it is null. -/
theorem handle_of_stored (c : StateCache m)
    (hendpoint : msg.toTopicMessage.endpoint s = some endpointId) (h : msg.stored m = some v) :
    ∃ target jsn value c', msg.target m = some target ∧
      msg.toTopicMessage.parsed = some (.ok jsn) ∧ jsn.subscript "value" = .ok value ∧
      (c' = c ∨ CallbackRegistered msg.cluster msg.toTopicMessage.attributeName ∧
        c' = c.stopped endpointId) ∧
      applyRegisteredCallback (msg.cluster ++ "::" ++ msg.toTopicMessage.attributeName) value
        endpointId c.values = .ok c'.values ∧
      (¬ msg.ReportsNull m ∧ msg.handle s m c.values =
          ⟨c'.values.set (pathOf endpointId target) v, [pathOf endpointId target], none⟩ ∨
        msg.ReportsNull m ∧ c'.values (pathOf endpointId target) ≠ some v ∧
          msg.handle s m c.values = ⟨c'.values, [pathOf endpointId target], none⟩) := by
  cases msg with
  | generated msg =>
    obtain ⟨r, hr, rfl⟩ := Option.map_eq_some_iff.mp h
    obtain ⟨hid, hinfo, -⟩ := ReportMessage.reportedCase hr
    obtain ⟨jsn, value, c', hparsed, hvalue, hc', happly, hhandle⟩ :=
      ReportMessage.handle_of_report c hendpoint hr
    refine ⟨(msg.access.clusterId, r.attributeId), jsn, value, c', ?_, hparsed, hvalue, hc', happly, ?_⟩
    · simp only [target, hid, Option.map_some]
    · by_cases hnull : r.info.IsNull r.stored
      · refine Or.inr ⟨⟨r, hr, hnull⟩, fun hentry => ?_, ?_⟩
        · exact (c'.holds _ _ _ hinfo hentry).not_isNull hnull
        · rw [AttributeInfo.set_of_isNull hnull] at hhandle
          exact hhandle
      · refine Or.inl ⟨?_, ?_⟩
        · rintro ⟨r', hr', hnull'⟩
          cases hr.symm.trans hr'
          exact hnull hnull'
        · rw [AttributeInfo.set_of_not_isNull hnull] at hhandle
          exact hhandle
  | basicInformation msg =>
    obtain ⟨⟨attributeId, v⟩, hr, rfl⟩ := Option.map_eq_some_iff.mp h
    obtain ⟨jsn, value, hparsed, hvalue, hid, hcallback, hhandle⟩ :=
      BasicMessage.handle_of_report c.values hendpoint hr
    refine ⟨(BridgedDeviceBasicInfoAttributeAccess.clusterId, attributeId), jsn, value, c, ?_, hparsed,
      hvalue, Or.inl rfl, hcallback, Or.inl ⟨id, hhandle⟩⟩
    simp only [target, hid, Option.map_some]

theorem handle_of_no_endpoint (c : AttributeCache) (h : msg.toTopicMessage.endpoint s = none) :
    msg.handle s m c = ⟨c, [], none⟩ := by
  cases msg with
  | generated msg =>
    have hnone : msg.endpoint s = none := h
    rw [handle, ReportMessage.handle_eq, hnone]
  | basicInformation msg =>
    have hnone : msg.endpoint s = none := h
    rw [handle, BasicMessage.handle_eq, hnone]

/-- The paths that a message may change: the one it is for, and the status that a callback sets. -/
theorem handle_frame (c : StateCache m) {p : AttrPath}
    (hp : (msg.handle s m c.values).cache p ≠ c.values p) :
    ∃ endpointId, msg.toTopicMessage.endpoint s = some endpointId ∧
      ((∃ target, msg.target m = some target ∧ p = pathOf endpointId target) ∨
        CallbackRegistered msg.cluster msg.toTopicMessage.attributeName ∧
          p = EmulateWindowCovering.operationalStatus endpointId) := by
  cases hendpoint : msg.toTopicMessage.endpoint s with
  | none =>
    rw [handle_of_no_endpoint c.values hendpoint] at hp
    exact absurd rfl hp
  | some endpointId =>
    refine ⟨endpointId, rfl, ?_⟩
    cases hstored : msg.stored m with
    | none =>
      obtain ⟨e, hhandle, -⟩ := handle_of_not_stored c hendpoint hstored
      rw [hhandle] at hp
      exact absurd rfl hp
    | some v =>
      obtain ⟨target, jsn, value, c', htarget, -, -, hc', -, hhandle⟩ :=
        handle_of_stored c hendpoint hstored
      by_cases hpath : p = pathOf endpointId target
      · exact Or.inl ⟨target, htarget, hpath⟩
      · have hkept : (msg.handle s m c.values).cache p = c'.values p := by
          rcases hhandle with ⟨-, hhandle⟩ | ⟨-, -, hhandle⟩
          · rw [hhandle]
            exact (AttributeCache.set_apply _ _ _ _).trans (if_neg hpath)
          · rw [hhandle]
        rw [hkept] at hp
        rcases hc' with rfl | ⟨hregistered, rfl⟩
        · exact absurd rfl hp
        · refine Or.inr ⟨hregistered, ?_⟩
          by_contra hne
          rw [StateCache.stopped, StateCache.set_values, AttributeCache.set_apply, if_neg hne] at hp
          exact hp rfl

end SubscribedMessage

theorem ReportMessage.handle_frame (c : StateCache m) {p : AttrPath}
    (hp : (msg.handle s m c.values).cache p ≠ c.values p) :
    ∃ endpointId, msg.endpoint s = some endpointId ∧
      ((∃ attributeId, m.getAttributeId msg.access.clusterName msg.attributeName = some attributeId ∧
          p = msg.path endpointId attributeId) ∨
        CallbackRegistered msg.access.clusterName msg.attributeName ∧
          p = EmulateWindowCovering.operationalStatus endpointId) := by
  obtain ⟨endpointId, hendpoint, hchanged⟩ :=
    @SubscribedMessage.handle_frame _ _ s m (.generated msg) c p hp
  refine ⟨endpointId, hendpoint, hchanged.imp_left ?_⟩
  rintro ⟨target, htarget, hpath⟩
  obtain ⟨attributeId, hid, rfl⟩ := Option.map_eq_some_iff.mp htarget
  exact ⟨attributeId, hid, hpath⟩

end Messages

end UnifyMatterBridge
