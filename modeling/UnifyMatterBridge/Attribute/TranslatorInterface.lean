import UnifyMatterBridge.Attribute.DataModel
import UnifyMatterBridge.Command.Response

/-! What the attribute translators share (`attribute_translator_interface`): `on_mqtt_message_cb`, and
the callbacks that the window covering emulator registers with them. -/
namespace UnifyMatterBridge

namespace EmulateWindowCovering

/-- The callback of `CurrentPositionLiftPercentage`: a covering at one of its ends has stopped. -/
def onLiftPercentage (value : Json) (endpointId : ℕ) (cache : AttributeCache) :
    Except CxxException AttributeCache := do
  let percentage ← value.getInt .int
  return if percentage = 0x00 ∨ percentage = 0x64 then
    cache.set (operationalStatus endpointId) (.int .uint8 0x00) else cache

def onLift (value : Json) (endpointId : ℕ) (cache : AttributeCache) :
    Except CxxException AttributeCache := do
  let openLimit ← cache.getInt .uint16 (installedOpenLimitLift endpointId)
  let closedLimit ← cache.getInt .uint16 (installedClosedLimitLift endpointId)
  let lift ← value.getInt .uint16
  return if closedLimit.isSome ∧ openLimit.isSome ∧ (openLimit = some lift ∨ closedLimit = some lift)
    then cache.set (operationalStatus endpointId) (.int .uint8 0x00) else cache

end EmulateWindowCovering

/-- `AttributeCallbackRegistry`, with the callback of the key applied if there is one. -/
def applyRegisteredCallback (key : String) (value : Json) (endpointId : ℕ)
    (cache : AttributeCache) : Except CxxException AttributeCache :=
  if key = "WindowCovering::CurrentPositionLiftPercentage" then
    EmulateWindowCovering.onLiftPercentage value endpointId cache
  else if key = "WindowCovering::CurrentPositionLift" then
    EmulateWindowCovering.onLift value endpointId cache
  else .ok cache

/-- The cache after a message, the paths that the change callback was called for, and the exception
that leaves the callback. -/
structure ReportResult where
  cache : AttributeCache
  notified : List AttrPath
  exception : Option CxxException

/-- What `on_mqtt_message_cb` of the attribute translators catches. -/
def CxxException.caughtByReport : CxxException → Bool
  | .jsonParseError | .jsonTypeError => true
  | _ => false

def ReportResult.failed (cache : AttributeCache) (e : CxxException) : ReportResult :=
  ⟨cache, [], if e.caughtByReport then none else some e⟩

def reportedPattern : List Topic.Piece :=
  [.lit "ucl/by-unid/".toList, .level, .lit "/ep".toList, .level, .lit "/".toList, .level,
    .lit "/Attributes/".toList, .level, .lit "/Reported".toList]

namespace AttributeTranslatorInterface

/-- A `reported_updated`; with the paths that the change callback is called for. -/
abbrev ReportedUpdated := AttributeCache → (endpointId : ℕ) → (cluster attributeName : String) →
  Json → Except CxxException (AttributeCache × List AttrPath)

/-- The `try` block of `on_mqtt_message_cb`. -/
def handleReport (reportedUpdated : ReportedUpdated) (cache : AttributeCache) (endpointId : ℕ)
    (cluster attributeName : String) (parsed : Except ParseFailure Json) : ReportResult :=
  match parsed with
  | .error e => .failed cache e.exception
  | .ok jsn =>
    match jsn.subscript "value" with
    | .error e => .failed cache e
    | .ok value =>
      match applyRegisteredCallback (cluster ++ "::" ++ attributeName) value endpointId cache with
      | .error e => .failed cache e
      | .ok cache =>
        match reportedUpdated cache endpointId cluster attributeName value with
        | .error e => .failed cache e
        | .ok (cache, notified) => ⟨cache, notified, none⟩

def onMqttMessageCb {Table Content : Type} (s : MonitorState Table Content)
    (reportedUpdated : ReportedUpdated) (cache : AttributeCache) (topic : String)
    (message : Message) : ReportResult :=
  match Topic.search reportedPattern topic.toList with
  | some [unid, endpointId, cluster, attributeName] =>
    match stoi (String.ofList endpointId) with
    | .error e => ⟨cache, [], some e⟩
    | .ok epid =>
      match matterEndpointOf s (String.ofList unid) epid with
      | none => ⟨cache, [], none⟩
      | some matterEndpoint =>
        match message with
        | .empty => ⟨cache, [], none⟩
        | .text parsed =>
          if attributeName = [] ∨ cluster = [] then ⟨cache, [], none⟩
          else handleReport reportedUpdated cache matterEndpoint (String.ofList cluster)
            (String.ofList attributeName) parsed
  | _ => ⟨cache, [], none⟩

end AttributeTranslatorInterface

/-- A topic that the subscription of a bridged endpoint matches. -/
def reportedTopic (unid : String) (ep : ℕ) (cluster attributeName : String) : String :=
  unidTopic unid ep ++ "/" ++ cluster ++ "/Attributes/" ++ attributeName ++ "/Reported"

/-- An attribute of an integer type, with the type that its values are converted to and the type that
they are stored with. -/
structure IntegerAttribute where
  clusterId : ℕ
  attributeId : ℕ
  nullable : Bool
  type : IntType
  stored : IntType
  deriving DecidableEq

/-- The value is a floating-point number out of the range of the type: its conversion is undefined. -/
def Json.Undefined (info : Option IntegerAttribute) (value : Json) : Prop :=
  ∃ q r, value = .float q ∧ info = some r ∧ ¬ r.type.InRange (truncated q)

/-- No number is too large for the parser, nor is the conversion of the value undefined. -/
def Convertible (info : Option IntegerAttribute) (parsed : Except ParseFailure Json) : Prop :=
  parsed ≠ .error .outOfRange ∧ ∀ jsn value, parsed = .ok jsn →
    jsn.subscript "value" = .ok value → ¬ value.Undefined info

structure TopicMessage where
  unid : String
  ep : ℕ
  attributeName : String
  message : Message
  unid_level : '/' ∉ unid.toList
  ep_le : ep ≤ 65535
  attributeName_level : '/' ∉ attributeName.toList

namespace TopicMessage

variable {Table Content : Type} (s : MonitorState Table Content) (msg : TopicMessage)

/-- The Matter endpoint that the topic is for. -/
def endpoint : Option ℕ := matterEndpointOf s msg.unid msg.ep

/-- What is parsed; an empty message is not, nor one for an attribute without a name. -/
def parsed : Option (Except ParseFailure Json) :=
  match msg.message with
  | .empty => none
  | .text parsed => if msg.attributeName = "" then none else some parsed

end TopicMessage

section Topics

theorem TopicMessage.search_topic (msg : TopicMessage) {cluster : String}
    (hcluster : '/' ∉ cluster.toList) :
    Topic.search reportedPattern
        (reportedTopic msg.unid msg.ep cluster msg.attributeName).toList =
      some [msg.unid.toList, (toString msg.ep).toList, cluster.toList, msg.attributeName.toList] := by
  have hep : '/' ∉ (toString msg.ep).toList := by
    intro hmem
    exact absurd (DecimalKey.isDigit_of_mem_toString hmem) (by decide)
  have hrender : (reportedTopic msg.unid msg.ep cluster msg.attributeName).toList =
      Topic.render reportedPattern
        [msg.unid.toList, (toString msg.ep).toList, cluster.toList, msg.attributeName.toList] := by
    simp [reportedTopic, unidTopic, reportedPattern, Topic.render]
  rw [hrender]
  apply Topic.search_render
  exact ⟨msg.unid_level, trivial, hep, trivial, hcluster, trivial, msg.attributeName_level, trivial,
    rfl⟩

/-- A message for a bridged endpoint reaches the handler. -/
theorem AttributeTranslatorInterface.onMqttMessageCb_eq {Table Content : Type}
    (s : MonitorState Table Content) (reportedUpdated : ReportedUpdated) (cache : AttributeCache)
    (msg : TopicMessage) {cluster : String} (hcluster : '/' ∉ cluster.toList) (hne : cluster ≠ "") :
    onMqttMessageCb s reportedUpdated cache
        (reportedTopic msg.unid msg.ep cluster msg.attributeName) msg.message =
      match msg.endpoint s, msg.parsed with
      | some endpointId, some parsed =>
        handleReport reportedUpdated cache endpointId cluster msg.attributeName parsed
      | _, _ => ⟨cache, [], none⟩ := by
  have hle : msg.ep ≤ 2147483647 := msg.ep_le.trans (by decide)
  have hcluster' : ¬ cluster.toList = [] := by
    simpa using hne
  simp only [onMqttMessageCb, msg.search_topic hcluster, String.ofList_toList, stoi_toString hle,
    TopicMessage.endpoint, hcluster', or_false, TopicMessage.parsed]
  cases matterEndpointOf s msg.unid msg.ep with
  | none => rfl
  | some endpointId =>
    cases msg.message with
    | empty => rfl
    | text parsed =>
      by_cases hname : msg.attributeName = ""
      · simp [hname]
      · have hname' : ¬ msg.attributeName.toList = [] := by
          simpa using hname
        simp only [hname, hname', if_false]

end Topics

section Failures

variable {info : Option IntegerAttribute} {jsn value : Json}

theorem Json.subscript_error {key : String} {e : CxxException} (h : jsn.subscript key = .error e) :
    e = .jsonTypeError := by
  unfold subscript at h
  split at h
  · cases h
  · cases h
  · cases h
    rfl

theorem convertible_iff (hvalue : jsn.subscript "value" = .ok value) :
    Convertible info (.ok jsn) ↔ ¬ value.Undefined info := by
  constructor
  · exact fun hconvertible => hconvertible.2 jsn value rfl hvalue
  · intro hdefined
    refine ⟨nofun, fun jsn' value' hjsn hvalue' => ?_⟩
    cases hjsn
    cases hvalue.symm.trans hvalue'
    exact hdefined

theorem ReportResult.failed_exception (cache : AttributeCache) (e : CxxException) :
    ∃ e', failed cache e = ⟨cache, [], e'⟩ ∧ (e' = none ↔ e.caughtByReport = true) := by
  refine ⟨_, rfl, ?_⟩
  split_ifs with hcaught
  · exact iff_of_true rfl hcaught
  · exact iff_of_false nofun hcaught

/-- Without a value nothing happens, but a number too large for the parser throws. -/
theorem AttributeTranslatorInterface.handleReport_of_no_value (reportedUpdated : ReportedUpdated)
    (cache : AttributeCache) (endpointId : ℕ) (cluster attributeName : String)
    {parsed : Except ParseFailure Json}
    (h : ∀ jsn value, parsed = .ok jsn → jsn.subscript "value" ≠ .ok value) :
    ∃ e, handleReport reportedUpdated cache endpointId cluster attributeName parsed =
        ⟨cache, [], e⟩ ∧ (e = none ↔ Convertible info parsed) := by
  have hconvertible : Convertible info parsed ↔ parsed ≠ .error .outOfRange :=
    and_iff_left fun jsn value hparsed hvalue => absurd hvalue (h jsn value hparsed)
  rw [hconvertible]
  unfold handleReport
  cases parsed with
  | error failure =>
    refine ⟨_, rfl, ?_⟩
    cases failure with
    | parseError => exact iff_of_true rfl nofun
    | outOfRange => exact iff_of_false nofun (not_not_intro rfl)
  | ok jsn =>
    cases hvalue : jsn.subscript "value" with
    | error e =>
      refine ⟨none, ?_, iff_of_true rfl nofun⟩
      rw [Json.subscript_error hvalue] at hvalue
      simp only [hvalue]
      rfl
    | ok value => exact absurd hvalue (h jsn value rfl)

end Failures

section Keys

theorem takeWhile_key {cluster attributeName : String} (h : ':' ∉ cluster.toList) :
    (cluster ++ "::" ++ attributeName).toList.takeWhile (· ≠ ':') = cluster.toList := by
  have hall : ∀ c ∈ cluster.toList, decide (c ≠ ':') = true := by
    intro c hc
    exact decide_eq_true fun heq => h (heq ▸ hc)
  have hlist : (cluster ++ "::" ++ attributeName).toList =
      cluster.toList ++ ':' :: ':' :: attributeName.toList := by
    simp
  rw [hlist, List.takeWhile_append_of_pos hall]
  simp

theorem key_inj {cluster cluster' attributeName attributeName' : String}
    (h : ':' ∉ cluster.toList) (h' : ':' ∉ cluster'.toList) :
    cluster ++ "::" ++ attributeName = cluster' ++ "::" ++ attributeName' ↔
      cluster = cluster' ∧ attributeName = attributeName' := by
  constructor
  · intro heq
    have hcluster : cluster = cluster' := by
      apply String.toList_inj.mp
      rw [← takeWhile_key h, ← @takeWhile_key cluster' attributeName' h', heq]
    rw [hcluster] at heq
    exact ⟨hcluster, String.append_right_inj _ |>.mp heq⟩
  · intro heq
    rw [heq.1, heq.2]

theorem applyRegisteredCallback_of_ne {cluster : String} (hcolon : ':' ∉ cluster.toList)
    (hne : cluster ≠ "WindowCovering") (attributeName : String) (value : Json) (endpointId : ℕ)
    (cache : AttributeCache) :
    applyRegisteredCallback (cluster ++ "::" ++ attributeName) value endpointId cache =
      .ok cache := by
  have hkey : ∀ name, cluster ++ "::" ++ attributeName ≠ "WindowCovering" ++ "::" ++ name :=
    fun name heq => hne ((key_inj hcolon (by decide)).mp heq).1
  unfold applyRegisteredCallback
  exact (if_neg (hkey "CurrentPositionLiftPercentage")).trans (if_neg (hkey "CurrentPositionLift"))

end Keys

end UnifyMatterBridge
