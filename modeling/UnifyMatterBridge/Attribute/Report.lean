import UnifyMatterBridge.Attribute.TranslatorInterface

/-! Reported attributes: the generated `reported_updated`, and what it makes of a message. -/
namespace UnifyMatterBridge

open AttributeTranslatorInterface

def attributeMaxLimitMismatch : (clusterId attributeId : ℕ) → Bool
  | 0x0102, 0x03 | 0x0102, 0x10 | 0x0102, 0x11 | 0x0008, 0x00 => true
  | _, _ => false

/-- The greatest value of these attributes is stored as the one below it. -/
def limitMax (clusterId attributeId : ℕ) : CacheValue → CacheValue
  | .int t n =>
    .int t (if attributeMaxLimitMismatch clusterId attributeId ∧ n = t.max then t.max - 1 else n)
  | v => v

/-- `SpecialValues`: the labels that stand for a number. -/
def specialValues : (clusterId attributeId : ℕ) → List (String × ℤ)
  | 0x0008, 0x4000 => [("MinimumDeviceValuePermitted", 0), ("SetToPreviousValue", 0xFF)]
  | 0x0300, 0x0007 => [("Undefined", 0)]
  | _, _ => []

def getSpecialValues (clusterId attributeId : ℕ) (value : Json) : Json :=
  match value with
  | .string (.utf8 label) =>
    match (specialValues clusterId attributeId).lookup label with
    | some n => .integer n
    | none => value
  | _ => value

/-- `attribute_state_cache::set<T>`, which leaves out the null value of a nullable type. -/
def AttributeInfo.set (info : AttributeInfo) (cache : AttributeCache) (path : AttrPath)
    (v : CacheValue) : AttributeCache :=
  if info.nullable && info.type.isNullValue v then cache else cache.set path v

/-- A class generated for the attributes of a cluster, with the Unify name of the cluster. -/
structure ClusterAttributeAccess where
  clusterId : ℕ
  clusterName : String
  deriving DecidableEq, Repr

namespace ClusterAttributeAccess

def all : List ClusterAttributeAccess :=
  [⟨0x0003, "Identify"⟩, ⟨0x0004, "Groups"⟩, ⟨0x0006, "OnOff"⟩, ⟨0x0008, "Level"⟩,
    ⟨0x0101, "DoorLock"⟩, ⟨0x0102, "WindowCovering"⟩, ⟨0x0201, "Thermostat"⟩,
    ⟨0x0300, "ColorControl"⟩, ⟨0x0400, "IlluminanceMeasurement"⟩,
    ⟨0x0402, "TemperatureMeasurement"⟩, ⟨0x0403, "PressureMeasurement"⟩,
    ⟨0x0404, "FlowMeasurement"⟩, ⟨0x0405, "RelativityHumidity"⟩, ⟨0x0406, "OccupancySensing"⟩]

variable (a : ClusterAttributeAccess) (m : DataModel)

/-- The case of `reported_updated` for an attribute: its id and what the case is generated from. -/
def reportedCase (cluster attributeName : String) : Option (ℕ × AttributeInfo) := do
  guard (getClusterId cluster = some a.clusterId)
  let attributeId ← m.getAttributeId cluster attributeName
  let info ← m.attributeInfo a.clusterId attributeId
  guard info.reportable
  return (attributeId, info)

def attrPath (endpointId attributeId : ℕ) : AttrPath := ⟨endpointId, a.clusterId, attributeId⟩

/-- `reported_updated`; with the paths that the change callback is called for. -/
def reportedUpdated (cache : AttributeCache) (endpointId : ℕ) (cluster attributeName : String)
    (value : Json) : Except CxxException (AttributeCache × List AttrPath) :=
  match a.reportedCase m cluster attributeName with
  | none => .ok (cache, [])
  | some (attributeId, info) => do
    match ← fromJson info.type (getSpecialValues a.clusterId attributeId value) with
    | none => return (cache, [])
    | some v =>
      let path := a.attrPath endpointId attributeId
      return (info.set cache path (limitMax a.clusterId attributeId v), [path])

end ClusterAttributeAccess

/-- What a message reports: an attribute and the value that is stored for it. -/
structure AttributeReport where
  attributeId : ℕ
  info : AttributeInfo
  stored : CacheValue

def AttributeType.intType : AttributeType → Option IntType
  | .int t => some t
  | .bool | .enum _ | .bitmap _ => none

namespace ClusterAttributeAccess

variable (a : ClusterAttributeAccess) (m : DataModel)

/-- The attribute of an integer type that has the name. -/
def integerAttribute (attributeName : String) : Option IntegerAttribute := do
  let (attributeId, info) ← a.reportedCase m a.clusterName attributeName
  let t ← info.type.intType
  return ⟨a.clusterId, attributeId, info.nullable, t, t⟩

/-- None if the message is no report of an attribute that has a case, or its value does not
convert. -/
def report (attributeName : String) (parsed : Except ParseFailure Json) :
    Option AttributeReport :=
  match parsed, a.reportedCase m a.clusterName attributeName with
  | .ok jsn, some (attributeId, info) =>
    match (jsn.subscript "value").bind fun value =>
        fromJson info.type (getSpecialValues a.clusterId attributeId value) with
    | .ok (some v) => some ⟨attributeId, info, limitMax a.clusterId attributeId v⟩
    | _ => none
  | _, _ => none

end ClusterAttributeAccess

section Names

variable {a : ClusterAttributeAccess}

theorem ClusterAttributeAccess.names_of_mem_all (ha : a ∈ all) :
    getClusterId a.clusterName = some a.clusterId ∧ '/' ∉ a.clusterName.toList ∧
      ':' ∉ a.clusterName.toList ∧ a.clusterName ≠ "" := by
  revert a
  decide

theorem ClusterAttributeAccess.clusterId_windowCovering (ha : a ∈ all)
    (hcluster : a.clusterName = "WindowCovering") : a.clusterId = 0x0102 := by
  have hname := (names_of_mem_all ha).1
  rw [hcluster] at hname
  exact (Option.some.inj hname).symm

end Names

section Stored

theorem IntType.min_lt_max (t : IntType) : t.min < t.max := by
  cases t <;> decide

theorem limitMax_alternative (clusterId attributeId : ℕ) (v : CacheValue) :
    (limitMax clusterId attributeId v).alternative = v.alternative := by
  cases v <;> rfl

theorem limitMax_inRange {clusterId attributeId : ℕ} {v : CacheValue} (h : v.InRange) :
    (limitMax clusterId attributeId v).InRange := by
  cases v with
  | int t n =>
    have hlt := t.min_lt_max
    obtain ⟨hlo, hhi⟩ : t.InRange n := h
    simp only [limitMax]
    split_ifs
    · exact ⟨by omega, by omega⟩
    · exact ⟨hlo, hhi⟩
  | bool | float | string | chars | bytes => exact h

/-- The value stands for null, and is not stored. -/
def AttributeInfo.IsNull (info : AttributeInfo) (v : CacheValue) : Prop :=
  info.nullable = true ∧ info.type.isNullValue v = true

instance (info : AttributeInfo) (v : CacheValue) : Decidable (info.IsNull v) :=
  inferInstanceAs (Decidable (_ ∧ _))

theorem AttributeInfo.Holds.not_isNull {info : AttributeInfo} {v : CacheValue} (h : info.Holds v) :
    ¬ info.IsNull v := by
  intro hnull
  have hfalse := h.notNull hnull.1
  rw [hnull.2] at hfalse
  cases hfalse

theorem AttributeInfo.set_of_isNull {info : AttributeInfo} {v : CacheValue} (h : info.IsNull v)
    (cache : AttributeCache) (path : AttrPath) : info.set cache path v = cache := by
  simp only [set, h.1, h.2, Bool.and_self, if_true]

theorem AttributeInfo.set_of_not_isNull {info : AttributeInfo} {v : CacheValue}
    (h : ¬ info.IsNull v) (cache : AttributeCache) (path : AttrPath) :
    info.set cache path v = cache.set path v := by
  unfold set
  rw [if_neg]
  rw [Bool.and_eq_true]
  exact h

end Stored

section Conversion

/-- A number converts to every integer type but possibly `uint64_t`, a floating-point number to those
that it is in range of, and anything else to none. -/
theorem Json.getInt_cases (value : Json) :
    (∀ t, t ≠ IntType.uint64 → ∃ n, value.getInt t = .ok n) ∨
      (∃ q, value = .float q ∧ ∀ t, value.getInt t =
        if t.InRange (truncated q) then .ok (truncated q) else .error .undefined) ∨
      ∀ t, value.getInt t = .error .jsonTypeError := by
  cases value with
  | integer n => exact Or.inl fun t _ => ⟨_, rfl⟩
  | float q => exact Or.inr (Or.inl ⟨q, rfl, fun _ => rfl⟩)
  | boolean b => exact Or.inl fun t ht => ⟨_, if_neg ht⟩
  | null | string | array | object => exact Or.inr (Or.inr fun _ => rfl)

theorem Json.getInt_error {t : IntType} {value : Json} {e : CxxException}
    (h : value.getInt t = .error e) :
    e = .jsonTypeError ∨ e = .undefined ∧ ∃ q, value = .float q ∧ ¬ t.InRange (truncated q) := by
  unfold getInt at h
  split at h
  · cases h
  · next q =>
    split_ifs at h with hrange
    cases h
    exact Or.inr ⟨rfl, q, rfl, hrange⟩
  · split_ifs at h
    cases h
    exact Or.inl rfl
  · cases h
    exact Or.inl rfl

theorem fromJson_int_ok {t : IntType} {value : Json} {n : ℤ} (h : value.getInt t = .ok n) :
    fromJson (.int t) value = .ok (some (.int t n)) := by
  simp only [fromJson, h]
  rfl

theorem fromJson_int_error {t : IntType} {value : Json} {e : CxxException}
    (h : value.getInt t = .error e) : fromJson (.int t) value = .error e := by
  simp only [fromJson, h]
  rfl

theorem Json.flag_error {name : String} {value : Json} {e : CxxException}
    (h : value.flag name = .error e) : e = .jsonTypeError := by
  unfold flag at h
  split at h
  · split at h
    · unfold getBool at h
      split at h
      · cases h
      · cases h
        rfl
    · cases h
  · cases h
    rfl

theorem Json.flags_error {fields : List (String × ℕ)} {start : ℕ} {value : Json}
    {e : CxxException} (h : value.flags fields start = .error e) : e = .jsonTypeError := by
  induction fields generalizing start with
  | nil => cases h
  | cons f fields ih =>
    cases hflag : value.flag f.1 with
    | error e' =>
      rw [flags_cons_error hflag] at h
      cases h
      exact flag_error hflag
    | ok set =>
      rw [flags_cons_ok hflag] at h
      exact ih h

/-- The conversions that are defined throw only what `on_mqtt_message_cb` catches. -/
theorem fromJson_error {type : AttributeType} {value : Json} {e : CxxException}
    (h : fromJson type value = .error e) :
    e = .jsonTypeError ∨ e = .undefined ∧
      ∃ t q, type = .int t ∧ value = .float q ∧ ¬ t.InRange (Json.truncated q) := by
  cases type with
  | bool =>
    cases value with
    | boolean b => cases h
    | null | integer | float | string | array | object =>
      cases h
      exact Or.inl rfl
  | int t =>
    cases hint : value.getInt t with
    | ok n =>
      rw [fromJson_int_ok hint] at h
      cases h
    | error e' =>
      rw [fromJson_int_error hint] at h
      cases h
      rcases Json.getInt_error hint with htype | ⟨hundefined, q, hvalue, hrange⟩
      · exact Or.inl htype
      · exact Or.inr ⟨hundefined, t, q, rfl, hvalue, hrange⟩
  | enum e =>
    cases value with
    | string s => cases s <;> cases h
    | null | integer | float | boolean | array | object =>
      cases h
      exact Or.inl rfl
  | bitmap b =>
    cases hflags : value.flags b.fields 0 with
    | ok raw =>
      simp only [fromJson, hflags] at h
      cases h
    | error e' =>
      simp only [fromJson, hflags] at h
      cases h
      exact Or.inl (Json.flags_error hflags)

end Conversion

section Callbacks

variable {m : DataModel} (c : StateCache m) (endpointId : ℕ)

def StateCache.stopped : StateCache m :=
  c.set (EmulateWindowCovering.operationalStatus endpointId) (.int .uint8 0x00) (by
    intro info hinfo
    obtain ⟨b, hb⟩ := m.operationalStatus
    obtain ⟨info', hinfo', halternative⟩ := m.emulated (show emulatorType 0x0102 0x0A = _ from rfl)
    have heq : info' = info := Option.some.inj (hinfo'.symm.trans hinfo)
    have hb' : info = ⟨.bitmap b, false, false⟩ := Option.some.inj (hinfo.symm.trans hb)
    constructor
    · exact (heq ▸ halternative).symm
    · exact (by decide : IntType.uint8.InRange 0x00)
    · intro hnull
      rw [hb'] at hnull
      cases hnull)

/-- The callback stops the covering only for a value that is stored, and throws what storing it does. -/
theorem EmulateWindowCovering.onLiftPercentage_outcome (value : Json) :
    (∃ c' : StateCache m, (c' = c ∨ c' = c.stopped endpointId) ∧
        onLiftPercentage value endpointId c.values = .ok c'.values ∧
        ((value.getInt .uint8).toOption = none → c' = c)) ∨
      ∃ e, value.getInt .uint8 = .error e ∧
        onLiftPercentage value endpointId c.values = .error e := by
  have hok : ∀ n, value.getInt .int = .ok n → ((n = 0x00 ∨ n = 0x64) →
      ∃ k, value.getInt .uint8 = .ok k) → ∃ c' : StateCache m, (c' = c ∨ c' = c.stopped endpointId) ∧
        onLiftPercentage value endpointId c.values = .ok c'.values ∧
        ((value.getInt .uint8).toOption = none → c' = c) := by
    intro n hn hstored
    simp only [onLiftPercentage, hn]
    by_cases hend : n = 0x00 ∨ n = 0x64
    · refine ⟨c.stopped endpointId, Or.inr rfl, congrArg Except.ok (if_pos hend), ?_⟩
      obtain ⟨k, hk⟩ := hstored hend
      rw [hk]
      intro hnone
      cases hnone
    · exact ⟨c, Or.inl rfl, congrArg Except.ok (if_neg hend), fun _ => rfl⟩
  rcases value.getInt_cases with hnumber | ⟨q, -, hfloat⟩ | herror
  · obtain ⟨n, hn⟩ := hnumber .int (by decide)
    exact Or.inl (hok n hn fun _ => hnumber .uint8 (by decide))
  · by_cases hint : IntType.int.InRange (Json.truncated q)
    · apply Or.inl
      apply hok _ ((hfloat .int).trans (if_pos hint))
      intro hend
      have hrange : IntType.uint8.InRange (Json.truncated q) := by
        rcases hend with hend | hend
        · rw [hend]
          decide
        · rw [hend]
          decide
      exact ⟨_, (hfloat .uint8).trans (if_pos hrange)⟩
    · have hrange : ¬ IntType.uint8.InRange (Json.truncated q) :=
        fun hrange => hint (hrange.mono (by decide) (by decide))
      refine Or.inr ⟨.undefined, (hfloat .uint8).trans (if_neg hrange), ?_⟩
      simp only [onLiftPercentage, (hfloat .int).trans (if_neg hint)]
      rfl
  · refine Or.inr ⟨.jsonTypeError, herror .uint8, ?_⟩
    simp only [onLiftPercentage, herror .int]
    rfl

theorem EmulateWindowCovering.onLift_eq (value : Json) :
    onLift value endpointId c.values = (value.getInt .uint16).map fun lift =>
      if (c.typed.int (installedClosedLimitLift endpointId)).isSome ∧
          (c.typed.int (installedOpenLimitLift endpointId)).isSome ∧
          (c.typed.int (installedOpenLimitLift endpointId) = some lift ∨
            c.typed.int (installedClosedLimitLift endpointId) = some lift)
      then (c.stopped endpointId).values else c.values := by
  have hopen := @TypedCache.getInt_eq c.typed (installedOpenLimitLift endpointId) .uint16 rfl
  have hclosed := @TypedCache.getInt_eq c.typed (installedClosedLimitLift endpointId) .uint16 rfl
  have hvalues : c.typed.values = c.values := rfl
  rw [hvalues] at hopen hclosed
  simp only [onLift, hopen, hclosed]
  cases value.getInt .uint16 with
  | error e => rfl
  | ok lift => rfl

end Callbacks

section Handling

variable {m : DataModel} {a : ClusterAttributeAccess} {endpointId : ℕ} {attributeName : String}

/-- The attributes with a callback. -/
def CallbackRegistered (cluster attributeName : String) : Prop :=
  cluster = "WindowCovering" ∧
    (attributeName = "CurrentPositionLiftPercentage" ∨ attributeName = "CurrentPositionLift")

theorem applyRegisteredCallback_cases (c : StateCache m) (ha : a ∈ ClusterAttributeAccess.all)
    (value : Json) :
    (a.clusterName = "WindowCovering" ∧ attributeName = "CurrentPositionLiftPercentage" ∧
        applyRegisteredCallback (a.clusterName ++ "::" ++ attributeName) value endpointId c.values =
          EmulateWindowCovering.onLiftPercentage value endpointId c.values) ∨
      (a.clusterName = "WindowCovering" ∧ attributeName = "CurrentPositionLift" ∧
        applyRegisteredCallback (a.clusterName ++ "::" ++ attributeName) value endpointId c.values =
          EmulateWindowCovering.onLift value endpointId c.values) ∨
      applyRegisteredCallback (a.clusterName ++ "::" ++ attributeName) value endpointId c.values =
        .ok c.values := by
  have hcolon := (ClusterAttributeAccess.names_of_mem_all ha).2.2.1
  have hkey : ∀ name, a.clusterName ++ "::" ++ attributeName = "WindowCovering" ++ "::" ++ name ↔
      a.clusterName = "WindowCovering" ∧ attributeName = name :=
    fun name => key_inj hcolon (by decide)
  have hpercentage := hkey "CurrentPositionLiftPercentage"
  have hlift := hkey "CurrentPositionLift"
  unfold applyRegisteredCallback
  split_ifs with h₁ h₂
  · obtain ⟨hcluster, hname⟩ := hpercentage.mp h₁
    exact Or.inl ⟨hcluster, hname, rfl⟩
  · obtain ⟨hcluster, hname⟩ := hlift.mp h₂
    exact Or.inr (Or.inl ⟨hcluster, hname, rfl⟩)
  · exact Or.inr (Or.inr rfl)

theorem reportedCase_eq_some {cluster name : String} {attributeId : ℕ} {info : AttributeInfo}
    (h : a.reportedCase m cluster name = some (attributeId, info)) :
    m.getAttributeId cluster name = some attributeId ∧
      m.attributeInfo a.clusterId attributeId = some info ∧ info.reportable = true := by
  unfold ClusterAttributeAccess.reportedCase at h
  simp only [Option.bind_eq_bind, Option.bind_eq_some_iff] at h
  obtain ⟨_, -, id, hid, info', hinfo, _, hreportable, hpair⟩ := h
  cases hpair
  refine ⟨hid, hinfo, ?_⟩
  by_contra hne
  rw [guard, if_neg hne] at hreportable
  cases hreportable

theorem report_eq_some_iff {parsed : Except ParseFailure Json} {r : AttributeReport} :
    a.report m attributeName parsed = some r ↔
      ∃ jsn value v, parsed = .ok jsn ∧ jsn.subscript "value" = .ok value ∧
        a.reportedCase m a.clusterName attributeName = some (r.attributeId, r.info) ∧
        fromJson r.info.type (getSpecialValues a.clusterId r.attributeId value) = .ok (some v) ∧
        r.stored = limitMax a.clusterId r.attributeId v := by
  constructor
  · intro h
    unfold ClusterAttributeAccess.report at h
    split at h
    · next jsn attributeId info hcase =>
      cases hvalue : jsn.subscript "value" with
      | error e =>
        rw [hvalue] at h
        cases h
      | ok value =>
        rw [hvalue] at h
        split at h
        · next v hv =>
          cases h
          exact ⟨jsn, value, v, rfl, hvalue, hcase, hv, rfl⟩
        · cases h
    · cases h
  · intro h
    obtain ⟨jsn, value, v, hparsed, hvalue, hcase, hv, hstored⟩ := h
    have hbind : (Except.bind (.ok value) fun value => fromJson r.info.type
        (getSpecialValues a.clusterId r.attributeId value)) = .ok (some v) := hv
    simp only [ClusterAttributeAccess.report, hparsed, hcase, hvalue, hbind, ← hstored]

theorem reportedCase_windowCovering (ha : a ∈ ClusterAttributeAccess.all)
    (hcluster : a.clusterName = "WindowCovering") :
    a.clusterId = 0x0102 ∧
      a.reportedCase m a.clusterName "CurrentPositionLiftPercentage" =
        some (0x08, ⟨.int .uint8, true, true⟩) ∧
      a.reportedCase m a.clusterName "CurrentPositionLift" =
        some (0x03, ⟨.int .uint16, true, true⟩) := by
  have hname := (ClusterAttributeAccess.names_of_mem_all ha).1
  have hid := ClusterAttributeAccess.clusterId_windowCovering ha hcluster
  refine ⟨hid, ?_, ?_⟩
  · simp [ClusterAttributeAccess.reportedCase, hname, hcluster ▸ m.liftPercentageId, hid,
      m.liftPercentage]
  · simp [ClusterAttributeAccess.reportedCase, hname, hcluster ▸ m.liftId, hid, m.lift]

theorem getSpecialValues_of_nil {clusterId attributeId : ℕ}
    (h : specialValues clusterId attributeId = []) (value : Json) :
    getSpecialValues clusterId attributeId value = value := by
  unfold getSpecialValues
  rw [h]
  split <;> rfl

theorem report_int {jsn value : Json} {attributeId : ℕ} {info : AttributeInfo} {t : IntType}
    (hvalue : jsn.subscript "value" = .ok value)
    (hcase : a.reportedCase m a.clusterName attributeName = some (attributeId, info))
    (htype : info.type = .int t) (hspecial : getSpecialValues a.clusterId attributeId value = value) :
    a.report m attributeName (.ok jsn) = (value.getInt t).toOption.map fun n =>
      ⟨attributeId, info, limitMax a.clusterId attributeId (.int t n)⟩ := by
  unfold ClusterAttributeAccess.report
  simp only [hcase, hvalue, Except.bind, hspecial, htype]
  cases hint : value.getInt t with
  | error e => simp only [fromJson_int_error hint, Except.toOption, Option.map]
  | ok n => simp only [fromJson_int_ok hint, Except.toOption, Option.map]

theorem integerAttribute_of_case {attributeId : ℕ} {info : AttributeInfo} {t : IntType}
    (hcase : a.reportedCase m a.clusterName attributeName = some (attributeId, info))
    (htype : info.type = .int t) :
    a.integerAttribute m attributeName =
      some ⟨a.clusterId, attributeId, info.nullable, t, t⟩ := by
  simp [ClusterAttributeAccess.integerAttribute, hcase, htype, AttributeType.intType]

theorem integerAttribute_eq_some {r : IntegerAttribute}
    (h : a.integerAttribute m attributeName = some r) :
    ∃ info, a.reportedCase m a.clusterName attributeName = some (r.attributeId, info) ∧
      info.type = .int r.type ∧ r = ⟨a.clusterId, r.attributeId, info.nullable, r.type, r.type⟩ := by
  obtain ⟨⟨attributeId, info⟩, hcase, h⟩ := Option.bind_eq_some_iff.mp h
  obtain ⟨t, htype, h⟩ := Option.bind_eq_some_iff.mp h
  cases h
  refine ⟨info, hcase, ?_, rfl⟩
  cases hinfo : info.type with
  | int t' =>
    rw [hinfo] at htype
    cases htype
    rfl
  | bool | enum | bitmap =>
    rw [hinfo] at htype
    cases htype

theorem reportedUpdated_of_error {value : Json} {attributeId : ℕ} {info : AttributeInfo}
    {e : CxxException}
    (hcase : a.reportedCase m a.clusterName attributeName = some (attributeId, info))
    (h : fromJson info.type (getSpecialValues a.clusterId attributeId value) = .error e)
    (cache : AttributeCache) :
    a.reportedUpdated m cache endpointId a.clusterName attributeName value = .error e := by
  simp only [ClusterAttributeAccess.reportedUpdated, hcase, h]
  rfl

/-- A callback changes the cache only for a report, and throws only what storing the value does. -/
theorem applyRegisteredCallback_outcome (c : StateCache m) {jsn value : Json}
    (ha : a ∈ ClusterAttributeAccess.all) (hvalue : jsn.subscript "value" = .ok value) :
    (∃ c', (c' = c ∨ CallbackRegistered a.clusterName attributeName ∧ c' = c.stopped endpointId) ∧
        applyRegisteredCallback (a.clusterName ++ "::" ++ attributeName) value endpointId c.values =
          .ok c'.values ∧
        (a.report m attributeName (.ok jsn) = none → c' = c)) ∨
      ∃ e, applyRegisteredCallback (a.clusterName ++ "::" ++ attributeName) value endpointId
          c.values = .error e ∧
        ∀ cache, a.reportedUpdated m cache endpointId a.clusterName attributeName value =
          .error e := by
  rcases @applyRegisteredCallback_cases m a endpointId attributeName c ha value with
    ⟨hcluster, hname, happly⟩ | ⟨hcluster, hname, happly⟩ | happly
  · obtain ⟨hid, hcase, -⟩ := @reportedCase_windowCovering m a ha hcluster
    have hspecial : getSpecialValues a.clusterId 0x08 value = value := by
      apply getSpecialValues_of_nil
      rw [hid]
      rfl
    have hreport := report_int hvalue (hname ▸ hcase) rfl hspecial
    rw [happly, hreport]
    rcases EmulateWindowCovering.onLiftPercentage_outcome c endpointId value with
      ⟨c', hc', hcallback, hnone⟩ | ⟨e, herror, hcallback⟩
    · refine Or.inl ⟨c', hc'.imp_right fun hc' => ⟨⟨hcluster, Or.inl hname⟩, hc'⟩, hcallback, ?_⟩
      exact fun h => hnone (Option.map_eq_none_iff.mp h)
    · refine Or.inr ⟨e, hcallback, reportedUpdated_of_error (hname ▸ hcase) ?_⟩
      rw [hspecial]
      exact fromJson_int_error herror
  · obtain ⟨hid, -, hcase⟩ := @reportedCase_windowCovering m a ha hcluster
    have hspecial : getSpecialValues a.clusterId 0x03 value = value := by
      apply getSpecialValues_of_nil
      rw [hid]
      rfl
    have hreport := report_int hvalue (hname ▸ hcase) rfl hspecial
    rw [happly, hreport, EmulateWindowCovering.onLift_eq]
    cases hlift : value.getInt .uint16 with
    | ok n =>
      simp only [Except.map]
      split_ifs
      · exact Or.inl ⟨c.stopped endpointId, Or.inr ⟨⟨hcluster, Or.inr hname⟩, rfl⟩, rfl,
          by simp [Except.toOption]⟩
      · exact Or.inl ⟨c, Or.inl rfl, rfl, fun _ => rfl⟩
    | error e =>
      refine Or.inr ⟨e, rfl, reportedUpdated_of_error (hname ▸ hcase) ?_⟩
      rw [hspecial]
      exact fromJson_int_error hlift
  · exact Or.inl ⟨c, Or.inl rfl, happly, fun _ => rfl⟩

theorem reportedUpdated_of_report {jsn value : Json} {r : AttributeReport} (cache : AttributeCache)
    (hvalue : jsn.subscript "value" = .ok value)
    (h : a.report m attributeName (.ok jsn) = some r) :
    a.reportedUpdated m cache endpointId a.clusterName attributeName value =
      .ok (r.info.set cache (a.attrPath endpointId r.attributeId) r.stored,
        [a.attrPath endpointId r.attributeId]) := by
  obtain ⟨jsn', value', v, hjsn, hvalue', hcase, hv, hstored⟩ := report_eq_some_iff.mp h
  cases hjsn
  cases hvalue.symm.trans hvalue'
  simp only [ClusterAttributeAccess.reportedUpdated, hcase, hv, hstored]
  rfl

theorem getSpecialValues_eq_float {clusterId attributeId : ℕ} {value : Json} {q : ℚ} :
    getSpecialValues clusterId attributeId value = .float q ↔ value = .float q := by
  constructor
  · intro h
    unfold getSpecialValues at h
    split at h
    · split at h
      · cases h
      · exact h
    · exact h
  · rintro rfl
    rfl

/-- The conversion of a value of an attribute is undefined for what is not in the range of an integer. -/
theorem undefined_iff {value : Json} {attributeId : ℕ} {info : AttributeInfo}
    (hcase : a.reportedCase m a.clusterName attributeName = some (attributeId, info)) :
    value.Undefined (a.integerAttribute m attributeName) ↔
      fromJson info.type (getSpecialValues a.clusterId attributeId value) = .error .undefined := by
  constructor
  · rintro ⟨q, r, hvalue, hr, hrange⟩
    obtain ⟨info', hcase', htype, -⟩ := integerAttribute_eq_some hr
    cases hcase.symm.trans hcase'
    rw [getSpecialValues_eq_float.mpr hvalue, htype]
    apply fromJson_int_error
    simp only [Json.getInt, hrange, if_false]
  · intro herror
    rcases fromJson_error herror with htype | ⟨-, t, q, htype, hfloat, hrange⟩
    · cases htype
    · exact ⟨q, _, getSpecialValues_eq_float.mp hfloat, integerAttribute_of_case hcase htype, hrange⟩

/-- Without a report nothing is stored, or the conversion throws. -/
theorem reportedUpdated_of_no_report {jsn value : Json} (hvalue : jsn.subscript "value" = .ok value)
    (h : a.report m attributeName (.ok jsn) = none) :
    (∀ cache, a.reportedUpdated m cache endpointId a.clusterName attributeName value =
        .ok (cache, [])) ∧ ¬ value.Undefined (a.integerAttribute m attributeName) ∨
      ∃ e, (∀ cache, a.reportedUpdated m cache endpointId a.clusterName attributeName value =
          .error e) ∧
        (e.caughtByReport = true ↔ ¬ value.Undefined (a.integerAttribute m attributeName)) := by
  cases hcase : a.reportedCase m a.clusterName attributeName with
  | none =>
    refine Or.inl ⟨fun cache => by simp only [ClusterAttributeAccess.reportedUpdated, hcase], ?_⟩
    rintro ⟨q, r, -, hr, -⟩
    obtain ⟨info, hcase', -⟩ := integerAttribute_eq_some hr
    cases hcase.symm.trans hcase'
  | some case =>
    obtain ⟨attributeId, info⟩ := case
    rw [undefined_iff hcase]
    cases hv : fromJson info.type (getSpecialValues a.clusterId attributeId value) with
    | error e =>
      refine Or.inr ⟨e, reportedUpdated_of_error hcase hv, ?_⟩
      rcases fromJson_error hv with rfl | ⟨rfl, -⟩
      · exact iff_of_true rfl nofun
      · exact iff_of_false nofun (not_not_intro rfl)
    | ok converted =>
      refine Or.inl ⟨fun cache => ?_, nofun⟩
      cases converted with
      | none =>
        simp only [ClusterAttributeAccess.reportedUpdated, hcase, hv]
        rfl
      | some v =>
        have hsome : a.report m attributeName (.ok jsn) =
            some ⟨attributeId, info, limitMax a.clusterId attributeId v⟩ :=
          report_eq_some_iff.mpr ⟨jsn, value, v, rfl, hvalue, hcase, hv, rfl⟩
        rw [h] at hsome
        cases hsome

/-- Nothing happens for a message without a report, but the callback throws if the message is not
convertible. -/
theorem handleReport_of_no_report (c : StateCache m) (ha : a ∈ ClusterAttributeAccess.all)
    {parsed : Except ParseFailure Json} (h : a.report m attributeName parsed = none) :
    ∃ e, handleReport (a.reportedUpdated m) c.values endpointId a.clusterName attributeName parsed =
        ⟨c.values, [], e⟩ ∧
      (e = none ↔ Convertible (a.integerAttribute m attributeName) parsed) := by
  by_cases hparsed : ∃ jsn value, parsed = .ok jsn ∧ jsn.subscript "value" = .ok value
  · obtain ⟨jsn, value, rfl, hvalue⟩ := hparsed
    rw [convertible_iff hvalue]
    simp only [handleReport, hvalue]
    have hupdated := @reportedUpdated_of_no_report m a endpointId attributeName jsn value hvalue h
    rcases @applyRegisteredCallback_outcome m a endpointId attributeName c jsn value ha hvalue with
      ⟨c', -, happly, hc'⟩ | ⟨e, happly, hthrown⟩
    · rw [hc' h] at happly
      simp only [happly]
      rcases hupdated with ⟨hupdated, hdefined⟩ | ⟨e, hupdated, he⟩
      · exact ⟨none, by simp only [hupdated], iff_of_true rfl hdefined⟩
      · simp only [hupdated, ← he]
        exact ReportResult.failed_exception c.values e
    · simp only [happly]
      rcases hupdated with ⟨hupdated, -⟩ | ⟨e', hupdated, he⟩
      · cases (hupdated c.values).symm.trans (hthrown c.values)
      · cases (hupdated c.values).symm.trans (hthrown c.values)
        rw [← he]
        exact ReportResult.failed_exception c.values e
  · push Not at hparsed
    exact handleReport_of_no_value _ _ _ _ _ hparsed

/-- A report is stored after the callback has been applied. -/
theorem handleReport_of_report (c : StateCache m) (ha : a ∈ ClusterAttributeAccess.all)
    {parsed : Except ParseFailure Json} {r : AttributeReport}
    (h : a.report m attributeName parsed = some r) :
    ∃ jsn value c', parsed = .ok jsn ∧ jsn.subscript "value" = .ok value ∧
      (c' = c ∨ CallbackRegistered a.clusterName attributeName ∧ c' = c.stopped endpointId) ∧
      applyRegisteredCallback (a.clusterName ++ "::" ++ attributeName) value endpointId c.values =
        .ok c'.values ∧
      handleReport (a.reportedUpdated m) c.values endpointId a.clusterName attributeName parsed =
        ⟨r.info.set c'.values (a.attrPath endpointId r.attributeId) r.stored,
          [a.attrPath endpointId r.attributeId], none⟩ := by
  obtain ⟨jsn, value, v, hjsn, hvalue, hcase, hv, hstored⟩ := report_eq_some_iff.mp h
  rw [hjsn] at h
  rcases @applyRegisteredCallback_outcome m a endpointId attributeName c jsn value ha hvalue with
    ⟨c', hc', happly, -⟩ | ⟨e, -, hthrown⟩
  · refine ⟨jsn, value, c', hjsn, hvalue, hc', happly, ?_⟩
    simp only [handleReport, hjsn, hvalue, happly,
      reportedUpdated_of_report c'.values hvalue h]
  · cases (reportedUpdated_of_report c.values hvalue h).symm.trans (hthrown c.values)

end Handling

end UnifyMatterBridge
