import UnifyMatterBridge.Attribute.BasicInformation
import UnifyMatterBridge.Attribute.Codec
import UnifyMatterBridge.Attribute.LastReport
import UnifyMatterBridge.Attribute.Write
import UnifyMatterBridge.Lib.NameTable
import UnifyMatterBridge.Lib.Outcome

/-! Values that are written and then reported: what `Write` publishes of a decoded value is converted back
to it by `from_json`, stored, and read. -/
namespace UnifyMatterBridge

/-- What the decoded value of an attribute is in the cache. Of an enumeration it has a label of its own,
of a bitmap it has the flags of all fields. -/
inductive Written : AttributeType → ArgValue → CacheValue → Prop where
  | bool (b : Bool) : Written .bool (.boolean b) (.bool b)
  | int {t : IntType} {n : ℤ} (hn : t.InRange n) : Written (.int t) (.number n) (.int t n)
  | enum {e : EnumType} {value : ℕ} {label : String} (hlabel : e.table.lookup label = some (value : ℤ)) :
      Written (.enum e) (.enum value (some label)) (.int e.type value)
  | bitmap {b : BitmapType} {flags : List (String × Bool)} {raw : ℕ}
      (hnames : (flags.map Prod.fst).Nodup)
      (hflags : ∀ f ∈ b.fields, (f.1, raw.testBit f.2) ∈ flags)
      (hraw : ∀ bit, raw.testBit bit = true → ∃ f ∈ b.fields, f.2 = bit) :
      Written (.bitmap b) (.flags flags) (.int b.type raw)

/-- The attribute is reported under the name. Labels that stand for numbers are for numbers only. -/
structure ReportedAs (m : DataModel) (a : ClusterAttributeAccess) (attributeId : ℕ) (name : String)
    (info : AttributeInfo) : Prop where
  mapped : m.getAttributeId a.clusterName name = some attributeId
  info_eq : m.attributeInfo a.clusterId attributeId = some info
  reportable : info.reportable = true
  plain : specialValues a.clusterId attributeId = [] ∨ ∃ t, info.type = .int t

section Values

variable {type : AttributeType} {value : ArgValue} {v : CacheValue}

/-- What is published of a value is converted back to it. -/
theorem Written.fromJson (h : Written type value v) :
    UnifyMatterBridge.fromJson type value.toJson = .ok (some v) := by
  cases h with
  | bool b => rfl
  | @int t n hn =>
    have hcast : (ArgValue.number n).toJson.getInt t = .ok n :=
      congrArg Except.ok (IntType.cast_of_inRange hn)
    exact fromJson_int_ok hcast
  | @enum e value label hlabel => exact fromJson_of_denotes (.enum hlabel)
  | @bitmap b flags raw hnames hflags hraw =>
    have hflag : ∀ f ∈ b.fields, (ArgValue.flags flags).toJson.flag f.1 = .ok (raw.testBit f.2) :=
      fun f hf => ArgValue.flag_toJson hnames (hflags f hf)
    obtain ⟨raw', hraw'⟩ := Json.exists_flags (fun f hf => ⟨_, hflag f hf⟩) 0
    have heq : raw' = raw := by
      apply Nat.eq_of_testBit_eq
      intro bit
      apply Bool.eq_iff_iff.mpr
      rw [Json.testBit_flags hraw' bit, Nat.zero_testBit]
      constructor
      · rintro (hzero | ⟨f, hf, hbit, hset⟩)
        · cases hzero
        · rw [hflag f hf] at hset
          exact hbit ▸ Except.ok.inj hset
      · intro hset
        obtain ⟨f, hf, hbit⟩ := hraw bit hset
        refine Or.inr ⟨f, hf, hbit, ?_⟩
        rw [hflag f hf, hbit, hset]
    simp only [UnifyMatterBridge.fromJson, hraw', heq]
    rfl

theorem Written.getSpecialValues (h : Written type value v) {clusterId attributeId : ℕ}
    (hplain : specialValues clusterId attributeId = [] ∨ ∃ t, type = .int t) :
    UnifyMatterBridge.getSpecialValues clusterId attributeId value.toJson = value.toJson := by
  rcases hplain with hnone | ⟨t, rfl⟩
  · exact getSpecialValues_of_nil hnone _
  · cases h
    rfl

theorem Written.alternative (h : Written type value v) : v.alternative = type.alternative :=
  (fromJson_typed h.fromJson).1

end Values

section Attributes

variable {m : DataModel} {a : ClusterAttributeAccess} {attributeId endpointId : ℕ} {name : String}
  {info : AttributeInfo} {value : ArgValue} {v : CacheValue}

theorem ReportedAs.reportedCase (h : ReportedAs m a attributeId name info)
    (ha : a ∈ ClusterAttributeAccess.all) :
    a.reportedCase m a.clusterName name = some (attributeId, info) := by
  have hcluster := (ClusterAttributeAccess.names_of_mem_all ha).1
  simp [ClusterAttributeAccess.reportedCase, hcluster, h.mapped, h.info_eq, h.reportable]

end Attributes

section Write

variable {Table Content : Type} {s : MonitorState Table Content} {m : DataModel}
  {emberAfFindServerCluster : ℕ → ℕ → Bool} {a : ClusterAttributeAccess} {path : AttrPath}
  {decoder : AttributeValueDecoder} {cache : AttributeCache}

/-- The setpoints of a thermostat, which are emulated and yet sent. -/
def IsSetpoint (path : AttrPath) : Prop :=
  path.clusterId = 0x0201 ∧ (path.attributeId = 0x11 ∨ path.attributeId = 0x12)

theorem isSetpoint_of_inProgress
    (h : ClusterEmulator.writeAttribute cache path decoder = .ok .inProgress) : IsSetpoint path := by
  unfold ClusterEmulator.writeAttribute at h
  split_ifs at h
  · split at h
    · next hthermostat =>
      unfold EmulateThermostat.writeAttribute at h
      split at h
      · exact ⟨hthermostat, Or.inl ‹_›⟩
      · exact ⟨hthermostat, Or.inr ‹_›⟩
      · cases h
    · cases h
  · cases h

theorem published_of_write {r : WriteResult} {topic : String} {message : Json}
    (hr : a.write path decoder s cache = .ok r) (hm : r.published = some (topic, message)) :
    path.clusterId = a.clusterId ∧
      (ClusterEmulator.isAttributeEmulated path = false ∨ IsSetpoint path) ∧
      ∃ e, NodeStateMonitor.bridgedEndpointOfMatter s path.endpointId = some e ∧
        ∃ name, (path.attributeId, name) ∈ ClusterAttributeAccess.writableAttributes a.clusterId ∧
          topic = unidTopic e.unifyUnid e.unifyEndpoint ++ "/" ++ a.clusterName ++
            "/Commands/WriteAttributes" ∧
          message = .object [(name, decoder.value.toJson)] := by
  have hswitch : ∀ address : String × ℕ, a.writeSwitch path decoder address = .ok r →
      ∃ name, (path.attributeId, name) ∈ ClusterAttributeAccess.writableAttributes a.clusterId ∧
        topic = unidTopic address.1 address.2 ++ "/" ++ a.clusterName ++ "/Commands/WriteAttributes" ∧
        message = .object [(name, decoder.value.toJson)] := by
    intro address h
    unfold ClusterAttributeAccess.writeSwitch at h
    cases hname : (ClusterAttributeAccess.writableAttributes a.clusterId).lookup path.attributeId with
    | none =>
      rw [hname] at h
      cases h
      cases hm
    | some name =>
      rw [hname] at h
      obtain ⟨dumped, hdump, h⟩ := Outcome.bind_eq_ok h
      cases h
      cases hm
      unfold Json.dump at hdump
      split_ifs at hdump
      cases hdump
      exact ⟨name, NameTable.mem_of_lookup hname, rfl, rfl⟩
  by_cases hcluster : path.clusterId = a.clusterId
  · refine ⟨hcluster, ?_⟩
    rw [ClusterAttributeAccess.write, if_neg (not_not.mpr hcluster)] at hr
    cases hfound : NodeStateMonitor.bridgedEndpointOfMatter s path.endpointId with
    | none =>
      rw [hfound] at hr
      cases hr
      cases hm
    | some e =>
      rw [hfound] at hr
      dsimp only at hr
      split_ifs at hr with hemulated
      · obtain ⟨error, herror, hr⟩ := Outcome.bind_eq_ok hr
        split at hr
        · exact ⟨Or.inr (isSetpoint_of_inProgress herror), e, rfl, hswitch e.address hr⟩
        · cases hr
          cases hm
      · exact ⟨Or.inl (Bool.eq_false_iff.mpr hemulated), e, rfl, hswitch e.address hr⟩
  · rw [ClusterAttributeAccess.write, if_pos hcluster] at hr
    cases hr
    cases hm

theorem Written.holds {info : AttributeInfo} {value : ArgValue} {v : CacheValue}
    (h : Written info.type value v) (hnull : ¬ info.IsNull v) : info.Holds v where
  typed := h.alternative
  inRange := (fromJson_typed h.fromJson).2
  notNull hnullable := by
    rw [Bool.eq_false_iff]
    exact fun hvalue => hnull ⟨hnullable, hvalue⟩

end Write

end UnifyMatterBridge
