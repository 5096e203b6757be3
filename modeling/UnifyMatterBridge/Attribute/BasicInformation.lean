import UnifyMatterBridge.Attribute.Read

/-! The translator of the Bridged Device Basic Information cluster, which is not generated. -/
namespace UnifyMatterBridge

open AttributeTranslatorInterface

namespace BridgedDeviceBasicInfoAttributeAccess

def clusterId : ℕ := 0x0039

def attrPath (endpointId attributeId : ℕ) : AttrPath := ⟨endpointId, clusterId, attributeId⟩

def nodeLabel (endpointId : ℕ) : AttrPath := attrPath endpointId 0x05
def reachable (endpointId : ℕ) : AttrPath := attrPath endpointId 0x11

/-- `basic_information_map`. Of two rows with one key the map has the first, as in the standard library
of GCC; the language leaves open which. -/
def basicInformationMap : List (String × ℕ) :=
  [("ManufacturerName", 0x01), ("ManufacturerName", 0x02), ("ModelIdentifier", 0x03),
    ("HWVersion", 0x07), ("ModelIdentifier", 0x08), ("ApplicationVersion", 0x09),
    ("SWBuildID", 0x0A), ("DateCode", 0x0B), ("ProductURL", 0x0D), ("ProductLabel", 0x0E),
    ("SerialNumber", 0x0F), ("ApplicationVersion", 0x12)]

def vendorIdNotSpecified : ℤ := 0xFFFF

/-- What the switch of `reported_updated` stores. A software version is read as `uint32_t` and stored
as `uint16_t`. -/
def storedValue (attributeId : ℕ) (value : Json) : Except CxxException (Option CacheValue) :=
  match attributeId with
  | 0x01 | 0x03 | 0x08 | 0x0A | 0x0B | 0x0D | 0x0E | 0x0F => do
    return some (.string (← value.getString))
  | 0x02 => .ok (some (.int .uint16 vendorIdNotSpecified))
  | 0x07 => do return some (.int .uint16 (← value.getInt .uint16))
  | 0x09 => do return some (.int .uint16 (IntType.uint16.cast (← value.getInt .uint32)))
  | _ => .ok none

def reportedUpdated : ReportedUpdated :=
  fun cache endpointId cluster attributeName value =>
    if cluster = "Basic" then
      match basicInformationMap.lookup attributeName with
      | none => .ok (cache, [])
      | some attributeId => do
        match ← storedValue attributeId value with
        | none => return (cache, [])
        | some v =>
          return (cache.set (attrPath endpointId attributeId) v, [attrPath endpointId attributeId])
    else if cluster = "NameAndLocation" ∧ attributeName = "Name" then do
      let name ← value.getString
      return (cache.set (nodeLabel endpointId) (.string name), [nodeLabel endpointId])
    else .ok (cache, [])

/-- The attribute that a topic is for. -/
def reportedAttribute (cluster attributeName : String) : Option ℕ :=
  if cluster = "Basic" then basicInformationMap.lookup attributeName
  else if cluster = "NameAndLocation" ∧ attributeName = "Name" then some 0x05
  else none

/-- What is stored for the attribute. -/
def convertedValue (attributeId : ℕ) (value : Json) : Except CxxException (Option CacheValue) :=
  if attributeId = 0x05 then do return some (.string (← value.getString))
  else storedValue attributeId value

/-- The versions, of which that of the software is converted to its own type and then stored. -/
def integerAttribute (cluster attributeName : String) : Option IntegerAttribute :=
  match reportedAttribute cluster attributeName with
  | some 0x07 => some ⟨clusterId, 0x07, false, .uint16, .uint16⟩
  | some 0x09 => some ⟨clusterId, 0x09, false, .uint32, .uint16⟩
  | _ => none

/-- What a message sets an attribute to. -/
def report (cluster attributeName : String) (parsed : Except ParseFailure Json) :
    Option (ℕ × CacheValue) :=
  match parsed, reportedAttribute cluster attributeName with
  | .ok jsn, some attributeId =>
    match (jsn.subscript "value").bind (convertedValue attributeId) with
    | .ok (some v) => some (attributeId, v)
    | _ => none
  | _, _ => none

/-- `unify_node_reachable_state_update`: `reachable` is assigned before the listeners are told of a
change of state. -/
def unifyNodeReachableStateUpdate {Content : Type} (cache : AttributeCache)
    (ep : BridgedEndpoint Content) (update : Update) : AttributeCache :=
  match update with
  | .nodeStateChanged => cache.set (reachable ep.matterEndpoint) (.bool (ep.reachable.getD false))
  | .nodeAdded | .nodeDeleted => cache

/-- The types that `Read` gets the attributes with. -/
def readAlternative : (attributeId : ℕ) → Option Alternative
  | 0x01 | 0x03 | 0x05 | 0x08 | 0x0A | 0x0B | 0x0D | 0x0E | 0x0F => some .string
  | 0x02 | 0x07 => some (.int .uint16)
  | 0x09 => some (.int .uint32)
  | 0x11 => some .bool
  | _ => none

/-- `CharSpan::fromCharString` of the `c_str()` of a string: what is in front of the first NUL. -/
def fromCString : CacheValue → CacheValue
  | .string (.utf8 s) => .string (.utf8 (String.ofList (s.toList.takeWhile (· ≠ Char.ofNat 0))))
  | .string (.malformed bytes) => .string (.malformed (bytes.takeWhile (· ≠ 0)))
  | v => v

/-- `Read`. It catches no `bad_variant_access`. -/
def read (cache : AttributeCache) (path : AttrPath) : Except CxxException ReadResult :=
  if path.clusterId ≠ clusterId then .ok (.failed .invalidArgument)
  else
    match path.attributeId with
    | 0xFFFC => .ok (.number .uint32 0)
    | 0xFFFD => .ok (.number .uint16 3)
    | 0xFFFA => .ok (.encode (.events []))
    | attributeId =>
      match readAlternative attributeId with
      | none => .ok ⟨.noError, none⟩
      | some alt => do
        return match ← cache.get alt path with
        | some v => .encode (.value (fromCString v))
        | none => .failed .noMessageHandler

theorem read_congr {c c' : AttributeCache} {path : AttrPath} (h : c path = c' path) :
    read c path = read c' path := by
  unfold read
  simp only [AttributeCache.get_congr h]

section Reports

variable {c : AttributeCache} {endpointId : ℕ} {cluster attributeName : String} {value : Json}
  {attributeId : ℕ}

theorem reportedUpdated_of_none (h : reportedAttribute cluster attributeName = none) :
    reportedUpdated c endpointId cluster attributeName value = .ok (c, []) := by
  unfold reportedAttribute at h
  unfold reportedUpdated
  split_ifs at h ⊢
  · rw [h]
  · rfl

theorem lookup_ne_nodeLabel (h : basicInformationMap.lookup attributeName = some attributeId) :
    attributeId ≠ 0x05 := by
  obtain ⟨before, after, hmap, -⟩ := List.lookup_eq_some_iff.mp h
  have hmem : (attributeName, attributeId) ∈ basicInformationMap := by
    rw [hmap]
    exact List.mem_append_right _ List.mem_cons_self
  have hall : ∀ row ∈ basicInformationMap, row.2 ≠ 0x05 := by decide
  exact hall _ hmem

theorem reportedUpdated_of_some (h : reportedAttribute cluster attributeName = some attributeId) :
    reportedUpdated c endpointId cluster attributeName value =
      (convertedValue attributeId value).map fun stored =>
        stored.elim (c, []) fun v =>
          (c.set (attrPath endpointId attributeId) v, [attrPath endpointId attributeId]) := by
  unfold reportedAttribute at h
  unfold reportedUpdated convertedValue
  split_ifs at h ⊢ with hcluster hlabel hname
  · exact absurd hlabel (lookup_ne_nodeLabel h)
  · rw [h]
    dsimp only
    cases storedValue attributeId value with
    | error e => rfl
    | ok stored => cases stored <;> rfl
  · cases h
    cases value.getString <;> rfl
  · cases h
    exact absurd rfl ‹_›

/-- A report sets an attribute of its endpoint, whatever the cache holds, or nothing. -/
theorem reportedUpdated_cases (endpointId : ℕ) (cluster attributeName : String) (value : Json) :
    (∃ e, ∀ c, reportedUpdated c endpointId cluster attributeName value = .error e) ∨
      (∀ c, reportedUpdated c endpointId cluster attributeName value = .ok (c, [])) ∨
      ∃ attributeId v, ∀ c, reportedUpdated c endpointId cluster attributeName value =
        .ok (c.set (attrPath endpointId attributeId) v, [attrPath endpointId attributeId]) := by
  cases hid : reportedAttribute cluster attributeName with
  | none => exact Or.inr (Or.inl fun c => reportedUpdated_of_none hid)
  | some attributeId =>
    simp only [reportedUpdated_of_some hid]
    cases convertedValue attributeId value with
    | error e => exact Or.inl ⟨e, fun c => rfl⟩
    | ok stored =>
      cases stored with
      | none => exact Or.inr (Or.inl fun c => rfl)
      | some v => exact Or.inr (Or.inr ⟨attributeId, v, fun c => rfl⟩)

/-- A version is converted as an integer, the other attributes as texts, or nothing is stored of what is
reported. -/
theorem convertedValue_cases (h : reportedAttribute cluster attributeName = some attributeId)
    (value : Json) :
    (∃ r, integerAttribute cluster attributeName = some r ∧
        r = ⟨clusterId, attributeId, false, r.type, r.stored⟩ ∧
        convertedValue attributeId value =
          (value.getInt r.type).map fun n => some (.int r.stored (r.stored.cast n))) ∨
      integerAttribute cluster attributeName = none ∧
        (convertedValue attributeId value = value.getString.map (fun s => some (.string s)) ∨
          ∃ stored, convertedValue attributeId value = .ok stored) := by
  by_cases hhardware : attributeId = 0x07
  · subst hhardware
    refine Or.inl ⟨⟨clusterId, 0x07, false, .uint16, .uint16⟩, by simp [integerAttribute, h], rfl, ?_⟩
    cases hint : value.getInt .uint16 with
    | error e => simp [convertedValue, storedValue, hint, Except.map, Bind.bind, Except.bind]
    | ok n =>
      have hcast : IntType.uint16.cast n = n := IntType.cast_of_inRange (Json.getInt_inRange hint)
      simp [convertedValue, storedValue, hint, Except.map, Bind.bind, Except.bind, hcast, Pure.pure,
        Except.pure]
  · by_cases hsoftware : attributeId = 0x09
    · subst hsoftware
      refine Or.inl ⟨⟨clusterId, 0x09, false, .uint32, .uint16⟩, by simp [integerAttribute, h], rfl, ?_⟩
      cases hint : value.getInt .uint32 with
      | error e => simp [convertedValue, storedValue, hint, Except.map, Bind.bind, Except.bind]
      | ok n =>
        simp [convertedValue, storedValue, hint, Except.map, Bind.bind, Except.bind, Pure.pure,
          Except.pure]
    · refine Or.inr ⟨?_, ?_⟩
      · unfold integerAttribute
        rw [h]
        split
        · exact absurd (Option.some.inj ‹_›) hhardware
        · exact absurd (Option.some.inj ‹_›) hsoftware
        · rfl
      · unfold convertedValue storedValue
        split_ifs
        · exact Or.inl rfl
        · split
          all_goals first
            | exact Or.inl rfl
            | exact Or.inr ⟨_, rfl⟩
            | exact absurd rfl ‹_›

theorem read_of_stored {v : CacheValue}
    (halt : readAlternative attributeId = some v.alternative)
    (h : c (attrPath endpointId attributeId) = some v) :
    read c (attrPath endpointId attributeId) = .ok (.encode (.value (fromCString v))) := by
  have hget : c.get v.alternative (attrPath endpointId attributeId) = .ok (some v) := by
    unfold AttributeCache.get
    rw [h]
    exact if_pos rfl
  generalize v.alternative = alt at halt hget
  unfold readAlternative at halt
  split at halt <;> cases halt <;>
    · simp only [read, readAlternative, attrPath] at hget ⊢
      rw [if_neg (not_not_intro rfl), hget]
      rfl

theorem read_of_missing {alt : Alternative} (halt : readAlternative attributeId = some alt)
    (h : c (attrPath endpointId attributeId) = none) :
    read c (attrPath endpointId attributeId) = .ok (.failed .noMessageHandler) := by
  have hget : c.get alt (attrPath endpointId attributeId) = .ok none := by
    unfold AttributeCache.get
    rw [h]
  unfold readAlternative at halt
  split at halt <;> cases halt <;>
    · simp only [read, readAlternative, attrPath] at hget ⊢
      rw [if_neg (not_not_intro rfl), hget]
      rfl

theorem integerAttribute_hardwareVersion : integerAttribute "Basic" "HWVersion" =
    some ⟨clusterId, 0x07, false, .uint16, .uint16⟩ := by
  decide

theorem integerAttribute_eq_some {r : IntegerAttribute}
    (h : integerAttribute cluster attributeName = some r) :
    reportedAttribute cluster attributeName = some r.attributeId ∧
      r = ⟨clusterId, r.attributeId, false, r.type, .uint16⟩ ∧
      (r.type = .uint16 ∨ r.type = .uint32) := by
  unfold integerAttribute at h
  split at h
  · next hid =>
    cases h
    exact ⟨hid, rfl, Or.inl rfl⟩
  · next hid =>
    cases h
    exact ⟨hid, rfl, Or.inr rfl⟩
  · cases h

theorem convertedValue_error {e : CxxException}
    (h : reportedAttribute cluster attributeName = some attributeId)
    (he : convertedValue attributeId value = .error e) :
    e.caughtByReport = true ↔ ¬ value.Undefined (integerAttribute cluster attributeName) := by
  rcases convertedValue_cases h value with ⟨r, hr, -, hconverted⟩ | ⟨hnone, hconverted⟩
  · rw [hconverted] at he
    cases hint : value.getInt r.type with
    | ok n =>
      rw [hint] at he
      cases he
    | error e' =>
      rw [hint] at he
      cases he
      rcases Json.getInt_error hint with rfl | ⟨rfl, q, hvalue, hrange⟩
      · refine iff_of_true rfl ?_
        rintro ⟨q, r', rfl, hr', hrange⟩
        cases hr.symm.trans hr'
        simp only [Json.getInt, hrange, if_false] at hint
        cases hint
      · exact iff_of_false Bool.false_ne_true (not_not_intro ⟨q, r, hvalue, hr, hrange⟩)
  · have htype : e = .jsonTypeError := by
      rcases hconverted with hconverted | ⟨stored, hconverted⟩
      · rw [hconverted] at he
        cases value with
        | string s => cases he
        | null | integer | float | boolean | array | object =>
          cases he
          rfl
      · cases hconverted.symm.trans he
    rw [htype]
    refine iff_of_true rfl ?_
    rintro ⟨q, r, -, hr, -⟩
    cases hnone.symm.trans hr

theorem convertedValue_of_undefined (h : reportedAttribute cluster attributeName = some attributeId)
    (hundefined : value.Undefined (integerAttribute cluster attributeName)) :
    convertedValue attributeId value = .error .undefined := by
  obtain ⟨q, r, rfl, hr, hrange⟩ := hundefined
  rcases convertedValue_cases h (.float q) with ⟨r', hr', -, hconverted⟩ | ⟨hnone, -⟩
  · cases hr.symm.trans hr'
    rw [hconverted]
    simp only [Json.getInt, hrange, if_false]
    rfl
  · cases hnone.symm.trans hr

theorem handleReport_of_value {jsn : Json} (hcluster : cluster ∈ ["Basic", "NameAndLocation"])
    (hvalue : jsn.subscript "value" = .ok value) :
    applyRegisteredCallback (cluster ++ "::" ++ attributeName) value endpointId c = .ok c ∧
      (∀ e, reportedUpdated c endpointId cluster attributeName value = .error e →
        handleReport reportedUpdated c endpointId cluster attributeName (.ok jsn) = .failed c e) ∧
      ∀ r, reportedUpdated c endpointId cluster attributeName value = .ok r →
        handleReport reportedUpdated c endpointId cluster attributeName (.ok jsn) =
          ⟨r.1, r.2, none⟩ := by
  have hnames : ∀ cluster ∈ ["Basic", "NameAndLocation"],
      ':' ∉ cluster.toList ∧ cluster ≠ "WindowCovering" := by
    decide
  obtain ⟨hcolon, hne⟩ := hnames cluster hcluster
  have hcallback := applyRegisteredCallback_of_ne hcolon hne attributeName value endpointId c
  refine ⟨hcallback, fun e he => ?_, fun r hr => ?_⟩
  · simp only [handleReport, hvalue, hcallback, he]
  · simp only [handleReport, hvalue, hcallback, hr]

theorem handleReport_of_no_report (hcluster : cluster ∈ ["Basic", "NameAndLocation"])
    {parsed : Except ParseFailure Json} (h : report cluster attributeName parsed = none) :
    ∃ e, handleReport reportedUpdated c endpointId cluster attributeName parsed = ⟨c, [], e⟩ ∧
      (e = none ↔ Convertible (integerAttribute cluster attributeName) parsed) := by
  by_cases hparsed : ∃ jsn value, parsed = .ok jsn ∧ jsn.subscript "value" = .ok value
  · obtain ⟨jsn, value, rfl, hvalue⟩ := hparsed
    rw [convertible_iff hvalue]
    obtain ⟨-, herror, hok⟩ := @handleReport_of_value c endpointId cluster attributeName value jsn
      hcluster hvalue
    cases hid : reportedAttribute cluster attributeName with
    | none =>
      refine ⟨none, hok _ (reportedUpdated_of_none hid), iff_of_true rfl ?_⟩
      rintro ⟨q, r, -, hr, -⟩
      simp only [integerAttribute, hid] at hr
      cases hr
    | some attributeId =>
      have hupdated := @reportedUpdated_of_some c endpointId cluster attributeName value _ hid
      cases hconverted : convertedValue attributeId value with
      | error e =>
        rw [hconverted] at hupdated
        rw [herror e hupdated, ← convertedValue_error hid hconverted]
        exact ReportResult.failed_exception c e
      | ok stored =>
        rw [hconverted] at hupdated
        cases stored with
        | none =>
          refine ⟨none, hok _ hupdated, iff_of_true rfl fun hundefined => ?_⟩
          cases hconverted.symm.trans (convertedValue_of_undefined hid hundefined)
        | some v =>
          have hbind : (jsn.subscript "value").bind (convertedValue attributeId) = .ok (some v) := by
            rw [hvalue]
            exact hconverted
          simp only [report, hid, hbind] at h
          cases h
  · push Not at hparsed
    exact handleReport_of_no_value _ _ _ _ _ hparsed

theorem report_eq_some_iff {parsed : Except ParseFailure Json} {v : CacheValue} :
    report cluster attributeName parsed = some (attributeId, v) ↔
      ∃ jsn value, parsed = .ok jsn ∧ jsn.subscript "value" = .ok value ∧
        reportedAttribute cluster attributeName = some attributeId ∧
        convertedValue attributeId value = .ok (some v) := by
  constructor
  · intro h
    unfold report at h
    split at h
    · next jsn id hid =>
      cases hvalue : jsn.subscript "value" with
      | error e =>
        rw [hvalue] at h
        cases h
      | ok value =>
        rw [hvalue] at h
        split at h
        · next w hw =>
          cases h
          exact ⟨jsn, value, rfl, hvalue, hid, hw⟩
        · cases h
    · cases h
  · rintro ⟨jsn, value, rfl, hvalue, hid, hconverted⟩
    have hbind : (jsn.subscript "value").bind (convertedValue attributeId) = .ok (some v) := by
      rw [hvalue]
      exact hconverted
    simp only [report, hid, hbind]

theorem handleReport_of_report (hcluster : cluster ∈ ["Basic", "NameAndLocation"])
    {parsed : Except ParseFailure Json} {v : CacheValue}
    (h : report cluster attributeName parsed = some (attributeId, v)) :
    ∃ jsn value, parsed = .ok jsn ∧ jsn.subscript "value" = .ok value ∧
      applyRegisteredCallback (cluster ++ "::" ++ attributeName) value endpointId c = .ok c ∧
      handleReport reportedUpdated c endpointId cluster attributeName parsed =
        ⟨c.set (attrPath endpointId attributeId) v, [attrPath endpointId attributeId], none⟩ := by
  obtain ⟨jsn, value, rfl, hvalue, hid, hconverted⟩ := report_eq_some_iff.mp h
  obtain ⟨hcallback, -, hok⟩ := @handleReport_of_value c endpointId cluster attributeName value jsn
    hcluster hvalue
  refine ⟨jsn, value, rfl, hvalue, hcallback, ?_⟩
  have hupdated := @reportedUpdated_of_some c endpointId cluster attributeName value _ hid
  rw [hconverted] at hupdated
  exact hok _ hupdated

end Reports

end BridgedDeviceBasicInfoAttributeAccess

end UnifyMatterBridge
