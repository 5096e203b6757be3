import UnifyMatterBridge.Lib.Execution
import UnifyMatterBridge.Lib.NameTable
import UnifyMatterBridge.Attribute.BasicInformation

/-! What is read of the Bridged Device Basic Information cluster after any reports: the rows of
`basic_information_map` are read as they were reported, if no two of them have one name. -/
namespace UnifyMatterBridge.BridgedDeviceBasicInfoAttributeAccess

/-- What an attribute is derived from: an attribute of the Unify clusters `Basic` and
`NameAndLocation`, or the state of the node. -/
inductive Source where
  | basic (attributeName : String)
  | nameAndLocation (attributeName : String)
  | nodeState
  deriving DecidableEq, Repr

/-- The attributes of the cluster with their sources: the rows of `basic_information_map`,
`NodeLabel` and `Reachable`. -/
def sources : List (Source × ℕ) :=
  basicInformationMap.map (fun row => (.basic row.1, row.2)) ++
    [(.nameAndLocation "Name", 0x05), (.nodeState, 0x11)]

/-- The JSON type of an attribute of `Basic`: the versions are integers, the other rows are strings. -/
def HasType (attributeName : String) (value : Json) : Prop :=
  if attributeName = "HWVersion" ∨ attributeName = "ApplicationVersion" then
    ∃ n : ℤ, value = .integer n
  else attributeName ∈ basicInformationMap.map Prod.fst → ∃ s, value = .string (.utf8 s)

/-- What is to be read of an attribute whose source was reported with a value. There is no vendor id
for the name of a manufacturer. -/
def derived (attributeId : ℕ) : Json → Option CacheValue
  | .string s => some (if attributeId = 0x02 then .int .uint16 vendorIdNotSpecified else .string s)
  | .integer n =>
    match attributeId with
    | 0x07 => some (.int .uint16 n)
    | 0x09 => some (.int .uint32 n)
    | _ => some (.string (.utf8 (toString n)))
  | .boolean b => some (.bool b)
  | _ => none

structure BasicReport where
  attributeName : String
  value : Json
  typed : HasType attributeName value

/-- What reaches the translator. The attributes of `NameAndLocation` are strings. -/
inductive Event (Content : Type) where
  | basic (endpointId : ℕ) (report : BasicReport)
  | nameAndLocation (endpointId : ℕ) (attributeName text : String)
  | nodeState (ep : BridgedEndpoint Content)

structure State where
  cache : AttributeCache
  reported : ℕ → Source → Option Json

namespace Event

variable {Content : Type}

def endpointId : Event Content → ℕ
  | .basic endpointId _ | .nameAndLocation endpointId _ _ => endpointId
  | .nodeState ep => ep.matterEndpoint

def source : Event Content → Source
  | .basic _ report => .basic report.attributeName
  | .nameAndLocation _ attributeName _ => .nameAndLocation attributeName
  | .nodeState _ => .nodeState

def value : Event Content → Json
  | .basic _ report => report.value
  | .nameAndLocation _ _ text => .string (.utf8 text)
  | .nodeState ep => .boolean (ep.reachable.getD false)

/-- The attribute that an event sets, and to what. -/
def written : Event Content → Option (ℕ × CacheValue)
  | .basic _ report =>
    match basicInformationMap.lookup report.attributeName with
    | none => none
    | some attributeId =>
      match storedValue attributeId report.value with
      | .ok (some v) => some (attributeId, v)
      | .ok none | .error _ => none
  | .nameAndLocation _ attributeName text =>
    if attributeName = "Name" then some (0x05, .string (.utf8 text)) else none
  | .nodeState ep => some (0x11, .bool (ep.reachable.getD false))

end Event

section Step

variable {Content : Type}

def afterReport (cache : AttributeCache) (endpointId : ℕ) (cluster attributeName : String)
    (value : Json) : AttributeCache :=
  (AttributeTranslatorInterface.handleReport reportedUpdated cache endpointId cluster attributeName
    (.ok (.object [("value", value)]))).cache

def stepCache (cache : AttributeCache) : Event Content → AttributeCache
  | .basic endpointId report =>
    afterReport cache endpointId "Basic" report.attributeName report.value
  | .nameAndLocation endpointId attributeName text =>
    afterReport cache endpointId "NameAndLocation" attributeName (.string (.utf8 text))
  | .nodeState ep => unifyNodeReachableStateUpdate cache ep .nodeStateChanged

def step (s : State) (ev : Event Content) : State where
  cache := stepCache s.cache ev
  reported endpointId source :=
    if endpointId = ev.endpointId ∧ source = ev.source then some ev.value
    else s.reported endpointId source

def start : State := ⟨AttributeCache.empty, fun _ _ => none⟩

/-- Every attribute whose source was reported is read as what is derived from the last report. -/
def ReadsReports (s : State) : Prop :=
  ∀ endpointId, ∀ row ∈ sources, ∀ value, s.reported endpointId row.1 = some value →
    ∀ v, derived row.2 value = some v →
      read s.cache (attrPath endpointId row.2) = .ok (.encode (.value v))

/-- The event does not name two rows of `basic_information_map`, a text that is stored has no NUL, and
a hardware version has sixteen bits. -/
def Plain : Event Content → Prop
  | .basic _ report =>
    basicInformationMap.countP (fun row => row.1 = report.attributeName) ≤ 1 ∧
      (report.attributeName ∈ basicInformationMap.map Prod.fst →
        ∀ s, report.value = .string (.utf8 s) → Char.ofNat 0 ∉ s.toList) ∧
      (report.attributeName = "HWVersion" →
        ∀ n, report.value = .integer n → IntType.uint16.InRange n)
  | .nameAndLocation _ attributeName text => attributeName = "Name" → Char.ofNat 0 ∉ text.toList
  | .nodeState _ => True

end Step

section Written

variable {Content : Type} {cache : AttributeCache} {s : State} {ev : Event Content}
  {attributeId endpointId : ℕ} {v : CacheValue}

theorem afterReport_eq {cluster : String} (hcluster : cluster = "Basic" ∨
    cluster = "NameAndLocation") (endpointId : ℕ) (attributeName : String) (value : Json) :
    afterReport cache endpointId cluster attributeName value =
      match reportedUpdated cache endpointId cluster attributeName value with
      | .ok (cache', _) => cache'
      | .error _ => cache := by
  have hmem : cluster ∈ ["Basic", "NameAndLocation"] := by
    simpa using hcluster
  have hvalue : (Json.object [("value", value)]).subscript "value" = .ok value := rfl
  obtain ⟨-, herror, hok⟩ :=
    @handleReport_of_value cache endpointId cluster attributeName value _ hmem hvalue
  cases hupdated : reportedUpdated cache endpointId cluster attributeName value with
  | error e => rw [afterReport, herror e hupdated]; rfl
  | ok r => rw [afterReport, hok r hupdated]

theorem stepCache_eq : stepCache cache ev =
    match ev.written with
    | none => cache
    | some (attributeId, v) => cache.set (attrPath ev.endpointId attributeId) v := by
  cases ev with
  | basic endpointId report =>
    unfold stepCache Event.written
    dsimp only
    rw [afterReport_eq (Or.inl rfl), reportedUpdated, if_pos rfl]
    cases basicInformationMap.lookup report.attributeName with
    | none => rfl
    | some attributeId =>
      dsimp only
      cases storedValue attributeId report.value with
      | error e => rfl
      | ok stored => cases stored <;> rfl
  | nameAndLocation endpointId attributeName text =>
    unfold stepCache Event.written
    dsimp only
    rw [afterReport_eq (Or.inr rfl), reportedUpdated, if_neg (by decide)]
    by_cases hname : attributeName = "Name"
    · rw [if_pos ⟨rfl, hname⟩, if_pos hname]
      rfl
    · rw [if_neg fun h => hname h.2, if_neg hname]
  | nodeState ep => rfl

theorem mem_sources_of_written (h : ev.written = some (attributeId, v)) :
    (ev.source, attributeId) ∈ sources ∧ attributeId ≠ 0x02 ∧ attributeId ≠ 0x08 := by
  cases ev with
  | basic endpointId report =>
    unfold Event.written at h
    have hfirst : ∀ row ∈ basicInformationMap, basicInformationMap.lookup row.1 ≠ some 0x02 ∧
        basicInformationMap.lookup row.1 ≠ some 0x08 := by decide
    dsimp only at h
    split at h
    · cases h
    · next attributeId' hlookup =>
      split at h
      · cases h
        have hmem := NameTable.mem_of_lookup hlookup
        refine ⟨List.mem_append_left _ (List.mem_map.mpr ⟨_, hmem, rfl⟩), ?_, ?_⟩
        · rintro rfl
          exact (hfirst _ hmem).1 hlookup
        · rintro rfl
          exact (hfirst _ hmem).2 hlookup
      · cases h
      · cases h
  | nameAndLocation endpointId attributeName text =>
    obtain ⟨rfl, hwritten⟩ := Option.ite_none_right_eq_some.mp h
    cases hwritten
    have hrow : (Source.nameAndLocation "Name", 0x05) ∈ sources ∧ 0x05 ≠ 0x02 ∧ 0x05 ≠ 0x08 := by
      decide
    exact hrow
  | nodeState ep =>
    cases h
    have hrow : (Source.nodeState, 0x11) ∈ sources ∧ 0x11 ≠ 0x02 ∧ 0x11 ≠ 0x08 := by decide
    exact hrow

theorem sources_inj : ∀ row ∈ sources, ∀ row' ∈ sources, row.2 = row'.2 → row.1 = row'.1 := by
  decide

end Written

section Run

variable {Content : Type} {s : State} {ev : Event Content} {attributeId endpointId : ℕ}
  {v : CacheValue}

/-- What no row can set: the second attributes of `ManufacturerName` and `ModelIdentifier`. -/
def Shadowed (s : State) : Prop :=
  ∀ endpointId, s.cache (attrPath endpointId 0x02) = none ∧
    s.cache (attrPath endpointId 0x08) = none

theorem cache_step_of_ne (h : ∀ v, ev.written = some (attributeId, v) → endpointId ≠ ev.endpointId) :
    (step s ev).cache (attrPath endpointId attributeId) =
      s.cache (attrPath endpointId attributeId) := by
  have hcache : (step s ev).cache = stepCache s.cache ev := rfl
  rw [hcache, stepCache_eq]
  cases hwritten : ev.written with
  | none => rfl
  | some w =>
    obtain ⟨attributeId', v⟩ := w
    have hne : attrPath endpointId attributeId ≠ attrPath ev.endpointId attributeId' := by
      intro heq
      have hid : attributeId = attributeId' := congrArg AttrPath.attributeId heq
      rw [← hid] at hwritten
      exact h v hwritten (congrArg AttrPath.endpointId heq)
    dsimp only
    rw [AttributeCache.set_apply, if_neg hne]

theorem cache_step_of_written (h : ev.written = some (attributeId, v)) :
    (step s ev).cache (attrPath ev.endpointId attributeId) = some v := by
  have hcache : (step s ev).cache = stepCache s.cache ev := rfl
  rw [hcache, stepCache_eq, h]
  dsimp only
  rw [AttributeCache.set_apply, if_pos rfl]

theorem Shadowed.step (h : Shadowed s) (ev : Event Content) : Shadowed (step s ev) := by
  intro endpointId
  obtain ⟨hvendor, hversion⟩ := h endpointId
  constructor
  · rw [cache_step_of_ne fun v hwritten => absurd rfl (mem_sources_of_written hwritten).2.1]
    exact hvendor
  · rw [cache_step_of_ne fun v hwritten => absurd rfl (mem_sources_of_written hwritten).2.2]
    exact hversion

theorem fromCString_of_plain {text : String} (h : Char.ofNat 0 ∉ text.toList) :
    fromCString (.string (.utf8 text)) = .string (.utf8 text) := by
  have htake : text.toList.takeWhile (· ≠ Char.ofNat 0) = text.toList := by
    rw [List.takeWhile_eq_self_iff]
    intro c hc
    exact decide_eq_true fun heq => h (heq ▸ hc)
  rw [fromCString, htake, String.ofList_toList]

theorem fromCString_ne {text : String} (h : Char.ofNat 0 ∈ text.toList) :
    fromCString (.string (.utf8 text)) ≠ .string (.utf8 text) := by
  intro heq
  have htake : text.toList.takeWhile (· ≠ Char.ofNat 0) = text.toList := by
    have hlist := congrArg String.toList (Text.utf8.inj (CacheValue.string.inj heq))
    rwa [String.toList_ofList] at hlist
  have hne := List.takeWhile_eq_self_iff.mp htake _ h
  exact absurd rfl (of_decide_eq_true hne)

/-- The rows of a name that has no other: one is a number, the others are texts. -/
theorem rows_of_single : ∀ row ∈ basicInformationMap,
    basicInformationMap.countP (fun row' => row'.1 = row.1) ≤ 1 →
      basicInformationMap.lookup row.1 = some row.2 ∧
        (row = ("HWVersion", 0x07) ∨
          row.1 ≠ "HWVersion" ∧ row.1 ≠ "ApplicationVersion" ∧
            row.2 ∈ [0x0A, 0x0B, 0x0D, 0x0E, 0x0F]) := by
  decide

/-- A name with two rows has one that is not effective. -/
theorem rows_of_double : ∀ row ∈ basicInformationMap,
    ¬ basicInformationMap.countP (fun row' => row'.1 = row.1) ≤ 1 →
      row.1 ≠ "ApplicationVersion" ∧ row.1 ≠ "HWVersion" ∧
          ((row.1, 0x02) ∈ basicInformationMap ∨ (row.1, 0x08) ∈ basicInformationMap) ∨
        row.1 = "ApplicationVersion" := by
  decide

theorem mem_sources_basic {attributeName : String} :
    (.basic attributeName, attributeId) ∈ sources ↔
      (attributeName, attributeId) ∈ basicInformationMap := by
  simp [sources]

theorem written_of_text {report : BasicReport} {text : String}
    (hrow : (report.attributeName, attributeId) ∈ basicInformationMap)
    (hcount : basicInformationMap.countP (fun row => row.1 = report.attributeName) ≤ 1)
    (hvalue : report.value = .string (.utf8 text)) (endpointId : ℕ) :
    (Event.basic endpointId report : Event Content).written =
        some (attributeId, .string (.utf8 text)) ∧
      derived attributeId report.value = some (.string (.utf8 text)) ∧
      readAlternative attributeId = some .string := by
  obtain ⟨hlookup, hkind⟩ := rows_of_single _ hrow hcount
  have hid : attributeId ∈ [0x0A, 0x0B, 0x0D, 0x0E, 0x0F] := by
    rcases hkind with heq | ⟨-, -, hid⟩
    · have htyped := report.typed
      unfold HasType at htyped
      rw [if_pos (Or.inl (Prod.mk.inj heq).1)] at htyped
      obtain ⟨n, hnumber⟩ := htyped
      cases hnumber.symm.trans hvalue
    · exact hid
  have hstored : ∀ attributeId ∈ [0x0A, 0x0B, 0x0D, 0x0E, 0x0F],
      storedValue attributeId (.string (.utf8 text)) = .ok (some (.string (.utf8 text))) ∧
        derived attributeId (.string (.utf8 text)) = some (.string (.utf8 text)) ∧
        readAlternative attributeId = some .string := by
    simp only [List.forall_mem_cons]
    exact ⟨⟨rfl, rfl, rfl⟩, ⟨rfl, rfl, rfl⟩, ⟨rfl, rfl, rfl⟩, ⟨rfl, rfl, rfl⟩, ⟨rfl, rfl, rfl⟩,
      fun _ h => absurd h List.not_mem_nil⟩
  obtain ⟨hstored, hderived, halt⟩ := hstored attributeId hid
  rw [← hvalue] at hstored hderived
  refine ⟨?_, hderived, halt⟩
  simp only [Event.written, hlookup, hstored]

theorem written_of_version {report : BasicReport} (hname : report.attributeName = "HWVersion")
    (endpointId : ℕ) : ∃ n : ℤ, report.value = .integer n ∧
      (Event.basic endpointId report : Event Content).written =
        some (0x07, .int .uint16 (IntType.uint16.cast n)) := by
  have htyped := report.typed
  unfold HasType at htyped
  rw [if_pos (Or.inl hname)] at htyped
  obtain ⟨n, hvalue⟩ := htyped
  refine ⟨n, hvalue, ?_⟩
  have hlookup : basicInformationMap.lookup "HWVersion" = some 0x07 := by decide
  have hstored : storedValue 0x07 (.integer n) =
      .ok (some (.int .uint16 (IntType.uint16.cast n))) := rfl
  rw [← hvalue] at hstored
  simp only [Event.written, hname, hlookup, hstored]

/-- A plain report of a source sets the attributes of its rows to what is derived. -/
theorem written_of_plain (hplain : Plain ev) (hrow : (ev.source, attributeId) ∈ sources)
    (hv : derived attributeId ev.value = some v) :
    ev.written = some (attributeId, v) ∧ fromCString v = v ∧
      readAlternative attributeId = some v.alternative := by
  cases ev with
  | basic endpointId report =>
    obtain ⟨hcount, hnul, hrange⟩ := hplain
    have hmem : (report.attributeName, attributeId) ∈ basicInformationMap :=
      mem_sources_basic.mp hrow
    have hname : report.attributeName ∈ basicInformationMap.map Prod.fst :=
      List.mem_map.mpr ⟨_, hmem, rfl⟩
    obtain ⟨hlookup, heq | ⟨hhardware, hversion, hid⟩⟩ := rows_of_single _ hmem hcount
    · obtain ⟨hfirst, rfl⟩ := Prod.mk.inj heq
      obtain ⟨n, hvalue, hwritten⟩ := @written_of_version Content _ hfirst endpointId
      have hderived : derived 0x07 (.integer n) = some v := hvalue ▸ hv
      cases hderived
      rw [IntType.cast_of_inRange (hrange hfirst n hvalue)] at hwritten
      exact ⟨hwritten, rfl, rfl⟩
    · have htyped := report.typed
      unfold HasType at htyped
      rw [if_neg (not_or.mpr ⟨hhardware, hversion⟩)] at htyped
      obtain ⟨text, hvalue⟩ := htyped hname
      obtain ⟨hwritten, hderived, halt⟩ :=
        @written_of_text Content _ _ _ hmem hcount hvalue endpointId
      cases hderived.symm.trans hv
      exact ⟨hwritten, fromCString_of_plain (hnul hname text hvalue), halt⟩
  | nameAndLocation endpointId attributeName text =>
    have hlocation : attributeName = "Name" ∧ attributeId = 0x05 := by
      simpa [sources, Event.source] using hrow
    obtain ⟨rfl, rfl⟩ := hlocation
    cases hv
    exact ⟨rfl, fromCString_of_plain (hplain rfl), rfl⟩
  | nodeState ep =>
    have hrows : ∀ row ∈ sources, row.1 = .nodeState → row.2 = 0x11 := by decide
    have hid : attributeId = 0x11 := hrows _ hrow rfl
    subst hid
    cases hv
    exact ⟨rfl, rfl, rfl⟩

theorem reported_step (s : State) (ev : Event Content) :
    (step s ev).reported ev.endpointId ev.source = some ev.value := if_pos ⟨rfl, rfl⟩

/-- A plain report is read, and leaves what was read. -/
theorem ReadsReports.step_of_plain (h : ReadsReports s) (hplain : Plain ev) :
    ReadsReports (step s ev) := by
  intro endpointId row hrow value hreported v hv
  obtain ⟨source, attributeId⟩ := row
  by_cases hlast : endpointId = ev.endpointId ∧ source = ev.source
  · obtain ⟨rfl, rfl⟩ := hlast
    have hvalue : ev.value = value := Option.some.inj ((reported_step s ev).symm.trans hreported)
    obtain ⟨hwritten, hv', halt⟩ := written_of_plain hplain hrow (hvalue ▸ hv)
    show read (step s ev).cache (attrPath ev.endpointId attributeId) = _
    rw [read_of_stored halt (cache_step_of_written hwritten), hv']
  · have hbefore : s.reported endpointId source = some value :=
      (if_neg hlast).symm.trans hreported
    have hcache : (step s ev).cache (attrPath endpointId attributeId) =
        s.cache (attrPath endpointId attributeId) := by
      apply cache_step_of_ne
      intro w hwritten hendpoint
      have hsource := sources_inj _ hrow _ (mem_sources_of_written hwritten).1 rfl
      exact hlast ⟨hendpoint, hsource⟩
    show read (step s ev).cache (attrPath endpointId attributeId) = _
    rw [read_congr hcache]
    exact h endpointId _ hrow value hbefore v hv

/-- What is derived from a report is not read where a row of its name is not effective. -/
theorem not_readsReports_of_shadowed (h : Shadowed s) (hid : attributeId = 0x02 ∨ attributeId = 0x08)
    (hrow : (ev.source, attributeId) ∈ sources) (hv : derived attributeId ev.value = some v) :
    ¬ ReadsReports (step s ev) := by
  intro hreads
  have hread := hreads _ _ hrow _ (reported_step s ev) v hv
  obtain ⟨hvendor, hversion⟩ := h.step ev ev.endpointId
  have hnone : (step s ev).cache (attrPath ev.endpointId attributeId) = none := by
    rcases hid with rfl | rfl
    · exact hvendor
    · exact hversion
  have halt : ∃ alt, readAlternative attributeId = some alt := by
    rcases hid with rfl | rfl
    · exact ⟨_, rfl⟩
    · exact ⟨_, rfl⟩
  obtain ⟨alt, halt⟩ := halt
  cases (read_of_missing halt hnone).symm.trans hread

theorem not_readsReports_of_nul {text : String} (hnul : Char.ofNat 0 ∈ text.toList)
    (hwritten : ev.written = some (attributeId, .string (.utf8 text)))
    (halt : readAlternative attributeId = some .string)
    (hv : derived attributeId ev.value = some (.string (.utf8 text))) :
    ¬ ReadsReports (step s ev) := by
  intro hreads
  have hread := hreads _ _ (mem_sources_of_written hwritten).1 _ (reported_step s ev) _ hv
  have hcut := read_of_stored halt (@cache_step_of_written _ s _ _ _ hwritten)
  have heq := Except.ok.inj (hcut.symm.trans hread)
  apply fromCString_ne hnul
  injection heq with _ hencoded
  exact Encoded.value.inj (Option.some.inj hencoded)

theorem not_readsReports_of_double {report : BasicReport} (h : Shadowed s) (endpointId : ℕ)
    (hcount : ¬ basicInformationMap.countP (fun row => row.1 = report.attributeName) ≤ 1) :
    ¬ ReadsReports (step s (.basic endpointId report : Event Content)) := by
  have hname : ∃ row ∈ basicInformationMap, row.1 = report.attributeName := by
    obtain ⟨row, hmem, hrow⟩ := List.countP_pos_iff.mp (by omega :
      0 < basicInformationMap.countP (fun row => row.1 = report.attributeName))
    exact ⟨row, hmem, of_decide_eq_true hrow⟩
  obtain ⟨row, hmem, hname⟩ := hname
  have htyped := report.typed
  unfold HasType at htyped
  rcases rows_of_double row hmem (hname ▸ hcount) with ⟨hversion, hhardware, hrow⟩ | hversion
  · rw [hname] at hversion hhardware hrow
    rw [if_neg (not_or.mpr ⟨hhardware, hversion⟩)] at htyped
    obtain ⟨text, hvalue⟩ := htyped (List.mem_map.mpr ⟨row, hmem, hname⟩)
    have hrows : ∀ {attributeId}, (report.attributeName, attributeId) ∈ basicInformationMap →
        ((Event.basic endpointId report : Event Content).source, attributeId) ∈ sources :=
      fun h => mem_sources_basic.mpr h
    rcases hrow with hrow | hrow
    · apply not_readsReports_of_shadowed h (Or.inl rfl) (hrows hrow)
      show derived 0x02 report.value = _
      rw [hvalue]
      rfl
    · apply not_readsReports_of_shadowed h (Or.inr rfl) (hrows hrow)
      show derived 0x08 report.value = _
      rw [hvalue]
      rfl
  · rw [hname] at hversion
    rw [if_pos (Or.inr hversion)] at htyped
    obtain ⟨n, hvalue⟩ := htyped
    -- the row of the unique id
    have hrow : (Source.basic report.attributeName, 0x12) ∈ sources := by
      rw [hversion]
      decide
    have hderived : derived 0x12 report.value = some (.string (.utf8 (toString n))) := by
      rw [hvalue]
      rfl
    intro hreads
    have hread := hreads endpointId _ hrow _ (reported_step s _) _ hderived
    cases hread

theorem not_readsReports_of_version {report : BasicReport} {n : ℤ} (endpointId : ℕ)
    (hname : report.attributeName = "HWVersion") (hvalue : report.value = .integer n)
    (hrange : ¬ IntType.uint16.InRange n) :
    ¬ ReadsReports (step s (.basic endpointId report : Event Content)) := by
  obtain ⟨n', hvalue', hwritten⟩ := @written_of_version Content _ hname endpointId
  cases hvalue.symm.trans hvalue'
  intro hreads
  have hderived : derived 0x07 report.value = some (.int .uint16 n) := by
    rw [hvalue]
    rfl
  have hread := hreads endpointId _ (mem_sources_of_written hwritten).1 _ (reported_step s _) _ hderived
  have halt : readAlternative 0x07 =
      some (CacheValue.int .uint16 (IntType.uint16.cast n)).alternative := rfl
  have hstored := read_of_stored halt (@cache_step_of_written _ s _ _ _ hwritten)
  have heq := Except.ok.inj (hstored.symm.trans hread)
  injection heq with _ hencoded
  obtain ⟨-, hcast⟩ := CacheValue.int.inj (Encoded.value.inj (Option.some.inj hencoded))
  rw [← hcast] at hrange
  exact hrange (IntType.cast_inRange _ _)

/-- A report that is not plain names two rows, stores a text with a NUL, or a version that does not
fit. -/
theorem not_readsReports_of_not_plain (h : Shadowed s) (hplain : ¬ Plain ev) :
    ¬ ReadsReports (step s ev) := by
  cases ev with
  | basic endpointId report =>
    rw [Plain, not_and] at hplain
    by_cases hcount : basicInformationMap.countP (fun row => row.1 = report.attributeName) ≤ 1
    · have hvalues := hplain hcount
      rw [Classical.not_and_iff_not_or_not] at hvalues
      rcases hvalues with htext | hversion
      · push Not at htext
        obtain ⟨hname, text, hvalue, hnul⟩ := htext
        obtain ⟨⟨attributeName, attributeId⟩, hmem, rfl⟩ := List.mem_map.mp hname
        obtain ⟨hwritten, hderived, halt⟩ :=
          @written_of_text Content _ _ _ hmem hcount hvalue endpointId
        exact not_readsReports_of_nul hnul hwritten halt hderived
      · push Not at hversion
        obtain ⟨hname, n, hvalue, hrange⟩ := hversion
        exact not_readsReports_of_version endpointId hname hvalue hrange
    · exact not_readsReports_of_double h endpointId hcount
  | nameAndLocation endpointId attributeName text =>
    obtain ⟨rfl, hnul⟩ := Classical.not_imp.mp hplain
    exact not_readsReports_of_nul (not_not.mp hnul) rfl rfl rfl
  | nodeState ep => exact absurd trivial hplain

theorem readsReports_step_iff (h : Shadowed s) (hreads : ReadsReports s) :
    ReadsReports (step s ev) ↔ Plain ev := by
  constructor
  · intro hstep
    by_contra hplain
    exact not_readsReports_of_not_plain h hplain hstep
  · exact hreads.step_of_plain

/-- In every run of reports, every attribute whose source was reported is read as what is derived
from the last report, in every state reached, if and only if the reports are plain; and no report
ever changes what is read at another endpoint. -/
theorem readsReports_run_iff (evs : List (Event Content)) :
    (EventSystem.Guarded step (fun s ev => ReadsReports (step s ev)) start evs ↔
      ∀ ev ∈ evs, Plain ev) ∧
    ∀ (s : State) (ev : Event Content) (path : AttrPath), path.endpointId ≠ ev.endpointId →
      read (step s ev).cache path = read s.cache path := by
  constructor
  · have hshadowed : Shadowed start := fun endpointId => ⟨rfl, rfl⟩
    have hstart : ReadsReports start := by
      intro endpointId row hrow value hreported
      cases hreported
    have hstep : ∀ (s : State) (ev : Event Content), Shadowed s → ReadsReports s →
        (ReadsReports (step s ev) ↔ Plain ev) := fun s ev => readsReports_step_iff
    rw [EventSystem.guarded_iff_of_step (fun s ev h => Shadowed.step h ev) hstep hshadowed hstart]
    exact EventSystem.guarded_const
  · intro s ev path hne
    obtain ⟨endpointId, clusterId', attributeId⟩ := path
    by_cases hcluster : clusterId' = clusterId
    · subst hcluster
      exact read_congr (cache_step_of_ne fun v _ => hne)
    · unfold read
      rw [if_pos hcluster, if_pos hcluster]

/-- The row of the software version is not effective: it is read as `uint32_t`. -/
theorem not_readsReports_softwareVersion :
    ¬ ∀ evs : List (Event Unit),
      EventSystem.Guarded step (fun s ev => ReadsReports (step s ev)) start evs := by
  intro h
  have htyped : HasType "ApplicationVersion" (.integer 7) := ⟨7, rfl⟩
  have hreads := (h [.basic 2 ⟨"ApplicationVersion", .integer 7, htyped⟩]).1
  have hread := hreads 2 (.basic "ApplicationVersion", 0x09) (by decide) (.integer 7) rfl _ rfl
  cases hread

end Run

end UnifyMatterBridge.BridgedDeviceBasicInfoAttributeAccess
