import UnifyMatterBridge.Attribute.Handling

/-! A reported integer is stored as it is, unless it wraps around. -/
namespace UnifyMatterBridge

section Definitions

structure ReportsInteger (m : DataModel) (msg : SubscribedMessage) (r : IntegerAttribute) (n : ℤ) :
    Prop where
  parsed : ∃ jsn, msg.toTopicMessage.parsed = some (.ok jsn) ∧
    jsn.subscript "value" = .ok (.integer n)
  integerAttribute : msg.integerAttribute m = some r

namespace IntegerAttribute

variable (r : IntegerAttribute) (n : ℤ)

def path (endpointId : ℕ) : AttrPath := ⟨endpointId, r.clusterId, r.attributeId⟩

/-- The integer, or the one below if it is the greatest one of an attribute with another limit. -/
def limited : ℤ :=
  if attributeMaxLimitMismatch r.clusterId r.attributeId ∧ n = r.type.max then r.type.max - 1 else n

/-- The integer wraps around to the greatest one of an attribute with another limit. -/
def Limited : Prop :=
  attributeMaxLimitMismatch r.clusterId r.attributeId = true ∧ n ≡ r.type.max [ZMOD 2 ^ r.type.bits]

/-- The cache holds the reported integer, limited, or what it held before; and no other integer that is
congruent to it. -/
structure NotWrapped (before after : AttributeCache) (path : AttrPath) : Prop where
  storedOrKept : (∃ t, after path = some (.int t (r.limited n))) ∨ after path = before path
  not_congruent : ∀ t v, after path = some (.int t v) → v ≡ n [ZMOD 2 ^ r.type.bits] → v = n

/-- The integer is in range of the type that it is stored with, or wraps around to one that is not
stored or that is stored already. -/
def Harmless (before : AttributeCache) (path : AttrPath) : Prop :=
  r.stored.InRange n ∨
    (¬ r.Limited n ∧ r.nullable = true ∧ n ≡ r.type.null [ZMOD 2 ^ r.type.bits]) ∨
    (r.Limited n ∧ before path = some (.int r.type (r.type.max - 1))) ∨
    (r.stored.max < r.type.cast n ∧ before path = some (.int r.stored (r.stored.cast n)))

end IntegerAttribute

end Definitions

theorem IntType.inRange_null (t : IntType) : t.InRange t.null := by
  cases t <;> decide

theorem IntType.inRange_max (t : IntType) : t.InRange t.max := by
  cases t <;> decide

theorem IntType.inRange_pred_max (t : IntType) : t.InRange (t.max - 1) := by
  cases t <;> decide

theorem IntType.null_ne_pred_max (t : IntType) : t.max - 1 ≠ t.null := by
  cases t <;> decide

section Generated

variable {Table Content : Type} {s : MonitorState Table Content} {m : DataModel}
  {msg : ReportMessage} {endpointId attributeId : ℕ} {info : AttributeInfo} {t : IntType} {n : ℤ}

/-- The report of an integer for a generated attribute. -/
structure ReportsCase (m : DataModel) (msg : ReportMessage) (attributeId : ℕ)
    (info : AttributeInfo) (t : IntType) (n : ℤ) : Prop where
  parsed : ∃ jsn, msg.parsed = some (.ok jsn) ∧ jsn.subscript "value" = .ok (.integer n)
  reportedCase : msg.access.reportedCase m msg.access.clusterName msg.attributeName =
    some (attributeId, info)
  type : info.type = .int t

def ReportMessage.integer (msg : ReportMessage) (attributeId : ℕ) (info : AttributeInfo)
    (t : IntType) : IntegerAttribute :=
  ⟨msg.access.clusterId, attributeId, info.nullable, t, t⟩

theorem ReportsCase.report (h : ReportsCase m msg attributeId info t n) :
    msg.report m = some ⟨attributeId, info,
      .int t ((msg.integer attributeId info t).limited (t.cast n))⟩ := by
  obtain ⟨jsn, hparsed, hvalue⟩ := h.parsed
  rw [ReportMessage.parsed_eq_some hparsed, report_int hvalue h.reportedCase h.type rfl]
  rfl

theorem isNull_int_iff (htype : info.type = .int t) {k : ℤ} :
    info.IsNull (.int t k) ↔ info.nullable = true ∧ k = t.null := by
  simp [AttributeInfo.IsNull, htype, AttributeType.isNullValue]

theorem ReportsCase.handle_apply (h : ReportsCase m msg attributeId info t n)
    (c : StateCache m) (hendpoint : msg.endpoint s = some endpointId) :
    (msg.handle s m c.values).cache (msg.path endpointId attributeId) =
      if info.IsNull (.int t ((msg.integer attributeId info t).limited (t.cast n))) then
        c.values (msg.path endpointId attributeId)
      else some (.int t ((msg.integer attributeId info t).limited (t.cast n))) := by
  obtain ⟨jsn, value, c', -, -, hc', -, hhandle⟩ :=
    ReportMessage.handle_of_report c hendpoint h.report
  rw [hhandle]
  dsimp only
  split_ifs with hnull
  · rw [AttributeInfo.set_of_isNull hnull]
    rcases hc' with hc' | ⟨-, hc'⟩
    · rw [hc']
    · have hne := ReportMessage.path_ne_operationalStatus h.report endpointId
      rw [hc', StateCache.stopped, StateCache.set_values, AttributeCache.set_apply, if_neg hne]
  · rw [AttributeInfo.set_of_not_isNull hnull, AttributeCache.set_apply, if_pos rfl]

theorem IntegerAttribute.limited_of_limited {r : IntegerAttribute} (h : r.Limited n) :
    r.limited (r.type.cast n) = r.type.max - 1 := by
  have hmax : r.type.cast n = r.type.max := (IntType.cast_eq_iff r.type.inRange_max).mpr h.2
  exact if_pos ⟨h.1, hmax⟩

theorem IntegerAttribute.limited_of_not_limited {r : IntegerAttribute} (h : ¬ r.Limited n) :
    r.limited (r.type.cast n) = r.type.cast n := by
  apply if_neg
  intro hmax
  exact h ⟨hmax.1, (IntType.cast_eq_iff r.type.inRange_max).mp hmax.2⟩

theorem ReportsCase.handle_of_limited (h : ReportsCase m msg attributeId info t n)
    (c : StateCache m) (hendpoint : msg.endpoint s = some endpointId)
    (hlimited : (msg.integer attributeId info t).Limited n) :
    (msg.handle s m c.values).cache (msg.path endpointId attributeId) =
      some (.int t (t.max - 1)) := by
  have hmax : (msg.integer attributeId info t).limited (t.cast n) = t.max - 1 :=
    IntegerAttribute.limited_of_limited hlimited
  rw [h.handle_apply c hendpoint, hmax, if_neg]
  intro hnull
  exact t.null_ne_pred_max ((isNull_int_iff h.type).mp hnull).2

theorem ReportsCase.handle_of_null (h : ReportsCase m msg attributeId info t n)
    (c : StateCache m) (hendpoint : msg.endpoint s = some endpointId)
    (hlimited : ¬ (msg.integer attributeId info t).Limited n) (hnullable : info.nullable = true)
    (hnull : n ≡ t.null [ZMOD 2 ^ t.bits]) :
    (msg.handle s m c.values).cache (msg.path endpointId attributeId) =
      c.values (msg.path endpointId attributeId) := by
  have hcast : t.cast n = t.null := (IntType.cast_eq_iff t.inRange_null).mpr hnull
  have hkept : (msg.integer attributeId info t).limited (t.cast n) = t.cast n :=
    IntegerAttribute.limited_of_not_limited hlimited
  rw [h.handle_apply c hendpoint, hkept, if_pos]
  exact (isNull_int_iff h.type).mpr ⟨hnullable, hcast⟩

theorem ReportsCase.handle_of_stored (h : ReportsCase m msg attributeId info t n)
    (c : StateCache m) (hendpoint : msg.endpoint s = some endpointId)
    (hlimited : ¬ (msg.integer attributeId info t).Limited n)
    (hnull : ¬ (info.nullable = true ∧ n ≡ t.null [ZMOD 2 ^ t.bits])) :
    (msg.handle s m c.values).cache (msg.path endpointId attributeId) =
      some (.int t (t.cast n)) := by
  have hkept : (msg.integer attributeId info t).limited (t.cast n) = t.cast n :=
    IntegerAttribute.limited_of_not_limited hlimited
  rw [h.handle_apply c hendpoint, hkept, if_neg]
  rw [isNull_int_iff h.type, IntType.cast_eq_iff t.inRange_null]
  exact hnull

theorem ReportsCase.inRange_of_entry (h : ReportsCase m msg attributeId info t n)
    (c : StateCache m) {t' : IntType} {v : ℤ}
    (hv : c.values (msg.path endpointId attributeId) = some (.int t' v)) :
    t' = t ∧ t.InRange v ∧ ¬ info.IsNull (.int t v) := by
  obtain ⟨-, hinfo, -⟩ := reportedCase_eq_some h.reportedCase
  have hholds := c.holds _ _ _ hinfo hv
  have htype : Alternative.int t' = .int t := by
    have htyped := hholds.typed
    rw [h.type] at htyped
    exact htyped
  cases htype
  exact ⟨rfl, hholds.inRange, hholds.not_isNull⟩

theorem IntegerAttribute.inRange_of_limited {r : IntegerAttribute} {k : ℤ} (hk : r.type.InRange k)
    (h : k = r.limited n) : r.type.InRange n := by
  unfold limited at h
  split_ifs at h with hmax
  · rw [hmax.2]
    exact r.type.inRange_max
  · rw [← h]
    exact hk

theorem ReportsCase.notWrapped_of_inRange (h : ReportsCase m msg attributeId info t n)
    (c : StateCache m) (hendpoint : msg.endpoint s = some endpointId) (hrange : t.InRange n) :
    (msg.integer attributeId info t).NotWrapped n c.values (msg.handle s m c.values).cache
      (msg.path endpointId attributeId) := by
  have hcast : t.cast n = n := IntType.cast_of_inRange hrange
  have happly := h.handle_apply c hendpoint
  rw [hcast] at happly
  constructor
  · rw [happly]
    split_ifs
    · exact Or.inr rfl
    · exact Or.inl ⟨t, rfl⟩
  · intro t' v hv hmod
    rw [happly] at hv
    split_ifs at hv
    · obtain ⟨-, hvrange, -⟩ := h.inRange_of_entry c hv
      exact IntType.eq_of_modEq hvrange hrange hmod
    · have hvrange : t.InRange v := by
        have hlimited : (limitMax msg.access.clusterId attributeId (.int t n)).InRange :=
          limitMax_inRange hrange
        have hstored : limitMax msg.access.clusterId attributeId (.int t n) = .int t' v :=
          Option.some.inj hv
        cases hstored
        exact hlimited
      exact IntType.eq_of_modEq hvrange hrange hmod

theorem ReportsCase.notWrapped_of_harmless (h : ReportsCase m msg attributeId info t n)
    (c : StateCache m) (hendpoint : msg.endpoint s = some endpointId)
    (hharmless : (msg.integer attributeId info t).Harmless n c.values
      (msg.path endpointId attributeId)) :
    (msg.integer attributeId info t).NotWrapped n c.values (msg.handle s m c.values).cache
      (msg.path endpointId attributeId) := by
  rcases hharmless with hrange | ⟨hlimited, hnullable, hnull⟩ | ⟨hlimited, hbefore⟩ | ⟨hmax, -⟩
  · exact h.notWrapped_of_inRange c hendpoint hrange
  · have hkept := h.handle_of_null c hendpoint hlimited hnullable hnull
    constructor
    · exact Or.inr hkept
    · intro t' v hv hmod
      rw [hkept] at hv
      obtain ⟨-, hvrange, hnotNull⟩ := h.inRange_of_entry c hv
      have heq : v = t.null := IntType.eq_of_modEq hvrange t.inRange_null (hmod.trans hnull)
      exact absurd ((isNull_int_iff h.type).mpr ⟨hnullable, heq⟩) hnotNull
  · have hstored := h.handle_of_limited c hendpoint hlimited
    constructor
    · exact Or.inr (hstored.trans hbefore.symm)
    · intro t' v hv hmod
      rw [hstored] at hv
      cases hv
      have heq : t.max - 1 = t.max :=
        IntType.eq_of_modEq t.inRange_pred_max t.inRange_max (hmod.trans hlimited.2)
      omega
  · have hrange := (t.cast_inRange n).2
    exact absurd hmax (not_lt.mpr hrange)

theorem ReportsCase.harmless_of_notWrapped (h : ReportsCase m msg attributeId info t n)
    (c : StateCache m) (hendpoint : msg.endpoint s = some endpointId)
    (hwrapped : (msg.integer attributeId info t).NotWrapped n c.values
      (msg.handle s m c.values).cache (msg.path endpointId attributeId)) :
    (msg.integer attributeId info t).Harmless n c.values (msg.path endpointId attributeId) := by
  by_cases hlimited : (msg.integer attributeId info t).Limited n
  · have hstored := h.handle_of_limited c hendpoint hlimited
    have hcases := hwrapped.storedOrKept
    rw [hstored] at hcases
    rcases hcases with ⟨t', heq⟩ | heq
    · obtain ⟨-, hlimit⟩ := CacheValue.int.inj (Option.some.inj heq)
      exact Or.inl (IntegerAttribute.inRange_of_limited t.inRange_pred_max hlimit)
    · exact Or.inr (Or.inr (Or.inl ⟨hlimited, heq.symm⟩))
  · by_cases hnull : info.nullable = true ∧ n ≡ t.null [ZMOD 2 ^ t.bits]
    · exact Or.inr (Or.inl ⟨hlimited, hnull.1, hnull.2⟩)
    · have hstored := h.handle_of_stored c hendpoint hlimited hnull
      have heq : t.cast n = n := hwrapped.not_congruent t _ hstored (t.cast_modEq n)
      have hrange := t.cast_inRange n
      rw [heq] at hrange
      exact Or.inl hrange

end Generated

section BasicInformation

variable {Table Content : Type} {s : MonitorState Table Content} {msg : BasicMessage}
  {endpointId : ℕ} {r : IntegerAttribute} {n : ℤ}

open BridgedDeviceBasicInfoAttributeAccess in
theorem BasicMessage.handle_apply (c : AttributeCache) (hendpoint : msg.endpoint s = some endpointId)
    {jsn : Json} (hparsed : msg.parsed = some (.ok jsn))
    (hvalue : jsn.subscript "value" = .ok (.integer n))
    (hr : integerAttribute msg.cluster msg.attributeName = some r) :
    (msg.handle s c).cache (r.path endpointId) =
      some (.int r.stored (r.stored.cast (r.type.cast n))) := by
  obtain ⟨hid, hversion, -⟩ := BridgedDeviceBasicInfoAttributeAccess.integerAttribute_eq_some hr
  have hconverted : convertedValue r.attributeId (.integer n) =
      .ok (some (.int r.stored (r.stored.cast (r.type.cast n)))) := by
    rcases convertedValue_cases hid (.integer n) with ⟨r', hr', -, hconverted⟩ | ⟨hnone, -⟩
    · cases hr.symm.trans hr'
      exact hconverted
    · cases hr.symm.trans hnone
  have hreport : msg.report =
      some (r.attributeId, .int r.stored (r.stored.cast (r.type.cast n))) := by
    rw [BasicMessage.report, hparsed]
    exact BridgedDeviceBasicInfoAttributeAccess.report_eq_some_iff.mpr
      ⟨jsn, .integer n, rfl, hvalue, hid, hconverted⟩
  obtain ⟨-, -, -, -, -, -, hhandle⟩ := BasicMessage.handle_of_report c hendpoint hreport
  have hpath : r.path endpointId = attrPath endpointId r.attributeId :=
    congrArg (fun r' => IntegerAttribute.path r' endpointId) hversion
  rw [hhandle, hpath]
  exact (AttributeCache.set_apply _ _ _ _).trans (if_pos rfl)

/-- A number of an unsigned type that is stored with sixteen bits. -/
theorem notWrapped_iff_of_stored {before after : AttributeCache} {path : AttrPath}
    (hstored : r.stored = .uint16) (htype : r.type = .uint16 ∨ r.type = .uint32)
    (hnullable : r.nullable = false)
    (hlimit : attributeMaxLimitMismatch r.clusterId r.attributeId = false)
    (hafter : after path = some (.int r.stored (r.stored.cast (r.type.cast n)))) :
    r.NotWrapped n before after path ↔ r.Harmless n before path := by
  have hwide : r.type.min = IntType.uint16.min ∧ IntType.uint16.max ≤ r.type.max ∧
      (2 ^ IntType.uint16.bits : ℤ) ∣ 2 ^ r.type.bits := by
    rcases htype with htype | htype
    · rw [htype]
      decide
    · rw [htype]
      decide
  obtain ⟨hmin, hmax, hdvd⟩ := hwide
  have hcast := r.type.cast_inRange n
  have hlimited : r.limited n = n := if_neg fun h => by rw [hlimit] at h; cases h.1
  rw [hstored, IntType.cast_cast hdvd] at hafter
  constructor
  · intro h
    by_cases hgreat : IntType.uint16.max < r.type.cast n
    · rcases h.storedOrKept with ⟨t, heq⟩ | heq
      · rw [hafter, hlimited] at heq
        obtain ⟨-, hn⟩ := CacheValue.int.inj (Option.some.inj heq)
        refine Or.inl ?_
        rw [hstored, ← hn]
        exact IntType.cast_inRange _ _
      · refine Or.inr (Or.inr (Or.inr ⟨hstored ▸ hgreat, ?_⟩))
        rw [hstored, ← heq, hafter]
    · have hsmall : IntType.uint16.InRange (r.type.cast n) := ⟨hmin ▸ hcast.1, not_lt.mp hgreat⟩
      have heq : IntType.uint16.cast n = r.type.cast n := by
        rw [← IntType.cast_cast hdvd, IntType.cast_of_inRange hsmall]
      rw [heq] at hafter
      have hn := h.not_congruent .uint16 _ hafter (r.type.cast_modEq n)
      rw [hn] at hsmall
      exact Or.inl (hstored ▸ hsmall)
  · rintro (hrange | ⟨-, hnull, -⟩ | ⟨hlimit', -⟩ | ⟨hgreat, hbefore⟩)
    · rw [hstored] at hrange
      rw [IntType.cast_of_inRange hrange] at hafter
      refine ⟨Or.inl ⟨.uint16, hlimited.symm ▸ hafter⟩, fun t v hv _ => ?_⟩
      rw [hafter] at hv
      cases hv
      rfl
    · rw [hnullable] at hnull
      cases hnull
    · have hfalse := hlimit'.1
      rw [hlimit] at hfalse
      cases hfalse
    · rw [hstored] at hgreat hbefore
      refine ⟨Or.inr (hafter.trans hbefore.symm), fun t v hv hmod => ?_⟩
      -- a number of sixteen bits is not congruent to one that is greater
      rw [hafter] at hv
      cases hv
      have hrange := IntType.uint16.cast_inRange n
      have heq : IntType.uint16.cast n = r.type.cast n :=
        IntType.eq_of_modEq (hrange.mono hmin.le hmax) hcast (hmod.trans (r.type.cast_modEq n).symm)
      rw [heq] at hrange
      exact absurd hgreat (not_lt.mpr hrange.2)

end BasicInformation

section Integers

variable {Table Content : Type} {s : MonitorState Table Content} {m : DataModel}
  {msg : SubscribedMessage} {endpointId : ℕ} {r : IntegerAttribute} {n : ℤ}

/-- A reported integer wraps around silently unless it is harmless. -/
theorem notWrapped_handle_iff (h : ReportsInteger m msg r n) (c : StateCache m)
    (hendpoint : msg.toTopicMessage.endpoint s = some endpointId) :
    r.NotWrapped n c.values (msg.handle s m c.values).cache (r.path endpointId) ↔
      r.Harmless n c.values (r.path endpointId) := by
  cases msg with
  | generated msg =>
    obtain ⟨info, hcase, htype, hr⟩ := integerAttribute_eq_some h.integerAttribute
    have hreports : ReportsCase m msg r.attributeId info r.type n := ⟨h.parsed, hcase, htype⟩
    rw [hr]
    constructor
    · exact hreports.harmless_of_notWrapped c hendpoint
    · exact hreports.notWrapped_of_harmless c hendpoint
  | basicInformation msg =>
    obtain ⟨jsn, hparsed, hvalue⟩ := h.parsed
    obtain ⟨hid, hr, htype⟩ :=
      BridgedDeviceBasicInfoAttributeAccess.integerAttribute_eq_some h.integerAttribute
    apply notWrapped_iff_of_stored
    · rw [hr]
    · exact htype
    · rw [hr]
    · rw [hr]
      rfl
    · exact BasicMessage.handle_apply c.values hendpoint hparsed hvalue h.integerAttribute

/-- A lift percentage of 50 is stored as it is. -/
theorem notWrapped_handle_percentage :
    (⟨0x0102, 0x08, true, .uint8, .uint8⟩ : IntegerAttribute).NotWrapped 50
      (StateCache.empty homeModel).values
      ((SubscribedMessage.generated (percentageMessage 50)).handle NodeStateMonitor.oneNode
        homeModel (StateCache.empty homeModel).values).cache ⟨2, 0x0102, 0x08⟩ := by
  have hreports : ReportsInteger homeModel (.generated (percentageMessage 50))
      ⟨0x0102, 0x08, true, .uint8, .uint8⟩ 50 := ⟨⟨_, rfl, rfl⟩, rfl⟩
  apply (notWrapped_handle_iff hreports (StateCache.empty homeModel)
    (endpoint_percentageMessage _)).mpr
  exact Or.inl (by decide)

/-- A lift percentage of 256 is stored as 0. -/
theorem not_notWrapped_handle :
    ¬ (⟨0x0102, 0x08, true, .uint8, .uint8⟩ : IntegerAttribute).NotWrapped 256
      (StateCache.empty homeModel).values
      ((SubscribedMessage.generated (percentageMessage 256)).handle NodeStateMonitor.oneNode
        homeModel (StateCache.empty homeModel).values).cache ⟨2, 0x0102, 0x08⟩ := by
  intro hwrapped
  have hreports : ReportsCase homeModel (percentageMessage 256) 0x08 percentageInfo .uint8 256 :=
    ⟨⟨_, rfl, rfl⟩, rfl, rfl⟩
  have hstored := hreports.handle_of_stored (StateCache.empty homeModel)
    (endpoint_percentageMessage _) (fun hlimited => Bool.false_ne_true hlimited.1) (by decide)
  have hzero := hwrapped.not_congruent .uint8 0 hstored (by decide)
  omega

end Integers

end UnifyMatterBridge
