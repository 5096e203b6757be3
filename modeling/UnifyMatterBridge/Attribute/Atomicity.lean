import UnifyMatterBridge.Attribute.Handling

/-! A message on a subscribed topic is applied as a whole or not at all, unless it reports null, or a
number that does not fit. -/
namespace UnifyMatterBridge.SubscribedMessage

section Definitions

variable (m : DataModel) (msg : SubscribedMessage) (c : AttributeCache) (endpointId : ℕ)
  (result : ReportResult)

/-- The value is stored under its path, the change callback is called for the path, and the callback
of the attribute is applied. -/
def Applied : Prop :=
  ∃ target jsn value v cache, msg.target m = some target ∧
    msg.toTopicMessage.parsed = some (.ok jsn) ∧ jsn.subscript "value" = .ok value ∧
    msg.stored m = some v ∧
    applyRegisteredCallback (msg.cluster ++ "::" ++ msg.toTopicMessage.attributeName) value
      endpointId c = .ok cache ∧
    result.cache = cache.set (pathOf endpointId target) v ∧
    result.notified = [pathOf endpointId target]

/-- No exception escapes, the message is applied or changes nothing, and no other path changes. -/
structure Atomic : Prop where
  noException : result.exception = none
  allOrNothing : msg.Applied m c endpointId result ∨ result.cache = c ∧ result.notified = []
  frame : ∀ p, result.cache p ≠ c p →
    (∃ target, msg.target m = some target ∧ p = pathOf endpointId target) ∨
    CallbackRegistered msg.cluster msg.toTopicMessage.attributeName ∧
      p = EmulateWindowCovering.operationalStatus endpointId

/-- No number of the message is too large for the parser, nor the value for the integer type that it is
converted to, and the value does not stand for the null of a nullable attribute. -/
structure Storable : Prop where
  convertible : ∀ parsed, msg.toTopicMessage.parsed = some parsed →
    Convertible (msg.integerAttribute m) parsed
  notNull : ¬ msg.ReportsNull m

end Definitions

variable {Table Content : Type} {s : MonitorState Table Content} {m : DataModel}
  {msg : SubscribedMessage} {endpointId : ℕ}

theorem stored_of_reportsNull (h : msg.ReportsNull m) : ∃ v, msg.stored m = some v := by
  cases msg with
  | generated msg =>
    obtain ⟨r, hr, -⟩ := h
    exact ⟨r.stored, Option.map_eq_some_iff.mpr ⟨r, hr, rfl⟩⟩
  | basicInformation msg => exact h.elim

theorem atomic_handle_of_not_stored (c : StateCache m)
    (hendpoint : msg.toTopicMessage.endpoint s = some endpointId) (h : msg.stored m = none) :
    msg.Atomic m c.values endpointId (msg.handle s m c.values) ↔ msg.Storable m := by
  obtain ⟨e, hhandle, he⟩ := handle_of_not_stored c hendpoint h
  rw [hhandle]
  constructor
  · intro hatomic
    refine ⟨he.mp hatomic.noException, fun hnull => ?_⟩
    obtain ⟨v, hv⟩ := stored_of_reportsNull hnull
    cases h.symm.trans hv
  · intro hstorable
    exact ⟨he.mpr hstorable.convertible, Or.inr ⟨rfl, rfl⟩, fun p hp => absurd rfl hp⟩

theorem convertible_of_stored {v : CacheValue} (h : msg.stored m = some v)
    {parsed : Except ParseFailure Json} (hparsed : msg.toTopicMessage.parsed = some parsed) :
    Convertible (msg.integerAttribute m) parsed := by
  cases msg with
  | generated msg =>
    obtain ⟨r, hr, -⟩ := Option.map_eq_some_iff.mp h
    obtain ⟨parsed', hparsed', hreport⟩ := Option.bind_eq_some_iff.mp hr
    cases hparsed.symm.trans hparsed'
    obtain ⟨jsn, value, v, rfl, hvalue, hcase, hv, -⟩ := report_eq_some_iff.mp hreport
    refine (convertible_iff hvalue).mpr fun hundefined => ?_
    cases hv.symm.trans ((undefined_iff hcase).mp hundefined)
  | basicInformation msg =>
    obtain ⟨⟨attributeId, v⟩, hr, -⟩ := Option.map_eq_some_iff.mp h
    obtain ⟨parsed', hparsed', hreport⟩ := Option.bind_eq_some_iff.mp hr
    cases hparsed.symm.trans hparsed'
    obtain ⟨jsn, value, rfl, hvalue, hid, hv⟩ :=
      BridgedDeviceBasicInfoAttributeAccess.report_eq_some_iff.mp hreport
    refine (convertible_iff hvalue).mpr fun hundefined => ?_
    cases hv.symm.trans
      (BridgedDeviceBasicInfoAttributeAccess.convertedValue_of_undefined hid hundefined)

theorem atomic_handle_of_stored (c : StateCache m) {v : CacheValue}
    (hendpoint : msg.toTopicMessage.endpoint s = some endpointId) (h : msg.stored m = some v) :
    msg.Atomic m c.values endpointId (msg.handle s m c.values) ↔ msg.Storable m := by
  obtain ⟨target, jsn, value, c', htarget, hparsed, hvalue, -, happly, hhandle⟩ :=
    handle_of_stored c hendpoint h
  constructor
  · intro hatomic
    refine ⟨fun parsed => convertible_of_stored h, fun hnull => ?_⟩
    rcases hhandle with ⟨hnotNull, -⟩ | ⟨-, hentry, hhandle⟩
    · exact hnotNull hnull
    · rw [hhandle] at hatomic
      cases hatomic.allOrNothing with
      | inr hnothing => cases hnothing.2
      | inl happlied =>
        obtain ⟨target', jsn', value', v', cache, htarget', hparsed', hvalue', hv', happly', hcache, -⟩ :=
          happlied
        cases htarget.symm.trans htarget'
        cases hparsed.symm.trans hparsed'
        cases hvalue.symm.trans hvalue'
        cases h.symm.trans hv'
        cases happly.symm.trans happly'
        apply hentry
        have hset : c'.values = c'.values.set (pathOf endpointId target) v := hcache
        rw [hset, AttributeCache.set_apply, if_pos rfl]
  · intro hstorable
    rcases hhandle with ⟨-, hhandle⟩ | ⟨hnull, -⟩
    · constructor
      · rw [hhandle]
      · rw [hhandle]
        exact Or.inl ⟨target, jsn, value, v, c'.values, htarget, hparsed, hvalue, h, happly, rfl, rfl⟩
      · intro p hp
        obtain ⟨endpointId', hendpoint', hframe⟩ := handle_frame c hp
        cases hendpoint.symm.trans hendpoint'
        exact hframe
    · exact absurd hnull hstorable.notNull

/-- A message for a bridged endpoint is handled atomically if and only if it is storable. -/
theorem atomic_handle_iff (c : StateCache m)
    (hendpoint : msg.toTopicMessage.endpoint s = some endpointId) :
    msg.Atomic m c.values endpointId (msg.handle s m c.values) ↔ msg.Storable m := by
  cases hstored : msg.stored m with
  | none => exact atomic_handle_of_not_stored c hendpoint hstored
  | some v => exact atomic_handle_of_stored c hendpoint hstored

/-- A lift percentage of 50 is applied. -/
theorem atomic_handle_percentage :
    (SubscribedMessage.generated (percentageMessage 50)).Atomic homeModel
      (StateCache.empty homeModel).values 2
      ((SubscribedMessage.generated (percentageMessage 50)).handle NodeStateMonitor.oneNode
        homeModel (StateCache.empty homeModel).values) := by
  apply (atomic_handle_iff (StateCache.empty homeModel) (endpoint_percentageMessage _)).mpr
  constructor
  · intro parsed
    exact @convertible_of_stored homeModel (.generated (percentageMessage 50)) _ rfl parsed
  · rintro ⟨r, hr, hnull⟩
    have hreport : r = ⟨0x08, percentageInfo, .int .uint8 50⟩ := (Option.some.inj hr).symm
    rw [hreport] at hnull
    exact absurd hnull (by decide)

/-- A lift percentage of 255 is announced, but not stored. -/
theorem not_atomic_handle :
    ¬ ∀ (c : StateCache homeModel) (msg : SubscribedMessage) (endpointId : ℕ),
      msg.toTopicMessage.endpoint NodeStateMonitor.oneNode = some endpointId →
        msg.Atomic homeModel c.values endpointId
          (msg.handle NodeStateMonitor.oneNode homeModel c.values) := by
  intro hatomic
  have hnull := hatomic (StateCache.empty homeModel) (.generated (percentageMessage 255)) 2
    (endpoint_percentageMessage _)
  rw [@atomic_handle_of_stored _ _ _ homeModel (.generated (percentageMessage 255)) 2
    (StateCache.empty homeModel) (.int .uint8 255) (endpoint_percentageMessage _) rfl] at hnull
  exact hnull.notNull ⟨⟨0x08, percentageInfo, .int .uint8 255⟩, rfl, by decide⟩

end UnifyMatterBridge.SubscribedMessage
