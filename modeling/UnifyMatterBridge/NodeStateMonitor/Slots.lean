import UnifyMatterBridge.NodeStateMonitor.Stability

/-! The contexts that the stack refers to: an occupied slot of its table belongs to an entry of
`bridged_endpoints` at every call, unless an entry is replaced while its context is registered. -/
namespace UnifyMatterBridge.NodeStateMonitor

variable {Table Content : Type} {env : MonitorEnv Table Content}

section Definitions

variable (slots : EmberSlots env.ember)

/-- Every occupied slot refers to the context of an entry. -/
def Owned (l : List (BridgedEndpoint Content)) (t : Table) : Prop :=
  ∀ i id c, slots.slot t i = some (id, c) → ∃ e ∈ l, e.emberEndpoint.allocation = c.allocation

/-- At every call so far all slots have been owned. The calls that only look an id up are made in
the state of the call that follows them, or before anything is changed. -/
def Outlives (s : MonitorState Table Content) : Prop :=
  ∀ r ∈ s.calls, Owned slots r.bridgedEndpoints r.ember

/-- No slot refers to the context of an entry of the node with the id. -/
def Unslotted (s : MonitorState Table Content) (unid : String) (id : ℕ) : Prop :=
  ∀ e ∈ s.bridgedEndpoints, e.unifyUnid = unid → e.matterEndpoint = id →
    ∀ i id' c, slots.slot s.ember i = some (id', c) → c.allocation ≠ e.emberEndpoint.allocation

/-- Condition on an event: the entries that it replaces are not registered any more. -/
def OutliveCondition (s : MonitorState Table Content) : Event → Prop
  | .nodeAdded node =>
    EventSystem.Guarded (addEndpoint env node) (fun s ep =>
      mappedDeviceType env ep.2.clusters ≠ none →
        Unslotted slots s node.unid (assignMatterEndpoint env s node.unid ep.1).1) s (visited env node)
  | .nodeRemoved _ | .nodeStateChanged _ | .restart => True

/-- The invariant: contexts are distinct and older than the next one, and a slot belongs to the
entry that has its index. -/
structure SlotInv (s : MonitorState Table Content) : Prop where
  valid : slots.Valid s.ember
  ids : s.bridgedEndpoints.Pairwise fun e f =>
    e.unifyUnid = f.unifyUnid → e.matterEndpoint ≠ f.matterEndpoint
  older : ∀ e ∈ s.bridgedEndpoints, e.emberEndpoint.allocation < s.nextAllocation
  contexts : s.bridgedEndpoints.Pairwise fun e f =>
    e.emberEndpoint.allocation ≠ f.emberEndpoint.allocation
  owned : ∀ i id c, slots.slot s.ember i = some (id, c) →
    ∃ e ∈ s.bridgedEndpoints, e.emberEndpoint.allocation = c.allocation ∧ e.index = i

end Definitions

variable {slots : EmberSlots env.ember} {s : MonitorState Table Content}

theorem Owned.mono {l l' : List (BridgedEndpoint Content)} {t t' : Table} (h : Owned slots l t)
    (hl : ∀ e ∈ l, ∃ e' ∈ l', e'.emberEndpoint.allocation = e.emberEndpoint.allocation)
    (ht : ∀ i id c, slots.slot t' i = some (id, c) → slots.slot t i = some (id, c)) :
    Owned slots l' t' := by
  intro i id c hslot
  obtain ⟨e, he, halloc⟩ := h i id c (ht i id c hslot)
  obtain ⟨e', he', halloc'⟩ := hl e he
  exact ⟨e', he', halloc'.trans halloc⟩

section Register

theorem slot_clear_eq_some {t : Table} (ht : slots.Valid t) {index i id : ℕ}
    {c : EndpointContext Content}
    (h : slots.slot (env.ember.emberAfClearDynamicEndpoint t index).1 i = some (id, c)) :
    i ≠ index ∧ slots.slot t i = some (id, c) := by
  rw [slots.slot_clear ht] at h
  split_ifs at h with hi
  exact ⟨hi, h⟩

theorem slot_set_eq_some {t : Table} (ht : slots.Valid t) {index id d i id' : ℕ}
    {c c' : EndpointContext Content}
    (h : slots.slot (env.ember.emberAfSetDynamicEndpoint t index id c d).1 i = some (id', c')) :
    (i = index ∧ id' = id ∧ c' = c) ∨ slots.slot t i = some (id', c') := by
  by_cases hok : (env.ember.emberAfSetDynamicEndpoint t index id c d).2 = .noError
  · rw [slots.slot_set ht hok] at h
    split_ifs at h with hi
    · cases h
      exact Or.inl ⟨hi, rfl, rfl⟩
    · exact Or.inr h
  · rw [slots.slot_set_error ht hok] at h
    exact Or.inr h

/-- Registering an endpoint: the slots it leaves, and the calls it makes with the entries as they
are and slots that were there before. The first of these calls meets the table unchanged. -/
theorem registerDynamicEndpoint_spec (hv : slots.Valid s.ember) (bridge : BridgedEndpoint Content) :
    slots.Valid (registerDynamicEndpoint env s bridge).ember ∧
    (∀ i id c, slots.slot (registerDynamicEndpoint env s bridge).ember i = some (id, c) →
      (i = bridge.index ∧ id = bridge.matterEndpoint ∧ c = bridge.emberEndpoint) ∨
        slots.slot s.ember i = some (id, c)) ∧
    ∃ first rest, (registerDynamicEndpoint env s bridge).calls = s.calls ++ first :: rest ∧
      first.ember = s.ember ∧
      ∀ r ∈ first :: rest, r.bridgedEndpoints = s.bridgedEndpoints ∧
        ∀ i id c, slots.slot r.ember i = some (id, c) → slots.slot s.ember i = some (id, c) := by
  unfold registerDynamicEndpoint
  dsimp only
  split_ifs with hindex
  · have hclear : slots.Valid (emberAfClearDynamicEndpoint env s
        (env.ember.emberAfGetDynamicIndexFromEndpoint s.ember bridge.matterEndpoint)).ember :=
      slots.valid_clear hv _
    refine ⟨slots.valid_set hclear _ _ _ _, ?_, ?_⟩
    · intro i id c h
      exact (slot_set_eq_some hclear h).imp_right fun h => (slot_clear_eq_some hv h).2
    · refine ⟨_, [_], List.append_assoc _ _ _, rfl, ?_⟩
      intro r hr
      rcases List.mem_cons.mp hr with rfl | hr
      · exact ⟨rfl, fun _ _ _ h => h⟩
      · rw [List.mem_singleton.mp hr]
        exact ⟨rfl, fun _ _ _ h => (slot_clear_eq_some hv h).2⟩
  · refine ⟨slots.valid_set hv _ _ _ _, fun i id c h => slot_set_eq_some hv h, ?_⟩
    refine ⟨_, [], rfl, rfl, ?_⟩
    intro r hr
    rw [List.mem_singleton.mp hr]
    exact ⟨rfl, fun _ _ _ h => h⟩

@[simp] theorem bridgedEndpoints_registerDynamicEndpoint (s : MonitorState Table Content)
    (b : BridgedEndpoint Content) :
    (registerDynamicEndpoint env s b).bridgedEndpoints = s.bridgedEndpoints := by
  unfold registerDynamicEndpoint
  dsimp only
  split <;> rfl

@[simp] theorem nextAllocation_registerDynamicEndpoint (s : MonitorState Table Content)
    (b : BridgedEndpoint Content) :
    (registerDynamicEndpoint env s b).nextAllocation = s.nextAllocation := by
  unfold registerDynamicEndpoint
  dsimp only
  split <;> rfl

theorem assignMatterEndpoint_frame (s : MonitorState Table Content) (unid : String) (epId : ℕ) :
    (assignMatterEndpoint env s unid epId).2.ember = s.ember ∧
      (assignMatterEndpoint env s unid epId).2.nextAllocation = s.nextAllocation ∧
      (assignMatterEndpoint env s unid epId).2.calls = s.calls := by
  unfold assignMatterEndpoint
  split <;> exact ⟨rfl, rfl, rfl⟩

end Register

section Bridging

variable (env)

def bridgedEntry (node : Node) (s : MonitorState Table Content) (epId : Fin 256) (ep : Endpoint)
    (matterType : ℕ) : BridgedEndpoint Content :=
  { makeBridge env node epId ep matterType (assignMatterEndpoint env s node.unid epId).1
      s.nextAllocation with
    reachable := some (node.state == .onlineFunctional) }

/-- The entry that an endpoint is registered with; its `reachable` is assigned afterwards. -/
def newEntry (node : Node) (s : MonitorState Table Content) (epId : Fin 256) (ep : Endpoint)
    (matterType : ℕ) : BridgedEndpoint Content :=
  { bridgedEntry env node s epId ep matterType with reachable := none }

/-- The state in which an endpoint is registered. -/
def inserted (node : Node) (s : MonitorState Table Content) (epId : Fin 256) (ep : Endpoint)
    (matterType : ℕ) : MonitorState Table Content :=
  { (assignMatterEndpoint env s node.unid epId).2 with
    nextAllocation := s.nextAllocation + 1
    bridgedEndpoints := Multimap.insert (·.unifyUnid) (newEntry env node s epId ep matterType)
      (eraseMapperEndpoint node.unid (newEntry env node s epId ep matterType).matterEndpoint
        s.bridgedEndpoints) }

/-- The state after the registration. -/
def registered (node : Node) (s : MonitorState Table Content) (epId : Fin 256) (ep : Endpoint)
    (matterType : ℕ) : MonitorState Table Content :=
  registerDynamicEndpoint env (inserted env node s epId ep matterType)
    (newEntry env node s epId ep matterType)

variable {env} {node : Node} {epId : Fin 256} {ep : Endpoint} {matterType : ℕ}

/-- An endpoint is registered, announced, told to be reachable or not, and announced again. -/
theorem bridgeEndpoint_eq : bridgeEndpoint env node s epId ep matterType =
    invokeListeners
      { invokeListeners (registered env node s epId ep matterType)
          (newEntry env node s epId ep matterType) .nodeAdded with
        bridgedEndpoints := Multimap.insert (·.unifyUnid) (bridgedEntry env node s epId ep matterType)
          (eraseMapperEndpoint node.unid (bridgedEntry env node s epId ep matterType).matterEndpoint
            s.bridgedEndpoints) }
      (bridgedEntry env node s epId ep matterType) .nodeStateChanged := by
  obtain ⟨-, hnext, -⟩ := @assignMatterEndpoint_frame _ _ env s node.unid epId
  have hbridged := bridgedEndpoints_assignMatterEndpoint env s node.unid epId
  unfold bridgeEndpoint registered inserted newEntry bridgedEntry
  dsimp only
  rw [hnext, hbridged]
  rfl

@[simp] theorem ember_inserted : (inserted env node s epId ep matterType).ember = s.ember :=
  (assignMatterEndpoint_frame s node.unid epId).1

@[simp] theorem calls_inserted : (inserted env node s epId ep matterType).calls = s.calls :=
  (assignMatterEndpoint_frame s node.unid epId).2.2

theorem bridgedEndpoints_bridgeEndpoint :
    (bridgeEndpoint env node s epId ep matterType).bridgedEndpoints =
      Multimap.insert (·.unifyUnid) (bridgedEntry env node s epId ep matterType)
        (eraseMapperEndpoint node.unid (assignMatterEndpoint env s node.unid epId).1
          s.bridgedEndpoints) := by
  rw [bridgeEndpoint_eq]
  rfl

theorem nextAllocation_bridgeEndpoint :
    (bridgeEndpoint env node s epId ep matterType).nextAllocation = s.nextAllocation + 1 := by
  have hregister := @nextAllocation_registerDynamicEndpoint _ _ env
    (inserted env node s epId ep matterType) (newEntry env node s epId ep matterType)
  rw [bridgeEndpoint_eq]
  exact hregister

theorem ember_bridgeEndpoint_eq : (bridgeEndpoint env node s epId ep matterType).ember =
    (registered env node s epId ep matterType).ember := by
  rw [bridgeEndpoint_eq]
  rfl

theorem calls_bridgeEndpoint_eq_registered :
    (bridgeEndpoint env node s epId ep matterType).calls =
      (registered env node s epId ep matterType).calls ++
        [⟨.listener (newEntry env node s epId ep matterType) .nodeAdded,
            (inserted env node s epId ep matterType).bridgedEndpoints,
            (registered env node s epId ep matterType).ember⟩,
          ⟨.listener (bridgedEntry env node s epId ep matterType) .nodeStateChanged,
            (bridgeEndpoint env node s epId ep matterType).bridgedEndpoints,
            (registered env node s epId ep matterType).ember⟩] := by
  have hkept : (registered env node s epId ep matterType).bridgedEndpoints =
      (inserted env node s epId ep matterType).bridgedEndpoints :=
    bridgedEndpoints_registerDynamicEndpoint _ _
  rw [bridgeEndpoint_eq, ← hkept]
  exact List.append_assoc _ _ _

/-- The slots after an endpoint is registered; the new context is only in that of its index. -/
theorem slot_registered_cases (hv : slots.Valid s.ember) {i id : ℕ} {c : EndpointContext Content}
    (h : slots.slot (registered env node s epId ep matterType).ember i = some (id, c)) :
    (i = (bridgedEntry env node s epId ep matterType).index ∧
        c = (bridgedEntry env node s epId ep matterType).emberEndpoint) ∨
      slots.slot s.ember i = some (id, c) := by
  have hvalid : slots.Valid (inserted env node s epId ep matterType).ember := by
    rw [ember_inserted]
    exact hv
  obtain ⟨-, hslots, -⟩ :=
    registerDynamicEndpoint_spec hvalid (newEntry env node s epId ep matterType)
  rw [ember_inserted] at hslots
  cases hslots i id c h with
  | inl hnew => exact Or.inl ⟨hnew.1, hnew.2.2⟩
  | inr hold => exact Or.inr hold

theorem valid_bridgeEndpoint (hv : slots.Valid s.ember) :
    slots.Valid (bridgeEndpoint env node s epId ep matterType).ember := by
  rw [ember_bridgeEndpoint_eq]
  refine (registerDynamicEndpoint_spec ?_ _).1
  rw [ember_inserted]
  exact hv

/-- The calls that bridging makes, each with a new entry among those that are kept. The first call
meets the table unchanged. -/
theorem calls_bridgeEndpoint_spec (hv : slots.Valid s.ember) (node : Node) (epId : Fin 256)
    (ep : Endpoint) (matterType : ℕ) :
    ∃ first rest, (bridgeEndpoint env node s epId ep matterType).calls = s.calls ++ first :: rest ∧
      first.ember = s.ember ∧
      ∀ r ∈ first :: rest,
        (∃ x, x.emberEndpoint.allocation = s.nextAllocation ∧ r.bridgedEndpoints =
          Multimap.insert (·.unifyUnid) x (eraseMapperEndpoint node.unid
            (assignMatterEndpoint env s node.unid epId).1 s.bridgedEndpoints)) ∧
        ∀ i id c, slots.slot r.ember i = some (id, c) →
          c = (bridgedEntry env node s epId ep matterType).emberEndpoint ∨
            slots.slot s.ember i = some (id, c) := by
  have hvalid : slots.Valid (inserted env node s epId ep matterType).ember := by
    rw [ember_inserted]
    exact hv
  obtain ⟨-, -, first, rest, hnew, hfirst, hrecords⟩ :=
    registerDynamicEndpoint_spec hvalid (newEntry env node s epId ep matterType)
  have hafter : ∀ i id c,
      slots.slot (registered env node s epId ep matterType).ember i = some (id, c) →
        c = (bridgedEntry env node s epId ep matterType).emberEndpoint ∨
          slots.slot s.ember i = some (id, c) := by
    intro i id c h
    exact (slot_registered_cases hv h).imp_left fun hnew => hnew.2
  have hregistered : (registered env node s epId ep matterType).calls =
      s.calls ++ first :: rest := by
    rw [registered, hnew, calls_inserted]
  have hcalls := @calls_bridgeEndpoint_eq_registered _ _ env s node epId ep matterType
  rw [hregistered, List.append_assoc, List.cons_append] at hcalls
  refine ⟨first, _, hcalls, hfirst.trans ember_inserted, fun r hr => ?_⟩
  rw [← List.cons_append, List.mem_append] at hr
  rcases hr with hr | hr
  · obtain ⟨hl, hbefore⟩ := hrecords r hr
    rw [ember_inserted] at hbefore
    exact ⟨⟨_, rfl, hl⟩, fun i id c h => Or.inr (hbefore i id c h)⟩
  · rcases List.mem_cons.mp hr with rfl | hr
    · exact ⟨⟨_, rfl, rfl⟩, hafter⟩
    · rw [List.mem_singleton.mp hr]
      exact ⟨⟨_, rfl, bridgedEndpoints_bridgeEndpoint⟩, hafter⟩

end Bridging

section Bridge

variable {node : Node} {epId : Fin 256} {ep : Endpoint} {matterType : ℕ}

theorem older_replace {l : List (BridgedEndpoint Content)} {n : ℕ}
    (holder : ∀ e ∈ l, e.emberEndpoint.allocation < n) {b : BridgedEndpoint Content}
    (hb : b.emberEndpoint.allocation = n) {unid : String} {id : ℕ} :
    ∀ e ∈ Multimap.insert (·.unifyUnid) b (eraseMapperEndpoint unid id l),
      e.emberEndpoint.allocation < n + 1 := by
  intro e he
  rw [Multimap.mem_insert] at he
  cases he with
  | inl hnew =>
    rw [hnew, hb]
    exact Nat.lt_succ_self n
  | inr hkept =>
    have hlt := holder e (List.mem_of_mem_eraseP hkept)
    omega

theorem pairwise_context_replace {l : List (BridgedEndpoint Content)} {n : ℕ}
    (hcontexts : l.Pairwise fun e f => e.emberEndpoint.allocation ≠ f.emberEndpoint.allocation)
    (holder : ∀ e ∈ l, e.emberEndpoint.allocation < n) {b : BridgedEndpoint Content}
    (hb : b.emberEndpoint.allocation = n) {unid : String} {id : ℕ} :
    (Multimap.insert (·.unifyUnid) b (eraseMapperEndpoint unid id l)).Pairwise fun e f =>
      e.emberEndpoint.allocation ≠ f.emberEndpoint.allocation := by
  rw [Multimap.pairwise_insert fun _ _ h => h.symm]
  refine ⟨fun e he => ?_, hcontexts.sublist List.eraseP_sublist⟩
  have hlt := holder e (List.mem_of_mem_eraseP he)
  omega

theorem SlotInv.owned_kept (hI : SlotInv slots s) {unid : String} {id : ℕ}
    (hc : Unslotted slots s unid id) {i id' : ℕ} {c : EndpointContext Content}
    (h : slots.slot s.ember i = some (id', c)) :
    ∃ e ∈ eraseMapperEndpoint unid id s.bridgedEndpoints,
      e.emberEndpoint.allocation = c.allocation ∧ e.index = i := by
  obtain ⟨e, he, halloc, hindex⟩ := hI.owned i id' c h
  refine ⟨e, (mem_eraseMapperEndpoint hI.ids).mpr ⟨he, ?_⟩, halloc, hindex⟩
  intro hreplaced
  exact hc e he hreplaced.1 hreplaced.2 i id' c h halloc.symm

theorem SlotInv.bridgeEndpoint (hI : SlotInv slots s)
    (hc : Unslotted slots s node.unid (assignMatterEndpoint env s node.unid epId).1) :
    SlotInv slots (bridgeEndpoint env node s epId ep matterType) := by
  have hl := @bridgedEndpoints_bridgeEndpoint _ _ env s node epId ep matterType
  constructor
  · exact valid_bridgeEndpoint hI.valid
  · rw [hl]
    exact pairwise_id_replace hI.ids rfl
  · rw [hl, nextAllocation_bridgeEndpoint]
    exact older_replace hI.older rfl
  · rw [hl]
    exact pairwise_context_replace hI.contexts hI.older rfl
  · intro i id c h
    rw [ember_bridgeEndpoint_eq] at h
    rw [hl]
    rcases slot_registered_cases hI.valid h with ⟨hi, hctx⟩ | h
    · exact ⟨_, Multimap.mem_insert.mpr (Or.inl rfl), by rw [hctx], hi.symm⟩
    · obtain ⟨e, he, howned⟩ := hI.owned_kept hc h
      exact ⟨e, Multimap.mem_insert.mpr (Or.inr he), howned⟩

/-- Bridging keeps the slots owned at every call exactly when the entry replaced is in no slot. -/
theorem SlotInv.outlives_bridgeEndpoint_iff (hI : SlotInv slots s) (ho : Outlives slots s) :
    Outlives slots (NodeStateMonitor.bridgeEndpoint env node s epId ep matterType) ↔
      Unslotted slots s node.unid (assignMatterEndpoint env s node.unid epId).1 := by
  obtain ⟨first, rest, hcalls, hfirst, hrecords⟩ :=
    calls_bridgeEndpoint_spec hI.valid node epId ep matterType
  constructor
  · intro hout e he hunid hmatter i id' c hslot hctx
    have hmem : first ∈ first :: rest := List.mem_cons_self
    obtain ⟨⟨x, hx, hl⟩, -⟩ := hrecords first hmem
    have howned := hout first (hcalls ▸ List.mem_append_right _ hmem)
    rw [hl, hfirst] at howned
    obtain ⟨f, hf, hfctx⟩ := howned i id' c hslot
    rcases Multimap.mem_insert.mp hf with rfl | hf
    · -- the new context is not one that was registered
      have holder := hI.older e he
      omega
    · obtain ⟨hfs, hfkept⟩ := (mem_eraseMapperEndpoint hI.ids).mp hf
      have hn : (s.bridgedEndpoints.map fun e => e.emberEndpoint.allocation).Nodup :=
        List.pairwise_map.mpr hI.contexts
      rw [List.inj_on_of_nodup_map hn hfs he (hfctx.trans hctx)] at hfkept
      exact hfkept ⟨hunid, hmatter⟩
  · intro hc r hr
    rw [hcalls, List.mem_append] at hr
    rcases hr with hr | hr
    · exact ho r hr
    · obtain ⟨⟨x, hx, hl⟩, hslots⟩ := hrecords r hr
      intro i id c h
      rw [hl]
      rcases hslots i id c h with hctx | h
      · refine ⟨x, Multimap.mem_insert.mpr (Or.inl rfl), ?_⟩
        rw [hctx, hx]
        rfl
      · obtain ⟨e, he, hectx, -⟩ := hI.owned_kept hc h
        exact ⟨e, Multimap.mem_insert.mpr (Or.inr he), hectx⟩

theorem SlotInv.addEndpoint_iff (hI : SlotInv slots s) (ho : Outlives slots s)
    (ep : Fin 256 × Endpoint) :
    Outlives slots (addEndpoint env node s ep) ↔ (mappedDeviceType env ep.2.clusters ≠ none →
      Unslotted slots s node.unid (assignMatterEndpoint env s node.unid ep.1).1) := by
  unfold addEndpoint
  cases hm : mappedDeviceType env ep.2.clusters with
  | none => exact iff_of_true ho fun h => absurd rfl h
  | some matterType =>
    dsimp only
    rw [hI.outlives_bridgeEndpoint_iff ho]
    simp

theorem SlotInv.addEndpoint (hI : SlotInv slots s) (ep : Fin 256 × Endpoint)
    (hc : mappedDeviceType env ep.2.clusters ≠ none →
      Unslotted slots s node.unid (assignMatterEndpoint env s node.unid ep.1).1) :
    SlotInv slots (addEndpoint env node s ep) := by
  unfold NodeStateMonitor.addEndpoint
  cases hm : mappedDeviceType env ep.2.clusters with
  | none => exact hI
  | some matterType => exact hI.bridgeEndpoint (hc (by simp [hm]))

end Bridge

section Removal

theorem removeEndpoint_foldl_table (hv : slots.Valid s.ember) (l : List (BridgedEndpoint Content)) :
    slots.Valid (l.foldl (removeEndpoint env) s).ember ∧
      ∀ i, slots.slot (l.foldl (removeEndpoint env) s).ember i =
        if i ∈ l.map (·.index) then none else slots.slot s.ember i := by
  induction l generalizing s with
  | nil => exact ⟨hv, fun i => by simp⟩
  | cons e l ih =>
    have hvalid : slots.Valid (removeEndpoint env s e).ember := slots.valid_clear hv e.index
    have hslot : ∀ i, slots.slot (removeEndpoint env s e).ember i =
        if i = e.index then none else slots.slot s.ember i := slots.slot_clear hv e.index
    obtain ⟨hv', hslots⟩ := ih hvalid
    refine ⟨hv', fun i => ?_⟩
    rw [List.foldl_cons, hslots, hslot]
    by_cases hi : i = e.index
    · simp [hi]
    · simp [hi]

theorem outlives_removeEndpoint_foldl (hv : slots.Valid s.ember) (ho : Outlives slots s)
    (howned : Owned slots s.bridgedEndpoints s.ember) (l : List (BridgedEndpoint Content)) :
    Outlives slots (l.foldl (removeEndpoint env) s) := by
  induction l generalizing s with
  | nil => exact ho
  | cons e l ih =>
    have hstill : Owned slots (removeEndpoint env s e).bridgedEndpoints
        (removeEndpoint env s e).ember :=
      howned.mono (fun x hx => ⟨x, hx, rfl⟩) fun i id c h => (slot_clear_eq_some hv h).2
    have hcalls : (removeEndpoint env s e).calls = s.calls ++
        [⟨.emberAfClearDynamicEndpoint e.index, s.bridgedEndpoints, s.ember⟩,
          ⟨.listener e .nodeDeleted, s.bridgedEndpoints, (removeEndpoint env s e).ember⟩] :=
      List.append_assoc _ _ _
    have hout : Outlives slots (removeEndpoint env s e) := by
      intro r hr
      rw [hcalls, List.mem_append] at hr
      rcases hr with hr | hr
      · exact ho r hr
      · rcases List.mem_cons.mp hr with rfl | hr
        · exact howned
        · rw [List.mem_singleton.mp hr]
          exact hstill
    exact ih (slots.valid_clear hv e.index) hout hstill

theorem nextAllocation_onUnifyNodeRemoved (unid : String) :
    (onUnifyNodeRemoved env s unid).nextAllocation = s.nextAllocation := by
  have hfold : ∀ (l : List (BridgedEndpoint Content)) (s : MonitorState Table Content),
      (l.foldl (removeEndpoint env) s).nextAllocation = s.nextAllocation := by
    intro l
    induction l with
    | nil => exact fun _ => rfl
    | cons e l ih => exact fun s => ih (removeEndpoint env s e)
  exact hfold _ s

theorem valid_onUnifyNodeRemoved (hv : slots.Valid s.ember) (unid : String) :
    slots.Valid (onUnifyNodeRemoved env s unid).ember :=
  (removeEndpoint_foldl_table hv _).1

theorem slot_onUnifyNodeRemoved (hv : slots.Valid s.ember) (unid : String) (i : ℕ) :
    slots.slot (onUnifyNodeRemoved env s unid).ember i =
      if ∃ e ∈ s.bridgedEndpoints, e.unifyUnid = unid ∧ e.index = i then none
      else slots.slot s.ember i := by
  obtain ⟨-, hslots⟩ := removeEndpoint_foldl_table hv
    (Multimap.equalRange (·.unifyUnid) unid s.bridgedEndpoints)
  have hmem : i ∈ (Multimap.equalRange (·.unifyUnid) unid s.bridgedEndpoints).map (·.index) ↔
      ∃ e ∈ s.bridgedEndpoints, e.unifyUnid = unid ∧ e.index = i := by
    simp [Multimap.mem_equalRange, and_assoc]
  have hi := hslots i
  simp only [hmem] at hi
  exact hi

theorem SlotInv.onUnifyNodeRemoved (hI : SlotInv slots s) (ho : Outlives slots s) (unid : String) :
    SlotInv slots (onUnifyNodeRemoved env s unid) ∧
      Outlives slots (onUnifyNodeRemoved env s unid) := by
  have howned : Owned slots s.bridgedEndpoints s.ember := by
    intro i id c h
    obtain ⟨e, he, hctx, -⟩ := hI.owned i id c h
    exact ⟨e, he, hctx⟩
  have hout := outlives_removeEndpoint_foldl hI.valid ho howned
    (Multimap.equalRange (·.unifyUnid) unid s.bridgedEndpoints)
  have hsub := @sublist_onUnifyNodeRemoved _ _ env s unid
  refine ⟨?_, hout⟩
  constructor
  · exact valid_onUnifyNodeRemoved hI.valid unid
  · exact hI.ids.sublist hsub
  · intro e he
    rw [nextAllocation_onUnifyNodeRemoved]
    exact hI.older e (hsub.subset he)
  · exact hI.contexts.sublist hsub
  · intro i id c h
    rw [slot_onUnifyNodeRemoved hI.valid] at h
    split_ifs at h with hi
    obtain ⟨e, he, hctx, hindex⟩ := hI.owned i id c h
    refine ⟨e, mem_onUnifyNodeRemoved.mpr ⟨he, fun hunid => hi ?_⟩, hctx, hindex⟩
    exact ⟨e, he, hunid, hindex⟩

end Removal

section StateChange

theorem SlotInv.changeState (hI : SlotInv slots s) (ho : Outlives slots s) (reachable : Bool)
    (e : BridgedEndpoint Content) :
    SlotInv slots (changeState reachable s e) ∧ Outlives slots (changeState reachable s e) := by
  let l := assignReachable e.emberEndpoint.allocation reachable s.bridgedEndpoints
  have hviews : l.map (fun e => { e with reachable := none }) =
      s.bridgedEndpoints.map fun e => { e with reachable := none } :=
    map_assignReachable (fun _ _ => rfl) _ _ _
  have howned : ∀ i id c, slots.slot s.ember i = some (id, c) →
      ∃ y ∈ l, y.emberEndpoint.allocation = c.allocation ∧ y.index = i := by
    intro i id c h
    obtain ⟨x, hx, hctx, hindex⟩ := hI.owned i id c h
    obtain ⟨y, hy, heq⟩ := Multimap.exists_of_map_eq hviews.symm hx
    rw [BridgedEndpoint.mk.injEq] at heq
    obtain ⟨-, -, -, hyindex, -, hyctx, -⟩ := heq
    exact ⟨y, hy, hyctx ▸ hctx, hyindex.trans hindex⟩
  refine ⟨⟨hI.valid, ?_, ?_, ?_, howned⟩, ?_⟩
  · exact Multimap.pairwise_of_map_eq hviews
      (fun p q => p.unifyUnid = q.unifyUnid → p.matterEndpoint ≠ q.matterEndpoint) hI.ids
  · intro y hy
    obtain ⟨x, hx, heq⟩ := Multimap.exists_of_map_eq hviews hy
    rw [BridgedEndpoint.mk.injEq] at heq
    obtain ⟨-, -, -, -, -, hctx, -⟩ := heq
    exact hctx ▸ hI.older x hx
  · exact Multimap.pairwise_of_map_eq hviews
      (fun p q => p.emberEndpoint.allocation ≠ q.emberEndpoint.allocation) hI.contexts
  · intro r hr
    rcases List.mem_append.mp hr with hr | hr
    · exact ho r hr
    · rw [List.mem_singleton.mp hr]
      intro i id c h
      obtain ⟨y, hy, hctx, -⟩ := howned i id c h
      exact ⟨y, hy, hctx⟩

end StateChange

section Past

theorem calls_registerDynamicEndpoint (bridge : BridgedEndpoint Content) :
    s.calls <+: (registerDynamicEndpoint env s bridge).calls := by
  unfold registerDynamicEndpoint
  dsimp only
  split_ifs
  · exact (List.prefix_append _ _).trans (List.prefix_append _ _)
  · exact List.prefix_append _ _

/-- Calls are only ever added; the last one tells the listeners the state of the endpoint. -/
theorem calls_bridgeEndpoint_eq (node : Node) (epId : Fin 256) (ep : Endpoint) (matterType : ℕ) :
    ∃ calls record, (bridgeEndpoint env node s epId ep matterType).calls =
        s.calls ++ calls ++ [record] ∧
      ∃ e, record.call = .listener e .nodeStateChanged ∧
        e.matterEndpoint = (assignMatterEndpoint env s node.unid epId).1 := by
  obtain ⟨calls, hcalls⟩ := @calls_registerDynamicEndpoint _ _ env
    (inserted env node s epId ep matterType) (newEntry env node s epId ep matterType)
  have hregistered : (registered env node s epId ep matterType).calls = s.calls ++ calls := by
    rw [calls_inserted] at hcalls
    exact hcalls.symm
  have hbridged := @calls_bridgeEndpoint_eq_registered _ _ env s node epId ep matterType
  rw [hregistered, List.append_cons, List.append_assoc s.calls] at hbridged
  exact ⟨_, _, hbridged, bridgedEntry env node s epId ep matterType, rfl, rfl⟩

theorem calls_bridgeEndpoint (node : Node) (epId : Fin 256) (ep : Endpoint) (matterType : ℕ) :
    s.calls <+: (bridgeEndpoint env node s epId ep matterType).calls := by
  obtain ⟨calls, record, hcalls, -⟩ := @calls_bridgeEndpoint_eq _ _ env s node epId ep matterType
  rw [hcalls, List.append_assoc]
  exact List.prefix_append _ _

theorem calls_addEndpoint (node : Node) (ep : Fin 256 × Endpoint) :
    s.calls <+: (addEndpoint env node s ep).calls := by
  unfold addEndpoint
  split
  · exact List.prefix_refl _
  · exact calls_bridgeEndpoint node ep.1 ep.2 _

theorem calls_foldl {α : Type} {f : MonitorState Table Content → α → MonitorState Table Content}
    (hf : ∀ s x, s.calls <+: (f s x).calls) (l : List α) : s.calls <+: (l.foldl f s).calls := by
  induction l generalizing s with
  | nil => exact List.prefix_refl _
  | cons x l ih => exact (hf s x).trans ih

theorem calls_step (ev : Event) : s.calls <+: (step env s ev).calls := by
  cases ev with
  | nodeAdded node => exact calls_foldl (fun s ep => calls_addEndpoint node ep) _
  | nodeRemoved unid =>
    exact calls_foldl (f := removeEndpoint env)
      (fun s e => (List.prefix_append _ _).trans (List.prefix_append _ _)) _
  | nodeStateChanged node => exact calls_foldl (fun s e => List.prefix_append _ _) _
  | restart => exact List.prefix_refl _

theorem Outlives.of_prefix {s' : MonitorState Table Content} (h : s.calls <+: s'.calls)
    (ho : Outlives slots s') : Outlives slots s :=
  fun r hr => ho r (h.subset hr)

end Past

section Steps

theorem SlotInv.start (kvs : KeyValueStore) : SlotInv slots (start env kvs) where
  valid := slots.valid_empty
  ids := List.Pairwise.nil
  older := fun _ h => by cases h
  contexts := List.Pairwise.nil
  owned := fun i id c h => by
    rw [show slots.slot (NodeStateMonitor.start env kvs).ember i = none from slots.slot_empty i] at h
    cases h

theorem SlotInv.step (hI : SlotInv slots s) (ho : Outlives slots s) {ev : Event}
    (hc : OutliveCondition slots s ev) :
    SlotInv slots (step env s ev) ∧ Outlives slots (step env s ev) := by
  cases ev with
  | nodeAdded node =>
    have hadd : ∀ (s : MonitorState Table Content) ep, SlotInv slots s ∧ Outlives slots s →
        (mappedDeviceType env ep.2.clusters ≠ none →
          Unslotted slots s node.unid (assignMatterEndpoint env s node.unid ep.1).1) →
        SlotInv slots (NodeStateMonitor.addEndpoint env node s ep) ∧
          Outlives slots (NodeStateMonitor.addEndpoint env node s ep) :=
      fun s ep h hc => ⟨h.1.addEndpoint ep hc, (h.1.addEndpoint_iff h.2 ep).mpr hc⟩
    exact EventSystem.invariant_run hadd ⟨hI, ho⟩ hc
  | nodeRemoved unid => exact hI.onUnifyNodeRemoved ho unid
  | nodeStateChanged node =>
    have hchange : ∀ (s : MonitorState Table Content) e, SlotInv slots s ∧ Outlives slots s →
        SlotInv slots (NodeStateMonitor.changeState (node.state == .onlineFunctional) s e) ∧
          Outlives slots (NodeStateMonitor.changeState (node.state == .onlineFunctional) s e) :=
      fun s e h => h.1.changeState h.2 _ e
    exact EventSystem.invariant_run' hchange ⟨hI, ho⟩ _
  | restart =>
    have hstart := @SlotInv.start Table Content env slots s.kvs
    exact ⟨⟨hstart.valid, hstart.ids, fun _ h => (by cases h), hstart.contexts, hstart.owned⟩, ho⟩

/-- One event: all its calls find the slots owned if and only if it meets the condition. -/
theorem SlotInv.outlives_step_iff (hI : SlotInv slots s) (ho : Outlives slots s) (ev : Event) :
    Outlives slots (NodeStateMonitor.step env s ev) ↔ OutliveCondition slots s ev := by
  constructor
  · intro hout
    cases ev with
    | nodeAdded node =>
      have hiff := @EventSystem.run_iff_guarded _ _ (NodeStateMonitor.addEndpoint env node)
        (fun s ep => mappedDeviceType env ep.2.clusters ≠ none →
          Unslotted slots s node.unid (assignMatterEndpoint env s node.unid ep.1).1)
        (fun s => SlotInv slots s) (Outlives slots) (fun s ep h hc => h.addEndpoint ep hc)
        (fun s ep => Outlives.of_prefix (calls_addEndpoint node ep))
        (fun s ep h ho => h.addEndpoint_iff ho ep) s (visited env node) hI ho
      exact hiff.mp hout
    | nodeRemoved unid => trivial
    | nodeStateChanged node => trivial
    | restart => trivial
  · exact fun hc => (hI.step ho hc).2

end Steps

/-- In every run, all slots have been owned at every call if and only if no entry was replaced while
its context was registered; and then they are owned in the state reached. -/
theorem outlives_run_iff (env : MonitorEnv Table Content) (slots : EmberSlots env.ember)
    (kvs : KeyValueStore) (evs : List Event) :
    (Outlives slots (EventSystem.run (step env) (start env kvs) evs) ∧
        Owned slots (EventSystem.run (step env) (start env kvs) evs).bridgedEndpoints
          (EventSystem.run (step env) (start env kvs) evs).ember) ↔
      EventSystem.Guarded (step env) (OutliveCondition slots) (start env kvs) evs := by
  have hstart : Outlives slots (start env kvs) := fun r hr => by cases hr
  have hiff : Outlives slots (EventSystem.run (step env) (start env kvs) evs) ↔
      EventSystem.Guarded (step env) (OutliveCondition slots) (start env kvs) evs := by
    apply EventSystem.run_iff_guarded (I := fun s => SlotInv slots s ∧ Outlives slots s)
    · exact fun s ev h hc => h.1.step h.2 hc
    · exact fun s ev => Outlives.of_prefix (calls_step ev)
    · exact fun s ev h _ => h.1.outlives_step_iff h.2 ev
    · exact ⟨SlotInv.start kvs, hstart⟩
    · exact hstart
  rw [hiff, and_iff_left_iff_imp]
  intro hc
  have hI : SlotInv slots (EventSystem.run (step env) (start env kvs) evs) ∧
      Outlives slots (EventSystem.run (step env) (start env kvs) evs) :=
    EventSystem.invariant_run (I := fun s => SlotInv slots s ∧ Outlives slots s)
      (fun s ev h hc => h.1.step h.2 hc) ⟨SlotInv.start kvs, hstart⟩ hc
  intro i id c h
  obtain ⟨e, he, hctx, -⟩ := hI.1.owned i id c h
  exact ⟨e, he, hctx⟩

section Example

def lightSlots : EmberSlots lightEnv.ember :=
  slotTableSlots _ (by decide : 255 ≤ kInvalidEndpointId)

/-- When a node is announced again, its old entry is dropped while the stack still refers to its
context. -/
theorem not_outlives_of_announced_twice :
    ¬ ∀ evs : List Event, Outlives lightSlots (EventSystem.run (step lightEnv)
      (start lightEnv (KeyValueStore.empty fun _ => false)) evs) := by
  intro h
  have hout := h [.nodeAdded (lightNode "A"), .nodeAdded (lightNode "A")]
  have hmem : ([1], some 0) ∈ (EventSystem.run (step lightEnv)
      (start lightEnv (KeyValueStore.empty fun _ => false))
      [.nodeAdded (lightNode "A"), .nodeAdded (lightNode "A")]).calls.map fun r =>
        (r.bridgedEndpoints.map (·.emberEndpoint.allocation),
          (SlotTable.slot r.ember 0).map (·.2.allocation)) := by decide
  obtain ⟨r, hr, hcall⟩ := List.mem_map.mp hmem
  obtain ⟨hentries, hslot⟩ := Prod.mk.inj hcall
  obtain ⟨⟨id, c⟩, hc, hzero⟩ := Option.map_eq_some_iff.mp hslot
  obtain ⟨e, he, hctx⟩ := hout r hr 0 id c hc
  have hone : e.emberEndpoint.allocation ∈ [1] := hentries ▸ List.mem_map_of_mem he
  rw [List.mem_singleton.mp hone] at hctx
  rw [← hctx] at hzero
  cases hzero

end Example

end UnifyMatterBridge.NodeStateMonitor
