import UnifyMatterBridge.NodeStateMonitor.Slots
import UnifyMatterBridge.NodeStateMonitor.Registration

/-! Where endpoints are placed: with a store whose writes succeed, every entry is under the id on
record, and a slot of the stack's table is at the index of its id and belongs to an entry. -/
namespace UnifyMatterBridge.NodeStateMonitor

variable {Table Content : Type} {env : MonitorEnv Table Content}

section Definitions

variable (env)

/-- The index of an endpoint id in the stack's table. -/
def dynamicIndex (id : ℕ) : ℕ := (id + 65536 - env.counts.fixedEndpointCount) % 65536

/-- The table after `register_dynamic_endpoint`. -/
def registeredTable (t : Table) (bridge : BridgedEndpoint Content) : Table :=
  let index := env.ember.emberAfGetDynamicIndexFromEndpoint t bridge.matterEndpoint
  let t := if index ≠ kInvalidEndpointId then (env.ember.emberAfClearDynamicEndpoint t index).1
    else t
  (env.ember.emberAfSetDynamicEndpoint t bridge.index bridge.matterEndpoint bridge.emberEndpoint
    bridge.matterType).1

/-- Every endpoint of the node that is bridged finds an id and is accepted by the stack. -/
def RegistrationsSucceed (s : MonitorState Table Content) (node : Node) : Prop :=
  EventSystem.Guarded (addEndpoint env node) (fun s ep => ¬ RegistrationFails env node s ep) s
    (visited env node)

end Definitions

/-- The invariant: every entry is the only one of its address and, within its node, of its id, it is
under the id on record and has a context of its own; entries and slots are at the index of their id,
and the context in a slot is that of an entry. -/
structure Placed (slots : EmberSlots env.ember) (s : MonitorState Table Content) : Prop where
  faithful : s.kvs.Faithful
  small : ∀ a id, recordedId s.kvs a = some id → id < 65536
  addresses : OneEntry s
  ids : s.bridgedEndpoints.Pairwise fun e f =>
    e.unifyUnid = f.unifyUnid → e.matterEndpoint ≠ f.matterEndpoint
  recorded : ∀ e ∈ s.bridgedEndpoints, recordedId s.kvs e.address = some e.matterEndpoint
  index : ∀ e ∈ s.bridgedEndpoints, e.index = dynamicIndex env e.matterEndpoint
  older : ∀ e ∈ s.bridgedEndpoints, e.emberEndpoint.allocation < s.nextAllocation
  contexts : s.bridgedEndpoints.Pairwise fun e f =>
    e.emberEndpoint.allocation ≠ f.emberEndpoint.allocation
  valid : slots.Valid s.ember
  indexed : ∀ i id c, slots.slot s.ember i = some (id, c) → i = dynamicIndex env id ∧ id < 65536
  owned : ∀ i id c, slots.slot s.ember i = some (id, c) → ∃ e ∈ s.bridgedEndpoints,
    e.emberEndpoint.allocation = c.allocation ∧ e.matterEndpoint = id

variable {slots : EmberSlots env.ember} {s : MonitorState Table Content}

theorem dynamicIndex_inj {id id' : ℕ} (h : id < 65536) (h' : id' < 65536) :
    dynamicIndex env id = dynamicIndex env id' ↔ id = id' := by
  have hfixed : env.counts.fixedEndpointCount ≤ 65535 :=
    Nat.le_trans env.counts.fixed_le_max env.counts.max_le
  unfold dynamicIndex
  omega

theorem Placed.lt (hP : Placed slots s) {e : BridgedEndpoint Content}
    (he : e ∈ s.bridgedEndpoints) : e.matterEndpoint < 65536 :=
  hP.small _ _ (hP.recorded e he)

section Assign

theorem getNextDynamicAvailableEndpointIndex_lt (t : Table) (cursor : ℕ) :
    (env.ember.getNextDynamicAvailableEndpointIndex env.counts t cursor).1 < 65536 := by
  have hmax : env.counts.maxEndpointCount ≤ 65535 := env.counts.max_le
  unfold EmberApi.getNextDynamicAvailableEndpointIndex
  cases h₁ : FirstFit.search (env.ember.unregistered t) ((cursor + 1) % 65536)
      env.counts.maxEndpointCount with
  | some id =>
    have hlt := (FirstFit.search_eq_some.mp h₁).2.1
    dsimp only
    omega
  | none =>
    cases h₂ : FirstFit.search (env.ember.unregistered t) env.counts.fixedEndpointCount
        env.counts.maxEndpointCount with
    | some id =>
      have hlt := (FirstFit.search_eq_some.mp h₂).2.1
      dsimp only
      omega
    | none => exact (by decide : kInvalidEndpointId < 65536)

theorem recordedId_assignMatterEndpoint (hf : s.kvs.Faithful) (a b : String × ℕ) :
    recordedId (assignMatterEndpoint env s a.1 a.2).2.kvs b =
      if b = a then some (assignMatterEndpoint env s a.1 a.2).1 else recordedId s.kvs b := by
  cases hrec : recordedId s.kvs a with
  | some id =>
    rw [assignMatterEndpoint_of_recorded hrec]
    split_ifs with hb
    · rw [hb, hrec]
    · rfl
  | none =>
    have hget : EndpointMapping.getPersistedData s.kvs ⟨a.1, a.2, none⟩ = none := hrec
    simp only [assignMatterEndpoint, hget]
    exact recordedId_persistData hf a b _

theorem faithful_assignMatterEndpoint (hf : s.kvs.Faithful) (unid : String) (epId : ℕ) :
    (assignMatterEndpoint env s unid epId).2.kvs.Faithful := by
  unfold assignMatterEndpoint
  split
  · exact hf
  · exact KeyValueStore.faithful_put.mpr hf

theorem Placed.assigned_lt (hP : Placed slots s) (a : String × ℕ) :
    (assignMatterEndpoint env s a.1 a.2).1 < 65536 := by
  rcases (assignMatterEndpoint_cases env s a).1 with hrec | ⟨-, halloc⟩
  · exact hP.small a _ hrec
  · rw [halloc]
    exact getNextDynamicAvailableEndpointIndex_lt _ _

end Assign

section Bridge

variable {node : Node} {epId : Fin 256} {ep : Endpoint} {matterType : ℕ}

theorem kvs_bridgeEndpoint :
    (bridgeEndpoint env node s epId ep matterType).kvs =
      (assignMatterEndpoint env s node.unid epId).2.kvs := by
  unfold bridgeEndpoint
  simp only [invokeListeners, kvs_record, kvs_registerDynamicEndpoint]

theorem ember_registerDynamicEndpoint (s : MonitorState Table Content)
    (b : BridgedEndpoint Content) :
    (registerDynamicEndpoint env s b).ember = registeredTable env s.ember b := by
  unfold registerDynamicEndpoint registeredTable
  dsimp only
  split_ifs
  · rfl
  · rfl

theorem ember_bridgeEndpoint :
    (bridgeEndpoint env node s epId ep matterType).ember =
      registeredTable env s.ember (bridgedEntry env node s epId ep matterType) := by
  rw [ember_bridgeEndpoint_eq, registered, ember_registerDynamicEndpoint, ember_inserted]
  rfl

theorem Placed.valid_registeredTable (hP : Placed slots s) (b : BridgedEndpoint Content) :
    slots.Valid (registeredTable env s.ember b) := by
  unfold registeredTable
  dsimp only
  split_ifs
  · exact slots.valid_set (slots.valid_clear hP.valid _) _ _ _ _
  · exact slots.valid_set hP.valid _ _ _ _

/-- Registering an endpoint at the index of its id writes this slot only. -/
theorem Placed.slot_registeredTable (hP : Placed slots s) {b : BridgedEndpoint Content}
    (hb : b.index = dynamicIndex env b.matterEndpoint)
    (hok : registrationError env s.ember b = .noError) (i : ℕ) :
    slots.slot (registeredTable env s.ember b) i =
      if i = b.index then some (b.matterEndpoint, b.emberEndpoint) else slots.slot s.ember i := by
  unfold registrationError at hok
  unfold registeredTable
  dsimp only at hok ⊢
  split_ifs at hok ⊢ with hindex hi hi
  · rw [slots.slot_set (slots.valid_clear hP.valid _) hok, if_pos hi]
  · rw [slots.slot_set (slots.valid_clear hP.valid _) hok, if_neg hi, slots.slot_clear hP.valid,
      if_neg]
    obtain ⟨c, hc⟩ := slots.slot_found hP.valid hindex
    rw [(hP.indexed _ _ _ hc).1, ← hb]
    exact hi
  · rw [slots.slot_set hP.valid hok, if_pos hi]
  · rw [slots.slot_set hP.valid hok, if_neg hi]

theorem Placed.slot_registeredTable_cases (hP : Placed slots s) {b : BridgedEndpoint Content}
    {i id : ℕ} {c : EndpointContext Content}
    (h : slots.slot (registeredTable env s.ember b) i = some (id, c)) :
    (i = b.index ∧ id = b.matterEndpoint ∧ c = b.emberEndpoint) ∨
      slots.slot s.ember i = some (id, c) ∧ id ≠ b.matterEndpoint := by
  unfold registeredTable at h
  dsimp only at h
  split_ifs at h with hindex
  · have hclear := slots.valid_clear hP.valid
      (env.ember.emberAfGetDynamicIndexFromEndpoint s.ember b.matterEndpoint)
    refine (slot_set_eq_some hclear h).imp_right fun hcleared => ?_
    obtain ⟨hi, hslot⟩ := slot_clear_eq_some hP.valid hcleared
    refine ⟨hslot, fun hid => hi ?_⟩
    -- the id is in one slot only, the one that is cleared
    obtain ⟨c', hfound⟩ := slots.slot_found hP.valid hindex
    rw [(hP.indexed _ _ _ hfound).1, (hP.indexed _ _ _ hslot).1, hid]
  · refine (slot_set_eq_some hP.valid h).imp_right fun hslot => ⟨hslot, fun hid => ?_⟩
    exact slots.slot_not_found hP.valid (not_not.mp hindex) i c (hid ▸ hslot)

theorem Placed.bridgeEndpoint (hP : Placed slots s) :
    Placed slots (bridgeEndpoint env node s epId ep matterType) := by
  let b := bridgedEntry env node s epId ep matterType
  have hl := @bridgedEndpoints_bridgeEndpoint _ _ env s node epId ep matterType
  have hrecords := @recordedId_assignMatterEndpoint _ _ env s hP.faithful (node.unid, epId.val)
  have hkvs := @kvs_bridgeEndpoint _ _ env s node epId ep matterType
  have hember := @ember_bridgeEndpoint _ _ env s node epId ep matterType
  have hlt : b.matterEndpoint < 65536 := hP.assigned_lt (node.unid, epId.val)
  have hkept : ∀ e ∈ eraseMapperEndpoint node.unid b.matterEndpoint s.bridgedEndpoints,
      e ∈ s.bridgedEndpoints ∧ ¬ (e.unifyUnid = node.unid ∧ e.matterEndpoint = b.matterEndpoint) :=
    fun e he => (mem_eraseMapperEndpoint hP.ids).mp he
  have hother : ∀ e ∈ eraseMapperEndpoint node.unid b.matterEndpoint s.bridgedEndpoints,
      e.address ≠ (node.unid, epId.val) := by
    intro e he haddr
    obtain ⟨hmem, hnot⟩ := hkept e he
    have hassigned := @assignMatterEndpoint_of_recorded _ _ env s _ _ (haddr ▸ hP.recorded e hmem)
    exact hnot ⟨congrArg Prod.fst haddr, (congrArg Prod.fst hassigned).symm⟩
  constructor
  · rw [hkvs]
    exact faithful_assignMatterEndpoint hP.faithful _ _
  · intro a id hrec
    rw [hkvs, hrecords] at hrec
    split_ifs at hrec
    · exact Option.some.inj hrec ▸ hlt
    · exact hP.small a id hrec
  · rw [OneEntry, hl]
    exact pairwise_address_replace hP.addresses hother
  · rw [hl]
    exact pairwise_id_replace hP.ids rfl
  · intro e he
    rw [hkvs, hrecords]
    rw [hl, Multimap.mem_insert] at he
    rcases he with rfl | he
    · exact if_pos rfl
    · rw [if_neg (hother e he)]
      exact hP.recorded e (hkept e he).1
  · intro e he
    rw [hl, Multimap.mem_insert] at he
    rcases he with rfl | he
    · rfl
    · exact hP.index e (hkept e he).1
  · rw [hl, nextAllocation_bridgeEndpoint]
    exact older_replace hP.older rfl
  · rw [hl]
    exact pairwise_context_replace hP.contexts hP.older rfl
  · rw [hember]
    exact hP.valid_registeredTable b
  · intro i id c h
    rw [hember] at h
    rcases hP.slot_registeredTable_cases h with ⟨hi, hid, -⟩ | ⟨h, -⟩
    · rw [hi, hid]
      exact ⟨rfl, hlt⟩
    · exact hP.indexed i id c h
  · intro i id c h
    rw [hember] at h
    rw [hl]
    rcases hP.slot_registeredTable_cases h with ⟨-, hid, hctx⟩ | ⟨h, hne⟩
    · refine ⟨b, Multimap.mem_insert.mpr (Or.inl rfl), ?_, hid.symm⟩
      rw [hctx]
    · obtain ⟨e, he, halloc, hid⟩ := hP.owned i id c h
      refine ⟨e, Multimap.mem_insert.mpr (Or.inr ?_), halloc, hid⟩
      apply (mem_eraseMapperEndpoint hP.ids).mpr
      exact ⟨he, fun hboth => hne (hid.symm.trans hboth.2)⟩

theorem Placed.addEndpoint (hP : Placed slots s) (node : Node) (ep : Fin 256 × Endpoint) :
    Placed slots (addEndpoint env node s ep) := by
  unfold NodeStateMonitor.addEndpoint
  split
  · exact hP
  · exact hP.bridgeEndpoint

end Bridge

section Steps

theorem Placed.of_nil (hf : s.kvs.Faithful)
    (hsmall : ∀ a id, recordedId s.kvs a = some id → id < 65536) (hl : s.bridgedEndpoints = [])
    (hember : s.ember = env.ember.empty) : Placed slots s where
  faithful := hf
  small := hsmall
  addresses := by
    rw [OneEntry, hl]
    exact List.Pairwise.nil
  ids := by
    rw [hl]
    exact List.Pairwise.nil
  recorded := by simp [hl]
  index := by simp [hl]
  older := by simp [hl]
  contexts := by
    rw [hl]
    exact List.Pairwise.nil
  valid := hember ▸ slots.valid_empty
  indexed := by simp [hember, slots.slot_empty]
  owned := by simp [hember, slots.slot_empty]

theorem Placed.onUnifyNodeRemoved (hP : Placed slots s) (unid : String) :
    Placed slots (onUnifyNodeRemoved env s unid) := by
  have hsub := @sublist_onUnifyNodeRemoved _ _ env s unid
  obtain ⟨-, hfaithful, -⟩ := removeEndpoint_foldl env s
    (Multimap.equalRange (·.unifyUnid) unid s.bridgedEndpoints)
  constructor
  · exact hfaithful.mpr hP.faithful
  · intro a id hrec
    rw [recordedId_onUnifyNodeRemoved] at hrec
    split_ifs at hrec
    exact hP.small a id hrec
  · exact hP.addresses.sublist hsub
  · exact hP.ids.sublist hsub
  · intro e he
    obtain ⟨hmem, hunid⟩ := mem_onUnifyNodeRemoved.mp he
    rw [recordedId_onUnifyNodeRemoved, if_neg]
    · exact hP.recorded e hmem
    · intro hremoved
      obtain ⟨x, -, hx, haddr⟩ := hremoved
      exact hunid ((congrArg Prod.fst haddr).symm.trans hx)
  · exact fun e he => hP.index e (hsub.subset he)
  · intro e he
    rw [nextAllocation_onUnifyNodeRemoved]
    exact hP.older e (hsub.subset he)
  · exact hP.contexts.sublist hsub
  · exact valid_onUnifyNodeRemoved hP.valid unid
  · intro i id c h
    rw [slot_onUnifyNodeRemoved hP.valid] at h
    split_ifs at h
    exact hP.indexed i id c h
  · intro i id c h
    rw [slot_onUnifyNodeRemoved hP.valid] at h
    split_ifs at h with hi
    obtain ⟨e, he, hctx, hid⟩ := hP.owned i id c h
    refine ⟨e, mem_onUnifyNodeRemoved.mpr ⟨he, fun hunid => hi ⟨e, he, hunid, ?_⟩⟩, hctx, hid⟩
    rw [hP.index e he, hid]
    exact (hP.indexed i id c h).1.symm

theorem Placed.changeState (hP : Placed slots s) (reachable : Bool) (e : BridgedEndpoint Content) :
    Placed slots (changeState reachable s e) := by
  have hviews : (NodeStateMonitor.changeState reachable s e).bridgedEndpoints.map
        (fun e => { e with reachable := none }) =
      s.bridgedEndpoints.map fun e => { e with reachable := none } :=
    map_assignReachable (fun _ _ => rfl) _ _ _
  have hfound : ∀ P : BridgedEndpoint Content → Prop,
      (∀ f ∈ s.bridgedEndpoints, P { f with reachable := none }) →
      ∀ f ∈ (NodeStateMonitor.changeState reachable s e).bridgedEndpoints,
        P { f with reachable := none } := by
    intro P h f hf
    obtain ⟨x, hx, heq⟩ := Multimap.exists_of_map_eq hviews hf
    exact heq ▸ h x hx
  constructor
  · exact hP.faithful
  · exact hP.small
  · exact Multimap.pairwise_of_map_eq hviews (fun p q => p.address ≠ q.address) hP.addresses
  · exact Multimap.pairwise_of_map_eq hviews
      (fun p q => p.unifyUnid = q.unifyUnid → p.matterEndpoint ≠ q.matterEndpoint) hP.ids
  · exact hfound (fun e => recordedId s.kvs e.address = some e.matterEndpoint) hP.recorded
  · exact hfound (fun e => e.index = dynamicIndex env e.matterEndpoint) hP.index
  · exact hfound (fun e => e.emberEndpoint.allocation < s.nextAllocation) hP.older
  · exact Multimap.pairwise_of_map_eq hviews
      (fun p q => p.emberEndpoint.allocation ≠ q.emberEndpoint.allocation) hP.contexts
  · exact hP.valid
  · exact hP.indexed
  · intro i id c h
    obtain ⟨x, hx, hctx, hid⟩ := hP.owned i id c h
    obtain ⟨y, hy, heq⟩ := Multimap.exists_of_map_eq hviews.symm hx
    rw [BridgedEndpoint.mk.injEq] at heq
    obtain ⟨-, -, hyid, -, -, hyctx, -⟩ := heq
    exact ⟨y, hy, hyctx ▸ hctx, hyid.trans hid⟩

theorem Placed.step (hP : Placed slots s) (ev : Event) : Placed slots (step env s ev) := by
  cases ev with
  | nodeAdded node =>
    exact EventSystem.invariant_run' (fun _ ep h => h.addEndpoint node ep) hP (visited env node)
  | nodeRemoved unid => exact hP.onUnifyNodeRemoved unid
  | nodeStateChanged node => exact EventSystem.invariant_run' (fun _ e h => h.changeState _ e) hP _
  | restart => exact Placed.of_nil hP.faithful hP.small rfl rfl

theorem placed_run (env : MonitorEnv Table Content) (slots : EmberSlots env.ember)
    (evs : List Event) :
    Placed slots
      (EventSystem.run (step env) (start env (KeyValueStore.empty fun _ => false)) evs) := by
  have hstart : Placed slots (start env (KeyValueStore.empty fun _ => false)) := by
    apply Placed.of_nil
    · exact fun _ => rfl
    · intro a id h
      cases h
    · rfl
    · rfl
  exact EventSystem.invariant_run' (fun _ ev h => h.step ev) hstart evs

end Steps

end UnifyMatterBridge.NodeStateMonitor
