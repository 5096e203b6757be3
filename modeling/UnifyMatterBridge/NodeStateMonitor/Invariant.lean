import UnifyMatterBridge.NodeStateMonitor.Model
import UnifyMatterBridge.Lib.Execution

/-! What each event does to the bridged endpoints and to the key-value store, and the invariant
that ties the two together as long as a fresh id is never one on record. -/
namespace UnifyMatterBridge.NodeStateMonitor

variable {Table Content : Type} {env : MonitorEnv Table Content} {s : MonitorState Table Content}

/-- The Matter endpoint id on record for a Unify address. -/
def recordedId (kvs : KeyValueStore) (a : String × ℕ) : Option ℕ :=
  EndpointMapping.getPersistedData kvs ⟨a.1, a.2, none⟩

private theorem key_eq_iff {a b : String × ℕ} {v w : Option ℕ} :
    EndpointMapping.key ⟨a.1, a.2, v⟩ = EndpointMapping.key ⟨b.1, b.2, w⟩ ↔ a = b :=
  EndpointMapping.key_inj.trans Prod.ext_iff.symm

theorem recordedId_persistData {kvs : KeyValueStore} (h : kvs.Faithful) (a b : String × ℕ)
    (id : ℕ) : recordedId (EndpointMapping.persistData kvs ⟨a.1, a.2, some id⟩).1 b =
      if b = a then some id else recordedId kvs b := by
  unfold recordedId EndpointMapping.getPersistedData EndpointMapping.persistData
  rw [KeyValueStore.get_put h]
  simp only [key_eq_iff]

theorem recordedId_removePersistedData (kvs : KeyValueStore) (a b : String × ℕ) :
    recordedId (EndpointMapping.removePersistedData kvs ⟨a.1, a.2, none⟩) b =
      if b = a then none else recordedId kvs b := by
  unfold recordedId EndpointMapping.getPersistedData EndpointMapping.removePersistedData
  rw [KeyValueStore.get_delete]
  simp only [key_eq_iff]

section Frame

@[simp] theorem kvs_record (s : MonitorState Table Content) (c : Call Content) :
    (record s c).kvs = s.kvs := rfl

@[simp] theorem kvs_registerDynamicEndpoint (s : MonitorState Table Content)
    (b : BridgedEndpoint Content) : (registerDynamicEndpoint env s b).kvs = s.kvs := by
  unfold registerDynamicEndpoint
  dsimp only
  split <;> rfl

@[simp] theorem bridgedEndpoints_assignMatterEndpoint (env : MonitorEnv Table Content)
    (s : MonitorState Table Content) (unid : String) (epId : ℕ) :
    (assignMatterEndpoint env s unid epId).2.bridgedEndpoints = s.bridgedEndpoints := by
  unfold assignMatterEndpoint
  split <;> rfl

end Frame

theorem bridgeEndpoint_spec (env : MonitorEnv Table Content) (node : Node)
    (s : MonitorState Table Content) (epId : Fin 256) (ep : Endpoint) (matterType : ℕ) :
    ∃ b : BridgedEndpoint Content, b.address = (node.unid, epId.val) ∧
      b.matterEndpoint = (assignMatterEndpoint env s node.unid epId).1 ∧
      (bridgeEndpoint env node s epId ep matterType).bridgedEndpoints =
        Multimap.insert (·.unifyUnid) b
          (eraseMapperEndpoint node.unid b.matterEndpoint s.bridgedEndpoints) ∧
      (bridgeEndpoint env node s epId ep matterType).kvs =
        (assignMatterEndpoint env s node.unid epId).2.kvs := by
  let r := assignMatterEndpoint env s node.unid epId
  refine ⟨{ makeBridge env node epId ep matterType r.1 r.2.nextAllocation with
    reachable := some (node.state == .onlineFunctional) }, rfl, rfl, ?_, ?_⟩
  · rw [← bridgedEndpoints_assignMatterEndpoint env s node.unid epId]
    rfl
  · unfold bridgeEndpoint
    simp only [invokeListeners, kvs_record, kvs_registerDynamicEndpoint]

/-- Condition under which an address gets an id of its own: where none is on record, some id is
free, and the one that is next in turn is on record for no address. -/
def FreshIdUnrecorded (env : MonitorEnv Table Content) (s : MonitorState Table Content)
    (a : String × ℕ) : Prop :=
  recordedId s.kvs a = none →
    (∃ id, env.ember.NextFree env.counts s.ember s.lastReturnedAvailableEndpointId id) ∧
    ∀ id, env.ember.NextFree env.counts s.ember s.lastReturnedAvailableEndpointId id →
      ∀ b, recordedId s.kvs b ≠ some id

/-- The invariant: distinct addresses, each with its id on record, and no id on record twice. -/
structure Inv (s : MonitorState Table Content) : Prop where
  faithful : s.kvs.Faithful
  addresses : s.bridgedEndpoints.Pairwise fun a b => a.address ≠ b.address
  recorded : ∀ e ∈ s.bridgedEndpoints, recordedId s.kvs e.address = some e.matterEndpoint
  injective : ∀ a b id, recordedId s.kvs a = some id → recordedId s.kvs b = some id → a = b

theorem inv_start {kvs : KeyValueStore} (hf : kvs.Faithful)
    (hi : ∀ a b id, recordedId kvs a = some id → recordedId kvs b = some id → a = b) :
    Inv (start env kvs) where
  faithful := hf
  addresses := List.Pairwise.nil
  recorded := by simp [start]
  injective := hi

theorem Inv.restart (hI : Inv s) : Inv (restart env s) where
  faithful := hI.faithful
  addresses := List.Pairwise.nil
  recorded := by simp [NodeStateMonitor.restart, start]
  injective := hI.injective

/-- Assigning an id records it for the address and changes no other record. -/
theorem assignMatterEndpoint_spec (hI : Inv s) {unid : String} {epId : ℕ}
    (hfresh : FreshIdUnrecorded env s (unid, epId)) :
    let r := assignMatterEndpoint env s unid epId
    r.2.kvs.Faithful ∧
    (∀ a, recordedId r.2.kvs a =
      if a = (unid, epId) then some r.1 else recordedId s.kvs a) ∧
    ∀ a, recordedId s.kvs a = some r.1 → a = (unid, epId) := by
  cases hrec : recordedId s.kvs (unid, epId) with
  | some id =>
    have hget : EndpointMapping.getPersistedData s.kvs ⟨unid, epId, none⟩ = some id := hrec
    have hr : assignMatterEndpoint env s unid epId = (id, s) := by
      simp only [assignMatterEndpoint, hget]
    rw [hr]
    refine ⟨hI.faithful, fun a => ?_, fun a ha => hI.injective a _ id ha hrec⟩
    split_ifs with ha
    · rw [ha, hrec]
    · rfl
  | none =>
    obtain ⟨⟨id, hid⟩, hun⟩ := hfresh hrec
    have hnext := EmberApi.getNextDynamicAvailableEndpointIndex_of_nextFree hid
    have hget : EndpointMapping.getPersistedData s.kvs ⟨unid, epId, none⟩ = none := hrec
    have hr : assignMatterEndpoint env s unid epId = (id, { s with
        lastReturnedAvailableEndpointId := (env.ember.getNextDynamicAvailableEndpointIndex
          env.counts s.ember s.lastReturnedAvailableEndpointId).2
        kvs := (EndpointMapping.persistData s.kvs ⟨unid, epId, some id⟩).1 }) := by
      simp only [assignMatterEndpoint, hget, hnext]
    rw [hr]
    refine ⟨KeyValueStore.faithful_put.mpr hI.faithful, fun a => ?_, fun a ha => ?_⟩
    · exact recordedId_persistData hI.faithful (unid, epId) a id
    · exact absurd ha (hun id hid a)

theorem address_ne_of_mem_erase (hI : Inv s) {unid : String} {epId id : ℕ}
    (hid : ∀ a, recordedId s.kvs a = some id → a = (unid, epId))
    (hrec : ∀ j, recordedId s.kvs (unid, epId) = some j → j = id)
    {e : BridgedEndpoint Content} (he : e ∈ eraseMapperEndpoint unid id s.bridgedEndpoints) :
    e.address ≠ (unid, epId) := by
  intro haddr
  have hmem : e ∈ s.bridgedEndpoints := List.mem_of_mem_eraseP he
  have hrece := hI.recorded e hmem
  have hunid : e.unifyUnid = unid := congrArg Prod.fst haddr
  have hep : e.matterEndpoint = id := hrec _ (haddr ▸ hrece)
  -- Two entries that both match have the recorded id, hence the same address.
  have hp := Multimap.not_of_mem_eraseP (hI.addresses.imp_of_mem
    (S := fun a b => ¬(decide (a.unifyUnid = unid ∧ a.matterEndpoint = id) = true ∧
      decide (b.unifyUnid = unid ∧ b.matterEndpoint = id) = true)) ?_) he
  · simp [hunid, hep] at hp
  · intro a b ha hb hab ⟨hpa, hpb⟩
    have ha' := hid _ ((hI.recorded a ha).trans (congrArg some (of_decide_eq_true hpa).2))
    have hb' := hid _ ((hI.recorded b hb).trans (congrArg some (of_decide_eq_true hpb).2))
    exact hab (ha'.trans hb'.symm)

theorem pairwise_address_replace {l : List (BridgedEndpoint Content)} {b : BridgedEndpoint Content}
    {unid : String} {id : ℕ} (haddresses : l.Pairwise fun e f => e.address ≠ f.address)
    (hother : ∀ e ∈ eraseMapperEndpoint unid id l, e.address ≠ b.address) :
    (Multimap.insert (·.unifyUnid) b (eraseMapperEndpoint unid id l)).Pairwise fun e f =>
      e.address ≠ f.address := by
  rw [Multimap.pairwise_insert fun _ _ h => h.symm]
  refine ⟨fun e he => (hother e he).symm, ?_⟩
  exact haddresses.sublist List.eraseP_sublist

theorem Inv.bridgeEndpoint (hI : Inv s) {node : Node} {epId : Fin 256}
    (hfresh : FreshIdUnrecorded env s (node.unid, epId.val)) (ep : Endpoint) (matterType : ℕ) :
    Inv (bridgeEndpoint env node s epId ep matterType) := by
  obtain ⟨b, haddr, hb, hl, hkvs⟩ := bridgeEndpoint_spec env node s epId ep matterType
  obtain ⟨hf, hrec, hid⟩ := assignMatterEndpoint_spec hI hfresh
  rw [← hb] at hrec hid
  rw [← hkvs] at hf hrec
  have hold : ∀ j, recordedId s.kvs (node.unid, epId.val) = some j → j = b.matterEndpoint := by
    intro j hj
    have h := hb
    have hget : EndpointMapping.getPersistedData s.kvs ⟨node.unid, epId, none⟩ = some j := hj
    simp only [assignMatterEndpoint, hget] at h
    exact h.symm
  have hne := fun e he => address_ne_of_mem_erase hI hid hold (e := e) he
  refine ⟨hf, ?_, ?_, ?_⟩
  · rw [hl]
    apply pairwise_address_replace hI.addresses
    intro e he
    rw [haddr]
    exact hne e he
  · intro e he
    rw [hl, Multimap.mem_insert] at he
    rcases he with rfl | he
    · rw [hrec, if_pos haddr]
    · rw [hrec, if_neg (hne e he)]
      exact hI.recorded e (List.mem_of_mem_eraseP he)
  · intro x y id hx hy
    rw [hrec] at hx hy
    split_ifs at hx hy with h₁ h₂ h₂
    · rw [h₁, h₂]
    · cases hx
      exact absurd (hid y hy) h₂
    · cases hy
      exact absurd (hid x hx) h₁
    · exact hI.injective x y id hx hy

def EndpointCondition (env : MonitorEnv Table Content) (node : Node)
    (s : MonitorState Table Content) (ep : Fin 256 × Endpoint) : Prop :=
  mappedDeviceType env ep.2.clusters ≠ none → FreshIdUnrecorded env s (node.unid, ep.1.val)

theorem Inv.addEndpoint (hI : Inv s) {node : Node} {ep : Fin 256 × Endpoint}
    (hc : EndpointCondition env node s ep) : Inv (addEndpoint env node s ep) := by
  unfold NodeStateMonitor.addEndpoint
  cases hm : mappedDeviceType env ep.2.clusters with
  | none => exact hI
  | some matterType => exact hI.bridgeEndpoint (hc (by simp [hm])) ep.2 matterType

/-- What the loop of `on_unify_node_removed` does to the entries and to the records. -/
theorem removeEndpoint_foldl (env : MonitorEnv Table Content) (s : MonitorState Table Content)
    (l : List (BridgedEndpoint Content)) :
    (l.foldl (removeEndpoint env) s).bridgedEndpoints = s.bridgedEndpoints ∧
    ((l.foldl (removeEndpoint env) s).kvs.Faithful ↔ s.kvs.Faithful) ∧
    ∀ a, recordedId (l.foldl (removeEndpoint env) s).kvs a =
      if a ∈ l.map BridgedEndpoint.address then none else recordedId s.kvs a := by
  induction l generalizing s with
  | nil => simp
  | cons e l ih =>
    obtain ⟨h₁, h₂, h₃⟩ := ih (removeEndpoint env s e)
    have hrec : ∀ a, recordedId (removeEndpoint env s e).kvs a =
        if a = e.address then none else recordedId s.kvs a :=
      fun a => recordedId_removePersistedData s.kvs e.address a
    refine ⟨h₁, h₂, fun a => ?_⟩
    rw [List.foldl_cons, h₃, hrec, List.map_cons]
    by_cases ha : a = e.address
    · simp [ha]
    · simp [ha]

theorem Inv.onUnifyNodeRemoved (hI : Inv s) (unid : String) :
    Inv (onUnifyNodeRemoved env s unid) := by
  obtain ⟨h₁, h₂, h₃⟩ := removeEndpoint_foldl env s
    (Multimap.equalRange (·.unifyUnid) unid s.bridgedEndpoints)
  have hmem : ∀ e, e ∈ (NodeStateMonitor.onUnifyNodeRemoved env s unid).bridgedEndpoints →
      e ∈ s.bridgedEndpoints ∧ e.unifyUnid ≠ unid := by
    intro e he
    simpa [NodeStateMonitor.onUnifyNodeRemoved, h₁] using he
  refine ⟨h₂.mpr hI.faithful, ?_, fun e he => ?_, fun a b id ha hb => ?_⟩
  · apply List.Pairwise.filter
    rw [h₁]
    exact hI.addresses
  · obtain ⟨he, hne⟩ := hmem e he
    have hnot : e.address ∉ (Multimap.equalRange (·.unifyUnid) unid s.bridgedEndpoints).map
        BridgedEndpoint.address := by
      intro h
      obtain ⟨x, hx, hxe⟩ := List.mem_map.mp h
      have hxu : x.unifyUnid = unid := (Multimap.mem_equalRange.mp hx).2
      exact hne ((congrArg Prod.fst hxe).symm.trans hxu)
    exact (h₃ e.address).trans ((if_neg hnot).trans (hI.recorded e he))
  · have ha' := (h₃ a).symm.trans ha
    have hb' := (h₃ b).symm.trans hb
    split_ifs at ha' hb'
    exact hI.injective a b id ha' hb'

theorem map_assignReachable {β : Type} {f : BridgedEndpoint Content → β}
    (hf : ∀ e r, f { e with reachable := r } = f e) (allocation : ℕ) (r : Bool)
    (l : List (BridgedEndpoint Content)) : (assignReachable allocation r l).map f = l.map f := by
  unfold assignReachable
  rw [List.map_map]
  apply List.map_congr_left
  intro e _
  rw [Function.comp_apply]
  split
  · exact hf e _
  · rfl

theorem Inv.congr (hI : Inv s) {s' : MonitorState Table Content} (hkvs : s'.kvs = s.kvs)
    (hl : s'.bridgedEndpoints.map (fun e => (e.address, e.matterEndpoint)) =
      s.bridgedEndpoints.map fun e => (e.address, e.matterEndpoint)) : Inv s' := by
  refine ⟨hkvs ▸ hI.faithful, ?_, fun e he => ?_, hkvs ▸ hI.injective⟩
  · exact Multimap.pairwise_of_map_eq hl (fun p q => p.1 ≠ q.1) hI.addresses
  · obtain ⟨x, hx, hxe⟩ := Multimap.exists_of_map_eq hl he
    obtain ⟨haddr, hid⟩ := Prod.mk.inj hxe
    rw [hkvs, ← haddr, ← hid]
    exact hI.recorded x hx

theorem Inv.changeState (hI : Inv s) (r : Bool) (e : BridgedEndpoint Content) :
    Inv (changeState r s e) :=
  hI.congr rfl (map_assignReachable (fun _ _ => rfl) _ _ _)

/-- Condition on an event: every endpoint it bridges anew gets an id of its own. -/
def EventCondition (env : MonitorEnv Table Content) (s : MonitorState Table Content) :
    Event → Prop
  | .nodeAdded node =>
    EventSystem.Guarded (NodeStateMonitor.addEndpoint env node) (EndpointCondition env node) s
      (visited env node)
  | .nodeRemoved _ | .nodeStateChanged _ | .restart => True

theorem Inv.step (hI : Inv s) {ev : Event} (hc : EventCondition env s ev) :
    Inv (step env s ev) := by
  cases ev with
  | nodeAdded node => exact EventSystem.invariant_run (fun _ _ h hc => h.addEndpoint hc) hI hc
  | nodeRemoved unid => exact hI.onUnifyNodeRemoved unid
  | nodeStateChanged node =>
    exact EventSystem.invariant_run' (fun _ e h => h.changeState _ e) hI _
  | restart => exact hI.restart

theorem Inv.run (hI : Inv s) {evs : List Event}
    (hc : EventSystem.Guarded (NodeStateMonitor.step env) (EventCondition env) s evs) :
    Inv (EventSystem.run (NodeStateMonitor.step env) s evs) :=
  EventSystem.invariant_run (fun _ _ h hc => h.step hc) hI hc

end UnifyMatterBridge.NodeStateMonitor
