import UnifyMatterBridge.NodeStateMonitor.Directory

/-! What the Matter stack is told mirrors what Unify tells: where registrations succeed and no id on
record has been given to another endpoint, the stack's table holds the directory, under ids of their
own. -/
namespace UnifyMatterBridge.NodeStateMonitor

variable {Table Content : Type}

section Definitions

variable (env : MonitorEnv Table Content)

def RecordedIdUnused (node : Node) (s : MonitorState Table Content) (ep : Fin 256 × Endpoint) : Prop :=
  mappedDeviceType env ep.2.clusters ≠ none → ∀ id, recordedId s.kvs (node.unid, ep.1.val) = some id →
    ∀ e ∈ s.bridgedEndpoints, e.matterEndpoint = id → e.address = (node.unid, ep.1.val)

/-- Condition on an event: every endpoint it bridges is registered, and its id on record, if it has
one, is not in use for another. -/
def MirrorCondition (s : MonitorState Table Content) : Event → Prop
  | .nodeAdded node => EventSystem.Guarded (addEndpoint env node) (fun s ep =>
      ¬ RegistrationFails env node s ep ∧ RecordedIdUnused env node s ep) s (visited env node)
  | .nodeRemoved _ | .nodeStateChanged _ | .restart => True

variable {env} (slots : EmberSlots env.ember)

/-- The invariant: every entry is registered at its index. -/
structure Registered (s : MonitorState Table Content) : Prop extends Placed slots s where
  registered : ∀ e ∈ s.bridgedEndpoints,
    slots.slot s.ember e.index = some (e.matterEndpoint, e.emberEndpoint)

end Definitions

variable {env : MonitorEnv Table Content} {slots : EmberSlots env.ember}
  {s : MonitorState Table Content} {node : Node}

/-- Entries with one id are one entry, as they are in one slot. -/
theorem Registered.eq_of_id (hR : Registered slots s) {e f : BridgedEndpoint Content}
    (he : e ∈ s.bridgedEndpoints) (hf : f ∈ s.bridgedEndpoints)
    (hid : e.matterEndpoint = f.matterEndpoint) : e = f := by
  have hindex : e.index = f.index := by rw [hR.index e he, hR.index f hf, hid]
  have hslot := hR.registered e he
  rw [hindex, hR.registered f hf] at hslot
  obtain ⟨-, hctx⟩ := Prod.mk.inj (Option.some.inj hslot)
  have hn : (s.bridgedEndpoints.map fun e => e.emberEndpoint.allocation).Nodup :=
    List.pairwise_map.mpr hR.contexts
  exact List.inj_on_of_nodup_map hn he hf (congrArg EndpointContext.allocation hctx.symm)

theorem unregistered_of_ne_invalid {t : Table} {cursor : ℕ}
    (hfound : (env.ember.getNextDynamicAvailableEndpointIndex env.counts t cursor).1 ≠
      kInvalidEndpointId) : env.ember.unregistered t
        (env.ember.getNextDynamicAvailableEndpointIndex env.counts t cursor).1 = true := by
  unfold EmberApi.getNextDynamicAvailableEndpointIndex at hfound ⊢
  cases h₁ : FirstFit.search (env.ember.unregistered t) ((cursor + 1) % 65536)
      env.counts.maxEndpointCount with
  | some id => exact (FirstFit.search_eq_some.mp h₁).2.2.1
  | none =>
    cases h₂ : FirstFit.search (env.ember.unregistered t) env.counts.fixedEndpointCount
        env.counts.maxEndpointCount with
    | some id => exact (FirstFit.search_eq_some.mp h₂).2.2.1
    | none =>
      simp only [h₁, h₂] at hfound
      exact absurd rfl hfound

theorem Registered.fresh (hR : Registered slots s)
    (hfound : (env.ember.getNextDynamicAvailableEndpointIndex env.counts s.ember
      s.lastReturnedAvailableEndpointId).1 ≠ kInvalidEndpointId) {e : BridgedEndpoint Content}
    (he : e ∈ s.bridgedEndpoints) :
    e.matterEndpoint ≠ (env.ember.getNextDynamicAvailableEndpointIndex env.counts s.ember
      s.lastReturnedAvailableEndpointId).1 := by
  intro hid
  have hfree : env.ember.unregistered s.ember (env.ember.getNextDynamicAvailableEndpointIndex
      env.counts s.ember s.lastReturnedAvailableEndpointId).1 = true :=
    unregistered_of_ne_invalid hfound
  apply slots.slot_not_found hR.valid (of_decide_eq_true hfree) e.index e.emberEndpoint
  rw [← hid]
  exact hR.registered e he

theorem Registered.assigned_unused (hR : Registered slots s) {ep : Fin 256 × Endpoint}
    (hok : ¬ RegistrationFails env node s ep) (hunused : RecordedIdUnused env node s ep)
    (hmapped : mappedDeviceType env ep.2.clusters ≠ none) :
    ∀ e ∈ s.bridgedEndpoints, e.matterEndpoint = (assignMatterEndpoint env s node.unid ep.1).1 →
      e.address = (node.unid, ep.1.val) := by
  intro e he hid
  rcases (assignMatterEndpoint_cases env s (node.unid, ep.1.val)).1 with hrec | ⟨hnone, halloc⟩
  · exact hunused hmapped _ hrec e he hid
  · obtain ⟨matterType, hm⟩ := Option.ne_none_iff_exists'.mp hmapped
    have hfound : (env.ember.getNextDynamicAvailableEndpointIndex env.counts s.ember
        s.lastReturnedAvailableEndpointId).1 ≠ kInvalidEndpointId :=
      fun hinvalid => hok ⟨matterType, hm, Or.inl ⟨hnone, hinvalid⟩⟩
    exact absurd (hid.trans halloc) (hR.fresh hfound he)

theorem Registered.addEndpoint (hR : Registered slots s) {ep : Fin 256 × Endpoint}
    (hok : ¬ RegistrationFails env node s ep) (hunused : RecordedIdUnused env node s ep) :
    Registered slots (addEndpoint env node s ep) := by
  refine ⟨hR.toPlaced.addEndpoint node ep, fun e he => ?_⟩
  have hdistinct := fun hmapped => hR.assigned_unused hok hunused hmapped
  by_cases haddr : mappedDeviceType env ep.2.clusters ≠ none → e.address ≠ (node.unid, ep.1.val)
  · obtain ⟨hentry, hslot⟩ := addEndpoint_kept hR.toPlaced hok hdistinct haddr
    have hmem := hentry.mp he
    rw [hslot hmem]
    exact hR.registered e hmem
  · push Not at haddr
    obtain ⟨hmapped, haddr⟩ := haddr
    obtain ⟨matterType, hm⟩ := Option.ne_none_iff_exists'.mp hmapped
    obtain ⟨hnew, hslot⟩ := addEndpoint_bridged hR.toPlaced hok (hdistinct hmapped) hm
    -- the entry of the address is the one that is bridged
    have hn : ((NodeStateMonitor.addEndpoint env node s ep).bridgedEndpoints.map
        BridgedEndpoint.address).Nodup :=
      List.pairwise_map.mpr (hR.toPlaced.addEndpoint node ep).addresses
    rw [List.inj_on_of_nodup_map hn he hnew haddr]
    exact hslot

theorem Registered.onUnifyNodeRemoved (hR : Registered slots s) (unid : String) :
    Registered slots (onUnifyNodeRemoved env s unid) := by
  refine ⟨hR.toPlaced.onUnifyNodeRemoved unid, fun e he => ?_⟩
  obtain ⟨hmem, hunid⟩ := mem_onUnifyNodeRemoved.mp he
  rw [slot_onUnifyNodeRemoved hR.valid, if_neg]
  · exact hR.registered e hmem
  · intro hcleared
    obtain ⟨f, hf, hfunid, hindex⟩ := hcleared
    have hid : f.matterEndpoint = e.matterEndpoint := by
      rw [hR.index f hf, hR.index e hmem] at hindex
      exact (dynamicIndex_inj (hR.lt hf) (hR.lt hmem)).mp hindex
    exact hunid (hR.eq_of_id hf hmem hid ▸ hfunid)

theorem Registered.onUnifyNodeStateChanged (hR : Registered slots s) (node : Node) :
    Registered slots (onUnifyNodeStateChanged s node) := by
  have hember : (NodeStateMonitor.onUnifyNodeStateChanged s node).ember = s.ember := by
    unfold NodeStateMonitor.onUnifyNodeStateChanged
    apply EventSystem.invariant_run' (I := fun t : MonitorState Table Content => t.ember = s.ember)
    · exact fun _ _ h => h
    · rfl
  refine ⟨hR.toPlaced.step (.nodeStateChanged node), fun e he => ?_⟩
  rw [hR.bridgedEndpoints_onUnifyNodeStateChanged] at he
  obtain ⟨x, hx, heq⟩ := List.mem_map.mp he
  have hslot := hR.registered x hx
  rw [hember, ← heq]
  split_ifs
  · exact hslot
  · exact hslot

theorem Registered.step (hR : Registered slots s) {ev : Event} (hc : MirrorCondition env s ev) :
    Registered slots (step env s ev) := by
  cases ev with
  | nodeAdded node =>
    exact EventSystem.invariant_run (fun _ _ h hc => h.addEndpoint hc.1 hc.2) hR hc
  | nodeRemoved unid => exact hR.onUnifyNodeRemoved unid
  | nodeStateChanged node => exact hR.onUnifyNodeStateChanged node
  | restart =>
    refine ⟨hR.toPlaced.step .restart, fun e he => ?_⟩
    cases he

/-- Where registrations succeed and ids on record are not in use, ids are unshared. -/
theorem Registered.directoryCondition (hR : Registered slots s) {ev : Event}
    (hc : MirrorCondition env s ev) : DirectoryCondition env s ev := by
  cases ev with
  | nodeAdded node =>
    apply EventSystem.Guarded.imp_of_invariant (fun _ _ h hc => h.addEndpoint hc.1 hc.2) _ hR hc
    intro s ep hR hc hmapped e he _ hid
    exact Fin.ext (congrArg Prod.snd (hR.assigned_unused hc.1 hc.2 hmapped e he hid))
  | nodeRemoved | nodeStateChanged | restart => trivial

section Example

theorem light_registered {s : MonitorState (SlotTable (EndpointContext (List (String × Cluster))))
    (List (String × Cluster))} {unid : String} {ep : Fin 256 × Endpoint}
    (hmapped : mappedDeviceType lightEnv ep.2.clusters = some 256)
    (hfound : (lightEnv.ember.getNextDynamicAvailableEndpointIndex lightEnv.counts s.ember
      s.lastReturnedAvailableEndpointId).1 ≠ kInvalidEndpointId)
    (hok : registrationError lightEnv s.ember (makeBridge lightEnv (lightNode unid) ep.1 ep.2 256
      (assignMatterEndpoint lightEnv s unid ep.1).1 s.nextAllocation) = .noError) :
    ¬ RegistrationFails lightEnv (lightNode unid) s ep := by
  intro hfails
  obtain ⟨matterType, hm, hexhausted | hrejected⟩ := hfails
  · exact hfound hexhausted.2
  · rw [hmapped] at hm
    cases hm
    exact hrejected hok

end Example

end UnifyMatterBridge.NodeStateMonitor
