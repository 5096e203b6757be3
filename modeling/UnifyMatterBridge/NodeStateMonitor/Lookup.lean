import UnifyMatterBridge.NodeStateMonitor.Invariant

/-! The two lookups of bridged endpoints are inverse to each other as long as a fresh Matter
endpoint id is on record for no Unify endpoint. After a restart it need not be: the records of
nodes that have not come back yet are not looked at when an id is allocated. -/
namespace UnifyMatterBridge.NodeStateMonitor

variable {Table Content : Type} {env : MonitorEnv Table Content} {s : MonitorState Table Content}

/-- Both lookups find every entry, and no two addresses share a Matter endpoint id. -/
structure LookupsInverse (s : MonitorState Table Content) : Prop where
  ofMatter : ∀ e ∈ s.bridgedEndpoints, bridgedEndpointOfMatter s e.matterEndpoint = some e
  ofUnify : ∀ e ∈ s.bridgedEndpoints, bridgedEndpoint s e.unifyUnid e.unifyEndpoint = some e
  distinct : ∀ e ∈ s.bridgedEndpoints, ∀ f ∈ s.bridgedEndpoints,
    e.matterEndpoint = f.matterEndpoint → e.address = f.address

theorem Inv.eq_of_address_eq (hI : Inv s) {e f : BridgedEndpoint Content}
    (he : e ∈ s.bridgedEndpoints) (hf : f ∈ s.bridgedEndpoints) (h : e.address = f.address) :
    e = f := by
  have hn : (s.bridgedEndpoints.map BridgedEndpoint.address).Nodup :=
    List.pairwise_map.mpr hI.addresses
  exact List.inj_on_of_nodup_map hn he hf h

theorem Inv.address_eq_of_matterEndpoint_eq (hI : Inv s) {e f : BridgedEndpoint Content}
    (he : e ∈ s.bridgedEndpoints) (hf : f ∈ s.bridgedEndpoints)
    (h : e.matterEndpoint = f.matterEndpoint) : e.address = f.address :=
  hI.injective _ _ _ (hI.recorded e he) (h ▸ hI.recorded f hf)

theorem Inv.lookupsInverse (hI : Inv s) : LookupsInverse s where
  ofMatter e he := by
    apply Multimap.find?_eq_of_unique he (by simp)
    intro f hf hfe
    have hid : f.matterEndpoint = e.matterEndpoint := of_decide_eq_true hfe
    exact hI.eq_of_address_eq hf he (hI.address_eq_of_matterEndpoint_eq hf he hid)
  ofUnify e he := by
    apply Multimap.find?_eq_of_unique (Multimap.mem_equalRange.mpr ⟨he, rfl⟩) (by simp)
    intro f hf hfe
    obtain ⟨hf, hunid⟩ := Multimap.mem_equalRange.mp hf
    have hep : f.unifyEndpoint.val = e.unifyEndpoint.val := of_decide_eq_true hfe
    exact hI.eq_of_address_eq hf he (Prod.ext hunid hep)
  distinct e he f hf h := hI.address_eq_of_matterEndpoint_eq he hf h

/-- Over every run in which each fresh id is on record for no Unify endpoint, the lookups are
inverse in the state reached. -/
theorem lookupsInverse_run (env : MonitorEnv Table Content) (evs : List Event)
    (hc : EventSystem.Guarded (step env) (EventCondition env)
      (start env (KeyValueStore.empty fun _ => false)) evs) :
    LookupsInverse
      (EventSystem.run (step env) (start env (KeyValueStore.empty fun _ => false)) evs) := by
  have hstart : Inv (start env (KeyValueStore.empty fun _ => false)) := by
    apply inv_start
    · exact fun _ => rfl
    · intro a b id h
      cases h
  exact (hstart.run hc).lookupsInverse

section Example

/-- A bridge with two fixed and 255 dynamic endpoints that maps the `OnOff` cluster to a light. -/
def lightEnv :
    MonitorEnv (SlotTable (EndpointContext (List (String × Cluster)))) (List (String × Cluster)) where
  counts := ⟨2, 257, by decide, by decide, by decide⟩
  ember := slotTableApi _ 255
  getClusterId name := if name = "OnOff" then some 6 else none
  buildMatterCluster := id
  getMatterType _ := .ok (some 256)

def lightNode (unid : String) : Node where
  unid := unid
  state := .onlineFunctional
  endpoints := [(1, ⟨[("OnOff", ⟨["OnOff"], ["On", "Off", "Toggle"], []⟩)], by decide⟩)]
  ids_nodup := List.nodup_singleton 1

def oneNode : MonitorState (SlotTable (EndpointContext (List (String × Cluster))))
    (List (String × Cluster)) :=
  EventSystem.run (step lightEnv) (start lightEnv (KeyValueStore.empty fun _ => false))
    [.nodeAdded (lightNode "A")]

private theorem freshIdUnrecorded_of_search {a : String × ℕ} (id : ℕ)
    (content : String → Option ℕ)
    (hs : (env.ember.getNextDynamicAvailableEndpointIndex env.counts s.ember
      s.lastReturnedAvailableEndpointId).1 = id)
    (hn : env.ember.NextFree env.counts s.ember s.lastReturnedAvailableEndpointId id)
    (hk : s.kvs.content = content) (hc : ∀ key, content key ≠ some id) :
    FreshIdUnrecorded env s a := by
  refine fun _ => ⟨⟨id, hn⟩, fun j hj b hb => ?_⟩
  have hji : j = id :=
    (EmberApi.getNextDynamicAvailableEndpointIndex_of_nextFree hj).symm.trans hs
  exact hc _ ((congrFun hk _).symm.trans (hji ▸ hb))

/-- A node that returns after a restart and a new one after it have ids of their own. -/
theorem lookupsInverse_run_returning_first :
    LookupsInverse (EventSystem.run (step lightEnv)
      (start lightEnv (KeyValueStore.empty fun _ => false))
      [.nodeAdded (lightNode "A"), .restart, .nodeAdded (lightNode "A"),
        .nodeAdded (lightNode "B")]) := by
  apply lookupsInverse_run
  refine ⟨⟨fun _ => ?_, trivial⟩, trivial, ⟨fun _ h => ?_, trivial⟩, ⟨fun _ => ?_, trivial⟩, trivial⟩
  · exact freshIdUnrecorded_of_search 2 (fun _ => none) (by decide)
      (FirstFit.search_orElse_eq_some.mp (by decide)) rfl (by simp)
  · exact absurd h (by decide)
  · apply freshIdUnrecorded_of_search 3 (Function.update (fun _ => none) "A-1" (some 2)) (by decide)
      (FirstFit.search_orElse_eq_some.mp (by decide)) rfl
    intro key
    rw [Function.update_apply]
    split <;> simp

/-- When the new node comes first it is given the id on record for the other one, which then
returns to the same id. -/
theorem not_lookupsInverse_of_new_node_first :
    ¬∀ evs : List Event, LookupsInverse (EventSystem.run (step lightEnv)
      (start lightEnv (KeyValueStore.empty fun _ => false)) evs) := by
  intro h
  have hrun := h [.nodeAdded (lightNode "A"), .restart, .nodeAdded (lightNode "B"),
    .nodeAdded (lightNode "A")]
  have hids : (EventSystem.run (step lightEnv) (start lightEnv (KeyValueStore.empty fun _ => false))
      [.nodeAdded (lightNode "A"), .restart, .nodeAdded (lightNode "B"),
        .nodeAdded (lightNode "A")]).bridgedEndpoints.map (fun e => (e.address, e.matterEndpoint)) =
      [(("A", 1), 2), (("B", 1), 2)] := by decide
  obtain ⟨e, he, haddr⟩ := List.mem_map.mp (hids ▸ List.mem_cons_self)
  obtain ⟨f, hf, hfaddr⟩ := List.mem_map.mp (hids ▸ List.mem_cons_of_mem _ List.mem_cons_self)
  simp only [Prod.mk.injEq] at haddr hfaddr
  have hef := hrun.distinct e he f hf (haddr.2.trans hfaddr.2.symm)
  rw [haddr.1, hfaddr.1] at hef
  simp at hef

end Example

end UnifyMatterBridge.NodeStateMonitor
