import UnifyMatterBridge.NodeStateMonitor.Lookup

/-! The entry of a Unify endpoint is unique and keeps its Matter endpoint id, whichever writes to
the key-value store fail, as long as no endpoint is announced again without its id on record. -/
namespace UnifyMatterBridge.NodeStateMonitor

variable {Table Content : Type} {env : MonitorEnv Table Content} {s : MonitorState Table Content}

/-- At most one entry for each Unify endpoint. -/
def OneEntry (s : MonitorState Table Content) : Prop :=
  s.bridgedEndpoints.Pairwise fun e f => e.address ≠ f.address

/-- The entries of a Unify endpoint in two states have the same Matter endpoint id. -/
def SameId (a : String × ℕ) (s s' : MonitorState Table Content) : Prop :=
  ∀ e ∈ s.bridgedEndpoints, ∀ f ∈ s'.bridgedEndpoints, e.address = a → f.address = a →
    e.matterEndpoint = f.matterEndpoint

def Event.Removes (unid : String) : Event → Prop
  | .nodeRemoved u => u = unid
  | .restart => True
  | .nodeAdded _ | .nodeStateChanged _ => False

/-- Condition under which bridging an endpoint keeps its id and those of its siblings. -/
structure EndpointStable (env : MonitorEnv Table Content) (s : MonitorState Table Content)
    (a : String × ℕ) : Prop where
  /-- An endpoint that is bridged without its id on record finds this id next in turn. -/
  again : recordedId s.kvs a = none → ∀ e ∈ s.bridgedEndpoints, e.address = a →
    (env.ember.getNextDynamicAvailableEndpointIndex env.counts s.ember
      s.lastReturnedAvailableEndpointId).1 = e.matterEndpoint
  /-- An endpoint of the same node with the same id, whose entry is displaced, has it on record. -/
  displaced : ∀ e ∈ s.bridgedEndpoints, e.unifyUnid = a.1 →
    e.matterEndpoint = (assignMatterEndpoint env s a.1 a.2).1 → e.address ≠ a →
      recordedId s.kvs e.address ≠ none

def StableCondition (env : MonitorEnv Table Content) (s : MonitorState Table Content) :
    Event → Prop
  | .nodeAdded node =>
    EventSystem.Guarded (addEndpoint env node) (fun s ep =>
      mappedDeviceType env ep.2.clusters ≠ none → EndpointStable env s (node.unid, ep.1.val)) s
      (visited env node)
  | .nodeRemoved _ | .nodeStateChanged _ | .restart => True

/-- The invariant: distinct addresses, distinct ids within a node, and no other id on record. -/
structure Settled (s : MonitorState Table Content) : Prop where
  addresses : OneEntry s
  ids : s.bridgedEndpoints.Pairwise fun e f =>
    e.unifyUnid = f.unifyUnid → e.matterEndpoint ≠ f.matterEndpoint
  recorded : ∀ e ∈ s.bridgedEndpoints, ∀ id, recordedId s.kvs e.address = some id →
    id = e.matterEndpoint

/-- The id of a Unify endpoint is settled: it has no entry with another id, and is bound to this id
by its record or, if there is none, by its entry. -/
structure Pinned (a : String × ℕ) (id : ℕ) (s : MonitorState Table Content) : Prop where
  entries : ∀ e ∈ s.bridgedEndpoints, e.address = a → e.matterEndpoint = id
  bound : recordedId s.kvs a = some id ∨
    recordedId s.kvs a = none ∧ ∃ e ∈ s.bridgedEndpoints, e.address = a

theorem Settled.of_nil (h : s.bridgedEndpoints = []) : Settled s := by
  constructor
  · rw [OneEntry, h]
    exact List.Pairwise.nil
  · rw [h]
    exact List.Pairwise.nil
  · simp [h]

theorem recordedId_persistData_cases (kvs : KeyValueStore) (a b : String × ℕ) (id : ℕ) :
    recordedId (EndpointMapping.persistData kvs ⟨a.1, a.2, some id⟩).1 b = recordedId kvs b ∨
      b = a ∧ recordedId (EndpointMapping.persistData kvs ⟨a.1, a.2, some id⟩).1 b = some id := by
  rcases KeyValueStore.get_put_cases kvs (EndpointMapping.key ⟨a.1, a.2, some id⟩)
    (EndpointMapping.key ⟨b.1, b.2, none⟩) id with hget | ⟨hkey, hget⟩
  · exact Or.inl hget
  · exact Or.inr ⟨Prod.ext_iff.mpr (EndpointMapping.key_inj.mp hkey), hget⟩

theorem assignMatterEndpoint_of_recorded {env : MonitorEnv Table Content}
    {s : MonitorState Table Content} {a : String × ℕ} {id : ℕ}
    (h : recordedId s.kvs a = some id) : assignMatterEndpoint env s a.1 a.2 = (id, s) := by
  have hget : EndpointMapping.getPersistedData s.kvs ⟨a.1, a.2, none⟩ = some id := h
  simp only [assignMatterEndpoint, hget]

/-- The id assigned is the one on record, or the next one in turn, which then may be recorded. -/
theorem assignMatterEndpoint_cases (env : MonitorEnv Table Content)
    (s : MonitorState Table Content) (a : String × ℕ) :
    (recordedId s.kvs a = some (assignMatterEndpoint env s a.1 a.2).1 ∨
        recordedId s.kvs a = none ∧ (assignMatterEndpoint env s a.1 a.2).1 =
          (env.ember.getNextDynamicAvailableEndpointIndex env.counts s.ember
            s.lastReturnedAvailableEndpointId).1) ∧
      ∀ b, recordedId (assignMatterEndpoint env s a.1 a.2).2.kvs b = recordedId s.kvs b ∨
        b = a ∧ recordedId (assignMatterEndpoint env s a.1 a.2).2.kvs b =
          some (assignMatterEndpoint env s a.1 a.2).1 := by
  cases hrec : recordedId s.kvs a with
  | some id =>
    rw [assignMatterEndpoint_of_recorded hrec]
    exact ⟨Or.inl rfl, fun b => Or.inl rfl⟩
  | none =>
    have hget : EndpointMapping.getPersistedData s.kvs ⟨a.1, a.2, none⟩ = none := hrec
    simp only [assignMatterEndpoint, hget]
    exact ⟨Or.inr ⟨trivial, trivial⟩, fun b => recordedId_persistData_cases s.kvs a b _⟩

section Bridge

variable {node : Node} {epId : Fin 256}

/-- Where the ids within a node are distinct, exactly the entry of the node and the id is dropped. -/
theorem mem_eraseMapperEndpoint {l : List (BridgedEndpoint Content)}
    (hids : l.Pairwise fun e f => e.unifyUnid = f.unifyUnid → e.matterEndpoint ≠ f.matterEndpoint)
    {unid : String} {id : ℕ} {e : BridgedEndpoint Content} :
    e ∈ eraseMapperEndpoint unid id l ↔
      e ∈ l ∧ ¬ (e.unifyUnid = unid ∧ e.matterEndpoint = id) := by
  constructor
  · intro he
    refine ⟨List.mem_of_mem_eraseP he, ?_⟩
    have hkept := Multimap.not_of_mem_eraseP (hids.imp fun {e f} hne => ?_) he
    · exact of_decide_eq_false hkept
    · intro hboth
      obtain ⟨h₁, h₂⟩ := hboth
      obtain ⟨hu₁, hid₁⟩ := of_decide_eq_true h₁
      obtain ⟨hu₂, hid₂⟩ := of_decide_eq_true h₂
      exact hne (hu₁.trans hu₂.symm) (hid₁.trans hid₂.symm)
  · intro h
    exact (List.mem_eraseP_of_neg (by simpa using h.2)).mpr h.1

theorem pairwise_id_replace {l : List (BridgedEndpoint Content)}
    (hids : l.Pairwise fun e f => e.unifyUnid = f.unifyUnid → e.matterEndpoint ≠ f.matterEndpoint)
    {b : BridgedEndpoint Content} {unid : String} (hunid : b.unifyUnid = unid) :
    (Multimap.insert (·.unifyUnid) b (eraseMapperEndpoint unid b.matterEndpoint l)).Pairwise
      fun e f => e.unifyUnid = f.unifyUnid → e.matterEndpoint ≠ f.matterEndpoint := by
  rw [Multimap.pairwise_insert fun _ _ h heq => (h heq.symm).symm]
  refine ⟨fun e he heq hid => ?_, hids.sublist List.eraseP_sublist⟩
  obtain ⟨-, hnot⟩ := (mem_eraseMapperEndpoint hids).mp he
  exact hnot ⟨heq.symm.trans hunid, hid.symm⟩

/-- The entries that are kept have another id than the one bridged, if they are of its node. -/
theorem Settled.mem_erase (hS : Settled s) {unid : String} {id : ℕ} {e : BridgedEndpoint Content}
    (he : e ∈ eraseMapperEndpoint unid id s.bridgedEndpoints) :
    e ∈ s.bridgedEndpoints ∧ (e.unifyUnid = unid → e.matterEndpoint ≠ id) := by
  obtain ⟨hmem, hnot⟩ := (mem_eraseMapperEndpoint hS.ids).mp he
  exact ⟨hmem, fun hunid hid => hnot ⟨hunid, hid⟩⟩

theorem Settled.assigned_eq (hS : Settled s) {a : String × ℕ} (hc : EndpointStable env s a)
    {e : BridgedEndpoint Content} (he : e ∈ s.bridgedEndpoints) (haddr : e.address = a) :
    (assignMatterEndpoint env s a.1 a.2).1 = e.matterEndpoint := by
  rcases (assignMatterEndpoint_cases env s a).1 with hrec | ⟨hnone, halloc⟩
  · exact hS.recorded e he _ (haddr ▸ hrec)
  · rw [halloc]
    exact hc.again hnone e he haddr

theorem Settled.bridgeEndpoint (hS : Settled s) (hc : EndpointStable env s (node.unid, epId.val))
    (ep : Endpoint) (matterType : ℕ) : Settled (bridgeEndpoint env node s epId ep matterType) := by
  obtain ⟨b, haddr, hb, hl, hkvs⟩ := bridgeEndpoint_spec env node s epId ep matterType
  have hunid : b.unifyUnid = node.unid := congrArg Prod.fst haddr
  obtain ⟨hassigned, hrecords⟩ := assignMatterEndpoint_cases env s (node.unid, epId.val)
  have hother : ∀ e ∈ eraseMapperEndpoint node.unid b.matterEndpoint s.bridgedEndpoints,
      e.address ≠ b.address := by
    intro e he heq
    obtain ⟨hmem, hne⟩ := hS.mem_erase he
    have hid := hS.assigned_eq hc hmem (heq.trans haddr)
    exact hne ((congrArg Prod.fst heq).trans hunid) (hid.symm.trans hb.symm)
  constructor
  · rw [OneEntry, hl]
    exact pairwise_address_replace hS.addresses hother
  · rw [hl]
    exact pairwise_id_replace hS.ids hunid
  · intro e he id hrec
    rw [hkvs] at hrec
    rw [hl, Multimap.mem_insert] at he
    rcases he with rfl | he
    · rw [haddr] at hrec
      rcases hrecords (node.unid, epId.val) with hsame | ⟨-, hsome⟩
      · rw [hsame] at hrec
        rcases hassigned with hassigned | ⟨hnone, -⟩
        · rw [hb]
          exact Option.some.inj (hrec.symm.trans hassigned)
        · rw [hnone] at hrec
          cases hrec
      · rw [hb]
        exact Option.some.inj (hrec.symm.trans hsome)
    · rcases hrecords e.address with hsame | ⟨haddr', -⟩
      · exact hS.recorded e (hS.mem_erase he).1 id (hsame ▸ hrec)
      · exact absurd (haddr'.trans haddr.symm) (hother e he)

theorem Pinned.bridgeEndpoint {a : String × ℕ} {id : ℕ} (hP : Pinned a id s) (hS : Settled s)
    (hc : EndpointStable env s (node.unid, epId.val)) (ep : Endpoint) (matterType : ℕ) :
    Pinned a id (bridgeEndpoint env node s epId ep matterType) := by
  obtain ⟨b, haddr, hb, hl, hkvs⟩ := bridgeEndpoint_spec env node s epId ep matterType
  obtain ⟨hassigned, hrecords⟩ := assignMatterEndpoint_cases env s (node.unid, epId.val)
  by_cases ha : a = (node.unid, epId.val)
  · have hid : b.matterEndpoint = id := by
      rw [hb]
      rcases hP.bound with hrec | ⟨-, e, he, heq⟩
      · rcases hassigned with hassigned | ⟨hnone, -⟩
        · rw [ha] at hrec
          exact Option.some.inj (hassigned.symm.trans hrec)
        · rw [ha, hnone] at hrec
          cases hrec
      · exact (hS.assigned_eq hc he (heq.trans ha)).trans (hP.entries e he heq)
    constructor
    · intro e he heq
      rw [hl, Multimap.mem_insert] at he
      rcases he with rfl | he
      · exact hid
      · exact hP.entries e (hS.mem_erase he).1 heq
    · rw [hkvs]
      rcases hrecords a with hsame | ⟨-, hsome⟩
      · rw [hsame]
        refine hP.bound.imp_right fun hbound => ⟨hbound.1, b, ?_, haddr.trans ha.symm⟩
        rw [hl, Multimap.mem_insert]
        exact Or.inl rfl
      · left
        rw [hsome, ← hb, hid]
  · constructor
    · intro e he heq
      rw [hl, Multimap.mem_insert] at he
      rcases he with rfl | he
      · exact absurd (heq.symm.trans haddr) ha
      · exact hP.entries e (hS.mem_erase he).1 heq
    · rw [hkvs]
      rcases hrecords a with hsame | ⟨haddr', -⟩
      · rw [hsame]
        refine hP.bound.imp_right fun hbound => ?_
        obtain ⟨hnone, e, he, heq⟩ := hbound
        refine ⟨hnone, e, ?_, heq⟩
        rw [hl, Multimap.mem_insert]
        right
        -- an entry without a record is not displaced
        apply (List.mem_eraseP_of_neg ?_).mpr he
        intro herased
        obtain ⟨hunid, hid⟩ := of_decide_eq_true herased
        refine hc.displaced e he hunid (hid.trans hb) ?_ (heq ▸ hnone)
        exact fun haddr' => ha (heq.symm.trans haddr')
      · exact absurd haddr' ha

end Bridge

section Steps

theorem Settled.congr (hS : Settled s) {s' : MonitorState Table Content} (hkvs : s'.kvs = s.kvs)
    (hl : s'.bridgedEndpoints.map (fun e => (e.address, e.matterEndpoint)) =
      s.bridgedEndpoints.map fun e => (e.address, e.matterEndpoint)) : Settled s' := by
  constructor
  · exact Multimap.pairwise_of_map_eq hl (fun p q => p.1 ≠ q.1) hS.addresses
  · exact Multimap.pairwise_of_map_eq hl (fun p q => p.1.1 = q.1.1 → p.2 ≠ q.2) hS.ids
  · intro e he id hrec
    obtain ⟨x, hx, hpair⟩ := Multimap.exists_of_map_eq hl he
    obtain ⟨haddr, hid⟩ := Prod.mk.inj hpair
    rw [← hid]
    rw [hkvs, ← haddr] at hrec
    exact hS.recorded x hx id hrec

theorem Pinned.congr {a : String × ℕ} {id : ℕ} (hP : Pinned a id s)
    {s' : MonitorState Table Content} (hkvs : s'.kvs = s.kvs)
    (hl : s'.bridgedEndpoints.map (fun e => (e.address, e.matterEndpoint)) =
      s.bridgedEndpoints.map fun e => (e.address, e.matterEndpoint)) : Pinned a id s' := by
  constructor
  · intro e he heq
    obtain ⟨x, hx, hpair⟩ := Multimap.exists_of_map_eq hl he
    obtain ⟨haddr, hid⟩ := Prod.mk.inj hpair
    rw [← hid]
    exact hP.entries x hx (haddr.trans heq)
  · rw [hkvs]
    refine hP.bound.imp_right fun hbound => ?_
    obtain ⟨hnone, e, he, heq⟩ := hbound
    obtain ⟨x, hx, hpair⟩ := Multimap.exists_of_map_eq hl.symm he
    exact ⟨hnone, x, hx, (Prod.mk.inj hpair).1.trans heq⟩

theorem bridgedEndpoints_onUnifyNodeRemoved (unid : String) :
    (onUnifyNodeRemoved env s unid).bridgedEndpoints =
      s.bridgedEndpoints.filter (·.unifyUnid ≠ unid) :=
  congrArg (List.filter _) (removeEndpoint_foldl env s
    (Multimap.equalRange (·.unifyUnid) unid s.bridgedEndpoints)).1

theorem sublist_onUnifyNodeRemoved (unid : String) :
    (onUnifyNodeRemoved env s unid).bridgedEndpoints.Sublist s.bridgedEndpoints := by
  rw [bridgedEndpoints_onUnifyNodeRemoved]
  exact List.filter_sublist

theorem mem_onUnifyNodeRemoved {unid : String} {e : BridgedEndpoint Content} :
    e ∈ (onUnifyNodeRemoved env s unid).bridgedEndpoints ↔
      e ∈ s.bridgedEndpoints ∧ e.unifyUnid ≠ unid := by
  simp [bridgedEndpoints_onUnifyNodeRemoved]

theorem recordedId_onUnifyNodeRemoved (unid : String) (a : String × ℕ) :
    recordedId (onUnifyNodeRemoved env s unid).kvs a =
      if ∃ e ∈ s.bridgedEndpoints, e.unifyUnid = unid ∧ e.address = a then none
      else recordedId s.kvs a := by
  obtain ⟨-, -, hrecords⟩ := removeEndpoint_foldl env s
    (Multimap.equalRange (·.unifyUnid) unid s.bridgedEndpoints)
  have hmem : a ∈ (Multimap.equalRange (·.unifyUnid) unid s.bridgedEndpoints).map
      BridgedEndpoint.address ↔
        ∃ e ∈ s.bridgedEndpoints, e.unifyUnid = unid ∧ e.address = a := by
    simp [Multimap.mem_equalRange, and_assoc]
  have ha := hrecords a
  simp only [hmem] at ha
  exact ha

theorem Settled.onUnifyNodeRemoved (hS : Settled s) (unid : String) :
    Settled (onUnifyNodeRemoved env s unid) := by
  have hsub := @sublist_onUnifyNodeRemoved _ _ env s unid
  constructor
  · exact hS.addresses.sublist hsub
  · exact hS.ids.sublist hsub
  · intro e he id hrec
    rw [recordedId_onUnifyNodeRemoved] at hrec
    split_ifs at hrec
    exact hS.recorded e (hsub.subset he) id hrec

theorem Pinned.onUnifyNodeRemoved {a : String × ℕ} {id : ℕ} (hP : Pinned a id s) {unid : String}
    (hne : unid ≠ a.1) : Pinned a id (onUnifyNodeRemoved env s unid) := by
  constructor
  · exact fun e he => hP.entries e (mem_onUnifyNodeRemoved.mp he).1
  · rw [recordedId_onUnifyNodeRemoved, if_neg]
    · refine hP.bound.imp_right fun hbound => ?_
      obtain ⟨hnone, e, he, heq⟩ := hbound
      refine ⟨hnone, e, mem_onUnifyNodeRemoved.mpr ⟨he, ?_⟩, heq⟩
      exact fun hunid => hne (hunid.symm.trans (congrArg Prod.fst heq))
    · intro hremoved
      obtain ⟨e, -, hunid, heq⟩ := hremoved
      exact hne (hunid.symm.trans (congrArg Prod.fst heq))

/-- One endpoint of a node keeps both invariants. -/
theorem settled_pinned_addEndpoint {a : String × ℕ} {id : ℕ} {node : Node} {ep : Fin 256 × Endpoint}
    (hS : Settled s) (hc : mappedDeviceType env ep.2.clusters ≠ none →
      EndpointStable env s (node.unid, ep.1.val)) :
    Settled (addEndpoint env node s ep) ∧
      (Pinned a id s → Pinned a id (addEndpoint env node s ep)) := by
  unfold addEndpoint
  cases hm : mappedDeviceType env ep.2.clusters with
  | none => exact ⟨hS, fun hP => hP⟩
  | some matterType =>
    have hstable := hc (by simp [hm])
    exact ⟨hS.bridgeEndpoint hstable ep.2 matterType,
      fun hP => hP.bridgeEndpoint hS hstable ep.2 matterType⟩

theorem Settled.step (hS : Settled s) {ev : Event} (hc : StableCondition env s ev) :
    Settled (step env s ev) := by
  cases ev with
  | nodeAdded node =>
    have hstep : ∀ (s : MonitorState Table Content) ep, Settled s →
        (mappedDeviceType env ep.2.clusters ≠ none → EndpointStable env s (node.unid, ep.1.val)) →
        Settled (addEndpoint env node s ep) :=
      fun s ep hS hc => (@settled_pinned_addEndpoint _ _ env s ("", 0) 0 node ep hS hc).1
    exact EventSystem.invariant_run hstep hS hc
  | nodeRemoved unid => exact hS.onUnifyNodeRemoved unid
  | nodeStateChanged node =>
    apply EventSystem.invariant_run' (fun s e h => ?_) hS _
    exact h.congr rfl (map_assignReachable (fun _ _ => rfl) _ _ _)
  | restart => exact Settled.of_nil rfl

theorem Pinned.step {a : String × ℕ} {id : ℕ} (hP : Pinned a id s) (hS : Settled s) {ev : Event}
    (hc : StableCondition env s ev) (hremoves : ¬ ev.Removes a.1) :
    Pinned a id (step env s ev) := by
  cases ev with
  | nodeAdded node =>
    have hboth : Settled (NodeStateMonitor.step env s (.nodeAdded node)) ∧
        Pinned a id (NodeStateMonitor.step env s (.nodeAdded node)) := by
      apply EventSystem.invariant_run (I := fun s => Settled s ∧ Pinned a id s)
        (fun s ep h hc => ?_) ⟨hS, hP⟩ hc
      obtain ⟨hS', hP'⟩ := settled_pinned_addEndpoint h.1 hc
      exact ⟨hS', hP' h.2⟩
    exact hboth.2
  | nodeRemoved unid => exact hP.onUnifyNodeRemoved hremoves
  | nodeStateChanged node =>
    apply EventSystem.invariant_run' (fun s e h => ?_) hP _
    exact h.congr rfl (map_assignReachable (fun _ _ => rfl) _ _ _)
  | restart => exact absurd trivial hremoves

theorem Settled.pinned (hS : Settled s) {e : BridgedEndpoint Content}
    (he : e ∈ s.bridgedEndpoints) : Pinned e.address e.matterEndpoint s := by
  constructor
  · intro f hf heq
    have hn : (s.bridgedEndpoints.map BridgedEndpoint.address).Nodup :=
      List.pairwise_map.mpr hS.addresses
    rw [List.inj_on_of_nodup_map hn hf he heq]
  · cases hrec : recordedId s.kvs e.address with
    | none => exact Or.inr ⟨rfl, e, he, rfl⟩
    | some id =>
      left
      rw [hS.recorded e he id hrec]

theorem Settled.run (hS : Settled s) {evs : List Event}
    (hc : EventSystem.Guarded (NodeStateMonitor.step env) (StableCondition env) s evs) :
    Settled (EventSystem.run (NodeStateMonitor.step env) s evs) :=
  EventSystem.invariant_run (fun _ _ h hc => h.step hc) hS hc

theorem Pinned.run {a : String × ℕ} {id : ℕ} (hP : Pinned a id s) (hS : Settled s)
    {evs : List Event}
    (hc : EventSystem.Guarded (NodeStateMonitor.step env) (StableCondition env) s evs)
    (hremoves : ∀ ev ∈ evs, ¬ ev.Removes a.1) :
    Pinned a id (EventSystem.run (NodeStateMonitor.step env) s evs) := by
  induction evs generalizing s with
  | nil => exact hP
  | cons ev evs ih =>
    apply ih _ (hS.step hc.1) hc.2
    · exact fun ev' hev' => hremoves ev' (List.mem_cons_of_mem _ hev')
    · exact hP.step hS hc.1 (hremoves ev List.mem_cons_self)

end Steps

/-- Over every run whose steps meet the condition, whichever writes fail, each Unify endpoint has at
most one entry, with the id it had at any time since its node was last removed. -/
theorem oneStableEntry_run (env : MonitorEnv Table Content) (kvs : KeyValueStore)
    (before after : List Event)
    (hc : EventSystem.Guarded (step env) (StableCondition env) (start env kvs) (before ++ after)) :
    OneEntry (EventSystem.run (step env) (start env kvs) (before ++ after)) ∧
      ∀ a : String × ℕ, (∀ ev ∈ after, ¬ ev.Removes a.1) →
        SameId a (EventSystem.run (step env) (start env kvs) before)
          (EventSystem.run (step env) (start env kvs) (before ++ after)) := by
  have hstart : Settled (start env kvs) := Settled.of_nil rfl
  refine ⟨(hstart.run hc).addresses, ?_⟩
  intro a hremoves e he f hf heq hfeq
  obtain ⟨hbefore, hafter⟩ := EventSystem.guarded_append.mp hc
  have hS := hstart.run hbefore
  have hP := (hS.pinned he).run hS hafter (heq ▸ hremoves)
  rw [← EventSystem.run_append] at hP
  exact (hP.entries f hf (hfeq.trans heq.symm)).symm

section Example

/-- A node whose id is on record is announced again, after the write for another node has failed. -/
theorem oneStableEntry_run_after_failed_write :
    OneEntry (EventSystem.run (step lightEnv)
        (start lightEnv (KeyValueStore.empty fun n => n = 1))
        ([.nodeAdded (lightNode "A")] ++ [.nodeAdded (lightNode "B"), .nodeAdded (lightNode "A")])) ∧
      ∀ a : String × ℕ, (∀ ev ∈ [Event.nodeAdded (lightNode "B"), .nodeAdded (lightNode "A")],
          ¬ ev.Removes a.1) →
        SameId a
          (EventSystem.run (step lightEnv) (start lightEnv (KeyValueStore.empty fun n => n = 1))
            [.nodeAdded (lightNode "A")])
          (EventSystem.run (step lightEnv) (start lightEnv (KeyValueStore.empty fun n => n = 1))
            ([.nodeAdded (lightNode "A")] ++
              [.nodeAdded (lightNode "B"), .nodeAdded (lightNode "A")])) := by
  apply oneStableEntry_run
  refine ⟨⟨fun _ => ?_, trivial⟩, ⟨fun _ => ?_, trivial⟩, ⟨fun _ => ?_, trivial⟩, trivial⟩
  all_goals constructor
  all_goals decide

/-- When the write of its id fails, a node that is announced again gets a second entry. -/
theorem not_oneEntry_of_failed_write :
    ¬ ∀ evs : List Event, OneEntry (EventSystem.run (step lightEnv)
      (start lightEnv (KeyValueStore.empty fun _ => true)) evs) := by
  intro h
  have hone := h [.nodeAdded (lightNode "A"), .nodeAdded (lightNode "A")]
  have haddresses : (EventSystem.run (step lightEnv)
      (start lightEnv (KeyValueStore.empty fun _ => true))
      [.nodeAdded (lightNode "A"), .nodeAdded (lightNode "A")]).bridgedEndpoints.map (·.address) =
        [("A", 1), ("A", 1)] := by decide
  have hnodup : [("A", 1), ("A", 1)].Pairwise (· ≠ ·) :=
    haddresses ▸ List.pairwise_map.mpr hone
  exact absurd hnodup (by decide)

end Example

end UnifyMatterBridge.NodeStateMonitor
