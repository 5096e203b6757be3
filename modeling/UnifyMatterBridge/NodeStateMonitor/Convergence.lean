import UnifyMatterBridge.NodeStateMonitor.Placement

/-! What a node that is announced leaves: the endpoints it describes are bridged and registered as
described, and those that it described earlier and describes no longer stay as they were. The call
does not return if an endpoint has no clusters or no device type can be selected for it. -/
namespace UnifyMatterBridge.NodeStateMonitor

variable {Table Content : Type}

section Definitions

variable (env : MonitorEnv Table Content)

/-- Some cluster has attributes and a Matter counterpart. -/
def Mappable (clusters : List (String × Cluster)) : Prop :=
  ∃ c ∈ clusters, c.2.attributes ≠ [] ∧ env.getClusterId c.1 ≠ none

/-- There is a first cluster for the guard to look at, and a device type that is looked for is found or
found to be missing. -/
structure Answers (clusters : List (String × Cluster)) : Prop where
  nonempty : clusters ≠ []
  selected : skipsEndpoint clusters = .ok false → clustersMatchedToMatter env clusters ≠ 0 →
    ∃ r, env.getMatterType clusters = .ok r

/-- The node has the endpoint, which passes the guard, is mappable and gets the device type. -/
structure Describes (node : Node) (epId : Fin 256) (ep : Endpoint) (matterType : ℕ) : Prop where
  mem : (epId, ep) ∈ node.endpoints
  guard : skipsEndpoint ep.clusters = .ok false
  mappable : Mappable env ep.clusters
  typed : env.getMatterType ep.clusters = .ok (some matterType)

/-- The fresh ids and those on record are not used by entries of other Unify endpoints. -/
def IdsDistinct (s : MonitorState Table Content) (node : Node) : Prop :=
  EventSystem.Guarded (addEndpoint env node) (fun s ep =>
    mappedDeviceType env ep.2.clusters ≠ none → ∀ e ∈ s.bridgedEndpoints,
      e.matterEndpoint = (assignMatterEndpoint env s node.unid ep.1).1 →
        e.address = (node.unid, ep.1.val)) s (visited env node)

/-- After the run the node is announced, in state `s`; the call returns and leaves `s'`: its entries
are the endpoints it describes, each registered with the content just built, nothing is left of its earlier
endpoints, and nothing has changed for the other nodes. -/
structure ConvergedTo (slots : EmberSlots env.ember) (evs : List Event) (node : Node)
    (s s' : MonitorState Table Content) : Prop where
  returns : Returns env node
  bridged : ∀ epId ep matterType, Describes env node epId ep matterType →
    ∃ e ∈ s'.bridgedEndpoints, e.address = (node.unid, epId.val) ∧ e.matterType = matterType ∧
      e.reachable = some (node.state == .onlineFunctional) ∧
      e.emberEndpoint.content = env.buildMatterCluster ep.clusters ∧
      s.nextAllocation ≤ e.emberEndpoint.allocation ∧
      slots.slot s'.ember e.index = some (e.matterEndpoint, e.emberEndpoint)
  described : ∀ e ∈ s'.bridgedEndpoints, e.unifyUnid = node.unid →
    ∃ ep matterType, Describes env node e.unifyEndpoint ep matterType
  unique : OneEntry s'
  gone : ∀ before after, evs = before ++ after →
    ∀ e ∈ (EventSystem.run (step env) (start env (KeyValueStore.empty fun _ => false))
      before).bridgedEndpoints, e.unifyUnid = node.unid →
      (¬ ∃ ep matterType, Describes env node e.unifyEndpoint ep matterType) →
        (∀ f ∈ s'.bridgedEndpoints, f.address ≠ e.address) ∧
          ∀ i id c, slots.slot s'.ember i = some (id, c) →
            c.allocation ≠ e.emberEndpoint.allocation
  others : ∀ e, e.unifyUnid ≠ node.unid → (e ∈ s'.bridgedEndpoints ↔ e ∈ s.bridgedEndpoints)
  registrations : ∀ e ∈ s.bridgedEndpoints, e.unifyUnid ≠ node.unid →
    slots.slot s'.ember e.index = slots.slot s.ember e.index

/-- After every event of a run, announcing the node converges to its description. -/
def Converged (slots : EmberSlots env.ember) (evs : List Event) (node : Node) : Prop :=
  let s := EventSystem.run (step env) (start env (KeyValueStore.empty fun _ => false)) evs
  ConvergedTo env slots evs node s (onUnifyNodeAdded env s node)

/-- Condition: for no endpoint of the node the call ends without a result, every bridged endpoint of
the node is still described, and no endpoint described has so many mappable clusters that their 8-bit
count is zero. -/
structure ConvergeCondition (s : MonitorState Table Content) (node : Node) : Prop where
  answers : ∀ ep ∈ node.endpoints, Answers env ep.2.clusters
  kept : ∀ e ∈ s.bridgedEndpoints, e.unifyUnid = node.unid →
    ∃ ep matterType, Describes env node e.unifyEndpoint ep matterType
  counted : ∀ epId ep matterType, Describes env node epId ep matterType →
    clustersMatchedToMatter env ep.clusters ≠ 0

end Definitions

variable {env : MonitorEnv Table Content} {slots : EmberSlots env.ember}
  {s : MonitorState Table Content} {node : Node}

theorem mappable_of_matched {clusters : List (String × Cluster)}
    (h : clustersMatchedToMatter env clusters ≠ 0) : Mappable env clusters := by
  unfold clustersMatchedToMatter at h
  have hpos : 0 < clusters.countP
      fun c => !c.2.attributes.isEmpty && (env.getClusterId c.1).isSome := by omega
  obtain ⟨c, hc, hmatched⟩ := List.countP_pos_iff.mp hpos
  rw [Bool.and_eq_true] at hmatched
  refine ⟨c, hc, ?_, ?_⟩
  · simpa using hmatched.1
  · exact Option.isSome_iff_ne_none.mp hmatched.2

theorem mappedDeviceType_eq_some_iff {clusters : List (String × Cluster)} {matterType : ℕ} :
    mappedDeviceType env clusters = some matterType ↔
      selectDeviceType env clusters = .ok (some matterType) := by
  unfold mappedDeviceType
  cases selectDeviceType env clusters with
  | error e => simp [Except.toOption]
  | ok r => simp [Except.toOption]

theorem exists_skipsEndpoint {clusters : List (String × Cluster)} :
    (∃ skipped, skipsEndpoint clusters = .ok skipped) ↔ clusters ≠ [] := by
  cases clusters with
  | nil => simp [skipsEndpoint]
  | cons entry clusters =>
    unfold skipsEndpoint
    split_ifs <;> simp

theorem exists_selectDeviceType {clusters : List (String × Cluster)} :
    (∃ r, selectDeviceType env clusters = .ok r) ↔ Answers env clusters := by
  unfold selectDeviceType
  cases hskips : skipsEndpoint clusters with
  | error e =>
    refine iff_of_false (fun h => ?_) (fun h => ?_)
    · obtain ⟨r, hr⟩ := h
      cases hr
    · obtain ⟨skipped, hskipped⟩ := exists_skipsEndpoint.mpr h.nonempty
      cases hskips.symm.trans hskipped
  | ok skipped =>
    have hnonempty : clusters ≠ [] := exists_skipsEndpoint.mp ⟨skipped, hskips⟩
    simp only [bind, Except.bind]
    split_ifs with hskipped hmatched
    · refine iff_of_true ⟨none, rfl⟩ ⟨hnonempty, fun h => ?_⟩
      rw [hskips, hskipped] at h
      cases h
    · exact iff_of_true ⟨none, rfl⟩ ⟨hnonempty, fun _ h => absurd hmatched h⟩
    · rw [Bool.not_eq_true] at hskipped
      constructor
      · exact fun h => ⟨hnonempty, fun _ _ => h⟩
      · exact fun h => h.selected (hskipped ▸ hskips) hmatched

theorem returns_iff : Returns env node ↔ ∀ ep ∈ node.endpoints, Answers env ep.2.clusters := by
  unfold Returns
  simp only [exists_selectDeviceType]

theorem Returns.visited_eq (h : Returns env node) : visited env node = node.endpoints := by
  unfold visited
  rw [List.takeWhile_eq_self_iff]
  intro ep hep
  obtain ⟨r, hr⟩ := h ep hep
  rw [hr]
  rfl

theorem mem_of_mem_visited {ep : Fin 256 × Endpoint} (h : ep ∈ visited env node) :
    ep ∈ node.endpoints :=
  (List.takeWhile_sublist _).mem h

theorem nodup_visited (env : MonitorEnv Table Content) (node : Node) :
    ((visited env node).map Prod.fst).Nodup :=
  node.ids_nodup.sublist ((List.takeWhile_sublist _).map _)

/-- An endpoint of the node is bridged if it is described and its mappable clusters count. -/
theorem mappedDeviceType_eq_some {epId : Fin 256} {ep : Endpoint} {matterType : ℕ}
    (hmem : (epId, ep) ∈ node.endpoints) :
    mappedDeviceType env ep.clusters = some matterType ↔
      Describes env node epId ep matterType ∧ clustersMatchedToMatter env ep.clusters ≠ 0 := by
  rw [mappedDeviceType_eq_some_iff]
  unfold selectDeviceType
  cases hskips : skipsEndpoint ep.clusters with
  | error e =>
    refine iff_of_false (fun h => by cases h) (fun h => ?_)
    cases hskips.symm.trans h.1.guard
  | ok skipped =>
    simp only [bind, Except.bind]
    split_ifs with hskipped hmatched
    · refine iff_of_false (fun h => by cases h) (fun h => ?_)
      have hguard := Except.ok.inj (hskips.symm.trans h.1.guard)
      rw [hskipped] at hguard
      cases hguard
    · exact iff_of_false (fun h => by cases h) (fun h => h.2 hmatched)
    · have hguard : skipsEndpoint ep.clusters = .ok false := by
        rw [hskips, Bool.not_eq_true _ |>.mp hskipped]
      constructor
      · exact fun h => ⟨⟨hmem, hguard, mappable_of_matched hmatched, h⟩, hmatched⟩
      · exact fun h => h.1.typed

theorem describes_of_mapped {ep : Fin 256 × Endpoint} {e : BridgedEndpoint Content}
    (hep : ep ∈ node.endpoints) (hmapped : mappedDeviceType env ep.2.clusters ≠ none)
    (haddr : e.address = (node.unid, ep.1.val)) :
    ∃ ep matterType, Describes env node e.unifyEndpoint ep matterType := by
  obtain ⟨matterType, h⟩ := Option.ne_none_iff_exists'.mp hmapped
  have hid : e.unifyEndpoint = ep.1 := Fin.ext (congrArg Prod.snd haddr)
  rw [hid]
  exact ⟨ep.2, matterType, ((mappedDeviceType_eq_some hep).mp h).1⟩

section Bridge

variable {epId : Fin 256} {ep : Endpoint} {matterType : ℕ}

/-- Where its id is used by no other Unify endpoint, bridging replaces the entry of the address. -/
theorem mem_bridgeEndpoint (hP : Placed slots s)
    (hdistinct : ∀ e ∈ s.bridgedEndpoints,
      e.matterEndpoint = (assignMatterEndpoint env s node.unid epId).1 →
        e.address = (node.unid, epId.val)) {e : BridgedEndpoint Content} :
    e ∈ (bridgeEndpoint env node s epId ep matterType).bridgedEndpoints ↔
      e = bridgedEntry env node s epId ep matterType ∨
        e ∈ s.bridgedEndpoints ∧ e.address ≠ (node.unid, epId.val) := by
  rw [bridgedEndpoints_bridgeEndpoint, Multimap.mem_insert, mem_eraseMapperEndpoint hP.ids]
  apply or_congr_right
  apply and_congr_right
  intro he
  apply not_congr
  constructor
  · exact fun h => hdistinct e he h.2
  · intro haddr
    have hassigned := @assignMatterEndpoint_of_recorded _ _ env s _ _ (haddr ▸ hP.recorded e he)
    exact ⟨congrArg Prod.fst haddr, (congrArg Prod.fst hassigned).symm⟩

theorem slot_bridgeEndpoint (hP : Placed slots s)
    (hmapped : mappedDeviceType env ep.clusters = some matterType)
    (hok : ¬ RegistrationFails env node s (epId, ep)) (i : ℕ) :
    slots.slot (bridgeEndpoint env node s epId ep matterType).ember i =
      if i = (bridgedEntry env node s epId ep matterType).index then
        some ((bridgedEntry env node s epId ep matterType).matterEndpoint,
          (bridgedEntry env node s epId ep matterType).emberEndpoint)
      else slots.slot s.ember i := by
  rw [ember_bridgeEndpoint]
  apply hP.slot_registeredTable rfl
  by_contra herror
  exact hok ⟨matterType, hmapped, Or.inr herror⟩

theorem addEndpoint_kept (hP : Placed slots s) {ep : Fin 256 × Endpoint}
    (hok : ¬ RegistrationFails env node s ep)
    (hdistinct : mappedDeviceType env ep.2.clusters ≠ none → ∀ e ∈ s.bridgedEndpoints,
      e.matterEndpoint = (assignMatterEndpoint env s node.unid ep.1).1 →
        e.address = (node.unid, ep.1.val)) {e : BridgedEndpoint Content}
    (haddr : mappedDeviceType env ep.2.clusters ≠ none → e.address ≠ (node.unid, ep.1.val)) :
    (e ∈ (addEndpoint env node s ep).bridgedEndpoints ↔ e ∈ s.bridgedEndpoints) ∧
      (e ∈ s.bridgedEndpoints →
        slots.slot (addEndpoint env node s ep).ember e.index = slots.slot s.ember e.index) := by
  cases hmapped : mappedDeviceType env ep.2.clusters with
  | none =>
    have hsame : addEndpoint env node s ep = s := by
      simp only [addEndpoint, hmapped]
    rw [hsame]
    exact ⟨Iff.rfl, fun _ => rfl⟩
  | some matterType =>
    have hadd : addEndpoint env node s ep = bridgeEndpoint env node s ep.1 ep.2 matterType := by
      simp only [addEndpoint, hmapped]
    have hsome : mappedDeviceType env ep.2.clusters ≠ none := by simp [hmapped]
    have hids := hdistinct hsome
    have hother := haddr hsome
    rw [hadd]
    constructor
    · rw [mem_bridgeEndpoint hP hids]
      constructor
      · rintro (rfl | h)
        · exact absurd rfl hother
        · exact h.1
      · exact fun h => Or.inr ⟨h, hother⟩
    · intro he
      rw [slot_bridgeEndpoint hP hmapped hok, if_neg]
      -- the entry has another id than the one bridged, hence another index
      intro hindex
      refine hother (hids e he ?_)
      rw [hP.index e he] at hindex
      exact (dynamicIndex_inj (hP.lt he) (hP.assigned_lt (node.unid, ep.1.val))).mp hindex

theorem addEndpoint_bridged (hP : Placed slots s) {ep : Fin 256 × Endpoint}
    (hok : ¬ RegistrationFails env node s ep)
    (hdistinct : ∀ e ∈ s.bridgedEndpoints,
      e.matterEndpoint = (assignMatterEndpoint env s node.unid ep.1).1 →
        e.address = (node.unid, ep.1.val))
    (hmapped : mappedDeviceType env ep.2.clusters = some matterType) :
    let e := bridgedEntry env node s ep.1 ep.2 matterType
    e ∈ (addEndpoint env node s ep).bridgedEndpoints ∧
      slots.slot (addEndpoint env node s ep).ember e.index =
        some (e.matterEndpoint, e.emberEndpoint) := by
  have hadd : addEndpoint env node s ep = bridgeEndpoint env node s ep.1 ep.2 matterType := by
    simp only [addEndpoint, hmapped]
  rw [hadd]
  constructor
  · exact (mem_bridgeEndpoint hP hdistinct).mpr (Or.inl rfl)
  · rw [slot_bridgeEndpoint hP hmapped hok, if_pos rfl]

theorem nextAllocation_addEndpoint_le (s : MonitorState Table Content) (ep : Fin 256 × Endpoint) :
    s.nextAllocation ≤ (addEndpoint env node s ep).nextAllocation := by
  unfold addEndpoint
  split
  · exact Nat.le_refl _
  · rw [nextAllocation_bridgeEndpoint]
    exact Nat.le_succ _

end Bridge

section Loop

variable {eps : List (Fin 256 × Endpoint)}

/-- The loop over the endpoints: the entries of all addresses but those that are mapped and their
slots are as before. -/
theorem foldl_addEndpoint_kept (hP : Placed slots s)
    (hok : EventSystem.Guarded (addEndpoint env node)
      (fun s ep => ¬ RegistrationFails env node s ep) s eps)
    (hdistinct : EventSystem.Guarded (addEndpoint env node) (fun s ep =>
      mappedDeviceType env ep.2.clusters ≠ none → ∀ e ∈ s.bridgedEndpoints,
        e.matterEndpoint = (assignMatterEndpoint env s node.unid ep.1).1 →
          e.address = (node.unid, ep.1.val)) s eps) {e : BridgedEndpoint Content}
    (haddr : ∀ ep ∈ eps, mappedDeviceType env ep.2.clusters ≠ none →
      e.address ≠ (node.unid, ep.1.val)) :
    (e ∈ (eps.foldl (addEndpoint env node) s).bridgedEndpoints ↔ e ∈ s.bridgedEndpoints) ∧
      (e ∈ s.bridgedEndpoints → slots.slot (eps.foldl (addEndpoint env node) s).ember e.index =
        slots.slot s.ember e.index) := by
  induction eps generalizing s with
  | nil => exact ⟨Iff.rfl, fun _ => rfl⟩
  | cons ep eps ih =>
    obtain ⟨hentry, hregistered⟩ := ih (hP.addEndpoint node ep) hok.2 hdistinct.2
      fun ep' hep' => haddr ep' (List.mem_cons_of_mem _ hep')
    obtain ⟨hentry', hregistered'⟩ :=
      addEndpoint_kept hP hok.1 hdistinct.1 (haddr ep List.mem_cons_self)
    refine ⟨hentry.trans hentry', fun he => ?_⟩
    exact (hregistered (hentry'.mpr he)).trans (hregistered' he)

/-- The loop over the endpoints: those that are mapped are bridged anew. -/
theorem foldl_addEndpoint_bridged (hP : Placed slots s) (hnodup : (eps.map Prod.fst).Nodup)
    (hok : EventSystem.Guarded (addEndpoint env node)
      (fun s ep => ¬ RegistrationFails env node s ep) s eps)
    (hdistinct : EventSystem.Guarded (addEndpoint env node) (fun s ep =>
      mappedDeviceType env ep.2.clusters ≠ none → ∀ e ∈ s.bridgedEndpoints,
        e.matterEndpoint = (assignMatterEndpoint env s node.unid ep.1).1 →
          e.address = (node.unid, ep.1.val)) s eps) {ep : Fin 256 × Endpoint} (hep : ep ∈ eps)
    {matterType : ℕ} (hmapped : mappedDeviceType env ep.2.clusters = some matterType) :
    ∃ e ∈ (eps.foldl (addEndpoint env node) s).bridgedEndpoints,
      e.address = (node.unid, ep.1.val) ∧ e.matterType = matterType ∧
      e.reachable = some (node.state == .onlineFunctional) ∧
      e.emberEndpoint.content = env.buildMatterCluster ep.2.clusters ∧
      s.nextAllocation ≤ e.emberEndpoint.allocation ∧
      slots.slot (eps.foldl (addEndpoint env node) s).ember e.index =
        some (e.matterEndpoint, e.emberEndpoint) := by
  induction eps generalizing s with
  | nil => cases hep
  | cons first eps ih =>
    rw [List.map_cons, List.nodup_cons] at hnodup
    have hP' := hP.addEndpoint node first
    rcases List.mem_cons.mp hep with rfl | hep
    · obtain ⟨hnew, hslot⟩ := addEndpoint_bridged hP hok.1 (hdistinct.1 (by simp [hmapped])) hmapped
      -- the endpoint bridged first is none of those that follow
      obtain ⟨hentry, hregistered⟩ := foldl_addEndpoint_kept hP' hok.2 hdistinct.2
        (e := bridgedEntry env node s ep.1 ep.2 matterType) fun ep' hep' _ heq =>
          hnodup.1 (List.mem_map.mpr ⟨ep', hep', Fin.ext (congrArg Prod.snd heq).symm⟩)
      exact ⟨_, hentry.mpr hnew, rfl, rfl, rfl, rfl, Nat.le_refl _, (hregistered hnew).trans hslot⟩
    · obtain ⟨e, he, haddr, htype, hreach, hcontent, hnext, hreg⟩ :=
        ih hP' hnodup.2 hok.2 hdistinct.2 hep
      have hle := Nat.le_trans (nextAllocation_addEndpoint_le s first) hnext
      exact ⟨e, he, haddr, htype, hreach, hcontent, hle, hreg⟩

end Loop

section Allocation

structure AllocatedFor (a : String × ℕ) (allocation : ℕ) (s : MonitorState Table Content) : Prop where
  older : allocation < s.nextAllocation
  entries : ∀ e ∈ s.bridgedEndpoints, e.emberEndpoint.allocation = allocation → e.address = a

theorem Placed.allocatedFor (hP : Placed slots s) {e : BridgedEndpoint Content}
    (he : e ∈ s.bridgedEndpoints) : AllocatedFor e.address e.emberEndpoint.allocation s where
  older := hP.older e he
  entries := by
    intro f hf heq
    have hn : (s.bridgedEndpoints.map fun e => e.emberEndpoint.allocation).Nodup :=
      List.pairwise_map.mpr hP.contexts
    rw [List.inj_on_of_nodup_map hn hf he heq]

variable {a : String × ℕ} {allocation : ℕ}

/-- A new context is none that has been allocated. -/
theorem AllocatedFor.addEndpoint (hA : AllocatedFor a allocation s) (ep : Fin 256 × Endpoint) :
    AllocatedFor a allocation (addEndpoint env node s ep) := by
  unfold NodeStateMonitor.addEndpoint
  split
  · exact hA
  · constructor
    · rw [nextAllocation_bridgeEndpoint]
      exact Nat.lt_succ_of_lt hA.older
    · intro e he heq
      rw [bridgedEndpoints_bridgeEndpoint, Multimap.mem_insert] at he
      rcases he with rfl | he
      · exact absurd heq (Nat.ne_of_gt hA.older)
      · exact hA.entries e (List.mem_of_mem_eraseP he) heq

theorem AllocatedFor.changeState (hA : AllocatedFor a allocation s) (reachable : Bool)
    (e : BridgedEndpoint Content) : AllocatedFor a allocation (changeState reachable s e) where
  older := hA.older
  entries := by
    intro f hf heq
    have hviews : (NodeStateMonitor.changeState reachable s e).bridgedEndpoints.map
          (fun e => (e.address, e.emberEndpoint)) =
        s.bridgedEndpoints.map fun e => (e.address, e.emberEndpoint) :=
      map_assignReachable (fun _ _ => rfl) _ _ _
    obtain ⟨x, hx, hpair⟩ := Multimap.exists_of_map_eq hviews hf
    obtain ⟨haddr, hctx⟩ := Prod.mk.inj hpair
    rw [← haddr]
    exact hA.entries x hx (hctx ▸ heq)

theorem AllocatedFor.step (hA : AllocatedFor a allocation s) (ev : Event) :
    AllocatedFor a allocation (step env s ev) := by
  cases ev with
  | nodeAdded node =>
    exact EventSystem.invariant_run' (fun _ ep h => h.addEndpoint ep) hA (visited env node)
  | nodeRemoved unid =>
    constructor
    · rw [NodeStateMonitor.step, nextAllocation_onUnifyNodeRemoved]
      exact hA.older
    · exact fun e he => hA.entries e (mem_onUnifyNodeRemoved.mp he).1
  | nodeStateChanged node => exact EventSystem.invariant_run' (fun _ e h => h.changeState _ e) hA _
  | restart =>
    constructor
    · exact hA.older
    · exact fun e he => by cases he

theorem AllocatedFor.run (hA : AllocatedFor a allocation s) (evs : List Event) :
    AllocatedFor a allocation (EventSystem.run (NodeStateMonitor.step env) s evs) :=
  EventSystem.invariant_run' (fun _ ev h => h.step ev) hA evs

end Allocation

/-- The context of an entry is in no slot once there is no entry with its address. -/
theorem not_slotted_of_no_entry {before after : List Event} {e : BridgedEndpoint Content}
    (he : e ∈ (EventSystem.run (step env) (start env (KeyValueStore.empty fun _ => false))
      before).bridgedEndpoints)
    (hnone : ∀ f ∈ (EventSystem.run (step env) (start env (KeyValueStore.empty fun _ => false))
      (before ++ after)).bridgedEndpoints, f.address ≠ e.address) :
    ∀ i id c, slots.slot (EventSystem.run (step env)
        (start env (KeyValueStore.empty fun _ => false)) (before ++ after)).ember i = some (id, c) →
      c.allocation ≠ e.emberEndpoint.allocation := by
  intro i id c hslot hctx
  have hP := placed_run env slots (before ++ after)
  obtain ⟨f, hf, hfctx, -⟩ := hP.owned i id c hslot
  have hA : AllocatedFor e.address e.emberEndpoint.allocation (EventSystem.run (step env)
      (start env (KeyValueStore.empty fun _ => false)) before) :=
    (placed_run env slots before).allocatedFor he
  have hA' := @AllocatedFor.run _ _ env _ _ _ hA after
  rw [← EventSystem.run_append] at hA'
  exact hnone f hf (hA'.entries f hf (hfctx.trans hctx))

/-- Announcing a node converges to its description if and only if the call ends on no endpoint, every
endpoint bridged for the node is still described, and the 8-bit count of mappable clusters is zero for
no endpoint described. -/
theorem converged_iff (env : MonitorEnv Table Content) (slots : EmberSlots env.ember)
    (evs : List Event) (node : Node)
    (hsucceed : RegistrationsSucceed env
      (EventSystem.run (step env) (start env (KeyValueStore.empty fun _ => false)) evs) node)
    (hdistinct : IdsDistinct env
      (EventSystem.run (step env) (start env (KeyValueStore.empty fun _ => false)) evs) node) :
    Converged env slots evs node ↔ ConvergeCondition env
      (EventSystem.run (step env) (start env (KeyValueStore.empty fun _ => false)) evs) node := by
  let s := EventSystem.run (step env) (start env (KeyValueStore.empty fun _ => false)) evs
  have hP : Placed slots s := placed_run env slots evs
  have hkept := fun e => @foldl_addEndpoint_kept _ _ _ _ _ _ _ hP hsucceed hdistinct e
  -- an entry that is not described is not bridged, and therefore stays
  have hstays : ∀ e : BridgedEndpoint Content,
      (¬ ∃ ep matterType, Describes env node e.unifyEndpoint ep matterType) →
        (e ∈ (onUnifyNodeAdded env s node).bridgedEndpoints ↔ e ∈ s.bridgedEndpoints) :=
    fun e hnot => (hkept e fun ep hep hmapped haddr =>
      hnot (describes_of_mapped (mem_of_mem_visited hep) hmapped haddr)).1
  constructor
  · intro hconv
    constructor
    · exact returns_iff.mp hconv.returns
    · intro e he hunid
      by_contra hnot
      exact hnot (hconv.described e ((hstays e hnot).mpr he) hunid)
    · intro epId ep matterType hdescr hzero
      obtain ⟨e, he, haddr, -, -, -, hnew, -⟩ := hconv.bridged epId ep matterType hdescr
      -- the endpoint is not bridged, and an earlier entry of it has an older context
      have hbefore := (hkept e fun ep' hep' hmapped haddr' => ?_).1.mp he
      · exact absurd (hP.older e hbefore) (Nat.not_lt.mpr hnew)
      · have hid : ep'.1 = epId :=
          Fin.ext (congrArg Prod.snd (haddr'.symm.trans haddr))
        have heq : ep' = (epId, ep) :=
          List.inj_on_of_nodup_map node.ids_nodup (mem_of_mem_visited hep') hdescr.mem hid
        obtain ⟨matterType', h⟩ := Option.ne_none_iff_exists'.mp hmapped
        rw [heq] at h
        exact ((mappedDeviceType_eq_some hdescr.mem).mp h).2 hzero
  · intro hcond
    have hdescribed : ∀ e ∈ (onUnifyNodeAdded env s node).bridgedEndpoints,
        e.unifyUnid = node.unid →
          ∃ ep matterType, Describes env node e.unifyEndpoint ep matterType := by
      intro e he hunid
      by_contra hnot
      exact hnot (hcond.kept e ((hstays e hnot).mp he) hunid)
    have hP' : Placed slots (onUnifyNodeAdded env s node) := hP.step (.nodeAdded node)
    have hforeign : ∀ e : BridgedEndpoint Content, e.unifyUnid ≠ node.unid →
        ∀ ep ∈ visited env node, mappedDeviceType env ep.2.clusters ≠ none →
          e.address ≠ (node.unid, ep.1.val) :=
      fun e hne ep _ _ haddr => hne (congrArg Prod.fst haddr)
    have hreturns : Returns env node := returns_iff.mpr hcond.answers
    constructor
    · exact hreturns
    · intro epId ep matterType hdescr
      have hmem : (epId, ep) ∈ visited env node := hreturns.visited_eq ▸ hdescr.mem
      apply foldl_addEndpoint_bridged hP (nodup_visited env node) hsucceed hdistinct hmem
      exact (mappedDeviceType_eq_some hdescr.mem).mpr ⟨hdescr, hcond.counted _ _ _ hdescr⟩
    · exact hdescribed
    · exact hP'.addresses
    · intro before after hsplit e he hunid hnot
      have hnone : ∀ f ∈ (onUnifyNodeAdded env s node).bridgedEndpoints,
          f.address ≠ e.address := by
        intro f hf haddr
        obtain ⟨ep, matterType, h⟩ := hdescribed f hf ((congrArg Prod.fst haddr).trans hunid)
        have hid : f.unifyEndpoint = e.unifyEndpoint :=
          Fin.ext (congrArg Prod.snd haddr)
        exact hnot ⟨ep, matterType, hid ▸ h⟩
      have hrun : EventSystem.run (step env)
            (start env (KeyValueStore.empty fun _ => false)) (before ++ (after ++ [.nodeAdded node])) =
          onUnifyNodeAdded env s node := by
        rw [← List.append_assoc, ← hsplit, EventSystem.run_append]
        rfl
      refine ⟨hnone, ?_⟩
      rw [← hrun] at hnone ⊢
      exact not_slotted_of_no_entry he hnone
    · exact fun e hne => (hkept e (hforeign e hne)).1
    · exact fun e he hne => (hkept e (hforeign e hne)).2 he

section Example

/-- A node that is announced twice as the same converges to its description. -/
theorem converged_iff_of_announced_again :
    Converged lightEnv lightSlots [.nodeAdded (lightNode "A")] (lightNode "A") ↔
      ConvergeCondition lightEnv (EventSystem.run (step lightEnv)
        (start lightEnv (KeyValueStore.empty fun _ => false)) [.nodeAdded (lightNode "A")])
        (lightNode "A") := by
  apply converged_iff
  · refine ⟨?_, trivial⟩
    intro hfails
    obtain ⟨matterType, hmapped, hexhausted | hrejected⟩ := hfails
    · exact absurd hexhausted.1 (by decide)
    · cases hmapped
      exact hrejected (by decide)
  · refine ⟨fun _ => ?_, trivial⟩
    decide

def emptyNode (unid : String) : Node where
  unid := unid
  state := .onlineFunctional
  endpoints := []
  ids_nodup := List.nodup_nil

/-- An endpoint that the node does not describe any longer stays bridged. -/
theorem not_converged_of_endpoint_dropped :
    ¬ ∀ (evs : List Event) (node : Node),
      RegistrationsSucceed lightEnv (EventSystem.run (step lightEnv)
        (start lightEnv (KeyValueStore.empty fun _ => false)) evs) node →
      IdsDistinct lightEnv (EventSystem.run (step lightEnv)
        (start lightEnv (KeyValueStore.empty fun _ => false)) evs) node →
      Converged lightEnv lightSlots evs node := by
  intro h
  have hconv := h [.nodeAdded (lightNode "A")] (emptyNode "A") trivial trivial
  have hentries : (EventSystem.run (step lightEnv)
      (start lightEnv (KeyValueStore.empty fun _ => false))
      [.nodeAdded (lightNode "A"), .nodeAdded (emptyNode "A")]).bridgedEndpoints.map (·.unifyUnid) =
        ["A"] := by decide
  obtain ⟨e, he, hunid⟩ := List.mem_map.mp (hentries ▸ List.mem_cons_self)
  obtain ⟨ep, matterType, hdescr⟩ := hconv.described e he hunid
  cases hdescr.mem

end Example

end UnifyMatterBridge.NodeStateMonitor
