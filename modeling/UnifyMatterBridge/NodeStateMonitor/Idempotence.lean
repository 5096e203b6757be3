import UnifyMatterBridge.NodeStateMonitor.Convergence
import UnifyMatterBridge.Lib.Overwrite

/-! Announcing a node again as it is changes nothing but the allocations, if the call returns: entries
are written by node and Matter endpoint id, slots by index, and the ids are on record the second
time. -/
namespace UnifyMatterBridge

/-- What is seen of an entry: all but which allocation its context is. -/
def BridgedEndpoint.view {Content : Type} (e : BridgedEndpoint Content) : BridgedEndpoint Content :=
  { e with emberEndpoint := { e.emberEndpoint with allocation := 0 } }

namespace NodeStateMonitor

variable {Table Content : Type}

section Definitions

variable {env : MonitorEnv Table Content} (slots : EmberSlots env.ember)

def entries (s : MonitorState Table Content) : Set (BridgedEndpoint Content) :=
  {v | ∃ e ∈ s.bridgedEndpoints, e.view = v}

/-- The registrations in the stack: slot, endpoint id and content. -/
def registrations (s : MonitorState Table Content) : Set (ℕ × ℕ × Content) :=
  {r | ∃ c, slots.slot s.ember r.1 = some (r.2.1, c) ∧ c.content = r.2.2}

structure SameBridging (s s' : MonitorState Table Content) : Prop where
  entries : entries s' = entries s
  content : s'.kvs.content = s.kvs.content
  registrations : registrations slots s' = registrations slots s

/-- The node is announced twice in a row: both calls return, and the second one changes nothing. -/
structure Idempotent (s : MonitorState Table Content) (node : Node) : Prop where
  returns : Returns env node
  same : SameBridging slots (onUnifyNodeAdded env s node)
    (onUnifyNodeAdded env (onUnifyNodeAdded env s node) node)

def entryKey (v : BridgedEndpoint Content) : String × ℕ := (v.unifyUnid, v.matterEndpoint)

def registration (v : BridgedEndpoint Content) : ℕ × ℕ × Content :=
  (v.index, v.matterEndpoint, v.emberEndpoint.content)

/-- The view of the entry of an endpoint that is bridged with the id on record. -/
def recordedView (env : MonitorEnv Table Content) (node : Node) (kvs : KeyValueStore)
    (ep : Fin 256 × Endpoint) : Option (BridgedEndpoint Content) :=
  (mappedDeviceType env ep.2.clusters).bind fun matterType =>
    (recordedId kvs (node.unid, ep.1.val)).map fun id =>
      { makeBridge env node ep.1 ep.2 matterType id 0 with
        reachable := some (node.state == .onlineFunctional) }

end Definitions

variable {env : MonitorEnv Table Content} {slots : EmberSlots env.ember}
  {s : MonitorState Table Content} {node : Node}

section Bridge

variable {epId : Fin 256} {ep : Endpoint} {matterType : ℕ}

theorem Placed.entries_bridgeEndpoint (hP : Placed slots s) :
    entries (NodeStateMonitor.bridgeEndpoint env node s epId ep matterType) =
      Overwrite.write entryKey (entries s) (bridgedEntry env node s epId ep matterType).view := by
  ext v
  rw [Overwrite.mem_write]
  unfold entries
  simp only [Set.mem_ofPred_eq, bridgedEndpoints_bridgeEndpoint, Multimap.mem_insert]
  constructor
  · intro h
    obtain ⟨e, rfl | he, hv⟩ := h
    · exact Or.inl hv.symm
    · obtain ⟨hmem, hnot⟩ := (mem_eraseMapperEndpoint hP.ids).mp he
      refine Or.inr ⟨⟨e, hmem, hv⟩, fun hkey => hnot ?_⟩
      rw [← hv] at hkey
      exact Prod.mk.inj hkey
  · intro h
    rcases h with rfl | ⟨⟨e, he, hv⟩, hkey⟩
    · exact ⟨_, Or.inl rfl, rfl⟩
    · refine ⟨e, Or.inr ((mem_eraseMapperEndpoint hP.ids).mpr ⟨he, fun hboth => hkey ?_⟩), hv⟩
      rw [← hv]
      exact Prod.ext hboth.1 hboth.2

theorem Placed.registrations_bridgeEndpoint (hP : Placed slots s)
    (hmapped : mappedDeviceType env ep.clusters = some matterType)
    (hok : ¬ RegistrationFails env node s (epId, ep)) :
    registrations slots (NodeStateMonitor.bridgeEndpoint env node s epId ep matterType) =
      Overwrite.write Prod.fst (registrations slots s)
        (registration (bridgedEntry env node s epId ep matterType).view) := by
  ext r
  rw [Overwrite.mem_write]
  unfold registrations
  simp only [Set.mem_ofPred_eq, slot_bridgeEndpoint hP hmapped hok]
  by_cases hi : r.1 = (bridgedEntry env node s epId ep matterType).index
  · rw [if_pos hi]
    constructor
    · intro h
      obtain ⟨c, hc, hcontent⟩ := h
      obtain ⟨hid, hctx⟩ := Prod.mk.inj (Option.some.inj hc)
      left
      rw [← hctx] at hcontent
      exact Prod.ext hi (Prod.ext hid.symm hcontent.symm)
    · intro h
      rcases h with rfl | ⟨-, hne⟩
      · exact ⟨_, rfl, rfl⟩
      · exact absurd hi hne
  · rw [if_neg hi]
    constructor
    · exact fun h => Or.inr ⟨h, hi⟩
    · intro h
      rcases h with rfl | ⟨h, -⟩
      · exact absurd rfl hi
      · exact h

end Bridge

section Records

theorem recordedId_addEndpoint_of_some {a : String × ℕ} {id : ℕ}
    (h : recordedId s.kvs a = some id) (ep : Fin 256 × Endpoint) :
    recordedId (addEndpoint env node s ep).kvs a = some id := by
  unfold addEndpoint
  split
  · exact h
  · rw [kvs_bridgeEndpoint]
    rcases (assignMatterEndpoint_cases env s (node.unid, ep.1.val)).2 a with hsame | ⟨ha, hsome⟩
    · rw [hsame, h]
    · have hassigned := @assignMatterEndpoint_of_recorded _ _ env s a id h
      rw [ha] at hassigned
      rw [hsome, hassigned]

theorem recordedId_foldl_of_some {a : String × ℕ} {id : ℕ} (h : recordedId s.kvs a = some id)
    (eps : List (Fin 256 × Endpoint)) :
    recordedId (eps.foldl (addEndpoint env node) s).kvs a = some id :=
  EventSystem.invariant_run' (I := fun s : MonitorState Table Content =>
    recordedId s.kvs a = some id) (fun _ ep h => recordedId_addEndpoint_of_some h ep) h eps

theorem Placed.recordedId_addEndpoint (hP : Placed slots s) {ep : Fin 256 × Endpoint}
    (hmapped : mappedDeviceType env ep.2.clusters ≠ none) :
    recordedId (NodeStateMonitor.addEndpoint env node s ep).kvs (node.unid, ep.1.val) =
      some (assignMatterEndpoint env s node.unid ep.1).1 := by
  obtain ⟨matterType, hm⟩ := Option.ne_none_iff_exists'.mp hmapped
  have hadd : NodeStateMonitor.addEndpoint env node s ep =
      NodeStateMonitor.bridgeEndpoint env node s ep.1 ep.2 matterType := by
    simp only [NodeStateMonitor.addEndpoint, hm]
  rw [hadd, kvs_bridgeEndpoint]
  exact (recordedId_assignMatterEndpoint hP.faithful (node.unid, ep.1.val) _).trans (if_pos rfl)

theorem kvs_addEndpoint_of_recorded {ep : Fin 256 × Endpoint}
    (h : mappedDeviceType env ep.2.clusters ≠ none → ∃ id,
      recordedId s.kvs (node.unid, ep.1.val) = some id) :
    (addEndpoint env node s ep).kvs = s.kvs := by
  unfold addEndpoint
  cases hmapped : mappedDeviceType env ep.2.clusters with
  | none => rfl
  | some matterType =>
    obtain ⟨id, hid⟩ := h (by simp [hmapped])
    dsimp only
    rw [kvs_bridgeEndpoint, @assignMatterEndpoint_of_recorded _ _ env s _ _ hid]

theorem kvs_foldl_of_recorded {eps : List (Fin 256 × Endpoint)}
    (h : ∀ ep ∈ eps, mappedDeviceType env ep.2.clusters ≠ none → ∃ id,
      recordedId s.kvs (node.unid, ep.1.val) = some id) :
    (eps.foldl (addEndpoint env node) s).kvs = s.kvs := by
  induction eps generalizing s with
  | nil => rfl
  | cons ep eps ih =>
    have hsame := kvs_addEndpoint_of_recorded (h ep List.mem_cons_self)
    rw [List.foldl_cons, ih, hsame]
    intro ep' hep'
    rw [hsame]
    exact h ep' (List.mem_cons_of_mem _ hep')

theorem Placed.recorded_foldl (hP : Placed slots s) {eps : List (Fin 256 × Endpoint)} {ep : Fin 256 × Endpoint}
    (hep : ep ∈ eps) (hmapped : mappedDeviceType env ep.2.clusters ≠ none) :
    ∃ id, recordedId (eps.foldl (NodeStateMonitor.addEndpoint env node) s).kvs (node.unid, ep.1.val) =
      some id := by
  induction eps generalizing s with
  | nil => cases hep
  | cons ep' eps ih =>
    rcases List.mem_cons.mp hep with rfl | hep
    · exact ⟨_, recordedId_foldl_of_some (hP.recordedId_addEndpoint hmapped) eps⟩
    · exact ih (hP.addEndpoint node ep') hep

end Records

/-- The loop over the endpoints writes the views under the ids that are on record afterwards. -/
theorem Placed.writes_foldl {eps : List (Fin 256 × Endpoint)} (hP : Placed slots s)
    (hok : EventSystem.Guarded (NodeStateMonitor.addEndpoint env node)
      (fun s ep => ¬ RegistrationFails env node s ep) s eps) {kvs : KeyValueStore}
    (hkvs : (eps.foldl (NodeStateMonitor.addEndpoint env node) s).kvs = kvs) :
    entries (eps.foldl (NodeStateMonitor.addEndpoint env node) s) =
      Overwrite.writeAll entryKey (entries s) (eps.filterMap (recordedView env node kvs)) ∧
    registrations slots (eps.foldl (NodeStateMonitor.addEndpoint env node) s) =
      Overwrite.writeAll Prod.fst (registrations slots s)
        ((eps.filterMap (recordedView env node kvs)).map registration) := by
  induction eps generalizing s with
  | nil => exact ⟨rfl, rfl⟩
  | cons ep eps ih =>
    rw [List.foldl_cons] at hkvs ⊢
    obtain ⟨hentries, hregistrations⟩ := ih (hP.addEndpoint node ep) hok.2 hkvs
    rw [hentries, hregistrations]
    cases hmapped : mappedDeviceType env ep.2.clusters with
    | none =>
      have hsame : NodeStateMonitor.addEndpoint env node s ep = s := by
        simp only [NodeStateMonitor.addEndpoint, hmapped]
      have hview : recordedView env node kvs ep = none := by
        rw [recordedView, hmapped]
        rfl
      rw [hsame, List.filterMap_cons_none hview]
      exact ⟨rfl, rfl⟩
    | some matterType =>
      have hadd : NodeStateMonitor.addEndpoint env node s ep =
          NodeStateMonitor.bridgeEndpoint env node s ep.1 ep.2 matterType := by
        simp only [NodeStateMonitor.addEndpoint, hmapped]
      have hrecorded : recordedId kvs (node.unid, ep.1.val) =
          some (assignMatterEndpoint env s node.unid ep.1).1 := by
        rw [← hkvs]
        exact recordedId_foldl_of_some (hP.recordedId_addEndpoint (by simp [hmapped])) eps
      have hview : recordedView env node kvs ep =
          some (bridgedEntry env node s ep.1 ep.2 matterType).view := by
        rw [recordedView, hmapped, hrecorded]
        rfl
      rw [hadd, List.filterMap_cons_some hview, List.map_cons, Overwrite.writeAll_cons,
        Overwrite.writeAll_cons, hP.entries_bridgeEndpoint,
        hP.registrations_bridgeEndpoint hmapped hok.1]
      exact ⟨rfl, rfl⟩

/-- The second of two calls leaves the same entries, records and registrations as the first, as far as
they get. -/
theorem Placed.sameBridging (hP : Placed slots s) (hfirst : RegistrationsSucceed env s node)
    (hsecond : RegistrationsSucceed env (onUnifyNodeAdded env s node) node) :
    SameBridging slots (onUnifyNodeAdded env s node)
      (onUnifyNodeAdded env (onUnifyNodeAdded env s node) node) := by
  let once := onUnifyNodeAdded env s node
  have hP' : Placed slots once := hP.step (.nodeAdded node)
  have hkvs : (onUnifyNodeAdded env once node).kvs = once.kvs :=
    kvs_foldl_of_recorded fun ep hep hmapped => hP.recorded_foldl hep hmapped
  obtain ⟨hentries, hregistrations⟩ := hP.writes_foldl hfirst rfl
  obtain ⟨hentries', hregistrations'⟩ := hP'.writes_foldl hsecond hkvs
  constructor
  · calc entries (onUnifyNodeAdded env once node)
        = Overwrite.writeAll entryKey (entries once)
            ((visited env node).filterMap (recordedView env node once.kvs)) := hentries'
      _ = Overwrite.writeAll entryKey (Overwrite.writeAll entryKey (entries s)
            ((visited env node).filterMap (recordedView env node once.kvs)))
            ((visited env node).filterMap (recordedView env node once.kvs)) :=
          congrArg (fun S => Overwrite.writeAll entryKey S _) hentries
      _ = entries once := Overwrite.writeAll_writeAll.trans hentries.symm
  · rw [hkvs]
  · calc registrations slots (onUnifyNodeAdded env once node)
        = Overwrite.writeAll Prod.fst (registrations slots once)
            (((visited env node).filterMap (recordedView env node once.kvs)).map registration) :=
          hregistrations'
      _ = Overwrite.writeAll Prod.fst (Overwrite.writeAll Prod.fst (registrations slots s)
            (((visited env node).filterMap (recordedView env node once.kvs)).map registration))
            (((visited env node).filterMap (recordedView env node once.kvs)).map registration) :=
          congrArg (fun S => Overwrite.writeAll Prod.fst S _) hregistrations
      _ = registrations slots once := Overwrite.writeAll_writeAll.trans hregistrations.symm

/-- After every run, announcing a node twice leaves the same entries, records and registrations as
announcing it once, if and only if the call ends on no endpoint of the node. -/
theorem idempotent_iff (env : MonitorEnv Table Content) (slots : EmberSlots env.ember)
    (evs : List Event) (node : Node)
    (hfirst : RegistrationsSucceed env
      (EventSystem.run (step env) (start env (KeyValueStore.empty fun _ => false)) evs) node)
    (hsecond : RegistrationsSucceed env (onUnifyNodeAdded env
      (EventSystem.run (step env) (start env (KeyValueStore.empty fun _ => false)) evs) node) node) :
    Idempotent slots
        (EventSystem.run (step env) (start env (KeyValueStore.empty fun _ => false)) evs) node ↔
      ∀ ep ∈ node.endpoints, Answers env ep.2.clusters := by
  rw [← returns_iff]
  constructor
  · exact Idempotent.returns
  · intro hreturns
    have hP := placed_run env slots evs
    exact ⟨hreturns, hP.sameBridging hfirst hsecond⟩

section Example

/-- A node that gets a fresh id the first time is announced twice after another node. -/
theorem idempotent_of_new_node :
    Idempotent lightSlots (EventSystem.run (step lightEnv)
      (start lightEnv (KeyValueStore.empty fun _ => false)) [.nodeAdded (lightNode "A")])
      (lightNode "B") := by
  apply (idempotent_iff lightEnv lightSlots [.nodeAdded (lightNode "A")] (lightNode "B") ?_ ?_).mpr
  · intro ep hep
    rw [List.mem_singleton.mp hep]
    exact ⟨List.cons_ne_nil _ _, fun _ _ => ⟨some 256, rfl⟩⟩
  · refine ⟨fun hfails => ?_, trivial⟩
    obtain ⟨matterType, hmapped, hexhausted | hrejected⟩ := hfails
    · exact absurd hexhausted.2 (by decide)
    · cases hmapped
      exact hrejected (by decide)
  · refine ⟨fun hfails => ?_, trivial⟩
    obtain ⟨matterType, hmapped, hexhausted | hrejected⟩ := hfails
    · exact absurd hexhausted.1 (by decide)
    · cases hmapped
      exact hrejected (by decide)

def bareNode (unid : String) (epId : Fin 256) : Node where
  unid := unid
  state := .onlineFunctional
  endpoints := [(epId, ⟨[], List.nodup_nil⟩)]
  ids_nodup := List.nodup_singleton epId

/-- For such a node the call does not return. -/
theorem not_idempotent_of_no_clusters :
    ¬ ∀ (evs : List Event) (node : Node),
      RegistrationsSucceed lightEnv (EventSystem.run (step lightEnv)
        (start lightEnv (KeyValueStore.empty fun _ => false)) evs) node →
      RegistrationsSucceed lightEnv (onUnifyNodeAdded lightEnv (EventSystem.run (step lightEnv)
        (start lightEnv (KeyValueStore.empty fun _ => false)) evs) node) node →
      Idempotent lightSlots (EventSystem.run (step lightEnv)
        (start lightEnv (KeyValueStore.empty fun _ => false)) evs) node := by
  intro h
  have hreturns := (h [] (bareNode "A" 1) trivial trivial).returns
  exact absurd rfl (returns_iff.mp hreturns _ List.mem_cons_self).nonempty

end Example

end NodeStateMonitor

end UnifyMatterBridge
