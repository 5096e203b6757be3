import UnifyMatterBridge.NodeStateMonitor.Lookup

/-! Endpoints that cannot be registered: no Matter endpoint id is free for them, or the stack
rejects them. They are bridged and announced like the others. -/
namespace UnifyMatterBridge.NodeStateMonitor

variable {Table Content : Type}

section Definitions

variable (env : MonitorEnv Table Content) (node : Node) (s : MonitorState Table Content)

def registrationError (t : Table) (bridge : BridgedEndpoint Content) : ChipError :=
  let index := env.ember.emberAfGetDynamicIndexFromEndpoint t bridge.matterEndpoint
  let t := if index ≠ kInvalidEndpointId then (env.ember.emberAfClearDynamicEndpoint t index).1
    else t
  (env.ember.emberAfSetDynamicEndpoint t bridge.index bridge.matterEndpoint bridge.emberEndpoint
    bridge.matterType).2

/-- No id is free for an endpoint that has none on record, or the stack rejects the endpoint. -/
def RegistrationFails (ep : Fin 256 × Endpoint) : Prop :=
  ∃ matterType, mappedDeviceType env ep.2.clusters = some matterType ∧
    (recordedId s.kvs (node.unid, ep.1.val) = none ∧
        (env.ember.getNextDynamicAvailableEndpointIndex env.counts s.ember
          s.lastReturnedAvailableEndpointId).1 = kInvalidEndpointId ∨
      registrationError env s.ember (makeBridge env node ep.1 ep.2 matterType
        (assignMatterEndpoint env s node.unid ep.1).1 s.nextAllocation) ≠ .noError)

/-- The call announces the endpoint of a Unify address with `NODE_ADDED`. -/
def Call.announces (a : String × ℕ) : Call Content → Bool
  | .listener e .nodeAdded => e.address = a
  | _ => false

def announcements (a : String × ℕ) : ℕ := s.calls.countP fun c => Call.announces a c.call

/-- Nothing has changed for a Unify address, and nothing has been announced. -/
structure NoTrace (s s' : MonitorState Table Content) (a : String × ℕ) : Prop where
  entries : s'.bridgedEndpoints.filter (·.address = a) = s.bridgedEndpoints.filter (·.address = a)
  record : recordedId s'.kvs a = recordedId s.kvs a
  silent : announcements s' a = announcements s a

/-- Every endpoint that the call comes to and whose registration fails leaves no trace. -/
def LeavesNoTrace : Prop :=
  ∀ before ep after, visited env node = before ++ ep :: after →
    RegistrationFails env node (before.foldl (addEndpoint env node) s) ep →
      NoTrace s (onUnifyNodeAdded env s node) (node.unid, ep.1.val)

end Definitions

section Announcements

variable {env : MonitorEnv Table Content} {node : Node} {s : MonitorState Table Content}
  {a : String × ℕ}

theorem announcements_record (c : Call Content) :
    announcements (record s c) a = announcements s a + if Call.announces a c then 1 else 0 := by
  simp only [announcements, record, List.countP_append, List.countP_singleton]

theorem announcements_registerDynamicEndpoint (bridge : BridgedEndpoint Content) :
    announcements (registerDynamicEndpoint env s bridge) a = announcements s a := by
  have hset : ∀ s' : MonitorState Table Content,
      announcements (emberAfSetDynamicEndpoint env s' bridge) a = announcements s' a :=
    fun s' => announcements_record _
  have hclear : ∀ index, announcements (emberAfClearDynamicEndpoint env s index) a =
      announcements s a := fun index => announcements_record _
  unfold registerDynamicEndpoint
  dsimp only
  split_ifs
  · rw [hset, hclear]
  · rw [hset]

theorem announcements_assignMatterEndpoint (unid : String) (epId : ℕ) :
    announcements (assignMatterEndpoint env s unid epId).2 a = announcements s a := by
  unfold assignMatterEndpoint
  split <;> rfl

/-- An endpoint that is bridged is announced once, whatever becomes of its registration. -/
theorem announcements_bridgeEndpoint (epId : Fin 256) (ep : Endpoint) (matterType : ℕ) :
    announcements (bridgeEndpoint env node s epId ep matterType) a =
      announcements s a + if (node.unid, epId.val) = a then 1 else 0 := by
  let r := assignMatterEndpoint env s node.unid epId
  let bridge := makeBridge env node epId ep matterType r.1 r.2.nextAllocation
  let others := eraseMapperEndpoint node.unid r.1 r.2.bridgedEndpoints
  let inserted : MonitorState Table Content := { r.2 with
    nextAllocation := r.2.nextAllocation + 1
    bridgedEndpoints := Multimap.insert (·.unifyUnid) bridge others }
  let added := record (registerDynamicEndpoint env inserted bridge) (.listener bridge .nodeAdded)
  have haddress : Call.announces a (Call.listener bridge .nodeAdded) =
      decide ((node.unid, epId.val) = a) := rfl
  calc announcements (bridgeEndpoint env node s epId ep matterType) a
      = announcements added a + 0 := announcements_record _
    _ = announcements inserted a + if (node.unid, epId.val) = a then 1 else 0 := by
        rw [Nat.add_zero, announcements_record, announcements_registerDynamicEndpoint, haddress]
        simp only [decide_eq_true_eq]
    _ = announcements s a + if (node.unid, epId.val) = a then 1 else 0 :=
        congrArg (· + _) (announcements_assignMatterEndpoint _ _)

theorem announcements_addEndpoint_le (ep : Fin 256 × Endpoint) :
    announcements s a ≤ announcements (addEndpoint env node s ep) a := by
  unfold addEndpoint
  split
  · exact Nat.le_refl _
  · rw [announcements_bridgeEndpoint]
    exact Nat.le_add_right _ _

theorem announcements_foldl_le (eps : List (Fin 256 × Endpoint)) :
    announcements s a ≤ announcements (eps.foldl (addEndpoint env node) s) a := by
  induction eps generalizing s with
  | nil => exact Nat.le_refl _
  | cons ep eps ih => exact Nat.le_trans (announcements_addEndpoint_le ep) ih

end Announcements

/-- A failed registration always leaves a trace: there is none only where nothing fails. -/
theorem leavesNoTrace_iff (env : MonitorEnv Table Content) (node : Node)
    (s : MonitorState Table Content) :
    LeavesNoTrace env node s ↔
      ∀ before ep after, visited env node = before ++ ep :: after →
        ¬ RegistrationFails env node (before.foldl (addEndpoint env node) s) ep := by
  constructor
  · intro hno before ep after hsplit hfails
    obtain ⟨matterType, hmapped, -⟩ := id hfails
    have hsilent := (hno before ep after hsplit hfails).silent
    have hbefore : announcements s (node.unid, ep.1.val) ≤
        announcements (before.foldl (addEndpoint env node) s) (node.unid, ep.1.val) :=
      announcements_foldl_le before
    have hadd : addEndpoint env node (before.foldl (addEndpoint env node) s) ep =
        bridgeEndpoint env node (before.foldl (addEndpoint env node) s) ep.1 ep.2 matterType := by
      simp only [addEndpoint, hmapped]
    have hafter : announcements (before.foldl (addEndpoint env node) s) (node.unid, ep.1.val) + 1 ≤
        announcements (onUnifyNodeAdded env s node) (node.unid, ep.1.val) := by
      rw [onUnifyNodeAdded, hsplit, List.foldl_append, List.foldl_cons, hadd]
      refine Nat.le_trans (Nat.le_of_eq ?_) (announcements_foldl_le after)
      rw [announcements_bridgeEndpoint, if_pos rfl]
    omega
  · intro hnone before ep after hsplit hfails
    exact absurd hfails (hnone before ep after hsplit)

section Example

def fullEnv :
    MonitorEnv (SlotTable (EndpointContext (List (String × Cluster)))) (List (String × Cluster)) :=
  { lightEnv with
    counts := ⟨2, 2, Nat.two_pos, by decide, by decide⟩
    ember := slotTableApi _ 0 }

/-- A node that finds no free id is bridged to the invalid endpoint id, on record, and announced. -/
theorem not_leavesNoTrace_of_full :
    ¬ ∀ node, LeavesNoTrace fullEnv node (start fullEnv (KeyValueStore.empty fun _ => false)) := by
  intro h
  have hfails : RegistrationFails fullEnv (lightNode "A")
      (start fullEnv (KeyValueStore.empty fun _ => false))
      (1, ⟨[("OnOff", ⟨["OnOff"], ["On", "Off", "Toggle"], []⟩)], by decide⟩) := by
    refine ⟨256, by decide, Or.inl ⟨rfl, ?_⟩⟩
    decide
  have hsilent := (h (lightNode "A") [] _ [] rfl hfails).silent
  exact absurd hsilent (by decide)

end Example

end UnifyMatterBridge.NodeStateMonitor
