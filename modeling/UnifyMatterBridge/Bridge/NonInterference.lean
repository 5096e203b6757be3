import UnifyMatterBridge.Bridge.System
import UnifyMatterBridge.Group.Membership

/-! What has been reported for an id before an endpoint was bridged on it has no effect afterwards, as
long as nothing is cached for the id by then. -/
namespace UnifyMatterBridge.Bridge

open NodeStateMonitor Partition

variable {Table Content P : Type}

section Announcements

variable {env : MonitorEnv Table Content} {s s' s'' : MonitorState Table Content}

/-- The listeners are told the state of an endpoint on the id. -/
def Announces (calls : List (CallRecord Table Content)) (id : ℕ) : Prop :=
  ∃ r ∈ calls, ∃ e, r.call = .listener e .nodeStateChanged ∧ e.matterEndpoint = id

def Extends (s s' : MonitorState Table Content) : Prop :=
  ∃ calls, s'.calls = s.calls ++ calls ∧ ∀ e ∈ s'.bridgedEndpoints,
    (∃ e' ∈ s.bridgedEndpoints, e'.address = e.address ∧ e'.matterEndpoint = e.matterEndpoint) ∨
      Announces calls e.matterEndpoint

theorem Extends.of_views {calls : List (CallRecord Table Content)}
    (hcalls : s'.calls = s.calls ++ calls) (h : ∀ e ∈ s'.bridgedEndpoints,
      ∃ e' ∈ s.bridgedEndpoints, e'.address = e.address ∧ e'.matterEndpoint = e.matterEndpoint) :
    Extends s s' :=
  ⟨calls, hcalls, fun e he => Or.inl (h e he)⟩

theorem Extends.refl (s : MonitorState Table Content) : Extends s s :=
  Extends.of_views (List.append_nil _).symm fun e he => ⟨e, he, rfl, rfl⟩

theorem Extends.trans (h : Extends s s') (h' : Extends s' s'') : Extends s s'' := by
  obtain ⟨calls, hcalls, hview⟩ := h
  obtain ⟨calls', hcalls', hview'⟩ := h'
  refine ⟨calls ++ calls', by rw [hcalls', hcalls, List.append_assoc], fun e he => ?_⟩
  rcases hview' e he with ⟨e', he', haddress, hid⟩ | ⟨r, hr, hannounced⟩
  · rcases hview e' he' with ⟨e'', he'', haddress', hid'⟩ | ⟨r, hr, hannounced⟩
    · exact Or.inl ⟨e'', he'', haddress'.trans haddress, hid'.trans hid⟩
    · rw [hid] at hannounced
      exact Or.inr ⟨r, List.mem_append_left _ hr, hannounced⟩
  · exact Or.inr ⟨r, List.mem_append_right _ hr, hannounced⟩

theorem extends_bridgeEndpoint (node : Node) (epId : Fin 256) (ep : Endpoint) (matterType : ℕ) :
    Extends s (bridgeEndpoint env node s epId ep matterType) := by
  obtain ⟨b, -, hb, hentries, -⟩ := bridgeEndpoint_spec env node s epId ep matterType
  obtain ⟨calls, record, hcalls, announced, hannounced⟩ :=
    @calls_bridgeEndpoint_eq _ _ env s node epId ep matterType
  refine ⟨calls ++ [record], by rw [hcalls, List.append_assoc], fun e he => ?_⟩
  rw [hentries, Multimap.mem_insert] at he
  rcases he with rfl | he
  · rw [hb]
    exact Or.inr ⟨record, by simp, announced, hannounced⟩
  · exact Or.inl ⟨e, List.mem_of_mem_eraseP he, rfl, rfl⟩

theorem extends_step (ev : NodeStateMonitor.Event) : Extends s (NodeStateMonitor.step env s ev) := by
  cases ev with
  | nodeAdded node =>
    apply EventSystem.invariant_run' _ (Extends.refl s)
    intro s' ep h
    apply h.trans
    unfold addEndpoint
    split
    · exact Extends.refl _
    · exact extends_bridgeEndpoint _ _ _ _
  | nodeRemoved unid =>
    obtain ⟨calls, hcalls⟩ := @calls_step _ _ env s (.nodeRemoved unid)
    apply Extends.of_views hcalls.symm
    intro e he
    exact ⟨e, (mem_onUnifyNodeRemoved.mp he).1, rfl, rfl⟩
  | nodeStateChanged node =>
    apply EventSystem.invariant_run' _ (Extends.refl s)
    intro s' e h
    apply h.trans
    have hcalls : ∃ calls, (changeState (node.state == .onlineFunctional) s' e).calls =
        s'.calls ++ calls := ⟨_, rfl⟩
    obtain ⟨calls, hcalls⟩ := hcalls
    apply Extends.of_views hcalls
    intro e' he'
    obtain ⟨x, hx, hview⟩ := Multimap.exists_of_map_eq
      (@map_assignReachable Content _ (fun e => (e.address, e.matterEndpoint)) (fun _ _ => rfl) _ _ _)
      he'
    exact ⟨x, hx, (Prod.mk.inj hview).1, (Prod.mk.inj hview).2⟩
  | restart =>
    have hcalls : (NodeStateMonitor.step env s .restart).calls = s.calls ++ [] :=
      (List.append_nil _).symm
    apply Extends.of_views hcalls
    intro e he
    cases he

theorem announces_of_bridgedAnew {id : ℕ} {ev : NodeStateMonitor.Event}
    (h : bridgedAnew s (NodeStateMonitor.step env s ev) id = true) :
    Announces (newCalls s (NodeStateMonitor.step env s ev)) id := by
  obtain ⟨calls, hcalls, hview⟩ := @extends_step _ _ env s ev
  have hnew : newCalls s (NodeStateMonitor.step env s ev) = calls := by
    rw [newCalls, hcalls, List.drop_left]
  obtain ⟨e, he, hid⟩ := List.any_eq_true.mp h
  simp only [Bool.and_eq_true, decide_eq_true_eq, Bool.not_eq_true', List.any_eq_false, not_and]
    at hid
  obtain ⟨rfl, hanew⟩ := hid
  rw [hnew]
  rcases hview e he with ⟨e', he', haddress, hid⟩ | hannounced
  · exact absurd hid (hanew e' he' haddress)
  · exact hannounced

end Announcements

section Notifications

def reachableWrite (record : CallRecord Table Content) : Option (AttrPath × CacheValue) :=
  match record.call with
  | .listener ep .nodeStateChanged =>
    some (BridgedDeviceBasicInfoAttributeAccess.reachable ep.matterEndpoint,
      .bool (ep.reachable.getD false))
  | _ => none

theorem foldl_notify (calls : List (CallRecord Table Content)) (c : AttributeCache) :
    calls.foldl notify c = writeAll c (calls.filterMap reachableWrite) := by
  induction calls generalizing c with
  | nil => rfl
  | cons record calls ih =>
    rw [List.foldl_cons, ih, List.filterMap_cons]
    unfold notify reachableWrite
    cases record.call with
    | emberAfClearDynamicEndpoint => rfl
    | emberAfSetDynamicEndpoint => rfl
    | listener ep update => cases update <;> rfl

theorem mem_reachableWrites {calls : List (CallRecord Table Content)} {path : AttrPath} :
    path ∈ (calls.filterMap reachableWrite).map Prod.fst ↔
      path = BridgedDeviceBasicInfoAttributeAccess.reachable path.endpointId ∧
        Announces calls path.endpointId := by
  simp only [List.mem_map, List.mem_filterMap]
  constructor
  · rintro ⟨w, ⟨r, hr, hw⟩, rfl⟩
    unfold reachableWrite at hw
    split at hw
    · next e hcall =>
      cases hw
      exact ⟨rfl, r, hr, e, hcall, rfl⟩
    · cases hw
  · rintro ⟨hpath, r, hr, e, hcall, hid⟩
    refine ⟨(BridgedDeviceBasicInfoAttributeAccess.reachable e.matterEndpoint,
      .bool (e.reachable.getD false)), ⟨r, hr, ?_⟩, ?_⟩
    · simp only [reachableWrite, hcall]
    · rw [hid, ← hpath]

end Notifications

section Cleared

variable {env : BridgeEnv Table Content P} {s : BridgeState Table Content}

theorem bridges_restart (id : ℕ) : bridges env s (.node .restart) id = false := rfl

def reachableWrites (env : BridgeEnv Table Content P) (s : BridgeState Table Content)
    (ev : NodeStateMonitor.Event) : List (AttrPath × CacheValue) :=
  (newCalls s.monitor (NodeStateMonitor.step env.monitor s.monitor ev)).filterMap reachableWrite

theorem step_node {ev : NodeStateMonitor.Event} (hrestart : ev ≠ .restart) :
    step env s (.node ev) =
      { s with
        monitor := NodeStateMonitor.step env.monitor s.monitor ev
        cache := writeAll s.cache (reachableWrites env s ev) } := by
  unfold reachableWrites
  rw [← foldl_notify]
  cases ev with
  | restart => exact absurd rfl hrestart
  | nodeAdded | nodeRemoved | nodeStateChanged => rfl

theorem mem_reachableWrites_of_bridges {ev : NodeStateMonitor.Event} {path : AttrPath}
    (hid : bridges env s (.node ev) path.endpointId = true) :
    path ∈ (reachableWrites env s ev).map Prod.fst ↔
      path = BridgedDeviceBasicInfoAttributeAccess.reachable path.endpointId := by
  unfold reachableWrites
  rw [mem_reachableWrites]
  exact and_iff_left (announces_of_bridgedAnew hid)

theorem exists_node_of_bridges {ev : Event P} {id : ℕ} (hid : bridges env s ev id = true) :
    ∃ e, ev = .node e ∧ e ≠ .restart := by
  cases ev with
  | node e =>
    refine ⟨e, rfl, ?_⟩
    rintro rfl
    rw [bridges_restart] at hid
    cases hid
  | reported | response | read | write | invoke | invokeGroup | tick => cases hid

/-- Forgetting the ids makes no difference if and only if they are unused. -/
theorem stepCleared_eq_iff (ev : Event P) :
    stepCleared env s ev = step env s ev ↔ UnusedIds env s ev := by
  by_cases hnone : ∀ id, bridges env s ev id = false
  · have hclear : clear AttrPath.endpointId (bridges env s ev) s.cache = s.cache := by
      apply clear_eq_self
      intro path hpath
      rw [hnone] at hpath
      cases hpath
    constructor
    · intro _ path hpath
      rw [hnone] at hpath
      cases hpath
    · intro _
      rw [stepCleared, hclear]
  · obtain ⟨id, hid⟩ := not_forall.mp hnone
    obtain ⟨e, rfl, hrestart⟩ := exists_node_of_bridges (Bool.eq_true_of_not_eq_false hid)
    have hcache : stepCleared env s (.node e) = step env s (.node e) ↔
        writeAll (clear AttrPath.endpointId (bridges env s (.node e)) s.cache)
            (reachableWrites env s e) =
          writeAll s.cache (reachableWrites env s e) := by
      rw [stepCleared, step_node hrestart, step_node hrestart]
      constructor
      · exact fun h => congrArg BridgeState.cache h
      · intro h
        exact congrArg (fun c => { s with
          monitor := NodeStateMonitor.step env.monitor s.monitor e, cache := c }) h
    rw [hcache, writeAll_clear_eq_iff]
    constructor
    · exact fun h path hpath hne =>
        h path hpath fun hmem => hne ((mem_reachableWrites_of_bridges hpath).mp hmem)
    · exact fun h path hpath hmem =>
        h path hpath fun heq => hmem ((mem_reachableWrites_of_bridges hpath).mpr heq)

end Cleared

section TwoRuns

/-- The events differ at most in what a message reports. -/
inductive SameButValues : Event P → Event P → Prop
  | same (ev : Event P) : SameButValues ev ev
  | reported (translator : AttributeTranslator) (topic : String) (message message' : Message) :
    SameButValues (.reported translator topic message) (.reported translator topic message')

structure SameButCache (s t : BridgeState Table Content) : Prop where
  monitor : s.monitor = t.monitor
  pending : s.pending = t.pending
  now : s.now = t.now

/-- The states differ at most in what is cached for other ids. -/
structure SameFor (id : ℕ) (s t : BridgeState Table Content) : Prop extends SameButCache s t where
  cache : SameEndpoint id s.cache t.cache

variable {env : BridgeEnv Table Content P} {s t : BridgeState Table Content} {id : ℕ}

theorem SameButCache.set_cache (h : SameButCache s t) (c c' : AttributeCache) :
    SameButCache { s with cache := c } { t with cache := c' } :=
  ⟨h.monitor, h.pending, h.now⟩

/-- No step lets the cache have an effect on the rest of the state. -/
theorem SameButCache.step (h : SameButCache s t) {e e' : Event P} (he : SameButValues e e') :
    SameButCache (step env s e) (step env t e') := by
  obtain ⟨monitor, cache, pending, now⟩ := s
  obtain ⟨monitor', cache', pending', now'⟩ := t
  obtain ⟨rfl, rfl, rfl⟩ := h
  cases he with
  | reported => exact ⟨rfl, rfl, rfl⟩
  | same =>
    cases e with
    | node ev => cases ev <;> exact ⟨rfl, rfl, rfl⟩
    | invoke h hh inv getUnifyGroup => exact ⟨rfl, pending_invokeCommand hh cache cache', rfl⟩
    | reported | response | read | write | invokeGroup | tick => exact ⟨rfl, rfl, rfl⟩

/-- Nor what is cached for another id, on what is cached for this one. -/
theorem SameFor.step (h : SameFor id s t) (e : Event P) : SameFor id (step env s e) (step env t e) := by
  refine ⟨h.toSameButCache.step (SameButValues.same e), ?_⟩
  obtain ⟨monitor, cache, pending, now⟩ := s
  obtain ⟨monitor', cache', pending', now'⟩ := t
  obtain ⟨⟨rfl, rfl, rfl⟩, hcache⟩ := h
  cases e with
  | node ev =>
    cases ev with
    | restart => exact AgreeOn.refl _
    | nodeAdded | nodeRemoved | nodeStateChanged =>
      rw [step_node (by simp), step_node (by simp)]
      exact hcache.writeAll
  | reported translator topic message =>
    cases translator with
    | generated a => exact onMqttMessageCb_same (localUpdate_reportedUpdated a _) topic message hcache
    | basicInformation => exact onMqttMessageCb_same localUpdate_basic topic message hcache
  | invoke h hh inv getUnifyGroup =>
    by_cases hid : inv.endpointId = id
    · subst hid
      exact (invokeCommand_same hcache).2
    · exact (invokeCommand_frame hid).trans (hcache.trans (invokeCommand_frame hid).symm)
  | response | read | write | invokeGroup | tick => exact hcache

/-- A request for an id depends on what is cached for it only. -/
theorem SameFor.observe (h : SameFor id s t) {request : Event P}
    (hrequest : request.endpoint = some id) : observe env s request = observe env t request := by
  obtain ⟨monitor, cache, pending, now⟩ := s
  obtain ⟨monitor', cache', pending', now'⟩ := t
  obtain ⟨⟨rfl, rfl, rfl⟩, hcache⟩ := h
  cases request with
  | read translator path =>
    cases hrequest
    cases translator with
    | generated a => exact congrArg Observation.read (read_same hcache)
    | basicInformation => exact congrArg Observation.read (read_basic_same hcache)
  | write a path decoder =>
    cases hrequest
    exact congrArg Observation.write (write_same hcache)
  | invoke h hh inv getUnifyGroup =>
    cases hrequest
    obtain ⟨hanswer, -⟩ := invokeCommand_same hcache
    exact congrArg₂ Observation.command hanswer.effects hanswer.exception
  | invokeGroup inv p t =>
    cases hrequest
    exact congrArg Observation.group (groupCommand_same hcache)
  | node | reported | response | tick => cases hrequest

theorem bridges_congr (h : SameButCache s t) {e e' : Event P} (he : SameButValues e e') :
    bridges env s e = bridges env t e' := by
  cases he with
  | reported => rfl
  | same =>
    cases e with
    | node ev =>
      funext id
      simp only [bridges, h.monitor]
    | reported | response | read | write | invoke | invokeGroup | tick => rfl

theorem SameButCache.stepCleared (h : SameButCache s t) {e e' : Event P} (he : SameButValues e e') :
    SameButCache (stepCleared env s e) (stepCleared env t e') :=
  (h.set_cache _ _).step he

theorem SameFor.stepCleared (h : SameFor id s t) (e : Event P) :
    SameFor id (stepCleared env s e) (stepCleared env t e) := by
  unfold Bridge.stepCleared
  rw [bridges_congr h.toSameButCache (SameButValues.same e)]
  exact SameFor.step ⟨h.set_cache _ _, h.cache.clear⟩ e

/-- Once the id is forgotten, nothing that was cached for it is left. -/
theorem SameButCache.sameFor_stepCleared (h : SameButCache s t) {e : Event P}
    (hid : bridges env s e id = true) :
    SameFor id (Bridge.stepCleared env s e) (Bridge.stepCleared env t e) := by
  unfold Bridge.stepCleared
  rw [← bridges_congr h (SameButValues.same e)]
  exact SameFor.step ⟨h.set_cache _ _, agreeOn_clear hid _ _⟩ e

/-- Two runs of the bridge that forgets, alike but for values reported before an endpoint is bridged
on the id. -/
theorem SameButCache.sameFor_run (h : SameButCache s t) {before before' after : List (Event P)}
    {e : Event P} (hbefore : List.Forall₂ SameButValues before before')
    (hid : bridges env (EventSystem.run (Bridge.stepCleared env) s before) e id = true) :
    SameFor id (EventSystem.run (Bridge.stepCleared env) s (before ++ e :: after))
      (EventSystem.run (Bridge.stepCleared env) t (before' ++ e :: after)) := by
  have hsame : SameButCache (EventSystem.run (Bridge.stepCleared env) s before)
      (EventSystem.run (Bridge.stepCleared env) t before') :=
    EventSystem.simulation_run (fun _ _ _ _ h he => h.stepCleared he) h hbefore
  rw [EventSystem.run_append, EventSystem.run_append, EventSystem.run_cons, EventSystem.run_cons]
  apply EventSystem.simulation_run (E := Eq) _ (hsame.sameFor_stepCleared hid)
  · exact List.forall₂_refl after
  · rintro s t e e' h rfl
    exact h.stepCleared e

end TwoRuns

section Runs

variable (env : BridgeEnv Table Content P) (s : BridgeState Table Content)

/-- What is read, answered and published is as if every id had been forgotten before an endpoint was
bridged on it. -/
def UsesOwnValues (evs : List (Event P)) : Prop :=
  EventSystem.trace (step env) (observe env) s evs =
    EventSystem.trace (stepCleared env) (observe env) s evs

/-- If the runs differ only in values reported before an endpoint was bridged on an id, requests for
the id are answered alike after them. -/
def AnswersAlike (evs evs' : List (Event P)) : Prop :=
  ∀ before before' ev after id, evs = before ++ ev :: after → evs' = before' ++ ev :: after →
    List.Forall₂ SameButValues before before' →
    bridges env (EventSystem.run (step env) s before) ev id = true →
    ∀ request : Event P, request.endpoint = some id →
      observe env (EventSystem.run (step env) s evs) request =
        observe env (EventSystem.run (step env) s evs') request

/-- Over every run in which only unused ids are bridged, values reported before an endpoint was
bridged on its id have no effect. -/
theorem nonInterference_run (evs evs' : List (Event P))
    (hc : EventSystem.Guarded (step env) (UnusedIds env) s evs)
    (hc' : EventSystem.Guarded (step env) (UnusedIds env) s evs') :
    UsesOwnValues env s evs ∧ AnswersAlike env s evs evs' := by
  have hstep : ∀ (s : BridgeState Table Content) (ev : Event P), UnusedIds env s ev →
      step env s ev = stepCleared env s ev :=
    fun s ev h => ((stepCleared_eq_iff ev).mpr h).symm
  refine ⟨EventSystem.trace_eq_of_guarded hstep hc, ?_⟩
  rintro before before' ev after id rfl rfl hbefore hid request hrequest
  have hcleared := EventSystem.run_eq_of_guarded hstep (EventSystem.guarded_append.mp hc).1
  rw [hcleared] at hid
  rw [EventSystem.run_eq_of_guarded hstep hc, EventSystem.run_eq_of_guarded hstep hc']
  have hrefl : SameButCache s s := ⟨rfl, rfl, rfl⟩
  exact (hrefl.sameFor_run hbefore hid).observe hrequest

end Runs

section Example

def homeEnv : BridgeEnv (SlotTable (EndpointContext (List (String × Cluster))))
    (List (String × Cluster)) (List (ℕ × ℕ × ℕ)) where
  monitor := lightEnv
  dataModel := homeModel
  emberAfFindServerCluster _ _ _ := false
  groups := GroupClusterCommandHandler.tableStack

def homeStart : BridgeState (SlotTable (EndpointContext (List (String × Cluster))))
    (List (String × Cluster)) :=
  start homeEnv (KeyValueStore.empty fun _ => false) 0

def lightReport (on : Bool) : Event (List (ℕ × ℕ × ℕ)) :=
  .reported (.generated ⟨0x0006, "OnOff"⟩) (reportedTopic "A" 1 "OnOff" "OnOff")
    (.text (.ok (.object [("value", .boolean on)])))

def lightRead (endpointId : ℕ) : Event (List (ℕ × ℕ × ℕ)) :=
  .read (.generated ⟨0x0006, "OnOff"⟩) ⟨endpointId, 0x0006, 0x0000⟩

def lightComesAndGoes (on : Bool) : List (Event (List (ℕ × ℕ × ℕ))) :=
  [.node (.nodeAdded (lightNode "A")), lightReport on, .node (.nodeRemoved "A")]

private theorem guarded_lightComesAndGoes (on : Bool) :
    EventSystem.Guarded (step homeEnv) (UnusedIds homeEnv) homeStart
      (lightComesAndGoes on ++ [.node (.nodeAdded (lightNode "B"))]) := by
  refine ⟨fun _ _ _ => rfl, ?_, ?_, ?_, trivial⟩
  · intro path hpath
    cases hpath
  · intro path hpath
    cases hpath
  · intro path hpath _
    -- Node `B` gets an id of its own, and what `A` has left belongs to another one.
    have hcache : (EventSystem.run (step homeEnv) homeStart (lightComesAndGoes on)).cache =
        (AttributeCache.empty.set (BridgedDeviceBasicInfoAttributeAccess.reachable 2)
          (.bool true)).set ⟨2, 0x0006, 0x0000⟩ (.bool on) := rfl
    have hid : path.endpointId ≠ 2 := by
      intro hid
      rw [hid] at hpath
      cases on with
      | false => exact absurd hpath (by decide)
      | true => exact absurd hpath (by decide)
    have hreachable : path ≠ BridgedDeviceBasicInfoAttributeAccess.reachable 2 :=
      fun heq => hid (congrArg AttrPath.endpointId heq)
    have hlight : path ≠ ⟨2, 0x0006, 0x0000⟩ := fun heq => hid (congrArg AttrPath.endpointId heq)
    have happly := congrFun hcache path
    rw [AttributeCache.set_apply, if_neg hlight, AttributeCache.set_apply, if_neg hreachable]
      at happly
    exact happly

/-- A light that is bridged after another one has gone does not answer for it. -/
theorem nonInterference_run_of_new_id :
    UsesOwnValues homeEnv homeStart
        (lightComesAndGoes true ++ [.node (.nodeAdded (lightNode "B"))]) ∧
      AnswersAlike homeEnv homeStart
        (lightComesAndGoes true ++ [.node (.nodeAdded (lightNode "B"))])
        (lightComesAndGoes false ++ [.node (.nodeAdded (lightNode "B"))]) :=
  nonInterference_run homeEnv homeStart _ _ (guarded_lightComesAndGoes true)
    (guarded_lightComesAndGoes false)

/-- A light whose id is on record comes back after a restart, when another one has had the id. -/
def lightReturns (on : Bool) : List (Event (List (ℕ × ℕ × ℕ))) :=
  [.node (.nodeAdded (lightNode "B")), .node .restart] ++ lightComesAndGoes on ++
    [.node (.nodeAdded (lightNode "B"))]

def Observation.readResult : Observation → Option (Except CxxException ReadResult)
  | .read result => some result
  | _ => Option.none

/-- It answers with what the other one has reported. -/
theorem not_nonInterference_of_returning_light :
    (¬ ∀ evs, UsesOwnValues homeEnv homeStart evs) ∧
      ¬ ∀ evs evs', AnswersAlike homeEnv homeStart evs evs' := by
  constructor
  · intro h
    have htrace := congrArg (List.map Observation.readResult) (h (lightReturns true ++ [lightRead 2]))
    exact absurd htrace (by decide)
  · intro h
    have hanswers := h (lightReturns true) (lightReturns false)
      ([.node (.nodeAdded (lightNode "B")), .node .restart] ++ lightComesAndGoes true)
      ([.node (.nodeAdded (lightNode "B")), .node .restart] ++ lightComesAndGoes false)
      (.node (.nodeAdded (lightNode "B"))) [] 2 rfl rfl
    have hsame : List.Forall₂ SameButValues
        ([.node (.nodeAdded (lightNode "B")), .node .restart] ++ lightComesAndGoes true)
        ([.node (.nodeAdded (lightNode "B")), .node .restart] ++ lightComesAndGoes false) := by
      refine .cons (.same _) (.cons (.same _) (.cons (.same _) (.cons ?_ (.cons (.same _) .nil))))
      exact .reported _ _ _ _
    have hread := congrArg Observation.readResult
      (hanswers hsame (by decide) (lightRead 2) rfl)
    exact absurd hread (by decide)

end Example

end UnifyMatterBridge.Bridge
