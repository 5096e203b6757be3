import UnifyMatterBridge.NodeStateMonitor.Directory
import Mathlib.Data.Set.Insert

/-! What the listeners of the monitor are told, and what one that keeps what it is told knows. -/
namespace UnifyMatterBridge.NodeStateMonitor

variable {Table Content : Type}

section Definitions

/-- What listeners are told: a bridged endpoint, and what has become of it. -/
abbrev Notice (Content : Type) := BridgedEndpoint Content × Update

def Call.notice : Call Content → Option (Notice Content)
  | .listener ep update => some (ep, update)
  | .emberAfClearDynamicEndpoint _ | .emberAfSetDynamicEndpoint _ _ _ _ => none

/-- What the listeners have been told so far. -/
def told (s : MonitorState Table Content) : List (Notice Content) :=
  s.calls.filterMap fun r => Call.notice r.call

def toldBetween (before after : MonitorState Table Content) : List (Notice Content) :=
  (told after).drop (told before).length

abbrev Replica (Content : Type) := String × ℕ → Option (BridgedEndpoint Content)

/-- A listener that keeps what it is told, by address. -/
def hear (r : Replica Content) (n : Notice Content) : Replica Content :=
  match n.2 with
  | .nodeAdded | .nodeStateChanged => Function.update r n.1.address (some n.1)
  | .nodeDeleted => Function.update r n.1.address none

/-- A listener that keeps the addresses of what is added and not deleted. -/
def mark (A : Set (String × ℕ)) (n : Notice Content) : Set (String × ℕ) :=
  match n.2 with
  | .nodeAdded => insert n.1.address A
  | .nodeDeleted => A \ {n.1.address}
  | .nodeStateChanged => A

def addresses (s : MonitorState Table Content) : Set (String × ℕ) :=
  {a | ∃ e ∈ s.bridgedEndpoints, e.address = a}

structure Listened (Table Content : Type) where
  monitor : MonitorState Table Content
  replica : Replica Content

variable (env : MonitorEnv Table Content)

/-- The address is that of an endpoint of the node that can be bridged. -/
def Announced (node : Node) (a : String × ℕ) : Prop :=
  ∃ ep ∈ visited env node, mappedDeviceType env ep.2.clusters ≠ none ∧ a = (node.unid, ep.1.val)

/-- In a process that starts anew the listener is registered anew, too. -/
def listenedStep (l : Listened Table Content) (ev : Event) : Listened Table Content :=
  let monitor := step env l.monitor ev
  match ev with
  | .restart => ⟨monitor, fun _ => none⟩
  | .nodeAdded _ | .nodeRemoved _ | .nodeStateChanged _ =>
    ⟨monitor, (toldBetween l.monitor monitor).foldl hear l.replica⟩

def Informed (l : Listened Table Content) : Prop :=
  ∀ a, l.replica a = bridgedEndpoint l.monitor a.1 a.2

end Definitions

variable {env : MonitorEnv Table Content} {slots : EmberSlots env.ember}
  {s : MonitorState Table Content} {node : Node}

section Told

theorem told_record (c : Call Content) :
    told (record s c) = told s ++ (Call.notice c).toList := by
  unfold told record
  rw [List.filterMap_append]
  cases hc : Call.notice c with
  | none => simp [hc]
  | some n => simp [hc]

theorem told_registerDynamicEndpoint (b : BridgedEndpoint Content) :
    told (registerDynamicEndpoint env s b) = told s := by
  have hclear : ∀ index, told (emberAfClearDynamicEndpoint env s index) = told s :=
    fun index => (told_record _).trans (List.append_nil _)
  have hset : ∀ s' : MonitorState Table Content,
      told (emberAfSetDynamicEndpoint env s' b) = told s' :=
    fun s' => (told_record _).trans (List.append_nil _)
  unfold registerDynamicEndpoint
  dsimp only
  split_ifs
  · rw [hset, hclear]
  · rw [hset]

theorem told_bridgeEndpoint (node : Node) (epId : Fin 256) (ep : Endpoint) (matterType : ℕ) :
    told (bridgeEndpoint env node s epId ep matterType) = told s ++
      [(newEntry env node s epId ep matterType, .nodeAdded),
        (bridgedEntry env node s epId ep matterType, .nodeStateChanged)] := by
  have hregistered : told (registered env node s epId ep matterType) = told s := by
    unfold registered
    rw [told_registerDynamicEndpoint]
    unfold told
    rw [calls_inserted]
  unfold told at hregistered ⊢
  rw [calls_bridgeEndpoint_eq_registered, List.filterMap_append, hregistered]
  rfl

theorem told_foldl_removeEndpoint (l : List (BridgedEndpoint Content)) :
    told (l.foldl (removeEndpoint env) s) = told s ++ l.map fun e => (e, .nodeDeleted) := by
  induction l generalizing s with
  | nil => exact (List.append_nil _).symm
  | cons e l ih =>
    have hfirst : told (removeEndpoint env s e) = told s ++ [(e, .nodeDeleted)] := by
      have hclear : told (emberAfClearDynamicEndpoint env s e.index) = told s :=
        (told_record _).trans (List.append_nil _)
      exact (told_record _).trans (congrArg (· ++ _) hclear)
    rw [List.foldl_cons, ih, hfirst, List.append_assoc]
    rfl

theorem told_onUnifyNodeRemoved (unid : String) :
    told (onUnifyNodeRemoved env s unid) = told s ++
      (Multimap.equalRange (·.unifyUnid) unid s.bridgedEndpoints).map fun e => (e, .nodeDeleted) :=
  told_foldl_removeEndpoint _

theorem told_foldl_changeState (reachable : Bool) (l : List (BridgedEndpoint Content)) :
    told (l.foldl (changeState reachable) s) = told s ++
      l.map fun e => ({ e with reachable := some reachable }, .nodeStateChanged) := by
  induction l generalizing s with
  | nil => exact (List.append_nil _).symm
  | cons e l ih =>
    have hfirst : told (changeState reachable s e) =
        told s ++ [({ e with reachable := some reachable }, .nodeStateChanged)] := told_record _
    rw [List.foldl_cons, ih, hfirst, List.append_assoc]
    rfl

theorem toldBetween_of_append {s' : MonitorState Table Content} {ns : List (Notice Content)}
    (h : told s' = told s ++ ns) : toldBetween s s' = ns := by
  unfold toldBetween
  rw [h, List.drop_left]

def noticesOf (env : MonitorEnv Table Content) (node : Node) (s : MonitorState Table Content)
    (ep : Fin 256 × Endpoint) : List (Notice Content) :=
  match mappedDeviceType env ep.2.clusters with
  | none => []
  | some matterType => [(newEntry env node s ep.1 ep.2 matterType, .nodeAdded),
    (bridgedEntry env node s ep.1 ep.2 matterType, .nodeStateChanged)]

theorem told_addEndpoint (node : Node) (ep : Fin 256 × Endpoint) :
    told (addEndpoint env node s ep) = told s ++ noticesOf env node s ep := by
  unfold addEndpoint noticesOf
  cases mappedDeviceType env ep.2.clusters with
  | none => exact (List.append_nil _).symm
  | some matterType => exact told_bridgeEndpoint node ep.1 ep.2 matterType

end Told

section Replica

/-- The entries by address. -/
def entryAt (s : MonitorState Table Content) : Replica Content :=
  KeyedView.view BridgedEndpoint.address id s.bridgedEndpoints

theorem informed_iff_eq {l : Listened Table Content} : Informed l ↔ l.replica = entryAt l.monitor := by
  have hview : ∀ a, bridgedEndpoint l.monitor a.1 a.2 = entryAt l.monitor a := by
    intro a
    unfold entryAt bridgedEndpoint Multimap.equalRange KeyedView.view
    rw [List.find?_filter, Option.map_id]
    congr 1
    funext e
    simp [BridgedEndpoint.address, Prod.ext_iff]
  unfold Informed
  simp only [hview]
  exact funext_iff.symm

theorem mem_addresses_iff {a : String × ℕ} : a ∈ addresses s ↔ entryAt s a ≠ none := by
  unfold addresses entryAt
  rw [ne_eq, KeyedView.view_eq_none]
  push Not
  exact Iff.rfl

theorem foldl_hear_noticesOf (r : Replica Content) (ep : Fin 256 × Endpoint) :
    (noticesOf env node s ep).foldl hear r =
      KeyedView.put r (node.unid, ep.1.val) ((mappedDeviceType env ep.2.clusters).map fun matterType =>
        bridgedEntry env node s ep.1 ep.2 matterType) := by
  unfold noticesOf
  cases mappedDeviceType env ep.2.clusters with
  | none => rfl
  | some matterType => exact Function.update_idem _ _ _

variable (env slots node) in
theorem exists_told_foldl (eps : List (Fin 256 × Endpoint)) (s : MonitorState Table Content) :
    ∃ ns, told (eps.foldl (addEndpoint env node) s) = told s ++ ns ∧
      (Placed slots s → EventSystem.Guarded (addEndpoint env node) (IdUnshared env node) s eps →
        ns.foldl hear (entryAt s) = entryAt (eps.foldl (addEndpoint env node) s)) ∧
      (∀ r a, ns.foldl hear r a ≠ none ↔ r a ≠ none ∨
        ∃ ep ∈ eps, mappedDeviceType env ep.2.clusters ≠ none ∧ a = (node.unid, ep.1.val)) ∧
      ∀ A a, a ∈ ns.foldl mark A ↔ a ∈ A ∨
        ∃ ep ∈ eps, mappedDeviceType env ep.2.clusters ≠ none ∧ a = (node.unid, ep.1.val) := by
  induction eps generalizing s with
  | nil => exact ⟨[], (List.append_nil _).symm, fun _ _ => rfl, by simp, by simp⟩
  | cons ep eps ih =>
    obtain ⟨ns, hns, hview, hdomain, hmarks⟩ := ih (addEndpoint env node s ep)
    refine ⟨noticesOf env node s ep ++ ns, ?_, ?_, ?_, ?_⟩
    · rw [List.foldl_cons, hns, told_addEndpoint, List.append_assoc]
    · intro hP hids
      have hfirst : (noticesOf env node s ep).foldl hear (entryAt s) =
          entryAt (addEndpoint env node s ep) :=
        (foldl_hear_noticesOf _ ep).trans (view_addEndpoint hP hids.1).symm
      rw [List.foldl_append, hfirst]
      exact hview (hP.addEndpoint node ep) hids.2
    · intro r a
      have hfirst : (noticesOf env node s ep).foldl hear r a ≠ none ↔ r a ≠ none ∨
          mappedDeviceType env ep.2.clusters ≠ none ∧ a = (node.unid, ep.1.val) := by
        rw [foldl_hear_noticesOf]
        by_cases ha : a = (node.unid, ep.1.val)
        · rw [ha, KeyedView.put_self]
          cases mappedDeviceType env ep.2.clusters with
          | none => simp
          | some matterType => simp
        · rw [KeyedView.put_of_ne _ ha]
          simp [ha]
      rw [List.foldl_append, hdomain, hfirst, List.exists_mem_cons_iff, or_assoc]
    · intro A a
      have hfirst : a ∈ (noticesOf env node s ep).foldl mark A ↔ a ∈ A ∨
          mappedDeviceType env ep.2.clusters ≠ none ∧ a = (node.unid, ep.1.val) := by
        unfold noticesOf
        cases mappedDeviceType env ep.2.clusters with
        | none => simp
        | some matterType =>
          have hmark : [(newEntry env node s ep.1 ep.2 matterType, Update.nodeAdded),
              (bridgedEntry env node s ep.1 ep.2 matterType, .nodeStateChanged)].foldl mark A =
                insert (node.unid, ep.1.val) A := rfl
          rw [hmark, Set.mem_insert_iff, or_comm]
          simp
      rw [List.foldl_append, hmarks, hfirst, List.exists_mem_cons_iff, or_assoc]

theorem foldl_hear_deleted (l : List (BridgedEndpoint Content)) (r : Replica Content)
    (a : String × ℕ) :
    (l.map fun e => (e, Update.nodeDeleted)).foldl hear r a =
      if ∃ e ∈ l, e.address = a then none else r a := by
  induction l generalizing r with
  | nil => simp
  | cons e l ih =>
    have hfirst : hear r (e, Update.nodeDeleted) = Function.update r e.address none := rfl
    rw [List.map_cons, List.foldl_cons, ih, hfirst, Function.update_apply]
    by_cases ha : e.address = a
    · simp [ha]
    · have hne : ¬ a = e.address := fun h => ha h.symm
      simp [ha, hne]

theorem foldl_hear_changed {l : List (BridgedEndpoint Content)}
    (hl : l.Pairwise fun e f => e.address ≠ f.address) (reachable : Bool) (r : Replica Content)
    (a : String × ℕ) :
    (l.map fun e => (({ e with reachable := some reachable } : BridgedEndpoint Content),
        Update.nodeStateChanged)).foldl hear r a =
      ((KeyedView.view BridgedEndpoint.address id l a).map fun e =>
        { e with reachable := some reachable }).or (r a) := by
  induction l generalizing r with
  | nil => rfl
  | cons e l ih =>
    obtain ⟨hne, hl⟩ := List.pairwise_cons.mp hl
    have hfirst : hear r (({ e with reachable := some reachable } : BridgedEndpoint Content),
        Update.nodeStateChanged) =
          Function.update r e.address (some { e with reachable := some reachable }) := rfl
    rw [List.map_cons, List.foldl_cons, ih hl, hfirst, Function.update_apply]
    unfold KeyedView.view
    by_cases ha : a = e.address
    · have hnone : (l.find? fun x => x.address = a) = none := by
        rw [List.find?_eq_none]
        intro x hx
        simpa [ha] using Ne.symm (hne x hx)
      rw [hnone, List.find?_cons_of_pos (by simpa using ha.symm), if_pos ha]
      rfl
    · rw [List.find?_cons_of_neg (by simpa using Ne.symm ha), if_neg ha]

end Replica

section Steps

/-- Nothing but the announced endpoints of a node comes to be bridged, and nothing gets lost, if and
only if ids are unshared. -/
theorem addresses_onUnifyNodeAdded_iff (hP : Placed slots s) :
    (∀ a, a ∈ addresses (onUnifyNodeAdded env s node) ↔
        a ∈ addresses s ∨ Announced env node a) ↔
      EventSystem.Guarded (addEndpoint env node) (IdUnshared env node) s (visited env node) := by
  constructor
  · intro h
    apply unshared_of_kept hP
    · exact fun e he => (h e.address).mpr (Or.inl ⟨e, he, rfl⟩)
    · exact fun ep hep hmapped => (h _).mpr (Or.inr ⟨ep, hep, hmapped, rfl⟩)
  · intro hids a
    obtain ⟨ns, -, hview, hdomain, -⟩ :=
      exists_told_foldl env slots node (visited env node) s
    rw [mem_addresses_iff, mem_addresses_iff, onUnifyNodeAdded, ← hview hP hids]
    exact hdomain _ a

/-- Announcing a node, the listener is informed if and only if ids are unshared. -/
theorem informed_nodeAdded_iff (hP : Placed slots s) :
    (toldBetween s (onUnifyNodeAdded env s node)).foldl hear (entryAt s) =
        entryAt (onUnifyNodeAdded env s node) ↔
      EventSystem.Guarded (addEndpoint env node) (IdUnshared env node) s (visited env node) := by
  obtain ⟨ns, hns, hview, hdomain, -⟩ :=
    exists_told_foldl env slots node (visited env node) s
  have htold : toldBetween s (onUnifyNodeAdded env s node) = ns := toldBetween_of_append hns
  rw [htold]
  constructor
  · intro h
    apply (addresses_onUnifyNodeAdded_iff hP).mp
    intro a
    rw [mem_addresses_iff, mem_addresses_iff, ← h]
    exact hdomain _ a
  · exact hview hP

theorem informed_nodeRemoved (unid : String) :
    (toldBetween s (onUnifyNodeRemoved env s unid)).foldl hear (entryAt s) =
      entryAt (onUnifyNodeRemoved env s unid) := by
  rw [toldBetween_of_append (told_onUnifyNodeRemoved unid)]
  funext a
  have hfilter := @KeyedView.view_filter _ _ _ _ BridgedEndpoint.address
    (id : BridgedEndpoint Content → _) s.bridgedEndpoints a fun a => decide (a.1 ≠ unid)
  have hafter : entryAt (onUnifyNodeRemoved env s unid) a =
      if decide (a.1 ≠ unid) = true then entryAt s a else none := by
    unfold entryAt
    rw [bridgedEndpoints_onUnifyNodeRemoved]
    exact hfilter
  rw [hafter, foldl_hear_deleted]
  by_cases ha : a.1 = unid
  · have hp : decide (a.1 ≠ unid) = false := by simp [ha]
    simp only [hp, Bool.false_eq_true, if_false]
    split_ifs with hexists
    · rfl
    · unfold entryAt
      rw [KeyedView.view_eq_none]
      intro e he haddr
      apply hexists
      exact ⟨e, Multimap.mem_equalRange.mpr ⟨he, (congrArg Prod.fst haddr).trans ha⟩, haddr⟩
  · have hp : decide (a.1 ≠ unid) = true := by simp [ha]
    simp only [hp, if_true]
    rw [if_neg]
    intro hexists
    obtain ⟨e, he, haddr⟩ := hexists
    exact ha ((congrArg Prod.fst haddr).symm.trans (Multimap.mem_equalRange.mp he).2)

theorem Placed.entryAt_onUnifyNodeStateChanged (hP : Placed slots s) (node : Node) (a : String × ℕ) :
    entryAt (onUnifyNodeStateChanged s node) a = (entryAt s a).map fun e =>
      if a.1 = node.unid then { e with reachable := some (node.state == .onlineFunctional) }
        else e := by
  unfold entryAt
  rw [hP.bridgedEndpoints_onUnifyNodeStateChanged node]
  apply KeyedView.view_map (h := fun (a : String × ℕ) (e : BridgedEndpoint Content) =>
    if a.1 = node.unid then { e with reachable := some (node.state == .onlineFunctional) } else e)
  · intro e
    split_ifs
    · rfl
    · rfl
  · exact fun e => rfl

theorem informed_nodeStateChanged (hP : Placed slots s) (node : Node) :
    (toldBetween s (onUnifyNodeStateChanged s node)).foldl hear (entryAt s) =
      entryAt (onUnifyNodeStateChanged s node) := by
  have htold : toldBetween s (onUnifyNodeStateChanged s node) = _ :=
    toldBetween_of_append (told_foldl_changeState _ _)
  have hrange : (Multimap.equalRange (·.unifyUnid) node.unid s.bridgedEndpoints).Pairwise
      fun e f => e.address ≠ f.address := hP.addresses.sublist List.filter_sublist
  rw [htold]
  funext a
  have hfilter := @KeyedView.view_filter _ _ _ _ BridgedEndpoint.address
    (id : BridgedEndpoint Content → _) s.bridgedEndpoints a fun a => decide (a.1 = node.unid)
  rw [hP.entryAt_onUnifyNodeStateChanged, foldl_hear_changed hrange]
  unfold Multimap.equalRange
  refine (congrArg (fun v => (Option.map _ v).or (entryAt s a)) hfilter).trans ?_
  by_cases ha : a.1 = node.unid
  · simp only [ha, decide_true, if_true]
    unfold entryAt
    cases KeyedView.view BridgedEndpoint.address id s.bridgedEndpoints a with
    | none => rfl
    | some e => rfl
  · simp only [ha, decide_false, if_false]
    cases entryAt s a with
    | none => rfl
    | some e => rfl

theorem mem_mark_nodeAdded (slots : EmberSlots env.ember) (A : Set (String × ℕ)) (a : String × ℕ) :
    a ∈ (toldBetween s (onUnifyNodeAdded env s node)).foldl mark A ↔
      a ∈ A ∨ Announced env node a := by
  obtain ⟨ns, hns, -, -, hmarks⟩ :=
    exists_told_foldl env slots node (visited env node) s
  have htold : toldBetween s (onUnifyNodeAdded env s node) = ns := toldBetween_of_append hns
  rw [htold]
  exact hmarks A a

theorem mark_nodeRemoved (unid : String) :
    (toldBetween s (onUnifyNodeRemoved env s unid)).foldl mark (addresses s) =
      addresses (onUnifyNodeRemoved env s unid) := by
  rw [toldBetween_of_append (told_onUnifyNodeRemoved unid)]
  have hmarks : ∀ (l : List (BridgedEndpoint Content)) (A : Set (String × ℕ)) (a : String × ℕ),
      a ∈ (l.map fun e => (e, Update.nodeDeleted)).foldl mark A ↔
        a ∈ A ∧ ∀ e ∈ l, e.address ≠ a := by
    intro l
    induction l with
    | nil => simp
    | cons e l ih =>
      intro A a
      have hfirst : mark A (e, Update.nodeDeleted) = A \ {e.address} := rfl
      rw [List.map_cons, List.foldl_cons, ih, hfirst, List.forall_mem_cons, Set.mem_sdiff,
        Set.mem_singleton_iff, and_assoc, ne_comm]
  ext a
  rw [hmarks]
  unfold addresses
  constructor
  · intro h
    obtain ⟨⟨e, he, haddr⟩, hnone⟩ := h
    refine ⟨e, mem_onUnifyNodeRemoved.mpr ⟨he, fun hunid => ?_⟩, haddr⟩
    exact hnone e (Multimap.mem_equalRange.mpr ⟨he, hunid⟩) haddr
  · intro h
    obtain ⟨e, he, haddr⟩ := h
    obtain ⟨hmem, hunid⟩ := mem_onUnifyNodeRemoved.mp he
    refine ⟨⟨e, hmem, haddr⟩, fun f hf hfaddr => ?_⟩
    have hfunid := (Multimap.mem_equalRange.mp hf).2
    exact hunid ((congrArg Prod.fst (haddr.trans hfaddr.symm)).trans hfunid)

theorem mark_nodeStateChanged (hP : Placed slots s) (node : Node) :
    (toldBetween s (onUnifyNodeStateChanged s node)).foldl mark (addresses s) =
      addresses (onUnifyNodeStateChanged s node) := by
  have htold : toldBetween s (onUnifyNodeStateChanged s node) = _ :=
    toldBetween_of_append (told_foldl_changeState _ _)
  have hmarks : ∀ (r : Bool) (l : List (BridgedEndpoint Content)) (A : Set (String × ℕ)),
      (l.map fun e => (({ e with reachable := some r } : BridgedEndpoint Content),
        Update.nodeStateChanged)).foldl mark A = A := by
    intro r l
    induction l with
    | nil => exact fun A => rfl
    | cons e l ih => exact fun A => ih A
  rw [htold, hmarks]
  ext a
  rw [mem_addresses_iff, mem_addresses_iff, hP.entryAt_onUnifyNodeStateChanged, ne_eq, ne_eq,
    Option.map_eq_none_iff]

/-- One event: an informed listener stays so exactly on the condition. -/
theorem informed_step_iff {l : Listened Table Content} (hP : Placed slots l.monitor)
    (hinformed : Informed l) (ev : Event) :
    Informed (listenedStep env l ev) ↔ DirectoryCondition env l.monitor ev := by
  rw [informed_iff_eq] at hinformed ⊢
  cases ev with
  | nodeAdded node =>
    have hnode := @informed_nodeAdded_iff _ _ _ _ _ node hP
    rw [← hinformed] at hnode
    exact hnode
  | nodeRemoved unid =>
    have hnode := @informed_nodeRemoved _ _ env l.monitor unid
    rw [← hinformed] at hnode
    exact iff_of_true hnode trivial
  | nodeStateChanged node =>
    have hnode := informed_nodeStateChanged hP node
    rw [← hinformed] at hnode
    exact iff_of_true hnode trivial
  | restart => exact iff_of_true rfl trivial

end Steps

/-- A listener that keeps what it is told knows what is bridged after every event of a run, if and only
if no endpoint ever gets the id of another one of its node. -/
theorem informed_run_iff (env : MonitorEnv Table Content) (slots : EmberSlots env.ember)
    (evs : List Event) :
    (∀ before after, evs = before ++ after → Informed (EventSystem.run (listenedStep env)
        ⟨start env (KeyValueStore.empty fun _ => false), fun _ => none⟩ before)) ↔
      EventSystem.Guarded (step env) (DirectoryCondition env)
        (start env (KeyValueStore.empty fun _ => false)) evs := by
  have hmonitor : ∀ (l : Listened Table Content) ev,
      (listenedStep env l ev).monitor = step env l.monitor ev := by
    intro l ev
    cases ev <;> rfl
  rw [← EventSystem.guarded_map hmonitor (s := ⟨start env (KeyValueStore.empty fun _ => false),
    fun _ => none⟩)]
  apply EventSystem.forall_run_iff_guarded (I := fun l => Placed slots l.monitor)
  · intro l ev hP
    rw [hmonitor]
    exact hP.step ev
  · exact fun l ev hP hinformed => informed_step_iff hP hinformed ev
  · exact placed_run env slots []
  · exact informed_iff_eq.mpr rfl

end UnifyMatterBridge.NodeStateMonitor
