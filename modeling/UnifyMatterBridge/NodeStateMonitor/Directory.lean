import UnifyMatterBridge.NodeStateMonitor.Idempotence
import UnifyMatterBridge.Lib.KeyedView

/-! The directory of bridged endpoints: what Unify tells of its nodes determines what is bridged for
each Unify address, as long as no endpoint gets the id of another one of its node. -/
namespace UnifyMatterBridge

/-- What is bridged for a Unify address, but for the id and the allocation. -/
@[ext] structure Listing (Content : Type) where
  matterType : ℕ
  content : Content
  reachable : Option Bool

abbrev Directory (Content : Type) := String × ℕ → Option (Listing Content)

def BridgedEndpoint.listing {Content : Type} (e : BridgedEndpoint Content) : Listing Content :=
  ⟨e.matterType, e.emberEndpoint.content, e.reachable⟩

namespace NodeStateMonitor

variable {Table Content : Type}

section Definitions

variable (env : MonitorEnv Table Content)

/-- What `bridged_endpoint` finds for each address. -/
def directory (s : MonitorState Table Content) : Directory Content :=
  fun a => (bridgedEndpoint s a.1 a.2).map BridgedEndpoint.listing

/-- What an endpoint of a node is to be bridged as. -/
def listingOf (node : Node) (ep : Fin 256 × Endpoint) : Option (Listing Content) :=
  (mappedDeviceType env ep.2.clusters).map fun matterType =>
    ⟨matterType, env.buildMatterCluster ep.2.clusters, some (node.state == .onlineFunctional)⟩

/-- The last announcement of an address counts, until the node is removed; an endpoint that is not
announced again, or cannot be mapped any more, is still listed, and one behind an endpoint on which the
call ends is not. -/
def directoryStep (d : Directory Content) : Event → Directory Content
  | .nodeAdded node => fun a =>
    if a.1 = node.unid then
      (((visited env node).find? fun ep => ep.1.val = a.2).bind (listingOf env node)).or (d a)
    else d a
  | .nodeRemoved unid => fun a => if a.1 = unid then none else d a
  | .nodeStateChanged node => fun a =>
    if a.1 = node.unid then
      (d a).map fun l => { l with reachable := some (node.state == .onlineFunctional) }
    else d a
  | .restart => fun _ => none

/-- No other endpoint of the node is bridged on the id that the endpoint gets. -/
def IdUnshared (node : Node) (s : MonitorState Table Content) (ep : Fin 256 × Endpoint) : Prop :=
  mappedDeviceType env ep.2.clusters ≠ none → ∀ e ∈ s.bridgedEndpoints, e.unifyUnid = node.unid →
    e.matterEndpoint = (assignMatterEndpoint env s node.unid ep.1).1 → e.unifyEndpoint = ep.1

def DirectoryCondition (s : MonitorState Table Content) : Event → Prop
  | .nodeAdded node =>
    EventSystem.Guarded (addEndpoint env node) (IdUnshared env node) s (visited env node)
  | .nodeRemoved _ | .nodeStateChanged _ | .restart => True

/-- After every event of a run what is bridged is what Unify has told. -/
def FollowsDirectory (evs : List Event) : Prop :=
  ∀ before after, evs = before ++ after →
    directory (EventSystem.run (step env) (start env (KeyValueStore.empty fun _ => false)) before) =
      EventSystem.run (directoryStep env) (fun _ => none) before

end Definitions

variable {env : MonitorEnv Table Content} {slots : EmberSlots env.ember}
  {s : MonitorState Table Content} {node : Node}

theorem directory_eq_view (s : MonitorState Table Content) :
    directory s = KeyedView.view BridgedEndpoint.address BridgedEndpoint.listing
      s.bridgedEndpoints := by
  funext a
  unfold directory bridgedEndpoint Multimap.equalRange KeyedView.view
  rw [List.find?_filter]
  congr 2
  funext e
  simp [BridgedEndpoint.address, Prod.ext_iff]

theorem Placed.directory_eq_some (hP : Placed slots s) {a : String × ℕ} {l : Listing Content} :
    directory s a = some l ↔ ∃ e ∈ s.bridgedEndpoints, e.address = a ∧ e.listing = l := by
  rw [directory_eq_view]
  exact KeyedView.view_eq_some hP.addresses

theorem Placed.eq_of_id (hP : Placed slots s) {e f : BridgedEndpoint Content}
    (he : e ∈ s.bridgedEndpoints) (hf : f ∈ s.bridgedEndpoints) (hunid : e.unifyUnid = f.unifyUnid)
    (hid : e.matterEndpoint = f.matterEndpoint) : e = f := by
  have hn : (s.bridgedEndpoints.map fun e => (e.unifyUnid, e.matterEndpoint)).Nodup := by
    apply List.pairwise_map.mpr
    exact hP.ids.imp fun h heq => h (congrArg Prod.fst heq) (congrArg Prod.snd heq)
  exact List.inj_on_of_nodup_map hn he hf (Prod.ext hunid hid)

theorem exists_of_directory {a : String × ℕ} (h : directory s a ≠ none) :
    ∃ e ∈ s.bridgedEndpoints, e.address = a := by
  rw [directory_eq_view, ne_eq, KeyedView.view_eq_none] at h
  push Not at h
  exact h

theorem Placed.directory_ne_none (hP : Placed slots s) {e : BridgedEndpoint Content}
    (he : e ∈ s.bridgedEndpoints) : directory s e.address ≠ none := by
  rw [hP.directory_eq_some.mpr ⟨e, he, rfl, rfl⟩]
  simp

section Announce

/-- Bridging an endpoint replaces the entry of its address, if its id is unshared. -/
theorem mem_bridgeEndpoint_of_unshared (hP : Placed slots s) {ep : Fin 256 × Endpoint} {matterType : ℕ}
    (hmapped : mappedDeviceType env ep.2.clusters = some matterType)
    (hid : IdUnshared env node s ep) (e : BridgedEndpoint Content) :
    e ∈ (bridgeEndpoint env node s ep.1 ep.2 matterType).bridgedEndpoints ↔
      e = bridgedEntry env node s ep.1 ep.2 matterType ∨
        e ∈ s.bridgedEndpoints ∧ e.address ≠ (node.unid, ep.1.val) := by
  rw [bridgedEndpoints_bridgeEndpoint, Multimap.mem_insert, mem_eraseMapperEndpoint hP.ids]
  apply or_congr_right
  apply and_congr_right
  intro he
  apply not_congr
  constructor
  · intro h
    have hep : e.unifyEndpoint = ep.1 := hid (by simp [hmapped]) e he h.1 h.2
    exact Prod.ext h.1 (congrArg Fin.val hep)
  · intro haddr
    have hassigned := @assignMatterEndpoint_of_recorded _ _ env s _ _ (haddr ▸ hP.recorded e he)
    exact ⟨congrArg Prod.fst haddr, (congrArg Prod.fst hassigned).symm⟩

theorem view_addEndpoint {ν : Type} {f : BridgedEndpoint Content → ν} (hP : Placed slots s)
    {ep : Fin 256 × Endpoint} (hid : IdUnshared env node s ep) :
    KeyedView.view BridgedEndpoint.address f (addEndpoint env node s ep).bridgedEndpoints =
      KeyedView.put (KeyedView.view BridgedEndpoint.address f s.bridgedEndpoints)
        (node.unid, ep.1.val) ((mappedDeviceType env ep.2.clusters).map fun matterType =>
          f (bridgedEntry env node s ep.1 ep.2 matterType)) := by
  cases hmapped : mappedDeviceType env ep.2.clusters with
  | none =>
    simp only [addEndpoint, hmapped, Option.map_none]
    rfl
  | some matterType =>
    have hadd : addEndpoint env node s ep = bridgeEndpoint env node s ep.1 ep.2 matterType := by
      simp only [addEndpoint, hmapped]
    have hP' : Placed slots (bridgeEndpoint env node s ep.1 ep.2 matterType) := hP.bridgeEndpoint
    rw [hadd, Option.map_some]
    exact KeyedView.view_replace hP.addresses hP'.addresses
      (mem_bridgeEndpoint_of_unshared hP hmapped hid)

theorem directory_addEndpoint (hP : Placed slots s) {ep : Fin 256 × Endpoint}
    (hid : IdUnshared env node s ep) :
    directory (addEndpoint env node s ep) =
      KeyedView.put (directory s) (node.unid, ep.1.val) (listingOf env node ep) := by
  rw [directory_eq_view, directory_eq_view, view_addEndpoint hP hid]
  rfl

theorem directory_foldl (hP : Placed slots s) {eps : List (Fin 256 × Endpoint)}
    (hids : EventSystem.Guarded (addEndpoint env node) (IdUnshared env node) s eps) :
    directory (eps.foldl (addEndpoint env node) s) =
      eps.foldl (fun d ep => KeyedView.put d (node.unid, ep.1.val) (listingOf env node ep))
        (directory s) := by
  induction eps generalizing s with
  | nil => rfl
  | cons ep eps ih =>
    rw [List.foldl_cons, List.foldl_cons, ih (hP.addEndpoint node ep) hids.2,
      directory_addEndpoint hP hids.1]

/-- A node whose endpoints all keep out of each other's ids is bridged as announced. -/
theorem directory_onUnifyNodeAdded (hP : Placed slots s)
    (hids : EventSystem.Guarded (addEndpoint env node) (IdUnshared env node) s (visited env node)) :
    directory (onUnifyNodeAdded env s node) = directoryStep env (directory s) (.nodeAdded node) := by
  have hkeys : ((visited env node).map fun ep => (node.unid, ep.1.val)).Nodup := by
    have hmap : ((visited env node).map fun ep => (node.unid, ep.1.val)) =
        ((visited env node).map Prod.fst).map fun epId => (node.unid, epId.val) := by
      rw [List.map_map]
      rfl
    rw [hmap]
    exact (nodup_visited env node).map fun _ _ h => Fin.ext (congrArg Prod.snd h)
  have hloop := directory_foldl hP hids
  funext a
  rw [onUnifyNodeAdded, hloop, KeyedView.foldl_put hkeys]
  unfold directoryStep
  dsimp only
  split_ifs with ha
  · congr 3
    funext ep
    simp [Prod.ext_iff, ha]
  · have hnone : ((visited env node).find? fun ep => decide ((node.unid, ep.1.val) = a)) = none := by
      rw [List.find?_eq_none]
      intro ep _ heq
      exact ha (congrArg Prod.fst (of_decide_eq_true heq)).symm
    rw [hnone]
    rfl

theorem address_foldl_addEndpoint {eps : List (Fin 256 × Endpoint)} {e : BridgedEndpoint Content}
    (he : e ∈ (eps.foldl (addEndpoint env node) s).bridgedEndpoints) :
    (∃ x ∈ s.bridgedEndpoints, x.address = e.address) ∨
      ∃ ep ∈ eps, mappedDeviceType env ep.2.clusters ≠ none ∧ e.address = (node.unid, ep.1.val) := by
  induction eps generalizing s with
  | nil => exact Or.inl ⟨e, he, rfl⟩
  | cons ep eps ih =>
    rcases ih he with ⟨x, hx, haddr⟩ | ⟨ep', hep', hmapped⟩
    · cases hm : mappedDeviceType env ep.2.clusters with
      | none =>
        simp only [addEndpoint, hm] at hx
        exact Or.inl ⟨x, hx, haddr⟩
      | some matterType =>
        simp only [addEndpoint, hm, bridgedEndpoints_bridgeEndpoint, Multimap.mem_insert] at hx
        rcases hx with rfl | hx
        · exact Or.inr ⟨ep, List.mem_cons_self, by simp [hm], haddr.symm⟩
        · exact Or.inl ⟨x, List.mem_of_mem_eraseP hx, haddr⟩
    · exact Or.inr ⟨ep', List.mem_cons_of_mem _ hep', hmapped⟩

theorem listed_of_mapped {d : Directory Content} {ep : Fin 256 × Endpoint} (hep : ep ∈ visited env node)
    (hmapped : mappedDeviceType env ep.2.clusters ≠ none) :
    directoryStep env d (.nodeAdded node) (node.unid, ep.1.val) ≠ none := by
  have hfind : ((visited env node).find? fun x => decide (x.1.val = ep.1.val)) = some ep := by
    apply Multimap.find?_eq_of_unique hep (by simp)
    intro x hx hid
    have hval : x.1.val = ep.1.val := of_decide_eq_true hid
    exact List.inj_on_of_nodup_map (nodup_visited env node) hx hep (Fin.ext hval)
  obtain ⟨matterType, hm⟩ := Option.ne_none_iff_exists'.mp hmapped
  unfold directoryStep
  simp [hfind, listingOf, hm]

theorem listed_of_listed {d : Directory Content} {a : String × ℕ} (ha : d a ≠ none) :
    directoryStep env d (.nodeAdded node) a ≠ none := by
  unfold directoryStep
  dsimp only
  split_ifs
  · rw [ne_eq, Option.or_eq_none_iff]
    exact fun h => ha h.2
  · exact ha

/-- Two endpoints of the node that have got the same id are not both bridged in the end: if every
endpoint that is bridged stays so, ids are unshared. -/
theorem unshared_of_kept (hP : Placed slots s)
    (hkept : ∀ e ∈ s.bridgedEndpoints, ∃ f ∈ (onUnifyNodeAdded env s node).bridgedEndpoints,
      f.address = e.address)
    (hbridged : ∀ ep ∈ visited env node, mappedDeviceType env ep.2.clusters ≠ none →
      ∃ f ∈ (onUnifyNodeAdded env s node).bridgedEndpoints, f.address = (node.unid, ep.1.val)) :
    EventSystem.Guarded (addEndpoint env node) (IdUnshared env node) s (visited env node) := by
  rw [EventSystem.guarded_iff_forall]
  intro before ep after hsplit hmapped e he hunid hid
  by_contra hne
  let t := EventSystem.run (addEndpoint env node) s before
  have hPt : Placed slots t :=
    EventSystem.invariant_run' (fun _ ep h => h.addEndpoint node ep) hP before
  have hend : onUnifyNodeAdded env s node =
      after.foldl (addEndpoint env node) (addEndpoint env node t ep) := by
    rw [onUnifyNodeAdded, hsplit, List.foldl_append]
    rfl
  have hPend : Placed slots (onUnifyNodeAdded env s node) := hP.step (.nodeAdded node)
  -- both addresses have the id on record at the end
  have hfirst : recordedId (onUnifyNodeAdded env s node).kvs e.address = some e.matterEndpoint := by
    rw [hend]
    exact recordedId_foldl_of_some (recordedId_addEndpoint_of_some (hPt.recorded e he) ep) after
  have hsecond : recordedId (onUnifyNodeAdded env s node).kvs (node.unid, ep.1.val) =
      some e.matterEndpoint := by
    rw [hend, hid]
    exact recordedId_foldl_of_some (hPt.recordedId_addEndpoint hmapped) after
  -- and both are bridged
  have hlisted : ∃ f ∈ (onUnifyNodeAdded env s node).bridgedEndpoints, f.address = e.address := by
    rcases address_foldl_addEndpoint he with ⟨x, hx, haddr⟩ | ⟨ep', hep', hmapped', haddr⟩
    · exact haddr ▸ hkept x hx
    · rw [haddr]
      exact hbridged ep' (hsplit ▸ List.mem_append_left _ hep') hmapped'
  obtain ⟨x, hx, hxaddr⟩ := hlisted
  obtain ⟨y, hy, hyaddr⟩ := hbridged ep (by simp [hsplit]) hmapped
  have hxid := (hPend.recorded x hx).symm.trans (hxaddr ▸ hfirst)
  have hyid := (hPend.recorded y hy).symm.trans (hyaddr ▸ hsecond)
  have hxunid : x.unifyUnid = node.unid := (congrArg Prod.fst hxaddr).trans hunid
  have hyunid : y.unifyUnid = node.unid := congrArg Prod.fst hyaddr
  have hxy : x = y := by
    apply hPend.eq_of_id hx hy (hxunid.trans hyunid.symm)
    exact (Option.some.inj hxid).trans (Option.some.inj hyid).symm
  rw [hxy, hyaddr] at hxaddr
  exact hne (Fin.ext (congrArg Prod.snd hxaddr).symm)

theorem unshared_of_directory (hP : Placed slots s)
    (h : directory (onUnifyNodeAdded env s node) = directoryStep env (directory s) (.nodeAdded node)) :
    EventSystem.Guarded (addEndpoint env node) (IdUnshared env node) s (visited env node) := by
  apply unshared_of_kept hP
  · intro e he
    apply exists_of_directory
    rw [h]
    exact listed_of_listed (hP.directory_ne_none he)
  · intro ep hep hmapped
    apply exists_of_directory
    rw [h]
    exact listed_of_mapped hep hmapped

end Announce

section Others

theorem bridgedEndpoints_foldl_changeState (r : Bool) (l : List (BridgedEndpoint Content)) :
    (l.foldl (changeState r) s).bridgedEndpoints = s.bridgedEndpoints.map fun e =>
      if e.emberEndpoint.allocation ∈ l.map fun x => x.emberEndpoint.allocation
        then { e with reachable := some r } else e := by
  induction l generalizing s with
  | nil => simp
  | cons x l ih =>
    rw [List.foldl_cons, ih]
    unfold changeState invokeListeners record assignReachable
    rw [List.map_map]
    apply List.map_congr_left
    intro e _
    by_cases hx : e.emberEndpoint.allocation = x.emberEndpoint.allocation
    · simp [hx]
    · simp [hx]

theorem Placed.bridgedEndpoints_onUnifyNodeStateChanged (hP : Placed slots s) (node : Node) :
    (onUnifyNodeStateChanged s node).bridgedEndpoints = s.bridgedEndpoints.map fun e =>
      if e.unifyUnid = node.unid
        then { e with reachable := some (node.state == .onlineFunctional) } else e := by
  unfold onUnifyNodeStateChanged
  rw [bridgedEndpoints_foldl_changeState]
  apply List.map_congr_left
  intro e he
  have hown : (e.emberEndpoint.allocation ∈
      (Multimap.equalRange (·.unifyUnid) node.unid s.bridgedEndpoints).map
        fun x => x.emberEndpoint.allocation) ↔ e.unifyUnid = node.unid := by
    rw [List.mem_map]
    constructor
    · intro h
      obtain ⟨x, hx, hctx⟩ := h
      obtain ⟨hxs, hunid⟩ := Multimap.mem_equalRange.mp hx
      have hn : (s.bridgedEndpoints.map fun e => e.emberEndpoint.allocation).Nodup :=
        List.pairwise_map.mpr hP.contexts
      rw [← List.inj_on_of_nodup_map hn hxs he hctx]
      exact hunid
    · exact fun h => ⟨e, Multimap.mem_equalRange.mpr ⟨he, h⟩, rfl⟩
  simp only [hown]

theorem directory_onUnifyNodeStateChanged (hP : Placed slots s) (node : Node) :
    directory (onUnifyNodeStateChanged s node) =
      directoryStep env (directory s) (.nodeStateChanged node) := by
  funext a
  rw [directory_eq_view, directory_eq_view, hP.bridgedEndpoints_onUnifyNodeStateChanged node]
  rw [KeyedView.view_map (h := fun a l => if a.1 = node.unid
    then { l with reachable := some (node.state == .onlineFunctional) } else l)]
  · unfold directoryStep
    dsimp only
    split_ifs
    · rfl
    · exact Option.map_id'
  · intro e
    split_ifs
    · rfl
    · rfl
  · intro e
    have hkey : e.address.1 = e.unifyUnid := rfl
    rw [hkey]
    split_ifs
    · rfl
    · rfl

theorem directory_onUnifyNodeRemoved (unid : String) :
    directory (onUnifyNodeRemoved env s unid) = directoryStep env (directory s) (.nodeRemoved unid) := by
  funext a
  rw [directory_eq_view, directory_eq_view, bridgedEndpoints_onUnifyNodeRemoved]
  have hfilter := @KeyedView.view_filter _ _ _ _ BridgedEndpoint.address BridgedEndpoint.listing
    s.bridgedEndpoints a fun a => decide (a.1 ≠ unid)
  unfold directoryStep
  refine hfilter.trans ?_
  by_cases ha : a.1 = unid
  · simp [ha]
  · simp [ha]

/-- One event: what is bridged follows the directory exactly on the condition. -/
theorem directory_step_iff (hP : Placed slots s) (ev : Event) :
    directory (step env s ev) = directoryStep env (directory s) ev ↔ DirectoryCondition env s ev := by
  cases ev with
  | nodeAdded node =>
    exact ⟨unshared_of_directory hP, directory_onUnifyNodeAdded hP⟩
  | nodeRemoved unid => exact iff_of_true (directory_onUnifyNodeRemoved unid) trivial
  | nodeStateChanged node => exact iff_of_true (directory_onUnifyNodeStateChanged hP node) trivial
  | restart => exact iff_of_true rfl trivial

end Others

/-- What is bridged follows what Unify tells, after every event of a run, if and only if no endpoint
ever gets the id of another one of its node. -/
theorem followsDirectory_iff (env : MonitorEnv Table Content) (slots : EmberSlots env.ember)
    (evs : List Event) :
    FollowsDirectory env evs ↔ EventSystem.Guarded (step env) (DirectoryCondition env)
      (start env (KeyValueStore.empty fun _ => false)) evs :=
  EventSystem.abstraction_run_iff (I := fun s => Placed slots s) (fun _ ev hP => hP.step ev)
    (fun _ ev hP => directory_step_iff hP ev) (placed_run env slots [])

end NodeStateMonitor

end UnifyMatterBridge
