import UnifyMatterBridge.Cxx
import UnifyMatterBridge.DataStorage
import UnifyMatterBridge.Lib.Execution
import UnifyMatterBridge.Lib.Topic
import Mathlib.Data.Finset.Insert

/-! The group translator (`group_translator`): Matter groups are mapped to Unify groups by
records in the key-value store. The mapping is injective as long as the id an add finds is not
already mapped to: the loop looks at the registered ids only, and neither moves on nor registers
the id it has just handed out. -/
namespace UnifyMatterBridge

structure MatterGroup where
  group : ℕ
  fabricIndex : ℕ
  deriving DecidableEq, Repr

structure GroupTranslator where
  lastAllocatedGroup : ℕ
  allocatedUnifyGroups : Finset ℕ
  kvs : KeyValueStore

namespace GroupTranslator

def start (kvs : KeyValueStore) : GroupTranslator := ⟨1, ∅, kvs⟩

def getUnifyGroup (t : GroupTranslator) (g : MatterGroup) : Option ℕ :=
  GroupMapping.getPersistedData t.kvs ⟨g.group, g.fabricIndex, none⟩

/-- The loop of `add_matter_group`: the id found (`none` where the source returns `false`) and the
cursor. `fuel` bounds the number of iterations; see `allocate_fuel`. -/
def allocate (allocated : Finset ℕ) : (fuel cursor : ℕ) → Option ℕ × ℕ
  | 0, cursor => (none, cursor)
  | fuel + 1, cursor =>
    if cursor ∈ allocated then
      let cursor := (cursor + 1) % 65536
      if cursor = 65535 then (none, cursor) else allocate allocated fuel cursor
    else (some cursor, cursor)

def addMatterGroup (t : GroupTranslator) (g : MatterGroup) : GroupTranslator × Bool :=
  match allocate t.allocatedUnifyGroups 65536 t.lastAllocatedGroup with
  | (none, cursor) => ({ t with lastAllocatedGroup := cursor }, false)
  | (some id, cursor) =>
    let (kvs, ok) := GroupMapping.persistData t.kvs ⟨g.group, g.fabricIndex, some id⟩
    ({ t with lastAllocatedGroup := cursor, kvs := kvs }, ok)

def removeMatterGroup (t : GroupTranslator) (g : MatterGroup) : GroupTranslator :=
  match getUnifyGroup t g with
  | some _ =>
    { t with kvs := GroupMapping.removePersistedData t.kvs ⟨g.group, g.fabricIndex, none⟩ }
  | none => t

def registerUnifyGroup (t : GroupTranslator) (group : ℕ) : GroupTranslator :=
  { t with allocatedUnifyGroups := insert group t.allocatedUnifyGroups }

def nodeListPattern : List Topic.Piece :=
  [.lit "ucl/by-group/".toList, .level, .lit "/NodeList/".toList, .level]

def onMqttMessageCb (t : GroupTranslator) (topic : String) :
    Except CxxException GroupTranslator :=
  match Topic.search nodeListPattern topic.toList with
  | some (groupId :: _) => do
    let group ← stoi (String.ofList groupId)
    return registerUnifyGroup t (toUInt16 group)
  | _ => .ok t

/-- What happens to the translator; an exception leaves it as it was. -/
inductive Event where
  | addMatterGroup (g : MatterGroup)
  | removeMatterGroup (g : MatterGroup)
  | registerUnifyGroup (group : ℕ)
  | mqttMessage (topic : String)
  | restart

def step (t : GroupTranslator) : Event → GroupTranslator
  | .addMatterGroup g => (addMatterGroup t g).1
  | .removeMatterGroup g => removeMatterGroup t g
  | .registerUnifyGroup group => registerUnifyGroup t group
  | .mqttMessage topic =>
    match onMqttMessageCb t topic with
    | .ok t => t
    | .error _ => t
  | .restart => start t.kvs

/-- `id` is the first id from the cursor on that is not registered, and the search does not step
on to 65535 before it. -/
def FirstUnregistered (allocated : Finset ℕ) (cursor id : ℕ) : Prop :=
  ∃ k, id = (cursor + k) % 65536 ∧ id ∉ allocated ∧
    (∀ j < k, (cursor + j) % 65536 ∈ allocated) ∧ ∀ j < k, (cursor + j + 1) % 65536 ≠ 65535

theorem FirstUnregistered.succ {allocated : Finset ℕ} {cursor id : ℕ}
    (hc : cursor ∈ allocated) (hlt : cursor < 65536) (hne : (cursor + 1) % 65536 ≠ 65535)
    (h : FirstUnregistered allocated ((cursor + 1) % 65536) id) :
    FirstUnregistered allocated cursor id := by
  obtain ⟨k, hid, hfree, hreg, hstop⟩ := h
  refine ⟨k + 1, by omega, hfree, fun j hj => ?_, fun j hj => ?_⟩
  · cases j with
    | zero => rwa [Nat.add_zero, Nat.mod_eq_of_lt hlt]
    | succ j =>
      have h := hreg j (by omega)
      rwa [show ((cursor + 1) % 65536 + j) % 65536 = (cursor + (j + 1)) % 65536 by omega] at h
  · cases j with
    | zero => exact hne
    | succ j =>
      have h := hstop j (by omega)
      rwa [show ((cursor + 1) % 65536 + j + 1) % 65536 = (cursor + (j + 1) + 1) % 65536 by omega]
        at h

theorem allocate_eq_some {allocated : Finset ℕ} {fuel cursor id c : ℕ} (hlt : cursor < 65536)
    (h : allocate allocated fuel cursor = (some id, c)) :
    FirstUnregistered allocated cursor id ∧ c = id := by
  induction fuel generalizing cursor with
  | zero => cases h
  | succ fuel ih =>
    unfold allocate at h
    split_ifs at h with hmem
    · dsimp only at h
      split_ifs at h with hmax
      · cases h
      · obtain ⟨hfirst, hc⟩ := ih (by omega) h
        exact ⟨hfirst.succ hmem hlt hmax, hc⟩
    · cases h
      exact ⟨⟨0, by omega, hmem, by omega, by omega⟩, rfl⟩

private theorem allocate_eq_none {allocated : Finset ℕ} {fuel cursor : ℕ} (hlt : cursor < 65535)
    (hf : 65535 ≤ fuel + cursor) (h : (allocate allocated fuel cursor).1 = none) :
    (allocate allocated fuel cursor).2 = 65535 := by
  induction fuel generalizing cursor with
  | zero => omega
  | succ fuel ih =>
    unfold allocate at h ⊢
    split_ifs at h ⊢ with hmem
    · dsimp only at h ⊢
      split_ifs at h ⊢ with hmax
      · exact hmax
      · exact ih (by omega) (by omega) h

private theorem allocate_of_steps {allocated : Finset ℕ} {fuel k cursor id : ℕ}
    (hlt : cursor < 65536) (hk : k < fuel) (hid : id = (cursor + k) % 65536)
    (hfree : id ∉ allocated) (hreg : ∀ j < k, (cursor + j) % 65536 ∈ allocated)
    (hstop : ∀ j < k, (cursor + j + 1) % 65536 ≠ 65535) :
    ∃ c, allocate allocated fuel cursor = (some id, c) := by
  induction fuel generalizing k cursor with
  | zero => omega
  | succ fuel ih =>
    unfold allocate
    cases k with
    | zero =>
      have hcur : cursor = id := by omega
      rw [if_neg (hcur ▸ hfree), hcur]
      exact ⟨id, rfl⟩
    | succ k =>
      have hmem := hreg 0 (by omega)
      rw [Nat.add_zero, Nat.mod_eq_of_lt hlt] at hmem
      have hmax := hstop 0 (by omega)
      rw [if_pos hmem]
      dsimp only
      rw [if_neg hmax]
      refine ih (k := k) (by omega) (by omega) (by omega) (fun j hj => ?_) fun j hj => ?_
      · rw [show ((cursor + 1) % 65536 + j) % 65536 = (cursor + (j + 1)) % 65536 by omega]
        exact hreg (j + 1) (by omega)
      · rw [show ((cursor + 1) % 65536 + j + 1) % 65536 = (cursor + (j + 1) + 1) % 65536 by omega]
        exact hstop (j + 1) (by omega)

theorem allocate_of_firstUnregistered {allocated : Finset ℕ} {cursor id : ℕ}
    (hlt : cursor < 65536) (h : FirstUnregistered allocated cursor id) :
    ∃ c, allocate allocated 65536 cursor = (some id, c) := by
  obtain ⟨k, hid, hfree, hreg, hstop⟩ := h
  have hk : k < 65536 := by
    -- After 2^16 steps the cursor is back at an id it has already found registered.
    by_contra hk
    have hback := hreg (k - 65536) (by omega)
    rw [show (cursor + (k - 65536)) % 65536 = id by omega] at hback
    exact hfree hback
  exact allocate_of_steps hlt hk hid hfree hreg hstop

/-- The fuel never runs out: a search that finds nothing stops at 65535. -/
theorem allocate_fuel {allocated : Finset ℕ} {cursor : ℕ} (hlt : cursor < 65536)
    (h : (allocate allocated 65536 cursor).1 = none) :
    (allocate allocated 65536 cursor).2 = 65535 := by
  by_cases hc : cursor < 65535
  · exact allocate_eq_none hc (by omega) h
  · obtain rfl : cursor = 65535 := by omega
    unfold allocate at h ⊢
    split_ifs at h ⊢ with hmem
    exact allocate_eq_none (by omega) (by omega) h

theorem getUnifyGroup_persistData {t : GroupTranslator} (hf : t.kvs.Faithful) (g h : MatterGroup)
    (id cursor : ℕ) :
    getUnifyGroup { t with
      lastAllocatedGroup := cursor
      kvs := (GroupMapping.persistData t.kvs ⟨g.group, g.fabricIndex, some id⟩).1 } h =
      if h = g then some id else getUnifyGroup t h := by
  unfold getUnifyGroup GroupMapping.getPersistedData GroupMapping.persistData
  dsimp only
  rw [KeyValueStore.get_put hf]
  congr 1
  rw [GroupMapping.key_inj, MatterGroup.mk.injEq]
  exact propext and_comm

theorem getUnifyGroup_removeMatterGroup (t : GroupTranslator) (g h : MatterGroup) :
    getUnifyGroup (removeMatterGroup t g) h = if h = g then none else getUnifyGroup t h := by
  unfold removeMatterGroup
  cases hg : getUnifyGroup t g with
  | none =>
    split_ifs with hh
    · rw [hh]
      exact hg
    · rfl
  | some id =>
    unfold getUnifyGroup GroupMapping.getPersistedData GroupMapping.removePersistedData
    dsimp only
    rw [KeyValueStore.get_delete]
    congr 1
    rw [GroupMapping.key_inj, MatterGroup.mk.injEq]
    exact propext and_comm

@[simp] theorem lastAllocatedGroup_removeMatterGroup (t : GroupTranslator) (g : MatterGroup) :
    (removeMatterGroup t g).lastAllocatedGroup = t.lastAllocatedGroup := by
  unfold removeMatterGroup
  split <;> rfl

@[simp] theorem faithful_removeMatterGroup (t : GroupTranslator) (g : MatterGroup) :
    (removeMatterGroup t g).kvs.Faithful ↔ t.kvs.Faithful := by
  unfold removeMatterGroup
  split
  · exact KeyValueStore.faithful_delete
  · exact Iff.rfl

/-- What `add_matter_group` does: it fails and changes no mapping, or it maps the group to the
first unregistered id. -/
theorem addMatterGroup_spec {t : GroupTranslator} (hf : t.kvs.Faithful)
    (hlt : t.lastAllocatedGroup < 65536) (g : MatterGroup) :
    ((addMatterGroup t g).2 = false ∧ ∀ h, getUnifyGroup (addMatterGroup t g).1 h =
      getUnifyGroup t h) ∨
    (addMatterGroup t g).2 = true ∧ ∃ id,
      FirstUnregistered t.allocatedUnifyGroups t.lastAllocatedGroup id ∧
      ∀ h, getUnifyGroup (addMatterGroup t g).1 h = if h = g then some id else getUnifyGroup t h := by
  unfold addMatterGroup
  cases ha : allocate t.allocatedUnifyGroups 65536 t.lastAllocatedGroup with
  | mk found cursor =>
    cases found with
    | none => exact .inl ⟨rfl, fun _ => rfl⟩
    | some id =>
      refine .inr ⟨?_, id, (allocate_eq_some hlt ha).1, fun h => ?_⟩
      · simp only [GroupMapping.persistData, KeyValueStore.put, hf t.kvs.puts, Bool.false_eq_true,
          if_false]
      · exact getUnifyGroup_persistData hf g h id cursor

theorem addMatterGroup_succeeds {t : GroupTranslator} (hf : t.kvs.Faithful)
    (hlt : t.lastAllocatedGroup < 65536) (g : MatterGroup)
    (hfree : ∃ id, FirstUnregistered t.allocatedUnifyGroups t.lastAllocatedGroup id) :
    (addMatterGroup t g).2 = true := by
  obtain ⟨id, hid⟩ := hfree
  obtain ⟨c, hc⟩ := allocate_of_firstUnregistered hlt hid
  simp only [addMatterGroup, hc, GroupMapping.persistData, KeyValueStore.put, hf t.kvs.puts,
    Bool.false_eq_true, if_false]

/-- No two groups are mapped to one Unify group. -/
def Injective (t : GroupTranslator) : Prop :=
  ∀ g h id, getUnifyGroup t g = some id → getUnifyGroup t h = some id → g = h

structure Inv (t : GroupTranslator) : Prop where
  faithful : t.kvs.Faithful
  cursor_lt : t.lastAllocatedGroup < 65536
  injective : Injective t

/-- Condition on an event: no other group is mapped to the id that an add finds. -/
def EventCondition (t : GroupTranslator) : Event → Prop
  | .addMatterGroup g =>
    ∀ id, FirstUnregistered t.allocatedUnifyGroups t.lastAllocatedGroup id →
      ∀ h, h ≠ g → getUnifyGroup t h ≠ some id
  | .removeMatterGroup _ | .registerUnifyGroup _ | .mqttMessage _ | .restart => True

theorem addMatterGroup_cursor_lt {t : GroupTranslator} (hlt : t.lastAllocatedGroup < 65536)
    (g : MatterGroup) : (addMatterGroup t g).1.lastAllocatedGroup < 65536 := by
  unfold addMatterGroup
  cases ha : allocate t.allocatedUnifyGroups 65536 t.lastAllocatedGroup with
  | mk found cursor =>
    cases found with
    | none =>
      have hc := allocate_fuel hlt (by rw [ha])
      rw [ha] at hc
      dsimp only at hc ⊢
      omega
    | some id =>
      obtain ⟨⟨k, hid, -⟩, hc⟩ := allocate_eq_some hlt ha
      dsimp only
      omega

theorem addMatterGroup_faithful {t : GroupTranslator} (hf : t.kvs.Faithful) (g : MatterGroup) :
    (addMatterGroup t g).1.kvs.Faithful := by
  unfold addMatterGroup
  cases allocate t.allocatedUnifyGroups 65536 t.lastAllocatedGroup with
  | mk found cursor =>
    cases found with
    | none => exact hf
    | some id => exact KeyValueStore.faithful_put.mpr hf

theorem Inv.addMatterGroup {t : GroupTranslator} (hI : Inv t) {g : MatterGroup}
    (hc : EventCondition t (.addMatterGroup g)) : Inv (addMatterGroup t g).1 := by
  refine ⟨addMatterGroup_faithful hI.faithful g, addMatterGroup_cursor_lt hI.cursor_lt g, ?_⟩
  rcases addMatterGroup_spec hI.faithful hI.cursor_lt g with ⟨-, hget⟩ | ⟨-, id, hfirst, hget⟩
  · intro x y i hx hy
    rw [hget] at hx hy
    exact hI.injective x y i hx hy
  · intro x y i hx hy
    rw [hget] at hx hy
    split_ifs at hx hy with h₁ h₂ h₂
    · rw [h₁, h₂]
    · cases hx
      exact absurd hy (hc _ hfirst y h₂)
    · cases hy
      exact absurd hx (hc _ hfirst x h₁)
    · exact hI.injective x y i hx hy

theorem Inv.removeMatterGroup {t : GroupTranslator} (hI : Inv t) (g : MatterGroup) :
    Inv (removeMatterGroup t g) := by
  refine ⟨(faithful_removeMatterGroup t g).mpr hI.faithful, ?_, fun x y i hx hy => ?_⟩
  · rw [lastAllocatedGroup_removeMatterGroup]
    exact hI.cursor_lt
  · rw [getUnifyGroup_removeMatterGroup] at hx hy
    split_ifs at hx hy
    exact hI.injective x y i hx hy

theorem Inv.registerUnifyGroup {t : GroupTranslator} (hI : Inv t) (group : ℕ) :
    Inv (registerUnifyGroup t group) := ⟨hI.faithful, hI.cursor_lt, hI.injective⟩

theorem onMqttMessageCb_eq_ok {t t' : GroupTranslator} {topic : String}
    (h : onMqttMessageCb t topic = .ok t') : t' = t ∨ ∃ group, t' = registerUnifyGroup t group := by
  unfold onMqttMessageCb at h
  split at h
  · next groupId _ _ =>
    cases hs : stoi (String.ofList groupId) with
    | error e =>
      rw [hs] at h
      cases h
    | ok group =>
      rw [hs] at h
      cases h
      exact .inr ⟨_, rfl⟩
  · cases h
    exact .inl rfl

theorem step_mqttMessage_cases (t : GroupTranslator) (topic : String) :
    step t (.mqttMessage topic) = t ∨
      ∃ group, step t (.mqttMessage topic) = registerUnifyGroup t group := by
  unfold step
  dsimp only
  cases h : onMqttMessageCb t topic with
  | error e => exact .inl rfl
  | ok t' => exact onMqttMessageCb_eq_ok h

theorem Inv.step {t : GroupTranslator} (hI : Inv t) {ev : Event} (hc : EventCondition t ev) :
    Inv (step t ev) := by
  cases ev with
  | addMatterGroup g => exact hI.addMatterGroup hc
  | removeMatterGroup g => exact hI.removeMatterGroup g
  | registerUnifyGroup group => exact hI.registerUnifyGroup group
  | mqttMessage topic =>
    rcases step_mqttMessage_cases t topic with h | ⟨group, h⟩
    · rw [h]
      exact hI
    · rw [h]
      exact hI.registerUnifyGroup group
  | restart => exact ⟨hI.faithful, show 1 < 65536 by decide, hI.injective⟩

theorem inv_start {kvs : KeyValueStore} (hf : kvs.Faithful) (hi : Injective (start kvs)) :
    Inv (start kvs) := ⟨hf, show 1 < 65536 by decide, hi⟩

/-- Over every run in which each add finds an id that no other group is mapped to, the mapping
stays injective. -/
theorem injective_run (evs : List Event)
    (hc : EventSystem.Guarded step EventCondition (start (KeyValueStore.empty fun _ => false)) evs) :
    Injective (EventSystem.run step (start (KeyValueStore.empty fun _ => false)) evs) := by
  have hstart : Inv (start (KeyValueStore.empty fun _ => false)) := by
    apply inv_start
    · exact fun _ => rfl
    · intro g h id hg
      cases hg
  exact (EventSystem.invariant_run (fun _ _ hI hc => hI.step hc) hstart hc).injective

/-- Two adds with the registration of the first id in between. -/
theorem injective_run_registered_between :
    Injective (EventSystem.run step (start (KeyValueStore.empty fun _ => false))
      [.addMatterGroup ⟨1, 1⟩, .mqttMessage "ucl/by-group/1/NodeList/OnOff",
        .addMatterGroup ⟨2, 1⟩]) := by
  apply injective_run
  refine ⟨fun id _ h _ hget => ?_, trivial, fun id hfirst h hne hget => ?_, trivial⟩
  · cases hget
  · obtain ⟨k, -, hfree, -⟩ := hfirst
    have hone := @getUnifyGroup_persistData (start (KeyValueStore.empty fun _ => false))
      (fun _ => rfl) ⟨1, 1⟩ h 1 1
    have hid := hone.symm.trans hget
    split_ifs at hid
    · cases hid
      exact hfree (by decide)
    · cases hid

/-- Two adds before the registration of the first id map both groups to it. -/
theorem not_injective_of_two_adds :
    ¬∀ evs : List Event,
      Injective (EventSystem.run step (start (KeyValueStore.empty fun _ => false)) evs) := by
  intro h
  have hrun := h [.addMatterGroup ⟨1, 1⟩, .addMatterGroup ⟨2, 1⟩] ⟨1, 1⟩ ⟨2, 1⟩ 1
    (by decide) (by decide)
  cases hrun

end GroupTranslator

end UnifyMatterBridge
