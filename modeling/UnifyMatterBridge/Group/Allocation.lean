import UnifyMatterBridge.Group.Translator
import UnifyMatterBridge.Lib.Loop
import Mathlib.Data.Finset.Dedup
import Mathlib.Data.Finset.Lattice.Lemmas

/-! The allocation of Unify group ids over whole runs of the translator (`add_matter_group`): its loop
ends, and the ids it hands out are sound until the cursor has come to the greatest id and stays there. -/
namespace UnifyMatterBridge

namespace GroupTranslator

def allocationRound (allocated : Finset ℕ) (cursor : ℕ) : ℕ ⊕ Option ℕ × ℕ :=
  if cursor ∈ allocated then
    let cursor := (cursor + 1) % 65536
    if cursor = 65535 then .inr (none, cursor) else .inl cursor
  else .inr (some cursor, cursor)

/-- The translator with the registered groups of each call since the start that has returned `false`. -/
structure History where
  translator : GroupTranslator
  refused : List (Finset ℕ)

namespace History

def start (kvs : KeyValueStore) : History := ⟨GroupTranslator.start kvs, []⟩

def step (s : History) (ev : Event) : History where
  translator := GroupTranslator.step s.translator ev
  refused :=
    match ev with
    | .addMatterGroup g =>
      if (addMatterGroup s.translator g).2 then s.refused
      else s.translator.allocatedUnifyGroups :: s.refused
    | .restart => []
    | .removeMatterGroup _ | .registerUnifyGroup _ | .mqttMessage _ => s.refused

/-- The call ends; the id it persists is at least 1 and not registered; it refuses the group only if the
write fails or no id is left from the cursor on; and what has been refused stays refused. -/
structure SoundAdd (s : History) (g : MatterGroup) : Prop where
  ends : ∃ r, Loop.Ends (allocationRound s.translator.allocatedUnifyGroups)
    s.translator.lastAllocatedGroup r
  persisted : (addMatterGroup s.translator g).2 = true →
    ∃ id, getUnifyGroup (addMatterGroup s.translator g).1 g = some id ∧ 1 ≤ id ∧
      id ∉ s.translator.allocatedUnifyGroups
  refused : (addMatterGroup s.translator g).2 = false →
    s.translator.kvs.putFails s.translator.kvs.puts = true ∨
      ∀ id, 1 ≤ id → s.translator.lastAllocatedGroup ≤ id → id ≤ 65534 →
        id ∈ s.translator.allocatedUnifyGroups
  stays : s.translator.allocatedUnifyGroups ∈ s.refused →
    (addMatterGroup s.translator g).2 = false ∧
      (addMatterGroup s.translator g).1.kvs.content = s.translator.kvs.content

def Sound (s : History) : Event → Prop
  | .addMatterGroup g => SoundAdd s g
  | .removeMatterGroup _ | .registerUnifyGroup _ | .mqttMessage _ | .restart => True

/-- Condition on an event: an add whose write succeeds does not come to the id 0, and finds no id after a
refusal with the same groups. -/
def Condition (s : History) : Event → Prop
  | .addMatterGroup _ =>
    s.translator.kvs.putFails s.translator.kvs.puts = true ∨
      ∀ id, FirstUnregistered s.translator.allocatedUnifyGroups s.translator.lastAllocatedGroup id →
        id ≠ 0 ∧ s.translator.allocatedUnifyGroups ∉ s.refused
  | .removeMatterGroup _ | .registerUnifyGroup _ | .mqttMessage _ | .restart => True

end History

section Search

variable {allocated : Finset ℕ} {cursor : ℕ}

def roundsLeft (cursor : ℕ) : ℕ := if cursor = 65535 then 65536 else 65535 - cursor

theorem ends_allocate {fuel : ℕ} (hlt : cursor < 65536) (hfuel : roundsLeft cursor ≤ fuel) :
    Loop.Ends (allocationRound allocated) cursor (allocate allocated fuel cursor) := by
  induction fuel generalizing cursor with
  | zero =>
    unfold roundsLeft at hfuel
    split_ifs at hfuel with hmax
    · omega
    · omega
  | succ fuel ih =>
    unfold allocate
    by_cases hmem : cursor ∈ allocated
    · by_cases hmax : (cursor + 1) % 65536 = 65535
      · apply Loop.Ends.done
        simp only [allocationRound, hmem, hmax, if_true]
      · have hround : allocationRound allocated cursor = .inl ((cursor + 1) % 65536) := by
          simp only [allocationRound, if_pos hmem, if_neg hmax]
        have hless : roundsLeft ((cursor + 1) % 65536) ≤ fuel := by
          unfold roundsLeft at hfuel ⊢
          rw [if_neg hmax]
          split_ifs at hfuel with hlast
          · omega
          · omega
        rw [if_pos hmem]
        dsimp only
        rw [if_neg hmax]
        exact Loop.Ends.next hround (ih (by omega) hless)
    · rw [if_neg hmem]
      apply Loop.Ends.done
      simp only [allocationRound, if_neg hmem]

/-- The loop ends with what `allocate` finds. -/
theorem ends_iff_allocate (hlt : cursor < 65536) {r : Option ℕ × ℕ} :
    Loop.Ends (allocationRound allocated) cursor r ↔ r = allocate allocated 65536 cursor := by
  have hends : Loop.Ends (allocationRound allocated) cursor (allocate allocated 65536 cursor) := by
    apply ends_allocate hlt
    unfold roundsLeft
    split_ifs with hmax
    · omega
    · omega
  constructor
  · intro h
    exact h.unique hends
  · intro h
    rw [h]
    exact hends

/-- Nothing is found if and only if no id is first in turn. -/
theorem allocate_eq_none_iff (hlt : cursor < 65536) :
    (allocate allocated 65536 cursor).1 = none ↔ ∀ id, ¬ FirstUnregistered allocated cursor id := by
  constructor
  · intro h id hid
    obtain ⟨c, hc⟩ := allocate_of_firstUnregistered hlt hid
    rw [hc] at h
    cases h
  · intro h
    cases hfound : allocate allocated 65536 cursor with
    | mk found c =>
      cases found with
      | none => rfl
      | some id => exact absurd (allocate_eq_some hlt hfound).1 (h id)

theorem mem_of_not_firstUnregistered (h : ∀ id, ¬ FirstUnregistered allocated cursor id) {id : ℕ}
    (hge : cursor ≤ id) (hle : id ≤ 65534) : id ∈ allocated := by
  induction id using Nat.strongRecOn with
  | _ id ih =>
    by_contra hfree
    have hbefore : ∀ j < id - cursor, (cursor + j) % 65536 ∈ allocated := by
      intro j hj
      have hmod : (cursor + j) % 65536 = cursor + j := by omega
      rw [hmod]
      exact ih (cursor + j) (by omega) (by omega) (by omega)
    have hstop : ∀ j < id - cursor, (cursor + j + 1) % 65536 ≠ 65535 := by
      intro j hj
      omega
    exact h id ⟨id - cursor, by omega, hfree, hbefore, hstop⟩

end Search

section Add

variable {t : GroupTranslator} {g : MatterGroup}

/-- A call without an id or without a write keeps the mappings, others map the group to the id found. -/
theorem addMatterGroup_cases (hlt : t.lastAllocatedGroup < 65536) (g : MatterGroup) :
    ((∀ id, ¬ FirstUnregistered t.allocatedUnifyGroups t.lastAllocatedGroup id) ∧
        (addMatterGroup t g).2 = false ∧ (addMatterGroup t g).1.kvs.content = t.kvs.content) ∨
      ∃ id, FirstUnregistered t.allocatedUnifyGroups t.lastAllocatedGroup id ∧
        (t.kvs.putFails t.kvs.puts = true ∧ (addMatterGroup t g).2 = false ∧
            (addMatterGroup t g).1.kvs.content = t.kvs.content ∨
          t.kvs.putFails t.kvs.puts = false ∧ (addMatterGroup t g).2 = true ∧
            getUnifyGroup (addMatterGroup t g).1 g = some id) := by
  unfold addMatterGroup
  cases ha : allocate t.allocatedUnifyGroups 65536 t.lastAllocatedGroup with
  | mk found cursor =>
    cases found with
    | none =>
      left
      refine ⟨(allocate_eq_none_iff hlt).mp ?_, rfl, rfl⟩
      rw [ha]
    | some id =>
      right
      refine ⟨id, (allocate_eq_some hlt ha).1, ?_⟩
      dsimp only [GroupMapping.persistData, KeyValueStore.put]
      cases hput : t.kvs.putFails t.kvs.puts with
      | true => exact Or.inl ⟨rfl, rfl, rfl⟩
      | false =>
        refine Or.inr ⟨rfl, rfl, ?_⟩
        simp [getUnifyGroup, GroupMapping.getPersistedData, GroupMapping.key, KeyValueStore.get]

theorem FirstUnregistered.unique {allocated : Finset ℕ} {cursor id id' : ℕ} (hlt : cursor < 65536)
    (h : FirstUnregistered allocated cursor id) (h' : FirstUnregistered allocated cursor id') :
    id = id' := by
  obtain ⟨c, hc⟩ := allocate_of_firstUnregistered hlt h
  obtain ⟨c', hc'⟩ := allocate_of_firstUnregistered hlt h'
  rw [hc] at hc'
  exact Option.some.inj (Prod.mk.inj hc').1

end Add

namespace History

variable {s : History}

section Add

variable {g : MatterGroup} (hlt : s.translator.lastAllocatedGroup < 65536)

include hlt

theorem exists_ends_allocation : ∃ r, Loop.Ends
    (allocationRound s.translator.allocatedUnifyGroups) s.translator.lastAllocatedGroup r :=
  ⟨_, (ends_iff_allocate hlt).mpr rfl⟩

theorem SoundAdd.of_refused (hrefused : (addMatterGroup s.translator g).2 = false)
    (hcontent : (addMatterGroup s.translator g).1.kvs.content = s.translator.kvs.content)
    (hreason : s.translator.kvs.putFails s.translator.kvs.puts = true ∨
      ∀ id, 1 ≤ id → s.translator.lastAllocatedGroup ≤ id → id ≤ 65534 →
        id ∈ s.translator.allocatedUnifyGroups) : SoundAdd s g where
  ends := exists_ends_allocation hlt
  persisted h := by
    rw [hrefused] at h
    cases h
  refused _ := hreason
  stays _ := ⟨hrefused, hcontent⟩

/-- An id that is persisted must not be 0, nor found after a refusal. -/
theorem soundAdd_iff_of_added {id : ℕ}
    (hid : FirstUnregistered s.translator.allocatedUnifyGroups s.translator.lastAllocatedGroup id)
    (hadded : (addMatterGroup s.translator g).2 = true)
    (hget : getUnifyGroup (addMatterGroup s.translator g).1 g = some id) :
    SoundAdd s g ↔ id ≠ 0 ∧ s.translator.allocatedUnifyGroups ∉ s.refused := by
  constructor
  · intro h
    obtain ⟨id₀, hget₀, hpos, -⟩ := h.persisted hadded
    have hid₀ : id₀ = id := Option.some.inj (hget₀.symm.trans hget)
    refine ⟨by omega, fun hmem => ?_⟩
    have hstays := (h.stays hmem).1
    rw [hadded] at hstays
    cases hstays
  · intro h
    obtain ⟨hne, hnotMem⟩ := h
    have hfree : id ∉ s.translator.allocatedUnifyGroups := by
      obtain ⟨k, -, hfree, -⟩ := hid
      exact hfree
    refine ⟨exists_ends_allocation hlt, fun _ => ⟨id, hget, by omega, hfree⟩, ?_, ?_⟩
    · intro hrefused
      rw [hadded] at hrefused
      cases hrefused
    · exact fun hmem => absurd hmem hnotMem

end Add

theorem sound_iff_condition (hlt : s.translator.lastAllocatedGroup < 65536) (ev : Event) :
    Sound s ev ↔ Condition s ev := by
  cases ev with
  | addMatterGroup g =>
    unfold Sound Condition
    rcases addMatterGroup_cases hlt g with ⟨hnone, hrefused, hcontent⟩ | ⟨id, hid, hwrite⟩
    · -- Nothing is found: a sound refusal.
      have hall : ∀ id, 1 ≤ id → s.translator.lastAllocatedGroup ≤ id → id ≤ 65534 →
          id ∈ s.translator.allocatedUnifyGroups :=
        fun id _ hge hle => mem_of_not_firstUnregistered hnone hge hle
      exact iff_of_true (SoundAdd.of_refused hlt hrefused hcontent (Or.inr hall))
        (Or.inr fun id hid => absurd hid (hnone id))
    · rcases hwrite with ⟨hfails, hrefused, hcontent⟩ | ⟨hput, hadded, hget⟩
      · exact iff_of_true (SoundAdd.of_refused hlt hrefused hcontent (Or.inl hfails))
          (Or.inl hfails)
      · rw [hput, or_iff_right Bool.false_ne_true]
        refine (soundAdd_iff_of_added hlt hid hadded hget).trans ?_
        constructor
        · intro h id' hid'
          rwa [hid'.unique hlt hid]
        · exact fun h => h id hid
  | removeMatterGroup g => exact Iff.rfl
  | registerUnifyGroup group => exact Iff.rfl
  | mqttMessage topic => exact Iff.rfl
  | restart => exact Iff.rfl

theorem step_cursor_lt (hlt : s.translator.lastAllocatedGroup < 65536) (ev : Event) :
    (step s ev).translator.lastAllocatedGroup < 65536 := by
  unfold step
  dsimp only
  cases ev with
  | addMatterGroup g => exact addMatterGroup_cursor_lt hlt g
  | removeMatterGroup g =>
    unfold GroupTranslator.step
    rw [lastAllocatedGroup_removeMatterGroup]
    exact hlt
  | registerUnifyGroup group => exact hlt
  | mqttMessage topic =>
    rcases step_mqttMessage_cases s.translator topic with h | ⟨group, h⟩
    · rw [h]
      exact hlt
    · rw [h]
      exact hlt
  | restart =>
    dsimp only [GroupTranslator.step, GroupTranslator.start]
    omega

theorem step_addMatterGroup_of_none (hlt : s.translator.lastAllocatedGroup < 65536) (g : MatterGroup)
    (hnone : ∀ id, ¬ FirstUnregistered s.translator.allocatedUnifyGroups
      s.translator.lastAllocatedGroup id) :
    step s (.addMatterGroup g) =
      ⟨{ s.translator with lastAllocatedGroup := 65535 },
        s.translator.allocatedUnifyGroups :: s.refused⟩ := by
  have hfound := (allocate_eq_none_iff hlt).mpr hnone
  have hcursor := allocate_fuel hlt hfound
  have hallocate : allocate s.translator.allocatedUnifyGroups 65536
      s.translator.lastAllocatedGroup = (none, 65535) := Prod.ext hfound hcursor
  have hadd : addMatterGroup s.translator g =
      ({ s.translator with lastAllocatedGroup := 65535 }, false) := by
    unfold addMatterGroup
    rw [hallocate]
  unfold step GroupTranslator.step
  dsimp only
  rw [hadd]
  rfl

end History

/-- Every call of a run is sound if and only if every event of the run meets the condition. -/
theorem History.sound_run_iff (kvs : KeyValueStore) (evs : List Event) :
    EventSystem.Guarded History.step History.Sound (History.start kvs) evs ↔
      EventSystem.Guarded History.step History.Condition (History.start kvs) evs := by
  apply EventSystem.guarded_congr (I := fun s => s.translator.lastAllocatedGroup < 65536)
  · exact fun s ev hlt => History.step_cursor_lt hlt ev
  · exact fun s ev hlt => History.sound_iff_condition hlt ev
  · dsimp only [History.start, GroupTranslator.start]
    omega

section Example

private theorem run_registerUnifyGroup (s : History) (groups : List ℕ) :
    EventSystem.run History.step s (groups.map Event.registerUnifyGroup) =
      { s with
        translator := { s.translator with
          allocatedUnifyGroups := s.translator.allocatedUnifyGroups ∪ groups.toFinset } } := by
  induction groups generalizing s with
  | nil => simp
  | cons group groups ih =>
    rw [List.map_cons, EventSystem.run_cons, ih]
    have hunion : insert group s.translator.allocatedUnifyGroups ∪ groups.toFinset =
        s.translator.allocatedUnifyGroups ∪ (group :: groups).toFinset := by
      rw [List.toFinset_cons, Finset.insert_union, Finset.union_insert]
    rw [← hunion]
    rfl

/-- With all groups up to 65534 registered a group is refused, and then mapped to 65535. -/
private theorem not_sound_of_groups {groups : List ℕ}
    (hgroups : ∀ id, id ∈ groups ↔ 1 ≤ id ∧ id ≤ 65534) :
    ¬ EventSystem.Guarded History.step History.Sound
      (History.start (KeyValueStore.empty fun _ => false))
      (groups.map Event.registerUnifyGroup ++
        [.addMatterGroup ⟨1, 1⟩, .addMatterGroup ⟨2, 1⟩]) := by
  rw [EventSystem.guarded_append, run_registerUnifyGroup]
  intro h
  have hmem : ∀ id, id ∈ ∅ ∪ groups.toFinset ↔ 1 ≤ id ∧ id ≤ 65534 := by
    intro id
    rw [Finset.empty_union, List.mem_toFinset, hgroups]
  have hnone : ∀ id, ¬ FirstUnregistered (∅ ∪ groups.toFinset) 1 id := by
    intro id hid
    obtain ⟨k, hk, hfree, -, hstop⟩ := hid
    by_cases hlast : k ≤ 65533
    · exact hfree ((hmem id).mpr (by omega))
    · exact hstop 65533 (by omega) rfl
  have hfirst : FirstUnregistered (∅ ∪ groups.toFinset) 65535 65535 := by
    refine ⟨0, rfl, fun hregistered => ?_, fun j hj => by omega, fun j hj => by omega⟩
    have hbound := ((hmem 65535).mp hregistered).2
    omega
  have hsecond := h.2.2.1
  rw [History.step_addMatterGroup_of_none (show 1 < 65536 by omega) _ hnone,
    History.sound_iff_condition (show 65535 < 65536 by omega)] at hsecond
  rcases hsecond with hfails | hcondition
  · cases hfails
  · exact (hcondition 65535 hfirst).2 List.mem_cons_self

/-- Registering 65534 groups is enough for an unsound call. -/
theorem History.not_sound_of_all_registered :
    ¬ ∀ kvs evs, EventSystem.Guarded History.step History.Sound (History.start kvs) evs := by
  intro h
  apply @not_sound_of_groups (List.range' 1 65534)
  · intro id
    rw [List.mem_range'_1]
    omega
  · exact h _ _

end Example

end GroupTranslator

end UnifyMatterBridge
