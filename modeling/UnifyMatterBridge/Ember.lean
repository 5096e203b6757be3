import UnifyMatterBridge.Lib.FirstFit
import Mathlib.Data.List.Nodup

/-! The dynamic-endpoint table of the Matter stack, seen through the wrapper
`UnifyEmberInterface`, and the allocator of Matter endpoint ids. -/
namespace UnifyMatterBridge

/-- `chip::kInvalidEndpointId`, and the same number as `kEmberInvalidEndpointIndex`. -/
def kInvalidEndpointId : ℕ := 65535

/-- `FIXED_ENDPOINT_COUNT` (also the result of `emberAfFixedEndpointCount`) and
`MAX_ENDPOINT_COUNT`; endpoint ids are `uint16_t`. -/
structure EndpointCounts where
  fixedEndpointCount : ℕ
  maxEndpointCount : ℕ
  fixed_pos : 0 < fixedEndpointCount
  fixed_le_max : fixedEndpointCount ≤ maxEndpointCount
  max_le : maxEndpointCount ≤ kInvalidEndpointId

inductive ChipError where
  | noError
  | noMemory
  | invalidArgument
  | endpointExists
  | notImplemented
  | noMessageHandler
  | inProgress
  | constraintError
  | wrongTlvType
  deriving DecidableEq, Repr

structure EmberApi (Table Context : Type) where
  /-- The table of a process that has registered nothing yet. -/
  empty : Table
  emberAfGetDynamicIndexFromEndpoint : Table → (id : ℕ) → ℕ
  emberAfSetDynamicEndpoint :
    Table → (index id : ℕ) → Context → (deviceType : ℕ) → Table × ChipError
  emberAfClearDynamicEndpoint : Table → (index : ℕ) → Table × ℕ

namespace EmberApi

variable {Table Context : Type} (api : EmberApi Table Context) (counts : EndpointCounts)

/-- The stack knows no dynamic endpoint with this id. -/
def unregistered (t : Table) (id : ℕ) : Bool :=
  api.emberAfGetDynamicIndexFromEndpoint t id = kInvalidEndpointId

/-- The result and the new `last_returned_available_endpoint_id`, which only the search above
the cursor moves. -/
def getNextDynamicAvailableEndpointIndex (t : Table) (cursor : ℕ) : ℕ × ℕ :=
  match FirstFit.search (api.unregistered t) ((cursor + 1) % 65536) counts.maxEndpointCount with
  | some id => (id, id)
  | none =>
    match FirstFit.search (api.unregistered t) counts.fixedEndpointCount counts.maxEndpointCount with
    | some id => (id, cursor)
    | none => (kInvalidEndpointId, cursor)

/-- The id that is next in turn: the least unregistered one above the cursor, or, when there is
none, the least unregistered one. -/
def NextFree (t : Table) (cursor id : ℕ) : Prop :=
  FirstFit.Next (api.unregistered t) ((cursor + 1) % 65536) counts.fixedEndpointCount
    counts.maxEndpointCount id

variable {api counts} {t : Table} {cursor id : ℕ}

theorem getNextDynamicAvailableEndpointIndex_of_nextFree (h : api.NextFree counts t cursor id) :
    (api.getNextDynamicAvailableEndpointIndex counts t cursor).1 = id := by
  have hs := FirstFit.search_orElse_eq_some.mpr h
  unfold getNextDynamicAvailableEndpointIndex
  cases h₁ : FirstFit.search (api.unregistered t) ((cursor + 1) % 65536) counts.maxEndpointCount with
  | some n => exact Option.some.inj (by simpa [h₁] using hs)
  | none =>
    have h₂ : FirstFit.search (api.unregistered t) counts.fixedEndpointCount
        counts.maxEndpointCount = some id := by simpa [h₁] using hs
    simp only [h₂]

end EmberApi

/-- A table of occupied slots as the stack keeps it: an index, the endpoint id and its context. -/
abbrev SlotTable (Context : Type) := List (ℕ × ℕ × Context)

def slotTableApi (Context : Type) (dynamicCount : ℕ) : EmberApi (SlotTable Context) Context where
  empty := []
  emberAfGetDynamicIndexFromEndpoint t id :=
    match t.find? (fun slot => slot.2.1 = id) with
    | some slot => slot.1
    | none => kInvalidEndpointId
  emberAfSetDynamicEndpoint t index id context _ :=
    if dynamicCount ≤ index then (t, .noMemory)
    else if id = kInvalidEndpointId then (t, .invalidArgument)
    else if t.any (fun slot => slot.2.1 = id) then (t, .endpointExists)
    else ((index, id, context) :: t.filter (fun slot => slot.1 ≠ index), .noError)
  emberAfClearDynamicEndpoint t index :=
    match t.find? (fun slot => slot.1 = index) with
    | some slot => (t.filter (fun slot => slot.1 ≠ index), slot.2.1)
    | none => (t, kInvalidEndpointId)

/-- What the functions of the stack do to the slots of the table: the index found for an id holds
it, and an index is written by `emberAfSetDynamicEndpoint`, unless it reports an error, and by
`emberAfClearDynamicEndpoint` only. -/
structure EmberSlots {Table Context : Type} (api : EmberApi Table Context) where
  /-- The tables that the functions build. -/
  Valid : Table → Prop
  /-- The endpoint id and the context registered at an index. -/
  slot : Table → ℕ → Option (ℕ × Context)
  valid_empty : Valid api.empty
  valid_set : ∀ {t}, Valid t → ∀ index id c d,
    Valid (api.emberAfSetDynamicEndpoint t index id c d).1
  valid_clear : ∀ {t}, Valid t → ∀ index, Valid (api.emberAfClearDynamicEndpoint t index).1
  slot_empty : ∀ i, slot api.empty i = none
  slot_found : ∀ {t id}, Valid t → api.emberAfGetDynamicIndexFromEndpoint t id ≠ kInvalidEndpointId →
    ∃ c, slot t (api.emberAfGetDynamicIndexFromEndpoint t id) = some (id, c)
  slot_not_found : ∀ {t id}, Valid t →
    api.emberAfGetDynamicIndexFromEndpoint t id = kInvalidEndpointId →
      ∀ i c, slot t i ≠ some (id, c)
  slot_set : ∀ {t index id c d}, Valid t →
    (api.emberAfSetDynamicEndpoint t index id c d).2 = .noError →
      ∀ i, slot (api.emberAfSetDynamicEndpoint t index id c d).1 i =
        if i = index then some (id, c) else slot t i
  slot_set_error : ∀ {t index id c d}, Valid t →
    (api.emberAfSetDynamicEndpoint t index id c d).2 ≠ .noError →
      ∀ i, slot (api.emberAfSetDynamicEndpoint t index id c d).1 i = slot t i
  slot_clear : ∀ {t}, Valid t → ∀ index i,
    slot (api.emberAfClearDynamicEndpoint t index).1 i = if i = index then none else slot t i

namespace SlotTable

variable {Context : Type} {dynamicCount : ℕ} {t : SlotTable Context}

def slot (t : SlotTable Context) (i : ℕ) : Option (ℕ × Context) :=
  (t.find? fun slot => slot.1 = i).map Prod.snd

structure Valid (dynamicCount : ℕ) (t : SlotTable Context) : Prop where
  indices : (t.map Prod.fst).Nodup
  range : ∀ slot ∈ t, slot.1 < dynamicCount

theorem slot_eq_some (h : Valid dynamicCount t) {i : ℕ} {v : ℕ × Context} :
    t.slot i = some v ↔ (i, v) ∈ t := by
  unfold slot
  rw [Option.map_eq_some_iff]
  constructor
  · intro hfound
    obtain ⟨entry, hentry, hv⟩ := hfound
    have hi : entry.1 = i := by simpa using List.find?_some hentry
    rw [← hi, ← hv]
    exact List.mem_of_find?_eq_some hentry
  · intro hmem
    cases hfind : t.find? (fun entry => entry.1 = i) with
    | none => simpa using List.find?_eq_none.mp hfind _ hmem
    | some entry =>
      have hi : entry.1 = i := by simpa using List.find?_some hfind
      have heq := List.inj_on_of_nodup_map h.indices (List.mem_of_find?_eq_some hfind) hmem hi
      exact ⟨entry, rfl, by rw [heq]⟩

theorem slot_filter (index i : ℕ) :
    slot (t.filter fun slot => slot.1 ≠ index) i = if i = index then none else slot t i := by
  unfold slot
  rw [List.find?_filter]
  split_ifs with hi
  · rw [Option.map_eq_none_iff, List.find?_eq_none]
    intro entry _
    simp [hi]
  · congr 2
    funext entry
    by_cases hentry : entry.1 = i
    · simp [hentry, hi]
    · simp [hentry]

theorem Valid.filter (h : Valid dynamicCount t) (p : ℕ × ℕ × Context → Bool) :
    Valid dynamicCount (t.filter p) where
  indices := h.indices.sublist (List.filter_sublist.map _)
  range slot hslot := h.range slot (List.mem_of_mem_filter hslot)

end SlotTable

/-- The slots of the stack's own table, whose indices are below the invalid one. -/
def slotTableSlots (Context : Type) {dynamicCount : ℕ} (hcount : dynamicCount ≤ kInvalidEndpointId) :
    EmberSlots (slotTableApi Context dynamicCount) where
  Valid := SlotTable.Valid dynamicCount
  slot := SlotTable.slot
  valid_empty := ⟨List.nodup_nil, fun _ h => by cases h⟩
  valid_set := by
    intro t h index id c d
    dsimp only [slotTableApi]
    split_ifs with hindex hid hany
    · exact h
    · exact h
    · exact h
    · constructor
      · rw [List.map_cons, List.nodup_cons]
        refine ⟨?_, (h.filter _).indices⟩
        simp
      · intro slot hslot
        rcases List.mem_cons.mp hslot with rfl | hslot
        · exact Nat.lt_of_not_le hindex
        · exact (h.filter _).range slot hslot
  valid_clear := by
    intro t h index
    dsimp only [slotTableApi]
    split
    · exact h.filter _
    · exact h
  slot_empty := fun _ => rfl
  slot_found := by
    intro t id h hfound
    dsimp only [slotTableApi] at hfound ⊢
    cases hfind : t.find? (fun slot => slot.2.1 = id) with
    | none =>
      rw [hfind] at hfound
      exact absurd rfl hfound
    | some slot =>
      have hid : slot.2.1 = id := by simpa using List.find?_some hfind
      refine ⟨slot.2.2, (SlotTable.slot_eq_some h).mpr ?_⟩
      rw [← hid]
      exact List.mem_of_find?_eq_some hfind
  slot_not_found := by
    intro t id h hnot i c hslot
    have hmem := (SlotTable.slot_eq_some h).mp hslot
    dsimp only [slotTableApi] at hnot
    cases hfind : t.find? (fun slot => slot.2.1 = id) with
    | none => simpa using List.find?_eq_none.mp hfind _ hmem
    | some slot =>
      rw [hfind] at hnot
      dsimp only at hnot
      have hrange := h.range slot (List.mem_of_find?_eq_some hfind)
      omega
  slot_set := by
    intro t index id c d h hok i
    dsimp only [slotTableApi] at hok ⊢
    split_ifs at hok ⊢ with hindex hid hany hi
    · rw [SlotTable.slot, hi]
      simp
    · have hcons : SlotTable.slot ((index, id, c) :: t.filter fun slot => slot.1 ≠ index) i =
          SlotTable.slot (t.filter fun slot => slot.1 ≠ index) i := by
        unfold SlotTable.slot
        rw [List.find?_cons_of_neg]
        simpa using fun heq => hi heq.symm
      rw [hcons, SlotTable.slot_filter, if_neg hi]
  slot_set_error := by
    intro t index id c d h herror i
    dsimp only [slotTableApi] at herror ⊢
    split_ifs at herror ⊢
    · rfl
    · rfl
    · rfl
    · exact absurd rfl herror
  slot_clear := by
    intro t h index i
    dsimp only [slotTableApi]
    cases hfind : t.find? (fun slot => slot.1 = index) with
    | some slot => exact SlotTable.slot_filter index i
    | none =>
      dsimp only
      split_ifs with hi
      · rw [SlotTable.slot, hi, hfind]
        rfl
      · rfl

end UnifyMatterBridge
