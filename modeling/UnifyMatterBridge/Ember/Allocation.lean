import UnifyMatterBridge.Ember

/-! The search for a Matter endpoint id (`getNextDynamicAvailableEndpointIndex`) as the two loops over
16-bit ids that it is: it ends for every occupancy of the table and every cursor that earlier calls
leave behind, and finds a free id whenever there is one. -/
namespace UnifyMatterBridge

/-- `FIXED_ENDPOINT_COUNT` and `MAX_ENDPOINT_COUNT`, of which nothing but the width is known. -/
structure EndpointRange where
  fixedEndpointCount : ℕ
  maxEndpointCount : ℕ
  fixed_lt : fixedEndpointCount < 65536
  max_le : maxEndpointCount ≤ kInvalidEndpointId

def EndpointCounts.range (counts : EndpointCounts) : EndpointRange where
  fixedEndpointCount := counts.fixedEndpointCount
  maxEndpointCount := counts.maxEndpointCount
  fixed_lt := by
    have hfixed := counts.fixed_le_max
    have hmax := counts.max_le
    unfold kInvalidEndpointId at hmax
    omega
  max_le := counts.max_le

/-- Where the search is: in the loop from the cursor on, or in the one from the fixed endpoints on. -/
inductive IdSearch where
  | fromCursor (id : ℕ)
  | fromFixed (i : ℕ)

namespace EmberApi

variable {Table Context : Type} (api : EmberApi Table Context) (range : EndpointRange) (t : Table)
  (cursor : ℕ)

/-- One round of the loops; the result is the id and the new cursor. -/
def searchRound : IdSearch → IdSearch ⊕ ℕ × ℕ
  | .fromCursor id =>
    if id < range.maxEndpointCount then
      if api.unregistered t id = true ∧ id < range.maxEndpointCount then .inr (id, id)
      else .inl (.fromCursor ((id + 1) % 65536))
    else .inl (.fromFixed range.fixedEndpointCount)
  | .fromFixed i =>
    if i < range.maxEndpointCount then
      if api.unregistered t i then .inr (i, cursor)
      else .inl (.fromFixed ((i + 1) % 65536))
    else .inr (kInvalidEndpointId, cursor)

/-- A call with the table `t` and the cursor returns `id` and leaves `cursor'` behind. -/
def Allocates (id cursor' : ℕ) : Prop :=
  Loop.Ends (api.searchRound range t cursor) (.fromCursor ((cursor + 1) % 65536)) (id, cursor')

/-- The cursors that earlier calls leave behind, whatever was registered at the time of each. -/
inductive ReachableCursor : ℕ → Prop
  | initial : ReachableCursor ((range.fixedEndpointCount + 65535) % 65536)
  | call {cursor id cursor' : ℕ} {t : Table} (h : ReachableCursor cursor)
      (hcall : api.Allocates range t cursor id cursor') : ReachableCursor cursor'

/-- An endpoint id of the range that the table has free. -/
def Free (id : ℕ) : Prop :=
  range.fixedEndpointCount ≤ id ∧ id < range.maxEndpointCount ∧ api.unregistered t id = true

variable {api range t cursor}

theorem succ_mod_of_lt {id : ℕ} (h : id < range.maxEndpointCount) : (id + 1) % 65536 = id + 1 := by
  have hmax := range.max_le
  unfold kInvalidEndpointId at hmax
  omega

theorem ends_fromFixed {i : ℕ} {r : ℕ × ℕ} :
    Loop.Ends (api.searchRound range t cursor) (.fromFixed i) r ↔
      match FirstFit.search (api.unregistered t) i range.maxEndpointCount with
      | some n => r = (n, cursor)
      | none => r = (kInvalidEndpointId, cursor) := by
  have hfound : ∀ n < range.maxEndpointCount, api.unregistered t n = true →
      api.searchRound range t cursor (.fromFixed n) = .inr (n, cursor) := by
    intro n hn hfree
    simp only [searchRound, if_pos hn, if_pos hfree]
  have hnext : ∀ n < range.maxEndpointCount, api.unregistered t n = false →
      api.searchRound range t cursor (.fromFixed n) = .inl (.fromFixed (n + 1)) := by
    intro n hn htaken
    simp only [searchRound, if_pos hn, htaken, Bool.false_eq_true, if_false, succ_mod_of_lt hn]
  have hend : ∀ n, range.maxEndpointCount ≤ n →
      api.searchRound range t cursor (.fromFixed n) = .inr (kInvalidEndpointId, cursor) := by
    intro n hn
    simp only [searchRound, if_neg (Nat.not_lt.mpr hn)]
  rw [FirstFit.ends_iff hfound hnext]
  cases FirstFit.search (api.unregistered t) i range.maxEndpointCount with
  | some n => exact Iff.rfl
  | none => exact Loop.ends_iff_of_done (hend _ (Nat.le_max_right _ _))

theorem ends_fromCursor {i : ℕ} {r : ℕ × ℕ} :
    Loop.Ends (api.searchRound range t cursor) (.fromCursor i) r ↔
      match FirstFit.search (api.unregistered t) i range.maxEndpointCount with
      | some n => r = (n, n)
      | none =>
        Loop.Ends (api.searchRound range t cursor) (.fromFixed range.fixedEndpointCount) r := by
  have hfound : ∀ n < range.maxEndpointCount, api.unregistered t n = true →
      api.searchRound range t cursor (.fromCursor n) = .inr (n, n) := by
    intro n hn hfree
    simp only [searchRound, hfree, hn, and_self, if_true]
  have hnext : ∀ n < range.maxEndpointCount, api.unregistered t n = false →
      api.searchRound range t cursor (.fromCursor n) = .inl (.fromCursor (n + 1)) := by
    intro n hn htaken
    simp only [searchRound, if_pos hn, htaken, Bool.false_eq_true, false_and, if_false,
      succ_mod_of_lt hn]
  have hend : ∀ n, range.maxEndpointCount ≤ n →
      api.searchRound range t cursor (.fromCursor n) =
        .inl (.fromFixed range.fixedEndpointCount) := by
    intro n hn
    simp only [searchRound, if_neg (Nat.not_lt.mpr hn)]
  rw [FirstFit.ends_iff hfound hnext]
  cases FirstFit.search (api.unregistered t) i range.maxEndpointCount with
  | some n => exact Iff.rfl
  | none => exact Loop.ends_iff_of_next (hend _ (Nat.le_max_right _ _))

/-- The two loops end, with what `getNextDynamicAvailableEndpointIndex` finds. -/
theorem allocates_iff {counts : EndpointCounts} {id cursor' : ℕ} :
    api.Allocates counts.range t cursor id cursor' ↔
      (id, cursor') = api.getNextDynamicAvailableEndpointIndex counts t cursor := by
  unfold Allocates getNextDynamicAvailableEndpointIndex
  rw [ends_fromCursor, ends_fromFixed]
  change (match FirstFit.search (api.unregistered t) ((cursor + 1) % 65536)
      counts.maxEndpointCount with
    | some n => (id, cursor') = (n, n)
    | none => match FirstFit.search (api.unregistered t) counts.fixedEndpointCount
        counts.maxEndpointCount with
      | some n => (id, cursor') = (n, cursor)
      | none => (id, cursor') = (kInvalidEndpointId, cursor)) ↔ _
  cases FirstFit.search (api.unregistered t) ((cursor + 1) % 65536) counts.maxEndpointCount with
  | some n => exact Iff.rfl
  | none =>
    cases FirstFit.search (api.unregistered t) counts.fixedEndpointCount
        counts.maxEndpointCount with
    | some n => exact Iff.rfl
    | none => exact Iff.rfl

theorem ReachableCursor.cases (h : api.ReachableCursor range cursor) :
    cursor = (range.fixedEndpointCount + 65535) % 65536 ∨
      range.fixedEndpointCount ≤ cursor ∧ cursor < range.maxEndpointCount := by
  have hfixed := range.fixed_lt
  induction h with
  | initial => exact Or.inl rfl
  | call _ hcall ih =>
    unfold Allocates at hcall
    rw [ends_fromCursor, ends_fromFixed] at hcall
    split at hcall
    · next n hsearch =>
      obtain ⟨hge, hlt, -, -⟩ := FirstFit.search_eq_some.mp hsearch
      cases hcall
      right
      constructor
      · cases ih with
        | inl hinitial => omega
        | inr hwithin =>
          have hmax := range.max_le
          unfold kInvalidEndpointId at hmax
          omega
      · exact hlt
    · split at hcall
      · cases hcall
        exact ih
      · cases hcall
        exact ih

theorem ReachableCursor.start_le (h : api.ReachableCursor range cursor) :
    range.fixedEndpointCount ≤ (cursor + 1) % 65536 ∧
      ∀ n, cursor < n → n < range.maxEndpointCount → (cursor + 1) % 65536 ≤ n := by
  have hfixed := range.fixed_lt
  have hmax := range.max_le
  unfold kInvalidEndpointId at hmax
  constructor
  · cases h.cases with
    | inl hinitial => omega
    | inr hwithin => omega
  · intro n hcursor hn
    omega

variable (api range t cursor) in
/-- What a call is for: a free id if there is one, and one above the cursor if there is one there. -/
structure CompleteAllocation (id : ℕ) : Prop where
  free : (∃ n, api.Free range t n) → api.Free range t id
  invalid_iff : id = kInvalidEndpointId ↔ ¬ ∃ n, api.Free range t n
  above : id ≤ cursor → ∀ n, cursor < n → ¬ api.Free range t n

theorem Free.ne_invalid {id : ℕ} (h : api.Free range t id) : id ≠ kInvalidEndpointId := by
  have hlt := h.2.1
  have hmax := range.max_le
  omega

theorem CompleteAllocation.of_free {id : ℕ} (h : api.Free range t id)
    (habove : id ≤ cursor → ∀ n, cursor < n → ¬ api.Free range t n) :
    api.CompleteAllocation range t cursor id where
  free _ := h
  invalid_iff := iff_of_false h.ne_invalid (not_not_intro ⟨id, h⟩)
  above := habove

theorem CompleteAllocation.of_full (h : ∀ n, ¬ api.Free range t n) :
    api.CompleteAllocation range t cursor kInvalidEndpointId where
  free hfree := absurd hfree (not_exists.mpr h)
  invalid_iff := iff_of_true rfl (not_exists.mpr h)
  above _ n _ := h n

end EmberApi

/-- The search ends and is complete, whatever is registered and whatever was when earlier calls were
made. -/
theorem EmberApi.exists_complete_allocation {Table Context : Type} (api : EmberApi Table Context)
    (range : EndpointRange) (t : Table) {cursor : ℕ} (h : api.ReachableCursor range cursor) :
    ∃ id cursor', api.Allocates range t cursor id cursor' ∧
      api.CompleteAllocation range t cursor id := by
  obtain ⟨hstart, habove⟩ := h.start_le
  unfold Allocates
  simp only [ends_fromCursor, ends_fromFixed]
  cases hsearch : FirstFit.search (api.unregistered t) ((cursor + 1) % 65536)
      range.maxEndpointCount with
  | some id =>
    obtain ⟨hge, hlt, hfree, -⟩ := FirstFit.search_eq_some.mp hsearch
    refine ⟨id, id, rfl, CompleteAllocation.of_free ⟨Nat.le_trans hstart hge, hlt, hfree⟩ ?_⟩
    -- Only the cursor 65535 before a range that starts at 0 has an id at or below it here.
    intro hle n hcursor hn
    have hmax := range.max_le
    have hlast := hn.2.1
    unfold kInvalidEndpointId at hmax
    omega
  | none =>
    have hnone : ∀ n, cursor < n → ¬ api.Free range t n := by
      intro n hcursor hn
      have htaken := FirstFit.search_eq_none.mp hsearch n (habove n hcursor hn.2.1) hn.2.1
      rw [hn.2.2] at htaken
      cases htaken
    cases hfixed : FirstFit.search (api.unregistered t) range.fixedEndpointCount
        range.maxEndpointCount with
    | some id =>
      obtain ⟨hge, hlt, hfree, -⟩ := FirstFit.search_eq_some.mp hfixed
      exact ⟨id, cursor, rfl, CompleteAllocation.of_free ⟨hge, hlt, hfree⟩ fun _ => hnone⟩
    | none =>
      refine ⟨kInvalidEndpointId, cursor, rfl, CompleteAllocation.of_full fun n hn => ?_⟩
      have htaken := FirstFit.search_eq_none.mp hfixed n hn.1 hn.2.1
      rw [hn.2.2] at htaken
      cases htaken

def threeDynamicEndpoints : EndpointRange where
  fixedEndpointCount := 3
  maxEndpointCount := 6
  fixed_lt := by omega
  max_le := by
    unfold kInvalidEndpointId
    omega

/-- The first call of a process, with the first two dynamic endpoints occupied. -/
theorem EmberApi.exists_complete_allocation_initial :
    ∃ id cursor', (slotTableApi Unit 3).Allocates threeDynamicEndpoints [(0, 3, ()), (1, 4, ())]
        ((threeDynamicEndpoints.fixedEndpointCount + 65535) % 65536) id cursor' ∧
      (slotTableApi Unit 3).CompleteAllocation threeDynamicEndpoints [(0, 3, ()), (1, 4, ())]
        ((threeDynamicEndpoints.fixedEndpointCount + 65535) % 65536) id :=
  EmberApi.exists_complete_allocation (slotTableApi Unit 3) threeDynamicEndpoints
    [(0, 3, ()), (1, 4, ())] EmberApi.ReachableCursor.initial

end UnifyMatterBridge
