import Mathlib.Order.Lattice
import Mathlib.Data.List.Basic

/-! Walks over a list that select every element which is at most the best one so far. On a list that
is sorted by a preorder, what is selected does not depend on the order of ties. -/
namespace RunningMinimum

variable {α β : Type*} [LinearOrder α] (f : β → α)

/-- The elements selected after `best`. -/
def records : β → List β → List β
  | _, [] => []
  | best, x :: l => if f x ≤ f best then x :: records x l else records best l

def selection : List β → List β
  | [] => []
  | best :: l => (best :: records f best l).reverse

variable {f} {best x y : β} {l : List β}

theorem foldl_eq_records {γ : Type*} (g : β → γ) (acc : List γ) :
    (l.foldl (fun s x => if f x ≤ f s.1 then (x, g x :: s.2) else s) (best, acc)).2 =
      ((records f best l).reverse.map g) ++ acc := by
  induction l generalizing best acc with
  | nil => rfl
  | cons x l ih =>
    rw [List.foldl_cons, records]
    dsimp only
    split_ifs
    · rw [ih, List.reverse_cons, List.map_append, List.append_assoc]
      rfl
    · exact ih acc

theorem records_le (h : x ∈ records f best l) : f x ≤ f best := by
  induction l generalizing best with
  | nil => cases h
  | cons y l ih =>
    unfold records at h
    split_ifs at h with hy
    · rcases List.mem_cons.mp h with rfl | h
      · exact hy
      · exact (ih h).trans hy
    · exact ih h

theorem pairwise_records : (best :: records f best l).Pairwise fun a b => f b ≤ f a := by
  induction l generalizing best with
  | nil => exact List.pairwise_singleton _ _
  | cons y l ih =>
    unfold records
    split_ifs with hy
    · refine List.pairwise_cons.mpr ⟨fun z hz => ?_, ih⟩
      rcases List.mem_cons.mp hz with rfl | hz
      · exact hy
      · exact (records_le hz).trans hy
    · exact ih

theorem mem_records : x ∈ records f best l ↔
    ∃ before after, l = before ++ x :: after ∧ f x ≤ f best ∧ ∀ y ∈ before, f x ≤ f y := by
  induction l generalizing best with
  | nil => simp [records]
  | cons z l ih =>
    constructor
    · intro h
      have hbest := records_le h
      unfold records at h
      split_ifs at h with hz
      · rcases List.mem_cons.mp h with rfl | h
        · exact ⟨[], l, rfl, hz, by simp⟩
        · obtain ⟨before, after, hl, hx, hbefore⟩ := ih.mp h
          refine ⟨z :: before, after, by rw [hl, List.cons_append], hbest, ?_⟩
          exact List.forall_mem_cons.mpr ⟨hx, hbefore⟩
      · obtain ⟨before, after, hl, hx, hbefore⟩ := ih.mp h
        refine ⟨z :: before, after, by rw [hl, List.cons_append], hbest, ?_⟩
        exact List.forall_mem_cons.mpr ⟨hx.trans (le_of_not_ge hz), hbefore⟩
    · intro h
      obtain ⟨before, after, hl, hx, hbefore⟩ := h
      unfold records
      cases before with
      | nil =>
        rw [List.nil_append, List.cons.injEq] at hl
        rw [hl.1, if_pos hx]
        exact List.mem_cons_self
      | cons w before =>
        rw [List.cons_append, List.cons.injEq] at hl
        obtain ⟨hw, hbefore⟩ := List.forall_mem_cons.mp hbefore
        split_ifs
        · refine List.mem_cons_of_mem _ (ih.mpr ⟨before, after, hl.2, ?_, hbefore⟩)
          rw [hl.1]
          exact hw
        · exact ih.mpr ⟨before, after, hl.2, hx, hbefore⟩

/-- An element is selected if it is at most all those before it. -/
theorem mem_selection : x ∈ selection f l ↔
    ∃ before after, l = before ++ x :: after ∧ ∀ y ∈ before, f x ≤ f y := by
  cases l with
  | nil => simp [selection]
  | cons best l =>
    rw [selection, List.mem_reverse, List.mem_cons, mem_records]
    constructor
    · intro h
      rcases h with rfl | ⟨before, after, hl, hx, hbefore⟩
      · exact ⟨[], l, rfl, by simp⟩
      · refine ⟨best :: before, after, by rw [hl, List.cons_append], ?_⟩
        exact List.forall_mem_cons.mpr ⟨hx, hbefore⟩
    · intro h
      obtain ⟨before, after, hl, hbefore⟩ := h
      cases before with
      | nil =>
        rw [List.nil_append, List.cons.injEq] at hl
        exact Or.inl hl.1.symm
      | cons y before =>
        rw [List.cons_append, List.cons.injEq] at hl
        obtain ⟨hy, hbefore⟩ := List.forall_mem_cons.mp hbefore
        right
        refine ⟨before, after, hl.2, ?_, hbefore⟩
        rw [hl.1]
        exact hy

theorem pairwise_selection : (selection f l).Pairwise fun a b => f a ≤ f b := by
  cases l with
  | nil => exact List.Pairwise.nil
  | cons best l => exact List.pairwise_reverse.mpr pairwise_records

theorem selection_eq_nil : selection f l = [] ↔ l = [] := by
  cases l with
  | nil => simp [selection]
  | cons best l => simp [selection]

theorem exists_record_le (hy : y ∈ best :: l) : ∃ z ∈ best :: records f best l, f z ≤ f y := by
  induction l generalizing best with
  | nil => exact ⟨y, hy, le_refl _⟩
  | cons x l ih =>
    unfold records
    rcases List.mem_cons.mp hy with rfl | hy
    · exact ⟨y, List.mem_cons_self, le_refl _⟩
    · split_ifs with hx
      · obtain ⟨z, hz, hle⟩ := ih hy
        exact ⟨z, List.mem_cons_of_mem _ hz, hle⟩
      · rcases List.mem_cons.mp hy with rfl | hy
        · exact ⟨best, List.mem_cons_self, le_of_not_ge hx⟩
        · exact ih (List.mem_cons_of_mem _ hy)

/-- The element selected last is a minimum of the list. -/
theorem head_selection_le {rest : List β} (h : selection f l = x :: rest) (hy : y ∈ l) :
    f x ≤ f y := by
  cases l with
  | nil => cases hy
  | cons best l =>
    obtain ⟨z, hz, hle⟩ := exists_record_le (f := f) hy
    have hsorted : (x :: rest).Pairwise fun a b => f a ≤ f b := h ▸ pairwise_selection
    have hmem : z ∈ x :: rest := by
      rw [← h, selection, List.mem_reverse]
      exact hz
    rcases List.mem_cons.mp hmem with rfl | hmem
    · exact hle
    · exact ((List.pairwise_cons.mp hsorted).1 z hmem).trans hle

/-- On a sorted list with equal values for ties, an element is selected if it is at most all those
that are not sorted after it. -/
theorem mem_selection_of_sorted {r : β → β → Prop} (hl : l.Pairwise r)
    (htie : ∀ a ∈ l, ∀ b ∈ l, r a b → r b a → f a = f b) :
    x ∈ selection f l ↔ x ∈ l ∧ ∀ y ∈ l, r y x → f x ≤ f y := by
  rw [mem_selection]
  constructor
  · intro h
    obtain ⟨before, after, hsplit, hbefore⟩ := h
    have hx : x ∈ l := by
      rw [hsplit]
      exact List.mem_append_right _ List.mem_cons_self
    refine ⟨hx, fun y hy hyx => ?_⟩
    have hy' := hy
    rw [hsplit, List.mem_append, List.mem_cons] at hy'
    rcases hy' with hy' | rfl | hy'
    · exact hbefore y hy'
    · exact le_refl _
    · rw [hsplit] at hl
      have hxy : r x y := (List.pairwise_cons.mp (List.pairwise_append.mp hl).2.1).1 y hy'
      exact le_of_eq (htie x hx y hy hxy hyx)
  · intro h
    obtain ⟨hx, hle⟩ := h
    obtain ⟨before, after, hsplit⟩ := List.append_of_mem hx
    refine ⟨before, after, hsplit, fun y hy => hle y ?_ ?_⟩
    · rw [hsplit]
      exact List.mem_append_left _ hy
    · rw [hsplit] at hl
      exact (List.pairwise_append.mp hl).2.2 y hy x List.mem_cons_self

end RunningMinimum
