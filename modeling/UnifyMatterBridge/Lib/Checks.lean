import Mathlib.Data.List.Basic

/-! Sequences of checks that stop at the first one that fails: a check answers yes or no, or ends
with a fault. -/
namespace Checks

variable {ε α β : Type}

theorem allM_eq_ok_true {p : α → Except ε Bool} {l : List α} :
    l.allM p = .ok true ↔ ∀ x ∈ l, p x = .ok true := by
  induction l with
  | nil => simp [pure, Except.pure]
  | cons x l ih =>
    rw [List.allM_cons, List.forall_mem_cons, ← ih]
    cases p x with
    | error e => simp [bind, Except.bind]
    | ok b => cases b <;> simp [bind, Except.bind, pure, Except.pure]

theorem allM_eq_ok_false {p : α → Except ε Bool} {l : List α} :
    l.allM p = .ok false ↔ ∃ before x after, l = before ++ x :: after ∧
      (∀ y ∈ before, p y = .ok true) ∧ p x = .ok false := by
  induction l with
  | nil => simp [pure, Except.pure]
  | cons x l ih =>
    rw [List.allM_cons]
    constructor
    · intro h
      cases hx : p x with
      | error e =>
        rw [hx] at h
        cases h
      | ok b =>
        rw [hx] at h
        cases b with
        | false => exact ⟨[], x, l, rfl, by simp, hx⟩
        | true =>
          obtain ⟨before, y, after, hl, hbefore, hy⟩ := ih.mp h
          refine ⟨x :: before, y, after, by rw [hl, List.cons_append], ?_, hy⟩
          exact List.forall_mem_cons.mpr ⟨hx, hbefore⟩
    · intro h
      obtain ⟨before, y, after, hl, hbefore, hy⟩ := h
      cases before with
      | nil =>
        rw [List.nil_append, List.cons.injEq] at hl
        rw [hl.1, hy]
        rfl
      | cons z before =>
        rw [List.cons_append, List.cons.injEq] at hl
        obtain ⟨hz, hbefore⟩ := List.forall_mem_cons.mp hbefore
        rw [hl.1, hz]
        exact ih.mpr ⟨before, y, after, hl.2, hbefore, hy⟩

theorem allM_singleton {p : α → Except ε Bool} {x : α} : [x].allM p = p x := by
  rw [List.allM_cons]
  cases p x with
  | error e => rfl
  | ok b => cases b <;> rfl

theorem allM_congr {p q : α → Except ε Bool} {l : List α} (h : ∀ x ∈ l, p x = q x) :
    l.allM p = l.allM q := by
  induction l with
  | nil => rfl
  | cons x l ih =>
    obtain ⟨hx, hl⟩ := List.forall_mem_cons.mp h
    rw [List.allM_cons, List.allM_cons, hx, ih hl]

theorem allM_map {f : α → β} {p : β → Except ε Bool} {l : List α} :
    (l.map f).allM p = l.allM fun x => p (f x) := by
  induction l with
  | nil => rfl
  | cons x l ih => rw [List.map_cons, List.allM_cons, List.allM_cons, ih]

theorem allM_append {p : α → Except ε Bool} {l l' : List α} :
    (l ++ l').allM p = do
      if ← l.allM p then l'.allM p
      else return false := by
  induction l with
  | nil => rfl
  | cons x l ih =>
    rw [List.cons_append, List.allM_cons, List.allM_cons, ih]
    cases p x with
    | error e => rfl
    | ok b => cases b <;> rfl

theorem allM_flatMap {f : α → List β} {p : β → Except ε Bool} {l : List α} :
    (l.flatMap f).allM p = l.allM fun x => (f x).allM p := by
  induction l with
  | nil => rfl
  | cons x l ih =>
    rw [List.flatMap_cons, allM_append, List.allM_cons, ih]

/-- A check that answers, and answers whether `P` holds. -/
theorem exists_answer_iff {x : Except ε Bool} {P : Prop} :
    (∃ answer, x = .ok answer ∧ (answer = true ↔ P)) ↔ P ∧ x = .ok true ∨ ¬ P ∧ x = .ok false := by
  constructor
  · intro h
    obtain ⟨answer, hanswer, hiff⟩ := h
    cases answer with
    | true => exact Or.inl ⟨hiff.mp rfl, hanswer⟩
    | false => exact Or.inr ⟨fun hP => Bool.false_ne_true (hiff.mpr hP), hanswer⟩
  · intro h
    cases h with
    | inl h => exact ⟨true, h.2, iff_of_true rfl h.1⟩
    | inr h => exact ⟨false, h.2, iff_of_false Bool.false_ne_true h.1⟩

end Checks
