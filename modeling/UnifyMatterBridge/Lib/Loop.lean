import Mathlib.Data.Nat.Notation

/-! Loops as step functions without a budget: what a loop ends with, and non-termination by a set of
states that no step leaves. -/
namespace Loop

variable {σ ρ : Type*} {step : σ → σ ⊕ ρ} {s s' : σ} {r r' : ρ}

/-- The loop goes from `s` through finitely many rounds to its end, with the result `r`. -/
inductive Ends (step : σ → σ ⊕ ρ) : σ → ρ → Prop
  | done {s : σ} {r : ρ} (h : step s = .inr r) : Ends step s r
  | next {s s' : σ} {r : ρ} (h : step s = .inl s') (h' : Ends step s' r) : Ends step s r

theorem ends_iff_of_done (h : step s = .inr r) : Ends step s r' ↔ r' = r := by
  constructor
  · intro hends
    cases hends with
    | done h' => exact Sum.inr.inj (h'.symm.trans h)
    | next h' _ =>
      rw [h'] at h
      cases h
  · intro heq
    rw [heq]
    exact Ends.done h

theorem ends_iff_of_next (h : step s = .inl s') : Ends step s r ↔ Ends step s' r := by
  constructor
  · intro hends
    cases hends with
    | done h' =>
      rw [h'] at h
      cases h
    | next h' hrest =>
      rw [h'] at h
      rwa [← Sum.inl.inj h]
  · exact Ends.next h

theorem Ends.unique (h : Ends step s r) (h' : Ends step s r') : r = r' := by
  induction h with
  | done hstep => exact ((ends_iff_of_done hstep).mp h').symm
  | next hstep _ ih => exact ih ((ends_iff_of_next hstep).mp h')

/-- A loop that stays in a set of states without a result never ends. -/
theorem not_ends {I : σ → Prop} (hnext : ∀ s, I s → ∃ s', step s = .inl s' ∧ I s') (hs : I s) :
    ¬ Ends step s r := by
  intro h
  induction h with
  | done hstep =>
    obtain ⟨s', hinl, -⟩ := hnext _ hs
    rw [hstep] at hinl
    cases hinl
  | next hstep _ ih =>
    obtain ⟨s', hinl, hs'⟩ := hnext _ hs
    rw [hstep] at hinl
    exact ih (Sum.inl.inj hinl ▸ hs')

end Loop
