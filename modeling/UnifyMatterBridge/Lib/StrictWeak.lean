import Mathlib.Data.Set.Function

/-! The laws of a strict weak order on a set of elements, and what becomes of them if a comparison by
a key holds between equal keys, too. -/
namespace StrictWeak

variable {α κ : Type*} {less : α → α → Prop} {S : Set α}

/-- Neither of the two comes first. -/
def Incomparable (less : α → α → Prop) (a b : α) : Prop := ¬ less a b ∧ ¬ less b a

structure On (less : α → α → Prop) (S : Set α) : Prop where
  irrefl : ∀ a ∈ S, ¬ less a a
  asymm : ∀ a ∈ S, ∀ b ∈ S, less a b → ¬ less b a
  trans : ∀ a ∈ S, ∀ b ∈ S, ∀ c ∈ S, less a b → less b c → less a c
  incomp_trans : ∀ a ∈ S, ∀ b ∈ S, ∀ c ∈ S,
    Incomparable less a b → Incomparable less b c → Incomparable less a c

/-- The laws between different elements: nothing is said of an element and itself. -/
structure OnDistinct (less : α → α → Prop) (S : Set α) : Prop where
  asymm : ∀ a ∈ S, ∀ b ∈ S, a ≠ b → less a b → ¬ less b a
  trans : ∀ a ∈ S, ∀ b ∈ S, ∀ c ∈ S, a ≠ c → less a b → less b c → less a c
  incomp_trans : ∀ a ∈ S, ∀ b ∈ S, ∀ c ∈ S, a ≠ c →
    Incomparable less a b → Incomparable less b c → Incomparable less a c

section Keys

variable [LinearOrder κ] {key : α → κ} (hless : ∀ a b, less a b ↔ key a ≤ key b)

include hless

theorem not_incomparable (a b : α) : ¬ Incomparable less a b := by
  intro h
  obtain ⟨hab, hba⟩ := h
  rw [hless] at hab hba
  cases le_total (key a) (key b) with
  | inl hle => exact hab hle
  | inr hle => exact hba hle

theorem on_iff_of_le : On less S ↔ S = ∅ := by
  constructor
  · intro h
    by_contra hne
    obtain ⟨a, ha⟩ := Set.nonempty_iff_ne_empty.mpr hne
    exact h.irrefl a ha ((hless a a).mpr le_rfl)
  · rintro rfl
    exact ⟨by simp, by simp, by simp, by simp⟩

/-- Different elements are compared lawfully if and only if they have different keys. -/
theorem onDistinct_iff_of_le : OnDistinct less S ↔ Set.InjOn key S := by
  constructor
  · intro h a ha b hb hkey
    by_contra hne
    have hab : less a b := (hless a b).mpr hkey.le
    have hba : less b a := (hless b a).mpr hkey.ge
    exact h.asymm a ha b hb hne hab hba
  · intro hinj
    constructor
    · intro a ha b hb hne hab hba
      rw [hless] at hab hba
      exact hne (hinj ha hb (le_antisymm hab hba))
    · intro a _ b _ c _ _ hab hbc
      rw [hless] at hab hbc ⊢
      exact hab.trans hbc
    · intro a _ b _ c _ _ hab
      exact absurd hab (not_incomparable hless a b)

end Keys

end StrictWeak
