import Mathlib.Data.List.Basic

/-! Textual keys ending in a separator and a decimal number. The separator is not a digit, so
the last one splits the key, whatever the text before it. -/
namespace DecimalKey

theorem append_cons_inj {α : Type*} {sep : α} {a b c d : List α} (hb : sep ∉ b) (hd : sep ∉ d) :
    a ++ sep :: b = c ++ sep :: d ↔ a = c ∧ b = d := by
  constructor
  · intro h
    rcases List.append_eq_append_iff.mp h with ⟨e, rfl, he⟩ | ⟨e, rfl, he⟩
    · cases e with
      | nil => simpa using he
      | cons x e =>
        obtain ⟨-, rfl⟩ := List.cons.inj he
        exact absurd (by simp) hb
    · cases e with
      | nil => simpa [eq_comm] using he
      | cons x e =>
        obtain ⟨-, rfl⟩ := List.cons.inj he
        exact absurd (by simp) hd
  · rintro ⟨rfl, rfl⟩
    rfl

theorem append_cons_inj_left {α : Type*} {sep : α} {a b c d : List α} (ha : sep ∉ a) (hc : sep ∉ c) :
    a ++ sep :: b = c ++ sep :: d ↔ a = c ∧ b = d := by
  have hreverse : ∀ x y : List α, (x ++ sep :: y).reverse = y.reverse ++ sep :: x.reverse := by
    intro x y
    rw [List.reverse_append, List.reverse_cons, List.append_assoc, List.singleton_append]
  rw [← List.reverse_inj, hreverse, hreverse,
    append_cons_inj (mt List.mem_reverse.mp ha) (mt List.mem_reverse.mp hc), List.reverse_inj,
    List.reverse_inj, and_comm]

theorem isDigit_of_mem_toString {n : ℕ} {c : Char} (h : c ∈ (toString n).toList) :
    c.isDigit = true := by
  rw [Nat.toString_eq_repr, Nat.toList_repr] at h
  exact Nat.isDigit_of_mem_toDigits (by decide) (by decide) h

theorem toString_inj {m n : ℕ} : toString m = toString n ↔ m = n := by
  refine ⟨fun h => ?_, congrArg toString⟩
  have hd : Nat.toDigits 10 m = Nat.toDigits 10 n := by
    simpa only [Nat.toString_eq_repr, Nat.toList_repr] using congrArg String.toList h
  simpa only [Nat.ofDigitChars_ten_toDigits] using congrArg (Nat.ofDigitChars 10 · 0) hd

theorem key_inj (sep : Char) (hsep : sep.isDigit = false) {s t : String} {m n : ℕ} :
    s ++ String.singleton sep ++ toString m = t ++ String.singleton sep ++ toString n ↔
      s = t ∧ m = n := by
  have hm : ∀ k : ℕ, sep ∉ (toString k).toList := fun k h => by
    rw [isDigit_of_mem_toString h] at hsep
    cases hsep
  rw [← String.toList_inj, ← @String.toList_inj s t, ← @toString_inj m n,
    ← @String.toList_inj (toString m)]
  simpa using append_cons_inj (hm m) (hm n)

end DecimalKey
