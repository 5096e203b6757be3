import Mathlib.Init

/-! Computations that may end in an exception: inversion of a sequence, those that return, and two
computations that end in the same way with related results. -/
namespace Outcome

variable {ε α β α' β' : Type} {R : α → β → Prop} {S : α' → β' → Prop}

theorem bind_eq_ok {x : Except ε α} {f : α → Except ε β} {b : β} (h : x >>= f = .ok b) :
    ∃ a, x = .ok a ∧ f a = .ok b := by
  cases x with
  | error e => cases h
  | ok a => exact ⟨a, rfl, h⟩

theorem toOption_eq_some {x : Except ε α} {a : α} : x.toOption = some a ↔ x = .ok a := by
  cases x with
  | error e => exact iff_of_false (fun h => nomatch h) (fun h => nomatch h)
  | ok b => exact ⟨fun h => congrArg _ (Option.some.inj h), fun h => congrArg _ (Except.ok.inj h)⟩

def Returns (x : Except ε α) : Prop := ∃ a, x = .ok a

theorem Returns.ok (a : α) : Returns (.ok a : Except ε α) := ⟨a, rfl⟩

theorem Returns.bind {x : Except ε α} {f : α → Except ε β} (hx : Returns x)
    (hf : ∀ a, Returns (f a)) : Returns (x >>= f) := by
  obtain ⟨a, ha⟩ := hx
  rw [ha]
  exact hf a

/-- The same exception, or related results. -/
inductive Same (R : α → β → Prop) : Except ε α → Except ε β → Prop
  | error (e : ε) : Same R (.error e) (.error e)
  | ok {a : α} {b : β} (h : R a b) : Same R (.ok a) (.ok b)

theorem Same.of_eq (x : Except ε α) : Same Eq x x := by
  cases x with
  | error e => exact Same.error e
  | ok a => exact Same.ok rfl

theorem Same.mono {R' : α → β → Prop} {x : Except ε α} {y : Except ε β} (h : Same R x y)
    (hR : ∀ a b, R a b → R' a b) : Same R' x y := by
  cases h with
  | error e => exact Same.error e
  | ok h => exact Same.ok (hR _ _ h)

theorem Same.bind {x : Except ε α} {y : Except ε β} (h : Same R x y) {f : α → Except ε α'}
    {g : β → Except ε β'} (hfg : ∀ a b, R a b → Same S (f a) (g b)) :
    Same S (x >>= f) (y >>= g) := by
  cases h with
  | error e => exact Same.error e
  | ok h => exact hfg _ _ h

theorem Same.bind_left {x : Except ε α} {f : α → Except ε α'} {g : α → Except ε β'}
    (hfg : ∀ a, Same S (f a) (g a)) : Same S (x >>= f) (x >>= g) :=
  (Same.of_eq x).bind fun a _ heq => heq ▸ hfg a

end Outcome
