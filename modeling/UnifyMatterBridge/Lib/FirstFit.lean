import UnifyMatterBridge.Lib.Loop
import Mathlib.Data.List.Basic

/-! First-fit search of an interval of numbers, and its restart from a cursor: the search goes
up from the cursor first, and over the whole interval only if that finds nothing. -/
namespace FirstFit

variable {p : ℕ → Bool} {lo hi c n : ℕ}

/-- `n` is the least number of `[lo, hi)` that satisfies `p`. -/
def Least (p : ℕ → Bool) (lo hi n : ℕ) : Prop :=
  lo ≤ n ∧ n < hi ∧ p n = true ∧ ∀ m, lo ≤ m → m < n → p m = false

/-- The loop `for (n = lo; n < hi; n++) if (p(n)) return n;`. -/
def search (p : ℕ → Bool) (lo hi : ℕ) : Option ℕ := (List.range' lo (hi - lo)).find? p

theorem search_eq_some : search p lo hi = some n ↔ Least p lo hi n := by
  simp only [search, List.find?_range'_eq_some, Least, Bool.not_eq_true']
  constructor
  · rintro ⟨hp, hmem, hlt⟩
    have := List.mem_range'_1.mp hmem
    exact ⟨by omega, by omega, hp, hlt⟩
  · rintro ⟨hlo, hhi, hp, hlt⟩
    exact ⟨hp, List.mem_range'_1.mpr (by omega), hlt⟩

theorem search_eq_none : search p lo hi = none ↔ ∀ n, lo ≤ n → n < hi → p n = false := by
  simp only [search, List.find?_eq_none, List.mem_range'_1, Bool.not_eq_true]
  exact ⟨fun h n hlo hhi => h n ⟨hlo, by omega⟩, fun h n hn => h n hn.1 (by omega)⟩

theorem search_of_le (h : hi ≤ lo) : search p lo hi = none :=
  search_eq_none.mpr fun n hlo hn => by omega

theorem search_of_lt (h : lo < hi) :
    search p lo hi = if p lo then some lo else search p (lo + 1) hi := by
  have hlength : hi - lo = hi - (lo + 1) + 1 := by omega
  unfold search
  rw [hlength, List.range'_succ, List.find?_cons]
  cases p lo <;> rfl

/-- A loop that steps from one number to the next is a search: it ends where the search finds a number,
and leaves the interval if there is none. -/
theorem ends_iff {σ ρ : Type*} {step : σ → σ ⊕ ρ} {loc : ℕ → σ} {found : ℕ → ρ} {r : ρ}
    (hfound : ∀ n < hi, p n = true → step (loc n) = .inr (found n))
    (hnext : ∀ n < hi, p n = false → step (loc n) = .inl (loc (n + 1))) :
    Loop.Ends step (loc lo) r ↔
      match search p lo hi with
      | some n => r = found n
      | none => Loop.Ends step (loc (max lo hi)) r := by
  induction hd : hi - lo generalizing lo with
  | zero =>
    have hle : hi ≤ lo := by omega
    rw [search_of_le hle, Nat.max_eq_left hle]
  | succ d ih =>
    have hlt : lo < hi := by omega
    rw [search_of_lt hlt]
    cases hp : p lo with
    | true =>
      rw [if_pos rfl]
      exact Loop.ends_iff_of_done (hfound lo hlt hp)
    | false =>
      have hmax : max (lo + 1) hi = max lo hi := by omega
      rw [if_neg Bool.false_ne_true, Loop.ends_iff_of_next (hnext lo hlt hp), ih (by omega), hmax]

theorem Least.unique {m : ℕ} (hn : Least p lo hi n) (hm : Least p lo hi m) : n = m :=
  Option.some.inj ((search_eq_some.mpr hn).symm.trans (search_eq_some.mpr hm))

/-- `n` is what a search from the cursor `c` that falls back on `[lo, hi)` finds. -/
def Next (p : ℕ → Bool) (c lo hi n : ℕ) : Prop :=
  Least p c hi n ∨ (∀ m, c ≤ m → m < hi → p m = false) ∧ Least p lo hi n

theorem search_orElse_eq_some :
    (search p c hi).orElse (fun _ => search p lo hi) = some n ↔ Next p c lo hi n := by
  cases h : search p c hi with
  | some m =>
    have hm := search_eq_some.mp h
    constructor
    · intro he
      exact .inl (Option.some.inj he ▸ hm)
    · rintro (hn | ⟨hno, -⟩)
      · rw [hm.unique hn]
        rfl
      · exact absurd hm.2.2.1 (by simp [hno m hm.1 hm.2.1])
  | none =>
    have hno := search_eq_none.mp h
    constructor
    · intro he
      exact .inr ⟨hno, search_eq_some.mp he⟩
    · rintro (⟨hcn, hn, hp, -⟩ | ⟨-, hn⟩)
      · simp [hno n hcn hn] at hp
      · exact search_eq_some.mpr hn

end FirstFit
