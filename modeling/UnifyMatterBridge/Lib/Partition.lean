import Mathlib.Logic.Function.Basic
import Mathlib.Tactic.SplitIfs

/-! Stores whose keys belong to owners: stores that agree on the keys of one owner, and stores that are
emptied for some owners. -/
namespace Partition

variable {κ ι ν : Type*} {owner : κ → ι} {i j : ι} {c c' c'' : κ → Option ν} {k : κ}

/-- The stores hold the same under the keys of the owner. -/
def AgreeOn (owner : κ → ι) (i : ι) (c c' : κ → Option ν) : Prop := ∀ k, owner k = i → c k = c' k

theorem AgreeOn.refl (c : κ → Option ν) : AgreeOn owner i c c := fun _ _ => rfl

theorem AgreeOn.symm (h : AgreeOn owner i c c') : AgreeOn owner i c' c :=
  fun k hk => (h k hk).symm

theorem AgreeOn.trans (h : AgreeOn owner i c c') (h' : AgreeOn owner i c' c'') :
    AgreeOn owner i c c'' :=
  fun k hk => (h k hk).trans (h' k hk)

theorem AgreeOn.update [DecidableEq κ] (h : AgreeOn owner i c c') (v : Option ν) :
    AgreeOn owner i (Function.update c k v) (Function.update c' k v) := by
  intro l hl
  rw [Function.update_apply, Function.update_apply, h l hl]

theorem agreeOn_update_of_ne [DecidableEq κ] (hk : owner k ≠ i) (v : Option ν) :
    AgreeOn owner i (Function.update c k v) c := by
  intro l hl
  have hne : l ≠ k := by
    intro heq
    rw [heq] at hl
    exact hk hl
  exact Function.update_of_ne hne _ _

/-- Empties the store under the keys of some owners. -/
def clear (owner : κ → ι) (released : ι → Bool) (c : κ → Option ν) : κ → Option ν :=
  fun k => if released (owner k) then none else c k

variable {released : ι → Bool}

theorem AgreeOn.clear (h : AgreeOn owner i c c') :
    AgreeOn owner i (clear owner released c) (clear owner released c') := by
  intro k hk
  unfold Partition.clear
  rw [h k hk]

theorem agreeOn_clear (hi : released i = true) (c c' : κ → Option ν) :
    AgreeOn owner i (clear owner released c) (clear owner released c') := by
  intro k hk
  have hrel : released (owner k) = true := by rw [hk, hi]
  unfold Partition.clear
  rw [if_pos hrel, if_pos hrel]

theorem clear_eq_self (h : ∀ k, released (owner k) = true → c k = none) :
    clear owner released c = c := by
  funext k
  unfold Partition.clear
  split_ifs with hk
  · exact (h k hk).symm
  · rfl

/-- A copy of a store that is made anew under some keys. -/
def refresh [DecidableEq κ] (keys : List κ) (source copy : κ → Option ν) : κ → Option ν :=
  fun k => if k ∈ keys then source k else copy k

/-- A copy is up to date if it is made anew under every key that has changed. -/
theorem refresh_eq [DecidableEq κ] {keys : List κ} (hkept : k ∉ keys → c' k = c k)
    (h : c'' k = c k) : refresh keys c' c'' k = c' k := by
  unfold refresh
  split_ifs with hk
  · rfl
  · rw [hkept hk, h]

def writeAll [DecidableEq κ] (c : κ → Option ν) (ws : List (κ × ν)) : κ → Option ν :=
  ws.foldl (fun c w => Function.update c w.1 (some w.2)) c

variable [DecidableEq κ] {ws : List (κ × ν)}

theorem writeAll_of_notMem (hk : k ∉ ws.map Prod.fst) : writeAll c ws k = c k := by
  induction ws generalizing c with
  | nil => rfl
  | cons w ws ih =>
    rw [List.map_cons, List.mem_cons, not_or] at hk
    exact (ih hk.2).trans (Function.update_of_ne hk.1 _ _)

theorem writeAll_congr (h : c k = c' k ∨ k ∈ ws.map Prod.fst) :
    writeAll c ws k = writeAll c' ws k := by
  induction ws generalizing c c' with
  | nil =>
    rcases h with h | h
    · exact h
    · cases h
  | cons w ws ih =>
    apply ih
    dsimp only
    rw [Function.update_apply, Function.update_apply]
    split_ifs with hk
    · exact Or.inl rfl
    · rw [List.map_cons, List.mem_cons] at h
      exact h.imp_right fun h => h.resolve_left hk

theorem AgreeOn.writeAll (h : AgreeOn owner i c c') :
    AgreeOn owner i (writeAll c ws) (writeAll c' ws) :=
  fun k hk => writeAll_congr (Or.inl (h k hk))

/-- Emptying a store first makes no difference if it holds nothing that would be emptied and that the
writes do not hide. -/
theorem writeAll_clear_eq_iff : writeAll (clear owner released c) ws = writeAll c ws ↔
    ∀ k, released (owner k) = true → k ∉ ws.map Prod.fst → c k = none := by
  constructor
  · intro h k hrel hk
    have hck := congrFun h k
    rw [writeAll_of_notMem hk, writeAll_of_notMem hk, Partition.clear, if_pos hrel] at hck
    exact hck.symm
  · intro h
    funext k
    apply writeAll_congr
    by_cases hk : k ∈ ws.map Prod.fst
    · exact Or.inr hk
    · left
      unfold Partition.clear
      split_ifs with hrel
      · exact (h k hrel hk).symm
      · rfl

end Partition
