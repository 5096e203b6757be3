import UnifyMatterBridge.Lib.Multimap
import Mathlib.Logic.Function.Basic
import Mathlib.Tactic.SplitIfs

/-! Lists with at most one entry of each key, seen as partial functions: what the view of a list
becomes when an entry is put in the place of that of its key, and when entries are dropped or
changed. -/
namespace KeyedView

variable {κ β ν : Type*} [DecidableEq κ]

/-- What is seen of the entry of a key. -/
def view (key : β → κ) (f : β → ν) (l : List β) (k : κ) : Option ν :=
  (l.find? fun b => key b = k).map f

variable {key : β → κ} {f : β → ν} {l l' : List β} {k : κ} {v : ν} {b : β}

theorem view_eq_none : view key f l k = none ↔ ∀ b ∈ l, key b ≠ k := by
  unfold view
  rw [Option.map_eq_none_iff, List.find?_eq_none]
  simp

theorem view_of_mem (hl : l.Pairwise fun a b => key a ≠ key b) (hb : b ∈ l) :
    view key f l (key b) = some (f b) := by
  have hnodup : (l.map key).Nodup := List.pairwise_map.mpr hl
  have hfind : (l.find? fun x => key x = key b) = some b := by
    apply Multimap.find?_eq_of_unique hb (by simp)
    exact fun x hx hkey => List.inj_on_of_nodup_map hnodup hx hb (of_decide_eq_true hkey)
  unfold view
  rw [hfind, Option.map_some]

theorem view_eq_some (hl : l.Pairwise fun a b => key a ≠ key b) :
    view key f l k = some v ↔ ∃ b ∈ l, key b = k ∧ f b = v := by
  constructor
  · intro h
    obtain ⟨b, hb, hv⟩ := Option.map_eq_some_iff.mp h
    have hk : key b = k := by simpa using List.find?_some hb
    exact ⟨b, List.mem_of_find?_eq_some hb, hk, hv⟩
  · intro h
    obtain ⟨b, hb, hk, hv⟩ := h
    rw [← hk, view_of_mem hl hb, hv]

theorem view_congr (hl : l.Pairwise fun a b => key a ≠ key b)
    (hl' : l'.Pairwise fun a b => key a ≠ key b)
    (h : ∀ x, key x = k → (x ∈ l' ↔ x ∈ l)) : view key f l' k = view key f l k := by
  ext v
  rw [view_eq_some hl, view_eq_some hl']
  constructor
  · intro hv
    obtain ⟨x, hx, hk, hv⟩ := hv
    exact ⟨x, (h x hk).mp hx, hk, hv⟩
  · intro hv
    obtain ⟨x, hx, hk, hv⟩ := hv
    exact ⟨x, (h x hk).mpr hx, hk, hv⟩

theorem view_replace (hl : l.Pairwise fun a b => key a ≠ key b)
    (hl' : l'.Pairwise fun a b => key a ≠ key b)
    (h : ∀ x, x ∈ l' ↔ x = b ∨ x ∈ l ∧ key x ≠ key b) :
    view key f l' = Function.update (view key f l) (key b) (some (f b)) := by
  funext k
  rw [Function.update_apply]
  split_ifs with hk
  · rw [hk]
    exact view_of_mem hl' ((h b).mpr (Or.inl rfl))
  · apply view_congr hl hl'
    intro x hx
    have hne : key x ≠ key b := hx ▸ hk
    rw [h]
    constructor
    · intro hmem
      exact hmem.elim (fun heq => absurd (congrArg key heq) hne) And.left
    · exact fun hmem => Or.inr ⟨hmem, hne⟩

theorem view_filter (p : κ → Bool) :
    view key f (l.filter fun b => p (key b)) k = if p k then view key f l k else none := by
  split_ifs with hk
  · unfold view
    rw [List.find?_filter]
    congr 2
    funext x
    by_cases hx : key x = k
    · simp [hx, hk]
    · simp [hx]
  · rw [view_eq_none]
    intro x hx heq
    have hp := (List.mem_filter.mp hx).2
    rw [heq] at hp
    exact hk hp

theorem view_map {g : β → β} {h : κ → ν → ν} (hkey : ∀ b, key (g b) = key b)
    (hf : ∀ b, f (g b) = h (key b) (f b)) :
    view key f (l.map g) k = (view key f l k).map (h k) := by
  unfold view
  rw [List.find?_map]
  have hsame : ((fun b => decide (key b = k)) ∘ g) = fun b => decide (key b = k) := by
    funext b
    simp [hkey]
  rw [hsame, Option.map_map, Option.map_map]
  cases hfind : l.find? fun b => decide (key b = k) with
  | none => rfl
  | some b =>
    have hk : key b = k := by simpa using List.find?_some hfind
    simp [hf, hk]

def put (d : κ → Option ν) (k : κ) : Option ν → κ → Option ν
  | none => d
  | some v => Function.update d k (some v)

@[simp] theorem put_self (d : κ → Option ν) (k : κ) (v : Option ν) : put d k v k = v.or (d k) := by
  cases v with
  | none => rfl
  | some v => exact Function.update_self _ _ _

theorem put_of_ne (d : κ → Option ν) {k k' : κ} (h : k' ≠ k) (v : Option ν) :
    put d k v k' = d k' := by
  cases v with
  | none => rfl
  | some v => exact Function.update_of_ne h _ _

/-- A loop that writes under distinct keys writes what a search finds for each key. -/
theorem foldl_put {α : Type*} {w : α → κ} {g : α → Option ν} {as : List α}
    (hw : (as.map w).Nodup) (d : κ → Option ν) (k : κ) :
    as.foldl (fun d a => put d (w a) (g a)) d k =
      ((as.find? fun a => w a = k).bind g).or (d k) := by
  induction as generalizing d with
  | nil => rfl
  | cons a as ih =>
    rw [List.map_cons, List.nodup_cons] at hw
    rw [List.foldl_cons, ih hw.2]
    by_cases hk : w a = k
    · have hnone : (as.find? fun a => w a = k) = none := by
        rw [List.find?_eq_none]
        intro x hx
        have hne : w x ≠ w a := fun heq => hw.1 (heq ▸ List.mem_map_of_mem hx)
        simpa [← hk] using hne
      rw [hnone, List.find?_cons_of_pos (by simpa using hk), ← hk, put_self]
      rfl
    · rw [List.find?_cons_of_neg (by simpa using hk), put_of_ne d (Ne.symm hk)]

end KeyedView
