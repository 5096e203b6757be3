import Mathlib.Data.List.Basic
import Mathlib.Data.List.Nodup

/-! Ordered multimaps as the list of their entries in iteration order: insertion after the
entries with an equal key, and lookups whose answer is determined by uniqueness. -/
namespace Multimap

variable {κ β : Type*}

/-- Insert at the upper bound of the range of entries with an equal key. -/
def insert [LT κ] [DecidableLT κ] (key : β → κ) (b : β) : List β → List β
  | [] => [b]
  | c :: cs => if key b < key c then b :: c :: cs else c :: insert key b cs

theorem insert_perm [LT κ] [DecidableLT κ] (key : β → κ) (b : β) (l : List β) :
    (insert key b l).Perm (b :: l) := by
  induction l with
  | nil => exact List.Perm.refl _
  | cons c cs ih =>
    unfold insert
    split_ifs
    · exact List.Perm.refl _
    · exact (ih.cons c).trans (List.Perm.swap b c cs)

@[simp] theorem mem_insert [LT κ] [DecidableLT κ] {key : β → κ} {b x : β} {l : List β} :
    x ∈ insert key b l ↔ x = b ∨ x ∈ l :=
  (insert_perm key b l).mem_iff.trans List.mem_cons

def equalRange [DecidableEq κ] (key : β → κ) (k : κ) (l : List β) : List β :=
  l.filter fun b => key b = k

@[simp] theorem mem_equalRange [DecidableEq κ] {key : β → κ} {k : κ} {l : List β} {x : β} :
    x ∈ equalRange key k l ↔ x ∈ l ∧ key x = k := by simp [equalRange]

/-- A lookup that returns an entry of the key, any of them, if there is one. -/
structure Find (key : β → κ) where
  find : List β → κ → Option β
  find_some : ∀ {l k b}, find l k = some b → b ∈ l ∧ key b = k
  find_none : ∀ {l k}, find l k = none → ∀ b ∈ l, key b ≠ k

def Find.first [DecidableEq κ] (key : β → κ) : Find key where
  find l k := l.find? fun b => key b = k
  find_some h := ⟨List.mem_of_find?_eq_some h, by simpa using List.find?_some h⟩
  find_none h b hb := by simpa using List.find?_eq_none.mp h b hb

theorem find?_eq_of_unique {p : β → Bool} {l : List β} {e : β} (he : e ∈ l) (hp : p e = true)
    (hu : ∀ x ∈ l, p x = true → x = e) : l.find? p = some e := by
  cases hf : l.find? p with
  | none => exact absurd hp (by simpa using List.find?_eq_none.mp hf e he)
  | some x => rw [hu x (List.mem_of_find?_eq_some hf) (List.find?_some hf)]

/-- With distinct keys a search by key does not depend on the order of the entries. -/
theorem find?_eq_of_perm [DecidableEq κ] {key : β → κ} {l l' : List β} (h : l.Perm l')
    (hl : (l.map key).Nodup) (k : κ) :
    l.find? (fun x => key x = k) = l'.find? fun x => key x = k := by
  cases hfind : l'.find? fun x => key x = k with
  | none =>
    refine List.find?_eq_none.mpr fun x hx => ?_
    exact List.find?_eq_none.mp hfind x (h.mem_iff.mp hx)
  | some x =>
    have hx : x ∈ l := h.mem_iff.mpr (List.mem_of_find?_eq_some hfind)
    have hk := List.find?_some hfind
    refine find?_eq_of_unique hx hk fun y hy hky => ?_
    exact List.inj_on_of_nodup_map hl hy hx
      ((of_decide_eq_true hky).trans (of_decide_eq_true hk).symm)

theorem pairwise_insert [LT κ] [DecidableLT κ] {key : β → κ} {R : β → β → Prop}
    (hsymm : ∀ a b, R a b → R b a) {b : β} {l : List β} :
    (insert key b l).Pairwise R ↔ (∀ x ∈ l, R b x) ∧ l.Pairwise R :=
  ((insert_perm key b l).pairwise_iff (fun h => hsymm _ _ h)).trans List.pairwise_cons

theorem exists_of_map_eq {γ : Type*} {f : β → γ} {l l' : List β} (h : l'.map f = l.map f) {x : β}
    (hx : x ∈ l') : ∃ y ∈ l, f y = f x :=
  List.mem_map.mp (h ▸ List.mem_map_of_mem hx)

theorem pairwise_of_map_eq {γ : Type*} {f : β → γ} {l l' : List β} (h : l'.map f = l.map f)
    (R : γ → γ → Prop) (hl : l.Pairwise fun a b => R (f a) (f b)) :
    l'.Pairwise fun a b => R (f a) (f b) := by
  have hmap : (l.map f).Pairwise R := List.pairwise_map.mpr hl
  rw [← h] at hmap
  exact List.pairwise_map.mp hmap

theorem countP_mem_comm [DecidableEq β] {l m : List β} (hl : l.Nodup) (hm : m.Nodup) :
    (l.countP fun a => a ∈ m) = m.countP fun a => a ∈ l := by
  rw [List.countP_eq_length_filter, List.countP_eq_length_filter]
  apply List.Perm.length_eq
  apply (List.perm_ext_iff_of_nodup (hl.filter _) (hm.filter _)).mpr
  intro a
  rw [List.mem_filter, List.mem_filter, decide_eq_true_eq, decide_eq_true_eq]
  exact and_comm

theorem not_of_mem_eraseP {p : β → Bool} {l : List β}
    (hu : l.Pairwise fun a b => ¬(p a = true ∧ p b = true)) {x : β} (hx : x ∈ l.eraseP p) :
    p x = false := by
  induction l with
  | nil => simp at hx
  | cons b l ih =>
    rw [List.pairwise_cons] at hu
    by_cases hb : p b = true
    · rw [List.eraseP_cons_of_pos hb] at hx
      exact Bool.eq_false_iff.mpr fun h => hu.1 x hx ⟨hb, h⟩
    · rw [List.eraseP_cons_of_neg hb, List.mem_cons] at hx
      rcases hx with rfl | hx
      · exact Bool.eq_false_iff.mpr hb
      · exact ih hu.2 hx

end Multimap
