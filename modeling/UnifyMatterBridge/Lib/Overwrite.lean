import Mathlib.Data.Set.Basic

/-! Sets of values that are written by key: a value displaces those with its key, so that writing
a list of values again changes nothing. -/
namespace Overwrite

variable {κ β : Type*}

def write (key : β → κ) (S : Set β) (b : β) : Set β := {x | x = b ∨ x ∈ S ∧ key x ≠ key b}

def writeAll (key : β → κ) (S : Set β) (bs : List β) : Set β := bs.foldl (write key) S

variable {key : β → κ} {S T : Set β} {b x : β} {bs : List β}

theorem mem_write : x ∈ write key S b ↔ x = b ∨ x ∈ S ∧ key x ≠ key b := Iff.rfl

@[simp] theorem writeAll_nil : writeAll key S [] = S := rfl

@[simp] theorem writeAll_cons : writeAll key S (b :: bs) = writeAll key (write key S b) bs := rfl

theorem mem_writeAll_of_forall_ne (h : ∀ b ∈ bs, key x ≠ key b) :
    x ∈ writeAll key S bs ↔ x ∈ S := by
  induction bs generalizing S with
  | nil => exact Iff.rfl
  | cons b bs ih =>
    rw [writeAll_cons, ih fun b' hb' => h b' (List.mem_cons_of_mem _ hb'), mem_write]
    have hne : key x ≠ key b := h b List.mem_cons_self
    constructor
    · intro hx
      exact hx.elim (fun heq => absurd (congrArg key heq) hne) And.left
    · exact fun hx => Or.inr ⟨hx, hne⟩

/-- The result depends only on the values whose key is not written. -/
theorem writeAll_congr (h : ∀ x, (∀ b ∈ bs, key x ≠ key b) → (x ∈ S ↔ x ∈ T)) :
    writeAll key S bs = writeAll key T bs := by
  induction bs generalizing S T with
  | nil => exact Set.ext fun x => h x fun b hb => by cases hb
  | cons b bs ih =>
    apply ih
    intro x hx
    rw [mem_write, mem_write]
    by_cases hkey : key x = key b
    · simp only [hkey, ne_eq, not_true_eq_false, and_false]
    · have hsame : x ∈ S ↔ x ∈ T := by
        apply h
        intro b' hb'
        rcases List.mem_cons.mp hb' with rfl | hb'
        · exact hkey
        · exact hx b' hb'
      rw [hsame]

theorem writeAll_writeAll : writeAll key (writeAll key S bs) bs = writeAll key S bs :=
  writeAll_congr fun _ h => mem_writeAll_of_forall_ne h

end Overwrite
