import Mathlib.Data.List.Nodup
import Mathlib.Data.List.Pairwise

/-! Tables from names to ids, and lists of names that are translated by them: names without an id are
left out. -/
namespace NameTable

variable {κ ι : Type*}

section Lookup

variable [BEq κ] [LawfulBEq κ] {table : List (κ × ι)} {a b : κ} {i : ι}

theorem mem_of_lookup (h : table.lookup a = some i) : (a, i) ∈ table := by
  obtain ⟨before, after, htable, -⟩ := List.lookup_eq_some_iff.mp h
  rw [htable]
  exact List.mem_append_right _ List.mem_cons_self

theorem lookup_isSome_of_mem (h : (a, i) ∈ table) : ∃ j, table.lookup a = some j := by
  cases hlookup : table.lookup a with
  | some j => exact ⟨j, rfl⟩
  | none =>
    have hne := List.lookup_eq_none_iff.mp hlookup (a, i) h
    simp at hne

theorem lookup_of_mem (hnames : (table.map Prod.fst).Nodup) (h : (a, i) ∈ table) :
    table.lookup a = some i := by
  obtain ⟨j, hj⟩ := lookup_isSome_of_mem h
  have heq : (a, j) = (a, i) := List.inj_on_of_nodup_map hnames (mem_of_lookup hj) h rfl
  rw [hj, (Prod.mk.inj heq).2]

theorem nodup_names_iff (hids : (table.map Prod.snd).Nodup) :
    (table.map Prod.fst).Nodup ↔ ∀ e ∈ table, table.lookup e.1 = some e.2 := by
  constructor
  · intro hnames e he
    exact lookup_of_mem hnames he
  · intro h
    refine List.Nodup.map_on (fun e he f hf hef => ?_) hids.of_map
    have hids_eq : e.2 = f.2 := by
      have hlookup := h e he
      rw [hef, h f hf] at hlookup
      exact (Option.some.inj hlookup).symm
    exact Prod.ext hef hids_eq

/-- A table without an id that has two names is injective. -/
theorem lookup_inj (hids : (table.map Prod.snd).Nodup) (ha : table.lookup a = some i)
    (hb : table.lookup b = some i) : a = b :=
  congrArg Prod.fst (List.inj_on_of_nodup_map hids (mem_of_lookup ha) (mem_of_lookup hb) rfl)

end Lookup

variable {f : κ → Option ι} {names : List κ}

theorem nodup_filterMap (hnames : names.Nodup) : (names.filterMap f).Nodup ↔
    ∀ a ∈ names, ∀ b ∈ names, ∀ i, f a = some i → f b = some i → a = b := by
  let R (a b : κ) : Prop := ∀ i, f a = some i → ∀ j, f b = some j → i ≠ j
  have hsymm : Std.Symm R := ⟨fun a b h i hi j hj => (h j hj i hi).symm⟩
  have hpairs : (names.filterMap f).Nodup ↔ names.Pairwise R := List.pairwise_filterMap
  rw [hpairs]
  constructor
  · intro h a ha b hb i hai hbi
    by_contra hne
    exact h.forall ha hb hne i hai i hbi rfl
  · intro h
    refine List.Nodup.pairwise_of_forall_ne hnames fun a ha b hb hne i hai j hbj hij => ?_
    exact hne (h a ha b hb i hai (hij ▸ hbj))

theorem nodup_filterMap_lookup [BEq κ] [LawfulBEq κ] {table : List (κ × ι)}
    (hids : (table.map Prod.snd).Nodup) (hnames : names.Nodup) :
    (names.filterMap fun a => table.lookup a).Nodup :=
  (nodup_filterMap hnames).mpr fun _ _ _ _ _ ha hb => lookup_inj hids ha hb

theorem nodup_filterMap_append {added : List ι} :
    (names.filterMap f ++ added).Nodup ↔ (names.filterMap f).Nodup ∧ added.Nodup ∧
      ∀ a ∈ names, ∀ i ∈ added, f a ≠ some i := by
  rw [List.nodup_append]
  refine and_congr_right fun _ => and_congr_right fun _ => ?_
  constructor
  · intro h a ha i hi hai
    exact h i (List.mem_filterMap.mpr ⟨a, ha, hai⟩) i hi rfl
  · intro h i hi j hj hij
    obtain ⟨a, ha, hai⟩ := List.mem_filterMap.mp hi
    exact h a ha j hj (hij ▸ hai)

end NameTable
