import UnifyMatterBridge.DataStorage

/-! The keys of the two mappings in the one store: within each mapping they are distinct, but an
endpoint and a group can have the same key. -/
namespace UnifyMatterBridge

theorem KeyValueStore.get_put_of_ok {s : KeyValueStore} {key : String} {v : ℕ}
    (h : (s.put key v).2 = true) (k : String) :
    (s.put key v).1.get k = if k = key then some v else s.get k := by
  unfold put at h ⊢
  cases hfails : s.putFails s.puts with
  | true =>
    rw [hfails] at h
    cases h
  | false =>
    simp only [Bool.false_eq_true, if_false, get, Function.update_apply]

/-- What a value is persisted for. -/
inductive DataKey where
  | endpoint (unifyUnid : String) (unifyEndpoint : ℕ)
  | group (fabricIndex matterGroupId : ℕ)
  deriving DecidableEq, Repr

namespace DataKey

def key : DataKey → String
  | .endpoint unid ep => EndpointMapping.key ⟨unid, ep, none⟩
  | .group fabricIndex groupId => GroupMapping.key ⟨groupId, fabricIndex, none⟩

section Operations

variable (s : KeyValueStore)

def persistData (k : DataKey) (v : ℕ) : KeyValueStore × Bool :=
  match k with
  | .endpoint unid ep => EndpointMapping.persistData s ⟨unid, ep, some v⟩
  | .group fabricIndex groupId => GroupMapping.persistData s ⟨groupId, fabricIndex, some v⟩

def getPersistedData : DataKey → Option ℕ
  | .endpoint unid ep => EndpointMapping.getPersistedData s ⟨unid, ep, none⟩
  | .group fabricIndex groupId => GroupMapping.getPersistedData s ⟨groupId, fabricIndex, none⟩

def removePersistedData : DataKey → KeyValueStore
  | .endpoint unid ep => EndpointMapping.removePersistedData s ⟨unid, ep, none⟩
  | .group fabricIndex groupId => GroupMapping.removePersistedData s ⟨groupId, fabricIndex, none⟩

end Operations

/-- An endpoint whose node is named like a fabric index and which has the number of a group. -/
def Collide : DataKey → DataKey → Prop
  | .endpoint unid ep, .group fabricIndex groupId
  | .group fabricIndex groupId, .endpoint unid ep => unid = toString fabricIndex ∧ ep = groupId
  | .endpoint _ _, .endpoint _ _ | .group _ _, .group _ _ => False

/-- What is persisted for a key is read back, what is removed is not, and another key keeps its
value. -/
structure StoreLaw (k k' : DataKey) : Prop where
  persist : ∀ s v, (persistData s k v).2 = true →
    getPersistedData (persistData s k v).1 k = some v ∧
      (k' ≠ k → getPersistedData (persistData s k v).1 k' = getPersistedData s k')
  remove : ∀ s, getPersistedData (removePersistedData s k) k = none ∧
    (k' ≠ k → getPersistedData (removePersistedData s k) k' = getPersistedData s k')

section Key

variable {s : KeyValueStore} {k k' : DataKey} {v : ℕ}

theorem persistData_eq : persistData s k v = s.put k.key v := by
  cases k <;> rfl

theorem getPersistedData_eq : getPersistedData s k = s.get k.key := by
  cases k <;> rfl

theorem removePersistedData_eq : removePersistedData s k = s.delete k.key := by
  cases k <;> rfl

/-- Two keys have the same text only if they are the same or collide. -/
theorem key_eq_iff : k.key = k'.key ↔ k = k' ∨ Collide k k' := by
  have hmixed : ∀ (unid : String) (ep fabricIndex groupId : ℕ),
      (endpoint unid ep).key = (group fabricIndex groupId).key ↔
        unid = toString fabricIndex ∧ ep = groupId :=
    fun unid ep fabricIndex groupId => DecimalKey.key_inj '-' (by decide)
  match k, k' with
  | .endpoint unid ep, .endpoint unid' ep' =>
    have hkey : (endpoint unid ep).key = (endpoint unid' ep').key ↔ unid = unid' ∧ ep = ep' :=
      EndpointMapping.key_inj
    simp [hkey, Collide]
  | .group fabricIndex groupId, .group fabricIndex' groupId' =>
    have hkey : (group fabricIndex groupId).key = (group fabricIndex' groupId').key ↔
        fabricIndex = fabricIndex' ∧ groupId = groupId' := GroupMapping.key_inj
    simp [hkey, Collide]
  | .endpoint unid ep, .group fabricIndex groupId =>
    rw [hmixed]
    simp [Collide]
  | .group fabricIndex groupId, .endpoint unid ep =>
    rw [eq_comm, hmixed]
    simp [Collide]

end Key

section Law

variable {k k' : DataKey}

theorem get_persisted {s : KeyValueStore} {v : ℕ} (hok : (persistData s k v).2 = true) :
    getPersistedData (persistData s k v).1 k = some v := by
  rw [persistData_eq] at hok ⊢
  rw [getPersistedData_eq, KeyValueStore.get_put_of_ok hok, if_pos rfl]

theorem not_storeLaw_of_collide (hcollide : Collide k k') : ¬ StoreLaw k k' := by
  intro hlaw
  have hkey : k'.key = k.key := (key_eq_iff.mpr (Or.inr hcollide)).symm
  have hne : k' ≠ k := by
    rintro rfl
    cases k' <;> exact hcollide
  let s := KeyValueStore.empty fun _ => false
  have hok : (persistData s k 0).2 = true := by
    rw [persistData_eq]
    rfl
  have hframe := (hlaw.persist s 0 hok).2 hne
  have hget := get_persisted hok
  have hnone : getPersistedData s k' = none := by
    rw [getPersistedData_eq]
    rfl
  rw [hnone, getPersistedData_eq, hkey, ← getPersistedData_eq, hget] at hframe
  cases hframe

theorem storeLaw_of_not_collide (hcollide : ¬ Collide k k') : StoreLaw k k' := by
  have hkey : k' ≠ k → k'.key ≠ k.key := by
    intro hne heq
    rcases key_eq_iff.mp heq.symm with heq | hmem
    · exact hne heq.symm
    · exact hcollide hmem
  constructor
  · intro s v hok
    refine ⟨get_persisted hok, fun hne => ?_⟩
    rw [persistData_eq] at hok ⊢
    rw [getPersistedData_eq, getPersistedData_eq, KeyValueStore.get_put_of_ok hok,
      if_neg (hkey hne)]
  · intro s
    rw [removePersistedData_eq, getPersistedData_eq, getPersistedData_eq, getPersistedData_eq,
      KeyValueStore.get_delete, KeyValueStore.get_delete, if_pos rfl]
    exact ⟨rfl, fun hne => if_neg (hkey hne)⟩

end Law

/-- The law holds of two keys if and only if they do not collide. -/
theorem storeLaw_iff (k k' : DataKey) : StoreLaw k k' ↔ ¬ Collide k k' :=
  ⟨fun hlaw hcollide => not_storeLaw_of_collide hcollide hlaw, storeLaw_of_not_collide⟩

/-- Endpoint 5 of a node named `1` and group 5 of fabric 1. -/
theorem not_storeLaw_of_numeric_unid : ¬ ∀ k k', StoreLaw k k' := by
  intro h
  have hcollide : Collide (.endpoint "1" 5) (.group 1 5) := ⟨by decide, rfl⟩
  exact not_storeLaw_of_collide hcollide (h _ _)

end DataKey

end UnifyMatterBridge
