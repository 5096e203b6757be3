import UnifyMatterBridge.Lib.DecimalKey
import Mathlib.Logic.Function.Basic

/-! The persisted endpoint and group mappings (`matter_data_storage`). The platform store is a
map from strings to the stored 16-bit values; a write can fail, and then changes nothing. -/
namespace UnifyMatterBridge

/-- `PersistedStorage::KeyValueStoreMgrImpl()`; `putFails n` tells whether the write after
`n` others fails. -/
structure KeyValueStore where
  content : String → Option ℕ
  puts : ℕ
  putFails : ℕ → Bool

namespace KeyValueStore

def empty (putFails : ℕ → Bool) : KeyValueStore := ⟨fun _ => none, 0, putFails⟩

/-- The store after the write, and whether the result is `CHIP_NO_ERROR`. -/
def put (s : KeyValueStore) (key : String) (value : ℕ) : KeyValueStore × Bool :=
  if s.putFails s.puts then ({ s with puts := s.puts + 1 }, false)
  else ({ s with content := Function.update s.content key (some value), puts := s.puts + 1 }, true)

def get (s : KeyValueStore) (key : String) : Option ℕ := s.content key

def delete (s : KeyValueStore) (key : String) : KeyValueStore :=
  { s with content := Function.update s.content key none }

def Faithful (s : KeyValueStore) : Prop := ∀ n, s.putFails n = false

@[simp] theorem get_empty (f : ℕ → Bool) (key : String) : (empty f).get key = none := rfl

@[simp] theorem putFails_put (s : KeyValueStore) (key : String) (v : ℕ) :
    (s.put key v).1.putFails = s.putFails := by
  unfold put
  split <;> rfl

@[simp] theorem faithful_put {s : KeyValueStore} {key : String} {v : ℕ} :
    (s.put key v).1.Faithful ↔ s.Faithful := by simp [Faithful]

@[simp] theorem faithful_delete {s : KeyValueStore} {key : String} :
    (s.delete key).Faithful ↔ s.Faithful := Iff.rfl

theorem get_put {s : KeyValueStore} (h : s.Faithful) (key k : String) (v : ℕ) :
    (s.put key v).1.get k = if k = key then some v else s.get k := by
  simp only [put, h s.puts, Bool.false_eq_true, if_false, get, Function.update_apply]

theorem get_put_cases (s : KeyValueStore) (key k : String) (v : ℕ) :
    (s.put key v).1.get k = s.get k ∨ k = key ∧ (s.put key v).1.get k = some v := by
  unfold put
  split_ifs
  · exact Or.inl rfl
  · by_cases hk : k = key
    · right
      exact ⟨hk, by rw [hk]; exact Function.update_self key _ _⟩
    · left
      exact Function.update_of_ne hk _ _

theorem get_delete (s : KeyValueStore) (key k : String) :
    (s.delete key).get k = if k = key then none else s.get k := by
  simp only [delete, get, Function.update_apply]

end KeyValueStore

structure EndpointMapping where
  unifyUnid : String
  unifyEndpoint : ℕ
  matterEndpoint : Option ℕ

structure GroupMapping where
  matterGroupId : ℕ
  fabricIndex : ℕ
  unifyGroupId : Option ℕ

namespace EndpointMapping

def key (m : EndpointMapping) : String := m.unifyUnid ++ "-" ++ toString m.unifyEndpoint

def persistData (s : KeyValueStore) (m : EndpointMapping) : KeyValueStore × Bool :=
  match m.matterEndpoint with
  | none => (s, false)
  | some v => s.put m.key v

/-- The value written to the mapping; `none` stands for the result `false`. -/
def getPersistedData (s : KeyValueStore) (m : EndpointMapping) : Option ℕ := s.get m.key

def removePersistedData (s : KeyValueStore) (m : EndpointMapping) : KeyValueStore :=
  s.delete m.key

theorem key_inj {m n : EndpointMapping} :
    m.key = n.key ↔ m.unifyUnid = n.unifyUnid ∧ m.unifyEndpoint = n.unifyEndpoint :=
  DecimalKey.key_inj '-' (by decide)

end EndpointMapping

namespace GroupMapping

/-- The key is the fabric index and the group id. -/
def key (m : GroupMapping) : String := toString m.fabricIndex ++ "-" ++ toString m.matterGroupId

def persistData (s : KeyValueStore) (m : GroupMapping) : KeyValueStore × Bool :=
  match m.unifyGroupId with
  | none => (s, false)
  | some v => s.put m.key v

def getPersistedData (s : KeyValueStore) (m : GroupMapping) : Option ℕ := s.get m.key

def removePersistedData (s : KeyValueStore) (m : GroupMapping) : KeyValueStore :=
  s.delete m.key

theorem key_inj {m n : GroupMapping} :
    m.key = n.key ↔ m.fabricIndex = n.fabricIndex ∧ m.matterGroupId = n.matterGroupId :=
  (DecimalKey.key_inj '-' (by decide)).trans (and_congr_left' DecimalKey.toString_inj)

end GroupMapping

end UnifyMatterBridge
