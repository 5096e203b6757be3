import UnifyMatterBridge.Json
import Mathlib.Data.Int.ModEq
import Mathlib.Logic.Function.Basic

/-! The attribute state cache (`attribute_state_cache`): the last value of an attribute, as an
alternative of a variant. Reading another alternative than the one stored throws. -/
namespace UnifyMatterBridge

/-- The integer types of attributes; `int` is the 32-bit alternative of the variant. -/
inductive IntType where
  | int8
  | uint8
  | int16
  | uint16
  | uint32
  | uint64
  | int
  deriving DecidableEq, Repr

namespace IntType

def bits : IntType → ℕ
  | .int8 | .uint8 => 8
  | .int16 | .uint16 => 16
  | .uint32 | .int => 32
  | .uint64 => 64

def signed : IntType → Bool
  | .int8 | .int16 | .int => true
  | .uint8 | .uint16 | .uint32 | .uint64 => false

def min (t : IntType) : ℤ := if t.signed then -2 ^ (t.bits - 1) else 0

def max (t : IntType) : ℤ := if t.signed then 2 ^ (t.bits - 1) - 1 else 2 ^ t.bits - 1

def InRange (t : IntType) (n : ℤ) : Prop := t.min ≤ n ∧ n ≤ t.max

instance (t : IntType) (n : ℤ) : Decidable (t.InRange n) := inferInstanceAs (Decidable (_ ∧ _))

/-- `static_cast` from any integer type: the congruent value in range. -/
def cast (t : IntType) (n : ℤ) : ℤ := (n - t.min) % 2 ^ t.bits + t.min

theorem max_eq (t : IntType) : t.max = t.min + 2 ^ t.bits - 1 := by
  cases t <;> rfl

theorem cast_inRange (t : IntType) (n : ℤ) : t.InRange (t.cast n) := by
  have hpos : (0 : ℤ) < 2 ^ t.bits := Int.pow_pos (by decide)
  have hnonneg := Int.emod_nonneg (n - t.min) (Int.ne_of_gt hpos)
  have hlt := Int.emod_lt_of_pos (n - t.min) hpos
  have hmax := t.max_eq
  unfold InRange cast
  omega

theorem cast_modEq (t : IntType) (n : ℤ) : t.cast n ≡ n [ZMOD 2 ^ t.bits] := by
  unfold cast Int.ModEq
  rw [Int.emod_add_emod, Int.sub_add_cancel]

theorem cast_of_inRange {t : IntType} {n : ℤ} (h : t.InRange n) : t.cast n = n := by
  have hmax := t.max_eq
  obtain ⟨hlo, hhi⟩ := h
  unfold cast
  rw [Int.emod_eq_of_lt (by omega) (by omega)]
  omega

theorem eq_of_modEq {t : IntType} {m n : ℤ} (hm : t.InRange m) (hn : t.InRange n)
    (h : m ≡ n [ZMOD 2 ^ t.bits]) : m = n := by
  have hcast : t.cast m = t.cast n := by
    have hsub : m - t.min ≡ n - t.min [ZMOD 2 ^ t.bits] := h.sub_right _
    unfold cast
    rw [hsub]
  rw [cast_of_inRange hm, cast_of_inRange hn] at hcast
  exact hcast

theorem cast_eq_iff {t : IntType} {n k : ℤ} (hk : t.InRange k) :
    t.cast n = k ↔ n ≡ k [ZMOD 2 ^ t.bits] := by
  constructor
  · intro h
    exact (h ▸ t.cast_modEq n).symm
  · intro h
    exact eq_of_modEq (t.cast_inRange n) hk ((t.cast_modEq n).trans h)

/-- A conversion to a wider type in between makes no difference. -/
theorem cast_cast {t t' : IntType} (h : (2 ^ t'.bits : ℤ) ∣ 2 ^ t.bits) (n : ℤ) :
    t'.cast (t.cast n) = t'.cast n := by
  have hmod : t.cast n ≡ n [ZMOD 2 ^ t'.bits] := (t.cast_modEq n).of_dvd h
  rw [cast_eq_iff (t'.cast_inRange n)]
  exact hmod.trans (t'.cast_modEq n).symm

theorem InRange.mono {t t' : IntType} {n : ℤ} (hn : t'.InRange n) (hmin : t.min ≤ t'.min)
    (hmax : t'.max ≤ t.max) : t.InRange n :=
  ⟨hmin.trans hn.1, hn.2.trans hmax⟩

end IntType

/-- `chip::app::ConcreteAttributePath`. -/
structure AttrPath where
  endpointId : ℕ
  clusterId : ℕ
  attributeId : ℕ
  deriving DecidableEq, Repr

/-- The alternatives of the variant `value_t`; `chars` and `bytes` are its two vectors. -/
inductive Alternative where
  | bool
  | float
  | int (t : IntType)
  | string
  | chars
  | bytes
  deriving DecidableEq, Repr

/-- `value_t`. -/
inductive CacheValue where
  | bool (b : Bool)
  | float (q : ℚ)
  | int (t : IntType) (n : ℤ)
  | string (s : Text)
  | chars (bytes : List UInt8)
  | bytes (bytes : List UInt8)
  deriving DecidableEq

def CacheValue.alternative : CacheValue → Alternative
  | .bool _ => .bool
  | .float _ => .float
  | .int t _ => .int t
  | .string _ => .string
  | .chars _ => .chars
  | .bytes _ => .bytes

abbrev AttributeCache := AttrPath → Option CacheValue

namespace AttributeCache

def empty : AttributeCache := fun _ => none

/-- The assignment that every `set` ends in. -/
def set (c : AttributeCache) (path : AttrPath) (v : CacheValue) : AttributeCache :=
  Function.update c path (some v)

/-- `std::get<T>` of the stored value, if there is one. -/
def get (c : AttributeCache) (alt : Alternative) (path : AttrPath) :
    Except CxxException (Option CacheValue) :=
  match c path with
  | none => .ok none
  | some v => if v.alternative = alt then .ok (some v) else .error .badVariantAccess

/-- `get` of an integer, or of an enum or a bitmask with that underlying type. -/
def getInt (c : AttributeCache) (t : IntType) (path : AttrPath) : Except CxxException (Option ℤ) :=
  match c path with
  | none => .ok none
  | some (.int t' n) => if t' = t then .ok (some n) else .error .badVariantAccess
  | some _ => .error .badVariantAccess

@[simp] theorem set_apply (c : AttributeCache) (path p : AttrPath) (v : CacheValue) :
    c.set path v p = if p = path then some v else c p := Function.update_apply c path _ p

theorem exists_getInt {c : AttributeCache} {t : IntType} {path : AttrPath}
    (h : ∀ v, c path = some v → v.alternative = .int t) : ∃ r, c.getInt t path = .ok r := by
  unfold getInt
  cases hc : c path with
  | none => exact ⟨none, rfl⟩
  | some v =>
    have hv := h v hc
    cases v with
    | int t' n =>
      cases hv
      exact ⟨some n, if_pos rfl⟩
    | bool | float | string | chars | bytes => cases hv

end AttributeCache

end UnifyMatterBridge
