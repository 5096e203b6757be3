import UnifyMatterBridge.Attribute.Cache

/-! Byte strings in the attribute state cache: what the `set` of a span stores, and what the `get` of a
span and of an array give back. -/
namespace UnifyMatterBridge

/-- The bytes that a span points to: some that live on, or those of a vector in the function that has
made the span, which is destroyed when the function returns. -/
inductive SpanData where
  | alive (bytes : List UInt8)
  | localVector (bytes : List UInt8)

/-- `chip::ByteSpan`. -/
structure ByteSpan where
  data : SpanData
  size : ℕ

/-- What the caller can read through a span; `none` if it reads from a destroyed vector. -/
def ByteSpan.read (span : ByteSpan) : Option (List UInt8) :=
  if span.size = 0 then some []
  else
    match span.data with
    | .alive bytes => some (bytes.take span.size)
    | .localVector _ => none

namespace AttributeCache

variable (c : AttributeCache) (path : AttrPath)

/-- `set` of a span: the vector starts with as many zeros as the span has bytes, and the bytes are
inserted at its back. -/
def setSpan (span : List UInt8) : AttributeCache :=
  let v := List.replicate span.length 0
  let v := v ++ span
  c.set path (.bytes v)

/-- `get` of a span; `none` stands for the result `false`. -/
def getSpan : Except CxxException (Option ByteSpan) :=
  match c path with
  | none => .ok none
  | some (.bytes v) => .ok (some ⟨.localVector v, v.length⟩)
  | some _ => .error .badVariantAccess

/-- `get` of an array of `n` bytes (`get_array`); `none` stands for the result `false`. -/
def getArray (n : ℕ) : Except CxxException (Option (List UInt8)) :=
  match c path with
  | none => .ok none
  | some (.bytes v) => .ok (if v.length = n then some v else none)
  | some _ => .error .badVariantAccess

/-- A span that is set is read back, also as an array of its length and of no other, and the values of
other attributes stay. -/
structure RoundTrip (span : List UInt8) : Prop where
  span_read : ∃ r, (c.setSpan path span).getSpan path = .ok (some r) ∧ r.read = some span
  array_read : (c.setSpan path span).getArray path span.length = .ok (some span)
  array_refused : ∀ n, n ≠ span.length → (c.setSpan path span).getArray path n = .ok none
  others : ∀ p, p ≠ path → c.setSpan path span p = c p

variable {c path}

@[simp] theorem setSpan_apply (span : List UInt8) (p : AttrPath) :
    c.setSpan path span p =
      if p = path then some (.bytes (List.replicate span.length 0 ++ span)) else c p :=
  set_apply c path p _

/-- The span that is got has twice the length, and its bytes are gone. -/
theorem getSpan_setSpan (span : List UInt8) :
    (c.setSpan path span).getSpan path =
      .ok (some ⟨.localVector (List.replicate span.length 0 ++ span), 2 * span.length⟩) := by
  have hlength : (List.replicate span.length (0 : UInt8) ++ span).length = 2 * span.length := by
    rw [List.length_append, List.length_replicate]
    omega
  unfold getSpan
  rw [setSpan_apply, if_pos rfl]
  dsimp only
  rw [hlength]

/-- An array of twice the length gets zeros first, and one of any other length nothing. -/
theorem getArray_setSpan (span : List UInt8) (n : ℕ) :
    (c.setSpan path span).getArray path n =
      .ok (if n = 2 * span.length then some (List.replicate span.length 0 ++ span) else none) := by
  have hlength : (List.replicate span.length (0 : UInt8) ++ span).length = n ↔
      n = 2 * span.length := by
    rw [List.length_append, List.length_replicate]
    omega
  unfold getArray
  rw [setSpan_apply, if_pos rfl]
  simp only [hlength]

theorem read_setSpan_iff (span : List UInt8) :
    (∃ r, (c.setSpan path span).getSpan path = .ok (some r) ∧ r.read = some span) ↔ span = [] := by
  rw [getSpan_setSpan]
  constructor
  · intro h
    obtain ⟨r, hr, hread⟩ := h
    cases hr
    unfold ByteSpan.read at hread
    split_ifs at hread with hsize
    exact (Option.some.inj hread).symm
  · intro h
    subst h
    exact ⟨_, rfl, rfl⟩

/-- A span makes the round trip if and only if it is empty. -/
theorem roundTrip_iff (c : AttributeCache) (path : AttrPath) (span : List UInt8) :
    RoundTrip c path span ↔ span = [] := by
  constructor
  · intro h
    exact (read_setSpan_iff span).mp h.span_read
  · intro h
    have hzero : 2 * span.length = 0 := by
      rw [h]
      rfl
    refine ⟨(read_setSpan_iff span).mpr h, ?_, fun n hn => ?_, fun p hp => ?_⟩
    · rw [getArray_setSpan, if_pos (by omega), h]
      rfl
    · rw [getArray_setSpan, if_neg (by omega)]
    · rw [setSpan_apply, if_neg hp]

/-- A single byte does not make the round trip. -/
theorem not_roundTrip_of_one_byte :
    ¬ ∀ (c : AttributeCache) (path : AttrPath) (span : List UInt8), RoundTrip c path span := by
  intro h
  have harray := (h empty ⟨3, 0x0101, 0x0000⟩ [7]).array_read
  rw [getArray_setSpan] at harray
  cases harray

end AttributeCache

end UnifyMatterBridge
