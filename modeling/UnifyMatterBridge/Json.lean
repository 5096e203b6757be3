import UnifyMatterBridge.Cxx
import Mathlib.Data.Rat.Defs
import Mathlib.Data.String.Basic

/-! The values of `nlohmann::json` and what the translators do with them: building payloads,
dumping them, and the conversions that `get<T>` and `value` perform. -/
namespace UnifyMatterBridge

/-- The content of a `std::string`: UTF-8 text, or bytes that are not. -/
inductive Text where
  | utf8 (s : String)
  | malformed (bytes : List UInt8)
  deriving DecidableEq

/-- Objects are kept in the order of their keys. A parsed number is `integer` when it fits 64
bits and `float` otherwise. -/
inductive Json where
  | null
  | boolean (b : Bool)
  | integer (n : ℤ)
  | float (q : ℚ)
  | string (s : Text)
  | array (elems : List Json)
  | object (fields : List (String × Json))

/-- How `nlohmann::json::parse` fails: on a text that is no JSON, or on a number too large for a
`double` (406). -/
inductive ParseFailure where
  | parseError
  | outOfRange
  deriving DecidableEq, Repr

def ParseFailure.exception : ParseFailure → CxxException
  | .parseError => .jsonParseError
  | .outOfRange => .jsonOutOfRange

/-- An MQTT message: empty, or a text that `nlohmann::json::parse` reads or rejects. -/
inductive Message where
  | empty
  | text (parsed : Except ParseFailure Json)

namespace Json

def isEmpty : Json → Bool
  | .null => true
  | .array elems => elems.isEmpty
  | .object fields => fields.isEmpty
  | _ => false

def insertField (key : String) (value : Json) : List (String × Json) → List (String × Json)
  | [] => [(key, value)]
  | (k, v) :: fields =>
    if key = k then (key, value) :: fields
    else if key < k then (key, value) :: (k, v) :: fields
    else (k, v) :: insertField key value fields

/-- `payload[key] = value` on a payload, which is null or an object. -/
def setField (payload : Json) (key : String) (value : Json) : Json :=
  match payload with
  | .object fields => .object (insertField key value fields)
  | _ => .object [(key, value)]

mutual

/-- Every string in the value is UTF-8 text. -/
def isText : Json → Bool
  | .string (.malformed _) => false
  | .array elems => areTexts elems
  | .object fields => fieldsAreTexts fields
  | _ => true

def areTexts : List Json → Bool
  | [] => true
  | j :: js => j.isText && areTexts js

def fieldsAreTexts : List (String × Json) → Bool
  | [] => true
  | (_, j) :: fields => j.isText && fieldsAreTexts fields

end

/-- `dump()`: the message is represented by the value itself. A string that is not UTF-8 is a
`type_error` (316). -/
def dump (j : Json) : Except CxxException Json :=
  if j.isText then .ok j else .error .jsonTypeError

@[simp] theorem isEmpty_object {fields : List (String × Json)} :
    isEmpty (.object fields) = fields.isEmpty := rfl

theorem isText_of_isEmpty {j : Json} (h : j.isEmpty = true) : j.isText = true := by
  cases j with
  | array elems =>
    rw [List.isEmpty_iff.mp h]
    rfl
  | object fields =>
    rw [List.isEmpty_iff.mp h]
    rfl
  | null => rfl
  | boolean | integer | float | string => cases h

theorem fieldsAreTexts_eq_true {fields : List (String × Json)} :
    fieldsAreTexts fields = true ↔ ∀ f ∈ fields, f.2.isText = true := by
  induction fields with
  | nil => simp [fieldsAreTexts]
  | cons f fields ih => simp [fieldsAreTexts, ih]

/-- The members of an object; none for anything else. -/
def fields : Json → List (String × Json)
  | .object fields => fields
  | _ => []

def SortedKeys (fields : List (String × Json)) : Prop := fields.Pairwise fun f g => f.1 < g.1

/-- A payload under construction: null, or an object in the order of its keys. -/
def IsPayload : Json → Prop
  | .null => True
  | .object fields => SortedKeys fields
  | _ => False

theorem isPayload_null : Json.null.IsPayload := trivial

theorem mem_insertField_key {key : String} {value : Json} {fields : List (String × Json)}
    {f : String × Json} (h : f ∈ insertField key value fields) : f.1 = key ∨ f ∈ fields := by
  induction fields with
  | nil =>
    rw [insertField, List.mem_singleton] at h
    rw [h]
    exact Or.inl rfl
  | cons g fields ih =>
    simp only [insertField] at h
    split_ifs at h with heq hlt
    · cases h with
      | head => exact Or.inl rfl
      | tail _ h => exact Or.inr (List.mem_cons_of_mem _ h)
    · cases h with
      | head => exact Or.inl rfl
      | tail _ h => exact Or.inr h
    · cases h with
      | head => exact Or.inr List.mem_cons_self
      | tail _ h => exact (ih h).imp_right (List.mem_cons_of_mem _)

theorem lookup_cons {key name : String} {value : Json} {fields : List (String × Json)} :
    ((key, value) :: fields).lookup name =
      if name = key then some value else fields.lookup name := by
  rw [List.lookup_cons]
  by_cases h : name = key
  · rw [if_pos h, beq_iff_eq.mpr h]
  · rw [if_neg h, beq_eq_false_iff_ne.mpr h]

theorem lookup_insertField {key name : String} {value : Json} {fields : List (String × Json)} :
    (insertField key value fields).lookup name =
      if name = key then some value else fields.lookup name := by
  induction fields with
  | nil => exact lookup_cons
  | cons g fields ih =>
    simp only [insertField]
    by_cases heq : key = g.1
    · rw [if_pos heq, lookup_cons, lookup_cons, heq]
      by_cases hname : name = g.1
      · rw [if_pos hname, if_pos hname]
      · rw [if_neg hname, if_neg hname, if_neg hname]
    · rw [if_neg heq]
      by_cases hlt : key < g.1
      · rw [if_pos hlt, lookup_cons]
      · rw [if_neg hlt, lookup_cons, ih, lookup_cons]
        by_cases hname : name = g.1
        · have hne : name ≠ key := fun h => heq (h ▸ hname)
          rw [if_pos hname, if_neg hne, if_pos hname]
        · rw [if_neg hname, if_neg hname]

theorem SortedKeys.insertField {fields : List (String × Json)} (h : SortedKeys fields)
    (key : String) (value : Json) : SortedKeys (insertField key value fields) := by
  induction fields with
  | nil => exact List.pairwise_singleton _ _
  | cons g fields ih =>
    obtain ⟨hg, hfields⟩ := List.pairwise_cons.mp h
    simp only [Json.insertField]
    split_ifs with heq hlt
    · exact List.pairwise_cons.mpr ⟨fun f hf => heq ▸ hg f hf, hfields⟩
    · apply List.pairwise_cons.mpr
      refine ⟨fun f hf => ?_, h⟩
      cases hf with
      | head => exact hlt
      | tail _ hf => exact hlt.trans (hg f hf)
    · apply List.pairwise_cons.mpr
      refine ⟨fun f hf => ?_, ih hfields⟩
      cases mem_insertField_key hf with
      | inl hkey => exact hkey ▸ lt_of_le_of_ne (not_lt.mp hlt) (Ne.symm heq)
      | inr hmem => exact hg f hmem

theorem SortedKeys.mem_insertField {fields : List (String × Json)} (h : SortedKeys fields)
    {key : String} {value : Json} {f : String × Json} :
    f ∈ Json.insertField key value fields ↔ f = (key, value) ∨ f.1 ≠ key ∧ f ∈ fields := by
  induction fields with
  | nil => simp [Json.insertField]
  | cons g fields ih =>
    obtain ⟨hg, hfields⟩ := List.pairwise_cons.mp h
    simp only [Json.insertField]
    split_ifs with heq hlt
    · have hrest : ∀ f ∈ fields, f.1 ≠ key := fun f hf => ne_of_gt (heq ▸ hg f hf)
      simp only [List.mem_cons]
      constructor
      · exact fun hf => hf.imp_right fun hf => ⟨hrest f hf, Or.inr hf⟩
      · rintro (hf | ⟨hne, hf | hf⟩)
        · exact Or.inl hf
        · exact absurd (congrArg Prod.fst hf) (heq ▸ hne)
        · exact Or.inr hf
    · have hall : ∀ f ∈ g :: fields, f.1 ≠ key := by
        intro f hf
        cases hf with
        | head => exact ne_of_gt hlt
        | tail _ hf => exact ne_of_gt (hlt.trans (hg f hf))
      rw [List.mem_cons]
      exact ⟨fun hf => hf.imp_right fun hf => ⟨hall f hf, hf⟩, fun hf => hf.imp_right And.right⟩
    · rw [List.mem_cons, ih hfields, List.mem_cons]
      constructor
      · rintro (hf | hf | ⟨hne, hf⟩)
        · exact Or.inr ⟨by rw [hf]; exact Ne.symm heq, Or.inl hf⟩
        · exact Or.inl hf
        · exact Or.inr ⟨hne, Or.inr hf⟩
      · rintro (hf | ⟨hne, hf | hf⟩)
        · exact Or.inr (Or.inl hf)
        · exact Or.inl hf
        · exact Or.inr (Or.inr ⟨hne, hf⟩)

theorem IsPayload.setField {payload : Json} (h : payload.IsPayload) (key : String)
    (value : Json) : (payload.setField key value).IsPayload := by
  cases payload with
  | null => exact List.pairwise_singleton _ _
  | object fields => exact SortedKeys.insertField h key value
  | boolean | integer | float | string | array => cases h

theorem IsPayload.mem_setField {payload : Json} (h : payload.IsPayload) {key : String}
    {value : Json} {f : String × Json} :
    f ∈ (payload.setField key value).fields ↔
      f = (key, value) ∨ f.1 ≠ key ∧ f ∈ payload.fields := by
  cases payload with
  | null => simp [Json.setField, fields]
  | object fields => exact SortedKeys.mem_insertField h
  | boolean | integer | float | string | array => cases h

@[simp] theorem lookup_setField {payload : Json} {key name : String} {value : Json} :
    (payload.setField key value).fields.lookup name =
      if name = key then some value else payload.fields.lookup name := by
  cases payload with
  | object fields => exact lookup_insertField
  | null | boolean | integer | float | string | array => exact lookup_cons

theorem IsPayload.isText_eq_true {payload : Json} (h : payload.IsPayload) :
    payload.isText = true ↔ ∀ f ∈ payload.fields, f.2.isText = true := by
  cases payload with
  | null => simp [isText, fields]
  | object fields => exact fieldsAreTexts_eq_true
  | boolean | integer | float | string | array => cases h

end Json

end UnifyMatterBridge
