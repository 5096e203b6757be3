import UnifyMatterBridge.Attribute.DataModel
import UnifyMatterBridge.Lib.BitField
import UnifyMatterBridge.Lib.NameTable

/-! The converters of bitmaps and enumerations that two templates generate, one to JSON and one from
it, and the types whose values they give back. -/
namespace UnifyMatterBridge

/-- The objects that `unify_matter_mapping.js` and `unify_support_model.js` define, in the order of
their keys. A Unify name that Matter has no name for has an empty list. -/
structure UnifyTypes where
  bitmapsUnifyToMatter : List (String × List String)
  enumsUnifyToMatter : List (String × List String)
  bitmaps : List (String × List (ℕ × String))
  enums : List (String × List String)

/-- An object with the keys and values exchanged. The last of equal keys counts, and a list of names is
a key too. -/
def matterToUnify (rows : List (String × List String)) (name : String) : Option String :=
  (rows.reverse.find? fun row =>
    row.2 ≠ [] && (row.2.contains name || name == ",".intercalate row.2)).map (·.1)

namespace UnifyTypes

variable (u : UnifyTypes)

def unifyBitmapName (matterBitmapName : String) : String :=
  (matterToUnify u.bitmapsUnifyToMatter matterBitmapName).getD matterBitmapName

def unifyEnumName (matterEnumName : String) : String :=
  if matterEnumName = "SaturationMoveMode" then "CCMoveMode"
  else if matterEnumName = "SaturationStepMode" then "CCStepMode"
  else (matterToUnify u.enumsUnifyToMatter matterEnumName).getD matterEnumName

end UnifyTypes

def unifyTypeExists (matterName : String) : Bool :=
  matterName ∉ ["OnOffDelayedAllOffEffectVariant"]

structure ZclBitmapItem where
  label : String
  mask : ℕ

structure ZclBitmap where
  label : String
  type : IntType
  items : List ZclBitmapItem
  unsigned : type.signed = false
  mask_ne_zero : ∀ item ∈ items, item.mask ≠ 0
  mask_lt : ∀ item ∈ items, item.mask < 2 ^ type.bits
  disjoint : items.Pairwise fun a b => a.mask &&& b.mask = 0

structure ZclEnumItem where
  label : String
  value : ℤ

/-- An enumeration of the ZCL, with the label of its cluster. -/
structure ZclEnum where
  clusterLabel : String
  label : String
  type : IntType
  items : List ZclEnumItem
  value_inRange : ∀ item ∈ items, type.InRange item.value
  values_nodup : (items.map (·.value)).Nodup

section Flags

variable {fields : List (String × Bool)} {obj : Json} {name : String} {set : Bool}

theorem Json.flag_of_lookup (h : obj.fields.lookup name = some (.boolean set)) :
    obj.flag name = .ok set := by
  cases obj with
  | object members =>
    rw [Json.fields] at h
    simp only [flag, h, getBool]
  | null | boolean | integer | float | string | array => cases h

theorem ArgValue.lookup_of_not_mem (h : name ∉ fields.map Prod.fst) :
    (fields.foldl (fun obj f => obj.setField f.1 (.boolean f.2)) obj).fields.lookup name =
      obj.fields.lookup name := by
  induction fields generalizing obj with
  | nil => rfl
  | cons f fields ih =>
    rw [List.map_cons, List.mem_cons, not_or] at h
    rw [List.foldl_cons, ih h.2, Json.lookup_setField, if_neg h.1]

theorem ArgValue.lookup_of_mem (hnames : (fields.map Prod.fst).Nodup) (h : (name, set) ∈ fields) :
    (fields.foldl (fun obj f => obj.setField f.1 (.boolean f.2)) obj).fields.lookup name =
      some (.boolean set) := by
  induction fields generalizing obj with
  | nil => cases h
  | cons f fields ih =>
    rw [List.map_cons, List.nodup_cons] at hnames
    rw [List.foldl_cons]
    cases h with
    | head => rw [lookup_of_not_mem hnames.1, Json.lookup_setField, if_pos rfl]
    | tail _ h => exact ih hnames.2 h

theorem ArgValue.flag_toJson (hnames : (fields.map Prod.fst).Nodup) (h : (name, set) ∈ fields) :
    (ArgValue.flags fields).toJson.flag name = .ok set :=
  Json.flag_of_lookup (lookup_of_mem hnames h)

end Flags

/-- What `chip::BitMask` does with a field: `GetField` shifts its bits down to bit 0, and `SetField`
puts the bits of a value in their place. -/
structure BitMaskApi where
  getField : (raw mask : ℕ) → ℕ
  setField : (raw mask value : ℕ) → ℕ
  testBit_getField : ∀ {raw mask : ℕ}, mask ≠ 0 → ∀ i, (getField raw mask).testBit i =
    (mask.testBit (BitField.firstBit mask + i) && raw.testBit (BitField.firstBit mask + i))
  testBit_setField : ∀ {raw mask value : ℕ}, mask ≠ 0 → ∀ i, (setField raw mask value).testBit i =
    if mask.testBit i then value.testBit (i - BitField.firstBit mask) else raw.testBit i

namespace BitMaskApi

variable (api : BitMaskApi) {raw mask : ℕ}

theorem getField_ne_zero (hmask : mask ≠ 0) :
    api.getField raw mask ≠ 0 ↔ ∃ k, mask.testBit k = true ∧ raw.testBit k = true := by
  constructor
  · intro h
    obtain ⟨i, hi⟩ := Nat.exists_testBit_of_ne_zero h
    rw [api.testBit_getField hmask, Bool.and_eq_true] at hi
    exact ⟨_, hi⟩
  · rintro ⟨k, hmaskk, hrawk⟩ hzero
    have hfirst : BitField.firstBit mask + (k - BitField.firstBit mask) = k := by
      have hle := BitField.firstBit_le hmaskk
      omega
    have hbit := @testBit_getField api raw mask hmask (k - BitField.firstBit mask)
    rw [hzero, hfirst, hmaskk, hrawk, Nat.zero_testBit] at hbit
    cases hbit

theorem setField_of_clear (hmask : mask ≠ 0) (hclear : raw &&& mask = 0) (set : Bool) :
    api.setField raw mask set.toNat =
      if set then raw ||| 2 ^ BitField.firstBit mask else raw := by
  refine Nat.eq_of_testBit_eq fun k => ?_
  have hraw : mask.testBit k = true → raw.testBit k = false := by
    rw [Nat.and_comm] at hclear
    exact BitField.testBit_of_disjoint hclear
  have hfirst : BitField.firstBit mask = k → mask.testBit k = true := by
    rintro rfl
    exact BitField.testBit_firstBit hmask
  rw [api.testBit_setField hmask]
  cases hk : mask.testBit k with
  | false =>
    have hne : BitField.firstBit mask ≠ k := fun h => by
      rw [hfirst h] at hk
      cases hk
    cases set with
    | false => rfl
    | true => simp [Nat.testBit_or, hne]
  | true =>
    have hle := BitField.firstBit_le hk
    cases set with
    | false => simp [hraw hk]
    | true =>
      have hone : Nat.testBit 1 (k - BitField.firstBit mask) = true ↔
          BitField.firstBit mask = k := by
        rw [Nat.testBit_one_eq_true_iff_self_eq_zero]
        omega
      rw [if_pos rfl, if_pos rfl, Bool.eq_iff_iff, Bool.toNat_true, hone, Nat.testBit_or, hraw hk,
        Bool.false_or, Nat.testBit_two_pow, decide_eq_true_eq]

end BitMaskApi

namespace ZclBitmap

variable (api : BitMaskApi) (u : UnifyTypes) (B : ZclBitmap)

/-- An item of which Unify's bitmap has no name is given none. -/
def unifyBitmapValName (item : ZclBitmapItem) : String :=
  match u.bitmaps.lookup (u.unifyBitmapName B.label) with
  | some names => (names.lookup item.mask).getD ""
  | none => item.label

def toJson (value : ℕ) : Json :=
  if unifyTypeExists B.label then
    B.items.foldl (fun obj item => obj.setField (B.unifyBitmapValName u item)
      (.boolean (api.getField value item.mask ≠ 0))) .null
  else .integer (IntType.uint8.cast value)

def fromJson (obj : Json) : Except CxxException ℕ :=
  B.items.foldlM (fun r item => do
    return api.setField r item.mask (← obj.flag (B.unifyBitmapValName u item)).toNat) 0

/-- The value is made of fields of the bitmap. -/
def Declared (value : ℕ) : Prop :=
  ∀ k, value.testBit k = true → ∃ item ∈ B.items, item.mask.testBit k = true

structure RoundTrip : Prop where
  decoded : ∀ value, B.Declared value → B.fromJson api u (B.toJson api u value) = .ok value
  injective : ∀ v w, B.Declared v → B.Declared w → B.toJson api u v = B.toJson api u w → v = w

/-- Unify has the type, and each field is a single bit with a name of its own. -/
structure NamedBits : Prop where
  exist : unifyTypeExists B.label = true
  single : ∀ item ∈ B.items, item.mask = 2 ^ BitField.firstBit item.mask
  names : (B.items.map (B.unifyBitmapValName u)).Nodup

variable {api u B}

def bitmapType (u : UnifyTypes) (B : ZclBitmap) : BitmapType where
  type := B.type
  fields := B.items.map fun item => (B.unifyBitmapValName u item, BitField.firstBit item.mask)
  unsigned := B.unsigned
  fields_lt := by
    intro f hf
    obtain ⟨item, hitem, rfl⟩ := List.mem_map.mp hf
    exact BitField.firstBit_lt (B.mask_ne_zero item hitem) (B.mask_lt item hitem)

theorem item_unique (B : ZclBitmap) {a b : ZclBitmapItem} (ha : a ∈ B.items) (hb : b ∈ B.items)
    {k : ℕ} (hak : a.mask.testBit k = true) (hbk : b.mask.testBit k = true) : a = b := by
  have hsymm : Std.Symm fun a b : ZclBitmapItem => a.mask &&& b.mask = 0 :=
    ⟨fun a b h => (Nat.and_comm b.mask a.mask).trans h⟩
  by_contra hne
  have hclear := BitField.testBit_of_disjoint (B.disjoint.forall ha hb hne) hak
  rw [hbk] at hclear
  cases hclear

/-- Fields that are clear so far are set one by one. -/
theorem foldlM_setField {items : List ZclBitmapItem} {obj : Json} {r : ℕ}
    (hmask : ∀ item ∈ items, item.mask ≠ 0)
    (hdisjoint : items.Pairwise fun a b => a.mask &&& b.mask = 0)
    (hclear : ∀ item ∈ items, r &&& item.mask = 0) :
    (items.foldlM (fun r item => do
      return api.setField r item.mask (← obj.flag (B.unifyBitmapValName u item)).toNat) r) =
      obj.flags (items.map fun item =>
        (B.unifyBitmapValName u item, BitField.firstBit item.mask)) r := by
  induction items generalizing r with
  | nil => rfl
  | cons item items ih =>
    obtain ⟨hitem, hrest⟩ := List.pairwise_cons.mp hdisjoint
    have hne := hmask item List.mem_cons_self
    rw [List.map_cons, List.foldlM_cons]
    cases hflag : obj.flag (B.unifyBitmapValName u item) with
    | error e => exact (Json.flags_cons_error hflag).symm
    | ok set =>
      have hset := api.setField_of_clear hne (hclear item List.mem_cons_self) set
      rw [Json.flags_cons_ok hflag]
      dsimp only
      rw [← hset]
      refine ih (fun a ha => hmask a (List.mem_cons_of_mem _ ha)) hrest fun other hother => ?_
      have hr := hclear other (List.mem_cons_of_mem _ hother)
      rw [hset]
      cases set with
      | false => exact hr
      | true => exact BitField.or_firstBit_and hne hr (hitem other hother)

theorem fromJson_eq_flags {obj : Json} :
    B.fromJson api u obj = obj.flags (B.bitmapType u).fields 0 :=
  foldlM_setField B.mask_ne_zero B.disjoint fun item _ => Nat.zero_and item.mask

theorem fromJson_bitmap {obj : Json} :
    UnifyMatterBridge.fromJson (.bitmap (B.bitmapType u)) obj =
      (B.fromJson api u obj).map fun raw => some (.int B.type raw) := by
  rw [fromJson_eq_flags]
  cases h : obj.flags (B.bitmapType u).fields 0 with
  | error e => simp only [UnifyMatterBridge.fromJson, h]; rfl
  | ok raw => simp only [UnifyMatterBridge.fromJson, h]; rfl

theorem toJson_of_exist (hexist : unifyTypeExists B.label = true) {value : ℕ} :
    B.toJson api u value = (ArgValue.flags (B.items.map fun item =>
      (B.unifyBitmapValName u item, decide (api.getField value item.mask ≠ 0)))).toJson := by
  rw [toJson, if_pos hexist, ArgValue.toJson, List.foldl_map]

theorem flag_toJson (h : B.NamedBits u) {item : ZclBitmapItem} (hitem : item ∈ B.items)
    {value : ℕ} : (B.toJson api u value).flag (B.unifyBitmapValName u item) =
      .ok (value.testBit (BitField.firstBit item.mask)) := by
  have hbit : decide (api.getField value item.mask ≠ 0) =
      value.testBit (BitField.firstBit item.mask) := by
    rw [Bool.eq_iff_iff, decide_eq_true_eq, api.getField_ne_zero (B.mask_ne_zero item hitem)]
    constructor
    · rintro ⟨k, hmask, hvalue⟩
      rwa [← (BitField.eq_two_pow_iff (B.mask_ne_zero item hitem)).mp (h.single item hitem) k hmask]
    · exact fun hvalue => ⟨_, BitField.testBit_firstBit (B.mask_ne_zero item hitem), hvalue⟩
  rw [toJson_of_exist h.exist, ← hbit]
  refine ArgValue.flag_toJson ?_ (List.mem_map.mpr ⟨item, hitem, rfl⟩)
  rw [List.map_map]
  exact h.names

/-- Of a field, the converter from JSON sets no bit but the lowest. -/
theorem testBit_fromJson {obj : Json} {raw k : ℕ} (h : B.fromJson api u obj = .ok raw)
    {item : ZclBitmapItem} (hitem : item ∈ B.items) (hk : item.mask.testBit k = true) :
    raw.testBit k = true ↔
      k = BitField.firstBit item.mask ∧ obj.flag (B.unifyBitmapValName u item) = .ok true := by
  rw [fromJson_eq_flags] at h
  rw [Json.testBit_flags h]
  simp only [Nat.zero_testBit, Bool.false_eq_true, false_or, bitmapType, List.mem_map,
    exists_exists_and_eq_and]
  constructor
  · rintro ⟨other, hother, hfirst, hflag⟩
    have hbit : other.mask.testBit k = true :=
      hfirst ▸ BitField.testBit_firstBit (B.mask_ne_zero other hother)
    obtain rfl := B.item_unique hother hitem hbit hk
    exact ⟨hfirst.symm, hflag⟩
  · rintro ⟨hfirst, hflag⟩
    exact ⟨item, hitem, hfirst.symm, hflag⟩

theorem flag_of_fromJson {obj : Json} {raw : ℕ} (h : B.fromJson api u obj = .ok raw)
    {item : ZclBitmapItem} (hitem : item ∈ B.items) :
    ∃ set, obj.flag (B.unifyBitmapValName u item) = .ok set := by
  rw [fromJson_eq_flags] at h
  exact Json.flag_of_flags h _ (List.mem_map.mpr ⟨item, hitem, rfl⟩)

theorem declared_of_fromJson {obj : Json} {raw : ℕ} (h : B.fromJson api u obj = .ok raw) :
    B.Declared raw := by
  intro k hk
  rw [fromJson_eq_flags] at h
  obtain hzero | ⟨f, hf, hfirst, -⟩ := (Json.testBit_flags h k).mp hk
  · rw [Nat.zero_testBit] at hzero
    cases hzero
  · obtain ⟨item, hitem, rfl⟩ := List.mem_map.mp hf
    exact ⟨item, hitem, hfirst ▸ BitField.testBit_firstBit (B.mask_ne_zero item hitem)⟩

theorem RoundTrip.of_decoded
    (h : ∀ value, B.Declared value → B.fromJson api u (B.toJson api u value) = .ok value) :
    B.RoundTrip api u where
  decoded := h
  injective v w hv hw heq := by
    have hdecoded := h v hv
    rw [heq, h w hw] at hdecoded
    exact (Except.ok.inj hdecoded).symm

theorem NamedBits.roundTrip (h : B.NamedBits u) : B.RoundTrip api u := by
  refine RoundTrip.of_decoded fun value hvalue => ?_
  have hflags : ∀ f ∈ (B.bitmapType u).fields, ∃ set, (B.toJson api u value).flag f.1 = .ok set := by
    intro f hf
    obtain ⟨item, hitem, rfl⟩ := List.mem_map.mp hf
    exact ⟨_, flag_toJson h hitem⟩
  obtain ⟨raw, hraw⟩ := Json.exists_flags hflags 0
  rw [← @fromJson_eq_flags api u B] at hraw
  have heq : raw = value := by
    refine Nat.eq_of_testBit_eq fun k => Bool.eq_iff_iff.mpr ?_
    by_cases hk : ∃ item ∈ B.items, item.mask.testBit k = true
    · obtain ⟨item, hitem, hk⟩ := hk
      have hfirst := (BitField.eq_two_pow_iff (B.mask_ne_zero item hitem)).mp (h.single item hitem)
        k hk
      rw [testBit_fromJson hraw hitem hk, flag_toJson h hitem, Except.ok.injEq, ← hfirst]
      exact and_iff_right rfl
    · exact iff_of_false (fun h => hk (declared_of_fromJson hraw k h)) (fun h => hk (hvalue k h))
  rw [hraw, heq]

theorem declared_two_pow {item : ZclBitmapItem} (hitem : item ∈ B.items) {k : ℕ}
    (hk : item.mask.testBit k = true) : B.Declared (2 ^ k) := by
  intro j hj
  rw [Nat.testBit_two_pow, decide_eq_true_eq] at hj
  exact ⟨item, hitem, hj ▸ hk⟩

/-- A bit that is given back is the lowest of its field, and its name stands for this bit only. -/
theorem RoundTrip.of_testBit (h : B.RoundTrip api u) {item : ZclBitmapItem}
    (hitem : item ∈ B.items) {k : ℕ} (hk : item.mask.testBit k = true) :
    k = BitField.firstBit item.mask ∧
      ∀ other ∈ B.items, B.unifyBitmapValName u other = B.unifyBitmapValName u item →
        other = item := by
  have hdecoded := h.decoded (2 ^ k) (declared_two_pow hitem hk)
  obtain ⟨hfirst, hflag⟩ := (testBit_fromJson hdecoded hitem hk).mp Nat.testBit_two_pow_self
  refine ⟨hfirst, fun other hother hname => ?_⟩
  have hbit := BitField.testBit_firstBit (B.mask_ne_zero other hother)
  have hset : (2 ^ k).testBit (BitField.firstBit other.mask) = true :=
    (testBit_fromJson hdecoded hother hbit).mpr ⟨rfl, hname ▸ hflag⟩
  rw [Nat.testBit_two_pow, decide_eq_true_eq] at hset
  exact B.item_unique hother hitem hbit (hset ▸ hk)

theorem items_nodup (B : ZclBitmap) : B.items.Nodup := by
  refine List.Pairwise.imp_of_mem ?_ B.disjoint
  rintro a b ha - hab rfl
  rw [Nat.and_self] at hab
  exact B.mask_ne_zero a ha hab

theorem RoundTrip.namedBits (h : B.RoundTrip api u) {item : ZclBitmapItem}
    (hitem : item ∈ B.items) : B.NamedBits u where
  exist := by
    by_contra hexist
    -- A number has no members to look up.
    have hzero := h.decoded 0 fun k hk => by
      rw [Nat.zero_testBit] at hk
      cases hk
    obtain ⟨set, hset⟩ := flag_of_fromJson hzero hitem
    rw [toJson, if_neg hexist] at hset
    cases hset
  single item hitem :=
    (BitField.eq_two_pow_iff (B.mask_ne_zero item hitem)).mpr fun _ hk => (h.of_testBit hitem hk).1
  names := by
    refine List.Nodup.map_on (fun a ha b hb hname => ?_) B.items_nodup
    have hbit := BitField.testBit_firstBit (B.mask_ne_zero b hb)
    exact (h.of_testBit hb hbit).2 a ha hname

theorem roundTrip_of_nil (h : B.items = []) : B.RoundTrip api u := by
  refine RoundTrip.of_decoded fun value hvalue => ?_
  have hzero : value = 0 := by
    by_contra hne
    obtain ⟨k, hk⟩ := Nat.exists_testBit_of_ne_zero hne
    obtain ⟨item, hitem, -⟩ := hvalue k hk
    rw [h] at hitem
    cases hitem
  rw [hzero, fromJson, h]
  rfl

theorem roundTrip_iff_namedBits : B.RoundTrip api u ↔ B.items = [] ∨ B.NamedBits u := by
  constructor
  · intro h
    cases hitems : B.items with
    | nil => exact Or.inl rfl
    | cons item items =>
      exact Or.inr (h.namedBits (hitems ▸ List.mem_cons_self))
  · rintro (hnil | hbits)
    · exact roundTrip_of_nil hnil
    · exact hbits.roundTrip

end ZclBitmap

namespace ZclEnum

variable (u : UnifyTypes) (E : ZclEnum)

/-- The item at an index. A label that Unify's enumeration does not reach is given no name. -/
def unifyEnumValName (item : ZclEnumItem) (index : ℕ) : String :=
  match u.enums.lookup (u.unifyEnumName E.label) with
  | some names => names.getD index ""
  | none =>
    match u.enums.lookup (u.unifyEnumName (E.clusterLabel ++ "::" ++ E.label)) with
    | some names => names.getD index ""
    | none => item.label

/-- The rows of the table in `from_json`, and the cases in `to_json`. -/
def table : List (String × ℤ) :=
  E.items.zipIdx.map fun p => (E.unifyEnumValName u p.1 p.2, p.1.value)

def toJson (value : ℤ) : Json :=
  if unifyTypeExists E.label then
    match (E.table u).find? fun row => row.2 = value with
    | some row => .string (.utf8 row.1)
    | none => .string (.utf8 "{}")
  else .integer (IntType.uint8.cast value)

theorem table_snd : (E.table u).map Prod.snd = E.items.map (·.value) := by
  have hitems : E.items.zipIdx.map Prod.fst = E.items := List.zipIdx_map_fst 0 E.items
  rw [table, List.map_map]
  calc E.items.zipIdx.map (fun p => p.1.value)
      = (E.items.zipIdx.map Prod.fst).map (·.value) := by rw [List.map_map]; rfl
    _ = E.items.map (·.value) := by rw [hitems]

theorem mem_items_of_table {row : String × ℤ} (h : row ∈ E.table u) :
    ∃ item ∈ E.items, item.value = row.2 := by
  have hsnd := List.mem_map_of_mem (f := Prod.snd) h
  rw [table_snd] at hsnd
  exact List.mem_map.mp hsnd

/-- The type of an attribute, as the reports are converted to it. -/
def enumType : EnumType where
  type := E.type
  table := E.table u
  table_inRange := by
    intro row hrow
    obtain ⟨item, hitem, hvalue⟩ := E.mem_items_of_table u hrow
    exact hvalue ▸ E.value_inRange item hitem

def fromJson (value : Json) : Except CxxException (Option CacheValue) :=
  UnifyMatterBridge.fromJson (.enum (E.enumType u)) value

structure RoundTrip : Prop where
  decoded : ∀ item ∈ E.items,
    E.fromJson u (E.toJson u item.value) = .ok (some (.int E.type item.value))
  injective : ∀ a ∈ E.items, ∀ b ∈ E.items,
    E.toJson u a.value = E.toJson u b.value → a.value = b.value

/-- Unify has the type, and each label has a name of its own. -/
structure NamedLabels : Prop where
  exist : unifyTypeExists E.label = true
  names : ((E.table u).map Prod.fst).Nodup

variable {u E}

theorem table_snd_nodup : ((E.table u).map Prod.snd).Nodup := by
  rw [table_snd]
  exact E.values_nodup

theorem toJson_of_mem (hexist : unifyTypeExists E.label = true) {row : String × ℤ}
    (h : row ∈ E.table u) : E.toJson u row.2 = .string (.utf8 row.1) := by
  rw [toJson, if_pos hexist]
  cases hfind : (E.table u).find? fun r => r.2 = row.2 with
  | none =>
    have hne := List.find?_eq_none.mp hfind row h
    exact absurd (decide_eq_true rfl) hne
  | some found =>
    have hvalue : found.2 = row.2 := by
      have hsome := List.find?_some hfind
      exact of_decide_eq_true hsome
    have hmem := List.mem_of_find?_eq_some hfind
    rw [List.inj_on_of_nodup_map table_snd_nodup hmem h hvalue]

/-- The converter from JSON gives a label back if its row is the first of this name. -/
theorem fromJson_toJson (hexist : unifyTypeExists E.label = true) {row : String × ℤ}
    (h : row ∈ E.table u) : E.fromJson u (E.toJson u row.2) = .ok (some (.int E.type row.2)) ↔
      (E.table u).lookup row.1 = some row.2 := by
  have hjson : E.fromJson u (.string (.utf8 row.1)) =
      .ok (((E.table u).lookup row.1).map (.int E.type)) := rfl
  rw [toJson_of_mem hexist h, hjson, Except.ok.injEq]
  cases (E.table u).lookup row.1 with
  | none => simp
  | some value => simp

theorem decoded_iff : (∀ item ∈ E.items,
      E.fromJson u (E.toJson u item.value) = .ok (some (.int E.type item.value))) ↔
    ∀ row ∈ E.table u, E.fromJson u (E.toJson u row.2) = .ok (some (.int E.type row.2)) := by
  have hvalues (p : ℤ → Prop) : (∀ item ∈ E.items, p item.value) ↔ ∀ row ∈ E.table u, p row.2 := by
    rw [← List.forall_mem_map (f := Prod.snd), table_snd, List.forall_mem_map]
  exact hvalues fun value => E.fromJson u (E.toJson u value) = .ok (some (.int E.type value))

theorem RoundTrip.of_decoded (h : ∀ item ∈ E.items,
    E.fromJson u (E.toJson u item.value) = .ok (some (.int E.type item.value))) :
    E.RoundTrip u where
  decoded := h
  injective a ha b hb heq := by
    have hdecoded := h a ha
    rw [heq, h b hb] at hdecoded
    simp only [Except.ok.injEq, Option.some.injEq, CacheValue.int.injEq] at hdecoded
    exact hdecoded.2.symm

theorem NamedLabels.roundTrip (h : E.NamedLabels u) : E.RoundTrip u := by
  refine RoundTrip.of_decoded (decoded_iff.mpr fun row hrow => ?_)
  exact (fromJson_toJson h.exist hrow).mpr (NameTable.lookup_of_mem h.names hrow)

theorem RoundTrip.namedLabels (h : E.RoundTrip u) {item : ZclEnumItem} (hitem : item ∈ E.items) :
    E.NamedLabels u := by
  have hexist : unifyTypeExists E.label = true := by
    by_contra hexist
    -- A number is no string.
    have hdecoded := h.decoded item hitem
    rw [toJson, if_neg hexist] at hdecoded
    cases hdecoded
  have hnames : ((E.table u).map Prod.fst).Nodup := by
    refine (NameTable.nodup_names_iff table_snd_nodup).mpr fun row hrow => ?_
    exact (fromJson_toJson hexist hrow).mp (decoded_iff.mp h.decoded row hrow)
  exact ⟨hexist, hnames⟩

theorem roundTrip_iff_namedLabels : E.RoundTrip u ↔ E.items = [] ∨ E.NamedLabels u := by
  constructor
  · intro h
    cases hitems : E.items with
    | nil => exact Or.inl rfl
    | cons item items =>
      exact Or.inr (h.namedLabels (hitems ▸ List.mem_cons_self))
  · rintro (hnil | hlabels)
    · refine RoundTrip.of_decoded fun item hitem => ?_
      rw [hnil] at hitem
      cases hitem
    · exact hlabels.roundTrip

end ZclEnum

/-- The values that the two converters give back are those of the types that Unify has, in which each
field is a single bit and each field and label has a name of its own. -/
theorem converters_roundTrip_iff (api : BitMaskApi) (u : UnifyTypes) :
    (∀ B : ZclBitmap, B.RoundTrip api u ↔ B.items = [] ∨ B.NamedBits u) ∧
      ∀ E : ZclEnum, E.RoundTrip u ↔ E.items = [] ∨ E.NamedLabels u :=
  ⟨fun _ => ZclBitmap.roundTrip_iff_namedBits, fun _ => ZclEnum.roundTrip_iff_namedLabels⟩

section Example

def BitMaskApi.shifting : BitMaskApi where
  getField raw mask := (raw &&& mask) >>> BitField.firstBit mask
  setField raw mask value :=
    raw ^^^ (raw &&& mask) ||| (value <<< BitField.firstBit mask) &&& mask
  testBit_getField := by
    intro raw mask _ i
    rw [Nat.testBit_shiftRight, Nat.testBit_and, Bool.and_comm]
  testBit_setField := by
    intro raw mask value _ i
    rw [Nat.testBit_or, Nat.testBit_xor, Nat.testBit_and, Nat.testBit_and, Nat.testBit_shiftLeft]
    cases hi : mask.testBit i with
    | false => simp
    | true =>
      have hle := BitField.firstBit_le hi
      simp [hle]

def homeUnify : UnifyTypes where
  bitmapsUnifyToMatter := [("DoorLockAlarmMask", []), ("WindowCoveringMode", ["Mode"])]
  enumsUnifyToMatter := [("MoveStepMode", ["MoveMode", "StepMode"]),
    ("WindowCoveringWindowCoveringType", ["Type"])]
  bitmaps := [("WindowCoveringMode", [(1, "MotorDirectionReversed"), (2, "CalibrationMode"),
    (4, "MaintenanceMode"), (8, "LEDFeedback")])]
  enums := [("CredentialTypeEnum",
    ["ProgrammingPIN", "PIN", "RFID", "Fingerprint", "FingerVein", "Face"])]

private theorem signed_uint8 : IntType.uint8.signed = false := rfl

def windowCoveringMode : ZclBitmap where
  label := "Mode"
  type := .uint8
  items := [⟨"MotorDirectionReversed", 1⟩, ⟨"CalibrationMode", 2⟩, ⟨"MaintenanceMode", 4⟩,
    ⟨"LedFeedback", 8⟩]
  unsigned := signed_uint8
  mask_ne_zero := by decide
  mask_lt := by decide
  disjoint := by decide

def windowCoveringStatus : ZclBitmap where
  label := "OperationalStatus"
  type := .uint8
  items := [⟨"Global", 0x03⟩, ⟨"Lift", 0x0C⟩, ⟨"Tilt", 0x30⟩]
  unsigned := signed_uint8
  mask_ne_zero := by decide
  mask_lt := by decide
  disjoint := by decide

example : (windowCoveringMode.bitmapType homeUnify).fields = modeBitmap.fields := by decide

example : (windowCoveringStatus.bitmapType homeUnify).fields = operationalStatusBitmap.fields := by
  decide

def credentialTypeEnum : ZclEnum where
  clusterLabel := "Door Lock"
  label := "CredentialTypeEnum"
  type := .uint8
  items := [⟨"ProgrammingPIN", 0⟩, ⟨"PIN", 1⟩, ⟨"RFID", 2⟩, ⟨"Fingerprint", 3⟩, ⟨"FingerVein", 4⟩,
    ⟨"Face", 5⟩, ⟨"AliroCredentialIssuerKey", 6⟩, ⟨"AliroEvictableEndpointKey", 7⟩,
    ⟨"AliroNonEvictableEndpointKey", 8⟩]
  value_inRange := by decide
  values_nodup := by decide

/-- A covering that closes has the JSON of one that opens, and the last two of the door lock's types of
credentials are converted to the one before them. -/
theorem not_roundTrip_of_windowCoveringStatus :
    (windowCoveringStatus.Declared 2 ∧
      windowCoveringStatus.toJson .shifting homeUnify 2 =
        windowCoveringStatus.toJson .shifting homeUnify 1 ∧
      windowCoveringStatus.fromJson .shifting homeUnify
        (windowCoveringStatus.toJson .shifting homeUnify 2) = .ok 1 ∧
      ¬ windowCoveringStatus.RoundTrip .shifting homeUnify) ∧
    credentialTypeEnum.fromJson homeUnify (credentialTypeEnum.toJson homeUnify 7) =
      .ok (some (.int .uint8 6)) ∧
    ¬ credentialTypeEnum.RoundTrip homeUnify := by
  have hdeclared : windowCoveringStatus.Declared 2 :=
    @ZclBitmap.declared_two_pow windowCoveringStatus ⟨"Global", 0x03⟩ List.mem_cons_self 1
      (by decide)
  have hdecoded : windowCoveringStatus.fromJson .shifting homeUnify
      (windowCoveringStatus.toJson .shifting homeUnify 2) = .ok 1 := rfl
  have hlabel : credentialTypeEnum.fromJson homeUnify (credentialTypeEnum.toJson homeUnify 7) =
      .ok (some (.int .uint8 6)) := rfl
  refine ⟨⟨hdeclared, rfl, hdecoded, fun h => ?_⟩, hlabel, fun h => ?_⟩
  · have hvalue := h.decoded 2 hdeclared
    rw [hdecoded] at hvalue
    cases hvalue
  · have hvalue := h.decoded ⟨"AliroEvictableEndpointKey", 7⟩ (by simp [credentialTypeEnum])
    rw [hlabel] at hvalue
    cases hvalue

end Example

end UnifyMatterBridge
