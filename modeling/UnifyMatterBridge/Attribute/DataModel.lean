import UnifyMatterBridge.Command.Emulators
import Mathlib.Data.Nat.Bitwise

/-! The attributes that the translators are generated from, the conversion of reported values
(`from_json`), and what the cache holds of them. -/
namespace UnifyMatterBridge

namespace Json

/-- A floating-point number without its fraction. -/
def truncated (q : ℚ) : ℤ := q.num.tdiv q.den

/-- `get<T>` of an integer type: the `static_cast` of any number, which is undefined for a
floating-point number that is out of range. A `uint64_t` is the library's own type of unsigned
numbers, to which booleans do not convert. -/
def getInt (t : IntType) : Json → Except CxxException ℤ
  | .integer n => .ok (t.cast n)
  | .float q => if t.InRange (truncated q) then .ok (truncated q) else .error .undefined
  | .boolean b => if t = .uint64 then .error .jsonTypeError else .ok (t.cast b.toInt)
  | _ => .error .jsonTypeError

def getBool : Json → Except CxxException Bool
  | .boolean b => .ok b
  | _ => .error .jsonTypeError

def getString : Json → Except CxxException Text
  | .string s => .ok s
  | _ => .error .jsonTypeError

def flag (name : String) : Json → Except CxxException Bool
  | .object fields =>
    match fields.lookup name with
    | some j => j.getBool
    | none => .ok false
  | _ => .error .jsonTypeError

/-- The bits of the fields that are true, on top of those set already. -/
def flags (fields : List (String × ℕ)) (raw : ℕ) (value : Json) : Except CxxException ℕ :=
  fields.foldlM (fun raw f => do return if ← value.flag f.1 then raw ||| 2 ^ f.2 else raw) raw

/-- `operator[]`, which adds a member that is missing, and makes an object of null. -/
def subscript (key : String) : Json → Except CxxException Json
  | .null => .ok .null
  | .object fields => .ok ((fields.lookup key).getD .null)
  | _ => .error .jsonTypeError

end Json

structure EnumType where
  type : IntType
  table : List (String × ℤ)
  table_inRange : ∀ e ∈ table, type.InRange e.2

structure BitmapType where
  type : IntType
  fields : List (String × ℕ)
  unsigned : type.signed = false
  fields_lt : ∀ f ∈ fields, f.2 < type.bits

inductive AttributeType where
  | bool
  | int (t : IntType)
  | enum (e : EnumType)
  | bitmap (b : BitmapType)

/-- The number that stands for null. -/
def IntType.null (t : IntType) : ℤ := if t.signed then t.min else t.max

namespace AttributeType

def alternative : AttributeType → Alternative
  | .bool => .bool
  | .int t => .int t
  | .enum e => .int e.type
  | .bitmap b => .int b.type

/-- The value is the one that stands for null in a nullable attribute of the type
(`ExistingValueInEncodableRange` rejects it). -/
def isNullValue : AttributeType → CacheValue → Bool
  | .int t, .int _ n => n = t.null
  | .enum e, .int _ n => n = e.type.max
  | .bitmap b, .int _ n => n.toNat.testBit (b.type.bits - 1)
  | _, _ => false

end AttributeType

/-- `from_json` of a type that is not nullable; none for a label that is not in the table. -/
def fromJson (type : AttributeType) (value : Json) : Except CxxException (Option CacheValue) :=
  match type with
  | .bool => do return some (.bool (← value.getBool))
  | .int t => do return some (.int t (← value.getInt t))
  | .enum e => do
    match ← value.getString with
    | .utf8 label => return (e.table.lookup label).map (.int e.type)
    | .malformed _ => return none
  | .bitmap b => do return some (.int b.type (← value.flags b.fields 0))

/-- An attribute of the server side. Those of Unify have a case in `reported_updated`. -/
structure AttributeInfo where
  type : AttributeType
  nullable : Bool
  reportable : Bool

/-- The attribute ids and types of the Matter stack, and the names that Unify has for the
attributes (`unify_to_matter_attribute_id_map`). -/
structure DataModel where
  getAttributeId : (clusterName attributeName : String) → Option ℕ
  attributeInfo : (clusterId attributeId : ℕ) → Option AttributeInfo
  /-- The emulators read attributes of the model, as the type they have. -/
  emulated : ∀ {clusterId attributeId t}, emulatorType clusterId attributeId = some t →
    ∃ info, attributeInfo clusterId attributeId = some info ∧ info.type.alternative = .int t
  operationalStatus : ∃ b, attributeInfo 0x0102 0x0A = some ⟨.bitmap b, false, false⟩
  liftId : getAttributeId "WindowCovering" "CurrentPositionLift" = some 0x03
  lift : attributeInfo 0x0102 0x03 = some ⟨.int .uint16, true, true⟩
  liftPercentageId : getAttributeId "WindowCovering" "CurrentPositionLiftPercentage" = some 0x08
  liftPercentage : attributeInfo 0x0102 0x08 = some ⟨.int .uint8, true, true⟩

/-- The value is within the range of its type. -/
def CacheValue.InRange : CacheValue → Prop
  | .int t n => t.InRange n
  | _ => True

/-- What the cache can hold for an attribute. -/
structure AttributeInfo.Holds (info : AttributeInfo) (v : CacheValue) : Prop where
  typed : v.alternative = info.type.alternative
  inRange : v.InRange
  notNull : info.nullable = true → info.type.isNullValue v = false

/-- A cache that holds values of its attributes only. -/
structure StateCache (m : DataModel) where
  values : AttributeCache
  holds : ∀ path info v, m.attributeInfo path.clusterId path.attributeId = some info →
    values path = some v → info.Holds v

namespace StateCache

variable {m : DataModel}

def empty (m : DataModel) : StateCache m := ⟨AttributeCache.empty, fun _ _ _ _ h => by cases h⟩

def set (c : StateCache m) (path : AttrPath) (v : CacheValue)
    (hv : ∀ info, m.attributeInfo path.clusterId path.attributeId = some info → info.Holds v) :
    StateCache m where
  values := c.values.set path v
  holds p info w hinfo hw := by
    rw [AttributeCache.set_apply] at hw
    split_ifs at hw with hp
    · cases hw
      exact hv info (hp ▸ hinfo)
    · exact c.holds p info w hinfo hw

@[simp] theorem set_values (c : StateCache m) (path : AttrPath) (v : CacheValue)
    (hv : ∀ info, m.attributeInfo path.clusterId path.attributeId = some info → info.Holds v) :
    (c.set path v hv).values = c.values.set path v := rfl

def typed (c : StateCache m) : TypedCache where
  values := c.values
  typed path t ht v hv := by
    obtain ⟨info, hinfo, halternative⟩ := m.emulated ht
    exact (c.holds path info v hinfo hv).typed.trans halternative

end StateCache

section Conversion

variable {type : AttributeType} {value : Json} {v : CacheValue}

theorem Json.getInt_inRange {t : IntType} {n : ℤ} (h : value.getInt t = .ok n) : t.InRange n := by
  unfold Json.getInt at h
  split at h
  · cases h
    exact t.cast_inRange _
  · split_ifs at h with hrange
    cases h
    exact hrange
  · split_ifs at h
    cases h
    exact t.cast_inRange _
  · cases h

theorem BitmapType.inRange_of_lt (b : BitmapType) {raw : ℕ} (h : raw < 2 ^ b.type.bits) :
    b.type.InRange raw := by
  have hmin : b.type.min = 0 := by
    simp [IntType.min, b.unsigned]
  have hmax := b.type.max_eq
  have hcast : (raw : ℤ) < 2 ^ b.type.bits := by
    exact_mod_cast h
  constructor <;> omega

section Flags

variable {fields : List (String × ℕ)} {f : String × ℕ} {start raw : ℕ}

theorem Json.flags_cons_ok {set : Bool} (h : value.flag f.1 = .ok set) :
    value.flags (f :: fields) start =
      value.flags fields (if set then start ||| 2 ^ f.2 else start) := by
  unfold flags
  rw [List.foldlM_cons, h]
  rfl

theorem Json.flags_cons_error {e : CxxException} (h : value.flag f.1 = .error e) :
    value.flags (f :: fields) start = .error e := by
  unfold flags
  rw [List.foldlM_cons, h]
  rfl

theorem Json.flag_of_flags (h : value.flags fields start = .ok raw) :
    ∀ f ∈ fields, ∃ set, value.flag f.1 = .ok set := by
  induction fields generalizing start with
  | nil => exact fun _ hf => absurd hf List.not_mem_nil
  | cons f fields ih =>
    cases hflag : value.flag f.1 with
    | error e =>
      rw [flags_cons_error hflag] at h
      cases h
    | ok set =>
      rw [flags_cons_ok hflag] at h
      intro g hg
      cases hg with
      | head => exact ⟨set, hflag⟩
      | tail _ hg => exact ih h g hg

theorem Json.exists_flags (h : ∀ f ∈ fields, ∃ set, value.flag f.1 = .ok set) (start : ℕ) :
    ∃ raw, value.flags fields start = .ok raw := by
  induction fields generalizing start with
  | nil => exact ⟨start, rfl⟩
  | cons f fields ih =>
    obtain ⟨set, hset⟩ := h f List.mem_cons_self
    rw [flags_cons_ok hset]
    exact ih (fun g hg => h g (List.mem_cons_of_mem _ hg)) _

/-- The bits of a converted bitmap are those of the fields that are true. -/
theorem Json.testBit_flags (h : value.flags fields start = .ok raw) (bit : ℕ) :
    raw.testBit bit = true ↔ start.testBit bit = true ∨
      ∃ f ∈ fields, f.2 = bit ∧ value.flag f.1 = .ok true := by
  induction fields generalizing start with
  | nil =>
    cases h
    simp
  | cons f fields ih =>
    obtain ⟨set, hset⟩ := flag_of_flags h f List.mem_cons_self
    rw [flags_cons_ok hset] at h
    have hstart : (if set then start ||| 2 ^ f.2 else start).testBit bit = true ↔
        start.testBit bit = true ∨ f.2 = bit ∧ value.flag f.1 = .ok true := by
      rw [hset]
      cases set with
      | false => simp
      | true => simp [Nat.testBit_or, Nat.testBit_two_pow]
    rw [ih h, hstart]
    simp only [List.mem_cons, exists_eq_or_imp, or_assoc]

theorem Json.flags_lt {bits : ℕ} (hfields : ∀ f ∈ fields, f.2 < bits)
    (h : value.flags fields 0 = .ok raw) : raw < 2 ^ bits := by
  refine Nat.lt_pow_two_of_testBit _ fun bit hbits => Bool.eq_false_iff.mpr fun hbit => ?_
  obtain hzero | ⟨f, hf, hbit, -⟩ := (testBit_flags h bit).mp hbit
  · rw [Nat.zero_testBit] at hzero
    cases hzero
  · have hlt := hfields f hf
    omega

end Flags

theorem fromJson_typed (h : fromJson type value = .ok (some v)) :
    v.alternative = type.alternative ∧ v.InRange := by
  cases type with
  | bool =>
    cases hbool : value.getBool with
    | error e => simp [fromJson, hbool, Bind.bind, Except.bind] at h
    | ok b =>
      simp only [fromJson, hbool] at h
      cases h
      exact ⟨rfl, trivial⟩
  | int t =>
    cases hint : value.getInt t with
    | error e => simp [fromJson, hint, Bind.bind, Except.bind] at h
    | ok n =>
      simp only [fromJson, hint] at h
      cases h
      exact ⟨rfl, Json.getInt_inRange hint⟩
  | enum e =>
    cases hstring : value.getString with
    | error e => simp [fromJson, hstring, Bind.bind, Except.bind] at h
    | ok s =>
      cases s with
      | malformed bytes =>
        simp only [fromJson, hstring] at h
        cases h
      | utf8 label =>
        simp only [fromJson, hstring] at h
        obtain ⟨n, hlookup, hn⟩ := Option.map_eq_some_iff.mp (Except.ok.inj h)
        obtain ⟨before, after, htable, -⟩ := List.lookup_eq_some_iff.mp hlookup
        have hmem : (label, n) ∈ e.table := by
          rw [htable]
          exact List.mem_append_right _ List.mem_cons_self
        rw [← hn]
        exact ⟨rfl, e.table_inRange _ hmem⟩
  | bitmap b =>
    cases hraw : value.flags b.fields 0 with
    | error e =>
      simp only [fromJson, hraw] at h
      cases h
    | ok raw =>
      simp only [fromJson, hraw] at h
      cases h
      exact ⟨rfl, b.inRange_of_lt (Json.flags_lt b.fields_lt hraw)⟩

end Conversion

section Example

structure AttributeRow where
  clusterId : ℕ
  attributeId : ℕ
  clusterName : String
  name : Option String
  info : AttributeInfo

def modeBitmap : BitmapType where
  type := .uint8
  fields := [("MotorDirectionReversed", 0), ("CalibrationMode", 1), ("MaintenanceMode", 2),
    ("LEDFeedback", 3)]
  unsigned := rfl
  fields_lt := by decide

def operationalStatusBitmap : BitmapType where
  type := .uint8
  fields := [("Global", 0), ("Lift", 2), ("Tilt", 4)]
  unsigned := rfl
  fields_lt := by decide

def homeRows : List AttributeRow :=
  [⟨0x0006, 0x00, "OnOff", some "OnOff", ⟨.bool, false, true⟩⟩,
    ⟨0x0008, 0x4000, "Level", some "StartUpCurrentLevel", ⟨.int .uint8, true, true⟩⟩,
    ⟨0x0102, 0x03, "WindowCovering", some "CurrentPositionLift", ⟨.int .uint16, true, true⟩⟩,
    ⟨0x0102, 0x08, "WindowCovering", some "CurrentPositionLiftPercentage",
      ⟨.int .uint8, true, true⟩⟩,
    ⟨0x0102, 0x0A, "WindowCovering", none, ⟨.bitmap operationalStatusBitmap, false, false⟩⟩,
    ⟨0x0102, 0x10, "WindowCovering", some "InstalledOpenLimitLift", ⟨.int .uint16, false, true⟩⟩,
    ⟨0x0102, 0x11, "WindowCovering", some "InstalledClosedLimitLift",
      ⟨.int .uint16, false, true⟩⟩,
    ⟨0x0102, 0x17, "WindowCovering", some "Mode", ⟨.bitmap modeBitmap, false, true⟩⟩,
    ⟨0x0201, 0x11, "Thermostat", some "OccupiedCoolingSetpoint", ⟨.int .int16, false, true⟩⟩,
    ⟨0x0201, 0x12, "Thermostat", some "OccupiedHeatingSetpoint", ⟨.int .int16, false, true⟩⟩,
    ⟨0x0201, 0x15, "Thermostat", some "MinHeatSetpointLimit", ⟨.int .int16, false, true⟩⟩,
    ⟨0x0201, 0x16, "Thermostat", some "MaxHeatSetpointLimit", ⟨.int .int16, false, true⟩⟩,
    ⟨0x0201, 0x17, "Thermostat", some "MinCoolSetpointLimit", ⟨.int .int16, false, true⟩⟩,
    ⟨0x0201, 0x18, "Thermostat", some "MaxCoolSetpointLimit", ⟨.int .int16, false, true⟩⟩]

def homeModel : DataModel where
  getAttributeId clusterName attributeName :=
    (homeRows.find? fun row => row.clusterName = clusterName ∧ row.name = some attributeName).map
      (·.attributeId)
  attributeInfo clusterId attributeId :=
    (homeRows.find? fun row => row.clusterId = clusterId ∧ row.attributeId = attributeId).map (·.info)
  emulated := by
    intro clusterId attributeId t h
    unfold emulatorType at h
    split at h
    all_goals first
      | cases h
        exact ⟨_, rfl, rfl⟩
      | cases h
  operationalStatus := ⟨operationalStatusBitmap, rfl⟩
  liftId := by decide
  lift := rfl
  liftPercentageId := by decide
  liftPercentage := rfl

end Example

end UnifyMatterBridge
