import UnifyMatterBridge.Attribute.DataModel
import Mathlib.Algebra.Order.Group.Abs
import Mathlib.Algebra.Order.Ring.Int

/-! The setpoint commands of the thermostat emulator (`UpdateHeatingSetpoint` and
`UpdateCoolingSetpoint`): an amount is replaced if the setpoint would leave its limits, with a sum
that is narrowed to 16 bits and a quotient that is narrowed to 8. -/
namespace UnifyMatterBridge

theorem IntType.int8_cast (n : ℤ) : IntType.int8.cast n = (n + 128) % 256 - 128 := by
  simp [IntType.cast, IntType.min, IntType.signed, IntType.bits]
  omega

theorem IntType.inRange_int8 {n : ℤ} : IntType.int8.InRange n ↔ -128 ≤ n ∧ n ≤ 127 := Iff.rfl

theorem IntType.inRange_int16 {n : ℤ} : IntType.int16.InRange n ↔ -32768 ≤ n ∧ n ≤ 32767 := Iff.rfl

theorem StateCache.int_inRange {m : DataModel} (c : StateCache m) {path : AttrPath} {t : IntType}
    (ht : emulatorType path.clusterId path.attributeId = some t) {n : ℤ}
    (h : c.typed.int path = some n) : t.InRange n := by
  obtain ⟨info, hinfo, halternative⟩ := m.emulated ht
  unfold TypedCache.int at h
  split at h
  · next t' n' hc =>
    cases h
    have hholds := c.holds path info _ hinfo hc
    have htype : t' = t := Alternative.int.inj (hholds.typed.trans halternative)
    exact htype ▸ hholds.inRange
  · cases h

namespace EmulateThermostat

section Cache

variable (s : Setpoint) (c : TypedCache) (endpointId : ℕ)

def attrPath (attributeId : ℕ) : AttrPath := ⟨endpointId, 0x0201, attributeId⟩

/-- The cached setpoint. -/
def Setpoint.cached : Option ℤ := c.int (attrPath endpointId s.occupied)

def Setpoint.minLimitIn : ℤ := (c.int (attrPath endpointId s.minLimit)).getD s.minDefault
def Setpoint.maxLimitIn : ℤ := (c.int (attrPath endpointId s.maxLimit)).getD s.maxDefault

end Cache

/-- What an update makes of the amount. -/
def clamp (occupied minLimit maxLimit amount : ℤ) : ℤ :=
  let updated := IntType.int16.cast (occupied + amount * 10)
  let amount :=
    if updated < minLimit then IntType.int8.cast ((minLimit - occupied).tdiv 10) else amount
  if updated > maxLimit then IntType.int8.cast ((maxLimit - occupied).tdiv 10) else amount

theorem updateSetpoint_eq (c : TypedCache) {s : Setpoint} (hs : s = heating ∨ s = cooling)
    (path : CommandPath) (amount : ℤ) (both : Bool) :
    updateSetpoint c.values path s amount both =
      .ok (match s.cached c path.endpointId with
        | none => if both then some amount else none
        | some occupied => some (clamp occupied (s.minLimitIn c path.endpointId)
            (s.maxLimitIn c path.endpointId) amount)) := by
  have hoccupied := getInt_setpoint c hs path.endpointId (Or.inl rfl)
  have hmin := getInt_setpoint c hs path.endpointId (Or.inr (Or.inl rfl))
  have hmax := getInt_setpoint c hs path.endpointId (Or.inr (Or.inr rfl))
  simp only [updateSetpoint, hoccupied, hmin, hmax, Setpoint.cached, attrPath]
  cases c.int ⟨path.endpointId, 0x0201, s.occupied⟩ with
  | none => rfl
  | some occupied => rfl

section Range

variable {m : DataModel} (s : Setpoint) (c : StateCache m) {endpointId : ℕ}

theorem Setpoint.cached_inRange (hs : s = heating ∨ s = cooling) {occupied : ℤ}
    (h : s.cached c.typed endpointId = some occupied) : IntType.int16.InRange occupied := by
  apply c.int_inRange _ h
  rcases hs with rfl | rfl <;> rfl

theorem Setpoint.minLimitIn_inRange (hs : s = heating ∨ s = cooling) :
    IntType.int16.InRange (s.minLimitIn c.typed endpointId) := by
  unfold minLimitIn
  cases h : c.typed.int (attrPath endpointId s.minLimit) with
  | none => rcases hs with rfl | rfl <;> decide
  | some n =>
    apply c.int_inRange _ h
    rcases hs with rfl | rfl <;> rfl

theorem Setpoint.maxLimitIn_inRange (hs : s = heating ∨ s = cooling) :
    IntType.int16.InRange (s.maxLimitIn c.typed endpointId) := by
  unfold maxLimitIn
  cases h : c.typed.int (attrPath endpointId s.maxLimit) with
  | none => rcases hs with rfl | rfl <;> decide
  | some n =>
    apply c.int_inRange _ h
    rcases hs with rfl | rfl <;> rfl

end Range

section Clamp

variable (occupied minLimit maxLimit amount : ℤ)

/-- The 16-bit sum is within the limits, so that the amount is kept. -/
def Kept : Prop :=
  minLimit ≤ IntType.int16.cast (occupied + amount * 10) ∧
    IntType.int16.cast (occupied + amount * 10) ≤ maxLimit

/-- The distance in steps of ten to the limit that the 16-bit sum is beyond. -/
def quotient : ℤ :=
  if IntType.int16.cast (occupied + amount * 10) < minLimit then (minLimit - occupied).tdiv 10
  else (maxLimit - occupied).tdiv 10

/-- How far a setpoint is outside its limits. -/
def excess (setpoint : ℤ) : ℤ := max (max (minLimit - setpoint) (setpoint - maxLimit)) 0

/-- What an amount may be replaced by: within the limits the setpoint stays there and the amount
neither grows nor turns; outside it, the setpoint is not moved further away. -/
structure Clamped (amount' : ℤ) : Prop where
  within : minLimit ≤ occupied → occupied ≤ maxLimit →
    (minLimit ≤ occupied + 10 * amount' ∧ occupied + 10 * amount' ≤ maxLimit) ∧
      |amount'| ≤ |amount| ∧ (amount' = 0 ∨ amount'.sign = amount.sign)
  outside : occupied < minLimit ∨ maxLimit < occupied →
    excess minLimit maxLimit (occupied + 10 * amount') ≤
      max (excess minLimit maxLimit occupied)
        (excess minLimit maxLimit (occupied + 10 * amount))

/-- Condition: a setpoint within its limits is not so close to the end of the 16-bit range that the
sum overflows, and one outside them not so far away that the low byte of the quotient points
away; or else that low byte is small enough by chance. -/
structure ClampCondition : Prop where
  high : minLimit ≤ occupied → occupied ≤ maxLimit → 32767 < occupied + amount * 10 →
    ¬ Kept occupied minLimit maxLimit amount ∧
      quotient occupied minLimit maxLimit amount % 256 ≤ min amount ((maxLimit - occupied) / 10)
  low : minLimit ≤ occupied → occupied ≤ maxLimit → occupied + amount * 10 < -32768 →
    ¬ Kept occupied minLimit maxLimit amount ∧
      -quotient occupied minLimit maxLimit amount % 256 ≤ min (-amount) ((occupied - minLimit) / 10)
  below : occupied < minLimit → Kept occupied minLimit maxLimit amount ∨
    quotient occupied minLimit maxLimit amount % 256 ≤ 127 ∨
      256 + min 0 amount ≤ quotient occupied minLimit maxLimit amount % 256
  above : maxLimit < occupied → Kept occupied minLimit maxLimit amount ∨
    128 ≤ quotient occupied minLimit maxLimit amount % 256 ∨
      quotient occupied minLimit maxLimit amount % 256 ≤ max 0 amount

end Clamp

section Arithmetic

variable {occupied minLimit maxLimit amount : ℤ}

theorem tdiv_ten_of_nonneg {x : ℤ} (h : 0 ≤ x) :
    0 ≤ x.tdiv 10 ∧ 10 * x.tdiv 10 ≤ x ∧ x < 10 * x.tdiv 10 + 10 := by
  have hdiv : x.tdiv 10 = x / 10 := Int.tdiv_eq_ediv_of_nonneg h
  omega

theorem tdiv_ten_of_nonpos {x : ℤ} (h : x ≤ 0) :
    x.tdiv 10 ≤ 0 ∧ x ≤ 10 * x.tdiv 10 ∧ 10 * x.tdiv 10 < x + 10 := by
  have hneg : (-x).tdiv 10 = -x.tdiv 10 := Int.neg_tdiv x 10
  obtain ⟨hnonneg, hle, hlt⟩ := tdiv_ten_of_nonneg (neg_nonneg.mpr h)
  omega

theorem clamp_of_kept (h : Kept occupied minLimit maxLimit amount) :
    clamp occupied minLimit maxLimit amount = amount := by
  obtain ⟨hlo, hhi⟩ := h
  simp only [clamp, not_lt.mpr hlo, gt_iff_lt, not_lt.mpr hhi, if_false]

theorem clamp_of_not_kept (hle : minLimit ≤ maxLimit)
    (h : ¬ Kept occupied minLimit maxLimit amount) :
    clamp occupied minLimit maxLimit amount =
      IntType.int8.cast (quotient occupied minLimit maxLimit amount) := by
  unfold clamp quotient
  by_cases hlo : IntType.int16.cast (occupied + amount * 10) < minLimit
  · have hhi : ¬ IntType.int16.cast (occupied + amount * 10) > maxLimit := by omega
    simp only [hlo, hhi, if_true, if_false]
  · have hhi : IntType.int16.cast (occupied + amount * 10) > maxLimit := by
      by_contra hhi
      exact h ⟨not_lt.mp hlo, not_lt.mp hhi⟩
    simp only [hlo, hhi, if_true, if_false]

theorem le_int8_cast_iff {n b : ℤ} (hb : -128 ≤ b) (hb' : b ≤ 0) :
    b ≤ IntType.int8.cast n ↔ n % 256 ≤ 127 ∨ 256 + b ≤ n % 256 := by
  rw [IntType.int8_cast]
  omega

theorem int8_cast_le_iff {n b : ℤ} (hb : 0 ≤ b) (hb' : b ≤ 127) :
    IntType.int8.cast n ≤ b ↔ 128 ≤ n % 256 ∨ n % 256 ≤ b := by
  rw [IntType.int8_cast]
  omega

/-- A low byte is between zero and a positive amount, and leads no further than the upper limit. -/
theorem int8_cast_allowed_up {n : ℤ} (hamount : IntType.int8.InRange amount) (hup : 0 < amount)
    (hlo : minLimit ≤ occupied) :
    let q := IntType.int8.cast n
    (min 0 amount ≤ q ∧ q ≤ max 0 amount) ∧ minLimit ≤ occupied + 10 * q ∧
        occupied + 10 * q ≤ maxLimit ↔
      n % 256 ≤ min amount ((maxLimit - occupied) / 10) := by
  intro q
  rw [IntType.inRange_int8] at hamount
  have hcast : q = (n + 128) % 256 - 128 := IntType.int8_cast n
  omega

theorem int8_cast_allowed_down {n : ℤ} (hamount : IntType.int8.InRange amount) (hdown : amount < 0)
    (hhi : occupied ≤ maxLimit) :
    let q := IntType.int8.cast n
    (min 0 amount ≤ q ∧ q ≤ max 0 amount) ∧ minLimit ≤ occupied + 10 * q ∧
        occupied + 10 * q ≤ maxLimit ↔
      -n % 256 ≤ min (-amount) ((occupied - minLimit) / 10) := by
  intro q
  rw [IntType.inRange_int8] at hamount
  have hcast : q = (n + 128) % 256 - 128 := IntType.int8_cast n
  omega

/-- A number between zero and another is one that neither exceeds nor turns it. -/
theorem abs_le_and_sign_iff {a b : ℤ} :
    |b| ≤ |a| ∧ (b = 0 ∨ b.sign = a.sign) ↔ min 0 a ≤ b ∧ b ≤ max 0 a := by
  rcases lt_trichotomy a 0 with ha | rfl | ha
  · rw [min_eq_right ha.le, max_eq_left ha.le, abs_of_neg ha, Int.sign_eq_neg_one_of_neg ha,
      Int.sign_eq_neg_one_iff_neg, abs_le]
    omega
  · simp [le_antisymm_iff, and_comm]
  · rw [min_eq_left ha.le, max_eq_right ha.le, abs_of_pos ha, Int.sign_eq_one_of_pos ha,
      Int.sign_eq_one_iff_pos, abs_le]
    omega

end Arithmetic

section Clamped

variable {occupied minLimit maxLimit amount : ℤ}

theorem quotient_spec (h : ¬ Kept occupied minLimit maxLimit amount) :
    (IntType.int16.cast (occupied + amount * 10) < minLimit ∧
        quotient occupied minLimit maxLimit amount = (minLimit - occupied).tdiv 10) ∨
      (maxLimit < IntType.int16.cast (occupied + amount * 10) ∧
        minLimit ≤ IntType.int16.cast (occupied + amount * 10) ∧
        quotient occupied minLimit maxLimit amount = (maxLimit - occupied).tdiv 10) := by
  unfold quotient
  by_cases hlo : IntType.int16.cast (occupied + amount * 10) < minLimit
  · exact Or.inl ⟨hlo, if_pos hlo⟩
  · refine Or.inr ⟨?_, not_lt.mp hlo, if_neg hlo⟩
    by_contra hhi
    exact h ⟨not_lt.mp hlo, not_lt.mp hhi⟩

/-- A sum that fits tells the side correctly: the quotient is the steps that are left on it. -/
theorem cast_quotient (hamount : IntType.int8.InRange amount) (hlo : minLimit ≤ occupied)
    (hhi : occupied ≤ maxLimit) (hsum : IntType.int16.InRange (occupied + amount * 10))
    (h : ¬ Kept occupied minLimit maxLimit amount) :
    IntType.int8.cast (quotient occupied minLimit maxLimit amount) =
      max (-((occupied - minLimit) / 10)) (min amount ((maxLimit - occupied) / 10)) := by
  have hcast := IntType.cast_of_inRange hsum
  have hbounds := IntType.inRange_int8.mp hamount
  rcases quotient_spec h with ⟨hlow, hq⟩ | ⟨hhigh, -, hq⟩
  · rw [hcast] at hlow
    obtain ⟨hnonpos, hge, hlt⟩ := tdiv_ten_of_nonpos (x := minLimit - occupied) (by omega)
    rw [hq, IntType.cast_of_inRange (IntType.inRange_int8.mpr ⟨by omega, by omega⟩)]
    omega
  · rw [hcast] at hhigh
    obtain ⟨hnonneg, hle, hlt⟩ := tdiv_ten_of_nonneg (x := maxLimit - occupied) (by omega)
    rw [hq, IntType.cast_of_inRange (IntType.inRange_int8.mpr ⟨by omega, by omega⟩)]
    omega

theorem quotient_of_inRange (hamount : IntType.int8.InRange amount) (hlo : minLimit ≤ occupied)
    (hhi : occupied ≤ maxLimit) (hsum : IntType.int16.InRange (occupied + amount * 10))
    (h : ¬ Kept occupied minLimit maxLimit amount) :
    let q := IntType.int8.cast (quotient occupied minLimit maxLimit amount)
    (min 0 amount ≤ q ∧ q ≤ max 0 amount) ∧ minLimit ≤ occupied + 10 * q ∧
      occupied + 10 * q ≤ maxLimit := by
  intro q
  have hq : q = max (-((occupied - minLimit) / 10)) (min amount ((maxLimit - occupied) / 10)) :=
    cast_quotient hamount hlo hhi hsum h
  omega

/-- With a sum that fits the amount is cut to the steps that are left on either side. -/
theorem clamp_of_inRange (hamount : IntType.int8.InRange amount) (hlo : minLimit ≤ occupied)
    (hhi : occupied ≤ maxLimit) (hsum : IntType.int16.InRange (occupied + amount * 10)) :
    clamp occupied minLimit maxLimit amount =
      max (-((occupied - minLimit) / 10)) (min amount ((maxLimit - occupied) / 10)) := by
  by_cases h : Kept occupied minLimit maxLimit amount
  · rw [clamp_of_kept h]
    obtain ⟨hlo', hhi'⟩ := h
    rw [IntType.cast_of_inRange hsum] at hlo' hhi'
    omega
  · rw [clamp_of_not_kept (hlo.trans hhi) h]
    exact cast_quotient hamount hlo hhi hsum h

/-- Below its limits a setpoint that is not moved past the upper one is moved no further away if and
only if it goes up, or down no further than the amount. -/
theorem excess_le_below_iff {q : ℤ} (hle : minLimit ≤ maxLimit) (hbelow : occupied < minLimit)
    (hq : occupied + 10 * q ≤ maxLimit) (hdown : q < 0 → occupied + 10 * amount ≤ maxLimit) :
    excess minLimit maxLimit (occupied + 10 * q) ≤
        max (excess minLimit maxLimit occupied)
          (excess minLimit maxLimit (occupied + 10 * amount)) ↔ min 0 amount ≤ q := by
  unfold excess
  omega

theorem excess_le_above_iff {q : ℤ} (hle : minLimit ≤ maxLimit) (habove : maxLimit < occupied)
    (hq : minLimit ≤ occupied + 10 * q) (hup : 0 < q → minLimit ≤ occupied + 10 * amount) :
    excess minLimit maxLimit (occupied + 10 * q) ≤
        max (excess minLimit maxLimit occupied)
          (excess minLimit maxLimit (occupied + 10 * amount)) ↔ q ≤ max 0 amount := by
  unfold excess
  omega

/-- Below its limits a setpoint is moved no further away if and only if the low byte of the quotient
points up, or down no further than the amount. -/
theorem excess_below_iff (hamount : IntType.int8.InRange amount) (hle : minLimit ≤ maxLimit)
    (hbelow : occupied < minLimit) (h : ¬ Kept occupied minLimit maxLimit amount) :
    let q := IntType.int8.cast (quotient occupied minLimit maxLimit amount)
    excess minLimit maxLimit (occupied + 10 * q) ≤
        max (excess minLimit maxLimit occupied)
          (excess minLimit maxLimit (occupied + 10 * amount)) ↔
      quotient occupied minLimit maxLimit amount % 256 ≤ 127 ∨
        256 + min 0 amount ≤ quotient occupied minLimit maxLimit amount % 256 := by
  intro q
  obtain ⟨hlo, hhi⟩ := IntType.inRange_int8.mp hamount
  have hquotient : 0 ≤ quotient occupied minLimit maxLimit amount ∧
      occupied + 10 * quotient occupied minLimit maxLimit amount ≤ maxLimit := by
    rcases quotient_spec h with ⟨-, hq⟩ | ⟨-, -, hq⟩
    · obtain ⟨hnonneg, hqle, -⟩ := tdiv_ten_of_nonneg (sub_nonneg.mpr hbelow.le)
      omega
    · obtain ⟨hnonneg, hqle, -⟩ := tdiv_ten_of_nonneg (sub_nonneg.mpr (hbelow.le.trans hle))
      omega
  have hcast : q = (quotient occupied minLimit maxLimit amount + 128) % 256 - 128 :=
    IntType.int8_cast _
  rw [← le_int8_cast_iff (by omega) (by omega)]
  apply excess_le_below_iff hle hbelow
  · omega
  · intro hdown
    omega

theorem excess_above_iff (hamount : IntType.int8.InRange amount) (hle : minLimit ≤ maxLimit)
    (habove : maxLimit < occupied) (h : ¬ Kept occupied minLimit maxLimit amount) :
    let q := IntType.int8.cast (quotient occupied minLimit maxLimit amount)
    excess minLimit maxLimit (occupied + 10 * q) ≤
        max (excess minLimit maxLimit occupied)
          (excess minLimit maxLimit (occupied + 10 * amount)) ↔
      128 ≤ quotient occupied minLimit maxLimit amount % 256 ∨
        quotient occupied minLimit maxLimit amount % 256 ≤ max 0 amount := by
  intro q
  obtain ⟨hlo, hhi⟩ := IntType.inRange_int8.mp hamount
  have hquotient : quotient occupied minLimit maxLimit amount ≤ 0 ∧
      minLimit ≤ occupied + 10 * quotient occupied minLimit maxLimit amount := by
    rcases quotient_spec h with ⟨-, hq⟩ | ⟨-, -, hq⟩
    · obtain ⟨hnonpos, hqge, -⟩ := tdiv_ten_of_nonpos (sub_nonpos.mpr (hle.trans habove.le))
      omega
    · obtain ⟨hnonpos, hqge, -⟩ := tdiv_ten_of_nonpos (sub_nonpos.mpr habove.le)
      omega
  have hcast : q = (quotient occupied minLimit maxLimit amount + 128) % 256 - 128 :=
    IntType.int8_cast _
  rw [← int8_cast_le_iff (by omega) (by omega)]
  apply excess_le_above_iff hle habove
  · omega
  · intro hup
    omega

theorem clamped_of_kept (hmin : IntType.int16.InRange minLimit)
    (hmax : IntType.int16.InRange maxLimit) (h : Kept occupied minLimit maxLimit amount) :
    Clamped occupied minLimit maxLimit amount amount ↔
      ClampCondition occupied minLimit maxLimit amount := by
  rw [IntType.inRange_int16] at hmin hmax
  constructor
  · intro hclamped
    refine ⟨fun hlo hhi hsum => ?_, fun hlo hhi hsum => ?_, fun _ => Or.inl h, fun _ => Or.inl h⟩
    all_goals
      obtain ⟨⟨hlo', hhi'⟩, -⟩ := hclamped.within hlo hhi
      omega
  · intro hcondition
    constructor
    · intro hlo hhi
      have hsum : IntType.int16.InRange (occupied + amount * 10) := by
        rw [IntType.inRange_int16]
        constructor
        · by_contra hlow
          exact (hcondition.low hlo hhi (not_le.mp hlow)).1 h
        · by_contra hhigh
          exact (hcondition.high hlo hhi (not_le.mp hhigh)).1 h
      obtain ⟨hlo', hhi'⟩ := h
      rw [IntType.cast_of_inRange hsum] at hlo' hhi'
      exact ⟨⟨by omega, by omega⟩, le_rfl, Or.inr rfl⟩
    · exact fun _ => le_max_right _ _

theorem clamped_of_not_kept (hoccupied : IntType.int16.InRange occupied)
    (hamount : IntType.int8.InRange amount) (hle : minLimit ≤ maxLimit)
    (h : ¬ Kept occupied minLimit maxLimit amount) :
    Clamped occupied minLimit maxLimit amount
        (IntType.int8.cast (quotient occupied minLimit maxLimit amount)) ↔
      ClampCondition occupied minLimit maxLimit amount := by
  have hbelow := fun hlt => excess_below_iff hamount hle hlt h
  have habove := fun hlt => excess_above_iff hamount hle hlt h
  rw [IntType.inRange_int16] at hoccupied
  constructor
  · intro hclamped
    have hallowed := fun hlo hhi => And.intro
      (abs_le_and_sign_iff.mp (hclamped.within hlo hhi).2) (hclamped.within hlo hhi).1
    constructor
    · intro hlo hhi hsum
      exact ⟨h, (int8_cast_allowed_up hamount (by omega) hlo).mp (hallowed hlo hhi)⟩
    · intro hlo hhi hsum
      exact ⟨h, (int8_cast_allowed_down hamount (by omega) hhi).mp (hallowed hlo hhi)⟩
    · exact fun hlt => Or.inr ((hbelow hlt).mp (hclamped.outside (Or.inl hlt)))
    · exact fun hlt => Or.inr ((habove hlt).mp (hclamped.outside (Or.inr hlt)))
  · intro hcondition
    constructor
    · intro hlo hhi
      rw [abs_le_and_sign_iff, and_comm]
      by_cases hsum : IntType.int16.InRange (occupied + amount * 10)
      · exact quotient_of_inRange hamount hlo hhi hsum h
      · rw [IntType.inRange_int16, not_and_or, not_le, not_le] at hsum
        rcases hsum with hsum | hsum
        · apply (int8_cast_allowed_down hamount (by omega) hhi).mpr
          exact (hcondition.low hlo hhi hsum).2
        · apply (int8_cast_allowed_up hamount (by omega) hlo).mpr
          exact (hcondition.high hlo hhi hsum).2
    · rintro (hlt | hlt)
      · exact (hbelow hlt).mpr ((hcondition.below hlt).resolve_left h)
      · exact (habove hlt).mpr ((hcondition.above hlt).resolve_left h)

theorem clamped_clamp_iff (hoccupied : IntType.int16.InRange occupied)
    (hmin : IntType.int16.InRange minLimit) (hmax : IntType.int16.InRange maxLimit)
    (hamount : IntType.int8.InRange amount) (hle : minLimit ≤ maxLimit) :
    Clamped occupied minLimit maxLimit amount (clamp occupied minLimit maxLimit amount) ↔
      ClampCondition occupied minLimit maxLimit amount := by
  by_cases h : Kept occupied minLimit maxLimit amount
  · rw [clamp_of_kept h]
    exact clamped_of_kept hmin hmax h
  · rw [clamp_of_not_kept hle h]
    exact clamped_of_not_kept hoccupied hamount hle h

end Clamped

/-- The amount that is left for a cached setpoint is clamped as it should be if and only if no
narrowing of the sum or of the quotient leads astray. -/
theorem updateSetpoint_clamped_iff {m : DataModel} (c : StateCache m) {s : Setpoint}
    (hs : s = heating ∨ s = cooling) (path : CommandPath) {occupied : ℤ}
    (hoccupied : s.cached c.typed path.endpointId = some occupied)
    (hle : s.minLimitIn c.typed path.endpointId ≤ s.maxLimitIn c.typed path.endpointId)
    {amount : ℤ} (hamount : IntType.int8.InRange amount) (both : Bool) :
    ∃ amount', updateSetpoint c.values path s amount both = .ok (some amount') ∧
      (Clamped occupied (s.minLimitIn c.typed path.endpointId)
          (s.maxLimitIn c.typed path.endpointId) amount amount' ↔
        ClampCondition occupied (s.minLimitIn c.typed path.endpointId)
          (s.maxLimitIn c.typed path.endpointId) amount) := by
  have hupdate := updateSetpoint_eq c.typed hs path amount both
  rw [hoccupied] at hupdate
  refine ⟨_, hupdate, clamped_clamp_iff ?_ ?_ ?_ hamount hle⟩
  · exact s.cached_inRange c hs hoccupied
  · exact s.minLimitIn_inRange c hs
  · exact s.maxLimitIn_inRange c hs

section Example

def heatedTo (occupied : ℤ) (h : IntType.int16.InRange occupied) : StateCache homeModel :=
  (StateCache.empty homeModel).set (attrPath 2 0x12) (.int .int16 occupied) (by
    intro info hinfo
    rw [← Option.some.inj hinfo]
    constructor
    · rfl
    · exact h
    · intro hnull
      cases hnull)

/-- From 20 °C twelve degrees up, of which ten are left. -/
theorem updateSetpoint_clamped_twenty :
    updateSetpoint (heatedTo 2000 (by decide)).values ⟨2, 0x0201, 0⟩ heating 120 false =
        .ok (some 100) ∧
      (Clamped 2000 700 3000 120 100 ↔ ClampCondition 2000 700 3000 120) := by
  obtain ⟨amount', hupdate, hclamped⟩ := updateSetpoint_clamped_iff (heatedTo 2000 (by decide))
    (Or.inl rfl) ⟨2, 0x0201, 0⟩ rfl (by decide) (by decide : IntType.int8.InRange 120) false
  have hamount : updateSetpoint (heatedTo 2000 (by decide)).values ⟨2, 0x0201, 0⟩ heating 120 false =
      .ok (some 100) := rfl
  cases hupdate.symm.trans hamount
  exact ⟨hamount, hclamped⟩

/-- From 6 °C below zero one degree up: the amount of 130 that would lead to the limit becomes one
of -126, and the setpoint is lowered. -/
theorem not_clamped_from_far_below :
    ¬ ∀ (m : DataModel) (c : StateCache m) (s : Setpoint) (path : CommandPath)
        (occupied amount amount' : ℤ), s = heating ∨ s = cooling →
      s.cached c.typed path.endpointId = some occupied →
      s.minLimitIn c.typed path.endpointId ≤ s.maxLimitIn c.typed path.endpointId →
      IntType.int8.InRange amount →
      updateSetpoint c.values path s amount false = .ok (some amount') →
      Clamped occupied (s.minLimitIn c.typed path.endpointId)
        (s.maxLimitIn c.typed path.endpointId) amount amount' := by
  intro h
  have hclamped := h homeModel (heatedTo (-600) (by decide)) heating ⟨2, 0x0201, 0⟩ (-600) 10 (-126)
    (Or.inl rfl) rfl (by decide) (by decide) rfl
  have hfurther := hclamped.outside (Or.inl (by decide))
  exact absurd hfurther (by decide)

end Example

end EmulateThermostat

end UnifyMatterBridge
