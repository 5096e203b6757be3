import UnifyMatterBridge.Lib.DecimalKey
import Mathlib.Data.Int.Notation
import Mathlib.Data.List.TakeWhile

/-! What the code uses of the C++ standard library: the exceptions that can leave a callback and the
other ways in which a call ends without a result, `std::stoi`, and the conversions to `uint16_t`. -/
namespace UnifyMatterBridge

/-- The exceptions, those of `nlohmann::json` among them; its `out_of_range` is no
`std::out_of_range`. A failed assertion of that library ends the process like an exception that
nothing catches, and so, for want of any meaning, does an undefined conversion. -/
inductive CxxException where
  | invalidArgument
  | outOfRange
  | badVariantAccess
  | badOptionalAccess
  | jsonParseError
  | jsonTypeError
  | jsonOutOfRange
  | jsonAssertion
  | undefined
  deriving DecidableEq, Repr

/-- How a call ends without a result: `std::out_of_range`, a read past the end of an array, or
never. -/
inductive Fault where
  | outOfRange
  | outOfBounds
  | diverges
  deriving DecidableEq, Repr

def isSpace (c : Char) : Bool := c.toNat = 32 || 9 ≤ c.toNat && c.toNat ≤ 13

/-- The sign of a number and the text after it. -/
def readSign : List Char → Bool × List Char
  | '-' :: s => (true, s)
  | '+' :: s => (false, s)
  | s => (false, s)

/-- `std::stoi`: a 32-bit number read from the start of the text. -/
def stoi (s : String) : Except CxxException ℤ :=
  let (negative, s) := readSign (s.toList.dropWhile isSpace)
  let digits := s.takeWhile Char.isDigit
  if digits.isEmpty then .error .invalidArgument
  else
    let magnitude : ℤ := Nat.ofDigitChars 10 digits 0
    let value := if negative then -magnitude else magnitude
    if -2147483648 ≤ value ∧ value ≤ 2147483647 then .ok value else .error .outOfRange

def toUInt16 (n : ℤ) : ℕ := (n % 65536).toNat

theorem dropWhile_isSpace_of_isDigit {s : List Char} (h : ∀ c ∈ s, c.isDigit = true) :
    s.dropWhile isSpace = s := by
  cases s with
  | nil => rfl
  | cons c s =>
    have hd := h c List.mem_cons_self
    have hc : isSpace c = false := by
      have hle : 48 ≤ c.toNat := by
        exact (Char.isDigit_iff_toNat.mp hd).1
      simp only [isSpace, Bool.or_eq_false_iff, Bool.and_eq_false_iff, decide_eq_false_iff_not]
      omega
    rw [List.dropWhile_cons_of_neg (by simp [hc])]

theorem stoi_of_isDigit {s : List Char} (hne : s ≠ []) (hdigits : ∀ c ∈ s, c.isDigit = true)
    (hle : Nat.ofDigitChars 10 s 0 ≤ 2147483647) :
    stoi (String.ofList s) = .ok (Nat.ofDigitChars 10 s 0 : ℤ) := by
  have hsign : readSign s = (false, s) := by
    unfold readSign
    split
    · exact absurd (hdigits '-' List.mem_cons_self) (by decide)
    · exact absurd (hdigits '+' List.mem_cons_self) (by decide)
    · rfl
  have hnonempty : s.isEmpty = false := by
    simpa using hne
  have htake : s.takeWhile Char.isDigit = s := List.takeWhile_eq_self_iff.mpr hdigits
  simp only [stoi, String.toList_ofList, dropWhile_isSpace_of_isDigit hdigits, hsign, htake,
    hnonempty, Bool.false_eq_true, if_false]
  exact if_pos ⟨by omega, by omega⟩

theorem stoi_toString {n : ℕ} (h : n ≤ 2147483647) : stoi (toString n) = .ok (n : ℤ) := by
  have hdigits : ∀ c ∈ (toString n).toList, c.isDigit = true :=
    fun c hc => DecimalKey.isDigit_of_mem_toString hc
  have hlist : (toString n).toList = Nat.toDigits 10 n := by
    rw [Nat.toString_eq_repr, Nat.toList_repr]
  have hne : (toString n).toList ≠ [] := by
    rw [hlist]
    exact Nat.toDigits_ne_nil
  have hval : Nat.ofDigitChars 10 (toString n).toList 0 = n := by
    rw [hlist, Nat.ofDigitChars_ten_toDigits]
  have hstoi := stoi_of_isDigit hne hdigits (hval.symm ▸ h)
  rwa [String.ofList_toList, hval] at hstoi

end UnifyMatterBridge
