import ControlPlane.Go.Strconv
import ControlPlane.Ledger.Amount
import Mathlib.Algebra.Order.Field.Rat
import Mathlib.Data.List.TakeWhile
import Mathlib.Data.Nat.Cast.Field
import Mathlib.Tactic.FieldSimp

/-! Amounts as text (`internal/ledger/amount.go`): `ParseAmount` reads a decimal number,
optionally with an exponent, exactly or not at all; `FormatAmount` writes one. String lengths are
`int`s in the source and fit, so sums with them are exact. -/
namespace ControlPlane.Ledger
open Go Digits

def amountFractionDigits : Nat := 8

def isDigits (s : Bytes) : Bool := s.all fun char => decide (IsDigit char)

def mulPow10Loop : Nat → UInt64 → Except Error UInt64
  | 0,result => .ok result
  | count+1,result =>
    if result > 18446744073709551615 / 10 then .error (.errorf "magnitude too large" [])
    else mulPow10Loop count (result * 10)

def mulPow10 (base : UInt64) (power : Int) : Except Error UInt64 :=
  if base = 0 then .ok 0
  else if power < 0 ∨ power > 19 then .error (.errorf "magnitude too large" [])
  else mulPow10Loop power.toNat base

def invalidNumber (value : Bytes) : Error := .errorf "amount %q is not a valid decimal number" [.bytes value]

/-- Neither `e` nor `E`. -/
def inMantissa (char : UInt8) : Bool := char ≠ 101 && char ≠ 69

def dot : UInt8 := 46

def beforeDot (mantissa : Bytes) : Bytes := mantissa.takeWhile (· ≠ dot)

def afterDot (mantissa : Bytes) : Bytes := (mantissa.dropWhile (· ≠ dot)).drop 1

/-- The part of `ParseAmount` that looks for an exponent. -/
def parseExponent (value rest : Bytes) : Except Error Int :=
  match rest.dropWhile inMantissa with
  | [] => .ok 0
  | _::exponentText =>
    match atoi exponentText with
    | .error err => .error (.wrap "amount %q has an invalid exponent: %w" [.bytes value] err)
    | .ok parsedExponent =>
      if parsedExponent < -1000 ∨ parsedExponent > 1000 then
        .error (.errorf "amount %q has an exponent out of range" [.bytes value])
      else .ok parsedExponent.toInt

def scaleMagnitude (value : Bytes) (magnitude : UInt64) (power : Int) : Except Error UInt64 :=
  if power ≥ 0 then (mulPow10 magnitude power).mapError (.wrap "amount %q is out of range: %w" [.bytes value])
  else
    match mulPow10 1 (-power) with
    | .error err => .error (.wrap "amount %q is out of range: %w" [.bytes value] err)
    | .ok divisor =>
      if magnitude % divisor ≠ 0 then
        .error (.errorf "amount %q has more than %d fractional digits" [.bytes value,.int amountFractionDigits])
      else .ok (magnitude / divisor)

def parseAmount (value : Bytes) : Except Error Int64 :=
  if value = [] then .error (.errorf "amount must not be empty" [])
  else
    let (negative,rest) := splitSign value
    if rest = [] then .error (invalidNumber value)
    else do
      let exponent ← parseExponent value rest
      let wholePart := beforeDot (rest.takeWhile inMantissa)
      let fracPart := afterDot (rest.takeWhile inMantissa)
      if wholePart = [] ∨ !isDigits wholePart ∨ !isDigits fracPart then .error (invalidNumber value)
      else do
        let magnitude ← (parseUint (wholePart ++ fracPart)).mapError
          (.wrap "amount %q is not a valid decimal number: %w" [.bytes value])
        let scaled ← scaleMagnitude value magnitude (exponent - fracPart.length + amountFractionDigits)
        if scaled > 9223372036854775807 then .error (.errorf "amount %q is out of range" [.bytes value])
        else .ok (if negative then -scaled.toInt64 else scaled.toInt64)

/-- Leading zeros, so that a digit is left before the point. -/
def padDigits (digits : Bytes) : Bytes :=
  if digits.length ≤ amountFractionDigits then
    List.replicate (amountFractionDigits - digits.length + 1) (digit 0) ++ digits
  else digits

def magnitudeOf (value : Int64) : UInt64 :=
  if value < 0 then (-(value + 1)).toUInt64 + 1 else value.toUInt64

def formatAmount (value : Int64) : Bytes :=
  let digits := padDigits (formatUint (magnitudeOf value))
  let split := digits.length - amountFractionDigits
  (if value < 0 then [45] else []) ++ (digits.take split ++ dot::digits.drop split)

/-- The number that a decimal text stands for: its digits before and after the point, times
the power of ten of its exponent, with its sign. -/
def decimalValue (literal : Bytes) : ℚ :=
  let unsigned := (splitSign literal).2
  let mantissa := unsigned.takeWhile inMantissa
  (if (splitSign literal).1 then -1 else 1) *
    (value (beforeDot mantissa) + value (afterDot mantissa) / 10^(afterDot mantissa).length) *
    10^signedValue ((unsigned.dropWhile inMantissa).drop 1)

theorem mulPow10Loop_ok (count : Nat) (base result : UInt64) :
    mulPow10Loop count base = .ok result ↔ base.toNat * 10^count < 2^64 ∧ result.toNat = base.toNat * 10^count := by
  induction count generalizing base with
  | zero =>
    have bound := base.toNat_lt
    simp only [mulPow10Loop,Except.ok.injEq,pow_zero,Nat.mul_one,bound,true_and,← UInt64.toNat_inj,eq_comm]
  | succ count ih =>
    rw [mulPow10Loop,pow_succ',← Nat.mul_assoc]
    split
    · rename_i large
      have bound : 1844674407370955161 < base.toNat := UInt64.lt_iff_toNat_lt.mp large
      have power : 0 < 10^count := Nat.pow_pos (by omega)
      have grows := Nat.le_mul_of_pos_right (base.toNat * 10) power
      simp only [reduceCtorEq,false_iff,not_and]
      omega
    · rename_i room
      have bound : base.toNat ≤ 1844674407370955161 := UInt64.le_iff_toNat_le.mp (UInt64.not_lt.mp room)
      have step : (base * 10).toNat = base.toNat * 10 := by
        rw [UInt64.toNat_mul]
        exact Nat.mod_eq_of_lt (by change base.toNat * 10 < _; omega)
      rw [ih,step]

theorem mulPow10_ok (base result : UInt64) (power : Int) (nonnegative : 0 ≤ power) :
    mulPow10 base power = .ok result ↔
      base.toNat * 10^power.toNat < 2^64 ∧ result.toNat = base.toNat * 10^power.toNat := by
  unfold mulPow10
  split
  · rename_i zero
    rw [zero,Except.ok.injEq,← UInt64.toNat_inj]
    simp [eq_comm]
  · rename_i nonzero
    have positive : 0 < base.toNat := UInt64.lt_iff_toNat_lt.mp (UInt64.pos_iff_ne_zero.mpr nonzero)
    split
    · rename_i outside
      -- Beyond nineteen places even the smallest magnitude overflows.
      have steep : 10^20 ≤ 10^power.toNat := Nat.pow_le_pow_right (by omega) (by omega)
      have grows := Nat.le_mul_of_pos_left (10^power.toNat) positive
      simp only [reduceCtorEq,false_iff,not_and]
      omega
    · exact mulPow10Loop_ok _ _ _

theorem pow10_small (places : Nat) : 10^places < 2^64 ↔ places ≤ 19 := by
  constructor
  · intro small
    by_contra large
    have steep : 10^20 ≤ 10^places := Nat.pow_le_pow_right (by omega) (by omega)
    omega
  · intro few
    have flat : 10^places ≤ 10^19 := Nat.pow_le_pow_right (by omega) few
    omega

/-- Scaling is exact or refused. -/
theorem scaleMagnitude_ok (literal : Bytes) (magnitude scaled : UInt64) (power : Int) :
    scaleMagnitude literal magnitude power = .ok scaled ↔
      (0 ≤ power ∧ magnitude.toNat * 10^power.toNat < 2^64 ∧ scaled.toNat = magnitude.toNat * 10^power.toNat) ∨
      (-19 ≤ power ∧ power < 0 ∧ 10^(-power).toNat ∣ magnitude.toNat ∧
        scaled.toNat = magnitude.toNat / 10^(-power).toNat) := by
  unfold scaleMagnitude
  by_cases nonnegative : 0 ≤ power
  · rw [if_pos nonnegative,mapError_ok,mulPow10_ok _ _ _ nonnegative]
    simp only [nonnegative,true_and,Int.not_lt.mpr nonnegative,false_and,and_false,or_false]
  · have one (divisor : UInt64) := mulPow10_ok 1 divisor (-power) (by omega)
    rw [UInt64.toNat_one,Nat.one_mul,pow10_small] at one
    rw [if_neg nonnegative]
    simp only [nonnegative,false_and,false_or,Int.not_le.mp nonnegative,true_and]
    cases multiplied : mulPow10 1 (-power) with
    | error err =>
      simp only [reduceCtorEq,false_iff,not_and]
      intro few
      have ok := (one (UInt64.ofNat (10^(-power).toNat))).mpr
        ⟨by omega,UInt64.toNat_ofNat_of_lt' ((pow10_small _).mpr (by omega))⟩
      rw [multiplied] at ok
      contradiction
    | ok divisor =>
      obtain ⟨few,exact⟩ := (one divisor).mp multiplied
      rw [and_iff_right (by omega : -19 ≤ power),← exact]
      by_cases whole : magnitude % divisor = 0
      · have remainder : magnitude.toNat % divisor.toNat = 0 := by
          rw [← UInt64.toNat_mod,whole]
          rfl
        simp only [whole,ne_eq,not_true_eq_false,if_false,Nat.dvd_of_mod_eq_zero remainder,true_and,Except.ok.injEq,
          ← UInt64.toNat_inj,UInt64.toNat_div,eq_comm]
      · have remainder : ¬divisor.toNat ∣ magnitude.toNat := by
          rw [Nat.dvd_iff_mod_eq_zero,← UInt64.toNat_mod]
          exact fun zero => whole (UInt64.toNat_inj.mp zero)
        simp only [whole,ne_eq,not_false_eq_true,if_true,reduceCtorEq,remainder,false_and]

theorem scaleMagnitude_value (literal : Bytes) (magnitude scaled : UInt64) (power : Int)
    (ok : scaleMagnitude literal magnitude power = .ok scaled) :
    (scaled.toNat : ℚ) = magnitude.toNat * 10^power := by
  rcases (scaleMagnitude_ok literal magnitude scaled power).mp ok with
    ⟨nonnegative,-,exact⟩ | ⟨-,negative,divides,exact⟩
  · lift power to Nat using nonnegative
    rw [exact,zpow_natCast]
    push_cast
    rfl
  · obtain ⟨places,rfl⟩ : ∃ places : Nat, power = -places := ⟨(-power).toNat,by omega⟩
    rw [show (- -(places : Int)).toNat = places by omega] at divides exact
    rw [zpow_neg,zpow_natCast,exact,Nat.cast_div divides (by positivity),← div_eq_mul_inv]
    push_cast
    rfl

theorem parseExponent_value (literal rest : Bytes) (exponent : Int) (ok : parseExponent literal rest = .ok exponent) :
    exponent = signedValue ((rest.dropWhile inMantissa).drop 1) := by
  unfold parseExponent at ok
  split at ok
  · rename_i none
    rw [none,← Except.ok.inj ok]
    rfl
  · rename_i marker exponentText some
    rw [some]
    split at ok
    · contradiction
    · rename_i parsed converted
      split at ok
      · contradiction
      · rw [← Except.ok.inj ok]
        exact atoi_value exponentText parsed converted

theorem toInt64_value (number : UInt64) (small : number.toNat < 2^63) : number.toInt64.toInt = number.toNat :=
  BitVec.toInt_eq_toNat_of_lt (x := number.toBitVec) (by change 2 * number.toNat < 2^64; omega)

theorem isDigits_iff (s : Bytes) : isDigits s = true ↔ ∀ char ∈ s, IsDigit char := by
  simp [isDigits]

/-- What an accepted text consists of. -/
theorem parseAmount_ok (literal : Bytes) (amount : Int64) :
    parseAmount literal = .ok amount ↔
      beforeDot ((splitSign literal).2.takeWhile inMantissa) ≠ [] ∧
      ∃ exponent magnitude scaled, parseExponent literal (splitSign literal).2 = .ok exponent ∧
        parseUint (beforeDot ((splitSign literal).2.takeWhile inMantissa) ++
          afterDot ((splitSign literal).2.takeWhile inMantissa)) = .ok magnitude ∧
        scaleMagnitude literal magnitude (exponent - (afterDot ((splitSign literal).2.takeWhile inMantissa)).length +
          amountFractionDigits) = .ok scaled ∧
        scaled.toNat < 2^63 ∧ amount = if (splitSign literal).1 then -scaled.toInt64 else scaled.toInt64 := by
  have fits (scaled : UInt64) : ¬scaled > 9223372036854775807 ↔ scaled.toNat < 2^63 := by
    rw [gt_iff_lt,UInt64.not_lt,UInt64.le_iff_toNat_le]
    change scaled.toNat ≤ 9223372036854775807 ↔ _
    omega
  constructor
  · intro ok
    unfold parseAmount at ok
    split at ok
    · cases ok
    · simp only at ok
      split at ok
      · cases ok
      · obtain ⟨exponent,exponentOk,ok⟩ := bind_success _ _ _ ok
        split at ok
        · cases ok
        · rename_i decimal
          obtain ⟨magnitude,magnitudeOk,ok⟩ := bind_success _ _ _ ok
          obtain ⟨scaled,scaledOk,ok⟩ := bind_success _ _ _ ok
          split at ok
          · cases ok
          · rename_i small
            exact ⟨fun empty => decimal (Or.inl empty),exponent,magnitude,scaled,exponentOk,
              (mapError_ok _ _ _).mp magnitudeOk,scaledOk,(fits scaled).mp small,(Except.ok.inj ok).symm⟩
  · rintro ⟨nonempty,exponent,magnitude,scaled,exponentOk,magnitudeOk,scaledOk,small,rfl⟩
    have digits := ((parseUint_ok _ _).mp magnitudeOk).2.1
    have rest : (splitSign literal).2 ≠ [] := by
      intro empty
      rw [empty] at nonempty
      exact nonempty rfl
    have given : literal ≠ [] := by
      rintro rfl
      exact rest rfl
    have decimal : ¬(beforeDot ((splitSign literal).2.takeWhile inMantissa) = [] ∨
        !isDigits (beforeDot ((splitSign literal).2.takeWhile inMantissa)) ∨
        !isDigits (afterDot ((splitSign literal).2.takeWhile inMantissa))) := by
      rw [(isDigits_iff _).mpr fun char member => digits char (List.mem_append_left _ member),
        (isDigits_iff _).mpr fun char member => digits char (List.mem_append_right _ member)]
      simpa using nonempty
    simp only [parseAmount,if_neg given,if_neg rest,exponentOk,bind,Except.bind,if_neg decimal,magnitudeOk,
      Except.mapError,
      scaledOk,if_neg ((fits scaled).mpr small)]

theorem signed_value (negative : Bool) (scaled : UInt64) (small : scaled.toNat < 2^63) :
    ((if negative then -scaled.toInt64 else scaled.toInt64).toInt : ℚ) = (if negative then -1 else 1) *
      scaled.toNat := by
  have plain := toInt64_value scaled small
  cases negative with
  | false => simp [plain]
  | true =>
    have inverse : (-scaled.toInt64).toInt = -scaled.toNat := by
      rw [neg64 _ (by unfold FitsInt64; omega),plain]
    simp [inverse]

/-- An accepted text is read exactly. -/
theorem parseAmount_value (literal : Bytes) (amount : Int64) (ok : parseAmount literal = .ok amount) :
    (amount.toInt : ℚ) = decimalValue literal * amountScale.toInt := by
  obtain ⟨-,exponent,magnitude,scaled,exponentOk,magnitudeOk,scaledOk,small,rfl⟩ :=
    (parseAmount_ok literal amount).mp ok
  rw [signed_value _ _ small,scaleMagnitude_value _ _ _ _ scaledOk]
  obtain ⟨-,-,fits,rfl⟩ := (parseUint_ok _ _).mp magnitudeOk
  rw [UInt64.toNat_ofNat_of_lt' fits,value_append]
  unfold decimalValue
  simp only
  rw [← parseExponent_value _ _ _ exponentOk]
  generalize beforeDot ((splitSign literal).2.takeWhile inMantissa) = wholePart
  generalize afterDot ((splitSign literal).2.takeWhile inMantissa) = fracPart
  have ten : (10 : ℚ) ≠ 0 := by norm_num
  rw [amountScale_value,zpow_add₀ ten,zpow_sub₀ ten,zpow_natCast,zpow_natCast]
  unfold amountFractionDigits
  push_cast
  field_simp
  norm_num

theorem digit_inMantissa {char : UInt8} (digit : IsDigit char) : inMantissa char = true ∧ char ≠ dot := by
  unfold IsDigit at digit
  refine ⟨?_,?_⟩
  · simp only [inMantissa,Bool.and_eq_true,decide_eq_true_eq]
    constructor
    · rintro rfl
      exact absurd digit (by decide)
    · rintro rfl
      exact absurd digit (by decide)
  · rintro rfl
    exact absurd digit (by decide)

end ControlPlane.Ledger
