import Mathlib

/-! Floating-point numbers of 64 bits (IEEE 754 binary64) by their bits: the fields of a pattern,
the exact value of a finite number, and the comparison of two numbers. Unpacking, rounding and
comparing are those of Lean's own model of `Float`. -/
namespace Binary64
open Float.Model Float.Model.UnpackedFloat

def unpack (bits : UInt64) : UnpackedFloat := UnpackedFloat.unpack Format.binary64 bits.toBitVec

def pack (number : UnpackedFloat) : UInt64 := UInt64.ofBitVec (UnpackedFloat.pack Format.binary64 number)

/-- The value of a finite number. -/
def exact : UnpackedFloat → Option ℚ
  | .zero _ => some 0
  | .finite sign mantissa exponent _ => some (sign.apply mantissa * 2^exponent)
  | .infinity _ => none
  | .notANumber => none

section fields
variable (bits : UInt64)

def biased : Nat := bits.toNat / 2^52 % 2^11

def fraction : Nat := bits.toNat % 2^52

def signed : Sign := if bits.toNat < 2^63 then .positive else .negative

/-- The significand, with the implicit bit of a normal number. -/
def significand : Nat := if biased bits = 0 then fraction bits else 2^52 + fraction bits

def exponent : Int := (max (biased bits) 1 : Nat) - 1075

def magnitude : ℚ := significand bits * 2^exponent bits

def value : ℚ := (signed bits).apply 1 * magnitude bits

theorem fraction_lt : fraction bits < 2^52 := Nat.mod_lt _ (by decide)

theorem bits_fields : bits.toNat = bits.toNat / 2^63 * 2^63 + biased bits * 2^52 + fraction bits := by
  have bound := bits.toNat_lt
  unfold biased fraction
  omega

variable {bits} in
theorem fields_of_bits {sign high low : Nat} (given : bits.toNat = sign * 2^63 + high * 2^52 + low)
    (exponents : high < 2^11) (fractions : low < 2^52) :
    biased bits = high ∧ fraction bits = low ∧ bits.toNat / 2^63 = sign := by
  unfold biased fraction
  omega

variable {bits} in
theorem signed_congr {other : UInt64} (same : bits.toNat / 2^63 = other.toNat / 2^63) : signed bits = signed other := by
  have positive : bits.toNat < 2^63 ↔ other.toNat < 2^63 := by omega
  unfold signed
  simp only [positive]

theorem unpackMantissa_toNat : (@unpackMantissa Format.binary64 bits.toBitVec).toNat = fraction bits := by
  simp [unpackMantissa,fraction]

theorem unpackExponent_toNat : (@unpackExponent Format.binary64 bits.toBitVec).toNat = biased bits := by
  simp [unpackExponent,biased,Nat.shiftRight_eq_div_pow]

theorem unpackSign_signed : Sign.ofBitVec (@unpackSign Format.binary64 bits.toBitVec) = signed bits := by
  have bound := bits.toNat_lt
  have bit : (@unpackSign Format.binary64 bits.toBitVec).toNat = bits.toNat / 2^63 := by
    simp [unpackSign,Nat.shiftRight_eq_div_pow]
    omega
  unfold Sign.ofBitVec signed
  by_cases positive : bits.toNat < 2^63
  · rw [if_pos positive,if_pos (BitVec.toNat_inj.mp (bit.trans (by simp; omega)))]
  · rw [if_neg positive,if_neg]
    intro same
    rw [same] at bit
    simp at bit
    omega

end fields

section unpacked
variable {bits : UInt64}

theorem exponent_all_ones : @unpackExponent Format.binary64 bits.toBitVec = -1#_ ↔ biased bits = 2047 := by
  rw [← unpackExponent_toNat,← BitVec.toNat_inj]
  rfl

theorem exponent_zeros : @unpackExponent Format.binary64 bits.toBitVec = 0#_ ↔ biased bits = 0 := by
  rw [← unpackExponent_toNat,← BitVec.toNat_inj]
  rfl

theorem mantissa_zeros : @unpackMantissa Format.binary64 bits.toBitVec = 0#_ ↔ fraction bits = 0 := by
  rw [← unpackMantissa_toNat,← BitVec.toNat_inj]
  rfl

theorem unpack_infinity (special : biased bits = 2047) (zero : fraction bits = 0) :
    unpack bits = .infinity (signed bits) := by
  unfold unpack UnpackedFloat.unpack
  dsimp only
  rw [if_pos (exponent_all_ones.mpr special),if_pos (mantissa_zeros.mpr zero),unpackSign_signed]

theorem unpack_nan (special : biased bits = 2047) (payload : fraction bits ≠ 0) : unpack bits = .notANumber := by
  unfold unpack UnpackedFloat.unpack
  dsimp only
  rw [if_pos (exponent_all_ones.mpr special),if_neg (mt mantissa_zeros.mp payload)]

theorem unpack_zero (zero : significand bits = 0) : unpack bits = .zero (signed bits) := by
  have fields : biased bits = 0 ∧ fraction bits = 0 := by
    unfold significand at zero
    split at zero <;> omega
  unfold unpack UnpackedFloat.unpack
  dsimp only
  rw [if_neg (mt exponent_all_ones.mp (by omega)),if_pos (exponent_zeros.mpr fields.1),
    dif_pos (mantissa_zeros.mpr fields.2),unpackSign_signed]

theorem unpack_finite (finite : biased bits ≠ 2047) (nonzero : 0 < significand bits) :
    unpack bits = .finite (signed bits) (significand bits) (exponent bits) nonzero := by
  have bias : ((Format.binary64.exponentBias : Nat) : Int) = 1023 := rfl
  unfold unpack UnpackedFloat.unpack
  dsimp only
  rw [if_neg (mt exponent_all_ones.mp finite)]
  by_cases subnormal : biased bits = 0
  · have some : fraction bits ≠ 0 := by
      unfold significand at nonzero
      rw [if_pos subnormal] at nonzero
      omega
    rw [if_pos (exponent_zeros.mpr subnormal),dif_neg (mt mantissa_zeros.mp some)]
    congr 1
    · exact unpackSign_signed bits
    · rw [unpackMantissa_toNat,significand,if_pos subnormal]
    · rw [unpackExponent_toNat,bias,exponent,subnormal]
      rfl
  · rw [if_neg (mt exponent_zeros.mp subnormal)]
    congr 1
    · exact unpackSign_signed bits
    · rw [BitVec.toNat_append,unpackMantissa_toNat,significand,if_neg subnormal,← Nat.shiftLeft_add_eq_or_of_lt
        (fraction_lt bits)]
      rfl
    · rw [unpackExponent_toNat,bias,exponent]
      omega

theorem exact_unpack (finite : biased bits ≠ 2047) : exact (unpack bits) = some (value bits) := by
  unfold value magnitude
  by_cases zero : significand bits = 0
  · rw [unpack_zero zero,zero]
    simp [exact]
  · rw [unpack_finite finite (Nat.pos_of_ne_zero zero)]
    cases signed bits <;> simp [exact,Sign.apply]

end unpacked

section numbers

theorem exact_of_special {bits : UInt64} (special : biased bits = 2047) : exact (unpack bits) = none := by
  by_cases zero : fraction bits = 0
  · rw [unpack_infinity special zero]
    rfl
  · rw [unpack_nan special zero]
    rfl

theorem unpack_nan_iff {bits : UInt64} : unpack bits = .notANumber ↔ biased bits = 2047 ∧ fraction bits ≠ 0 := by
  constructor
  · intro nan
    by_cases special : biased bits = 2047
    · refine ⟨special,?_⟩
      intro zero
      rw [unpack_infinity special zero] at nan
      cases nan
    · have some := exact_unpack special
      rw [nan] at some
      cases some
  · rintro ⟨special,payload⟩
    exact unpack_nan special payload

/-- Packing does not make a number into none. -/
theorem unpack_pack_nan {number : UnpackedFloat} : unpack (pack number) = .notANumber ↔ number = .notANumber := by
  constructor
  · intro nan
    obtain ⟨special,payload⟩ := unpack_nan_iff.mp nan
    have ones : unpackExponent (UnpackedFloat.pack Format.binary64 number) = -1#_ := exponent_all_ones.mpr special
    have some : unpackMantissa (UnpackedFloat.pack Format.binary64 number) ≠ 0#_ := mt mantissa_zeros.mp payload
    cases number with
    | notANumber => rfl
    | infinity sign =>
      simp [UnpackedFloat.pack,packedInfinity] at some
    | zero sign =>
      simp [UnpackedFloat.pack,packedZero] at ones
    | finite sign mantissa exponent positive =>
      unfold UnpackedFloat.pack at ones some
      dsimp only at ones some
      split at ones
      · rename_i large
        rw [if_pos large] at some
        simp [packedInfinity] at some
      · rename_i small
        split at ones
        · rw [unpackExponent_packComponents,← BitVec.toNat_inj,BitVec.toNat_ofNat] at ones
          change _ % 2^11 = 2047 at ones
          change ¬2^11 ≤ _ at small
          rw [Nat.mod_eq_of_lt (by omega)] at ones
          omega
        · simp at ones
  · rintro rfl
    rfl

end numbers

section order
variable {bits other : UInt64}

theorem magnitude_pos (nonzero : 0 < significand bits) : 0 < magnitude bits := by
  have power : (0 : ℚ) < 2^exponent bits := by positivity
  exact mul_pos (by exact_mod_cast nonzero) power

theorem magnitude_nonneg (bits : UInt64) : 0 ≤ magnitude bits := by
  unfold magnitude
  positivity

theorem magnitude_zero (zero : significand bits = 0) : magnitude bits = 0 := by
  rw [magnitude,zero,Nat.cast_zero,zero_mul]

theorem significand_lt (bits : UInt64) : significand bits < 2^53 := by
  have bound := fraction_lt bits
  unfold significand
  split <;> omega

/-- Of two magnitudes that with the larger exponent is larger. -/
theorem magnitude_lt_of_exponent (less : exponent bits < exponent other) : magnitude bits < magnitude other := by
  have normal : (2^52 : ℚ) ≤ significand other := by
    have above : biased other ≠ 0 := by
      unfold exponent at less
      omega
    unfold significand
    rw [if_neg above]
    push_cast
    exact le_add_of_nonneg_right (Nat.cast_nonneg _)
  have below : (significand bits : ℚ) < 2^53 := by exact_mod_cast significand_lt bits
  calc magnitude bits < 2^53 * 2^exponent bits := mul_lt_mul_of_pos_right below (by positivity)
    _ = 2^52 * 2^(exponent bits + 1) := by rw [zpow_add_one₀ (by norm_num)]; ring
    _ ≤ 2^52 * 2^exponent other := mul_le_mul_of_nonneg_left (zpow_le_zpow_right₀ (by norm_num) less) (by positivity)
    _ ≤ magnitude other := mul_le_mul_of_nonneg_right normal (by positivity)

theorem magnitude_lt_iff : magnitude bits < magnitude other ↔
    ((compare (exponent bits) (exponent other)).then (compare (significand bits) (significand other))) = .lt := by
  rcases lt_trichotomy (exponent bits) (exponent other) with less | same | greater
  · simp [magnitude_lt_of_exponent less,compare_lt_iff_lt.mpr less,Ordering.then]
  · unfold magnitude
    rw [same,mul_lt_mul_iff_of_pos_right (by positivity),Nat.cast_lt,compare_eq_iff_eq.mpr rfl,Ordering.then,
      compare_lt_iff_lt]
  · simp [not_lt_of_gt (magnitude_lt_of_exponent greater),compare_gt_iff_gt.mpr greater,Ordering.then]

/-- Finite numbers are compared by their values. -/
theorem lt_iff_value (finite : biased bits ≠ 2047) (finite' : biased other ≠ 2047) :
    (unpack bits).lt (unpack other) = true ↔ value bits < value other := by
  unfold UnpackedFloat.lt
  rw [beq_iff_eq]
  unfold value
  rcases Nat.eq_zero_or_pos (significand bits) with zero | nonzero
  · rw [unpack_zero zero,magnitude_zero zero]
    rcases Nat.eq_zero_or_pos (significand other) with zero' | nonzero'
    · rw [unpack_zero zero',magnitude_zero zero']
      simp [UnpackedFloat.compare]
    · rw [unpack_finite finite' nonzero']
      have positive := magnitude_pos nonzero'
      cases signed other <;> simp [UnpackedFloat.compare,Sign.apply,positive,positive.le]
  · rw [unpack_finite finite nonzero]
    have positive := magnitude_pos nonzero
    rcases Nat.eq_zero_or_pos (significand other) with zero' | nonzero'
    · rw [unpack_zero zero',magnitude_zero zero']
      cases signed bits <;> simp [UnpackedFloat.compare,Sign.apply,positive,positive.le]
    · rw [unpack_finite finite' nonzero']
      have positive' := magnitude_pos nonzero'
      cases signed bits with
      | negative =>
        cases signed other with
        | negative =>
          have turned : ((compare (exponent bits) (exponent other)).then
              (compare (significand bits) (significand other))).swap =
              (compare (exponent other) (exponent bits)).then (compare (significand other) (significand bits)) := by
            rw [Ordering.swap_then,← Std.OrientedCmp.eq_swap,← Std.OrientedCmp.eq_swap]
          simp only [UnpackedFloat.compare,turned,Option.some.injEq,← magnitude_lt_iff,Sign.apply]
          simp
        | positive =>
          have apart : -magnitude bits < magnitude other := by linarith
          simp [UnpackedFloat.compare,Sign.apply,apart]
      | positive =>
        cases signed other with
        | negative =>
          have apart : -magnitude other ≤ magnitude bits := by linarith
          simp [UnpackedFloat.compare,Sign.apply,apart]
        | positive =>
          simp only [UnpackedFloat.compare,Option.some.injEq,← magnitude_lt_iff,Sign.apply]
          simp

end order

end Binary64
