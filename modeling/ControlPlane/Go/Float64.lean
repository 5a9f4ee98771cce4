import ControlPlane.Data.Binary64
import ControlPlane.Data.Numeric
import ControlPlane.Go.Values

/-! The type `float64`: its arithmetic and comparisons, `math.Round`, and conversions to signed
integers. A conversion of a number that the integer type cannot represent is left to the
platform by the language. -/
namespace Go
open Binary64 Data.Numeric Float.Model Float.Model.UnpackedFloat

structure Float64 where
  bits : UInt64
  deriving DecidableEq, Repr

/-- The result of a conversion whose operand is out of range. -/
structure Platform where
  int64 : Float64 → Int64
  int32 : Float64 → Int32

/-- Toward zero. -/
def truncate (x : ℚ) : Int := if x < 0 then ⌈x⌉ else ⌊x⌋

namespace Float64

def unpack (x : Float64) : UnpackedFloat := Binary64.unpack x.bits

/-- The value of a finite number. -/
def exact (x : Float64) : Option ℚ := Binary64.exact x.unpack

def isNaN (x : Float64) : Bool := x.unpack.isNaN

/-- A constant that is converted to `float64`. -/
def ofInt (number : Int) : Float64 := ⟨pack (UnpackedFloat.ofInt Format.binary64 number)⟩

def mul (x y : Float64) : Float64 := ⟨pack (UnpackedFloat.mul Format.binary64 x.unpack y.unpack)⟩

def lt (x y : Float64) : Bool := x.unpack.lt y.unpack

/-- `math.Round` on the bits: below one half nothing but the sign is left; a number with a
fraction has half of its unit added, which may carry into the exponent, and the fraction cleared;
the others have no fraction. -/
def roundBits (bits : Nat) : Nat :=
  let e := bits / 2^52 % 2^11
  if e < 1023 then bits / 2^63 * 2^63 + if e = 1022 then 1023 * 2^52 else 0
  else if e < 1075 then (bits + 2^(1074 - e)) / 2^(1075 - e) * 2^(1075 - e)
  else bits

def round (x : Float64) : Float64 := ⟨UInt64.ofNat (roundBits x.bits.toNat)⟩

def toInt64 (platform : Platform) (x : Float64) : Int64 :=
  match x.exact.map truncate with
  | some number => if FitsInt64 number then Int64.ofInt number else platform.int64 x
  | none => platform.int64 x

def toInt32 (platform : Platform) (x : Float64) : Int32 :=
  match x.exact.map truncate with
  | some number => if FitsInt32 number then Int32.ofInt number else platform.int32 x
  | none => platform.int32 x

section rounding
variable {x : Float64}

theorem round_bits (small : roundBits x.bits.toNat < 2^64) : x.round.bits.toNat = roundBits x.bits.toNat :=
  UInt64.toNat_ofNat_of_lt' small

theorem roundBits_below {bits : UInt64} (below : biased bits < 1022) :
    roundBits bits.toNat = bits.toNat / 2^63 * 2^63 + 0 * 2^52 + 0 := by
  unfold biased at below
  unfold roundBits
  dsimp only
  rw [if_pos (by omega),if_neg (by omega),Nat.zero_mul]

theorem roundBits_half {bits : UInt64} (half : biased bits = 1022) :
    roundBits bits.toNat = bits.toNat / 2^63 * 2^63 + 1023 * 2^52 + 0 := by
  unfold biased at half
  unfold roundBits
  dsimp only
  rw [if_pos (by omega),if_pos half,Nat.add_zero]

theorem roundBits_integral {bits : UInt64} (integral : 1075 ≤ biased bits) : roundBits bits.toNat = bits.toNat := by
  unfold biased at integral
  unfold roundBits
  dsimp only
  rw [if_neg (by omega),if_neg (by omega)]

/-- Adding half a unit and clearing the fraction rounds the significand, which may then have one bit more. -/
theorem roundBits_fraction {bits : UInt64} {places : Nat} (inside : 1 ≤ places ∧ places ≤ 52)
    (given : biased bits + places = 1075) :
    roundBits bits.toNat = bits.toNat / 2^63 * 2^63 + (biased bits - 1) * 2^52 +
      (2^52 + fraction bits + 2^(places - 1)) / 2^places * 2^places := by
  have shape := bits_fields bits
  have power : 2^52 = 2^(52 - places) * 2^places := by
    rw [← Nat.pow_add]
    congr 1
    omega
  have rounded : roundBits bits.toNat = (bits.toNat + 2^(places - 1)) / 2^places * 2^places := by
    unfold roundBits
    dsimp only
    change (if biased bits < 1023 then _ else if biased bits < 1075 then
      (bits.toNat + 2^(1074 - biased bits)) / 2^(1075 - biased bits) * 2^(1075 - biased bits) else _) = _
    rw [if_neg (by omega),if_pos (by omega),show 1075 - biased bits = places by omega,
      show 1074 - biased bits = places - 1 by omega]
  have split : bits.toNat + 2^(places - 1) = 2^52 + fraction bits + 2^(places - 1) +
      (bits.toNat / 2^63 * 2^11 + (biased bits - 1)) * 2^(52 - places) * 2^places := by
    rw [Nat.mul_assoc,← power]
    omega
  rw [rounded,split,Nat.add_mul_div_right _ _ (Nat.two_pow_pos places),Nat.add_mul,Nat.mul_assoc _ _ (2^places),← power]
  omega

theorem magnitude_places {bits : UInt64} {places : Nat} (given : max (biased bits) 1 + places = 1075) :
    magnitude bits = (significand bits : ℚ) / (2^places : Nat) := by
  unfold magnitude exponent
  rw [show ((max (biased bits) 1 : Nat) : Int) - 1075 = -(places : Int) by omega,zpow_neg,zpow_natCast,div_eq_mul_inv,
    Nat.cast_pow,Nat.cast_two]

theorem magnitude_whole {bits : UInt64} {places whole : Nat} (given : max (biased bits) 1 + places = 1075)
    (multiple : significand bits = whole * 2^places) : magnitude bits = whole := by
  have nonzero : ((2^places : Nat) : ℚ) ≠ 0 := by exact_mod_cast (Nat.two_pow_pos _).ne'
  rw [magnitude_places given,multiple,Nat.cast_mul,mul_div_cancel_right₀ _ nonzero]

theorem magnitude_integral {bits : UInt64} (integral : 1075 ≤ biased bits) :
    magnitude bits = (significand bits * 2^(biased bits - 1075) : Nat) := by
  unfold magnitude exponent
  rw [show ((max (biased bits) 1 : Nat) : Int) - 1075 = (biased bits - 1075 : Nat) by omega,zpow_natCast]
  push_cast
  rfl

theorem two_halves {places : Nat} (some : 1 ≤ places) : 2 * 2^(places - 1) = 2^places := by
  rw [← Nat.pow_succ']
  congr 1
  omega

theorem floor_half {significand places : Nat} (some : 1 ≤ places) :
    ⌊(significand : ℚ) / (2^places : Nat) + 1/2⌋ = ((significand + 2^(places - 1)) / 2^places : Nat) := by
  have halved : (significand : ℚ) / (2^places : Nat) + 1/2 = ((significand + 2^(places - 1) : Nat) : ℚ) /
    (2^places : Nat) := by
    have double : ((2^places : Nat) : ℚ) = 2 * (2^(places - 1) : Nat) := by
      exact_mod_cast (two_halves some).symm
    have nonzero : ((2^(places - 1) : Nat) : ℚ) ≠ 0 := by exact_mod_cast (Nat.two_pow_pos _).ne'
    rw [double,Nat.cast_add]
    field_simp
  rw [halved,Rat.floor_natCast_div_natCast]
  rfl

theorem round_unchanged (integral : 1075 ≤ biased x.bits) : x.round = x := by
  unfold round
  rw [roundBits_integral integral,UInt64.ofNat_toNat]

/-- Rounded, the number is finite, keeps its sign and has the magnitude `whole`. -/
structure RoundsTo (x : Float64) (whole : Nat) : Prop where
  finite : biased x.round.bits ≠ 2047
  sign : signed x.round.bits = signed x.bits
  magnitude : Binary64.magnitude x.round.bits = whole

theorem roundsTo_below (below : biased x.bits < 1022) : RoundsTo x 0 := by
  have bound := x.bits.toNat_lt
  have shape := roundBits_below below
  rw [← round_bits (by omega)] at shape
  obtain ⟨high,low,sign⟩ := fields_of_bits shape (by omega) (by omega)
  refine ⟨by omega,signed_congr sign,?_⟩
  rw [Nat.cast_zero]
  exact magnitude_zero (by rw [significand,if_pos high,low])

theorem roundsTo_half (half : biased x.bits = 1022) : RoundsTo x 1 := by
  have bound := x.bits.toNat_lt
  have shape := roundBits_half half
  rw [← round_bits (by omega)] at shape
  obtain ⟨high,low,sign⟩ := fields_of_bits shape (by omega) (by omega)
  have places : max (biased x.round.bits) 1 + 52 = 1075 := by omega
  refine ⟨by omega,signed_congr sign,magnitude_whole places ?_⟩
  rw [significand,if_neg (by omega),low,Nat.add_zero,Nat.one_mul]

/-- The rounded significand has its old width, or is the next power of two. -/
theorem roundsTo_fraction {places rounded : Nat} (inside : 1 ≤ places ∧ places ≤ 52)
    (given : biased x.bits + places = 1075)
    (nearest : (2^52 + fraction x.bits + 2^(places - 1)) / 2^places = rounded) : RoundsTo x rounded := by
  have bound := x.bits.toNat_lt
  have fractions := fraction_lt x.bits
  have shape := roundBits_fraction inside given
  rw [nearest] at shape
  have power : 2^(52 - places) * 2^places = 2^52 := by
    rw [← Nat.pow_add]
    congr 1
    omega
  have half := two_halves inside.1
  have small : 2^places ≤ 2^52 := Nat.pow_le_pow_right (by decide) inside.2
  have least : 2^(52 - places) ≤ rounded := by
    rw [← nearest,Nat.le_div_iff_mul_le (Nat.two_pow_pos places),power]
    omega
  have most : rounded ≤ 2 * 2^(52 - places) := by
    rw [← nearest,← Nat.lt_succ_iff,Nat.div_lt_iff_lt_mul (Nat.two_pow_pos places),Nat.succ_mul,Nat.mul_assoc,power]
    omega
  rcases Nat.lt_or_eq_of_le most with kept | carried
  · have below : rounded * 2^places < 2 * 2^52 := by
      rw [← power,← Nat.mul_assoc]
      exact Nat.mul_lt_mul_of_pos_right kept (Nat.two_pow_pos places)
    have above : 2^52 ≤ rounded * 2^places := by
      rw [← power]
      exact Nat.mul_le_mul_right _ least
    have bits : x.round.bits.toNat = x.bits.toNat / 2^63 * 2^63 + biased x.bits * 2^52 +
      (rounded * 2^places - 2^52) := by
      rw [round_bits (by omega),shape]
      omega
    obtain ⟨high,low,sign⟩ := fields_of_bits bits (by omega) (by omega)
    have same : max (biased x.round.bits) 1 + places = 1075 := by omega
    refine ⟨by omega,signed_congr sign,magnitude_whole same ?_⟩
    rw [significand,if_neg (by omega),low]
    omega
  · have doubled : rounded * 2^places = 2 * 2^52 := by rw [carried,Nat.mul_assoc,power]
    have bits : x.round.bits.toNat = x.bits.toNat / 2^63 * 2^63 + (biased x.bits + 1) * 2^52 + 0 := by
      rw [round_bits (by omega),shape]
      omega
    obtain ⟨high,low,sign⟩ := fields_of_bits bits (by omega) (by omega)
    have fewer : max (biased x.round.bits) 1 + (places - 1) = 1075 := by omega
    refine ⟨by omega,signed_congr sign,magnitude_whole fewer ?_⟩
    rw [significand,if_neg (by omega),low,carried,Nat.mul_right_comm,half,Nat.mul_comm,power,Nat.add_zero]

/-- Where there is a fraction, the magnitude goes to the nearest integer, halves up. -/
theorem roundsTo_nearest {places : Nat} (fractional : biased x.bits < 1075)
    (given : max (biased x.bits) 1 + places = 1075) :
    RoundsTo x ((significand x.bits + 2^(places - 1)) / 2^places) := by
  have fractions := fraction_lt x.bits
  have half := two_halves (by omega : 1 ≤ places)
  rcases lt_trichotomy (biased x.bits) 1022 with below | middle | above
  · have narrow := significand_lt x.bits
    have wide : 2^53 ≤ 2^(places - 1) := Nat.pow_le_pow_right (by decide) (by omega)
    rw [Nat.div_eq_of_lt (by omega)]
    exact roundsTo_below below
  · have one : (significand x.bits + 2^(places - 1)) / 2^places = 1 := by
      obtain rfl : places = 53 := by omega
      rw [significand,if_neg (by omega)]
      omega
    rw [one]
    exact roundsTo_half middle
  · rw [significand,if_neg (by omega)]
    exact roundsTo_fraction ⟨by omega,by omega⟩ (by omega) rfl

/-- The sign stays, and the magnitude goes to the nearest integer, halves up. -/
theorem round_magnitude (finite : biased x.bits ≠ 2047) :
    biased x.round.bits ≠ 2047 ∧ signed x.round.bits = signed x.bits ∧
      magnitude x.round.bits = ⌊magnitude x.bits + 1/2⌋ := by
  by_cases integral : 1075 ≤ biased x.bits
  · have half : ⌊(1/2 : ℚ)⌋ = 0 := by norm_num
    rw [round_unchanged integral,magnitude_integral integral]
    refine ⟨finite,rfl,?_⟩
    rw [Int.floor_natCast_add,half,add_zero,Int.cast_natCast]
  · obtain ⟨places,given⟩ : ∃ places, max (biased x.bits) 1 + places = 1075 := ⟨1075 - max (biased x.bits) 1,by omega⟩
    obtain ⟨finite',sign,nearest⟩ := roundsTo_nearest (by omega) given
    rw [magnitude_places given,floor_half (by omega),Int.cast_natCast]
    exact ⟨finite',sign,nearest⟩

theorem exact_some {v : ℚ} : x.exact = some v ↔ biased x.bits ≠ 2047 ∧ value x.bits = v := by
  unfold exact unpack
  by_cases special : biased x.bits = 2047
  · simp [exact_of_special special,special]
  · simp [exact_unpack special,special]

/-- `math.Round` is to the nearest integer, halves away from zero. -/
theorem exact_round {v : ℚ} (given : x.exact = some v) : x.round.exact = some (roundHalfAway v : ℚ) := by
  obtain ⟨finite,rfl⟩ := exact_some.mp given
  obtain ⟨finite',sign,nearest⟩ := round_magnitude finite
  refine exact_some.mpr ⟨finite',?_⟩
  unfold value
  rw [sign,nearest]
  have nonneg := magnitude_nonneg x.bits
  cases signed x.bits with
  | positive => simp [Sign.apply,roundHalfAway,nonneg]
  | negative =>
    rcases nonneg.eq_or_lt with zero | positive
    · rw [← zero]
      norm_num [Sign.apply,roundHalfAway]
    · simp [Sign.apply,roundHalfAway,positive]

theorem roundHalfAway_large {v : ℚ} {number : Int} (given : roundHalfAway v = number) (large : 2^53 ≤ number) :
    2^52 ≤ v := by
  unfold roundHalfAway at given
  split at given
  · rename_i negative
    have nonneg : (0 : Int) ≤ ⌊-v + 1/2⌋ := Int.floor_nonneg.mpr (by linarith)
    omega
  · have below : (number : ℚ) ≤ v + 1/2 := by
      rw [← given]
      exact Int.floor_le _
    have large' : (2^53 : ℚ) ≤ number := by exact_mod_cast large
    linarith

/-- From 2^52 on a number has no fraction. -/
theorem round_large {v : ℚ} (given : x.exact = some v) (large : 2^52 ≤ v) : x.round = x := by
  obtain ⟨finite,rfl⟩ := exact_some.mp given
  apply round_unchanged
  by_contra small
  obtain ⟨places,given⟩ : ∃ places, max (biased x.bits) 1 + (places + 1) = 1075 :=
    ⟨1074 - max (biased x.bits) 1,by omega⟩
  have power : (2 : ℚ) ≤ (2^(places + 1) : Nat) := by
    exact_mod_cast Nat.le_of_dvd (Nat.two_pow_pos _) (Dvd.intro_left (2^places) (Nat.pow_succ ..).symm)
  have below : (significand x.bits : ℚ) < 2^53 := by exact_mod_cast significand_lt x.bits
  have least : magnitude x.bits < 2^52 := by
    rw [magnitude_places given,div_lt_iff₀ (by linarith)]
    linarith
  have most : value x.bits ≤ magnitude x.bits := by
    have nonneg := magnitude_nonneg x.bits
    unfold value
    cases signed x.bits <;> simp [Sign.apply]
    linarith
  linarith

theorem round_special (special : x.exact = none) : x.round = x := by
  apply round_unchanged
  by_contra small
  have finite : biased x.bits ≠ 2047 := by omega
  rw [exact_some.mpr ⟨finite,rfl⟩] at special
  cases special

theorem round_integer {v : ℚ} (given : x.round.exact = some v) : ∃ number : Int, v = number := by
  rcases unrounded : x.exact with _ | w
  · rw [round_special unrounded,unrounded] at given
    cases given
  · rw [exact_round unrounded,Option.some.injEq] at given
    exact ⟨roundHalfAway w,given.symm⟩

end rounding

section special
variable {x y z : Float64}

theorem isNaN_iff : x.isNaN = true ↔ x.unpack = .notANumber := by
  unfold isNaN UnpackedFloat.isNaN
  cases x.unpack <;> simp

theorem number_cases (x : Float64) : x.isNaN = true ∨ (∃ sign, x.unpack = .infinity sign) ∨ ∃ v, x.exact = some v := by
  rw [isNaN_iff]
  unfold exact
  cases x.unpack with
  | notANumber => exact .inl rfl
  | infinity sign => exact .inr (.inl ⟨sign,rfl⟩)
  | zero sign => exact .inr (.inr ⟨_,rfl⟩)
  | finite sign mantissa exponent positive => exact .inr (.inr ⟨_,rfl⟩)

theorem isNaN_of_exact {v : ℚ} (given : x.exact = some v) : x.isNaN = false := by
  rw [Bool.eq_false_iff,Ne,isNaN_iff]
  intro nan
  rw [exact,nan] at given
  cases given

theorem isNaN_round : x.round.isNaN = x.isNaN := by
  rcases given : x.exact with _ | v
  · rw [round_special given]
  · rw [isNaN_of_exact given,isNaN_of_exact (exact_round given)]

theorem roundWithAccuracy_ne (spec : Format) (sign : Sign) (mantissa : Nat) (exponent : Int) (accuracy : Accuracy) :
    roundWithAccuracy spec sign mantissa exponent accuracy ≠ .notANumber := by
  unfold roundWithAccuracy
  dsimp only
  split
  · exact UnpackedFloat.noConfusion
  · exact UnpackedFloat.noConfusion

theorem isNaN_mul {v : ℚ} (given : y.exact = some v) (nonzero : v ≠ 0) : (x.mul y).isNaN = x.isNaN := by
  rw [Bool.eq_iff_iff,isNaN_iff,isNaN_iff]
  unfold mul
  change Binary64.unpack (pack _) = _ ↔ _
  rw [unpack_pack_nan]
  unfold exact at given
  cases unpacked : y.unpack with
  | notANumber => simp [unpacked,Binary64.exact] at given
  | infinity sign => simp [unpacked,Binary64.exact] at given
  | zero sign =>
    simp [unpacked,Binary64.exact] at given
    exact absurd given.symm nonzero
  | finite sign mantissa exponent positive =>
    cases x.unpack <;> simp [UnpackedFloat.mul,roundWithAccuracy_ne]

theorem lt_nan (nan : x.isNaN = true) : x.lt y = false ∧ y.lt x = false := by
  unfold lt UnpackedFloat.lt
  rw [isNaN_iff.mp nan]
  refine ⟨rfl,?_⟩
  cases y.unpack <;> rfl

theorem lt_iff {v w : ℚ} (given : x.exact = some v) (given' : y.exact = some w) : x.lt y = true ↔ v < w := by
  obtain ⟨finite,rfl⟩ := exact_some.mp given
  obtain ⟨finite',rfl⟩ := exact_some.mp given'
  exact lt_iff_value finite finite'

/-- An infinity is beyond one of two finite bounds. -/
theorem lt_infinity {sign : Sign} (unbounded : x.unpack = .infinity sign) {v w : ℚ} (high : y.exact = some v)
    (low : z.exact = some w) : y.lt x = true ∨ x.lt z = true := by
  unfold exact at high low
  unfold lt UnpackedFloat.lt
  rw [unbounded]
  cases sign with
  | positive =>
    refine .inl ?_
    cases other : y.unpack <;> simp_all [UnpackedFloat.compare,Binary64.exact]
  | negative =>
    refine .inr ?_
    cases other : z.unpack <;> simp_all [UnpackedFloat.compare,Binary64.exact]

/-- What passes the comparison with two constants, by their values. -/
theorem accepted_iff (x : Float64) {least most : Int} {low high : ℚ} (lower : (ofInt least).exact = some low)
    (upper : (ofInt most).exact = some high) : ((ofInt most).lt x || x.lt (ofInt least)) = false ↔
      x.isNaN = true ∨ ∃ v, x.exact = some v ∧ low ≤ v ∧ v ≤ high := by
  rw [Bool.or_eq_false_iff]
  rcases number_cases x with nan | ⟨sign,unbounded⟩ | ⟨v,given⟩
  · exact ⟨fun _ => .inl nan,fun _ => ⟨(lt_nan nan).2,(lt_nan nan).1⟩⟩
  · constructor
    · rintro ⟨above,below⟩
      rcases lt_infinity unbounded upper lower with outside | outside
      · rw [above] at outside
        cases outside
      · rw [below] at outside
        cases outside
    · rintro (nan | ⟨v,given,-⟩)
      · rw [isNaN_iff,unbounded] at nan
        cases nan
      · rw [exact,unbounded] at given
        cases given
  · have above := lt_iff upper given
    have below := lt_iff given lower
    rw [← not_iff_not,not_lt,Bool.not_eq_true] at above below
    rw [above,below]
    constructor
    · rintro ⟨high,low⟩
      exact .inr ⟨v,given,low,high⟩
    · rintro (nan | ⟨w,given',low,high⟩)
      · rw [isNaN_of_exact given] at nan
        cases nan
      · rw [given] at given'
        cases given'
        exact ⟨high,low⟩

end special

section integers
variable {x : Float64}

theorem truncate_int (number : Int) : truncate number = number := by
  unfold truncate
  split
  · exact Int.ceil_intCast number
  · exact Int.floor_intCast number

theorem toInt64_exact (platform : Platform) {number : Int} (given : x.exact = some (number : ℚ))
    (fits : FitsInt64 number) :
    (x.toInt64 platform).toInt = number := by
  unfold toInt64
  rw [given,Option.map_some,truncate_int]
  dsimp only
  rw [if_pos fits]
  exact Int64.toInt_ofInt_of_le fits.1 fits.2

theorem toInt32_exact (platform : Platform) {number : Int} (given : x.exact = some (number : ℚ))
    (fits : FitsInt32 number) :
    (x.toInt32 platform).toInt = number := by
  unfold toInt32
  rw [given,Option.map_some,truncate_int]
  dsimp only
  rw [if_pos fits]
  exact Int32.toInt_ofInt_of_le fits.1 fits.2

theorem exact_fields (sign : Sign) (mantissa : Nat) (exponent : Int) (finite : biased x.bits ≠ 2047)
    (signs : signed x.bits = sign) (significands : significand x.bits = mantissa)
    (exponents : Binary64.exponent x.bits = exponent) :
    x.exact = some (sign.apply 1 * (mantissa * 2^exponent) : ℚ) := by
  refine exact_some.mpr ⟨finite,?_⟩
  rw [value,magnitude,signs,significands,exponents]

/-! The largest `int64` is not a `float64`: as a constant it becomes the power of two above it. -/

theorem exact_maxInt64 : (ofInt Int64.maxValue.toInt).exact = some (2^63 : ℚ) := by
  have bits : ofInt Int64.maxValue.toInt = ⟨0x43E0000000000000⟩ := rfl
  rw [bits,exact_fields .positive (2^52) 11 (by decide +kernel) rfl (by decide +kernel) (by decide +kernel)]
  norm_num [Sign.apply]

theorem exact_minInt64 : (ofInt Int64.minValue.toInt).exact = some (-2^63 : ℚ) := by
  have bits : ofInt Int64.minValue.toInt = ⟨0xC3E0000000000000⟩ := rfl
  rw [bits,exact_fields .negative (2^52) 11 (by decide +kernel) rfl (by decide +kernel) (by decide +kernel)]
  norm_num [Sign.apply]

theorem exact_maxInt32 : (ofInt Int32.maxValue.toInt).exact = some (2^31 - 1 : ℚ) := by
  have bits : ofInt Int32.maxValue.toInt = ⟨0x41DFFFFFFFC00000⟩ := rfl
  rw [bits,exact_fields .positive ((2^31 - 1) * 2^22) (-22) (by decide +kernel) rfl (by decide +kernel)
    (by decide +kernel)]
  norm_num [Sign.apply]

theorem exact_minInt32 : (ofInt Int32.minValue.toInt).exact = some (-2^31 : ℚ) := by
  have bits : ofInt Int32.minValue.toInt = ⟨0xC1E0000000000000⟩ := rfl
  rw [bits,exact_fields .negative (2^52) (-21) (by decide +kernel) rfl (by decide +kernel) (by decide +kernel)]
  norm_num [Sign.apply]

end integers

end Float64

end Go
