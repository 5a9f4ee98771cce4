import Mathlib.Data.Int.Log
import Mathlib.Data.Rat.Floor
import Mathlib.Tactic.FieldSimp
import Mathlib.Tactic.Linarith
import Mathlib.Tactic.Ring

/-! Decimal numbers of a database: an integer and a number of digits after the point. A product
is exact, a quotient gets as many digits as sixteen significant ones need, and a change of the
number of digits rounds half away from zero. -/
namespace Data.Numeric

section rounding
variable {q : ℚ}

/-- The nearest integer, the one further from zero if there are two. -/
def roundHalfAway (q : ℚ) : ℤ := if q < 0 then -⌊-q + 1/2⌋ else ⌊q + 1/2⌋

@[simp] theorem roundHalfAway_intCast (number : ℤ) : roundHalfAway number = number := by
  have half (number : ℤ) : ⌊(number : ℚ) + 1/2⌋ = number := by
    rw [Int.floor_eq_iff]
    constructor <;> linarith
  unfold roundHalfAway
  split
  · rw [← Int.cast_neg,half,neg_neg]
  · exact half number

theorem roundHalfAway_near (q : ℚ) : |(roundHalfAway q : ℚ) - q| ≤ 1/2 := by
  unfold roundHalfAway
  split
  · have below := Int.floor_le (-q + 1/2)
    have above := Int.lt_floor_add_one (-q + 1/2)
    rw [Int.cast_neg,abs_le]
    constructor <;> linarith
  · have below := Int.floor_le (q + 1/2)
    have above := Int.lt_floor_add_one (q + 1/2)
    rw [abs_le]
    constructor <;> linarith

end rounding

structure Decimal where
  coefficient : ℤ
  scale : ℕ
  deriving DecidableEq, Repr

namespace Decimal

def value (number : Decimal) : ℚ := number.coefficient / 10^number.scale

def ofInt (number : ℤ) : Decimal := ⟨number,0⟩

def mul (one other : Decimal) : Decimal := ⟨one.coefficient * other.coefficient,one.scale + other.scale⟩

def rescale (number : Decimal) (scale : ℕ) : Decimal := ⟨roundHalfAway (number.value * 10^scale),scale⟩

/-- The place of the first digit to the base 10000. -/
def weight (number : Decimal) : ℤ := Int.log 10000 |number.value|

def leading (number : Decimal) : ℤ := ⌊|number.value| / 10000^number.weight⌋

/-- How many digits after the point a quotient gets. -/
def divScale (dividend divisor : Decimal) : ℕ :=
  let weight := dividend.weight - divisor.weight - if dividend.leading ≤ divisor.leading then 1 else 0
  max (16 - 4 * weight).toNat (max dividend.scale divisor.scale)

def div (dividend divisor : Decimal) : Decimal :=
  ⟨roundHalfAway (dividend.value / divisor.value * 10^divScale dividend divisor),divScale dividend divisor⟩

variable {number dividend divisor : Decimal} {scale : ℕ} {n : ℤ}

@[simp] theorem value_ofInt (number : ℤ) : (ofInt number).value = number := by simp [value,ofInt]

@[simp] theorem value_mul (one other : Decimal) : (one.mul other).value = one.value * other.value := by
  simp only [value,mul,Int.cast_mul,pow_add]
  field_simp

theorem value_mk (coefficient : ℤ) (scale : ℕ) : (⟨coefficient,scale⟩ : Decimal).value * 10^scale = coefficient := by
  simp [value]

/-- A number that the new scale has room for is not rounded. -/
theorem rescale_exact (whole : number.value * 10^scale = n) : number.rescale scale = ⟨n,scale⟩ := by
  rw [rescale,whole,roundHalfAway_intCast]

/-- A quotient with no more digits than it gets is not rounded. -/
theorem div_exact (whole : dividend.value / divisor.value * 10^scale = n) (enough : scale ≤ divScale dividend divisor) :
    (dividend.div divisor).value = dividend.value / divisor.value := by
  obtain ⟨more,digits⟩ := Nat.exists_eq_add_of_le enough
  have longer : dividend.value / divisor.value * 10^divScale dividend divisor = ((n * 10^more : ℤ) : ℚ) := by
    rw [digits,pow_add,← mul_assoc,whole]
    simp
  rw [div,longer,roundHalfAway_intCast]
  change ((n * 10^more : ℤ) : ℚ) / 10^divScale dividend divisor = _
  rw [← longer]
  field_simp

theorem divScale_enough {digits : ℕ} (close : 4 * (dividend.weight - divisor.weight) + digits ≤ 16) :
    digits ≤ divScale dividend divisor := by
  refine le_trans ?_ (le_max_left _ _)
  split <;> omega

theorem weight_le {bound : ℕ} (below : |number.value| < 10000^(bound+1)) : number.weight ≤ bound := by
  by_cases zero : number.value = 0
  · simp [weight,zero]
  · have small : |number.value| < ((10000 : ℕ) : ℚ)^((bound+1 : ℕ) : ℤ) := by exact_mod_cast below
    have least := (Int.lt_zpow_iff_log_lt (by norm_num) (abs_pos.mpr zero)).mp small
    unfold weight
    omega

end Decimal

/-- A value of a column of `precision` digits, `scale` of them after the point. -/
inductive Column (precision scale : ℕ) where
  | nan
  | finite (coefficient : ℤ) (fits : coefficient.natAbs < 10^precision)
  deriving DecidableEq

namespace Column
variable {precision scale : ℕ}

def decimal : Column precision scale → Option Decimal
  | .nan => none
  | .finite coefficient _ => some ⟨coefficient,scale⟩

def value (column : Column precision scale) : Option ℚ := column.decimal.map Decimal.value

/-- `NaN` is greater than every number. -/
def exceeds (column : Column precision scale) (limit : ℚ) : Bool :=
  match column.value with
  | none => true
  | some value => limit < value

def abs : Column precision scale → Column precision scale
  | .nan => .nan
  | .finite coefficient fits => .finite |coefficient| (by rwa [Int.natAbs_abs])

/-- The cast of a number to the column's type; `none` if it has too many digits. -/
def cast (precision scale : ℕ) (number : Decimal) : Option (Column precision scale) :=
  if fits : (number.rescale scale).coefficient.natAbs < 10^precision then some (.finite _ fits) else none

theorem value_abs (column : Column precision scale) : column.abs.value = column.value.map (|·|) := by
  cases column with
  | nan => rfl
  | finite coefficient fits => simp [abs,value,decimal,Decimal.value,abs_div]

theorem exceeds_iff {column : Column precision scale} {limit : ℚ} :
    column.exceeds limit = true ↔ ∀ value, column.value = some value → limit < value := by
  unfold exceeds
  cases column.value <;> simp

theorem exceeds_eq_false {column : Column precision scale} {limit : ℚ} :
    column.exceeds limit = false ↔ ∃ value, column.value = some value ∧ value ≤ limit := by
  unfold exceeds
  cases column.value <;> simp

theorem cast_fits {number : Decimal} {value : ℚ} (same : number.value = value)
    (fits : (roundHalfAway (value * 10^scale)).natAbs < 10^precision) : cast precision scale number =
      some (.finite _ fits) := by
  subst same
  exact dif_pos fits

end Column

end Data.Numeric
