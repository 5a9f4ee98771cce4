import ControlPlane.Ledger.Types
import Mathlib.Tactic.Ring

/-! Fixed-point arithmetic of the ledger (`internal/ledger/amount.go`). Products and
quotients are computed over unbounded integers, truncated toward zero and refused when
they do not fit `int64` again; sums of amounts are plain `int64` and can wrap. -/
namespace ControlPlane.Ledger
open Go

def amountScale : Int64 := 100000000

def maxAmount : Int64 := 10000000000 * amountScale

/-- `(a*b)/AmountScale` over unbounded integers. -/
def exactMul (multiplicand multiplier : Int) : Int := (multiplicand * multiplier).tdiv amountScale.toInt

/-- `(a*AmountScale)/b` over unbounded integers. -/
def exactDiv (dividend divisor : Int) : Int := (dividend * amountScale.toInt).tdiv divisor

def mulAmount (multiplicand multiplier : Int64) : Except Error Int64 :=
  let product := exactMul multiplicand.toInt multiplier.toInt
  if FitsInt64 product then .ok (Int64.ofInt product)
  else .error (.errorf "multiply amount: %d * %d overflows int64 once rescaled"
    [.int multiplicand.toInt,.int multiplier.toInt])

def divAmount (dividend divisor : Int64) : Except Error Int64 :=
  if divisor = 0 then
    .error (.errorf "divide amount: %d / %d: division by zero" [.int dividend.toInt,.int divisor.toInt])
  else
    let quotient := exactDiv dividend.toInt divisor.toInt
    if FitsInt64 quotient then .ok (Int64.ofInt quotient)
    else .error (.errorf "divide amount: %d / %d overflows int64 once rescaled"
      [.int dividend.toInt,.int divisor.toInt])

theorem amountScale_value : amountScale.toInt = 100000000 := by decide

theorem mulAmount_value (a b c : Int64) (ok : mulAmount a b = .ok c) :
    c.toInt = exactMul a.toInt b.toInt := by
  unfold mulAmount at ok
  dsimp only at ok
  split at ok
  · rename_i fits
    rw [← Except.ok.inj ok,ofInt64_value _ fits]
  · contradiction

theorem divAmount_value (a b c : Int64) (ok : divAmount a b = .ok c) :
    c.toInt = exactDiv a.toInt b.toInt := by
  unfold divAmount at ok
  dsimp only at ok
  split at ok
  · contradiction
  · split at ok
    · rename_i fits
      rw [← Except.ok.inj ok,ofInt64_value _ fits]
    · contradiction

theorem mulAmount_fits (a b : Int64) (fits : FitsInt64 (exactMul a.toInt b.toInt)) :
    mulAmount a b = .ok (Int64.ofInt (exactMul a.toInt b.toInt)) := by
  unfold mulAmount
  dsimp only
  rw [if_pos fits]

theorem divAmount_fits (a b : Int64) (nonzero : b.toInt ≠ 0) (fits : FitsInt64 (exactDiv a.toInt b.toInt)) :
    divAmount a b = .ok (Int64.ofInt (exactDiv a.toInt b.toInt)) := by
  have divisor : ¬b = 0 := by
    rintro rfl
    exact nonzero rfl
  unfold divAmount
  dsimp only
  rw [if_neg divisor,if_pos fits]

/-- Truncation toward zero loses less than one unit of the divisor. -/
theorem tdiv_error (x y : Int) (nonzero : y ≠ 0) : |x - y * x.tdiv y| < |y| := by
  have split := Int.mul_tdiv_add_tmod x y
  have bound := Int.natAbs_tmod x y
  have small : x.natAbs % y.natAbs < y.natAbs := Nat.mod_lt _ (by omega)
  have value : x - y * x.tdiv y = x.tmod y := by omega
  rw [value,Int.abs_eq_natAbs,Int.abs_eq_natAbs]
  omega

end ControlPlane.Ledger
