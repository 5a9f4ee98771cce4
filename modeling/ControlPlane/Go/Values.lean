import Mathlib.Data.Int.Basic
import Mathlib.Data.List.Forall2
import Mathlib.Tactic.Linarith

/-! Go values shared by every service: byte strings, wrapped errors and the ranges of
the signed machine integers. A string is its bytes, as in the language, so converting
between `string` and `[]byte` is the identity. An error keeps its format, its operands
and the error it wraps, which is all that `errors.Is` looks at. -/
namespace Go

abbrev Bytes := List UInt8

/-- The bytes of a string literal of the source. -/
def text (literal : String) : Bytes := literal.toUTF8.data.toList

theorem text_injective {one other : String} (same : text one = text other) : one = other := by
  have bytes : one.toUTF8.data = other.toUTF8.data := Array.toList_inj.mp same
  exact String.toByteArray_inj.mp (ByteArray.ext bytes)

/-- An operand of a formatting verb other than `%w`. -/
inductive Operand where
  | bytes (value : Bytes)
  | int (value : Int)
  | float (value : Rat)
  | float64 (bits : UInt64)
  deriving DecidableEq, Repr

/-- `errors.New`, and `fmt.Errorf` without and with a `%w` operand. -/
inductive Error where
  | new (message : String)
  | errorf (format : String) (operands : List Operand)
  | wrap (format : String) (operands : List Operand) (cause : Error)
  deriving DecidableEq, Repr

/-- `errors.Is`: the error itself or one that it wraps. -/
def Error.is (err target : Error) : Bool :=
  err == target || match err with
    | .wrap _ _ cause => cause.is target
    | _ => false

theorem Error.is_self (err : Error) : err.is err = true := by
  cases err <;> simp [Error.is]

theorem mapError_ok {ε δ α : Type} (change : ε → δ) (result : Except ε α) (value : α) :
    result.mapError change = .ok value ↔ result = .ok value := by
  cases result <;> simp [Except.mapError]

/-- Wrapping the failure of a call, as in `fmt.Errorf("context: %w", err)`. -/
def wrapping {α : Type} (format : String) (result : Except Error α) : Except Error α :=
  result.mapError (.wrap format [])

theorem wrapping_ok {α : Type} (format : String) (result : Except Error α) (value : α) :
    wrapping format result = .ok value ↔ result = .ok value :=
  mapError_ok _ result value

/-- Sequencing fallible steps succeeds only through a success of the first. -/
theorem bind_success {ε α β : Type} (first : Except ε α) (next : α → Except ε β) (result : β)
    (ok : (first >>= next) = .ok result) : ∃ value, first = .ok value ∧ next value = .ok result := by
  cases first with
  | error err => simp [bind,Except.bind] at ok
  | ok value => exact ⟨value,rfl,ok⟩

theorem bind_ok {ε α β : Type} (first : Except ε α) (next : α → Except ε β) (result : β) :
    (first >>= next) = .ok result ↔ ∃ value, first = .ok value ∧ next value = .ok result := by
  constructor
  · exact bind_success first next result
  · rintro ⟨value,rfl,ok⟩
    exact ok

/-- A loop that appends one result for each element succeeds exactly if each step does. -/
theorem mapM_ok {ε α β : Type} (step : α → Except ε β) (inputs : List α) (results : List β) :
    inputs.mapM step = .ok results ↔ List.Forall₂ (fun input result => step input = .ok result) inputs results := by
  induction inputs generalizing results with
  | nil =>
    cases results <;> simp [pure,Except.pure]
  | cons input inputs ih =>
    rw [List.mapM_cons,bind_ok]
    constructor
    · rintro ⟨result,first,rest⟩
      obtain ⟨others,later,same⟩ := bind_success _ _ _ rest
      cases same
      exact .cons first ((ih others).mp later)
    · rintro (_ | ⟨first,later⟩)
      refine ⟨_,first,?_⟩
      rw [(ih _).mpr later]
      rfl

/-- `big.Int.IsInt64`. -/
def FitsInt64 (x : Int) : Prop := -2^63 ≤ x ∧ x < 2^63

instance (x : Int) : Decidable (FitsInt64 x) := inferInstanceAs (Decidable (_ ∧ _))

def FitsInt32 (x : Int) : Prop := -2^31 ≤ x ∧ x < 2^31

instance (x : Int) : Decidable (FitsInt32 x) := inferInstanceAs (Decidable (_ ∧ _))

/-- `math.MaxInt`, for the 64-bit `int`. -/
def maxInt : Int := 2^63-1

theorem fits_toInt64 (x : Int64) : FitsInt64 x.toInt := ⟨x.le_toInt,x.toInt_lt⟩

theorem fits_toInt32 (x : Int32) : FitsInt32 x.toInt := ⟨x.le_toInt,x.toInt_lt⟩

theorem one32 : (1 : Int32).toInt = 1 := rfl

theorem ofInt64_value (x : Int) (fits : FitsInt64 x) : (Int64.ofInt x).toInt = x :=
  Int64.toInt_ofInt_of_le fits.1 fits.2

private theorem bmod64 (x : Int) (fits : FitsInt64 x) : x.bmod (2^64) = x := by
  obtain ⟨low,high⟩ := fits
  exact Int.bmod_eq_of_le (by omega) (by omega)

private theorem bmod32 (x : Int) (fits : FitsInt32 x) : x.bmod (2^32) = x := by
  obtain ⟨low,high⟩ := fits
  exact Int.bmod_eq_of_le (by omega) (by omega)

/-! A sum, difference or negation that stays in range is the exact one. -/

theorem add64 (x y : Int64) (fits : FitsInt64 (x.toInt + y.toInt)) :
    (x + y).toInt = x.toInt + y.toInt := by
  rw [Int64.toInt_add,bmod64 _ fits]

/-- The smallest value alone has no negation in range. -/
theorem fits_neg64 {x : Int64} (above : x ≠ Int64.minValue) : FitsInt64 (-x.toInt) := by
  have range := fits_toInt64 x
  rw [Ne,← Int64.toInt_inj,Int64.toInt_minValue] at above
  unfold FitsInt64 at range ⊢
  omega

/-- Wrapping around does not change the parity. -/
theorem parity_add (x y : Int64) : (x + y).toInt % 2 = (x.toInt + y.toInt) % 2 := by
  have wide : (2 : Int) ∣ 2^64 := ⟨2^63,by norm_num⟩
  rw [Int64.toInt_add,← Int.emod_emod_of_dvd _ wide]
  exact (congrArg (· % 2) (Int.bmod_emod (x := x.toInt + y.toInt) (m := 2^64))).trans (Int.emod_emod_of_dvd _ wide)

theorem sub64 (x y : Int64) (fits : FitsInt64 (x.toInt - y.toInt)) :
    (x - y).toInt = x.toInt - y.toInt := by
  rw [Int64.toInt_sub,bmod64 _ fits]

theorem neg64 (x : Int64) (fits : FitsInt64 (-x.toInt)) : (-x).toInt = -x.toInt := by
  rw [Int64.toInt_neg,bmod64 _ fits]

theorem sub32 (x y : Int32) (fits : FitsInt32 (x.toInt - y.toInt)) :
    (x - y).toInt = x.toInt - y.toInt := by
  rw [Int32.toInt_sub,bmod32 _ fits]

/-- A sum or difference that leaves the range comes back at its other end. -/
theorem bmod32_cases (x : Int) (low : -2^32 ≤ x) (high : x < 2^32) :
    x.bmod (2^32) = x ∧ FitsInt32 x ∨ x.bmod (2^32) = x - 2^32 ∧ 2^31 ≤ x ∨
      x.bmod (2^32) = x + 2^32 ∧ x < -2^31 := by
  rw [show (2 : Nat)^32 = 4294967296 from rfl,Int.bmod_def]
  unfold FitsInt32
  split
  · omega
  · omega

theorem add32_cases (x y : Int32) :
    (x + y).toInt = x.toInt + y.toInt ∧ FitsInt32 (x.toInt + y.toInt) ∨
      (x + y).toInt = x.toInt + y.toInt - 2^32 ∧ 2^31 ≤ x.toInt + y.toInt ∨
      (x + y).toInt = x.toInt + y.toInt + 2^32 ∧ x.toInt + y.toInt < -2^31 := by
  have left := fits_toInt32 x
  have right := fits_toInt32 y
  unfold FitsInt32 at left right
  rw [Int32.toInt_add]
  exact bmod32_cases _ (by omega) (by omega)

theorem sub32_cases (x y : Int32) :
    (x - y).toInt = x.toInt - y.toInt ∧ FitsInt32 (x.toInt - y.toInt) ∨
      (x - y).toInt = x.toInt - y.toInt - 2^32 ∧ 2^31 ≤ x.toInt - y.toInt ∨
      (x - y).toInt = x.toInt - y.toInt + 2^32 ∧ x.toInt - y.toInt < -2^31 := by
  have left := fits_toInt32 x
  have right := fits_toInt32 y
  unfold FitsInt32 at left right
  rw [Int32.toInt_sub]
  exact bmod32_cases _ (by omega) (by omega)

end Go
