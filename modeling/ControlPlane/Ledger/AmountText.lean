import ControlPlane.Ledger.AmountLanguage

/-! What `FormatAmount` writes: one text for each amount, in a fixed shape, which `ParseAmount`
reads back. The most negative `int64` has a text and no amount is read from it. -/
namespace ControlPlane.Ledger
open Go Digits

theorem padDigits_value (digits : Bytes) : value (padDigits digits) = value digits := by
  unfold padDigits
  split
  · rw [value_append,value_zeros,Nat.zero_mul,Nat.zero_add]
  · rfl

theorem padDigits_digits (digits : Bytes) (all : ∀ char ∈ digits, IsDigit char) :
    ∀ char ∈ padDigits digits, IsDigit char := by
  unfold padDigits
  split
  · intro char member
    rcases List.mem_append.mp member with zero | old
    · rw [List.eq_of_mem_replicate zero]
      exact digit_isDigit 0 (by omega)
    · exact all char old
  · exact all

theorem padDigits_length (digits : Bytes) : amountFractionDigits < (padDigits digits).length := by
  unfold padDigits
  split
  · simp only [List.length_append,List.length_replicate]
    omega
  · omega

theorem magnitudeOf_value (amount : Int64) : (magnitudeOf amount).toNat = amount.toInt.natAbs := by
  have low := amount.le_toInt
  have high := amount.toInt_lt
  unfold magnitudeOf
  split
  · rename_i negative
    rw [Int64.lt_iff_toInt_lt,Int64.toInt_zero] at negative
    have one : (1 : Int64).toInt = 1 := by decide
    have next : (amount + 1).toInt = amount.toInt + 1 := by
      rw [add64 _ _ (by rw [one]; unfold FitsInt64; omega),one]
    have turned : (-(amount + 1)).toInt = -(amount.toInt + 1) := by
      rw [neg64 _ (by unfold FitsInt64; omega),next]
    have plain : (-(amount + 1)).toUInt64.toNat = (-(amount + 1)).toInt.toNat :=
      Int64.toNat_toUInt64_of_le (Int64.le_iff_toInt_le.mpr (by rw [turned,Int64.toInt_zero]; omega))
    rw [UInt64.toNat_add,plain,turned,UInt64.toNat_one,Nat.mod_eq_of_lt (by omega)]
    omega
  · rename_i nonnegative
    rw [Int64.lt_iff_toInt_lt,Int64.toInt_zero] at nonnegative
    have plain : amount.toUInt64.toNat = amount.toInt.toNat :=
      Int64.toNat_toUInt64_of_le (Int64.le_iff_toInt_le.mpr (by rw [Int64.toInt_zero]; omega))
    rw [plain]
    omega

/-- The digits of an amount, before and after the point. -/
def amountDigits (amount : Int64) : Bytes := padDigits (formatUint (magnitudeOf amount))

def pointAt (amount : Int64) : Nat := (amountDigits amount).length - amountFractionDigits

theorem amountDigits_decimal (amount : Int64) : ∀ char ∈ amountDigits amount, IsDigit char :=
  padDigits_digits _ (render_digits _)

theorem amountDigits_value (amount : Int64) : value (amountDigits amount) = amount.toInt.natAbs := by
  unfold amountDigits formatUint
  rw [padDigits_value,value_render,magnitudeOf_value]

theorem whole_nonempty (amount : Int64) : (amountDigits amount).take (pointAt amount) ≠ [] := by
  have long := padDigits_length (formatUint (magnitudeOf amount))
  apply List.ne_nil_of_length_pos
  rw [List.length_take]
  unfold pointAt amountDigits
  omega

def formattedNumber (amount : Int64) : DecimalNumber where
  whole := {
    sign := if amount < 0 then some .minus else none
    digits := (amountDigits amount).take (pointAt amount)
    nonempty := whole_nonempty amount
    decimal := fun char member => amountDigits_decimal amount char (List.mem_of_mem_take member) }
  fraction := some ⟨(amountDigits amount).drop (pointAt amount),
    fun char member => amountDigits_decimal amount char (List.mem_of_mem_drop member)⟩
  exponent := none

section parts
variable (amount : Int64)

theorem formattedNumber_sign : (formattedNumber amount).whole.sign = if amount < 0 then some .minus else none := by
  rw [formattedNumber]

theorem formattedNumber_whole : (formattedNumber amount).whole.digits = (amountDigits amount).take
    (pointAt amount) := by
  rw [formattedNumber]

theorem formattedNumber_fraction : (formattedNumber amount).fractionDigits = (amountDigits amount).drop
    (pointAt amount) := by
  rw [formattedNumber,DecimalNumber.fractionDigits,Option.elim_some]

end parts

theorem formatAmount_number (amount : Int64) : formatAmount amount = (formattedNumber amount).text := by
  unfold formatAmount DecimalNumber.text Numeral.text signText
  change (if amount < 0 then [45] else []) ++ ((amountDigits amount).take (pointAt amount) ++
    dot::(amountDigits amount).drop (pointAt amount)) = (Option.map Sign.char
      (if amount < 0 then some .minus else none)).toList ++
      (amountDigits amount).take (pointAt amount) ++ dot::(amountDigits amount).drop (pointAt amount) ++ []
  rw [List.append_nil,List.append_assoc]
  split <;> rfl

theorem fraction_length (amount : Int64) : (formattedNumber amount).fractionDigits.length = 8 := by
  have long := padDigits_length (formatUint (magnitudeOf amount))
  rw [formattedNumber_fraction,List.length_drop]
  unfold pointAt amountDigits
  unfold amountFractionDigits at long ⊢
  omega

theorem formattedNumber_mantissa (amount : Int64) : (formattedNumber amount).mantissa = amount.toInt.natAbs := by
  rw [DecimalNumber.mantissa,formattedNumber_whole,formattedNumber_fraction,List.take_append_drop,amountDigits_value]

theorem formattedNumber_power (amount : Int64) : (formattedNumber amount).power = 0 := by
  unfold DecimalNumber.power
  rw [fraction_length]
  rfl

theorem formattedNumber_value (amount : Int64) :
    (formattedNumber amount).value * amountScale.toInt = amount.toInt := by
  rw [scaled_value,formattedNumber_mantissa,formattedNumber_power,zpow_zero,mul_one,formattedNumber_sign]
  have sign : signum (if amount < 0 then some .minus else none) * (amount.toInt.natAbs : Int) = amount.toInt := by
    unfold signum
    split <;> rename_i negative <;> rw [Int64.lt_iff_toInt_lt,Int64.toInt_zero] at negative
    · rw [if_pos rfl]
      omega
    · rw [if_neg (by simp)]
      omega
  rw [← Int.cast_natCast,← Int.cast_mul,sign]

/-- The whole part starts with a zero only where it is the single digit zero. -/
theorem formattedNumber_leading (amount : Int64) (zero : (formattedNumber amount).whole.digits.head? = some (digit 0)) :
    (formattedNumber amount).whole.digits = [digit 0] := by
  rw [formattedNumber_whole] at zero ⊢
  unfold pointAt amountDigits padDigits at zero ⊢
  split at zero <;> rename_i short
  · rw [if_pos short]
    have split : (List.replicate (amountFractionDigits - (formatUint (magnitudeOf amount)).length + 1) (digit 0) ++
        formatUint (magnitudeOf amount)).length - amountFractionDigits = 1 := by
      rw [List.length_append,List.length_replicate]
      omega
    rw [split,List.replicate_succ]
    rfl
  · rw [List.head?_take,if_neg (by omega)] at zero
    have number : (magnitudeOf amount).toNat = 0 := render_leading _ zero
    have single : (formatUint (magnitudeOf amount)).length = 1 := by
      unfold formatUint
      rw [number]
      rfl
    rw [single] at short
    exact absurd (by decide) short

/-- `ParseAmount` reads back what `FormatAmount` writes. -/
theorem parseAmount_formatAmount (amount : Int64) (above : amount ≠ Int64.minValue) :
    parseAmount (formatAmount amount) = .ok amount := by
  have bounds : amount.toInt.natAbs ≤ 2^63 - 1 := by
    have low := amount.le_toInt
    have high := amount.toInt_lt
    rw [Ne,← Int64.toInt_inj,Int64.toInt_minValue] at above
    omega
  have representable : (formattedNumber amount).Representable := by
    refine ⟨?_,?_,Or.inl ⟨?_,?_⟩⟩
    · change (-1000 : Int) ≤ 0 ∧ (0 : Int) ≤ 1000
      decide
    · rw [formattedNumber_mantissa]
      omega
    · rw [formattedNumber_power]
    · rw [formattedNumber_mantissa,formattedNumber_power,Int.toNat_zero,pow_zero,Nat.mul_one]
      exact bounds
  obtain ⟨read,ok⟩ := (parseAmount_number _).mpr representable
  have exact := parseAmount_value _ _ ok
  rw [decimalValue_number,formattedNumber_value] at exact
  have same : read = amount := Int64.toInt_inj.mp (by exact_mod_cast exact)
  rw [formatAmount_number,ok,same]

theorem parseAmount_above {literal : Bytes} {amount : Int64} (ok : parseAmount literal = .ok amount) :
    amount ≠ Int64.minValue := by
  obtain ⟨-,exponent,magnitude,scaled,-,-,-,small,rfl⟩ := (parseAmount_ok literal amount).mp ok
  have signed := signed_value (splitSign literal).1 scaled small
  intro least
  rw [least,Int64.toInt_minValue] at signed
  have bound : ((scaled.toNat : Int) : ℚ) < 2^63 := by exact_mod_cast small
  push_cast at bound signed
  split at signed <;> linarith

theorem formatAmount_injective : Function.Injective formatAmount := by
  intro left right same
  rw [formatAmount_number,formatAmount_number] at same
  have value : (formattedNumber left).value = (formattedNumber right).value := by
    rw [← decimalValue_number,same,decimalValue_number]
  have exact : (left.toInt : ℚ) = right.toInt := by
    rw [← formattedNumber_value,value,formattedNumber_value]
  exact Int64.toInt_inj.mp (by exact_mod_cast exact)

/-- `FormatAmount` writes every amount in one shape and `ParseAmount` inverts it. -/
theorem formatAmount_inverted :
    (∀ amount, amount ≠ Int64.minValue → parseAmount (formatAmount amount) = .ok amount) ∧
    (∀ amount, ∃ number : DecimalNumber, formatAmount amount = number.text ∧
      number.whole.sign = (if amount < 0 then some .minus else none) ∧
      (number.whole.digits.head? = some (digit 0) → number.whole.digits = [digit 0]) ∧
      (∃ fraction, number.fraction = some fraction ∧ fraction.val.length = 8) ∧ number.exponent = none ∧
      number.value * amountScale.toInt = amount.toInt) ∧
    Function.Injective formatAmount ∧
    ∀ literal amount, parseAmount literal = .ok amount → parseAmount (formatAmount amount) = .ok amount := by
  refine ⟨parseAmount_formatAmount,?_,formatAmount_injective,?_⟩
  · intro amount
    exact ⟨formattedNumber amount,formatAmount_number amount,rfl,formattedNumber_leading amount,
      ⟨_,rfl,fraction_length amount⟩,rfl,formattedNumber_value amount⟩
  · intro literal amount ok
    exact parseAmount_formatAmount amount (parseAmount_above ok)

theorem formatAmount_inverted_below_unit : (-50000001 : Int64) ≠ Int64.minValue ∧
    parseAmount (formatAmount (-50000001)) = .ok (-50000001) :=
  ⟨by decide,formatAmount_inverted.1 _ (by decide)⟩

example : formatAmount Int64.minValue = text "-92233720368.54775808" := by decide

end ControlPlane.Ledger
