import ControlPlane.Ledger.Decimal

/-! The texts that `ParseAmount` accepts: an optional sign, digits, an optional fraction and
an optional exponent, whose number is a whole multiple of the smallest amount and in range. -/
namespace ControlPlane.Ledger
open Go Digits

inductive Sign where
  | plus
  | minus
  deriving DecidableEq, Repr

def Sign.char : Sign → UInt8
  | .plus => 43
  | .minus => 45

def signText (sign : Option Sign) : Bytes := (sign.map Sign.char).toList

def signum (sign : Option Sign) : Int := if sign = some .minus then -1 else 1

/-- A string of digits, with an optional sign before it. -/
structure Numeral where
  sign : Option Sign
  digits : Bytes
  nonempty : digits ≠ []
  decimal : ∀ char ∈ digits, IsDigit char

def Numeral.text (numeral : Numeral) : Bytes := signText numeral.sign ++ numeral.digits

def Numeral.value (numeral : Numeral) : Int := signum numeral.sign * Digits.value numeral.digits

inductive ExponentMarker where
  | lower
  | upper
  deriving DecidableEq, Repr

def ExponentMarker.char : ExponentMarker → UInt8
  | .lower => 101
  | .upper => 69

/-- The digits of a fraction, of which there may be none. -/
abbrev Fraction := {digits : Bytes // ∀ char ∈ digits, IsDigit char}

structure DecimalNumber where
  whole : Numeral
  fraction : Option Fraction
  exponent : Option (ExponentMarker × Numeral)

namespace DecimalNumber

def fractionText (number : DecimalNumber) : Bytes := number.fraction.elim [] fun digits => dot::digits.val

def fractionDigits (number : DecimalNumber) : Bytes := number.fraction.elim [] Subtype.val

def exponentText (number : DecimalNumber) : Bytes :=
  number.exponent.elim [] fun parts => parts.1.char::parts.2.text

def exponentValue (number : DecimalNumber) : Int := number.exponent.elim 0 fun parts => parts.2.value

def text (number : DecimalNumber) : Bytes := number.whole.text ++ number.fractionText ++ number.exponentText

/-- The integer that the digits before and after the point write. -/
def mantissa (number : DecimalNumber) : Nat := Digits.value (number.whole.digits ++ number.fractionDigits)

def power (number : DecimalNumber) : Int := number.exponentValue - number.fractionDigits.length + 8

def value (number : DecimalNumber) : ℚ :=
  signum number.whole.sign *
    (Digits.value number.whole.digits + Digits.value number.fractionDigits / 10^number.fractionDigits.length) *
    10^number.exponentValue

/-- What `ParseAmount` can represent. -/
structure Representable (number : DecimalNumber) : Prop where
  exponent : -1000 ≤ number.exponentValue ∧ number.exponentValue ≤ 1000
  mantissa : number.mantissa < 2^64
  amount : (0 ≤ number.power ∧ number.mantissa * 10^number.power.toNat ≤ 2^63 - 1) ∨
    (-19 ≤ number.power ∧ number.power < 0 ∧ 10^(-number.power).toNat ∣ number.mantissa ∧
      number.mantissa / 10^(-number.power).toNat ≤ 2^63 - 1)

end DecimalNumber

section signs

theorem splitSign_text (sign : Option Sign) (char : UInt8) (rest : Bytes) (digit : IsDigit char) :
    splitSign (signText sign ++ char::rest) = (decide (sign = some .minus),char::rest) := by
  cases sign with
  | none => exact splitSign_digit char rest digit
  | some sign => cases sign <;> rfl

/-- Every text is a sign and what follows it. -/
theorem splitSign_parts (s : Bytes) :
    ∃ sign, s = signText sign ++ (splitSign s).2 ∧ (splitSign s).1 = decide (sign = some .minus) := by
  unfold splitSign
  split
  · exact ⟨some .minus,rfl,rfl⟩
  · exact ⟨some .plus,rfl,rfl⟩
  · exact ⟨none,rfl,rfl⟩

theorem signedValue_text (numeral : Numeral) : signedValue numeral.text = numeral.value := by
  obtain ⟨sign,digits,nonempty,decimal⟩ := numeral
  cases digits with
  | nil => contradiction
  | cons char rest =>
    unfold signedValue Numeral.text Numeral.value signum
    rw [splitSign_text sign char rest (decimal char List.mem_cons_self)]
    by_cases minus : sign = some .minus <;> simp [minus]

theorem atoi_numeral (numeral : Numeral) (result : Int64) :
    atoi numeral.text = .ok result ↔ FitsInt64 numeral.value ∧ result = Int64.ofInt numeral.value := by
  have split : (splitSign numeral.text).2 = numeral.digits := by
    obtain ⟨sign,digits,nonempty,decimal⟩ := numeral
    cases digits with
    | nil => contradiction
    | cons char rest =>
      unfold Numeral.text
      rw [splitSign_text sign char rest (decimal char List.mem_cons_self)]
  rw [atoi_ok,split,signedValue_text,and_iff_right numeral.nonempty,and_iff_right numeral.decimal]

theorem atoi_reads {s : Bytes} {result : Int64} (ok : atoi s = .ok result) : ∃ numeral : Numeral, numeral.text = s := by
  obtain ⟨nonempty,decimal,-,-⟩ := (atoi_ok s result).mp ok
  obtain ⟨sign,parts,-⟩ := splitSign_parts s
  exact ⟨⟨sign,(splitSign s).2,nonempty,decimal⟩,parts.symm⟩

end signs

section parts
variable (number : DecimalNumber)

theorem fraction_decimal : ∀ char ∈ number.fractionDigits, IsDigit char := by
  unfold DecimalNumber.fractionDigits
  cases number.fraction with
  | none => simp
  | some digits => exact digits.property

theorem splitSign_number : splitSign number.text =
    (decide (number.whole.sign = some .minus),number.whole.digits ++ number.fractionText ++ number.exponentText) := by
  unfold DecimalNumber.text Numeral.text
  obtain ⟨sign,digits,nonempty,decimal⟩ := number.whole
  cases digits with
  | nil => contradiction
  | cons char rest =>
    simp only [List.append_assoc,List.cons_append]
    exact splitSign_text sign char _ (decimal char List.mem_cons_self)

theorem mantissa_marked :
    (number.whole.digits ++ number.fractionText ++ number.exponentText).takeWhile inMantissa =
        number.whole.digits ++ number.fractionText ∧
      (number.whole.digits ++ number.fractionText ++ number.exponentText).dropWhile inMantissa =
      number.exponentText := by
  have inside : ∀ char ∈ number.whole.digits ++ number.fractionText, inMantissa char = true := by
    intro char member
    rcases List.mem_append.mp member with before | after
    · exact (digit_inMantissa (number.whole.decimal char before)).1
    · unfold DecimalNumber.fractionText at after
      cases given : number.fraction with
      | none => simp [given] at after
      | some digits =>
        rw [given] at after
        rcases List.mem_cons.mp after with rfl | later
        · rfl
        · exact (digit_inMantissa (digits.property char later)).1
  have outside : number.exponentText.takeWhile inMantissa = [] ∧
      number.exponentText.dropWhile inMantissa = number.exponentText := by
    unfold DecimalNumber.exponentText
    cases number.exponent with
    | none => exact ⟨rfl,rfl⟩
    | some parts =>
      obtain ⟨marker,numeral⟩ := parts
      cases marker <;> exact ⟨rfl,rfl⟩
  rw [List.takeWhile_append_of_pos inside,List.dropWhile_append_of_pos inside,outside.1,outside.2,List.append_nil]
  exact ⟨rfl,rfl⟩

theorem dot_splits :
    beforeDot (number.whole.digits ++ number.fractionText) = number.whole.digits ∧
      afterDot (number.whole.digits ++ number.fractionText) = number.fractionDigits := by
  have noDot : ∀ char ∈ number.whole.digits, decide (char ≠ dot) = true := by
    intro char member
    exact decide_eq_true (digit_inMantissa (number.whole.decimal char member)).2
  unfold beforeDot afterDot DecimalNumber.fractionText DecimalNumber.fractionDigits
  rw [List.takeWhile_append_of_pos noDot,List.dropWhile_append_of_pos noDot]
  cases number.fraction <;> simp

theorem parseExponent_number (literal : Bytes) (exponent : Int) :
    parseExponent literal (number.whole.digits ++ number.fractionText ++ number.exponentText) = .ok exponent ↔
      (-1000 ≤ number.exponentValue ∧ number.exponentValue ≤ 1000) ∧ exponent = number.exponentValue := by
  unfold parseExponent
  rw [(mantissa_marked number).2]
  unfold DecimalNumber.exponentText DecimalNumber.exponentValue
  cases number.exponent with
  | none => simp [eq_comm]
  | some parts =>
    obtain ⟨marker,numeral⟩ := parts
    simp only [Option.elim_some]
    have read := atoi_numeral numeral
    have low : (-1000 : Int64).toInt = -1000 := by decide
    have high : (1000 : Int64).toInt = 1000 := by decide
    cases converted : atoi numeral.text with
    | error err =>
      simp only [reduceCtorEq,false_iff,not_and]
      intro small
      have ok := (read _).mpr ⟨by unfold FitsInt64; omega,rfl⟩
      rw [converted] at ok
      contradiction
    | ok parsed =>
      obtain ⟨fits,rfl⟩ := (read parsed).mp converted
      simp only [gt_iff_lt,Int64.lt_iff_toInt_lt,ofInt64_value _ fits,low,high]
      split
      · simp only [reduceCtorEq,false_iff,not_and]
        omega
      · rw [Except.ok.injEq,and_iff_right (by omega),eq_comm]

theorem decimalValue_number : decimalValue number.text = number.value := by
  unfold decimalValue DecimalNumber.value
  rw [splitSign_number]
  dsimp only
  rw [(mantissa_marked number).1,(mantissa_marked number).2,(dot_splits number).1,(dot_splits number).2]
  have exponent : signedValue (number.exponentText.drop 1) = number.exponentValue := by
    unfold DecimalNumber.exponentText DecimalNumber.exponentValue
    cases number.exponent with
    | none => rfl
    | some parts => exact signedValue_text parts.2
  rw [exponent]
  unfold signum
  by_cases minus : number.whole.sign = some .minus <;> simp [minus]

end parts

/-- A decimal number is accepted exactly when its amount can be represented. -/
theorem parseAmount_number (number : DecimalNumber) :
    (∃ amount, parseAmount number.text = .ok amount) ↔ number.Representable := by
  have digits : ∀ char ∈ number.whole.digits ++ number.fractionDigits, IsDigit char := by
    intro char member
    rcases List.mem_append.mp member with before | after
    · exact number.whole.decimal char before
    · exact fraction_decimal number char after
  simp only [parseAmount_ok,splitSign_number,(mantissa_marked number).1,(dot_splits number).1,(dot_splits number).2,
    parseExponent_number,parseUint_ok]
  constructor
  · rintro ⟨amount,-,exponent,magnitude,scaled,⟨bounds,rfl⟩,⟨-,-,fits,rfl⟩,scales,small,-⟩
    refine ⟨bounds,fits,?_⟩
    rw [scaleMagnitude_ok,UInt64.toNat_ofNat_of_lt' fits] at scales
    rcases scales with ⟨nonnegative,-,exact⟩ | ⟨few,negative,divides,exact⟩
    · refine Or.inl ⟨nonnegative,?_⟩
      change _ = number.mantissa * 10^number.power.toNat at exact
      omega
    · refine Or.inr ⟨few,negative,divides,?_⟩
      change _ = number.mantissa / 10^(-number.power).toNat at exact
      omega
  · rintro ⟨bounds,fits,amount⟩
    obtain ⟨scaled,small,scales⟩ : ∃ scaled : UInt64, scaled.toNat < 2^63 ∧
        scaleMagnitude number.text (UInt64.ofNat number.mantissa) number.power = .ok scaled := by
      simp only [scaleMagnitude_ok,UInt64.toNat_ofNat_of_lt' fits]
      rcases amount with ⟨nonnegative,small⟩ | ⟨few,negative,divides,small⟩
      · have room : number.mantissa * 10^number.power.toNat < UInt64.size := by
          unfold UInt64.size
          omega
        refine ⟨UInt64.ofNat (number.mantissa * 10^number.power.toNat),?_,Or.inl ⟨nonnegative,by omega,?_⟩⟩
        · rw [UInt64.toNat_ofNat_of_lt' room]
          omega
        · exact UInt64.toNat_ofNat_of_lt' room
      · have room : number.mantissa / 10^(-number.power).toNat < UInt64.size := by
          unfold UInt64.size
          omega
        refine ⟨UInt64.ofNat (number.mantissa / 10^(-number.power).toNat),?_,Or.inr ⟨few,negative,divides,?_⟩⟩
        · rw [UInt64.toNat_ofNat_of_lt' room]
          omega
        · exact UInt64.toNat_ofNat_of_lt' room
    have filled : number.whole.digits ++ number.fractionDigits ≠ [] := by
      simp [number.whole.nonempty]
    exact ⟨_,number.whole.nonempty,_,_,scaled,⟨bounds,rfl⟩,⟨filled,digits,fits,rfl⟩,scales,small,rfl⟩

theorem dropWhile_stops {p : UInt8 → Bool} {s rest : Bytes} {char : UInt8} (stopped : s.dropWhile p = char::rest) :
    p char = false := by
  have head := List.head_dropWhile_not p (by simp [stopped] : s.dropWhile p ≠ [])
  simpa [stopped] using head

theorem mantissa_reads (mantissa : Bytes) (digits : ∀ char ∈ afterDot mantissa, IsDigit char) :
    ∃ fraction : Option Fraction, mantissa = beforeDot mantissa ++ fraction.elim [] fun digits => dot::digits.val := by
  have split := List.takeWhile_append_dropWhile (p := fun char => decide (char ≠ dot)) (l := mantissa)
  unfold afterDot at digits
  unfold beforeDot
  -- The fraction is absent where the mantissa has no point.
  cases pointed : mantissa.dropWhile fun char => decide (char ≠ dot) with
  | nil =>
    rw [pointed] at split
    exact ⟨none,split.symm⟩
  | cons char after =>
    have stop : char = dot := by simpa using dropWhile_stops pointed
    rw [pointed] at digits split
    rw [stop] at split
    exact ⟨some ⟨after,digits⟩,split.symm⟩

theorem parseExponent_reads {literal rest : Bytes} {exponent : Int} (ok : parseExponent literal rest = .ok exponent) :
    ∃ part : Option (ExponentMarker × Numeral),
      rest.dropWhile inMantissa = part.elim [] fun parts => parts.1.char::parts.2.text := by
  unfold parseExponent at ok
  cases marked : rest.dropWhile inMantissa with
  | nil => exact ⟨none,rfl⟩
  | cons char text =>
    rw [marked] at ok
    have stop := dropWhile_stops marked
    obtain ⟨marker,rfl⟩ : ∃ marker : ExponentMarker, marker.char = char := by
      by_cases lower : char = 101
      · exact ⟨.lower,lower.symm⟩
      · have upper : char = 69 := by simpa [inMantissa,lower] using stop
        exact ⟨.upper,upper.symm⟩
    cases converted : atoi text with
    | error err => simp [converted] at ok
    | ok parsed =>
      obtain ⟨numeral,rfl⟩ := atoi_reads converted
      exact ⟨some (marker,numeral),rfl⟩

/-- What is accepted is a decimal number. -/
theorem parseAmount_reads {literal : Bytes} {amount : Int64} (ok : parseAmount literal = .ok amount) :
    ∃ number : DecimalNumber, number.text = literal := by
  obtain ⟨nonempty,exponent,magnitude,scaled,exponentOk,magnitudeOk,-,-,-⟩ := (parseAmount_ok literal amount).mp ok
  obtain ⟨sign,signed,-⟩ := splitSign_parts literal
  have digits := ((parseUint_ok _ _).mp magnitudeOk).2.1
  generalize (splitSign literal).2 = rest at nonempty exponentOk digits signed
  obtain ⟨fraction,mantissa⟩ := mantissa_reads (rest.takeWhile inMantissa)
    fun char member => digits char (List.mem_append_right _ member)
  obtain ⟨exponentPart,tail⟩ := parseExponent_reads exponentOk
  let whole : Numeral := ⟨sign,beforeDot (rest.takeWhile inMantissa),nonempty,
    fun char member => digits char (List.mem_append_left _ member)⟩
  refine ⟨⟨whole,fraction,exponentPart⟩,?_⟩
  calc whole.text ++ fraction.elim [] (fun digits => dot::digits.val) ++
        exponentPart.elim [] (fun parts => parts.1.char::parts.2.text)
      = signText sign ++ (rest.takeWhile inMantissa ++ rest.dropWhile inMantissa) := by
        rw [mantissa,tail]
        simp only [Numeral.text,whole,← mantissa,List.append_assoc]
    _ = literal := by rw [List.takeWhile_append_dropWhile,← signed]

theorem scaled_value (number : DecimalNumber) :
    number.value * amountScale.toInt = signum number.whole.sign * number.mantissa * 10^number.power := by
  unfold DecimalNumber.value DecimalNumber.mantissa DecimalNumber.power
  have ten : (10 : ℚ) ≠ 0 := by norm_num
  rw [value_append,amountScale_value,zpow_add₀ ten,zpow_sub₀ ten,zpow_natCast]
  push_cast
  field_simp

/-- `ParseAmount` accepts exactly the decimal numbers whose amount can be represented, and
the result is their value in units of the smallest amount. -/
theorem parseAmount_language (literal : Bytes) :
    ((∃ amount, parseAmount literal = .ok amount) ↔
      ∃ number : DecimalNumber, number.text = literal ∧ number.Representable) ∧
    ∀ (amount : Int64) (number : DecimalNumber), parseAmount literal = .ok amount → number.text = literal →
      (amount.toInt : ℚ) = signum number.whole.sign * number.mantissa * 10^number.power ∧
      (amount.toInt : ℚ) = number.value * amountScale.toInt := by
  refine ⟨⟨?_,?_⟩,?_⟩
  · rintro ⟨amount,ok⟩
    obtain ⟨number,rfl⟩ := parseAmount_reads ok
    exact ⟨number,rfl,(parseAmount_number number).mp ⟨amount,ok⟩⟩
  · rintro ⟨number,rfl,representable⟩
    exact (parseAmount_number number).mpr representable
  · intro amount number ok same
    subst same
    have exact := parseAmount_value _ _ ok
    rw [decimalValue_number] at exact
    exact ⟨exact.trans (scaled_value number),exact⟩

theorem sample_decimal : (∀ char ∈ ([49] : Bytes), IsDigit char) ∧ (∀ char ∈ ([53] : Bytes), IsDigit char) ∧
    ∀ char ∈ ([51] : Bytes), IsDigit char := by
  refine ⟨?_,?_,?_⟩ <;> rw [List.forall_mem_singleton] <;> decide

def sampleNumber : DecimalNumber where
  whole := ⟨some .minus,[49],List.cons_ne_nil _ _,sample_decimal.1⟩
  fraction := some ⟨[53],sample_decimal.2.1⟩
  exponent := some (.upper,⟨some .plus,[51],List.cons_ne_nil _ _,sample_decimal.2.2⟩)

theorem parseAmount_scientific :
    ∃ amount, parseAmount (text "-1.5E+3") = .ok amount ∧ (amount.toInt : ℚ) = -1500 * amountScale.toInt := by
  have spelled : sampleNumber.text = text "-1.5E+3" := by decide
  have representable : sampleNumber.Representable := ⟨by decide,by decide,Or.inl (by decide)⟩
  obtain ⟨accepts,exact⟩ := parseAmount_language (text "-1.5E+3")
  obtain ⟨amount,ok⟩ := accepts.mpr ⟨sampleNumber,spelled,representable⟩
  refine ⟨amount,ok,?_⟩
  rw [(exact amount sampleNumber ok spelled).2]
  have worth : sampleNumber.value = -1500 := by
    have exponent : sampleNumber.exponentValue = 3 := by decide
    have whole : Digits.value sampleNumber.whole.digits = 1 := by decide
    have fraction : Digits.value sampleNumber.fractionDigits = 5 := by decide
    have places : sampleNumber.fractionDigits.length = 1 := by decide
    have sign : signum sampleNumber.whole.sign = -1 := by decide
    unfold DecimalNumber.value
    rw [exponent,whole,fraction,places,sign]
    norm_num
  rw [worth]

end ControlPlane.Ledger
