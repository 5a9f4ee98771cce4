import ControlPlane.Data.Digits
import ControlPlane.Go.Values

/-! Decimal conversions of package `strconv`. `Atoi`'s fast path for short strings gives
what `ParseInt` gives, so there is one definition for both. -/
namespace Go
open Digits

def errSyntax : Error := .new "invalid syntax"

def errRange : Error := .new "value out of range"

/-- `*strconv.NumError`. -/
def numError (function : String) (s : Bytes) (err : Error) : Error :=
  .wrap ("strconv." ++ function ++ ": parsing %q: %w") [.bytes s] err

/-- The loop of `ParseUint(s, 10, 64)` over the characters. -/
def uintLoop : Nat → Bytes → Except Error Nat
  | number,[] => .ok number
  | number,char::rest =>
    if ¬IsDigit char then .error errSyntax
    else if 2^64 ≤ 10 * number + digitValue char then .error errRange
    else uintLoop (10 * number + digitValue char) rest

def parseUint (s : Bytes) : Except Error UInt64 :=
  if s = [] then .error (numError "ParseUint" s errSyntax)
  else match uintLoop 0 s with
    | .ok number => .ok (UInt64.ofNat number)
    | .error err => .error (numError "ParseUint" s err)

/-- Whether a leading sign is a minus, and what follows it. -/
def splitSign : Bytes → Bool × Bytes
  | 45::rest => (true,rest)
  | 43::rest => (false,rest)
  | s => (false,s)

def atoi (s : Bytes) : Except Error Int64 :=
  let (negative,digits) := splitSign s
  if digits = [] then .error (numError "Atoi" s errSyntax)
  else match uintLoop 0 digits with
    | .error err => .error (numError "Atoi" s err)
    | .ok number =>
      if negative then
        if number ≤ 2^63 then .ok (Int64.ofInt (-number)) else .error (numError "Atoi" s errRange)
      else if number < 2^63 then .ok (Int64.ofInt number) else .error (numError "Atoi" s errRange)

def formatUint (number : UInt64) : Bytes := render number.toNat

theorem uintLoop_ok (s : Bytes) (number result : Nat) (start : number < 2^64) :
    uintLoop number s = .ok result ↔
      (∀ char ∈ s, IsDigit char) ∧ result = number * 10^s.length + value s ∧ result < 2^64 := by
  induction s generalizing number with
  | nil =>
    simp only [uintLoop,Except.ok.injEq,List.not_mem_nil,false_implies,implies_true,true_and,List.length_nil,pow_zero,
      Nat.mul_one,value_nil,Nat.add_zero]
    constructor
    · rintro rfl
      exact ⟨rfl,start⟩
    · rintro ⟨rfl,_⟩
      rfl
  | cons char rest ih =>
    have shift : number * 10^(char::rest).length + value (char::rest) =
        (10 * number + digitValue char) * 10^rest.length + value rest := by
      rw [show char::rest = [char] ++ rest from rfl,value_append,List.length_append,pow_add]
      simp only [value,List.foldl_cons,List.foldl_nil,List.length_singleton]
      ring
    rw [shift,List.forall_mem_cons,uintLoop]
    by_cases digit : IsDigit char
    · rw [if_neg (not_not_intro digit)]
      by_cases large : 2^64 ≤ 10 * number + digitValue char
      · rw [if_pos large]
        constructor
        · intro failed
          contradiction
        · rintro ⟨-,rfl,small⟩
          have power : 0 < 10^rest.length := Nat.pow_pos (by omega)
          have grows := Nat.le_mul_of_pos_right (10 * number + digitValue char) power
          omega
      · rw [if_neg large,ih _ (by omega)]
        simp only [digit,true_and]
    · simp [digit]

theorem parseUint_ok (s : Bytes) (result : UInt64) :
    parseUint s = .ok result ↔ s ≠ [] ∧ (∀ char ∈ s, IsDigit char) ∧ value s < 2^64 ∧ result = UInt64.ofNat
      (value s) := by
  unfold parseUint
  by_cases empty : s = []
  · simp [empty]
  · rw [if_neg empty]
    cases loop : uintLoop 0 s with
    | ok number =>
      obtain ⟨digits,rfl,small⟩ := (uintLoop_ok s 0 number (by omega)).mp loop
      simp only [Nat.zero_mul,Nat.zero_add] at small ⊢
      simp only [Except.ok.injEq,empty,small,ne_eq,not_false_eq_true,true_and,eq_comm,iff_and_self]
      exact fun _ => digits
    | error err =>
      constructor
      · intro failed
        contradiction
      · rintro ⟨-,digits,small,-⟩
        have ok := (uintLoop_ok s 0 (value s) (by omega)).mpr ⟨digits,by simp,small⟩
        rw [ok] at loop
        contradiction

theorem splitSign_digit (char : UInt8) (rest : Bytes) (digit : IsDigit char) :
    splitSign (char::rest) = (false,char::rest) := by
  unfold splitSign
  split
  · rename_i same
    obtain ⟨rfl,-⟩ := List.cons.inj same
    exact absurd digit (by decide)
  · rename_i same
    obtain ⟨rfl,-⟩ := List.cons.inj same
    exact absurd digit (by decide)
  · rfl

/-- The integer that a string with an optional sign stands for. -/
def signedValue (s : Bytes) : Int := if (splitSign s).1 then -(value (splitSign s).2 : Int) else value (splitSign s).2

theorem signedValue_fits (s : Bytes) (fits : FitsInt64 (signedValue s)) : value (splitSign s).2 ≤ 2^63 := by
  unfold signedValue FitsInt64 at fits
  split at fits <;> omega

theorem atoi_ok (s : Bytes) (result : Int64) :
    atoi s = .ok result ↔ (splitSign s).2 ≠ [] ∧ (∀ char ∈ (splitSign s).2, IsDigit char) ∧
      FitsInt64 (signedValue s) ∧ result = Int64.ofInt (signedValue s) := by
  have bounded := signedValue_fits s
  unfold signedValue at bounded ⊢
  unfold atoi
  generalize splitSign s = parts at bounded ⊢
  obtain ⟨negative,digits⟩ := parts
  dsimp only at bounded ⊢
  by_cases empty : digits = []
  · simp [empty]
  · rw [if_neg empty]
    cases loop : uintLoop 0 digits with
    | error err =>
      constructor
      · intro failed
        contradiction
      · rintro ⟨-,all,fits,-⟩
        have small := bounded fits
        have ok := (uintLoop_ok digits 0 (value digits) (by omega)).mpr ⟨all,by simp,by omega⟩
        rw [ok] at loop
        contradiction
    | ok number =>
      obtain ⟨all,total,-⟩ := (uintLoop_ok digits 0 number (by omega)).mp loop
      rw [Nat.zero_mul,Nat.zero_add] at total
      subst total
      simp only [ne_eq,empty,not_false_eq_true,true_and,and_iff_right all]
      cases negative with
      | true =>
        simp only [if_true,FitsInt64]
        by_cases small : value digits ≤ 2^63
        · rw [if_pos small,and_iff_right (by omega),Except.ok.injEq,eq_comm]
        · rw [if_neg small]
          simp only [reduceCtorEq,false_iff,not_and]
          omega
      | false =>
        simp only [Bool.false_eq_true,if_false,FitsInt64]
        by_cases small : value digits < 2^63
        · rw [if_pos small,and_iff_right (by omega),Except.ok.injEq,eq_comm]
        · rw [if_neg small]
          simp only [reduceCtorEq,false_iff,not_and]
          omega

theorem atoi_value (s : Bytes) (result : Int64) (ok : atoi s = .ok result) : result.toInt = signedValue s := by
  obtain ⟨-,-,fits,rfl⟩ := (atoi_ok s result).mp ok
  exact ofInt64_value _ fits

/-- Plain digits have no sign. -/
theorem splitSign_digits {s : Bytes} (digits : ∀ char ∈ s, IsDigit char) : splitSign s = (false,s) := by
  cases s with
  | nil => rfl
  | cons char rest => exact splitSign_digit char rest (digits char List.mem_cons_self)

theorem signedValue_digits {s : Bytes} (digits : ∀ char ∈ s, IsDigit char) : signedValue s = value s := by
  unfold signedValue
  rw [splitSign_digits digits]
  rfl

end Go
