import Mathlib.Data.Nat.Digits.Lemmas
import Mathlib.Tactic.Ring

/-! Strings of ASCII decimal digits: the number they stand for, the shortest string for a
number and the string of a given length. Hexadecimal digits. -/
namespace Digits

def IsDigit (byte : UInt8) : Prop := 48 ≤ byte.toNat ∧ byte.toNat ≤ 57

instance (byte : UInt8) : Decidable (IsDigit byte) := inferInstanceAs (Decidable (_ ∧ _))

def digitValue (byte : UInt8) : Nat := byte.toNat - 48

def value (digits : List UInt8) : Nat := digits.foldl (fun prior byte => 10 * prior + digitValue byte) 0

def digit (number : Nat) : UInt8 := UInt8.ofNat (48 + number)

def render (number : Nat) : List UInt8 :=
  if number = 0 then [digit 0] else (Nat.digits 10 number).reverse.map digit

@[simp] theorem value_nil : value [] = 0 := rfl

theorem foldl_value (digits : List UInt8) (prior : Nat) :
    digits.foldl (fun prior byte => 10 * prior + digitValue byte) prior = prior * 10^digits.length + value digits := by
  induction digits generalizing prior with
  | nil => simp
  | cons byte rest ih =>
    have whole : value (byte::rest) = rest.foldl (fun prior byte => 10 * prior + digitValue byte)
      (digitValue byte) := by
      simp [value]
    rw [whole,List.foldl_cons,ih,ih,List.length_cons,pow_succ]
    ring

theorem value_append (left right : List UInt8) : value (left ++ right) = value left * 10^right.length +
    value right := by
  unfold value
  rw [List.foldl_append,foldl_value]
  rfl

theorem value_zeros (count : Nat) : value (List.replicate count (digit 0)) = 0 := by
  induction count with
  | zero => rfl
  | succ count ih =>
    rw [List.replicate_succ',value_append,ih]
    rfl

theorem value_lt (digits : List UInt8) (all : ∀ byte ∈ digits, IsDigit byte) : value digits < 10^digits.length := by
  induction digits with
  | nil => simp
  | cons byte rest ih =>
    have first : digitValue byte + 1 ≤ 10 := by
      have digit := all byte List.mem_cons_self
      unfold IsDigit at digit
      unfold digitValue
      omega
    have later := ih fun other member => all other (List.mem_cons_of_mem _ member)
    have shape : value (byte::rest) = digitValue byte * 10^rest.length + value rest := by
      rw [← List.singleton_append,value_append]
      simp [value]
    calc value (byte::rest) = digitValue byte * 10^rest.length + value rest := shape
      _ < (digitValue byte + 1) * 10^rest.length := by rw [Nat.add_mul,Nat.one_mul]; omega
      _ ≤ 10 * 10^rest.length := Nat.mul_le_mul_right _ first
      _ = 10^(byte::rest).length := by rw [List.length_cons,pow_succ,Nat.mul_comm]

theorem digit_toNat (number : Nat) (small : number < 10) : (digit number).toNat = 48 + number :=
  UInt8.toNat_ofNat_of_lt' (by unfold UInt8.size; omega)

theorem digit_isDigit (number : Nat) (small : number < 10) : IsDigit (digit number) := by
  unfold IsDigit
  rw [digit_toNat number small]
  omega

theorem digitValue_digit (number : Nat) (small : number < 10) : digitValue (digit number) = number := by
  unfold digitValue
  rw [digit_toNat number small]
  omega

theorem value_ofDigits (digits : List Nat) (small : ∀ number ∈ digits, number < 10) :
    value (digits.reverse.map digit) = Nat.ofDigits 10 digits := by
  induction digits with
  | nil => rfl
  | cons number rest ih =>
    rw [List.reverse_cons,List.map_append,value_append,Nat.ofDigits_cons,
      ih fun other member => small other (List.mem_cons_of_mem _ member)]
    change _ * 10^1 + (10 * 0 + digitValue (digit number)) = number + _
    rw [digitValue_digit number (small number List.mem_cons_self)]
    ring

/-- Reading the rendering of a number gives the number back. -/
theorem value_render (number : Nat) : value (render number) = number := by
  unfold render
  split
  · rename_i zero
    rw [zero]
    rfl
  · rw [value_ofDigits _ fun _ member => Nat.digits_lt_base (by omega) member,Nat.ofDigits_digits]

theorem render_digits (number : Nat) : ∀ byte ∈ render number, IsDigit byte := by
  unfold render
  split
  · simp [digit_isDigit]
  · intro byte member
    obtain ⟨place,listed,rfl⟩ := List.mem_map.mp member
    exact digit_isDigit place (Nat.digits_lt_base (by omega) (List.mem_reverse.mp listed))

theorem render_nonempty (number : Nat) : render number ≠ [] := by
  unfold render
  split
  · simp
  · rename_i nonzero
    simpa using Nat.digits_ne_nil_iff_ne_zero.mpr nonzero

/-- Only zero is rendered with a leading zero. -/
theorem render_leading (number : Nat) (zero : (render number).head? = some (digit 0)) : number = 0 := by
  by_contra nonzero
  rw [render,if_neg nonzero,List.head?_map,List.head?_reverse,
    List.getLast?_eq_some_getLast (Nat.digits_ne_nil_iff_ne_zero.mpr nonzero),Option.map_some,Option.some.injEq] at zero
  have first := Nat.getLast_digit_ne_zero 10 nonzero
  have small := Nat.digits_lt_base (by omega : 1 < 10) (List.getLast_mem (Nat.digits_ne_nil_iff_ne_zero.mpr nonzero))
  have place := congrArg digitValue zero
  rw [digitValue_digit _ small,digitValue_digit 0 (by omega)] at place
  exact first place

/-- The digits at the start of a text end at the first byte that is none. -/
theorem takeWhile_digits {digits rest : List UInt8} {first : UInt8} (all : ∀ byte ∈ digits, IsDigit byte)
    (stop : ¬IsDigit first) : (digits ++ first::rest).takeWhile (fun byte => IsDigit byte) = digits := by
  rw [List.takeWhile_append_of_pos (by simpa using all),List.takeWhile_cons_of_neg (by simpa using stop),
    List.append_nil]

theorem dropWhile_digits {digits rest : List UInt8} {first : UInt8} (all : ∀ byte ∈ digits, IsDigit byte)
    (stop : ¬IsDigit first) : (digits ++ first::rest).dropWhile (fun byte => IsDigit byte) = first::rest := by
  rw [List.dropWhile_append_of_pos (by simpa using all),List.dropWhile_cons_of_neg (by simpa using stop)]

/-- The last digits of a number, as many as asked for. -/
def fixed (number : Nat) : Nat → List UInt8
  | 0 => []
  | width+1 => fixed (number/10) width ++ [digit (number % 10)]

@[simp] theorem fixed_length (number width : Nat) : (fixed number width).length = width := by
  induction width generalizing number with
  | zero => rfl
  | succ width ih => simp [fixed,ih]

theorem fixed_digits (number width : Nat) : ∀ byte ∈ fixed number width, IsDigit byte := by
  induction width generalizing number with
  | zero => simp [fixed]
  | succ width ih =>
    intro byte member
    rcases List.mem_append.mp member with earlier | last
    · exact ih _ byte earlier
    · rw [List.mem_singleton.mp last]
      exact digit_isDigit _ (Nat.mod_lt _ (by omega))

theorem value_fixed (number width : Nat) (fits : number < 10^width) : value (fixed number width) = number := by
  induction width generalizing number with
  | zero =>
    have zero : number = 0 := by simpa using fits
    simp [fixed,zero]
  | succ width ih =>
    have last : value [digit (number % 10)] = number % 10 := by
      simp [value,digitValue_digit _ (Nat.mod_lt number (by omega : 0 < 10))]
    rw [fixed,value_append,last,ih _ (by rw [pow_succ] at fits; omega)]
    simp only [List.length_singleton,pow_one]
    omega

def hexDigit (number : Nat) : UInt8 := UInt8.ofNat (if number < 10 then 48 + number else 87 + number)

def hexValue (byte : UInt8) : Option Nat :=
  if 48 ≤ byte.toNat ∧ byte.toNat ≤ 57 then some (byte.toNat - 48)
  else if 97 ≤ byte.toNat ∧ byte.toNat ≤ 102 then some (byte.toNat - 87)
  else if 65 ≤ byte.toNat ∧ byte.toNat ≤ 70 then some (byte.toNat - 55)
  else none

theorem hexValue_hexDigit : ∀ number < 16, hexValue (hexDigit number) = some number := by
  decide

end Digits
