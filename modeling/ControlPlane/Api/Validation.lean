import ControlPlane.Go.Values

/-! The identifier checks that the REST and the gRPC handler share
(`internal/api/transaction_handler.go`). The source walks over the runes of a string; a
rune within ASCII is a byte of its own, and no byte of any other rune is, so a test that
only admits ASCII characters can look at the bytes. -/
namespace ControlPlane.Api
open Go

def between (low high : Char) (char : UInt8) : Bool := low.toUInt8 ≤ char && char ≤ high.toUInt8

def isLowerAlphanumeric (char : UInt8) : Bool := between 'a' 'z' char || between '0' '9' char

def isUpperAlphanumeric (char : UInt8) : Bool := between 'A' 'Z' char || between '0' '9' char

def isValidTenantID (tenantID : Bytes) : Bool :=
  !(tenantID.length == 0 || tenantID.length > 64) &&
    tenantID.all fun char => isLowerAlphanumeric char || char == '-'.toUInt8

def isValidInstrument (instrument : Bytes) : Bool :=
  !(instrument.length == 0 || instrument.length > 16) &&
    instrument.all fun char => isUpperAlphanumeric char || char == '.'.toUInt8

def isValidCurrencyCode (code : Bytes) : Bool :=
  code.length == 3 && code.all (between 'A' 'Z')

/-- Within ASCII and not a colon, so that it can stand in a partition key. -/
def KeyChar (char : UInt8) : Prop := char.toNat < 128 ∧ char.toNat ≠ 58

theorem between_value {low high : Char} {char : UInt8} (inside : between low high char = true) :
    low.toUInt8.toNat ≤ char.toNat ∧ char.toNat ≤ high.toUInt8.toNat := by
  simpa [between,UInt8.le_iff_toNat_le] using inside

theorem between_keyChar {low high : Char} {char : UInt8} (inside : between low high char = true)
    (ascii : high.toUInt8.toNat < 128) (apart : high.toUInt8.toNat < 58 ∨ 58 < low.toUInt8.toNat) : KeyChar char := by
  have bounds := between_value inside
  exact ⟨by omega,by omega⟩

/-- Letters, digits and a separator. -/
theorem alphanumeric_keyChar {low high : Char} {separator char : UInt8}
    (letters : high.toUInt8.toNat < 128 ∧ 58 < low.toUInt8.toNat) (apart : KeyChar separator)
    (allowed : (between low high char = true ∨ between '0' '9' char = true) ∨ char = separator) : KeyChar char := by
  rcases allowed with (letter | digit) | rfl
  · exact between_keyChar letter letters.1 (Or.inr letters.2)
  · exact between_keyChar digit (by decide) (by decide)
  · exact apart

theorem tenantID_keyChars {tenantID : Bytes} (valid : isValidTenantID tenantID = true) :
    ∀ char ∈ tenantID, KeyChar char := by
  intro char member
  simp only [isValidTenantID,Bool.and_eq_true,List.all_eq_true,Bool.or_eq_true,beq_iff_eq,isLowerAlphanumeric] at valid
  exact alphanumeric_keyChar ⟨by decide,by decide⟩ ⟨by decide,by decide⟩ (valid.2 char member)

theorem instrument_keyChars {instrument : Bytes} (valid : isValidInstrument instrument = true) :
    ∀ char ∈ instrument, KeyChar char := by
  intro char member
  simp only [isValidInstrument,Bool.and_eq_true,List.all_eq_true,Bool.or_eq_true,beq_iff_eq,
    isUpperAlphanumeric] at valid
  exact alphanumeric_keyChar ⟨by decide,by decide⟩ ⟨by decide,by decide⟩ (valid.2 char member)

theorem currencyCode_keyChars {code : Bytes} (valid : isValidCurrencyCode code = true) :
    ∀ char ∈ code, KeyChar char := by
  intro char member
  simp only [isValidCurrencyCode,Bool.and_eq_true,List.all_eq_true] at valid
  exact between_keyChar (valid.2 char member) (by decide) (by decide)

end ControlPlane.Api
