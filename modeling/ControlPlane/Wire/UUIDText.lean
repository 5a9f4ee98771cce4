import ControlPlane.Data.Digits
import ControlPlane.Wire.Libraries

/-! The texts of UUIDs, as package `uuid` writes and reads them. -/
namespace ControlPlane.Wire
open Go Ledger Digits

def hexByte (byte : UInt8) : Bytes := [hexDigit (byte.toNat / 16),hexDigit (byte.toNat % 16)]

/-- `UUID.String`. -/
def uuidString (id : UUID) : Bytes :=
  let bytes := id.toList
  (bytes.take 4).flatMap hexByte ++ 45::((bytes.drop 4).take 2).flatMap hexByte ++
    45::((bytes.drop 6).take 2).flatMap hexByte ++ 45::((bytes.drop 8).take 2).flatMap hexByte ++
    45::(bytes.drop 10).flatMap hexByte

def xtob (high low : UInt8) : Option UInt8 := do
  return UInt8.ofNat (16 * (← hexValue high) + (← hexValue low))

def byteAt (s : Bytes) (offset : Nat) : Option UInt8 := do xtob (← s[offset]?) (← s[offset+1]?)

def invalidUUID : Error := .new "invalid UUID format"

def bytesAt (s : Bytes) (offsets : List Nat) : Except Error UUID :=
  match offsets.mapM (byteAt s) with
  | none => .error invalidUUID
  | some bytes => if size : bytes.length = 16 then .ok ⟨bytes.toArray,size⟩ else .error invalidUUID

def parseDashed (s : Bytes) : Except Error UUID :=
  if s[8]? = some 45 ∧ s[13]? = some 45 ∧ s[18]? = some 45 ∧ s[23]? = some 45 then
    bytesAt s [0,2,4,6,9,11,14,16,19,21,24,26,28,30,32,34]
  else .error invalidUUID

def lowered (char : UInt8) : UInt8 := if 65 ≤ char ∧ char ≤ 90 then char+32 else char

/-- `uuid.Parse`. -/
def parseUUID (s : Bytes) : Except Error UUID :=
  if s.length = 36 then parseDashed s
  else if s.length = 45 then
    if (s.take 9).map lowered = text "urn:uuid:" then parseDashed (s.drop 9)
    else .error (.errorf "invalid urn prefix: %q" [.bytes (s.take 9)])
  else if s.length = 38 then parseDashed (s.drop 1)
  else if s.length = 32 then bytesAt s [0,2,4,6,8,10,12,14,16,18,20,22,24,26,28,30]
  else .error (.errorf "invalid UUID length: %d" [.int s.length])

@[simp] theorem xtob_hexByte (byte : UInt8) :
    xtob (hexDigit (byte.toNat / 16)) (hexDigit (byte.toNat % 16)) = some byte := by
  have small := byte.toNat_lt
  rw [xtob,hexValue_hexDigit _ (by omega),hexValue_hexDigit _ (by omega)]
  change some (UInt8.ofNat (16 * (byte.toNat / 16) + byte.toNat % 16)) = some byte
  rw [Nat.div_add_mod,UInt8.ofNat_toNat]

theorem parseUUID_uuidString (id : UUID) : parseUUID (uuidString id) = .ok id := by
  obtain ⟨⟨bytes⟩,size⟩ := id
  match bytes,size with
  | [b0,b1,b2,b3,b4,b5,b6,b7,b8,b9,b10,b11,b12,b13,b14,b15],size =>
    simp [uuidString,parseUUID,parseDashed,bytesAt,byteAt,hexByte]

theorem hexDigit_ascii : ∀ number < 16, (hexDigit number).toNat < 128 := by
  decide

theorem hexBytes_ascii (bytes : Bytes) : IsASCII (bytes.flatMap hexByte) := by
  induction bytes with
  | nil => simp
  | cons byte bytes ih =>
    have small := byte.toNat_lt
    simp [hexByte,ih,hexDigit_ascii _ (show byte.toNat / 16 < 16 by omega),
      hexDigit_ascii _ (Nat.mod_lt byte.toNat (show 0 < 16 by omega))]

theorem uuidString_ascii (id : UUID) : IsASCII (uuidString id) := by
  simp [uuidString,hexBytes_ascii]

end ControlPlane.Wire
