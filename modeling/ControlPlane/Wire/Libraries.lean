import ControlPlane.Data.Digits
import ControlPlane.Ledger.Types

/-! The libraries through which events are written and read: UUIDs, RFC 3339 times, JSON
objects and protobuf timestamps. They are given by their functions; what is relied on about
them is `RoundTrips`. -/
namespace ControlPlane.Wire
open Go Ledger

def IsASCII (s : Bytes) : Prop := ∀ char ∈ s, char.toNat < 128

instance (s : Bytes) : Decidable (IsASCII s) :=
  decidable_of_iff (s.all (fun char => char.toNat < 128) = true) (by simp [IsASCII])

@[simp] theorem ascii_nil : IsASCII [] := by simp [IsASCII]

@[simp] theorem ascii_cons (char : UInt8) (s : Bytes) : IsASCII (char::s) ↔ char.toNat < 128 ∧ IsASCII s := by
  simp [IsASCII]

@[simp] theorem ascii_append (s rest : Bytes) : IsASCII (s ++ rest) ↔ IsASCII s ∧ IsASCII rest := by
  simp [IsASCII,or_imp,forall_and]

theorem digits_ascii (s : Bytes) (all : ∀ char ∈ s, Digits.IsDigit char) : IsASCII s := by
  intro char member
  have digit := all char member
  unfold Digits.IsDigit at digit
  omega

inductive Json where
  | string (value : Bytes)
  | number (value : Int)
  deriving DecidableEq, Repr

abbrev Object := List (Bytes × Json)

/-- `timestamppb.Timestamp`. -/
structure Timestamp where
  seconds : Int64
  nanos : Int32
  deriving DecidableEq, Repr

structure Libraries where
  parseUUID : Bytes → Except Error UUID
  uuidString : UUID → Bytes
  parseRFC3339 : Bytes → Except Error Time
  parseRFC3339Nano : Bytes → Except Error Time
  formatRFC3339Nano : Time → Bytes
  checkValid : Timestamp → Except Error Unit
  asTime : Timestamp → Time
  marshal : Object → Except Error Bytes
  unmarshal : Bytes → Except Error Object

/-- The times that pass the checks of the two handlers. -/
def Libraries.Admits (libs : Libraries) (time : Time) : Prop :=
  (∃ literal, libs.parseRFC3339 literal = .ok time) ∨
    ∃ timestamp, libs.checkValid timestamp = .ok () ∧ libs.asTime timestamp = time

/-- The time is written as a text that is read back as the same instant. -/
def Libraries.Restores (libs : Libraries) (time : Time) : Prop :=
  IsASCII (libs.formatRFC3339Nano time) ∧
    ∃ read, libs.parseRFC3339Nano (libs.formatRFC3339Nano time) = .ok read ∧ read.instant = time.instant

/-- Strings of ASCII characters and 16-bit integers. -/
def PlainValue : Json → Prop
  | .string value => IsASCII value
  | .number value => -2^15 ≤ value ∧ value < 2^15

/-- Objects that a structure with such fields is written as. -/
structure PlainObject (object : Object) : Prop where
  distinct : (object.map Prod.fst).Nodup
  names : ∀ name ∈ object.map Prod.fst, IsASCII name
  values : ∀ field ∈ object, PlainValue field.2

/-- What is written for an event ID and for an object is read back. -/
structure Libraries.Rereads (libs : Libraries) : Prop where
  uuid : ∀ id, IsASCII (libs.uuidString id) ∧ libs.parseUUID (libs.uuidString id) = .ok id
  json : ∀ object : Object, PlainObject object →
    ∃ payload, libs.marshal object = .ok payload ∧ libs.unmarshal payload = .ok object

structure Libraries.RoundTrips (libs : Libraries) : Prop extends libs.Rereads where
  time : ∀ time, libs.Admits time → libs.Restores time

end ControlPlane.Wire
