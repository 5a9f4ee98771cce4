import ControlPlane.Wire.JsonText
import ControlPlane.Wire.TimeText
import ControlPlane.Wire.UUIDText

/-! Libraries that keep what is relied on. They are those that the services link, except that
`parseRFC3339` leaves out what `time.Parse` reads beyond RFC 3339: an hour of one digit, a comma
before the fraction, an offset of 24 hours or of 60 minutes. The services' own do not keep
`RoundTrips` for an offset of the last kind: `Format` writes `+24:60` as `+25:00`, which `Parse`
refuses. -/
namespace ControlPlane.Wire
open Go Ledger

def standard : Libraries where
  parseUUID := parseUUID
  uuidString := uuidString
  parseRFC3339 := parseRFC3339
  parseRFC3339Nano := parseRFC3339
  formatRFC3339Nano := formatRFC3339Nano
  checkValid := Timestamp.checkValid
  asTime := Timestamp.asTime
  marshal := fun object => .ok (objectText object)
  unmarshal := unmarshalText

theorem admitted_shown {time : Time} (admitted : standard.Admits time) : Shown time := by
  rcases admitted with ⟨literal,read⟩ | ⟨timestamp,valid,rfl⟩
  · exact parseRFC3339_shown read
  · exact timestamp_shown timestamp valid

theorem standard_roundTrips : standard.RoundTrips where
  uuid := fun id => ⟨uuidString_ascii id,parseUUID_uuidString id⟩
  time := fun time admitted =>
    ⟨formatRFC3339Nano_ascii time,time,parseRFC3339_format time (admitted_shown admitted),rfl⟩
  json := fun object plain => ⟨objectText object,rfl,unmarshalText_objectText object plain⟩

theorem standard_makesValid : standard.MakesValid :=
  fun object => ⟨objectText object,rfl,unmarshalText_text object⟩

end ControlPlane.Wire
