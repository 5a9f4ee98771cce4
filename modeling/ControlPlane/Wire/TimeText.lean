import ControlPlane.Data.Calendar
import ControlPlane.Data.Digits
import ControlPlane.Wire.Libraries
import Mathlib.Data.List.DropRight
import Mathlib.Data.List.TakeWhile

/-! RFC 3339 texts of times: how package `time` writes them, and its parser for texts of
this form. A text of another form that the package's general parser lets through, such as
one with a single digit for the hour, is refused here. Zones are offsets in seconds. -/
namespace ControlPlane.Wire
open Go Ledger Digits Calendar

/-- The days from the first of January of the year 1 to the Unix epoch. -/
def epochDays : Int := 719162

def yearText (year : Int) : Bytes :=
  (if year < 0 then [45] else []) ++ if year.natAbs < 10000 then fixed year.natAbs 4 else render year.natAbs

/-- The fraction of a second without its trailing zeros. -/
def fractionDigits (nanos : Nat) : Bytes := (fixed nanos 9).rdropWhile (· = digit 0)

def fractionText (nanos : Nat) : Bytes := if fractionDigits nanos = [] then [] else 46::fractionDigits nanos

def zoneText (zone : Int) : Bytes :=
  if zone = 0 then [90]
  else
    let minutes := zone.tdiv 60
    (if minutes < 0 then 45 else 43)::(fixed (minutes.natAbs / 60) 2 ++ 58::fixed (minutes.natAbs % 60) 2)

/-- The seconds since the epoch that a clock in the zone of the time shows. -/
def localSeconds (time : Time) : Int := time.instant / 1000000000 + time.zone

/-- `t.Format(time.RFC3339Nano)`. -/
def formatRFC3339Nano (time : Time) : Bytes :=
  let seconds := localSeconds time
  let date := dateOf (seconds / 86400 + epochDays)
  let clock := (seconds % 86400).toNat
  yearText date.1 ++ 45::(fixed date.2.1 2 ++ 45::(fixed date.2.2 2 ++
    84::(fixed (clock / 3600) 2 ++ 58::(fixed (clock / 60 % 60) 2 ++ 58::(fixed (clock % 60) 2 ++
      (fractionText (time.instant % 1000000000).toNat ++ zoneText time.zone))))))

def parseRange (s : Bytes) (low high : Nat) : Option Nat :=
  if s.all (fun char => IsDigit char) && low ≤ value s && value s ≤ high then some (value s) else none

/-- Digits after a point, the first nine of them in nanoseconds. -/
def parseFraction : Bytes → Nat × Bytes
  | 46::rest =>
    let digits := rest.takeWhile (fun char => IsDigit char)
    if digits = [] then (0,46::rest)
    else (value (digits.take 9) * 10^(9 - (digits.take 9).length),rest.dropWhile (fun char => IsDigit char))
  | s => (0,s)

def parseZone : Bytes → Option Int
  | [utc] => if utc = 90 then some 0 else none
  | [sign,h1,h0,colon,m1,m0] => do
    let hours ← parseRange [h1,h0] 0 23
    let minutes ← parseRange [m1,m0] 0 59
    if colon = 58 ∧ sign = 43 then some ((hours * 60 + minutes) * 60)
    else if colon = 58 ∧ sign = 45 then some (-((hours * 60 + minutes) * 60))
    else none
  | _ => none

def parseFields (year month day hour minute second rest : Bytes) : Option Time := do
  let year ← parseRange year 0 9999
  let month ← parseRange month 1 12
  let day ← parseRange day 1 (daysIn (isLeap year) month)
  let hour ← parseRange hour 0 23
  let minute ← parseRange minute 0 59
  let second ← parseRange second 0 59
  let zone ← parseZone (parseFraction rest).2
  let seconds := (dayNumber year month day - epochDays) * 86400 + hour * 3600 + minute * 60 + second - zone
  return ⟨seconds * 1000000000 + (parseFraction rest).1,zone⟩

def parseRFC3339 (s : Bytes) : Except Error Time :=
  match s with
  | y3::y2::y1::y0::dash::o1::o0::dash'::d1::d0::t::h1::h0::colon::m1::m0::colon'::s1::s0::rest =>
    match parseFields [y3,y2,y1,y0] [o1,o0] [d1,d0] [h1,h0] [m1,m0] [s1,s0] rest with
    | some time =>
      if dash = 45 ∧ dash' = 45 ∧ t = 84 ∧ colon = 58 ∧ colon' = 58 then .ok time
      else .error (.errorf "parsing time %q" [.bytes s])
    | none => .error (.errorf "parsing time %q" [.bytes s])
  | _ => .error (.errorf "parsing time %q" [.bytes s])

theorem parseRange_some {s : Bytes} {low high number : Nat} (read : parseRange s low high = some number) :
    low ≤ number ∧ number ≤ high := by
  unfold parseRange at read
  split at read
  · rename_i passed
    simp only [Bool.and_eq_true,decide_eq_true_eq] at passed
    rw [← Option.some.inj read]
    exact ⟨passed.1.2,passed.2⟩
  · contradiction

theorem parseRange_fixed {number width low high : Nat} (fits : number < 10^width) (above : low ≤ number)
    (below : number ≤ high) : parseRange (fixed number width) low high = some number := by
  have digits : (fixed number width).all (fun char => IsDigit char) = true := by
    simpa using fixed_digits number width
  unfold parseRange
  rw [digits,value_fixed number width fits]
  simp [above,below]

theorem parseZone_fixed (sign : UInt8) (hours minutes : Nat) (day : hours ≤ 23) (hour : minutes ≤ 59) :
    parseZone (sign::(fixed hours 2 ++ 58::fixed minutes 2)) =
      if sign = 43 then some (((hours : Int) * 60 + minutes) * 60)
      else if sign = 45 then some (-(((hours : Int) * 60 + minutes) * 60))
      else none := by
  have first : parseRange (fixed hours 2) 0 23 = some hours := parseRange_fixed (by omega) (by omega) day
  have second : parseRange (fixed minutes 2) 0 59 = some minutes := parseRange_fixed (by omega) (by omega) hour
  change ((parseRange (fixed hours 2) 0 23).bind fun hours => (parseRange (fixed minutes 2) 0 59).bind fun minutes =>
    if (58 : UInt8) = 58 ∧ sign = 43 then some (((hours : Int) * 60 + minutes) * 60)
    else if (58 : UInt8) = 58 ∧ sign = 45 then some (-(((hours : Int) * 60 + minutes) * 60))
    else none) = _
  simp [first,second]

theorem parseZone_text (minutes : Int) (small : minutes.natAbs < 1440) :
    parseZone (zoneText (60 * minutes)) = some (60 * minutes) := by
  unfold zoneText
  split
  · rename_i zero
    rw [zero]
    rfl
  · have whole : (60 * minutes).tdiv 60 = minutes := Int.mul_tdiv_cancel_left _ (by omega)
    dsimp only
    rw [whole,parseZone_fixed _ _ _ (by omega) (by omega)]
    by_cases west : minutes < 0
    · rw [if_pos west,if_neg (by decide),if_pos rfl]
      congr 1
      omega
    · rw [if_neg west,if_pos rfl]
      congr 1
      omega

/-- The trailing zeros that were left out do not change the fraction. -/
theorem fraction_value (nanos : Nat) (small : nanos < 1000000000) :
    value (fractionDigits nanos) * 10^(9 - (fractionDigits nanos).length) = nanos := by
  have parts : fractionDigits nanos ++ (fixed nanos 9).rtakeWhile (· = digit 0) = fixed nanos 9 :=
    List.rdropWhile_append_rtakeWhile
  have zeros : (fixed nanos 9).rtakeWhile (· = digit 0) =
      List.replicate ((fixed nanos 9).rtakeWhile (· = digit 0)).length (digit 0) := by
    refine List.eq_replicate_of_mem ?_
    intro char member
    simpa using List.mem_rtakeWhile_imp member
  rw [zeros] at parts
  have size := congrArg List.length parts
  have same := congrArg value parts
  rw [value_append,value_zeros,value_fixed nanos 9 small,List.length_replicate,Nat.add_zero] at same
  rw [List.length_append,List.length_replicate,fixed_length] at size
  rw [show 9 - (fractionDigits nanos).length = ((fixed nanos 9).rtakeWhile (· = digit 0)).length by omega]
  exact same

theorem fractionDigits_digits (nanos : Nat) : ∀ char ∈ fractionDigits nanos, IsDigit char := by
  intro char member
  exact fixed_digits nanos 9 char ((List.rdropWhile_prefix _ _).subset member)

theorem fractionDigits_length (nanos : Nat) : (fractionDigits nanos).length ≤ 9 := by
  have fewer := (List.rdropWhile_prefix (· = digit 0) (fixed nanos 9)).length_le
  rwa [fixed_length] at fewer

/-- A zone begins with no digit and no point, so the fraction is read up to it. -/
theorem parseFraction_text (nanos : Nat) (small : nanos < 1000000000) (first : UInt8) (rest : Bytes)
    (stop : ¬IsDigit first) (point : first ≠ 46) :
    parseFraction (fractionText nanos ++ first::rest) = (nanos,first::rest) := by
  have digits := fractionDigits_digits nanos
  have value := fraction_value nanos small
  unfold fractionText
  by_cases whole : fractionDigits nanos = []
  · rw [whole] at value
    rw [if_pos whole,List.nil_append]
    unfold parseFraction
    split
    · rename_i same
      exact absurd (List.cons.inj same).1 point
    · rw [← value]
      simp
  · rw [if_neg whole,List.cons_append,parseFraction]
    rw [takeWhile_digits digits stop,dropWhile_digits digits stop,if_neg whole,List.take_of_length_le
      (fractionDigits_length nanos),value]

/-- The times that have a text: years of four digits, and zones of whole minutes below a day. -/
structure Shown (time : Time) : Prop where
  zone : ∃ minutes : Int, time.zone = 60 * minutes ∧ minutes.natAbs < 1440
  year : FourDigitYear (localSeconds time / 86400 + epochDays)

theorem zoneText_head (zone : Int) : ∃ first rest, zoneText zone = first::rest ∧ ¬IsDigit first ∧ first ≠ 46 := by
  unfold zoneText
  split
  · exact ⟨90,[],rfl,by decide,by decide⟩
  · dsimp only
    split
    · exact ⟨45,_,rfl,by decide,by decide⟩
    · exact ⟨43,_,rfl,by decide,by decide⟩

theorem parseFields_fixed {year month day hour minute second nanos : Nat} {zone : Int} (years : year ≤ 9999)
    (valid : ValidDate year month day) (hours : hour ≤ 23) (minutes : minute ≤ 59) (seconds : second ≤ 59)
    (small : nanos < 1000000000) (read : parseZone (zoneText zone) = some zone) :
    parseFields (fixed year 4) (fixed month 2) (fixed day 2) (fixed hour 2) (fixed minute 2) (fixed second 2)
        (fractionText nanos ++ zoneText zone) =
      some ⟨((dayNumber year month day - epochDays) * 86400 + hour * 3600 + minute * 60 + second - zone) *
        1000000000 + nanos,
        zone⟩ := by
  have short := daysIn_le (isLeap year) month (Nat.lt_succ_of_le valid.lastMonth)
  have fraction : parseFraction (fractionText nanos ++ zoneText zone) = (nanos,zoneText zone) := by
    obtain ⟨first,rest,shape,stop,point⟩ := zoneText_head zone
    rw [shape]
    exact parseFraction_text nanos small first rest stop point
  have lastDay := valid.lastDay
  have lastMonth := valid.lastMonth
  simp only [parseFields,fraction,read,parseRange_fixed (show year < 10^4 by omega) (Nat.zero_le _) years,
    parseRange_fixed (show month < 10^2 by omega) valid.firstMonth lastMonth,
    parseRange_fixed (show day < 10^2 by omega) valid.firstDay lastDay,
    parseRange_fixed (show hour < 10^2 by omega) (Nat.zero_le _) hours,
    parseRange_fixed (show minute < 10^2 by omega) (Nat.zero_le _) minutes,
    parseRange_fixed (show second < 10^2 by omega) (Nat.zero_le _) seconds,Option.bind_eq_bind,Option.bind_some]
  rfl

theorem parseRFC3339_fields {year month day hour minute second : Nat} {rest : Bytes} {time : Time}
    (read : parseFields (fixed year 4) (fixed month 2) (fixed day 2) (fixed hour 2) (fixed minute 2)
      (fixed second 2) rest =
      some time) :
    parseRFC3339 (fixed year 4 ++ 45::(fixed month 2 ++ 45::(fixed day 2 ++ 84::(fixed hour 2 ++
      58::(fixed minute 2 ++ 58::(fixed second 2 ++ rest)))))) = .ok time := by
  simp only [fixed,List.nil_append,List.cons_append] at read ⊢
  simp only [parseRFC3339,read]
  simp

/-- What is written for a time is read as that time. -/
theorem parseRFC3339_format (time : Time) (shown : Shown time) : parseRFC3339 (formatRFC3339Nano time) = .ok time := by
  obtain ⟨⟨minutes,zone,small⟩,digits⟩ := shown
  obtain ⟨positive,years⟩ := fourDigits_year digits
  have valid := dateOf_valid (localSeconds time / 86400 + epochDays)
  have counted := dayNumber_dateOf (localSeconds time / 86400 + epochDays)
  unfold formatRFC3339Nano
  dsimp only
  generalize dateOf (localSeconds time / 86400 + epochDays) = date at positive years valid counted ⊢
  obtain ⟨year,month,day⟩ := date
  obtain ⟨year,rfl⟩ := Int.eq_ofNat_of_zero_le positive
  have plain : yearText year = fixed year 4 := by
    simp only [yearText,Int.natAbs_natCast]
    rw [if_neg (by omega),if_pos (by omega),List.nil_append]
  have read : parseZone (zoneText time.zone) = some time.zone := by
    rw [zone]
    exact parseZone_text minutes small
  rw [plain,parseRFC3339_fields (parseFields_fixed (by omega) valid (by omega) (by omega) (by omega) (by omega) read)]
  simp only at counted
  rw [counted]
  congr 1
  obtain ⟨instant,offset⟩ := time
  simp only [localSeconds,Time.mk.injEq,and_true]
  omega

example : formatRFC3339Nano ⟨1704164645120000000,-5400⟩ = text "2024-01-02T01:34:05.12-01:30" := by decide +kernel

theorem parseZone_some {s : Bytes} {zone : Int} (read : parseZone s = some zone) :
    ∃ minutes : Int, zone = 60 * minutes ∧ minutes.natAbs < 1440 := by
  unfold parseZone at read
  split at read
  · split at read
    · exact ⟨0,by simpa using read.symm,by decide⟩
    · contradiction
  · simp only [Option.bind_eq_bind,Option.bind_eq_some_iff] at read
    obtain ⟨hours,first,minutes,second,read⟩ := read
    have day := (parseRange_some first).2
    have hour := (parseRange_some second).2
    split at read
    · refine ⟨hours * 60 + minutes,?_,by omega⟩
      rw [← Option.some.inj read]
      omega
    · split at read
      · refine ⟨-(hours * 60 + minutes),?_,by omega⟩
        rw [← Option.some.inj read]
        omega
      · contradiction
  · contradiction

theorem nanos_small (digits : Bytes) (all : ∀ char ∈ digits, IsDigit char) (few : digits.length ≤ 9) :
    value digits * 10^(9 - digits.length) < 1000000000 := by
  have bound := Nat.mul_lt_mul_of_pos_right (value_lt digits all)
    (Nat.pow_pos (by omega : 0 < 10) : 0 < 10^(9 - digits.length))
  rwa [← pow_add,Nat.add_sub_cancel' few] at bound

theorem parseFraction_small (s : Bytes) : (parseFraction s).1 < 1000000000 := by
  unfold parseFraction
  split
  · dsimp only
    split
    · simp
    · refine nanos_small _ ?_ (List.length_take_le _ _)
      intro char member
      simpa using List.mem_takeWhile_imp (List.mem_of_mem_take member)
  · simp

theorem parseFields_shown {year month day hour minute second rest : Bytes} {time : Time}
    (read : parseFields year month day hour minute second rest = some time) : Shown time := by
  simp only [parseFields,Option.bind_eq_bind,Option.bind_eq_some_iff] at read
  obtain ⟨year,years,month,months,day,days,hour,hours,minute,minutes,second,seconds,zone,zones,read⟩ := read
  have fraction := parseFraction_small rest
  have years := parseRange_some years
  have months := parseRange_some months
  have days := parseRange_some days
  have hours := parseRange_some hours
  have minutes := parseRange_some minutes
  have seconds := parseRange_some seconds
  have digits := @dayNumber_fourDigits year month day ⟨months.1,months.2,days.1,days.2⟩ (by omega)
  rw [← Option.some.inj read]
  refine ⟨parseZone_some zones,?_⟩
  unfold FourDigitYear at digits ⊢
  simp only [localSeconds]
  omega

theorem parseRFC3339_shown {s : Bytes} {time : Time} (read : parseRFC3339 s = .ok time) : Shown time := by
  unfold parseRFC3339 at read
  split at read
  · split at read
    · rename_i fields
      split at read
      · rw [← Except.ok.inj read]
        exact parseFields_shown fields
      · contradiction
    · contradiction
  · contradiction

namespace Timestamp

def checkValid (timestamp : Timestamp) : Except Error Unit :=
  let shown : List Operand := [.int timestamp.seconds.toInt,.int timestamp.nanos.toInt]
  if timestamp.seconds < -62135596800 then .error (.errorf "timestamp (%v) before 0001-01-01" shown)
  else if timestamp.seconds > 253402300799 then .error (.errorf "timestamp (%v) after 9999-12-31" shown)
  else if timestamp.nanos < 0 ∨ timestamp.nanos ≥ 1000000000 then
    .error (.errorf "timestamp (%v) has out-of-range nanos" shown)
  else .ok ()

def asTime (timestamp : Timestamp) : Time := ⟨timestamp.seconds.toInt * 1000000000 + timestamp.nanos.toInt,0⟩

end Timestamp

theorem timestamp_shown (timestamp : Timestamp) (valid : timestamp.checkValid = .ok ()) : Shown timestamp.asTime := by
  unfold Timestamp.checkValid at valid
  dsimp only at valid
  split at valid
  · contradiction
  · split at valid
    · contradiction
    · split at valid
      · contradiction
      · rename_i early late nanos
        refine ⟨⟨0,rfl,by decide⟩,?_⟩
        unfold FourDigitYear
        simp only [localSeconds,Timestamp.asTime,epochDays]
        simp only [not_or,Int64.lt_iff_toInt_lt,gt_iff_lt,Int32.lt_iff_toInt_lt,ge_iff_le,
          Int32.le_iff_toInt_le] at early late nanos
        have first : (-62135596800 : Int64).toInt = -62135596800 := rfl
        have last : (253402300799 : Int64).toInt = 253402300799 := rfl
        have zero : (0 : Int32).toInt = 0 := rfl
        have billion : (1000000000 : Int32).toInt = 1000000000 := rfl
        omega

@[simp] theorem fixed_ascii (number width : Nat) : IsASCII (fixed number width) :=
  digits_ascii _ (fixed_digits number width)

@[simp] theorem yearText_ascii (year : Int) : IsASCII (yearText year) := by
  have long := digits_ascii _ (render_digits year.natAbs)
  unfold yearText
  split <;> split <;> simp [long]

@[simp] theorem fractionText_ascii (nanos : Nat) : IsASCII (fractionText nanos) := by
  have digits := digits_ascii _ (fractionDigits_digits nanos)
  unfold fractionText
  split <;> simp [digits]

@[simp] theorem zoneText_ascii (zone : Int) : IsASCII (zoneText zone) := by
  unfold zoneText
  split
  · simp
  · dsimp only
    split <;> simp

theorem formatRFC3339Nano_ascii (time : Time) : IsASCII (formatRFC3339Nano time) := by
  simp [formatRFC3339Nano]

end ControlPlane.Wire
