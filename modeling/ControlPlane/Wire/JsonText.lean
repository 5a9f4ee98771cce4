import ControlPlane.Data.Digits
import ControlPlane.Go.Runes
import ControlPlane.Wire.Libraries
import Mathlib.Data.List.TakeWhile

/-! JSON texts of objects of strings and integers, as `encoding/json` writes and reads them:
no blanks, strings rune by rune. A byte that is not valid UTF-8 is written as the escape of the
replacement character, so an object is read back with its strings made valid. -/
namespace ControlPlane.Wire
open Go Digits

/-- The letter of a two-character escape. -/
def shortEscape : UInt8 → Option UInt8
  | 34 => some 34
  | 92 => some 92
  | 8 => some 98
  | 9 => some 116
  | 10 => some 110
  | 12 => some 102
  | 13 => some 114
  | _ => none

def quoteChar (char : UInt8) : Bytes :=
  match shortEscape char with
  | some letter => [92,letter]
  | none =>
    if char < 32 ∨ char = 38 ∨ char = 60 ∨ char = 62 then
      [92,117,48,48,hexDigit (char.toNat / 16),hexDigit (char.toNat % 16)]
    else [char]

/-- ASCII characters, the two line separators of Unicode and invalid bytes are escaped; the other
characters are copied. -/
def quoteRune : Rune → Bytes
  | none => [92,117,102,102,102,100]
  | some char =>
    if char.toNat < 128 then quoteChar (UInt8.ofNat char.toNat)
    else if char.toNat = 0x2028 ∨ char.toNat = 0x2029 then [92,117,50,48,50,hexDigit (char.toNat % 16)]
    else String.utf8EncodeChar char

def quote (s : Bytes) : Bytes := 34::((runes s).flatMap quoteRune ++ [34])

def formatInt (number : Int) : Bytes := (if number < 0 then [45] else []) ++ render number.natAbs

def valueText : Json → Bytes
  | .string value => quote value
  | .number value => formatInt value

def memberText (field : Bytes × Json) : Bytes := quote field.1 ++ 58::valueText field.2

def membersText : Object → Bytes
  | [] => [125]
  | [field] => memberText field ++ [125]
  | field::fields => memberText field ++ 44::membersText fields

/-- `json.Marshal`. -/
def objectText (object : Object) : Bytes := 123::membersText object

def Json.toValid : Json → Json
  | .string value => .string (toValidUTF8 value)
  | .number value => .number value

/-- What is left of an object after it has been written. -/
def toValidObject (object : Object) : Object := object.map fun field => (toValidUTF8 field.1,field.2.toValid)

/-- What is relied on about `encoding/json` for any strings. -/
def Libraries.MakesValid (libs : Libraries) : Prop :=
  ∀ object, ∃ payload, libs.marshal object = .ok payload ∧ libs.unmarshal payload = .ok (toValidObject object)

def unescape : UInt8 → Option UInt8
  | 34 => some 34
  | 92 => some 92
  | 47 => some 47
  | 98 => some 8
  | 102 => some 12
  | 110 => some 10
  | 114 => some 13
  | 116 => some 9
  | _ => none

/-- The number of an escape with four hexadecimal digits. -/
def getu4 (h3 h2 h1 h0 : UInt8) : Option Nat := do
  return ((16 * (← hexValue h3) + (← hexValue h2)) * 16 + (← hexValue h1)) * 16 + (← hexValue h0)

/-- `utf16.DecodeRune`. -/
def decodeSurrogates (high low : Nat) : Rune :=
  if (0xD800 ≤ high ∧ high < 0xDC00) ∧ 0xDC00 ≤ low ∧ low < 0xE000 then
    some (Char.ofNat (0x10000 + (high - 0xD800) * 0x400 + (low - 0xDC00)))
  else none

/-- The rune of an escape with the number `code`, and what follows it. One half of a surrogate pair
takes the escape of the other half with it, or becomes the replacement character. -/
def readUnicode (code : Nat) (rest : Bytes) : Rune × Bytes :=
  if 0xD800 ≤ code ∧ code < 0xE000 then
    match rest with
    | 92::117::h3::h2::h1::h0::after =>
      match (getu4 h3 h2 h1 h0).bind (decodeSurrogates code) with
      | some char => (some char,after)
      | none => (none,rest)
    | _ => (none,rest)
  else (some (Char.ofNat code),rest)

/-- The rest of a string after its opening quote, and what follows the string. -/
def readString : Nat → Bytes → Option (Bytes × Bytes)
  | 0,_ => none
  | _+1,34::rest => some ([],rest)
  | fuel+1,92::117::h3::h2::h1::h0::rest => do
    let (rune,rest) := readUnicode (← getu4 h3 h2 h1 h0) rest
    let (s,after) ← readString fuel rest
    return (encodeRune rune ++ s,after)
  | fuel+1,92::letter::rest => do
    let char ← unescape letter
    let (s,after) ← readString fuel rest
    return (char::s,after)
  | fuel+1,char::rest =>
    if char < 32 ∨ char = 92 then none
    else do
      let (rune,rest) := decodeRune (char::rest)
      let (s,after) ← readString fuel rest
      return (encodeRune rune ++ s,after)
  | _+1,[] => none

def readDigits (s : Bytes) : Option (Nat × Bytes) :=
  let digits := s.takeWhile (fun char => IsDigit char)
  if digits = [] then none else some (value digits,s.dropWhile (fun char => IsDigit char))

def readNumber : Bytes → Option (Int × Bytes)
  | 45::rest => (readDigits rest).map fun read => (-read.1,read.2)
  | s => (readDigits s).map fun read => (read.1,read.2)

def readValue : Bytes → Option (Json × Bytes)
  | 34::rest => (readString rest.length rest).map fun read => (.string read.1,read.2)
  | s => (readNumber s).map fun read => (.number read.1,read.2)

def readMember : Bytes → Option ((Bytes × Json) × Bytes)
  | 34::rest => do
    match ← readString rest.length rest with
    | (name,58::after) =>
      let (value,after) ← readValue after
      return ((name,value),after)
    | _ => none
  | _ => none

def readMembers : Nat → Bytes → Option (Object × Bytes)
  | 0,_ => none
  | fuel+1,s => do
    match ← readMember s with
    | (field,125::after) => return ([field],after)
    | (field,44::after) =>
      let (fields,after) ← readMembers fuel after
      return (field::fields,after)
    | _ => none

def readObject : Bytes → Option Object
  | [123,125] => some []
  | 123::rest => do
    match ← readMembers rest.length rest with
    | (fields,[]) => return fields
    | _ => none
  | _ => none

/-- `json.Unmarshal`. -/
def unmarshalText (payload : Bytes) : Except Error Object :=
  match readObject payload with
  | some object => .ok object
  | none => .error (.new "invalid character in JSON text")

theorem unescape_shortEscape {char letter : UInt8} (escape : shortEscape char = some letter) :
    unescape letter = some char ∧ letter ≠ 117 := by
  unfold shortEscape at escape
  split at escape
  case h_8 => contradiction
  all_goals
    cases escape
    exact ⟨rfl,by decide⟩

theorem ascii_char {char : Char} (ascii : char.toNat < 128) : String.utf8EncodeChar char =
    [UInt8.ofNat char.toNat] := by
  refine String.utf8EncodeChar_eq_singleton ?_
  rw [Char.utf8Size_eq_one_iff,UInt32.le_iff_toNat_le]
  change char.toNat ≤ 127
  omega

theorem toNat_ofNat {code : Nat} (ascii : code < 128) : (Char.ofNat code).toNat = code := by
  have valid : code.isValidChar := Or.inl (by omega)
  unfold Char.ofNat
  rw [dif_pos valid]
  rfl

theorem ascii_byte {byte : UInt8} (ascii : byte.toNat < 128) :
    String.utf8EncodeChar (Char.ofNat byte.toNat) = [byte] := by
  have same := toNat_ofNat ascii
  rw [ascii_char (by omega),same,UInt8.ofNat_toNat]

theorem decodeRune_ascii {byte : UInt8} (ascii : byte.toNat < 128) (rest : Bytes) :
    decodeRune (byte::rest) = (some (Char.ofNat byte.toNat),rest) := by
  have decoded := decodeRune_char (Char.ofNat byte.toNat) rest
  rwa [ascii_byte ascii] at decoded

theorem getu4_hexDigit (byte : UInt8) : getu4 48 48 (hexDigit (byte.toNat / 16)) (hexDigit (byte.toNat % 16)) =
    some byte.toNat := by
  have bound := byte.toNat_lt
  have zero : hexValue 48 = some 0 := rfl
  have high := hexValue_hexDigit (byte.toNat / 16) (by omega)
  have low := hexValue_hexDigit (byte.toNat % 16) (by omega)
  have back : ((16 * 0 + 0) * 16 + byte.toNat / 16) * 16 + byte.toNat % 16 = byte.toNat := by omega
  simp only [getu4,zero,high,low,Option.bind_eq_bind,Option.bind_some,back,Option.pure_def]

theorem getu4_separator {code : Nat} (separator : code = 0x2028 ∨ code = 0x2029) :
    getu4 50 48 50 (hexDigit (code % 16)) = some code := by
  rcases separator with rfl | rfl
  · rfl
  · rfl

theorem shortEscape_beyond {byte : UInt8} (beyond : ¬byte.toNat < 128) : shortEscape byte = none := by
  unfold shortEscape
  split <;> first | rfl | exact absurd (by decide) beyond

theorem readUnicode_plain {code : Nat} (plain : ¬(0xD800 ≤ code ∧ code < 0xE000)) (rest : Bytes) :
    readUnicode code rest = (some (Char.ofNat code),rest) := by
  unfold readUnicode
  rw [if_neg plain]

section strings
variable (fuel : Nat) (rest : Bytes)

theorem readString_escape {h3 h2 h1 h0 : UInt8} {code : Nat} (number : getu4 h3 h2 h1 h0 = some code)
    (plain : ¬(0xD800 ≤ code ∧ code < 0xE000)) :
    readString (fuel+1) (92::117::h3::h2::h1::h0::rest) =
      (readString fuel rest).map fun read => (encodeRune (some (Char.ofNat code)) ++ read.1,read.2) := by
  simp only [readString,number,readUnicode_plain plain,Option.bind_eq_bind,Option.bind_some,Option.map_eq_bind]
  rfl

theorem readString_plain {char : UInt8} (short : shortEscape char = none) (visible : ¬char < 32) {rune : Rune}
    {after : Bytes} (decoded : decodeRune (char::rest) = (rune,after)) :
    readString (fuel+1) (char::rest) = (readString fuel after).map fun read => (encodeRune rune ++ read.1,read.2) := by
  have quote : char ≠ 34 := by
    rintro rfl
    contradiction
  have slash : char ≠ 92 := by
    rintro rfl
    contradiction
  rw [readString.eq_def]
  split <;> simp_all [Option.map_eq_bind]

theorem readString_quoteChar {byte : UInt8} (ascii : byte.toNat < 128) :
    readString (fuel+1) (quoteChar byte ++ rest) = (readString fuel rest).map fun read => (byte::read.1,read.2) := by
  unfold quoteChar
  split
  · rename_i letter escape
    obtain ⟨back,other⟩ := unescape_shortEscape escape
    simp [readString,back,other,Option.map_eq_bind]
  · rename_i short
    split
    · have read := readString_escape fuel rest (getu4_hexDigit byte) (by omega)
      rw [encodeRune,ascii_byte ascii] at read
      exact read
    · rename_i plain
      have read := readString_plain fuel rest short (fun control => plain (Or.inl control))
        (decodeRune_ascii ascii rest)
      rw [encodeRune,ascii_byte ascii] at read
      exact read

/-- The encoding of a character beyond ASCII does not begin with an ASCII character. -/
theorem encoded_head {char : Char} (beyond : ¬char.toNat < 128) :
    ∃ head tail, String.utf8EncodeChar char = head::tail ∧ ¬head.toNat < 128 := by
  have some : String.utf8EncodeChar char ≠ [] := by
    have nonempty := encoded_nonempty char []
    rwa [List.append_nil] at nonempty
  obtain ⟨head,tail,shape⟩ := List.exists_cons_of_ne_nil some
  refine ⟨head,tail,shape,?_⟩
  intro ascii
  have decoded := decodeRune_char char []
  rw [List.append_nil,shape,decodeRune_ascii ascii,Prod.mk.injEq,Option.some.injEq] at decoded
  have same := toNat_ofNat ascii
  rw [decoded.1] at same
  omega

theorem readString_quoteRune (rune : Rune) :
    readString (fuel+1) (quoteRune rune ++ rest) = (readString fuel rest).map fun read =>
      (encodeRune rune ++ read.1,read.2) := by
  cases rune with
  | none => exact readString_escape fuel rest (rfl : getu4 102 102 102 100 = some 0xFFFD) (by decide)
  | some char =>
    unfold quoteRune
    dsimp only
    split
    · rename_i ascii
      have byte : (UInt8.ofNat char.toNat).toNat = char.toNat := UInt8.toNat_ofNat_of_lt' (by change _ < 256; omega)
      rw [readString_quoteChar fuel rest (byte.symm ▸ ascii),encodeRune,ascii_char ascii]
      rfl
    · rename_i beyond
      split
      · rename_i separator
        have read := readString_escape fuel rest (getu4_separator separator) (by omega)
        rw [Char.ofNat_toNat] at read
        exact read
      · obtain ⟨head,tail,shape,large⟩ := encoded_head beyond
        have decoded := decodeRune_char char rest
        rw [shape,List.cons_append] at decoded ⊢
        have visible : ¬head < 32 := by
          rw [UInt8.lt_iff_toNat_lt]
          change ¬head.toNat < 32
          omega
        exact readString_plain fuel _ (shortEscape_beyond large) visible decoded

theorem readString_quoted (read : List Rune) (enough : read.length < fuel) :
    readString fuel (read.flatMap quoteRune ++ 34::rest) = some (read.flatMap encodeRune,rest) := by
  induction read generalizing fuel with
  | nil =>
    obtain ⟨fuel,rfl⟩ := Nat.exists_eq_add_one_of_ne_zero (Nat.ne_of_gt enough)
    rfl
  | cons rune read ih =>
    obtain ⟨fuel,rfl⟩ := Nat.exists_eq_add_one_of_ne_zero (Nat.ne_of_gt (Nat.zero_lt_of_lt enough))
    rw [List.flatMap_cons,List.append_assoc,readString_quoteRune,ih fuel (by simpa using enough)]
    rfl

theorem quoteRune_nonempty (rune : Rune) : 0 < (quoteRune rune).length := by
  cases rune with
  | none => decide
  | some char =>
    unfold quoteRune quoteChar
    dsimp only
    split
    · split
      · simp
      · split <;> simp
    · split
      · simp
      · rw [String.length_utf8EncodeChar]
        exact char.utf8Size_pos

theorem quoted_length (read : List Rune) : read.length ≤ (read.flatMap quoteRune).length := by
  induction read with
  | nil => exact le_rfl
  | cons rune read ih =>
    have some := quoteRune_nonempty rune
    rw [List.flatMap_cons,List.length_append,List.length_cons]
    omega

/-- The text of a string is read as the string made valid. -/
theorem readString_quote (s : Bytes) : readString ((runes s).flatMap quoteRune ++ 34::rest).length
    ((runes s).flatMap quoteRune ++ 34::rest) = some (toValidUTF8 s,rest) := by
  refine readString_quoted _ rest (runes s) ?_
  have length := quoted_length (runes s)
  rw [List.length_append,List.length_cons]
  omega

end strings

theorem formatInt_head (number : Int) : ∃ head tail, formatInt number = head::tail ∧ head ≠ 34 := by
  obtain ⟨head,tail,shape⟩ := List.exists_cons_of_ne_nil (render_nonempty number.natAbs)
  unfold formatInt
  split
  · exact ⟨45,_,rfl,by decide⟩
  · refine ⟨head,tail,shape,?_⟩
    rintro rfl
    exact absurd (render_digits number.natAbs 34 (by simp [shape])) (by decide)

section numbers
variable {first : UInt8} (stop : ¬IsDigit first) (rest : Bytes)
include stop

theorem readDigits_render (number : Nat) : readDigits (render number ++ first::rest) = some (number,first::rest) := by
  have all := render_digits number
  simp only [readDigits,takeWhile_digits all stop,dropWhile_digits all stop]
  rw [if_neg (render_nonempty number),value_render]

theorem readNumber_formatInt (number : Int) : readNumber (formatInt number ++ first::rest) =
    some (number,first::rest) := by
  have read := readDigits_render stop rest number.natAbs
  unfold formatInt
  by_cases negative : number < 0
  · have back : -(number.natAbs : Int) = number := by omega
    rw [if_pos negative]
    simp only [List.cons_append,List.nil_append,readNumber,read,Option.map_some,back]
  · rw [if_neg negative,List.nil_append]
    obtain ⟨head,tail,shape⟩ := List.exists_cons_of_ne_nil (render_nonempty number.natAbs)
    have digit := render_digits number.natAbs head (by simp [shape])
    rw [shape] at read ⊢
    unfold readNumber
    split
    · rename_i same
      rw [(List.cons.inj same).1] at digit
      exact absurd digit (by decide)
    · have back : (number.natAbs : Int) = number := by omega
      rw [read,Option.map_some,back]

theorem readValue_text (json : Json) : readValue (valueText json ++ first::rest) = some (json.toValid,first::rest) := by
  cases json with
  | string s =>
    have shape : valueText (.string s) ++ first::rest = 34::((runes s).flatMap quoteRune ++ 34::first::rest) := by
      simp [valueText,quote]
    rw [shape,readValue,readString_quote]
    rfl
  | number number =>
    have read := readNumber_formatInt stop rest number
    obtain ⟨head,tail,shape,unquoted⟩ := formatInt_head number
    rw [valueText]
    rw [shape] at read ⊢
    unfold readValue
    split
    · rename_i same
      exact absurd (List.cons.inj same).1 unquoted
    · rw [read]
      rfl

theorem readMember_text (field : Bytes × Json) :
    readMember (memberText field ++ first::rest) = some ((toValidUTF8 field.1,field.2.toValid),first::rest) := by
  have shape : memberText field ++ first::rest =
      34::((runes field.1).flatMap quoteRune ++ 34::58::(valueText field.2 ++ first::rest)) := by
    simp [memberText,quote]
  rw [shape,readMember,readString_quote]
  simp [readValue_text stop rest field.2]

end numbers

theorem membersText_length (object : Object) : object.length ≤ (membersText object).length := by
  fun_induction membersText object with
  | case1 => simp
  | case2 field => simp
  | case3 field fields _ ih =>
    simp only [List.length_append,List.length_cons]
    omega

theorem readMembers_text (object : Object) (some : object ≠ []) (fuel : Nat) (enough : object.length ≤ fuel) :
    readMembers fuel (membersText object) = .some (toValidObject object,[]) := by
  induction object generalizing fuel with
  | nil => contradiction
  | cons field fields ih =>
    cases fuel with
    | zero => simp at enough
    | succ fuel =>
      cases fields with
      | nil => simp [membersText,readMembers,readMember_text (show ¬IsDigit 125 by decide) [] field,toValidObject]
      | cons next fields =>
        have rest := ih (by simp) fuel (by simpa using enough)
        simp [membersText,readMembers,readMember_text (show ¬IsDigit 44 by decide) _ field,rest,toValidObject]

theorem membersText_head (field : Bytes × Json) (fields : Object) : ∃ tail, membersText (field::fields) = 34::tail := by
  cases fields with
  | nil => exact ⟨_,rfl⟩
  | cons next fields => exact ⟨_,rfl⟩

theorem readObject_text (object : Object) : readObject (objectText object) = some (toValidObject object) := by
  cases object with
  | nil => rfl
  | cons field fields =>
    have read := readMembers_text (field::fields) (by simp) _ (membersText_length _)
    obtain ⟨tail,shape⟩ := membersText_head field fields
    rw [shape,List.length_cons] at read
    rw [objectText,shape]
    simp [readObject,read]

theorem unmarshalText_text (object : Object) : unmarshalText (objectText object) = .ok (toValidObject object) := by
  rw [unmarshalText,readObject_text]

theorem ascii_valid {s : Bytes} (ascii : IsASCII s) : ValidUTF8 s := by
  induction s with
  | nil => exact List.forall_mem_nil _
  | cons byte s ih =>
    obtain ⟨first,others⟩ := (ascii_cons byte s).mp ascii
    have shape : byte::s = String.utf8EncodeChar (Char.ofNat byte.toNat) ++ s := by
      rw [ascii_byte first,List.singleton_append]
    rw [ValidUTF8,shape,runes_char,List.forall_mem_cons]
    exact ⟨Option.some_ne_none _,ih others⟩

theorem plain_toValid {object : Object} (plain : PlainObject object) : toValidObject object = object := by
  have kept : ∀ field ∈ object, (toValidUTF8 field.1,field.2.toValid) = field := by
    intro field member
    have name := ascii_valid (plain.names field.1 (List.mem_map_of_mem member))
    have value := plain.values field member
    obtain ⟨written,json⟩ := field
    cases json with
    | number number => rw [(toValidUTF8_eq_self written).mpr name,Json.toValid]
    | string s =>
      rw [(toValidUTF8_eq_self written).mpr name,Json.toValid,(toValidUTF8_eq_self s).mpr (ascii_valid value)]
  unfold toValidObject
  rw [List.map_congr_left kept]
  exact List.map_id' object

theorem unmarshalText_objectText (object : Object) (plain : PlainObject object) :
    unmarshalText (objectText object) = .ok object := by
  rw [unmarshalText_text,plain_toValid plain]

end ControlPlane.Wire
