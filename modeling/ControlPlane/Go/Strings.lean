import ControlPlane.Go.Strconv

/-! Functions of package `strings` on byte strings, and the texts that `strings.Join` and
`strconv.Itoa` make. -/
namespace Go
open Digits

/-- `strings.Split` at a separator of one byte. -/
def split (s : Bytes) (separator : UInt8) : List Bytes := s.splitOn separator

/-- The white space of `unicode.IsSpace`, in UTF-8. No encoding is the end of another, so a string
ends in one of them exactly when its last rune is white space. -/
def spaces : List Bytes :=
  [[9],[10],[11],[12],[13],[32],[0xC2,0x85],[0xC2,0xA0],[0xE1,0x9A,0x80]] ++
    (List.range 11).map (fun offset => [0xE2,0x80,UInt8.ofNat (0x80 + offset)]) ++
    [[0xE2,0x80,0xA8],[0xE2,0x80,0xA9],[0xE2,0x80,0xAF],[0xE2,0x81,0x9F],[0xE3,0x80,0x80]]

/-- Removes the given prefixes as long as one is there, and as often as `count` allows. -/
def trimPrefixes (cutset : List Bytes) : Nat → Bytes → Bytes
  | 0,s => s
  | count+1,s =>
    match cutset.find? (·.isPrefixOf s) with
    | some space => trimPrefixes cutset count (s.drop space.length)
    | none => s

def trimSpace (s : Bytes) : Bytes :=
  let left := trimPrefixes spaces s.length s
  (trimPrefixes (spaces.map List.reverse) left.length left.reverse).reverse

/-- `strings.ReplaceAll` of one byte. -/
def replaceAll (s : Bytes) (old : UInt8) (new : Bytes) : Bytes := s.flatMap fun char => if char = old then
  new else [char]

/-- `strings.CutPrefix`. -/
def cutPrefix (s lead : Bytes) : Option Bytes := if lead.isPrefixOf s then some (s.drop lead.length) else none

theorem cutPrefix_append (lead s : Bytes) : cutPrefix (lead ++ s) lead = some s := by
  unfold cutPrefix
  rw [if_pos (List.isPrefixOf_iff_prefix.mpr (List.prefix_append lead s)),List.drop_left]

section text

theorem text_chars (s : String) : text s = s.toList.flatMap String.utf8EncodeChar := by
  have encoded : s.toByteArray = s.toList.utf8Encode := by
    rw [← String.toByteArray_ofList,String.ofList_toList]
  change s.toByteArray.data.toList = _
  rw [encoded]
  exact List.toList_data_toByteArray

theorem text_join (separator : String) (parts : List String) :
    text (separator.intercalate parts) = (text separator).intercalate (parts.map text) := by
  induction parts with
  | nil => rfl
  | cons part rest ih =>
    cases rest with
    | nil => simp
    | cons next rest =>
      rw [String.intercalate_cons_cons,text_chars,String.toList_append,String.toList_append,List.flatMap_append,
        List.flatMap_append,← text_chars,← text_chars,← text_chars,ih]
      simp

theorem digitChar_encoded {char : Char} (digit : char.isDigit = true) :
    String.utf8EncodeChar char = [char.val.toUInt8] ∧ IsDigit char.val.toUInt8 ∧
      digitValue char.val.toUInt8 = char.toNat - '0'.toNat := by
  have bounds := Char.isDigit_iff_toNat.mp digit
  have low : '0'.toNat = 48 := rfl
  have high : '9'.toNat = 57 := rfl
  have byte : char.val.toUInt8.toNat = char.toNat := by
    rw [UInt32.toNat_toUInt8]
    exact Nat.mod_eq_of_lt (by change char.toNat < _; omega)
  refine ⟨String.utf8EncodeChar_eq_singleton ?_,?_,?_⟩
  · rw [Char.utf8Size_eq_one_iff,UInt32.le_iff_toNat_le]
    change char.toNat ≤ 127
    omega
  · unfold IsDigit
    omega
  · unfold digitValue
    omega

theorem digitChars_encoded (chars : List Char) (digits : ∀ char ∈ chars, char.isDigit = true) (prior : Nat) :
    chars.flatMap String.utf8EncodeChar = chars.map (·.val.toUInt8) ∧
      (chars.map (·.val.toUInt8)).foldl (fun prior byte => 10 * prior + digitValue byte) prior =
        Nat.ofDigitChars 10 chars prior := by
  induction chars generalizing prior with
  | nil => exact ⟨rfl,rfl⟩
  | cons char rest ih =>
    obtain ⟨single,-,place⟩ := digitChar_encoded (digits char List.mem_cons_self)
    obtain ⟨encoded,read⟩ := ih (fun other member => digits other (List.mem_cons_of_mem _ member))
      (10 * prior + digitValue char.val.toUInt8)
    refine ⟨?_,?_⟩
    · rw [List.flatMap_cons,single,encoded]
      rfl
    · rw [List.map_cons,List.foldl_cons,read,place]
      rfl

/-- The text of a natural number consists of its digits. -/
theorem text_repr (number : Nat) :
    text (Nat.repr number) ≠ [] ∧ (∀ char ∈ text (Nat.repr number), IsDigit char) ∧
      value (text (Nat.repr number)) = number := by
  have digits : ∀ char ∈ Nat.toDigits 10 number, char.isDigit = true :=
    fun char member => Nat.isDigit_of_mem_toDigits (by decide) (by decide) member
  obtain ⟨encoded,read⟩ := digitChars_encoded _ digits 0
  rw [text_chars,Nat.toList_repr,encoded]
  refine ⟨?_,?_,?_⟩
  · simp
  · intro byte member
    obtain ⟨char,listed,rfl⟩ := List.mem_map.mp member
    exact (digitChar_encoded (digits char listed)).2.1
  · exact read.trans Nat.ofDigitChars_ten_toDigits

end text

section trim

theorem trimPrefixes_digits {cutset : List Bytes} {s : Bytes} (count : Nat) (digits : ∀ char ∈ s, IsDigit char)
    (other : ∀ space ∈ cutset, ∃ char ∈ space, ¬IsDigit char) : trimPrefixes cutset count s = s := by
  cases count with
  | zero => rfl
  | succ count =>
    have none : cutset.find? (·.isPrefixOf s) = none := by
      apply List.find?_eq_none.mpr
      intro space member found
      obtain ⟨char,listed,outside⟩ := other space member
      exact outside (digits char ((List.isPrefixOf_iff_prefix.mp found).subset listed))
    rw [trimPrefixes,none]

/-- Digits are no white space. -/
theorem trimSpace_digits {s : Bytes} (digits : ∀ char ∈ s, IsDigit char) : trimSpace s = s := by
  have reversed : ∀ char ∈ s.reverse, IsDigit char := fun char member => digits char (List.mem_reverse.mp member)
  unfold trimSpace
  rw [trimPrefixes_digits s.length digits (by decide)]
  dsimp only
  rw [trimPrefixes_digits s.length reversed (by decide),List.reverse_reverse]

end trim

end Go
