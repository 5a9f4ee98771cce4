import ControlPlane.Operator.PartitionMap
import Mathlib.Data.Finset.Sort
import Mathlib.Data.String.Basic

/-! The text of a mapping as `encoding/json` writes it: the keys in order, no blanks, and the
escapes that keep it safe inside HTML. It reads back as the mapping, so it is a `MappingJson`. -/
namespace ControlPlane.Operator.MappingText
open Go

def quotation : Char := Char.ofNat 34

def backslash : Char := Char.ofNat 92

def comma : Char := Char.ofNat 44

def opening : Char := Char.ofNat 123

def closing : Char := Char.ofNat 125

section characters

-- The characters with an escape of two characters, and the second of these.
def shortEscapes : List (Char × Char) :=
  [(quotation,quotation),(backslash,backslash),(Char.ofNat 8,'b'),(Char.ofNat 12,'f'),(Char.ofNat 10,'n'),
    (Char.ofNat 13,'r'),
    (Char.ofNat 9,'t')]

def shortEscape (char : Char) : Option Char := (shortEscapes.find? fun pair => pair.1 = char).map Prod.snd

def unescape (letter : Char) : Option Char := (shortEscapes.find? fun pair => pair.2 = letter).map Prod.fst

def escapedByCode (char : Char) : Bool := char.toNat < 32 || char.toNat ∈ [38,60,62,8232,8233]

def codeEscape (code : Nat) : List Char :=
  [backslash,'u',Nat.digitChar (code / 4096 % 16),Nat.digitChar (code / 256 % 16),Nat.digitChar (code / 16 % 16),
    Nat.digitChar (code % 16)]

def quoteChar (char : Char) : List Char :=
  match shortEscape char with
  | some letter => [backslash,letter]
  | none => if escapedByCode char then codeEscape char.toNat else [char]

def hexValue (digit : Char) : Option Nat := (List.range 16).find? fun value => Nat.digitChar value = digit.toLower

def readEscape : List Char → Option (Char × List Char)
  | [] => none
  | letter::rest =>
    if letter = 'u' then
      match rest with
      | h3::h2::h1::h0::after => do
        let code := ((16 * (← hexValue h3) + (← hexValue h2)) * 16 + (← hexValue h1)) * 16 + (← hexValue h0)
        return (Char.ofNat code,after)
      | _ => none
    else (unescape letter).map fun char => (char,rest)

def readChar : List Char → Option (Char × List Char)
  | [] => none
  | char::rest =>
    if char = backslash then readEscape rest else if char.toNat < 32 then none else some (char,rest)

theorem unescape_shortEscape {char letter : Char} (short : shortEscape char = some letter) :
    unescape letter = some char ∧ letter ≠ 'u' := by
  unfold shortEscape at short
  obtain ⟨pair,found,rfl⟩ := Option.map_eq_some_iff.mp short
  have same : pair.1 = char := by simpa using List.find?_some found
  subst same
  have all : ∀ pair ∈ shortEscapes, unescape pair.2 = some pair.1 ∧ pair.2 ≠ 'u' := by decide
  exact all pair (List.mem_of_find?_eq_some found)

theorem hexValue_digitChar {value : Nat} (small : value < 16) : hexValue (Nat.digitChar value) = some value := by
  have all : ∀ value : Fin 16, hexValue (Nat.digitChar value) = some value.val := by decide
  exact all ⟨value,small⟩

theorem readEscape_code {char : Char} (plane : char.toNat < 65536) (rest : List Char) :
    readChar (codeEscape char.toNat ++ rest) = some (char,rest) := by
  have back : ((16 * (char.toNat / 4096 % 16) + char.toNat / 256 % 16) * 16 + char.toNat / 16 % 16) * 16 +
      char.toNat % 16 = char.toNat := by omega
  simp [codeEscape,readChar,readEscape,hexValue_digitChar (Nat.mod_lt _ (by decide : 0 < 16)),back]

theorem escapedByCode_plane {char : Char} (coded : escapedByCode char = true) : char.toNat < 65536 := by
  simp only [escapedByCode,Bool.or_eq_true,decide_eq_true_eq,List.mem_cons,List.not_mem_nil,or_false] at coded
  omega

theorem readChar_quoteChar (char : Char) (rest : List Char) : readChar (quoteChar char ++ rest) = some (char,rest) := by
  unfold quoteChar
  split
  · rename_i letter short
    obtain ⟨back,other⟩ := unescape_shortEscape short
    simp [readChar,readEscape,other,back]
  · rename_i short
    split
    · rename_i coded
      exact readEscape_code (escapedByCode_plane coded) rest
    · rename_i plain
      have slash : char ≠ backslash := by
        rintro rfl
        exact absurd short (by decide)
      have visible : ¬char.toNat < 32 := fun control => plain (by simp [escapedByCode,control])
      simp [readChar,slash,visible]

theorem quoteChar_head (char : Char) : ∃ head tail, quoteChar char = head::tail ∧ head ≠ quotation := by
  unfold quoteChar
  split
  · exact ⟨_,_,rfl,by decide⟩
  · rename_i short
    split
    · exact ⟨_,_,rfl,by decide⟩
    · refine ⟨_,_,rfl,?_⟩
      rintro rfl
      exact absurd short (by decide)

end characters

section strings

-- A string up to its closing quotation mark, and what follows.
def readString : Nat → List Char → Option (List Char × List Char)
  | 0,_ => none
  | _+1,[] => none
  | fuel+1,char::rest =>
    if char = quotation then some ([],rest)
    else do
      let (first,after) ← readChar (char::rest)
      let (others,last) ← readString fuel after
      return (first::others,last)

theorem readString_quoted (s rest : List Char) (fuel : Nat) (enough : s.length < fuel) :
    readString fuel (s.flatMap quoteChar ++ quotation::rest) = some (s,rest) := by
  induction s generalizing fuel with
  | nil =>
    cases fuel with
    | zero => cases enough
    | succ fuel => simp [readString]
  | cons char s ih =>
    cases fuel with
    | zero => cases enough
    | succ fuel =>
      have others := ih fuel (Nat.lt_of_succ_lt_succ enough)
      have first := readChar_quoteChar char (s.flatMap quoteChar ++ quotation::rest)
      obtain ⟨head,tail,shape,other⟩ := quoteChar_head char
      rw [shape,List.cons_append] at first
      rw [List.flatMap_cons,shape,List.append_assoc,List.cons_append]
      simp [readString,other,first,others]

def expect (word s : List Char) : Option (List Char) := if word.isPrefixOf s then some (s.drop word.length) else none

theorem expect_append (word rest : List Char) : expect word (word ++ rest) = some rest := by
  simp [expect]

end strings

section numbers

def minus : Char := Char.ofNat 45

def formatInt (number : Int) : List Char := (if number < 0 then [minus] else []) ++ Nat.toDigits 10 number.natAbs

def readDigits (s : List Char) : Option (Nat × List Char) :=
  if s.takeWhile Char.isDigit = [] then none
  else some (Nat.ofDigitChars 10 (s.takeWhile Char.isDigit) 0,s.dropWhile Char.isDigit)

def readInt (s : List Char) : Option (Int × List Char) :=
  match expect [minus] s with
  | some rest => (readDigits rest).map fun read => (-(read.1 : Int),read.2)
  | none => (readDigits s).map fun read => ((read.1 : Int),read.2)

def readInt32 (s : List Char) : Option (Int32 × List Char) := do
  let (number,rest) ← readInt s
  if -2^31 ≤ number ∧ number < 2^31 then return (Int32.ofInt number,rest) else none

variable {stop : Char} (ends : stop.isDigit = false) (rest : List Char)
include ends

theorem readDigits_toDigits (number : Nat) :
    readDigits (Nat.toDigits 10 number ++ stop::rest) = some (number,stop::rest) := by
  have digits : ∀ char ∈ Nat.toDigits 10 number, char.isDigit = true :=
    fun char member => Nat.isDigit_of_mem_toDigits (by decide) (by decide) member
  have taken : (Nat.toDigits 10 number ++ stop::rest).takeWhile Char.isDigit = Nat.toDigits 10 number := by
    rw [List.takeWhile_append_of_pos digits,List.takeWhile_cons_of_neg (by simp [ends]),List.append_nil]
  have dropped : (Nat.toDigits 10 number ++ stop::rest).dropWhile Char.isDigit = stop::rest := by
    rw [List.dropWhile_append_of_pos digits,List.dropWhile_cons_of_neg (by simp [ends])]
  simp [readDigits,taken,dropped,Nat.ofDigitChars_ten_toDigits]

theorem readInt_formatInt (number : Int) : readInt (formatInt number ++ stop::rest) = some (number,stop::rest) := by
  have read := readDigits_toDigits ends rest number.natAbs
  unfold formatInt
  by_cases negative : number < 0
  · have back : -(number.natAbs : Int) = number := by omega
    rw [if_pos negative,List.append_assoc,readInt,expect_append]
    simp only [read,Option.map_some,back]
  · have back : (number.natAbs : Int) = number := by omega
    have unsigned : expect [minus] (Nat.toDigits 10 number.natAbs ++ stop::rest) = none := by
      obtain ⟨head,tail,shape⟩ := List.exists_cons_of_ne_nil (Nat.toDigits_ne_nil (n := number.natAbs) (b := 10))
      have digit : head.isDigit = true :=
        Nat.isDigit_of_mem_toDigits (by decide : 0 < 10) (by decide) (shape ▸ List.mem_cons_self)
      have other : minus ≠ head := by
        rintro rfl
        exact absurd digit (by decide)
      simp [expect,shape,other]
    rw [if_neg negative,List.nil_append,readInt,unsigned]
    simp only [read,Option.map_some,back]

theorem readInt32_formatInt (number : Int32) :
    readInt32 (formatInt number.toInt ++ stop::rest) = some (number,stop::rest) := by
  have low := number.le_toInt
  have high := number.toInt_lt
  simp only [readInt32,readInt_formatInt ends rest,Option.bind_eq_bind,Option.bind_some]
  rw [if_pos ⟨by omega,by omega⟩,Int32.ofInt_toInt]
  rfl

end numbers

section members

def startWord : List Char := ":\x7b\"start\":".toList

def countWord : List Char := comma::"\"count\":".toList

def memberText (member : String × TenantPartitionEntry) : List Char :=
  quotation::(member.1.toList.flatMap quoteChar ++ quotation::(startWord ++ (formatInt member.2.start.toInt ++
    (countWord ++ (formatInt member.2.count.toInt ++ [closing])))))

def readMember (s : List Char) : Option ((String × TenantPartitionEntry) × List Char) := do
  let s ← expect [quotation] s
  let (id,s) ← readString s.length s
  let s ← expect startWord s
  let (start,s) ← readInt32 s
  let s ← expect countWord s
  let (count,s) ← readInt32 s
  let s ← expect [closing] s
  return ((String.ofList id,⟨start,count⟩),s)

def membersText : List (String × TenantPartitionEntry) → List Char
  | [] => [closing]
  | [member] => memberText member ++ [closing]
  | member::members => memberText member ++ comma::membersText members

def readMembers : Nat → List Char → Option (List (String × TenantPartitionEntry))
  | 0,_ => none
  | fuel+1,s => do
    let (member,s) ← readMember s
    if s = [closing] then return [member]
    else
      let s ← expect [comma] s
      let members ← readMembers fuel s
      return member::members

theorem quoted_length (s : List Char) : s.length ≤ (s.flatMap quoteChar).length := by
  induction s with
  | nil => simp
  | cons char s ih =>
    obtain ⟨head,tail,shape,_⟩ := quoteChar_head char
    simp only [List.flatMap_cons,shape,List.length_cons,List.length_append]
    omega

theorem readMember_text (member : String × TenantPartitionEntry) (rest : List Char) :
    readMember (memberText member ++ rest) = some (member,rest) := by
  have shape : memberText member ++ rest = [quotation] ++ (member.1.toList.flatMap quoteChar ++ quotation::(startWord ++
      (formatInt member.2.start.toInt ++ (countWord ++ (formatInt member.2.count.toInt ++ ([closing] ++ rest)))))) := by
    simp [memberText]
  have id (after : List Char) := readString_quoted member.1.toList after
    (member.1.toList.flatMap quoteChar ++ quotation::after).length (by
      have longer := quoted_length member.1.toList
      simp only [List.length_append,List.length_cons]
      omega)
  have start (after : List Char) : readInt32 (formatInt member.2.start.toInt ++ (countWord ++ after)) =
      some (member.2.start,countWord ++ after) := readInt32_formatInt (by decide) _ member.2.start
  have count (after : List Char) : readInt32 (formatInt member.2.count.toInt ++ ([closing] ++ after)) =
      some (member.2.count,[closing] ++ after) := readInt32_formatInt (by decide) _ member.2.count
  rw [shape]
  simp only [readMember,expect_append,id,start,count,Option.bind_eq_bind,Option.bind_some,String.ofList_toList]
  rfl

theorem readMembers_text (members : List (String × TenantPartitionEntry)) (some : members ≠ []) (fuel : Nat)
    (enough : members.length ≤ fuel) : readMembers fuel (membersText members) = .some members := by
  induction members generalizing fuel with
  | nil => contradiction
  | cons member members ih =>
    cases fuel with
    | zero => simp at enough
    | succ fuel =>
      cases members with
      | nil => simp [membersText,readMembers,readMember_text]
      | cons next members =>
        have rest := ih (by simp) fuel (by simpa using enough)
        have more : comma::membersText (next::members) ≠ [closing] := by
          intro same
          exact absurd (List.cons.inj same).1 (by decide)
        have after := expect_append [comma] (membersText (next::members))
        rw [List.singleton_append] at after
        simp [membersText,readMembers,readMember_text,more,after,rest]

theorem membersText_length (members : List (String × TenantPartitionEntry)) :
    members.length ≤ (membersText members).length := by
  fun_induction membersText members with
  | case1 => simp
  | case2 member => simp
  | case3 member members _ ih =>
    simp only [List.length_append,List.length_cons]
    omega

end members

section mappings

def readMapping (s : List Char) : Option (List (String × TenantPartitionEntry)) :=
  if s = [opening,closing] then some []
  else do
    let s ← expect [opening] s
    readMembers s.length s

theorem readMapping_text (members : List (String × TenantPartitionEntry)) :
    readMapping (opening::membersText members) = some members := by
  cases members with
  | nil => rfl
  | cons member members =>
    have other : opening::membersText (member::members) ≠ [opening,closing] := by
      obtain ⟨tail,shape⟩ : ∃ tail, membersText (member::members) = quotation::tail := by
        cases members with
        | nil => exact ⟨_,rfl⟩
        | cons next members => exact ⟨_,rfl⟩
      rw [shape]
      intro same
      exact absurd (List.cons.inj (List.cons.inj same).2).1 (by decide)
    have after := expect_append [opening] (membersText (member::members))
    rw [List.singleton_append] at after
    rw [readMapping,if_neg other,after]
    exact readMembers_text _ (by simp) _ (membersText_length _)

-- In the order of the keys, as `encoding/json` writes a map.
def entries (mapping : Mapping) : List (String × TenantPartitionEntry) :=
  (mapping.keys.sort (· ≤ ·)).filterMap fun id => (mapping.lookup id).map fun entry => (id,entry)

theorem mem_entries {mapping : Mapping} {id : String} {entry : TenantPartitionEntry} :
    (id,entry) ∈ entries mapping ↔ mapping.lookup id = some entry := by
  unfold entries
  rw [List.mem_filterMap]
  constructor
  · intro listed
    obtain ⟨key,_,found⟩ := listed
    obtain ⟨other,stored,same⟩ := Option.map_eq_some_iff.mp found
    cases same
    exact stored
  · intro stored
    refine ⟨id,?_,by rw [stored]; rfl⟩
    rw [Finset.mem_sort]
    exact Finmap.mem_keys.mpr (Finmap.mem_of_lookup_eq_some stored)

theorem entries_distinct (mapping : Mapping) : ((entries mapping).map (·.1)).Nodup := by
  have keys : (entries mapping).map (·.1) =
      (mapping.keys.sort (· ≤ ·)).filterMap fun id => (mapping.lookup id).map fun _ => id := by
    unfold entries
    rw [List.map_filterMap]
    congr 1
    funext id
    cases mapping.lookup id <;> rfl
  rw [keys]
  refine List.Nodup.filterMap ?_ (Finset.sort_nodup _ _)
  intro one other id first second
  obtain ⟨_,_,rfl⟩ := Option.map_eq_some_iff.mp first
  obtain ⟨_,_,rfl⟩ := Option.map_eq_some_iff.mp second
  rfl

def ofEntries (members : List (String × TenantPartitionEntry)) : Mapping :=
  members.foldl (fun mapping member => mapping.insert member.1 member.2) ∅

theorem lookup_foldl_insert (mapping : Mapping) (members : List (String × TenantPartitionEntry))
    (agree : ∀ member ∈ members, mapping.lookup member.1 = some member.2) (read : Mapping) (id : String) :
    (members.foldl (fun mapping member => mapping.insert member.1 member.2) read).lookup id =
      if id ∈ members.map Prod.fst then mapping.lookup id else read.lookup id := by
  induction members generalizing read with
  | nil => simp
  | cons member members ih =>
    rw [List.foldl_cons,ih (fun other among => agree other (List.mem_cons_of_mem _ among)),List.map_cons]
    by_cases later : id ∈ members.map Prod.fst
    · rw [if_pos later,if_pos (List.mem_cons_of_mem _ later)]
    · by_cases same : id = member.1
      · subst same
        rw [if_neg later,if_pos List.mem_cons_self,agree member List.mem_cons_self,Finmap.lookup_insert]
      · rw [if_neg later,if_neg (List.not_mem_cons_of_ne_of_not_mem same later),Finmap.lookup_insert_of_ne _ same]

theorem ofEntries_entries (mapping : Mapping) : ofEntries (entries mapping) = mapping := by
  apply Finmap.ext_lookup
  intro id
  have agree : ∀ member ∈ entries mapping, mapping.lookup member.1 = some member.2 :=
    fun _ among => mem_entries.mp among
  rw [ofEntries,lookup_foldl_insert mapping _ agree]
  split
  · rfl
  · rename_i absent
    cases found : mapping.lookup id with
    | none => rfl
    | some entry =>
      exact absurd (List.mem_map.mpr ⟨(id,entry),mem_entries.mpr found,rfl⟩) absent

def marshal (mapping : Mapping) : String := String.ofList (opening::membersText (entries mapping))

def unmarshal (raw : Bytes) : Except Error Mapping :=
  match (ByteArray.mk raw.toArray).utf8Decode?.bind fun chars => readMapping chars.toList with
  | some members => .ok (ofEntries members)
  | none => .error (.new "invalid character in JSON text")

theorem unmarshal_marshal (mapping : Mapping) : unmarshal (text (marshal mapping)) = .ok mapping := by
  have bytes : ByteArray.mk (text (marshal mapping)).toArray = (opening::membersText (entries mapping)).utf8Encode := by
    change ByteArray.mk (marshal mapping).toUTF8.data.toList.toArray = _
    rw [Array.toArray_toList,marshal,String.toUTF8_eq_toByteArray,String.toByteArray_ofList]
  rw [unmarshal,bytes,List.utf8Decode?_utf8Encode]
  simp only [Option.bind_some,readMapping_text,ofEntries_entries]

def json : MappingJson where
  marshal := marshal
  unmarshal := unmarshal
  nonempty mapping empty := by
    have chars := congrArg String.toList empty
    rw [marshal,String.toList_ofList] at chars
    cases chars
  readBack := unmarshal_marshal

end mappings

end ControlPlane.Operator.MappingText
