import ControlPlane.Go.Values

/-! The runes of a string: the characters of its valid UTF-8 encodings, and the bytes that belong
to none. A byte of the latter kind is read as the replacement character U+FFFD. -/
namespace Go

/-- A character, or a byte that is part of no valid encoding. -/
abbrev Rune := Option Char

def encodeRune : Rune → Bytes
  | some char => String.utf8EncodeChar char
  | none => [0xEF,0xBF,0xBD]

/-- `utf8.DecodeRune`: the first rune of a string that is not empty, and what follows it. -/
def decodeRune (s : Bytes) : Rune × Bytes :=
  match s.toByteArray.utf8DecodeChar? 0 with
  | some char => (some char,s.drop char.utf8Size)
  | none => (none,s.drop 1)

def runesFrom : Nat → Bytes → List Rune
  | 0,_ => []
  | _+1,[] => []
  | fuel+1,s => (decodeRune s).1::runesFrom fuel (decodeRune s).2

/-- The runes over which `for range` runs. -/
def runes (s : Bytes) : List Rune := runesFrom s.length s

/-- `strings.ToValidUTF8` with the replacement character for every invalid byte. -/
def toValidUTF8 (s : Bytes) : Bytes := (runes s).flatMap encodeRune

/-- `utf8.ValidString`. -/
def ValidUTF8 (s : Bytes) : Prop := ∀ rune ∈ runes s, rune ≠ none

instance (s : Bytes) : Decidable (ValidUTF8 s) := inferInstanceAs (Decidable (∀ rune ∈ runes s, rune ≠ none))

theorem decodeRune_char (char : Char) (rest : Bytes) :
    decodeRune (String.utf8EncodeChar char ++ rest) = (some char,rest) := by
  unfold decodeRune
  rw [List.toByteArray_append,ByteArray.utf8DecodeChar?_utf8EncodeChar_append]
  dsimp only
  rw [← String.length_utf8EncodeChar,List.drop_left]

/-- The two ways in which a string begins. -/
theorem decodeRune_cases {s : Bytes} (some : s ≠ []) :
    (∃ char rest, s = String.utf8EncodeChar char ++ rest) ∨ ∃ byte rest, s = byte::rest ∧ decodeRune (byte::rest) =
      (none,rest) := by
  rcases decoded : s.toByteArray.utf8DecodeChar? 0 with _ | char
  · obtain ⟨byte,rest,rfl⟩ := List.exists_cons_of_ne_nil some
    refine .inr ⟨byte,rest,rfl,?_⟩
    unfold decodeRune
    rw [decoded]
    rfl
  · obtain ⟨rest,shape⟩ := ByteArray.exists_of_utf8DecodeChar?_eq_some decoded
    have bytes := congrArg (fun array => array.data.toList) shape
    simp only [List.toList_data_toByteArray,ByteArray.data_append,Array.toList_append] at bytes
    exact .inl ⟨char,rest.data.toList,bytes⟩

theorem encoded_length (char : Char) (rest : Bytes) : rest.length < (String.utf8EncodeChar char ++ rest).length := by
  have some := char.utf8Size_pos
  rw [List.length_append,String.length_utf8EncodeChar]
  omega

/-- A string is built from its end, rune by rune. -/
theorem runes_induction {motive : Bytes → Prop} (nil : motive [])
    (char : ∀ char rest, motive rest → motive (String.utf8EncodeChar char ++ rest))
    (byte : ∀ byte rest, decodeRune (byte::rest) = (none,rest) → motive rest → motive (byte::rest)) (s : Bytes) :
    motive s := by
  induction length : s.length using Nat.strong_induction_on generalizing s with
  | _ size ih =>
    subst length
    by_cases empty : s = []
    · exact empty ▸ nil
    · rcases decodeRune_cases empty with ⟨first,rest,rfl⟩ | ⟨first,rest,rfl,invalid⟩
      · exact char first rest (ih rest.length (encoded_length first rest) rest rfl)
      · exact byte first rest invalid (ih rest.length (Nat.lt_succ_self _) rest rfl)

theorem runesFrom_decode {s : Bytes} (some : s ≠ []) (fuel : Nat) :
    runesFrom (fuel+1) s = (decodeRune s).1::runesFrom fuel (decodeRune s).2 := by
  obtain ⟨first,rest,rfl⟩ := List.exists_cons_of_ne_nil some
  rfl

theorem encoded_nonempty (char : Char) (rest : Bytes) : String.utf8EncodeChar char ++ rest ≠ [] := by
  intro empty
  have longer := encoded_length char rest
  rw [empty] at longer
  exact Nat.not_lt_zero _ longer

theorem runesFrom_enough (s : Bytes) : ∀ fuel more, s.length ≤ fuel → s.length ≤ more →
    runesFrom fuel s = runesFrom more s := by
  induction s using runes_induction with
  | nil =>
    intro fuel more _ _
    cases fuel <;> cases more <;> rfl
  | char char rest ih =>
    intro fuel more enough enough'
    have longer := encoded_length char rest
    obtain ⟨fuel,rfl⟩ := Nat.exists_eq_add_one_of_ne_zero (by omega : fuel ≠ 0)
    obtain ⟨more,rfl⟩ := Nat.exists_eq_add_one_of_ne_zero (by omega : more ≠ 0)
    rw [runesFrom_decode (encoded_nonempty char rest),runesFrom_decode (encoded_nonempty char rest),decodeRune_char]
    dsimp only
    rw [ih fuel more (by omega) (by omega)]
  | byte byte rest invalid ih =>
    intro fuel more enough enough'
    rw [List.length_cons] at enough enough'
    obtain ⟨fuel,rfl⟩ := Nat.exists_eq_add_one_of_ne_zero (by omega : fuel ≠ 0)
    obtain ⟨more,rfl⟩ := Nat.exists_eq_add_one_of_ne_zero (by omega : more ≠ 0)
    rw [runesFrom_decode (List.cons_ne_nil _ _),runesFrom_decode (List.cons_ne_nil _ _),invalid]
    dsimp only
    rw [ih fuel more (by omega) (by omega)]

theorem runes_char (char : Char) (rest : Bytes) : runes (String.utf8EncodeChar char ++ rest) =
    some char::runes rest := by
  have longer := encoded_length char rest
  unfold runes
  obtain ⟨fuel,length⟩ := Nat.exists_eq_add_one_of_ne_zero (Nat.ne_of_gt (Nat.zero_lt_of_lt longer))
  rw [length,runesFrom_decode (encoded_nonempty char rest),decodeRune_char]
  dsimp only
  rw [runesFrom_enough rest fuel rest.length (by omega) le_rfl]

theorem runes_byte {byte : UInt8} {rest : Bytes} (invalid : decodeRune (byte::rest) = (none,rest)) :
    runes (byte::rest) = none::runes rest := by
  unfold runes
  rw [List.length_cons,runesFrom_decode (List.cons_ne_nil _ _),invalid]

theorem toValidUTF8_char (char : Char) (rest : Bytes) :
    toValidUTF8 (String.utf8EncodeChar char ++ rest) = String.utf8EncodeChar char ++ toValidUTF8 rest := by
  rw [toValidUTF8,runes_char]
  rfl

theorem toValidUTF8_byte {byte : UInt8} {rest : Bytes} (invalid : decodeRune (byte::rest) = (none,rest)) :
    toValidUTF8 (byte::rest) = [0xEF,0xBF,0xBD] ++ toValidUTF8 rest := by
  rw [toValidUTF8,runes_byte invalid]
  rfl

/-- Two bytes are added for every byte that is replaced. -/
theorem toValidUTF8_length (s : Bytes) : (toValidUTF8 s).length = s.length + 2 * (runes s).count none := by
  induction s using runes_induction with
  | nil => rfl
  | char char rest ih =>
    rw [toValidUTF8_char,runes_char,List.length_append,List.length_append,ih,List.count_cons_of_ne (by simp)]
    omega
  | byte byte rest invalid ih =>
    rw [toValidUTF8_byte invalid,runes_byte invalid,List.length_append,ih,List.count_cons_self]
    simp only [List.length_cons,List.length_nil]
    omega

/-- Exactly the valid strings are left as they are. -/
theorem toValidUTF8_eq_self (s : Bytes) : toValidUTF8 s = s ↔ ValidUTF8 s := by
  constructor
  · intro same rune member invalid
    have length := toValidUTF8_length s
    rw [same] at length
    have counted := List.count_pos_iff.mpr (invalid ▸ member)
    omega
  · intro valid
    induction s using runes_induction with
    | nil => rfl
    | char char rest ih =>
      rw [ValidUTF8,runes_char,List.forall_mem_cons] at valid
      rw [toValidUTF8_char,ih valid.2]
    | byte byte rest invalid ih =>
      rw [ValidUTF8,runes_byte invalid,List.forall_mem_cons] at valid
      exact absurd rfl valid.1

end Go
