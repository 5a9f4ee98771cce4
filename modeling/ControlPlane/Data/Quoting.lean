import Mathlib.Data.List.Basic

/-! Quoted literals over any alphabet: an escape mark makes the next character literal, and the
first quotation mark that is not escaped ends the literal. -/
namespace Quoting
variable {α : Type} [DecidableEq α] (mark quotation : α)

def escape (s : List α) : List α :=
  s.flatMap fun char => if char = mark ∨ char = quotation then [mark,char] else [char]

/-- The rest of a literal after its opening quotation mark: what it stands for, and what follows it. -/
def scan : List α → Option (List α × List α)
  | [] => none
  | [char] => if char = quotation then some ([],[]) else none
  | char::next::rest =>
    if char = quotation then some ([],next::rest)
    else if char = mark then (scan rest).map fun read => (next::read.1,read.2)
    else (scan (next::rest)).map fun read => (char::read.1,read.2)

variable {mark quotation}

theorem scan_end (rest : List α) : scan mark quotation (quotation::rest) = some ([],rest) := by
  cases rest with
  | nil => simp [scan]
  | cons next rest => simp [scan]

theorem scan_escaped (different : mark ≠ quotation) (char : α) (rest : List α) :
    scan mark quotation (mark::char::rest) = (scan mark quotation rest).map fun read => (char::read.1,read.2) := by
  rw [scan,if_neg different,if_pos rfl]

theorem scan_plain {char : α} (unmarked : char ≠ mark) (inside : char ≠ quotation) (rest : List α) :
    scan mark quotation (char::rest) = (scan mark quotation rest).map fun read => (char::read.1,read.2) := by
  cases rest with
  | nil => simp [scan,inside]
  | cons next rest => rw [scan,if_neg inside,if_neg unmarked]

/-- An escaped string is read back, and the literal ends at the quotation mark after it. -/
theorem scan_escape (different : mark ≠ quotation) (s rest : List α) :
    scan mark quotation (escape mark quotation s ++ quotation::rest) = some (s,rest) := by
  induction s with
  | nil => exact scan_end rest
  | cons char s ih =>
    change scan mark quotation ((if char = mark ∨ char = quotation then [mark,char] else [char]) ++
      escape mark quotation s ++ quotation::rest) = _
    rw [List.append_assoc]
    split
    · rw [List.cons_append,List.singleton_append,scan_escaped different,ih]
      rfl
    · rename_i plain
      rw [List.singleton_append,scan_plain (fun same => plain (Or.inl same)) (fun same => plain (Or.inr same)),ih]
      rfl

theorem escape_plain {s : List α} (plain : ∀ char ∈ s, char ≠ mark ∧ char ≠ quotation) :
    escape mark quotation s = s := by
  have single : ∀ char ∈ s, (if char = mark ∨ char = quotation then [mark,char] else [char]) = [char] := by
    intro char member
    obtain ⟨unmarked,inside⟩ := plain char member
    rw [if_neg (not_or.mpr ⟨unmarked,inside⟩)]
  unfold escape
  rw [List.flatMap_congr single]
  exact List.flatMap_singleton' s

theorem escape_append (s rest : List α) :
    escape mark quotation (s ++ rest) = escape mark quotation s ++ escape mark quotation rest := List.flatMap_append

end Quoting
