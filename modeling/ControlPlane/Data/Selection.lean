import Mathlib.Data.List.Basic

/-! Sublists that a predicate selects, and where their members stand: the place of a position is
the number of selected members before it. -/
namespace Data.Selection
variable {α : Type} (select : α → Bool) (items : List α)

def place (p : Nat) : Nat := ((items.take p).filter select).length

variable {select items} {p q : Nat} {item : α}

theorem place_zero : place select items 0 = 0 := by simp [place]

theorem place_succ (found : items[p]? = some item) :
    place select items (p + 1) = place select items p + if select item then 1 else 0 := by
  unfold place
  rw [List.take_add_one,found,List.filter_append,List.length_append]
  by_cases selected : select item = true
  · simp [selected]
  · simp [selected]

theorem place_mono (before : p ≤ q) : place select items p ≤ place select items q :=
  (((List.take_prefix_take_left before).sublist).filter select).length_le

/-- A selected member stands at its place. -/
theorem getElem?_place (found : items[p]? = some item) (selected : select item = true) :
    (items.filter select)[place select items p]? = some item := by
  obtain ⟨bound,same⟩ := List.getElem?_eq_some_iff.mp found
  have parts : items = items.take p ++ item :: items.drop (p + 1) := by
    rw [← same,List.getElem_cons_drop,List.take_append_drop]
  have selection : items.filter select = (items.take p).filter select ++ item ::
    (items.drop (p + 1)).filter select := by
    conv_lhs => rw [parts,List.filter_append,List.filter_cons_of_pos selected]
  unfold place
  rw [selection]
  simp

/-- Every place below that of a position is the place of a selected member before it. -/
theorem exists_of_lt_place (below : q < place select items p) :
    ∃ r < p, ∃ item, items[r]? = some item ∧ select item = true ∧ place select items r = q := by
  induction p with
  | zero =>
    rw [place_zero] at below
    omega
  | succ p ih =>
    by_cases earlier : q < place select items p
    · obtain ⟨r,before,rest⟩ := ih earlier
      exact ⟨r,by omega,rest⟩
    · cases found : items[p]? with
      | none =>
        have same : items.take (p + 1) = items.take p := by
          rw [List.take_add_one,found]
          simp
        unfold place at below earlier
        rw [same] at below
        omega
      | some item =>
        rw [place_succ found] at below
        by_cases selected : select item = true
        · rw [if_pos selected] at below
          exact ⟨p,by omega,item,found,selected,by omega⟩
        · rw [if_neg selected] at below
          omega

end Data.Selection
