import Mathlib.Data.List.Induction
import Mathlib.Data.List.Nodup

/-! First occurrences in a list under a key. As a list grows, its first occurrences only
grow at the end, so every initial part of them comes from an initial part of the list. -/
namespace Distinct

variable {α κ : Type} [DecidableEq κ] (key : α → κ)

def firsts (items : List α) : List α :=
  items.foldl (fun seen item => if key item ∈ seen.map key then seen else seen ++ [item]) []

@[simp] theorem firsts_nil : firsts key [] = [] := rfl

theorem firsts_append_singleton (items : List α) (item : α) :
    firsts key (items ++ [item]) =
      if key item ∈ (firsts key items).map key then firsts key items else firsts key items ++ [item] := by
  unfold firsts
  rw [List.foldl_append]
  rfl

theorem mem_firsts_keys (items : List α) (k : κ) :
    k ∈ (firsts key items).map key ↔ k ∈ items.map key := by
  induction items using List.reverseRecOn with
  | nil => simp
  | append_singleton items item ih =>
    rw [firsts_append_singleton,List.map_append,List.mem_append,← ih]
    split
    · rename_i seen
      constructor
      · exact Or.inl
      · rintro (old | last)
        · exact old
        · rw [List.map_singleton,List.mem_singleton] at last
          exact last ▸ seen
    · rw [List.map_append,List.mem_append]

theorem firsts_take_succ (items : List α) (n : Nat) (item : α) (found : items[n]? = some item) :
    firsts key (items.take (n+1)) =
      if key item ∈ (items.take n).map key then firsts key (items.take n)
      else firsts key (items.take n) ++ [item] := by
  rw [List.take_add_one,found,Option.toList_some,firsts_append_singleton]
  simp only [mem_firsts_keys]

/-- Every initial part of the first occurrences is the first occurrences of an initial part. -/
theorem prefix_firsts (items initial : List α) (n : Nat) (start : initial <+: firsts key (items.take n)) :
    ∃ m ≤ n, initial = firsts key (items.take m) := by
  induction n with
  | zero =>
    rw [List.take_zero,firsts_nil,List.prefix_nil] at start
    exact ⟨0,Nat.le_refl _,by rw [start,List.take_zero,firsts_nil]⟩
  | succ n ih =>
    cases found : items[n]? with
    | none =>
      have same : items.take (n+1) = items.take n := by
        rw [List.take_add_one,found,Option.toList_none,List.append_nil]
      rw [same] at start
      obtain ⟨m,bound,equal⟩ := ih start
      exact ⟨m,by omega,equal⟩
    | some item =>
      have split := firsts_take_succ key items n item found
      by_cases seen : key item ∈ (items.take n).map key
      · rw [split,if_pos seen] at start
        obtain ⟨m,bound,equal⟩ := ih start
        exact ⟨m,by omega,equal⟩
      · rw [if_neg seen] at split
        rw [split,List.prefix_concat_iff] at start
        rcases start with whole | part
        · exact ⟨n+1,Nat.le_refl _,whole.trans split.symm⟩
        · obtain ⟨m,bound,equal⟩ := ih part
          exact ⟨m,by omega,equal⟩

/-- Items whose keys have all been seen add no first occurrence. -/
theorem firsts_take_eq (items : List α) (m n : Nat) (order : m ≤ n)
    (seen : ∀ k ∈ (items.take n).map key, k ∈ (items.take m).map key) :
    firsts key (items.take n) = firsts key (items.take m) := by
  induction n with
  | zero =>
    have zero : m = 0 := by omega
    rw [zero]
  | succ n ih =>
    rcases Nat.lt_or_ge n m with last | earlier
    · have same : m = n+1 := by omega
      rw [same]
    · have shorter := ih earlier (fun k member => seen k (by
        rw [List.take_add_one,List.map_append]
        exact List.mem_append_left _ member))
      cases found : items[n]? with
      | none => rw [List.take_add_one,found,Option.toList_none,List.append_nil,shorter]
      | some item =>
        have old : key item ∈ (items.take m).map key := seen _ (by
          rw [List.take_add_one,found,Option.toList_some,List.map_append]
          exact List.mem_append_right _ (by simp))
        have grown : key item ∈ (items.take n).map key :=
          List.map_subset key (List.take_subset_take_left items earlier) old
        rw [firsts_take_succ key items n item found,if_pos grown,shorter]

/-- Taking first occurrences commutes with a selection that no other item's first occurrence
takes a selected key away from. -/
theorem firsts_filter (keep : α → Bool) (items : List α)
    (own : ∀ item ∈ items, keep item = true → ∀ first ∈ firsts key items, key first = key item → keep first = true) :
    (firsts key items).filter keep = firsts key (items.filter keep) := by
  induction items using List.reverseRecOn with
  | nil => rfl
  | append_singleton items item ih =>
    have grows : ∀ first ∈ firsts key items, first ∈ firsts key (items ++ [item]) := by
      intro first member
      rw [firsts_append_singleton]
      split
      · exact member
      · exact List.mem_append_left _ member
    have before := ih fun earlier member kept first found =>
      own earlier (List.mem_append_left _ member) kept first (grows first found)
    cases kept : keep item with
    | false =>
      have dropped : ¬keep item = true := by simp [kept]
      rw [List.filter_append,List.filter_cons_of_neg dropped,List.filter_nil,List.append_nil,← before,
        firsts_append_singleton]
      split
      · rfl
      · rw [List.filter_append,List.filter_cons_of_neg dropped,List.filter_nil,List.append_nil]
    | true =>
      rw [List.filter_append,List.filter_cons_of_pos kept,List.filter_nil,firsts_append_singleton,
        firsts_append_singleton,← before]
      by_cases seen : key item ∈ (firsts key items).map key
      · obtain ⟨first,member,same⟩ := List.mem_map.mp seen
        have selected := own item (List.mem_append_right _ List.mem_cons_self) kept first (grows first member) same
        rw [if_pos seen,if_pos (List.mem_map.mpr ⟨first,List.mem_filter.mpr ⟨member,selected⟩,same⟩)]
      · have unseen : key item ∉ ((firsts key items).filter keep).map key := fun found =>
          seen (List.map_subset key (List.filter_subset_self _) found)
        rw [if_neg seen,if_neg unseen,List.filter_append,List.filter_cons_of_pos kept,List.filter_nil]

end Distinct
