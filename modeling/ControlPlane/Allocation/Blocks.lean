import Mathlib.Data.List.Basic
import Mathlib.Data.List.Pairwise
import Mathlib.Logic.Relation
import Mathlib.Tactic.Linarith

/-! Blocks of consecutive cells handed out from a region of given capacity. `layout` serves
a list of requests in order and clips the one that crosses the end; a `Pool` serves requests
of one size as they come, and the same key the same block again. -/
namespace Allocation

structure Block where
  start : Nat
  size : Nat
  deriving DecidableEq, Repr

def Block.Contains (block : Block) (cell : Nat) : Prop := block.start ≤ cell ∧ cell < block.start + block.size

variable {κ : Type}

def total (items : List (κ × Nat)) : Nat := (items.map (·.2)).sum

@[simp] theorem total_nil : total ([] : List (κ × Nat)) = 0 := rfl

@[simp] theorem total_cons (item : κ × Nat) (rest : List (κ × Nat)) : total (item::rest) = item.2 + total rest := rfl

def layout (capacity : Nat) : Nat → List (κ × Nat) → List (κ × Block)
  | _,[] => []
  | cursor,(key,count)::rest =>
    if capacity ≤ cursor then []
    else (key,⟨cursor,min count (capacity-cursor)⟩)::layout capacity (cursor+min count (capacity-cursor)) rest

theorem layout_full (capacity cursor : Nat) (items : List (κ × Nat)) (full : capacity ≤ cursor) :
    layout capacity cursor items = [] := by
  cases items with
  | nil => rfl
  | cons item rest => rw [layout,if_pos full]

/-- A request gets a block exactly when the requests before it leave a cell, and the block
starts where they end. -/
theorem mem_layout (capacity cursor : Nat) (items : List (κ × Nat)) (key : κ) (block : Block) :
    (key,block) ∈ layout capacity cursor items ↔
      ∃ before count after, items = before ++ (key,count)::after ∧ cursor + total before < capacity ∧
        block = ⟨cursor + total before,min count (capacity - (cursor + total before))⟩ := by
  induction items generalizing cursor with
  | nil => simp [layout]
  | cons item rest ih =>
    obtain ⟨head,size⟩ := item
    by_cases full : capacity ≤ cursor
    · rw [layout_full capacity cursor _ full]
      constructor
      · intro member
        exact absurd member List.not_mem_nil
      · rintro ⟨before,count,after,-,room,-⟩
        omega
    · rw [layout,if_neg full,List.mem_cons,ih]
      constructor
      · rintro (first | ⟨before,count,after,split,room,shape⟩)
        · obtain ⟨rfl,rfl⟩ := Prod.mk.inj first
          exact ⟨[],size,rest,rfl,by rw [total_nil]; omega,by rw [total_nil,Nat.add_zero]⟩
        · have unclipped : min size (capacity-cursor) = size := by omega
          rw [unclipped] at room shape
          refine ⟨(head,size)::before,count,after,by rw [split,List.cons_append],?_,?_⟩
          · rw [total_cons]
            omega
          · rw [shape,total_cons,Nat.add_assoc]
      · rintro ⟨before,count,after,split,room,shape⟩
        cases before with
        | nil =>
          obtain ⟨same,-⟩ := List.cons.inj split
          obtain ⟨rfl,rfl⟩ := Prod.mk.inj same
          rw [total_nil,Nat.add_zero] at shape
          exact Or.inl (by rw [shape])
        | cons other before =>
          obtain ⟨rfl,tail⟩ := List.cons.inj split
          rw [total_cons] at room shape
          have unclipped : min size (capacity-cursor) = size := by omega
          refine Or.inr ⟨before,count,after,tail,?_,?_⟩
          · rw [unclipped]
            omega
          · rw [unclipped,shape,Nat.add_assoc]

theorem layout_bounds (capacity cursor : Nat) (items : List (κ × Nat)) (entry : κ × Block)
    (member : entry ∈ layout capacity cursor items) :
    cursor ≤ entry.2.start ∧ entry.2.start + entry.2.size ≤ capacity := by
  obtain ⟨before,count,after,-,room,shape⟩ := (mem_layout capacity cursor items entry.1 entry.2).mp member
  rw [shape]
  constructor
  · exact Nat.le_add_right _ _
  · change cursor + total before + min count _ ≤ capacity
    omega

theorem layout_end (capacity cursor : Nat) (items : List (κ × Nat)) (entry : κ × Block)
    (member : entry ∈ layout capacity cursor items) : entry.2.start + entry.2.size ≤ cursor + total items := by
  obtain ⟨before,count,after,rfl,room,shape⟩ := (mem_layout capacity cursor items entry.1 entry.2).mp member
  have sum : total (before ++ (entry.1,count)::after) = total before + (count + total after) := by
    simp [total]
  rw [shape,sum]
  change cursor + total before + min count _ ≤ _
  omega

theorem layout_apart (capacity cursor : Nat) (items : List (κ × Nat)) :
    (layout capacity cursor items).Pairwise
      (fun earlier later => earlier.2.start + earlier.2.size ≤ later.2.start) := by
  induction items generalizing cursor with
  | nil => exact .nil
  | cons item rest ih =>
    by_cases full : capacity ≤ cursor
    · rw [layout_full capacity cursor _ full]
      exact .nil
    · rw [layout,if_neg full]
      refine List.pairwise_cons.mpr ⟨?_,ih _⟩
      intro later member
      exact (layout_bounds _ _ _ later member).1

def Apart (one other : κ × Block) : Prop :=
  one.2.start + one.2.size ≤ other.2.start ∨ other.2.start + other.2.size ≤ one.2.start

instance : Std.Symm (Apart : κ × Block → κ × Block → Prop) := ⟨fun _ _ order => order.symm⟩

/-- Of blocks that lie one after the other, different ones have no cell in common. -/
theorem disjoint_of_apart {entries : List (κ × Block)} (apart : entries.Pairwise Apart) {left right : κ × Block}
    (member : left ∈ entries) (also : right ∈ entries) (different : left ≠ right) (cell : Nat)
    (inside : left.2.Contains cell) :
    ¬right.2.Contains cell := by
  have either : Apart left right := apart.forall member also different
  unfold Apart at either
  rintro ⟨low,high⟩
  obtain ⟨lower,higher⟩ := inside
  omega

theorem layout_keys (capacity cursor : Nat) (items : List (κ × Nat)) :
    ((layout capacity cursor items).map (·.1)).Sublist (items.map (·.1)) := by
  induction items generalizing cursor with
  | nil => exact .slnil
  | cons item rest ih =>
    by_cases full : capacity ≤ cursor
    · rw [layout_full capacity cursor _ full]
      exact List.nil_sublist _
    · rw [layout,if_neg full]
      exact (ih _).cons_cons item.1

/-- The blocks leave no cell out up to the end of the last request or of the region. -/
theorem layout_covers (capacity cursor : Nat) (items : List (κ × Nat)) (cell : Nat) (low : cursor ≤ cell)
    (inside : cell < capacity) (high : cell < cursor + total items) :
    ∃ entry ∈ layout capacity cursor items, entry.2.Contains cell := by
  induction items generalizing cursor with
  | nil =>
    rw [total_nil] at high
    omega
  | cons item rest ih =>
    rw [total_cons] at high
    rw [layout,if_neg (by omega)]
    rcases Nat.lt_or_ge cell (cursor + min item.2 (capacity-cursor)) with here | beyond
    · exact ⟨_,List.mem_cons_self,low,here⟩
    · obtain ⟨entry,member,contains⟩ := ih _ beyond (by omega)
      exact ⟨entry,List.mem_cons_of_mem _ member,contains⟩

structure Pool (κ : Type) where
  used : Nat
  assigned : List (κ × Block)

def Pool.empty : Pool κ := ⟨0,[]⟩

def Pool.next (capacity size : Nat) (pool : Pool κ) : Block := ⟨pool.used,min size (capacity-pool.used)⟩

structure Pool.Valid (capacity : Nat) (pool : Pool κ) : Prop where
  within : pool.used ≤ capacity
  inside : ∀ entry ∈ pool.assigned, 0 < entry.2.size ∧ entry.2.start + entry.2.size ≤ pool.used
  apart : pool.assigned.Pairwise (fun later earlier => earlier.2.start + earlier.2.size ≤ later.2.start)

theorem Pool.empty_valid (capacity : Nat) : (Pool.empty : Pool κ).Valid capacity :=
  ⟨Nat.zero_le _,nofun,.nil⟩

section
variable [BEq κ]

/-- `none` when nothing is left; such a request leaves the pool as it was. -/
def Pool.request (capacity size : Nat) (pool : Pool κ) (key : κ) : Option Block × Pool κ :=
  match pool.assigned.lookup key with
  | some block => (some block,pool)
  | none =>
    if capacity ≤ pool.used then (none,pool)
    else (some (pool.next capacity size),
      ⟨pool.used + (pool.next capacity size).size,(key,pool.next capacity size)::pool.assigned⟩)

theorem Pool.request_valid (capacity size : Nat) (positive : 0 < size) (pool : Pool κ) (valid : pool.Valid capacity)
    (key : κ) : (pool.request capacity size key).2.Valid capacity := by
  unfold Pool.request
  split
  · exact valid
  · split
    · exact valid
    · rename_i room
      refine ⟨?_,?_,List.pairwise_cons.mpr ⟨?_,valid.apart⟩⟩
      · change pool.used + min size (capacity-pool.used) ≤ capacity
        omega
      · intro entry member
        rcases List.mem_cons.mp member with rfl | old
        · exact ⟨show 0 < min size (capacity-pool.used) by omega,Nat.le_refl _⟩
        · obtain ⟨nonempty,bound⟩ := valid.inside entry old
          exact ⟨nonempty,Nat.le_add_right_of_le bound⟩
      · intro earlier old
        exact (valid.inside earlier old).2

/-- Requests lead from one pool to the other. -/
def Pool.Later (capacity size : Nat) : Pool κ → Pool κ → Prop :=
  Relation.ReflTransGen fun before after => ∃ key, after = (before.request capacity size key).2

/-- The pools that requests lead to. -/
def Pool.Reached (capacity size : Nat) (pool : Pool κ) : Prop := Pool.Later capacity size .empty pool

theorem Pool.Reached.request {capacity size : Nat} {pool : Pool κ} (reached : pool.Reached capacity size) (key : κ) :
    (pool.request capacity size key).2.Reached capacity size :=
  reached.tail ⟨key,rfl⟩

theorem Pool.Reached.valid {capacity size : Nat} (positive : 0 < size) {pool : Pool κ}
    (reached : pool.Reached capacity size) : pool.Valid capacity := by
  induction reached with
  | refl => exact Pool.empty_valid capacity
  | tail _ step ih =>
    obtain ⟨key,rfl⟩ := step
    exact Pool.request_valid capacity size positive _ ih key

/-- Where one block takes everything, the pool is empty or belongs to one key. -/
theorem Pool.Reached.whole {capacity size : Nat} (large : capacity ≤ size) {pool : Pool κ}
    (reached : pool.Reached capacity size) :
    pool = .empty ∨ ∃ key, pool = ⟨capacity,[(key,⟨0,capacity⟩)]⟩ := by
  induction reached with
  | refl => exact Or.inl rfl
  | tail _ step ih =>
    obtain ⟨key,rfl⟩ := step
    rcases ih with rfl | ⟨owner,rfl⟩
    · unfold Pool.request Pool.next
      simp only [Pool.empty,List.lookup_nil,Nat.sub_zero,Nat.zero_add,min_eq_right large]
      split
      · exact Or.inl rfl
      · exact Or.inr ⟨key,rfl⟩
    · unfold Pool.request
      split
      · exact Or.inr ⟨owner,rfl⟩
      · rw [if_pos (Nat.le_refl _)]
        exact Or.inr ⟨owner,rfl⟩

/-- Once nothing is left, requests change nothing. -/
theorem Pool.full_stays (capacity size : Nat) (pool final : Pool κ) (full : capacity ≤ pool.used)
    (later : Pool.Later capacity size pool final) :
    final = pool := by
  induction later with
  | refl => rfl
  | tail _ step ih =>
    obtain ⟨key,rfl⟩ := step
    subst ih
    unfold Pool.request
    split
    · rfl
    · rw [if_pos full]

variable [LawfulBEq κ]

theorem Pool.request_assigned (capacity size : Nat) (pool : Pool κ) (key : κ) (block : Block)
    (served : (pool.request capacity size key).1 = some block) :
    (pool.request capacity size key).2.assigned.lookup key = some block := by
  unfold Pool.request at served ⊢
  cases found : pool.assigned.lookup key with
  | some old =>
    simp only [found] at served ⊢
    exact served
  | none =>
    simp only [found] at served ⊢
    split at served
    · contradiction
    · rename_i room
      rw [if_neg room,← served]
      exact List.lookup_cons_self

theorem Pool.request_keeps (capacity size : Nat) (pool : Pool κ) (key other : κ) (block : Block)
    (held : pool.assigned.lookup other = some block) :
    (pool.request capacity size key).2.assigned.lookup other = some block := by
  unfold Pool.request
  cases found : pool.assigned.lookup key with
  | some old => exact held
  | none =>
    simp only
    split
    · exact held
    · have different : (other == key) = false := by
        rw [beq_eq_false_iff_ne]
        rintro rfl
        rw [found] at held
        contradiction
      simp only [List.lookup_cons,different]
      exact held

theorem mem_of_lookup {ν : Type} {entries : List (κ × ν)} {key : κ} {value : ν}
    (found : entries.lookup key = some value) : (key,value) ∈ entries := by
  obtain ⟨before,after,split,_⟩ := List.lookup_eq_some_iff.mp found
  rw [split]
  exact List.mem_append_right _ List.mem_cons_self

theorem lookup_of_mem {ν : Type} {entries : List (κ × ν)} (distinct : (entries.map (·.1)).Nodup) {key : κ} {value : ν}
    (member : (key,value) ∈ entries) : entries.lookup key = some value := by
  obtain ⟨before,after,split⟩ := List.append_of_mem member
  refine List.lookup_eq_some_iff.mpr ⟨before,after,split,?_⟩
  intro entry earlier
  rw [split,List.map_append,List.map_cons,List.nodup_append] at distinct
  rw [bne_iff_ne]
  exact (distinct.2.2 _ (List.mem_map_of_mem earlier) _ List.mem_cons_self).symm

/-- A block that a request is served with lies in the region and is not empty. -/
theorem Pool.Reached.served {capacity size : Nat} (positive : 0 < size) {pool : Pool κ}
    (reached : pool.Reached capacity size) (key : κ) (block : Block)
    (served : (pool.request capacity size key).1 = some block) :
    0 < block.size ∧ block.start + block.size ≤ capacity := by
  have valid := (reached.request key).valid positive
  have member := mem_of_lookup (Pool.request_assigned capacity size pool key block served)
  obtain ⟨nonempty,bound⟩ := valid.inside _ member
  exact ⟨nonempty,Nat.le_trans bound valid.within⟩

/-- A request is answered by what the pool holds for its key in the end, whatever is
requested after it. -/
theorem Pool.request_final (capacity size : Nat) (pool final : Pool κ) (key : κ)
    (later : Pool.Later capacity size (pool.request capacity size key).2 final) :
    (pool.request capacity size key).1 = final.assigned.lookup key := by
  cases served : (pool.request capacity size key).1 with
  | some block =>
    have held := Pool.request_assigned capacity size pool key block served
    symm
    induction later with
    | refl => exact held
    | tail _ step ih =>
      obtain ⟨other,rfl⟩ := step
      exact Pool.request_keeps capacity size _ other key block ih
  | none =>
    obtain ⟨full,missing,same⟩ : capacity ≤ pool.used ∧ pool.assigned.lookup key = none ∧
        (pool.request capacity size key).2 = pool := by
      unfold Pool.request at served ⊢
      cases held : pool.assigned.lookup key with
      | some block => simp [held] at served
      | none =>
        by_cases full : capacity ≤ pool.used
        · simp [full]
        · simp [held,full] at served
    rw [same] at later
    rw [Pool.full_stays capacity size pool final full later,missing]

/-- Blocks of different keys have no cell in common. -/
theorem Pool.disjoint {capacity : Nat} {pool : Pool κ} (valid : pool.Valid capacity) {first second : κ}
    {left right : Block} (different : first ≠ second) (held : pool.assigned.lookup first = some left)
    (other : pool.assigned.lookup second = some right) (cell : Nat) (inside : left.Contains cell) :
    ¬right.Contains cell := by
  refine disjoint_of_apart (valid.apart.imp Or.inr) (mem_of_lookup held) (mem_of_lookup other) ?_ cell inside
  intro same
  exact different (congrArg Prod.fst same)

end

end Allocation
