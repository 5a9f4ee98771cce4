import ControlPlane.Allocation.Blocks
import ControlPlane.Ingestion.Kafka.Partitioner

/-! What `newReservationTable` lays out. As long as no sum of its `int32` cursor overflows,
the explicit ranges are the consecutive blocks of the reserved counts, in the order of the
tenant ids, cut off one partition before the end of the topic; the pool is the rest. -/
namespace ControlPlane.Ingestion.Kafka
open Go Allocation

section
variable (reserved : TenantPartitionConfig)

/-- A reserved count, taken as at least one. -/
def countOf (tenantID : Bytes) : Nat :=
  (if reserved.get tenantID < 1 then 1 else reserved.get tenantID).toNatClampNeg

def demand : List (Bytes × Nat) :=
  (sortStrings reserved.tenantIDs).map fun tenantID => (tenantID,countOf reserved tenantID)

end

/-- The partitions that explicit ranges may take. -/
def capacityOf (totalPartitions : Nat) : Nat := if 1 < totalPartitions then totalPartitions - 1 else totalPartitions

def rangeOf (block : Block) : PartitionRange := ⟨Int32.ofNat block.start,Int32.ofNat block.size⟩

/-- The cursor never passes the largest `int32` before it reaches the capacity. -/
def NoOverflow (capacity cursor : Nat) (items : List (Bytes × Nat)) : Prop :=
  ∀ before tenantID count after, items = before ++ (tenantID,count)::after →
    cursor + total before < capacity → cursor + total before + count < 2^31

theorem countOf_ofNat (reserved : TenantPartitionConfig) (tenantID : Bytes) :
    Int32.ofNat (countOf reserved tenantID) = if reserved.get tenantID < 1 then 1 else reserved.get tenantID := by
  unfold countOf
  split
  · rfl
  · rename_i small
    rw [Int32.not_lt] at small
    exact Int32.ofNat_toNatClampNeg _ (Int32.le_trans (by decide) small)

theorem countOf_bounds (reserved : TenantPartitionConfig) (tenantID : Bytes) :
    1 ≤ countOf reserved tenantID ∧ countOf reserved tenantID < 2^31 := by
  unfold countOf
  split
  · decide
  · rename_i small
    rw [Int32.not_lt,Int32.le_iff_toInt_le,one32] at small
    have bound := (reserved.get tenantID).toInt_lt
    rw [← Int32.toNat_toInt]
    omega

theorem grantedSize_value (reserved : TenantPartitionConfig) (capacity cursor : Nat) (tenantID : Bytes)
    (small : capacity < 2^31) (room : cursor < capacity) (fits : cursor + countOf reserved tenantID < 2^31) :
    grantedSize reserved (Int32.ofNat capacity) (Int32.ofNat cursor) tenantID =
      Int32.ofNat (min (countOf reserved tenantID) (capacity-cursor)) := by
  unfold grantedSize
  rw [← countOf_ofNat]
  simp only [← Int32.ofNat_add,gt_iff_lt,Int32.ofNat_lt_iff_lt small fits]
  split
  · rw [← Int32.ofNat_sub _ _ room.le,min_eq_right (by omega)]
  · rw [min_eq_left (by omega)]

theorem NoOverflow.tail {capacity cursor count : Nat} {tenantID : Bytes} {rest : List (Bytes × Nat)}
    (safe : NoOverflow capacity cursor ((tenantID,count)::rest)) :
    NoOverflow capacity (cursor + min count (capacity-cursor)) rest := by
  intro before other size after split room
  have unclipped : min count (capacity-cursor) = count := by omega
  rw [unclipped] at room ⊢
  have fits := safe ((tenantID,count)::before) other size after (by rw [split,List.cons_append])
  rw [total_cons] at fits
  have bound := fits (by omega)
  omega

/-- The carving loop lays the counts out as consecutive blocks. -/
theorem carve_layout (reserved : TenantPartitionConfig) (capacity : Nat) (small : capacity < 2^31) (cursor : Nat)
    (start : cursor ≤ capacity) (tenants : List Bytes)
    (safe : NoOverflow capacity cursor (tenants.map fun tenantID => (tenantID,countOf reserved tenantID))) :
    (carve reserved (Int32.ofNat capacity) (Int32.ofNat cursor) tenants).explicit =
      (layout capacity cursor (tenants.map fun tenantID => (tenantID,countOf reserved tenantID))).map
        (fun entry => (entry.1,rangeOf entry.2)) ∧
    (carve reserved (Int32.ofNat capacity) (Int32.ofNat cursor) tenants).cursor =
      Int32.ofNat (min capacity
        (cursor + total (tenants.map fun tenantID => (tenantID,countOf reserved tenantID)))) := by
  induction tenants generalizing cursor with
  | nil =>
    rw [List.map_nil,total_nil,Nat.add_zero,min_eq_right start]
    exact ⟨rfl,rfl⟩
  | cons tenantID rest ih =>
    rw [List.map_cons] at safe ⊢
    rw [total_cons]
    by_cases full : capacity ≤ cursor
    · have stop : Int32.ofNat cursor ≥ Int32.ofNat capacity :=
        (Int32.ofNat_le_iff_le small (by omega)).mpr full
      rw [carve,if_pos stop,layout_full _ _ _ full,min_eq_left (by omega),le_antisymm start full]
      exact ⟨rfl,rfl⟩
    · have go : ¬Int32.ofNat cursor ≥ Int32.ofNat capacity := by
        rw [ge_iff_le,Int32.ofNat_le_iff_le small (by omega)]
        exact full
      have fits := safe [] tenantID _ _ rfl (by rw [total_nil]; omega)
      rw [total_nil,Nat.add_zero] at fits
      obtain ⟨ranges,final⟩ := ih (cursor + min (countOf reserved tenantID) (capacity-cursor)) (by omega) safe.tail
      rw [carve,if_neg go]
      simp only
      rw [grantedSize_value reserved capacity cursor tenantID small (by omega) fits,← Int32.ofNat_add,ranges,final,
        layout,if_neg full,List.map_cons]
      refine ⟨rfl,?_⟩
      congr 1
      omega

/-- Whatever overflows, a granted size is positive and the cursor stays below the capacity. -/
theorem grantedSize_positive (reserved : TenantPartitionConfig) (capacity cursor : Int32) (tenantID : Bytes)
    (positive : 0 < capacity.toInt) (room : cursor.toInt < capacity.toInt) :
    0 < (grantedSize reserved capacity cursor tenantID).toInt ∧
      (cursor + grantedSize reserved capacity cursor tenantID).toInt ≤ capacity.toInt := by
  have count : 1 ≤ (if reserved.get tenantID < 1 then (1 : Int32) else reserved.get tenantID).toInt := by
    split
    · decide
    · rename_i large
      rw [Int32.not_lt,Int32.le_iff_toInt_le,one32] at large
      exact large
  unfold grantedSize
  generalize (if reserved.get tenantID < 1 then (1 : Int32) else reserved.get tenantID) = size at count ⊢
  simp only [gt_iff_lt,Int32.lt_iff_toInt_lt]
  have sum := add32_cases cursor size
  have rest := sub32_cases capacity cursor
  have sizeRange := fits_toInt32 size
  have cursorRange := fits_toInt32 cursor
  unfold FitsInt32 at *
  split
  · refine ⟨by omega,?_⟩
    rw [show cursor + (capacity - cursor) = capacity by grind]
  · omega

theorem carve_positive (reserved : TenantPartitionConfig) (capacity cursor : Int32) (tenants : List Bytes)
    (positive : 0 < capacity.toInt) (start : cursor.toInt ≤ capacity.toInt) :
    (∀ entry ∈ (carve reserved capacity cursor tenants).explicit, 0 < entry.2.size.toInt) ∧
      (carve reserved capacity cursor tenants).cursor.toInt ≤ capacity.toInt := by
  induction tenants generalizing cursor with
  | nil => exact ⟨nofun,start⟩
  | cons tenantID rest ih =>
    by_cases full : cursor ≥ capacity
    · rw [carve,if_pos full]
      exact ⟨nofun,start⟩
    · rw [carve,if_neg full]
      rw [ge_iff_le,Int32.le_iff_toInt_le,not_le] at full
      obtain ⟨granted,bound⟩ := grantedSize_positive reserved capacity cursor tenantID positive full
      obtain ⟨ranges,final⟩ := ih _ bound
      refine ⟨?_,final⟩
      intro entry member
      rcases List.mem_cons.mp member with rfl | later
      · exact granted
      · exact ranges entry later

theorem explicitCapacity_value (totalPartitions : Int32) (positive : 1 ≤ totalPartitions.toInt) :
    (explicitCapacity totalPartitions).toInt =
      if 1 < totalPartitions.toInt then totalPartitions.toInt - 1 else totalPartitions.toInt := by
  have range := fits_toInt32 totalPartitions
  unfold FitsInt32 at range
  unfold explicitCapacity
  simp only [gt_iff_lt,Int32.lt_iff_toInt_lt,one32]
  split
  · rw [sub32 _ _ (by unfold FitsInt32; rw [one32]; omega)]
    rfl
  · rfl

theorem capacityOf_le (total : Nat) : capacityOf total ≤ total := by
  unfold capacityOf
  split
  · omega
  · omega

theorem explicitCapacity_ofNat (total : Nat) (positive : 1 ≤ total) (small : total < 2^31) :
    explicitCapacity (Int32.ofNat total) = Int32.ofNat (capacityOf total) := by
  have value : (Int32.ofNat total).toInt = total := Int32.toInt_ofNat_of_lt small
  have bound := capacityOf_le total
  apply Int32.toInt_inj.mp
  rw [explicitCapacity_value _ (by omega),value,Int32.toInt_ofNat_of_lt (by omega)]
  unfold capacityOf
  split
  · rw [if_pos (by omega)]
    omega
  · rw [if_neg (by omega)]

section
variable (reserved : TenantPartitionConfig) (defaultSize totalPartitions : Int32)

def carving : Carving := carve reserved (explicitCapacity totalPartitions) 0 (sortStrings reserved.tenantIDs)

theorem newReservationTable_eq (positive : 1 ≤ totalPartitions.toInt) :
    newReservationTable reserved defaultSize totalPartitions =
      { totalPartitions
        defaultSize := if defaultSize < 1 then defaultPartitionsPerTenant else defaultSize
        explicit := (carving reserved totalPartitions).explicit
        poolStart := (carving reserved totalPartitions).cursor
        poolSize := totalPartitions - (carving reserved totalPartitions).cursor
        poolNext := (carving reserved totalPartitions).cursor
        pool := []
        droppedTenants := (carving reserved totalPartitions).droppedTenants } := by
  have large : ¬totalPartitions < 1 := by
    rw [Int32.lt_iff_toInt_lt,one32]
    omega
  unfold newReservationTable
  rw [if_neg large]
  rfl

theorem explicitCapacity_positive (positive : 1 ≤ totalPartitions.toInt) :
    0 < (explicitCapacity totalPartitions).toInt := by
  rw [explicitCapacity_value totalPartitions positive]
  split
  · omega
  · omega

theorem explicit_positive (positive : 1 ≤ totalPartitions.toInt) :
    ∀ entry ∈ (newReservationTable reserved defaultSize totalPartitions).explicit, 0 < entry.2.size.toInt := by
  have capacity := explicitCapacity_positive totalPartitions positive
  rw [newReservationTable_eq reserved defaultSize totalPartitions positive]
  exact (carve_positive reserved _ 0 _ capacity capacity.le).1

theorem poolSize_nonzero (two : 2 ≤ totalPartitions.toInt) :
    (newReservationTable reserved defaultSize totalPartitions).poolSize.toInt ≠ 0 := by
  have positive : 1 ≤ totalPartitions.toInt := by omega
  have capacity := explicitCapacity_positive totalPartitions positive
  have bound := (carve_positive reserved _ 0 (sortStrings reserved.tenantIDs) capacity capacity.le).2
  rw [explicitCapacity_value totalPartitions positive,if_pos (by omega)] at bound
  rw [newReservationTable_eq reserved defaultSize totalPartitions positive]
  change (totalPartitions - (carving reserved totalPartitions).cursor).toInt ≠ 0
  change (carving reserved totalPartitions).cursor.toInt ≤ totalPartitions.toInt - 1 at bound
  have difference := sub32_cases totalPartitions (carving reserved totalPartitions).cursor
  have range := fits_toInt32 (carving reserved totalPartitions).cursor
  have total := fits_toInt32 totalPartitions
  unfold FitsInt32 at range total
  omega

theorem defaultSize_positive (positive : 1 ≤ totalPartitions.toInt) :
    0 < (newReservationTable reserved defaultSize totalPartitions).defaultSize.toInt := by
  rw [newReservationTable_eq reserved defaultSize totalPartitions positive]
  change 0 < (if defaultSize < 1 then defaultPartitionsPerTenant else defaultSize).toInt
  split
  · decide
  · rename_i large
    rw [Int32.not_lt,Int32.le_iff_toInt_le,one32] at large
    omega

/-- The layout of a table whose carving does not overflow. -/
theorem table_layout (total : Nat) (positive : 1 ≤ total) (fits : total < 2^31)
    (safe : NoOverflow (capacityOf total) 0 (demand reserved)) :
    (newReservationTable reserved defaultSize (Int32.ofNat total)).explicit =
      (layout (capacityOf total) 0 (demand reserved)).map (fun entry => (entry.1,rangeOf entry.2)) ∧
    (newReservationTable reserved defaultSize (Int32.ofNat total)).poolStart =
      Int32.ofNat (min (capacityOf total) (Allocation.total (demand reserved))) ∧
    (newReservationTable reserved defaultSize (Int32.ofNat total)).poolSize =
      Int32.ofNat (total - min (capacityOf total) (Allocation.total (demand reserved))) := by
  have value : (Int32.ofNat total).toInt = total := Int32.toInt_ofNat_of_lt fits
  have small := capacityOf_le total
  obtain ⟨ranges,final⟩ := carve_layout reserved (capacityOf total) (by omega) 0 (Nat.zero_le _) _ safe
  rw [Nat.zero_add] at final
  rw [newReservationTable_eq reserved defaultSize _ (by omega)]
  unfold carving
  rw [explicitCapacity_ofNat total positive fits]
  refine ⟨ranges,final,?_⟩
  change Int32.ofNat total - (carve reserved (Int32.ofNat (capacityOf total)) (Int32.ofNat 0) _).cursor = _
  rw [final,Int32.ofNat_sub _ _ (Nat.le_trans (Nat.min_le_left _ _) small)]
  rfl

end

end ControlPlane.Ingestion.Kafka
