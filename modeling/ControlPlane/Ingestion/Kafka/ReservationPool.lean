import ControlPlane.Ingestion.Kafka.ReservationLayout
import Mathlib.Logic.Relation

/-! What a reservation table does as calls come in. Only its pool changes, and the pool is
a first-come allocation of blocks of the default size: `poolRangeFor` serves a request of
it, or falls back on the hash of the tenant once nothing is left. -/
namespace ControlPlane.Ingestion.Kafka
open Go Allocation Relation

/-- A fresh table after its pool has been used; blocks are counted from `poolStart`, so
nothing here depends on whether `poolStart` has wrapped around. -/
def withPool (fresh : ReservationTable) (pool : Pool Bytes) : ReservationTable :=
  {fresh with
    poolNext := fresh.poolStart + Int32.ofNat pool.used
    pool := pool.assigned.map fun entry =>
      (entry.1,⟨fresh.poolStart + Int32.ofNat entry.2.start,Int32.ofNat entry.2.size⟩)}

def Step (table next : ReservationTable) : Prop :=
  ∃ tenantID instrument chosen, table.partitionFor tenantID instrument = some (chosen,next)

structure Fresh (table : ReservationTable) (capacity size : Nat) : Prop where
  unused : table.pool = []
  start : table.poolNext = table.poolStart
  capacityValue : table.poolSize = Int32.ofNat capacity
  sizeValue : table.defaultSize = Int32.ofNat size
  someCapacity : 0 < capacity
  someSize : 0 < size
  capacityFits : capacity < 2^31
  sizeFits : size < 2^31

theorem modulo_ofNat (hash : UInt32) (size : Nat) (positive : 0 < size) (fits : size < 2^31) :
    modulo hash (Int32.ofNat size) = some (Int32.ofNat (hash.toNat % size)) := by
  have value : (UInt32.ofNat size).toNat = size := UInt32.toNat_ofNat_of_lt' (by unfold UInt32.size; omega)
  have nonzero : (Int32.ofNat size).toUInt32 ≠ 0 := by
    rw [Int32.toUInt32_ofNat']
    intro zero
    rw [zero] at value
    exact absurd value (by rw [UInt32.toNat_zero]; omega)
  unfold modulo
  rw [if_neg nonzero,Int32.toUInt32_ofNat']
  have remainder : hash % UInt32.ofNat size = UInt32.ofNat (hash.toNat % size) := by
    apply UInt32.toNat_inj.mp
    rw [UInt32.toNat_mod,value,UInt32.toNat_ofNat_of_lt']
    exact Nat.lt_of_lt_of_le (Nat.mod_lt _ positive) (by unfold UInt32.size; omega)
  rw [remainder]
  rfl

theorem modulo_one (hash : UInt32) : modulo hash 1 = some 0 := by
  have one := modulo_ofNat hash 1 (by omega) (by omega)
  rw [Nat.mod_one] at one
  exact one

section
variable {fresh : ReservationTable} {capacity size : Nat}

theorem Fresh.withPool_empty (shape : Fresh fresh capacity size) : withPool fresh .empty = fresh := by
  unfold withPool
  have next : fresh.poolStart + Int32.ofNat 0 = fresh.poolNext := by
    rw [shape.start]
    exact Int32.add_zero _
  simp only [Pool.empty,List.map_nil,next,← shape.unused]

theorem lookup_withPool (pool : Pool Bytes) (tenantID : Bytes) :
    (withPool fresh pool).pool.lookup tenantID = (pool.assigned.lookup tenantID).map fun block =>
      ⟨fresh.poolStart + Int32.ofNat block.start,Int32.ofNat block.size⟩ := by
  unfold withPool
  simp only
  induction pool.assigned with
  | nil => rfl
  | cons entry rest ih =>
    rw [List.map_cons,List.lookup_cons,List.lookup_cons,ih]
    split <;> rfl

/-- The range that a request of the pool stands for. -/
def poolRange (fresh : ReservationTable) (capacity : Nat) (tenantID : Bytes) : Option Block → PartitionRange
  | some block => ⟨fresh.poolStart + Int32.ofNat block.start,Int32.ofNat block.size⟩
  | none => ⟨fresh.poolStart + Int32.ofNat ((hashBytes tenantID).toNat % capacity),1⟩

theorem remaining_withPool (shape : Fresh fresh capacity size) (pool : Pool Bytes) (within : pool.used ≤ capacity) :
    (withPool fresh pool).remaining = Int32.ofNat (capacity - pool.used) := by
  rw [Int32.ofNat_sub _ _ within,← shape.capacityValue]
  change fresh.poolStart + fresh.poolSize - (fresh.poolStart + Int32.ofNat pool.used) = _
  grind

/-- `poolRangeFor` is a request of the pool. -/
theorem poolRangeFor_request (shape : Fresh fresh capacity size) (pool : Pool Bytes)
    (reached : pool.Reached capacity size) (tenantID : Bytes) :
    (withPool fresh pool).poolRangeFor tenantID =
      some (poolRange fresh capacity tenantID (pool.request capacity size tenantID).1,
        withPool fresh (pool.request capacity size tenantID).2) := by
  have within := (reached.valid shape.someSize).within
  have capacityFits := shape.capacityFits
  have sizeFits := shape.sizeFits
  have positive := shape.someSize
  unfold ReservationTable.poolRangeFor Pool.request
  rw [lookup_withPool,remaining_withPool shape pool within]
  cases held : pool.assigned.lookup tenantID with
  | some block => rfl
  | none =>
    have smaller : (withPool fresh pool).defaultSize > Int32.ofNat (capacity - pool.used) ↔
      capacity - pool.used < size := by
      change Int32.ofNat (capacity - pool.used) < fresh.defaultSize ↔ _
      rw [shape.sizeValue,Int32.ofNat_lt_iff_lt (by omega) sizeFits]
    have granted : (if (withPool fresh pool).defaultSize > Int32.ofNat (capacity - pool.used) then
        Int32.ofNat (capacity - pool.used) else (withPool fresh pool).defaultSize) =
        Int32.ofNat (min size (capacity - pool.used)) := by
      split
      · rename_i less
        rw [min_eq_right (smaller.mp less).le]
      · rename_i enough
        rw [smaller] at enough
        rw [min_eq_left (by omega)]
        exact shape.sizeValue
    simp only [granted,Option.map_none]
    have empty : Int32.ofNat (min size (capacity - pool.used)) ≤ 0 ↔ capacity ≤ pool.used := by
      rw [show (0 : Int32) = Int32.ofNat 0 from rfl,Int32.ofNat_le_iff_le (by omega) (by omega)]
      omega
    by_cases full : capacity ≤ pool.used
    · rw [if_pos (empty.mpr full),if_pos full]
      change (modulo _ fresh.poolSize).bind _ = _
      rw [shape.capacityValue,modulo_ofNat _ _ shape.someCapacity capacityFits]
      rfl
    · rw [if_neg (fun less => full (empty.mp less)),if_neg full]
      have advanced : fresh.poolStart + Int32.ofNat pool.used + Int32.ofNat (min size (capacity - pool.used)) =
          fresh.poolStart + Int32.ofNat (pool.used + min size (capacity - pool.used)) := by
        rw [Int32.ofNat_add,Int32.add_assoc]
      simp only [withPool,Pool.next,List.map_cons,poolRange,advanced]

/-- How far behind `poolStart` a call for a tenant without explicit range is sent. -/
def poolOffset (capacity : Nat) (tenantID instrument : Bytes) : Option Block → Nat
  | some block => block.start + (hashBytes instrument).toNat % block.size
  | none => (hashBytes tenantID).toNat % capacity

theorem partitionFor_explicit (table : ReservationTable) (tenantID instrument : Bytes) (rng : PartitionRange)
    (held : table.explicit.lookup tenantID = some rng) (positive : 0 < rng.size.toInt) :
    table.partitionFor tenantID instrument =
      some (rng.start + Int32.ofNat ((hashBytes instrument).toNat % rng.size.toNatClampNeg),table) := by
  have value : Int32.ofNat rng.size.toNatClampNeg = rng.size :=
    Int32.ofNat_toNatClampNeg _ (Int32.le_iff_toInt_le.mpr positive.le)
  have bound := rng.size.toInt_lt
  have offset := modulo_ofNat (hashBytes instrument) rng.size.toNatClampNeg
    (by rw [← Int32.toNat_toInt]; omega) (by rw [← Int32.toNat_toInt]; omega)
  rw [value] at offset
  unfold ReservationTable.partitionFor ReservationTable.rangeFor
  rw [held]
  change (modulo _ rng.size).bind _ = _
  rw [offset]
  rfl

theorem partitionFor_pool (shape : Fresh fresh capacity size) (pool : Pool Bytes) (reached : pool.Reached capacity size)
    (tenantID instrument : Bytes) (absent : fresh.explicit.lookup tenantID = none) :
    (withPool fresh pool).partitionFor tenantID instrument =
      some (fresh.poolStart + Int32.ofNat (poolOffset capacity tenantID instrument
        (pool.request capacity size tenantID).1),
        withPool fresh (pool.request capacity size tenantID).2) := by
  have capacityFits := shape.capacityFits
  unfold ReservationTable.partitionFor ReservationTable.rangeFor
  rw [show (withPool fresh pool).explicit.lookup tenantID = none from absent]
  simp only [poolRangeFor_request shape pool reached tenantID]
  change (modulo _ (poolRange fresh capacity tenantID _).size).bind _ = _
  cases served : (pool.request capacity size tenantID).1 with
  | none =>
    unfold poolRange poolOffset
    simp only [modulo_one]
    change some (fresh.poolStart + Int32.ofNat _ + 0,_) = _
    rw [Int32.add_zero]
  | some block =>
    obtain ⟨nonempty,bound⟩ := reached.served shape.someSize tenantID block served
    unfold poolRange poolOffset
    simp only [modulo_ofNat _ block.size nonempty (by omega)]
    change some (fresh.poolStart + Int32.ofNat _ + Int32.ofNat _,_) = _
    rw [Int32.ofNat_add,Int32.add_assoc]

/-- Whatever calls have come in, the table is the fresh one with a used pool. -/
theorem reached_pool (shape : Fresh fresh capacity size) (positive : ∀ entry ∈ fresh.explicit, 0 < entry.2.size.toInt)
    (table : ReservationTable) (steps : ReflTransGen Step fresh table) :
    ∃ pool : Pool Bytes, pool.Reached capacity size ∧ table = withPool fresh pool := by
  induction steps with
  | refl => exact ⟨.empty,.refl,shape.withPool_empty.symm⟩
  | tail _ step ih =>
    obtain ⟨pool,reached,rfl⟩ := ih
    obtain ⟨tenantID,instrument,chosen,served⟩ := step
    cases held : fresh.explicit.lookup tenantID with
    | some rng =>
      rw [partitionFor_explicit (withPool fresh pool) tenantID instrument rng held
        (positive (tenantID,rng) (mem_of_lookup held))] at served
      exact ⟨pool,reached,(Prod.mk.inj (Option.some.inj served)).2.symm⟩
    | none =>
      rw [partitionFor_pool shape pool reached tenantID instrument held] at served
      exact ⟨_,reached.request tenantID,(Prod.mk.inj (Option.some.inj served)).2.symm⟩

end

theorem fresh_table (reserved : TenantPartitionConfig) (defaultSize totalPartitions : Int32)
    (positive : 1 ≤ totalPartitions.toInt)
    (room : 0 < (newReservationTable reserved defaultSize totalPartitions).poolSize.toInt) :
    Fresh (newReservationTable reserved defaultSize totalPartitions)
      (newReservationTable reserved defaultSize totalPartitions).poolSize.toNatClampNeg
      (newReservationTable reserved defaultSize totalPartitions).defaultSize.toNatClampNeg := by
  have size := defaultSize_positive reserved defaultSize totalPartitions positive
  have capacityBound := (newReservationTable reserved defaultSize totalPartitions).poolSize.toInt_lt
  have sizeBound := (newReservationTable reserved defaultSize totalPartitions).defaultSize.toInt_lt
  refine ⟨rfl,rfl,(Int32.ofNat_toNatClampNeg _ (Int32.le_iff_toInt_le.mpr room.le)).symm,
    (Int32.ofNat_toNatClampNeg _ (Int32.le_iff_toInt_le.mpr size.le)).symm,?_,?_,?_,?_⟩
  · rw [← Int32.toNat_toInt]
    omega
  · rw [← Int32.toNat_toInt]
    omega
  · rw [← Int32.toNat_toInt]
    omega
  · rw [← Int32.toNat_toInt]
    omega

end ControlPlane.Ingestion.Kafka
