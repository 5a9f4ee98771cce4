import ControlPlane.Ingestion.Kafka.ReservationPool
import Mathlib.Data.Fintype.EquivFin

/-! Which keys are routed independently of what else arrives. A tenant with an explicit
range is; a pool tenant takes whatever block the pool has left when it first publishes,
so it is only where the pool is a single block and both ways of choosing a partition in it
agree. -/
namespace ControlPlane.Ingestion.Kafka
open Go Allocation Relation

/-- The tenant's partition for the instrument does not depend on the state of the pool. A
negative pool size, which needs an overflow, leaves nothing to hand out. -/
def Settled (table : ReservationTable) (tenantID instrument : Bytes) : Prop :=
  (table.explicit.lookup tenantID).isSome = true ∨ table.poolSize.toInt < 0 ∨
    table.poolSize.toInt ≤ table.defaultSize.toInt ∧
      (hashBytes instrument).toNat % table.poolSize.toNatClampNeg =
        (hashBytes tenantID).toNat % table.poolSize.toNatClampNeg

def chosen (table : ReservationTable) (tenantID instrument : Bytes) : Option Int32 :=
  (table.partitionFor tenantID instrument).map (·.1)

theorem modulo_some (hash : UInt32) (size : Int32) (nonzero : size.toInt ≠ 0) :
    ∃ offset, modulo hash size = some offset := by
  unfold modulo
  rw [if_neg]
  · exact ⟨_,rfl⟩
  · intro zero
    apply nonzero
    rw [show size = ⟨size.toUInt32⟩ from rfl,zero]
    rfl

theorem partitionFor_some (table next : ReservationTable) (tenantID instrument : Bytes) (partition : Int32) :
    table.partitionFor tenantID instrument = some (partition,next) ↔
      ∃ rng offset, table.rangeFor tenantID = some (rng,next) ∧
        modulo (hashBytes instrument) rng.size = some offset ∧ partition = rng.start + offset := by
  unfold ReservationTable.partitionFor
  simp only [Option.bind_eq_bind,Option.bind_eq_some_iff,pure,Option.some.injEq,Prod.mk.injEq,Prod.exists]
  constructor
  · rintro ⟨rng,after,found,offset,reduced,rfl,rfl⟩
    exact ⟨rng,offset,found,reduced,rfl⟩
  · rintro ⟨rng,offset,found,reduced,rfl⟩
    exact ⟨rng,next,found,offset,reduced,rfl,rfl⟩

/-- With a negative pool size every call falls back on the hash and changes nothing. -/
theorem negative_range (table : ReservationTable) (unused : table.pool = []) (start : table.poolNext = table.poolStart)
    (positive : 0 < table.defaultSize.toInt) (negative : table.poolSize.toInt < 0) (tenantID : Bytes)
    (absent : table.explicit.lookup tenantID = none) :
    ∃ offset, modulo (hashBytes tenantID) table.poolSize = some offset ∧
      table.rangeFor tenantID = some (⟨table.poolStart + offset,1⟩,table) := by
  have rest : table.remaining = table.poolSize := by
    unfold ReservationTable.remaining
    rw [start]
    grind
  have larger : table.defaultSize > table.poolSize := Int32.lt_iff_toInt_lt.mpr (by omega)
  have empty : table.poolSize ≤ 0 := Int32.le_iff_toInt_le.mpr (by rw [Int32.toInt_zero]; omega)
  obtain ⟨offset,reduced⟩ := modulo_some (hashBytes tenantID) table.poolSize (by omega)
  refine ⟨offset,reduced,?_⟩
  unfold ReservationTable.rangeFor ReservationTable.poolRangeFor
  simp only [absent,unused,List.lookup_nil,rest,if_pos larger,if_pos empty,reduced]
  rfl

theorem ofNat_cancel (base : Int32) (left right : Nat) (leftFits : left < 2^31) (rightFits : right < 2^31)
    (same : base + Int32.ofNat left = base + Int32.ofNat right) : left = right := by
  have cancelled : Int32.ofNat left = Int32.ofNat right := by grind
  have values := congrArg Int32.toInt cancelled
  rw [Int32.toInt_ofNat_of_lt leftFits,Int32.toInt_ofNat_of_lt rightFits] at values
  omega

theorem exists_tenant (taken : List Bytes) : ∃ tenantID : Bytes, colon ∉ tenantID ∧ tenantID ∉ taken := by
  obtain ⟨length,unused⟩ := Infinite.exists_notMem_finset (taken.map List.length).toFinset
  refine ⟨List.replicate length 97,?_,?_⟩
  · intro member
    exact absurd (List.eq_of_mem_replicate member) (by decide)
  · intro member
    apply unused
    rw [List.mem_toFinset]
    exact List.mem_map.mpr ⟨_,member,List.length_replicate⟩

/-- In a pool of one block both ways of choosing a partition agree for the tenant. -/
theorem whole_offset {capacity size : Nat} (large : capacity ≤ size) (tenantID instrument : Bytes)
    (agree : (hashBytes instrument).toNat % capacity = (hashBytes tenantID).toNat % capacity) {pool : Pool Bytes}
    (used : pool.Reached capacity size) :
    poolOffset capacity tenantID instrument (pool.request capacity size tenantID).1 =
      (hashBytes tenantID).toNat % capacity := by
  rcases used.whole large with rfl | ⟨owner,rfl⟩
  · unfold Pool.request Pool.next
    simp only [Pool.empty,List.lookup_nil,Nat.sub_zero,min_eq_right large]
    split
    · rfl
    · change 0 + _ = _
      rw [Nat.zero_add,agree]
  · unfold Pool.request
    simp only [List.lookup_cons,List.lookup_nil]
    cases tenantID == owner with
    | true =>
      change 0 + _ = _
      rw [Nat.zero_add,agree]
    | false => rw [if_pos (Nat.le_refl _)]; rfl

theorem chosen_explicit (table : ReservationTable) (tenantID instrument : Bytes) (rng : PartitionRange)
    (held : table.explicit.lookup tenantID = some rng) (positive : 0 < rng.size.toInt) :
    chosen table tenantID instrument =
      some (rng.start + Int32.ofNat ((hashBytes instrument).toNat % rng.size.toNatClampNeg)) := by
  unfold chosen
  rw [partitionFor_explicit table tenantID instrument rng held positive]
  rfl

section
variable {fresh : ReservationTable} {capacity size : Nat}

theorem chosen_pool (shape : Fresh fresh capacity size) (pool : Pool Bytes) (used : pool.Reached capacity size)
    (tenantID instrument : Bytes) (absent : fresh.explicit.lookup tenantID = none) :
    chosen (withPool fresh pool) tenantID instrument = some (fresh.poolStart +
      Int32.ofNat (poolOffset capacity tenantID instrument (pool.request capacity size tenantID).1)) := by
  unfold chosen
  rw [partitionFor_pool shape pool used tenantID instrument absent]
  rfl

theorem poolOffset_bound (shape : Fresh fresh capacity size) (pool : Pool Bytes) (used : pool.Reached capacity size)
    (tenantID instrument : Bytes) :
    poolOffset capacity tenantID instrument (pool.request capacity size tenantID).1 < capacity := by
  cases served : (pool.request capacity size tenantID).1 with
  | none => exact Nat.mod_lt _ shape.someCapacity
  | some block =>
    obtain ⟨nonempty,bound⟩ := used.served shape.someSize tenantID block served
    have inside := Nat.mod_lt (hashBytes instrument).toNat nonempty
    change block.start + _ < capacity
    omega

/-- Once another tenant has come first, the offset differs from the one of a first call,
unless the pool is one block and the two hashes agree. -/
theorem offset_varies (shape : Fresh fresh capacity size) (tenantID instrument other : Bytes)
    (different : tenantID ≠ other)
    (disagree : capacity ≤ size →
      (hashBytes instrument).toNat % capacity ≠ (hashBytes tenantID).toNat % capacity) :
    poolOffset capacity tenantID instrument
        (((Pool.empty.request capacity size other).2).request capacity size tenantID).1 ≠
      poolOffset capacity tenantID instrument ((Pool.empty : Pool Bytes).request capacity size tenantID).1 := by
  have room := shape.someCapacity
  have positive := shape.someSize
  have apart : (tenantID == other) = false := beq_eq_false_iff_ne.mpr different
  have inside := Nat.mod_lt (hashBytes instrument).toNat (show 0 < min size capacity by omega)
  unfold Pool.request Pool.next
  simp only [Pool.empty,List.lookup_nil,Nat.sub_zero,Nat.zero_add,if_neg (Nat.not_le_of_lt room),List.lookup_cons,apart]
  by_cases small : capacity ≤ size
  · rw [min_eq_right small,if_pos (Nat.le_refl _)]
    change _ ≠ 0 + _
    rw [Nat.zero_add]
    exact (disagree small).symm
  · rw [min_eq_left (by omega)] at inside ⊢
    rw [if_neg small]
    change size + _ ≠ 0 + _ % size
    omega

end

section
variable (reserved : TenantPartitionConfig) (defaultSize totalPartitions : Int32)

theorem negative_reached (two : 2 ≤ totalPartitions.toInt)
    (negative : (newReservationTable reserved defaultSize totalPartitions).poolSize.toInt < 0)
    (table : ReservationTable)
    (reached : ReflTransGen Step (newReservationTable reserved defaultSize totalPartitions) table) :
    table = newReservationTable reserved defaultSize totalPartitions := by
  have positive := explicit_positive reserved defaultSize totalPartitions (by omega)
  have size := defaultSize_positive reserved defaultSize totalPartitions (by omega)
  induction reached with
  | refl => rfl
  | tail _ step ih =>
    subst ih
    obtain ⟨tenantID,instrument,partition,served⟩ := step
    obtain ⟨rng,_,found,_⟩ := (partitionFor_some _ _ _ _ _).mp served
    cases held : (newReservationTable reserved defaultSize totalPartitions).explicit.lookup tenantID with
    | some range =>
      unfold ReservationTable.rangeFor at found
      rw [held] at found
      exact (Prod.mk.inj (Option.some.inj found)).2.symm
    | none =>
      obtain ⟨_,_,ranged⟩ := negative_range _ rfl rfl size negative tenantID held
      rw [ranged] at found
      exact (Prod.mk.inj (Option.some.inj found)).2.symm

/-- On a topic of two partitions or more no call panics. -/
theorem reached_step (two : 2 ≤ totalPartitions.toInt) (table : ReservationTable)
    (reached : ReflTransGen Step (newReservationTable reserved defaultSize totalPartitions) table)
    (tenantID instrument : Bytes) :
    ∃ partition next, table.partitionFor tenantID instrument = some (partition,next) := by
  have positive := explicit_positive reserved defaultSize totalPartitions (by omega)
  have size := defaultSize_positive reserved defaultSize totalPartitions (by omega)
  rcases lt_or_gt_of_ne (poolSize_nonzero reserved defaultSize totalPartitions two) with negative | room
  · have same := negative_reached reserved defaultSize totalPartitions two negative table reached
    subst same
    cases held : (newReservationTable reserved defaultSize totalPartitions).explicit.lookup tenantID with
    | some rng =>
      exact ⟨_,_,partitionFor_explicit _ tenantID instrument rng held (positive (tenantID,rng) (mem_of_lookup held))⟩
    | none =>
      obtain ⟨offset,-,ranged⟩ := negative_range _ rfl rfl size negative tenantID held
      exact ⟨_,_,(partitionFor_some _ _ _ _ _).mpr ⟨_,_,ranged,modulo_one _,rfl⟩⟩
  · have shape := fresh_table reserved defaultSize totalPartitions (by omega) room
    obtain ⟨pool,used,rfl⟩ := reached_pool shape positive table reached
    cases held : (newReservationTable reserved defaultSize totalPartitions).explicit.lookup tenantID with
    | some rng =>
      exact ⟨_,_,partitionFor_explicit _ tenantID instrument rng held (positive (tenantID,rng) (mem_of_lookup held))⟩
    | none => exact ⟨_,_,partitionFor_pool shape pool used tenantID instrument held⟩

/-- What is settled is answered the same way by every table that calls lead to. -/
theorem settled_constant (two : 2 ≤ totalPartitions.toInt) (tenantID instrument : Bytes)
    (settled : Settled (newReservationTable reserved defaultSize totalPartitions) tenantID instrument)
    (table : ReservationTable)
    (reached : ReflTransGen Step (newReservationTable reserved defaultSize totalPartitions) table) :
    chosen table tenantID instrument =
      chosen (newReservationTable reserved defaultSize totalPartitions) tenantID instrument := by
  have positive := explicit_positive reserved defaultSize totalPartitions (by omega)
  rcases lt_or_gt_of_ne (poolSize_nonzero reserved defaultSize totalPartitions two) with negative | room
  · rw [negative_reached reserved defaultSize totalPartitions two negative table reached]
  · have shape := fresh_table reserved defaultSize totalPartitions (by omega) room
    obtain ⟨pool,used,rfl⟩ := reached_pool shape positive table reached
    cases held : (newReservationTable reserved defaultSize totalPartitions).explicit.lookup tenantID with
    | some rng =>
      have size := positive (tenantID,rng) (mem_of_lookup held)
      rw [chosen_explicit _ tenantID instrument rng held size]
      exact chosen_explicit _ tenantID instrument rng held size
    | none =>
      rcases settled with explicit | negative | ⟨small,agree⟩
      · rw [held] at explicit
        contradiction
      · omega
      · have large : (newReservationTable reserved defaultSize totalPartitions).poolSize.toNatClampNeg ≤
            (newReservationTable reserved defaultSize totalPartitions).defaultSize.toNatClampNeg := by
          rw [← Int32.toNat_toInt,← Int32.toNat_toInt]
          exact Int.toNat_le_toNat small
        have start := chosen_pool shape .empty .refl tenantID instrument held
        rw [shape.withPool_empty] at start
        rw [start,chosen_pool shape pool used tenantID instrument held,
          whole_offset large tenantID instrument agree used,whole_offset large tenantID instrument agree .refl]

/-- What is not settled is answered otherwise once another tenant has come first. -/
theorem unsettled_varies (two : 2 ≤ totalPartitions.toInt) (tenantID instrument : Bytes)
    (unsettled : ¬Settled (newReservationTable reserved defaultSize totalPartitions) tenantID instrument) :
    ∃ other partition next, colon ∉ other ∧
      (newReservationTable reserved defaultSize totalPartitions).partitionFor other [] = some (partition,next) ∧
      chosen next tenantID instrument ≠
        chosen (newReservationTable reserved defaultSize totalPartitions) tenantID instrument := by
  unfold Settled at unsettled
  push Not at unsettled
  obtain ⟨implicit,nonnegative,disagree⟩ := unsettled
  have nonzero := poolSize_nonzero reserved defaultSize totalPartitions two
  have shape := fresh_table reserved defaultSize totalPartitions (by omega) (by omega)
  have absent : (newReservationTable reserved defaultSize totalPartitions).explicit.lookup tenantID = none := by
    cases held : (newReservationTable reserved defaultSize totalPartitions).explicit.lookup tenantID with
    | none => rfl
    | some rng => exact absurd (by rw [held]; rfl) implicit
  obtain ⟨other,plain,unused⟩ := exists_tenant
    (tenantID::(newReservationTable reserved defaultSize totalPartitions).explicit.map (·.1))
  rw [List.mem_cons,not_or] at unused
  have otherAbsent : (newReservationTable reserved defaultSize totalPartitions).explicit.lookup other = none := by
    cases held : (newReservationTable reserved defaultSize totalPartitions).explicit.lookup other with
    | none => rfl
    | some rng => exact absurd (List.mem_map_of_mem (mem_of_lookup held)) unused.2
  have start := chosen_pool shape .empty .refl tenantID instrument absent
  have first := partitionFor_pool shape .empty .refl other [] otherAbsent
  rw [shape.withPool_empty] at start first
  refine ⟨other,_,_,plain,first,?_⟩
  rw [start,chosen_pool shape _ (Pool.Reached.request .refl other) tenantID instrument absent]
  intro same
  have capacityFits := shape.capacityFits
  have left := poolOffset_bound shape _ (Pool.Reached.request .refl other) tenantID instrument
  have right := poolOffset_bound shape .empty .refl tenantID instrument
  refine offset_varies shape tenantID instrument other (fun equal => unused.1 equal.symm) ?_
    (ofNat_cancel _ _ _ (by omega) (by omega) (Option.some.inj same))
  intro large
  apply disagree
  rw [← Int32.toNat_toInt,← Int32.toNat_toInt] at large
  omega

end

end ControlPlane.Ingestion.Kafka
