import ControlPlane.Api.Validation
import ControlPlane.Ingestion.Kafka.ArrivalOrder
import ControlPlane.Ingestion.Kafka.Routing

/-! No two tenants share a partition of one reservation table as long as the pool has not
run out. What a call is answered is determined by the explicit ranges and by what the pool
holds for the tenant after all calls, so the comparison of two calls does not depend on
when they were made. -/
namespace ControlPlane.Ingestion.Kafka
open Go Api Allocation Relation

/-- A call with the key that `Publish` gives an accepted event. -/
structure Call where
  tenantID : Bytes
  instrument : Bytes
  tenantValid : isValidTenantID tenantID = true
  instrumentValid : isValidInstrument instrument = true

structure Answer where
  call : Call
  partition : Int32

def serve : ReservationTable → List Call → Option (List Answer × ReservationTable)
  | table,[] => some ([],table)
  | table,call::rest => do
    let (tenantID,instrument) := splitPartitionKey (partitionKey call.tenantID call.instrument)
    let (partition,next) ← table.partitionFor tenantID instrument
    let (later,final) ← serve next rest
    return (⟨call,partition⟩::later,final)

def PartitionRange.Contains (rng : PartitionRange) (cell : Int) : Prop :=
  rng.start.toInt ≤ cell ∧ cell < rng.start.toInt + rng.size.toInt

def ReservationTable.poolRange (table : ReservationTable) : PartitionRange := ⟨table.poolStart,table.poolSize⟩

/-- The explicit ranges and the pool. -/
def ReservationTable.ranges (table : ReservationTable) : List PartitionRange :=
  table.explicit.map (·.2) ++ [table.poolRange]

structure Tiled (table : ReservationTable) : Prop where
  covers : ∀ cell : Int, 0 ≤ cell ∧ cell < table.totalPartitions.toInt ↔ ∃ rng ∈ table.ranges, rng.Contains cell
  disjoint : table.ranges.Pairwise fun left right => ∀ cell, left.Contains cell → ¬right.Contains cell
  room : 0 < table.poolSize.toInt

structure Exclusive (fresh final : ReservationTable) (answers : List Answer) : Prop where
  inside : ∀ answer ∈ answers, ∀ rng, fresh.explicit.lookup answer.call.tenantID = some rng →
    rng.Contains answer.partition.toInt
  alone : ∀ answer ∈ answers, (fresh.explicit.lookup answer.call.tenantID).isSome = true →
    ∀ other ∈ answers, other.call.tenantID ≠ answer.call.tenantID → other.partition ≠ answer.partition
  cached : ∀ answer ∈ answers, (final.pool.lookup answer.call.tenantID).isSome = true →
    ∀ other ∈ answers, (final.pool.lookup other.call.tenantID).isSome = true →
      other.call.tenantID ≠ answer.call.tenantID → other.partition ≠ answer.partition
  pooled : ∀ answer ∈ answers, fresh.explicit.lookup answer.call.tenantID = none →
    fresh.poolRange.Contains answer.partition.toInt
  stable : ∀ answer ∈ answers, ∀ other ∈ answers, other.call.tenantID = answer.call.tenantID →
    other.call.instrument = answer.call.instrument → other.partition = answer.partition

theorem Call.split (call : Call) :
    splitPartitionKey (partitionKey call.tenantID call.instrument) = (call.tenantID,call.instrument) := by
  apply split_partitionKey
  intro member
  exact (tenantID_keyChars call.tenantValid colon member).2 rfl

theorem serve_cons {table next final : ReservationTable} {call : Call} {rest : List Call} {partition : Int32}
    {later : List Answer} (served : table.partitionFor call.tenantID call.instrument = some (partition,next))
    (ran : serve next rest = some (later,final)) :
    serve table (call::rest) = some (⟨call,partition⟩::later,final) := by
  rw [serve,call.split]
  simp only [served,ran,Option.bind_eq_bind,Option.bind_some,pure]

section
variable {fresh : ReservationTable} {capacity size : Nat}

/-- What a call is answered, given the blocks of the pool. -/
def answerOf (fresh : ReservationTable) (capacity : Nat) (final : Pool Bytes) (tenantID instrument : Bytes) : Int32 :=
  match fresh.explicit.lookup tenantID with
  | some rng => rng.start + Int32.ofNat ((hashBytes instrument).toNat % rng.size.toNatClampNeg)
  | none => fresh.poolStart + Int32.ofNat (poolOffset capacity tenantID instrument (final.assigned.lookup tenantID))

theorem serve_answers (shape : Fresh fresh capacity size) (positive : ∀ entry ∈ fresh.explicit, 0 < entry.2.size.toInt)
    (calls : List Call) (pool : Pool Bytes) (reached : pool.Reached capacity size) :
    ∃ answers final, serve (withPool fresh pool) calls = some (answers,withPool fresh final) ∧
      Pool.Later capacity size pool final ∧
      ∀ answer ∈ answers, answer.partition = answerOf fresh capacity final answer.call.tenantID
      answer.call.instrument := by
  induction calls generalizing pool with
  | nil => exact ⟨[],pool,rfl,.refl,nofun⟩
  | cons call rest ih =>
    cases held : fresh.explicit.lookup call.tenantID with
    | some rng =>
      have served := partitionFor_explicit (withPool fresh pool) call.tenantID call.instrument rng held
        (positive (call.tenantID,rng) (mem_of_lookup held))
      obtain ⟨answers,final,ran,later,all⟩ := ih pool reached
      refine ⟨_,final,serve_cons served ran,later,?_⟩
      intro answer member
      rcases List.mem_cons.mp member with rfl | earlier
      · simp only [answerOf,held]
      · exact all answer earlier
    | none =>
      have served := partitionFor_pool shape pool reached call.tenantID call.instrument held
      obtain ⟨answers,final,ran,later,all⟩ := ih _ (reached.request call.tenantID)
      refine ⟨_,final,serve_cons served ran,.head ⟨call.tenantID,rfl⟩ later,?_⟩
      intro answer member
      rcases List.mem_cons.mp member with rfl | earlier
      · simp only [answerOf,held,Pool.request_final capacity size pool final call.tenantID later]
      · exact all answer earlier

end

/-- A table whose ranges are laid out over the cells of the topic. -/
structure LaidOut (fresh : ReservationTable) (entries : List (Bytes × Block)) (start capacity : Nat) : Prop where
  explicit : fresh.explicit = entries.map fun entry => (entry.1,rangeOf entry.2)
  poolStart : fresh.poolStart = Int32.ofNat start
  poolSize : fresh.poolSize = Int32.ofNat capacity
  partitions : fresh.totalPartitions = Int32.ofNat (start + capacity)
  fits : start + capacity < 2^31
  nonempty : 0 < capacity
  before : ∀ entry ∈ entries, entry.2.start + entry.2.size ≤ start
  apart : entries.Pairwise Apart
  whole : ∀ cell < start, ∃ entry ∈ entries, entry.2.Contains cell

section
variable {fresh : ReservationTable} {entries : List (Bytes × Block)} {start capacity : Nat}

theorem rangeOf_contains {block : Block} (fits : block.start + block.size < 2^31) (cell : Int) :
    (rangeOf block).Contains cell ↔ ∃ natural : Nat, cell = natural ∧ block.Contains natural := by
  unfold PartitionRange.Contains rangeOf Block.Contains
  rw [Int32.toInt_ofNat_of_lt (by omega),Int32.toInt_ofNat_of_lt (by omega)]
  constructor
  · rintro ⟨low,high⟩
    exact ⟨cell.toNat,by omega,by omega,by omega⟩
  · rintro ⟨natural,rfl,low,high⟩
    exact ⟨by omega,by omega⟩

theorem LaidOut.pool_contains (laid : LaidOut fresh entries start capacity) (cell : Int) :
    fresh.poolRange.Contains cell ↔ (start : Int) ≤ cell ∧ cell < start + capacity := by
  have fits := laid.fits
  unfold PartitionRange.Contains ReservationTable.poolRange
  rw [laid.poolStart,laid.poolSize,Int32.toInt_ofNat_of_lt (by omega),Int32.toInt_ofNat_of_lt (by omega)]

theorem LaidOut.range_block (laid : LaidOut fresh entries start capacity) {tenantID : Bytes} {rng : PartitionRange}
    (held : fresh.explicit.lookup tenantID = some rng) : ∃ block, (tenantID,block) ∈ entries ∧ rng = rangeOf block := by
  have member := mem_of_lookup held
  rw [laid.explicit] at member
  obtain ⟨entry,listed,same⟩ := List.mem_map.mp member
  obtain ⟨rfl,rfl⟩ := Prod.mk.inj same
  exact ⟨entry.2,listed,rfl⟩

theorem LaidOut.tiled (laid : LaidOut fresh entries start capacity) : Tiled fresh := by
  have fits := laid.fits
  have positive := laid.nonempty
  have small : ∀ entry ∈ entries, entry.2.start + entry.2.size < 2^31 := by
    intro entry member
    have before := laid.before entry member
    omega
  have ranges : fresh.ranges = (entries.map fun entry => rangeOf entry.2) ++ [fresh.poolRange] := by
    unfold ReservationTable.ranges
    rw [laid.explicit,List.map_map]
    rfl
  refine ⟨?_,?_,?_⟩
  · intro cell
    rw [laid.partitions,Int32.toInt_ofNat_of_lt fits,ranges]
    simp only [List.mem_append,List.mem_map,List.mem_singleton,or_and_right,exists_or,exists_eq_left]
    rw [laid.pool_contains]
    constructor
    · rintro ⟨low,high⟩
      by_cases pool : (start : Int) ≤ cell
      · exact Or.inr ⟨pool,by omega⟩
      · obtain ⟨entry,member,inside⟩ := laid.whole cell.toNat (by omega)
        exact Or.inl ⟨_,⟨entry,member,rfl⟩,(rangeOf_contains (small entry member) cell).mpr ⟨cell.toNat,
          by omega,inside⟩⟩
    · rintro (⟨_,⟨entry,member,rfl⟩,inside⟩ | pool)
      · obtain ⟨natural,rfl,-,high⟩ := (rangeOf_contains (small entry member) cell).mp inside
        have before := laid.before entry member
        omega
      · omega
  · rw [ranges,List.pairwise_append]
    refine ⟨?_,List.pairwise_singleton _ _,?_⟩
    · rw [List.pairwise_map]
      refine laid.apart.imp_of_mem ?_
      intro left right member also apart cell inside other
      obtain ⟨natural,rfl,low,high⟩ := (rangeOf_contains (small left member) cell).mp inside
      obtain ⟨_,same,lower,higher⟩ := (rangeOf_contains (small right also) _).mp other
      unfold Apart at apart
      omega
    · intro rng member pool also cell inside other
      obtain ⟨entry,listed,rfl⟩ := List.mem_map.mp member
      obtain rfl := List.mem_singleton.mp also
      obtain ⟨natural,rfl,low,high⟩ := (rangeOf_contains (small entry listed) cell).mp inside
      have behind := (laid.pool_contains _).mp other
      have before := laid.before entry listed
      omega
  · rw [laid.poolSize,Int32.toInt_ofNat_of_lt (by omega)]
    omega

section
variable (final : Pool Bytes)

/-- Inside the block of the tenant, or anywhere in the pool once nothing was left for it. -/
theorem offset_inside (nonempty : 0 < capacity) (valid : final.Valid capacity) (tenantID instrument : Bytes) :
    poolOffset capacity tenantID instrument (final.assigned.lookup tenantID) < capacity ∧
      ∀ block, final.assigned.lookup tenantID = some block →
        block.Contains (poolOffset capacity tenantID instrument (final.assigned.lookup tenantID)) := by
  cases held : final.assigned.lookup tenantID with
  | none => exact ⟨Nat.mod_lt _ nonempty,nofun⟩
  | some block =>
    obtain ⟨positive,bound⟩ : 0 < block.size ∧ block.start + block.size ≤ final.used :=
      valid.inside _ (mem_of_lookup held)
    have within := valid.within
    have offset := Nat.mod_lt (hashBytes instrument).toNat positive
    have place : poolOffset capacity tenantID instrument (some block) =
      block.start + (hashBytes instrument).toNat % block.size := rfl
    rw [place]
    refine ⟨by omega,?_⟩
    rintro _ ⟨⟩
    exact ⟨Nat.le_add_right _ _,Nat.add_lt_add_left offset _⟩

theorem LaidOut.explicit_answer (laid : LaidOut fresh entries start capacity)
    (positive : ∀ entry ∈ fresh.explicit, 0 < entry.2.size.toInt) {tenantID : Bytes} (instrument : Bytes)
    {rng : PartitionRange} (held : fresh.explicit.lookup tenantID = some rng) :
    rng.Contains (answerOf fresh capacity final tenantID instrument).toInt := by
  obtain ⟨block,listed,rfl⟩ := laid.range_block held
  have fits := laid.fits
  have before : block.start + block.size ≤ start := laid.before _ listed
  have size : 0 < (rangeOf block).size.toInt := positive (tenantID,rangeOf block) (mem_of_lookup held)
  have sizeValue : (rangeOf block).size.toInt = block.size := Int32.toInt_ofNat_of_lt (by omega)
  have clamp : (rangeOf block).size.toNatClampNeg = block.size := by
    rw [← Int32.toNat_toInt,sizeValue,Int.toNat_natCast]
  have offset := Nat.mod_lt (hashBytes instrument).toNat (show 0 < block.size by omega)
  have answer : answerOf fresh capacity final tenantID instrument =
      Int32.ofNat (block.start + (hashBytes instrument).toNat % block.size) := by
    simp only [answerOf,held,clamp,Int32.ofNat_add]
    rfl
  rw [rangeOf_contains (by omega),answer,Int32.toInt_ofNat_of_lt (by omega)]
  exact ⟨_,rfl,Nat.le_add_right _ _,by omega⟩

theorem LaidOut.pool_answer (laid : LaidOut fresh entries start capacity) (valid : final.Valid capacity)
    {tenantID : Bytes} (instrument : Bytes) (absent : fresh.explicit.lookup tenantID = none) :
    (answerOf fresh capacity final tenantID instrument).toInt =
      start + poolOffset capacity tenantID instrument (final.assigned.lookup tenantID) := by
  have fits := laid.fits
  have bound := (offset_inside final laid.nonempty valid tenantID instrument).1
  simp only [answerOf,absent,laid.poolStart,← Int32.ofNat_add]
  rw [Int32.toInt_ofNat_of_lt (by omega)]
  omega

/-- Answers for different tenants differ where one of them has a range of its own. -/
theorem LaidOut.explicit_alone (laid : LaidOut fresh entries start capacity)
    (positive : ∀ entry ∈ fresh.explicit, 0 < entry.2.size.toInt) (valid : final.Valid capacity)
    {tenantID other : Bytes} (instrument otherInstrument : Bytes) {rng : PartitionRange}
    (held : fresh.explicit.lookup tenantID = some rng) (different : other ≠ tenantID) :
    answerOf fresh capacity final other otherInstrument ≠ answerOf fresh capacity final tenantID instrument := by
  intro same
  have inside := laid.explicit_answer final positive instrument held
  obtain ⟨block,listed,rfl⟩ := laid.range_block held
  have fits := laid.fits
  have before : block.start + block.size ≤ start := laid.before _ listed
  obtain ⟨cell,place,contains⟩ := (rangeOf_contains (by omega) _).mp inside
  cases also : fresh.explicit.lookup other with
  | some otherRange =>
    have otherInside := laid.explicit_answer final positive otherInstrument also
    obtain ⟨otherBlock,otherListed,rfl⟩ := laid.range_block also
    have otherBefore : otherBlock.start + otherBlock.size ≤ start := laid.before _ otherListed
    rw [same,rangeOf_contains (by omega)] at otherInside
    obtain ⟨otherCell,otherPlace,otherContains⟩ := otherInside
    obtain rfl : cell = otherCell := by omega
    refine disjoint_of_apart laid.apart listed otherListed ?_ cell contains otherContains
    intro equal
    exact different (congrArg Prod.fst equal).symm
  | none =>
    have behind := laid.pool_answer final valid otherInstrument also
    rw [same,place] at behind
    have high := contains.2
    omega

/-- Pool tenants with blocks of their own get different answers. -/
theorem LaidOut.cached_apart (laid : LaidOut fresh entries start capacity) (valid : final.Valid capacity)
    {tenantID other : Bytes} (instrument otherInstrument : Bytes) {block otherBlock : Block}
    (absent : fresh.explicit.lookup tenantID = none) (otherAbsent : fresh.explicit.lookup other = none)
    (held : final.assigned.lookup tenantID = some block) (also : final.assigned.lookup other = some otherBlock)
    (different : other ≠ tenantID) :
    answerOf fresh capacity final other otherInstrument ≠ answerOf fresh capacity final tenantID instrument := by
  intro same
  have here := laid.pool_answer final valid instrument absent
  have there := laid.pool_answer final valid otherInstrument otherAbsent
  rw [same] at there
  have inside := (offset_inside final laid.nonempty valid tenantID instrument).2 block held
  have otherInside := (offset_inside final laid.nonempty valid other otherInstrument).2 otherBlock also
  rw [show poolOffset capacity other otherInstrument (final.assigned.lookup other) =
    poolOffset capacity tenantID instrument (final.assigned.lookup tenantID) by omega] at otherInside
  exact Pool.disjoint valid different.symm held also _ inside otherInside

theorem LaidOut.exclusive (laid : LaidOut fresh entries start capacity)
    (positive : ∀ entry ∈ fresh.explicit, 0 < entry.2.size.toInt) (valid : final.Valid capacity) (answers : List Answer)
    (all : ∀ answer ∈ answers,
      answer.partition = answerOf fresh capacity final answer.call.tenantID answer.call.instrument) :
    Exclusive fresh (withPool fresh final) answers := by
  have alone : ∀ answer ∈ answers, (fresh.explicit.lookup answer.call.tenantID).isSome = true →
      ∀ other ∈ answers, other.call.tenantID ≠ answer.call.tenantID → other.partition ≠ answer.partition := by
    intro answer member held other also different
    obtain ⟨rng,held⟩ := Option.isSome_iff_exists.mp held
    rw [all answer member,all other also]
    exact laid.explicit_alone final positive valid _ _ held different
  refine ⟨?_,alone,?_,?_,?_⟩
  · intro answer member rng held
    rw [all answer member]
    exact laid.explicit_answer final positive _ held
  · intro answer member cached other also otherCached different
    cases held : fresh.explicit.lookup answer.call.tenantID with
    | some rng => exact alone answer member (by rw [held]; rfl) other also different
    | none =>
      cases otherHeld : fresh.explicit.lookup other.call.tenantID with
      | some rng => exact (alone other also (by rw [otherHeld]; rfl) answer member different.symm).symm
      | none =>
        simp only [lookup_withPool,Option.isSome_map] at cached otherCached
        obtain ⟨block,assigned⟩ := Option.isSome_iff_exists.mp cached
        obtain ⟨otherBlock,otherAssigned⟩ := Option.isSome_iff_exists.mp otherCached
        rw [all answer member,all other also]
        exact laid.cached_apart final valid _ _ held otherHeld assigned otherAssigned different
  · intro answer member absent
    have bound := (offset_inside final laid.nonempty valid answer.call.tenantID answer.call.instrument).1
    rw [all answer member,laid.pool_contains,laid.pool_answer final valid _ absent]
    omega
  · intro answer member other also sameTenant sameInstrument
    rw [all answer member,all other also,sameTenant,sameInstrument]

end

end

theorem table_laidOut (reserved : TenantPartitionConfig) (defaultSize : Int32) (total : Nat) (positive : 1 ≤ total)
    (fits : total < 2^31) (safe : NoOverflow (capacityOf total) 0 (demand reserved))
    (room : min (capacityOf total) (reservedSum reserved) < total) :
    LaidOut (newReservationTable reserved defaultSize (Int32.ofNat total))
      (layout (capacityOf total) 0 (demand reserved))
      (min (capacityOf total) (reservedSum reserved)) (total - min (capacityOf total) (reservedSum reserved)) := by
  have value : (Int32.ofNat total).toInt = total := Int32.toInt_ofNat_of_lt fits
  have whole := Nat.add_sub_of_le room.le
  obtain ⟨explicit,poolStart,poolSize⟩ := table_layout reserved defaultSize total positive fits safe
  rw [total_demand] at poolStart poolSize
  refine ⟨explicit,poolStart,poolSize,?_,?_,Nat.sub_pos_of_lt room,?_,?_,?_⟩
  · rw [newReservationTable_eq reserved defaultSize _ (by omega),whole]
  · rw [whole]
    exact fits
  · intro entry member
    have region := (layout_bounds _ _ _ entry member).2
    have demanded := layout_end _ _ _ entry member
    rw [total_demand] at demanded
    omega
  · exact (layout_apart _ _ _).imp Or.inl
  · intro cell inside
    exact layout_covers _ _ _ cell (Nat.zero_le _) (by omega) (by rw [total_demand]; omega)

theorem laidOut_shape {reserved : TenantPartitionConfig} {defaultSize : Int32} {total start capacity : Nat}
    {entries : List (Bytes × Block)} (positive : 1 ≤ total) (fits : total < 2^31)
    (laid : LaidOut (newReservationTable reserved defaultSize (Int32.ofNat total)) entries start capacity) :
    ∃ size, Fresh (newReservationTable reserved defaultSize (Int32.ofNat total)) capacity size := by
  have value : (Int32.ofNat total).toInt = total := Int32.toInt_ofNat_of_lt fits
  have shape := fresh_table reserved defaultSize (Int32.ofNat total) (by omega) laid.tiled.room
  have bound := laid.fits
  have room : (newReservationTable reserved defaultSize (Int32.ofNat total)).poolSize.toNatClampNeg = capacity := by
    rw [laid.poolSize,← Int32.toNat_toInt,Int32.toInt_ofNat_of_lt (by omega),Int.toNat_natCast]
  rw [room] at shape
  exact ⟨_,shape⟩

/-- Whatever calls come in, a tenant with an explicit range has it for itself, pool tenants
with a range share no partition, the others stay in the pool, and a tenant's instrument is
always answered the same partition. -/
theorem tenant_exclusivity (reserved : TenantPartitionConfig) (defaultSize totalPartitions : Int32)
    (sum : reservedSum reserved < 2^31) (two : 2 ≤ totalPartitions.toInt) (calls : List Call) :
    Tiled (newReservationTable reserved defaultSize totalPartitions) ∧
    ∃ answers final, serve (newReservationTable reserved defaultSize totalPartitions) calls = some (answers,final) ∧
      Exclusive (newReservationTable reserved defaultSize totalPartitions) final answers := by
  obtain ⟨total,fits,rfl⟩ := exists_ofNat totalPartitions (by omega)
  have value : (Int32.ofNat total).toInt = total := Int32.toInt_ofNat_of_lt fits
  have capacity : capacityOf total = total - 1 := if_pos (by omega)
  have laid := table_laidOut reserved defaultSize total (by omega) fits (noOverflow_of_sum reserved sum _)
    (by rw [capacity]; omega)
  have positive := explicit_positive reserved defaultSize (Int32.ofNat total) (by omega)
  obtain ⟨size,shape⟩ := laidOut_shape (by omega) fits laid
  obtain ⟨answers,final,ran,later,all⟩ := serve_answers shape positive calls .empty .refl
  rw [shape.withPool_empty] at ran
  exact ⟨laid.tiled,answers,_,ran,laid.exclusive final positive (Pool.Reached.valid shape.someSize later) answers all⟩

theorem tenant_exclusivity_four_partitions :
    reservedSum oneReserved < 2^31 ∧ ∃ answers final,
      serve (newReservationTable oneReserved 1 4)
        [⟨text "acme",text "AAPL",by decide,by decide⟩,⟨text "b",text "AAPL",by decide,by decide⟩,
          ⟨text "c",text "AAPL",by decide,by decide⟩,⟨text "d",text "AAPL",by decide,by decide⟩] =
          some (answers,final) ∧
      Exclusive (newReservationTable oneReserved 1 4) final answers :=
  ⟨by decide,(tenant_exclusivity oneReserved 1 4 (by decide) (by decide) _).2⟩

end ControlPlane.Ingestion.Kafka
