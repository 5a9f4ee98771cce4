import ControlPlane.Ingestion.Kafka.Exclusivity
import ControlPlane.Ingestion.Kafka.PublisherConfig
import Mathlib.Algebra.Order.BigOperators.Group.List

/-! When `Partition` neither divides by zero nor leaves the topic. An explicit range is safe
if the counts up to it stay within `int32`; a tenant without one needs that of every range
that is laid out, and a pool that is not empty. -/
namespace ControlPlane.Ingestion.Kafka
open Go Allocation Relation

section
variable (reserved : TenantPartitionConfig) (total : Nat)

/-- No sum of the counts that are laid out leaves `int32`. -/
def Fits : Prop :=
  ∀ tenantID ∈ reserved.tenantIDs, reservedBelow reserved tenantID < capacityOf total →
    reservedBelow reserved tenantID + countOf reserved tenantID < 2^31

/-- The tenant is reserved, the counts before it leave it a partition, and the sum of the
counts up to it stays within `int32`. -/
def Laid (tenantID : Bytes) : Prop :=
  tenantID ∈ reserved.tenantIDs ∧ reservedBelow reserved tenantID < capacityOf total ∧
    reservedBelow reserved tenantID + countOf reserved tenantID < 2^31

def Safe (tenantID : Bytes) : Prop :=
  Laid reserved total tenantID ∨ Fits reserved total ∧ (2 ≤ total ∨ reserved.entries = [])

theorem reservedBelow_mono {one other : Bytes} (order : one ≤ other) :
    reservedBelow reserved one ≤ reservedBelow reserved other := by
  unfold reservedBelow
  refine List.Sublist.sum_le_sum (List.Sublist.map _ (List.monotone_filter_right _ ?_)) (fun _ _ => Nat.zero_le _)
  intro entry below
  simp only [decide_eq_true_eq] at below ⊢
  exact Std.lt_of_lt_of_le below order

theorem fits_noOverflow (fits : Fits reserved total) : NoOverflow (capacityOf total) 0 (demand reserved) := by
  intro before tenantID count after split room
  have listed : (tenantID,count) ∈ demand reserved := by
    rw [split]
    exact List.mem_append_right _ List.mem_cons_self
  obtain ⟨_,member,same⟩ := List.mem_map.mp listed
  obtain ⟨rfl,rfl⟩ := Prod.mk.inj same
  rw [total_before reserved split,Nat.zero_add] at room ⊢
  exact fits _ ((sortStrings_perm _).mem_iff.mp member) room

theorem laid_range (defaultSize : Int32) (positive : 1 ≤ total) (small : total < 2^31) (tenantID : Bytes)
    (laid : Laid reserved total tenantID) :
    (newReservationTable reserved defaultSize (Int32.ofNat total)).explicit.lookup tenantID =
      some (rangeOf ⟨reservedBelow reserved tenantID,
        min (countOf reserved tenantID) (capacityOf total - reservedBelow reserved tenantID)⟩) := by
  obtain ⟨member,room,fits⟩ := laid
  have bound := capacityOf_le total
  have value : (Int32.ofNat total).toInt = total := Int32.toInt_ofNat_of_lt small
  rw [lookup_explicit reserved defaultSize _ (by omega),explicitCapacity_ofNat total positive small,
    grantedSize_value reserved _ _ tenantID (by omega) room fits]
  refine ⟨⟨member,?_⟩,rfl⟩
  intro other _ order
  have below := reservedBelow_mono reserved order
  exact (Int32.ofNat_lt_iff_lt (by omega) (by omega)).mpr (by omega)

/-- A call for a tenant whose range lies within the topic. -/
theorem explicit_within (table : ReservationTable) (tenantID instrument : Bytes) (block : Block)
    (nonempty : 0 < block.size) (inside : block.start + block.size ≤ total) (small : total < 2^31)
    (held : table.explicit.lookup tenantID = some (rangeOf block)) :
    ∃ partition next, table.partitionFor tenantID instrument = some (partition,next) ∧
      0 ≤ partition.toInt ∧ partition.toInt < total := by
  have size : (rangeOf block).size.toInt = block.size := Int32.toInt_ofNat_of_lt (by omega)
  have clamp : (rangeOf block).size.toNatClampNeg = block.size := by
    rw [← Int32.toNat_toInt,size,Int.toNat_natCast]
  have offset := Nat.mod_lt (hashBytes instrument).toNat nonempty
  refine ⟨_,_,partitionFor_explicit table tenantID instrument _ held (by omega),?_⟩
  rw [clamp]
  change 0 ≤ (Int32.ofNat block.start + Int32.ofNat _).toInt ∧ (Int32.ofNat block.start + Int32.ofNat _).toInt < total
  rw [← Int32.ofNat_add,Int32.toInt_ofNat_of_lt (by omega)]
  omega

/-- A safe call is answered a partition of the topic, whatever calls came before. -/
theorem safe_call (defaultSize : Int32) (positive : 1 ≤ total) (small : total < 2^31) (tenantID instrument : Bytes)
    (safe : Safe reserved total tenantID) (table : ReservationTable)
    (reached : ReflTransGen Step (newReservationTable reserved defaultSize (Int32.ofNat total)) table) :
    ∃ partition next, table.partitionFor tenantID instrument = some (partition,next) ∧
      0 ≤ partition.toInt ∧ partition.toInt < total := by
  have bound := capacityOf_le total
  rcases safe with laid | ⟨fits,room⟩
  · have held := laid_range reserved total defaultSize positive small tenantID laid
    rw [← reached_explicit reached] at held
    have count := (countOf_bounds reserved tenantID).1
    have below := laid.2.1
    exact explicit_within total table tenantID instrument _ (Nat.lt_min.mpr ⟨by omega,by omega⟩)
      (by change reservedBelow reserved tenantID + min _ _ ≤ total; omega) small held
  · have pooled : min (capacityOf total) (reservedSum reserved) < total := by
      rcases room with two | none
      · rw [show capacityOf total = total - 1 from if_pos (by omega)]
        omega
      · rw [show reservedSum reserved = 0 by simp [reservedSum,none]]
        omega
    have laid := table_laidOut reserved defaultSize total positive small (fits_noOverflow reserved total fits) pooled
    have value : (Int32.ofNat total).toInt = total := Int32.toInt_ofNat_of_lt small
    have sizes := explicit_positive reserved defaultSize (Int32.ofNat total) (by omega)
    obtain ⟨size,shape⟩ := laidOut_shape positive small laid
    obtain ⟨pool,used,rfl⟩ := reached_pool shape sizes table reached
    cases held : (newReservationTable reserved defaultSize (Int32.ofNat total)).explicit.lookup tenantID with
    | some rng =>
      have nonempty : 0 < rng.size.toInt := sizes (tenantID,rng) (mem_of_lookup held)
      obtain ⟨block,listed,rfl⟩ := laid.range_block held
      have before : block.start + block.size ≤ _ := laid.before _ listed
      have blockSize : (rangeOf block).size.toInt = block.size := Int32.toInt_ofNat_of_lt (by omega)
      exact explicit_within total _ tenantID instrument block (by omega) (by omega) small held
    | none =>
      have offset := poolOffset_bound shape pool used tenantID instrument
      refine ⟨_,_,partitionFor_pool shape pool used tenantID instrument held,?_⟩
      rw [laid.poolStart,← Int32.ofNat_add,Int32.toInt_ofNat_of_lt (by omega)]
      omega

end

/-- The calls of a run are safe under the mapping in effect when they are made. -/
def SafeRun : TenantPartitionConfig → List Action → Prop
  | _,[] => True
  | reserved,.partition key totalPartitions::rest =>
    (1 ≤ totalPartitions.toInt ∧ Safe reserved totalPartitions.toInt.toNat (splitPartitionKey key).1) ∧
      SafeRun reserved rest
  | reserved,.reload (.error _)::rest => SafeRun reserved rest
  | _,.reload (.ok loaded)::rest => SafeRun loaded rest

/-- In a run of safe calls, with reloads between them, no call panics and every call is
answered a partition of the topic. -/
theorem safe_run (reserved : TenantPartitionConfig) (defaultSize : Int32) (actions : List Action)
    (safe : SafeRun reserved actions) (router : Router) (valid : router.Valid)
    (mapping : router.shared.reserved = reserved) (size : router.shared.defaultSize = defaultSize) :
    ∃ routed, router.run defaultSize actions = some routed ∧
      ∀ one ∈ routed, 0 ≤ one.partition.toInt ∧ one.partition.toInt < one.totalPartitions.toInt := by
  induction actions generalizing reserved router with
  | nil => exact ⟨[],rfl,nofun⟩
  | cons action rest ih =>
    cases action with
    | partition key totalPartitions =>
      obtain ⟨⟨positive,safe⟩,later⟩ := safe
      obtain ⟨total,small,rfl⟩ := exists_ofNat totalPartitions (by omega)
      have value : (Int32.ofNat total).toInt = total := Int32.toInt_ofNat_of_lt small
      rw [value,Int.toNat_natCast] at safe
      have reached := Router.current_reached valid (Int32.ofNat total)
      rw [mapping,size] at reached
      obtain ⟨partition,table,served,low,high⟩ := safe_call reserved total defaultSize (by omega) small
        (splitPartitionKey key).1 (splitPartitionKey key).2 safe _ reached
      have stepped := (Router.step_partition defaultSize).mpr ⟨partition,table,served,rfl,rfl⟩
      have kept := Router.step_valid defaultSize _ (by rintro _ _ ⟨⟩; exact positive) valid stepped
      obtain ⟨routed,ran,all⟩ := ih reserved later _ kept mapping size
      refine ⟨_,run_cons defaultSize stepped ran,?_⟩
      intro one member
      rcases List.mem_cons.mp member with rfl | further
      · change 0 ≤ partition.toInt64.toInt ∧ partition.toInt64.toInt < (Int32.ofNat total).toInt
        rw [Int32.toInt_toInt64,value]
        exact ⟨low,high⟩
      · exact all one further
    | reload loaded =>
      have kept := Router.step_valid defaultSize (.reload loaded) nofun valid rfl
      cases loaded with
      | error err =>
        obtain ⟨routed,ran,all⟩ := ih reserved safe _ kept mapping size
        exact ⟨[] ++ routed,run_cons defaultSize rfl ran,all⟩
      | ok loaded =>
        obtain ⟨routed,ran,all⟩ := ih loaded safe _ kept rfl rfl
        exact ⟨[] ++ routed,run_cons defaultSize rfl ran,all⟩

/-- In a run of safe calls no call panics and every answer is a partition of the topic. -/
theorem routed_within_topic (reserved : TenantPartitionConfig) (defaultSize : Int32) (actions : List Action)
    (safe : SafeRun reserved actions) :
    ∃ routed, (Router.start reserved defaultSize).run defaultSize actions = some routed ∧
      ∀ one ∈ routed, 0 ≤ one.partition.toInt ∧ one.partition.toInt < one.totalPartitions.toInt :=
  safe_run reserved defaultSize actions safe _ (Router.start_valid reserved defaultSize) rfl rfl

theorem routed_within_topic_after_reload :
    ∃ routed, (Router.start oneReserved 1).run 1 [.partition (text "acme:AAPL") 1,.reload (.ok noneReserved),
        .partition (text "acme:AAPL") 1,.partition (text "b:AAPL") 4] = some routed ∧
      ∀ one ∈ routed, 0 ≤ one.partition.toInt ∧ one.partition.toInt < one.totalPartitions.toInt :=
  routed_within_topic oneReserved 1 _ ⟨⟨by decide,Or.inl ⟨by decide,by decide,by decide⟩⟩,
    ⟨by decide,Or.inr ⟨nofun,Or.inr rfl⟩⟩,
    ⟨by decide,Or.inr ⟨nofun,Or.inr rfl⟩⟩,trivial⟩

def onlyPartition : Config := {localConfig with tenantPartitions := ⟨[(text "a",1)],by decide⟩}

def wrappedCursor : Config :=
  {localConfig with tenantPartitions := ⟨[(text "a",1),(text "b",2147483647)],by decide⟩}

/-- One reservation takes the only partition of a topic, and another tenant's call divides by
zero. A count that takes the cursor past the largest `int32` is granted in full, and its
tenant leaves the topic. -/
theorem partition_panics_and_leaves_topic :
    onlyPartition.validate = .ok () ∧ wrappedCursor.validate = .ok () ∧
    (Router.start onlyPartition.tenantPartitions onlyPartition.defaultPartitions).run onlyPartition.defaultPartitions
      [.partition (text "b:AAPL") 1] = none ∧
    (Router.start wrappedCursor.tenantPartitions wrappedCursor.defaultPartitions).run wrappedCursor.defaultPartitions
      [.partition (text "b:AAPL") 3] = some [⟨text "b:AAPL",3,1489842956⟩] :=
  ⟨by decide +kernel,by decide +kernel,by decide,by decide⟩

end ControlPlane.Ingestion.Kafka
