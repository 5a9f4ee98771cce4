import ControlPlane.Ingestion.Kafka.ArrivalOrder
import ControlPlane.Ingestion.Kafka.ReservedCounts

/-! Runs of one topic partitioner, in which `Partition` calls and polls of the reloader
follow each other in any order, and which keys such runs always send to one partition. -/
namespace ControlPlane.Ingestion.Kafka
open Go Allocation Relation

inductive Action where
  | partition (key : Bytes) (totalPartitions : Int32)
  | reload (loaded : Except Error TenantPartitionConfig)

structure Routed where
  key : Bytes
  totalPartitions : Int32
  partition : Int64
  deriving DecidableEq, Repr

structure Router where
  shared : PartitionerState
  part : TopicPartitioner

namespace Router

/-- `NewPublisher` gives the partitioner and its reloader the same default size. -/
def start (reserved : TenantPartitionConfig) (defaultSize : Int32) : Router :=
  ⟨newTenantPartitioner reserved defaultSize,⟨none⟩⟩

def step (defaultSize : Int32) (router : Router) : Action → Option (List Routed × Router)
  | .partition key totalPartitions => do
    let (partition,part) ← router.part.partition router.shared key totalPartitions.toInt64
    return ([⟨key,totalPartitions,partition⟩],{router with part})
  | .reload loaded => some ([],{router with shared := reloadOnce router.shared defaultSize loaded})

/-- `none` when a call panics. -/
def run (defaultSize : Int32) : Router → List Action → Option (List Routed)
  | _,[] => some []
  | router,action::rest => do
    let (routed,next) ← router.step defaultSize action
    let later ← next.run defaultSize rest
    return routed ++ later

/-- What a topic partitioner holds comes from the shared state it was built from. -/
def Valid (router : Router) : Prop :=
  ∀ version table, router.part.built = some (version,table) → version ≤ router.shared.version ∧
    (version = router.shared.version →
      ReflTransGen Step (newReservationTable router.shared.reserved router.shared.defaultSize table.totalPartitions)
        table)

theorem start_valid (reserved : TenantPartitionConfig) (defaultSize : Int32) : (start reserved defaultSize).Valid :=
  nofun

end Router

theorem split_partitionKey (tenantID instrument : Bytes) (plain : colon ∉ tenantID) :
    splitPartitionKey (partitionKey tenantID instrument) = (tenantID,instrument) := by
  have kept : ∀ byte ∈ tenantID, (byte ≠ colon : Bool) = true := by
    intro byte member
    exact decide_eq_true (fun same => plain (same ▸ member))
  unfold splitPartitionKey partitionKey
  rw [List.append_assoc,List.takeWhile_append_of_pos kept,List.dropWhile_append_of_pos kept]
  simp

theorem current_held (shared : PartitionerState) (table : ReservationTable) (totalPartitions : Int32)
    (same : table.totalPartitions = totalPartitions) :
    TopicPartitioner.current ⟨some (shared.version,table)⟩ shared totalPartitions = table :=
  if_pos ⟨rfl,same⟩

theorem current_stale (shared : PartitionerState) (version : Nat) (table : ReservationTable) (totalPartitions : Int32)
    (other : version ≠ shared.version) :
    TopicPartitioner.current ⟨some (version,table)⟩ shared totalPartitions =
      newReservationTable shared.reserved shared.defaultSize totalPartitions :=
  if_neg fun same => other same.1

/-- A call changes nothing but the pool. -/
theorem rangeFor_next {table next : ReservationTable} {tenantID : Bytes} {rng : PartitionRange}
    (found : table.rangeFor tenantID = some (rng,next)) : ∃ poolNext pool, next = {table with poolNext,pool} := by
  unfold ReservationTable.rangeFor at found
  split at found
  · exact ⟨_,_,(Prod.mk.inj (Option.some.inj found)).2.symm⟩
  · unfold ReservationTable.poolRangeFor at found
    split at found
    · exact ⟨_,_,(Prod.mk.inj (Option.some.inj found)).2.symm⟩
    · simp only at found
      generalize (if table.defaultSize > table.remaining then _ else _) = size at found
      split at found
      · obtain ⟨offset,-,same⟩ := Option.bind_eq_some_iff.mp found
        exact ⟨_,_,(Prod.mk.inj (Option.some.inj same)).2.symm⟩
      · exact ⟨_,_,(Prod.mk.inj (Option.some.inj found)).2.symm⟩

theorem step_keeps {table next : ReservationTable} (step : Step table next) :
    next.totalPartitions = table.totalPartitions ∧ next.explicit = table.explicit := by
  obtain ⟨tenantID,instrument,partition,served⟩ := step
  obtain ⟨rng,_,found,_⟩ := (partitionFor_some _ _ _ _ _).mp served
  obtain ⟨_,_,rfl⟩ := rangeFor_next found
  exact ⟨rfl,rfl⟩

theorem reached_explicit {fresh table : ReservationTable} (reached : ReflTransGen Step fresh table) :
    table.explicit = fresh.explicit := by
  induction reached with
  | refl => rfl
  | tail _ step ih => rw [(step_keeps step).2,ih]

theorem reached_totalPartitions {reserved : TenantPartitionConfig} {defaultSize totalPartitions : Int32}
    (positive : 1 ≤ totalPartitions.toInt) {table : ReservationTable}
    (reached : ReflTransGen Step (newReservationTable reserved defaultSize totalPartitions) table) :
    table.totalPartitions = totalPartitions := by
  induction reached with
  | refl => rw [newReservationTable_eq reserved defaultSize totalPartitions positive]
  | tail _ step ih => rw [(step_keeps step).1,ih]

namespace Router

theorem current_reached {router : Router} (valid : router.Valid) (totalPartitions : Int32) :
    ReflTransGen Step (newReservationTable router.shared.reserved router.shared.defaultSize totalPartitions)
      (router.part.current router.shared totalPartitions) := by
  unfold TopicPartitioner.current
  split
  · rename_i version table built
    split
    · rename_i same
      obtain ⟨current,rfl⟩ := same
      exact (valid version table built).2 current
    · exact .refl
  · exact .refl

/-- A `Partition` call is one step of the table in use. -/
theorem step_partition (defaultSize : Int32) {router next : Router} {totalPartitions : Int32} {key : Bytes}
    {routed : List Routed} :
    router.step defaultSize (.partition key totalPartitions) = some (routed,next) ↔
      ∃ partition table, (router.part.current router.shared totalPartitions).partitionFor
          (splitPartitionKey key).1 (splitPartitionKey key).2 = some (partition,table) ∧
        routed = [⟨key,totalPartitions,partition.toInt64⟩] ∧
        next = {router with part := ⟨some (router.shared.version,table)⟩} := by
  unfold step TopicPartitioner.partition
  simp only [Int32.toInt32_toInt64,Option.bind_eq_bind,Option.bind_eq_some_iff,pure,Option.some.injEq,
    Prod.mk.injEq,Prod.exists]
  constructor
  · rintro ⟨_,_,⟨partition,table,served,rfl,rfl⟩,rfl,rfl⟩
    exact ⟨partition,table,served,rfl,rfl⟩
  · rintro ⟨partition,table,served,rfl,rfl⟩
    exact ⟨_,_,⟨partition,table,served,rfl,rfl⟩,rfl,rfl⟩

theorem step_valid (defaultSize : Int32) (action : Action) {router next : Router} {routed : List Routed}
    (counts : ∀ key totalPartitions, action = .partition key totalPartitions → 1 ≤ totalPartitions.toInt)
    (valid : router.Valid) (stepped : router.step defaultSize action = some (routed,next)) : next.Valid := by
  cases action with
  | partition key totalPartitions =>
    obtain ⟨partition,table,served,-,rfl⟩ := (step_partition defaultSize).mp stepped
    have reached := (current_reached valid totalPartitions).tail ⟨_,_,_,served⟩
    rintro version built ⟨⟩
    refine ⟨Nat.le_refl _,fun _ => ?_⟩
    rw [reached_totalPartitions (counts key totalPartitions rfl) reached]
    exact reached
  | reload loaded =>
    obtain ⟨-,rfl⟩ := Prod.mk.inj (Option.some.inj stepped)
    cases loaded with
    | error err => exact valid
    | ok reserved =>
      intro version table built
      have older := (valid version table built).1
      exact ⟨Nat.le_succ_of_le older,fun same => absurd same (Nat.ne_of_lt (Nat.lt_succ_of_le older))⟩

end Router

/-- The two runs send every record with this key to the same partition. -/
def Agree (key : Bytes) (left right : List Routed) : Prop :=
  ∀ one ∈ left, ∀ other ∈ right, one.key = key → other.key = key → one.partition = other.partition

/-- A call for a topic of this size, a load that fails, or a load of the mapping in effect. -/
def Unchanging (reserved : TenantPartitionConfig) (totalPartitions : Int32) : Action → Prop
  | .partition _ count => count = totalPartitions
  | .reload (.error _) => True
  | .reload (.ok loaded) => loaded.entries.Perm reserved.entries

structure InEffect (reserved : TenantPartitionConfig) (defaultSize : Int32) (router : Router) : Prop where
  valid : router.Valid
  mapping : router.shared.reserved.entries.Perm reserved.entries
  size : router.shared.defaultSize = defaultSize

section
variable (reserved : TenantPartitionConfig) (defaultSize totalPartitions : Int32)

/-- Where the run sends a settled key. -/
def SentToFirst (routed : List Routed) : Prop :=
  ∀ one ∈ routed,
    Settled (newReservationTable reserved defaultSize totalPartitions) (splitPartitionKey one.key).1
      (splitPartitionKey one.key).2 →
      (chosen (newReservationTable reserved defaultSize totalPartitions)
        (splitPartitionKey one.key).1 (splitPartitionKey one.key).2).map Int32.toInt64 = some one.partition

theorem start_inEffect : InEffect reserved defaultSize (.start reserved defaultSize) :=
  ⟨Router.start_valid reserved defaultSize,.refl _,rfl⟩

theorem unchanging_step (two : 2 ≤ totalPartitions.toInt) (router : Router)
    (effect : InEffect reserved defaultSize router) (action : Action)
    (same : Unchanging reserved totalPartitions action) :
    ∃ routed next, router.step defaultSize action = some (routed,next) ∧ InEffect reserved defaultSize next ∧
      SentToFirst reserved defaultSize totalPartitions routed := by
  cases action with
  | partition key count =>
    obtain rfl : count = totalPartitions := same
    have reached := Router.current_reached effect.valid count
    rw [effect.size,newReservationTable_perm effect.mapping] at reached
    obtain ⟨partition,table,served⟩ := reached_step reserved defaultSize count two _ reached
      (splitPartitionKey key).1 (splitPartitionKey key).2
    have stepped := (Router.step_partition defaultSize).mpr ⟨partition,table,served,rfl,rfl⟩
    refine ⟨_,_,stepped,⟨?_,effect.mapping,effect.size⟩,?_⟩
    · refine Router.step_valid defaultSize _ ?_ effect.valid stepped
      rintro _ _ ⟨⟩
      omega
    · intro one member settled
      obtain rfl := List.mem_singleton.mp member
      rw [← settled_constant reserved defaultSize count two _ _ settled _ reached]
      unfold chosen
      rw [served]
      rfl
  | reload loaded =>
    refine ⟨[],_,rfl,?_,nofun⟩
    have valid := Router.step_valid defaultSize (.reload loaded) nofun effect.valid rfl
    cases loaded with
    | error err => exact ⟨valid,effect.mapping,effect.size⟩
    | ok loaded => exact ⟨valid,same,rfl⟩

theorem run_cons {router next : Router} {action : Action} {rest : List Action} {routed later : List Routed}
    (stepped : router.step defaultSize action = some (routed,next)) (ran : next.run defaultSize rest = some later) :
    router.run defaultSize (action::rest) = some (routed ++ later) := by
  rw [Router.run,stepped]
  change (next.run defaultSize rest).bind _ = _
  rw [ran]
  rfl

theorem unchanging_run (two : 2 ≤ totalPartitions.toInt) (actions : List Action)
    (same : ∀ action ∈ actions, Unchanging reserved totalPartitions action) (router : Router)
    (effect : InEffect reserved defaultSize router) :
    ∃ routed, router.run defaultSize actions = some routed ∧ SentToFirst reserved defaultSize
      totalPartitions routed := by
  induction actions generalizing router with
  | nil => exact ⟨[],rfl,nofun⟩
  | cons action rest ih =>
    obtain ⟨first,next,stepped,after,sent⟩ :=
      unchanging_step reserved defaultSize totalPartitions two router effect action (same _ List.mem_cons_self)
    obtain ⟨later,ran,others⟩ := ih (fun other member => same other (List.mem_cons_of_mem _ member)) next after
    refine ⟨first ++ later,run_cons defaultSize stepped ran,?_⟩
    intro one member
    rcases List.mem_append.mp member with here | there
    · exact sent one here
    · exact others one there

/-- Two runs with the mapping in effect agree on a settled key. -/
theorem settled_agree (key : Bytes)
    (settled : Settled (newReservationTable reserved defaultSize totalPartitions)
      (splitPartitionKey key).1 (splitPartitionKey key).2) (left right : List Routed)
    (first : SentToFirst reserved defaultSize totalPartitions left)
    (second : SentToFirst reserved defaultSize totalPartitions right) : Agree key left right := by
  intro one member other also here there
  subst here
  have one' := first one member settled
  rw [← there] at settled one'
  exact Option.some.inj (one'.symm.trans (second other also settled))

/-- A key that is not settled is sent elsewhere when another tenant comes before it. -/
theorem unsettled_disagree (two : 2 ≤ totalPartitions.toInt) (key : Bytes)
    (unsettled : ¬Settled (newReservationTable reserved defaultSize totalPartitions)
      (splitPartitionKey key).1 (splitPartitionKey key).2) :
    ∃ other partition first second, first ≠ second ∧ ∀ router : Router,
      router.part.current router.shared totalPartitions = newReservationTable reserved defaultSize totalPartitions →
        (∃ table, router.step defaultSize (.partition key totalPartitions) = some ([⟨key,totalPartitions,first⟩],
          {router with part := ⟨some (router.shared.version,table)⟩})) ∧
        router.run defaultSize [.partition other totalPartitions,.partition key totalPartitions] =
          some [⟨other,totalPartitions,partition⟩,⟨key,totalPartitions,second⟩] := by
  obtain ⟨other,partition,next,plain,served,differs⟩ :=
    unsettled_varies reserved defaultSize totalPartitions two _ _ unsettled
  have tail : ReflTransGen Step (newReservationTable reserved defaultSize totalPartitions) next :=
    .single ⟨other,[],partition,served⟩
  obtain ⟨first,table,direct⟩ := reached_step reserved defaultSize totalPartitions two _ .refl
    (splitPartitionKey key).1 (splitPartitionKey key).2
  obtain ⟨second,last,later⟩ := reached_step reserved defaultSize totalPartitions two _ tail
    (splitPartitionKey key).1 (splitPartitionKey key).2
  refine ⟨partitionKey other [],partition.toInt64,first.toInt64,second.toInt64,?_,?_⟩
  · intro same
    apply differs
    unfold chosen
    have narrow := congrArg Int64.toInt32 same
    rw [Int32.toInt32_toInt64,Int32.toInt32_toInt64] at narrow
    rw [direct,later,narrow]
    rfl
  · intro router current
    have moved := (Router.step_partition defaultSize).mpr ⟨first,table,by rw [current]; exact direct,rfl,rfl⟩
    refine ⟨⟨table,moved⟩,?_⟩
    refine run_cons defaultSize ((Router.step_partition defaultSize).mpr ⟨partition,next,?_,rfl,rfl⟩)
      (run_cons defaultSize ((Router.step_partition defaultSize).mpr ⟨second,last,?_,rfl,rfl⟩) rfl)
    · rw [current,split_partitionKey other [] plain]
      exact served
    · rw [current_held _ _ _ (reached_totalPartitions (by omega) tail)]
      exact later

end

/-- The tenant is reserved and the counts before it leave it a partition. -/
def Granted (reserved : TenantPartitionConfig) (totalPartitions : Int32) (tenantID : Bytes) : Prop :=
  tenantID ∈ reserved.tenantIDs ∧ reservedBelow reserved tenantID + 1 < totalPartitions.toInt

instance (reserved : TenantPartitionConfig) (totalPartitions : Int32) (tenantID : Bytes) :
    Decidable (Granted reserved totalPartitions tenantID) :=
  inferInstanceAs (Decidable (_ ∧ _))

/-- The size of the pool. -/
def pooled (reserved : TenantPartitionConfig) (totalPartitions : Int32) : Nat :=
  totalPartitions.toInt.toNat - min (totalPartitions.toInt.toNat-1) (reservedSum reserved)

/-- The pool is no larger than one default block, and the instrument and the tenant hash to
the same place in it. -/
def OneBlock (reserved : TenantPartitionConfig) (defaultSize totalPartitions : Int32)
    (tenantID instrument : Bytes) : Prop :=
  pooled reserved totalPartitions ≤ defaultSize.toInt ∧
    (hashBytes instrument).toNat % pooled reserved totalPartitions =
      (hashBytes tenantID).toNat % pooled reserved totalPartitions

theorem exists_ofNat (value : Int32) (nonnegative : 0 ≤ value.toInt) :
    ∃ natural : Nat, natural < 2^31 ∧ value = Int32.ofNat natural := by
  have bound := value.toInt_lt
  refine ⟨value.toNatClampNeg,?_,(Int32.ofNat_toNatClampNeg _ (Int32.le_iff_toInt_le.mpr nonnegative)).symm⟩
  rw [← Int32.toNat_toInt]
  omega

theorem settled_iff (reserved : TenantPartitionConfig) (defaultSize totalPartitions : Int32)
    (fits : reservedSum reserved < 2^31) (one : 1 ≤ defaultSize.toInt) (two : 2 ≤ totalPartitions.toInt)
    (tenantID instrument : Bytes) :
    Settled (newReservationTable reserved defaultSize totalPartitions) tenantID instrument ↔
      Granted reserved totalPartitions tenantID ∨ OneBlock reserved defaultSize totalPartitions tenantID
      instrument := by
  obtain ⟨total,small,rfl⟩ := exists_ofNat totalPartitions (by omega)
  have value : (Int32.ofNat total).toInt = total := Int32.toInt_ofNat_of_lt small
  have capacity : capacityOf total = total - 1 := if_pos (by omega)
  have size : (newReservationTable reserved defaultSize (Int32.ofNat total)).defaultSize = defaultSize := by
    rw [newReservationTable_eq reserved defaultSize _ (by omega)]
    exact if_neg (by rw [Int32.lt_iff_toInt_lt,one32]; omega)
  have poolFits : pooled reserved (Int32.ofNat total) < 2^31 := by
    unfold pooled
    rw [value]
    omega
  have pool : (newReservationTable reserved defaultSize (Int32.ofNat total)).poolSize =
      Int32.ofNat (pooled reserved (Int32.ofNat total)) := by
    rw [poolSize_value reserved defaultSize total (by omega) small fits,capacity]
    unfold pooled
    rw [value,Int.toNat_natCast]
  have clamp : (Int32.ofNat (pooled reserved (Int32.ofNat total))).toNatClampNeg = pooled reserved
    (Int32.ofNat total) := by
    rw [← Int32.toNat_toInt,Int32.toInt_ofNat_of_lt poolFits,Int.toNat_natCast]
  unfold Settled Granted OneBlock
  rw [explicit_iff reserved defaultSize total (by omega) small fits,size,pool,clamp,Int32.toInt_ofNat_of_lt poolFits,
    capacity,value]
  constructor
  · rintro (⟨member,room⟩ | negative | block)
    · exact Or.inl ⟨member,by omega⟩
    · omega
    · exact Or.inr block
  · rintro (⟨member,room⟩ | block)
    · exact Or.inl ⟨member,by omega⟩
    · exact Or.inr (Or.inr block)

/-- What a replica does for the records it receives. -/
def received (totalPartitions : Int32) (keys : List Bytes) : List Action :=
  keys.map fun key => .partition key totalPartitions

/-- Two replicas with one configuration send a key to one partition, whatever each of them
has received, exactly when the key's tenant has an explicit range or the pool leaves it no
choice. -/
theorem replicas_agree_iff (reserved : TenantPartitionConfig) (defaultSize totalPartitions : Int32)
    (fits : reservedSum reserved < 2^31) (one : 1 ≤ defaultSize.toInt) (two : 2 ≤ totalPartitions.toInt) (key : Bytes) :
    (∀ first second : List Bytes, ∃ left right,
      (Router.start reserved defaultSize).run defaultSize (received totalPartitions first) = some left ∧
      (Router.start reserved defaultSize).run defaultSize (received totalPartitions second) = some right ∧
      Agree key left right) ↔
    Granted reserved totalPartitions (splitPartitionKey key).1 ∨
      OneBlock reserved defaultSize totalPartitions (splitPartitionKey key).1 (splitPartitionKey key).2 := by
  rw [← settled_iff reserved defaultSize totalPartitions fits one two]
  constructor
  · intro agree
    by_contra unsettled
    obtain ⟨other,partition,first,second,differ,runs⟩ :=
      unsettled_disagree reserved defaultSize totalPartitions two key unsettled
    obtain ⟨⟨table,alone⟩,behind⟩ := runs (.start reserved defaultSize) rfl
    obtain ⟨left,right,leftRun,rightRun,same⟩ := agree [key] [other,key]
    rw [show received totalPartitions [key] = [.partition key totalPartitions] from rfl,
      run_cons defaultSize alone rfl] at leftRun
    rw [show received totalPartitions [other,key] = [.partition other totalPartitions,
      .partition key totalPartitions] from rfl,
      behind] at rightRun
    obtain rfl := Option.some.inj leftRun
    obtain rfl := Option.some.inj rightRun
    exact differ (same _ List.mem_cons_self _ (List.mem_cons_of_mem _ List.mem_cons_self) rfl rfl)
  · intro settled first second
    have calls : ∀ keys, ∀ action ∈ received totalPartitions keys, Unchanging reserved totalPartitions action := by
      intro keys action member
      obtain ⟨key,-,rfl⟩ := List.mem_map.mp member
      rfl
    obtain ⟨left,leftRun,leftSent⟩ := unchanging_run reserved defaultSize totalPartitions two _ (calls first) _
      (start_inEffect reserved defaultSize)
    obtain ⟨right,rightRun,rightSent⟩ := unchanging_run reserved defaultSize totalPartitions two _ (calls second) _
      (start_inEffect reserved defaultSize)
    exact ⟨left,right,leftRun,rightRun,
      settled_agree reserved defaultSize totalPartitions key settled left right leftSent rightSent⟩

/-- One tenant with two partitions of its own. -/
def oneReserved : TenantPartitionConfig := ⟨[(text "acme",2)],by decide⟩

def noneReserved : TenantPartitionConfig := ⟨[],List.nodup_nil⟩

theorem replicas_agree_on_reserved :
    reservedSum oneReserved < 2^31 ∧ Granted oneReserved 4 (text "acme") ∧
      ∀ first second : List Bytes, ∃ left right,
        (Router.start oneReserved 1).run 1 (received 4 first) = some left ∧
        (Router.start oneReserved 1).run 1 (received 4 second) = some right ∧ Agree (text "acme:AAPL") left right :=
  ⟨by decide,by decide,(replicas_agree_iff oneReserved 1 4 (by decide) (by decide) (by decide) (text "acme:AAPL")).mpr
    (Or.inl (by decide))⟩

/-- Which of two unreserved tenants a replica hears of first decides their partitions. -/
theorem replicas_disagree_on_pool :
    (Router.start noneReserved 1).run 1 (received 3 [text "a:AAPL"]) = some [⟨text "a:AAPL",3,0⟩] ∧
    (Router.start noneReserved 1).run 1 (received 3 [text "b:AAPL",text "a:AAPL"]) =
      some [⟨text "b:AAPL",3,0⟩,⟨text "a:AAPL",3,1⟩] ∧
    ¬Agree (text "a:AAPL") [⟨text "a:AAPL",3,0⟩] [⟨text "b:AAPL",3,0⟩,⟨text "a:AAPL",3,1⟩] := by
  refine ⟨by decide,by decide,?_⟩
  intro agree
  have same := agree _ List.mem_cons_self _ (List.mem_cons_of_mem _ List.mem_cons_self) rfl rfl
  exact absurd same (by decide)

/-- The size of the pool as `int32` arithmetic gives it. -/
def poolSizeOf (reserved : TenantPartitionConfig) (totalPartitions : Int32) : Int32 :=
  totalPartitions - carvedEnd reserved (explicitCapacity totalPartitions)

/-- The key is sent to one partition whatever happens: its tenant has an explicit range, an
overflow has left no pool, or the pool is no larger than one default block and the
instrument and the tenant hash to the same place in it. -/
def Fixed (reserved : TenantPartitionConfig) (defaultSize totalPartitions : Int32)
    (tenantID instrument : Bytes) : Prop :=
  Carved reserved (explicitCapacity totalPartitions) tenantID ∨ (poolSizeOf reserved totalPartitions).toInt < 0 ∨
    (poolSizeOf reserved totalPartitions).toInt ≤ max 1 defaultSize.toInt ∧
      (hashBytes instrument).toNat % (poolSizeOf reserved totalPartitions).toNatClampNeg =
        (hashBytes tenantID).toNat % (poolSizeOf reserved totalPartitions).toNatClampNeg

theorem settled_fixed (reserved : TenantPartitionConfig) (defaultSize totalPartitions : Int32)
    (positive : 1 ≤ totalPartitions.toInt) (tenantID instrument : Bytes) :
    Settled (newReservationTable reserved defaultSize totalPartitions) tenantID instrument ↔
      Fixed reserved defaultSize totalPartitions tenantID instrument := by
  have pool : (newReservationTable reserved defaultSize totalPartitions).poolSize = poolSizeOf reserved
    totalPartitions := by
    rw [newReservationTable_eq reserved defaultSize totalPartitions positive]
    exact congrArg (totalPartitions - ·) (carving_cursor reserved totalPartitions positive)
  have size : (newReservationTable reserved defaultSize totalPartitions).defaultSize.toInt =
    max 1 defaultSize.toInt := by
    rw [newReservationTable_eq reserved defaultSize totalPartitions positive]
    change (if defaultSize < 1 then defaultPartitionsPerTenant else defaultSize).toInt = _
    simp only [Int32.lt_iff_toInt_lt,one32]
    split
    · rw [max_eq_left (by omega)]
      rfl
    · rw [max_eq_right (by omega)]
  have held : ((newReservationTable reserved defaultSize totalPartitions).explicit.lookup tenantID).isSome = true ↔
      Carved reserved (explicitCapacity totalPartitions) tenantID := by
    rw [Option.isSome_iff_exists]
    simp only [lookup_explicit reserved defaultSize totalPartitions positive,exists_and_left,exists_eq,and_true]
  unfold Settled Fixed
  rw [held,pool,size]

/-- While the topic keeps its size and every load fails or repeats the mapping in effect, a
key is always sent to one partition exactly when it is fixed by the mapping. -/
theorem unchanged_reload_iff (reserved : TenantPartitionConfig) (defaultSize totalPartitions : Int32)
    (two : 2 ≤ totalPartitions.toInt) (key : Bytes) :
    (∀ actions, (∀ action ∈ actions, Unchanging reserved totalPartitions action) → ∃ routed,
      (Router.start reserved defaultSize).run defaultSize actions = some routed ∧ Agree key routed routed) ↔
    Fixed reserved defaultSize totalPartitions (splitPartitionKey key).1 (splitPartitionKey key).2 := by
  rw [← settled_fixed reserved defaultSize totalPartitions (by omega)]
  constructor
  · intro agree
    by_contra unsettled
    obtain ⟨other,partition,first,second,differ,runs⟩ :=
      unsettled_disagree reserved defaultSize totalPartitions two key unsettled
    obtain ⟨⟨table,alone⟩,-⟩ := runs (.start reserved defaultSize) rfl
    -- the reload makes the pool forget the key's tenant, and the other tenant comes first
    have behind := (runs ⟨⟨1,reserved,defaultSize⟩,⟨some (0,table)⟩⟩ (current_stale _ _ _ _ Nat.zero_ne_one)).2
    obtain ⟨routed,ran,same⟩ := agree
      [.partition key totalPartitions,.reload (.ok reserved),.partition other totalPartitions,
        .partition key totalPartitions] (by
        intro action member
        simp only [List.mem_cons,List.not_mem_nil,or_false] at member
        rcases member with rfl | rfl | rfl | rfl
        · rfl
        · exact .refl _
        · rfl
        · rfl)
    rw [run_cons defaultSize alone (run_cons defaultSize rfl behind)] at ran
    obtain rfl := Option.some.inj ran
    exact differ (same _ List.mem_cons_self _ (List.mem_cons_of_mem _ (List.mem_cons_of_mem _ List.mem_cons_self))
      rfl rfl)
  · intro settled actions unchanging
    obtain ⟨routed,ran,sent⟩ := unchanging_run reserved defaultSize totalPartitions two actions unchanging _
      (start_inEffect reserved defaultSize)
    exact ⟨routed,ran,settled_agree reserved defaultSize totalPartitions key settled routed routed sent sent⟩

theorem unchanged_reload_keeps_reserved :
    Fixed oneReserved 1 4 (text "acme") (text "AAPL") ∧
      ∀ actions, (∀ action ∈ actions, Unchanging oneReserved 4 action) → ∃ routed,
        (Router.start oneReserved 1).run 1 actions = some routed ∧ Agree (text "acme:AAPL") routed routed := by
  have fixed : Fixed oneReserved 1 4 (text "acme") (text "AAPL") := Or.inl (by decide)
  exact ⟨fixed,(unchanged_reload_iff oneReserved 1 4 (by decide) (text "acme:AAPL")).mpr fixed⟩

/-- A reload of the same mapping moves the tenant that came first. -/
theorem unchanged_reload_moves_key :
    (Router.start noneReserved 1).run 1 [.partition (text "a:AAPL") 3,.reload (.ok noneReserved),
        .partition (text "b:AAPL") 3,.partition (text "a:AAPL") 3] =
      some [⟨text "a:AAPL",3,0⟩,⟨text "b:AAPL",3,0⟩,⟨text "a:AAPL",3,1⟩] ∧
    ¬Agree (text "a:AAPL") [⟨text "a:AAPL",3,0⟩,⟨text "b:AAPL",3,0⟩,⟨text "a:AAPL",3,1⟩]
      [⟨text "a:AAPL",3,0⟩,⟨text "b:AAPL",3,0⟩,⟨text "a:AAPL",3,1⟩] := by
  refine ⟨by decide,?_⟩
  intro agree
  have same := agree _ List.mem_cons_self _ (List.mem_cons_of_mem _ (List.mem_cons_of_mem _ List.mem_cons_self)) rfl rfl
  exact absurd same (by decide)

end ControlPlane.Ingestion.Kafka
