import ControlPlane.Go.Values
import Mathlib.Data.List.Sort

/-! The tenant partitioner of the ingestion service (`internal/ingestion/kafka/partitioner.go`
and `reload.go`). A Go map is a list of entries with distinct keys; the shared pointer to
the reservation state carries a version, which two pointers share only when they are the
same pointer. `none` is the run-time panic of a division by zero. The gauges and counters
are left out: a range is reported exactly when it enters `explicit` or `pool`. -/
namespace ControlPlane.Ingestion.Kafka
open Go

def defaultPartitionsPerTenant : Int32 := 1

structure TenantPartitionConfig where
  entries : List (Bytes × Int32)
  distinct : (entries.map (·.1)).Nodup

def TenantPartitionConfig.get (reserved : TenantPartitionConfig) (tenantID : Bytes) : Int32 :=
  (reserved.entries.lookup tenantID).getD 0

def TenantPartitionConfig.tenantIDs (reserved : TenantPartitionConfig) : List Bytes := reserved.entries.map (·.1)

/-- `sort.Strings`: bytewise lexicographic order. -/
def sortStrings (strings : List Bytes) : List Bytes := strings.insertionSort (· ≤ ·)

structure PartitionRange where
  start : Int32
  size : Int32
  deriving DecidableEq, Repr

structure ReservationTable where
  totalPartitions : Int32
  defaultSize : Int32
  explicit : List (Bytes × PartitionRange)
  poolStart : Int32
  poolSize : Int32
  poolNext : Int32
  pool : List (Bytes × PartitionRange)
  droppedTenants : List Bytes

structure Carving where
  explicit : List (Bytes × PartitionRange)
  droppedTenants : List Bytes
  cursor : Int32

def grantedSize (reserved : TenantPartitionConfig) (explicitCapacity cursor : Int32) (tenantID : Bytes) : Int32 :=
  let size := if reserved.get tenantID < 1 then 1 else reserved.get tenantID
  if cursor + size > explicitCapacity then explicitCapacity - cursor else size

/-- The loop of `newReservationTable` over the sorted tenants. -/
def carve (reserved : TenantPartitionConfig) (explicitCapacity : Int32) : Int32 → List Bytes → Carving
  | cursor,[] => ⟨[],[],cursor⟩
  | cursor,tenantID::rest =>
    if cursor ≥ explicitCapacity then ⟨[],tenantID::rest,cursor⟩
    else
      let size := grantedSize reserved explicitCapacity cursor tenantID
      let later := carve reserved explicitCapacity (cursor + size) rest
      {later with explicit := (tenantID,⟨cursor,size⟩)::later.explicit}

def explicitCapacity (totalPartitions : Int32) : Int32 :=
  if totalPartitions > 1 then totalPartitions - 1 else totalPartitions

def newReservationTable (reserved : TenantPartitionConfig) (defaultSize totalPartitions : Int32) : ReservationTable :=
  let defaultSize := if defaultSize < 1 then defaultPartitionsPerTenant else defaultSize
  let totalPartitions := if totalPartitions < 1 then 1 else totalPartitions
  let carving := carve reserved (explicitCapacity totalPartitions) 0 (sortStrings reserved.tenantIDs)
  { totalPartitions, defaultSize
    explicit := carving.explicit
    poolStart := carving.cursor
    poolSize := totalPartitions - carving.cursor
    poolNext := carving.cursor
    pool := []
    droppedTenants := carving.droppedTenants }

/-- FNV-1a. -/
def hashBytes (data : Bytes) : UInt32 :=
  data.foldl (fun hash singleByte => (hash ^^^ singleByte.toUInt32) * 16777619) 2166136261

/-- `int32(hash % uint32(size))`. -/
def modulo (hash : UInt32) (size : Int32) : Option Int32 :=
  if size.toUInt32 = 0 then none else some (hash % size.toUInt32).toInt32

namespace ReservationTable

def remaining (table : ReservationTable) : Int32 := table.poolStart + table.poolSize - table.poolNext

def poolRangeFor (table : ReservationTable) (tenantID : Bytes) : Option (PartitionRange × ReservationTable) :=
  match table.pool.lookup tenantID with
  | some rng => some (rng,table)
  | none =>
    let size := if table.defaultSize > table.remaining then table.remaining else table.defaultSize
    if size ≤ 0 then do
      let offset ← modulo (hashBytes tenantID) table.poolSize
      return (⟨table.poolStart + offset,1⟩,table)
    else
      let rng := ⟨table.poolNext,size⟩
      some (rng,{table with poolNext := table.poolNext + size,pool := (tenantID,rng)::table.pool})

def rangeFor (table : ReservationTable) (tenantID : Bytes) : Option (PartitionRange × ReservationTable) :=
  match table.explicit.lookup tenantID with
  | some rng => some (rng,table)
  | none => table.poolRangeFor tenantID

def partitionFor (table : ReservationTable) (tenantID instrument : Bytes) : Option (Int32 × ReservationTable) := do
  let (rng,table) ← table.rangeFor tenantID
  let offset ← modulo (hashBytes instrument) rng.size
  return (rng.start + offset,table)

end ReservationTable

def colon : UInt8 := 58

def partitionKey (tenantID instrument : Bytes) : Bytes := tenantID ++ [colon] ++ instrument

def splitPartitionKey (key : Bytes) : Bytes × Bytes :=
  (key.takeWhile (· ≠ colon),(key.dropWhile (· ≠ colon)).drop 1)

/-- `tenantPartitionerState`, with the identity of the pointer it is reached by. -/
structure PartitionerState where
  version : Nat
  reserved : TenantPartitionConfig
  defaultSize : Int32

def newTenantPartitioner (reserved : TenantPartitionConfig) (defaultSize : Int32) : PartitionerState :=
  ⟨0,reserved,defaultSize⟩

def PartitionerState.updateReservations (state : PartitionerState) (reserved : TenantPartitionConfig)
    (defaultSize : Int32) : PartitionerState :=
  ⟨state.version + 1,reserved,defaultSize⟩

/-- The table a topic partitioner holds and the version it was built from. -/
structure TopicPartitioner where
  built : Option (Nat × ReservationTable)

namespace TopicPartitioner

def current (part : TopicPartitioner) (shared : PartitionerState) (totalPartitions : Int32) : ReservationTable :=
  match part.built with
  | some (version,table) =>
    if version = shared.version ∧ table.totalPartitions = totalPartitions then table
    else newReservationTable shared.reserved shared.defaultSize totalPartitions
  | none => newReservationTable shared.reserved shared.defaultSize totalPartitions

def partition (part : TopicPartitioner) (shared : PartitionerState) (key : Bytes) (totalPartitions : Int64) :
    Option (Int64 × TopicPartitioner) := do
  let (tenantID,instrument) := splitPartitionKey key
  let (chosen,table) ← (part.current shared totalPartitions.toInt32).partitionFor tenantID instrument
  return (chosen.toInt64,⟨some (shared.version,table)⟩)

end TopicPartitioner

structure TenantPartitionMapEntry where
  start : Int32
  count : Int32

/-- A decoded mapping file: the JSON object's keys are distinct. -/
structure TenantPartitionMap where
  entries : List (Bytes × TenantPartitionMapEntry)
  distinct : (entries.map (·.1)).Nodup

def TenantPartitionMap.counts (mapping : TenantPartitionMap) : TenantPartitionConfig where
  entries := mapping.entries.map fun entry => (entry.1,entry.2.count)
  distinct := by
    rw [List.map_map]
    exact mapping.distinct

/-- `FileTenantPartitionSource.Load`, given what the file read and `json.Unmarshal` answer. -/
def load (path : Bytes) (readFile : Except Error Bytes) (unmarshal : Bytes → Except Error TenantPartitionMap) :
    Except Error TenantPartitionConfig := do
  let raw ← readFile.mapError (.wrap "read tenant partition map %q: %w" [.bytes path])
  let mapping ← (unmarshal raw).mapError (.wrap "parse tenant partition map %q: %w" [.bytes path])
  match mapping.entries.find? (fun entry => entry.2.count < 1) with
  | some (tenantID,entry) => .error (.errorf "parse tenant partition map %q: tenant %q count %d must be >= 1"
      [.bytes path,.bytes tenantID,.int entry.count.toInt])
  | none => .ok mapping.counts

/-- `TenantPartitionReloader.reloadOnce`, given what `Source.Load` answers. -/
def reloadOnce (shared : PartitionerState) (defaultSize : Int32) (loaded : Except Error TenantPartitionConfig) :
    PartitionerState :=
  match loaded with
  | .error _ => shared
  | .ok reserved => shared.updateReservations reserved defaultSize

end ControlPlane.Ingestion.Kafka
