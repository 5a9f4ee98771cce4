import ControlPlane.Go.Strings
import ControlPlane.Ingestion.Kafka.Partitioner

/-! The configuration of the Kafka publisher (`internal/ingestion/kafka/publisher.go`) as far
as `validate` and the partitioner read it. Which entry of a map is reported first is up to the
order of the entries, as it is up to the runtime in the source. -/
namespace ControlPlane.Ingestion.Kafka
open Go

def errInvalidConfig : Error := .new "invalid kafka producer config"

structure Config where
  brokers : List Bytes
  topic : Bytes
  requestTimeout : Int64
  linger : Int64
  tenantPartitions : TenantPartitionConfig
  defaultPartitionsPerTenant : Int32

/-- `LocalConfig`; durations are in nanoseconds. -/
def localConfig : Config where
  brokers := [text "localhost:9092"]
  topic := text "transaction-events"
  requestTimeout := 10000000000
  linger := 5000000
  tenantPartitions := ⟨[],.nil⟩
  defaultPartitionsPerTenant := 0

namespace Config

def invalidEntry (entry : Bytes × Int32) : Option Error :=
  if trimSpace entry.1 = [] then some (.wrap "%w: TenantPartitions key must not be blank" [] errInvalidConfig)
  else if entry.2 < 1 then
    some (.wrap "%w: TenantPartitions[%q] = %d must be >= 1" [.bytes entry.1,.int entry.2.toInt] errInvalidConfig)
  else none

def validate (cfg : Config) : Except Error Unit :=
  if cfg.brokers.length = 0 then .error (.wrap "%w: at least one broker is required" [] errInvalidConfig)
  else if cfg.brokers.any (trimSpace · = []) then
    .error (.wrap "%w: broker address must not be blank" [] errInvalidConfig)
  else if trimSpace cfg.topic = [] then .error (.wrap "%w: topic must not be blank" [] errInvalidConfig)
  else if cfg.requestTimeout ≤ 0 then
    .error (.wrap "%w: RequestTimeout %s must be a positive duration" [.int cfg.requestTimeout.toInt] errInvalidConfig)
  else if cfg.linger < 0 then .error (.wrap "%w: Linger %s must not be negative" [.int cfg.linger.toInt]
    errInvalidConfig)
  else if cfg.defaultPartitionsPerTenant < 0 then
    .error (.wrap "%w: DefaultPartitionsPerTenant %d must not be negative" [.int cfg.defaultPartitionsPerTenant.toInt]
      errInvalidConfig)
  else match cfg.tenantPartitions.entries.findSome? invalidEntry with
    | some err => .error err
    | none => .ok ()

/-- The default size that `NewPublisher` hands to the partitioner and the reloader. -/
def defaultPartitions (cfg : Config) : Int32 :=
  if cfg.defaultPartitionsPerTenant = 0 then Kafka.defaultPartitionsPerTenant else cfg.defaultPartitionsPerTenant

end Config

/-- What `Load` and `validate` make sure of. -/
def Accepted (reserved : TenantPartitionConfig) : Prop := ∀ entry ∈ reserved.entries, 1 ≤ entry.2.toInt

theorem validate_accepted (cfg : Config) (valid : cfg.validate = .ok ()) :
    Accepted cfg.tenantPartitions ∧ 1 ≤ cfg.defaultPartitions.toInt := by
  simp only [Config.validate] at valid
  split_ifs at valid with _ _ _ _ _ negative
  split at valid
  · contradiction
  · rename_i clean
    rw [List.findSome?_eq_none_iff] at clean
    constructor
    · intro entry member
      have passed := clean entry member
      simp only [Config.invalidEntry] at passed
      split_ifs at passed with _ small
      rw [Int32.lt_iff_toInt_lt,one32] at small
      omega
    · rw [Int32.lt_iff_toInt_lt,Int32.toInt_zero] at negative
      unfold Config.defaultPartitions
      split
      · decide
      · rename_i nonzero
        have : cfg.defaultPartitionsPerTenant.toInt ≠ 0 := fun zero => nonzero (Int32.toInt_inj.mp zero)
        omega

theorem load_accepted (path : Bytes) (readFile : Except Error Bytes)
    (unmarshal : Bytes → Except Error TenantPartitionMap) (reserved : TenantPartitionConfig)
    (loaded : load path readFile unmarshal = .ok reserved) : Accepted reserved := by
  obtain ⟨raw,_,loaded⟩ := bind_success _ _ _ loaded
  obtain ⟨mapping,_,loaded⟩ := bind_success _ _ _ loaded
  split at loaded
  · contradiction
  · rename_i clean
    obtain rfl := Except.ok.inj loaded
    intro entry member
    obtain ⟨source,listed,rfl⟩ := List.mem_map.mp member
    have large := List.find?_eq_none.mp clean source listed
    simp only [decide_eq_true_eq,Int32.lt_iff_toInt_lt,one32] at large
    change 1 ≤ source.2.count.toInt
    omega

end ControlPlane.Ingestion.Kafka
