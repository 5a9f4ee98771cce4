import ControlPlane.Operator.Cluster

/-! The shared tenant-partition map (`operator/internal/controller/tenant_partition_map.go`).
Of `encoding/json` it is used that the text of a mapping is not empty and reads back as that
mapping: the keys are valid UTF-8 and the values two 32-bit integers. -/
namespace ControlPlane.Operator
open Go Effect Effect.Fallible

structure TenantPartitionEntry where
  start : Int32
  count : Int32
  deriving DecidableEq, Repr

abbrev Mapping := Finmap fun _ : String => TenantPartitionEntry

structure MappingJson where
  marshal : Mapping → String
  unmarshal : Bytes → Except Error Mapping
  nonempty : ∀ mapping, marshal mapping ≠ ""
  readBack : ∀ mapping, unmarshal (text (marshal mapping)) = .ok mapping

def tenantPartitionMapName : String := "tenant-partition-map"

def tenantPartitionMapDataKey : String := "mapping.json"

variable (json : MappingJson)

def decodeTenantPartitionMap (raw : String) : Except Error Mapping :=
  if raw = "" then .ok ∅ else json.unmarshal (text raw)

-- A missing key of a Go map reads as the empty string.
def rawMapping (configMap : ConfigMap) : String := (configMap.data.lookup tenantPartitionMapDataKey).getD ""

def withMapping (configMap : ConfigMap) (raw : String) : ConfigMap :=
  {configMap with data := configMap.data.insert tenantPartitionMapDataKey raw}

theorem rawMapping_withMapping (configMap : ConfigMap) (raw : String) :
    rawMapping (withMapping configMap raw) = raw := by
  simp [rawMapping,withMapping]

theorem decode_marshal (mapping : Mapping) : decodeTenantPartitionMap json (json.marshal mapping) = .ok mapping := by
  unfold decodeTenantPartitionMap
  rw [if_neg (json.nonempty mapping),json.readBack]

theorem MappingJson.marshal_injective {mapping other : Mapping} (same : json.marshal mapping = json.marshal other) :
    mapping = other := by
  have read := json.readBack mapping
  rw [same,json.readBack] at read
  exact (Except.ok.inj read).symm

def sharedKey (ns : String) : NamespacedName := ⟨ns,tenantPartitionMapName⟩

-- What is written once the map has been read and changed; `none` when there is nothing to write.
def pendingWrite (found : Option (Stored ConfigMap)) (mapping : Mapping) : Option ConfigMap :=
  match found with
  | none => if mapping = ∅ then none else some (withMapping Kind.configMap.blank (json.marshal mapping))
  | some stored =>
    if rawMapping stored.object = json.marshal mapping then none
    else some (withMapping stored.object (json.marshal mapping))

-- A missing object is not a failure.
def getSharedMap (ns : String) : Reconciling (Option (Stored ConfigMap)) :=
  tryCatch (some <$> api (.get .configMap (sharedKey ns))) fun err =>
    if err.is apiNotFound then return none else throw (.wrap "get tenant partition map: %w" [] err)

-- Neither is a lost race to create it: `false`.
def createSharedMap (ns : String) (configMap : ConfigMap) : Reconciling Bool :=
  tryCatch ((fun _ => true) <$> api (.create .configMap (sharedKey ns) configMap)) fun err =>
    if err.is apiAlreadyExists then return false else throw (.wrap "create tenant partition map: %w" [] err)

def updateSharedMap (ns : String) (stored : Stored ConfigMap) : Reconciling Unit :=
  context (.wrap "update tenant partition map: %w" []) (api (.update .configMap (sharedKey ns) stored))

def deadlineExceeded : Error := .new "context deadline exceeded"

def writeBack (ns : String) (found : Option (Stored ConfigMap)) (mapping : Mapping) (retry : Reconciling Unit) :
    Reconciling Unit :=
  match pendingWrite json found mapping,found with
  | none,_ => return
  | some configMap,some stored => updateSharedMap ns ⟨configMap,stored.resourceVersion⟩
  | some configMap,none => do
    if ← createSharedMap ns configMap then return
    else retry

-- `rounds` is how many times the context's deadline lets the function start over.
def mutateTenantPartitionMap (ns : String) (mutate : Mapping → Mapping) : Nat → Reconciling Unit
  | 0 => throw (.wrap "get tenant partition map: %w" [] deadlineExceeded)
  | rounds+1 => do
    let found ← getSharedMap ns
    let raw := (found.map fun stored => rawMapping stored.object).getD ""
    let mapping ← context (.wrap "decode tenant partition map: %w" []) (pureResult (decodeTenantPartitionMap json raw))
    writeBack json ns found (mutate mapping) (mutateTenantPartitionMap ns mutate rounds)

section
variable (ns : String) (tenantID : String)

def ensureTenantPartitionMapEntry (rounds : Nat) (start count : Int32) : Reconciling Unit :=
  mutateTenantPartitionMap json ns (fun mapping => mapping.insert tenantID ⟨start,count⟩) rounds

def removeTenantPartitionMapEntry (rounds : Nat) : Reconciling Unit :=
  mutateTenantPartitionMap json ns (fun mapping => mapping.erase tenantID) rounds

end

end ControlPlane.Operator
