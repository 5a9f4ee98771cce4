import ControlPlane.Operator.PartitionMap

/-! The dedicated resources of an isolated tenant (`operator/internal/controller/dedicated_pool.go`):
a ConfigMap, an ingestion and a processor Deployment and a Service, written in this order and
deleted in another. Of `ctrl.SetControllerReference` it is used that a reference which it has set
can be set again. -/
namespace ControlPlane.Operator
open Go Effect Effect.Fallible

/-- The reference to an owner with this name and UID, given the object's present controller. -/
structure Scheme where
  setControllerReference : (owner : NamespacedName) → (uid : String) → Option OwnerReference →
    Except Error (Option OwnerReference)
  again : ∀ owner uid controller next, setControllerReference owner uid controller = .ok next →
    setControllerReference owner uid next = .ok next

structure TradingTenantReconciler where
  scheme : Scheme
  tenantLabelName : String
  requeueInterval : Int64
  ingestionImage : String
  processorImage : String
  ingestionEnvFrom : List EnvFromSource
  processorEnvFrom : List EnvFromSource
  dedicatedNodeSelector : StringMap
  dedicatedTolerations : List Toleration

def componentIngestion : String := "ingestion"

def componentProcessor : String := "processor"

def labelTenant : String := "controlplane.anwinsenp.dev/tenant"

def labelDedicated : String := "controlplane.anwinsenp.dev/dedicated"

def labelComponent : String := "controlplane.anwinsenp.dev/component"

def ingestionHTTPPort : Int32 := 8080

def ingestionGRPCPort : Int32 := 9090

def tenantPartitionMapVolumeName : String := "tenant-partition-map"

def tenantPartitionMapMountDir : String := "/etc/tenant-partition-map"

def tenantPartitionMapMountPath : String := tenantPartitionMapMountDir ++ "/" ++ tenantPartitionMapDataKey

def tenantPartitionMapVolume : Volume := ⟨tenantPartitionMapVolumeName,tenantPartitionMapName,true⟩

def tenantPartitionMapVolumeMount : VolumeMount := ⟨tenantPartitionMapVolumeName,tenantPartitionMapMountDir,true⟩

def poolLabels (id component : String) : StringMap :=
  let labels : StringMap := (Finmap.insert labelTenant id ∅).insert labelDedicated "true"
  if component ≠ "" then labels.insert labelComponent component else labels

section names
variable (tenant : TradingTenant)

def dedicatedName (suffix : String) : NamespacedName := ⟨tenant.key.ns,tenant.key.name ++ suffix⟩

def dedicatedIngestionName : NamespacedName := dedicatedName tenant "-dedicated-ingestion"

def dedicatedProcessorName : NamespacedName := dedicatedName tenant "-dedicated-processor"

def dedicatedServiceName : NamespacedName := dedicatedName tenant "-dedicated"

def dedicatedConfigMapName : NamespacedName := dedicatedName tenant "-dedicated-partitions"

def dedicatedLabels (component : String) : StringMap := poolLabels tenant.spec.tenantID component

end names

def partitionListString (start count : Int32) : String :=
  ",".intercalate ((List.range count.toNatClampNeg).map fun index => toString (start + Int32.ofNat index).toInt)

section mutations
variable (tenant : TradingTenant) (rec : TradingTenantReconciler)

def ownedBy (controller : Option OwnerReference) : Except Error (Option OwnerReference) :=
  (rec.scheme.setControllerReference tenant.key tenant.uid controller).mapError
    (.wrap "set controller reference: %w" [])

def dedicatedConfigMap (partitionStart partitionCount : Int32) (configMap : ConfigMap) : Except Error ConfigMap := do
  let controller ← ownedBy tenant rec configMap.controller
  return {
    controller
    labels := dedicatedLabels tenant ""
    data := (Finmap.insert "TENANT_ID" tenant.spec.tenantID ∅).insert "KAFKA_MANUAL_PARTITIONS"
      (partitionListString partitionStart partitionCount) }

def dedicatedService (service : Service) : Except Error Service := do
  let controller ← ownedBy tenant rec service.controller
  return {
    controller
    labels := dedicatedLabels tenant ""
    selector := dedicatedLabels tenant componentIngestion
    ports := [⟨"http",ingestionHTTPPort,ingestionHTTPPort⟩,⟨"grpc",ingestionGRPCPort,ingestionGRPCPort⟩] }

variable (replicas : Int32)

-- The selector is immutable, so one that is set stays.
def dedicatedDeployment (component : String) (container : Container) (deployment : Deployment) :
    Except Error Deployment := do
  let controller ← ownedBy tenant rec deployment.controller
  let labels := dedicatedLabels tenant component
  return {
    controller, labels
    selector := some (deployment.selector.getD labels)
    replicas := some replicas
    template := {
      labels
      nodeSelector := rec.dedicatedNodeSelector
      tolerations := rec.dedicatedTolerations
      volumes := [tenantPartitionMapVolume]
      containers := [container] } }

def mapPathEnv : List EnvVar := [⟨"TENANT_PARTITION_MAP_PATH",tenantPartitionMapMountPath⟩]

def dedicatedIngestionDeployment : Deployment → Except Error Deployment :=
  dedicatedDeployment tenant rec replicas componentIngestion {
    name := "ingestion"
    image := rec.ingestionImage
    envFrom := rec.ingestionEnvFrom
    env := mapPathEnv
    volumeMounts := [tenantPartitionMapVolumeMount]
    ports := [⟨"http",ingestionHTTPPort⟩,⟨"grpc",ingestionGRPCPort⟩] }

def dedicatedProcessorDeployment : Deployment → Except Error Deployment :=
  dedicatedDeployment tenant rec replicas componentProcessor {
    name := "processor"
    image := rec.processorImage
    envFrom := rec.processorEnvFrom ++ [.configMapRef (dedicatedConfigMapName tenant).name]
    env := mapPathEnv
    volumeMounts := [tenantPartitionMapVolumeMount]
    ports := [] }

end mutations

section
variable (rec : TradingTenantReconciler) (tenant : TradingTenant) (partitionStart partitionCount replicas : Int32)

def ensureDedicatedConfigMap : Reconciling OperationResult :=
  api (.createOrUpdate .configMap (dedicatedConfigMapName tenant)
    (dedicatedConfigMap tenant rec partitionStart partitionCount))

def ensureDedicatedIngestionDeployment : Reconciling OperationResult :=
  api (.createOrUpdate .deployment (dedicatedIngestionName tenant) (dedicatedIngestionDeployment tenant rec replicas))

def ensureDedicatedProcessorDeployment : Reconciling OperationResult :=
  api (.createOrUpdate .deployment (dedicatedProcessorName tenant) (dedicatedProcessorDeployment tenant rec replicas))

def ensureDedicatedService : Reconciling OperationResult :=
  api (.createOrUpdate .service (dedicatedServiceName tenant) (dedicatedService tenant rec))

/-- Whether any resource was newly created. -/
def ensureDedicatedPool : Reconciling Bool := do
  let configMapResult ← context (.wrap "dedicated configmap: %w" [])
    (ensureDedicatedConfigMap rec tenant partitionStart partitionCount)
  let ingestionResult ← context (.wrap "dedicated ingestion deployment: %w" [])
    (ensureDedicatedIngestionDeployment rec tenant replicas)
  let processorResult ← context (.wrap "dedicated processor deployment: %w" [])
    (ensureDedicatedProcessorDeployment rec tenant replicas)
  let serviceResult ← context (.wrap "dedicated service: %w" []) (ensureDedicatedService rec tenant)
  return configMapResult = .created || ingestionResult = .created || processorResult = .created ||
    serviceResult = .created

end

/-- A resource that is already gone is skipped. -/
def deleteIfPresent (kind : Kind) (key : NamespacedName) : Reconciling Bool :=
  tryCatch ((fun _ => true) <$> api (.delete kind key)) fun err =>
    if err.is apiNotFound then return false
    else throw (.wrap "delete %T %s/%s: %w"
      [.bytes (text kind.typeName),.bytes (text key.ns),.bytes (text key.name)] err)

def tearDownDedicatedPool (tenant : TradingTenant) : Reconciling Bool := do
  let ingestion ← deleteIfPresent .deployment (dedicatedIngestionName tenant)
  let processor ← deleteIfPresent .deployment (dedicatedProcessorName tenant)
  let service ← deleteIfPresent .service (dedicatedServiceName tenant)
  let configMap ← deleteIfPresent .configMap (dedicatedConfigMapName tenant)
  return ingestion || processor || service || configMap

end ControlPlane.Operator
